import Mathlib.Tactic.Common
import TokenLaunch.Compiler
import TokenLaunch.Proofs.Json.Printing
import TokenLaunch.Proofs.Utf8

/-!
# Answers of a compiler service

What comes of every response that a compiler service may give.  An artifact is handed on if its
creation code has a byte, and also if one single character of ASCII is all that it has: that is half
a byte, of which the size counts nothing.
-/

namespace TokenLaunch

namespace Artifact

variable {a : Artifact}

/-- Behind the marks stands one character of one byte. -/
def IsHalfByte (a : Artifact) : Prop := ∃ c, Text.IsAscii c ∧ Hex.dropMarks a.bytecode.toList = [c]

theorem utf8ByteSize_ofList_cons (c : Char) (cs : List Char) :
    (String.ofList (c :: cs)).utf8ByteSize = c.utf8Size + (String.ofList cs).utf8ByteSize := by
  rw [String.ofList_cons, String.utf8ByteSize_append, String.utf8ByteSize_singleton]

/-- No byte is counted where nothing stands behind the marks, or half a byte. -/
theorem size_eq_zero_iff : a.size = 0 ↔ a.isEmpty = true ∨ a.IsHalfByte := by
  unfold size isEmpty IsHalfByte
  cases Hex.dropMarks a.bytecode.toList with
  | nil => exact iff_of_true rfl (.inl rfl)
  | cons c cs =>
    have hone := c.utf8Size_pos
    rw [utf8ByteSize_ofList_cons]
    cases cs with
    | nil =>
      have hempty : (String.ofList []).utf8ByteSize = 0 := rfl
      have hhalf : (c.utf8Size + 0) / 2 = 0 ↔ c.utf8Size = 1 := by omega
      rw [hempty, hhalf, Text.utf8Size_eq_one_iff]
      simp
    | cons d ds =>
      have hmore := d.utf8Size_pos
      rw [utf8ByteSize_ofList_cons]
      refine iff_of_false (by omega) ?_
      simp

end Artifact

namespace CompilerService

variable {σ : Type}

/-- What a service that was asked to compile gives for a response: an error with its status and its
whole body, an error for a body that is no artifact or for one without code, or the artifact. -/
inductive Compiles (r : Http.Response) : Except CompilationError Artifact → Prop
  | refused (hstatus : ¬ (200 ≤ r.status ∧ r.status < 300)) :
      Compiles r (.error (.refused r.status r.body))
  | undecodable {fault : Json.Fault} (hstatus : 200 ≤ r.status ∧ r.status < 300)
      (hbody : Artifact.ofText r.body = .error fault) :
      Compiles r (.error (.malformed fault.message))
  | codeless {a : Artifact} (hstatus : 200 ≤ r.status ∧ r.status < 300)
      (hbody : Artifact.ofText r.body = .ok a) (hsize : a.size = 0) (hhalf : ¬ a.IsHalfByte) :
      Compiles r (.error (.malformed "compiler returned empty bytecode"))
  | handedOn {a : Artifact} (hstatus : 200 ≤ r.status ∧ r.status < 300)
      (hbody : Artifact.ofText r.body = .ok a) (hcode : 1 ≤ a.size ∨ a.IsHalfByte) :
      Compiles r (.ok a)

theorem compiles_checkCode (r : Http.Response) :
    Compiles r (checkCode (read Artifact.decoder (.ok r))) := by
  by_cases hstatus : 200 ≤ r.status ∧ r.status < 300
  · have hread : read Artifact.decoder (.ok r) =
        (Artifact.ofText r.body).mapError fun fault => .malformed fault.message :=
      if_pos (Http.isSuccess_iff.mpr hstatus)
    rw [hread]
    cases hbody : Artifact.ofText r.body with
    | error fault => exact .undecodable hstatus hbody
    | ok a =>
      have hcheck : checkCode ((Except.ok a).mapError fun fault : Json.Fault =>
          .malformed fault.message) =
            if a.isEmpty then .error (.malformed "compiler returned empty bytecode") else .ok a :=
        rfl
      rw [hcheck]
      split
      · rename_i hempty
        refine .codeless hstatus hbody (Artifact.size_eq_zero_iff.mpr (.inl hempty)) ?_
        rintro ⟨c, -, hcode⟩
        simp [Artifact.isEmpty, hcode] at hempty
      · rename_i hcode
        refine .handedOn hstatus hbody ?_
        by_cases hsize : a.size = 0
        · exact .inr ((Artifact.size_eq_zero_iff.mp hsize).resolve_left hcode)
        · exact .inl (Nat.pos_of_ne_zero hsize)
  · have hread : read Artifact.decoder (.ok r) = .error (.refused r.status r.body) :=
      if_neg (mt Http.isSuccess_iff.mp hstatus)
    rw [hread]
    exact .refused hstatus

/-- An artifact that is handed on has a byte of code, unless it has half a byte. -/
theorem Compiles.size_eq_zero_iff {r : Http.Response} {a : Artifact} (h : Compiles r (.ok a)) :
    a.size = 0 ↔ a.IsHalfByte := by
  cases h with
  | handedOn _ _ hcode =>
    constructor
    · intro hsize
      refine hcode.resolve_left ?_
      rw [hsize]
      exact Nat.not_succ_le_zero 0
    · exact fun hhalf => Artifact.size_eq_zero_iff.mpr (.inr hhalf)

/-- What a service gives for the response to its request, whatever its status and its body are.
Half a byte is all the code that an artifact may have that counts none. -/
theorem compiles_of_send {s : CompilerService} {net : Http.Network σ} {source : String} {w w' : σ}
    {r : Http.Response} (h : net.send (request s.compileUrl source) w = (.ok r, w')) :
    ∃ answer, (s.onNetwork net).compile source w = (answer, w') ∧ Compiles r answer ∧
      ∀ a, answer = .ok a → (a.size = 0 ↔ a.IsHalfByte) := by
  have hcompile : (s.onNetwork net).compile source w =
      (checkCode (read Artifact.decoder (net.send (request s.compileUrl source) w).1),
        (net.send (request s.compileUrl source) w).2) := rfl
  have hcompiles := compiles_checkCode r
  rw [hcompile, h]
  refine ⟨_, rfl, hcompiles, fun a ha => ?_⟩
  rw [ha] at hcompiles
  exact hcompiles.size_eq_zero_iff

/-! ## A service that answers the same to everything -/

/-- A service on this machine. -/
def localService : CompilerService := ofUrl "http://[::1]/"

/-- An artifact without an interface. -/
def bare (bytecode : String) : Json := .obj [("abi", .arr []), ("bytecode", .str bytecode)]

/-- The network of a service that makes the same code of every source. -/
def sameCode (bytecode : String) : Http.Network Unit := fun _ =>
  return .answered 200 ((bare bytecode).chars.map fun c => UInt8.ofNat c.toNat)

theorem ofText_bare (bytecode : String) :
    Artifact.ofText (bare bytecode).compact = .ok ⟨⟨none, 0⟩, bytecode⟩ := by
  have hexact : (bare bytecode).Exact := .obj (by simp [Json.Exact.str, Json.Exact.arr])
  rw [Artifact.ofText, Json.Decoder.run, hexact.written_compact.ofText]
  rfl

theorem send_sameCode (bytecode : String)
    (hascii : ((bare bytecode).chars.all fun c => decide (Text.IsAscii c)) = true) :
    (sameCode bytecode).send (request localService.compileUrl "contract T \x7b\x7d") () =
      (.ok ⟨200, (bare bytecode).compact⟩, ()) := by
  have hrequest : (request localService.compileUrl "contract T \x7b\x7d").isOk = true := by
    decide +kernel
  cases hq : request localService.compileUrl "contract T \x7b\x7d" with
  | error fault =>
    rw [hq] at hrequest
    cases hrequest
  | ok q =>
    have hsend : (sameCode bytecode).send (.ok q) () =
        (.ok ⟨200, String.ofList (Utf8.decodeFrom none
          ((bare bytecode).chars.map fun c => UInt8.ofNat c.toNat))⟩, ()) := rfl
    rw [hsend, Text.decodeFrom_map fun c hc => of_decide_eq_true (List.all_eq_true.mp hascii c hc)]
    rfl

/-- A service whose code has two marks before it. -/
theorem compiles_twiceMarked : ∃ r answer,
    (sameCode "0x0x6080").send (request localService.compileUrl "contract T \x7b\x7d") () =
        (.ok r, ()) ∧
      (localService.onNetwork (sameCode "0x0x6080")).compile "contract T \x7b\x7d" () =
        (answer, ()) ∧
      Compiles r answer ∧ ∀ a, answer = .ok a → (a.size = 0 ↔ a.IsHalfByte) := by
  have hsend := send_sameCode "0x0x6080" (by decide)
  obtain ⟨answer, hcompile, hrest⟩ := compiles_of_send hsend
  exact ⟨_, answer, hsend, hcompile, hrest⟩

/-- Half a byte of code is handed on as if it were code. -/
theorem handedOn_halfByte : ∃ a : Artifact, a.size = 0 ∧
    (localService.onNetwork (sameCode "0x0")).compile "contract T \x7b\x7d" () = (.ok a, ()) := by
  have hsend := send_sameCode "0x0" (by decide)
  have hcompile : (localService.onNetwork (sameCode "0x0")).compile "contract T \x7b\x7d" () =
      (checkCode (read Artifact.decoder ((sameCode "0x0").send
        (request localService.compileUrl "contract T \x7b\x7d") ()).1), ()) := rfl
  have hread : read Artifact.decoder (.ok ⟨200, (bare "0x0").compact⟩) =
      .ok ⟨⟨none, 0⟩, "0x0"⟩ := by
    have hbody : read Artifact.decoder (.ok ⟨200, (bare "0x0").compact⟩) =
        (Artifact.ofText (bare "0x0").compact).mapError fun fault => .malformed fault.message := rfl
    rw [hbody, ofText_bare]
    rfl
  rw [hcompile, hsend, hread]
  exact ⟨⟨⟨none, 0⟩, "0x0"⟩, rfl, rfl⟩

end CompilerService

end TokenLaunch
