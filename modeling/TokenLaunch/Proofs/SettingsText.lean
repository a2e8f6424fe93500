import TokenLaunch.Proofs.Json.Form
import TokenLaunch.Proofs.Json.Printing
import TokenLaunch.Settings

/-!
# Settings in JSON

Settings are read of the texts that tell of them: of their own text, and of every object that has
some of their members in any order among others.  What is left out is as by default, and the keys of
explorers are in no such text.
-/

namespace TokenLaunch.Settings

open Json Json.Decoder

/-- The numbers are of the sizes that the fields have. -/
structure InRange (s : Settings) : Prop where
  requestTimeout : s.requestTimeout < twoTo 64
  confirmations : s.confirmations < twoTo 64
  settleDelay : s.settleDelay < twoTo 64
  pollInterval : s.pollInterval < twoTo 64
  maxPollAttempts : s.maxPollAttempts < twoTo 32

instance (s : Settings) : Decidable s.InRange :=
  decidable_of_iff (s.requestTimeout < twoTo 64 ∧ s.confirmations < twoTo 64 ∧
      s.settleDelay < twoTo 64 ∧ s.pollInterval < twoTo 64 ∧ s.maxPollAttempts < twoTo 32)
    ⟨fun ⟨h₁, h₂, h₃, h₄, h₅⟩ => ⟨h₁, h₂, h₃, h₄, h₅⟩, fun ⟨h₁, h₂, h₃, h₄, h₅⟩ =>
      ⟨h₁, h₂, h₃, h₄, h₅⟩⟩

/-- The members of settings in the order of their fields. -/
def members (s : Settings) : List (String × Json) :=
  match s.toJson with
  | .obj ms => ms
  | _ => []

def names : List String := fields.map (·.name)

/-- The settings with the defaults in the place of some members. -/
def leftOut (omitted : String → Bool) (s : Settings) : Settings where
  compilerUrl := if omitted "compiler_url" then default.compilerUrl else s.compilerUrl
  requestTimeout :=
    if omitted "request_timeout_secs" then default.requestTimeout else s.requestTimeout
  confirmations := if omitted "confirmations" then default.confirmations else s.confirmations
  settleDelay := if omitted "settle_delay_secs" then default.settleDelay else s.settleDelay
  pollInterval := if omitted "poll_interval_secs" then default.pollInterval else s.pollInterval
  maxPollAttempts :=
    if omitted "max_poll_attempts" then default.maxPollAttempts else s.maxPollAttempts
  logLevel := if omitted "log_level" then default.logLevel else s.logLevel
  keys := s.keys

variable {s : Settings} {r : Reading} {values : List (String × Reading)}

theorem inRange_default : default.InRange := by decide

theorem map_fst_members (s : Settings) : s.members.map Prod.fst = names := rfl

theorem nodup_names : names.Nodup := by decide

/-! ## The members of settings -/

theorem fits_of_mem (h : s.InRange) : ∀ m ∈ s.members, Fits fields (some m.1, m.2.reading) := by
  have hhalf : twoTo 32 ≤ twoTo 64 := by decide
  have htext {name a} (hfind : fields.find? (·.name == name) = some (.of name Decoder.text)) :
      Fits fields (some name, (Json.str a).reading) := .field hfind (inverts_text.check name a)
  have hword {name n} (hfind : fields.find? (·.name == name) = some (.of name word))
      (hn : n < twoTo 64) : Fits fields (some name, (Json.nat n).reading) :=
    .field hfind (check_natBelow (Nat.le_refl _) hn name)
  have hhalfWord {name n} (hfind : fields.find? (·.name == name) = some (.of name halfWord))
      (hn : n < twoTo 32) : Fits fields (some name, (Json.nat n).reading) :=
    .field hfind (check_natBelow hhalf hn name)
  simp only [members, toJson, List.forall_mem_cons, List.not_mem_nil, false_imp_iff, implies_true,
    and_true]
  exact ⟨htext rfl, hword rfl h.requestTimeout, hword rfl h.confirmations, hword rfl h.settleDelay,
    hword rfl h.pollInterval, hhalfWord rfl h.maxPollAttempts, htext rfl⟩

theorem skip_of_check : ∀ f ∈ fields, ∀ r, f.check r = .ok () → skip r = .ok () := by
  have htext (name : String) (r) (h : (Field.of name Decoder.text).check r = .ok ()) :
      skip r = .ok () :=
    inverts_text.skip_of_check h
  have hnumber (name : String) (bound : Nat) (r)
      (h : (Field.of name (natBelow bound)).check r = .ok ()) : skip r = .ok () :=
    skip_of_check_natBelow h
  simp only [fields, List.forall_mem_cons, List.not_mem_nil, false_imp_iff, implies_true, and_true]
  exact ⟨htext _, hnumber _ _, hnumber _ _, hnumber _ _, hnumber _ _, hnumber _ _, htext _⟩

theorem describes (h : s.InRange) : Describes fields s.members default.members where
  names := (map_fst_members s).symm
  defaults := rfl
  nodup := nodup_names
  fits := fits_of_mem h
  skips := skip_of_check

theorem exact_toJson (s : Settings) : s.toJson.Exact := by
  refine .obj ?_
  simp [Exact.str, Json.nat, Exact.natural]

/-! ## Reading -/

/-- A member that is held, or as by default, is read. -/
theorem withDefault_of_holds {α : Type} {dec : Decoder α} {encode : α → Json} {name : String}
    {x a : α} (hread : dec (encode a).reading = .ok a) (hinj : encode x = encode a → x = a)
    (hx : default.members.lookup name = some (encode x))
    (h : Holds default.members values (name, encode a)) :
    withDefault name dec x values = .ok a := by
  rcases h with hvalue | ⟨hnone, hdefault⟩
  · rw [withDefault, hvalue]
    exact hread
  · rw [withDefault, hnone]
    exact congrArg _ (hinj (Option.some.inj (hx.symm.trans hdefault)))

/-- Settings are read where the record holds the value of each of their members. -/
theorem decoder_of_holds (h : s.InRange) (hrecord : record fields r = .ok values)
    (hholds : ∀ m ∈ s.members, Holds default.members values m) :
    decoder r = .ok { s with keys := ApiKeys.empty } := by
  have hhalf : twoTo 32 ≤ twoTo 64 := by decide
  have htext {name x a} (hx : default.members.lookup name = some (.str x))
      (h : Holds default.members values (name, .str a)) :
      withDefault name Decoder.text x values = .ok a :=
    withDefault_of_holds ((inverts_text _ a).mpr rfl) Json.str.inj hx h
  have hnumber {name x a bound} (hbound : bound ≤ twoTo 64) (ha : a < bound)
      (hx : default.members.lookup name = some (.nat x))
      (h : Holds default.members values (name, .nat a)) :
      withDefault name (natBelow bound) x values = .ok a :=
    withDefault_of_holds (natBelow_reading hbound ha)
      (fun heq => Number.natural.inj (Json.num.inj heq)) hx h
  simp only [members, toJson, List.forall_mem_cons, List.not_mem_nil, false_imp_iff, implies_true,
    and_true] at hholds
  obtain ⟨h₁, h₂, h₃, h₄, h₅, h₆, h₇⟩ := hholds
  simp only [decoder, bind_eq_ok_iff]
  exact ⟨values, hrecord, _, htext rfl h₁, _, hnumber (Nat.le_refl _) h.requestTimeout rfl h₂, _,
    hnumber (Nat.le_refl _) h.confirmations rfl h₃, _, hnumber (Nat.le_refl _) h.settleDelay rfl h₄,
    _, hnumber (Nat.le_refl _) h.pollInterval rfl h₅, _,
    hnumber hhalf h.maxPollAttempts rfl h₆, _, htext rfl h₇, rfl⟩

theorem skip_of_decoder (h : decoder r = .ok s) : skip r = .ok () := by
  simp only [decoder, bind_eq_ok_iff] at h
  obtain ⟨values, hrecord, -⟩ := h
  exact skip_of_record skip_of_check hrecord

/-- Settings are read of every text that tells of them. -/
theorem ofText_of_form {text : String} (h : s.InRange) (hwritten : Written text r)
    (hform : Form s.members default.members r) :
    ofText text = .ok { s with keys := ApiKeys.empty } := by
  obtain ⟨values, hrecord, hholds⟩ :=
    (describes h).exists_record_iff.mpr ⟨hform, (written_iff.mp hwritten).2⟩
  rw [ofText, run_eq_ok_iff fun _ _ => skip_of_decoder]
  exact ⟨r, hwritten, decoder_of_holds h hrecord hholds⟩

theorem ofText_text (h : s.InRange) : ofText s.text = .ok { s with keys := ApiKeys.empty } :=
  ofText_of_form h (exact_toJson s).written_pretty (.refl s.members _)

/-- Keys are in no text of settings. -/
theorem text_keys (s : Settings) (keys : ApiKeys) : { s with keys }.text = s.text := rfl

/-! ## Members that are left out -/

section

variable (omitted : String → Bool) (s : Settings)

/-- The members that a text keeps when it leaves others out. -/
def kept : List (String × Json) := s.members.filter fun m => !omitted m.1

theorem kept_leftOut : (s.leftOut omitted).kept omitted = s.kept omitted := by
  have hcons {name : String} {v w : Json} {ms us : List (String × Json)}
      (hv : omitted name = false → v = w)
      (h : (ms.filter fun m => !omitted m.1) = us.filter fun m => !omitted m.1) :
      (((name, v) :: ms).filter fun m => !omitted m.1) =
        ((name, w) :: us).filter fun m => !omitted m.1 := by
    cases hname : omitted name with
    | false => simp [hname, hv hname, h]
    | true => simp [hname, h]
  unfold kept members toJson leftOut
  exact hcons (fun h => by simp [h]) (hcons (fun h => by simp [h]) (hcons (fun h => by simp [h])
    (hcons (fun h => by simp [h]) (hcons (fun h => by simp [h]) (hcons (fun h => by simp [h])
      (hcons (fun h => by simp [h]) rfl))))))

theorem mem_default_of_omitted : ∀ m ∈ (s.leftOut omitted).members, omitted m.1 = true →
    m ∈ default.members := by
  have hmem {name : String} {v w : Json} (hw : (name, w) ∈ default.members)
      (hv : omitted name = true → v = w) (h : omitted name = true) : (name, v) ∈ default.members :=
    hv h ▸ hw
  have hdefault : ∀ m ∈ default.members, m ∈ default.members := fun _ hm => hm
  simp only [members, toJson, leftOut, List.forall_mem_cons, List.not_mem_nil, false_imp_iff,
    implies_true, and_true] at hdefault ⊢
  obtain ⟨h₁, h₂, h₃, h₄, h₅, h₆, h₇⟩ := hdefault
  exact ⟨hmem h₁ fun h => by simp [h], hmem h₂ fun h => by simp [h], hmem h₃ fun h => by simp [h],
    hmem h₄ fun h => by simp [h], hmem h₅ fun h => by simp [h], hmem h₆ fun h => by simp [h],
    hmem h₇ fun h => by simp [h]⟩

end

variable {omitted : String → Bool}

theorem InRange.leftOut (h : s.InRange) (omitted : String → Bool) :
    (s.leftOut omitted).InRange := by
  have hpick {name : String} {x y bound : Nat} (hx : x < bound) (hy : y < bound) :
      (if omitted name then x else y) < bound := by
    split
    · exact hx
    · exact hy
  exact ⟨hpick inRange_default.requestTimeout h.requestTimeout,
    hpick inRange_default.confirmations h.confirmations,
    hpick inRange_default.settleDelay h.settleDelay,
    hpick inRange_default.pollInterval h.pollInterval,
    hpick inRange_default.maxPollAttempts h.maxPollAttempts⟩

/-- A text that has the members of settings but for some of them, in any order and among members of
other names, is read as the settings with the defaults in the place of just those. -/
theorem ofText_of_kept {others ms : List (Option String × Reading)} {text : String}
    (h : s.InRange) (hothers : ∀ m ∈ others, ∃ name ∉ names, m.1 = some name)
    (hms : ms.Perm (readingMembers (s.kept omitted) ++ others)) (hwritten : Written text (.obj ms)) :
    ofText text = .ok { s.leftOut omitted with keys := ApiKeys.empty } := by
  have hkept : (s.kept omitted).Sublist (s.leftOut omitted).members := by
    rw [← kept_leftOut]
    exact List.filter_sublist
  have hleft : ∀ m ∈ (s.leftOut omitted).members, m ∉ s.kept omitted → m ∈ default.members := by
    intro m hm hnot
    refine mem_default_of_omitted omitted s m hm ?_
    rw [← kept_leftOut, kept, List.mem_filter] at hnot
    simpa [hm] using hnot
  exact ofText_of_form (h.leftOut omitted) hwritten (.object hkept hleft hothers hms)

end TokenLaunch.Settings
