import TokenLaunch.Proofs.Nesting
import TokenLaunch.Proofs.Validation

/-!
# Evidence for reports

An explorer is asked over a network that may answer with anything.  A verification is reported as
ended only on the words of a response that is a success and can be decoded; whatever else comes
refuses a submission, and uses up one attempt of polling.
-/

namespace TokenLaunch

open Verification Session

variable {σ : Type}

namespace ExplorerService

/-! ## What a response says -/

/-- A success with a body that can be decoded says its status and a text: its result, its message
where the result is null, or the result as JSON has it where that is no text. -/
inductive Says : Except Http.Fault Http.Response → String → String → Prop
  | result {code : Nat} {body s : String} {a : Answer} (hcode : 200 ≤ code ∧ code < 300)
      (hbody : Json.Decoder.run Answer.decoder body = .ok a) (hresult : a.result = .str s) :
      Says (.ok ⟨code, body⟩) a.status s
  | message {code : Nat} {body : String} {a : Answer} (hcode : 200 ≤ code ∧ code < 300)
      (hbody : Json.Decoder.run Answer.decoder body = .ok a) (hresult : a.result = .null) :
      Says (.ok ⟨code, body⟩) a.status a.message
  | json {code : Nat} {body : String} {a : Answer} (hcode : 200 ≤ code ∧ code < 300)
      (hbody : Json.Decoder.run Answer.decoder body = .ok a) (hstr : ∀ s, a.result ≠ .str s)
      (hnull : a.result ≠ .null) : Says (.ok ⟨code, body⟩) a.status a.result.compact

/-- What says nothing: no response, one that is no success, and one that cannot be decoded. -/
inductive Mute : Except Http.Fault Http.Response → Prop
  | unreached (fault : Http.Fault) : Mute (.error fault)
  | unsuccessful {code : Nat} (body : String) (hcode : ¬ (200 ≤ code ∧ code < 300)) :
      Mute (.ok ⟨code, body⟩)
  | undecodable {body : String} {fault : Json.Fault} (code : Nat)
      (hbody : Json.Decoder.run Answer.decoder body = .error fault) : Mute (.ok ⟨code, body⟩)

/-- A submission is refused by what says nothing, and by any text without the words of a source that
was verified before. -/
inductive Refuses (r : Except Http.Fault Http.Response) : Prop
  | mute (h : Mute r)
  | told {status text : String} (htold : Says r status text) (hstatus : status ≠ "1")
      (htext : ¬ "already verified".toList <:+: text.toList.map Char.toLower)

/-- What a service over a network answers to a submission. -/
inductive Takes (r : Except Http.Fault Http.Response) :
    Except VerificationError Acceptance → Prop
  | queued {guid : String} (htold : Says r "1" guid) : Takes r (.ok (.queued guid))
  | alreadyVerified {status text : String} (htold : Says r status text) (hstatus : status ≠ "1")
      (htext : "already verified".toList <:+: text.toList.map Char.toLower) :
      Takes r (.ok .alreadyVerified)
  | refused {e : VerificationError} (hrefuses : Refuses r) : Takes r (.error e)

/-- The network after a number of questions for the status of a submission. -/
def questioned (net : Http.Network σ) (e : Endpoint) (guid : String) (w : σ) (n : Nat) : σ :=
  (fun w => (net.send (statusRequest e guid) w).2)^[n] w

/-- The response to the question that follows on a number of others. -/
def response (net : Http.Network σ) (e : Endpoint) (guid : String) (w : σ) (n : Nat) :
    Except Http.Fault Http.Response :=
  (net.send (statusRequest e guid) (questioned net e guid w n)).1

end ExplorerService

namespace Verifier

open ExplorerService

/-- The verifier with the explorers over a network. -/
def onNetwork (v : Verifier σ) (net : Http.Network σ) : Verifier σ :=
  { v with explorer := .onNetwork net }

variable {v : Verifier σ} {net : Http.Network σ} {t : Target}

end Verifier

end TokenLaunch
