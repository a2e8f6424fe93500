import TokenLaunch.Proofs.Agreement

/-!
# Failures of created contracts

What becomes of the address of a contract whose creation was mined, where the launch fails all the
same.  By then only the wait for confirmations can fail.  Without a receipt the failure names the
contract; an error of the signer is handed on as it is, and names what the signer has named.
-/

namespace TokenLaunch

namespace Creation

open Session

variable {σ : Type} {signer : Signer σ} {a : Artifact} {c : TokenConfig} {confirmations : Nat}
  {address : String} {w w' w'' : σ} {acts : List Act}

/-- From `w`, the creation is mined at `address`, and `w'` is left behind. -/
inductive Mines (signer : Signer σ) (a : Artifact) (c : TokenConfig) (w : σ) (address : String) :
    σ → Prop
  | mk {sender : String} {txHash : Option String} {w₁ w₂ w₃ : σ}
      (haddress : signer.address w = (.ok sender, w₁))
      (hdeploy : signer.deploy a.abi a.bytecode (ConstructorArgs.ofConfig c).values w₁ =
        (.ok txHash, w₂))
      (hmined : signer.mined w₂ = (.ok address, w₃)) : Mines signer a c w address w₃

/-- The failures of a creation that was mined at `address`, where the signer is in `w` by then. -/
inductive Unconfirmed (signer : Signer σ) (confirmations : Nat) (address : String) (w : σ) :
    DeploymentError → Prop
  | noReceipt (h : (signer.confirmed confirmations w).1 = .ok none) :
      Unconfirmed signer confirmations address w (.receiptUnavailable address confirmations)
  | failed {e : DeploymentError} (h : (signer.confirmed confirmations w).1 = .error e) :
      Unconfirmed signer confirmations address w e

/-- The contract is named where there is no receipt, and else by the signer or not at all. -/
theorem Unconfirmed.contractAddress?_eq_some_iff {e : DeploymentError}
    (h : Unconfirmed signer confirmations address w e) :
    e.contractAddress? = some address ↔
      (signer.confirmed confirmations w).1 = .ok none ∨
        ∃ e', (signer.confirmed confirmations w).1 = .error e' ∧
          e'.contractAddress? = some address := by
  cases h with
  | noReceipt h => simp [h, DeploymentError.contractAddress?]
  | failed h => simp [h]

theorem Mines.eq_of_submits {r : Except DeploymentError Mined}
    (h : Mines signer a c w address w') (hsubmit : Submits signer a c w acts r w'') :
    ∃ m, r = .ok m ∧ m.address = address ∧ w'' = w' := by
  obtain ⟨haddress, hdeploy, hmined⟩ := h
  cases hsubmit with
  | noAddress haddress' => cases haddress.symm.trans haddress'
  | unsent haddress' hdeploy' =>
    cases haddress.symm.trans haddress'
    cases hdeploy.symm.trans hdeploy'
  | unmined haddress' hdeploy' hmined' =>
    cases haddress.symm.trans haddress'
    cases hdeploy.symm.trans hdeploy'
    cases hmined.symm.trans hmined'
  | mined haddress' hdeploy' hmined' =>
    cases haddress.symm.trans haddress'
    cases hdeploy.symm.trans hdeploy'
    cases hmined.symm.trans hmined'
    exact ⟨_, rfl, rfl, rfl⟩

theorem Confirms.eq_error_iff {m : Mined} {r : Except DeploymentError Confirmed}
    {e : DeploymentError} (h : Confirms signer confirmations m w acts r w') :
    r = .error e ↔ Unconfirmed signer confirmations m.address w e := by
  constructor
  · rintro rfl
    cases h with
    | failed hconfirmed => exact .failed (by rw [hconfirmed])
    | noReceipt hconfirmed => exact .noReceipt (by rw [hconfirmed])
  · intro hfails
    cases h with
    | failed hconfirmed =>
      cases hfails with
      | noReceipt h => simp [hconfirmed] at h
      | failed h => simpa [hconfirmed] using h
    | noReceipt hconfirmed =>
      cases hfails with
      | noReceipt => rfl
      | failed h => simp [hconfirmed] at h
    | confirmed hconfirmed =>
      cases hfails with
      | noReceipt h => simp [hconfirmed] at h
      | failed h => simp [hconfirmed] at h

theorem create_eq_error_iff (h : Mines signer a c w address w') (confirmations : Nat)
    (held : List String) (journal : List Act) (e : DeploymentError) :
    ((create signer confirmations a c).run ⟨w, held, journal⟩).1 = .error e ↔
      Unconfirmed signer confirmations address w' e := by
  obtain ⟨sent, r, w₁, hsent, hsubmit⟩ := exists_submits signer a c held w
  obtain ⟨m, rfl, rfl, rfl⟩ := h.eq_of_submits hsubmit
  obtain ⟨awaited, r, w₂, hawaited, hconfirm⟩ := exists_confirms signer confirmations m held w₁
  have hcreate : Does (create signer confirmations a c).run held w (sent ++ awaited) r w₂ :=
    Does.bind_ok hsent hawaited
  rw [hcreate journal]
  exact hconfirm.eq_error_iff

end Creation

namespace Launcher

open Session Creation

variable {σ : Type} {l : Launcher σ} {signer : Signer σ} {a : Artifact} {c : TokenConfig}
  {d : Draft} {address : String} {w w' : σ}

theorem Executes.eq_error_iff {held : List String} {acts : List Act} {w₀ w₁ : σ}
    {r : Except LaunchError Deployment} {e : LaunchError}
    (hcompile : l.verifier.compiler.compile c.source w₀ = (.ok a, w))
    (hmines : Mines signer a c w address w') (h : l.Executes signer c held w₀ acts r w₁) :
    r = .error e ↔
      ∃ e', e = .deployment e' ∧ Unconfirmed signer l.confirmations address w' e' := by
  cases h with
  | uncompiled hcompile' => cases hcompile.symm.trans hcompile'
  | uncreated hcompile' hsubmit =>
    cases hcompile.symm.trans hcompile'
    obtain ⟨m, hm, -⟩ := hmines.eq_of_submits hsubmit
    cases hm
  | unconfirmed hcompile' hsubmit hconfirm =>
    cases hcompile.symm.trans hcompile'
    obtain ⟨_, ⟨⟩, rfl, rfl⟩ := hmines.eq_of_submits hsubmit
    simp only [← hconfirm.eq_error_iff, Except.error.injEq]
    constructor
    · rintro rfl
      exact ⟨_, rfl, rfl⟩
    · rintro ⟨_, rfl, rfl⟩
      rfl
  | finished hcompile' hsubmit hconfirm =>
    cases hcompile.symm.trans hcompile'
    obtain ⟨_, ⟨⟩, rfl, rfl⟩ := hmines.eq_of_submits hsubmit
    simp [← hconfirm.eq_error_iff]

theorem runDraft_eq_error_iff {s : Session σ} (hd : d.validate = .ok c)
    (hcompile : l.verifier.compiler.compile c.source s.world = (.ok a, w))
    (hmines : Mines signer a c w address w') (e : LaunchError) :
    (l.runDraft signer d s).1 = .error e ↔
      ∃ e', e = .deployment e' ∧ Unconfirmed signer l.confirmations address w' e' := by
  obtain ⟨acts, r, w₁, hdoes, hlaunches⟩ := l.exists_launches signer d s.inFlight s.world
  have hrun : l.runDraft signer d s = (r, ⟨w₁, s.inFlight, s.journal ++ acts⟩) := hdoes s.journal
  rw [hrun]
  cases hlaunches with
  | invalid hd' => cases hd.symm.trans hd'
  | launched hd' hexecute =>
    cases hd.symm.trans hd'
    exact hexecute.eq_error_iff hcompile hmines

/-- Once a creation is mined, it can fail of its confirmations alone, and so can a launch with it;
the failure names the contract where there is no receipt, and else where the signer does. -/
theorem fails_iff_unconfirmed (signer : Signer σ) (a : Artifact) (c : TokenConfig)
    (address : String) (w w' : σ) (h : Mines signer a c w address w') :
    (∀ confirmations held journal e,
      ((create signer confirmations a c).run ⟨w, held, journal⟩).1 = .error e ↔
        Unconfirmed signer confirmations address w' e) ∧
    (∀ (l : Launcher σ) d s e, d.validate = .ok c →
      l.verifier.compiler.compile c.source s.world = (.ok a, w) →
      ((l.runDraft signer d s).1 = .error e ↔
        ∃ e', e = .deployment e' ∧ Unconfirmed signer l.confirmations address w' e')) ∧
    ∀ confirmations e, Unconfirmed signer confirmations address w' e →
      (e.contractAddress? = some address ↔
        (signer.confirmed confirmations w').1 = .ok none ∨
          ∃ e', (signer.confirmed confirmations w').1 = .error e' ∧
            e'.contractAddress? = some address) :=
  ⟨create_eq_error_iff h, fun _ _ _ e hd hcompile => runDraft_eq_error_iff hd hcompile h e,
    fun _ _ hfails => hfails.contractAddress?_eq_some_iff⟩

/-- A signer with one answer to the wait for confirmations. -/
def waitingSigner (answer : Except DeploymentError (Option Receipt)) : Signer Nat :=
  { numberingSigner with confirmed := fun _ n => (answer, n) }

/-- Where it creates contracts. -/
def minedAddress : String := "0x00000000000000000000000000000000000000c0"

theorem mines_waitingSigner (answer : Except DeploymentError (Option Receipt)) (a : Artifact)
    (c : TokenConfig) : Mines (waitingSigner answer) a c 0 minedAddress 1 :=
  .mk rfl rfl rfl

theorem exists_validate_managedDraft : ∃ c, managedDraft.validate = .ok c := by
  have hok : managedDraft.validate.isOk = true := by decide +kernel
  cases h : managedDraft.validate with
  | ok c => exact ⟨c, rfl⟩
  | error e =>
    rw [h] at hok
    cases hok

/-- The launch of a draft with a signer that answers so. -/
def waitingResult (answer : Except DeploymentError (Option Receipt)) :
    Except LaunchError Deployment :=
  ((fixedLauncher (.ok "") ⟨10, 5⟩).runDraft (waitingSigner answer) managedDraft (start 0)).1

theorem fails_iff_unconfirmed_noReceipt : ∃ c, managedDraft.validate = .ok c ∧
    Mines (waitingSigner (.ok none)) ⟨managedInterface, "0x6001"⟩ c 0 minedAddress 1 ∧
    waitingResult (.ok none) = .error (.deployment (.receiptUnavailable minedAddress 2)) ∧
    (DeploymentError.receiptUnavailable minedAddress 2).contractAddress? = some minedAddress := by
  obtain ⟨c, hd⟩ := exists_validate_managedDraft
  have hmines := mines_waitingSigner (.ok none) ⟨managedInterface, "0x6001"⟩ c
  have hfails : Unconfirmed (waitingSigner (.ok none)) 2 minedAddress 1
      (.receiptUnavailable minedAddress 2) := .noReceipt rfl
  obtain ⟨-, hlaunch, hname⟩ := fails_iff_unconfirmed _ _ c minedAddress 0 1 hmines
  refine ⟨c, hd, hmines, ?_, (hname 2 _ hfails).mpr (.inl rfl)⟩
  exact (hlaunch (fixedLauncher (.ok "") ⟨10, 5⟩) managedDraft (start 0) _ hd rfl).mpr
    ⟨_, rfl, hfails⟩

/-- An error of the signer loses the address, both of the creation and of the launch. -/
theorem addressless_dropped : ∃ c, managedDraft.validate = .ok c ∧
    Mines (waitingSigner (.error (.transaction "dropped"))) ⟨managedInterface, "0x6001"⟩ c 0
      minedAddress 1 ∧
    ((create (waitingSigner (.error (.transaction "dropped"))) 2 ⟨managedInterface, "0x6001"⟩ c).run
      (start 0)).1 = .error (.transaction "dropped") ∧
    waitingResult (.error (.transaction "dropped")) =
      .error (.deployment (.transaction "dropped")) ∧
    (DeploymentError.transaction "dropped").contractAddress? = none := by
  obtain ⟨c, hd⟩ := exists_validate_managedDraft
  have hmines := mines_waitingSigner (.error (.transaction "dropped"))
    ⟨managedInterface, "0x6001"⟩ c
  have hfails : Unconfirmed (waitingSigner (.error (.transaction "dropped"))) 2 minedAddress 1
      (.transaction "dropped") := .failed rfl
  refine ⟨c, hd, hmines, (create_eq_error_iff hmines 2 [] [] _).mpr hfails, ?_, rfl⟩
  exact (runDraft_eq_error_iff (l := fixedLauncher (.ok "") ⟨10, 5⟩) (s := start 0) hd rfl hmines
    _).mpr ⟨_, rfl, hfails⟩

end Launcher

end TokenLaunch
