import TokenLaunch.Proofs.ConstructorCall
import TokenLaunch.Proofs.Order

/-!
# Agreement of launches

Two launches that differ in nothing but their verifications end alike: with one error, or with one
contract.  The services of the two may act on worlds of their own, which are related as long as
the launches have not come to their verifications.
-/

namespace TokenLaunch

namespace Session

variable {σ σ' α β ε δ : Type} {R : σ → σ' → Prop}

/-- From related worlds, two services give the same answer and leave related worlds. -/
def Agree (R : σ → σ' → Prop) (x : StateM σ α) (y : StateM σ' α) : Prop :=
  ∀ w w', R w w' → (x w).1 = (y w').1 ∧ R (x w).2 (y w').2

/-- From related worlds, two parts of sessions end as `Q` has it. -/
def Related (R : σ → σ' → Prop) (x : Run σ α) (y : Run σ' β) (Q : α → β → σ → σ' → Prop) : Prop :=
  ∀ s s', R s.world s'.world → Q (x s).1 (y s').1 (x s).2.world (y s').2.world

/-- Two parts of sessions that give one value and leave related worlds. -/
def Alike (R : σ → σ' → Prop) (x : Run σ α) (y : Run σ' α) : Prop :=
  Related R x y fun a b w w' => a = b ∧ R w w'

theorem alike_pure (a : α) : Alike R (pure a) (pure a) := fun _ _ hw => ⟨rfl, hw⟩

theorem alike_act (e e' : Act) : Alike R (act e) (act e') := fun _ _ hw => ⟨rfl, hw⟩

theorem alike_ask {x : StateM σ α} {y : StateM σ' α} (h : Agree R x y) :
    Alike R (ask x) (ask y) := fun _ _ hw => h _ _ hw

theorem alike_call {e e' : Act} {x : StateM σ α} {y : StateM σ' α} (h : Agree R x y) :
    Alike R (call e x) (call e' y) := fun _ _ hw => h _ _ hw

theorem Alike.bind {x : Run σ α} {y : Run σ' α} {f : α → Run σ β} {g : α → Run σ' δ}
    {Q : β → δ → σ → σ' → Prop} (hxy : Alike R x y) (hfg : ∀ a, Related R (f a) (g a) Q) :
    Related R (x >>= f) (y >>= g) Q := by
  intro s s' hw
  obtain ⟨hvalue, hw⟩ := hxy s s' hw
  have hx : (x >>= f) s = f (x s).1 (x s).2 := rfl
  have hy : (y >>= g) s' = g (y s').1 (y s').2 := rfl
  rw [hx, hy, hvalue]
  exact hfg _ _ _ hw

/-! ## Parts that may fail -/

/-- A failure common to both ends both. -/
theorem Alike.bind_except {x : ExceptT ε (Run σ) α} {y : ExceptT ε (Run σ') α}
    {f : α → ExceptT ε (Run σ) β} {g : α → ExceptT ε (Run σ') δ}
    {Q : Except ε β → Except ε δ → σ → σ' → Prop} (hxy : Alike R x.run y.run)
    (hfg : ∀ a, Related R (f a).run (g a).run Q)
    (herror : ∀ e w w', R w w' → Q (.error e) (.error e) w w') :
    Related R (x >>= f).run (y >>= g).run Q := by
  rw [ExceptT.run_bind, ExceptT.run_bind]
  refine Alike.bind hxy ?_
  rintro (e | a)
  · exact fun _ _ hw => herror e _ _ hw
  · exact hfg a

theorem Alike.bind_ok {x : ExceptT ε (Run σ) α} {y : ExceptT ε (Run σ') α}
    {f : α → ExceptT ε (Run σ) β} {g : α → ExceptT ε (Run σ') β} (hxy : Alike R x.run y.run)
    (hfg : ∀ a, Alike R (f a).run (g a).run) : Alike R (x >>= f).run (y >>= g).run :=
  Alike.bind_except hxy hfg fun _ _ _ hw => ⟨rfl, hw⟩

theorem Alike.map {x : Run σ α} {y : Run σ' α} (f : α → β) (h : Alike R x y) :
    Alike R (f <$> x) (f <$> y) := by
  rw [map_eq_pure_bind, map_eq_pure_bind]
  exact h.bind fun a => alike_pure (f a)

theorem Alike.lift {x : Run σ α} {y : Run σ' α} (h : Alike R x y) :
    Alike R (ExceptT.lift x : ExceptT ε (Run σ) α).run
      (ExceptT.lift y : ExceptT ε (Run σ') α).run :=
  Alike.map Except.ok h

theorem Alike.adapt {x : ExceptT ε (Run σ) α} {y : ExceptT ε (Run σ') α} {f : ε → δ}
    (h : Alike R x.run y.run) : Alike R (x.adapt f).run (y.adapt f).run :=
  Alike.map (Except.mapError f) h

end Session

open Session

variable {σ σ' : Type} {R : σ → σ' → Prop}

/-- The answers that a creation depends on are the same for both signers. -/
structure Signer.Same (R : σ → σ' → Prop) (signer : Signer σ) (signer' : Signer σ') : Prop where
  address : Agree R signer.address signer'.address
  deploy : ∀ abi bytecode arguments,
    Agree R (signer.deploy abi bytecode arguments) (signer'.deploy abi bytecode arguments)
  mined : Agree R signer.mined signer'.mined
  confirmed : ∀ confirmations,
    Agree R (signer.confirmed confirmations) (signer'.confirmed confirmations)
  chainId : Agree R signer.chainId signer'.chainId

/-- Launchers that compile alike and wait for as many confirmations.  How they flatten, their
explorers, keys, policies of polling and delays are left open. -/
structure Launcher.Same (R : σ → σ' → Prop) (l : Launcher σ) (l' : Launcher σ') : Prop where
  compile : ∀ source,
    Agree R (l.verifier.compiler.compile source) (l'.verifier.compiler.compile source)
  confirmations : l.confirmations = l'.confirmations

/-- Results that differ in the state of the verification at most. -/
inductive SameOutcome : Except LaunchError Deployment → Except LaunchError Deployment → Prop
  | failed (e : LaunchError) : SameOutcome (.error e) (.error e)
  | deployed {d d' : Deployment} (haddress : d.contractAddress = d'.contractAddress)
      (hchain : d.chainId = d'.chainId) (hnetwork : d.network = d'.network)
      (htxHash : d.txHash = d'.txHash) : SameOutcome (.ok d) (.ok d')

namespace Creation

variable {signer : Signer σ} {signer' : Signer σ'}

theorem alike_submit (h : signer.Same R signer') (a : Artifact) (c : TokenConfig) :
    Alike R (submit signer a c).run (submit signer' a c).run := by
  unfold submit
  refine Alike.bind_ok (alike_call h.address) fun _ => ?_
  refine Alike.bind_ok (alike_call (h.deploy _ _ _)) fun _ => ?_
  refine Alike.bind_ok (alike_call h.mined) fun _ => ?_
  exact alike_pure _

theorem alike_confirm (h : signer.Same R signer') (confirmations : Nat) (m : Mined) :
    Alike R (confirm signer confirmations m).run (confirm signer' confirmations m).run := by
  unfold confirm
  refine Alike.bind_ok (alike_call (h.confirmed confirmations)) ?_
  rintro (_ | receipt)
  · exact alike_pure _
  · exact alike_pure _

end Creation

namespace Launcher

variable {l : Launcher σ} {l' : Launcher σ'} {signer : Signer σ} {signer' : Signer σ'}

theorem alike_announce (e : Event) :
    Alike R (announce e : ExceptT LaunchError (Run σ) Unit).run
      (announce e : ExceptT LaunchError (Run σ') Unit).run :=
  (alike_act _ _).lift

theorem alike_compile (h : l.Same R l') (source : String) :
    Alike R (l.compile source).run (l'.compile source).run :=
  (alike_call (h.compile source)).map (Except.mapError LaunchError.compilation)

theorem alike_chainId (h : signer.Same R signer') (c : TokenConfig) :
    Alike R (chainId signer c) (chainId signer' c) := by
  unfold chainId
  refine Alike.bind (alike_ask h.chainId) ?_
  rintro (e | id)
  · exact alike_pure _
  · exact alike_pure _

/-- Up to its verification a launch goes as the other does; then nothing can fail it any more. -/
theorem related_execute (h : l.Same R l') (hsigner : signer.Same R signer') (c : TokenConfig) :
    Related R (l.execute signer c).run (l'.execute signer' c).run
      fun r r' _ _ => SameOutcome r r' := by
  have herror (e : LaunchError) (w : σ) (w' : σ') (_ : R w w') :
      SameOutcome (.error e) (.error e) := .failed e
  unfold execute
  refine Alike.bind_except (alike_announce _) (fun _ => ?_) herror
  refine Alike.bind_except (alike_compile h _) (fun a => ?_) herror
  refine Alike.bind_except (alike_announce _) (fun _ => ?_) herror
  refine Alike.bind_except (Creation.alike_submit hsigner a c).adapt (fun m => ?_) herror
  refine Alike.bind_except (alike_announce _) (fun _ => ?_) herror
  rw [← h.confirmations]
  refine Alike.bind_except (Creation.alike_confirm hsigner _ m).adapt (fun contract => ?_) herror
  refine Alike.bind_except (alike_chainId hsigner c).lift (fun id => ?_) herror
  intro s s' _
  exact .deployed rfl rfl rfl rfl

/-- What a launch tells at its end does not change its result. -/
theorem run_fst (l : Launcher σ) (signer : Signer σ) (c : TokenConfig) (s : Session σ) :
    (l.run signer c s).1 = ((l.execute signer c).run s).1 := by
  obtain ⟨acts, r, w, hdoes, -⟩ := l.exists_executes signer c s.inFlight s.world
  have hexecute : (l.execute signer c).run s = (r, ⟨w, s.inFlight, s.journal ++ acts⟩) :=
    hdoes s.journal
  have hrun : l.run signer c s = (r, _) := does_run hdoes s.journal
  rw [hexecute, hrun]

theorem related_runDraft (h : l.Same R l') (hsigner : signer.Same R signer') (d : Draft) :
    Related R (l.runDraft signer d) (l'.runDraft signer' d) fun r r' _ _ => SameOutcome r r' := by
  intro s s' hw
  unfold runDraft
  cases d.validate with
  | error e => exact .failed (.config e)
  | ok c =>
    simp only [run_fst]
    exact related_execute h hsigner c s s' hw

/-- A launch that fails does so before anything of its verification is done. -/
def FailsUnverified (l : Launcher σ) (signer : Signer σ) (d : Draft) (s : Session σ) : Prop :=
  ∀ e, (l.runDraft signer d s).1 = .error e →
    ∃ acts, (l.runDraft signer d s).2.journal = s.journal ++ acts ∧
      l.Launches signer d s.inFlight s.world acts (.error e) (l.runDraft signer d s).2.world ∧
      ∀ a ∈ acts, a.isVerification = false

theorem failsUnverified (l : Launcher σ) (signer : Signer σ) (d : Draft) (s : Session σ) :
    l.FailsUnverified signer d s := by
  obtain ⟨acts, r, w, hdoes, hlaunches⟩ := l.exists_launches signer d s.inFlight s.world
  have hrun : l.runDraft signer d s = (r, ⟨w, s.inFlight, s.journal ++ acts⟩) := hdoes s.journal
  intro e he
  rw [hrun] at he ⊢
  obtain rfl : r = .error e := he
  obtain ⟨main, verification, rfl, horderly⟩ := hlaunches.orderly
  obtain rfl := horderly.unverified e rfl
  refine ⟨_, rfl, hlaunches, ?_⟩
  simp only [List.append_nil, List.forall_mem_append, List.forall_mem_singleton]
  exact ⟨horderly.isVerification_main, rfl⟩

/-- Verifications change neither whether a launch succeeds nor what it fails of, nor the contract
that it tells of. -/
theorem sameOutcome_of_same (h : l.Same R l') (hsigner : signer.Same R signer') (d : Draft)
    (s : Session σ) (s' : Session σ') (hw : R s.world s'.world) :
    SameOutcome (l.runDraft signer d s).1 (l'.runDraft signer' d s').1 ∧
      l.FailsUnverified signer d s ∧ l'.FailsUnverified signer' d s' :=
  ⟨related_runDraft h hsigner d s s' hw, l.failsUnverified signer d s,
    l'.failsUnverified signer' d s'⟩

/-- A signer on a public test chain that numbers its transactions. -/
def numberingSigner : Signer Nat where
  address n := (.ok "0x00000000000000000000000000000000000000a1", n)
  deploy _ _ _ n := (.ok (some (Text.decimal n)), n + 1)
  mined n := (.ok "0x00000000000000000000000000000000000000c0", n)
  confirmed confirmations n := (.ok (some ⟨n, 0, confirmations⟩), n)
  chainId n := (.ok 11155111, n)

/-- A launcher with one answer to all requests for a text and an explorer with one status. -/
def fixedLauncher (flattened : Except CompilationError String) (policy : Polling.Policy) :
    Launcher Nat where
  verifier :=
    { compiler :=
        { compile := fun _ n => (.ok ⟨managedInterface, "0x6001"⟩, n)
          flatten := fun _ n => (flattened, n) }
      explorer :=
        { submit := fun _ _ n => (.ok (.queued "guid"), n + 1)
          status := fun _ _ n => (.ok "Pass - Verified", n + 1) }
      policy := policy
      settleDelay := 30 }
  confirmations := 2
  explorers := Explorers.default
  keys := ApiKeys.empty

/-- The result of the launch of a draft that is valid. -/
def fixedResult (flattened : Except CompilationError String) (policy : Polling.Policy) :
    Except LaunchError Deployment :=
  ((fixedLauncher flattened policy).runDraft numberingSigner managedDraft (start 0)).1

theorem sameOutcome_failed_verified :
    (fixedResult (.error (.refused 503 "")) ⟨0, 5⟩).toOption.map (·.state) = some .failed ∧
      (fixedResult (.ok "") ⟨10, 5⟩).toOption.map (·.state) = some .verified ∧
      SameOutcome (fixedResult (.error (.refused 503 "")) ⟨0, 5⟩)
        (fixedResult (.ok "") ⟨10, 5⟩) := by
  have hagree {α : Type} (x : StateM Nat α) : Agree Eq x x := by
    rintro n _ rfl
    exact ⟨rfl, rfl⟩
  have hsigner : numberingSigner.Same Eq numberingSigner :=
    ⟨hagree _, fun _ _ _ => hagree _, hagree _, fun _ => hagree _, hagree _⟩
  have hlaunchers : (fixedLauncher (.error (.refused 503 "")) ⟨0, 5⟩).Same Eq
      (fixedLauncher (.ok "") ⟨10, 5⟩) := ⟨fun _ => hagree _, rfl⟩
  refine ⟨by decide +kernel, by decide +kernel, ?_⟩
  exact (sameOutcome_of_same hlaunchers hsigner managedDraft (start 0) (start 0) rfl).1

end Launcher

end TokenLaunch
