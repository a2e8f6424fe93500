import TokenLaunch.Proofs.Outcome

/-!
# Verifications inside verifications

However deep verifications begin inside one another, a contract has one of them at a time.  What is
done inside a verification is a trail: entries of its own and, at its phases, further verifications
with trails of their own.  A verification of a contract that has one is refused, every other goes
its way, and each gives back the claims that it found.
-/

namespace TokenLaunch.Verification

open Session

variable {σ α β : Type}

/-! ## Trails -/

/-- What is done inside a verification, one after the other. -/
inductive Trail where
  | done
  /-- An entry of the verification itself. -/
  | own (a : Act) (rest : Trail)
  /-- Another verification, from its beginning to its end. -/
  | call (target : Target) (inside : Trail) (report : Report) (rest : Trail)

namespace Trail

/-- One trail after the other. -/
def append : Trail → Trail → Trail
  | done, next => next
  | own a rest, next => own a (rest.append next)
  | call target inside report rest, next => call target inside report (rest.append next)

/-- The entries of a trail in a journal. -/
def acts : Trail → List Act
  | done => []
  | own a rest => a :: rest.acts
  | call _ inside report rest => .enter :: (inside.acts ++ .leave report :: rest.acts)

/-- A trail of entries alone. -/
def owns : List Act → Trail
  | [] => done
  | a :: rest => own a (owns rest)

/-- An entry, and the contracts that are being verified when it is written, the innermost first. -/
structure Moment where
  active : List String
  act : Act

/-- The moments of a trail, where `active` are being verified. -/
def moments (active : List String) : Trail → List Moment
  | done => []
  | own a rest => ⟨active, a⟩ :: rest.moments active
  | call target inside report rest =>
    ⟨active, .enter⟩ :: (inside.moments (key target.contractAddress :: active)
      ++ ⟨active, .leave report⟩ :: rest.moments active)

theorem acts_append (t u : Trail) : (t.append u).acts = t.acts ++ u.acts := by
  induction t with
  | done => rfl
  | own a rest ih => rw [append, acts, ih, acts, List.cons_append]
  | call target inside report rest _ ih =>
    rw [append, acts, ih, acts]
    simp only [List.cons_append, List.append_assoc]

theorem acts_owns (as : List Act) : (owns as).acts = as := by
  induction as with
  | nil => rfl
  | cons a as ih => rw [owns, acts, ih]

end Trail

/-! ## Guarded verifications -/

def Nest.target : Nest → Target
  | mk target _ => target

/-- The verifications that begin inside, each with the index of its phase. -/
def Nest.inner : Nest → List (Nat × Nest)
  | mk _ inner => inner

/-- Those that begin at the phase with an index. -/
def dueAt (index : Nat) (inner : List (Nat × Nest)) : List Nest :=
  (inner.filter (·.1 = index)).map (·.2)

/-- A verification that begins while the contracts of `active` are verified: it is refused if its
own contract is among them, whatever the case of letters, and goes to an end if not. -/
structure Guarded (active : List String) (t : Target) (inside : Trail) (r : Report) : Prop where
  refused : key t.contractAddress ∈ active → inside = .done ∧
    r = ⟨.pending, none, 0, some ("Verification already in flight for " ++ t.contractAddress)⟩
  admitted : key t.contractAddress ∉ active →
    (∃ rest, inside = .own (.phase .submitting) rest) ∧ r.state.isTerminal = true

/-- An entry that a verification makes between its phases. -/
def isOwn : Act → Bool
  | .phase _ | .enter | .leave _ => false
  | _ => true

/-- The trails inside a verification where, with its own, the contracts of `active` are verified.
Those that are `due` begin next; others fall due at the phases, as `inner` has it.  Each runs with
the contracts of `active` claimed, and leaves them claimed. -/
inductive Follows (v : Verifier σ) :
    List (Nat × Nest) → List String → List Nest → Trail → Prop
  | done {inner : List (Nat × Nest)} {active : List String} : Follows v inner active [] .done
  | own {inner : List (Nat × Nest)} {active : List String} {a : Act} {rest : Trail}
      (ha : isOwn a = true) (hrest : Follows v inner active [] rest) :
      Follows v inner active [] (.own a rest)
  | phase {inner : List (Nat × Nest)} {active : List String} {p : Phase} {rest : Trail}
      (hrest : Follows v inner active (dueAt p.index inner) rest) :
      Follows v inner active [] (.own (.phase p) rest)
  | call {inner : List (Nat × Nest)} {active : List String} {n : Nest} {due : List Nest}
      {inside rest : Trail} {r : Report} {w w' : σ}
      (hdoes : Does (n.run v) active w inside.acts r w')
      (hguarded : Guarded active n.target inside r)
      (hinside : Follows v n.inner (key n.target.contractAddress :: active) [] inside)
      (hrest : Follows v inner active due rest) :
      Follows v inner active (n :: due) (.call n.target inside r rest)

variable {v : Verifier σ} {inner : List (Nat × Nest)} {active : List String}

theorem Follows.append {due : List Nest} {t u : Trail} (ht : Follows v inner active due t)
    (hu : Follows v inner active [] u) : Follows v inner active due (t.append u) := by
  induction ht with
  | done => exact hu
  | own ha _ ih => exact .own ha (ih hu)
  | phase _ ih => exact .phase (ih hu)
  | call hdoes hguarded hinside _ _ ih => exact .call hdoes hguarded hinside (ih hu)

theorem follows_owns {as : List Act} (h : ∀ a ∈ as, isOwn a = true) :
    Follows v inner active [] (.owns as) := by
  induction as with
  | nil => exact .done
  | cons a as ih =>
    obtain ⟨ha, has⟩ := List.forall_mem_cons.mp h
    exact .own ha (ih has)

/-- Where a contract is being verified, no other verification of it does anything. -/
theorem Follows.nodup {due : List Nest} {t : Trail} (h : Follows v inner active due t)
    (hactive : active.Nodup) : ∀ m ∈ t.moments active, m.active.Nodup := by
  induction h with
  | done => simp [Trail.moments]
  | own _ _ ih => exact List.forall_mem_cons.mpr ⟨hactive, ih hactive⟩
  | phase _ ih => exact List.forall_mem_cons.mpr ⟨hactive, ih hactive⟩
  | @call _ active n _ _ _ _ _ _ _ hguarded _ _ ihInside ih =>
    refine List.forall_mem_cons.mpr ⟨hactive, List.forall_mem_append.mpr
      ⟨?_, List.forall_mem_cons.mpr ⟨hactive, ih hactive⟩⟩⟩
    by_cases hmem : key n.target.contractAddress ∈ active
    · rw [(hguarded.refused hmem).1]
      simp [Trail.moments]
    · exact ihInside (List.nodup_cons.mpr ⟨hmem, hactive⟩)

/-! ## Parts of a verification -/

/-- From all services, `x` leaves a trail that follows and gives a value of `Q`. -/
def Leaves (v : Verifier σ) (inner : List (Nat × Nest)) (active : List String) (Q : α → Prop)
    (x : Run σ α) : Prop :=
  ∀ w, ∃ t a w', Does x active w t.acts a w' ∧ Follows v inner active [] t ∧ Q a

variable {Q : α → Prop} {R : β → Prop}

theorem leaves_pure {a : α} (h : Q a) : Leaves v inner active Q (pure a) :=
  fun w => ⟨.done, a, w, does_pure a, .done, h⟩

theorem Leaves.bind {x : Run σ α} {f : α → Run σ β} (hx : Leaves v inner active Q x)
    (hf : ∀ a, Q a → Leaves v inner active R (f a)) : Leaves v inner active R (x >>= f) := by
  intro w
  obtain ⟨t, a, w₁, hdoes, ht, ha⟩ := hx w
  obtain ⟨u, b, w₂, hdoes', hu, hb⟩ := hf a ha w₁
  refine ⟨t.append u, b, w₂, ?_, ht.append hu, hb⟩
  rw [Trail.acts_append]
  exact hdoes.bind hdoes'

theorem leaves_of_does {x : Run σ α} (h : ∀ w, ∃ as a w', Does x active w as a w' ∧
    (∀ e ∈ as, isOwn e = true) ∧ Q a) : Leaves v inner active Q x := by
  intro w
  obtain ⟨as, a, w', hdoes, has, ha⟩ := h w
  refine ⟨.owns as, a, w', ?_, follows_owns has, ha⟩
  rwa [Trail.acts_owns]

theorem leaves_sleep (seconds : Nat) :
    Leaves v inner active (fun _ => True) (sleep seconds : Run σ Unit) :=
  leaves_of_does fun w => ⟨[.sleep seconds], (), w, does_act _, by simp [isOwn], trivial⟩

theorem leaves_submit (t : Target) : Leaves v inner active (fun _ => True) (v.submit t) := by
  refine leaves_of_does fun w => ?_
  obtain ⟨as, r, w', hdoes, hway⟩ := v.exists_submits t active w
  refine ⟨as, r, w', hdoes, ?_, trivial⟩
  cases hway with
  | unencoded => simp
  | unflattened | answered => simp [isOwn]

/-- What a check of the status gives, it gives for good. -/
def Ended (o : Option (VerificationState × String)) : Prop :=
  ∀ x ∈ o, x.1.isTerminal = true

theorem leaves_checkStatus (t : Target) (guid : String) :
    Leaves v inner active Ended (v.checkStatus t guid) := by
  refine leaves_of_does fun w => ?_
  rcases hanswer : v.explorer.status t.endpoint guid w with ⟨answer, w'⟩
  refine ⟨[.check t.endpoint guid], Verifier.reading answer, w',
    Verifier.does_checkStatus hanswer, by simp [isOwn], ?_⟩
  intro x hx
  cases answer with
  | error e => cases hx
  | ok text =>
    obtain ⟨state, hstate, rfl⟩ := Option.map_eq_some_iff.mp hx
    exact (classify?_eq_some_iff.mp hstate).isTerminal

theorem leaves_rounds {γ : Type} {P : γ → Prop} {pause : Run σ Unit}
    {check : Nat → Run σ (Option γ)} (hpause : Leaves v inner active (fun _ => True) pause)
    (hcheck : ∀ k, Leaves v inner active (fun o => ∀ x ∈ o, P x) (check k)) (remaining k : Nat) :
    Leaves v inner active (fun o => ∀ x ∈ o, P x.1)
      (Polling.rounds pause check remaining k) := by
  induction remaining generalizing k with
  | zero => exact leaves_pure (by simp)
  | succ remaining ih =>
    rw [Polling.rounds_succ]
    refine hpause.bind fun _ _ => (hcheck k).bind fun o ho => ?_
    cases o with
    | none => exact ih (k + 1)
    | some x =>
      refine leaves_pure ?_
      rintro _ ⟨⟩
      exact ho x rfl

theorem leaves_follow {onPhase : Phase → Run σ Unit}
    (hphase : ∀ p, Leaves v inner active (fun _ => True) (onPhase p)) (t : Target)
    (guid : String) :
    Leaves v inner active (fun r => r.state.isTerminal = true) (v.follow t onPhase guid) := by
  have hcheck : ∀ k, Leaves v inner active Ended
      (do onPhase (.polling k v.policy.maxAttempts); v.checkStatus t guid) :=
    fun k => (hphase _).bind fun _ _ => leaves_checkStatus t guid
  unfold Verifier.follow Polling.run
  refine (hphase _).bind fun _ _ => (leaves_sleep _).bind fun _ _ => ?_
  rw [bind_assoc]
  refine (leaves_rounds (leaves_sleep _) hcheck _ _).bind fun o ho => ?_
  cases o with
  | none => exact leaves_pure rfl
  | some x => exact leaves_pure (ho x rfl)

/-- Behind its first phase, a verification goes to an end. -/
theorem exists_rest {onPhase : Phase → Run σ Unit}
    (hphase : ∀ p, Leaves v inner active (fun _ => True) (onPhase p)) (t : Target) :
    ∃ x, v.attempt t onPhase = (do onPhase .submitting; x) ∧
      Leaves v inner active (fun r : Report => r.state.isTerminal = true) x := by
  refine ⟨_, rfl, (leaves_submit t).bind fun answer _ => ?_⟩
  match answer with
  | .error e => exact leaves_pure rfl
  | .ok .alreadyVerified => exact leaves_pure rfl
  | .ok (.queued guid) => exact leaves_follow hphase t guid

/-! ## Whole verifications -/

/-- Where its contract is being verified, a verification changes nothing. -/
theorem run_apply_of_mem {n : Nest} {s : Session σ}
    (h : key n.target.contractAddress ∈ s.inFlight) :
    n.run v s = (.refused n.target.contractAddress, s) := by
  obtain ⟨t, inner⟩ := n
  rw [Nest.run]
  exact Verifier.verify_apply_of_mem h

/-- What a verification does at a phase. -/
def atPhase (v : Verifier σ) (inner : List (Nat × Nest)) (p : Phase) : Run σ Unit := do
  act (.phase p)
  Nest.runAt v p.index inner

theorem run_mk (v : Verifier σ) (t : Target) (inner : List (Nat × Nest)) :
    Nest.run v (.mk t inner) = v.verify t (atPhase v inner) := by
  rw [Nest.run]
  rfl

mutual
/-- A verification leaves a trail, and the claims as they were. -/
theorem exists_run (v : Verifier σ) (n : Nest) (held : List String) (w : σ) :
    ∃ inside r w', Does (n.run v) held w inside.acts r w' ∧ Guarded held n.target inside r ∧
      Follows v n.inner (key n.target.contractAddress :: held) [] inside := by
  match n with
  | .mk t inner =>
    by_cases hheld : key t.contractAddress ∈ held
    · refine ⟨.done, .refused t.contractAddress, w, ?_, ?_, .done⟩
      · intro journal
        rw [run_apply_of_mem hheld, Trail.acts, List.append_nil]
        rfl
      · exact ⟨fun _ => ⟨rfl, rfl⟩, fun hno => absurd hheld hno⟩
    · have hat (p : Phase) (w : σ) : ∃ u w', Does (atPhase v inner p)
          (key t.contractAddress :: held) w (Trail.own (.phase p) u).acts () w' ∧
          Follows v inner (key t.contractAddress :: held) [] (.own (.phase p) u) := by
        obtain ⟨u, w', hdoes, hfollows⟩ :=
          exists_runAt v inner (key t.contractAddress :: held) p.index inner w
        exact ⟨u, w', (does_act _).bind hdoes, .phase hfollows⟩
      have hphase (p : Phase) : Leaves v inner (key t.contractAddress :: held) (fun _ => True)
          (atPhase v inner p) := by
        intro w
        obtain ⟨u, w', hdoes, hfollows⟩ := hat p w
        exact ⟨_, (), w', hdoes, hfollows, trivial⟩
      obtain ⟨u, w₁, hfirst, hu⟩ := hat .submitting w
      obtain ⟨x, hattempt, hx⟩ := exists_rest hphase t
      obtain ⟨rest, r, w₂, hdoes, hrest, hterminal⟩ := hx w₁
      refine ⟨.own (.phase .submitting) (u.append rest), r, w₂, ?_, ?_, hu.append hrest⟩
      · rw [run_mk]
        refine Verifier.does_verify hheld ?_
        rw [hattempt, Trail.acts, Trail.acts_append]
        exact hfirst.bind hdoes
      · exact ⟨fun hmem => absurd hmem hheld, fun _ => ⟨⟨_, rfl⟩, hterminal⟩⟩

/-- So do those that begin at one phase, one after the other. -/
theorem exists_runAt (v : Verifier σ) (inner : List (Nat × Nest)) (active : List String)
    (index : Nat) (ns : List (Nat × Nest)) (w : σ) :
    ∃ t w', Does (Nest.runAt v index ns) active w t.acts () w' ∧
      Follows v inner active (dueAt index ns) t := by
  match ns with
  | [] => exact ⟨.done, w, does_pure (), .done⟩
  | (i, n) :: ns =>
    rw [Nest.runAt]
    by_cases hi : i = index
    · obtain ⟨inside, r, w₁, hrun, hguarded, hinside⟩ := exists_run v n active w
      obtain ⟨rest, w₂, hns, hrest⟩ := exists_runAt v inner active index ns w₁
      have hdue : dueAt index ((i, n) :: ns) = n :: dueAt index ns := by
        simp [dueAt, hi]
      rw [if_pos hi, hdue]
      exact ⟨.call n.target inside r rest, w₂,
        (does_act .enter).bind (hrun.bind ((does_act (.leave r)).bind hns)),
        .call hrun hguarded hinside hrest⟩
    · obtain ⟨rest, w₁, hns, hrest⟩ := exists_runAt v inner active index ns w
      have hdue : dueAt index ((i, n) :: ns) = dueAt index ns := by
        simp [dueAt, hi]
      rw [if_neg hi, hdue]
      exact ⟨rest, w₁, hns, hrest⟩
end

end TokenLaunch.Verification
