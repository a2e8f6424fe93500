import TokenLaunch.Proofs.Ledger.Execution

/-!
# Stable relations

Relations between states that no assignment breaks.  Where the functions that a body calls keep
such a relation too, a whole execution keeps it, up to each of its calls and up to its end.
-/

namespace TokenLaunch.Solidity

/-! ## Called functions -/

namespace Statement

mutual
/-- The names of the functions that a statement can call for their effect. -/
def called : Statement → List String
  | eval (.call g _) => [g]
  | .when _ body => calledAll body
  | _ => []

def calledAll : List Statement → List String
  | [] => []
  | s :: ss => s.called ++ calledAll ss
end

theorem mem_calledAll {g : String} {ss : List Statement} :
    g ∈ calledAll ss ↔ ∃ s ∈ ss, g ∈ s.called := by
  induction ss with
  | nil => simp [calledAll]
  | cons s ss ih => simp [calledAll, ih]

end Statement

/-! ## Assignments -/

/-- An assignment changes the variables of a token, and nothing else of it. -/
structure Assigned (t t' : Token) : Prop where
  paused : t'.paused = t.paused
  supply : t'.supply = t.supply
  balance : t'.balance = t.balance

namespace Frame

variable {f : Frame} {t t' : Token}

theorem assigned_store {x : String} {v : Value} (h : f.store t x v = .ok t') : Assigned t t' := by
  unfold store at h
  split at h
  · cases h
    exact ⟨rfl, rfl, rfl⟩
  · cases h
    exact ⟨rfl, rfl, rfl⟩
  · cases h

theorem assigned_storeEntry {x : String} {key v : Value} (h : f.storeEntry t x key v = .ok t') :
    Assigned t t' := by
  unfold storeEntry at h
  split at h
  · cases h
    exact ⟨rfl, rfl, rfl⟩
  · cases h
    exact ⟨rfl, rfl, rfl⟩
  · cases h

theorem assigned_assign {target : Expression} {v : Value} (h : f.assign t target v = .ok t') :
    Assigned t t' := by
  unfold assign at h
  split at h
  · split at h
    · cases h
    · exact assigned_store h
  · split at h
    · exact assigned_storeEntry h
    · cases h
  · cases h

end Frame

/-! ## Stability -/

/-- A relation between an earlier and a later state that assignments keep. -/
structure Stable (R : Token → Token → Prop) : Prop where
  refl : ∀ t, R t t
  trans : ∀ {t t' t''}, R t t' → R t' t'' → R t t''
  assigned : ∀ {t t'}, Assigned t t' → R t t'

/-- What an execution from a state does where the called functions keep a relation: it calls only
these functions, the relation holds up to every call and up to the end, and it ends well only
where every call did. -/
structure Keeps (R : Token → Token → Prop) (callee : Callee) (names : List String) (t : Token)
    (r : Run) : Prop where
  named : ∀ k ∈ r.calls, k.function ∈ names
  found : ∀ k ∈ r.calls, R t k.found
  left : ∀ t', r.result = .ok t' → R t t'
  made : ∀ t', r.result = .ok t' → ∀ k ∈ r.calls,
    ∃ t'', callee k.function k.args k.found = .ok t''

namespace Keeps

open Run

variable {R : Token → Token → Prop} {callee : Callee} {names : List String} {t t' : Token}
  {r : Run}

theorem goesOn (h : R t t') : Keeps R callee names t (quiet (.goesOn t')) where
  named _ hk := absurd hk List.not_mem_nil
  found _ hk := absurd hk List.not_mem_nil
  left t'' heq := by
    cases heq
    exact h
  made _ _ _ hk := absurd hk List.not_mem_nil

theorem leaves (h : R t t') : Keeps R callee names t (quiet (.leaves t')) where
  named _ hk := absurd hk List.not_mem_nil
  found _ hk := absurd hk List.not_mem_nil
  left t'' heq := by
    cases heq
    exact h
  made _ _ _ hk := absurd hk List.not_mem_nil

theorem fails (e : Fault) : Keeps R callee names t (quiet (.fails e)) where
  named _ hk := absurd hk List.not_mem_nil
  found _ hk := absurd hk List.not_mem_nil
  left _ heq := by cases heq
  made _ heq := by cases heq

theorem needing {α : Type} {v : Except Fault α} {use : α → Run}
    (h : ∀ a, v = .ok a → Keeps R callee names t (use a)) :
    Keeps R callee names t (needing v use) := by
  cases v with
  | ok a => exact h a rfl
  | error e => exact fails e

theorem calling (hrefl : R t t) {g : String} {vs : List Value} (hg : g ∈ names)
    (h : ∀ t', callee g vs t = .ok t' → R t t') :
    Keeps R callee names t (calling callee g vs t) where
  named k hk := by
    obtain rfl := List.mem_singleton.mp hk
    exact hg
  found k hk := by
    obtain rfl := List.mem_singleton.mp hk
    exact hrefl
  left t' heq := h t' (by rwa [result_calling] at heq)
  made t' heq k hk := by
    obtain rfl := List.mem_singleton.mp hk
    exact ⟨t', by rwa [result_calling] at heq⟩

theorem andThen (hR : Stable R) {next : Token → Run} (h : Keeps R callee names t r)
    (hnext : ∀ t', Keeps R callee names t' (next t')) :
    Keeps R callee names t (r.andThen next) := by
  obtain ⟨calls, ending⟩ := r
  cases ending with
  | leaves t' => exact h
  | fails e => exact h
  | goesOn t' =>
    have hgoes : R t t' := h.left t' rfl
    refine ⟨fun k hk => ?_, fun k hk => ?_, fun t'' heq => ?_, fun t'' heq k hk => ?_⟩
    · exact (List.mem_append.mp hk).elim (h.named k) ((hnext t').named k)
    · exact (List.mem_append.mp hk).elim (h.found k) fun hk =>
        hR.trans hgoes ((hnext t').found k hk)
    · exact hR.trans hgoes ((hnext t').left t'' heq)
    · exact (List.mem_append.mp hk).elim (h.made t' rfl k) ((hnext t').made t'' heq k)

end Keeps

/-! ## Executions -/

namespace Statement

variable {R : Token → Token → Prop} {callee : Callee} {names : List String}

mutual
/-- An execution keeps a stable relation that the called functions keep. -/
theorem keeps_exec (hR : Stable R) (hcallee : ∀ g vs t t', callee g vs t = .ok t' → R t t')
    (f : Frame) (t : Token) : ∀ s : Statement, (∀ g ∈ s.called, g ∈ names) →
      Keeps R callee names t (s.exec callee f t)
  | .eval (.call g args), h =>
    .needing fun vs _ => .calling (hR.refl t) (h g List.mem_cons_self) (hcallee g vs t)
  | .assign target value, _ =>
    .needing fun v _ => .needing fun t' ht => .goesOn (hR.assigned (Frame.assigned_assign ht))
  | .emit _ args, _ => .needing fun _ _ => .goesOn (hR.refl t)
  | .require condition message, _ =>
    .needing fun b _ => by
      cases b with
      | true => exact .goesOn (hR.refl t)
      | false => exact .fails _
  | .leave, _ => .leaves (hR.refl t)
  | .returnValue e, _ => .needing fun _ _ => .leaves (hR.refl t)
  | .when condition body, h =>
    .needing fun b _ => by
      cases b with
      | true => exact keeps_execAll hR hcallee f t body h
      | false => exact .goesOn (hR.refl t)
  | .eval (.name _), _ | .eval (.number _), _ | .eval (.text _), _ | .eval (.entry _ _), _
  | .eval (.not _), _ | .eval (.binary _ _ _), _ => .fails .stuck

theorem keeps_execAll (hR : Stable R) (hcallee : ∀ g vs t t', callee g vs t = .ok t' → R t t')
    (f : Frame) (t : Token) : ∀ ss : List Statement, (∀ g ∈ calledAll ss, g ∈ names) →
      Keeps R callee names t (execAll callee f t ss)
  | [], _ => .goesOn (hR.refl t)
  | s :: ss, h =>
    .andThen hR (keeps_exec hR hcallee f t s fun g hg => h g (List.mem_append_left _ hg)) fun t' =>
      keeps_execAll hR hcallee f t' ss fun g hg => h g (List.mem_append_right _ hg)
end

end Statement

end TokenLaunch.Solidity
