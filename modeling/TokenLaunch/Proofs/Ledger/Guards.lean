import TokenLaunch.Proofs.Functions
import TokenLaunch.Proofs.Ledger.Declared

/-!
# Guards on transfers

What each statement of the hook of transfers lets pass.  A guard lets an execution go on where its
condition holds and fails where it does not, and guards one after the other are the conjunction of
their conditions.
-/

namespace TokenLaunch

open Solidity

/-- Tokens that change hands; the zero address stands for none, in a mint and in a burn. -/
structure Move where
  payer : Address
  payee : Address
  value : Word
deriving Repr

namespace Move

/-- The values of the parameters of the hook. -/
def values (m : Move) : List Value := [.account m.payer, .account m.payee, .word m.value]

def args (m : Move) : List (String × Value) := ["from", "to", "value"].zip m.values

end Move

namespace Solidity

open Run

/-! ## Executions under a condition -/

/-- An execution that goes on with `t'` where `p` holds, and fails otherwise. -/
structure Guards (r : Run) (p : Prop) (t' : Token) : Prop where
  passes : p → r = quiet (.goesOn t')
  stops : ¬ p → ∃ e, e ≠ .stuck ∧ r = quiet (.fails e)

namespace Guards

variable {r : Run} {next : Token → Run} {p q : Prop} {t t' t'' : Token} {callee : Callee}
  {f : Frame}

theorem goesOn : Guards (quiet (.goesOn t)) True t where
  passes _ := rfl
  stops h := absurd trivial h

/-- Guards one after the other ask for both conditions. -/
theorem andThen (h : Guards r p t') (h' : Guards (next t') q t'') :
    Guards (r.andThen next) (p ∧ q) t'' where
  passes := by
    rintro ⟨hp, hq⟩
    rw [h.passes hp, andThen_goesOn, h'.passes hq]
  stops := by
    intro hno
    by_cases hp : p
    · obtain ⟨e, he, hfails⟩ := h'.stops fun hq => hno ⟨hp, hq⟩
      exact ⟨e, he, by rw [h.passes hp, andThen_goesOn, hfails]⟩
    · obtain ⟨e, he, hfails⟩ := h.stops hp
      exact ⟨e, he, by rw [hfails, andThen_fails]⟩

theorem congr (h : Guards r p t') (hpq : p ↔ q) : Guards r q t' where
  passes hq := h.passes (hpq.mpr hq)
  stops hq := h.stops fun hp => hq (hpq.mp hp)

theorem single {s : Statement} (h : Guards (s.exec callee f t) p t') :
    Guards (Statement.execAll callee f t [s]) p t' := by
  rwa [Statement.execAll_singleton]

theorem cons {s : Statement} {ss : List Statement} (h : Guards (s.exec callee f t) p t')
    (h' : Guards (Statement.execAll callee f t' ss) q t'') :
    Guards (Statement.execAll callee f t (s :: ss)) (p ∧ q) t'' :=
  h.andThen h'

theorem append {ss ss' : List Statement} (h : Guards (Statement.execAll callee f t ss) p t')
    (h' : Guards (Statement.execAll callee f t' ss') q t'') :
    Guards (Statement.execAll callee f t (ss ++ ss')) (p ∧ q) t'' := by
  rw [Statement.execAll_append]
  exact h.andThen h'

/-- A requirement guards where its condition holds, and where it is false or overflows if not. -/
theorem require {condition : Expression} {message : String}
    (hyes : p → condition.eval f t = .ok (.bool true))
    (hno : ¬ p → condition.eval f t = .ok (.bool false) ∨ condition.eval f t = .error .overflow) :
    Guards (Statement.exec callee f t (.require condition message)) p t where
  passes hp := by
    rw [Statement.exec, hyes hp]
    rfl
  stops hp := by
    rcases hno hp with hfalse | hoverflow
    · refine ⟨.reverted message, by simp, ?_⟩
      rw [Statement.exec, hfalse]
      rfl
    · refine ⟨.overflow, by simp, ?_⟩
      rw [Statement.exec, hoverflow]
      rfl

theorem require_decide {condition : Expression} {message : String} [Decidable p]
    (h : condition.eval f t = .ok (.bool (decide p))) :
    Guards (Statement.exec callee f t (.require condition message)) p t := by
  refine require (fun hp => ?_) (fun hp => .inl ?_)
  · rw [h, decide_eq_true hp]
  · rw [h, decide_eq_false hp]

/-- Guards under a condition only matter where it holds, and change nothing where it does not. -/
theorem whenever {condition : Expression} {body : List Statement} {q : Prop} [Decidable q]
    (h : condition.eval f t = .ok (.bool (decide q)))
    (hbody : q → Guards (Statement.execAll callee f t body) p t') :
    Guards (Statement.exec callee f t (.when condition body)) (q → p) (if q then t' else t) := by
  by_cases hq : q
  · have hexec : Statement.exec callee f t (.when condition body) =
        Statement.execAll callee f t body := by
      rw [Statement.exec, h, decide_eq_true hq]
      rfl
    rw [hexec, if_pos hq]
    exact (hbody hq).congr ⟨fun hp _ => hp, fun hp => hp hq⟩
  · have hexec : Statement.exec callee f t (.when condition body) = quiet (.goesOn t) := by
      rw [Statement.exec, h, decide_eq_false hq]
      rfl
    rw [hexec, if_neg hq]
    exact goesOn.congr ⟨fun _ hp => absurd hp hq, fun _ => trivial⟩

/-- A guard that is there only for a chosen feature. -/
theorem chosen {ss : List Statement} {q : Prop} [Decidable q]
    (h : q → Guards (Statement.execAll callee f t ss) p t') :
    Guards (Statement.execAll callee f t (if q then ss else [])) (q → p) (if q then t' else t) := by
  by_cases hq : q
  · rw [if_pos hq, if_pos hq]
    exact (h hq).congr ⟨fun hp _ => hp, fun hp => hp hq⟩
  · rw [if_neg hq, if_neg hq]
    exact goesOn.congr ⟨fun _ hp => absurd hp hq, fun _ => trivial⟩

theorem optional {ss : List Statement} {q : Prop} [Decidable q]
    (h : q → Guards (Statement.execAll callee f t ss) p t) :
    Guards (Statement.execAll callee f t (if q then ss else [])) (q → p) t := by
  have hchosen := chosen h
  rwa [ite_self] at hchosen

end Guards

end Solidity

namespace Synthesis

open Solidity.Expression

/-! ## What the hook reads -/

/-- The frame of the hook. -/
def hookFrame (c : TokenConfig) (sender : Address) (timestamp : Word) (m : Move) : Frame :=
  ⟨c.contract.declarations, m.args, sender, timestamp⟩

variable {c : TokenConfig} {sender : Address} {timestamp : Word} {m : Move} {t : Token}
  {callee : Callee}

theorem eval_from (c : TokenConfig) (sender : Address) (timestamp : Word) (m : Move) (t : Token) :
    (name "from").eval (hookFrame c sender timestamp m) t = .ok (.account m.payer) := by
  simp [eval, Frame.read, hookFrame, Move.args, Move.values]

theorem eval_to (c : TokenConfig) (sender : Address) (timestamp : Word) (m : Move) (t : Token) :
    (name "to").eval (hookFrame c sender timestamp m) t = .ok (.account m.payee) := by
  simp [eval, Frame.read, hookFrame, Move.args, Move.values, List.lookup_cons]

theorem eval_value (c : TokenConfig) (sender : Address) (timestamp : Word) (m : Move) (t : Token) :
    (name "value").eval (hookFrame c sender timestamp m) t = .ok (.word m.value) := by
  simp [eval, Frame.read, hookFrame, Move.args, Move.values, List.lookup_cons]

theorem eval_timestamp : (name "block.timestamp").eval (hookFrame c sender timestamp m) t =
    .ok (.word timestamp) := by
  have hargs : m.args.lookup "block.timestamp" = none := Frame.lookup_zip_of_notMem (by decide)
  simp [eval, Frame.read, hookFrame, hargs]

theorem eval_variable {x : String} (h : x ∉ ["from", "to", "value"] ++ Frame.reserved) :
    (name x).eval (hookFrame c sender timestamp m) t =
      (hookFrame c sender timestamp m).variableOf t x := by
  rw [List.mem_append, not_or] at h
  rw [eval, Frame.read_eq_variableOf (Frame.lookup_zip_of_notMem h.1) h.2]

variable {b : StateBlock} {x : String}

theorem eval_enabledFlag (hb : Declares c b) (hd : enabledFlag x ∈ b.flatten)
    (hx : x ∉ ["from", "to", "value"] ++ Frame.reserved) :
    (name x).eval (hookFrame c sender timestamp m) t = .ok (.bool true) := by
  have hfound : (hookFrame c sender timestamp m).declared? x = some (enabledFlag x) :=
    declared?_of_declares hb hd rfl
  rw [eval_variable hx, Frame.variableOf, hfound]
  simp [enabledFlag, Frame.literal]

theorem eval_wordVariable {n : Nat} (hb : Declares c b) (hd : wordVariable x n ∈ b.flatten)
    (hx : x ∉ ["from", "to", "value"] ++ Frame.reserved) :
    (name x).eval (hookFrame c sender timestamp m) t = .ok (.word (t.word x)) := by
  have hfound : (hookFrame c sender timestamp m).declared? x = some (wordVariable x n) :=
    declared?_of_declares hb hd rfl
  rw [eval_variable hx, Frame.variableOf, hfound]
  rfl

theorem eval_flagEntry {key : Expression} {a : Address} (hb : Declares c b)
    (hd : privateMapping x .bool ∈ b.flatten)
    (hkey : key.eval (hookFrame c sender timestamp m) t = .ok (.account a)) :
    (entry x key).eval (hookFrame c sender timestamp m) t = .ok (.bool (t.flagEntry x a)) := by
  have hfound : (hookFrame c sender timestamp m).declared? x = some (privateMapping x .bool) :=
    declared?_of_declares hb hd rfl
  rw [eval, hkey]
  simp only [Frame.entryOf, hfound]
  rfl

theorem eval_wordEntry {key : Expression} {a : Address} (hb : Declares c b)
    (hd : privateMapping x (.uint 256) ∈ b.flatten)
    (hkey : key.eval (hookFrame c sender timestamp m) t = .ok (.account a)) :
    (entry x key).eval (hookFrame c sender timestamp m) t = .ok (.word (t.wordEntry x a)) := by
  have hfound : (hookFrame c sender timestamp m).declared? x =
      some (privateMapping x (.uint 256)) :=
    declared?_of_declares hb hd rfl
  rw [eval, hkey]
  simp only [Frame.entryOf, hfound]
  rfl

/-! ## Conditions -/

theorem eval_zero : (call "address" [.number 0]).eval (hookFrame c sender timestamp m) t =
    .ok (.account 0) := by
  have hzero : Frame.literal (.number 0) = .ok (.word 0) := by
    rw [Frame.literal, if_pos (Nat.two_pow_pos 256)]
    rfl
  have haddress : Frame.answer (hookFrame c sender timestamp m) t "address" [.word 0] =
      .ok (.account 0) := rfl
  simp only [eval, evalAll, hzero, haddress]

/-- The zero address is written as a conversion of zero. -/
theorem eval_isZero {a : Address}
    (hx : (name x).eval (hookFrame c sender timestamp m) t = .ok (.account a)) :
    (isZero x).eval (hookFrame c sender timestamp m) t = .ok (.bool (decide (a = 0))) := by
  rw [isZero, eval_binary (by decide) (by decide), hx, eval_zero]
  rfl

theorem eval_isNotZero {a : Address}
    (hx : (name x).eval (hookFrame c sender timestamp m) t = .ok (.account a)) :
    (isNotZero x).eval (hookFrame c sender timestamp m) t = .ok (.bool (decide (a ≠ 0))) := by
  rw [isNotZero, eval_binary (by decide) (by decide), hx, eval_zero]
  rfl

variable {f : Frame} {left right : Expression} {p q : Prop} [Decidable p] [Decidable q]

/-- Connectives of operands that have values are the connectives of logic; no operand here fails. -/
theorem eval_and (hl : left.eval f t = .ok (.bool (decide p)))
    (hr : right.eval f t = .ok (.bool (decide q))) :
    (binary .and left right).eval f t = .ok (.bool (decide (p ∧ q))) := by
  rw [eval, hl, hr]
  by_cases hp : p <;> simp [connect, truth, hp, Except.map]

theorem eval_or (hl : left.eval f t = .ok (.bool (decide p)))
    (hr : right.eval f t = .ok (.bool (decide q))) :
    (binary .or left right).eval f t = .ok (.bool (decide (p ∨ q))) := by
  rw [eval, hl, hr]
  by_cases hp : p <;> simp [connect, truth, hp, Except.map]

theorem eval_not {e : Expression} {b : Bool} (h : e.eval f t = .ok (.bool b)) :
    (not e).eval f t = .ok (.bool (decide (b = false))) := by
  rw [eval, h]
  cases b <;> rfl

theorem eval_truth {e : Expression} {b : Bool} (h : e.eval f t = .ok (.bool b)) :
    e.eval f t = .ok (.bool (decide (b = true))) := by
  rw [h, Bool.decide_eq_true]

/-! ## Sums -/

/-- What the comparison of a sum with a bound gives: a sum that overflows is compared with
nothing. -/
def sumAtMost (v w bound : Word) : Except Fault Value :=
  if v.toNat + w.toNat < 2 ^ 256 then .ok (.bool (decide (v.toNat + w.toNat ≤ bound.toNat)))
  else .error .overflow

theorem eval_plus {v w : Word} (hl : left.eval f t = .ok (.word v))
    (hr : right.eval f t = .ok (.word w)) :
    (binary .plus left right).eval f t = sum v w := by
  rw [eval_binary (by decide) (by decide), hl, hr]
  rfl

theorem combine_sum_atMost (v w bound : Word) :
    combine .atMost (sum v w) (.ok (.word bound)) = sumAtMost v w bound := by
  unfold sum sumAtMost
  split
  · rename_i hfits
    simp [combine, operate, BitVec.le_def, BitVec.toNat_add_of_lt hfits]
  · rfl

theorem combine_atLeast_sum (v w bound : Word) :
    combine .atLeast (.ok (.word bound)) (sum v w) = sumAtMost v w bound := by
  unfold sum sumAtMost
  split
  · rename_i hfits
    simp [combine, operate, BitVec.le_def, BitVec.toNat_add_of_lt hfits]
  · rfl

/-- A sum that a word bounds does not overflow. -/
theorem guards_sumAtMost {condition : Expression} {message : String} {v w bound : Word}
    (h : condition.eval f t = sumAtMost v w bound) :
    Guards (Statement.exec callee f t (.require condition message))
      (v.toNat + w.toNat ≤ bound.toNat) t := by
  unfold sumAtMost at h
  refine Guards.require (fun hle => ?_) (fun hgt => ?_)
  · rw [h, if_pos (lt_of_le_of_lt hle bound.isLt), decide_eq_true hle]
  · rw [h, decide_eq_false hgt]
    split
    · exact .inl rfl
    · exact .inr rfl

end Synthesis

end TokenLaunch
