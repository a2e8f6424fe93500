import TokenLaunch.ConstructorArgs
import TokenLaunch.Proofs.Ledger.Policy
import TokenLaunch.Proofs.Ledger.Stability

/-!
# Tokens over a library

A generated contract builds on contracts that it inherits from.  They are no part of this
development: what a token takes from them is a parameter, and what they document about it is a
structure of laws.  On top of them stand the construction of a token, what may be done to it
afterwards, and the states that it can reach.
-/

namespace TokenLaunch

open Solidity

/-- What a token takes from the contracts that it inherits from. -/
structure Library where
  /-- The call of the hook that `_mint` makes. -/
  minting : Address → Word → Except Fault Move
  /-- The call of the hook that a transfer makes. -/
  transferring : Address → Address → Word → Except Fault Move
  /-- The call of the hook that a burn makes. -/
  burning : Address → Word → Except Fault Move
  /-- The hook of the bases. -/
  update : Move → Token → Except Fault Token
  pause : Token → Except Fault Token
  unpause : Token → Except Fault Token
  grantRole : String → Address → Token → Except Fault Token
  /-- Whom a guard lets in. -/
  admits : Guard → Address → Prop

namespace Library

/-- What the library documents, for a token with this cap or without one. -/
structure Documented (L : Library) (cap : Option Nat) : Prop where
  /-- A mint moves tokens from the zero address, and never to it. -/
  minting {payee : Address} {value : Word} {m : Move} :
    L.minting payee value = .ok m ↔ payee ≠ 0 ∧ m = ⟨0, payee, value⟩
  transferring {payer payee : Address} {value : Word} {m : Move} :
    L.transferring payer payee value = .ok m ↔ payer ≠ 0 ∧ payee ≠ 0 ∧ m = ⟨payer, payee, value⟩
  /-- A burn moves tokens to the zero address. -/
  burning {payer : Address} {value : Word} {m : Move} :
    L.burning payer value = .ok m ↔ payer ≠ 0 ∧ m = ⟨payer, 0, value⟩
  /-- Supply and balances are all that a move changes. -/
  moved {m : Move} {t t' : Token} (h : L.update m t = .ok t') :
    t' = { t with supply := t'.supply, balance := t'.balance }
  /-- A mint succeeds where the new supply is a word and within the cap. -/
  mints {m : Move} {t : Token} (hpayer : m.payer = 0) (hpayee : m.payee ≠ 0)
    (hword : t.supply.toNat + m.value.toNat < 2 ^ 256)
    (hcap : ∀ n, cap = some n → t.supply.toNat + m.value.toNat ≤ n) :
    ∃ t', L.update m t = .ok t'
  minted {m : Move} {t t' : Token} (hpayer : m.payer = 0) (hpayee : m.payee ≠ 0)
    (h : L.update m t = .ok t') : t'.supply.toNat = t.supply.toNat + m.value.toNat ∧
      t'.balance m.payee = t.balance m.payee + m.value
  transferred {m : Move} {t t' : Token} (hpayer : m.payer ≠ 0) (hpayee : m.payee ≠ 0)
    (h : L.update m t = .ok t') : t'.supply = t.supply
  /-- Nobody burns more than they hold. -/
  burns {m : Move} {t : Token} (hpayer : m.payer ≠ 0) (hpayee : m.payee = 0)
    (hvalue : m.value ≤ t.balance m.payer) : ∃ t', L.update m t = .ok t'
  burned {m : Move} {t t' : Token} (hpayer : m.payer ≠ 0) (hpayee : m.payee = 0)
    (h : L.update m t = .ok t') : t'.supply = t.supply - m.value
  paused {t t' : Token} (h : L.pause t = .ok t') : t' = { t with paused := true }
  unpaused {t t' : Token} (h : L.unpause t = .ok t') : t' = { t with paused := false }
  /-- Roles are not part of the ledger. -/
  granted (role : String) (a : Address) (t : Token) : L.grantRole role a t = .ok t

/-- A library that does what is documented, and lets in one account. -/
def plain (cap : Option Nat) (owner : Address) : Library where
  minting payee value :=
    if payee = 0 then .error (.reverted "ERC20InvalidReceiver") else .ok ⟨0, payee, value⟩
  transferring payer payee value :=
    if payer = 0 then .error (.reverted "ERC20InvalidSender")
    else if payee = 0 then .error (.reverted "ERC20InvalidReceiver")
    else .ok ⟨payer, payee, value⟩
  burning payer value :=
    if payer = 0 then .error (.reverted "ERC20InvalidSender") else .ok ⟨payer, 0, value⟩
  update m t :=
    let added (t : Token) := Function.update t.balance m.payee (t.balance m.payee + m.value)
    let taken := Function.update t.balance m.payer (t.balance m.payer - m.value)
    if m.payer = 0 then
      let supply := t.supply.toNat + m.value.toNat
      if 2 ^ 256 ≤ supply then .error .overflow
      else if cap.any (· < supply) then .error (.reverted "ERC20ExceededCap")
      else .ok { t with supply := t.supply + m.value, balance := added t }
    else if t.balance m.payer < m.value then .error (.reverted "ERC20InsufficientBalance")
    else if m.payee = 0 then .ok { t with supply := t.supply - m.value, balance := taken }
    else .ok { t with balance := added { t with balance := taken } }
  pause t := if t.paused then .error (.reverted "EnforcedPause") else .ok { t with paused := true }
  unpause t :=
    if t.paused then .ok { t with paused := false } else .error (.reverted "ExpectedPause")
  grantRole _ _ t := .ok t
  admits _ a := a = owner

theorem ite_error_eq_ok_iff {ε α : Type} {p : Prop} [Decidable p] {e : ε} {x : Except ε α}
    {a : α} : (if p then .error e else x) = .ok a ↔ ¬ p ∧ x = .ok a := by
  split_ifs with h <;> simp [h]

theorem documented_plain (cap : Option Nat) (owner : Address) :
    (plain cap owner).Documented cap where
  minting {payee value m} := by
    simp only [plain, ite_error_eq_ok_iff, Except.ok.injEq]
    exact and_congr_right' eq_comm
  transferring {payer payee value m} := by
    simp only [plain, ite_error_eq_ok_iff, Except.ok.injEq]
    exact and_congr_right' (and_congr_right' eq_comm)
  burning {payer value m} := by
    simp only [plain, ite_error_eq_ok_iff, Except.ok.injEq]
    exact and_congr_right' eq_comm
  moved h := by
    simp only [plain] at h
    split_ifs at h <;> cases h <;> rfl
  mints {m t} hpayer hpayee hword hcap := by
    have hbelow : ¬ cap.any (· < t.supply.toNat + m.value.toNat) = true := by
      rw [Bool.not_eq_true, Option.any_eq_false]
      exact fun n hn => decide_eq_false (Nat.not_lt.mpr (hcap n hn))
    simp only [plain, if_pos hpayer, ite_error_eq_ok_iff]
    exact ⟨_, Nat.not_le.mpr hword, hbelow, rfl⟩
  minted {m t t'} hpayer hpayee h := by
    simp only [plain, if_pos hpayer, ite_error_eq_ok_iff] at h
    obtain ⟨hfits, -, heq⟩ := h
    cases heq
    exact ⟨BitVec.toNat_add_of_lt (Nat.not_le.mp hfits), Function.update_self ..⟩
  transferred {m t t'} hpayer hpayee h := by
    simp only [plain, if_neg hpayer, if_neg hpayee, ite_error_eq_ok_iff] at h
    obtain ⟨-, heq⟩ := h
    cases heq
    rfl
  burns {m t} hpayer hpayee hvalue := by
    simp only [plain, if_neg hpayer, if_pos hpayee, ite_error_eq_ok_iff]
    exact ⟨_, BitVec.not_lt.mpr hvalue, rfl⟩
  burned {m t t'} hpayer hpayee h := by
    simp only [plain, if_neg hpayer, if_pos hpayee, ite_error_eq_ok_iff] at h
    obtain ⟨-, heq⟩ := h
    cases heq
    rfl
  paused h := by
    simp only [plain, ite_error_eq_ok_iff] at h
    cases h.2
    rfl
  unpaused {t t'} h := by
    simp only [plain] at h
    split_ifs at h
    cases h
    rfl
  granted _ _ _ := rfl

/-! ## What a token calls -/

/-- What the hook of a token passes on to the bases. -/
def passing (L : Library) : Callee := fun g vs t =>
  match g, vs with
  | "super._update", [.account payer, .account payee, .word value] =>
    L.update ⟨payer, payee, value⟩ t
  | _, _ => .error .stuck

variable (L : Library) (c : TokenConfig) (sender : Address) (timestamp : Word)

/-- A call of the hook of a token, or of that of the bases where the token has none. -/
def move (m : Move) (t : Token) : Except Fault Token :=
  match c.contract.functions.find? (·.name = "_update") with
  | some f => (f.invoke L.passing c.contract.declarations sender timestamp m.values t).result
  | none => L.update m t

/-- A function of the library that comes to a call of the hook. -/
def moving (m : Except Fault Move) (t : Token) : Except Fault Token :=
  match m with
  | .ok m => L.move c sender timestamp m t
  | .error e => .error e

/-- What the functions do that a token calls for their effect. -/
def callee : Callee := fun g vs t =>
  if g = "_mint" then
    match vs with
    | [.account payee, .word value] => L.moving c sender timestamp (L.minting payee value) t
    | _ => .error .stuck
  else if g = "_pause" then L.pause t
  else if g = "_unpause" then L.unpause t
  else if g = "_grantRole" then
    match vs with
    | [.role r, .account a] => L.grantRole r a t
    | _ => .error .stuck
  else .error .stuck

/-- The move that a call asks the hook for. -/
def asked? (k : Call) : Option Move :=
  if k.function = "_mint" then
    match k.args with
    | [.account payee, .word value] => (L.minting payee value).toOption
    | _ => none
  else none

/-- The moves that an execution asks the hook for, each with the state that it finds. -/
def asked (r : Run) : List (Move × Token) :=
  r.calls.filterMap fun k => (L.asked? k).map fun m => (m, k.found)

end Library

/-! ## Construction -/

/-- The values of the parameters of the constructor. -/
def ConstructorArgs.arguments (a : ConstructorArgs) : List Value :=
  [.text a.name, .text a.symbol, .word (BitVec.ofNat 256 a.initialSupply),
    .word (BitVec.ofNat 256 a.decimals)] ++ a.authority.toList.map .account

/-- A token before its construction: variables have their first values, and all else is nothing. -/
def Solidity.Contract.blank (k : Contract) : Token where
  paused := false
  supply := 0
  balance _ := 0
  word x :=
    match k.declarations.find? (·.name = x) with
    | some (.variable _ _ _ _ (some (.number n))) => BitVec.ofNat 256 n
    | _ => 0
  flag x :=
    match k.declarations.find? (·.name = x) with
    | some (.variable _ _ _ _ (some (.name "true"))) => true
    | _ => false
  wordEntry _ _ := 0
  flagEntry _ _ := false

namespace Library

variable (L : Library) (c : TokenConfig)

def constructorFrame (deployer : Address) (timestamp : Word) : Frame :=
  ⟨c.contract.declarations,
    (c.contract.params.map (·.name)).zip (ConstructorArgs.ofConfig c).arguments, deployer,
    timestamp⟩

/-- The construction of a token. -/
def construct (deployer : Address) (timestamp : Word) : Run :=
  Statement.execAll (L.callee c deployer timestamp) (constructorFrame c deployer timestamp)
    c.contract.blank c.contract.statements

end Library

/-! ## Operations -/

/-- What is done to a token after its construction.  Who spends an allowance makes the move that its
holder could have made. -/
inductive Operation where
  | call (f : Function) (args : List Value)
  | transfer (payer payee : Address) (value : Word)
  | burn (payer : Address) (value : Word)

namespace Library

variable (L : Library) (c : TokenConfig) (sender : Address) (timestamp : Word)

/-- What a token offers to a sender: its functions to those whom their guards let in, transfers,
and burns where they are chosen. -/
inductive Offered : Operation → Prop
  | call {f : Function} {args : List Value} (hf : f ∈ c.contract.functions)
      (hvisible : f.visibility ≠ .isInternal) (hguard : ∀ g, f.guard = some g → L.admits g sender) :
    Offered (.call f args)
  | transfer (payer payee : Address) (value : Word) : Offered (.transfer payer payee value)
  | burn (h : c.has .burn = true) (payer : Address) (value : Word) : Offered (.burn payer value)

/-- The body of a function over the library. -/
def invoked (f : Function) (args : List Value) (t : Token) : Run :=
  f.invoke (L.callee c sender timestamp) c.contract.declarations sender timestamp args t

def perform (o : Operation) (t : Token) : Except Fault Token :=
  match o with
  | .call f args => (L.invoked c sender timestamp f args t).result
  | .transfer payer payee value => L.moving c sender timestamp (L.transferring payer payee value) t
  | .burn payer value => L.moving c sender timestamp (L.burning payer value) t

/-- The moves that an operation asks the hook for, each with the state that it finds. -/
def asks (o : Operation) (t : Token) : List (Move × Token) :=
  match o with
  | .call f args => L.asked (L.invoked c sender timestamp f args t)
  | .transfer payer payee value => (L.transferring payer payee value).toOption.toList.map (·, t)
  | .burn payer value => (L.burning payer value).toOption.toList.map (·, t)

/-- The states of a token after its construction.  An operation that fails changes nothing. -/
inductive Reachable (deployer : Address) : Token → Prop
  | constructed {timestamp : Word} {t : Token}
      (h : (L.construct c deployer timestamp).result = .ok t) : Reachable deployer t
  | performed {sender : Address} {timestamp : Word} {o : Operation} {t t' : Token}
      (h : Reachable deployer t) (ho : L.Offered c sender o)
      (hperform : L.perform c sender timestamp o t = .ok t') : Reachable deployer t'

end Library

end TokenLaunch
