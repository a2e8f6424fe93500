import TokenLaunch.Proofs.Ledger.Moves

/-!
# The construction of a guarded token

The constructor of a guarded token mints the initial supply to the deployer, by the bypass of the
hook, and puts the deployer on the allowlist where there is one.
-/

namespace TokenLaunch

open Solidity Solidity.Run Synthesis

variable {L : Library} {c : TokenConfig} {d : Draft} {cap : Option Nat} {deployer : Address}
  {timestamp : Word} {t : Token}

namespace Library

/-! ## What the constructor reads -/

/-- The names that parameters of a constructor may have. -/
def parameterNames : List String := ["name_", "symbol_", "initialSupply", "", "initialAuthority"]

theorem lookup_constructorFrame {x : String} (h : x ∉ parameterNames) :
    (constructorFrame c deployer timestamp).args.lookup x = none := by
  refine Frame.lookup_zip_of_notMem fun hmem => h ?_
  have hparams : ∀ p ∈ params c, p.name ∈ parameterNames := by
    unfold params
    split <;> decide
  obtain ⟨p, hp, rfl⟩ := List.mem_map.mp hmem
  exact hparams p hp

theorem eval_sender : sender.eval (constructorFrame c deployer timestamp) t =
    .ok (.account deployer) := by
  have hargs : (constructorFrame c deployer timestamp).args.lookup "msg.sender" = none :=
    lookup_constructorFrame (by decide)
  have hsender : (constructorFrame c deployer timestamp).sender = deployer := rfl
  simp [sender, Expression.eval, Frame.read, hargs, hsender]

theorem eval_initialSupply : (Expression.name "initialSupply").eval
    (constructorFrame c deployer timestamp) t =
      .ok (.word (BitVec.ofNat 256 c.initialSupply.baseUnits)) := by
  simp [Expression.eval, Frame.read, constructorFrame, TokenConfig.contract, params,
    ConstructorArgs.arguments, ConstructorArgs.ofConfig, List.lookup_cons]

/-- The role of administrators is declared by the base, the others by the token. -/
theorem eval_role {role : String} (h : role ∈ adminRole :: roles c) :
    (Expression.name role).eval (constructorFrame c deployer timestamp) t = .ok (.role role) := by
  rcases List.mem_cons.mp h with rfl | h
  · have hargs : (constructorFrame c deployer timestamp).args.lookup
        "DEFAULT_ADMIN_ROLE" = none :=
      lookup_constructorFrame (by decide)
    simp [Expression.eval, Frame.read, hargs, adminRole]
  · have hfixed : ∀ r ∈ [minterRole, pauserRole], r ∉ parameterNames ∧ r ∉ Frame.reserved := by
      decide
    have hrole := hfixed role (by simpa using mem_roles h)
    have hfound : (constructorFrame c deployer timestamp).declared? role = some _ :=
      declared?_of_declares (.role h) List.mem_cons_self rfl
    rw [Expression.eval, Frame.read_eq_variableOf (lookup_constructorFrame hrole.1) hrole.2,
      Frame.variableOf, hfound]
    rfl

/-! ## What the constructor does -/

theorem exec_grant (hL : L.Documented cap) {role : String} (h : role ∈ adminRole :: roles c) :
    Statement.exec (L.callee c deployer timestamp) (constructorFrame c deployer timestamp) t
      (grant role) = ⟨[⟨"_grantRole", [.role role, .account deployer], t⟩], .goesOn t⟩ := by
  have hcallee : L.callee c deployer timestamp "_grantRole" [.role role, .account deployer] t =
      .ok t := by
    simp [Library.callee, hL.granted]
  simp only [grant, Statement.exec, Expression.evalAll, eval_role h, eval_sender, needing_ok,
    calling, hcallee]

/-- Roles are no part of the ledger, so that grants change nothing of it. -/
theorem ending_grants (hL : L.Documented cap) {rs : List String}
    (h : ∀ role ∈ rs, role ∈ adminRole :: roles c) :
    (Statement.execAll (L.callee c deployer timestamp) (constructorFrame c deployer timestamp) t
      (rs.map grant)).ending = .goesOn t := by
  induction rs with
  | nil => rfl
  | cons role rs ih =>
    rw [List.map_cons, Statement.execAll, exec_grant hL (h role List.mem_cons_self)]
    exact ih fun r hr => h r (List.mem_cons_of_mem _ hr)

/-- The statements of the constructor after the mint. -/
def closing (c : TokenConfig) : List Statement :=
  (if c.accessControl = .roles then (adminRole :: roles c).map grant else [])
    ++ (if c.hasSecurity .allowlist then
          [.assign (.entry "_allowlisted" (.call "_msgSender" [])) (.name "true")]
        else [])

/-- The state with the deployer on the allowlist, where there is one. -/
def welcomed (c : TokenConfig) (deployer : Address) (t : Token) : Token :=
  if c.hasSecurity .allowlist then
    { t with flagEntry := Function.update t.flagEntry "_allowlisted"
              (Function.update (t.flagEntry "_allowlisted") deployer true) }
  else t

@[simp]
theorem paused_welcomed : (welcomed c deployer t).paused = t.paused := by
  unfold welcomed
  split <;> rfl

@[simp]
theorem supply_welcomed : (welcomed c deployer t).supply = t.supply := by
  unfold welcomed
  split <;> rfl

@[simp]
theorem balance_welcomed : (welcomed c deployer t).balance = t.balance := by
  unfold welcomed
  split <;> rfl

theorem flagEntry_welcomed {x : String} (hx : x ≠ "_allowlisted") :
    (welcomed c deployer t).flagEntry x = t.flagEntry x := by
  unfold welcomed
  split
  · exact Function.update_of_ne hx _ _
  · rfl

theorem exec_welcome (h : c.hasSecurity .allowlist = true) :
    Statement.exec (L.callee c deployer timestamp) (constructorFrame c deployer timestamp) t
      (.assign (.entry "_allowlisted" (.call "_msgSender" [])) (.name "true")) =
        quiet (.goesOn (welcomed c deployer t)) := by
  have hentry : privateMapping "_allowlisted" .bool ∈ allowlistState.flatten := by
    simp [allowlistState]
  have hfound : (constructorFrame c deployer timestamp).declared? "_allowlisted" = some _ :=
    declared?_of_declares (.allowlist h) hentry rfl
  have hargs : (constructorFrame c deployer timestamp).args.lookup "true" = none :=
    lookup_constructorFrame (by decide)
  have htrue : (Expression.name "true").eval (constructorFrame c deployer timestamp) t =
      .ok (.bool true) := by
    simp [Expression.eval, Frame.read, hargs]
  have hdeployer : (Expression.call "_msgSender" []).eval
      (constructorFrame c deployer timestamp) t = .ok (.account deployer) := rfl
  rw [Statement.exec, htrue, needing_ok, Frame.assign, hdeployer]
  simp only [Frame.storeEntry, hfound, welcomed, if_pos h]
  rfl

theorem ending_closing (hL : L.Documented cap) :
    (Statement.execAll (L.callee c deployer timestamp) (constructorFrame c deployer timestamp) t
      (closing c)).ending = .goesOn (welcomed c deployer t) := by
  have hgrants : (Statement.execAll (L.callee c deployer timestamp)
      (constructorFrame c deployer timestamp) t
      (if c.accessControl = .roles then (adminRole :: roles c).map grant else [])).ending =
        .goesOn t := by
    split
    · exact ending_grants hL fun _ h => h
    · rfl
  have hwelcome : (Statement.execAll (L.callee c deployer timestamp)
      (constructorFrame c deployer timestamp) t (if c.hasSecurity .allowlist then
        [.assign (.entry "_allowlisted" (.call "_msgSender" [])) (.name "true")] else [])).ending =
        .goesOn (welcomed c deployer t) := by
    split
    · rename_i h
      rw [Statement.execAll_singleton, exec_welcome h]
      rfl
    · rename_i h
      rw [welcomed, if_neg h]
      rfl
  rw [closing, Statement.execAll_append, Run.andThen, hgrants]
  exact hwelcome

/-- After the mint the constructor asks the hook for nothing. -/
theorem asked_closing (hL : L.Documented cap) (hd : d.Accepted c) (hguarded : c.isGuarded = true) :
    L.asked (Statement.execAll (L.callee c deployer timestamp)
      (constructorFrame c deployer timestamp) t (closing c)) = [] := by
  have hcalled : ∀ g ∈ Statement.calledAll (closing c), g ∈ ["_grantRole"] := by
    intro g hg
    obtain ⟨s, hs, hg⟩ := Statement.mem_calledAll.mp hg
    simp only [closing, List.mem_append, mem_ite_nil, List.mem_map, List.mem_singleton] at hs
    rcases hs with ⟨-, role, -, rfl⟩ | ⟨-, rfl⟩
    · exact hg
    · exact absurd hg List.not_mem_nil
  have hkeeps := Statement.keeps_execAll stable_grows
    (grows_callee hL hd hguarded deployer timestamp)
    (constructorFrame c deployer timestamp) t (closing c) hcalled
  refine asked_eq_nil fun k hk hmint => ?_
  have hname := hkeeps.named k hk
  rw [hmint] at hname
  exact absurd hname (by decide)

/-- The mint of the initial supply. -/
def initialMint (c : TokenConfig) (deployer : Address) : Move :=
  ⟨0, deployer, BitVec.ofNat 256 c.initialSupply.baseUnits⟩

theorem unguarded_initialMint (hguarded : c.isGuarded = true) :
    Unguarded c (initialMint c deployer) c.contract.blank :=
  ⟨hguarded, rfl, rfl⟩

/-- A guarded token is constructed with the initial supply, all of it with the deployer. -/
theorem construct_eq (hL : L.Documented cap) (hd : d.Accepted c) (hguarded : c.isGuarded = true)
    (hdeployer : deployer ≠ 0) (h : L.update (initialMint c deployer) c.contract.blank = .ok t)
    (timestamp : Word) :
    (L.construct c deployer timestamp).result = .ok (welcomed c deployer t) ∧
      L.asked (L.construct c deployer timestamp) =
        [(initialMint c deployer, c.contract.blank)] := by
  have hminting : L.minting deployer (BitVec.ofNat 256 c.initialSupply.baseUnits) =
      .ok (initialMint c deployer) :=
    hL.minting.mpr ⟨hdeployer, rfl⟩
  have hmove : L.move c deployer timestamp (initialMint c deployer) c.contract.blank = .ok t := by
    refine (move_eq_ok_iff hd hguarded).mpr ⟨.inl (unguarded_initialMint hguarded), ?_⟩
    rwa [traded_of_payer rfl]
  have hcallee : L.callee c deployer timestamp "_mint"
      [.account deployer, .word (BitVec.ofNat 256 c.initialSupply.baseUnits)] c.contract.blank =
        .ok t := by
    rw [callee, if_pos rfl]
    exact moving_eq_ok_iff.mpr ⟨_, hminting, hmove⟩
  have hmint : Statement.exec (L.callee c deployer timestamp)
      (constructorFrame c deployer timestamp) c.contract.blank
      (mintTo sender (.name "initialSupply")) =
        ⟨[⟨"_mint", [.account deployer, .word (BitVec.ofNat 256 c.initialSupply.baseUnits)],
          c.contract.blank⟩], .goesOn t⟩ := by
    simp only [mintTo, Statement.exec, Expression.evalAll, eval_sender, eval_initialSupply,
      needing_ok, calling, hcallee]
  have hstatements : c.contract.statements =
      mintTo sender (.name "initialSupply") :: closing c := rfl
  rw [construct, hstatements, Statement.execAll, hmint]
  constructor
  · simp only [andThen, result, ending_closing hL]
  · rw [asked_andThen, asked_closing hL hd hguarded, List.append_nil]
    simp [asked, asked?, hminting, Except.toOption]

end Library

end TokenLaunch
