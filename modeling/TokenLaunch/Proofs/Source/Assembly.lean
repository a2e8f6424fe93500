import Mathlib.Data.List.Induction
import TokenLaunch.SourceUnit

/-!
# Source units in the making

A source unit is put together step by step, with its text taken at any time.  Each part of it shows
the texts that were added to this part, in their order, so that steps for different parts may be
taken in any order, and taking the text changes nothing.
-/

namespace TokenLaunch.SourceUnit

/-- One step: an addition, or the text is taken. -/
inductive Step where
  | add (a : Addition)
  | render
deriving DecidableEq, Repr

/-- The texts that are taken on the way through some steps, and the unit behind them. -/
def run (u : SourceUnit) : List Step → List String × SourceUnit
  | [] => ([], u)
  | .add a :: steps => run (u.add a) steps
  | .render :: steps => (u.render :: (run u steps).1, (run u steps).2)

/-- The parts that additions go to. -/
inductive Part where
  | imports
  | bases
  | params
  | initializers
  | statements
  | state
  | functions
deriving DecidableEq, Repr

def Addition.part : Addition → Part
  | path _ => .imports
  | base _ => .bases
  | param _ => .params
  | initializer _ => .initializers
  | statement _ => .statements
  | state _ => .state
  | function _ => .functions

def Addition.text : Addition → String
  | path x | base x | param x | initializer x | statement x | state x | function x => x

def Step.textFor (p : Part) : Step → Option String
  | add a => if a.part = p then some a.text else none
  | render => none

/-- The texts that some steps add to a part, in their order. -/
def added (p : Part) (steps : List Step) : List String := steps.filterMap (Step.textFor p)

/-- The members of a list, each at the place where it first occurs. -/
structure FirstOccurrences (xs ys : List String) : Prop where
  mem_iff : ∀ x, x ∈ ys ↔ x ∈ xs
  ordered : ys.Pairwise fun x y => xs.idxOf x < xs.idxOf y

/-- A source unit that holds what some steps add: imports and bases at their first occurrence, all
else as often as it is added. -/
structure Holds (title : String) (steps : List Step) (u : SourceUnit) : Prop where
  name : u.name = title
  imports : FirstOccurrences (added .imports steps) u.imports
  bases : FirstOccurrences (added .bases steps) u.bases
  params : u.params = added .params steps
  initializers : u.initializers = added .initializers steps
  statements : u.statements = added .statements steps
  state : u.state = added .state steps
  functions : u.functions = added .functions steps

/-! ## Lists without repetitions -/

section

variable {xs ys : List String} {x : String}

theorem FirstOccurrences.nil : FirstOccurrences [] [] :=
  ⟨fun _ => Iff.rfl, .nil⟩

theorem FirstOccurrences.addNew (h : FirstOccurrences xs ys) :
    FirstOccurrences (xs ++ [x]) (addNew ys x) := by
  have hplace {y : String} (hy : y ∈ ys) : (xs ++ [x]).idxOf y = xs.idxOf y := by
    rw [List.idxOf_append, if_pos ((h.mem_iff y).mp hy)]
  have hordered : ys.Pairwise fun y z => (xs ++ [x]).idxOf y < (xs ++ [x]).idxOf z :=
    h.ordered.imp_of_mem fun hy hz hlt => by rwa [hplace hy, hplace hz]
  unfold SourceUnit.addNew
  split
  · rename_i hx
    refine ⟨fun y => ?_, hordered⟩
    rw [h.mem_iff, List.mem_append, List.mem_singleton]
    exact ⟨.inl, fun hy => hy.elim id fun hyx => hyx ▸ (h.mem_iff x).mp hx⟩
  · rename_i hx
    refine ⟨fun y => ?_, List.pairwise_append.mpr ⟨hordered, List.pairwise_singleton _ _, ?_⟩⟩
    · rw [List.mem_append, List.mem_append, h.mem_iff]
    · intro y hy z hz
      obtain rfl := List.mem_singleton.mp hz
      have hnot : z ∉ xs := fun hmem => hx ((h.mem_iff z).mpr hmem)
      rw [hplace hy, List.idxOf_append, if_neg hnot, List.idxOf_cons_self, Nat.zero_add]
      exact List.idxOf_lt_length_of_mem ((h.mem_iff y).mp hy)

theorem firstOccurrences_foldl (xs : List String) :
    FirstOccurrences xs (xs.foldl SourceUnit.addNew []) := by
  induction xs using List.reverseRecOn with
  | nil => exact .nil
  | append_singleton xs x ih =>
    rw [List.foldl_append]
    exact ih.addNew

end

/-! ## Steps -/

theorem run_append (u : SourceUnit) (before behind : List Step) :
    u.run (before ++ behind) = ((u.run before).1 ++ ((u.run before).2.run behind).1,
      ((u.run before).2.run behind).2) := by
  induction before generalizing u with
  | nil => rfl
  | cons s before ih =>
    cases s with
    | add a => exact ih (u.add a)
    | render => simp only [List.cons_append, run, ih u]

/-- Each part takes up the texts that are added to it. -/
theorem run_snd (u : SourceUnit) (steps : List Step) : (u.run steps).2 =
    { name := u.name
      imports := (added .imports steps).foldl addNew u.imports
      bases := (added .bases steps).foldl addNew u.bases
      params := u.params ++ added .params steps
      initializers := u.initializers ++ added .initializers steps
      statements := u.statements ++ added .statements steps
      state := u.state ++ added .state steps
      functions := u.functions ++ added .functions steps } := by
  induction steps generalizing u with
  | nil => simp [run, added]
  | cons s steps ih =>
    cases s with
    | add a =>
      rw [run, ih (u.add a)]
      cases a <;> simp [added, Step.textFor, Addition.part, Addition.text, add]
    | render =>
      exact ih u

theorem holds_run (title : String) (steps : List Step) :
    Holds title steps ((empty title).run steps).2 := by
  rw [run_snd]
  exact ⟨rfl, firstOccurrences_foldl _, firstOccurrences_foldl _, rfl, rfl, rfl, rfl, rfl⟩

/-- A new source unit holds what the steps add.  Steps that add the same to each part, in whatever
order they take the parts, give the same unit and the same text; and where the text is taken it is
that of the steps before, while those behind go on as if it were not. -/
theorem run_assembles (title : String) (steps : List Step) :
    Holds title steps ((empty title).run steps).2 ∧
    (∀ others : List Step, (∀ p, added p others = added p steps) →
      ((empty title).run others).2 = ((empty title).run steps).2 ∧
        ((empty title).run others).2.render = ((empty title).run steps).2.render) ∧
    ∀ before behind : List Step, steps = before ++ .render :: behind →
      let u := ((empty title).run before).2
      ((empty title).run steps).2 = ((empty title).run (before ++ behind)).2 ∧
        ((empty title).run steps).1 =
          ((empty title).run before).1 ++ u.render :: (u.run behind).1 := by
  refine ⟨holds_run title steps, fun others h => ?_, ?_⟩
  · have heq : ((empty title).run others).2 = ((empty title).run steps).2 := by
      rw [run_snd, run_snd]
      simp only [h]
    exact ⟨heq, congrArg render heq⟩
  · rintro before behind rfl
    rw [run_append, run_append]
    exact ⟨rfl, rfl⟩

/-- The same blocks in two orders, with an import twice and the text taken in between. -/
theorem run_assembles_twoOrders :
    let steps : List Step := [.add (.path "a.sol"), .add (.state "a;\n\nb;"), .render,
      .add (.path "b.sol"), .add (.path "a.sol"), .add (.state "a;\n\nb;")]
    let others : List Step := [.add (.state "a;\n\nb;"), .add (.state "a;\n\nb;"),
      .add (.path "a.sol"), .add (.path "b.sol"), .render, .add (.path "a.sol")]
    (∀ p, added p others = added p steps) ∧
      ((empty "T").run others).2 = ((empty "T").run steps).2 ∧
      ((empty "T").run steps).2.imports = ["a.sol", "b.sol"] ∧
      ((empty "T").run steps).2.state = ["a;\n\nb;", "a;\n\nb;"] ∧
      ((empty "T").run steps).2 = ((empty "T").run (steps.take 2 ++ steps.drop 3)).2 := by
  intro steps others
  have hsame : ∀ p, added p others = added p steps := by
    intro p
    cases p <;> rfl
  obtain ⟨hholds, hothers, hrender⟩ := run_assembles "T" steps
  exact ⟨hsame, (hothers others hsame).1, rfl, hholds.state, (hrender _ (steps.drop 3) rfl).1⟩

end TokenLaunch.SourceUnit
