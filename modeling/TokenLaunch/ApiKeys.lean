import TokenLaunch.Network

/-!
# Keys of explorers

The keys that go with requests to explorers, under the environment variables that hold them.
-/

namespace TokenLaunch

/-- A key for each variable at most. -/
abbrev ApiKeys := List (String × String)

namespace ApiKeys

def empty : ApiKeys := []

/-- Puts a key in the place of the one that the variable had, or at the end. -/
def set (name key : String) : ApiKeys → ApiKeys
  | [] => [(name, key)]
  | e :: es => if e.1 = name then (name, key) :: es else e :: set name key es

/-- The key of a variable; an empty one where there is none. -/
def get (keys : ApiKeys) (name : String) : String := (keys.lookup name).getD ""

theorem get_set_same (keys : ApiKeys) (name key : String) : (keys.set name key).get name = key := by
  induction keys with
  | nil => simp [set, get]
  | cons e es ih =>
    obtain ⟨v, k⟩ := e
    by_cases h : v = name
    · simp [set, get, h]
    · have hv : (name == v) = false := by simpa using fun h' => h h'.symm
      simpa [set, get, h, hv, List.lookup_cons] using ih

theorem get_set_other (keys : ApiKeys) {name other : String} (key : String) (h : other ≠ name) :
    (keys.set name key).get other = keys.get other := by
  have ho : (other == name) = false := by simpa using h
  induction keys with
  | nil => simp [set, get, ho, List.lookup_cons]
  | cons e es ih =>
    obtain ⟨v, k⟩ := e
    by_cases hv : v = name
    · simp [set, get, hv, ho, List.lookup_cons]
    · cases hx : other == v
      · simpa [set, get, hv, hx, List.lookup_cons] using ih
      · simp [set, get, hv, hx, List.lookup_cons]

/-- The variables that hold keys. -/
def keyVariables : List String := (Network.all.map Network.keyVariable).eraseDups

/-- The keys of an environment: a variable that is blank holds none. -/
def ofEnvironment (environment : String → Option String) : ApiKeys :=
  keyVariables.filterMap fun v =>
    match environment v with
    | some key => if Text.isBlankText key then none else some (v, key)
    | none => none

end ApiKeys

end TokenLaunch
