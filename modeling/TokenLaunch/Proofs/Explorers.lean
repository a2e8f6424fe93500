import TokenLaunch.Explorers

/-!
# Tables of explorers

The tables that a user comes to from the built-in one.  An address that is refused changes nothing,
so that every network keeps an explorer.
-/

namespace TokenLaunch.Explorers

variable {t : Explorers}

/-- The built-in table, with accepted addresses of the user in it. -/
inductive Customized : Explorers → Prop
  | builtIn : Customized default
  | setUrl {t t' : Explorers} {n : Network} {url : String} (h : Customized t)
      (hset : t.setUrl? n url = some t') : Customized t'
  | reset {t : Explorers} {n : Network} (h : Customized t) : Customized (t.reset n)

/-- What is put for a network leaves an entry for each that had one. -/
theorem isSome_put (n m : Network) (e : Explorer) (h : (t m).isSome = true) :
    (t.put n e m).isSome = true := by
  by_cases hm : m = n
  · rw [hm, put_same]
    rfl
  · rw [put_other t e hm]
    exact h

theorem Customized.isSome (h : t.Customized) (m : Network) : (t m).isSome = true := by
  induction h with
  | builtIn => rfl
  | @setUrl t t' n url _ hset ih =>
    unfold setUrl? at hset
    split at hset
    · cases hset
      exact isSome_put n m _ ih
    · cases hset
  | reset _ ih => exact isSome_put _ m _ ih

/-- Where a chain has a network, the network has an endpoint. -/
theorem Customized.bind_endpoint?_eq_none_iff (h : t.Customized) (keys : ApiKeys)
    (network : Option Network) : network.bind (t.endpoint? keys) = none ↔ network = none := by
  cases network with
  | none => simp
  | some n =>
    obtain ⟨e, he⟩ := Option.isSome_iff_exists.mp (h.isSome n)
    simp [endpoint?, he]

end TokenLaunch.Explorers
