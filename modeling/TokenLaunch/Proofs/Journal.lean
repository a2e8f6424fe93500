import TokenLaunch.Session

/-!
# Journals of runs

What a part of a session adds to the journal, as a relation that is put together along the binds of
a program: what it starts from, what it writes, what it gives and what it leaves behind.
-/

namespace TokenLaunch.Session

variable {σ α β ε δ : Type} {held : List String} {w w₁ w₂ : σ} {acts acts' : List Act}

/-- With the services in `w` and the contracts of `held` claimed, `x` writes `acts` and gives `a`.
It leaves the services in `w'`, and the claims as they were. -/
def Does (x : Run σ α) (held : List String) (w : σ) (acts : List Act) (a : α) (w' : σ) : Prop :=
  ∀ journal, x ⟨w, held, journal⟩ = (a, ⟨w', held, journal ++ acts⟩)

theorem does_pure (a : α) : Does (pure a : Run σ α) held w [] a w := by
  intro journal
  rw [List.append_nil]
  rfl

theorem does_act (e : Act) : Does (act e : Run σ Unit) held w [e] () w := fun _ => rfl

theorem does_ask {x : StateM σ α} {a : α} (h : x w = (a, w₁)) : Does (ask x) held w [] a w₁ := by
  intro journal
  rw [List.append_nil]
  simp only [ask, h]

theorem does_call {e : Act} {x : StateM σ α} {a : α} (h : x w = (a, w₁)) :
    Does (call e x) held w [e] a w₁ := by
  intro journal
  rw [call_apply, h]

theorem Does.bind {x : Run σ α} {f : α → Run σ β} {a : α} {b : β} (hx : Does x held w acts a w₁)
    (hf : Does (f a) held w₁ acts' b w₂) : Does (x >>= f) held w (acts ++ acts') b w₂ := by
  intro journal
  have hbind : (x >>= f) ⟨w, held, journal⟩ =
      f (x ⟨w, held, journal⟩).1 (x ⟨w, held, journal⟩).2 := rfl
  rw [hbind, hx journal, hf, List.append_assoc]

/-- Giving a value leaves no trace of its own. -/
theorem Does.bind_pure {x : Run σ α} {f : α → Run σ β} {a : α} {b : β}
    (hx : Does x held w acts a w₁) (hf : f a = pure b) : Does (x >>= f) held w acts b w₁ := by
  rw [← List.append_nil acts]
  refine hx.bind ?_
  rw [hf]
  exact does_pure b

theorem Does.map {x : Run σ α} {a : α} (f : α → β) (hx : Does x held w acts a w₁) :
    Does (f <$> x) held w acts (f a) w₁ := by
  rw [map_eq_pure_bind]
  exact hx.bind_pure rfl

/-! ## Parts that may fail -/

theorem Does.bind_ok {x : ExceptT ε (Run σ) α} {f : α → ExceptT ε (Run σ) β} {a : α}
    {r : Except ε β} (hx : Does x.run held w acts (.ok a) w₁)
    (hf : Does (f a).run held w₁ acts' r w₂) :
    Does (x >>= f).run held w (acts ++ acts') r w₂ := by
  rw [ExceptT.run_bind]
  exact Does.bind hx hf

/-- What follows a failure is not done. -/
theorem Does.bind_error {x : ExceptT ε (Run σ) α} {f : α → ExceptT ε (Run σ) β} {e : ε}
    (hx : Does x.run held w acts (.error e) w₁) :
    Does (x >>= f).run held w acts (.error e) w₁ := by
  rw [ExceptT.run_bind]
  exact Does.bind_pure hx rfl

theorem Does.lift {x : Run σ α} {a : α} (hx : Does x held w acts a w₁) :
    Does (ExceptT.lift x : ExceptT ε (Run σ) α).run held w acts (.ok a) w₁ :=
  Does.map Except.ok hx

theorem Does.adapt {x : ExceptT ε (Run σ) α} {f : ε → δ} {r : Except ε α}
    (hx : Does x.run held w acts r w₁) :
    Does (x.adapt f).run held w acts (r.mapError f) w₁ :=
  Does.map (Except.mapError f) hx

end TokenLaunch.Session
