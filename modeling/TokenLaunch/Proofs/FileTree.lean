import Mathlib.Tactic.Common
import TokenLaunch.FileTree

/-!
# What file trees keep

A node that is put into a tree stands there from then on, and the ways that led somewhere still lead
there: what has been written can be read.
-/

namespace TokenLaunch

/-! ## Work that may fail -/

section

variable {ε δ σ α β : Type} (x : ExceptT ε (StateM σ) α) (s : σ)

theorem run_get : (get : ExceptT ε (StateM σ) σ).run s = (.ok s, s) := rfl

theorem run_liftM (r : Except ε α) : (liftM r : ExceptT ε (StateM σ) α).run s = (r, s) := by
  cases r <;> rfl

theorem run_bind_apply (f : α → ExceptT ε (StateM σ) β) :
    (x >>= f).run s =
      match x.run s with
      | (.ok a, s') => (f a).run s'
      | (.error e, s') => (.error e, s') := by
  have hrun : (x >>= f).run s = (match (x.run s).1 with
      | .ok a => (f a).run
      | .error e => (pure (.error e) : StateM σ (Except ε β))) (x.run s).2 := by
    rw [ExceptT.run_bind]
    rfl
  rw [hrun]
  cases x.run s with
  | mk r s' => cases r <;> rfl

theorem run_tryCatch_apply (f : ε → ExceptT ε (StateM σ) α) :
    (tryCatch x f).run s =
      match x.run s with
      | (.ok a, s') => (.ok a, s')
      | (.error e, s') => (f e).run s' := by
  have hrun : (tryCatch x f).run s = (match (x.run s).1 with
      | .ok a => (pure (.ok a) : StateM σ (Except ε α))
      | .error e => (f e).run) (x.run s).2 := by
    rw [ExceptT.run_tryCatch]
    rfl
  rw [hrun]
  cases x.run s with
  | mk r s' => cases r <;> rfl

theorem run_bind_eq_ok_iff {x : ExceptT ε (StateM σ) α} {f : α → ExceptT ε (StateM σ) β}
    {s s' : σ} {b : β} : (x >>= f).run s = (.ok b, s') ↔
      ∃ a s₁, x.run s = (.ok a, s₁) ∧ (f a).run s₁ = (.ok b, s') := by
  rw [run_bind_apply]
  cases x.run s with
  | mk r s₁ =>
    cases r with
    | error e =>
      exact iff_of_false (fun h => nomatch (Prod.mk.inj h).1) fun ⟨_, _, h, _⟩ =>
        nomatch (Prod.mk.inj h).1
    | ok a =>
      constructor
      · exact fun h => ⟨a, s₁, rfl, h⟩
      · rintro ⟨a', s₂, h, hf⟩
        obtain ⟨ha, rfl⟩ := Prod.mk.inj h
        obtain rfl := Except.ok.inj ha
        exact hf

theorem run_adapt_apply (f : ε → δ) :
    (x.adapt f).run s = ((x.run s).1.mapError f, (x.run s).2) := by
  rw [ExceptT.run_adapt]
  rfl

theorem run_adapt_eq_ok_iff {x : ExceptT ε (StateM σ) α} {f : ε → δ} {s s' : σ} {a : α} :
    (x.adapt f).run s = (.ok a, s') ↔ x.run s = (.ok a, s') := by
  rw [run_adapt_apply]
  cases x.run s with
  | mk r s₁ =>
    cases r with
    | error e => exact iff_of_false (fun h => nomatch (Prod.mk.inj h).1) fun h =>
        nomatch (Prod.mk.inj h).1
    | ok b =>
      have hpair : ((.ok b, s₁) : Except δ α × σ) = (.ok a, s') ↔
          ((.ok b, s₁) : Except ε α × σ) = (.ok a, s') := by
        simp only [Prod.mk.injEq, Except.ok.injEq]
      exact hpair

end

namespace FileTree

variable {t t' : FileTree} {l l' : Location} {n : Node} {p : FilePath} {text : String}

/-! ## Nodes -/

theorem node?_put (l : Location) (n : Node) (t : FileTree) : (put l n t).node? l = some n := by
  simp [node?, put]

theorem lookup_put (h : l' ≠ l) : (put l n t).nodes.lookup l' = t.nodes.lookup l' := by
  have hfilter (es : List (Location × Node)) :
      (es.filter (·.1 ≠ l)).lookup l' = es.lookup l' := by
    induction es with
    | nil => rfl
    | cons e es ih =>
      by_cases he : e.1 = l
      · have hne : (l' == e.1) = false := by simpa [he] using h
        rw [List.filter_cons_of_neg (by simpa using he), ih, List.lookup_cons, hne]
      · rw [List.filter_cons_of_pos (by simpa using he), List.lookup_cons, List.lookup_cons, ih]
  have hne : (l' == l) = false := by simpa using h
  rw [put, List.lookup_cons, hne]
  exact hfilter t.nodes

/-- What is not above the place of a new node is as it was. -/
theorem node?_put_elsewhere (h : ¬ l' <+: l) : (put l n t).node? l' = t.node? l' := by
  have hne : l' ≠ l := fun heq => h (heq ▸ List.prefix_refl l)
  have hany : ((put l n t).nodes.any fun e => l'.isPrefixOf e.1) =
      t.nodes.any fun e => l'.isPrefixOf e.1 := by
    rw [Bool.eq_iff_iff]
    simp only [List.any_eq_true, List.isPrefixOf_iff_prefix, put, List.mem_cons, List.mem_filter,
      decide_eq_true_eq]
    constructor
    · rintro ⟨e, rfl | ⟨he, -⟩, hpre⟩
      · exact absurd hpre h
      · exact ⟨e, he, hpre⟩
    · rintro ⟨e, he, hpre⟩
      exact ⟨e, .inr ⟨he, fun heq => h (heq ▸ hpre)⟩, hpre⟩
  rw [node?, node?, lookup_put hne, hany]

/-- A directory that another node is put into, or beside, stays one. -/
theorem node?_put_directory (hne : l' ≠ l) (h : t.node? l' = some .directory) :
    (put l n t).node? l' = some .directory := by
  by_cases hpre : l' <+: l
  · have hany : ((put l n t).nodes.any fun e => l'.isPrefixOf e.1) = true :=
      List.any_eq_true.mpr ⟨(l, n), List.mem_cons_self, List.isPrefixOf_iff_prefix.mpr hpre⟩
    rw [node?, lookup_put hne, hany]
    rw [node?] at h
    cases hlookup : t.nodes.lookup l' with
    | none => simp
    | some m => simpa [hlookup] using h
  · rw [node?_put_elsewhere hpre, h]

theorem node?_nil_ne_none : t.node? [] ≠ none := by
  unfold node?
  split <;> simp

/-! ## Ways -/

/-- A way on which only directories are passed still leads where it led when a node is put where no
directory was. -/
theorem follow_put {pieces : List String} {start : Location} (hl : t.node? l ≠ some .directory)
    (h : t.follow start pieces = .ok l') : (put l n t).follow start pieces = .ok l' := by
  induction pieces generalizing start with
  | nil => exact h
  | cons piece pieces ih =>
    rw [follow] at h ⊢
    cases hnode : t.node? start with
    | none =>
      rw [hnode] at h
      cases h
    | some m =>
      cases m with
      | file | data =>
        rw [hnode] at h
        cases h
      | directory =>
        -- the new node stands where no directory was, so not at this one
        have hne : start ≠ l := fun heq => hl (heq ▸ hnode)
        rw [hnode] at h
        rw [node?_put_directory hne hnode]
        dsimp only at h ⊢
        split at h
        · cases h
        · rename_i hshort
          rw [if_neg hshort]
          exact ih h

/-- A path that can be followed at all. -/
structure Followable (p : FilePath) : Prop where
  zero : '\x00' ∉ p.text.toList
  text : p.text ≠ ""
  size : p.text.utf8ByteSize ≤ pathLimit

theorem followFor_eq_follow (h : Followable p) (pieces : List String) :
    t.followFor p pieces = t.follow (if p.isAbsolute then [] else t.start) pieces := by
  have hzero : ¬ p.text.toList.contains '\x00' = true := by simpa using h.zero
  rw [followFor, if_neg hzero, if_neg h.text, if_neg (Nat.not_lt_of_le h.size)]

theorem followFor_eq_ok_iff {pieces : List String} : t.followFor p pieces = .ok l ↔
    Followable p ∧ t.follow (if p.isAbsolute then [] else t.start) pieces = .ok l := by
  constructor
  · intro h
    have hp : Followable p := by
      unfold followFor at h
      split at h
      · cases h
      rename_i hzero
      split at h
      · cases h
      rename_i hempty
      split at h
      · cases h
      rename_i hlong
      exact ⟨by simpa using hzero, hempty, Nat.le_of_not_lt hlong⟩
    exact ⟨hp, followFor_eq_follow hp pieces ▸ h⟩
  · rintro ⟨hp, h⟩
    rw [followFor_eq_follow hp, h]

/-! ## Writing and reading -/

theorem run_write (p : FilePath) (text : String) (t : FileTree) : (write p text).run t =
    match t.site p with
    | .error fault => (.error fault, t)
    | .ok none => (.error .isDirectory, t)
    | .ok (some l) =>
      if p.endsInSlash ∨ t.node? l = some .directory then (.error .isDirectory, t)
      else (.ok (), put l (.file text) t) := by
  rw [write, run_bind_apply, run_get]
  dsimp only
  rw [run_bind_apply, run_liftM]
  cases t.site p with
  | error fault => rfl
  | ok place =>
    cases place with
    | none => rfl
    | some l =>
      dsimp only
      split <;> rfl

/-- A path that does not end in a slash ends in its last name. -/
theorem pieces_eq_of_split? {before : List String} {name : String}
    (h : p.split? = some (before, name)) (hslash : p.endsInSlash = false) :
    p.pieces = before ++ [name] := by
  unfold FilePath.split? at h
  have hlast : p.pieces.reverse.dropWhile (· = "") = p.pieces.reverse := by
    cases hrev : p.pieces.reverse with
    | nil => rfl
    | cons piece pieces =>
      have hne : piece ≠ "" := by
        rintro rfl
        have hend : p.pieces.getLast? = some "" := by
          rw [List.getLast?_eq_head?_reverse, hrev]
          rfl
        simp [FilePath.endsInSlash, hend] at hslash
      exact List.dropWhile_cons_of_neg (by simpa using hne)
  rw [hlast] at h
  cases hrev : p.pieces.reverse with
  | nil => simp [hrev] at h
  | cons piece pieces =>
    rw [hrev] at h
    obtain ⟨rfl, rfl⟩ := Prod.mk.inj (Option.some.inj h)
    rw [← List.reverse_reverse p.pieces, hrev, List.reverse_cons]

theorem site_of_split?_none (h : p.split? = none) :
    t.site p = (t.followFor p []).map fun _ => none := by
  unfold site
  rw [h]
  cases t.followFor p [] <;> rfl

theorem site_of_split? {before : List String} {name : String}
    (h : p.split? = some (before, name)) : t.site p =
      (t.followFor p (before ++ [name])).map fun l =>
        if FilePath.isDots name then none else some l := by
  unfold site
  rw [h]
  dsimp only
  cases t.followFor p (before ++ [name]) <;> rfl

theorem followFor_of_site (hsite : t.site p = .ok (some l)) (hslash : p.endsInSlash = false) :
    t.followFor p p.pieces = .ok l := by
  cases hsplit : p.split? with
  | none =>
    rw [site_of_split?_none hsplit] at hsite
    cases hway : t.followFor p [] <;> simp [hway, Except.map] at hsite
  | some split =>
    obtain ⟨before, name⟩ := split
    rw [site_of_split? hsplit] at hsite
    rw [pieces_eq_of_split? hsplit hslash]
    cases hway : t.followFor p (before ++ [name]) with
    | error fault => simp [hway, Except.map] at hsite
    | ok l' =>
      have hplace : FilePath.isDots name = false ∧ l' = l := by
        simpa [hway, Except.map] using hsite
      rw [hplace.2]

/-- A file that has been written is there to be read. -/
theorem read_of_write (h : (write p text).run t = (.ok (), t')) : t'.read p = .ok text := by
  rw [run_write] at h
  cases hsite : t.site p with
  | error fault =>
    rw [hsite] at h
    cases h
  | ok place =>
    cases place with
    | none =>
      rw [hsite] at h
      cases h
    | some l =>
      rw [hsite] at h
      dsimp only at h
      split at h
      · cases h
      rename_i hfree
      obtain ⟨-, rfl⟩ := Prod.mk.inj h
      rw [not_or] at hfree
      have hslash : p.endsInSlash = false := by simpa using hfree.1
      obtain ⟨hp, hway⟩ := followFor_eq_ok_iff.mp (followFor_of_site hsite hslash)
      have hway' : (put l (.file text) t).followFor p p.pieces = .ok l :=
        followFor_eq_ok_iff.mpr ⟨hp, follow_put hfree.2 hway⟩
      have hfind : (put l (.file text) t).find p = .ok (.file text) := by
        rw [find, hway']
        simp [bind, Except.bind, node?_put, pure, Except.pure]
      rw [read, hfind]
      rfl

end FileTree

end TokenLaunch
