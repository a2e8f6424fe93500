import Mathlib.Data.List.Induction
import TokenLaunch.Proofs.FileTree
import TokenLaunch.Proofs.Source.Lines

/-!
# Making directories

Directories are made along the names of a path from the root wherever nothing but directories is in
their way, and then a file can be written below them.
-/

namespace TokenLaunch.FileTree

variable {t t' : FileTree} {l : Location} {names : List String} {name text : String}

/-! ## One directory -/

theorem run_makeDirectory (p : FilePath) (t : FileTree) : (makeDirectory p).run t =
    match t.site p with
    | .error fault => (.error fault, t)
    | .ok none => (.error .present, t)
    | .ok (some l) =>
      if (t.node? l).isSome then (.error .present, t) else (.ok (), put l .directory t) := by
  rw [makeDirectory, run_bind_apply, run_get]
  dsimp only
  rw [run_bind_apply, run_liftM]
  cases t.site p with
  | error fault => rfl
  | ok place =>
    cases place with
    | none => rfl
    | some l =>
      dsimp only
      split <;> rfl

theorem run_ensureDirectory (p : FilePath) (t : FileTree) : (ensureDirectory p).run t =
    match (makeDirectory p).run t with
    | (.ok (), t') => (.ok (), t')
    | (.error fault, t') => if t'.isDirectory p then (.ok (), t') else (.error fault, t') := by
  rw [ensureDirectory, run_tryCatch_apply]
  cases (makeDirectory p).run t with
  | mk r t' =>
    cases r with
    | ok => rfl
    | error fault =>
      dsimp only
      rw [run_bind_apply, run_get]
      dsimp only
      split <;> rfl

theorem run_ensureFirst_cons (p : FilePath) (above : List FilePath) (t : FileTree) :
    (ensureFirst (p :: above)).run t =
      match (ensureDirectory p).run t with
      | (.ok (), t') => (.ok (), t')
      | (.error fault, t') =>
        if fault = .missing then
          match (ensureFirst above).run t' with
          | (.ok (), t'') => (ensureDirectory p).run t''
          | (.error fault, t'') => (.error fault, t'')
        else (.error fault, t') := by
  rw [ensureFirst, run_tryCatch_apply]
  cases (ensureDirectory p).run t with
  | mk r t' =>
    cases r with
    | ok => rfl
    | error fault =>
      dsimp only
      split
      · rw [run_bind_apply]
        cases (ensureFirst above).run t' with
        | mk r t'' => cases r <;> rfl
      · rfl

/-! ## Names from the root -/

/-- A name that a file or a directory can have. -/
structure IsName (s : String) : Prop where
  ne_empty : s ≠ ""
  ne_dot : s ≠ "."
  ne_dots : s ≠ ".."
  zero : '\x00' ∉ s.toList
  size : s.utf8ByteSize ≤ nameLimit

instance (s : String) : Decidable (IsName s) :=
  decidable_of_iff (s ≠ "" ∧ s ≠ "." ∧ s ≠ ".." ∧ '\x00' ∉ s.toList ∧ s.utf8ByteSize ≤ nameLimit)
    ⟨fun ⟨h₁, h₂, h₃, h₄, h₅⟩ => ⟨h₁, h₂, h₃, h₄, h₅⟩, fun ⟨h₁, h₂, h₃, h₄, h₅⟩ =>
      ⟨h₁, h₂, h₃, h₄, h₅⟩⟩

/-- The path from the root along some names. -/
def fromRoot (names : List String) : FilePath :=
  if names = [] then FilePath.root else ⟨"" :: names⟩

/-- Nothing but directories is in the way of some names, as far as anything is there. -/
def Open (t : FileTree) (names : Location) : Prop :=
  ∀ l, l <+: names → t.node? l = none ∨ t.node? l = some .directory

/-- There are directories all along some names. -/
def Paved (t : FileTree) (names : Location) : Prop :=
  ∀ l, l <+: names → t.node? l = some .directory

theorem step_of_isName (h : IsName name) (l : Location) : step l name = l ++ [name] := by
  simp [step, FilePath.stays, h.ne_empty, h.ne_dot, h.ne_dots]

theorem fromRoot_concat (names : List String) (name : String) :
    fromRoot (names ++ [name]) = ⟨"" :: (names ++ [name])⟩ := by simp [fromRoot]

theorem text_fromRoot (names : List String) :
    (fromRoot names).text = "/" ++ "/".intercalate names := by
  cases names with
  | nil => rfl
  | cons name names =>
    rw [fromRoot, if_neg (List.cons_ne_nil _ _), FilePath.text, String.intercalate_cons_cons,
      String.empty_append]

theorem isAbsolute_fromRoot (names : List String) : (fromRoot names).isAbsolute = true := by
  cases names <;> rfl

/-- A path from the root can be followed if it is not too long. -/
theorem followable_fromRoot (h : ∀ m ∈ names, IsName m)
    (hsize : (fromRoot names).text.utf8ByteSize ≤ pathLimit) : Followable (fromRoot names) := by
  have hslash : '\x00' ∉ "/".toList := by decide
  refine ⟨?_, ?_, hsize⟩
  · rw [text_fromRoot, String.toList_append, List.mem_append, not_or]
    exact ⟨hslash, Text.notMem_intercalate hslash fun m hm => (h m hm).zero⟩
  · rw [text_fromRoot]
    simp

theorem size_fromRoot_le (names : List String) (name : String) :
    (fromRoot names).text.utf8ByteSize ≤ (fromRoot (names ++ [name])).text.utf8ByteSize := by
  have hle : ("/".intercalate names).utf8ByteSize ≤
      ("/".intercalate (names ++ [name])).utf8ByteSize := by
    cases names with
    | nil => simp
    | cons m names =>
      rw [String.intercalate_append_of_ne_nil (List.cons_ne_nil _ _) (List.cons_ne_nil _ _),
        String.utf8ByteSize_append, String.utf8ByteSize_append, Nat.add_assoc]
      exact Nat.le_add_right _ _
  rw [text_fromRoot, text_fromRoot, String.utf8ByteSize_append, String.utf8ByteSize_append]
  exact Nat.add_le_add_left hle _

theorem split?_fromRoot (h : IsName name) (names : List String) :
    (fromRoot (names ++ [name])).split? = some ("" :: names, name) := by
  simp [fromRoot_concat, FilePath.split?, h.ne_empty]

theorem parent?_fromRoot (h : ∀ m ∈ names ++ [name], IsName m) :
    (fromRoot (names ++ [name])).parent? = some (fromRoot names) := by
  have hstays (m : String) (hm : IsName m) : FilePath.stays m = false := by
    simp [FilePath.stays, hm.ne_empty, hm.ne_dot]
  have hname := hstays name (h name (by simp))
  rw [fromRoot_concat, FilePath.parent?]
  induction names using List.reverseRecOn with
  | nil =>
    have hempty : FilePath.stays "" = true := by decide
    simp [hname, hempty, fromRoot, FilePath.isAbsolute]
  | append_singleton names m =>
    have hm := hstays m (h m (by simp))
    simp [hname, hm, fromRoot]

theorem follow_cons (h : IsName name) {l : Location} (hl : t.node? l = some .directory)
    (pieces : List String) : t.follow l (name :: pieces) = t.follow (l ++ [name]) pieces := by
  rw [follow, hl]
  dsimp only
  rw [if_neg (Nat.not_lt_of_le h.size), step_of_isName h]

/-- Names lead on where there are directories all along them. -/
theorem follow_of_paved (h : ∀ m ∈ names ++ [name], IsName m) {l : Location}
    (hpaved : ∀ rest, rest <+: names → t.node? (l ++ rest) = some .directory) :
    t.follow l (names ++ [name]) = .ok (l ++ names ++ [name]) := by
  have hl : t.node? l = some .directory := by simpa using hpaved [] List.nil_prefix
  induction names generalizing l with
  | nil =>
    rw [List.nil_append, follow_cons (h name (by simp)) hl, follow, List.append_nil]
  | cons m names ih =>
    have hpaved' (rest) (hrest : rest <+: names) :
        t.node? (l ++ [m] ++ rest) = some .directory := by
      have hnode := hpaved (m :: rest) (List.cons_prefix_cons.mpr ⟨rfl, hrest⟩)
      simpa using hnode
    have hm : t.node? (l ++ [m]) = some .directory := by simpa using hpaved' [] List.nil_prefix
    rw [List.cons_append, follow_cons (h m (by simp)) hl,
      ih (fun x hx => h x (List.mem_cons_of_mem m hx)) hpaved' hm]
    simp

/-- Names lead nowhere where a directory is missing. -/
theorem follow_of_not_paved (h : ∀ m ∈ names ++ [name], IsName m) {l : Location}
    (hopen : ∀ rest, rest <+: names →
      t.node? (l ++ rest) = none ∨ t.node? (l ++ rest) = some .directory)
    (hnot : ¬ ∀ rest, rest <+: names → t.node? (l ++ rest) = some .directory) :
    t.follow l (names ++ [name]) = .error .missing := by
  have hfirst : t.node? l = none ∨ t.node? l = some .directory := by
    simpa using hopen [] List.nil_prefix
  rcases hfirst with hnone | hl
  · cases names <;> simp [follow, hnone]
  induction names generalizing l with
  | nil =>
    refine absurd (fun rest hrest => ?_) hnot
    rw [List.prefix_nil.mp hrest, List.append_nil, hl]
  | cons m names ih =>
    have hopen' (rest) (hrest : rest <+: names) : t.node? (l ++ [m] ++ rest) = none ∨
        t.node? (l ++ [m] ++ rest) = some .directory := by
      have hnode := hopen (m :: rest) (List.cons_prefix_cons.mpr ⟨rfl, hrest⟩)
      simpa using hnode
    have hnot' : ¬ ∀ rest, rest <+: names → t.node? (l ++ [m] ++ rest) = some .directory := by
      refine fun hpaved => hnot fun rest hrest => ?_
      rcases List.prefix_cons_iff.mp hrest with rfl | ⟨rest', rfl, hrest'⟩
      · rwa [List.append_nil]
      · simpa using hpaved rest' hrest'
    have hnames : ∀ x ∈ names ++ [name], IsName x := fun x hx => h x (List.mem_cons_of_mem m hx)
    rw [List.cons_append, follow_cons (h m (by simp)) hl]
    have hm : t.node? (l ++ [m]) = none ∨ t.node? (l ++ [m]) = some .directory := by
      simpa using hopen' [] List.nil_prefix
    rcases hm with hnone | hm
    · cases names <;> simp [follow, hnone]
    · exact ih hnames hopen' hnot' hm

section FromRoot

variable (h : ∀ m ∈ names ++ [name], IsName m)
  (hsize : (fromRoot (names ++ [name])).text.utf8ByteSize ≤ pathLimit)

include h hsize

/-- The root is passed first on a path that begins there. -/
theorem followFor_fromRoot (hroot : t.node? [] = some .directory) :
    t.followFor (fromRoot (names ++ [name])) ("" :: names ++ [name]) =
      t.follow [] (names ++ [name]) := by
  rw [followFor_eq_follow (followable_fromRoot h hsize), isAbsolute_fromRoot, if_pos rfl,
    List.cons_append, follow, hroot]
  rfl

theorem site_fromRoot (hroot : t.node? [] = some .directory) :
    t.site (fromRoot (names ++ [name])) = (t.follow [] (names ++ [name])).map some := by
  have hname := h name (by simp)
  have hdots : FilePath.isDots name = false := by
    simp [FilePath.isDots, hname.ne_dot, hname.ne_dots]
  rw [site_of_split? (split?_fromRoot hname names), followFor_fromRoot h hsize hroot, hdots]
  rfl

omit hsize in
theorem follow_root_of_paved (hpaved : t.Paved names) :
    t.follow [] (names ++ [name]) = .ok (names ++ [name]) :=
  follow_of_paved h (l := []) hpaved

theorem site_of_paved (hpaved : t.Paved names) :
    t.site (fromRoot (names ++ [name])) = .ok (some (names ++ [name])) := by
  rw [site_fromRoot h hsize (hpaved [] List.nil_prefix), follow_root_of_paved h hpaved]
  rfl

theorem find_of_paved (hpaved : t.Paved names) {n : Node}
    (hnode : t.node? (names ++ [name]) = some n) :
    t.find (fromRoot (names ++ [name])) = .ok n := by
  have hpieces : (fromRoot (names ++ [name])).pieces = "" :: names ++ [name] := by
    rw [fromRoot_concat]
    rfl
  rw [find, hpieces, followFor_fromRoot h hsize (hpaved [] List.nil_prefix),
    follow_root_of_paved h hpaved]
  simp [bind, Except.bind, hnode, pure, Except.pure]

/-- Where there are directories all the way, one more is made or is there. -/
theorem ensureDirectory_of_paved (hpaved : t.Paved names)
    (hlast : t.node? (names ++ [name]) = none ∨ t.node? (names ++ [name]) = some .directory) :
    ∃ t', (ensureDirectory (fromRoot (names ++ [name]))).run t = (.ok (), t') ∧
      t'.Paved (names ++ [name]) ∧ ∀ l, ¬ l <+: names ++ [name] → t'.node? l = t.node? l := by
  have hmake := run_makeDirectory (fromRoot (names ++ [name])) t
  rw [site_of_paved h hsize hpaved] at hmake
  rw [run_ensureDirectory, hmake]
  rcases hlast with hnone | hdirectory
  · refine ⟨put (names ++ [name]) .directory t, by simp [hnone], fun l hl => ?_,
      fun l hl => node?_put_elsewhere hl⟩
    rcases List.prefix_concat_iff.mp hl with rfl | hl
    · exact node?_put _ _ t
    · have hne : l ≠ names ++ [name] := by
        rintro rfl
        exact absurd hl.length_le (by simp)
      exact node?_put_directory hne (hpaved l hl)
  · have hthere : t.isDirectory (fromRoot (names ++ [name])) = true := by
      rw [isDirectory, find_of_paved h hsize hpaved hdirectory]
    refine ⟨t, by simp [hdirectory, hthere], fun l hl => ?_, fun _ _ => rfl⟩
    rcases List.prefix_concat_iff.mp hl with rfl | hl
    · exact hdirectory
    · exact hpaved l hl

theorem ensureDirectory_of_not_paved (hopen : t.Open names) (hnot : ¬ t.Paved names) :
    (ensureDirectory (fromRoot (names ++ [name]))).run t = (.error .missing, t) := by
  have hroot : t.node? [] = some .directory :=
    (hopen [] List.nil_prefix).resolve_left node?_nil_ne_none
  have hway : t.follow [] (names ++ [name]) = .error .missing :=
    follow_of_not_paved h (l := []) hopen hnot
  have hpieces : (fromRoot (names ++ [name])).pieces = "" :: names ++ [name] := by
    rw [fromRoot_concat]
    rfl
  have hfind : t.find (fromRoot (names ++ [name])) = .error .missing := by
    rw [find, hpieces, followFor_fromRoot h hsize hroot, hway]
    rfl
  have hthere : t.isDirectory (fromRoot (names ++ [name])) = false := by
    rw [isDirectory, hfind]
  have hmake : (makeDirectory (fromRoot (names ++ [name]))).run t = (.error .missing, t) := by
    rw [run_makeDirectory, site_fromRoot h hsize hroot, hway]
    rfl
  rw [run_ensureDirectory, hmake]
  dsimp only
  rw [if_neg (by simp [hthere])]

end FromRoot

/-- The root is there from the start. -/
theorem ensureDirectory_root (hroot : t.node? [] = some .directory) :
    (ensureDirectory FilePath.root).run t = (.ok (), t) := by
  have hfollowable : Followable FilePath.root :=
    followable_fromRoot (fun _ hm => absurd hm List.not_mem_nil) (by decide : _ ≤ pathLimit)
  have hsite : t.site FilePath.root = .ok none := by
    rw [site_of_split?_none rfl, followFor_eq_follow hfollowable]
    rfl
  have hmake : (makeDirectory FilePath.root).run t = (.error .present, t) := by
    rw [run_makeDirectory, hsite]
  have hfind : t.find FilePath.root = .ok .directory := by
    have hstay (pieces : List String) : t.follow [] ("" :: pieces) = t.follow [] pieces := by
      rw [follow, hroot]
      rfl
    have hway : t.followFor FilePath.root FilePath.root.pieces = .ok [] := by
      rw [followFor_eq_follow hfollowable]
      exact (hstay [""]).trans (hstay [])
    rw [find, hway]
    simp [bind, Except.bind, hroot, pure, Except.pure]
  have hthere : t.isDirectory FilePath.root = true := by
    rw [isDirectory, hfind]
  rw [run_ensureDirectory, hmake]
  dsimp only
  rw [if_pos hthere]

/-- Directories are made along names that nothing else is in the way of, and nothing else is
changed. -/
theorem ensureFirst_upwards {fuel : Nat} (hfuel : names.length ≤ fuel)
    (h : ∀ m ∈ names, IsName m) (hsize : (fromRoot names).text.utf8ByteSize ≤ pathLimit)
    (hopen : t.Open names) :
    ∃ t', (ensureFirst (FilePath.upwards fuel (fromRoot names))).run t = (.ok (), t') ∧
      t'.Paved names ∧ ∀ l, ¬ l <+: names → t'.node? l = t.node? l := by
  induction names using List.reverseRecOn generalizing t fuel with
  | nil =>
    have hroot : t.node? [] = some .directory :=
      (hopen [] List.nil_prefix).resolve_left node?_nil_ne_none
    refine ⟨t, ?_, fun l hl => by rwa [List.prefix_nil.mp hl], fun _ _ => rfl⟩
    have hupwards : ∃ above, FilePath.upwards fuel (fromRoot []) = FilePath.root :: above := by
      cases fuel with
      | zero => exact ⟨_, rfl⟩
      | succ fuel => exact ⟨_, rfl⟩
    obtain ⟨above, habove⟩ := hupwards
    rw [habove, run_ensureFirst_cons, ensureDirectory_root hroot]
  | append_singleton names name ih =>
    cases fuel with
    | zero => simp at hfuel
    | succ fuel =>
      have hopen' : t.Open names := fun l hl => hopen l (hl.trans (List.prefix_append _ _))
      have hlast := hopen (names ++ [name]) (List.prefix_refl _)
      rw [FilePath.upwards, parent?_fromRoot h, Option.map_some, Option.getD_some,
        run_ensureFirst_cons]
      by_cases hpaved : t.Paved names
      · -- nothing is missing above, and the first attempt succeeds
        obtain ⟨t', hrun, hmade⟩ := ensureDirectory_of_paved h hsize hpaved hlast
        exact ⟨t', by rw [hrun], hmade⟩
      · -- the first attempt finds something missing; it is made, and the second one succeeds
        obtain ⟨t', hrun, hpaved', hothers⟩ := ih (by simpa using hfuel)
          (fun m hm => h m (List.mem_append_left _ hm))
          (Nat.le_trans (size_fromRoot_le names name) hsize) hopen'
        have hnot : ¬ names ++ [name] <+: names := fun hpre => absurd hpre.length_le (by simp)
        obtain ⟨t'', hrun', hpaved'', hothers'⟩ :=
          ensureDirectory_of_paved h hsize hpaved' (by rwa [hothers _ hnot])
        refine ⟨t'', ?_, hpaved'', fun l hl => ?_⟩
        · rw [ensureDirectory_of_not_paved h hsize hopen' hpaved]
          simp [hrun, hrun']
        · rw [hothers' l hl, hothers l fun hpre => hl (hpre.trans (List.prefix_append _ _))]

theorem ensureDirectories_fromRoot (h : ∀ m ∈ names, IsName m)
    (hsize : (fromRoot names).text.utf8ByteSize ≤ pathLimit) (hopen : t.Open names) :
    ∃ t', (ensureDirectories (fromRoot names)).run t = (.ok (), t') ∧ t'.Paved names ∧
      ∀ l, ¬ l <+: names → t'.node? l = t.node? l := by
  have hlength : names.length ≤ (fromRoot names).pieces.length := by
    cases names with
    | nil => exact Nat.zero_le _
    | cons name names => exact Nat.le_succ _
  exact ensureFirst_upwards hlength h hsize hopen

theorem exists_write_fromRoot (h : ∀ m ∈ names ++ [name], IsName m)
    (hsize : (fromRoot (names ++ [name])).text.utf8ByteSize ≤ pathLimit) (hpaved : t.Paved names)
    (hfree : t.node? (names ++ [name]) ≠ some .directory) (text : String) :
    ∃ t', (write (fromRoot (names ++ [name])) text).run t = (.ok (), t') := by
  have hslash : (fromRoot (names ++ [name])).endsInSlash = false := by
    have hname := (h name (by simp)).ne_empty
    have hlast : (fromRoot (names ++ [name])).pieces.getLast? = some name := by
      rw [fromRoot_concat, ← List.cons_append]
      exact List.getLast?_concat
    simp [FilePath.endsInSlash, hlast, hname]
  refine ⟨put (names ++ [name]) (.file text) t, ?_⟩
  rw [run_write, site_of_paved h hsize hpaved]
  dsimp only
  rw [if_neg (by simp [hslash, hfree])]

/-- Room for a file: it has a name and a path that files can have, nothing but directories is in its
way, and it is no directory itself. -/
structure Room (t : FileTree) (names : List String) (name : String) : Prop where
  valid : ∀ m ∈ names ++ [name], IsName m
  size : (fromRoot (names ++ [name])).text.utf8ByteSize ≤ pathLimit
  ways : t.Open names
  free : t.node? (names ++ [name]) ≠ some .directory

end TokenLaunch.FileTree
