import Mathlib.Data.List.Infix
import TokenLaunch.Proofs.Directories
import TokenLaunch.Proofs.SettingsText

/-!
# The file of the settings

What is saved is loaded again, as often as one likes, with the keys of the environment of each load
and no others.  A file that is missing is made with the default settings, and one that cannot be
parsed stays as it is.
-/

namespace TokenLaunch

/-! ## Keys -/

namespace ApiKeys

theorem keyVariables_eq : keyVariables = ["ETHERSCAN_API_KEY", "ARBISCAN_API_KEY",
    "SNOWTRACE_API_KEY", "POLYGONSCAN_API_KEY", "BSCSCAN_API_KEY", "OPTIMISM_API_KEY"] := by
  decide

variable {environment : String → Option String}

theorem lookup_filterMap_eq_some_iff {vs : List String} {f : String → Option String}
    {v key : String} :
    (vs.filterMap fun v => (f v).map (v, ·)).lookup v = some key ↔ v ∈ vs ∧ f v = some key := by
  induction vs with
  | nil => simp
  | cons w vs ih =>
    cases hf : f w with
    | none =>
      rw [List.filterMap_cons_none (by simp [hf]), ih, List.mem_cons]
      constructor
      · exact fun ⟨hv, hkey⟩ => ⟨.inr hv, hkey⟩
      · rintro ⟨rfl | hv, hkey⟩
        · rw [hf] at hkey
          cases hkey
        · exact ⟨hv, hkey⟩
    | some k =>
      rw [List.filterMap_cons_some (by rw [hf, Option.map_some]), List.lookup_cons, List.mem_cons]
      by_cases hvw : v = w
      · subst hvw
        simp [hf]
      · have hne : (v == w) = false := by simpa using hvw
        rw [hne, ih]
        simp [hvw]

/-- The keys of an environment are what its variables hold that are not blank. -/
theorem lookup_ofEnvironment_eq_some_iff {v key : String} :
    (ofEnvironment environment).lookup v = some key ↔
      v ∈ keyVariables ∧ environment v = some key ∧ Text.isBlankText key = false := by
  have hkeys : ofEnvironment environment = keyVariables.filterMap fun v =>
      ((environment v).filter (!Text.isBlankText ·)).map (v, ·) := by
    refine List.filterMap_congr fun v _ => ?_
    cases environment v with
    | none => rfl
    | some key =>
      cases hblank : Text.isBlankText key <;> simp [Option.filter, hblank]
  rw [hkeys, lookup_filterMap_eq_some_iff, Option.filter_eq_some_iff]
  simp

end ApiKeys

namespace Settings

open FileTree Json

variable {s : Settings} {p : FilePath} {t t' : FileTree} {text : String}
  {environment : String → Option String}

/-- The settings with the keys of an environment. -/
def within (s : Settings) (environment : String → Option String) : Settings :=
  { s with keys := ApiKeys.ofEnvironment environment }

/-- Loads the settings once in each of some environments. -/
def loads (environments : List (String → Option String)) (p : FilePath) : Files (List Settings) :=
  environments.mapM fun environment => loadFrom environment p

/-! ## Saving -/

/-- Keys have no part in what is saved. -/
theorem save_keys (s : Settings) (keys : ApiKeys) (p : FilePath) :
    { s with keys }.save p = s.save p := rfl

theorem read_of_save (h : (s.save p).run t = (.ok (), t')) : t'.read p = .ok s.text := by
  unfold save at h
  cases hparent : p.parent? with
  | none =>
    rw [hparent] at h
    exact read_of_write (run_adapt_eq_ok_iff.mp h)
  | some above =>
    rw [hparent] at h
    obtain ⟨_, _, _, hwrite⟩ := run_bind_eq_ok_iff.mp h
    exact read_of_write (run_adapt_eq_ok_iff.mp hwrite)

/-- Settings can be saved wherever there is room for a file. -/
theorem exists_save {names : List String} {name : String} (h : t.Room names name) (s : Settings) :
    ∃ t', (s.save (fromRoot (names ++ [name]))).run t = (.ok (), t') := by
  have habove : ∀ m ∈ names, IsName m := fun m hm => h.valid m (List.mem_append_left _ hm)
  have hsize := Nat.le_trans (size_fromRoot_le names name) h.size
  obtain ⟨t₁, hmade, hpaved, hothers⟩ := ensureDirectories_fromRoot habove hsize h.ways
  have hnot : ¬ names ++ [name] <+: names := fun hpre => absurd hpre.length_le (by simp)
  obtain ⟨t', hwrite⟩ := exists_write_fromRoot h.valid h.size hpaved
    (by rw [hothers _ hnot]; exact h.free) s.text
  refine ⟨t', ?_⟩
  unfold save
  rw [parent?_fromRoot h.valid]
  simp only [run_bind_eq_ok_iff, makeDirectories, run_adapt_eq_ok_iff]
  exact ⟨(), t₁, hmade, hwrite⟩

/-! ## Loading -/

theorem stands_of_read (h : t.read p = .ok text) : t.stands p = true := by
  rw [FileTree.read] at h
  rw [stands]
  cases hfind : t.find p with
  | ok n => rfl
  | error fault =>
    rw [hfind] at h
    cases h

theorem run_loadFile (p : FilePath) (t : FileTree) : (loadFile p).run t =
    if t.stands p then
      match t.read p with
      | .error fault => (.error (.read p fault), t)
      | .ok text => ((ofText text).mapError .parse, t)
    else (default.save p >>= fun _ => pure default).run t := by
  rw [loadFile, run_bind_apply, run_get]
  dsimp only
  split
  · cases t.read p with
    | error fault => rfl
    | ok text =>
      dsimp only
      cases ofText text <;> rfl
  · rfl

/-- A file that is there is read, and nothing else is done. -/
theorem run_loadFile_of_read (h : t.read p = .ok text) :
    (loadFile p).run t = ((ofText text).mapError .parse, t) := by
  rw [run_loadFile, if_pos (stands_of_read h), h]

/-- Where there is no file, the default settings are saved. -/
theorem run_loadFile_of_missing (h : t.stands p = false) :
    (loadFile p).run t = (default.save p >>= fun _ => pure default).run t := by
  rw [run_loadFile, if_neg (by simp [h])]

/-- The environment gives the keys and has no part in anything else. -/
theorem run_loadFrom (environment : String → Option String) (p : FilePath) (t : FileTree) :
    (loadFrom environment p).run t =
      (((loadFile p).run t).1.map (within · environment), ((loadFile p).run t).2) := by
  rw [loadFrom, run_bind_apply]
  cases (loadFile p).run t with
  | mk r t' => cases r <;> rfl

/-- One load from a file that has the text of settings. -/
theorem run_loadFrom_of_read (hs : s.InRange) (h : t.read p = .ok s.text) :
    (loadFrom environment p).run t = (.ok (s.within environment), t) := by
  rw [run_loadFrom, run_loadFile_of_read h, ofText_text hs]
  rfl

/-- Any number of loads: each of them finds what the one before it has found. -/
theorem run_loads_of_read (hs : s.InRange) (h : t.read p = .ok s.text)
    (environments : List (String → Option String)) :
    (loads environments p).run t = (.ok (environments.map s.within), t) := by
  induction environments with
  | nil => rfl
  | cons environment environments ih =>
    rw [loads] at ih ⊢
    rw [List.mapM_cons, run_bind_apply, run_loadFrom_of_read hs h]
    dsimp only
    rw [run_bind_apply, ih]
    rfl

theorem run_loadFrom_of_missing (h : t.stands p = false) :
    (loadFrom environment p).run t = (.ok s, t') ↔
      s = default.within environment ∧ (default.save p).run t = (.ok (), t') := by
  rw [run_loadFrom, run_loadFile_of_missing h, run_bind_apply]
  cases (default.save p).run t with
  | mk r t₁ =>
    cases r with
    | error fault =>
      exact iff_of_false (fun h => nomatch (Prod.mk.inj h).1) fun h =>
        nomatch (Prod.mk.inj h.2).1
    | ok =>
      constructor
      · intro h
        obtain ⟨hs, rfl⟩ := Prod.mk.inj h
        exact ⟨(Except.ok.inj hs).symm, rfl⟩
      · rintro ⟨rfl, h⟩
        obtain ⟨-, rfl⟩ := Prod.mk.inj h
        rfl

/-- What is saved does not have to be read. -/
theorem run_save_ne_parse {fault : Json.Fault} : (s.save p).run t ≠ (.error (.parse fault), t') := by
  have hadapt {α δ : Type} {x : ExceptT δ (StateM FileTree) α} {f : δ → LoadError} {t : FileTree}
      (hf : ∀ e, f e ≠ .parse fault) : (x.adapt f).run t ≠ (.error (.parse fault), t') := by
    rw [run_adapt_apply]
    cases x.run t with
    | mk r t₁ =>
      cases r with
      | error e => exact fun h => hf e (Except.error.inj (Prod.mk.inj h).1)
      | ok => exact fun h => nomatch (Prod.mk.inj h).1
  have hmake (above) (e) : LoadError.makeDirectory above e ≠ .parse fault := nofun
  have hwrite (e) : LoadError.write p e ≠ .parse fault := nofun
  unfold save
  cases p.parent? with
  | none => exact hadapt hwrite
  | some above =>
    dsimp only
    rw [run_bind_apply, makeDirectories]
    cases hrun : ((FileTree.ensureDirectories above).adapt (LoadError.makeDirectory above)).run t with
    | mk r t₁ =>
      cases r with
      | error e =>
        dsimp only
        refine fun h => hadapt (hmake above) (hrun.trans ?_)
        obtain ⟨he, rfl⟩ := Prod.mk.inj h
        rw [Except.error.inj he]
      | ok => exact hadapt hwrite

/-- A file is not parsed where it has been read and its text is none of settings; everything stays as
it was. -/
theorem run_loadFile_eq_parse_iff {fault : Json.Fault} :
    (loadFile p).run t = (.error (.parse fault), t') ↔
      t' = t ∧ ∃ text, t.read p = .ok text ∧ ofText text = .error fault := by
  constructor
  · rw [run_loadFile]
    split
    · cases t.read p with
      | error e => exact fun h => nomatch (Prod.mk.inj h).1
      | ok text =>
        dsimp only
        cases hparse : ofText text with
        | ok s => exact fun h => nomatch (Prod.mk.inj h).1
        | error e =>
          intro h
          obtain ⟨he, rfl⟩ := Prod.mk.inj h
          cases he
          exact ⟨rfl, text, rfl, hparse⟩
    · rw [run_bind_apply]
      cases hsave : (default.save p).run t with
      | mk r t₁ =>
        cases r with
        | error e =>
          intro h
          obtain ⟨he, rfl⟩ := Prod.mk.inj h
          cases he
          exact absurd hsave run_save_ne_parse
        | ok => exact fun h => nomatch (Prod.mk.inj h).1
  · rintro ⟨rfl, text, hread, hparse⟩
    rw [run_loadFile_of_read hread, hparse]
    rfl

theorem run_loadFrom_eq_error_iff {fault : LoadError} :
    (loadFrom environment p).run t = (.error fault, t') ↔
      (loadFile p).run t = (.error fault, t') := by
  rw [run_loadFrom]
  cases (loadFile p).run t with
  | mk r t₁ =>
    cases r with
    | error e => exact Iff.rfl
    | ok => exact iff_of_false (fun h => nomatch (Prod.mk.inj h).1) fun h =>
        nomatch (Prod.mk.inj h).1

/-! ## The file -/

/-- What has been saved is loaded again, by any number of loads and each time with the keys of the
environment, which are what its variables hold that are not blank.  Keys have no part in a file, be
they the ones that settings have or the ones of an environment.  A file that leaves members out is
read as the settings with the defaults for just those.  A missing file is made with the default
settings, one that cannot be parsed stays as it is, and nothing but a lack of room keeps settings
from being saved. -/
theorem file_faithful (p : FilePath) :
    (∀ (s : Settings) t t', s.InRange → (s.save p).run t = (.ok (), t') → ∀ environments,
      (loads environments p).run t' = (.ok (environments.map s.within), t')) ∧
    (∀ environment v key, (ApiKeys.ofEnvironment environment).lookup v = some key ↔
      v ∈ ["ETHERSCAN_API_KEY", "ARBISCAN_API_KEY", "SNOWTRACE_API_KEY", "POLYGONSCAN_API_KEY",
        "BSCSCAN_API_KEY", "OPTIMISM_API_KEY"] ∧
      environment v = some key ∧ Text.isBlankText key = false) ∧
    (∀ (s : Settings) keys keys', { s with keys }.text = { s with keys := keys' }.text ∧
      { s with keys }.save p = { s with keys := keys' }.save p) ∧
    (∀ environment environment' t,
      ((loadFrom environment p).run t).2 = ((loadFrom environment' p).run t).2) ∧
    (∀ (s : Settings) omitted others ms text t, s.InRange →
      (∀ m ∈ others, ∃ name ∉ names, m.1 = some name) →
      ms.Perm (readingMembers (s.kept omitted) ++ others) → Written text (.obj ms) →
      t.read p = .ok text → ∀ environment,
      (loadFrom environment p).run t = (.ok ((s.leftOut omitted).within environment), t)) ∧
    (∀ environment s t t', t.stands p = false → (loadFrom environment p).run t = (.ok s, t') →
      s = default.within environment ∧ t'.read p = .ok default.text ∧ ∀ environments,
        (loads environments p).run t' = (.ok (environments.map default.within), t')) ∧
    (∀ environment fault t t', (loadFrom environment p).run t = (.error (.parse fault), t') ↔
      t' = t ∧ ∃ text, t.read p = .ok text ∧ ofText text = .error fault) ∧
    ∀ ways name t, p = fromRoot (ways ++ [name]) → t.Room ways name →
      (∀ s : Settings, ∃ t', (s.save p).run t = (.ok (), t')) ∧
      ∀ environment, t.stands p = false →
        ∃ t', (loadFrom environment p).run t = (.ok (default.within environment), t') := by
  refine ⟨fun s t t' hs h => run_loads_of_read hs (read_of_save h), fun environment v key => ?_,
    fun s keys keys' => ⟨(text_keys s keys).trans (text_keys s keys').symm,
      (save_keys s keys p).trans (save_keys s keys' p).symm⟩,
    fun environment environment' t => ?_,
    fun s omitted others ms text t hs hothers hms hwritten hread environment => ?_,
    fun environment s t t' hmissing h => ?_,
    fun environment fault t t' => run_loadFrom_eq_error_iff.trans run_loadFile_eq_parse_iff,
    fun ways name t hp hroom => ?_⟩
  · rw [ApiKeys.lookup_ofEnvironment_eq_some_iff, ApiKeys.keyVariables_eq]
  · rw [run_loadFrom, run_loadFrom]
  · rw [run_loadFrom, run_loadFile_of_read hread, ofText_of_kept hs hothers hms hwritten]
    rfl
  · obtain ⟨hs, hsaved⟩ := (run_loadFrom_of_missing hmissing).mp h
    have hread := read_of_save hsaved
    exact ⟨hs, hread, run_loads_of_read inRange_default hread⟩
  · subst hp
    refine ⟨exists_save hroom, fun environment hmissing => ?_⟩
    obtain ⟨t', hsaved⟩ := exists_save hroom default
    exact ⟨t', (run_loadFrom_of_missing hmissing).mpr ⟨rfl, hsaved⟩⟩

/-- A home directory in which nothing is. -/
def homeTree : FileTree := ⟨[(["home", "user"], .directory)], []⟩

def homeWays : List String := ["home", "user", ".tokenforge"]

def homeFile : FilePath := fromRoot (homeWays ++ ["config.json"])

/-- The home directory with a text in the file. -/
def homeHolding (text : String) : FileTree :=
  put (homeWays ++ ["config.json"]) (.file text) homeTree

/-- Settings with a text to escape, the greatest number and a key. -/
def chosen : Settings :=
  { default with
    compilerUrl := "\"http\n", confirmations := twoTo 64 - 1,
    keys := [("ETHERSCAN_API_KEY", "secret")] }

/-- One member of settings after a member that no settings have. -/
def partialObject : Json :=
  .obj [("explorer_api_keys", .obj [("ETHERSCAN_API_KEY", .str "secret")]),
    ("compiler_url", .str chosen.compilerUrl)]

theorem room_home : homeTree.Room homeWays "config.json" where
  valid := by decide
  size := by decide
  ways := by
    have hinits : ∀ l ∈ homeWays.inits,
        homeTree.node? l = none ∨ homeTree.node? l = some .directory := by decide
    exact fun l hl => hinits l ((List.mem_inits l homeWays).mpr hl)
  free := by decide

theorem read_homeHolding (text : String) : (homeHolding text).read homeFile = .ok text := rfl

theorem exact_partialObject : partialObject.Exact := by
  refine .obj ?_
  simp only [List.forall_mem_cons, List.not_mem_nil, false_imp_iff, implies_true, and_true]
  refine ⟨.obj ?_, .str _⟩
  simp only [List.forall_mem_cons, List.not_mem_nil, false_imp_iff, implies_true, and_true]
  exact .str _

/-- A home directory with nothing in it, one with a part of the settings and one with no JSON. -/
theorem file_faithful_home :
    (∃ t', chosen.InRange ∧ (chosen.save homeFile).run homeTree = (.ok (), t') ∧
      (loads [fun _ => none, fun _ => some "k"] homeFile).run t' =
        (.ok [chosen.within fun _ => none, chosen.within fun _ => some "k"], t')) ∧
    (loadFrom (fun _ => none) homeFile).run (homeHolding partialObject.compact) =
      (.ok { default with compilerUrl := "\"http\n" }, homeHolding partialObject.compact) ∧
    (homeTree.stands homeFile = false ∧ ∃ t',
      (loadFrom (fun _ => none) homeFile).run homeTree = (.ok default, t') ∧
      (loads [fun _ => none, fun _ => none] homeFile).run t' = (.ok [default, default], t')) ∧
    ∃ fault, (loadFrom (fun _ => none) homeFile).run (homeHolding "\x7b not json") =
      (.error (.parse fault), homeHolding "\x7b not json") := by
  obtain ⟨hsaved, -, -, -, hpartial, hmissing, hparse, hroom⟩ := file_faithful homeFile
  obtain ⟨hsave, hload⟩ := hroom homeWays "config.json" homeTree rfl room_home
  have hstands : homeTree.stands homeFile = false := by decide
  have hrange : chosen.InRange := by decide
  refine ⟨?_, ?_, ⟨hstands, ?_⟩, ?_⟩
  · obtain ⟨t', h⟩ := hsave chosen
    exact ⟨t', hrange, h, hsaved _ _ _ hrange h _⟩
  · have hothers : ∀ m ∈ [(some "explorer_api_keys",
        (Json.obj [("ETHERSCAN_API_KEY", .str "secret")]).reading)],
        ∃ name ∉ names, m.1 = some name :=
      List.forall_mem_singleton.mpr ⟨"explorer_api_keys", by decide, rfl⟩
    exact hpartial chosen (· ≠ "compiler_url") _ _ _ _ hrange hothers
      (List.reverse_perm _).symm exact_partialObject.written_compact (read_homeHolding _) _
  · obtain ⟨t', h⟩ := hload (fun _ => none) hstands
    obtain ⟨-, -, hloads⟩ := hmissing _ _ _ _ hstands h
    exact ⟨t', h, hloads _⟩
  · have hfault : (ofText "\x7b not json").isOk = false := by decide +kernel
    cases h : ofText "\x7b not json" with
    | ok s => simp [h, Except.isOk, Except.toBool] at hfault
    | error fault => exact ⟨fault, (hparse _ _ _ _).mpr ⟨rfl, _, read_homeHolding _, h⟩⟩

end Settings

end TokenLaunch
