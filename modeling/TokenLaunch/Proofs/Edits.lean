import Mathlib.Data.List.Induction
import TokenLaunch.Proofs.Explorers
import TokenLaunch.Proofs.Json.Printing
import TokenLaunch.Proofs.Json.Soundness

/-!
# Edits of the table of explorers

A user puts addresses in place of the built-in ones and takes them back.  The table has for each
network what the last edit with an effect on it has put there, and is read back from its JSON text
in whatever order this has the networks.
-/

namespace TokenLaunch.Explorers

open Json Json.Decoder

variable {t : Explorers} {n : Network}

inductive Edit where
  | setUrl (n : Network) (url : String)
  | reset (n : Network)

namespace Edit

def network : Edit → Network
  | setUrl n _ => n
  | reset n => n

/-- The table after an edit: an address that is refused leaves it as it is. -/
def apply (t : Explorers) : Edit → Explorers
  | setUrl n url => (t.setUrl? n url).getD t
  | reset n => t.reset n

/-- An edit has an effect on its network, unless it is an address that is refused. -/
def Affects (n : Network) : Edit → Prop
  | setUrl m url => m = n ∧ Url.isValid url = true
  | reset m => m = n

theorem apply_setUrl_of_not_isValid {url : String} (h : Url.isValid url = false) :
    (setUrl n url).apply t = t := by
  simp [apply, setUrl?, h]

theorem apply_setUrl {url : String} {x : Explorer} (h : Url.isValid url = true)
    (hx : t n = some x) : (setUrl n url).apply t n = some ⟨x.network, url, true⟩ := by
  simp [apply, setUrl?, h, hx]

theorem apply_other {e : Edit} (hn : n ≠ e.network) : e.apply t n = t n := by
  cases e with
  | setUrl m url =>
    cases hvalid : Url.isValid url with
    | false => rw [apply_setUrl_of_not_isValid hvalid]
    | true =>
      simp only [apply, setUrl?, hvalid, if_true, Option.getD_some]
      exact put_other t _ hn
  | reset m => exact put_other t _ hn

theorem apply_of_not_affects {e : Edit} (he : ¬ e.Affects n) : e.apply t n = t n := by
  by_cases hn : n = e.network
  · subst hn
    cases e with
    | setUrl m url =>
      have hrefused : Url.isValid url = false :=
        Bool.eq_false_of_not_eq_true fun hvalid => he ⟨rfl, hvalid⟩
      rw [apply_setUrl_of_not_isValid hrefused]
    | reset m => exact absurd rfl he
  · exact apply_other hn

theorem foldl_of_not_affects {es : List Edit} (h : ∀ e ∈ es, ¬ e.Affects n) :
    es.foldl apply t n = t n := by
  induction es generalizing t with
  | nil => rfl
  | cons e es ih =>
    obtain ⟨he, hes⟩ := List.forall_mem_cons.mp h
    rw [List.foldl_cons, ih hes, apply_of_not_affects he]

end Edit

/-- The built-in table after some edits. -/
def edited (es : List Edit) : Explorers := es.foldl Edit.apply default

/-- The explorer that the last edit with an effect on a network has given to it: its own address
after it was accepted, and the built-in one after it was reset and where there is no such edit. -/
inductive Last (n : Network) : List Edit → Explorer → Prop
  | untouched {es : List Edit} (h : ∀ e ∈ es, ¬ e.Affects n) : Last n es (.builtIn n)
  | setUrl {before later : List Edit} {url : String} (hvalid : Url.isValid url = true)
      (hlater : ∀ e ∈ later, ¬ e.Affects n) :
      Last n (before ++ .setUrl n url :: later) ⟨n, url, true⟩
  | reset {before later : List Edit} (hlater : ∀ e ∈ later, ¬ e.Affects n) :
      Last n (before ++ .reset n :: later) (.builtIn n)

theorem Last.network {es : List Edit} {x : Explorer} (h : Last n es x) : x.network = n := by
  cases h <;> rfl

theorem Last.snoc {es : List Edit} {x : Explorer} {e : Edit} (h : Last n es x)
    (he : ¬ e.Affects n) : Last n (es ++ [e]) x := by
  have hsnoc {later : List Edit} (hlater : ∀ e ∈ later, ¬ e.Affects n) :
      ∀ e' ∈ later ++ [e], ¬ e'.Affects n :=
    List.forall_mem_append.mpr ⟨hlater, List.forall_mem_singleton.mpr he⟩
  cases h with
  | untouched h => exact .untouched (hsnoc h)
  | setUrl hvalid hlater =>
    rw [List.append_assoc]
    exact .setUrl hvalid (hsnoc hlater)
  | reset hlater =>
    rw [List.append_assoc]
    exact .reset (hsnoc hlater)

theorem edited_append (before later : List Edit) :
    edited (before ++ later) = later.foldl Edit.apply (edited before) := List.foldl_append

theorem exists_last (es : List Edit) (n : Network) : ∃ x, edited es n = some x ∧ Last n es x := by
  induction es using List.reverseRecOn with
  | nil => exact ⟨.builtIn n, rfl, .untouched fun _ h => absurd h List.not_mem_nil⟩
  | append_singleton es e ih =>
    obtain ⟨x, hx, hlast⟩ := ih
    have hnone : ∀ e ∈ ([] : List Edit), ¬ e.Affects n := fun _ h => absurd h List.not_mem_nil
    by_cases he : e.Affects n
    · cases e with
      | setUrl m url =>
        obtain ⟨rfl, hvalid⟩ := he
        refine ⟨⟨m, url, true⟩, ?_, .setUrl hvalid hnone⟩
        rw [edited_append, List.foldl_cons, List.foldl_nil, Edit.apply_setUrl hvalid hx,
          hlast.network]
      | reset m =>
        obtain rfl := he
        exact ⟨.builtIn m, by rw [edited_append]; exact put_same _ _ _, .reset hnone⟩
    · refine ⟨x, ?_, hlast.snoc he⟩
      rw [edited_append, List.foldl_cons, List.foldl_nil, Edit.apply_of_not_affects he, hx]

/-- The table has the explorer of a network that its last edit has given to it. -/
theorem edited_eq_some_iff {es : List Edit} {x : Explorer} :
    edited es n = some x ↔ Last n es x := by
  constructor
  · intro hx
    obtain ⟨y, hy, hlast⟩ := exists_last es n
    obtain rfl := Option.some.inj (hx.symm.trans hy)
    exact hlast
  · intro h
    cases h with
    | untouched h => exact Edit.foldl_of_not_affects h
    | @setUrl before later url hvalid hlater =>
      obtain ⟨y, hy, hlast⟩ := exists_last before n
      rw [edited_append, List.foldl_cons, Edit.foldl_of_not_affects hlater,
        Edit.apply_setUrl hvalid hy, hlast.network]
    | @reset before later hlater =>
      rw [edited_append, List.foldl_cons, Edit.foldl_of_not_affects hlater]
      exact put_same _ _ _

/-! ## JSON -/

/-- The JSON form of a table, with the networks in an order of its own. -/
def dump (t : Explorers) (ns : List Network) : Json :=
  .obj [("configs", .obj (ns.filterMap fun n => (t n).map fun e => (n.slug, e.toJson)))]

theorem toJson_eq_dump (t : Explorers) : t.toJson = t.dump Network.all := rfl

theorem decoder_reading (e : Explorer) : Explorer.decoder e.toJson.reading = .ok e := by
  obtain ⟨n, url, custom⟩ := e
  cases n <;> rfl

theorem exact_dump (t : Explorers) (ns : List Network) : (t.dump ns).Exact := by
  have hentry (e : Explorer) : e.toJson.Exact :=
    .obj (by simp [Exact.str, Exact.bool])
  refine .obj (List.forall_mem_singleton.mpr (.obj fun m hm => ?_))
  obtain ⟨n, -, hn⟩ := List.mem_filterMap.mp hm
  obtain ⟨e, -, rfl⟩ := Option.map_eq_some_iff.mp hn
  exact hentry e

/-- The entries of a table that has an explorer for each network. -/
theorem filterMap_eq_map {x : Network → Explorer} (hx : ∀ n, t n = some (x n))
    (ns : List Network) : (ns.filterMap fun n => (t n).map fun e => (n.slug, e.toJson)) =
      ns.map fun n => (n.slug, (x n).toJson) := by
  simp only [hx, Option.map_some]
  exact congrFun List.filterMap_eq_map' ns

theorem pairs_readingMembers (x : Network → Explorer) (ns : List Network) :
    pairs Network.ofSlug? Explorer.decoder
        (readingMembers (ns.map fun n => (n.slug, (x n).toJson))) =
      .ok (ns.map fun n => (n, x n)) := by
  induction ns with
  | nil => rfl
  | cons n ns ih =>
    rw [List.map_cons, readingMembers, pairs]
    simp [Network.ofSlug?_slug, decoder_reading, ih, bind, Except.bind, pure, Except.pure]

theorem foldl_put (x : Network → Explorer) (ns : List Network) (init : Explorers)
    (n : Network) : (ns.map fun n => (n, x n)).foldl (fun t e => t.put e.1 e.2) init n =
      if n ∈ ns then some (x n) else init n := by
  induction ns generalizing init with
  | nil => rfl
  | cons m ns ih =>
    rw [List.map_cons, List.foldl_cons, ih]
    by_cases hmem : n ∈ ns
    · simp [hmem]
    · by_cases hn : n = m
      · simp [hn]
      · simp [hmem, hn, put_other]

theorem ofEntries_map {x : Network → Explorer} (hx : ∀ n, t n = some (x n)) {ns : List Network}
    (hns : ns.Perm Network.all) : ofEntries (ns.map fun n => (n, x n)) = t := by
  funext n
  have hput := foldl_put x ns (fun _ => none) n
  rw [if_pos (hns.mem_iff.mpr (Network.mem_all n)), ← hx] at hput
  exact hput

theorem decoder_dump (h : ∀ n, (t n).isSome = true) {ns : List Network}
    (hns : ns.Perm Network.all) : decoder (t.dump ns).reading = .ok t := by
  have hx (n : Network) : t n = some ((t n).get (h n)) := (Option.some_get (h n)).symm
  have hentries : entries (Json.obj (ns.filterMap fun n => (t n).map fun e =>
      (n.slug, e.toJson))).reading = .ok t := by
    rw [filterMap_eq_map hx, entries, Json.reading, dictionary, pairs_readingMembers]
    exact congrArg Except.ok (ofEntries_map hx hns)
  have hrecord : record [.of "configs" entries] (t.dump ns).reading =
      .ok [("configs", (Json.obj (ns.filterMap fun n => (t n).map fun e =>
        (n.slug, e.toJson))).reading)] :=
    record_obj_eq_ok_iff.mpr ⟨List.forall_mem_singleton.mpr
      (.field rfl (congrArg (Except.map fun _ => ()) hentries)), rfl, by simp⟩
  rw [decoder, hrecord]
  exact hentries

theorem ofText_of_written (h : ∀ n, (t n).isSome = true) {ns : List Network}
    (hns : ns.Perm Network.all) {s : String} (hs : Written s (t.dump ns).reading) :
    ofText s = .ok t := by
  rw [ofText, Decoder.run, hs.ofText, decoder_dump h hns]
  rfl

theorem isSome_edited (es : List Edit) (n : Network) : (edited es n).isSome = true := by
  obtain ⟨x, hx, -⟩ := exists_last es n
  exact hx ▸ rfl

/-- After any edits the table has an explorer for each network, the one of the last edit with an
effect on it, and sends sources to its address.  A refused address changes nothing, and no edit
changes another network.  The JSON text of the table, in any order of the networks, is read back as
the same table. -/
theorem edited_spec (es : List Edit) :
    (∀ n, ∃ x, edited es n = some x ∧ x.network = n ∧
      ∀ keys : ApiKeys, (edited es).endpoint? keys n =
        some ⟨n, x.apiUrl, (keys.lookup n.keyVariable).getD ""⟩) ∧
    (∀ n x, edited es n = some x ↔ Last n es x) ∧
    (∀ n url, Url.isValid url = false →
      (edited es).setUrl? n url = none ∧ edited (es ++ [.setUrl n url]) = edited es) ∧
    (∀ e n, n ≠ e.network → edited (es ++ [e]) n = edited es n) ∧
    (edited es).toJson = (edited es).dump Network.all ∧
    ∀ ns : List Network, ns.Perm Network.all →
      ofText ((edited es).dump ns).compact = .ok (edited es) ∧
        ofText ((edited es).dump ns).pretty = .ok (edited es) := by
  refine ⟨fun n => ?_, fun n x => edited_eq_some_iff, fun n url hurl => ⟨?_, ?_⟩, fun e n hn => ?_,
    toJson_eq_dump _, fun ns hns => ⟨?_, ?_⟩⟩
  · obtain ⟨x, hx, hlast⟩ := exists_last es n
    refine ⟨x, hx, hlast.network, fun keys => ?_⟩
    rw [endpoint?, hx]
    rfl
  · simp [setUrl?, hurl]
  · rw [edited_append]
    exact Edit.apply_setUrl_of_not_isValid hurl
  · rw [edited_append]
    exact Edit.apply_other hn
  · exact ofText_of_written (isSome_edited es) hns (exact_dump _ ns).written_compact
  · exact ofText_of_written (isSome_edited es) hns (exact_dump _ ns).written_pretty

/-- An accepted address, one that is refused after it, and a reset of another network. -/
def someEdits : List Edit :=
  [.setUrl .bsc "http://[::1]/", .setUrl .bsc "bscscan", .reset .polygon]

theorem edited_spec_someEdits : Url.isValid "bscscan" = false ∧ Network.polygon ≠ .bsc ∧
    Network.all.reverse.Perm Network.all ∧
    edited someEdits .bsc = some ⟨.bsc, "http://[::1]/", true⟩ ∧
    (edited someEdits).setUrl? .bsc "bscscan" = none ∧
    edited (someEdits ++ [.reset .bsc]) .polygon = some (.builtIn .polygon) ∧
    ofText ((edited someEdits).dump Network.all.reverse).compact = .ok (edited someEdits) := by
  have hvalid : Url.isValid "http://[::1]/" = true := by decide +kernel
  have hinvalid : Url.isValid "bscscan" = false := by decide +kernel
  obtain ⟨-, hlast, hrefused, hother, -, hread⟩ := edited_spec someEdits
  have hbsc : Last .bsc someEdits ⟨.bsc, "http://[::1]/", true⟩ :=
    @Last.setUrl .bsc [] [.setUrl .bsc "bscscan", .reset .polygon] _ hvalid
      (by simp [Edit.Affects, hinvalid])
  have hpolygon : Last .polygon someEdits (.builtIn .polygon) :=
    @Last.reset .polygon [.setUrl .bsc "http://[::1]/", .setUrl .bsc "bscscan"] [] (by simp)
  exact ⟨hinvalid, by decide, List.reverse_perm _, (hlast _ _).mpr hbsc, (hrefused _ _ hinvalid).1,
    (hother _ _ (by decide)).trans ((hlast _ _).mpr hpolygon),
    (hread _ (List.reverse_perm _)).1⟩

end TokenLaunch.Explorers
