import Mathlib.Data.List.Nodup
import TokenLaunch.Proofs.Json.Soundness

/-!
# The forms of a record

A record of members with defaults is told by an object with its members in any order among others,
or by the list of its values; what is as the defaults have it may be left out.  Those are the trees
that the record is read of.
-/

namespace TokenLaunch.Json

open Decoder

/-- The trees that tell of the members `us`.  From a list members are left out only at its end. -/
inductive Form (us defaults : List (String × Json)) : Reading → Prop
  | object {kept : List (String × Json)} {others ms : List (Option String × Reading)}
      (hkept : kept.Sublist us) (hleft : ∀ m ∈ us, m ∉ kept → m ∈ defaults)
      (hothers : ∀ m ∈ others, ∃ name ∉ us.map Prod.fst, m.1 = some name)
      (hms : ms.Perm (readingMembers kept ++ others)) : Form us defaults (.obj ms)
  | list (n : Nat) (hleft : us.drop n = defaults.drop n) :
      Form us defaults (.arr (readingItems ((us.take n).map Prod.snd)))

/-- The value that was read of a member is its own, or none where it is as the default. -/
def Holds (defaults : List (String × Json)) (values : List (String × Reading))
    (m : String × Json) : Prop :=
  values.lookup m.1 = some m.2.reading ∨
    values.lookup m.1 = none ∧ defaults.lookup m.1 = some m.2

/-- The members of a record have the names of its fields and the shapes of their values. -/
structure Describes (fields : List Field) (us defaults : List (String × Json)) : Prop where
  names : fields.map (·.name) = us.map Prod.fst
  defaults : us.map Prod.fst = defaults.map Prod.fst
  nodup : (us.map Prod.fst).Nodup
  fits : ∀ m ∈ us, Fits fields (some m.1, m.2.reading)
  skips : ∀ f ∈ fields, ∀ r, f.check r = .ok () → skip r = .ok ()

variable {fields : List Field} {us defaults kept : List (String × Json)}
  {others ms : List (Option String × Reading)} {values : List (String × Reading)}

theorem nodup_readingMembers (hnodup : (us.map Prod.fst).Nodup) (hkept : kept.Sublist us) :
    ((readingMembers kept).map Prod.fst).Nodup := by
  have hkeys : (kept.map Prod.fst).Nodup := hnodup.sublist (hkept.map Prod.fst)
  have hmap : (readingMembers kept).map Prod.fst = (kept.map Prod.fst).map some := by
    rw [readingMembers_eq_map, List.map_map, List.map_map]
    rfl
  exact hmap ▸ hkeys.map (Option.some_injective String)

theorem mem_iff_of_perm (hms : ms.Perm (readingMembers kept ++ others))
    (m : Option String × Reading) :
    m ∈ ms ↔ (∃ x ∈ kept, (some x.1, x.2.reading) = m) ∨ m ∈ others := by
  rw [hms.mem_iff, List.mem_append, readingMembers_eq_map, List.mem_map]

namespace Describes

variable (h : Describes fields us defaults)

include h

theorem mem_names {m : String × Json} (hm : m ∈ us) : m.1 ∈ fields.map (·.name) :=
  h.names ▸ List.mem_map_of_mem hm

theorem mem_defaults_iff {m : String × Json} :
    m ∈ defaults ↔ defaults.lookup m.1 = some m.2 :=
  (lookup_eq_some_iff_mem (h.defaults ▸ h.nodup)).symm

/-! ## Objects -/

/-- The fields that are read of an object are members of the record. -/
theorem known_perm (hrecord : record fields (.obj ms) = .ok values)
    (hholds : ∀ m ∈ us, Holds defaults values m) : (known fields ms).Perm
      ((us.filter fun m => (values.lookup m.1).isSome).map fun m => (m.1, m.2.reading)) := by
  obtain ⟨-, hvalues, hnodup⟩ := record_obj_eq_ok_iff.mp hrecord
  have hkeys : (((us.filter fun m => (values.lookup m.1).isSome).map
      fun m => (m.1, m.2.reading)).map Prod.fst).Nodup := by
    rw [List.map_map]
    exact h.nodup.sublist (List.filter_sublist.map Prod.fst)
  rw [hvalues, List.map_reverse, List.nodup_reverse] at hnodup
  refine (List.perm_ext_iff_of_nodup hnodup.of_map hkeys.of_map).mpr fun ⟨name, r⟩ => ?_
  rw [mem_known_iff]
  constructor
  · rintro ⟨hname, hmem⟩
    have hlookup := (lookup_eq_some_iff_of_record hrecord hname).mpr hmem
    rw [h.names] at hname
    obtain ⟨m, hm, rfl⟩ := List.mem_map.mp hname
    refine List.mem_map.mpr ⟨m, List.mem_filter.mpr ⟨hm, hlookup ▸ rfl⟩, ?_⟩
    obtain hvalue | ⟨hnone, -⟩ := hholds m hm
    · rw [Option.some.inj (hvalue.symm.trans hlookup)]
    · cases hnone.symm.trans hlookup
  · intro hmem
    obtain ⟨m, hm, heq⟩ := List.mem_map.mp hmem
    obtain ⟨rfl, rfl⟩ := Prod.mk.inj heq
    obtain ⟨hm, hsome⟩ := List.mem_filter.mp hm
    have hname := h.mem_names hm
    refine ⟨hname, (lookup_eq_some_iff_of_record hrecord hname).mp ?_⟩
    obtain hvalue | ⟨hnone, -⟩ := hholds m hm
    · exact hvalue
    · rw [hnone] at hsome
      cases hsome

theorem form_of_record (hrecord : record fields (.obj ms) = .ok values)
    (hholds : ∀ m ∈ us, Holds defaults values m) : Form us defaults (.obj ms) := by
  have hleft (m) (hm : m ∈ us) (hnot : m ∉ us.filter fun m => (values.lookup m.1).isSome) :
      m ∈ defaults := by
    obtain hvalue | ⟨-, hdefault⟩ := hholds m hm
    · exact absurd (List.mem_filter.mpr ⟨hm, hvalue ▸ rfl⟩) hnot
    · exact h.mem_defaults_iff.mpr hdefault
  have hothers (m) (hm : m ∈ ms.filter fun m => !isField fields m) :
      ∃ name ∉ us.map Prod.fst, m.1 = some name := by
    obtain ⟨hm, hother⟩ := List.mem_filter.mp hm
    cases (record_obj_eq_ok_iff.mp hrecord).1 m hm with
    | field hf =>
      rw [isField_iff.mpr (mem_names_of_find? hf)] at hother
      cases hother
    | other hname => exact ⟨_, h.names ▸ hname, rfl⟩
  refine .object List.filter_sublist hleft hothers ?_
  have hmap := (h.known_perm hrecord hholds).map fun v => (some v.1, v.2)
  rw [map_known, List.map_map] at hmap
  rw [readingMembers_eq_map]
  exact (List.filter_append_perm _ ms).symm.trans (hmap.append_right _)

theorem nodup_known (hkept : kept.Sublist us)
    (hothers : ∀ m ∈ others, ∃ name ∉ us.map Prod.fst, m.1 = some name)
    (hms : ms.Perm (readingMembers kept ++ others)) : ((known fields ms).map Prod.fst).Nodup := by
  have hself : (readingMembers kept).filter (isField fields) = readingMembers kept := by
    rw [readingMembers_eq_map, List.filter_eq_self, List.forall_mem_map]
    exact fun x hx => isField_iff.mpr (h.mem_names (hkept.subset hx))
  have hnone : others.filter (isField fields) = [] := by
    rw [List.filter_eq_nil_iff]
    rintro ⟨_, r⟩ hm
    obtain ⟨name, hname, rfl⟩ := hothers _ hm
    exact mt isField_iff.mp (h.names ▸ hname)
  have hfields := (hms.filter (isField fields)).map Prod.fst
  rw [List.filter_append, hself, hnone, List.append_nil, ← map_known, List.map_map] at hfields
  refine List.Nodup.of_map some ?_
  rw [List.map_map]
  exact hfields.nodup_iff.mpr (nodup_readingMembers h.nodup hkept)

theorem record_of_object (hkept : kept.Sublist us) (hleft : ∀ m ∈ us, m ∉ kept → m ∈ defaults)
    (hothers : ∀ m ∈ others, ∃ name ∉ us.map Prod.fst, m.1 = some name)
    (hms : ms.Perm (readingMembers kept ++ others)) (hskip : skipMembers ms = .ok ()) :
    ∃ values, record fields (.obj ms) = .ok values ∧ ∀ m ∈ us, Holds defaults values m := by
  have hmem := mem_iff_of_perm hms
  have hfits (m) (hm : m ∈ ms) : Fits fields m := by
    obtain ⟨x, hx, rfl⟩ | hother := (hmem m).mp hm
    · exact h.fits x (hkept.subset hx)
    · obtain ⟨name, hname, hm₁⟩ := hothers m hother
      obtain ⟨_, r⟩ := m
      obtain rfl : _ = some name := hm₁
      exact .other (h.names ▸ hname) (skipMembers_eq_ok_iff.mp hskip _ hm)
  have hrecord : record fields (.obj ms) = .ok (known fields ms).reverse := by
    refine record_obj_eq_ok_iff.mpr ⟨hfits, rfl, ?_⟩
    rw [List.map_reverse, List.nodup_reverse]
    exact h.nodup_known hkept hothers hms
  refine ⟨_, hrecord, fun m hm => ?_⟩
  have hname := h.mem_names hm
  by_cases hkeptm : m ∈ kept
  · exact .inl ((lookup_eq_some_iff_of_record hrecord hname).mpr
      ((hmem _).mpr (.inl ⟨m, hkeptm, rfl⟩)))
  · refine .inr ⟨(lookup_eq_none_iff_of_record hrecord hname).mpr fun r hr => ?_,
      h.mem_defaults_iff.mp (hleft m hm hkeptm)⟩
    obtain ⟨x, hx, heq⟩ | hother := (hmem _).mp hr
    · have hsame : x.1 = m.1 := Option.some.inj (Prod.mk.inj heq).1
      exact hkeptm (List.inj_on_of_nodup_map h.nodup (hkept.subset hx) hm hsame ▸ hx)
    · obtain ⟨name, hother, heq⟩ := hothers _ hother
      exact hother (Option.some.inj heq ▸ List.mem_map_of_mem hm)

end Describes

/-! ## Lists -/

/-- Members of the same names are the same if each of the one list is in the other. -/
theorem eq_of_forall_mem (hnames : us.map Prod.fst = defaults.map Prod.fst)
    (hnodup : (us.map Prod.fst).Nodup) (h : ∀ m ∈ us, m ∈ defaults) : us = defaults := by
  induction us generalizing defaults with
  | nil => exact (List.map_eq_nil_iff.mp hnames.symm).symm
  | cons u us ih =>
    cases defaults with
    | nil => cases hnames
    | cons v vs =>
      obtain ⟨-, htail⟩ := List.cons.inj hnames
      obtain ⟨hu, hus⟩ := List.nodup_cons.mp hnodup
      have hhead : u = v := (List.mem_cons.mp (h u List.mem_cons_self)).resolve_right fun hmem =>
        hu (htail ▸ List.mem_map_of_mem hmem)
      refine congrArg₂ _ hhead (ih htail hus fun m hm => ?_)
      refine (List.mem_cons.mp (h m (List.mem_cons_of_mem u hm))).resolve_left fun hmv => ?_
      exact hu (hhead ▸ hmv ▸ List.mem_map_of_mem hm)

/-- Items under the names of members are their values, and the rest of the members is left out. -/
theorem eq_of_forall_mem_zip {items : List Reading}
    (hnames : us.map Prod.fst = defaults.map Prod.fst) (hnodup : (us.map Prod.fst).Nodup)
    (hlength : items.length ≤ us.length)
    (h : ∀ m ∈ us, (some m.1, m.2.reading) ∈ (us.map fun m => some m.1).zip items ∨
      (∀ r, (some m.1, r) ∉ (us.map fun m => some m.1).zip items) ∧ m ∈ defaults) :
    items = readingItems ((us.take items.length).map Prod.snd) ∧
      us.drop items.length = defaults.drop items.length := by
  induction items generalizing us defaults with
  | nil =>
    refine ⟨rfl, eq_of_forall_mem hnames hnodup fun m hm => ?_⟩
    simpa using h m hm
  | cons r items ih =>
    cases us with
    | nil => cases hlength
    | cons u us =>
      cases defaults with
      | nil => cases hnames
      | cons v vs =>
        obtain ⟨hname, htail⟩ := List.cons.inj hnames
        obtain ⟨hu, hus⟩ := List.nodup_cons.mp hnodup
        have hfirst (x : Reading) : (some u.1, x) ∉ (us.map fun m => some m.1).zip items := by
          intro hmem
          obtain ⟨m, hm, heq⟩ := List.mem_map.mp (List.of_mem_zip hmem).1
          exact hu (List.mem_map.mpr ⟨m, hm, Option.some.inj heq⟩)
        have hhead : r = u.2.reading := by
          simpa [hfirst, eq_comm] using h u List.mem_cons_self
        obtain ⟨hitems, hdrop⟩ := ih htail hus (Nat.le_of_succ_le_succ hlength) fun m hm => by
          have hne : m.1 ≠ u.1 := fun heq => hu (heq ▸ List.mem_map_of_mem hm)
          have hnev : m ≠ v := fun heq => hne (heq ▸ hname.symm)
          simpa [hne, hnev] using h m (List.mem_cons_of_mem u hm)
        exact ⟨congrArg₂ _ hhead hitems, hdrop⟩

theorem zip_take {α β γ : Type} (f : α → β) (g : α → γ) (as : List α) (n : Nat) :
    (as.map f).zip ((as.take n).map g) = (as.take n).map fun a => (f a, g a) := by
  induction as generalizing n with
  | nil => simp
  | cons a as ih =>
    cases n with
    | zero => rfl
    | succ n => exact congrArg (_ :: ·) (ih n)

namespace Describes

variable (h : Describes fields us defaults)

include h

theorem map_some_names : (fields.map fun f => some f.name) = us.map fun m => some m.1 := by
  have hsome := congrArg (List.map some) h.names
  rwa [List.map_map, List.map_map] at hsome

theorem form_of_zip {items : List Reading} (hlength : items.length ≤ fields.length)
    (hrecord : record fields (.obj ((fields.map fun f => some f.name).zip items)) = .ok values)
    (hholds : ∀ m ∈ us, Holds defaults values m) : Form us defaults (.arr items) := by
  have hmem (m) (hm : m ∈ us) : (some m.1, m.2.reading) ∈ (us.map fun m => some m.1).zip items ∨
      (∀ r, (some m.1, r) ∉ (us.map fun m => some m.1).zip items) ∧ m ∈ defaults := by
    have hname := h.mem_names hm
    rw [← h.map_some_names, ← lookup_eq_some_iff_of_record hrecord hname,
      ← lookup_eq_none_iff_of_record hrecord hname, h.mem_defaults_iff]
    exact hholds m hm
  have hus : items.length ≤ us.length := by
    have hlengths := congrArg List.length h.names
    rw [List.length_map, List.length_map] at hlengths
    exact hlengths ▸ hlength
  obtain ⟨hitems, hleft⟩ := eq_of_forall_mem_zip h.defaults h.nodup hus hmem
  rw [hitems]
  exact .list items.length hleft

theorem record_of_list {n : Nat} (hleft : us.drop n = defaults.drop n) :
    ∃ values, record fields (.arr (readingItems ((us.take n).map Prod.snd))) = .ok values ∧
      ∀ m ∈ us, Holds defaults values m := by
  have hzip : (fields.map fun f => some f.name).zip (readingItems ((us.take n).map Prod.snd)) =
      readingMembers (us.take n) := by
    rw [readingItems_eq_map, List.map_map, readingMembers_eq_map, h.map_some_names]
    exact zip_take _ _ _ n
  have hdefault (m) (hm : m ∈ us) (hnot : m ∉ us.take n) : m ∈ defaults := by
    rw [← List.take_append_drop n us, List.mem_append, hleft] at hm
    exact List.mem_of_mem_drop (hm.resolve_left hnot)
  obtain ⟨values, hrecord, hholds⟩ := h.record_of_object (List.take_sublist n us) hdefault
    (fun m hm => absurd hm List.not_mem_nil) (.of_eq (List.append_nil _).symm)
    (skip_readingMembers _)
  refine ⟨values, record_arr_eq_ok_iff.mpr ⟨?_, hzip ▸ hrecord⟩, hholds⟩
  have hlengths := congrArg List.length h.names
  rw [List.length_map, List.length_map] at hlengths
  rw [readingItems_eq_map, List.length_map, List.length_map, hlengths]
  exact List.length_take_le' n us

/-- The values of a record are read of its forms, where these have no break. -/
theorem exists_record_iff {r : Reading} :
    (∃ values, record fields r = .ok values ∧ ∀ m ∈ us, Holds defaults values m) ↔
      Form us defaults r ∧ skip r = .ok () := by
  constructor
  · rintro ⟨values, hrecord, hholds⟩
    refine ⟨?_, skip_of_record h.skips hrecord⟩
    obtain ⟨ms, rfl⟩ | ⟨items, rfl⟩ := record_eq_ok hrecord
    · exact h.form_of_record hrecord hholds
    · obtain ⟨hlength, hzip⟩ := record_arr_eq_ok_iff.mp hrecord
      exact h.form_of_zip hlength hzip hholds
  · rintro ⟨hform, hskip⟩
    cases hform with
    | object hkept hleft hothers hms => exact h.record_of_object hkept hleft hothers hms hskip
    | list n hleft => exact h.record_of_list hleft

end Describes

/-! ## What is no form -/

namespace Form

/-- The members of a record are told in their order by an object of them alone. -/
theorem refl (us defaults : List (String × Json)) : Form us defaults (Json.obj us).reading :=
  .object (List.Sublist.refl us) (fun _ hm hnot => absurd hm hnot)
    (fun _ hm => absurd hm List.not_mem_nil) (.of_eq (List.append_nil _).symm)

theorem count_le_one (hnodup : (us.map Prod.fst).Nodup) (h : Form us defaults (.obj ms))
    {name : String} (hname : name ∈ us.map Prod.fst) :
    (ms.map Prod.fst).count (some name) ≤ 1 := by
  obtain @⟨kept, others, _, hkept, -, hothers, hms⟩ := h
  have hnone : some name ∉ others.map Prod.fst := by
    intro hmem
    obtain ⟨m, hm, heq⟩ := List.mem_map.mp hmem
    obtain ⟨other, hother, hm₁⟩ := hothers m hm
    exact hother (Option.some.inj (hm₁.symm.trans heq) ▸ hname)
  rw [(hms.map Prod.fst).count_eq, List.map_append, List.count_append,
    List.count_eq_zero_of_not_mem hnone]
  exact List.nodup_iff_count_le_one.mp (nodup_readingMembers hnodup hkept) _

/-- What an object has under the name of a member is the value of such a member. -/
theorem exists_of_mem_obj (h : Form us defaults (.obj ms)) {name : String} {r : Reading}
    (hname : name ∈ us.map Prod.fst) (hmem : (some name, r) ∈ ms) :
    ∃ m ∈ us, m.1 = name ∧ m.2.reading = r := by
  obtain ⟨hkept, -, hothers, hms⟩ := h
  obtain ⟨m, hm, heq⟩ | hother := (mem_iff_of_perm hms _).mp hmem
  · obtain ⟨hm₁, hm₂⟩ := Prod.mk.inj heq
    exact ⟨m, hkept.subset hm, Option.some.inj hm₁, hm₂⟩
  · obtain ⟨other, hnot, heq⟩ := hothers _ hother
    exact absurd (Option.some.inj heq ▸ hname) hnot

/-- What a list has at the place of a member is the value of that member. -/
theorem exists_of_mem_zip {items : List Reading} (h : Form us defaults (.arr items))
    {name : String} {r : Reading} (hmem : (name, r) ∈ (us.map Prod.fst).zip items) :
    ∃ m ∈ us, m.1 = name ∧ m.2.reading = r := by
  obtain ⟨n, -⟩ := h
  rw [readingItems_eq_map, List.map_map, zip_take, List.mem_map] at hmem
  obtain ⟨m, hm, heq⟩ := hmem
  obtain ⟨hm₁, hm₂⟩ := Prod.mk.inj heq
  exact ⟨m, List.mem_of_mem_take hm, hm₁, hm₂⟩

end Form

end TokenLaunch.Json
