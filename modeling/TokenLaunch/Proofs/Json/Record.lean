import TokenLaunch.Json.Decoder
import TokenLaunch.Proofs.Json.Grammar
import TokenLaunch.Proofs.Validation

/-!
# Records in JSON

A record is read from the members of an object in any order.  Each field is there once or left out,
and what has a name of its own is passed over.
-/

namespace TokenLaunch.Json.Decoder

variable {fields : List Field} {ms : List (Option String × Reading)}
  {values : List (String × Reading)} {name : String} {r : Reading}

/-! ## Lists of pairs -/

section

variable {β : Type} {pairs : List (String × β)} {b : β}

theorem isSome_lookup_iff : (pairs.lookup name).isSome = true ↔ name ∈ pairs.map Prod.fst := by
  induction pairs with
  | nil => simp
  | cons p pairs ih =>
    rw [List.lookup_cons, List.map_cons, List.mem_cons]
    split
    · rename_i heq
      simp [eq_of_beq heq]
    · rename_i hne
      simp [ih, ne_of_beq_false hne]

theorem lookup_eq_some_iff_mem (hnodup : (pairs.map Prod.fst).Nodup) :
    pairs.lookup name = some b ↔ (name, b) ∈ pairs := by
  induction pairs with
  | nil => simp
  | cons p pairs ih =>
    rw [List.map_cons, List.nodup_cons] at hnodup
    rw [List.lookup_cons, List.mem_cons]
    split
    · rename_i heq
      obtain rfl := eq_of_beq heq
      have hnot : (p.1, b) ∉ pairs := fun hmem =>
        hnodup.1 (List.mem_map.mpr ⟨(p.1, b), hmem, rfl⟩)
      simp [hnot, Prod.ext_iff, eq_comm]
    · rename_i hne
      have hname : (name, b) ≠ p := fun heq => ne_of_beq_false hne (heq ▸ rfl)
      simp [ih hnodup.2, hname]

end

/-! ## Members -/

theorem bind_unit_eq_ok_iff {ε α : Type} {x : Except ε Unit} {y : Except ε α} {a : α} :
    (x >>= fun _ => y) = .ok a ↔ x = .ok () ∧ y = .ok a := by
  rw [bind_eq_ok_iff]
  exact ⟨fun ⟨_, hx, hy⟩ => ⟨hx, hy⟩, fun ⟨hx, hy⟩ => ⟨(), hx, hy⟩⟩

/-- The members of an object that are fields, in order. -/
def known (fields : List Field) (ms : List (Option String × Reading)) : List (String × Reading) :=
  ms.filterMap fun m => m.1.bind fun name =>
    if name ∈ fields.map (·.name) then some (name, m.2) else none

/-- A member has a name, and a value of the shape of the field of that name or one to pass over. -/
inductive Fits (fields : List Field) : Option String × Reading → Prop
  | field {name : String} {f : Field} {r : Reading} (hf : fields.find? (·.name == name) = some f)
      (h : f.check r = .ok ()) : Fits fields (some name, r)
  | other {name : String} {r : Reading} (hname : name ∉ fields.map (·.name))
      (h : skip r = .ok ()) : Fits fields (some name, r)

theorem mem_names_of_find? {f : Field} (h : fields.find? (·.name == name) = some f) :
    name ∈ fields.map (·.name) :=
  eq_of_beq (List.find?_some h :) ▸ List.mem_map.mpr ⟨f, List.mem_of_find?_eq_some h, rfl⟩

theorem mem_known_iff : (name, r) ∈ known fields ms ↔
    name ∈ fields.map (·.name) ∧ (some name, r) ∈ ms := by
  simp only [known, List.mem_filterMap, Option.bind_eq_some_iff]
  constructor
  · rintro ⟨⟨_, r'⟩, hm, name', rfl, hname⟩
    obtain ⟨hfield, heq⟩ := Option.ite_none_right_eq_some.mp hname
    obtain ⟨rfl, rfl⟩ := Prod.mk.inj (Option.some.inj heq)
    exact ⟨hfield, hm⟩
  · rintro ⟨hname, hm⟩
    exact ⟨(some name, r), hm, name, rfl, if_pos hname⟩

theorem known_cons_of_mem (hname : name ∈ fields.map (·.name)) :
    known fields ((some name, r) :: ms) = (name, r) :: known fields ms :=
  List.filterMap_cons_some (if_pos hname)

theorem known_cons_of_notMem (hname : name ∉ fields.map (·.name)) :
    known fields ((some name, r) :: ms) = known fields ms :=
  List.filterMap_cons_none (if_neg hname)

def isField (fields : List Field) (m : Option String × Reading) : Bool :=
  m.1 ∈ fields.map fun f => some f.name

theorem isField_iff : isField fields (some name, r) = true ↔ name ∈ fields.map (·.name) := by
  simp [isField]

theorem map_known (fields : List Field) (ms : List (Option String × Reading)) :
    (known fields ms).map (fun v => (some v.1, v.2)) = ms.filter (isField fields) := by
  induction ms with
  | nil => rfl
  | cons m ms ih =>
    obtain ⟨_ | name, r⟩ := m
    · have hnone : isField fields (none, r) = false := by simp [isField]
      rw [List.filter_cons_of_neg (by simp [hnone]), ← ih]
      rfl
    · by_cases hname : name ∈ fields.map (·.name)
      · rw [known_cons_of_mem hname, List.map_cons, ih,
          List.filter_cons_of_pos (isField_iff.mpr hname)]
      · rw [known_cons_of_notMem hname, ih, List.filter_cons_of_neg (mt isField_iff.mp hname)]

theorem fieldValues_other {seen : List (String × Reading)}
    (hfind : fields.find? (·.name == name) = none) :
    fieldValues fields ((some name, r) :: ms) seen =
      (skip r >>= fun _ => fieldValues fields ms seen) := by
  rw [fieldValues, hfind]

theorem fieldValues_field {seen : List (String × Reading)} {f : Field}
    (hfind : fields.find? (·.name == name) = some f) :
    fieldValues fields ((some name, r) :: ms) seen =
      if (seen.lookup name).isSome then .error .mismatch
      else f.check r >>= fun _ => fieldValues fields ms ((name, r) :: seen) := by
  rw [fieldValues, hfind]

theorem fits_other_iff (hfind : fields.find? (·.name == name) = none) :
    Fits fields (some name, r) ↔ skip r = .ok () := by
  have hname : name ∉ fields.map (·.name) := by
    simpa using List.find?_eq_none.mp hfind
  refine ⟨fun h => ?_, .other hname⟩
  cases h with
  | field hf h => exact absurd (mem_names_of_find? hf) hname
  | other _ h => exact h

theorem fits_field_iff {f : Field} (hfind : fields.find? (·.name == name) = some f) :
    Fits fields (some name, r) ↔ f.check r = .ok () := by
  refine ⟨fun h => ?_, .field hfind⟩
  cases h with
  | field hf h => exact Option.some.inj (hfind.symm.trans hf) ▸ h
  | other hnot => exact absurd (mem_names_of_find? hfind) hnot

/-- The fields of a record are read exactly if every member fits and no field comes twice. -/
theorem fieldValues_eq_ok_iff {seen : List (String × Reading)}
    (hseen : (seen.map Prod.fst).Nodup) : fieldValues fields ms seen = .ok values ↔
      (∀ m ∈ ms, Fits fields m) ∧ values = (known fields ms).reverse ++ seen ∧
        (values.map Prod.fst).Nodup := by
  induction ms generalizing seen with
  | nil =>
    simp only [fieldValues, Except.ok.injEq, known, List.filterMap_nil, List.reverse_nil,
      List.nil_append]
    constructor
    · rintro rfl
      exact ⟨fun m hm => absurd hm List.not_mem_nil, rfl, hseen⟩
    · exact fun h => h.2.1.symm
  | cons m ms ih =>
    obtain ⟨_ | name, r⟩ := m
    · refine iff_of_false (fun h => by cases h) fun h => ?_
      cases h.1 _ List.mem_cons_self
    rw [List.forall_mem_cons]
    cases hfind : fields.find? (·.name == name) with
    | none =>
      have hname : name ∉ fields.map (·.name) := by
        simpa using List.find?_eq_none.mp hfind
      rw [fieldValues_other hfind, known_cons_of_notMem hname, fits_other_iff hfind, and_assoc,
        ← ih hseen]
      exact bind_unit_eq_ok_iff
    | some f =>
      have hkeys : (known fields ((some name, r) :: ms)).reverse ++ seen =
          (known fields ms).reverse ++ (name, r) :: seen := by
        simp [known_cons_of_mem (mem_names_of_find? hfind)]
      rw [fieldValues_field hfind, hkeys, fits_field_iff hfind]
      -- the names seen before stay among those of all values, so a second one shows there
      by_cases hmem : name ∈ seen.map Prod.fst
      · have htwice : ¬ (((known fields ms).reverse ++ (name, r) :: seen).map Prod.fst).Nodup := by
          rw [List.map_append, List.map_cons, List.nodup_append]
          exact fun h => (List.nodup_cons.mp h.2.1).1 hmem
        rw [if_pos (isSome_lookup_iff.mpr hmem)]
        exact iff_of_false nofun fun ⟨_, hvalues, hnodup⟩ => htwice (hvalues ▸ hnodup)
      · have hnodup : (((name, r) :: seen).map Prod.fst).Nodup := List.nodup_cons.mpr ⟨hmem, hseen⟩
        rw [if_neg (mt isSome_lookup_iff.mp hmem), and_assoc, ← ih hnodup]
        exact bind_unit_eq_ok_iff

theorem record_obj_eq_ok_iff : record fields (.obj ms) = .ok values ↔
    (∀ m ∈ ms, Fits fields m) ∧ values = (known fields ms).reverse ∧
      (values.map Prod.fst).Nodup := by
  have hrecord : record fields (.obj ms) = fieldValues fields ms [] := rfl
  have hnodup : (([] : List (String × Reading)).map Prod.fst).Nodup := List.nodup_nil
  rw [hrecord, fieldValues_eq_ok_iff hnodup, List.append_nil]

/-- A record is read from a list as from the object with the fields under their names, as long as
there is a field for each item. -/
theorem record_arr_eq_ok_iff {items : List Reading} : record fields (.arr items) = .ok values ↔
    items.length ≤ fields.length ∧
      record fields (.obj ((fields.map fun f => some f.name).zip items)) = .ok values := by
  by_cases hlength : items.length ≤ fields.length
  · have hrecord : record fields (.arr items) =
        record fields (.obj ((fields.map fun f => some f.name).zip items)) := by
      simp [record, members?, hlength]
    rw [hrecord, and_iff_right hlength]
  · have hrecord : record fields (.arr items) = record fields (.obj
        ((fields.map fun f => some f.name).zip items ++ [(none, Reading.broken)])) := by
      simp [record, members?, hlength]
    refine iff_of_false (fun h => ?_) fun h => hlength h.1
    rw [hrecord, record_obj_eq_ok_iff] at h
    cases h.1 (none, .broken) (by simp)

theorem record_eq_ok {r : Reading} (h : record fields r = .ok values) :
    (∃ ms, r = .obj ms) ∨ ∃ items, r = .arr items := by
  cases r with
  | obj ms => exact .inl ⟨ms, rfl⟩
  | arr items => exact .inr ⟨items, rfl⟩
  | null | bool | num | str | broken => cases h

/-- The value that is read of a field is that of its member. -/
theorem lookup_eq_some_iff_of_record (h : record fields (.obj ms) = .ok values)
    (hname : name ∈ fields.map (·.name)) : values.lookup name = some r ↔ (some name, r) ∈ ms := by
  obtain ⟨-, rfl, hnodup⟩ := record_obj_eq_ok_iff.mp h
  rw [lookup_eq_some_iff_mem hnodup, List.mem_reverse, mem_known_iff, and_iff_right hname]

theorem lookup_eq_none_iff_of_record (h : record fields (.obj ms) = .ok values)
    (hname : name ∈ fields.map (·.name)) :
    values.lookup name = none ↔ ∀ r, (some name, r) ∉ ms := by
  simp only [Option.eq_none_iff_forall_ne_some, ne_eq, lookup_eq_some_iff_of_record h hname]

/-! ## Trees of values -/

theorem readingItems_eq_map (vs : List Json) : readingItems vs = vs.map reading := by
  induction vs with
  | nil => rfl
  | cons v vs ih => rw [readingItems, ih, List.map_cons]

theorem readingMembers_eq_map (ms : List (String × Json)) :
    readingMembers ms = ms.map fun m => (some m.1, m.2.reading) := by
  induction ms with
  | nil => rfl
  | cons m ms ih => rw [readingMembers, ih, List.map_cons]

theorem skipMembers_cons {m : Option String × Reading} : skipMembers (m :: ms) = .ok () ↔
    skip m.2 = .ok () ∧ skipMembers ms = .ok () := bind_unit_eq_ok_iff

theorem skipMembers_eq_ok_iff : skipMembers ms = .ok () ↔ ∀ m ∈ ms, skip m.2 = .ok () := by
  induction ms with
  | nil => simp [skipMembers]
  | cons m ms ih => rw [skipMembers_cons, List.forall_mem_cons, ih]

theorem skipItems_cons {rs : List Reading} : skipItems (r :: rs) = .ok () ↔
    skip r = .ok () ∧ skipItems rs = .ok () := bind_unit_eq_ok_iff

theorem skipItems_eq_ok_iff {rs : List Reading} :
    skipItems rs = .ok () ↔ ∀ r ∈ rs, skip r = .ok () := by
  induction rs with
  | nil => simp [skipItems]
  | cons r rs ih => rw [skipItems_cons, List.forall_mem_cons, ih]

mutual

theorem skip_reading : (j : Json) → skip j.reading = .ok ()
  | .null | .bool _ | .str _ => rfl
  | .num (.natural _) | .num (.negative _) | .num (.float _) => rfl
  | .arr items => skip_readingItems items
  | .obj members => skip_readingMembers members

theorem skip_readingItems : (vs : List Json) → skipItems (readingItems vs) = .ok ()
  | [] => rfl
  | v :: vs => skipItems_cons.mpr ⟨skip_reading v, skip_readingItems vs⟩

theorem skip_readingMembers :
    (ms : List (String × Json)) → skipMembers (readingMembers ms) = .ok ()
  | [] => rfl
  | m :: ms => skipMembers_cons.mpr ⟨skip_reading m.2, skip_readingMembers ms⟩

end

/-- A record without a break in a field has none at all. -/
theorem skip_of_record (hfields : ∀ f ∈ fields, ∀ r, f.check r = .ok () → skip r = .ok ())
    (h : record fields r = .ok values) : skip r = .ok () := by
  have hobj {ms : List (Option String × Reading)} (h : record fields (.obj ms) = .ok values) :
      ∀ m ∈ ms, skip m.2 = .ok () := by
    intro m hm
    cases (record_obj_eq_ok_iff.mp h).1 m hm with
    | field hf h => exact hfields _ (List.mem_of_find?_eq_some hf) _ h
    | other _ h => exact h
  obtain ⟨ms, rfl⟩ | ⟨items, rfl⟩ := record_eq_ok h
  · exact skipMembers_eq_ok_iff.mpr (hobj h)
  · obtain ⟨hlength, h⟩ := record_arr_eq_ok_iff.mp h
    refine skipItems_eq_ok_iff.mpr fun r hr => ?_
    have hitems : ((fields.map fun f => some f.name).zip items).map Prod.snd = items :=
      List.map_snd_zip (by simpa using hlength)
    rw [← hitems] at hr
    obtain ⟨m, hm, rfl⟩ := List.mem_map.mp hr
    exact hobj h m hm

theorem check_of_eq_ok {α : Type} {d : Decoder α} {a : α} (h : d r = .ok a) (name : String) :
    (Field.of name d).check r = .ok () :=
  congrArg (Except.map fun _ => ()) h

theorem exists_of_required {α : Type} {d : Decoder α} {a : α}
    (h : required name d values = .ok a) : ∃ r, d r = .ok a := by
  unfold required at h
  split at h
  · exact ⟨_, h⟩
  · cases h

/-! ## Exact decoders -/

/-- A decoder reads what an encoder writes, and nothing else. -/
def Inverts {α : Type} (d : Decoder α) (encode : α → Json) : Prop :=
  ∀ r a, d r = .ok a ↔ r = (encode a).reading

theorem inverts_text : Inverts text .str := by
  intro r s
  cases r with
  | str t => cases t <;> simp [text, wrongShape, Json.reading]
  | null | bool | num | arr | obj | broken => simp [text, Json.reading]

namespace Inverts

variable {α : Type} {d : Decoder α} {encode : α → Json} (h : Inverts d encode)

include h

theorem optional (hnull : ∀ a, (encode a).reading ≠ .null) :
    Inverts (optional d) (.ofOption encode) := by
  intro r a
  by_cases hr : r = .null
  · subst hr
    cases a with
    | none => exact iff_of_true rfl rfl
    | some a => exact iff_of_false nofun (hnull a).symm
  · have hsome : Decoder.optional d r = (d r).map some := by
      unfold Decoder.optional
      split
      · exact absurd rfl hr
      · rfl
    rw [hsome]
    cases a with
    | none =>
      refine iff_of_false (fun heq => ?_) hr
      cases hd : d r <;> simp [hd, Except.map] at heq
    | some a =>
      have hmap : (d r).map some = .ok (some a) ↔ d r = .ok a := by
        cases d r <;> simp [Except.map]
      exact hmap.trans (h r a)

theorem mapM {items : List Reading} {as : List α} :
    items.mapM d = .ok as ↔ items = readingItems (as.map encode) := by
  induction items generalizing as with
  | nil => cases as <;> simp [readingItems, pure, Except.pure]
  | cons r items ih =>
    simp only [List.mapM_cons, bind_eq_ok_iff, h r, ih]
    cases as with
    | nil => exact iff_of_false (by rintro ⟨a, -, as, -, heq⟩; cases heq) nofun
    | cons a as => simp [readingItems, pure, Except.pure]

theorem list : Inverts (list d) fun as => .arr (as.map encode) := by
  intro r as
  cases r with
  | arr items => simpa [Decoder.list, Json.reading] using h.mapM
  | str s => cases s <;> simp [Decoder.list, wrongShape, Json.reading]
  | null | bool | num | obj | broken => simp [Decoder.list, Json.reading]

theorem check (name : String) (a : α) : (Field.of name d).check (encode a).reading = .ok () := by
  exact check_of_eq_ok ((h _ a).mpr rfl) name

theorem skip_of_check (hcheck : (Field.of name d).check r = .ok ()) : skip r = .ok () := by
  cases hread : d r with
  | error fault =>
    have herror : (Field.of name d).check r = .error fault :=
      congrArg (Except.map fun _ => ()) hread
    cases herror.symm.trans hcheck
  | ok a =>
    rw [(h r a).mp hread]
    exact skip_reading (encode a)

theorem withDefault_eq_ok_iff {default a : α} : withDefault name d default values = .ok a ↔
    values.lookup name = some (encode a).reading ∨ values.lookup name = none ∧ a = default := by
  unfold withDefault
  cases hlookup : values.lookup name with
  | none => simp [eq_comm]
  | some r => simp [h r a]

end Inverts

/-! ## Numbers -/

theorem number?_reading {n : Nat} (h : n < twoTo 64) :
    Numeral.number? ⟨false, (Nat.toDigits 10 n).map Text.digitValue, none, none⟩ =
      some (.natural n) := by
  have hvalue : ofDigits ((Nat.toDigits 10 n).map Text.digitValue) = n := by
    have hnumber := Text.number_decimal n
    rwa [Text.decimal, String.toList_ofList, ← ofDigits_map] at hnumber
  simp [Numeral.number?, hvalue, h]

theorem natBelow_reading {n bound : Nat} (hbound : bound ≤ twoTo 64) (h : n < bound) :
    natBelow bound (Json.nat n).reading = .ok n := by
  simp [Json.nat, Json.reading, natBelow, number?_reading (Nat.lt_of_lt_of_le h hbound), h]

theorem check_natBelow {n bound : Nat} (hbound : bound ≤ twoTo 64) (h : n < bound) (name : String) :
    (Field.of name (natBelow bound)).check (Json.nat n).reading = .ok () :=
  check_of_eq_ok (natBelow_reading hbound h) name

/-- A number below a bound is no container that could have a break in it. -/
theorem skip_of_check_natBelow {bound : Nat} {name : String}
    (h : (Field.of name (natBelow bound)).check r = .ok ()) : skip r = .ok () := by
  cases r with
  | num n => rfl
  | null | bool | str | arr | obj | broken => cases h

theorem lt_of_natBelow {n bound : Nat} (h : natBelow bound r = .ok n) : n < bound := by
  unfold natBelow at h
  split at h
  · split at h
    · cases h
    · split at h
      · rename_i hlt
        exact Except.ok.inj h ▸ hlt
      · cases h
    · cases h
  · cases h

/-! ## Texts that stand for something -/

section

variable {α : Type} {f : String → Option α} {s : String} {a : α}

theorem exists_of_textVia (h : textVia f r = .ok a) : ∃ s, f s = some a := by
  obtain ⟨s, -, h⟩ := bind_eq_ok_iff.mp h
  split at h
  · exact ⟨s, Except.ok.inj h ▸ ‹_›⟩
  · cases h

theorem textVia_reading (h : f s = some a) : textVia f (Json.str s).reading = .ok a := by
  simp [textVia, text, Json.reading, h, bind, Except.bind]

theorem oneOf_reading (h : f s = some a) : oneOf f (Json.str s).reading = .ok a := by
  simp [oneOf, Json.reading, h]

theorem optional_reading {d : Decoder α} {encode : α → String}
    (h : ∀ a, d (Json.str (encode a)).reading = .ok a) (o : Option α) :
    optional d (Json.ofOption (fun a => .str (encode a)) o).reading = .ok o := by
  cases o with
  | none => rfl
  | some a => exact congrArg (Except.map some) (h a)

end

end TokenLaunch.Json.Decoder
