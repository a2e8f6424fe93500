import Mathlib.Logic.Relation
import TokenLaunch.Proofs.ContractName

/-!
# Respelled token names

The name of a contract shows the letters and digits of the token name from its first letter on, and
nothing else of it: two token names give the same contract exactly if one can be respelled as the
other, mark by mark and letter by letter.
-/

namespace TokenLaunch

open Relation (EqvGen)

/-- What a contract shows of the characters of a token name: letters and digits, from the first
letter on, in upper case. -/
def shown (cs : List Char) : List Char :=
  ((cs.dropWhile (!·.isAlpha)).filter isPlain).map Char.toUpper

/-- A change that contracts do not show: a mark is left out, or a digit before the first letter, or
a letter is raised. -/
inductive Respells : List Char → List Char → Prop
  | mark {cs ds : List Char} {x : Char} (hx : isPlain x = false) :
      Respells (cs ++ x :: ds) (cs ++ ds)
  | digit {cs ds : List Char} {x : Char} (hx : x.isDigit = true)
      (hcs : ∀ c ∈ cs, c.isAlpha = false) : Respells (cs ++ x :: ds) (cs ++ ds)
  | letter {cs ds : List Char} {x : Char} (hx : x.isAlpha = true) :
      Respells (cs ++ x :: ds) (cs ++ x.toUpper :: ds)

/-! ## Characters -/

theorem toUpper_of_isUpper {c : Char} (h : c.isUpper = true) : c.toUpper = c := by
  refine toUpper_of_not_isLower fun hlower => ?_
  have hupper := isUpper_iff_toNat.mp h
  have hrange := isLower_iff_toNat.mp hlower
  omega

theorem toUpper_toUpper {c : Char} (h : c.isAlpha = true) : c.toUpper.toUpper = c.toUpper :=
  toUpper_of_isUpper (isUpper_toUpper h)

theorem isAlpha_toUpper {c : Char} (h : c.isAlpha = true) : c.toUpper.isAlpha = true :=
  Bool.or_eq_true_iff.mpr (.inl (isUpper_toUpper h))

theorem isPlain_of_isAlpha {c : Char} (h : c.isAlpha = true) : isPlain c = true := by
  rw [isPlain, h, Bool.true_or]

/-! ## What is shown -/

/-- Marks and then leading digits may as well be left out one after the other. -/
theorem map_dropWhile_filter (cs : List Char) :
    ((cs.filter isPlain).dropWhile Char.isDigit).map Char.toUpper = shown cs := by
  have hskip (c : Char) : (!isPlain c || c.isDigit) = !c.isAlpha := by
    cases halpha : c.isAlpha with
    | false => cases hdigit : c.isDigit <;> simp [isPlain, halpha, hdigit]
    | true => simp [isPlain, halpha, not_isDigit_of_isAlpha halpha]
  rw [List.dropWhile_filter, shown]
  simp only [hskip]

theorem shown_append_of_not_isAlpha {cs ds : List Char} (h : ∀ c ∈ cs, c.isAlpha = false) :
    shown (cs ++ ds) = shown ds := by
  rw [shown, List.dropWhile_append_of_pos (by simpa using h), shown]

theorem shown_cons {c : Char} {cs : List Char} (h : c.isAlpha = true) :
    shown (c :: cs) = c.toUpper :: (cs.filter isPlain).map Char.toUpper := by
  rw [shown, List.dropWhile_cons_of_neg (by simp [h]),
    List.filter_cons_of_pos (isPlain_of_isAlpha h), List.map_cons]

/-- Behind a letter everything but the marks is shown. -/
theorem shown_append {cs ds : List Char} (h : ∃ c ∈ cs, c.isAlpha = true) :
    shown (cs ++ ds) = shown cs ++ (ds.filter isPlain).map Char.toUpper := by
  have hne : ¬ cs.dropWhile (!·.isAlpha) = [] := by
    simpa [List.dropWhile_eq_nil_iff] using h
  rw [shown, List.dropWhile_append, if_neg (by simpa using hne), List.filter_append,
    List.map_append, shown]

theorem shown_eq_nil_iff {cs : List Char} : shown cs = [] ↔ ∀ c ∈ cs, c.isAlpha = false := by
  constructor
  · intro h
    rw [shown, List.map_eq_nil_iff, List.filter_eq_nil_iff] at h
    have hnil : cs.dropWhile (!·.isAlpha) = [] := by
      cases hcs : cs.dropWhile (!·.isAlpha) with
      | nil => rfl
      | cons c ds =>
        have hfirst := List.head?_dropWhile_not (!·.isAlpha) cs
        rw [hcs] at hfirst
        have halpha : c.isAlpha = true := by simpa using hfirst
        exact absurd (isPlain_of_isAlpha halpha) (h c (hcs ▸ List.mem_cons_self))
    simpa [List.dropWhile_eq_nil_iff] using hnil
  · intro h
    have hnil : shown (cs ++ []) = shown [] := shown_append_of_not_isAlpha h
    rwa [List.append_nil] at hnil

theorem contractIdentifier?_eq (s : String) : contractIdentifier? s =
    if shown s.toList = [] then none else some (String.ofList (shown s.toList)) := by
  rw [← map_dropWhile_filter]
  unfold contractIdentifier?
  split
  · rename_i hnil
    rw [hnil]
    rfl
  · rename_i hne
    rw [if_neg (by simpa using hne)]

theorem contractIdentifier?_eq_iff {s t : String} :
    contractIdentifier? s = contractIdentifier? t ↔ shown s.toList = shown t.toList := by
  rw [contractIdentifier?_eq, contractIdentifier?_eq]
  constructor
  · intro h
    split at h <;> split at h
    · simp_all
    · cases h
    · cases h
    · exact String.ofList_injective (Option.some.inj h)
  · intro h
    rw [h]

/-! ## Respelling -/

/-- Nothing that is respelled is shown. -/
theorem Respells.shown_eq {cs ds : List Char} (h : Respells cs ds) : shown cs = shown ds := by
  have hskip {x : Char} {ds : List Char} (hx : x.isAlpha = false) : shown (x :: ds) = shown ds := by
    rw [← List.singleton_append, shown_append_of_not_isAlpha (List.forall_mem_singleton.mpr hx)]
  have hnone {cs : List Char} (h : ¬ ∃ c ∈ cs, c.isAlpha = true) :
      ∀ c ∈ cs, c.isAlpha = false := by
    simpa using h
  cases h with
  | @mark cs ds x hx =>
    have halpha : x.isAlpha = false := (Bool.or_eq_false_iff.mp hx).1
    by_cases hletter : ∃ c ∈ cs, c.isAlpha = true
    · rw [shown_append hletter, shown_append hletter, List.filter_cons_of_neg (by simp [hx])]
    · rw [shown_append_of_not_isAlpha (hnone hletter), hskip halpha,
        shown_append_of_not_isAlpha (hnone hletter)]
  | @digit cs ds x hx hcs =>
    have halpha : x.isAlpha = false := by
      rw [Bool.eq_false_iff]
      intro halpha
      rw [not_isDigit_of_isAlpha halpha] at hx
      cases hx
    rw [shown_append_of_not_isAlpha hcs, hskip halpha, shown_append_of_not_isAlpha hcs]
  | @letter cs ds x hx =>
    have hupper := isAlpha_toUpper hx
    by_cases hletter : ∃ c ∈ cs, c.isAlpha = true
    · rw [shown_append hletter, shown_append hletter,
        List.filter_cons_of_pos (isPlain_of_isAlpha hx),
        List.filter_cons_of_pos (isPlain_of_isAlpha hupper), List.map_cons, List.map_cons,
        toUpper_toUpper hx]
    · rw [shown_append_of_not_isAlpha (hnone hletter), shown_append_of_not_isAlpha (hnone hletter),
        shown_cons hx, shown_cons hupper, toUpper_toUpper hx]

theorem eqvGen_filter (pre cs : List Char) :
    EqvGen Respells (pre ++ cs) (pre ++ cs.filter isPlain) := by
  induction cs generalizing pre with
  | nil => exact .refl _
  | cons c cs ih =>
    cases hc : isPlain c with
    | false =>
      rw [List.filter_cons_of_neg (by simp [hc])]
      exact .trans _ _ _ (.rel _ _ (.mark hc)) (ih pre)
    | true =>
      rw [List.filter_cons_of_pos hc]
      simpa using ih (pre ++ [c])

theorem eqvGen_dropWhile (cs : List Char) : EqvGen Respells cs (cs.dropWhile Char.isDigit) := by
  induction cs with
  | nil => exact .refl _
  | cons c cs ih =>
    cases hc : c.isDigit with
    | false =>
      rw [List.dropWhile_cons_of_neg (by simp [hc])]
      exact .refl _
    | true =>
      rw [List.dropWhile_cons_of_pos hc]
      have hfirst : ∀ x ∈ ([] : List Char), x.isAlpha = false := fun _ h =>
        absurd h List.not_mem_nil
      have hdigit : Respells ([] ++ c :: cs) ([] ++ cs) := .digit hc hfirst
      exact .trans _ _ _ (.rel _ _ hdigit) ih

theorem eqvGen_map {cs : List Char} (pre : List Char) (h : ∀ c ∈ cs, isPlain c = true) :
    EqvGen Respells (pre ++ cs) (pre ++ cs.map Char.toUpper) := by
  induction cs generalizing pre with
  | nil => exact .refl _
  | cons c cs ih =>
    obtain ⟨hc, hcs⟩ := List.forall_mem_cons.mp h
    have hraised : EqvGen Respells (pre ++ c :: cs) (pre ++ c.toUpper :: cs) := by
      rcases Bool.or_eq_true_iff.mp hc with halpha | hdigit
      · exact .rel _ _ (.letter halpha)
      · rw [toUpper_of_isDigit hdigit]
        exact .refl _
    refine .trans _ _ _ hraised ?_
    simpa using ih (pre ++ [c.toUpper]) hcs

/-- Every name can be respelled as what the contract shows of it. -/
theorem eqvGen_shown (cs : List Char) : EqvGen Respells cs (shown cs) := by
  have hplain : ∀ c ∈ (cs.filter isPlain).dropWhile Char.isDigit, isPlain c = true := fun c hc =>
    (List.mem_filter.mp ((List.dropWhile_suffix _).subset hc)).2
  have hfiltered : EqvGen Respells cs (cs.filter isPlain) := eqvGen_filter [] cs
  have hraised := eqvGen_map [] hplain
  rw [List.nil_append, List.nil_append, map_dropWhile_filter] at hraised
  exact .trans _ _ _ (.trans _ _ _ hfiltered (eqvGen_dropWhile _)) hraised

theorem eqvGen_respells_iff {cs ds : List Char} :
    EqvGen Respells cs ds ↔ shown cs = shown ds := by
  constructor
  · intro h
    induction h with
    | rel _ _ h => exact h.shown_eq
    | refl => rfl
    | symm _ _ _ ih => exact ih.symm
    | trans _ _ _ _ _ ih₁ ih₂ => exact ih₁.trans ih₂
  · intro h
    have hds := eqvGen_shown ds
    rw [← h] at hds
    exact .trans _ _ _ (eqvGen_shown cs) (.symm _ _ hds)

/-! ## Contract names -/

theorem IsContractName.shown_eq {s : String} (h : IsContractName s) :
    shown s.toList = s.toList := by
  obtain ⟨c, cs, hs, hc, hcs⟩ := h
  have halpha : c.isAlpha = true := Bool.or_eq_true_iff.mpr (.inl hc)
  have hplain : ∀ x ∈ cs, isPlain x = true := by
    intro x hx
    rcases hcs x hx with hupper | hdigit
    · exact isPlain_of_isAlpha (Bool.or_eq_true_iff.mpr (.inl hupper))
    · rw [isPlain, hdigit, Bool.or_true]
  have hraised : cs.map Char.toUpper = cs := by
    refine (List.map_congr_left fun x hx => ?_).trans (List.map_id _)
    rcases hcs x hx with hupper | hdigit
    · exact toUpper_of_isUpper hupper
    · exact toUpper_of_isDigit hdigit
  rw [hs, shown_cons halpha, List.filter_eq_self.mpr hplain, hraised, toUpper_of_isUpper hc]

/-- A token name gives no contract name exactly where it has no letter, and else the letters and
digits from its first letter on, in upper case: a word of upper-case letters and digits that begins
with a letter and is its own contract name.  Two token names give the same one exactly if they
differ in nothing but marks, digits before the first letter and the case of letters. -/
theorem contractIdentifier?_reduces (s : String) :
    (contractIdentifier? s = none ↔ ∀ c ∈ s.toList, c.isAlpha = false) ∧
    (∀ name, contractIdentifier? s = some name →
      name.toList = shown s.toList ∧ IsContractName name ∧
        contractIdentifier? name = some name) ∧
    ∀ t, contractIdentifier? s = contractIdentifier? t ↔
      EqvGen Respells s.toList t.toList := by
  refine ⟨?_, fun name hname => ?_, fun t => ?_⟩
  · rw [← shown_eq_nil_iff, contractIdentifier?_eq]
    split <;> simp_all
  · have hcontract := isContractName_of_contractIdentifier? hname
    have hself := hcontract.shown_eq
    rw [contractIdentifier?_eq] at hname
    split at hname
    · cases hname
    · rename_i hne
      obtain rfl := Option.some.inj hname
      refine ⟨String.toList_ofList, hcontract, ?_⟩
      rw [contractIdentifier?_eq, hself, String.toList_ofList, if_neg hne]
  · rw [contractIdentifier?_eq_iff, eqvGen_respells_iff]

/-- A mark between digits before the first letter, and letters that are none of ASCII. -/
theorem contractIdentifier?_reduces_spacedName :
    contractIdentifier? "4 2é moon-Köin ٣" = some "MOONKIN" ∧
      contractIdentifier? "MOONKIN" = some "MOONKIN" ∧
      EqvGen Respells "4 2é moon-Köin ٣".toList "MooNKIN".toList := by
  have hname : contractIdentifier? "4 2é moon-Köin ٣" = some "MOONKIN" := by decide +kernel
  have hsame : contractIdentifier? "4 2é moon-Köin ٣" = contractIdentifier? "MooNKIN" := by
    decide +kernel
  obtain ⟨-, hsome, hrespelled⟩ := contractIdentifier?_reduces "4 2é moon-Köin ٣"
  exact ⟨hname, (hsome _ hname).2.2, (hrespelled _).mp hsame⟩

end TokenLaunch
