import Mathlib.Data.List.DropRight
import TokenLaunch.Text

/-!
# Trimmed texts

Trimming twice is trimming once, and leaves nothing exactly of a text of blanks.
-/

namespace TokenLaunch.Text

theorem trimRight_eq_rdropWhile (cs : List Char) : trimRight cs = cs.rdropWhile isBlank := rfl

theorem toList_trim (s : String) :
    (trim s).toList = trimRight (trimLeft s.toList) := String.toList_ofList

theorem trimRight_trimRight (cs : List Char) : trimRight (trimRight cs) = trimRight cs := by
  simp only [trimRight_eq_rdropWhile]
  exact List.rdropWhile_idempotent _ _

/-- What the right end leaves begins as the text did, so that nothing more goes on the left. -/
theorem trimLeft_trimRight_trimLeft (cs : List Char) :
    trimLeft (trimRight (trimLeft cs)) = trimRight (trimLeft cs) := by
  have hpre : trimRight (trimLeft cs) <+: trimLeft cs := List.rdropWhile_prefix _ _
  have hleft := List.dropWhile_eq_self_iff.mp
    (List.dropWhile_idempotent isBlank cs : (trimLeft cs).dropWhile isBlank = trimLeft cs)
  refine List.dropWhile_eq_self_iff.mpr fun hlen => ?_
  rw [hpre.getElem hlen]
  exact hleft _

theorem trim_trim (s : String) : trim (trim s) = trim s := by
  apply String.toList_inj.mp
  simp only [toList_trim]
  rw [trimLeft_trimRight_trimLeft, trimRight_trimRight]

/-! ## What is left of a text -/

/-- Trimming leaves every character that is no blank. -/
theorem mem_trim_iff {s : String} {c : Char} (hc : isBlank c = false) :
    c ∈ (trim s).toList ↔ c ∈ s.toList := by
  have hleft : c ∈ trimLeft s.toList ↔ c ∈ s.toList := by
    refine ⟨fun h => (List.dropWhile_suffix _).subset h, fun h => ?_⟩
    rw [← List.takeWhile_append_dropWhile (p := isBlank) (l := s.toList), List.mem_append] at h
    refine h.resolve_left fun hblank => ?_
    rw [List.mem_takeWhile_imp hblank] at hc
    cases hc
  rw [toList_trim, trimRight_eq_rdropWhile, ← hleft]
  refine ⟨fun h => (List.rdropWhile_prefix _ _).subset h, fun h => ?_⟩
  rw [← List.rdropWhile_append_rtakeWhile (p := isBlank) (l := trimLeft s.toList),
    List.mem_append] at h
  refine h.resolve_right fun hblank => ?_
  rw [List.mem_rtakeWhile_imp hblank] at hc
  cases hc

theorem trim_eq_empty_iff {s : String} : trim s = "" ↔ isBlankText s = true := by
  rw [isBlankText, List.all_eq_true]
  constructor
  · intro h c hc
    by_contra hblank
    have hmem := (mem_trim_iff (Bool.eq_false_iff.mpr hblank)).mpr hc
    rw [h] at hmem
    cases hmem
  · intro h
    rw [← String.toList_eq_nil_iff, toList_trim, trimLeft, List.dropWhile_eq_nil_iff.mpr h]
    rfl

theorem trim_ne_empty_iff {s : String} : trim s ≠ "" ↔ isBlankText s = false := by
  rw [Ne, trim_eq_empty_iff, Bool.not_eq_true]

end TokenLaunch.Text
