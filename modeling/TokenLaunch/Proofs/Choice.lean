import TokenLaunch.Proofs.Validation

/-!
# Features by name

The texts that name a feature, and the lists of texts that name a set of them.  The names of a choice
tell its features apart also where the case of letters is set aside, so that a text names one feature
or none.
-/

namespace TokenLaunch

open Text

section mapM

variable {ε α β : Type} {f : α → Except ε β} {as : List α}

/-- A step succeeds on a list exactly if it does on every element. -/
theorem exists_mapM_eq_ok_iff : (∃ bs, as.mapM f = .ok bs) ↔ ∀ a ∈ as, ∃ b, f a = .ok b := by
  induction as with
  | nil => exact iff_of_true ⟨[], rfl⟩ (by simp)
  | cons a as ih =>
    simp only [List.mapM_cons, bind_eq_ok_iff, List.forall_mem_cons, ← ih]
    constructor
    · rintro ⟨_, b, hb, bs, hbs, -⟩
      exact ⟨⟨b, hb⟩, bs, hbs⟩
    · rintro ⟨⟨b, hb⟩, bs, hbs⟩
      exact ⟨b :: bs, b, hb, bs, hbs, rfl⟩

theorem mem_of_mapM {bs : List β} (h : as.mapM f = .ok bs) {b : β} :
    b ∈ bs ↔ ∃ a ∈ as, f a = .ok b := by
  induction as generalizing bs with
  | nil =>
    obtain rfl := Except.ok.inj h
    simp
  | cons a as ih =>
    simp only [List.mapM_cons, bind_eq_ok_iff] at h
    obtain ⟨b', hb', bs', hbs', heq⟩ := h
    obtain rfl := Except.ok.inj heq
    simp only [List.mem_cons, exists_eq_or_imp, ih hbs', hb', Except.ok.injEq]
    exact or_congr_left eq_comm

end mapM

namespace Choice

/-- The names of a choice are not empty, and differ in more than the case of letters. -/
class Lawful (α : Type) [Choice α] : Prop where
  mem_all (a : α) : a ∈ (all : List α)
  lower_name_ne : ∀ a ∈ (all : List α), lower (name a) ≠ ""
  eq_of_lower_name : ∀ a ∈ (all : List α), ∀ b ∈ (all : List α),
    lower (name a) = lower (name b) → a = b

instance : Lawful AccessControl where
  mem_all a := by cases a <;> decide
  lower_name_ne := by decide +kernel
  eq_of_lower_name := by decide +kernel

instance : Lawful StandardFunction where
  mem_all a := by cases a <;> decide
  lower_name_ne := by decide +kernel
  eq_of_lower_name := by decide +kernel

instance : Lawful SecurityFunction where
  mem_all a := by cases a <;> decide
  lower_name_ne := by decide +kernel
  eq_of_lower_name := by decide +kernel

instance : Lawful TaxFunction where
  mem_all a := by cases a <;> decide
  lower_name_ne := by decide +kernel
  eq_of_lower_name := by decide +kernel

instance : Lawful Upgradeability where
  mem_all a := by cases a <;> decide
  lower_name_ne := by decide +kernel
  eq_of_lower_name := by decide +kernel

instance : Lawful PresaleType where
  mem_all a := by cases a <;> decide
  lower_name_ne := by decide +kernel
  eq_of_lower_name := by decide +kernel

/-- A text names a feature: blanks around it and the case of letters set aside, it is its name. -/
def Names {α : Type} [Choice α] (s : String) (a : α) : Prop := lower (trim s) = lower (name a)

instance {α : Type} [Choice α] (s : String) (a : α) : Decidable (Names s a) :=
  inferInstanceAs (Decidable (lower (trim s) = lower (name a)))

variable {α : Type} [Choice α] [Lawful α]

theorem Names.eq {s : String} {a b : α} (ha : Names s a) (hb : Names s b) : a = b :=
  Lawful.eq_of_lower_name a (Lawful.mem_all a) b (Lawful.mem_all b) (ha.symm.trans hb)

/-- Blanks name nothing. -/
theorem Names.trim_ne {s : String} {a : α} (h : Names s a) : trim s ≠ "" := by
  intro hempty
  have hlower : lower (name a) = lower "" := by rw [← h, hempty]
  exact Lawful.lower_name_ne a (Lawful.mem_all a) (hlower.trans (by decide +kernel))

theorem parse?_eq_some_iff {s : String} {a : α} : parse? s = some a ↔ Names s a := by
  have hsame (b : α) : sameWord (name b) (trim s) = true ↔ Names s b :=
    beq_iff_eq.trans eq_comm
  have hsound {b : α} (h : parse? s = some b) : Names s b :=
    (hsame b).mp (List.find?_some (p := fun a => sameWord (name a) (trim s)) h)
  constructor
  · exact hsound
  · intro h
    cases hfind : (parse? s : Option α) with
    | none => exact absurd ((hsame a).mpr h) (List.find?_eq_none.mp hfind a (Lawful.mem_all a))
    | some b => rw [(hsound hfind).eq h]

/-- The features that some text of a list names, each once and in the order of all. -/
def named {β : Type} [Choice β] (ss : List String) : List β :=
  all.filter fun a => ∃ s ∈ ss, Names s a

theorem mem_named {ss : List String} {a : α} : a ∈ named ss ↔ ∃ s ∈ ss, Names s a := by
  simp [named, Lawful.mem_all a]

end Choice

namespace Draft

open Choice

variable {α : Type} [Choice α] [Lawful α]

theorem choice_eq_ok_iff {field : DraftField} {s : String} {a : α} :
    choice field s = .ok a ↔ Names s a := by
  rw [← parse?_eq_some_iff, choice]
  cases (parse? s : Option α) <;> simp

theorem choiceOr_eq_ok_iff {field : DraftField} {none : α} {s : String} {a : α} :
    choiceOr field none s = .ok a ↔ isBlankText s = true ∧ a = none ∨ Names s a := by
  by_cases hblank : isBlankText s = true
  · have hempty : trim s = "" := trim_eq_empty_iff.mpr hblank
    have hnames : ¬ Names s a := fun h => h.trim_ne hempty
    rw [choiceOr, if_pos (by rw [hempty]; rfl)]
    simp only [Except.ok.injEq, hblank, hnames, or_false, true_and]
    exact eq_comm
  · have hne : trim s ≠ "" := fun h => hblank (trim_eq_empty_iff.mp h)
    rw [choiceOr, if_neg (by simpa using hne), choice_eq_ok_iff]
    simp only [hblank, Bool.false_eq_true, false_and, false_or]

/-- A list of texts is a set of features exactly if every text names one. -/
theorem choices_eq_ok_iff [DecidableEq α] {field : DraftField} {ss : List String} {as : List α} :
    choices field ss = .ok as ↔ (∀ s ∈ ss, ∃ a : α, Names s a) ∧ as = named ss := by
  have hchoice (s : String) (a : α) : Names s a ↔ choice field s = .ok a :=
    choice_eq_ok_iff.symm
  have hset {chosen : List α} (h : ss.mapM (choice field) = .ok chosen) :
      select chosen = named ss := by
    refine List.filter_congr fun a _ => ?_
    simp only [mem_of_mapM h, hchoice]
  simp only [hchoice, ← exists_mapM_eq_ok_iff, choices, bind_eq_ok_iff]
  constructor
  · rintro ⟨chosen, hchosen, heq⟩
    exact ⟨⟨chosen, hchosen⟩, (Except.ok.inj heq).symm.trans (hset hchosen)⟩
  · rintro ⟨⟨chosen, hchosen⟩, rfl⟩
    exact ⟨chosen, hchosen, congrArg Except.ok (hset hchosen)⟩

end Draft

end TokenLaunch
