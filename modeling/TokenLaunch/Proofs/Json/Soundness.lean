import TokenLaunch.Proofs.Json.Grammar
import TokenLaunch.Proofs.Json.Record

/-!
# What is read of a text

A tree without a break is read only of a text that spells it, so that the texts of the grammar are
all that there are.
-/

namespace TokenLaunch.Json

open Text
open Decoder (skipItems_cons skipMembers_cons)

variable {cs rest : List Char}

/-! ## White space and digits -/

theorem exists_spaces (h : skipSpace cs = rest) : ∃ b, Spaces b ∧ cs = b ++ rest :=
  ⟨cs.takeWhile isSpace, fun _ hc => List.all_eq_true.mp List.all_takeWhile _ hc,
    h ▸ List.takeWhile_append_dropWhile.symm⟩

theorem exists_digits (cs : List Char) : ∃ xs, (∀ c ∈ xs, c.isDigit = true) ∧
    cs = xs ++ (takeDigits cs).2 ∧ (takeDigits cs).1 = xs.map digitValue := by
  induction cs with
  | nil => exact ⟨[], by simp, rfl, rfl⟩
  | cons c cs ih =>
    obtain ⟨xs, hdigits, hcs, hvalues⟩ := ih
    by_cases hc : c.isDigit = true
    · refine ⟨c :: xs, List.forall_mem_cons.mpr ⟨hc, hdigits⟩, ?_⟩
      simp [takeDigits, hc, ← hcs, hvalues]
    · exact ⟨[], by simp, by simp [takeDigits, hc]⟩

/-- Digits that are there. -/
theorem isDigits_of_takeDigits {ds : List Nat} (h : takeDigits cs = (ds, rest)) (hds : ds ≠ []) :
    ∃ xs, IsDigits xs ∧ cs = xs ++ rest ∧ ds = xs.map digitValue := by
  obtain ⟨xs, hdigits, hcs, hvalues⟩ := exists_digits cs
  simp only [h] at hcs hvalues
  exact ⟨xs, ⟨fun hxs => hds (by rw [hvalues, hxs, List.map_nil]), hdigits⟩, hcs, hvalues⟩

/-! ## Numbers -/

theorem spellsWhole_of_read {ds : List Nat} (h : readWhole cs = some (ds, rest)) :
    ∃ ws, cs = ws ++ rest ∧ SpellsWhole ds ws := by
  unfold readWhole at h
  split at h
  · cases h
  · cases h
  · rename_i ds' rest' hnil hzero htake
    obtain ⟨rfl, rfl⟩ := Prod.mk.inj (Option.some.inj h)
    obtain ⟨xs, hxs, rfl, rfl⟩ := isDigits_of_takeDigits htake hnil
    refine ⟨xs, rfl, ?_⟩
    obtain ⟨c, more, rfl⟩ := List.exists_cons_of_ne_nil hxs.1
    by_cases hc : c = '0'
    · subst hc
      cases more with
      | nil => exact .zero
      | cons d more => exact (hzero _ _ rfl).elim
    · exact .digits hxs hc

theorem spellsFraction_of_read {fraction : Option (List Nat)}
    (h : readFraction cs = some (fraction, rest)) :
    ∃ fs, cs = fs ++ rest ∧ SpellsFraction fraction fs := by
  unfold readFraction at h
  split at h
  · split at h
    · cases h
    · rename_i ds rest' hnil htake
      obtain ⟨rfl, rfl⟩ := Prod.mk.inj (Option.some.inj h)
      obtain ⟨xs, hxs, rfl, rfl⟩ := isDigits_of_takeDigits htake hnil
      exact ⟨'.' :: xs, rfl, .present hxs⟩
  · obtain ⟨rfl, rfl⟩ := Prod.mk.inj (Option.some.inj h)
    exact ⟨[], rfl, .absent⟩

theorem isDigits_of_readPower {negative : Bool} {exponent : Option Int}
    (h : readPower negative cs = some (exponent, rest)) : ∃ xs, IsDigits xs ∧ cs = xs ++ rest ∧
      exponent = some (if negative then -(number xs : Int) else number xs) := by
  unfold readPower at h
  split at h
  · cases h
  · rename_i ds rest' hnil htake
    obtain ⟨rfl, rfl⟩ := Prod.mk.inj (Option.some.inj h)
    obtain ⟨xs, hxs, rfl, rfl⟩ := isDigits_of_takeDigits htake hnil
    exact ⟨xs, hxs, rfl, by rw [ofDigits_map]⟩

theorem spellsExponent_of_read {exponent : Option Int}
    (h : readExponent cs = some (exponent, rest)) :
    ∃ es, cs = es ++ rest ∧ SpellsExponent exponent es := by
  unfold readExponent at h
  split at h
  · split at h
    · rename_i he
      split at h
      · obtain ⟨xs, hxs, rfl, rfl⟩ := isDigits_of_readPower h
        exact ⟨_ :: '+' :: xs, rfl, .positive he hxs⟩
      · obtain ⟨xs, hxs, rfl, rfl⟩ := isDigits_of_readPower h
        exact ⟨_ :: '-' :: xs, rfl, .negative he hxs⟩
      · obtain ⟨xs, hxs, rfl, rfl⟩ := isDigits_of_readPower h
        exact ⟨_ :: xs, rfl, .unsigned he hxs⟩
    · obtain ⟨rfl, rfl⟩ := Prod.mk.inj (Option.some.inj h)
      exact ⟨[], rfl, .absent⟩
  · obtain ⟨rfl, rfl⟩ := Prod.mk.inj (Option.some.inj h)
    exact ⟨[], rfl, .absent⟩

theorem spells_of_readUnsigned {negative : Bool} {n : Numeral}
    (h : readUnsigned negative cs = some (n, rest)) :
    ∃ whole fraction exponent ws fs es, n = ⟨negative, whole, fraction, exponent⟩ ∧
      cs = ws ++ (fs ++ es) ++ rest ∧ SpellsWhole whole ws ∧ SpellsFraction fraction fs ∧
        SpellsExponent exponent es := by
  simp only [readUnsigned, Option.bind_eq_bind, Option.bind_eq_some_iff] at h
  obtain ⟨⟨whole, cs₁⟩, hwhole, ⟨fraction, cs₂⟩, hfraction, ⟨exponent, cs₃⟩, hexponent, heq⟩ := h
  obtain ⟨rfl, rfl⟩ := Prod.mk.inj (Option.some.inj heq)
  obtain ⟨ws, rfl, hw⟩ := spellsWhole_of_read hwhole
  obtain ⟨fs, rfl, hf⟩ := spellsFraction_of_read hfraction
  obtain ⟨es, rfl, he⟩ := spellsExponent_of_read hexponent
  exact ⟨whole, fraction, exponent, ws, fs, es, rfl, by simp, hw, hf, he⟩

theorem spellsNumeral_of_read {n : Numeral} (h : readNumeral cs = some (n, rest)) :
    ∃ ds, cs = ds ++ rest ∧ SpellsNumeral n ds := by
  unfold readNumeral at h
  split at h
  · obtain ⟨whole, fraction, exponent, ws, fs, es, rfl, rfl, hw, hf, he⟩ :=
      spells_of_readUnsigned h
    exact ⟨_, rfl, .negative hw hf he⟩
  · obtain ⟨whole, fraction, exponent, ws, fs, es, rfl, rfl, hw, hf, he⟩ :=
      spells_of_readUnsigned h
    exact ⟨_, rfl, .positive hw hf he⟩

/-! ## Texts in quotes -/

theorem spellsPieces_of_read {ps : List Piece} (h : readPieces cs = some (ps, rest)) :
    ∃ ds, cs = ds ++ '"' :: rest ∧ SpellsPieces ps ds := by
  fun_induction readPieces cs generalizing ps with
  | case1 => cases h
  | case2 =>
    obtain ⟨rfl, rfl⟩ := Prod.mk.inj (Option.some.inj h)
    exact ⟨[], rfl, .nil⟩
  | case3 a b c d cs ih =>
    simp only [Option.bind_eq_bind, Option.bind_eq_some_iff] at h
    obtain ⟨u, hu, ⟨ps', rest'⟩, hps, heq⟩ := h
    obtain ⟨rfl, rfl⟩ := Prod.mk.inj (Option.some.inj heq)
    obtain ⟨ds, rfl, hds⟩ := ih hps
    exact ⟨_, rfl, .unit hu hds⟩
  | case4 e cs _ ih =>
    simp only [Option.bind_eq_bind, Option.bind_eq_some_iff] at h
    obtain ⟨c, hc, ⟨ps', rest'⟩, hps, heq⟩ := h
    obtain ⟨rfl, rfl⟩ := Prod.mk.inj (Option.some.inj heq)
    obtain ⟨ds, rfl, hds⟩ := ih hps
    exact ⟨_, rfl, .escaped hc hds⟩
  | case5 => cases h
  | case6 c cs hquote _ _ hc ih =>
    simp only [Option.bind_eq_bind, Option.bind_eq_some_iff] at h
    obtain ⟨⟨ps', rest'⟩, hps, heq⟩ := h
    obtain ⟨rfl, rfl⟩ := Prod.mk.inj (Option.some.inj heq)
    obtain ⟨ds, rfl, hds⟩ := ih hps
    obtain ⟨hescape, hcontrol⟩ := not_or.mp hc
    exact ⟨_, rfl, .plain hquote hescape (Nat.le_of_not_lt hcontrol) hds⟩

theorem spellsText_of_read {s : Option String} (h : readText cs = some (s, rest)) :
    ∃ ds, '"' :: cs = ds ++ rest ∧ SpellsText s ds := by
  obtain ⟨⟨ps, rest'⟩, hps, heq⟩ := Option.map_eq_some_iff.mp h
  obtain ⟨rfl, rfl⟩ := Prod.mk.inj heq
  obtain ⟨ds, rfl, hds⟩ := spellsPieces_of_read hps
  exact ⟨'"' :: (ds ++ ['"']), by simp, .quoted hds⟩

/-! ## Values -/

theorem Spaces.append {a b : List Char} (ha : Spaces a) (hb : Spaces b) : Spaces (a ++ b) :=
  fun c hc => (List.mem_append.mp hc).elim (ha c) (hb c)

-- By induction on the fuel.  Where the reader gives up it leaves a break in the tree, so that every
-- case of it that is no spelling is refuted by the tree itself.
mutual

theorem spells_of_read {r : Reading} {cs rest : List Char} {fuel : Nat}
    (h : readValue fuel cs = (r, rest)) (hr : Decoder.skip r = .ok ()) :
    ∃ b ds, cs = b ++ (ds ++ rest) ∧ Spaces b ∧ Spells r ds := by
  obtain ⟨b, hb, hcs⟩ := @exists_spaces cs _ rfl
  suffices hspelled : ∃ ds, skipSpace cs = ds ++ rest ∧ Spells r ds by
    obtain ⟨ds, hds, hspells⟩ := hspelled
    exact ⟨b, ds, by rw [← hds, ← hcs], hb, hspells⟩
  match fuel with
  | 0 =>
    obtain ⟨rfl, -⟩ := Prod.mk.inj h
    cases hr
  | fuel + 1 =>
    rw [readValue] at h
    split at h <;> rename_i hskip
    · obtain ⟨rfl, rfl⟩ := Prod.mk.inj h
      exact ⟨_, hskip, .null⟩
    · obtain ⟨rfl, rfl⟩ := Prod.mk.inj h
      exact ⟨_, hskip, .ofTrue⟩
    · obtain ⟨rfl, rfl⟩ := Prod.mk.inj h
      exact ⟨_, hskip, .ofFalse⟩
    · split at h
      · obtain ⟨rfl, -⟩ := Prod.mk.inj h
        cases hr
      · rename_i htext
        obtain ⟨rfl, rfl⟩ := Prod.mk.inj h
        obtain ⟨ds, hds, hspells⟩ := spellsText_of_read htext
        exact ⟨ds, hskip.trans hds, .str hspells⟩
    · rename_i more
      split at h <;> rename_i hmore
      · obtain ⟨rfl, rfl⟩ := Prod.mk.inj h
        obtain ⟨b', hb', rfl⟩ := exists_spaces hmore
        exact ⟨_, by rw [hskip]; simp, .emptyArr hb'⟩
      · obtain ⟨b', hb', hcs'⟩ := @exists_spaces more _ rfl
        cases hitems : readItems fuel (skipSpace more) with
        | mk items rest' =>
          rw [hitems] at h
          obtain ⟨rfl, rfl⟩ := Prod.mk.inj h
          obtain ⟨b'', ds, hds, hb'', hspells⟩ := spellsItems_of_read hitems hr
          rw [hds] at hcs'
          refine ⟨'[' :: ((b' ++ b'') ++ (ds ++ [']'])), ?_, .arr (hb'.append hb'') hspells⟩
          rw [hskip, hcs']
          simp
    · rename_i more
      split at h <;> rename_i hmore
      · obtain ⟨rfl, rfl⟩ := Prod.mk.inj h
        obtain ⟨b', hb', rfl⟩ := exists_spaces hmore
        exact ⟨_, by rw [hskip]; simp, .emptyObj hb'⟩
      · obtain ⟨b', hb', hcs'⟩ := @exists_spaces more _ rfl
        cases hmembers : readMembers fuel (skipSpace more) with
        | mk members rest' =>
          rw [hmembers] at h
          obtain ⟨rfl, rfl⟩ := Prod.mk.inj h
          obtain ⟨b'', ds, hds, hb'', hspells⟩ := spellsMembers_of_read hmembers hr
          rw [hds] at hcs'
          refine ⟨'\x7b' :: ((b' ++ b'') ++ (ds ++ ['\x7d'])), ?_, .obj (hb'.append hb'') hspells⟩
          rw [hskip, hcs']
          simp
    · split at h
      · obtain ⟨rfl, -⟩ := Prod.mk.inj h
        cases hr
      · rename_i hnumeral
        obtain ⟨rfl, rfl⟩ := Prod.mk.inj h
        obtain ⟨ds, hds, hspells⟩ := spellsNumeral_of_read hnumeral
        exact ⟨ds, hds, .num hspells⟩

theorem spellsItems_of_read {rs : List Reading} {cs rest : List Char} {fuel : Nat}
    (h : readItems fuel cs = (rs, rest)) (hrs : Decoder.skipItems rs = .ok ()) :
    ∃ b ds, cs = b ++ (ds ++ ']' :: rest) ∧ Spaces b ∧ SpellsItems rs ds := by
  match fuel with
  | 0 =>
    obtain ⟨rfl, -⟩ := Prod.mk.inj h
    cases hrs
  | fuel + 1 =>
    rw [readItems] at h
    cases hvalue : readValue fuel cs with
    | mk item rest' =>
      rw [hvalue] at h
      dsimp only at h
      split at h <;> rename_i hskip
      · obtain ⟨rfl, rfl⟩ := Prod.mk.inj h
        obtain ⟨b, ds, rfl, hb, hspells⟩ := spells_of_read hvalue (skipItems_cons.mp hrs).1
        obtain ⟨a, ha, rfl⟩ := exists_spaces hskip
        exact ⟨b, ds ++ a, by simp, hb, .last hspells ha⟩
      · rename_i more
        cases hitems : readItems fuel more with
        | mk items rest'' =>
          rw [hitems] at h
          obtain ⟨rfl, rfl⟩ := Prod.mk.inj h
          obtain ⟨hitem, hmore⟩ := skipItems_cons.mp hrs
          obtain ⟨b, ds, rfl, hb, hspells⟩ := spells_of_read hvalue hitem
          obtain ⟨a, ha, rfl⟩ := exists_spaces hskip
          obtain ⟨b', es, rfl, hb', hspellsItems⟩ := spellsItems_of_read hitems hmore
          exact ⟨b, ds ++ (a ++ ',' :: (b' ++ es)), by simp, hb, .more hspells ha hb' hspellsItems⟩
      · obtain ⟨rfl, -⟩ := Prod.mk.inj h
        cases (skipItems_cons.mp (skipItems_cons.mp hrs).2).1

theorem spellsMembers_of_read {ms : List (Option String × Reading)} {cs rest : List Char}
    {fuel : Nat} (h : readMembers fuel cs = (ms, rest)) (hms : Decoder.skipMembers ms = .ok ()) :
    ∃ b ds, cs = b ++ (ds ++ '\x7d' :: rest) ∧ Spaces b ∧ SpellsMembers ms ds := by
  match fuel with
  | 0 =>
    obtain ⟨rfl, -⟩ := Prod.mk.inj h
    cases hms
  | fuel + 1 =>
    rw [readMembers] at h
    split at h <;> rename_i hquote
    · split at h <;> rename_i htext
      · obtain ⟨rfl, -⟩ := Prod.mk.inj h
        cases hms
      · split at h <;> rename_i hcolon
        · rename_i more
          obtain ⟨ns, hns, hname⟩ := spellsText_of_read htext
          obtain ⟨a₁, ha₁, rfl⟩ := exists_spaces hcolon
          obtain ⟨b, hb, rfl⟩ := exists_spaces hquote
          rw [hns]
          cases hvalue : readValue fuel more with
          | mk value rest' =>
            rw [hvalue] at h
            dsimp only at h
            split at h <;> rename_i hskip
            · obtain ⟨rfl, rfl⟩ := Prod.mk.inj h
              obtain ⟨b₁, ds, rfl, hb₁, hspells⟩ :=
                spells_of_read hvalue (skipMembers_cons.mp hms).1
              obtain ⟨a, ha, rfl⟩ := exists_spaces hskip
              exact ⟨b, _, by simp, hb, .last hname ha₁ hb₁ hspells ha⟩
            · rename_i others
              cases hmembers : readMembers fuel others with
              | mk members rest'' =>
                rw [hmembers] at h
                obtain ⟨rfl, rfl⟩ := Prod.mk.inj h
                obtain ⟨hmember, hmore⟩ := skipMembers_cons.mp hms
                obtain ⟨b₁, ds, rfl, hb₁, hspells⟩ := spells_of_read hvalue hmember
                obtain ⟨a, ha, rfl⟩ := exists_spaces hskip
                obtain ⟨b', es, rfl, hb', hspellsMembers⟩ := spellsMembers_of_read hmembers hmore
                exact ⟨b, _, by simp, hb, .more hname ha₁ hb₁ hspells ha hb' hspellsMembers⟩
            · obtain ⟨rfl, -⟩ := Prod.mk.inj h
              cases (skipMembers_cons.mp (skipMembers_cons.mp hms).2).1
        · obtain ⟨rfl, -⟩ := Prod.mk.inj h
          cases hms
    · obtain ⟨rfl, -⟩ := Prod.mk.inj h
      cases hms

end

mutual

theorem Spells.skip {r : Reading} {cs : List Char} (h : Spells r cs) : Decoder.skip r = .ok () :=
  match h with
  | .null | .ofTrue | .ofFalse | .num _ | .str _ | .emptyArr _ | .emptyObj _ => rfl
  | .arr _ h => h.skip
  | .obj _ h => h.skip

theorem SpellsItems.skip {rs : List Reading} {cs : List Char} (h : SpellsItems rs cs) :
    Decoder.skipItems rs = .ok () :=
  match h with
  | .last h _ => skipItems_cons.mpr ⟨h.skip, rfl⟩
  | .more h _ _ hs => skipItems_cons.mpr ⟨h.skip, hs.skip⟩

theorem SpellsMembers.skip {ms : List (Option String × Reading)} {cs : List Char}
    (h : SpellsMembers ms cs) : Decoder.skipMembers ms = .ok () :=
  match h with
  | .last _ _ _ h _ => skipMembers_cons.mpr ⟨h.skip, rfl⟩
  | .more _ _ _ h _ _ hs => skipMembers_cons.mpr ⟨h.skip, hs.skip⟩

end

/-- The texts of the grammar are those that are read without a break and to their end. -/
theorem written_iff {s : String} {r : Reading} :
    Written s r ↔ Document.ofText s = ⟨r, false⟩ ∧ Decoder.skip r = .ok () := by
  constructor
  · intro h
    refine ⟨h.ofText, ?_⟩
    cases h with
    | among _ _ h _ => exact h.skip
  · rintro ⟨hdoc, hr⟩
    cases hvalue : readValue (2 * s.toList.length + 2) s.toList with
    | mk root rest =>
      rw [Document.ofText, hvalue] at hdoc
      obtain ⟨rfl, htrailing⟩ := Document.mk.inj hdoc
      have hskip : skipSpace rest = [] := by simpa using htrailing
      obtain ⟨a, ds, hs, ha, hspells⟩ := spells_of_read hvalue hr
      obtain ⟨b, hb, hrest⟩ := exists_spaces hskip
      rw [List.append_nil] at hrest
      exact .among hs ha hspells (hrest ▸ hb)

/-- What is read of a text is read of its tree, and there is nothing behind this. -/
theorem run_eq_ok_iff_root {α : Type} {d : Decoder α} {s : String} {a : α} :
    Decoder.run d s = .ok a ↔
      d (Document.ofText s).root = .ok a ∧ (Document.ofText s).trailing = false := by
  have hrun : Decoder.run d s = (d (Document.ofText s).root >>= fun a =>
      if (Document.ofText s).trailing then .error .malformed else .ok a) := rfl
  rw [hrun]
  cases d (Document.ofText s).root with
  | error fault => simp [bind, Except.bind]
  | ok b => cases (Document.ofText s).trailing <;> simp [bind, Except.bind]

/-- A decoder that lets no break pass reads the texts of the grammar, by their trees. -/
theorem run_eq_ok_iff {α : Type} {d : Decoder α}
    (hskip : ∀ r a, d r = .ok a → Decoder.skip r = .ok ()) {s : String} {a : α} :
    Decoder.run d s = .ok a ↔ ∃ r, Written s r ∧ d r = .ok a := by
  rw [run_eq_ok_iff_root]
  constructor
  · rintro ⟨hread, htrailing⟩
    exact ⟨_, written_iff.mpr ⟨htrailing ▸ rfl, hskip _ _ hread⟩, hread⟩
  · rintro ⟨r, hwritten, hr⟩
    rw [hwritten.ofText]
    exact ⟨hr, rfl⟩

end TokenLaunch.Json
