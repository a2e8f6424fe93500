import Mathlib.Data.Finset.Dedup
import TokenLaunch.ConstructorArgs
import TokenLaunch.Proofs.Grammar
import TokenLaunch.Synthesis

/-!
# What is meant by a draft

The same token can be entered in many ways: among blanks, in letters of either case, with features
in any order and more than once, and with nothing where something blank would do.  Drafts that
differ in no more than that are accepted together and give the same configuration.
-/

namespace TokenLaunch

open Text Choice

namespace Text

/-- A text as a word: blanks around it and the case of letters set aside. -/
def word (s : String) : String := String.ofList ((trim s).toList.map Char.toLower)

theorem lower_trim (s : String) : lower (trim s) = word s := by
  rw [← String.toList_inj, word, String.toList_ofList]
  exact String.toList_map

/-- A trimmed text, or what stands for a blank one. -/
def trimOr (blank s : String) : String := if trim s = "" then blank else trim s

/-- A word, or the one that stands for a blank text. -/
def wordOr (blank s : String) : String := if trim s = "" then blank else word s

end Text

/-- What is left of a draft when its spelling is set aside. -/
@[ext]
structure Intent where
  network : String
  tokenName : String
  tokenSymbol : String
  decimals : String
  initialSupply : String
  maxSupply : String
  accessControl : String
  accessManager : String
  standardFunctions : Finset String
  securityFunctions : Finset String
  taxFunctions : Finset String
  upgradeability : String
  presaleType : String
  maxHolderLimit : String
  maxTransactionAmount : String
  tradingCooldown : String

namespace Draft

/-- Names and amounts are trimmed, whatever is one of a few words is lowered too, lists are sets of
words, and what is absent is blank.  In an address only digits and the mark before them have a
case. -/
def intent (d : Draft) : Intent where
  network := word d.network
  tokenName := trim d.tokenName
  tokenSymbol := trim d.tokenSymbol
  decimals := trimOr "18" d.decimals
  initialSupply := trim d.initialSupply
  maxSupply := trim (d.maxSupply.getD "")
  accessControl := word d.accessControl
  accessManager := word (d.accessManager.getD "")
  standardFunctions := (d.standardFunctions.map word).toFinset
  securityFunctions := (d.securityFunctions.map word).toFinset
  taxFunctions := (d.taxFunctions.map word).toFinset
  upgradeability := wordOr "none" d.upgradeability
  presaleType := wordOr "none" d.presaleType
  maxHolderLimit := trim (d.maxHolderLimit.getD "")
  maxTransactionAmount := trim (d.maxTransactionAmount.getD "")
  tradingCooldown := trim (d.tradingCooldown.getD "")

end Draft

/-! ## Addresses in either case -/

theorem toLower_of_not_isUpper {c : Char} (h : ¬ c.isUpper = true) : c.toLower = c :=
  dif_neg fun hrange => h (decide_eq_true hrange)

theorem toNat_toLower_of_isUpper {c : Char} (h : c.isUpper = true) :
    c.toLower.toNat = c.toNat + 32 := by
  have hrange := isUpper_iff_toNat.mp h
  have hval : c.toLower.val = c.val + ('a'.val - 'A'.val) := by
    delta Char.toLower
    rw [dif_pos (of_decide_eq_true h)]
  have hshift : ('a'.val - 'A'.val).toNat = 32 := rfl
  have hc : c.val.toNat = c.toNat := rfl
  rw [← Char.toNat_val, hval, UInt32.toNat_add]
  omega

/-- Only a letter is lowered to a letter, and to none but its own. -/
theorem eq_or_toNat_of_toLower_eq {c d : Char} (h : c.toLower = d) :
    c = d ∨ 97 ≤ d.toNat ∧ d.toNat ≤ 122 ∧ c.toNat + 32 = d.toNat := by
  by_cases hupper : c.isUpper = true
  · have hrange := isUpper_iff_toNat.mp hupper
    have hshift := toNat_toLower_of_isUpper hupper
    rw [h] at hshift
    exact .inr (by omega)
  · exact .inl ((toLower_of_not_isUpper hupper).symm.trans h)

namespace Hex

theorem value?_toLower (c : Char) : value? c.toLower = value? c := by
  by_cases h : c.isUpper = true
  · have hrange := isUpper_iff_toNat.mp h
    have hlower := toNat_toLower_of_isUpper h
    have hnine : '9'.toNat = 57 := rfl
    have ha : 'a'.toNat = 97 := rfl
    have hf : 'f'.toNat = 102 := rfl
    have hA : 'A'.toNat = 65 := rfl
    have hF : 'F'.toNat = 70 := rfl
    have hdigit : ¬ ('0'.toNat ≤ c.toNat ∧ c.toNat ≤ '9'.toNat) := by omega
    have hsmall : ¬ ('a'.toNat ≤ c.toNat ∧ c.toNat ≤ 'f'.toNat) := by omega
    simp only [value?, hlower]
    rw [if_neg (by omega), if_neg hdigit, if_neg hsmall]
    by_cases hhex : c.toNat ≤ 70
    · rw [if_pos (by omega), if_pos (by omega), Option.some.injEq]
      omega
    · rw [if_neg (by omega), if_neg (by omega), if_neg (by omega)]
  · rw [toLower_of_not_isUpper h]

theorem Denotes.of_map_toLower {cs ds : List Char} {n : Nat} (h : Denotes cs n)
    (heq : cs.map Char.toLower = ds.map Char.toLower) : Denotes ds n := by
  have hvalues (xs : List Char) : xs.map value? = (xs.map Char.toLower).map value? := by
    rw [List.map_map]
    exact List.map_congr_left fun c _ => (value?_toLower c).symm
  obtain ⟨values, hcs, hn⟩ := h
  exact ⟨values, by rw [hvalues ds, ← heq, ← hvalues cs, hcs], hn⟩

end Hex

namespace Address

/-- The case of letters does not matter in an address. -/
theorem Written.of_lower_eq {s t : String} {a : Address} (h : Written s a)
    (heq : lower s = lower t) : Written t a := by
  have hchars : s.toList.map Char.toLower = t.toList.map Char.toLower := by
    rw [← String.toList_map, ← String.toList_map]
    exact congrArg String.toList heq
  have hlength {cs ds : List Char} (heq : cs.map Char.toLower = ds.map Char.toLower) :
      ds.length = cs.length := by
    simpa using congrArg List.length heq.symm
  have hmarked {x : Char} {cs : List Char} (hx : x.toLower = 'x')
      (hs : s.toList = '0' :: x :: cs) : ∃ ds, cs.map Char.toLower = ds.map Char.toLower ∧
        (t.toList = '0' :: 'x' :: ds ∨ t.toList = '0' :: 'X' :: ds) := by
    rw [hs, List.map_cons, List.map_cons, hx] at hchars
    obtain ⟨z, _, ht, hz, hrest⟩ := List.map_eq_cons_iff.mp hchars.symm
    obtain ⟨y, ds, rfl, hy, hds⟩ := List.map_eq_cons_iff.mp hrest
    have hzero : '0'.toLower.toNat = 48 := rfl
    have hmark : 'x'.toNat = 120 := rfl
    have hcapital : 'X'.toNat = 88 := rfl
    obtain rfl : z = '0' := (eq_or_toNat_of_toLower_eq hz).resolve_right (by omega)
    refine ⟨ds, hds.symm, ?_⟩
    rcases eq_or_toNat_of_toLower_eq hy with rfl | hletter
    · exact .inl ht
    · obtain rfl : y = 'X' := Char.toNat_inj.mp (by omega)
      exact .inr ht
  obtain ⟨cs, hlen, hdenotes, hs | hs | hs⟩ := h
  · rw [hs] at hchars
    exact ⟨t.toList, (hlength hchars).trans hlen, hdenotes.of_map_toLower hchars, .inl rfl⟩
  · obtain ⟨ds, hds, ht⟩ := hmarked rfl hs
    exact ⟨ds, (hlength hds).trans hlen, hdenotes.of_map_toLower hds, .inr ht⟩
  · obtain ⟨ds, hds, ht⟩ := hmarked rfl hs
    exact ⟨ds, (hlength hds).trans hlen, hdenotes.of_map_toLower hds, .inr ht⟩

end Address

/-! ## Checks of what is meant -/

namespace Draft

theorem filled_congr {field : DraftField} {s t : String} (h : trim s = trim t) :
    filled field s = filled field t := by
  simp only [filled, h]

theorem checkDecimals_eq_ok_iff_trimOr {d : Draft} {n : Nat} :
    d.checkDecimals = .ok n ↔ readInteger 256 (trimOr "18" d.decimals) = .ok n := by
  simp only [checkDecimals, mapError_eq_ok_iff, trimOr, String.isEmpty_iff]

section Choices

variable {α : Type} [Choice α] [Lawful α] {field : DraftField}

/-- A blank choice is the choice of none by its name. -/
theorem choiceOr_eq_ok_iff_wordOr {none a : α} {s : String} (hnone : lower (name none) = "none") :
    choiceOr field none s = .ok a ↔ wordOr "none" s = lower (name a) := by
  rw [choiceOr_eq_ok_iff, wordOr, ← trim_eq_empty_iff]
  by_cases hblank : trim s = ""
  · have hnames : ¬ Names s a := fun h => h.trim_ne hblank
    rw [if_pos hblank, ← hnone, or_iff_left hnames, and_iff_right hblank]
    constructor
    · rintro rfl
      rfl
    · exact fun heq =>
        Lawful.eq_of_lower_name a (Lawful.mem_all a) none (Lawful.mem_all none) heq.symm
  · rw [if_neg hblank, ← lower_trim]
    exact or_iff_right fun h => hblank h.1

/-- Neither the order of a list nor repetitions in it matter. -/
theorem choices_of_words_eq [DecidableEq α] {ss ts : List String} {as : List α}
    (h : choices field ss = .ok as)
    (heq : (ss.map word).toFinset = (ts.map word).toFinset) : choices field ts = .ok as := by
  have hsame (p : String → Prop) :
      (∃ s ∈ ss, p (lower (trim s))) ↔ ∃ t ∈ ts, p (lower (trim t)) := by
    have hwords := congrArg (fun ws : Finset String => ∃ w ∈ ws, p w) heq
    simpa [lower_trim] using hwords
  obtain ⟨hnamed, rfl⟩ := choices_eq_ok_iff.mp h
  refine choices_eq_ok_iff.mpr ⟨?_, ?_⟩
  · have hno : ¬ ∃ s ∈ ss, ∀ a : α, ¬ Names s a := by
      rintro ⟨s, hs, hnone⟩
      obtain ⟨a, ha⟩ := hnamed s hs
      exact hnone a ha
    intro t ht
    by_contra! hnone
    exact hno ((hsame fun w => ∀ a : α, ¬ w = lower (name a)).mpr ⟨t, ht, hnone⟩)
  · refine List.filter_congr fun a _ => ?_
    exact decide_eq_decide.mpr (hsame fun w => w = lower (name a))

end Choices

theorem checkAuthority_of_word_eq {d d' : Draft} {access : AccessControl} {a : Option Address}
    (h : d.checkAuthority access = .ok a)
    (heq : word (d.accessManager.getD "") = word (d'.accessManager.getD "")) :
    d'.checkAuthority access = .ok a := by
  rcases checkAuthority_eq_ok_iff.mp h with hno | ⟨hyes, s, x, hs, hparse, hne, hsome⟩
  · exact checkAuthority_eq_ok_iff.mpr (.inl hno)
  · obtain ⟨rfl, -⟩ := filled_eq_ok_iff.mp hs
    rw [← lower_trim, ← lower_trim] at heq
    have hwritten := (Address.parse_eq_ok_iff.mp hparse).of_lower_eq heq
    exact checkAuthority_eq_ok_iff.mpr (.inr ⟨hyes, _, x,
      filled_eq_ok_iff.mpr ⟨rfl, hwritten.ne_empty⟩, hwritten.parse, hne, hsome⟩)

/-- A largest supply that is not blank was entered. -/
theorem checkCap_of_trim_eq {d d' : Draft} {chosen : Bool} {decimals : Nat} {initial : Amount}
    {cap : Option Amount} (h : d.checkCap chosen decimals initial = .ok cap)
    (heq : trim (d.maxSupply.getD "") = trim (d'.maxSupply.getD "")) :
    d'.checkCap chosen decimals initial = .ok cap := by
  rcases checkCap_eq_ok_iff.mp h with hno | ⟨hyes, s, a, hs, hblank, hparse, hlt, hsome⟩
  · exact checkCap_eq_ok_iff.mpr (.inl hno)
  · rw [hs, Option.getD_some] at heq
    have hne : trim (d'.maxSupply.getD "") ≠ "" := heq ▸ trim_ne_empty_iff.mpr hblank
    obtain ⟨t, ht⟩ := Accepted.exists_of_getD hne
    rw [ht, Option.getD_some] at heq hne
    rw [← Amount.parse_trim, heq, Amount.parse_trim] at hparse
    exact checkCap_eq_ok_iff.mpr
      (.inr ⟨hyes, t, a, ht, trim_ne_empty_iff.mp hne, hparse, hlt, hsome⟩)

theorem checkAntiWhale_congr {d d' : Draft} {chosen : Bool} {decimals : Nat}
    (hholder : trim (d.maxHolderLimit.getD "") = trim (d'.maxHolderLimit.getD ""))
    (htransaction :
      trim (d.maxTransactionAmount.getD "") = trim (d'.maxTransactionAmount.getD "")) :
    d.checkAntiWhale chosen decimals = d'.checkAntiWhale chosen decimals := by
  simp only [checkAntiWhale, filled_congr hholder, filled_congr htransaction]

theorem checkCooldown_congr {d d' : Draft} {chosen : Bool}
    (h : trim (d.tradingCooldown.getD "") = trim (d'.tradingCooldown.getD "")) :
    d.checkCooldown chosen = d'.checkCooldown chosen := by
  simp only [checkCooldown, h]

/-- Every check that succeeds does so for any draft that means the same. -/
theorem Accepted.of_intent_eq {d d' : Draft} {c : TokenConfig} (h : d.Accepted c)
    (heq : d.intent = d'.intent) : d'.Accepted c := by
  simp only [intent, Intent.mk.injEq] at heq
  obtain ⟨hnetwork, hname, hsymbol, hdecimals, hsupply, hcap, haccess, hmanager, hstandard,
    hsecurity, htax, hupgrade, hpresale, hholder, htransaction, hcooldown⟩ := heq
  obtain ⟨s, hs, hamount⟩ := h.initialSupply
  have hupgradeable : lower (name Upgradeability.none) = "none" := by decide +kernel
  have hsold : lower (name PresaleType.none) = "none" := by decide +kernel
  exact {
    network := by
      rw [checkNetwork_eq_ok_iff, lower_trim, ← hnetwork, ← lower_trim]
      exact checkNetwork_eq_ok_iff.mp h.network
    tokenName := filled_congr hname ▸ h.tokenName
    tokenSymbol := filled_congr hsymbol ▸ h.tokenSymbol
    contractName := h.contractName
    decimals := by
      rw [checkDecimals_eq_ok_iff_trimOr, ← hdecimals]
      exact checkDecimals_eq_ok_iff_trimOr.mp h.decimals
    initialSupply := ⟨s, filled_congr hsupply ▸ hs, hamount⟩
    accessControl := by
      rw [choice_eq_ok_iff, Names, lower_trim, ← haccess, ← lower_trim]
      exact choice_eq_ok_iff.mp h.accessControl
    accessManager := checkAuthority_of_word_eq h.accessManager hmanager
    standardFunctions := choices_of_words_eq h.standardFunctions hstandard
    securityFunctions := choices_of_words_eq h.securityFunctions hsecurity
    taxFunctions := choices_of_words_eq h.taxFunctions htax
    upgradeability := by
      rw [choiceOr_eq_ok_iff_wordOr hupgradeable, ← hupgrade]
      exact (choiceOr_eq_ok_iff_wordOr hupgradeable).mp h.upgradeability
    presaleType := by
      rw [choiceOr_eq_ok_iff_wordOr hsold, ← hpresale]
      exact (choiceOr_eq_ok_iff_wordOr hsold).mp h.presaleType
    maxSupply := checkCap_of_trim_eq h.maxSupply hcap
    antiWhale := checkAntiWhale_congr hholder htransaction ▸ h.antiWhale
    tradingCooldown := checkCooldown_congr hcooldown ▸ h.tradingCooldown }

/-- Drafts that mean the same are accepted together, as one configuration with one source and one
list of arguments. -/
theorem sameConfig_of_intent {d d' : Draft} (h : d.intent = d'.intent) :
    ((∃ c, d.validate = .ok c) ↔ ∃ c, d'.validate = .ok c) ∧
      ∀ c c', d.validate = .ok c → d'.validate = .ok c' →
        c = c' ∧ c.source = c'.source ∧
          (ConstructorArgs.ofConfig c).values = (ConstructorArgs.ofConfig c').values := by
  have hpasses {d d' : Draft} {c : TokenConfig} (h : d.intent = d'.intent)
      (hc : d.validate = .ok c) : d'.validate = .ok c :=
    validate_eq_ok_iff.mpr ((validate_eq_ok_iff.mp hc).of_intent_eq h)
  constructor
  · exact exists_congr fun c => ⟨hpasses h, hpasses h.symm⟩
  · intro c c' hc hc'
    obtain rfl := Except.ok.inj ((hpasses h hc).symm.trans hc')
    exact ⟨rfl, rfl, rfl⟩

/-- The draft with blanks, typed anew: in other letters, in another order and with the decimals of a
blank field. -/
def retypedDraft : Draft where
  network := "SEPOLIA\t"
  tokenName := "  9 Lead 2"
  tokenSymbol := "\u2003LD"
  decimals := "+06 "
  initialSupply := "1.5\n"
  maxSupply := some "2"
  accessControl := "Manager"
  accessManager := some "0x00000000000000000000000000000000000000aF "
  standardFunctions := ["MINT", "Cap"]
  securityFunctions := ["AntiWhale", "antiwhale", " AntiBot"]
  taxFunctions := ["Dividends", "dividends"]
  upgradeability := "None"
  presaleType := "ICO "
  maxHolderLimit := some " 0.25"
  maxTransactionAmount := some "007 "
  tradingCooldown := none

theorem sameConfig_retypedDraft : spacedDraft.intent = retypedDraft.intent ∧
    ∃ c, spacedDraft.validate = .ok c ∧ retypedDraft.validate = .ok c ∧
      c.standardFunctions = [.mint, .cap] := by
  have hsame : spacedDraft.intent = retypedDraft.intent := by
    apply Intent.ext <;> decide +kernel
  have hchosen : spacedDraft.validate.toOption.any
      (fun c => decide (c.standardFunctions = [.mint, .cap])) = true := by
    decide +kernel
  obtain ⟨c, hc, hfunctions⟩ := exists_of_validate hchosen
  obtain ⟨haccepted, hequal⟩ := sameConfig_of_intent hsame
  obtain ⟨c', hc'⟩ := haccepted.mp ⟨c, hc⟩
  have heq : c = c' := (hequal c c' hc hc').1
  exact ⟨hsame, c, hc, heq ▸ hc', of_decide_eq_true hfunctions⟩

end Draft

end TokenLaunch
