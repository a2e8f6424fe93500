import TokenLaunch.Draft
import TokenLaunch.Proofs.Json.Form
import TokenLaunch.Proofs.Json.Printing

/-!
# Drafts in JSON

A draft is read of the texts that tell of it, and of no others: its own text, compact or indented,
is one, and none in which a field comes twice or a text is null.
-/

namespace TokenLaunch.Draft

open Json Json.Decoder

/-- The members of a draft in the order of its fields. -/
def members (d : Draft) : List (String × Json) :=
  match d.toJson with
  | .obj ms => ms
  | _ => []

def names : List String := fields.map (·.name)

/-- The names of the fields that hold a text or a list of texts, and no optional text. -/
def plainNames : List String :=
  ["network", "tokenName", "tokenSymbol", "decimals", "initialSupply", "accessControl",
    "standardFunctions", "securityFunctions", "taxFunctions", "upgradeability", "presaleType"]

variable {d : Draft} {values : List (String × Reading)}

theorem map_fst_members (d : Draft) : d.members.map Prod.fst = names := rfl

theorem nodup_names : names.Nodup := by decide

theorem inverts_optional : Inverts (optional text) (.ofOption .str) :=
  inverts_text.optional nofun

theorem inverts_list : Inverts (list text) fun as => .arr (as.map .str) := inverts_text.list

/-! ## The members of a draft -/

theorem fits_of_mem : ∀ m ∈ d.members, Fits fields (some m.1, m.2.reading) := by
  have htext {name s} (hfind : fields.find? (·.name == name) = some (.of name text)) :
      Fits fields (some name, (Json.str s).reading) := .field hfind (inverts_text.check name s)
  have hoptional {name s}
      (hfind : fields.find? (·.name == name) = some (.of name (optional text))) :
      Fits fields (some name, (Json.ofOption .str s).reading) :=
    .field hfind (inverts_optional.check name s)
  have hlist {name} {ss : List String}
      (hfind : fields.find? (·.name == name) = some (.of name (list text))) :
      Fits fields (some name, (Json.arr (ss.map .str)).reading) :=
    .field hfind (inverts_list.check name ss)
  simp only [members, toJson, List.forall_mem_cons, List.not_mem_nil, false_imp_iff, implies_true,
    and_true]
  exact ⟨htext rfl, htext rfl, htext rfl, htext rfl, htext rfl, hoptional rfl, htext rfl,
    hoptional rfl, hlist rfl, hlist rfl, hlist rfl, htext rfl, htext rfl, hoptional rfl,
    hoptional rfl, hoptional rfl⟩

theorem skip_of_check : ∀ f ∈ fields, ∀ r, f.check r = .ok () → skip r = .ok () := by
  have htext (name : String) (r) (h : (Field.of name text).check r = .ok ()) : skip r = .ok () :=
    inverts_text.skip_of_check h
  have hoptional (name : String) (r) (h : (Field.of name (optional text)).check r = .ok ()) :
      skip r = .ok () := inverts_optional.skip_of_check h
  have hlist (name : String) (r) (h : (Field.of name (list text)).check r = .ok ()) :
      skip r = .ok () := inverts_list.skip_of_check h
  simp only [fields, List.forall_mem_cons, List.not_mem_nil, false_imp_iff, implies_true, and_true]
  exact ⟨htext _, htext _, htext _, htext _, htext _, hoptional _, htext _, hoptional _, hlist _,
    hlist _, hlist _, htext _, htext _, hoptional _, hoptional _, hoptional _⟩

theorem describes (d : Draft) : Describes fields d.members default.members where
  names := (map_fst_members d).symm
  defaults := rfl
  nodup := nodup_names
  fits := fits_of_mem
  skips := skip_of_check

theorem exact_toJson (d : Draft) : d.toJson.Exact := by
  have hoptional (s : Option String) : (Json.ofOption .str s).Exact := by
    cases s
    · exact .null
    · exact .str _
  have hlist (ss : List String) : (Json.arr (ss.map .str)).Exact :=
    .arr (List.forall_mem_map.mpr fun s _ => .str s)
  refine .obj ?_
  simp [Exact.str, hoptional, hlist]

theorem plainNames_subset : plainNames ⊆ names := by decide

theorem reading_ne_null : ∀ m ∈ d.members, m.1 ∈ plainNames → m.2.reading ≠ .null := by
  simp [members, toJson, plainNames, Json.reading]

/-! ## Reading -/

theorem withDefault_eq_ok_iff {α : Type} {dec : Decoder α} {encode : α → Json}
    (h : Inverts dec encode) {name : String} {x a : α}
    (hx : default.members.lookup name = some (encode x)) :
    withDefault name dec x values = .ok a ↔ Holds default.members values (name, encode a) := by
  have hinj : encode x = encode a → a = x := fun heq =>
    Except.ok.inj (((h _ a).mpr rfl).symm.trans ((h _ x).mpr (heq ▸ rfl)))
  rw [h.withDefault_eq_ok_iff]
  simp only [Holds, hx, Option.some.injEq]
  exact or_congr_right (and_congr_right' ⟨fun heq => heq ▸ rfl, hinj⟩)

section Members

variable {name : String} {r : Reading}

theorem text_iff {x a : String} (hx : default.members.lookup name = some (.str x)) :
    withDefault name text x values = .ok a ↔ Holds default.members values (name, .str a) :=
  withDefault_eq_ok_iff inverts_text hx

theorem optional_iff {x a : Option String}
    (hx : default.members.lookup name = some (.ofOption .str x)) :
    withDefault name (optional text) x values = .ok a ↔
      Holds default.members values (name, .ofOption .str a) :=
  withDefault_eq_ok_iff inverts_optional hx

theorem list_iff {x a : List String}
    (hx : default.members.lookup name = some (.arr (x.map .str))) :
    withDefault name (list text) x values = .ok a ↔
      Holds default.members values (name, .arr (a.map .str)) :=
  withDefault_eq_ok_iff inverts_list hx

theorem holds_of_decoder (h : decoder r = .ok d) :
    ∃ values, record fields r = .ok values ∧ ∀ m ∈ d.members, Holds default.members values m := by
  simp only [decoder, bind_eq_ok_iff] at h
  obtain ⟨values, hvalues, network, h₁, tokenName, h₂, tokenSymbol, h₃, decimals, h₄,
    initialSupply, h₅, maxSupply, h₆, accessControl, h₇, accessManager, h₈, standardFunctions, h₉,
    securityFunctions, h₁₀, taxFunctions, h₁₁, upgradeability, h₁₂, presaleType, h₁₃,
    maxHolderLimit, h₁₄, maxTransactionAmount, h₁₅, tradingCooldown, h₁₆, heq⟩ := h
  obtain rfl := Except.ok.inj heq
  refine ⟨values, hvalues, ?_⟩
  simp only [members, toJson, List.forall_mem_cons, List.not_mem_nil, false_imp_iff, implies_true,
    and_true]
  exact ⟨(text_iff rfl).mp h₁, (text_iff rfl).mp h₂, (text_iff rfl).mp h₃, (text_iff rfl).mp h₄,
    (text_iff rfl).mp h₅, (optional_iff rfl).mp h₆, (text_iff rfl).mp h₇, (optional_iff rfl).mp h₈,
    (list_iff rfl).mp h₉, (list_iff rfl).mp h₁₀, (list_iff rfl).mp h₁₁, (text_iff rfl).mp h₁₂,
    (text_iff rfl).mp h₁₃, (optional_iff rfl).mp h₁₄, (optional_iff rfl).mp h₁₅,
    (optional_iff rfl).mp h₁₆⟩

theorem decoder_of_holds (hvalues : record fields r = .ok values)
    (h : ∀ m ∈ d.members, Holds default.members values m) : decoder r = .ok d := by
  simp only [members, toJson, List.forall_mem_cons, List.not_mem_nil, false_imp_iff, implies_true,
    and_true] at h
  obtain ⟨h₁, h₂, h₃, h₄, h₅, h₆, h₇, h₈, h₉, h₁₀, h₁₁, h₁₂, h₁₃, h₁₄, h₁₅, h₁₆⟩ := h
  simp only [decoder, bind_eq_ok_iff]
  exact ⟨values, hvalues, _, (text_iff rfl).mpr h₁, _, (text_iff rfl).mpr h₂,
    _, (text_iff rfl).mpr h₃, _, (text_iff rfl).mpr h₄, _, (text_iff rfl).mpr h₅,
    _, (optional_iff rfl).mpr h₆, _, (text_iff rfl).mpr h₇, _, (optional_iff rfl).mpr h₈,
    _, (list_iff rfl).mpr h₉, _, (list_iff rfl).mpr h₁₀, _, (list_iff rfl).mpr h₁₁,
    _, (text_iff rfl).mpr h₁₂, _, (text_iff rfl).mpr h₁₃, _, (optional_iff rfl).mpr h₁₄,
    _, (optional_iff rfl).mpr h₁₅, _, (optional_iff rfl).mpr h₁₆, rfl⟩

/-- A draft is read exactly if the record holds the value of each of its members. -/
theorem decoder_eq_ok_iff : decoder r = .ok d ↔
    ∃ values, record fields r = .ok values ∧ ∀ m ∈ d.members, Holds default.members values m :=
  ⟨holds_of_decoder, fun ⟨_, hvalues, h⟩ => decoder_of_holds hvalues h⟩

end Members

theorem ofText_eq_ok_iff {s : String} :
    ofText s = .ok d ↔ ∃ r, Written s r ∧ Form d.members default.members r := by
  have hread (r) (d : Draft) : decoder r = .ok d ↔
      Form d.members default.members r ∧ skip r = .ok () :=
    decoder_eq_ok_iff.trans (describes d).exists_record_iff
  rw [ofText, run_eq_ok_iff fun r d h => ((hread r d).mp h).2]
  constructor
  · rintro ⟨r, hs, h⟩
    exact ⟨r, hs, ((hread r d).mp h).1⟩
  · rintro ⟨r, hs, h⟩
    exact ⟨r, hs, (hread r d).mpr ⟨h, (written_iff.mp hs).2⟩⟩

/-- A text is rejected when its tree tells of no draft. -/
theorem ofText_eq_error {s : String} {r : Reading} (hs : Written s r)
    (hform : ∀ d : Draft, ¬ Form d.members default.members r) :
    ∃ fault, ofText s = .error fault := by
  cases hread : ofText s with
  | error fault => exact ⟨fault, rfl⟩
  | ok d =>
    obtain ⟨r', hs', h⟩ := ofText_eq_ok_iff.mp hread
    obtain rfl := hs.unique hs'
    exact absurd h (hform d)

/-- A draft is read of exactly the texts that tell of it, with its members in any order, among
members of other names, and the default ones left out; its own texts are among them.  A text is
rejected that has a field twice, or null for one that is no optional text. -/
theorem ofText_faithful :
    (∀ d : Draft, ofText d.toJson.compact = .ok d ∧ ofText d.toJson.pretty = .ok d) ∧
    (∀ s d, ofText s = .ok d ↔ ∃ r, Written s r ∧ Form d.members default.members r) ∧
    (∀ s ms, Written s (.obj ms) → ∀ name ∈ names, 2 ≤ (ms.map Prod.fst).count (some name) →
      ∃ fault, ofText s = .error fault) ∧
    (∀ s ms, Written s (.obj ms) → ∀ name ∈ plainNames, (some name, .null) ∈ ms →
      ∃ fault, ofText s = .error fault) ∧
    ∀ s items, Written s (.arr items) → ∀ name ∈ plainNames, (name, .null) ∈ names.zip items →
      ∃ fault, ofText s = .error fault := by
  refine ⟨fun d => ⟨?_, ?_⟩, fun s d => ofText_eq_ok_iff, fun s ms hs name hname htwice => ?_,
    fun s ms hs name hname hnull => ?_, fun s items hs name hname hnull => ?_⟩
  · exact ofText_eq_ok_iff.mpr ⟨_, (exact_toJson d).written_compact, .refl d.members _⟩
  · exact ofText_eq_ok_iff.mpr ⟨_, (exact_toJson d).written_pretty, .refl d.members _⟩
  · refine ofText_eq_error hs fun d h => ?_
    exact absurd (h.count_le_one (describes d).nodup hname) (Nat.not_le_of_lt htwice)
  · refine ofText_eq_error hs fun d h => ?_
    obtain ⟨m, hm, rfl, hvalue⟩ := h.exists_of_mem_obj (plainNames_subset hname) hnull
    exact reading_ne_null m hm hname hvalue
  · refine ofText_eq_error hs fun d h => ?_
    obtain ⟨m, hm, rfl, hvalue⟩ := h.exists_of_mem_zip hnull
    exact reading_ne_null m hm hname hvalue

/-- Two fields against their order, after a member that no draft has. -/
def extendedObject : Json :=
  .obj [("note", .arr [.null, .nat 7]), ("tokenSymbol", .str "\"T\n"), ("network", .str "sepolia")]

def extendedDraft : Draft := { default with network := "sepolia", tokenSymbol := "\"T\n" }

theorem form_extendedObject :
    Form extendedDraft.members default.members extendedObject.reading := by
  have hkept : [("network", Json.str "sepolia"), ("tokenSymbol", Json.str "\"T\n")].Sublist
      extendedDraft.members :=
    .cons_cons _ (.cons _ (List.singleton_sublist.mpr List.mem_cons_self))
  have hleft : ∀ m ∈ extendedDraft.members,
      m ∉ [("network", Json.str "sepolia"), ("tokenSymbol", Json.str "\"T\n")] →
        m ∈ default.members := by
    simp [members, toJson, extendedDraft, default]
  have hothers : ∀ m ∈ [(some "note", (Json.arr [.null, .nat 7]).reading)],
      ∃ name ∉ extendedDraft.members.map Prod.fst, m.1 = some name :=
    List.forall_mem_singleton.mpr ⟨"note", by decide, rfl⟩
  exact .object hkept hleft hothers (List.reverse_perm _).symm

theorem exact_extendedObject : extendedObject.Exact := by
  refine .obj ?_
  simp only [List.forall_mem_cons, List.not_mem_nil, false_imp_iff, implies_true, and_true]
  refine ⟨.arr ?_, .str _, .str _⟩
  simp only [List.forall_mem_cons, List.not_mem_nil, false_imp_iff, implies_true, and_true]
  exact ⟨.null, .natural 7⟩

/-- An object with a field twice, and a list with null for the first text. -/
theorem ofText_faithful_extendedObject :
    (∃ r, Written extendedObject.compact r ∧ Form extendedDraft.members default.members r ∧
      ofText extendedObject.compact = .ok extendedDraft) ∧
    (∃ ms s, Written s (.obj ms) ∧ "network" ∈ names ∧
      2 ≤ (ms.map Prod.fst).count (some "network") ∧ ∃ fault, ofText s = .error fault) ∧
    (∃ ms s, Written s (.obj ms) ∧ "network" ∈ plainNames ∧ (some "network", .null) ∈ ms ∧
      ∃ fault, ofText s = .error fault) ∧
    ∃ items s, Written s (.arr items) ∧ "network" ∈ plainNames ∧
      ("network", .null) ∈ names.zip items ∧ ∃ fault, ofText s = .error fault := by
  have hextended := exact_extendedObject.written_compact
  have htwice : (Json.obj [("network", .str "bsc"), ("network", .str "bsc")]).Exact :=
    .obj (by simp [Exact.str])
  have hnull : (Json.obj [("network", .null)]).Exact := .obj (by simp [Exact.null])
  have hlist : (Json.arr [.null]).Exact := .arr (by simp [Exact.null])
  have hname : "network" ∈ names := List.mem_cons_self
  have hplain : "network" ∈ plainNames := List.mem_cons_self
  obtain ⟨-, hread, hrejected, hnullObject, hnullList⟩ := ofText_faithful
  exact ⟨⟨_, hextended, form_extendedObject, (hread _ _).mpr ⟨_, hextended, form_extendedObject⟩⟩,
    ⟨_, _, htwice.written_compact, hname, Nat.le_refl 2,
      hrejected _ _ htwice.written_compact _ hname (Nat.le_refl 2)⟩,
    ⟨_, _, hnull.written_compact, hplain, List.mem_cons_self,
      hnullObject _ _ hnull.written_compact _ hplain List.mem_cons_self⟩,
    ⟨_, _, hlist.written_compact, hplain, List.mem_cons_self,
      hnullList _ _ hlist.written_compact _ hplain List.mem_cons_self⟩⟩

end TokenLaunch.Draft
