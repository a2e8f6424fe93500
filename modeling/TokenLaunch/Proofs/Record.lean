import TokenLaunch.Proofs.Instant
import TokenLaunch.Proofs.Json.Printing
import TokenLaunch.Proofs.Json.Soundness
import TokenLaunch.Proofs.RecordId
import TokenLaunch.Record

/-!
# Records in storage

A record that is read of any text is stored in a text of its own, and is read back from there as it
was.  Two texts are stored alike exactly if they tell of the same record.
-/

namespace TokenLaunch.Record

open Json Json.Decoder

/-- The number of the chain and the moment are such as texts can tell. -/
structure IsStorable (r : Record) : Prop where
  chainId : r.deployment.chainId < twoTo 64
  deployedAt : r.deployedAt.IsMoment

variable {r : Record} {s : String}

theorem isStorable_of_decoder {x : Reading} (h : decoder x = .ok r) : r.IsStorable := by
  simp only [decoder, bind_eq_ok_iff] at h
  obtain ⟨values, -, id, -, address, -, chainId, hchain, network, -, hash, -, state, -, time, htime,
    heq⟩ := h
  obtain rfl := Except.ok.inj heq
  obtain ⟨_, hchain⟩ := exists_of_required hchain
  obtain ⟨_, htime⟩ := exists_of_required htime
  obtain ⟨_, htime⟩ := exists_of_textVia htime
  exact ⟨lt_of_natBelow hchain, Instant.isMoment_of_ofText? htime⟩

theorem isStorable_of_ofText (h : ofText s = .ok r) : r.IsStorable :=
  isStorable_of_decoder (run_eq_ok_iff_root.mp h).1

theorem exact_toJson (r : Record) : r.toJson.Exact := by
  have hoptional {α : Type} (f : α → String) (o : Option α) :
      (Json.ofOption (fun a => .str (f a)) o).Exact := by
    cases o
    · exact .null
    · exact .str _
  refine .obj ?_
  simp [Deployment.toMembers, Exact.str, Json.nat, Exact.natural, hoptional]

theorem decoder_reading (h : r.IsStorable) : decoder r.toJson.reading = .ok r := by
  have hid : textVia RecordId.ofText? (Json.str (RecordId.text r.id)).reading = .ok r.id :=
    textVia_reading (RecordId.ofText?_text r.id)
  have hchain := natBelow_reading (Nat.le_refl _) h.chainId
  have hnetwork := optional_reading (fun n => oneOf_reading (Network.ofSlug?_slug n))
    r.deployment.network
  have hhash : optional text (Json.ofOption .str r.deployment.txHash).reading =
      .ok r.deployment.txHash :=
    optional_reading (fun s => (inverts_text _ s).mpr rfl) r.deployment.txHash
  have hstate := oneOf_reading (VerificationState.ofName?_name r.deployment.state)
  have htime : textVia Instant.ofText? (Json.str r.deployedAt.text).reading = .ok r.deployedAt :=
    textVia_reading (Instant.ofText?_text h.deployedAt)
  have hfits : ∀ m ∈ readingMembers (("id", .str (RecordId.text r.id)) :: r.deployment.toMembers ++
      [("deployedAt", .str r.deployedAt.text)]), Fits fields m := by
    simp only [Deployment.toMembers, List.cons_append, List.nil_append, readingMembers,
      List.forall_mem_cons, List.not_mem_nil, false_imp_iff, implies_true, and_true]
    exact ⟨.field rfl (check_of_eq_ok hid _),
      .field rfl (check_of_eq_ok ((inverts_text _ _).mpr rfl) _),
      .field rfl (check_of_eq_ok hchain _), .field rfl (check_of_eq_ok hnetwork _),
      .field rfl (check_of_eq_ok hhash _), .field rfl (check_of_eq_ok hstate _),
      .field rfl (check_of_eq_ok htime _)⟩
  have hnames : (fields.map (·.name)).reverse.Nodup := by decide
  have hrecord := record_obj_eq_ok_iff.mpr ⟨hfits, rfl, hnames⟩
  simp only [decoder, bind_eq_ok_iff]
  exact ⟨_, hrecord, _, hid, _, (inverts_text _ _).mpr rfl, _, hchain, _, hnetwork, _, hhash, _,
    hstate, _, htime, rfl⟩

theorem ofText_of_written (h : r.IsStorable) (hs : Written s r.toJson.reading) :
    ofText s = .ok r := by
  rw [ofText, run_eq_ok_iff_root, hs.ofText]
  exact ⟨decoder_reading h, rfl⟩

/-- The text that the record of a text is stored in. -/
def store (s : String) : Except Fault String := (ofText s).map fun r => r.toJson.compact

/-- Whether nothing more will happen to the record of a text. -/
def isTerminal (s : String) : Except Fault Bool :=
  (ofText s).map fun r => r.deployment.state.isTerminal

theorem ofText_compact (h : ofText s = .ok r) : ofText r.toJson.compact = .ok r :=
  ofText_of_written (isStorable_of_ofText h) (exact_toJson r).written_compact

theorem ofText_pretty (h : ofText s = .ok r) : ofText r.toJson.pretty = .ok r :=
  ofText_of_written (isStorable_of_ofText h) (exact_toJson r).written_pretty

theorem store_of_ofText (h : ofText s = .ok r) : store s = .ok r.toJson.compact := by
  rw [store, h]
  rfl

theorem isTerminal_of_ofText (h : ofText s = .ok r) :
    isTerminal s = .ok r.deployment.state.isTerminal := by
  rw [isTerminal, h]
  rfl

/-- Texts are stored alike exactly if they tell of the same record. -/
theorem store_eq_iff {s' : String} {r' : Record} (h' : ofText s' = .ok r') (h : ofText s = .ok r) :
    store s' = store s ↔ r' = r := by
  rw [store_of_ofText h', store_of_ofText h, Except.ok.injEq]
  constructor
  · intro hsame
    have hread := ofText_compact h'
    rw [hsame, ofText_compact h] at hread
    exact (Except.ok.inj hread).symm
  · rintro rfl
    rfl

/-- A record that is read of a text, in whatever form, is read again from the text that it is stored
in, compact or indented.  To store it again changes nothing, and it is as terminal as before.  The
stored identifier is in lower case with hyphens and the stored moment in universal time.  No other
record is stored in this text. -/
theorem ofText_toJson (h : ofText s = .ok r) :
    ofText r.toJson.compact = .ok r ∧ ofText r.toJson.pretty = .ok r ∧
    (∃ t, store s = .ok t ∧ store t = .ok t ∧ isTerminal t = isTerminal s) ∧
    (∃ id time, r.toJson.member "id" = .str id ∧ RecordId.IsHyphenated id.toList ∧
      r.toJson.member "deployedAt" = .str time ∧
      Instant.IsZulu (Date.ofDay r.deployedAt.day).year time.toList) ∧
    ∀ s' r', ofText s' = .ok r' → (store s' = store s ↔ r' = r) := by
  have hagain := ofText_compact h
  have hterminal := (isTerminal_of_ofText hagain).trans (isTerminal_of_ofText h).symm
  have htime := Instant.isZulu_text (isStorable_of_ofText h).deployedAt
  exact ⟨hagain, ofText_pretty h, ⟨_, store_of_ofText h, store_of_ofText hagain, hterminal⟩,
    ⟨_, _, rfl, RecordId.isHyphenated_text r.id, rfl, htime⟩, fun s' r' h' => store_eq_iff h' h⟩

/-- Members in an order of their own and one more, an identifier in upper case and in braces, and a
leap second of the last year. -/
def unusual : Json :=
  .obj [("deployedAt", .str "2017-01-01T05:29:60.25+05:30"), ("note", .arr []),
    ("verificationState", .str "timed-out"), ("txHash", .null), ("chainId", .nat 11155111),
    ("id", .str "\x7b6BA7B810-9DAD-11D1-80B4-00C04FD430C8\x7d"), ("contractAddress", .str "0xAbC")]

def leapRecord : Record where
  id := 0x6ba7b8109dad11d180b400c04fd430c8#128
  deployment := ⟨"0xAbC", 11155111, none, none, .timedOut⟩
  deployedAt := ⟨17166, 86399, 1250000000⟩

theorem ofText_toJson_unusual : ofText unusual.compact = .ok leapRecord ∧
    leapRecord.id.text = "6ba7b810-9dad-11d1-80b4-00c04fd430c8" ∧
    leapRecord.deployedAt.text = "2016-12-31T23:59:60.250Z" ∧
    ofText leapRecord.toJson.compact = .ok leapRecord := by
  have hexact : unusual.Exact := by
    refine .obj ?_
    simp [Exact.str, Exact.null, Json.nat, Exact.natural, Exact.arr]
  have hdecode : decoder unusual.reading = .ok leapRecord := by decide +kernel
  have hread : ofText unusual.compact = .ok leapRecord := by
    rw [ofText, run_eq_ok_iff_root, hexact.written_compact.ofText]
    exact ⟨hdecode, rfl⟩
  exact ⟨hread, by decide +kernel, by decide +kernel, (ofText_toJson hread).1⟩

end TokenLaunch.Record
