import CredentialWallet.Credential
import CredentialWallet.Proofs.Recovery
/-!
# Credentials in their written form

A credential is read by rules of its own, and forgivingly: its words in any letter case, its connection
in any form that a connection is read from, fields of another format passed over, and absent fields of
an Indy credential taken for empty. Only what is read counts, so writing it gives a form that all
further reading and writing leaves as it is.
-/

namespace CredentialWallet

open Record

namespace Credential

/-! ### Fields -/

theorem field_eq_ok_iff {entries : Entries} {name : String} {value : Json} :
    field entries name = .ok value ↔ entries.get? name = some value ∧ value ≠ .null := by
  rw [field]
  split
  · simp_all
  · rename_i h
    constructor
    · nofun
    · rintro ⟨hvalue, hne⟩
      rw [h] at hvalue
      exact absurd (Option.some.inj hvalue).symm hne
  · rename_i found hne h
    rw [h, Except.ok.injEq, Option.some.injEq]
    constructor
    · rintro rfl
      exact ⟨rfl, hne⟩
    · exact And.left

theorem textField_eq_ok_iff {entries : Entries} {name s : String} :
    textField entries name = .ok s ↔ entries.get? name = some (.string s) := by
  rw [textField, bind_eq_ok_iff]
  constructor
  · rintro ⟨value, hvalue, h⟩
    split at h
    · cases h
      exact (field_eq_ok_iff.1 hvalue).1
    · cases h
  · intro h
    exact ⟨.string s, field_eq_ok_iff.2 ⟨h, nofun⟩, rfl⟩

theorem wordField_eq_ok_iff {τ : Type} [Word τ] {entries : Entries} {name : String} {value : τ} :
    wordField τ entries name = .ok value ↔
      ∃ raw, entries.get? name = some (.string raw) ∧ Word.decode? raw = some value := by
  rw [wordField, bind_eq_ok_iff]
  refine exists_congr fun raw => ?_
  rw [textField_eq_ok_iff]
  refine and_congr_right fun _ => ?_
  split <;> simp_all

theorem ofEntries_details_eq_ok_iff {entries : Entries} {d : Details} :
    Details.ofEntries entries = .ok d ↔
      textField entries "id" = .ok d.id ∧ wordField CredentialRole entries "role" = .ok d.role ∧
        wordField CredentialState entries "state" = .ok d.state ∧
        textField entries "issuer_did" = .ok d.issuerDid ∧ field entries "cred_json" = .ok d.claims ∧
        (∃ value, field entries "connection" = .ok value ∧ Record.ofJson value = .ok d.connection) ∧
        field entries "properties" = .ok (.object d.properties) := by
  simp only [Details.ofEntries, bind_eq_ok_iff, mapError_eq_ok_iff]
  constructor
  · rintro ⟨id, hid, role, hrole, state, hstate, issuer, hissuer, claims, hclaims, value, hvalue,
      connection, hconnection, found, hfound, h⟩
    split at h
    · cases h
      exact ⟨hid, hrole, hstate, hissuer, hclaims, ⟨value, hvalue, hconnection⟩, hfound⟩
    · cases h
  · rintro ⟨hid, hrole, hstate, hissuer, hclaims, ⟨value, hvalue, hconnection⟩, hproperties⟩
    exact ⟨_, hid, _, hrole, _, hstate, _, hissuer, _, hclaims, value, hvalue, _, hconnection, _,
      hproperties, rfl⟩

/-! ### Formats -/

/-- The credential of a format with some shared fields; the fields of the format itself are taken from
some entries. -/
def ofDetails (entries : Entries) (d : Details) : CredentialFormat → Credential
  | .indy =>
    let text (name : String) := (textField? entries name).getD ""
    .indy d (text "cred_def_id") (text "schema_name") (text "schema_version")
  | .jsonLd => .jsonLd d
  | .mdoc => .mdoc d (textField? entries "doc_type")

@[simp] theorem details_ofDetails (entries : Entries) (d : Details) (format : CredentialFormat) :
    (ofDetails entries d format).details = d := by
  cases format <;> rfl

@[simp] theorem format_ofDetails (entries : Entries) (d : Details) (format : CredentialFormat) :
    (ofDetails entries d format).format = format := by
  cases format <;> rfl

/-- Whatever the format is, the shared fields are read by one rule. -/
theorem ofEntries_eq (entries : Entries) :
    ofEntries entries = wordField CredentialFormat entries "format" >>= fun format =>
      (Details.ofEntries entries).map fun d => ofDetails entries d format := by
  rw [ofEntries]
  refine congrArg (wordField CredentialFormat entries "format" >>= ·) (funext fun format => ?_)
  cases format <;> rfl

theorem ofEntries_eq_ok_iff {entries : Entries} {c : Credential} :
    ofEntries entries = .ok c ↔
      wordField CredentialFormat entries "format" = .ok c.format ∧
        Details.ofEntries entries = .ok c.details ∧ c = ofDetails entries c.details c.format := by
  rw [ofEntries_eq, bind_eq_ok_iff]
  constructor
  · rintro ⟨format, hformat, h⟩
    obtain ⟨d, hd, rfl⟩ := map_eq_ok_iff.1 h
    simpa using ⟨hformat, hd⟩
  · rintro ⟨hformat, hd, hc⟩
    exact ⟨c.format, hformat, map_eq_ok_iff.2 ⟨c.details, hd, hc.symm⟩⟩

/-! ### Recovery -/

/-- Neither the claims nor a document of the connection is a null. -/
structure IsRecoverable (c : Credential) : Prop where
  claims : c.details.claims ≠ .null
  connection : c.details.connection.IsRecoverable

theorem isRecoverable_of_ofJson {j : Json} {c : Credential} (h : ofJson j = .ok c) :
    c.IsRecoverable := by
  cases j with
  | object entries =>
    have hdetails : Details.ofEntries entries = .ok c.details := (ofEntries_eq_ok_iff.1 h).2.1
    obtain ⟨_, _, _, _, hclaims, ⟨_, _, hconnection⟩, _⟩ := ofEntries_details_eq_ok_iff.1 hdetails
    exact ⟨(field_eq_ok_iff.1 hclaims).2, Connection.roundTrips.recoverable_of_read hconnection⟩
  | _ => cases h

theorem ofEntries_details_toJson {c : Credential} (h : c.IsRecoverable) :
    Details.ofEntries c.toJson.members = .ok c.details := by
  have hread : Record.ofJson c.details.connection.toJson = .ok c.details.connection :=
    (Connection.roundTrips.ofJson_write_iff c.details.connection).2 h.connection
  have hconnection : field c.toJson.members "connection" = .ok c.details.connection.toJson :=
    field_eq_ok_iff.2 ⟨rfl, nofun⟩
  have hclaims : c.toJson.members.get? "cred_json" = some c.details.claims := by
    cases c <;> rfl
  refine ofEntries_details_eq_ok_iff.2 ⟨?_, ?_, ?_, ?_, field_eq_ok_iff.2 ⟨hclaims, h.claims⟩,
    ⟨_, hconnection, hread⟩, field_eq_ok_iff.2 ⟨?_, nofun⟩⟩
  all_goals
    cases c <;>
      simp [textField_eq_ok_iff, wordField_eq_ok_iff, toJson, details, Json.members, Entries.get?,
        optionalText, List.lookup_append, List.lookup_cons, Word.Lawful.decode?_text]

theorem ofJson_toJson {c : Credential} (h : c.IsRecoverable) : ofJson c.toJson = .ok c := by
  have hdetails : Details.ofEntries c.toJson.members = .ok c.details := ofEntries_details_toJson h
  have hformat : wordField CredentialFormat c.toJson.members "format" = .ok c.format := by
    refine wordField_eq_ok_iff.2 ⟨Word.text c.format, ?_, Word.Lawful.decode?_text _⟩
    cases c <;> simp [toJson, Json.members, Entries.get?, optionalText, List.lookup_append,
      List.lookup_cons]
  change ofEntries c.toJson.members = .ok c
  refine ofEntries_eq_ok_iff.2 ⟨hformat, hdetails, ?_⟩
  cases c with
  | indy d definitionId name version => rfl
  | jsonLd d => rfl
  | mdoc d docType =>
    have hdoc : textField? (mdoc d docType).toJson.members "doc_type" = docType := by
      cases docType <;> rfl
    change mdoc d docType = .mdoc d _
    rw [hdoc]

theorem ofJson_toJson_iff {c : Credential} : ofJson c.toJson = .ok c ↔ c.IsRecoverable :=
  ⟨isRecoverable_of_ofJson, ofJson_toJson⟩

theorem isRecoverable_of_read {α : Type} [Readable α] {a : α} {c : Credential}
    (h : Codec.read a = .ok c) : c.IsRecoverable := by
  obtain ⟨value, _, hvalue⟩ := bind_eq_ok_iff.1 h
  exact isRecoverable_of_ofJson (mapError_eq_ok_iff.1 hvalue)

theorem ofJson_write {c : Credential} (h : c.IsRecoverable) :
    (Record.ofJson (Codec.write c) : Except Record.Error Credential) = .ok c := by
  change ((ofJson c.toJson).mapError fun m => Error.refused m.told) = .ok c
  exact mapError_eq_ok_iff.2 (ofJson_toJson h)

/-- A value as it stands once it has been read as a credential and written again. -/
def normalize (j : Json) : Except Malformed Json := (ofJson j).map toJson

/-- A credential is recovered from its written form unless it holds a null that reads as absent, which
nothing that was read does: be it a value by itself, a part of a text or an item of a listing. So what
is accepted is normal once it has been written, by itself or inside other records. -/
theorem toJson_isNormal :
    (∀ c : Credential, ofJson c.toJson = .ok c ↔ c.IsRecoverable) ∧
      (∀ j c, ofJson j = .ok c → c.IsRecoverable) ∧
      (∀ {α : Type} [Readable α] [LawfulReadable α] (a : α) (c : Credential),
        Codec.read a = .ok c → c.IsRecoverable) ∧
      (∀ {α : Type} [Readable α] [LawfulReadable α] (a : α) (l : Listing Credential),
        Codec.read a = .ok l → ∀ c ∈ l.items, c.IsRecoverable) ∧
      (∀ j n, normalize j = .ok n → normalize n = .ok n) ∧
      ∀ c : Credential, Codec.write c = c.toJson := by
  refine ⟨fun _ => ofJson_toJson_iff, fun _ _ => isRecoverable_of_ofJson,
    fun _ _ => isRecoverable_of_read, fun a l h c hc => ?_, fun j n h => ?_, fun _ => rfl⟩
  · obtain ⟨b, hb⟩ := Listing.exists_read_of_mem h c hc
    exact isRecoverable_of_read hb
  · obtain ⟨c, hc, rfl⟩ := map_eq_ok_iff.1 h
    have hagain : ofJson c.toJson = .ok c := ofJson_toJson (isRecoverable_of_ofJson hc)
    rw [normalize, hagain]
    rfl

/-- An Indy credential without any field of its format, whose words are in capitals and whose connection
is an array, in which one end says null where there is no document and the other says nothing. -/
def loose : Json :=
  .object [("connection", .array [.string "k1", .string "CONNECTED", .string "Invitee",
      .object [("did_doc", .null)], .array []]),
    ("cred_json", .array [.null]), ("extra", .null), ("format", .string "INDY"), ("id", .string "c1"),
    ("issuer_did", .string "did:i"), ("properties", .object []), ("role", .string "Holder"),
    ("state", .string "Issued")]

theorem toJson_isNormal_loose :
    ∃ n, normalize loose = .ok n ∧ n ≠ loose ∧ normalize n = .ok n := by
  obtain ⟨n, hn, hne⟩ : ∃ n, normalize loose = .ok n ∧ n ≠ loose :=
    ⟨toJson (.indy ⟨"c1", .holder, .issued, "did:i", .array [.null],
      ⟨"k1", .connected, .invitee, .unknown, .unknown⟩, []⟩ "" "" ""),
      toOption_eq_some_iff.1 (by decide +kernel), by decide +kernel⟩
  exact ⟨n, hn, hne, toJson_isNormal.2.2.2.2.1 loose n hn⟩

end Credential

end CredentialWallet
