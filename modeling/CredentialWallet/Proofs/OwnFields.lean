import CredentialWallet.Proofs.Diagnosis
/-!
# The fields of one format

The shared fields of a credential are checked, those of its own format are not. Such a field is kept
where it is a text. Whatever else stands there is passed over as if nothing did: an Indy credential is
written with the empty text in its place, and a mobile document without the field.
-/

namespace CredentialWallet.Credential

/-- What is written for a field of a format that holds no text. -/
def substitute? : CredentialFormat → Option Json
  | .indy => some (.string "")
  | .jsonLd | .mdoc => none

theorem get?_toJson_ofDetails {entries : Entries} {d : Details} {format : CredentialFormat}
    {name : String} (hname : name ∈ ownNames format) :
    (ofDetails entries d format).toJson.get? name =
      ((textField? entries name).map Json.string).or (substitute? format) := by
  cases format with
  | indy =>
    have hwritten : (ofDetails entries d .indy).toJson.get? name =
        some (.string ((textField? entries name).getD "")) := by
      simp only [ownNames, List.mem_cons, List.not_mem_nil, or_false] at hname
      rcases hname with rfl | rfl | rfl <;> rfl
    rw [hwritten]
    cases textField? entries name <;> rfl
  | jsonLd => cases hname
  | mdoc =>
    obtain rfl := List.mem_singleton.1 hname
    have hwritten : (ofDetails entries d .mdoc).toJson.get? "doc_type" =
        (mdoc d (textField? entries "doc_type")).toJson.get? "doc_type" := rfl
    rw [hwritten]
    cases textField? entries "doc_type" <;> rfl

/-- A field of the format of a credential is kept if it is a text, and otherwise what is written for it
depends on the format alone. -/
theorem get?_toJson_of_ofJson {j : Json} {c : Credential} (h : ofJson j = .ok c) {name : String}
    (hname : name ∈ ownNames c.format) :
    c.toJson.get? name =
      (((j.get? name).bind Json.asString?).map Json.string).or (substitute? c.format) := by
  cases j with
  | object entries =>
    obtain ⟨-, -, hc⟩ := ofEntries_eq_ok_iff.1 h
    rw [hc, get?_toJson_ofDetails hname, format_ofDetails]
    rfl
  | _ => cases h

/-- A field of the format of a credential, which is there and is no null, is written as it was read if
and only if it is a text. In the place of any other value an Indy credential is written with the empty
text, and a mobile document drops the field. -/
theorem ownField_kept_iff {j : Json} {c : Credential} (h : ofJson j = .ok c) {name : String}
    (hname : name ∈ ownNames c.format) {value : Json} (hvalue : j.get? name = some value) :
    (c.toJson.get? name = some value ↔ ∃ s, value = .string s) ∧
      ((∀ s, value ≠ .string s) → c.toJson.get? name = substitute? c.format) := by
  rw [get?_toJson_of_ofJson h hname, hvalue]
  cases value with
  | string s => exact ⟨⟨fun _ => ⟨s, rfl⟩, fun _ => rfl⟩, fun hno => absurd rfl (hno s)⟩
  | _ =>
    refine ⟨⟨fun hkept => ?_, nofun⟩, fun _ => rfl⟩
    rcases hformat : c.format <;> rw [hformat] at hkept <;> cases hkept

/-- A credential of a format, with an entry beside the shared fields. -/
def specimen (format : String) (own : String × Json) : Json :=
  .object [("connection", .object [("id", .string "k1"), ("local", .object []), ("remote", .object []),
      ("role", .string "invitee"), ("state", .string "connected")]),
    ("cred_json", .object []), ("format", .string format), ("id", .string "c1"),
    ("issuer_did", .string "did:i"), ("properties", .object []), ("role", .string "holder"),
    ("state", .string "stored"), own]

/-- The shared fields of a specimen. -/
def specimenDetails : Details :=
  ⟨"c1", .holder, .stored, "did:i", .object [], ⟨"k1", .connected, .invitee, .unknown, .unknown⟩, []⟩

/-- A document type is kept, being a text. -/
theorem ownField_kept_iff_text :
    ofJson (specimen "mso_mdoc" ("doc_type", .string "mDL")) =
        .ok (mdoc specimenDetails (some "mDL")) ∧
      (mdoc specimenDetails (some "mDL")).toJson.get? "doc_type" = some (.string "mDL") := by
  have hread : ofJson (specimen "mso_mdoc" ("doc_type", .string "mDL")) =
      .ok (mdoc specimenDetails (some "mDL")) := toOption_eq_some_iff.1 (by decide +kernel)
  have hname : "doc_type" ∈ ownNames (mdoc specimenDetails (some "mDL")).format := by decide
  exact ⟨hread, (ownField_kept_iff hread hname rfl).1.2 ⟨"mDL", rfl⟩⟩

/-- A number for the version of a schema passes, and so does a truth value for a document type: the one
is written as the empty text, the other not at all. -/
theorem ownField_lost :
    (ofJson (specimen "indy" ("schema_version", .number (.int 2))) =
        .ok (indy specimenDetails "" "" "") ∧
      (indy specimenDetails "" "" "").toJson.get? "schema_version" = some (.string "")) ∧
    (ofJson (specimen "mso_mdoc" ("doc_type", .bool true)) = .ok (mdoc specimenDetails none) ∧
      (mdoc specimenDetails none).toJson.get? "doc_type" = none) :=
  ⟨⟨toOption_eq_some_iff.1 (by decide +kernel), rfl⟩,
    ⟨toOption_eq_some_iff.1 (by decide +kernel), rfl⟩⟩

end CredentialWallet.Credential
