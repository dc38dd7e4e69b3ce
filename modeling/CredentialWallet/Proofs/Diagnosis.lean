import CredentialWallet.Proofs.Canonical
/-!
# What is wrong with a credential

A credential is refused for the first of its checks that fails, in a fixed order: the format, and then
the shared fields. A field fails for want of a value or for the value that is there; which it is and
what is said of it is up to its own check. Where no check fails there is a credential, and it holds what
the entries say and nothing besides: neither the format nor an entry of another name has a say in the
shared fields.
-/

namespace CredentialWallet.Credential

open Record

/-! ### Checks -/

/-- What is asked of one field. -/
structure Check where
  name : String
  /-- What is said of a value that is there and will not do. -/
  objection? : Json → Option Malformed

namespace Check

/-- What is wrong with some entries. A null counts as absent. -/
def fault? (check : Check) (entries : Entries) : Option Malformed :=
  match entries.get? check.name with
  | none | some .null => some (.missingField check.name)
  | some value => check.objection? value

def anything (name : String) : Check := ⟨name, fun _ => none⟩

def text (name : String) : Check where
  name
  objection?
    | .string _ => none
    | value => some (.invalidField name value.compact)

def word (τ : Type) [Word τ] (name : String) : Check where
  name
  objection?
    | .string raw => if (Word.decode? raw : Option τ).isSome then none else some (.invalidField name raw)
    | value => some (.invalidField name value.compact)

def members (name : String) : Check where
  name
  objection?
    | .object _ => none
    | value => some (.invalidField name value.compact)

def connection (name : String) : Check where
  name
  objection? value :=
    match (Record.ofJson value : Except Record.Error Connection) with
    | .ok _ => none
    | .error e => some (.unreadable e)

end Check

def formatCheck : Check := .word CredentialFormat "format"

/-- The checks that all formats share. -/
def sharedChecks : List Check :=
  [.text "id", .word CredentialRole "role", .word CredentialState "state", .text "issuer_did",
    .anything "cred_json", .connection "connection", .members "properties"]

def checks : List Check := formatCheck :: sharedChecks

def sharedNames : List String := sharedChecks.map Check.name

/-! ### Failing -/

/-- Whether something fails just where there is a fault, and for that fault. -/
def FailsBy {α : Type} (x : Except Malformed α) (fault : Option Malformed) : Prop :=
  ∀ m, x = .error m ↔ fault = some m

namespace FailsBy

variable {α β : Type} {fault : Option Malformed}

theorem error (m : Malformed) : FailsBy (.error m : Except Malformed α) (some m) := fun _ => by simp

theorem ok (a : α) : FailsBy (.ok a) none := fun _ => ⟨nofun, nofun⟩

theorem eq_some {m : Malformed} (h : FailsBy (.error m : Except Malformed α) fault) :
    fault = some m := (h m).1 rfl

theorem eq_none {a : α} (h : FailsBy (.ok a) fault) : fault = none :=
  Option.eq_none_iff_forall_ne_some.2 fun m hm => nomatch (h m).2 hm

variable {x : Except Malformed α} {f : α → Except Malformed β}

theorem exists_ok (h : FailsBy x none) : ∃ a, x = .ok a := by
  cases x with
  | error m => cases h.eq_some
  | ok a => exact ⟨a, rfl⟩

theorem map (h : FailsBy x fault) (g : α → β) : FailsBy (x.map g) fault := by
  cases x with
  | error m =>
    rw [h.eq_some]
    exact .error m
  | ok a =>
    rw [h.eq_none]
    exact .ok (g a)

/-- A step that fails by one check, and what comes behind it by others, fail by the first of them. -/
theorem bind {check : Check} {others : List Check} {entries : Entries}
    (hx : FailsBy x (check.fault? entries))
    (hf : ∀ a, FailsBy (f a) (others.findSome? (·.fault? entries))) :
    FailsBy (x >>= f) ((check :: others).findSome? (·.fault? entries)) := by
  rw [List.findSome?_cons]
  cases x with
  | error m =>
    rw [hx.eq_some]
    exact .error m
  | ok a =>
    rw [hx.eq_none]
    exact hf a

theorem last {check : Check} {entries : Entries} (hx : FailsBy x (check.fault? entries)) :
    FailsBy x ([check].findSome? (·.fault? entries)) := by
  rwa [List.findSome?_singleton]

end FailsBy

/-! ### Fields -/

section

variable (entries : Entries) (name : String)

theorem field_bind_failsBy {α : Type} {objection? : Json → Option Malformed}
    {f : Json → Except Malformed α} (hf : ∀ value, FailsBy (f value) (objection? value)) :
    FailsBy (field entries name >>= f) (Check.fault? ⟨name, objection?⟩ entries) := by
  rw [field, Check.fault?]
  rcases entries.get? name with _ | value
  · exact .error _
  · cases value with
    | null => exact .error _
    | _ => exact hf _

theorem field_failsBy : FailsBy (field entries name) ((Check.anything name).fault? entries) := by
  have h := field_bind_failsBy entries name fun value => FailsBy.ok value
  rwa [show (field entries name >>= fun value => .ok value) = field entries name from
    bind_pure _] at h

theorem textField_failsBy : FailsBy (textField entries name) ((Check.text name).fault? entries) := by
  refine field_bind_failsBy entries name fun value => ?_
  cases value with
  | string s => exact .ok s
  | _ => exact .error _

theorem wordField_failsBy (τ : Type) [Word τ] :
    FailsBy (wordField τ entries name) ((Check.word τ name).fault? entries) := by
  rw [wordField, textField, bind_assoc]
  refine field_bind_failsBy entries name fun value => ?_
  cases value with
  | string raw =>
    dsimp only [bind, Except.bind]
    rcases (Word.decode? raw : Option τ) with _ | word
    · exact .error _
    · exact .ok word
  | _ => exact .error _

theorem connectionField_failsBy :
    FailsBy (field entries name >>= fun value =>
        (Record.ofJson value : Except Record.Error Connection).mapError .unreadable)
      ((Check.connection name).fault? entries) := by
  refine field_bind_failsBy entries name fun value => ?_
  rcases (Record.ofJson value : Except Record.Error Connection) with e | connection
  · exact .error _
  · exact .ok connection

end

/-! ### The whole credential -/

theorem ofEntries_details_failsBy (entries : Entries) :
    FailsBy (Details.ofEntries entries) (sharedChecks.findSome? (·.fault? entries)) := by
  rw [Details.ofEntries, sharedChecks]
  refine .bind (textField_failsBy _ _) fun id => ?_
  refine .bind (wordField_failsBy _ _ _) fun role => ?_
  refine .bind (wordField_failsBy _ _ _) fun state => ?_
  refine .bind (textField_failsBy _ _) fun issuerDid => ?_
  refine .bind (field_failsBy _ _) fun claims => ?_
  rw [← bind_assoc]
  refine .bind (connectionField_failsBy _ _) fun connection => .last ?_
  refine field_bind_failsBy _ _ fun value => ?_
  cases value with
  | object properties => exact .ok _
  | _ => exact .error _

theorem ofEntries_failsBy (entries : Entries) :
    FailsBy (ofEntries entries) (checks.findSome? (·.fault? entries)) := by
  rw [ofEntries_eq, checks]
  exact .bind (wordField_failsBy _ _ _) fun format => (ofEntries_details_failsBy entries).map _

/-! ### What is read -/

/-- A credential has its format and its shared fields from some entries. -/
structure Reflects (c : Credential) (entries : Entries) : Prop where
  format : ∃ raw, entries.get? "format" = some (.string raw) ∧ Word.decode? raw = some c.format
  id : entries.get? "id" = some (.string c.details.id)
  role : ∃ raw, entries.get? "role" = some (.string raw) ∧ Word.decode? raw = some c.details.role
  state : ∃ raw, entries.get? "state" = some (.string raw) ∧ Word.decode? raw = some c.details.state
  issuerDid : entries.get? "issuer_did" = some (.string c.details.issuerDid)
  claims : entries.get? "cred_json" = some c.details.claims
  connection : ∃ value, entries.get? "connection" = some value ∧
    Record.ofJson value = .ok c.details.connection
  properties : entries.get? "properties" = some (.object c.details.properties)

theorem reflects_of_ofEntries {entries : Entries} {c : Credential} (h : ofEntries entries = .ok c) :
    c.Reflects entries := by
  obtain ⟨hformat, hdetails, -⟩ := ofEntries_eq_ok_iff.1 h
  obtain ⟨hid, hrole, hstate, hissuer, hclaims, ⟨value, hvalue, hconnection⟩, hproperties⟩ :=
    ofEntries_details_eq_ok_iff.1 hdetails
  exact {
    format := wordField_eq_ok_iff.1 hformat
    id := textField_eq_ok_iff.1 hid
    role := wordField_eq_ok_iff.1 hrole
    state := wordField_eq_ok_iff.1 hstate
    issuerDid := textField_eq_ok_iff.1 hissuer
    claims := (field_eq_ok_iff.1 hclaims).1
    connection := ⟨value, (field_eq_ok_iff.1 hvalue).1, hconnection⟩
    properties := (field_eq_ok_iff.1 hproperties).1 }

/-! ### What has a say -/

/-- The fields of a format beside the shared ones. -/
def ownNames : CredentialFormat → List String
  | .indy => ["cred_def_id", "schema_name", "schema_version"]
  | .jsonLd => []
  | .mdoc => ["doc_type"]

/-- The format that some entries name. -/
def formatIn? (entries : Entries) : Option CredentialFormat :=
  ((entries.get? "format").bind Json.asString?).bind Word.decode?

/-- The fields of a credential with some entries. -/
def namesIn (entries : Entries) : List String :=
  "format" :: sharedNames ++ (formatIn? entries).elim [] ownNames

theorem formatIn?_of_wordField {entries : Entries} {format : CredentialFormat}
    (h : wordField CredentialFormat entries "format" = .ok format) :
    formatIn? entries = some format := by
  obtain ⟨raw, hraw, hword⟩ := wordField_eq_ok_iff.1 h
  rw [formatIn?, hraw]
  exact hword

section

variable {entries other : Entries}

theorem field_congr {name : String} (h : entries.get? name = other.get? name) :
    field entries name = field other name := by
  rw [field, field, h]

theorem ofEntries_details_congr (h : ∀ name ∈ sharedNames, entries.get? name = other.get? name) :
    Details.ofEntries entries = Details.ofEntries other := by
  have hid := field_congr (h "id" (by decide))
  have hrole := field_congr (h "role" (by decide))
  have hstate := field_congr (h "state" (by decide))
  have hissuer := field_congr (h "issuer_did" (by decide))
  have hclaims := field_congr (h "cred_json" (by decide))
  have hconnection := field_congr (h "connection" (by decide))
  have hproperties := field_congr (h "properties" (by decide))
  simp only [Details.ofEntries, textField, wordField, hid, hrole, hstate, hissuer, hclaims,
    hconnection, hproperties]

theorem ofDetails_congr {format : CredentialFormat}
    (h : ∀ name ∈ ownNames format, entries.get? name = other.get? name) (d : Details) :
    ofDetails entries d format = ofDetails other d format := by
  cases format with
  | indy =>
    have hdefinition := h "cred_def_id" (by decide)
    have hschema := h "schema_name" (by decide)
    have hversion := h "schema_version" (by decide)
    simp only [ofDetails, textField?, hdefinition, hschema, hversion]
  | jsonLd => rfl
  | mdoc =>
    have hdoc := h "doc_type" (by decide)
    simp only [ofDetails, textField?, hdoc]

/-- An entry that is no field of the credential has no say in it. -/
theorem ofEntries_congr (h : ∀ name ∈ namesIn entries, entries.get? name = other.get? name) :
    ofEntries entries = ofEntries other := by
  rw [namesIn, List.forall_mem_append, List.forall_mem_cons] at h
  obtain ⟨⟨hformat, hshared⟩, hown⟩ := h
  have hsame : wordField CredentialFormat entries "format" =
      wordField CredentialFormat other "format" := by
    rw [wordField, wordField, textField, textField, field_congr hformat]
  rw [ofEntries_eq, ofEntries_eq, ofEntries_details_congr hshared, ← hsame]
  rcases hword : wordField CredentialFormat entries "format" with e | format
  · rfl
  · rw [formatIn?_of_wordField hword] at hown
    exact congrArg (Except.map · (Details.ofEntries other)) (funext fun d => ofDetails_congr hown d)

theorem ofEntries_map_details (h : formatCheck.fault? entries = none) :
    (ofEntries entries).map details = Details.ofEntries entries := by
  have hfails := wordField_failsBy entries "format" CredentialFormat
  rw [show (Check.word CredentialFormat "format").fault? entries = none from h] at hfails
  obtain ⟨format, hformat⟩ := hfails.exists_ok
  rw [ofEntries_eq, hformat]
  change ((Details.ofEntries entries).map fun d => ofDetails entries d format).map details = _
  rcases Details.ofEntries entries with e | d
  · rfl
  · exact congrArg Except.ok (details_ofDetails entries d format)

end

/-- What is no object is no credential. An object is refused for the first check that fails and for
nothing else, so that there is a credential where none fails. It has its format and its shared fields
from the entries; the shared fields are the same in each format, and entries of other names have no say
in anything. -/
theorem ofJson_reports_first :
    (∀ j : Json, (∀ entries, j ≠ .object entries) →
      ofJson j = .error (.invalidField "credential" j.compact)) ∧
    ∀ entries : Entries,
      (∀ m, ofJson (.object entries) = .error m ↔
        ∃ before check after, checks = before ++ check :: after ∧ check.fault? entries = some m ∧
          ∀ passed ∈ before, passed.fault? entries = none) ∧
      ((∀ check ∈ checks, check.fault? entries = none) → ∃ c, ofJson (.object entries) = .ok c) ∧
      (∀ c, ofJson (.object entries) = .ok c → c.Reflects entries) ∧
      ∀ other : Entries,
        (formatCheck.fault? entries = none → formatCheck.fault? other = none →
          (∀ name ∈ sharedNames, entries.get? name = other.get? name) →
            (ofJson (.object entries)).map details = (ofJson (.object other)).map details) ∧
        ((∀ name ∈ namesIn entries, entries.get? name = other.get? name) →
          ofJson (.object entries) = ofJson (.object other)) := by
  refine ⟨fun j hj => ?_, fun entries => ⟨fun m => ?_, fun hpassed => ?_, fun c => ?_,
    fun other => ⟨fun hformat hother hshared => ?_, ?_⟩⟩⟩
  · cases j with
    | object entries => exact absurd rfl (hj entries)
    | _ => rfl
  · rw [← List.findSome?_eq_some_iff]
    exact ofEntries_failsBy entries m
  · have hfails := ofEntries_failsBy entries
    rw [List.findSome?_eq_none_iff.2 hpassed] at hfails
    exact hfails.exists_ok
  · exact reflects_of_ofEntries
  · change (ofEntries entries).map details = (ofEntries other).map details
    rw [ofEntries_map_details hformat, ofEntries_map_details hother, ofEntries_details_congr hshared]
  · exact ofEntries_congr

/-- Entries with a role that is no word, a state that is no text, null claims and no connection. -/
def doubtful : Entries :=
  [("cred_json", .null), ("format", .string "JSONLD"), ("id", .string "c1"), ("properties", .array []),
    ("role", .string "owner"), ("state", .number (.int 5))]

/-- The role is the first thing wrong, also where there is a document type. -/
theorem ofJson_reports_first_role :
    ofJson (.object doubtful) = .error (.invalidField "role" "owner") ∧
      ofJson (.object (("doc_type", .null) :: doubtful)) = .error (.invalidField "role" "owner") := by
  obtain ⟨hfails, -, -, hothers⟩ := ofJson_reports_first.2 doubtful
  have hrole : ofJson (.object doubtful) = .error (.invalidField "role" "owner") :=
    (hfails _).2 ⟨[formatCheck, .text "id"], .word CredentialRole "role", _, rfl, by decide +kernel,
      by decide +kernel⟩
  refine ⟨hrole, ?_⟩
  rw [← (hothers (("doc_type", .null) :: doubtful)).2 (by decide +kernel), hrole]

end CredentialWallet.Credential
