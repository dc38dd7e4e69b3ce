import Mathlib.Data.List.Infix
import Mathlib.Data.List.Nodup
import CredentialWallet.Proofs.Diagnosis
import CredentialWallet.Verification
/-!
# Which texts are words

The words of a set are small letters and low lines, and none of them stands in another. So a text is
read as a word just where it is that word once its ASCII capitals are made small: no other character has
a case, nothing may stand around a word, and the order of the set does not matter. Whoever reads words
goes by that one rule, be it a word by itself, a value in a record or a field of a credential.
-/

namespace CredentialWallet

namespace Text

/-- A character, made small if it is an ASCII capital. -/
def lowered (c : Char) : Char :=
  if 65 ≤ c.toNat ∧ c.toNat ≤ 90 then Char.ofNat (c.toNat + 32) else c

theorem toLower_eq_lowered (c : Char) : c.toLower = lowered c := by
  by_cases hascii : c.toNat < 128
  · have hall : ∀ n < 128, (Char.ofNat n).toLower = lowered (Char.ofNat n) := by decide +kernel
    have hc := hall c.toNat hascii
    rwa [Char.ofNat_toNat] at hc
  · have hlarge : ¬ c.val ≤ 'Z'.val := by
      intro hle
      have hsmall : c.toNat ≤ 90 := hle
      omega
    rw [lowered, if_neg (by omega)]
    exact dif_neg fun hcapital => hlarge hcapital.2

theorem toList_lowerAscii (s : String) : (lowerAscii s).toList = s.toList.map lowered := by
  rw [lowerAscii, String.toList_ofList]
  exact List.map_congr_left fun c _ => toLower_eq_lowered c

end Text

namespace Word

open Text (lowered lowerAscii)

/-- Whether a character is a small letter or a low line. -/
def isSmall (c : Char) : Bool := 97 ≤ c.toNat && c.toNat ≤ 122 || c = '_'

theorem isSmall_iff {c : Char} : isSmall c = true ↔ 97 ≤ c.toNat ∧ c.toNat ≤ 122 ∨ c = '_' := by
  simp [isSmall]

/-- A set whose words are small letters and low lines, of which none stands in another. -/
class Plain (α : Type) [Word α] : Prop where
  small : ∀ value ∈ all (α := α), (text value).toList.all isSmall = true
  apart : ∀ value ∈ all (α := α), ∀ other ∈ all (α := α),
    (text value).toList <:+: (text other).toList → value = other

section

variable {α : Type} [Word α] [Lawful α]

theorem mem_all (value : α) : value ∈ all := List.mem_of_find?_eq_some (Lawful.decode?_text value)

theorem text_injective : Function.Injective (text : α → String) :=
  injective_of_read Lawful.decode?_text

variable [Plain α]

theorem small_of_mem_text {value : α} {c : Char} (hc : c ∈ (text value).toList) :
    97 ≤ c.toNat ∧ c.toNat ≤ 122 ∨ c = '_' :=
  isSmall_iff.1 (List.all_eq_true.1 (Plain.small value (mem_all value)) c hc)

theorem lowerAscii_text (value : α) : lowerAscii (text value) = text value := by
  apply String.toList_inj.1
  rw [Text.toList_lowerAscii]
  refine (List.map_congr_left fun c hc => ?_).trans (List.map_id _)
  rw [lowered, if_neg]
  · rfl
  · intro ⟨_, hhigh⟩
    obtain hletter | rfl := small_of_mem_text hc
    · omega
    · exact absurd hhigh (by decide)

theorem sameIgnoringCase_text_iff {raw : String} {value : α} :
    Text.sameIgnoringCase (text value) raw = true ↔
      raw.toList.map lowered = (text value).toList := by
  rw [Text.sameIgnoringCase_iff, lowerAscii_text, ← Text.toList_lowerAscii, String.toList_inj,
    eq_comm]

/-- The words of a set may be gone through in any order. -/
theorem find?_eq_some_iff {table : List α} (htable : ∀ value, value ∈ table) {raw : String} {value : α} :
    (table.find? fun v => Text.sameIgnoringCase (text v) raw) = some value ↔
      raw.toList.map lowered = (text value).toList := by
  have hsound {v : α} (h : (table.find? fun v => Text.sameIgnoringCase (text v) raw) = some v) :
      raw.toList.map lowered = (text v).toList := by
    have hsame := List.find?_some h
    exact sameIgnoringCase_text_iff.1 hsame
  refine ⟨hsound, fun h => ?_⟩
  cases hfound : table.find? fun v => Text.sameIgnoringCase (text v) raw with
  | none =>
    have hno := List.find?_eq_none.1 hfound value (htable value)
    exact absurd (sameIgnoringCase_text_iff.2 h) hno
  | some other =>
    have hsame := (hsound hfound).symm.trans h
    rw [text_injective (String.toList_inj.1 hsame)]

theorem decode?_eq_some_iff {raw : String} {value : α} :
    decode? raw = some value ↔ raw.toList.map lowered = (text value).toList :=
  find?_eq_some_iff mem_all

theorem text_of_decode? {raw : String} {value : α} (h : decode? raw = some value) :
    text value = String.ofList (raw.toList.map lowered) := by
  rw [decode?_eq_some_iff.1 h, String.ofList_toList]

theorem decode?_eq_find? {table : List α} (htable : ∀ value, value ∈ table) (raw : String) :
    decode? raw = table.find? fun v => Text.sameIgnoringCase (text v) raw := by
  apply Option.ext
  intro value
  rw [decode?_eq_some_iff, find?_eq_some_iff htable]

/-- Nothing but ASCII letters and low lines stands in a text that is read as a word. -/
theorem letters_of_decode? {raw : String} {value : α} (h : decode? raw = some value) :
    ∀ c ∈ raw.toList, 65 ≤ c.toNat ∧ c.toNat ≤ 90 ∨ 97 ≤ c.toNat ∧ c.toNat ≤ 122 ∨ c = '_' := by
  intro c hc
  have hmem : lowered c ∈ (text value).toList := by
    rw [← decode?_eq_some_iff.1 h]
    exact List.mem_map_of_mem hc
  by_cases hcapital : 65 ≤ c.toNat ∧ c.toNat ≤ 90
  · exact .inl hcapital
  · rw [lowered, if_neg hcapital] at hmem
    exact .inr (small_of_mem_text hmem)

theorem eq_empty_of_decode? {before raw behind : String} {value other : α}
    (h : decode? raw = some value) (haround : decode? (before ++ raw ++ behind) = some other) :
    before = "" ∧ behind = "" := by
  rw [decode?_eq_some_iff] at h haround
  simp only [String.toList_append, List.map_append, h] at haround
  have hinfix : (text value).toList <:+: (text other).toList := ⟨_, _, haround⟩
  obtain rfl := Plain.apart value (mem_all value) other (mem_all other) hinfix
  have hlength := congrArg List.length haround
  simp only [List.length_append, List.length_map] at hlength
  constructor
  · exact String.toList_eq_nil_iff.1 (List.length_eq_zero_iff.1 (by omega))
  · exact String.toList_eq_nil_iff.1 (List.length_eq_zero_iff.1 (by omega))

end

/-! ### Readers of words -/

theorem parse_eq_ok_iff {α : Type} [Word α] {raw : String} {value : α} :
    parse raw = .ok value ↔ decode? raw = some value := by
  rw [parse]
  split <;> simp_all

end Word

theorem Record.readWord_eq_ok_iff {α τ : Type} [Readable α] [Word τ] {a : α} {value : τ} :
    readWord τ a = .ok value ↔
      ∃ raw, Readable.view a = .string raw ∧ Word.decode? raw = some value := by
  rw [readWord, readText]
  cases hview : Readable.view a with
  | string raw =>
    dsimp only
    split <;> simp_all
  | _ => simp

/-! ### Words in credentials -/

namespace Credential

theorem Check.eq_of_name_eq {check other : Check} (h : check ∈ checks) (hother : other ∈ checks)
    (hname : check.name = other.name) : check = other :=
  List.inj_on_of_nodup_map (f := Check.name) (by decide) h hother hname

variable {τ : Type} [Word τ] {name : String} {value : Credential → τ}

/-- A field of a credential holds a word: that is asked of it, it says which value the credential has,
and the word of that value is written. -/
structure HoldsWord (name : String) (value : Credential → τ) : Prop where
  asked : .word τ name ∈ checks
  told : ∀ (entries : Entries) (c : Credential), c.Reflects entries →
    ∃ raw, entries.get? name = some (.string raw) ∧ Word.decode? raw = some (value c)
  written : ∀ c : Credential, c.toJson.get? name = some (.string (Word.text (value c)))

theorem holdsWord_format : HoldsWord "format" format where
  asked := List.mem_cons_self
  told _ _ h := h.format
  written
    | indy .. => rfl
    | jsonLd _ => rfl
    | mdoc _ none => rfl
    | mdoc _ (some _) => rfl

theorem holdsWord_role : HoldsWord "role" fun c => c.details.role where
  asked := by simp [checks, sharedChecks]
  told _ _ h := h.role
  written
    | indy .. => rfl
    | jsonLd _ => rfl
    | mdoc _ none => rfl
    | mdoc _ (some _) => rfl

theorem holdsWord_state : HoldsWord "state" state where
  asked := by simp [checks, sharedChecks]
  told _ _ h := h.state
  written
    | indy .. => rfl
    | jsonLd _ => rfl
    | mdoc _ none => rfl
    | mdoc _ (some _) => rfl

theorem Check.word_fault? {entries : Entries} {raw : String}
    (h : entries.get? name = some (.string raw)) :
    (Check.word τ name).fault? entries =
      if (Word.decode? raw : Option τ).isSome then none else some (.invalidField name raw) := by
  rw [fault?, word, h]

/-- Where one text is put in the place of another, a credential is read as before, up to that word. -/
def ReadsWord (name : String) (value : Credential → τ) : Prop :=
  ∀ (entries other : Entries) (c : Credential) (raw : String), ofJson (.object entries) = .ok c →
    (∀ n ≠ name, other.get? n = entries.get? n) → other.get? name = some (.string raw) →
      (∀ word, Word.decode? raw = some word ↔
        ∃ read, ofJson (.object other) = .ok read ∧ value read = word) ∧
      (Word.decode? raw = (none : Option τ) →
        ofJson (.object other) = .error (.invalidField name raw)) ∧
      ∀ read, ofJson (.object other) = .ok read →
        read.toJson.get? name = some (.string (String.ofList (raw.toList.map Text.lowered)))

theorem HoldsWord.readsWord [Word.Lawful τ] [Word.Plain τ] (h : HoldsWord name value) :
    ReadsWord name value := by
  intro entries other c raw hc hothers hraw
  have hbefore := ofEntries_failsBy entries
  rw [show ofEntries entries = .ok c from hc] at hbefore
  have hpassed : ∀ check ∈ checks, check ≠ .word τ name → check.fault? other = none := by
    intro check hcheck hne
    have hname : check.name ≠ name := fun hname => hne (Check.eq_of_name_eq hcheck h.asked hname)
    have hnone := List.findSome?_eq_none_iff.1 hbefore.eq_none check hcheck
    rw [Check.fault?] at hnone ⊢
    rwa [hothers _ hname]
  have htold {read : Credential} (hread : ofJson (.object other) = .ok read) :
      Word.decode? raw = some (value read) := by
    obtain ⟨raw', hraw', hword⟩ := h.told other read (reflects_of_ofEntries hread)
    rw [hraw] at hraw'
    cases hraw'
    exact hword
  refine ⟨fun word => ⟨fun hword => ?_, ?_⟩, fun hnone => ?_, fun read hread => ?_⟩
  · have hall : ∀ check ∈ checks, check.fault? other = none := by
      intro check hcheck
      by_cases hself : check = .word τ name
      · rw [hself, Check.word_fault? hraw, hword]
        rfl
      · exact hpassed check hcheck hself
    have hfails := ofEntries_failsBy other
    rw [List.findSome?_eq_none_iff.2 hall] at hfails
    obtain ⟨read, hread⟩ := hfails.exists_ok
    have hsame := (htold hread).symm.trans hword
    exact ⟨read, hread, Option.some.inj hsame⟩
  · rintro ⟨read, hread, rfl⟩
    exact htold hread
  · rcases hread : ofJson (.object other) with m | read
    · obtain ⟨check, hcheck, hfault⟩ := List.exists_of_findSome?_eq_some
        ((ofEntries_failsBy other m).1 hread)
      by_cases hself : check = .word τ name
      · rw [hself, Check.word_fault? hraw, hnone] at hfault
        rw [← Option.some.inj hfault]
      · rw [hpassed check hcheck hself] at hfault
        cases hfault
    · rw [htold hread] at hnone
      cases hnone
  · rw [h.written, Word.text_of_decode? (htold hread)]

end Credential

/-! ### All sets -/

namespace Word

open Record Text

/-- A set has one rule for which texts are its words, and every reader goes by it. -/
structure IsExact (α : Type) [Word α] : Prop where
  decode?_iff : ∀ (raw : String) (value : α),
    decode? raw = some value ↔ raw.toList.map lowered = (text value).toList
  unique : ∀ (raw : String) (value other : α), raw.toList.map lowered = (text value).toList →
    raw.toList.map lowered = (text other).toList → value = other
  inAnyOrder : ∀ table : List α, (∀ value, value ∈ table) → ∀ raw,
    decode? raw = table.find? fun value => sameIgnoringCase (text value) raw
  letters : ∀ (raw : String) (value : α), decode? raw = some value → ∀ c ∈ raw.toList,
    65 ≤ c.toNat ∧ c.toNat ≤ 90 ∨ 97 ≤ c.toNat ∧ c.toNat ≤ 122 ∨ c = '_'
  alone : ∀ (before raw behind : String) (value other : α), decode? raw = some value →
    decode? (before ++ raw ++ behind) = some other → before = "" ∧ behind = ""
  parsed : ∀ (raw : String) (value : α), parse raw = .ok value ↔ decode? raw = some value
  read : ∀ {β : Type} [Readable β] (b : β) (value : α),
    readWord α b = .ok value ↔ ∃ raw, Readable.view b = .string raw ∧ decode? raw = some value
  inField : ∀ (entries : Entries) (name : String) (value : α),
    Credential.wordField α entries name = .ok value ↔
      ∃ raw, entries.get? name = some (.string raw) ∧ decode? raw = some value
  written : ∀ (raw : String) (value : α), readWord α (Json.string raw) = .ok value →
    text value = String.ofList (raw.toList.map lowered)

theorem isExact (α : Type) [Word α] [Lawful α] [Plain α] : IsExact α where
  decode?_iff _ _ := decode?_eq_some_iff
  unique _ _ _ h hother := text_injective (String.toList_inj.1 (h.symm.trans hother))
  inAnyOrder _ htable raw := decode?_eq_find? htable raw
  letters _ _ h := letters_of_decode? h
  alone _ _ _ _ _ h haround := eq_empty_of_decode? h haround
  parsed _ _ := parse_eq_ok_iff
  read _ _ := readWord_eq_ok_iff
  inField _ _ _ := Credential.wordField_eq_ok_iff
  written _ _ h := by
    obtain ⟨_, ⟨⟩, hword⟩ := readWord_eq_ok_iff.1 h
    exact text_of_decode? hword

end Word

instance : Word.Plain ConnectionState := ⟨by decide +kernel, by decide +kernel⟩

instance : Word.Plain ConnectionRole := ⟨by decide +kernel, by decide +kernel⟩

instance : Word.Plain CredentialState := ⟨by decide +kernel, by decide +kernel⟩

instance : Word.Plain CredentialRole := ⟨by decide +kernel, by decide +kernel⟩

instance : Word.Plain CredentialFormat := ⟨by decide +kernel, by decide +kernel⟩

instance : Word.Plain VerificationState := ⟨by decide +kernel, by decide +kernel⟩

instance : Word.Plain VerificationRole := ⟨by decide +kernel, by decide +kernel⟩

/-- All states, roles and formats are read by one rule, by themselves, in records and in credentials: a
text is the word that it is in small letters, and it is written as that word. -/
theorem words_areExact :
    Word.IsExact ConnectionState ∧ Word.IsExact CredentialState ∧ Word.IsExact VerificationState ∧
      Word.IsExact ConnectionRole ∧ Word.IsExact CredentialRole ∧ Word.IsExact VerificationRole ∧
      Word.IsExact CredentialFormat ∧
      Credential.ReadsWord "format" Credential.format ∧
      Credential.ReadsWord "role" (fun c => c.details.role) ∧
      Credential.ReadsWord "state" Credential.state :=
  ⟨Word.isExact _, Word.isExact _, Word.isExact _, Word.isExact _, Word.isExact _, Word.isExact _,
    Word.isExact _, Credential.holdsWord_format.readsWord, Credential.holdsWord_role.readsWord,
    Credential.holdsWord_state.readsWord⟩

example : (["InViTeR", "\u0130nviter", "inviter "].map Word.decode?) =
    [some ConnectionRole.inviter, none, none] := by decide +kernel

end CredentialWallet
