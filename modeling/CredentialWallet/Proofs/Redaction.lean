import CredentialWallet.Description.Wallet
import CredentialWallet.Proofs.Atomicity
import CredentialWallet.Proofs.Document
import CredentialWallet.Proofs.Legibility
/-!
# Descriptions keep secrets

Two wallets that differ in nothing but their secrets are described alike. The converse says that nothing
else is kept back: whatever is described is legible, so equal texts come from equal descriptions, and a
description leaves out the secrets alone. Records are compared as they are described, because two numbers
may be written alike.
-/

namespace CredentialWallet

namespace Description

/-! ### Names -/

theorem isNameChar_of_isDigit {c : Char} (h : c.isDigit = true) : isNameChar c = true := by
  simp [isNameChar, Char.isAlphanum, h]

theorem isNameChar_of_isMagnitude {cs : List Char} (h : Json.IsMagnitude cs) :
    ∀ c ∈ cs, isNameChar c = true := by
  have hdigits {digits : List Char} (h : Json.IsDigits digits) : ∀ c ∈ digits, isNameChar c = true :=
    fun c hc => isNameChar_of_isDigit (h.digits c hc)
  obtain ⟨hwhole, hfraction, hpower⟩ := h
  intro c hc
  rw [List.mem_append, List.mem_append] at hc
  rcases hc with hc | hc | hc
  · exact hdigits hwhole.toIsDigits c hc
  · cases hfraction with
    | absent => cases hc
    | present h =>
      rcases List.mem_cons.1 hc with rfl | hc
      · rfl
      · exact hdigits h c hc
  · cases hpower with
    | absent => cases hc
    | @present mark sign digits hmark hsign h =>
      have hsigns : ∀ sign ∈ [[], ['+'], ['-']], sign.all isNameChar = true := by decide
      rcases List.mem_cons.1 hc with rfl | hc
      · rcases hmark with rfl | rfl <;> rfl
      · rcases List.mem_append.1 hc with hc | hc
        · exact List.all_eq_true.1 (hsigns sign hsign) c hc
        · exact hdigits h c hc

theorem isName_of_isNumeral {cs : List Char} (h : Json.IsNumeral cs) : IsName (String.ofList cs) := by
  have hne {cs : List Char} (h : Json.IsMagnitude cs) : cs ≠ [] := by
    obtain ⟨hwhole, -, -⟩ := h
    exact List.append_ne_nil_of_left_ne_nil hwhole.ne_nil _
  constructor
  · rw [String.toList_ofList]
    cases h with
    | plain h => exact hne h
    | negative h => exact List.cons_ne_nil _ _
  · rw [String.toList_ofList]
    intro c hc
    cases h with
    | plain h => exact isNameChar_of_isMagnitude h c hc
    | negative h =>
      rcases List.mem_cons.1 hc with rfl | hc
      · rfl
      · exact isNameChar_of_isMagnitude h c hc

end Description

/-- A set of words whose values have names. -/
class Word.Named (α : Type) [Word α] : Prop where
  isName_label (value : α) : Description.IsName (Word.label value)

instance : Word.Named ConnectionState := ⟨fun value => by cases value <;> decide⟩

instance : Word.Named ConnectionRole := ⟨fun value => by cases value <;> decide⟩

instance : Word.Named CredentialState := ⟨fun value => by cases value <;> decide⟩

instance : Word.Named CredentialRole := ⟨fun value => by cases value <;> decide⟩

instance : Word.Named VerificationState := ⟨fun value => by cases value <;> decide⟩

instance : Word.Named VerificationRole := ⟨fun value => by cases value <;> decide⟩

/-! ### What is described is legible -/

namespace Description

@[simp] theorem isLegible_word {α : Type} [Word α] [Word.Named α] (value : α) : (word value).IsLegible :=
  Word.Named.isName_label value

@[simp] theorem isLegible_option_map {α : Type} {describe : α → Description}
    (h : ∀ value, (describe value).IsLegible) (o : Option α) : (option (o.map describe)).IsLegible := by
  have hsome : IsName "Some" := by decide
  cases o with
  | none => exact (by decide : IsName "None")
  | some value => exact ⟨hsome, h value⟩

@[simp] theorem isLegible_optionalText (s : Option String) : (optionalText s).IsLegible :=
  isLegible_option_map isLegible_quoted s

@[simp] theorem isLegible_secret (s : Option String) : (secret s).IsLegible :=
  isLegible_option_map (fun _ => isLegible_quoted _) s

theorem itemsLegible_map {α : Type} {describe : α → Description}
    (h : ∀ value, (describe value).IsLegible) (values : List α) : ItemsLegible (values.map describe) := by
  induction values with
  | nil => exact trivial
  | cons value rest ih => exact ⟨h value, ih⟩

@[simp] theorem isLegible_list_map {α : Type} {describe : α → Description}
    (h : ∀ value, (describe value).IsLegible) (values : List α) :
    (list "" (values.map describe)).IsLegible :=
  ⟨.inl rfl, itemsLegible_map h values⟩

@[simp] theorem isLegible_number (n : Nat) : (plain n.repr).IsLegible := by
  show IsName n.repr
  rw [Nat.repr_eq_ofList_toDigits]
  exact isName_of_isNumeral (.plain (Json.isWhole_toDigits n).isMagnitude)

mutual

@[simp] theorem isLegible_ofJson : (value : Json) → (ofJson value).IsLegible
  | .null => (by decide : IsName "Null")
  | .bool true => ⟨by decide, (by decide : IsName "true")⟩
  | .bool false => ⟨by decide, (by decide : IsName "false")⟩
  | .number n => ⟨by decide, isName_of_isNumeral (Json.isNumeral_numberText n)⟩
  | .string _ => ⟨by decide, trivial⟩
  | .array items => ⟨.inr rfl, itemsLegible_ofItems items⟩
  | .object entries => ⟨.inr rfl, entriesLegible_ofEntries entries⟩

theorem itemsLegible_ofItems : (items : List Json) → ItemsLegible (ofItems items)
  | [] => trivial
  | item :: rest => ⟨isLegible_ofJson item, itemsLegible_ofItems rest⟩

theorem entriesLegible_ofEntries : (entries : List (String × Json)) → EntriesLegible (ofEntries entries)
  | [] => trivial
  | (_, value) :: rest => ⟨isLegible_ofJson value, entriesLegible_ofEntries rest⟩

end

@[simp] theorem isLegible_members (entries : Entries) : (members entries).IsLegible :=
  ⟨.inl rfl, entriesLegible_ofEntries entries⟩

end Description

section

open Description

-- the names in a record are decided, its values are legible by the lemmas above

@[simp] theorem Agent.isLegible_describe (a : Agent) : a.describe.IsLegible := by
  simp +decide [describe]

@[simp] theorem Party.isLegible_describe (p : Party) : p.describe.IsLegible := by
  simp +decide [describe]

@[simp] theorem Connection.isLegible_describe (c : Connection) : c.describe.IsLegible := by
  simp +decide [describe]

@[simp] theorem Invitation.isLegible_describe (i : Invitation) : i.describe.IsLegible := by
  simp +decide [describe]

@[simp] theorem Credential.Details.isLegible_describe (d : Credential.Details) : d.describe.IsLegible := by
  simp +decide [describe]

@[simp] theorem Credential.isLegible_describe (c : Credential) : c.describe.IsLegible := by
  cases c <;> simp +decide [describe]

@[simp] theorem Verification.isLegible_describe (v : Verification) : v.describe.IsLegible := by
  simp +decide [describe]

@[simp] theorem Token.isLegible_describe (t : Token) : t.describe.IsLegible := by
  simp +decide [describe, redacted]

@[simp] theorem Wallet.isLegible_describe (w : Wallet) : w.describe.IsLegible := by
  simp +decide [describe]

@[simp] theorem Login.isLegible_describe (l : Login) : l.describe.IsLegible := by
  simp +decide [describe]

end

/-! ### What descriptions leave out -/

namespace Description

@[simp] theorem option_inj {o o' : Option Description} : option o = option o' ↔ o = o' := by
  cases o <;> cases o' <;> simp [option]

@[simp] theorem optionalText_inj {s s' : Option String} : optionalText s = optionalText s' ↔ s = s' := by
  cases s <;> cases s' <;> simp [optionalText]

@[simp] theorem secret_eq_iff {s s' : Option String} :
    secret s = secret s' ↔ s.isSome = s'.isSome := by
  cases s <;> cases s' <;> simp [secret]

@[simp] theorem number_inj {n k : Nat} : plain n.repr = plain k.repr ↔ n = k := by
  constructor
  · intro h
    have htext : n.repr = k.repr := plain.inj h
    rw [Nat.repr_eq_ofList_toDigits, Nat.repr_eq_ofList_toDigits] at htext
    exact Url.Host.toDigits_inj (by decide) (by decide) (String.ofList_injective htext)
  · rintro rfl
    rfl

end Description

/-- Two tokens that differ in what is granted with them at most. -/
structure Token.SameButSecrets (t t' : Token) : Prop where
  refresh : t.refresh.isSome = t'.refresh.isSome
  type : t.type = t'.type
  expiresIn : t.expiresIn = t'.expiresIn
  scope : t.scope = t'.scope

/-- Two wallets whose sessions differ in the tokens and the client's secret at most. -/
structure Wallet.SameSessionButSecrets (w w' : Wallet) : Prop where
  refreshUri : w.refreshUri = w'.refreshUri
  baseUri : w.baseUri = w'.baseUri
  clientId : w.clientId = w'.clientId
  clientSecret : w.clientSecret.isSome = w'.clientSecret.isSome
  token : w.token.SameButSecrets w'.token

/-- Two wallets that differ in their secrets at most. -/
structure Wallet.SameButSecrets (w w' : Wallet) : Prop extends SameSessionButSecrets w w' where
  holdings : w.toHoldings = w'.toHoldings

/-- Records that are described alike, each in its place. -/
structure Holdings.LookAlike (h h' : Holdings) : Prop where
  agent : h.agent.describe = h'.agent.describe
  connections : h.connections.map Connection.describe = h'.connections.map Connection.describe
  invitations : h.invitations.map Invitation.describe = h'.invitations.map Invitation.describe
  credentials : h.credentials.map Credential.describe = h'.credentials.map Credential.describe
  verifications : h.verifications.map Verification.describe = h'.verifications.map Verification.describe

section

open Description

theorem Holdings.LookAlike.refl (h : Holdings) : h.LookAlike h := ⟨rfl, rfl, rfl, rfl, rfl⟩

theorem Token.describe_eq_iff {t t' : Token} : t.describe = t'.describe ↔ t.SameButSecrets t' := by
  have hexpires : t.expiresIn.map (fun n => plain s!"{n}") = t'.expiresIn.map (fun n => plain s!"{n}") ↔
      t.expiresIn = t'.expiresIn :=
    (Option.map_injective fun _ _ h => number_inj.1 h).eq_iff
  simp only [describe, record.injEq, List.cons.injEq, Prod.mk.injEq, option_inj, secret_eq_iff,
    quoted.injEq, optionalText_inj, hexpires, true_and, and_true]
  constructor
  · rintro ⟨hrefresh, htype, hexpiresIn, hscope⟩
    exact ⟨hrefresh, htype, hexpiresIn, hscope⟩
  · rintro ⟨hrefresh, htype, hexpiresIn, hscope⟩
    exact ⟨hrefresh, htype, hexpiresIn, hscope⟩

theorem Wallet.describe_eq_iff {w w' : Wallet} :
    w.describe = w'.describe ↔
      w.SameSessionButSecrets w' ∧ w.toHoldings.LookAlike w'.toHoldings := by
  simp only [describe, record.injEq, List.cons.injEq, Prod.mk.injEq, list.injEq, secret_eq_iff,
    quoted.injEq, Token.describe_eq_iff, true_and, and_true]
  constructor
  · rintro ⟨hrefresh, hbase, hid, hsecret, htoken, hagent, hconnections, hinvitations, hcredentials,
      hverifications⟩
    exact ⟨⟨hrefresh, hbase, hid, hsecret, htoken⟩,
      ⟨hagent, hconnections, hinvitations, hcredentials, hverifications⟩⟩
  · rintro ⟨⟨hrefresh, hbase, hid, hsecret, htoken⟩,
      ⟨hagent, hconnections, hinvitations, hcredentials, hverifications⟩⟩
    exact ⟨hrefresh, hbase, hid, hsecret, htoken, hagent, hconnections, hinvitations, hcredentials,
      hverifications⟩

theorem Login.describe_eq_iff {l l' : Login} : l.describe = l'.describe ↔ l.username = l'.username := by
  simp only [describe, record.injEq, List.cons.injEq, Prod.mk.injEq, quoted.injEq, true_and, and_true]

theorem Description.text_eq_iff {d e : Description} (hd : d.IsLegible) (he : e.IsLegible) :
    text d = text e ↔ d = e :=
  ⟨text_injective hd he, congrArg text⟩

/-- The text of a wallet, of a token and of a login is the same whatever the secrets in it are, and it
tells everything else. -/
theorem Description.text_tells_all_but_secrets :
    (∀ w w' : Wallet, w.SameButSecrets w' → text w.describe = text w'.describe) ∧
      (∀ w w' : Wallet, text w.describe = text w'.describe ↔
        w.SameSessionButSecrets w' ∧ w.toHoldings.LookAlike w'.toHoldings) ∧
      (∀ t t' : Token, text t.describe = text t'.describe ↔ t.SameButSecrets t') ∧
      ∀ l l' : Login, text l.describe = text l'.describe ↔ l.username = l'.username := by
  refine ⟨fun w w' h => ?hidden, fun w w' => ?wallet, fun t t' => ?token, fun l l' => ?login⟩
  case hidden =>
    have hholdings : w.toHoldings.LookAlike w'.toHoldings := h.holdings ▸ Holdings.LookAlike.refl _
    rw [Wallet.describe_eq_iff.2 ⟨h.toSameSessionButSecrets, hholdings⟩]
  case wallet => rw [text_eq_iff w.isLegible_describe w'.isLegible_describe, Wallet.describe_eq_iff]
  case token => rw [text_eq_iff t.isLegible_describe t'.isLegible_describe, Token.describe_eq_iff]
  case login => rw [text_eq_iff l.isLegible_describe l'.isLegible_describe, Login.describe_eq_iff]

end

end CredentialWallet

namespace CredentialWallet.Sample

/-- A wallet of a client with a secret. -/
def confidential (secret access refresh : String) : Wallet :=
  { wallet with
    clientSecret := some secret
    token := { Token.bearer access with refresh := some refresh } }

theorem confidential_sameButSecrets (secret access refresh secret' access' refresh' : String) :
    (confidential secret access refresh).SameButSecrets (confidential secret' access' refresh') :=
  ⟨⟨rfl, rfl, rfl, rfl, ⟨rfl, rfl, rfl, rfl⟩⟩, rfl⟩

end CredentialWallet.Sample

namespace CredentialWallet.Description

open Sample

/-- Secrets of other lengths and with characters that would have to be quoted change nothing. -/
theorem text_tells_all_but_secrets_confidential :
    (confidential "s" "access" "refresh").SameButSecrets (confidential "\"\\" "" "~") ∧
      confidential "s" "access" "refresh" ≠ confidential "\"\\" "" "~" ∧
      text (confidential "s" "access" "refresh").describe =
        text (confidential "\"\\" "" "~").describe :=
  ⟨confidential_sameButSecrets .., by decide,
    text_tells_all_but_secrets.1 _ _ (confidential_sameButSecrets ..)⟩

end CredentialWallet.Description
