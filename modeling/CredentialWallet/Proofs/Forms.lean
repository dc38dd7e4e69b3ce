import Mathlib.Data.List.Basic
import CredentialWallet.Proofs.Decoding
import CredentialWallet.Proofs.Delivery
/-!
# What the form of a grant says

A form is read by parting it at its ampersands, each field at its first equals sign, and by reading plus
signs as spaces and escapes as bytes. Nothing in a name or a value is left that would part a form at
another place, so a form is read to the names and values it was written from. Whoever is asked for a
grant is told its kind, what is presented for it and the client, and nothing that somebody chose as a
password can add to that or take its place.
-/

namespace CredentialWallet

open Http (Request)

namespace Form

/-! ### Reading -/

/-- A name or a value, if its bytes are a text. -/
def readComponent? (cs : List Char) : Option String :=
  Text.textOf? (Url.decodeBytes (cs.map fun c => if c = '+' then ' ' else c))

/-- A field, parted at its first equals sign. -/
def readField? (cs : List Char) : Option (String × String) := do
  let name ← readComponent? (cs.takeWhile (· ≠ '='))
  let value ← readComponent? ((cs.dropWhile (· ≠ '=')).drop 1)
  return (name, value)

/-- A form, parted at its ampersands. Where nothing stands between two of them, there is no field. -/
def read? (text : String) : Option Form :=
  ((Text.splitAt (· = '&') text.toList).filter (· ≠ [])).mapM readField?

/-! ### Components -/

theorem notMem_component {c : Char} (hc : escaped c = true) (hplus : c ≠ '+') (hpercent : c ≠ '%')
    (hdigit : Text.hexValue? c = none) (s : String) : c ∉ component s := by
  intro hmem
  rw [component, List.mem_map] at hmem
  obtain ⟨d, hd, rfl⟩ := hmem
  split at hc
  · rename_i hspace
    exact hplus (if_pos hspace)
  · rename_i hspace
    rw [if_neg hspace] at hpercent hdigit
    exact Url.notMem_encode hc hpercent hdigit _ hd

theorem ampersand_notMem_component (s : String) : '&' ∉ component s :=
  notMem_component (by decide) (by decide) (by decide) (by decide) s

theorem equals_notMem_component (s : String) : '=' ∉ component s :=
  notMem_component (by decide) (by decide) (by decide) (by decide) s

theorem readComponent?_component (s : String) : readComponent? (component s) = some s := by
  have hback : (component s).map (fun c => if c = '+' then ' ' else c) =
      Url.encode escaped s.toList := by
    rw [component, List.map_map]
    refine (List.map_congr_left fun c hc => ?_).trans (List.map_id _)
    have hplus : c ≠ '+' := by
      rintro rfl
      exact Url.notMem_encode (by decide) (by decide) (by decide) s.toList hc
    show (if (if c = ' ' then '+' else c) = '+' then ' ' else if c = ' ' then '+' else c) = c
    by_cases hspace : c = ' '
    · subst hspace
      rfl
    · rw [if_neg hspace, if_neg hplus]
  rw [readComponent?, hback, Url.decodeBytes_encode (by decide)]
  exact Text.textOf?_utf8 s

/-! ### Fields -/

theorem readField?_fieldText (field : String × String) : readField? (fieldText field) = some field := by
  have hname : ∀ c ∈ component field.1, (c ≠ '=' : Bool) = true := by
    intro c hc
    apply decide_eq_true
    rintro rfl
    exact equals_notMem_component field.1 hc
  rw [readField?, fieldText, List.takeWhile_append_of_pos hname, List.dropWhile_append_of_pos hname]
  simp [readComponent?_component]

theorem ampersand_notMem_fieldText (field : String × String) : '&' ∉ fieldText field := by
  simp [fieldText, ampersand_notMem_component]

theorem filter_splitAt_text (form : Form) :
    (Text.splitAt (· = '&') form.text.toList).filter (· ≠ []) = form.map fieldText := by
  have hparts : ∀ part ∈ form.map fieldText, '&' ∉ part ∧ part ≠ [] := by
    intro part hpart
    obtain ⟨field, _, rfl⟩ := List.mem_map.1 hpart
    exact ⟨ampersand_notMem_fieldText field, by simp [fieldText]⟩
  rw [text, String.toList_ofList, Text.splitAt_eq_splitOn]
  by_cases hform : form.map fieldText = []
  · rw [hform]
    rfl
  · rw [List.splitOn_intercalate '&' (fun part hpart => (hparts part hpart).1) hform,
      List.filter_eq_self]
    intro part hpart
    exact decide_eq_true (hparts part hpart).2

/-- A form is read to the fields it was written from. -/
theorem read?_text (form : Form) : read? form.text = some form := by
  rw [read?, filter_splitAt_text]
  exact mapM_map_eq_pure fun field _ => readField?_fieldText field

theorem text_injective : Function.Injective Form.text := injective_of_read read?_text

/-! ### Bytes -/

/-- Letters, digits and four marks. -/
def IsKept (n : Nat) : Prop :=
  48 ≤ n ∧ n ≤ 57 ∨ 65 ≤ n ∧ n ≤ 90 ∨ 97 ≤ n ∧ n ≤ 122 ∨ n ∈ "*-._".toList.map Char.toNat

instance (n : Nat) : Decidable (IsKept n) := by
  unfold IsKept
  infer_instance

/-- A byte as it stands in a form. -/
def byteText (b : UInt8) : List Char :=
  if b.toNat = 32 then ['+']
  else if IsKept b.toNat then [Char.ofNat b.toNat]
  else Url.escapeByte b

/-- The text of a form, byte by byte. -/
def wire (form : Form) : String :=
  String.ofList (['&'].intercalate (form.map fun field =>
    (Text.utf8 field.1).flatMap byteText ++ '=' :: (Text.utf8 field.2).flatMap byteText))

theorem byteText_of_large {b : UInt8} (hb : 128 ≤ b.toNat) : byteText b = Url.escapeByte b := by
  have hmarks : ∀ n ∈ "*-._".toList.map Char.toNat, n < 128 := by decide
  have hkept : ¬ IsKept b.toNat := by
    rintro (h | h | h | h)
    · omega
    · omega
    · omega
    · have := hmarks _ h
      omega
  rw [byteText, if_neg (by omega), if_neg hkept]

theorem map_escapeByte (b : UInt8) :
    (Url.escapeByte b).map (fun c => if c = ' ' then '+' else c) = Url.escapeByte b := by
  have hdigit (n : Nat) : Text.upperHexDigit n ≠ ' ' := by
    intro h
    have hvalue := Text.hexValue?_upperHexDigit n
    rw [h] at hvalue
    cases hvalue
  simp [Url.escapeByte, hdigit]

theorem map_encodeChar (c : Char) :
    (Url.encodeChar escaped c).map (fun c => if c = ' ' then '+' else c) =
      (String.utf8EncodeChar c).flatMap byteText := by
  by_cases hascii : c.toNat < 128
  · have hall : ∀ n < 128, (Url.encodeChar escaped (Char.ofNat n)).map
        (fun c => if c = ' ' then '+' else c) = byteText (UInt8.ofNat n) := by decide +kernel
    have hc := hall c.toNat hascii
    rw [Char.ofNat_toNat] at hc
    rw [hc, Text.utf8EncodeChar_of_ascii hascii, List.flatMap_singleton]
  · have hlarge : ∀ b ∈ String.utf8EncodeChar c, 128 ≤ b.toNat := by
      intro b hb
      apply Nat.le_of_not_lt
      intro hsmall
      rw [Url.eq_of_mem_utf8EncodeChar hb hsmall] at hsmall
      exact hascii hsmall
    rw [Url.encodeChar, if_neg (by simp [hascii]), List.map_flatMap]
    refine List.flatMap_congr fun b hb => ?_
    rw [map_escapeByte, byteText_of_large (hlarge b hb)]

theorem component_eq_flatMap (s : String) : component s = (Text.utf8 s).flatMap byteText := by
  rw [component, Url.encode, List.map_flatMap, Text.utf8, List.flatMap_assoc]
  exact List.flatMap_congr fun c _ => map_encodeChar c

theorem text_eq_wire (form : Form) : form.text = wire form := by
  have hfield : fieldText = fun field =>
      (Text.utf8 field.1).flatMap byteText ++ '=' :: (Text.utf8 field.2).flatMap byteText := by
    funext field
    rw [fieldText, component_eq_flatMap, component_eq_flatMap]
  rw [text, wire, hfield]

example : text [("username", "a&b=c +%é")] = "username=a%26b%3Dc+%2B%25%C3%A9" := by decide +kernel

end Form

/-! ### Grants -/

namespace Grant

/-- What a token endpoint is to be told. -/
def parameters (grant : Grant) (client : Client) : Form :=
  match grant, client.secret with
  | .password username phrase, none =>
    [("grant_type", "password"), ("username", username), ("password", phrase),
      ("client_id", client.id)]
  | .password username phrase, some secret =>
    [("grant_type", "password"), ("username", username), ("password", phrase),
      ("client_id", client.id), ("client_secret", secret)]
  | .refresh token, none =>
    [("grant_type", "refresh_token"), ("refresh_token", token), ("client_id", client.id)]
  | .refresh token, some secret =>
    [("grant_type", "refresh_token"), ("refresh_token", token), ("client_id", client.id),
      ("client_secret", secret)]

theorem form_eq_parameters (grant : Grant) (client : Client) :
    grant.form client = grant.parameters client := by
  obtain ⟨tokenUrl, id, secret⟩ := client
  cases grant <;> cases secret <;> rfl

theorem eq_of_parameters_eq {grant other : Grant} {client stranger : Client}
    (h : grant.parameters client = other.parameters stranger) :
    grant = other ∧ client.id = stranger.id ∧ client.secret = stranger.secret := by
  obtain ⟨tokenUrl, id, secret⟩ := client
  obtain ⟨tokenUrl', id', secret'⟩ := stranger
  cases grant <;> cases other <;> cases secret <;> cases secret' <;>
    simp_all [parameters]

/-- Asking for a grant sends a form with this text. -/
def IsSentAs (grant : Grant) (client : Client) (text : String) : Prop :=
  ∃ userAgent link j r form,
    ((TokenProvider.endpoint userAgent).ask client grant link j).2 =
      j ++ [.grant client grant, .request r] ∧ r.body = some (.form form) ∧ form.text = text

end Grant

theorem Grant.IsSentAs.text_eq {grant : Grant} {client : Client} {text : String}
    (h : grant.IsSentAs client text) : text = (grant.form client).text := by
  obtain ⟨userAgent, link, j, r, form, hsent, hbody, rfl⟩ := h
  obtain ⟨hnone, -⟩ | ⟨q, hq, -, hform⟩ :=
    TokenProvider.endpoint_ask_journal userAgent client grant link j
  · rw [hnone] at hsent
    simp at hsent
  · rw [hq] at hsent
    obtain rfl : q = r := by simpa using hsent
    rw [hform] at hbody
    cases hbody
    rfl

/-- Whatever is presented for a grant, the form that is sent for it is written byte by byte, is read to
exactly the parameters of the grant, and is sent for no other grant and no other client. -/
theorem TokenProvider.ask_tells_parameters (userAgent : String) (client : Client) (grant : Grant)
    (link : Link) (j : Journal) :
    (((endpoint userAgent).ask client grant link j).2 = j ++ [.grant client grant] ∧
      (link = .down ∨ ∃ e, Gateway.prepare userAgent .post client.tokenUrl none
        (some (.form (grant.form client))) = .error e)) ∨
    ∃ r form, ((endpoint userAgent).ask client grant link j).2 =
        j ++ [.grant client grant, .request r] ∧
      r.method = .post ∧ r.body = some (.form form) ∧
      form.text = Form.wire (grant.parameters client) ∧
      Form.read? form.text = some (grant.parameters client) ∧
      ∀ other stranger, Grant.IsSentAs other stranger form.text →
        other = grant ∧ stranger.id = client.id ∧ stranger.secret = client.secret := by
  obtain hnone | ⟨r, hsent, hmethod, hbody⟩ := endpoint_ask_journal userAgent client grant link j
  · exact .inl hnone
  · refine .inr ⟨r, grant.form client, hsent, hmethod, hbody, ?_, ?_, ?_⟩
    · rw [← grant.form_eq_parameters client]
      exact Form.text_eq_wire _
    · rw [← grant.form_eq_parameters client]
      exact Form.read?_text _
    · intro other stranger hother
      have hform := Form.text_injective hother.text_eq
      rw [Grant.form_eq_parameters, Grant.form_eq_parameters] at hform
      exact Grant.eq_of_parameters_eq hform.symm

end CredentialWallet

namespace CredentialWallet.Sample

/-- Where the token of the wallet is refreshed. -/
def tokenUrl : Url where
  scheme := "http"
  authority := some ⟨[], [], "[::1]".toList, none⟩
  route := .segments ["token".toList]
  query := none
  fragment := none

end CredentialWallet.Sample

namespace CredentialWallet.TokenProvider

open Sample

/-- A password that would be another field is sent as one, even to an agency that hangs up. -/
theorem ask_tells_parameters_password :
    ∃ r form,
      ((endpoint "client").ask wallet.client (.password "holder" "x&scope=y") (.up fun _ => none) []).2 =
          [.grant wallet.client (.password "holder" "x&scope=y"), .request r] ∧
        r.method = .post ∧ r.body = some (.form form) ∧
        form.text = "grant_type=password&username=holder&password=x%26scope%3Dy&client_id=wallet" ∧
        Form.read? form.text = some [("grant_type", "password"), ("username", "holder"),
          ("password", "x&scope=y"), ("client_id", "wallet")] := by
  have hreachable : ∃ u, Url.parse wallet.client.tokenUrl = .ok u ∧ u.IsReachable :=
    ⟨tokenUrl, by decide +kernel, .inl rfl, rfl, by decide +kernel⟩
  obtain ⟨r, hsent⟩ := (endpoint_ask_sends_iff "client" wallet.client (.password "holder" "x&scope=y")
    (.up fun _ => none) []).2 ⟨nofun, hreachable⟩
  obtain ⟨hnone, -⟩ | ⟨q, form, hq, hmethod, hbody, hwire, hread, -⟩ := ask_tells_parameters "client"
    wallet.client (.password "holder" "x&scope=y") (.up fun _ => none) []
  · rw [hnone] at hsent
    cases hsent
  · refine ⟨q, form, hq, hmethod, hbody, hwire.trans ?_, hread⟩
    decide +kernel

end CredentialWallet.TokenProvider
