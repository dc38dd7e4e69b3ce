/-!
# Bytes and characters

Decoding takes bytes to characters and marks every stretch of bytes that begins no character: the
longest beginning of a character that is then broken off counts as one stretch.
-/

namespace CredentialWallet.Text

/-- The bytes of a text. -/
def utf8 (s : String) : List UInt8 := s.toList.flatMap String.utf8EncodeChar

/-- A character whose first bytes have been read: the bits so far, how many bytes are due, and the
range of the next one. -/
structure Pending where
  bits : Nat
  due : Nat
  low : Nat
  high : Nat

/-- The first byte of a character: it is complete, is no first byte, or leaves more bytes due. -/
def startByte (b : Nat) : Option Char ⊕ Pending :=
  if b < 0x80 then .inl (some (Char.ofNat b))
  else if b < 0xC2 then .inl none
  else if b < 0xE0 then .inr ⟨b - 0xC0, 1, 0x80, 0xBF⟩
  else if b = 0xE0 then .inr ⟨0, 2, 0xA0, 0xBF⟩
  else if b = 0xED then .inr ⟨0xD, 2, 0x80, 0x9F⟩
  else if b < 0xF0 then .inr ⟨b - 0xE0, 2, 0x80, 0xBF⟩
  else if b = 0xF0 then .inr ⟨0, 3, 0x90, 0xBF⟩
  else if b < 0xF4 then .inr ⟨b - 0xF0, 3, 0x80, 0xBF⟩
  else if b = 0xF4 then .inr ⟨4, 3, 0x80, 0x8F⟩
  else .inl none

/-- The characters of bytes that follow a pending character, with `none` for each stray stretch. -/
def decodeFrom : Option Pending → List UInt8 → List (Option Char)
  | none, [] => []
  | some _, [] => [none]
  | none, b :: rest =>
    match startByte b.toNat with
    | .inl c => c :: decodeFrom none rest
    | .inr p => decodeFrom (some p) rest
  | some p, b :: rest =>
    if p.low ≤ b.toNat ∧ b.toNat ≤ p.high then
      let bits := p.bits * 64 + (b.toNat - 0x80)
      if p.due = 1 then some (Char.ofNat bits) :: decodeFrom none rest
      else decodeFrom (some ⟨bits, p.due - 1, 0x80, 0xBF⟩) rest
    else
      match startByte b.toNat with
      | .inl c => none :: c :: decodeFrom none rest
      | .inr p => none :: decodeFrom (some p) rest

/-- The characters of bytes, with `none` for each stray stretch. -/
def decodeUtf8 (bytes : List UInt8) : List (Option Char) := decodeFrom none bytes

/-- The text of bytes that have no stray stretch. -/
def textOf? (bytes : List UInt8) : Option String := ((decodeUtf8 bytes).mapM id).map String.ofList

/-! ### Bytes that were written -/

theorem toNat_ofNat_of_lt {n : Nat} (h : n < 256) : (UInt8.ofNat n).toNat = n := by
  rw [UInt8.toNat_ofNat']
  omega

theorem utf8EncodeChar_of_ascii {c : Char} (hc : c.toNat < 128) :
    String.utf8EncodeChar c = [UInt8.ofNat c.toNat] := by
  have hsmall : c.toNat ≤ 127 := by omega
  rw [String.utf8EncodeChar]
  split
  · rfl
  · contradiction

theorem startByte_of_two {n : Nat} (hlow : 2 ≤ n) (hhigh : n < 32) :
    startByte (n + 192) = .inr ⟨n, 1, 0x80, 0xBF⟩ := by
  rw [startByte, if_neg (by omega), if_neg (by omega), if_pos (by omega), Nat.add_sub_cancel]

/-- The second byte of three tells overlong writings and surrogates from characters. -/
theorem startByte_of_three {n : Nat} (h : n < 16) :
    startByte (n + 224) =
      .inr ⟨n, 2, if n = 0 then 0xA0 else 0x80, if n = 13 then 0x9F else 0xBF⟩ := by
  by_cases hfirst : n = 0
  · subst hfirst
    rfl
  by_cases hsurrogate : n = 13
  · subst hsurrogate
    rfl
  rw [startByte, if_neg (by omega), if_neg (by omega), if_neg (by omega), if_neg (by omega),
    if_neg (by omega), if_pos (by omega), if_neg hfirst, if_neg hsurrogate, Nat.add_sub_cancel]

/-- The second byte of four tells overlong writings and what is beyond all characters. -/
theorem startByte_of_four {n : Nat} (h : n < 5) :
    startByte (n + 240) =
      .inr ⟨n, 3, if n = 0 then 0x90 else 0x80, if n = 4 then 0x8F else 0xBF⟩ := by
  by_cases hfirst : n = 0
  · subst hfirst
    rfl
  by_cases hlast : n = 4
  · subst hlast
    rfl
  rw [startByte, if_neg (by omega), if_neg (by omega), if_neg (by omega), if_neg (by omega),
    if_neg (by omega), if_neg (by omega), if_neg (by omega), if_pos (by omega), if_neg hfirst,
    if_neg hlast, Nat.add_sub_cancel]

/-- The first of several bytes. -/
theorem decodeFrom_start {n : Nat} {p : Pending} (hn : n < 256) (h : startByte n = .inr p)
    (rest : List UInt8) : decodeFrom none (UInt8.ofNat n :: rest) = decodeFrom (some p) rest := by
  rw [decodeFrom, toNat_ofNat_of_lt hn, h]

section

variable {bits low high n : Nat} (hlow : low ≤ n % 64 + 128) (hhigh : n % 64 + 128 ≤ high)
  (rest : List UInt8)

include hlow hhigh

/-- A later byte adds six bits. -/
theorem decodeFrom_more (due : Nat) :
    decodeFrom (some ⟨bits, due + 2, low, high⟩) (UInt8.ofNat (n % 64 + 128) :: rest) =
      decodeFrom (some ⟨bits * 64 + n % 64, due + 1, 0x80, 0xBF⟩) rest := by
  rw [decodeFrom, toNat_ofNat_of_lt (by omega), if_pos ⟨hlow, hhigh⟩]
  simp

/-- The last byte completes the character. -/
theorem decodeFrom_last :
    decodeFrom (some ⟨bits, 1, low, high⟩) (UInt8.ofNat (n % 64 + 128) :: rest) =
      some (Char.ofNat (bits * 64 + n % 64)) :: decodeFrom none rest := by
  rw [decodeFrom, toNat_ofNat_of_lt (by omega), if_pos ⟨hlow, hhigh⟩, Nat.add_sub_cancel, if_pos rfl]

end

/-- The bytes of a character are read as that character, whatever follows. -/
theorem decodeFrom_utf8EncodeChar (c : Char) (rest : List UInt8) :
    decodeFrom none (String.utf8EncodeChar c ++ rest) = some c :: decodeFrom none rest := by
  have hvalid : c.toNat < 0xD800 ∨ 0xDFFF < c.toNat ∧ c.toNat < 0x110000 := c.valid
  have hread (n : Nat) (h : n = c.toNat) : Char.ofNat n = c := by rw [h, Char.ofNat_toNat]
  have hval : c.val.toNat = c.toNat := rfl
  simp only [String.utf8EncodeChar, hval]
  split
  · rw [List.singleton_append, decodeFrom, toNat_ofNat_of_lt (by omega), startByte, if_pos (by omega),
      hread _ rfl]
  · split
    · have hstart := @startByte_of_two (c.toNat / 64 % 32) (by omega) (by omega)
      simp only [List.cons_append, List.nil_append]
      rw [decodeFrom_start (by omega) hstart, decodeFrom_last (by omega) (by omega),
        hread _ (by omega)]
    · split
      · have hstart := @startByte_of_three (c.toNat / 4096 % 16) (by omega)
        simp only [List.cons_append, List.nil_append]
        rw [decodeFrom_start (by omega) hstart,
          decodeFrom_more (by split <;> omega) (by split <;> omega) _ 0,
          decodeFrom_last (by omega) (by omega), hread _ (by omega)]
      · have hstart := @startByte_of_four (c.toNat / 262144 % 8) (by omega)
        simp only [List.cons_append, List.nil_append]
        rw [decodeFrom_start (by omega) hstart,
          decodeFrom_more (by split <;> omega) (by split <;> omega) _ 1,
          decodeFrom_more (by omega) (by omega) _ 0,
          decodeFrom_last (by omega) (by omega), hread _ (by omega)]

/-- The characters of a text are read back from its bytes. -/
theorem decodeUtf8_flatMap_utf8EncodeChar (cs : List Char) :
    decodeUtf8 (cs.flatMap String.utf8EncodeChar) = cs.map some := by
  rw [decodeUtf8]
  induction cs with
  | nil => rfl
  | cons c rest ih => rw [List.flatMap_cons, decodeFrom_utf8EncodeChar, ih, List.map_cons]

theorem mapM_decodeUtf8_flatMap (cs : List Char) :
    (decodeUtf8 (cs.flatMap String.utf8EncodeChar)).mapM id = some cs := by
  have hsome : cs.mapM some = some cs := List.mapM_pure.trans (by simp)
  rw [decodeUtf8_flatMap_utf8EncodeChar, List.mapM_map]
  exact hsome

theorem textOf?_utf8 (s : String) : textOf? (utf8 s) = some s := by
  rw [textOf?, utf8, mapM_decodeUtf8_flatMap, Option.map_some, String.ofList_toList]

end CredentialWallet.Text
