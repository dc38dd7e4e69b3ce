import CredentialWallet.Description.Basic
import CredentialWallet.Proofs.Numerals
/-!
# Descriptions can be read

A quoted text ends at its last quote, because every other quote in it has a backslash in front, and no two
characters are quoted alike. So from the text of a description the description is known: its names are
made of few characters, the sign behind a name tells what kind of description it is, and every part is
followed by a sign that cannot belong to it.
-/

namespace CredentialWallet

/-- Where characters of one kind are followed by none of that kind, it is known where they end. -/
theorem append_inj_of_kind {α : Type} {kind : α → Bool} {xs ys r r' : List α}
    (hxs : ∀ x ∈ xs, kind x = true) (hys : ∀ y ∈ ys, kind y = true) (hr : ∀ x ∈ r.head?, kind x = false)
    (hr' : ∀ x ∈ r'.head?, kind x = false) (h : xs ++ r = ys ++ r') : xs = ys ∧ r = r' := by
  have hfront {cs rest : List α} (hcs : ∀ c ∈ cs, kind c = true) (hrest : ∀ c ∈ rest.head?, kind c = false) :
      (cs ++ rest).takeWhile kind = cs := by
    rw [List.takeWhile_append_of_pos hcs]
    cases rest with
    | nil => exact List.append_nil cs
    | cons c rest => rw [List.takeWhile_cons_of_neg (by simp [hrest c rfl]), List.append_nil]
  have hsame := congrArg (List.takeWhile kind) h
  rw [hfront hxs hr, hfront hys hr'] at hsame
  subst hsame
  exact ⟨rfl, List.append_cancel_left h⟩

/-! ### Quoted texts -/

namespace Text

/-- The characters for which a letter stands behind a backslash. -/
def letters : List (Char × Char) :=
  [('\x00', '0'), ('\t', 't'), ('\r', 'r'), ('\n', 'n'), ('\\', '\\'), ('"', '"')]

/-- How a character is quoted. -/
inductive IsQuoted (c : Char) : List Char → Prop
  | letter {l : Char} (h : (c, l) ∈ letters) : IsQuoted c ['\\', l]
  | number : IsQuoted c ('\\' :: 'u' :: '{' :: (Nat.toDigits 16 c.toNat ++ ['}']))
  | plain (hquote : c ≠ '"') (hbackslash : c ≠ '\\') : IsQuoted c [c]

theorem isQuoted_quoteChar (c : Char) : IsQuoted c (quoteChar c) := by
  rw [quoteChar]
  split_ifs with hnull htab hreturn hbreak hbackslash hquote hinvisible
  on_goal 8 => exact .plain hquote hbackslash
  on_goal 7 => exact .number
  all_goals
    subst c
    exact .letter (by decide)

theorem IsQuoted.exists_cons {c : Char} {cs : List Char} (h : IsQuoted c cs) :
    ∃ first rest, cs = first :: rest ∧ first ≠ '"' := by
  cases h with
  | letter => exact ⟨_, _, rfl, by decide⟩
  | number => exact ⟨_, _, rfl, by decide⟩
  | plain hquote => exact ⟨_, _, rfl, hquote⟩

theorem toDigits_brace_inj {c d : Char} {r r' : List Char}
    (h : Nat.toDigits 16 c.toNat ++ '}' :: r = Nat.toDigits 16 d.toNat ++ '}' :: r') : c = d ∧ r = r' := by
  have hdigits (n : Nat) : ∀ x ∈ Nat.toDigits 16 n, (x != '}') = true := by
    intro x hx
    rw [bne_iff_ne]
    rintro rfl
    exact Url.Host.notMem_toDigits (by decide) (by decide) n (by decide) hx
  obtain ⟨hsame, hrest⟩ := append_inj_of_kind (hdigits c.toNat) (hdigits d.toNat) (by simp) (by simp) h
  have hnumber : c.toNat = d.toNat := Url.Host.toDigits_inj (by decide) (by decide) hsame
  exact ⟨Char.toNat_inj.1 hnumber, (List.cons.inj hrest).2⟩

theorem IsQuoted.append_inj {c d : Char} {cs ds r r' : List Char} (hc : IsQuoted c cs)
    (hd : IsQuoted d ds) (h : cs ++ r = ds ++ r') : c = d ∧ r = r' := by
  have hletters : ∀ x ∈ letters, x.2 ≠ 'u' ∧ ∀ y ∈ letters, x.2 = y.2 → x.1 = y.1 := by decide
  cases hc with
  | letter hc =>
    cases hd with
    | letter hd =>
      obtain ⟨rfl, rfl⟩ : _ ∧ r = r' := by simpa using h
      exact ⟨(hletters _ hc).2 _ hd rfl, rfl⟩
    | number =>
      have hu := (List.cons.inj (List.cons.inj h).2).1
      exact absurd hu (hletters _ hc).1
    | plain _ hbackslash => exact absurd (List.cons.inj h).1.symm hbackslash
  | number =>
    cases hd with
    | letter hd =>
      have hu := (List.cons.inj (List.cons.inj h).2).1
      exact absurd hu.symm (hletters _ hd).1
    | number => exact toDigits_brace_inj (by simpa using h)
    | plain _ hbackslash => exact absurd (List.cons.inj h).1.symm hbackslash
  | plain _ hbackslash =>
    cases hd with
    | letter => exact absurd (List.cons.inj h).1 hbackslash
    | number => exact absurd (List.cons.inj h).1 hbackslash
    | plain => exact List.cons.inj h

theorem quoteChar_append_ne (c : Char) (r r' : List Char) : quoteChar c ++ r ≠ '"' :: r' := by
  obtain ⟨first, rest, hcs, hfirst⟩ := (isQuoted_quoteChar c).exists_cons
  rw [hcs]
  intro h
  exact hfirst (List.cons.inj h).1

theorem flatMap_quoteChar_append_inj {cs ds r r' : List Char}
    (h : cs.flatMap quoteChar ++ '"' :: r = ds.flatMap quoteChar ++ '"' :: r') : cs = ds ∧ r = r' := by
  induction cs generalizing ds with
  | nil =>
    cases ds with
    | nil => exact ⟨rfl, (List.cons.inj h).2⟩
    | cons d ds =>
      rw [List.flatMap_cons, List.append_assoc] at h
      exact absurd h.symm (quoteChar_append_ne d _ _)
  | cons c cs ih =>
    cases ds with
    | nil =>
      rw [List.flatMap_cons, List.append_assoc] at h
      exact absurd h (quoteChar_append_ne c _ _)
    | cons d ds =>
      rw [List.flatMap_cons, List.flatMap_cons, List.append_assoc, List.append_assoc] at h
      obtain ⟨rfl, hrest⟩ := (isQuoted_quoteChar c).append_inj (isQuoted_quoteChar d) h
      obtain ⟨rfl, hr⟩ := ih hrest
      exact ⟨rfl, hr⟩

theorem quoted_append (s : String) (r : List Char) :
    (quoted s).toList ++ r = '"' :: (s.toList.flatMap quoteChar ++ '"' :: r) := by
  simp [quoted]

theorem quoted_append_inj {s t : String} {r r' : List Char}
    (h : (quoted s).toList ++ r = (quoted t).toList ++ r') : s = t ∧ r = r' := by
  rw [quoted_append, quoted_append] at h
  obtain ⟨hsame, hr⟩ := flatMap_quoteChar_append_inj (List.cons.inj h).2
  exact ⟨String.toList_inj.1 hsame, hr⟩

end Text

namespace Description

/-! ### What is legible -/

/-- The characters of names and numbers. -/
def isNameChar (c : Char) : Bool := c.isAlphanum || c ∈ ['_', '-', '+', '.']

structure IsName (name : String) : Prop where
  ne_nil : name.toList ≠ []
  chars : ∀ c ∈ name.toList, isNameChar c = true

instance (name : String) : Decidable (IsName name) :=
  decidable_of_iff (name.toList ≠ [] ∧ name.toList.all isNameChar = true)
    ⟨fun ⟨hne, hchars⟩ => ⟨hne, List.all_eq_true.1 hchars⟩,
      fun h => ⟨h.ne_nil, List.all_eq_true.2 h.chars⟩⟩

mutual

/-- Whether a description is made of names, and whether its lists and maps are called what values are. -/
def IsLegible : Description → Prop
  | plain s => IsName s
  | quoted _ => True
  | wrapped name value => IsName name ∧ IsLegible value
  | record name fields _ => IsName name ∧ FieldsLegible fields
  | list name items => (name = "" ∨ name = "Array ") ∧ ItemsLegible items
  | map name entries => (name = "" ∨ name = "Object ") ∧ EntriesLegible entries

def ItemsLegible : List Description → Prop
  | [] => True
  | item :: rest => IsLegible item ∧ ItemsLegible rest

def FieldsLegible : List (String × Description) → Prop
  | [] => True
  | (name, value) :: rest => IsName name ∧ IsLegible value ∧ FieldsLegible rest

def EntriesLegible : List (String × Description) → Prop
  | [] => True
  | (_, value) :: rest => IsLegible value ∧ EntriesLegible rest

end

@[simp] theorem isLegible_quoted (s : String) : (quoted s).IsLegible := trivial

@[simp] theorem isLegible_wrapped {name : String} {value : Description} :
    (wrapped name value).IsLegible ↔ IsName name ∧ value.IsLegible := Iff.rfl

@[simp] theorem isLegible_record {name : String} {fields : List (String × Description)} {more : Bool} :
    (record name fields more).IsLegible ↔ IsName name ∧ FieldsLegible fields := Iff.rfl

@[simp] theorem fieldsLegible_nil : FieldsLegible [] := trivial

@[simp] theorem fieldsLegible_cons {name : String} {value : Description}
    {rest : List (String × Description)} :
    FieldsLegible ((name, value) :: rest) ↔ IsName name ∧ value.IsLegible ∧ FieldsLegible rest := Iff.rfl

/-- What may stand behind a description. -/
inductive Ends : List Char → Prop
  | nil : Ends []
  | sign {c : Char} {rest : List Char} (h : c = ',' ∨ c = ')' ∨ c = ']' ∨ c = '}') : Ends (c :: rest)
  | space {rest : List Char} : Ends (' ' :: '}' :: rest)

/-! ### The characters of a description -/

/-- How a record ends. -/
def closing (more : Bool) (r : List Char) : List Char :=
  if more then ',' :: ' ' :: '.' :: '.' :: ' ' :: '}' :: r else ' ' :: '}' :: r

/-- What stands behind a part of a list, with the parts that follow and what closes the list. -/
def behind {α : Type} (text : List α → String) (close : List Char) : List α → List Char
  | [] => close
  | rest => ',' :: ' ' :: ((text rest).toList ++ close)

section

variable (name : String) (value : Description) (r : List Char)

theorem wrapped_append : (text (wrapped name value)).toList ++ r =
    name.toList ++ '(' :: ((text value).toList ++ ')' :: r) := by
  simp [text]

theorem record_append (fields : List (String × Description)) (more : Bool) :
    (text (record name fields more)).toList ++ r =
      name.toList ++ ' ' :: '{' :: ' ' :: ((fieldsText fields).toList ++ closing more r) := by
  cases more <;> simp [text, closing]

theorem list_append (items : List Description) : (text (list name items)).toList ++ r =
    name.toList ++ '[' :: ((itemsText items).toList ++ ']' :: r) := by
  simp [text]

theorem map_append (entries : List (String × Description)) : (text (map name entries)).toList ++ r =
    name.toList ++ '{' :: ((entriesText entries).toList ++ '}' :: r) := by
  simp [text]

theorem items_append (rest : List Description) :
    (itemsText (value :: rest)).toList ++ ']' :: r = (text value).toList ++ behind itemsText (']' :: r) rest := by
  cases rest <;> simp [itemsText, behind]

theorem fields_append (more : Bool) (rest : List (String × Description)) :
    (fieldsText ((name, value) :: rest)).toList ++ closing more r =
      name.toList ++ ':' :: ' ' ::
        ((text value).toList ++ behind fieldsText (closing more r) rest) := by
  cases rest <;> simp [fieldsText, behind]

theorem entries_append (rest : List (String × Description)) :
    (entriesText ((name, value) :: rest)).toList ++ '}' :: r =
      (Text.quoted name).toList ++ ':' :: ' ' ::
        ((text value).toList ++ behind entriesText ('}' :: r) rest) := by
  cases rest <;> simp [entriesText, behind]

end

theorem ends_closing (more : Bool) (r : List Char) : Ends (closing more r) := by
  cases more with
  | false => exact .space
  | true => exact .sign (by decide)

theorem ends_behind {α : Type} {text : List α → String} {close : List Char} (h : Ends close)
    (rest : List α) : Ends (behind text close rest) := by
  cases rest with
  | nil => exact h
  | cons _ _ => exact .sign (by decide)

theorem Ends.stops {r : List Char} (h : Ends r) : ∀ c ∈ r.head?, isNameChar c = false := by
  intro c hc
  cases h with
  | nil => cases hc
  | sign h =>
    obtain rfl := Option.some.inj hc
    rcases h with rfl | rfl | rfl | rfl <;> rfl
  | space =>
    obtain rfl := Option.some.inj hc
    rfl

theorem IsName.append_inj {name other : String} (h : IsName name) (hother : IsName other)
    {r r' : List Char} (hr : ∀ c ∈ r.head?, isNameChar c = false)
    (hr' : ∀ c ∈ r'.head?, isNameChar c = false) (heq : name.toList ++ r = other.toList ++ r') :
    name = other ∧ r = r' := by
  obtain ⟨hsame, hrest⟩ := append_inj_of_kind h.chars hother.chars hr hr' heq
  exact ⟨String.toList_inj.1 hsame, hrest⟩

theorem IsName.append_cons_inj {name other : String} (h : IsName name) (hother : IsName other)
    {c : Char} (hc : isNameChar c = false) {r r' : List Char}
    (heq : name.toList ++ c :: r = other.toList ++ c :: r') : name = other ∧ r = r' := by
  have hstops (rest : List Char) : ∀ x ∈ (c :: rest).head?, isNameChar x = false := by
    intro x hx
    exact Option.some.inj hx ▸ hc
  obtain ⟨hsame, hrest⟩ := h.append_inj hother (hstops r) (hstops r') heq
  exact ⟨hsame, (List.cons.inj hrest).2⟩

theorem IsName.append_ne {name : String} (h : IsName name) {r r' : List Char} (hr' : Ends r') :
    name.toList ++ r ≠ r' := by
  rintro rfl
  obtain ⟨c, others, hcs⟩ := List.exists_cons_of_ne_nil h.ne_nil
  have hname := h.chars c (hcs ▸ List.mem_cons_self)
  rw [hr'.stops c (by rw [hcs]; rfl)] at hname
  cases hname

/-! ### Signs -/

/-- What stands behind the name that a description begins with. -/
inductive Sign
  | none
  | quote
  | parenthesis
  | record
  | list
  | map

def signOf (cs : List Char) : Sign :=
  match cs.dropWhile isNameChar with
  | '"' :: _ => .quote
  | '(' :: _ => .parenthesis
  | ' ' :: '{' :: ' ' :: _ => .record
  | '[' :: _ => .list
  | ' ' :: '[' :: _ => .list
  | '{' :: _ => .map
  | ' ' :: '{' :: _ => .map
  | _ => .none

def sign : Description → Sign
  | plain _ => .none
  | quoted _ => .quote
  | wrapped _ _ => .parenthesis
  | record _ _ _ => .record
  | list _ _ => .list
  | map _ _ => .map

theorem signOf_text_append {d : Description} (hd : d.IsLegible) {r : List Char} (hr : Ends r) :
    signOf ((text d).toList ++ r) = d.sign := by
  have hdrop {name : String} (h : IsName name) (rest : List Char) :
      (name.toList ++ rest).dropWhile isNameChar = rest.dropWhile isNameChar :=
    List.dropWhile_append_of_pos h.chars
  cases d with
  | plain s =>
    rw [text, signOf, hdrop hd]
    cases hr with
    | nil => rfl
    | sign h => rcases h with rfl | rfl | rfl | rfl <;> rfl
    | space => rfl
  | quoted s =>
    rw [text, Text.quoted_append]
    rfl
  | wrapped name value =>
    rw [wrapped_append, signOf, hdrop hd.1]
    rfl
  | record name fields more =>
    rw [record_append, signOf, hdrop hd.1]
    rfl
  | list name items =>
    rw [list_append]
    obtain ⟨rfl | rfl, -⟩ := hd
    · rfl
    · rfl
  | map name entries =>
    rw [map_append]
    obtain ⟨rfl | rfl, -⟩ := hd
    · rfl
    · cases entries with
      | nil => rfl
      | cons entry rest =>
        rw [entries_append, Text.quoted_append]
        rfl

/-- Descriptions whose texts begin alike are of one kind. -/
theorem sign_eq {d e : Description} (hd : d.IsLegible) (he : e.IsLegible) {r r' : List Char}
    (hr : Ends r) (hr' : Ends r') (h : (text d).toList ++ r = (text e).toList ++ r') :
    d.sign = e.sign := by
  rw [← signOf_text_append hd hr, ← signOf_text_append he hr', h]

theorem exists_text_cons {d : Description} (hd : d.IsLegible) :
    ∃ c rest, (text d).toList = c :: rest ∧ c ≠ ']' := by
  have hname {name : String} (h : IsName name) (rest : List Char) :
      ∃ c others, name.toList ++ rest = c :: others ∧ c ≠ ']' := by
    obtain ⟨c, others, hcs⟩ := List.exists_cons_of_ne_nil h.ne_nil
    have hc := h.chars c (hcs ▸ List.mem_cons_self)
    refine ⟨c, others ++ rest, by rw [hcs, List.cons_append], ?_⟩
    rintro rfl
    exact absurd hc (by decide)
  rw [← List.append_nil (text d).toList]
  cases d with
  | plain s => exact hname hd []
  | quoted s =>
    rw [text, Text.quoted_append]
    exact ⟨_, _, rfl, by decide⟩
  | wrapped name value =>
    rw [wrapped_append]
    exact hname hd.1 _
  | record name fields more =>
    rw [record_append]
    exact hname hd.1 _
  | list name items =>
    rw [list_append]
    obtain ⟨rfl | rfl, -⟩ := hd <;> exact ⟨_, _, rfl, by decide⟩
  | map name entries =>
    rw [map_append]
    obtain ⟨rfl | rfl, -⟩ := hd <;> exact ⟨_, _, rfl, by decide⟩

/-! ### Reading -/

theorem closing_inj {more more' : Bool} {r r' : List Char} (h : closing more r = closing more' r') :
    more = more' ∧ r = r' := by
  cases more <;> cases more' <;> simp_all [closing]

theorem ne_bracket_of_title {title : String} (h : title = "" ∨ title = "Array ") :
    ∀ c ∈ title.toList, (c != '[') = true := by
  rcases h with rfl | rfl <;> exact List.all_eq_true.1 rfl

theorem ne_brace_of_title {title : String} (h : title = "" ∨ title = "Object ") :
    ∀ c ∈ title.toList, (c != '{') = true := by
  rcases h with rfl | rfl <;> exact List.all_eq_true.1 rfl

theorem title_append_inj {title other : String} {c : Char} (h : ∀ x ∈ title.toList, (x != c) = true)
    (hother : ∀ x ∈ other.toList, (x != c) = true) {r r' : List Char}
    (heq : title.toList ++ c :: r = other.toList ++ c :: r') : title = other ∧ r = r' := by
  obtain ⟨hsame, hrest⟩ := append_inj_of_kind h hother (by simp) (by simp) heq
  exact ⟨String.toList_inj.1 hsame, (List.cons.inj hrest).2⟩

theorem closing_ne {fields : List (String × Description)} (h : FieldsLegible fields) (hne : fields ≠ [])
    (more more' : Bool) (r r' : List Char) :
    closing more r ≠ ',' :: ' ' :: ((fieldsText fields).toList ++ closing more' r') := by
  have hdots : ∀ c ∈ ['.', '.'], isNameChar c = true := List.all_eq_true.1 rfl
  obtain ⟨⟨name, value⟩, rest, rfl⟩ := List.exists_cons_of_ne_nil hne
  rw [fields_append]
  intro heq
  cases more with
  | false => exact absurd (List.cons.inj heq).1 (by decide)
  | true =>
    have hbody : ['.', '.'] ++ ' ' :: '}' :: r = _ := (List.cons.inj (List.cons.inj heq).2).2
    obtain ⟨-, hrest⟩ := append_inj_of_kind hdots h.1.chars (by simp; decide) (by simp; decide) hbody
    exact absurd (List.cons.inj hrest).1 (by decide)

theorem behind_inj {α : Type} {text : List α → String} (hnil : text [] = "") {rest rest' : List α}
    {close close' : List Char} {closed : Prop}
    (hends : rest' ≠ [] → close ≠ ',' :: ' ' :: ((text rest').toList ++ close'))
    (hends' : rest ≠ [] → close' ≠ ',' :: ' ' :: ((text rest).toList ++ close))
    (hrest : (text rest).toList ++ close = (text rest').toList ++ close' → rest = rest' ∧ closed)
    (h : behind text close rest = behind text close' rest') : rest = rest' ∧ closed := by
  apply hrest
  cases rest with
  | nil =>
    cases rest' with
    | nil => rw [hnil, show close = close' from h]
    | cons first others => exact absurd h (hends (List.cons_ne_nil first others))
  | cons first others =>
    cases rest' with
    | nil => exact absurd h.symm (hends' (List.cons_ne_nil first others))
    | cons first' others' => exact (List.cons.inj (List.cons.inj h).2).2

mutual

/-- A description is known from its text, whatever follows. -/
theorem text_append_inj : (d e : Description) → d.IsLegible → e.IsLegible → {r r' : List Char} →
    Ends r → Ends r' → (text d).toList ++ r = (text e).toList ++ r' → d = e ∧ r = r'
  | plain s, e, hd, he, r, r', hr, hr', h => by
    have hsign := sign_eq hd he hr hr' h
    cases e with
    | plain t =>
      obtain ⟨rfl, hrest⟩ := IsName.append_inj hd he hr.stops hr'.stops h
      exact ⟨rfl, hrest⟩
    | _ => cases hsign
  | quoted s, e, hd, he, r, r', hr, hr', h => by
    have hsign := sign_eq hd he hr hr' h
    cases e with
    | quoted t =>
      obtain ⟨rfl, hrest⟩ := Text.quoted_append_inj h
      exact ⟨rfl, hrest⟩
    | _ => cases hsign
  | wrapped name value, e, hd, he, r, r', hr, hr', h => by
    have hsign := sign_eq hd he hr hr' h
    cases e with
    | wrapped other value' =>
      rw [wrapped_append, wrapped_append] at h
      obtain ⟨rfl, hbody⟩ := hd.1.append_cons_inj he.1 (by decide) h
      obtain ⟨rfl, hrest⟩ := text_append_inj value value' hd.2 he.2 (.sign (by decide))
        (.sign (by decide)) hbody
      exact ⟨rfl, (List.cons.inj hrest).2⟩
    | _ => cases hsign
  | record name fields more, e, hd, he, r, r', hr, hr', h => by
    have hsign := sign_eq hd he hr hr' h
    cases e with
    | record other fields' more' =>
      rw [record_append, record_append] at h
      obtain ⟨rfl, hbody⟩ := hd.1.append_cons_inj he.1 (by decide) h
      have hfields := (List.cons.inj (List.cons.inj hbody).2).2
      obtain ⟨rfl, rfl, hrest⟩ := fieldsText_append_inj fields fields' hd.2 he.2 hfields
      exact ⟨rfl, hrest⟩
    | _ => cases hsign
  | list name items, e, hd, he, r, r', hr, hr', h => by
    have hsign := sign_eq hd he hr hr' h
    cases e with
    | list other items' =>
      rw [list_append, list_append] at h
      obtain ⟨rfl, hbody⟩ := title_append_inj (ne_bracket_of_title hd.1) (ne_bracket_of_title he.1) h
      obtain ⟨rfl, hrest⟩ := itemsText_append_inj items items' hd.2 he.2 hbody
      exact ⟨rfl, hrest⟩
    | _ => cases hsign
  | map name entries, e, hd, he, r, r', hr, hr', h => by
    have hsign := sign_eq hd he hr hr' h
    cases e with
    | map other entries' =>
      rw [map_append, map_append] at h
      obtain ⟨rfl, hbody⟩ := title_append_inj (ne_brace_of_title hd.1) (ne_brace_of_title he.1) h
      obtain ⟨rfl, hrest⟩ := entriesText_append_inj entries entries' hd.2 he.2 hbody
      exact ⟨rfl, hrest⟩
    | _ => cases hsign

termination_by structural d => d

theorem itemsText_append_inj : (items items' : List Description) → ItemsLegible items →
    ItemsLegible items' → {r r' : List Char} →
    (itemsText items).toList ++ ']' :: r = (itemsText items').toList ++ ']' :: r' →
    items = items' ∧ r = r'
  | [], [], _, _, _, _, h => ⟨rfl, (List.cons.inj h).2⟩
  | [], value :: rest, _, he, r, r', h => by
    obtain ⟨c, others, htext, hc⟩ := exists_text_cons he.1
    rw [items_append, htext] at h
    exact absurd (List.cons.inj h).1.symm hc
  | value :: rest, [], hd, _, r, r', h => by
    obtain ⟨c, others, htext, hc⟩ := exists_text_cons hd.1
    rw [items_append, htext] at h
    exact absurd (List.cons.inj h).1 hc
  | value :: rest, value' :: rest', hd, he, r, r', h => by
    have hends (r : List Char) : Ends (']' :: r) := .sign (by decide)
    rw [items_append, items_append] at h
    obtain ⟨rfl, hbehind⟩ := text_append_inj value value' hd.1 he.1 (ends_behind (hends r) rest)
      (ends_behind (hends r') rest') h
    obtain ⟨rfl, hrest⟩ := behind_inj rfl (by simp) (by simp)
      (itemsText_append_inj rest rest' hd.2 he.2) hbehind
    exact ⟨rfl, hrest⟩
termination_by structural items => items

theorem fieldsText_append_inj : (fields fields' : List (String × Description)) →
    FieldsLegible fields → FieldsLegible fields' → {more more' : Bool} → {r r' : List Char} →
    (fieldsText fields).toList ++ closing more r = (fieldsText fields').toList ++ closing more' r' →
    fields = fields' ∧ more = more' ∧ r = r'
  | [], [], _, _, _, _, _, _, h => ⟨rfl, closing_inj h⟩
  | [], (name, value) :: rest, _, he, more, more', r, r', h => by
    rw [fields_append] at h
    exact absurd h.symm (he.1.append_ne (ends_closing more r))
  | (name, value) :: rest, [], hd, _, more, more', r, r', h => by
    rw [fields_append] at h
    exact absurd h (hd.1.append_ne (ends_closing more' r'))
  | (name, value) :: rest, (name', value') :: rest', hd, he, more, more', r, r', h => by
    rw [fields_append, fields_append] at h
    obtain ⟨rfl, hbody⟩ := hd.1.append_cons_inj he.1 (by decide) h
    obtain ⟨rfl, hbehind⟩ := text_append_inj value value' hd.2.1 he.2.1
      (ends_behind (ends_closing more r) rest) (ends_behind (ends_closing more' r') rest')
      (List.cons.inj hbody).2
    obtain ⟨rfl, hclosed⟩ := behind_inj rfl (fun hne => closing_ne he.2.2 hne more more' r r')
      (fun hne => closing_ne hd.2.2 hne more' more r' r)
      (fieldsText_append_inj rest rest' hd.2.2 he.2.2) hbehind
    exact ⟨rfl, hclosed⟩
termination_by structural fields => fields

theorem entriesText_append_inj : (entries entries' : List (String × Description)) →
    EntriesLegible entries → EntriesLegible entries' → {r r' : List Char} →
    (entriesText entries).toList ++ '}' :: r = (entriesText entries').toList ++ '}' :: r' →
    entries = entries' ∧ r = r'
  | [], [], _, _, _, _, h => ⟨rfl, (List.cons.inj h).2⟩
  | [], (key, value) :: rest, _, _, r, r', h => by
    rw [entries_append, Text.quoted_append] at h
    exact absurd (List.cons.inj h).1 (by decide)
  | (key, value) :: rest, [], _, _, r, r', h => by
    rw [entries_append, Text.quoted_append] at h
    exact absurd (List.cons.inj h).1 (by decide)
  | (key, value) :: rest, (key', value') :: rest', hd, he, r, r', h => by
    have hends (r : List Char) : Ends ('}' :: r) := .sign (by decide)
    rw [entries_append, entries_append] at h
    obtain ⟨rfl, hbody⟩ := Text.quoted_append_inj h
    obtain ⟨rfl, hbehind⟩ := text_append_inj value value' hd.1 he.1 (ends_behind (hends r) rest)
      (ends_behind (hends r') rest') (List.cons.inj (List.cons.inj hbody).2).2
    obtain ⟨rfl, hrest⟩ := behind_inj rfl (by simp) (by simp)
      (entriesText_append_inj rest rest' hd.2 he.2) hbehind
    exact ⟨rfl, hrest⟩
termination_by structural entries => entries

end

theorem text_injective {d e : Description} (hd : d.IsLegible) (he : e.IsLegible)
    (h : text d = text e) : d = e :=
  (text_append_inj d e hd he .nil .nil (by rw [h])).1

end Description

end CredentialWallet
