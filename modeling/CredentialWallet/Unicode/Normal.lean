import CredentialWallet.Unicode.Composition
/-!
# The composed form of a text

Two texts that show the same characters may differ in how these are composed and in the order of their
marks. In the composed form every character is taken apart, the marks are put into order, and what can
be composed is.
-/

namespace CredentialWallet.Unicode

/-! ### Syllables

A syllable is a leading consonant, a vowel and perhaps a trailing consonant. All syllables stand in the
order of these three. -/

namespace Syllable

def first : Nat := 0xAC00
def leading : Nat := 0x1100
def vowel : Nat := 0x1161

/-- The place before the trailing consonants. -/
def trailing : Nat := 0x11A7

def leadingCount : Nat := 19
def vowelCount : Nat := 21
def trailingCount : Nat := 28

/-- The place of a code point among so many from a first one on. -/
def place? (start count n : Nat) : Option Nat :=
  if start ≤ n ∧ n < start + count then some (n - start) else none

/-- The parts of a syllable. -/
def parts? (c : Char) : Option (List Char) :=
  (place? first (leadingCount * vowelCount * trailingCount) c.toNat).map fun n =>
    let front := [Char.ofNat (leading + n / (vowelCount * trailingCount)),
      Char.ofNat (vowel + n % (vowelCount * trailingCount) / trailingCount)]
    if n % trailingCount = 0 then front else front ++ [Char.ofNat (trailing + n % trailingCount)]

/-- The syllable of a leading consonant and a vowel, or of a syllable without a trailing consonant and
that. -/
def compose? (a b : Char) : Option Char :=
  match place? leading leadingCount a.toNat, place? vowel vowelCount b.toNat with
  | some l, some v => some (Char.ofNat (first + (l * vowelCount + v) * trailingCount))
  | _, _ =>
    match place? first (leadingCount * vowelCount * trailingCount) a.toNat,
      place? trailing trailingCount b.toNat with
    | some n, some t =>
      if n % trailingCount = 0 ∧ t ≠ 0 then some (Char.ofNat (a.toNat + t)) else none
    | _, _ => none

end Syllable

/-! ### Taking apart -/

/-- A character taken apart at most so many times over. -/
def decomposeWithin : Nat → Char → List Char
  | 0, c => [c]
  | depth + 1, c =>
    match halves? c with
    | some (a, b) => decomposeWithin depth a ++ [b]
    | none => [c]

/-- A character taken apart. None is composed more than three times over. -/
def decompose (c : Char) : List Char := (Syllable.parts? c).getD (decomposeWithin 3 c)

/-! ### Order -/

/-- Puts a character in front of others, behind the marks that go before it. -/
def insertMark (c : Char) : List Char → List Char
  | [] => [c]
  | d :: rest =>
    if combiningClass d ≠ 0 ∧ combiningClass d < combiningClass c then d :: insertMark c rest
    else c :: d :: rest

/-- The marks behind each character in the order of their classes. -/
def orderMarks (cs : List Char) : List Char := cs.foldr insertMark []

/-! ### Composing -/

/-- A text while it is composed: what is done, in reverse; the character that may be composed further;
and the marks behind it that were not, the last one first. -/
structure Composing where
  done : List Char
  current : Option Char
  marks : List Char

namespace Composing

/-- What was composed so far, in reverse. -/
def written (s : Composing) : List Char := s.marks ++ s.current.toList ++ s.done

/-- Takes a character: it is composed with the current one, unless a mark between them stands in its
way. -/
def take (s : Composing) (c : Char) : Composing :=
  let k := combiningClass c
  let free := s.marks.head?.all fun mark => combiningClass mark < k
  let composed := s.current.bind fun a =>
    if free then (Syllable.compose? a c).or (composite? a c) else none
  match composed with
  | some composed => { s with current := some composed }
  | none =>
    if k = 0 then ⟨s.written, some c, []⟩
    else { s with marks := c :: s.marks }

end Composing

def compose (cs : List Char) : List Char := (cs.foldl Composing.take ⟨[], none, []⟩).written.reverse

/-- The composed form of a text. A text in ASCII is in it. -/
def normalize (cs : List Char) : List Char :=
  if cs.all (·.toNat < 128) then cs else compose (orderMarks (cs.flatMap decompose))

end CredentialWallet.Unicode
