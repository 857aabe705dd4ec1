import ExtensionCatalogue.Text.CombiningTable

/-!
# Composed text

Normalization form C: composite characters are taken apart, the marks after each base character are
put in the order of their combining classes, and what can be composed again is. Syllables of Hangul
are composed by a rule, all others by a table.
-/

namespace ExtensionCatalogue.Text

/-- The canonical combining class; it is zero for a character that keeps its place. -/
def combiningClass (c : Char) : Nat :=
  if c.toNat < 0x300 then 0 else (combiningTable.find? c).getD 0

/-! ## Hangul

The syllables stand in the order of their leading consonants, then of their 21 vowels, then of
their 27 trailing consonants, with the syllable that has none before them. -/

/-- The parts of a syllable. -/
def hangulParts? (c : Char) : Option (List Char) :=
  let i := c.toNat - 0xAC00
  if 0xAC00 ≤ c.toNat ∧ c.toNat ≤ 0xD7A3 then
    some <| Char.ofNat (0x1100 + i / 588) :: Char.ofNat (0x1161 + i % 588 / 28) ::
      if i % 28 = 0 then [] else [Char.ofNat (0x11A7 + i % 28)]
  else none

/-- The syllable of a leading consonant and a vowel, or of a syllable without a trailing consonant
and that consonant. -/
def hangulPair? (a b : Char) : Option Char :=
  let m := a.toNat
  let n := b.toNat
  if 0x1100 ≤ m ∧ m ≤ 0x1112 ∧ 0x1161 ≤ n ∧ n ≤ 0x1175 then
    some (Char.ofNat (0xAC00 + (m - 0x1100) * 588 + (n - 0x1161) * 28))
  else if 0xAC00 ≤ m ∧ m ≤ 0xD7A3 ∧ (m - 0xAC00) % 28 = 0 ∧ 0x11A8 ≤ n ∧ n ≤ 0x11C2 then
    some (Char.ofNat (m + (n - 0x11A7)))
  else none

/-! ## Taking apart -/

/-- The characters of a composite, taken apart up to `depth` times. -/
def partsWithin : Nat → Char → List Char
  | 0, c => [c]
  | depth + 1, c =>
    match pairTable.find? c with
    | some [a, b] => partsWithin depth a ++ [b]
    | _ => [c]

/-- The characters of which a character is made. No composite nests deeper than three pairs. -/
def parts (c : Char) : List Char :=
  if c.toNat < 0x80 then [c] else (hangulParts? c).getD (partsWithin 3 c)

/-! ## Order -/

/-- Puts a character in front of a text in order, behind the marks of a lower class. -/
def insertOrdered (c : Char) : List Char → List Char
  | [] => [c]
  | d :: ds =>
    if 0 < combiningClass d ∧ combiningClass d < combiningClass c then d :: insertOrdered c ds
    else c :: d :: ds

/-- The marks after each base character by class, and those of one class as they stood. -/
def orderMarks (cs : List Char) : List Char :=
  cs.foldr insertOrdered []

/-! ## Composing -/

/-- The composite of two characters. -/
def composite? (a b : Char) : Option Char :=
  if b.toNat < 0x300 then none
  else (hangulPair? a b).or <|
    (pairTable.spans.find? (·.entry = [a, b])).map fun s => Char.ofNat s.first

/-- Composes a text behind the base character `base` and the marks `marks` that stay, last one
first. A mark of the same class as a mark that stays does not get past it. -/
def composeAfter (base : Char) (marks : List Char) : List Char → List Char
  | [] => base :: marks.reverse
  | c :: cs =>
    let blocked := match marks with
      | [] => false
      | m :: _ => combiningClass c ≤ combiningClass m
    match if blocked then none else composite? base c with
    | some d => composeAfter d marks cs
    | none =>
      if combiningClass c = 0 then base :: marks.reverse ++ composeAfter c [] cs
      else composeAfter base (c :: marks) cs

/-- Composes a text in order. Marks that begin it have no base character. -/
def compose : List Char → List Char
  | [] => []
  | c :: cs => if combiningClass c = 0 then composeAfter c [] cs else c :: compose cs

/-- The normalization form C of a text. -/
def composed (cs : List Char) : List Char :=
  compose (orderMarks (cs.flatMap parts))

example : hangulParts? '한' = some ['\u1112', '\u1161', '\u11AB'] := by decide
example : hangulPair? '\u1112' '\u1161' = some '하' := by decide
example : hangulPair? '하' '\u11AB' = some '한' := by decide

end ExtensionCatalogue.Text
