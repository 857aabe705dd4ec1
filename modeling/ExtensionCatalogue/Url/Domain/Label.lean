import ExtensionCatalogue.Text.Composed
import ExtensionCatalogue.Text.Punycode
import ExtensionCatalogue.Url.Domain.Classes
import ExtensionCatalogue.Url.Domain.Mapping

/-!
# Labels of domain names

A label in its own characters and in ASCII. A label with other characters is written in ASCII as
`xn--` and its Punycode. What may stand in a label: its characters are those that stand for
themselves, it does not begin with a mark, and a joiner stands only where it shows. In a name that
has characters written from right to left, each label keeps the rule for bidirectional labels.
-/

namespace ExtensionCatalogue.Domain

def isAscii (c : Char) : Bool :=
  c.toNat < 0x80

/-- Whether a domain name holds a character as it is. -/
def standsForItself (c : Char) : Bool :=
  isAscii c || !(mappingTable.contains c || disallowedTable.contains c)

def isMark (c : Char) : Bool :=
  !isAscii c && markTable.contains c

/-! ## Joiners -/

def zeroWidthNonJoiner : Char := '\u200C'

def zeroWidthJoiner : Char := '\u200D'

/-- How the nearest character that is not transparent joins. -/
def nearestJoining? (cs : List Char) : Option Joining :=
  (cs.map joiningTable.find?).find? (· != some .transparent) |>.join

/-- Whether a joiner shows after `before`, nearest character first, and in front of `after`: after
a virama, or, if it keeps two letters apart, between letters that would join. -/
def joinerShows (c : Char) (before after : List Char) : Bool :=
  before.head?.any (Text.combiningClass · == 9) ||
    (c == zeroWidthNonJoiner &&
      nearestJoining? before ∈ [some Joining.left, some .both] &&
      nearestJoining? after ∈ [some Joining.right, some .both])

def joinersShow (before : List Char) : List Char → Bool
  | [] => true
  | c :: cs =>
    (!(c == zeroWidthNonJoiner || c == zeroWidthJoiner) || joinerShows c before cs) &&
      joinersShow (c :: before) cs

/-! ## Direction -/

def direction (c : Char) : Direction :=
  (directionTable.find? c).getD .leftToRight

/-- Whether a text has a character that makes the whole name bidirectional. -/
def hasRightToLeft (cs : List Char) : Bool :=
  cs.any fun c => direction c ∈ [.rightToLeft, .arabicDigit]

/-- The directions up to the last one that is not of a mark. -/
def withoutEndMarks (ds : List Direction) : List Direction :=
  (ds.reverse.dropWhile (· = .mark)).reverse

/-- The rule for bidirectional labels: the first character gives the direction of the label, no
letter of the other direction stands in it, it ends with a letter of its direction or a digit, and
digits of the two kinds do not meet in a label from right to left. -/
def keepsDirection (ds : List Direction) : Bool :=
  let last := (withoutEndMarks ds).getLast?
  match ds.head? with
  | none => true
  | some .leftToRight =>
    ds.all (· ∉ [.rightToLeft, .arabicDigit]) &&
      last ∈ [some .leftToRight, some .europeanDigit]
  | some .rightToLeft =>
    ds.all (· != .leftToRight) &&
      last ∈ [some .rightToLeft, some .europeanDigit, some .arabicDigit] &&
      !(ds.contains .europeanDigit && ds.contains .arabicDigit)
  | some _ => false

/-! ## Labels -/

/-- A label in its own characters and in ASCII. -/
structure Label where
  text : List Char
  ascii : List Char
  deriving DecidableEq, Repr

namespace Label

/-- What begins the ASCII form of a label with other characters. -/
def mark : List Char := ['x', 'n', '-', '-']

/-- The most characters that are written in Punycode, and the most that are read from it. -/
def longest : Nat × Nat := (1000, 2000)

/-- What holds of the characters of a label above ASCII. -/
def isWellFormed (text : List Char) : Bool :=
  text.all standsForItself && !text.head?.any isMark && joinersShow [] text

/-- A label that is given in ASCII, after its mark. It has other characters, in composed form. -/
def ofPunycode? (cs : List Char) : Option Label := do
  if longest.2 < cs.length || !cs.all isAscii then none
  let text ← Punycode.decode? cs
  if text.all isAscii || Text.composed text != text || !isWellFormed text then none
  return ⟨text, mark ++ cs⟩

/-- The label that is written in characters which are mapped and composed. -/
def ofChars? (cs : List Char) : Option Label :=
  if mark.isPrefixOf cs then ofPunycode? (cs.drop mark.length)
  else if cs.all isAscii then some ⟨cs, cs⟩
  else if isWellFormed cs && cs.length ≤ longest.1 then some ⟨cs, mark ++ Punycode.encode cs⟩
  else none

end Label

example : keepsDirection [.rightToLeft, .europeanDigit, .mark] = true := by decide
example : keepsDirection [.europeanDigit, .rightToLeft] = false := by decide
example : keepsDirection [.rightToLeft, .neutral] = false := by decide

end ExtensionCatalogue.Domain
