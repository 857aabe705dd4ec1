/-!
# Punycode

Text in letters, digits and hyphens. The ASCII characters come first, then a hyphen, then the
others in ascending order as distances: each number says how many places of the growing text, over
all code points, lie between one insertion and the next. Numbers are in base 36 with the lowest
digit first; a digit below its threshold is the last one, and the thresholds follow the size of the
numbers so far.
-/

namespace ExtensionCatalogue.Punycode

/-- The letter or digit that stands for a number below 36. -/
def digit (n : Nat) : Char :=
  if n < 26 then Char.ofNat (97 + n) else Char.ofNat (22 + n)

def digitValue? (c : Char) : Option Nat :=
  if 'a' ≤ c ∧ c ≤ 'z' then some (c.toNat - 97)
  else if 'A' ≤ c ∧ c ≤ 'Z' then some (c.toNat - 65)
  else if '0' ≤ c ∧ c ≤ '9' then some (c.toNat - 22)
  else none

/-- The least digit that is followed by another one, at a position that is 36 for the first digit
and grows by 36. -/
def threshold (bias position : Nat) : Nat :=
  min 26 (max 1 (position - bias))

/-- The first bias. -/
def initialBias : Nat := 72

/-- How often a distance is cut by 35 before it is small, and what is left of it. -/
def shrink (distance : Nat) : Nat × Nat :=
  if 455 < distance then
    let (times, rest) := shrink (distance / 35)
    (times + 1, rest)
  else (0, distance)
termination_by distance

/-- The bias after a distance in a text that has now `count` characters. -/
def nextBias (distance count : Nat) (isFirst : Bool) : Nat :=
  let distance := distance / (if isFirst then 700 else 2)
  let (times, rest) := shrink (distance + distance / count)
  36 * times + 36 * rest / (rest + 38)

theorem threshold_pos (bias position : Nat) : 1 ≤ threshold bias position := by
  unfold threshold; omega

/-! ## Writing -/

/-- The digits of a distance. -/
def number (bias position distance : Nat) : List Char :=
  let t := threshold bias position
  if distance < t then [digit distance]
  else
    digit (t + (distance - t) % (36 - t)) ::
      number bias (position + 36) ((distance - t) / (36 - t))
termination_by distance
decreasing_by
  have := threshold_pos bias position
  exact Nat.lt_of_le_of_lt (Nat.div_le_self ..) (by omega)

/-- The insertions written so far: their digits, the number of characters that are in place, the
places passed since the last one and the bias. -/
structure Insertions where
  digits : List Char
  placed : Nat
  distance : Nat
  bias : Nat

/-- Passes one character of the text when the characters with the code `code` have their turn. -/
def Insertions.pass (ascii code : Nat) (w : Insertions) (c : Char) : Insertions :=
  if c.toNat < code then { w with distance := w.distance + 1 }
  else if c.toNat = code then
    { digits := w.digits ++ number w.bias 36 w.distance
      placed := w.placed + 1
      distance := 0
      bias := nextBias w.distance (w.placed + 1) (w.placed = ascii) }
  else w

/-- Inserts the characters with the codes `codes`, where the code `next` is the first that is not
done. -/
def insertAll (text : List Char) (ascii : Nat) :
    Insertions → Nat → List Nat → Insertions
  | w, _, [] => w
  | w, next, code :: codes =>
    let w := { w with distance := w.distance + (code - next) * (w.placed + 1) }
    let w := text.foldl (Insertions.pass ascii code) w
    insertAll text ascii { w with distance := w.distance + 1 } (code + 1) codes

/-- The codes above ASCII in ascending order, each once. -/
def codesOf (text : List Char) : List Nat :=
  (((text.map Char.toNat).filter (0x80 ≤ ·)).mergeSort (· ≤ ·)).eraseReps

def encode (text : List Char) : List Char :=
  let ascii := text.filter (·.toNat < 0x80)
  let w := insertAll text ascii.length ⟨[], ascii.length, 0, initialBias⟩ 0x80 (codesOf text)
  ascii ++ (if ascii.isEmpty then [] else ['-']) ++ w.digits

/-! ## Reading -/

/-- A text under way: the code and the place of the last insertion, the place at which the number
under way began, and the factor and position of its next digit. -/
structure Reading where
  text : List Char
  code : Nat
  place : Nat
  start : Nat
  factor : Nat
  position : Nat
  bias : Nat

/-- Reads one digit. The last digit of a number inserts a character. -/
def Reading.step (r : Reading) (c : Char) : Option Reading := do
  let n ← digitValue? c
  let place := r.place + n * r.factor
  let t := threshold r.bias r.position
  if t ≤ n then
    return { r with place, factor := r.factor * (36 - t), position := r.position + 36 }
  let count := r.text.length + 1
  let code := r.code + place / count
  let spot := place % count
  if code.isValidChar then
    return {
      text := r.text.insertIdx spot (Char.ofNat code)
      code
      place := spot + 1
      start := spot + 1
      factor := 1
      position := 36
      bias := nextBias (place - r.start) count (r.start = 0) }
  none

/-- The characters before the last hyphen and the digits after it. A hyphen that begins the text
ends nothing. -/
def divide (cs : List Char) : List Char × List Char :=
  let digits := (cs.reverse.takeWhile (· != '-')).reverse
  let before := cs.take (cs.length - digits.length)
  if before.length ≤ 1 then ([], cs) else (before.dropLast, digits)

/-- The text, unless the last number is cut short. -/
def decode? (cs : List Char) : Option (List Char) := do
  let (ascii, digits) := divide cs
  let r ← digits.foldlM Reading.step ⟨ascii, 0x80, 0, 0, 1, 36, initialBias⟩
  if r.position = 36 then some r.text else none

example : encode "münchen".toList = "mnchen-3ya".toList := by decide +kernel
example : decode? "mnchen-3ya".toList = some "münchen".toList := by decide +kernel
example : decode? "wgv71a119e".toList = some "日本語".toList := by decide +kernel
example : decode? "-tda".toList = none := by decide +kernel

end ExtensionCatalogue.Punycode
