import ExtensionCatalogue.Number.Digit
import ExtensionCatalogue.Toml.Value

/-!
# Numbers and dates in TOML

Each reader takes the scalar from the start of a text and returns the rest. Underscores may stand
between two digits. An integer has 64 bits and a sign; a number that is too large for a double is
refused, unless it is negative. A date has to exist in the calendar.
-/

namespace ExtensionCatalogue.Toml

abbrev Reader (α : Type) := List Char → Option (α × List Char)

/-- The digits that follow others, where an underscore needs a digit after it. -/
def moreDigits (base : Nat) : Reader (List Nat)
  | [] => some ([], [])
  | '_' :: c :: cs => do
    let d ← Digit.value? base c
    let (ds, rest) ← moreDigits base cs
    return (d :: ds, rest)
  | '_' :: [] => none
  | c :: cs =>
    match Digit.value? base c with
    | none => some ([], c :: cs)
    | some d => do
      let (ds, rest) ← moreDigits base cs
      return (d :: ds, rest)

/-- One digit at least. -/
def digits (base : Nat) : Reader (List Nat)
  | [] => none
  | c :: cs => do
    let d ← Digit.value? base c
    let (ds, rest) ← moreDigits base cs
    return (d :: ds, rest)

def valueOf (base : Nat) (ds : List Nat) : Nat := ds.foldl (fun n d => n * base + d) 0

def sign : List Char → Bool × List Char
  | '-' :: cs => (true, cs)
  | '+' :: cs => (false, cs)
  | cs => (false, cs)

/-- The digits of a decimal integer. A leading zero stands alone. -/
def wholeDigits : Reader (List Nat)
  | '0' :: cs => some ([0], cs)
  | cs => digits 10 cs

def smallest : Int := -0x8000000000000000

def largest : Int := 0x7FFFFFFFFFFFFFFF

def word? (i : Int) : Option Value :=
  if smallest ≤ i ∧ i ≤ largest then some (.integer i) else none

/-- An integer in decimal, or without a sign in hexadecimal, octal or binary. -/
def integer : Reader Value
  | '0' :: 'x' :: cs => do
    let (ds, rest) ← digits 16 cs
    return (← word? (valueOf 16 ds), rest)
  | '0' :: 'o' :: cs => do
    let (ds, rest) ← digits 8 cs
    return (← word? (valueOf 8 ds), rest)
  | '0' :: 'b' :: cs => do
    let (ds, rest) ← digits 2 cs
    return (← word? (valueOf 2 ds), rest)
  | cs => do
    let (negative, cs) := sign cs
    let (ds, rest) ← wholeDigits cs
    let n : Int := valueOf 10 ds
    return (← word? (if negative then -n else n), rest)

/-- The double nearest to `± n * 10 ^ e`, where `places` bounds the digits of `n`. -/
def real (negative : Bool) (n : Nat) (places : Nat) (e : Int) : Binary64 :=
  if n = 0 then .ofRatio negative 0 1
  else if 400 < e + places then .ofParts negative Binary64.infiniteMagnitude
  else if e < -(400 + places) then .ofParts negative 0
  else
    match e with
    | .ofNat e => .ofRatio negative (n * Nat.pow 10 e) 1
    | .negSucc e => .ofRatio negative n (Nat.pow 10 (e + 1))

/-- The digits after a point. -/
def fraction : Reader (Option (List Nat))
  | '.' :: cs => (digits 10 cs).map fun (ds, rest) => (some ds, rest)
  | cs => some (none, cs)

/-- The exponent of a number. -/
def exponent : Reader (Option Int)
  | c :: cs =>
    if c = 'e' ∨ c = 'E' then do
      let (negative, cs) := sign cs
      let (ds, rest) ← digits 10 cs
      let n : Int := valueOf 10 ds
      return (some (if negative then -n else n), rest)
    else some (none, c :: cs)
  | [] => some (none, [])

/-- A number with a fraction or an exponent, or an infinity or NaN by name. -/
def float : Reader Value := fun cs => do
  let (negative, cs) := sign cs
  match cs with
  | 'i' :: 'n' :: 'f' :: rest =>
    return (.real (.ofParts negative Binary64.infiniteMagnitude), rest)
  | 'n' :: 'a' :: 'n' :: rest =>
    return (.real (.ofParts negative (Binary64.infiniteMagnitude + Binary64.hiddenBit / 2)), rest)
  | cs =>
    let (whole, cs) ← wholeDigits cs
    let (frac?, cs) ← fraction cs
    let (exp?, rest) ← exponent cs
    if frac?.isNone && exp?.isNone then none
    else
      let ds := whole ++ frac?.getD []
      let x := real negative (valueOf 10 ds) ds.length
        (exp?.getD 0 - ((frac?.getD []).length : Int))
      if x.isInfinite && !negative then none else return (.real x, rest)

/-- A number of exactly `n` decimal digits between two bounds. -/
def fixedNumber (n low high : Nat) : Reader Nat := fun cs => do
  let front := cs.take n
  if front.length = n then
    let v ← Digit.number? 10 front
    if low ≤ v ∧ v ≤ high then return (v, cs.drop n) else none
  else none

def charIf (p : Char → Bool) : Reader Char
  | c :: cs => if p c then some (c, cs) else none
  | [] => none

def isLeapYear (y : Nat) : Bool := y % 4 == 0 && (y % 100 != 0 || y % 400 == 0)

def daysOf (year month : Nat) : Nat :=
  if month = 2 then if isLeapYear year then 29 else 28
  else if month ∈ [4, 6, 9, 11] then 30 else 31

/-- A date, written `year-month-day`. -/
def date : Reader Unit := fun cs => do
  let (year, cs) ← fixedNumber 4 0 9999 cs
  let (_, cs) ← charIf (· == '-') cs
  let (month, cs) ← fixedNumber 2 1 12 cs
  let (_, cs) ← charIf (· == '-') cs
  let (_, cs) ← fixedNumber 2 1 (daysOf year month) cs
  return ((), cs)

/-- A time, written `hour:minute:second` and possibly a fraction. -/
def time : Reader Unit := fun cs => do
  let (_, cs) ← fixedNumber 2 0 23 cs
  let (_, cs) ← charIf (· == ':') cs
  let (_, cs) ← fixedNumber 2 0 59 cs
  let (_, cs) ← charIf (· == ':') cs
  let (_, cs) ← fixedNumber 2 0 60 cs
  match cs with
  | '.' :: rest =>
    let rest' := rest.dropWhile Char.isDigit
    if rest'.length = rest.length then none else return ((), rest')
  | cs => return ((), cs)

/-- An offset: `Z`, or a distance in hours and minutes. -/
def offset : Reader Unit := fun cs => do
  let (c, cs) ← charIf (· ∈ ['Z', 'z', '+', '-']) cs
  if c = 'Z' ∨ c = 'z' then return ((), cs)
  else
    let (_, cs) ← fixedNumber 2 0 23 cs
    let (_, cs) ← charIf (· == ':') cs
    let (_, cs) ← fixedNumber 2 0 59 cs
    return ((), cs)

/-- A date, a time, or both with a possible offset. -/
def dateTime : Reader Value := fun cs =>
  match date cs with
  | some (_, rest) =>
    let later := do
      let (_, rest) ← charIf (· ∈ ['T', 't', ' ']) rest
      time rest
    match later with
    | none => some (.dateTime, rest)
    | some (_, rest) =>
      match rest with
      | c :: _ =>
        if c ∈ ['Z', 'z', '+', '-'] then (offset rest).map fun (_, rest) => (.dateTime, rest)
        else some (.dateTime, rest)
      | [] => some (.dateTime, rest)
  | none => (time cs).map fun (_, rest) => (.dateTime, rest)

/-- A number, a date or a time. -/
def number : Reader Value := fun cs =>
  dateTime cs <|> float cs <|> integer cs

example : (integer "1_000".toList).map (·.2) = some [] := by decide +kernel
example : (float "1e309".toList).isNone = true := by decide +kernel
example : (date "2023-02-29".toList).isNone = true := by decide +kernel

end ExtensionCatalogue.Toml
