import ExtensionCatalogue.Number.Binary64

/-!
# JSON numerals

`Numeral` is a number as written and `Numeral.value?` the number that it stands for. A plain
integer of 64 bits stands for itself. Anything else is a double that is formed in two roundings:
the digits are collected as long as they fit 64 bits, and the collected integer, rounded, is
multiplied or divided once by a power of ten. The result is therefore not always the nearest
double. A number beyond the largest double has no value.
-/

namespace ExtensionCatalogue.Json

/-- A number as written: its sign, its digits before and after the point, and its exponent. -/
structure Numeral where
  negative : Bool
  whole : List Char
  fraction : Option (List Char)
  exponent : Option (Bool × List Char)
  deriving DecidableEq, Repr

/-- The number that a numeral stands for. -/
inductive Number where
  | integer (i : Int)
  | real (x : Binary64)
  deriving DecidableEq, Repr

/-- The longest start of digits and what follows. -/
def spanDigits (cs : List Char) : List Char × List Char :=
  cs.span Char.isDigit

namespace Numeral

/-- The exponent at the end of a numeral, if there is one. -/
def exponent? : List Char → Option (Option (Bool × List Char))
  | [] => some none
  | e :: cs =>
    if e = 'e' ∨ e = 'E' then
      let (negative, ds) := match cs with
        | '-' :: ds => (true, ds)
        | '+' :: ds => (false, ds)
        | ds => (false, ds)
      if ds.isEmpty || !ds.all Char.isDigit then none else some (some (negative, ds))
    else none

/-- What follows the digits before the point. -/
def tail? (negative : Bool) (whole : List Char) : List Char → Option Numeral
  | '.' :: cs =>
    let (ds, rest) := spanDigits cs
    if ds.isEmpty then none
    else (exponent? rest).map (⟨negative, whole, some ds, ·⟩)
  | cs => (exponent? cs).map (⟨negative, whole, none, ·⟩)

/-- A numeral without its sign. A leading zero stands alone before the point. -/
def unsigned? (negative : Bool) : List Char → Option Numeral
  | '0' :: cs => tail? negative ['0'] cs
  | cs =>
    let (ds, rest) := spanDigits cs
    if ds.isEmpty then none else tail? negative ds rest

/-- The numeral that is written as `cs`. -/
def ofChars? : List Char → Option Numeral
  | '-' :: cs => unsigned? true cs
  | cs => unsigned? false cs

end Numeral

def digitValue (c : Char) : Nat := c.toNat - '0'.toNat

/-- The natural number that decimal digits write. -/
def digitsValue (ds : List Char) : Nat :=
  ds.foldl (fun n c => n * 10 + digitValue c) 0

/-- The largest integer that digits are collected into. -/
def largestWord : Nat := 0xFFFFFFFFFFFFFFFF

/-- Digits before the point, collected after `n` as long as the result fits; each digit left out
counts as a factor of ten. -/
def collectWhole (n : Nat) : List Char → Nat × Int
  | [] => (n, 0)
  | c :: cs =>
    if n * 10 + digitValue c ≤ largestWord then collectWhole (n * 10 + digitValue c) cs
    else (n, (cs.length + 1 : Nat))

/-- Digits after the point, collected after `n` as long as the result fits, with the power of ten
that the result counts; the digits left out are ignored. -/
def collectFraction (n : Nat) (e : Int) : List Char → Nat × Int
  | [] => (n, e)
  | c :: cs =>
    if n * 10 + digitValue c ≤ largestWord then
      collectFraction (n * 10 + digitValue c) (e - 1) cs
    else (n, e)

/-- The quotient `x / 10 ^ e`, in steps of at most `10 ^ 308`. Three steps take every collected
integer to zero. -/
def scaleDown : Nat → Binary64 → Nat → Binary64
  | 0, _, _ => .zero
  | steps + 1, x, e =>
    if e ≤ 308 then x.div (.powerOfTen e)
    else if x.isZero then x
    else scaleDown steps (x.div (.powerOfTen 308)) (e - 308)

/-- The number `n * 10 ^ e` as a double, if it is not too large for one. -/
def scaled? (n : Nat) (e : Int) : Option Binary64 :=
  let x := Binary64.ofNat n
  match e with
  | .ofNat e =>
    if e ≤ 308 then
      let y := x.mul (.powerOfTen e)
      if y.isFinite then some y else none
    else if x.isZero then some x else none
  | .negSucc e => some (scaleDown 4 x (e + 1))

namespace Numeral

/-- The size of a numeral as a double. -/
def size? (m : Numeral) : Option Binary64 :=
  let (n, e) := collectWhole 0 m.whole
  let (n, e) := collectFraction n e (m.fraction.getD [])
  match m.exponent with
  | none => scaled? n e
  | some (true, ds) => scaled? n (e - digitsValue ds)
  | some (false, ds) => scaled? n (e + digitsValue ds)

/-- The number that a numeral stands for. A negative zero is a double. -/
def value? (m : Numeral) : Option Number :=
  let n := digitsValue m.whole
  if m.fraction.isNone && m.exponent.isNone && !m.negative && n ≤ largestWord then
    some (.integer n)
  else if m.fraction.isNone && m.exponent.isNone && m.negative && 0 < n && n ≤ 0x8000000000000000 then
    some (.integer (-n))
  else
    m.size?.map fun x => .real (if m.negative then x.neg else x)

end Numeral

example : (Numeral.ofChars? "-0".toList).bind Numeral.value? =
    some (.real ⟨0x8000000000000000⟩) := by decide +kernel
example : Numeral.ofChars? "01".toList = none := by decide +kernel
example : (Numeral.ofChars? "1e309".toList).bind Numeral.value? = none := by decide +kernel
example : (Numeral.ofChars? "0e999".toList).bind Numeral.value? = some (.real .zero) := by
  decide +kernel
example : (Numeral.ofChars? "18446744073709551615".toList).bind Numeral.value? =
    some (.integer 18446744073709551615) := by decide +kernel

end ExtensionCatalogue.Json
