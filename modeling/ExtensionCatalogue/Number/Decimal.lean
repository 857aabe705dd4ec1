import ExtensionCatalogue.Number.Binary64

/-!
# Decimal text of numbers

`Binary64.shortest` finds the decimal with the fewest digits that reads back as the same number,
and the nearest of those. It walks down the decimal grids and takes the first one on which a
neighbour of the number lies in its rounding interval. `NumberStyle` says how such a decimal is
written, and `Binary64.fixed` writes a number with a fixed count of decimal places.
-/

namespace ExtensionCatalogue

/-- The number `digits * 10 ^ exponent`. -/
structure Decimal where
  digits : Nat
  exponent : Int
  deriving DecidableEq, Repr

namespace Binary64

/-- The numbers that round to `x` in units of `2 ^ (x.exponent - 2)`: lowest, `x` itself and
highest. Below a power of two the neighbour is half as far. -/
def interval (x : Binary64) : Nat × Nat × Nat :=
  let m := x.significand
  let lowest := if m = hiddenBit ∧ 1 < x.field then 4 * m - 1 else 4 * m - 2
  (lowest, 4 * m, 4 * m + 2)

/-- Whether `a / b` lies in the rounding interval `low / den … high / den`. -/
def covers (even : Bool) (low high den a b : Nat) : Bool :=
  if even then low * b ≤ a * den && a * den ≤ high * b
  else low * b < a * den && a * den < high * b

/-- The point nearest to `mid / den` on the first grid `10 ^ k`, going down, that has a point in the
interval; a half goes to the even neighbour. -/
def shortestFrom (even : Bool) (low mid high den : Nat) : Nat → Int → Decimal
  | 0, k => ⟨0, k⟩
  | steps + 1, k =>
    let (up, down) := match k with
      | .ofNat e => (Nat.pow 10 e, 1)
      | .negSucc e => (1, Nat.pow 10 (e + 1))
    let floor := mid * down / (den * up)
    let nearest := divHalfEven (mid * down) (den * up)
    let other := if nearest = floor then floor + 1 else floor
    if covers even low high den (nearest * up) down then ⟨nearest, k⟩
    else if covers even low high den (other * up) down then ⟨other, k⟩
    else shortestFrom even low mid high den steps (k - 1)

/-- The shortest decimal that reads back as the size of a finite number. The first grid is wider
than the number and seventeen digits always suffice. -/
def shortest (x : Binary64) : Decimal :=
  if x.significand = 0 then ⟨0, 0⟩
  else
    let (low, mid, high) := x.interval
    let even := x.significand % 2 == 0
    let top : Int := (Nat.log2 x.significand + 1 : Nat) + x.exponent
    let first : Int := top * 30103 / 100000 + 1
    match x.exponent - 2 with
    | .ofNat e => 
      let unit := Nat.pow 2 e
      shortestFrom even (low * unit) (mid * unit) (high * unit) 1 24 first
    | .negSucc e => shortestFrom even low mid high (Nat.pow 2 (e + 1)) 24 first

end Binary64

/-- How a number is written: the range of decimal exponents that are written in place, what
follows an integral one, and the signs of the exponents. -/
structure NumberStyle where
  lowest : Int
  highest : Int
  integral : String
  plusSign : String
  nan : String
  infinite : String

/-- Numbers of the wire format: in place from `10 ^ -5` to below `10 ^ 16`, with `.0` after an
integral number, otherwise with a signed exponent. -/
def NumberStyle.wire : NumberStyle := ⟨-5, 15, ".0", "+", "NaN", "inf"⟩

/-- The decimal digits of a natural number. -/
def digitChars (n : Nat) : List Char := Nat.toDigits 10 n

namespace Decimal

/-- The digits in place, with `integral` after a number without a fraction. -/
def positional (style : NumberStyle) (d : Decimal) : List Char :=
  let ds := digitChars d.digits
  match d.exponent with
  | .ofNat e => ds ++ List.replicate e '0' ++ style.integral.toList
  | .negSucc e =>
    let places := e + 1
    if places < ds.length then
      ds.take (ds.length - places) ++ '.' :: ds.drop (ds.length - places)
    else '0' :: '.' :: (List.replicate (places - ds.length) '0' ++ ds)

/-- One digit, the others after a point, and the exponent. -/
def scientific (style : NumberStyle) (d : Decimal) : List Char :=
  let ds := digitChars d.digits
  let e : Int := d.exponent + (ds.length - 1 : Nat)
  let mantissa := match ds with
    | [] => []
    | [c] => [c]
    | c :: more => c :: '.' :: more
  mantissa ++ 'e' :: ((if e < 0 then ['-'] else style.plusSign.toList) ++ digitChars e.natAbs)

def chars (style : NumberStyle) (d : Decimal) : List Char :=
  let e : Int := d.exponent + ((digitChars d.digits).length - 1 : Nat)
  if style.lowest ≤ e ∧ e ≤ style.highest then d.positional style else d.scientific style

end Decimal

namespace Binary64

/-- The text of a number, with the sign of a zero. -/
def chars (style : NumberStyle) (x : Binary64) : List Char :=
  if x.isNaN then style.nan.toList
  else
    let size := if x.isInfinite then style.infinite.toList else x.shortest.chars style
    if x.isNegative then '-' :: size else size

/-- The text of a finite number with `places` decimal places, at least one; a half goes to the
even neighbour. -/
def fixed (places : Nat) (x : Binary64) : List Char :=
  let (num, den) := x.ratio
  let one := Nat.pow 10 places
  let n := divHalfEven (num * one) den
  let tail := digitChars (n % one)
  let size := digitChars (n / one) ++ '.' ::
    (List.replicate (places - tail.length) '0' ++ tail)
  if x.isNegative then '-' :: size else size

example : (ofRatio false 1 10).chars .wire = "0.1".toList := by decide +kernel
example : (ofNat (10 ^ 16)).chars .wire = "1e+16".toList := by decide +kernel
example : (ofNat 123456789012345).chars .wire = "123456789012345.0".toList := by decide +kernel
example : (⟨1⟩ : Binary64).chars .wire = "5e-324".toList := by decide +kernel
example : (ofRatio false 1 80000).chars .wire = "0.0000125".toList := by decide +kernel
example : (⟨0x8000000000000000⟩ : Binary64).chars .wire = "-0.0".toList := by decide +kernel
example : (ofNat (10 ^ 23)).chars .wire = "1e+23".toList := by decide +kernel
example : (ofRatio false 9 4).fixed 1 = "2.2".toList := by decide +kernel

end Binary64

end ExtensionCatalogue
