/-!
# Binary64

Double-precision numbers by their bits. A finite number is `± significand * 2 ^ exponent` with a
natural significand, so products and quotients are formed exactly as fractions and rounded once,
to the nearest representable number and to the even one when two are equally near.
-/

namespace ExtensionCatalogue

/-- A number of the 64-bit binary format, any NaN included. -/
structure Binary64 where
  bits : UInt64
  deriving DecidableEq, Repr, Inhabited

/-- The quotient `num / den` rounded to the nearest integer, a half to the even one. -/
def divHalfEven (num den : Nat) : Nat :=
  let q := num / den
  let r := num % den
  if 2 * r < den ∨ (2 * r = den ∧ q % 2 = 0) then q else q + 1

namespace Binary64

def zero : Binary64 := ⟨0⟩

/-- The bit above the fraction, which a normal number has and does not write. -/
def hiddenBit : Nat := 0x10000000000000

/-- The bit of the sign. -/
def signBit : Nat := 0x8000000000000000

/-- The bits of a sign, a biased exponent and a fraction, packed. -/
def ofParts (negative : Bool) (magnitude : Nat) : Binary64 :=
  ⟨UInt64.ofNat ((if negative then signBit else 0) + magnitude)⟩

/-- Everything but the sign bit. -/
def magnitude (x : Binary64) : Nat := x.bits.toNat % signBit

def isNegative (x : Binary64) : Bool := x.bits.toNat / signBit == 1

/-- The magnitude of an infinity; larger ones are NaN. -/
def infiniteMagnitude : Nat := 2047 * hiddenBit

def isNaN (x : Binary64) : Bool := infiniteMagnitude < x.magnitude

def isInfinite (x : Binary64) : Bool := x.magnitude == infiniteMagnitude

def isFinite (x : Binary64) : Bool := x.magnitude < infiniteMagnitude

def isZero (x : Binary64) : Bool := x.magnitude == 0

/-- The biased exponent. -/
def field (x : Binary64) : Nat := x.magnitude / hiddenBit

def significand (x : Binary64) : Nat :=
  let fraction := x.magnitude % hiddenBit
  if x.field = 0 then fraction else fraction + hiddenBit

/-- The power of two that the significand counts. -/
def exponent (x : Binary64) : Int := (max x.field 1 : Nat) - 1075

/-- The size of a finite number as a fraction. -/
def ratio (x : Binary64) : Nat × Nat :=
  match x.exponent with
  | .ofNat e => (x.significand * Nat.pow 2 e, 1)
  | .negSucc e => (x.significand, Nat.pow 2 (e + 1))

/-- The representable number nearest to `± num / den`, an infinity if the fraction is too large
and a zero of the same sign if it is too small. -/
def ofRatio (negative : Bool) (num den : Nat) : Binary64 :=
  if num = 0 then ofParts negative 0
  else
    let estimate : Int := (Nat.log2 num : Int) - Nat.log2 den
    let reaches : Bool :=
      match estimate with
      | .ofNat e => den * Nat.pow 2 e ≤ num
      | .negSucc e => den ≤ num * Nat.pow 2 (e + 1)
    let top := if reaches then estimate else estimate - 1
    let unit : Int := max (top - 52) (-1074)
    let rounded :=
      match unit with
      | .ofNat e => divHalfEven num (den * Nat.pow 2 e)
      | .negSucc e => divHalfEven (num * Nat.pow 2 (e + 1)) den
    ofParts negative (min ((unit + 1074).toNat * hiddenBit + rounded) infiniteMagnitude)

def ofNat (n : Nat) : Binary64 := ofRatio false n 1

def ofInt (i : Int) : Binary64 := ofRatio (i < 0) i.natAbs 1

def neg (x : Binary64) : Binary64 := ofParts (!x.isNegative) x.magnitude

/-- The product of two finite numbers. -/
def mul (x y : Binary64) : Binary64 :=
  let (a, b) := x.ratio
  let (c, d) := y.ratio
  ofRatio (x.isNegative != y.isNegative) (a * c) (b * d)

/-- The quotient of two finite numbers, the divisor not zero. -/
def div (x y : Binary64) : Binary64 :=
  let (a, b) := x.ratio
  let (c, d) := y.ratio
  ofRatio (x.isNegative != y.isNegative) (a * d) (b * c)

/-- The representable number nearest to a power of ten. -/
def powerOfTen (e : Nat) : Binary64 := ofNat (Nat.pow 10 e)

/-- The number moved into `0 ≤ x ≤ limit`, for a positive `limit`. Either zero stays as it is. -/
def clampTo (x limit : Binary64) : Binary64 :=
  if x.isNegative && !x.isZero then zero
  else if limit.magnitude < x.magnitude then limit
  else x

example : ofNat 1 = ⟨0x3FF0000000000000⟩ := by decide +kernel
example : ofRatio false 1 10 = ⟨0x3FB999999999999A⟩ := by decide +kernel
example : ofRatio true 1 (10 ^ 400) = ⟨0x8000000000000000⟩ := by decide +kernel
example : (powerOfTen 309).isInfinite = true := by decide +kernel
example : ofNat (2 ^ 53 + 1) = ofNat (2 ^ 53) := by decide +kernel

end Binary64

end ExtensionCatalogue
