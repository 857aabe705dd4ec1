/-!
# Digits

The digits of the bases up to sixteen, in either case, and the numbers that they write.
-/

namespace ExtensionCatalogue.Digit

/-- The digit of a number below sixteen, with letters in lower case. -/
def lower (n : Nat) : Char :=
  if n < 10 then Char.ofNat (48 + n) else Char.ofNat (87 + n)

/-- The digit of a number below sixteen, with letters in upper case. -/
def upper (n : Nat) : Char :=
  if n < 10 then Char.ofNat (48 + n) else Char.ofNat (55 + n)

/-- The value of a digit of a base. -/
def value? (base : Nat) (c : Char) : Option Nat :=
  let n := if '0' ≤ c ∧ c ≤ '9' then c.toNat - 48
    else if 'a' ≤ c ∧ c ≤ 'f' then c.toNat - 87
    else if 'A' ≤ c ∧ c ≤ 'F' then c.toNat - 55
    else base
  if n < base then some n else none

/-- The number that the digits of a base write; no digits write zero. -/
def number? (base : Nat) (cs : List Char) : Option Nat :=
  cs.foldlM (fun n c => (value? base c).map (n * base + ·)) 0

theorem value?_lower {base n : Nat} (h : n < base) (hb : base ≤ 16) :
    value? base (lower n) = some n := by
  have all : ∀ b ∈ List.range 17, ∀ m ∈ List.range b, value? b (lower m) = some m := by
    decide +kernel
  exact all base (List.mem_range.2 (by omega)) n (List.mem_range.2 h)

example : number? 16 "1f4A9".toList = some 0x1F4A9 := by decide +kernel
example : number? 8 "18".toList = none := by decide +kernel

end ExtensionCatalogue.Digit
