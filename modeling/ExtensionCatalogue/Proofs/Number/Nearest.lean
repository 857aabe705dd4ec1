import ExtensionCatalogue.Proofs.Number.Decimal
import Mathlib.Algebra.Order.Field.Basic
import Mathlib.Data.Rat.Cast.Order
import Mathlib.Tactic.Linarith

/-!
# The number nearest to a decimal

What is written of a number is a decimal near to it. There is no other number between a number and
its neighbours, so a decimal in the rounding interval is nearer to no other one, and the shortest
decimal is in it (`isNearest_shortest`). Sizes are exact here, and without signs.
-/

namespace ExtensionCatalogue

/-- The fraction that a decimal is. -/
def Decimal.size (d : Decimal) : ℚ := d.digits * 10 ^ d.exponent

/-- A power as the quotient of two, of which one is one. -/
theorem zpow_eq_div {b : ℚ} (hb : b ≠ 0) (k : Int) : b ^ k.toNat / b ^ (-k).toNat = b ^ k := by
  have hk : k = (k.toNat : Int) - ((-k).toNat : Int) := by omega
  conv_rhs => rw [hk, zpow_sub₀ hb, zpow_natCast, zpow_natCast]

/-- Whatever is beyond the mirror images of `a` at the ends of an interval is not nearer than `a`
to what is inside, and is as near at most to an end. -/
theorem abs_sub_le_of_beyond {a b low high q : ℚ} (hlow : low ≤ q) (hhigh : q ≤ high)
    (ha : low < a ∧ a < high) (hb : b ≤ 2 * low - a ∨ 2 * high - a ≤ b) :
    |a - q| ≤ |b - q| ∧ (|a - q| = |b - q| → q = low ∨ q = high) := by
  obtain ⟨hla, hah⟩ := ha
  rcases hb with hb | hb
  · have hfar : |b - q| = q - b := by
      rw [abs_sub_comm]
      exact abs_of_nonneg (by linarith)
    rw [hfar]
    refine ⟨abs_le.2 ⟨by linarith, by linarith⟩, fun heq => .inl ?_⟩
    rcases abs_choice (a - q) with h | h
    · linarith
    · linarith
  · have hfar : |b - q| = b - q := abs_of_nonneg (by linarith)
    rw [hfar]
    refine ⟨abs_le.2 ⟨by linarith, by linarith⟩, fun heq => .inr ?_⟩
    rcases abs_choice (a - q) with h | h
    · linarith
    · linarith

namespace Binary64

/-- The size of a finite number. -/
def size (x : Binary64) : ℚ := x.significand * 2 ^ x.exponent

/-- No finite number is nearer to a fraction than `x`, and if one is as near, `x` is even. -/
structure IsNearest (x : Binary64) (q : ℚ) : Prop where
  nearest : ∀ y : Binary64, y.isFinite = true → |x.size - q| ≤ |y.size - q|
  even : ∀ y : Binary64, y.isFinite = true → y.size ≠ x.size → |x.size - q| = |y.size - q| →
    x.significand % 2 = 0

/-! ## Neighbours -/

section

variable {x y : Binary64}

/-- The unit of the rounding interval, a quarter of the distance to the next number. -/
def quarter (x : Binary64) : ℚ := 2 ^ (x.exponent - 2)

theorem quarter_pos (x : Binary64) : 0 < x.quarter := zpow_pos (by decide) _

theorem size_eq (x : Binary64) : x.size = 4 * x.significand * x.quarter := by
  have hpow : (2 : ℚ) ^ x.exponent = 4 * 2 ^ (x.exponent - 2) := by
    rw [zpow_sub₀ (by decide)]
    ring
  rw [size, quarter, hpow]
  ring

/-- Only numbers in the lowest unit have no hidden bit. -/
theorem hiddenBit_le_significand (h : -1074 < x.exponent) : hiddenBit ≤ x.significand := by
  have hfield : x.field ≠ 0 := by
    unfold exponent at h
    omega
  rw [significand, if_neg hfield]
  exact Nat.le_add_left _ _

/-- The lower end of the interval is two quarters away, or only one from a power of two. -/
theorem lowest_cases (h : x.significand ≠ 0) :
    (x.interval.1 + 1 = 4 * x.significand ∧ x.significand = hiddenBit) ∨
      (x.interval.1 + 2 = 4 * x.significand ∧
        (-1074 < x.exponent → x.significand ≠ hiddenBit)) := by
  unfold interval exponent
  dsimp only
  split
  case isTrue hpower =>
    left
    simp only [hiddenBit] at *
    omega
  case isFalse hpower =>
    right
    omega

/-- A number with a smaller unit is at most the one below a power of two. -/
theorem size_le_of_exponent_lt (h : y.exponent < x.exponent) :
    y.size ≤ (4 * hiddenBit - 2) * x.quarter := by
  have hquarter := x.quarter_pos
  have hunit : (2 : ℚ) ^ y.exponent ≤ 2 * x.quarter := by
    calc (2 : ℚ) ^ y.exponent ≤ 2 ^ (x.exponent - 2 + 1) :=
          zpow_le_zpow_right₀ (by decide) (by omega)
      _ = 2 * x.quarter := by rw [zpow_add_one₀ (by decide), quarter, mul_comm]
  have hsignificand : (y.significand : ℚ) + 1 ≤ 2 * hiddenBit := by
    exact_mod_cast (y.significand_lt : y.significand + 1 ≤ 2 * hiddenBit)
  calc y.size ≤ y.significand * (2 * x.quarter) :=
        mul_le_mul_of_nonneg_left hunit (Nat.cast_nonneg _)
    _ ≤ (2 * hiddenBit - 1) * (2 * x.quarter) :=
        mul_le_mul_of_nonneg_right (by linarith) (by linarith)
    _ = (4 * hiddenBit - 2) * x.quarter := by ring

/-- A number with the same unit or a larger one is a multiple of the unit. -/
theorem exists_multiple_of_le (h : x.exponent ≤ y.exponent) :
    ∃ n : Nat, y.size = 4 * n * x.quarter := by
  refine ⟨y.significand * 2 ^ (y.exponent - x.exponent).toNat, ?_⟩
  have hpow : (2 : ℚ) ^ y.exponent = 2 ^ (y.exponent - x.exponent).toNat * 4 * x.quarter := by
    have hexponent : y.exponent =
        ((y.exponent - x.exponent).toNat : Int) + 2 + (x.exponent - 2) := by omega
    conv_lhs => rw [hexponent, zpow_add₀ (by decide), zpow_add₀ (by decide), zpow_natCast]
    rw [quarter]
    norm_num
  rw [size, hpow]
  push_cast
  ring

/-- **There is no number between a number and its neighbours**: another one is twice as far away
as an end of the rounding interval. -/
theorem size_apart (hx : x.significand ≠ 0) (hne : y.size ≠ x.size) :
    y.size ≤ (2 * x.interval.1 - 4 * x.significand) * x.quarter ∨
      (4 * x.significand + 4) * x.quarter ≤ y.size := by
  have hquarter := x.quarter_pos
  by_cases hlt : y.exponent < x.exponent
  · left
    refine (size_le_of_exponent_lt hlt).trans (mul_le_mul_of_nonneg_right ?_ hquarter.le)
    have hnormal : -1074 < x.exponent := Int.lt_of_le_of_lt y.least_exponent hlt
    have hhidden := hiddenBit_le_significand hnormal
    have hlowest : 4 * hiddenBit + 4 * x.significand ≤ 2 * x.interval.1 + 2 := by
      rcases lowest_cases hx with ⟨hlowest, hpower⟩ | ⟨hlowest, hpower⟩
      · omega
      · have hne := hpower hnormal
        omega
    have h : (4 * hiddenBit + 4 * x.significand : ℚ) ≤ 2 * x.interval.1 + 2 := by
      exact_mod_cast hlowest
    linarith
  · obtain ⟨n, hn⟩ := exists_multiple_of_le (Int.not_lt.1 hlt)
    have hmultiple : n ≠ x.significand := by
      rintro rfl
      exact hne (hn.trans x.size_eq.symm)
    have hlowest : 4 * x.significand ≤ x.interval.1 + 2 := by
      rcases lowest_cases hx with ⟨hlowest, -⟩ | ⟨hlowest, -⟩ <;> omega
    rw [hn]
    rcases Nat.lt_or_gt_of_ne hmultiple with hless | hmore
    · refine .inl (mul_le_mul_of_nonneg_right ?_ hquarter.le)
      have h : (4 * n + 4 * x.significand : ℚ) ≤ 2 * x.interval.1 := by
        exact_mod_cast (by omega : 4 * n + 4 * x.significand ≤ 2 * x.interval.1)
      linarith
    · refine .inr (mul_le_mul_of_nonneg_right ?_ hquarter.le)
      exact_mod_cast (by omega : 4 * x.significand + 4 ≤ 4 * n)

/-- **A fraction in the rounding interval has no nearer number.** The ends belong to the interval
if the significand is even. -/
theorem isNearest_of_interval {q : ℚ} (hx : x.significand ≠ 0)
    (hlow : x.interval.1 * x.quarter ≤ q) (hhigh : q ≤ x.interval.2.2 * x.quarter)
    (hends : x.significand % 2 ≠ 0 →
      q ≠ x.interval.1 * x.quarter ∧ q ≠ x.interval.2.2 * x.quarter) :
    x.IsNearest q := by
  have hquarter := x.quarter_pos
  have hhighest : (x.interval.2.2 : ℚ) = 4 * x.significand + 2 := by
    simp [interval]
  have hlowest : (x.interval.1 : ℚ) < 4 * x.significand := by
    have h : x.interval.1 < 4 * x.significand := by
      rcases lowest_cases hx with ⟨hlowest, -⟩ | ⟨hlowest, -⟩ <;> omega
    exact_mod_cast h
  have hinside : x.interval.1 * x.quarter < x.size ∧ x.size < x.interval.2.2 * x.quarter := by
    rw [size_eq, hhighest]
    exact ⟨mul_lt_mul_of_pos_right hlowest hquarter,
      mul_lt_mul_of_pos_right (by linarith) hquarter⟩
  have hother : ∀ y : Binary64, y.size ≠ x.size →
      |x.size - q| ≤ |y.size - q| ∧ (|x.size - q| = |y.size - q| →
        q = x.interval.1 * x.quarter ∨ q = x.interval.2.2 * x.quarter) := by
    intro y hne
    refine abs_sub_le_of_beyond hlow hhigh hinside ?_
    rw [size_eq x, hhighest]
    rcases size_apart hx hne with h | h
    · left
      linarith
    · right
      linarith
  constructor
  · intro y _
    by_cases hne : y.size = x.size
    · rw [hne]
    · exact (hother y hne).1
  · intro y _ hne heq
    by_contra hodd
    rcases (hother y hne).2 heq with hend | hend
    · exact (hends hodd).1 hend
    · exact (hends hodd).2 hend

end

/-! ## Shortest decimals -/

theorem gridStep_div (k : Int) : ((gridStep k).1 : ℚ) / (gridStep k).2 = 10 ^ k := by
  rw [gridStep_eq, Nat.cast_pow, Nat.cast_pow, Nat.cast_ofNat, zpow_eq_div (by decide)]

theorem size_mem_of_covers {even : Bool} {low high den : Nat} {d : Decimal} (hden : 0 < den)
    (h : coversDecimal even low high den d = true) :
    (low / den : ℚ) ≤ d.size ∧ d.size ≤ (high / den : ℚ) ∧
      (even = false → d.size ≠ low / den ∧ d.size ≠ high / den) := by
  have hden' : (0 : ℚ) < den := Nat.cast_pos.2 hden
  have hdown : (0 : ℚ) < (gridStep d.exponent).2 := Nat.cast_pos.2 (gridStep_pos _).2
  have hsize : d.size = (d.digits * (gridStep d.exponent).1 : Nat) / (gridStep d.exponent).2 := by
    rw [Decimal.size, ← gridStep_div, Nat.cast_mul, mul_div_assoc]
  rw [hsize]
  unfold coversDecimal covers at h
  split at h
  case isTrue heven =>
    obtain ⟨hlow, hhigh⟩ := (Bool.and_eq_true _ _).mp h
    refine ⟨?_, ?_, fun hodd => absurd (heven.symm.trans hodd) (by decide)⟩
    · rw [div_le_div_iff₀ hden' hdown]
      exact_mod_cast of_decide_eq_true hlow
    · rw [div_le_div_iff₀ hdown hden']
      exact_mod_cast of_decide_eq_true hhigh
  case isFalse =>
    obtain ⟨hlow, hhigh⟩ := (Bool.and_eq_true _ _).mp h
    have hlow' : (low / den : ℚ) <
        (d.digits * (gridStep d.exponent).1 : Nat) / (gridStep d.exponent).2 := by
      rw [div_lt_div_iff₀ hden' hdown]
      exact_mod_cast of_decide_eq_true hlow
    have hhigh' : ((d.digits * (gridStep d.exponent).1 : Nat) / (gridStep d.exponent).2 : ℚ) <
        high / den := by
      rw [div_lt_div_iff₀ hdown hden']
      exact_mod_cast of_decide_eq_true hhigh
    exact ⟨hlow'.le, hhigh'.le, fun _ => ⟨hlow'.ne', hhigh'.ne⟩⟩

/-- **No number is nearer to the shortest decimal of a number.** -/
theorem isNearest_shortest {x : Binary64} (hfinite : x.isFinite = true) :
    x.IsNearest x.shortest.size := by
  by_cases h : x.significand = 0
  · have hshortest : x.shortest.size = x.size := by
      rw [shortest, if_pos h, size, h]
      simp [Decimal.size]
    rw [hshortest]
    constructor
    · intro y _
      rw [sub_self, abs_zero]
      exact abs_nonneg _
    · intro _ _ _ _
      rw [h]
  · have hscale : ∀ n : Nat, ((n * 2 ^ (x.exponent - 2).toNat : Nat) /
        (2 ^ (2 - x.exponent).toNat : Nat) : ℚ) = n * x.quarter := by
      intro n
      have hneg : 2 - x.exponent = -(x.exponent - 2) := by omega
      rw [hneg, Nat.cast_mul, mul_div_assoc, Nat.cast_pow, Nat.cast_pow, Nat.cast_ofNat,
        zpow_eq_div (by decide), quarter]
    obtain ⟨hlow, hhigh, hends⟩ :=
      size_mem_of_covers (Nat.pow_pos (by decide)) (shortest_covers hfinite h)
    rw [hscale] at hlow hhigh hends
    rw [hscale] at hends
    exact isNearest_of_interval h hlow hhigh fun hodd => hends (beq_false_of_ne hodd)

end Binary64

end ExtensionCatalogue
