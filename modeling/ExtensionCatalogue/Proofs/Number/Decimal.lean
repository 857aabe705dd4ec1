import ExtensionCatalogue.Number.Decimal
import Mathlib.Algebra.Order.Ring.Nat
import Mathlib.Tactic.Ring

/-!
# Shortest decimals

The search for a shortest decimal ends with a decimal inside the rounding interval: it walks down
finer and finer grids, and the last of them is finer than half the interval. So a number that is
not zero is never written with the digit zero alone.

A grid is given by its step, and the size of a number by two powers of two, one of which is one.
That the last grid is fine enough is checked for each possible size.
-/

namespace ExtensionCatalogue

theorem divHalfEven_near (num : Nat) {den : Nat} (h : 0 < den) :
    2 * num ≤ 2 * (divHalfEven num den * den) + den ∧
      2 * (divHalfEven num den * den) ≤ 2 * num + den := by
  have hsum : num / den * den + num % den = num := Nat.div_add_mod' num den
  have hlt : num % den < den := Nat.mod_lt num h
  dsimp only [divHalfEven]
  split
  case isTrue hdown => omega
  case isFalse hup =>
    rw [Nat.add_mul, Nat.one_mul]
    omega

namespace Binary64

/-! ## Grids -/

/-- The power of ten between the points of a grid, as a fraction. -/
def gridStep : Int → Nat × Nat
  | .ofNat e => (Nat.pow 10 e, 1)
  | .negSucc e => (1, Nat.pow 10 (e + 1))

theorem gridStep_eq (k : Int) : gridStep k = (10 ^ k.toNat, 10 ^ (-k).toNat) := by
  cases k with
  | ofNat e =>
    have hneg : (-Int.ofNat e).toNat = 0 := Int.toNat_neg_natCast e
    rw [hneg]
    rfl
  | negSucc e => rfl

/-- A grid with a point less than `unit / den` away from any number. -/
def IsFine (unit den : Nat) (k : Int) : Prop :=
  den * (gridStep k).1 < 2 * (gridStep k).2 * unit

theorem gridStep_pos (k : Int) : 0 < (gridStep k).1 ∧ 0 < (gridStep k).2 := by
  rw [gridStep_eq]
  exact ⟨Nat.pow_pos (by decide), Nat.pow_pos (by decide)⟩

/-- Whether a decimal lies in the rounding interval `low / den … high / den`. -/
def coversDecimal (even : Bool) (low high den : Nat) (d : Decimal) : Bool :=
  covers even low high den (d.digits * (gridStep d.exponent).1) (gridStep d.exponent).2

/-- The point of a grid that is nearest to `mid / den`. -/
def nearestOn (mid den : Nat) (k : Int) : Nat :=
  divHalfEven (mid * (gridStep k).2) (den * (gridStep k).1)

/-- One grid of the search: its point nearest to the number, or another one, or the next grid. -/
theorem shortestFrom_succ (even : Bool) (low mid high den steps : Nat) (k : Int) :
    ∃ other, shortestFrom even low mid high den (steps + 1) k =
      if coversDecimal even low high den ⟨nearestOn mid den k, k⟩ then ⟨nearestOn mid den k, k⟩
      else if coversDecimal even low high den ⟨other, k⟩ then ⟨other, k⟩
      else shortestFrom even low mid high den steps (k - 1) := by
  refine ⟨if nearestOn mid den k = mid * (gridStep k).2 / (den * (gridStep k).1) then
    mid * (gridStep k).2 / (den * (gridStep k).1) + 1
    else mid * (gridStep k).2 / (den * (gridStep k).1), ?_⟩
  cases k <;> rfl

section

variable {even : Bool} {low mid high den unit : Nat} {k : Int}

theorem covers_of_lt {a b : Nat} (hlow : low * b < a * den) (hhigh : a * den < high * b) :
    covers even low high den a b = true := by
  cases even
  · simp [covers, hlow, hhigh]
  · simp [covers, Nat.le_of_lt hlow, Nat.le_of_lt hhigh]

/-- On a grid that is fine enough the nearest point lies in the interval. -/
theorem covers_nearestOn (hden : 0 < den) (hlow : low + unit ≤ mid) (hhigh : mid + unit ≤ high)
    (hfine : IsFine unit den k) :
    coversDecimal even low high den ⟨nearestOn mid den k, k⟩ = true := by
  have around : ∀ up down : Nat, 0 < up → den * up < 2 * down * unit →
      low * down < divHalfEven (mid * down) (den * up) * up * den ∧
        divHalfEven (mid * down) (den * up) * up * den < high * down := by
    intro up down hup hfine
    obtain ⟨habove, hbelow⟩ := divHalfEven_near (mid * down) (Nat.mul_pos hden hup)
    have hpoint : divHalfEven (mid * down) (den * up) * (den * up) =
        divHalfEven (mid * down) (den * up) * up * den := by ring
    have hleft : low * down + down * unit ≤ mid * down := by
      calc low * down + down * unit = (low + unit) * down := by ring
        _ ≤ mid * down := Nat.mul_le_mul_right down hlow
    have hright : mid * down + down * unit ≤ high * down := by
      calc mid * down + down * unit = (mid + unit) * down := by ring
        _ ≤ high * down := Nat.mul_le_mul_right down hhigh
    have hhalf : 2 * down * unit = 2 * (down * unit) := by ring
    rw [hpoint] at habove hbelow
    omega
  obtain ⟨hbelow, habove⟩ := around _ _ (gridStep_pos k).1 hfine
  exact covers_of_lt hbelow habove

/-- **The search ends in the interval**, if one of its grids is fine enough. -/
theorem shortestFrom_covers (hden : 0 < den) (hlow : low + unit ≤ mid)
    (hhigh : mid + unit ≤ high) (steps : Nat) :
    ∀ (k : Int) (j : Nat), j < steps → IsFine unit den (k - j) →
      coversDecimal even low high den (shortestFrom even low mid high den steps k) = true := by
  induction steps with
  | zero => intro k j hj; omega
  | succ steps ih =>
    intro k j hj hfine
    obtain ⟨other, hstep⟩ := shortestFrom_succ even low mid high den steps k
    rw [hstep]
    split
    case isTrue hnearest => exact hnearest
    case isFalse hnearest =>
      split
      case isTrue hother => exact hother
      case isFalse =>
        cases j with
        | zero =>
          rw [Int.natCast_zero, Int.sub_zero] at hfine
          exact absurd (covers_nearestOn hden hlow hhigh hfine) hnearest
        | succ j =>
          have hk : k - (j + 1 : Nat) = k - 1 - j := by omega
          exact ih (k - 1) j (by omega) (hk ▸ hfine)

theorem digits_ne_zero_of_covers {d : Decimal} (hlow : 0 < low)
    (h : coversDecimal even low high den d = true) : d.digits ≠ 0 := by
  have hpos : 0 < low * (gridStep d.exponent).2 := Nat.mul_pos hlow (gridStep_pos _).2
  have hle : low * (gridStep d.exponent).2 ≤ d.digits * (gridStep d.exponent).1 * den := by
    unfold coversDecimal covers at h
    split at h
    · rw [Bool.and_eq_true] at h
      exact of_decide_eq_true h.1
    · rw [Bool.and_eq_true] at h
      exact Nat.le_of_lt (of_decide_eq_true h.1)
  intro hzero
  rw [hzero, Nat.zero_mul, Nat.zero_mul] at hle
  omega

end

/-! ## The last grid -/

/-- For a number below `2 ^ top`, the last grid is finer than `2 ^ (top - 54)`. -/
theorem last_grid_fine {top : Int} (hlow : -1074 ≤ top) (hhigh : top ≤ 1024) :
    10 ^ (top * 30103 / 100000 + 1 - 23).toNat * 2 ^ (54 - top).toNat <
      10 ^ (-(top * 30103 / 100000 + 1 - 23)).toNat * 2 ^ (top - 54).toNat := by
  have all : ∀ t ∈ List.range 2099,
      10 ^ (((t : Int) - 1074) * 30103 / 100000 + 1 - 23).toNat *
          2 ^ (54 - ((t : Int) - 1074)).toNat <
        10 ^ (-(((t : Int) - 1074) * 30103 / 100000 + 1 - 23)).toNat *
          2 ^ (((t : Int) - 1074) - 54).toNat := by
    decide +kernel
  have ht : (((top + 1074).toNat : Nat) : Int) - 1074 = top := by omega
  have h := all (top + 1074).toNat (List.mem_range.2 (by omega))
  rwa [ht] at h

/-- Powers of two with the same difference of exponents. -/
theorem isFine_of_top {k top e : Int} (he : top ≤ e + 53)
    (h : 10 ^ k.toNat * 2 ^ (54 - top).toNat < 10 ^ (-k).toNat * 2 ^ (top - 54).toNat) :
    IsFine (2 ^ (e - 2).toNat) (2 ^ (2 - e).toNat) k := by
  rw [IsFine, gridStep_eq]
  show 2 ^ (2 - e).toNat * 10 ^ k.toNat < 2 * 10 ^ (-k).toNat * 2 ^ (e - 2).toNat
  have hexp : (2 - e).toNat + (top - 54).toNat ≤ (e - 2).toNat + (54 - top).toNat + 1 := by omega
  refine Nat.lt_of_mul_lt_mul_right (a := 2 ^ (54 - top).toNat) ?_
  calc 2 ^ (2 - e).toNat * 10 ^ k.toNat * 2 ^ (54 - top).toNat
      = 2 ^ (2 - e).toNat * (10 ^ k.toNat * 2 ^ (54 - top).toNat) := by ring
    _ < 2 ^ (2 - e).toNat * (10 ^ (-k).toNat * 2 ^ (top - 54).toNat) :=
      Nat.mul_lt_mul_of_pos_left h (Nat.pow_pos (by decide))
    _ = 10 ^ (-k).toNat * 2 ^ ((2 - e).toNat + (top - 54).toNat) := by rw [pow_add]; ring
    _ ≤ 10 ^ (-k).toNat * 2 ^ ((e - 2).toNat + (54 - top).toNat + 1) :=
      Nat.mul_le_mul_left _ (Nat.pow_le_pow_right (by decide) hexp)
    _ = 2 * 10 ^ (-k).toNat * 2 ^ (e - 2).toNat * 2 ^ (54 - top).toNat := by
      rw [pow_succ, pow_add]; ring

/-! ## Shortest decimals of numbers -/

theorem significand_lt (x : Binary64) : x.significand < 2 ^ 53 := by
  have hlt : x.magnitude % hiddenBit < hiddenBit := Nat.mod_lt _ (by decide)
  simp only [significand, hiddenBit] at *
  split <;> omega

theorem least_exponent (x : Binary64) : -1074 ≤ x.exponent := by
  unfold exponent
  omega

theorem exponent_le {x : Binary64} (h : x.isFinite = true) : x.exponent ≤ 971 := by
  have hfield : x.field < 2047 :=
    Nat.div_lt_of_lt_mul (Nat.mul_comm 2047 hiddenBit ▸ of_decide_eq_true h)
  unfold exponent
  omega

/-- How far a number may go in the search, with the powers of two that its size counts. -/
theorem shortest_eq {x : Binary64} (h : x.significand ≠ 0) :
    x.shortest = shortestFrom (x.significand % 2 == 0)
      (x.interval.1 * 2 ^ (x.exponent - 2).toNat) (x.interval.2.1 * 2 ^ (x.exponent - 2).toNat)
      (x.interval.2.2 * 2 ^ (x.exponent - 2).toNat) (2 ^ (2 - x.exponent).toNat) 24
      (((Nat.log2 x.significand + 1 : Nat) + x.exponent) * 30103 / 100000 + 1) := by
  unfold shortest
  rw [if_neg h]
  have hneg : 2 - x.exponent = -(x.exponent - 2) := by omega
  rw [hneg]
  split
  next low mid high hinterval =>
    rw [hinterval]
    cases x.exponent - 2 with
    | ofNat e =>
      have hzero : (-Int.ofNat e).toNat = 0 := Int.toNat_neg_natCast e
      rw [hzero]
      rfl
    | negSucc e =>
      simp only [Int.toNat_negSucc, pow_zero, Nat.mul_one]
      rfl

theorem interval_around {x : Binary64} (h : x.significand ≠ 0) :
    0 < x.interval.1 ∧ x.interval.1 + 1 ≤ x.interval.2.1 ∧
      x.interval.2.1 + 1 ≤ x.interval.2.2 := by
  simp only [interval]
  split <;> omega

/-- **The shortest decimal of a number lies in its rounding interval.** -/
theorem shortest_covers {x : Binary64} (hfinite : x.isFinite = true) (h : x.significand ≠ 0) :
    coversDecimal (x.significand % 2 == 0) (x.interval.1 * 2 ^ (x.exponent - 2).toNat)
      (x.interval.2.2 * 2 ^ (x.exponent - 2).toNat) (2 ^ (2 - x.exponent).toNat)
      x.shortest = true := by
  obtain ⟨-, hlow, hhigh⟩ := interval_around h
  have hleast := x.least_exponent
  have hmost := exponent_le hfinite
  have hlog : Nat.log2 x.significand < 53 := (Nat.log2_lt h).2 x.significand_lt
  have htop : ((Nat.log2 x.significand + 1 : Nat) + x.exponent : Int) ≤ x.exponent + 53 := by omega
  have hfine := isFine_of_top htop (last_grid_fine (by omega) (by omega))
  rw [shortest_eq h]
  refine shortestFrom_covers (Nat.pow_pos (by decide)) ?_ ?_ 24 _ 23 (by decide) hfine
  · calc x.interval.1 * 2 ^ (x.exponent - 2).toNat + 2 ^ (x.exponent - 2).toNat
        = (x.interval.1 + 1) * 2 ^ (x.exponent - 2).toNat := by ring
      _ ≤ x.interval.2.1 * 2 ^ (x.exponent - 2).toNat := Nat.mul_le_mul_right _ hlow
  · calc x.interval.2.1 * 2 ^ (x.exponent - 2).toNat + 2 ^ (x.exponent - 2).toNat
        = (x.interval.2.1 + 1) * 2 ^ (x.exponent - 2).toNat := by ring
      _ ≤ x.interval.2.2 * 2 ^ (x.exponent - 2).toNat := Nat.mul_le_mul_right _ hhigh

/-- A number that is not zero has no decimal that is. -/
theorem shortest_digits_ne_zero {x : Binary64} (hfinite : x.isFinite = true)
    (h : x.significand ≠ 0) : x.shortest.digits ≠ 0 :=
  digits_ne_zero_of_covers
    (Nat.mul_pos (interval_around h).1 (Nat.pow_pos (by decide))) (shortest_covers hfinite h)

/-- A shortest decimal has no digit zero in front, unless it is zero. -/
theorem shortest_plain {x : Binary64} (hfinite : x.isFinite = true) :
    x.shortest = ⟨0, 0⟩ ∨ x.shortest.digits ≠ 0 := by
  by_cases h : x.significand = 0
  · exact .inl (if_pos h)
  · exact .inr (shortest_digits_ne_zero hfinite h)

end Binary64

end ExtensionCatalogue
