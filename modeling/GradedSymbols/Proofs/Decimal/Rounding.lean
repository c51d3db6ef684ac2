import GradedSymbols.Decimal.Rounding
import Mathlib.Algebra.Order.Field.Basic
import Mathlib.Algebra.Order.Field.Rat
import Mathlib.Algebra.Order.Ring.Abs
import Mathlib.Algebra.Ring.Int.Parity
import Mathlib.Tactic.FieldSimp
import Mathlib.Tactic.Linarith
import Mathlib.Tactic.Ring

/-!
# Rounding to multiples of a unit

A rational number is rounded to the multiple of a unit that is nearest to it, and from the middle
between two multiples to the even one. That is the multiple at a distance of at most half a unit, and
the even one of two at that distance. So rounding keeps the order of numbers, does the same on both
sides of zero and leaves multiples as they are. The rounded quotient of natural numbers is an instance:
it counts the units to which as many units as the quotient says are rounded.

## Main definitions

* `GradedSymbols.IsRounded` — the number of units that a rational number is rounded to.

## Main results

* `GradedSymbols.roundHalfEven_cases` — the rounded quotient is one of its two neighbours.
* `GradedSymbols.isRounded_iff` — rounding by the distance to the multiple.
* `GradedSymbols.IsRounded.mono` — rounding keeps the order.
* `GradedSymbols.IsRounded.eq_of_mul` — multiples are kept.
* `GradedSymbols.isRounded_roundHalfEven` — the rounded quotient of natural numbers.
-/

namespace GradedSymbols

/-- A rational number is *rounded* to `k` units when no multiple of the unit is nearer than the one by
`k`, and `k` is even if another one is as near. -/
structure IsRounded (unit q : ℚ) (k : ℤ) : Prop where
  nearest : ∀ m : ℤ, |q - k * unit| ≤ |q - m * unit|
  even_of_eq : ∀ m : ℤ, m ≠ k → |q - k * unit| = |q - m * unit| → Even k

variable {unit q q' : ℚ} {k k' m : ℤ}

/-! ### Distances -/

/-- On the side of a multiple on which a number lies there is a next multiple, and the two distances
add up to the unit if the number lies between them. -/
theorem exists_next_multiple (unit q : ℚ) (k : ℤ) :
    ∃ m ≠ k, |q - m * unit| = abs (unit - |q - k * unit|) := by
  rcases le_total 0 (q - k * unit) with hle | hle
  · refine ⟨k + 1, by omega, ?_⟩
    rw [abs_of_nonneg hle, abs_sub_comm unit]
    push_cast
    ring_nf
  · refine ⟨k - 1, by omega, ?_⟩
    rw [abs_of_nonpos hle]
    push_cast
    ring_nf

theorem unit_le_add_abs (hunit : 0 < unit) (hne : m ≠ k) :
    unit ≤ |q - k * unit| + |q - m * unit| := by
  have hone : (1 : ℚ) ≤ |(m - k : ℤ)| := by
    exact_mod_cast Int.one_le_abs (sub_ne_zero.2 hne)
  calc unit ≤ |((m - k : ℤ) : ℚ)| * unit := by
        exact_mod_cast le_mul_of_one_le_left hunit.le hone
    _ = |((m - k : ℤ) : ℚ) * unit| := by rw [abs_mul, abs_of_pos hunit]
    _ = |(q - k * unit) - (q - m * unit)| := by
        push_cast
        ring_nf
    _ ≤ |q - k * unit| + |q - m * unit| := abs_sub _ _

/-- **Rounding by distances.** A number is rounded to a multiple within half a unit, and to an even one
if it is exactly half a unit away. -/
theorem isRounded_iff (hunit : 0 < unit) : IsRounded unit q k ↔
    2 * |q - k * unit| ≤ unit ∧ (2 * |q - k * unit| = unit → Even k) := by
  constructor
  · intro h
    obtain ⟨m, hne, hm⟩ := exists_next_multiple unit q k
    refine ⟨?_, fun hhalf => h.even_of_eq m hne ?_⟩
    · by_contra hfar
      rw [not_le] at hfar
      have hnearer : |q - m * unit| < |q - k * unit| := by
        rw [hm]
        exact abs_lt.2 ⟨by linarith, by linarith⟩
      exact absurd (h.nearest m) hnearer.not_ge
    · have hrest : unit - |q - k * unit| = |q - k * unit| := by linarith
      rw [hm, hrest, abs_abs]
  · rintro ⟨hhalf, heven⟩
    refine ⟨fun m => ?_, fun m hne heq => heven ?_⟩
    · rcases eq_or_ne m k with rfl | hne
      · exact le_rfl
      · linarith [unit_le_add_abs (q := q) hunit hne]
    · have hapart := unit_le_add_abs (q := q) hunit hne
      rw [← heq] at hapart
      linarith

/-! ### Laws of rounding -/

/-- **Order.** Rounding keeps the order of numbers. In particular a number is rounded to one multiple
only. -/
theorem IsRounded.mono (hunit : 0 < unit) (h : IsRounded unit q k) (h' : IsRounded unit q' k')
    (hle : q ≤ q') : k ≤ k' := by
  rw [isRounded_iff hunit] at h h'
  by_contra hlt
  have hnext : ((k' + 1 : ℤ) : ℚ) * unit ≤ k * unit := by
    have hcast : ((k' + 1 : ℤ) : ℚ) ≤ k := by exact_mod_cast (by omega : k' + 1 ≤ k)
    exact mul_le_mul_of_nonneg_right hcast hunit.le
  push_cast at hnext
  have hlow : -(unit / 2) ≤ q - k * unit := (abs_le.1 (by linarith [h.1])).1
  have hhigh : q' - k' * unit ≤ unit / 2 := (abs_le.1 (by linarith [h'.1])).2
  -- Both numbers are the middle between two consecutive multiples, which would both be even.
  have heq : (k : ℚ) * unit = ((k' + 1 : ℤ) : ℚ) * unit := by
    push_cast
    linarith
  have hk : k = k' + 1 := by exact_mod_cast mul_right_cancel₀ hunit.ne' heq
  have hbelow : q - k * unit = -(unit / 2) := by linarith
  have habove : q' - k' * unit = unit / 2 := by linarith
  have heven : Even k := h.2 (by rw [hbelow, abs_neg, abs_of_pos (half_pos hunit)]; linarith)
  have heven' : Even k' := h'.2 (by rw [habove, abs_of_pos (half_pos hunit)]; linarith)
  rw [hk, Int.even_add_one] at heven
  exact heven heven'

/-- Rounding does the same on both sides of zero. -/
theorem IsRounded.neg (hunit : 0 < unit) (h : IsRounded unit q k) : IsRounded unit (-q) (-k) := by
  have habs : |-q - (-k : ℤ) * unit| = |q - k * unit| := by
    rw [← abs_neg]
    push_cast
    ring_nf
  rw [isRounded_iff hunit] at h ⊢
  rwa [habs, even_neg]

theorem IsRounded.eq_of_mul (hunit : 0 < unit) (h : IsRounded unit (m * unit) k) : k = m := by
  have hnear := h.nearest m
  rw [sub_self, abs_zero, abs_nonpos_iff, sub_eq_zero] at hnear
  exact_mod_cast (mul_right_cancel₀ hunit.ne' hnear).symm

/-! ### Quotients -/

/-- A quotient is rounded down or up to the nearer neighbour, and in the middle to the even one. -/
theorem roundHalfEven_cases (a b : Nat) :
    (roundHalfEven a b = a / b ∧
      (2 * a < (2 * (a / b) + 1) * b ∨ (2 * (a / b) + 1) * b = 2 * a ∧ a / b % 2 = 0)) ∨
    (roundHalfEven a b = a / b + 1 ∧
      ((2 * (a / b) + 1) * b < 2 * a ∨ (2 * (a / b) + 1) * b = 2 * a ∧ (a / b + 1) % 2 = 0)) := by
  have hdivision : a = a / b * b + a % b := by rw [Nat.mul_comm, Nat.div_add_mod]
  have hmiddle : (2 * (a / b) + 1) * b = 2 * (a / b * b) + b := by ring
  unfold roundHalfEven
  dsimp only
  split
  · next h => exact .inl ⟨rfl, by omega⟩
  · next h => exact .inr ⟨rfl, by omega⟩

/-- The rounded quotient is at most half the divisor away, and even if it is half the divisor away. -/
theorem roundHalfEven_distance (a : Nat) {b : Nat} (hb : 0 < b) :
    2 * |(a : ℤ) - roundHalfEven a b * b| ≤ b ∧
    (2 * |(a : ℤ) - roundHalfEven a b * b| = b → Even (roundHalfEven a b : ℤ)) := by
  have hlow := Nat.div_mul_le_self a b
  have hhigh := Nat.lt_mul_div_succ a hb
  rw [Nat.mul_comm, Nat.succ_mul] at hhigh
  have hmiddle : (2 * (a / b) + 1) * b = 2 * (a / b * b) + b := by ring
  have hcases := roundHalfEven_cases a b
  rw [hmiddle] at hcases
  rw [← Nat.cast_mul, Int.even_coe_nat, Nat.even_iff]
  rcases hcases with ⟨hround, hcases⟩ | ⟨hround, hcases⟩
  · rw [hround, abs_of_nonneg (by omega)]
    omega
  · rw [hround, Nat.succ_mul, abs_of_nonpos (by omega)]
    omega

/-- **Quotients.** A quotient of units is rounded to as many units as the rounded quotient says. -/
theorem isRounded_roundHalfEven (hunit : 0 < unit) (a : Nat) {b : Nat} (hb : 0 < b) :
    IsRounded unit (a / b * unit) (roundHalfEven a b : ℕ) := by
  obtain ⟨hhalf, heven⟩ := roundHalfEven_distance a hb
  generalize roundHalfEven a b = n at hhalf heven ⊢
  have hb' : (0 : ℚ) < b := by exact_mod_cast hb
  have hscale : 2 * |(a / b * unit : ℚ) - (n : ℤ) * unit| =
      ((2 * |(a : ℤ) - n * b| : ℤ) : ℚ) * (unit / b) := by
    have hfactor : (a / b * unit : ℚ) - (n : ℤ) * unit = (a - n * b) * (unit / b) := by
      push_cast
      field_simp
    rw [hfactor, abs_mul, abs_of_pos (div_pos hunit hb')]
    push_cast
    ring
  have hwhole : (b : ℚ) * (unit / b) = unit := mul_div_cancel₀ unit hb'.ne'
  rw [isRounded_iff hunit, hscale]
  constructor
  · calc ((2 * |(a : ℤ) - n * b| : ℤ) : ℚ) * (unit / b) ≤ b * (unit / b) :=
          mul_le_mul_of_nonneg_right (by exact_mod_cast hhalf) (div_pos hunit hb').le
      _ = unit := hwhole
  · intro h
    refine heven ?_
    exact_mod_cast mul_right_cancel₀ (div_pos hunit hb').ne' (h.trans hwhole.symm)

end GradedSymbols
