import GradedSymbols.Binary64.Rounding
import GradedSymbols.Proofs.Decimal.Rounding
import Mathlib.Algebra.Order.Ring.Nat
import Mathlib.Order.Monotone.Basic

/-!
# The nearest binary64 magnitude

Magnitude codes lie in blocks of `2 ^ 52`. In a block the magnitude grows by the same power of two from
each code to the next, also from the last one to the first one of the following block, where the power
is twice as large. Hence the magnitudes grow strictly.

The code that rounding finds is the nearest one among all codes up to the one of infinity, which
counts as the magnitude that would follow the largest finite one. Of two codes that are equally near
it is the even one. No other code is nearest in this sense.

A quotient lies between the magnitudes of two consecutive codes, and these are consecutive multiples of
one power of two. Rounding the quotient in units of that power decides between the two on which side of
their middle it lies, and that is all that counts for the distances to all other magnitudes.

## Main definitions

* `GradedSymbols.Binary64.magnitude` — the magnitude of a code.
* `GradedSymbols.Binary64.IsNearest` — the code that a rational number is rounded to.

## Main results

* `GradedSymbols.Binary64.unitsOfCode_block`, `GradedSymbols.Binary64.unitsOfCode_strictMono` — the
  magnitudes of codes.
* `GradedSymbols.Binary64.IsNearest.unique` — the nearest code is unique.
* `GradedSymbols.Binary64.isNearest_magnitude` — a magnitude is nearest to itself.
* `GradedSymbols.Binary64.isNearest_nearestCode` — rounding finds the nearest code.
-/

namespace GradedSymbols

namespace Binary64

/-! ### The magnitudes of codes -/

/-- In a block the magnitudes are multiples of one power of two. The first block begins at zero, the
others begin with a leading bit, and each reaches up to the beginning of the next one. -/
theorem unitsOfCode_block {s m : Nat} (hm : m ≤ 2 ^ 53) (hs : s = 0 ∨ 2 ^ 52 ≤ m) :
    unitsOfCode (s * 2 ^ 52 + m) = m * 2 ^ s := by
  simp only [unitsOfCode, significand, Nat.pow_eq]
  rcases Nat.lt_trichotomy m (2 ^ 52) with hlt | rfl | hgt
  · obtain rfl : s = 0 := by omega
    rw [Nat.zero_mul, Nat.zero_add, Nat.div_eq_of_lt hlt]
    rfl
  · have hblock : (s * 2 ^ 52 + 2 ^ 52) / 2 ^ 52 = s + 1 := by omega
    have hrest : (s * 2 ^ 52 + 2 ^ 52) % 2 ^ 52 = 0 := by omega
    rw [hblock, hrest, if_neg (Nat.succ_ne_zero s)]
    rfl
  · rcases Nat.lt_or_eq_of_le hm with hlt | rfl
    · have hblock : (s * 2 ^ 52 + m) / 2 ^ 52 = s + 1 := by omega
      have hrest : 2 ^ 52 + (s * 2 ^ 52 + m) % 2 ^ 52 = m := by omega
      rw [hblock, hrest, if_neg (Nat.succ_ne_zero s)]
      rfl
    · have hblock : (s * 2 ^ 52 + 2 ^ 53) / 2 ^ 52 = s + 2 := by omega
      have hrest : (s * 2 ^ 52 + 2 ^ 53) % 2 ^ 52 = 0 := by omega
      rw [hblock, hrest, if_neg (Nat.succ_ne_zero (s + 1))]
      change (2 ^ 52 + 0) * 2 ^ (s + 1) = 2 ^ 53 * 2 ^ s
      ring

theorem unitsOfCode_block_succ {s m : Nat} (hm : m < 2 ^ 53) (hs : s = 0 ∨ 2 ^ 52 ≤ m) :
    unitsOfCode (s * 2 ^ 52 + m + 1) = (m + 1) * 2 ^ s := by
  rw [Nat.add_assoc]
  exact unitsOfCode_block hm (hs.imp_right Nat.le_succ_of_le)

theorem exists_block (c : Nat) :
    ∃ s m, c = s * 2 ^ 52 + m ∧ m < 2 ^ 53 ∧ (s = 0 ∨ 2 ^ 52 ≤ m) := by
  refine ⟨c / 2 ^ 52 - 1, c - (c / 2 ^ 52 - 1) * 2 ^ 52, ?_, ?_, ?_⟩ <;> omega

theorem unitsOfCode_lt_succ (c : Nat) : unitsOfCode c < unitsOfCode (c + 1) := by
  obtain ⟨s, m, rfl, hm, hs⟩ := exists_block c
  rw [unitsOfCode_block hm.le hs, unitsOfCode_block_succ hm hs]
  exact Nat.mul_lt_mul_of_pos_right (Nat.lt_succ_self m) (Nat.two_pow_pos s)

theorem unitsOfCode_strictMono : StrictMono unitsOfCode :=
  strictMono_nat_of_lt_succ unitsOfCode_lt_succ

/-- The magnitude of a code. -/
def magnitude (c : Nat) : ℚ := unitsOfCode c / unitsPerOne

theorem unitsPerOne_pos : 0 < unitsPerOne := by
  decide +kernel

theorem magnitude_strictMono : StrictMono magnitude := by
  intro c c' h
  have hpos : (0 : ℚ) < unitsPerOne := by exact_mod_cast unitsPerOne_pos
  have hunits : (unitsOfCode c : ℚ) < unitsOfCode c' := by
    exact_mod_cast unitsOfCode_strictMono h
  exact div_lt_div_of_pos_right hunits hpos

/-! ### The nearest code -/

/-- A rational number is rounded to the code `c` when no magnitude is nearer than the one of `c`, and
`c` is even if another one is as near. The code of infinity takes part like a finite one: it counts as
`2 ^ 1024`, the magnitude that follows the largest finite one. -/
structure IsNearest (q : ℚ) (c : Nat) : Prop where
  le_infinityCode : c ≤ infinityCode
  nearest : ∀ c' ≤ infinityCode, |q - magnitude c| ≤ |q - magnitude c'|
  even_of_eq : ∀ c' ≤ infinityCode, c' ≠ c → |q - magnitude c| = |q - magnitude c'| → c % 2 = 0

variable {q : ℚ} {c c' k : Nat}

/-- One nearest code is not below another one: both would be even, and a code in between would be
nearer. -/
theorem IsNearest.not_lt (h : IsNearest q c) (h' : IsNearest q c') : ¬ c < c' := by
  intro hlt
  have heq := le_antisymm (h.nearest c' h'.le_infinityCode) (h'.nearest c h.le_infinityCode)
  have heven := h.even_of_eq c' h'.le_infinityCode hlt.ne' heq
  have heven' := h'.even_of_eq c h.le_infinityCode hlt.ne heq.symm
  have hbetween : c + 1 < c' := by omega
  have hlow := magnitude_strictMono (Nat.lt_succ_self c)
  have hhigh := magnitude_strictMono hbetween
  -- The number is the middle of the two, and the code in between is nearer to it.
  have hmiddle : q - magnitude c = magnitude c' - q := by
    rcases abs_eq_abs.1 heq with hsame | hopposite <;> linarith
  have hnearer : |q - magnitude (c + 1)| < |q - magnitude c| := by
    rw [abs_of_pos (show 0 < q - magnitude c by linarith)]
    exact abs_lt.2 ⟨by linarith, by linarith⟩
  exact absurd (h.nearest (c + 1) (hbetween.le.trans h'.le_infinityCode)) hnearer.not_ge

theorem IsNearest.unique (h : IsNearest q c) (h' : IsNearest q c') : c = c' :=
  Nat.le_antisymm (Nat.le_of_not_lt (h'.not_lt h)) (Nat.le_of_not_lt (h.not_lt h'))

/-- Of two numbers the one on the same side of their middle as `q` is nearer to `q`. -/
theorem abs_sub_lt_abs_sub {a b : ℚ} (h : 0 < (a - b) * (2 * q - (a + b))) :
    |q - a| < |q - b| := by
  have hsquares : (q - b) ^ 2 - (q - a) ^ 2 = (a - b) * (2 * q - (a + b)) := by ring
  exact sq_lt_sq.1 (by linarith)

theorem abs_sub_eq_abs_sub {a b : ℚ} (h : a + b = 2 * q) : |q - a| = |q - b| :=
  abs_eq_abs.2 (.inr (by linarith))

/-- A code is nearest when the number lies between the middles that its magnitude has with smaller
and with larger ones. If the number is such a middle, then the code has to be even. -/
theorem isNearest_of_middles (hc : c ≤ infinityCode)
    (hbelow : ∀ c' < c, magnitude c' + magnitude c < 2 * q ∨
      magnitude c' + magnitude c = 2 * q ∧ c % 2 = 0)
    (habove : ∀ c' ≤ infinityCode, c < c' → 2 * q < magnitude c + magnitude c' ∨
      magnitude c + magnitude c' = 2 * q ∧ c % 2 = 0) : IsNearest q c := by
  have hcompare : ∀ c' ≤ infinityCode, |q - magnitude c| < |q - magnitude c'| ∨
      |q - magnitude c| = |q - magnitude c'| ∧ (c' ≠ c → c % 2 = 0) := by
    intro c' hc'
    rcases Nat.lt_trichotomy c' c with hlt | rfl | hgt
    · have hmono := magnitude_strictMono hlt
      rcases hbelow c' hlt with h | ⟨h, heven⟩
      · exact .inl (abs_sub_lt_abs_sub (mul_pos (by linarith) (by linarith)))
      · exact .inr ⟨abs_sub_eq_abs_sub (by linarith), fun _ => heven⟩
    · exact .inr ⟨rfl, fun h => absurd rfl h⟩
    · have hmono := magnitude_strictMono hgt
      rcases habove c' hc' hgt with h | ⟨h, heven⟩
      · exact .inl (abs_sub_lt_abs_sub (mul_pos_of_neg_of_neg (by linarith) (by linarith)))
      · exact .inr ⟨abs_sub_eq_abs_sub (by linarith), fun _ => heven⟩
  refine ⟨hc, fun c' hc' => ?_, fun c' hc' hne heq => ?_⟩
  · rcases hcompare c' hc' with h | h
    · exact h.le
    · exact h.1.le
  · rcases hcompare c' hc' with h | h
    · exact absurd heq h.ne
    · exact h.2 hne

theorem isNearest_magnitude (hc : c ≤ infinityCode) : IsNearest (magnitude c) c := by
  refine isNearest_of_middles hc (fun c' h => .inl ?_) fun c' _ h => .inl ?_
  all_goals linarith [magnitude_strictMono h]

/-- A number in front of the middle of two neighbours is rounded to the lower one. -/
theorem isNearest_of_lower (hk : k ≤ infinityCode) (hlow : magnitude k ≤ q)
    (hmiddle : 2 * q < magnitude k + magnitude (k + 1) ∨
      magnitude k + magnitude (k + 1) = 2 * q ∧ k % 2 = 0) : IsNearest q k := by
  refine isNearest_of_middles hk (fun c' h => .inl ?_) fun c' _ h => ?_
  · linarith [magnitude_strictMono h]
  · rcases Nat.lt_or_eq_of_le (Nat.succ_le_of_lt h) with h | rfl
    · have hmono := magnitude_strictMono h
      refine .inl ?_
      rcases hmiddle with hmiddle | ⟨hmiddle, -⟩ <;> linarith
    · exact hmiddle

/-- A number behind the middle of two neighbours is rounded to the upper one. -/
theorem isNearest_of_upper (hk : k < infinityCode) (hhigh : q < magnitude (k + 1))
    (hmiddle : magnitude k + magnitude (k + 1) < 2 * q ∨
      magnitude k + magnitude (k + 1) = 2 * q ∧ (k + 1) % 2 = 0) : IsNearest q (k + 1) := by
  refine isNearest_of_middles hk (fun c' h => ?_) fun c' _ h => .inl ?_
  · rcases Nat.lt_or_eq_of_le (Nat.le_of_lt_succ h) with h | rfl
    · have hmono := magnitude_strictMono h
      refine .inl ?_
      rcases hmiddle with hmiddle | ⟨hmiddle, -⟩ <;> linarith
    · exact hmiddle
  · linarith [magnitude_strictMono h]

theorem isNearest_infinityCode (h : magnitude infinityCode ≤ q) : IsNearest q infinityCode := by
  refine isNearest_of_middles le_rfl (fun c' hc' => .inl ?_) fun c' hle hc' =>
    absurd hle (Nat.not_le_of_lt hc')
  linarith [magnitude_strictMono hc']

/-! ### Rounding -/

/-- The code of the last magnitude that is not above `n / d`, if all codes were finite. -/
def codeBelow (n d : Nat) : Nat :=
  let scaled := n * unitsPerOne
  let shift := (scaled / d).log2 - 52
  shift * 2 ^ 52 + scaled / (d * 2 ^ shift)

/-- Shifted to 53 bits at most, a number keeps its leading bit at the highest place unless nothing was
shifted. -/
theorem shifted_bounds (t : Nat) :
    t / 2 ^ (t.log2 - 52) < 2 ^ 53 ∧ (t.log2 - 52 = 0 ∨ 2 ^ 52 ≤ t / 2 ^ (t.log2 - 52)) := by
  have hpos := Nat.two_pow_pos (t.log2 - 52)
  rw [Nat.div_lt_iff_lt_mul hpos, Nat.le_div_iff_mul_le hpos, ← Nat.pow_add, ← Nat.pow_add]
  constructor
  · calc t < 2 ^ (t.log2 + 1) := Nat.lt_log2_self
      _ ≤ 2 ^ (53 + (t.log2 - 52)) := Nat.pow_le_pow_right (by decide) (by omega)
  · rcases Nat.lt_or_ge 52 t.log2 with h | h
    · have hne : t ≠ 0 := by
        rintro rfl
        exact absurd h (by decide)
      refine .inr ?_
      rw [show 52 + (t.log2 - 52) = t.log2 by omega]
      exact Nat.log2_self_le hne
    · exact .inl (by omega)

section Rounding

variable (n : Nat) {d : Nat} (hd : 0 < d)

/-- The code below a quotient lies in a block in which the magnitudes are multiples of `2 ^ s`, and
rounding chooses one of them. -/
theorem exists_block_codeBelow (d : Nat) : ∃ s f, codeBelow n d = s * 2 ^ 52 + f ∧ f < 2 ^ 53 ∧
    (s = 0 ∨ 2 ^ 52 ≤ f) ∧ f = n * unitsPerOne / (d * 2 ^ s) ∧
    nearestCode n d =
      min (s * 2 ^ 52 + roundHalfEven (n * unitsPerOne) (d * 2 ^ s)) infinityCode := by
  have hbounds := shifted_bounds (n * unitsPerOne / d)
  rw [Nat.div_div_eq_div_mul] at hbounds
  exact ⟨_, _, rfl, hbounds.1, hbounds.2, rfl, rfl⟩

include hd in
/-- A quotient lies between the magnitude of the code below it and the next one. -/
theorem codeBelow_bounds : unitsOfCode (codeBelow n d) * d ≤ n * unitsPerOne ∧
    n * unitsPerOne < unitsOfCode (codeBelow n d + 1) * d := by
  obtain ⟨s, f, hcode, hlt, hs, hf, -⟩ := exists_block_codeBelow n d
  have hstep : 0 < d * 2 ^ s := Nat.mul_pos hd (Nat.two_pow_pos s)
  have hlow := Nat.div_mul_le_self (n * unitsPerOne) (d * 2 ^ s)
  have hhigh := Nat.lt_mul_div_succ (n * unitsPerOne) hstep
  rw [← hf] at hlow hhigh
  rw [hcode, unitsOfCode_block hlt.le hs, unitsOfCode_block_succ hlt hs]
  constructor
  · calc f * 2 ^ s * d = f * (d * 2 ^ s) := by ring
      _ ≤ n * unitsPerOne := hlow
  · calc n * unitsPerOne < d * 2 ^ s * (f + 1) := hhigh
      _ = (f + 1) * 2 ^ s * d := by ring

/-- Rounding chooses the nearer one of the code below a quotient and the next one. -/
theorem nearestCode_cases (d : Nat) :
    let middle := (unitsOfCode (codeBelow n d) + unitsOfCode (codeBelow n d + 1)) * d
    (nearestCode n d = min (codeBelow n d) infinityCode ∧
      (2 * (n * unitsPerOne) < middle ∨
        middle = 2 * (n * unitsPerOne) ∧ codeBelow n d % 2 = 0)) ∨
    (nearestCode n d = min (codeBelow n d + 1) infinityCode ∧
      (middle < 2 * (n * unitsPerOne) ∨
        middle = 2 * (n * unitsPerOne) ∧ (codeBelow n d + 1) % 2 = 0)) := by
  obtain ⟨s, f, hcode, hlt, hs, hf, hnearest⟩ := exists_block_codeBelow n d
  have hmiddle : (unitsOfCode (codeBelow n d) + unitsOfCode (codeBelow n d + 1)) * d =
      (2 * f + 1) * (d * 2 ^ s) := by
    rw [hcode, unitsOfCode_block hlt.le hs, unitsOfCode_block_succ hlt hs]
    ring
  have hcases := roundHalfEven_cases (n * unitsPerOne) (d * 2 ^ s)
  rw [← hf] at hcases
  rw [hmiddle, hcode]
  rcases hcases with ⟨hround, hcases⟩ | ⟨hround, hcases⟩
  · refine .inl ⟨by rw [hnearest, hround], hcases.imp_right fun h => ⟨h.1, ?_⟩⟩
    omega
  · refine .inr ⟨by rw [hnearest, hround, Nat.add_assoc], hcases.imp_right fun h => ⟨h.1, ?_⟩⟩
    omega

/-! A quotient and the magnitudes are compared with the common denominator `unitsPerOne * d`. -/

theorem denominator_pos (hd : 0 < d) : (0 : ℚ) < unitsPerOne * d := by
  exact_mod_cast Nat.mul_pos unitsPerOne_pos hd

theorem quotient_eq_div (d : Nat) :
    (n / d : ℚ) = (n * unitsPerOne : Nat) / (unitsPerOne * d : ℚ) := by
  have hunits : (unitsPerOne : ℚ) ≠ 0 := by exact_mod_cast unitsPerOne_pos.ne'
  rw [Nat.cast_mul, mul_comm (n : ℚ), mul_div_mul_left _ _ hunits]

include hd

theorem magnitude_eq_div (a : Nat) :
    magnitude a = (unitsOfCode a * d : Nat) / (unitsPerOne * d : ℚ) := by
  have hd' : (d : ℚ) ≠ 0 := by exact_mod_cast hd.ne'
  rw [Nat.cast_mul, mul_div_mul_right _ _ hd', magnitude]

theorem magnitude_le_iff (a : Nat) :
    magnitude a ≤ n / d ↔ unitsOfCode a * d ≤ n * unitsPerOne := by
  rw [quotient_eq_div n d, magnitude_eq_div hd, div_le_div_iff_of_pos_right (denominator_pos hd),
    Nat.cast_le]

theorem middle_lt_iff (a b : Nat) : magnitude a + magnitude b < 2 * (n / d) ↔
    (unitsOfCode a + unitsOfCode b) * d < 2 * (n * unitsPerOne) := by
  rw [quotient_eq_div n d, magnitude_eq_div hd, magnitude_eq_div hd, ← add_div, ← mul_div_assoc,
    div_lt_div_iff_of_pos_right (denominator_pos hd), Nat.add_mul]
  exact_mod_cast Iff.rfl

theorem middle_eq_iff (a b : Nat) : magnitude a + magnitude b = 2 * (n / d) ↔
    (unitsOfCode a + unitsOfCode b) * d = 2 * (n * unitsPerOne) := by
  rw [quotient_eq_div n d, magnitude_eq_div hd, magnitude_eq_div hd, ← add_div, ← mul_div_assoc,
    div_left_inj' (denominator_pos hd).ne', Nat.add_mul]
  exact_mod_cast Iff.rfl

theorem lt_middle_iff (a b : Nat) : 2 * (n / d) < magnitude a + magnitude b ↔
    2 * (n * unitsPerOne) < (unitsOfCode a + unitsOfCode b) * d := by
  rw [← not_le, le_iff_lt_or_eq, middle_lt_iff n hd, middle_eq_iff n hd]
  omega

/-- **Rounding finds the nearest code.** -/
theorem isNearest_nearestCode : IsNearest (n / d) (nearestCode n d) := by
  obtain ⟨hlow, hhigh⟩ := codeBelow_bounds n hd
  have hcases := nearestCode_cases n d
  dsimp only at hcases
  rw [← lt_middle_iff n hd, ← middle_lt_iff n hd, ← middle_eq_iff n hd] at hcases
  rw [← magnitude_le_iff n hd] at hlow
  rw [← Nat.not_le, ← magnitude_le_iff n hd, not_le] at hhigh
  rcases Nat.lt_or_ge (codeBelow n d) infinityCode with hfinite | hinfinite
  · rcases hcases with ⟨hcode, hmiddle⟩ | ⟨hcode, hmiddle⟩
    · rw [hcode, Nat.min_eq_left hfinite.le]
      exact isNearest_of_lower hfinite.le hlow hmiddle
    · rw [hcode, Nat.min_eq_left hfinite]
      exact isNearest_of_upper hfinite hhigh hmiddle
  · -- The code below is not finite, so that either choice is cut down to infinity.
    have hcode : nearestCode n d = infinityCode := by
      rcases hcases with ⟨hcode, -⟩ | ⟨hcode, -⟩ <;> omega
    rw [hcode]
    exact isNearest_infinityCode ((magnitude_strictMono.monotone hinfinite).trans hlow)

end Rounding

end Binary64

end GradedSymbols
