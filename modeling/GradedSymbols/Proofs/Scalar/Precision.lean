import GradedSymbols.Proofs.Binary64.Reading
import GradedSymbols.Proofs.Scalar.Padding

/-!
# Fixed numbers of decimals

With a fixed number of decimals a finite float is written positionally in both texts, by the multiple
of the last decimal place to which its exact value is rounded. The magnitude is rounded and the sign is
put in front of it, which is as good as rounding the signed value, and a negative number keeps its sign
when it is rounded to zero. So the numbers in the texts are in the order of the values, and a text with
enough decimals is exact: with 1074 of them it always is. The other scalars do not have decimals.

## Main definitions

* `GradedSymbols.Binary64.value` — the exact value of a finite number.
* `GradedSymbols.Binary64.rounded` — the signed number of units in the last decimal place.
* `GradedSymbols.Decimal.readRational?` — the rational number that a text stands for.

## Main results

* `GradedSymbols.Binary64.isRounded_rounded` — the exact value is rounded.
* `GradedSymbols.Binary64.readRational?_format` — the text stands for the rounded value.
* `GradedSymbols.Scalar.precision_rounds_exact_value` — what a number of decimals does to scalars.
-/

namespace GradedSymbols

open Decimal (IsNumeral IsMantissa)
open Digits (IsDigits)

namespace Decimal

/-- The rational number that characters stand for if they are a numeral, possibly behind a minus
sign. -/
def readRational? : List Char → Option ℚ
  | '-' :: cs => (read? cs).map fun d => -d.value
  | cs => (read? cs).map value

/-- A numeral behind a sign is read with this sign. -/
theorem readRational?_sign_append (negative : Bool) {cs : List Char} {d : Decimal}
    (h : IsNumeral cs d) : readRational? ((Style.sign {} negative).toList ++ cs) =
      some (if negative then -d.value else d.value) := by
  cases negative with
  | true => simp [Style.sign_default, readRational?, h.read?_eq]
  | false =>
    obtain ⟨first, others, rfl, hfirst⟩ := h.exists_eq_cons
    rw [Style.sign_default, if_neg Bool.false_ne_true, String.toList_empty, List.nil_append,
      readRational?, h.read?_eq, Option.map_some, if_neg Bool.false_ne_true]
    -- A digit is not the minus sign.
    intro others hminus
    rw [(List.cons.inj hminus).1] at hfirst
    exact absurd hfirst (by decide)

/-- A decimal with `e` places is whole in units of as many places or more. -/
theorem pow_mul_value {d : Decimal} {e : Nat} (h : d.exponent = -e) (k : Nat) :
    (10 : ℚ) ^ (e + k) * d.value = (d.coefficient * 10 ^ k : ℕ) := by
  rw [value, h, zpow_neg, zpow_natCast, pow_add]
  push_cast
  field_simp

end Decimal

namespace Binary64

/-- The exact value of a finite number. -/
def value (x : Binary64) : ℚ := if x.negative then -magnitude x.code else magnitude x.code

/-- The signed number of units of `10 ^ -p` to which a finite number is rounded. -/
def rounded (p : Nat) (x : Binary64) : ℤ := if x.negative then -(x.fixed p : ℤ) else x.fixed p

theorem unit_pos (p : Nat) : (0 : ℚ) < 10 ^ (-p : ℤ) := zpow_pos (by norm_num) _

theorem isRounded_fixed (p : Nat) (x : Binary64) :
    IsRounded (10 ^ (-p : ℤ)) (magnitude x.code) (x.fixed p : ℕ) := by
  have hround := isRounded_roundHalfEven (unit_pos p) (x.units * 10 ^ p) unitsPerOne_pos
  have hmagnitude : ((x.units * 10 ^ p : ℕ) / unitsPerOne * 10 ^ (-p : ℤ) : ℚ) =
      magnitude x.code := by
    have hpower : (10 : ℚ) ^ p ≠ 0 := pow_ne_zero p (by norm_num)
    rw [magnitude, zpow_neg, zpow_natCast, ← div_eq_mul_inv, div_right_comm, Nat.cast_mul,
      Nat.cast_pow, Nat.cast_ofNat, mul_div_cancel_right₀ _ hpower, units]
  rw [hmagnitude] at hround
  exact hround

/-- **Rounding.** The signed value is rounded. -/
theorem isRounded_rounded (p : Nat) (x : Binary64) :
    IsRounded (10 ^ (-p : ℤ)) x.value (x.rounded p) := by
  have hround := x.isRounded_fixed p
  unfold value rounded
  split
  · exact hround.neg (unit_pos p)
  · exact hround

variable (layout : Layout) {x : Binary64}

/-- With a number of decimals a finite number is written in the same way in both layouts. -/
theorem format_precision (h : x.isFinite = true) (p : Nat) :
    x.format layout { precision := some p } =
      Style.sign {} x.negative ++ String.ofList (Decimal.withPlaces p (x.fixed p)) := by
  rw [format_eq_pad, Style.pad_of_width_eq_zero rfl]
  simp [lead, body, isNaN_eq_false_of_isFinite h, isInfinite_eq_false_of_isFinite h, Style.sign]

example : (⟨0x4023fae147ae147b⟩ : Binary64).format .plain { precision := some 1 } = "10.0" := by
  decide +kernel

/-- **Texts with decimals** stand for the rounded value. -/
theorem readRational?_format (h : x.isFinite = true) (p : Nat) :
    Decimal.readRational? (x.format layout { precision := some p }).toList =
      some (x.rounded p * (10 : ℚ) ^ (-p : ℤ)) := by
  have hnumeral := IsNumeral.mantissa (Decimal.isMantissa_withPlaces_neg p (x.fixed p))
  rw [format_precision layout h, String.toList_append, String.toList_ofList,
    Decimal.readRational?_sign_append _ hnumeral]
  unfold rounded
  generalize x.fixed p = n
  cases x.negative <;> simp [Decimal.value]

/-- From 1074 decimals on, the values of finite numbers are whole in units of the last place. -/
theorem exists_mul_value_eq {p : Nat} (hp : 1074 ≤ p) (x : Binary64) :
    ∃ m : ℤ, 10 ^ p * x.value = m := by
  obtain ⟨k, rfl⟩ := Nat.exists_eq_add_of_le hp
  -- The exact decimal of the magnitude has 1074 places.
  have hmagnitude : (10 : ℚ) ^ (1074 + k) * magnitude x.code =
      ((exactDecimal x.code).coefficient * 10 ^ k : ℕ) := by
    rw [← value_exactDecimal]
    exact Decimal.pow_mul_value rfl k
  unfold value
  split
  · exact ⟨-((exactDecimal x.code).coefficient * 10 ^ k : ℕ), by
      rw [mul_neg, hmagnitude, Int.cast_neg, Int.cast_natCast]⟩
  · exact ⟨((exactDecimal x.code).coefficient * 10 ^ k : ℕ), by
      rw [hmagnitude, Int.cast_natCast]⟩

/-- Beyond the finite numbers a number of decimals does not count. -/
theorem format_precision_of_not_finite (h : x.isFinite = false) (s : Style) (p : Option Nat) :
    x.format layout { s with precision := p } = x.format layout s := by
  have hbody : ∀ p, x.body layout p = x.body layout none := by
    rcases x.isNaN_or_isInfinite_or_isFinite with hnan | hinfinite | hfinite
    · simp [body, hnan]
    · simp [body, hinfinite]
    · simp [h] at hfinite
  rw [format_eq_pad, format_eq_pad, hbody s.precision, ← hbody p]
  rfl

end Binary64

namespace Scalar

theorem number_precision (v : Scalar) (layout layout' : Binary64.Layout) (s : Style) (p : Nat) :
    v.number layout { s with precision := some p } =
      v.number layout' { s with precision := some p } := by
  cases v <;> rfl

/-- **Precision rounds the exact value.**

* With `p` decimals, a finite float is written by its sign, digits and exactly `p` decimals behind a
  point, or no point if there are none. The text stands for a multiple of `10 ^ -p`, the one to which
  the exact value is rounded, to the nearest and in the middle to the even one.
* In every style with a number of decimals, the text for inspection of a float is its plain text in the
  constructor.
* The numbers in the texts of finite floats are in the order of the exact values.
* The text stands for the exact value if that is a multiple of `10 ^ -p`, as it always is from 1074
  decimals on.
* The texts of integers, infinities and not-a-numbers do not depend on a number of decimals. -/
theorem precision_rounds_exact_value :
    (∀ (x : Binary64) (p : Nat), x.isFinite = true → ∃ whole decimals, ∃ k : ℤ,
      IsDigits whole ∧ (∀ d ∈ decimals, d.isDigit = true) ∧ decimals.length = p ∧
      (float x).format { precision := some p } = Style.sign {} x.negative ++
        String.ofList (whole ++ if p = 0 then [] else '.' :: decimals) ∧
      Decimal.readRational? ((float x).format { precision := some p }).toList =
        some (k * (10 : ℚ) ^ (-p : ℤ)) ∧
      IsRounded (10 ^ (-p : ℤ)) x.value k) ∧
    (∀ (x : Binary64) (s : Style) (p : Nat), (float x).inspect { s with precision := some p } =
      (float x).enclose s.alternate ((float x).format { s with precision := some p })) ∧
    (∀ (x y : Binary64) (p : Nat), x.isFinite = true → y.isFinite = true → x.value ≤ y.value →
      ∃ q r, Decimal.readRational? ((float x).format { precision := some p }).toList = some q ∧
        Decimal.readRational? ((float y).format { precision := some p }).toList = some r ∧ q ≤ r) ∧
    (∀ (x : Binary64) (p : Nat) (m : ℤ), x.isFinite = true → 10 ^ p * x.value = m →
      Decimal.readRational? ((float x).format { precision := some p }).toList = some x.value) ∧
    (∀ (x : Binary64) (p : Nat), 1074 ≤ p → ∃ m : ℤ, 10 ^ p * x.value = m) ∧
    (∀ (i : Int64) (s : Style) (p : Option Nat),
      (int i).format { s with precision := p } = (int i).format s ∧
      (int i).inspect { s with precision := p } = (int i).inspect s) ∧
    (∀ (x : Binary64) (s : Style) (p : Option Nat), x.isFinite = false →
      (float x).format { s with precision := p } = (float x).format s ∧
      (float x).inspect { s with precision := p } = (float x).inspect s) := by
  refine ⟨fun x p hx => ?_, fun x s p => ?_, fun x y p hx hy hle => ?_, fun x p m hx hm => ?_,
    fun x p hp => x.exists_mul_value_eq hp, fun i s p => ⟨rfl, rfl⟩, fun x s p hx => ?_⟩
  · obtain ⟨whole, decimals, hwhole, hdecimals, hlength, hcs⟩ :=
      (Decimal.isMantissa_withPlaces_neg p (x.fixed p)).exists_decimals rfl
    refine ⟨whole, decimals, x.rounded p, hwhole, hdecimals, hlength, ?_,
      Binary64.readRational?_format .plain hx p, x.isRounded_rounded p⟩
    rw [← hcs]
    exact Binary64.format_precision .plain hx p
  · rw [inspect_eq_enclose, number_precision, format_eq_number]
  · refine ⟨_, _, Binary64.readRational?_format .plain hx p,
      Binary64.readRational?_format .plain hy p, ?_⟩
    have hmono := (x.isRounded_rounded p).mono (Binary64.unit_pos p) (y.isRounded_rounded p) hle
    exact mul_le_mul_of_nonneg_right (by exact_mod_cast hmono) (Binary64.unit_pos p).le
  · have hvalue : x.value = m * (10 : ℚ) ^ (-p : ℤ) := by
      rw [← hm, zpow_neg, zpow_natCast]
      field_simp
    have hround := x.isRounded_rounded p
    rw [hvalue] at hround
    have hread := Binary64.readRational?_format .plain hx p
    rw [hround.eq_of_mul (Binary64.unit_pos p), ← hvalue] at hread
    exact hread
  · rw [inspect_eq_enclose, inspect_eq_enclose]
    have hformat := fun layout => Binary64.format_precision_of_not_finite layout hx s p
    exact ⟨hformat .plain, congrArg _ (hformat .general)⟩

/-- Minus one half is the middle between two whole numbers, and exact with one decimal. Its text without
decimals stands for no larger number than the one of the smallest positive float. -/
theorem precision_rounds_minus_half :
    ((⟨0xbfe0000000000000⟩ : Binary64).isFinite = true ∧
      (float ⟨0xbfe0000000000000⟩).format { precision := some 0 } = "-0" ∧
      ∃ k : ℤ, Decimal.readRational? "-0".toList = some (k * (10 : ℚ) ^ (-(0 : ℕ) : ℤ)) ∧
        IsRounded (10 ^ (-(0 : ℕ) : ℤ)) (⟨0xbfe0000000000000⟩ : Binary64).value k) ∧
    ((⟨0xbfe0000000000000⟩ : Binary64).value ≤ (⟨1⟩ : Binary64).value ∧
      ∃ q r, Decimal.readRational?
          ((float ⟨0xbfe0000000000000⟩).format { precision := some 0 }).toList = some q ∧
        Decimal.readRational? ((float ⟨1⟩).format { precision := some 0 }).toList = some r ∧
        q ≤ r) ∧
    (10 ^ 1 * (⟨0xbfe0000000000000⟩ : Binary64).value = (-5 : ℤ) ∧
      Decimal.readRational?
          ((float ⟨0xbfe0000000000000⟩).format { precision := some 1 }).toList =
        some (⟨0xbfe0000000000000⟩ : Binary64).value) ∧
    ((⟨0x7ff8000000000000⟩ : Binary64).isFinite = false ∧
      (float ⟨0x7ff8000000000000⟩).format { precision := some 3 } =
        (float ⟨0x7ff8000000000000⟩).format {}) := by
  obtain ⟨hplaces, -, hmono, hexact, -, -, hrest⟩ := precision_rounds_exact_value
  have hfinite : (⟨0xbfe0000000000000⟩ : Binary64).isFinite = true := by decide
  have htext : (float ⟨0xbfe0000000000000⟩).format { precision := some 0 } = "-0" := by
    decide +kernel
  have hle : (⟨0xbfe0000000000000⟩ : Binary64).value ≤ (⟨1⟩ : Binary64).value := by decide +kernel
  have hfive : 10 ^ 1 * (⟨0xbfe0000000000000⟩ : Binary64).value = (-5 : ℤ) := by decide +kernel
  have hnan : (⟨0x7ff8000000000000⟩ : Binary64).isFinite = false := by decide
  obtain ⟨whole, decimals, k, -, -, -, -, hread, hround⟩ := hplaces _ 0 hfinite
  rw [htext] at hread
  exact ⟨⟨hfinite, htext, k, hread, hround⟩, ⟨hle, hmono _ _ 0 hfinite (by decide) hle⟩,
    ⟨hfive, hexact _ 1 (-5) hfinite hfive⟩, hnan, (hrest _ {} (some 3) hnan).1⟩

end Scalar

end GradedSymbols
