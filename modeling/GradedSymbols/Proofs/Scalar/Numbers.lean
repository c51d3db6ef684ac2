import GradedSymbols.Proofs.Decimal.Numerals
import GradedSymbols.Scalar

/-!
# Numbers in the default style

Without a width a number is its sign and its body. An integer is its digits behind the sign, and a
finite binary64 number is a numeral behind the sign, in both layouts for one and the same value. The
other binary64 numbers are written by words. Hence the characters of numbers are digits, points, minus
signs and a few letters.

## Main results

* `GradedSymbols.Integer.format_default` — the text of an integer.
* `GradedSymbols.Binary64.format_of_isNaN`, `GradedSymbols.Binary64.format_of_isInfinite`,
  `GradedSymbols.Binary64.format_of_isFinite` — the text of a binary64 number.
* `GradedSymbols.Integer.isNumeric_format`, `GradedSymbols.Binary64.isNumeric_format` — the characters
  of numbers.
-/

namespace GradedSymbols

open Decimal (IsNumeral IsNumeric)

namespace Style

theorem pad_of_width_eq_zero {s : Style} (h : s.width = 0) (sign body : String) :
    s.pad sign body = sign ++ body := by
  unfold pad
  split
  · simp [h, copies]
  · split <;> simp [h, copies]

theorem sign_default (negative : Bool) : sign {} negative = if negative then "-" else "" := rfl

theorem isNumeric_sign_default (negative : Bool) :
    ∀ c ∈ (sign {} negative).toList, IsNumeric c := by
  cases negative with
  | false => simp [sign_default]
  | true => simp [sign_default, IsNumeric]

end Style

/-! ### Integers -/

namespace Integer

theorem format_default (i : Int) : format {} i = String.ofList (Decimal.signedDigits i) := by
  change Style.pad {} (Style.sign {} (i < 0)) (String.ofList (Decimal.digits i.natAbs)) = _
  rw [Style.pad_of_width_eq_zero rfl, Style.sign_default, Decimal.signedDigits]
  by_cases h : i < 0 <;> simp [h]

theorem isNumeric_format (i : Int) : ∀ c ∈ (format {} i).toList, IsNumeric c := by
  intro c hc
  rw [format_default, String.toList_ofList] at hc
  exact Decimal.isNumeric_of_mem_signedDigits hc

theorem format_ne_empty (i : Int) : format {} i ≠ "" := by
  have hdigits := (Decimal.isDigits_digits i.natAbs).1
  rw [format_default, Ne, String.ofList_eq_empty_iff, Decimal.signedDigits]
  split
  · exact List.cons_ne_nil _ _
  · exact hdigits

end Integer

/-! ### Binary64 numbers -/

namespace Binary64

variable (layout : Layout) {x : Binary64}

/-- In both layouts a decimal is written by a numeral for the same value. -/
theorem Layout.exists_isNumeral_write (d : Decimal) :
    ∃ d', IsNumeral (layout.write d) d' ∧ d'.value = d.value := by
  cases layout with
  | plain =>
    obtain ⟨d', hd', hvalue⟩ := d.exists_isMantissa_positional
    exact ⟨d', .mantissa hd', hvalue⟩
  | general => exact d.exists_isNumeral_general

theorem isNaN_or_isInfinite_or_isFinite (x : Binary64) :
    x.isNaN = true ∨ x.isInfinite = true ∨ x.isFinite = true := by
  simp only [isNaN, isInfinite, isFinite, decide_eq_true_eq]
  omega

theorem isNaN_eq_false_of_isInfinite (h : x.isInfinite = true) : x.isNaN = false := by
  simp only [isNaN, isInfinite, decide_eq_true_eq, decide_eq_false_iff_not] at h ⊢
  omega

theorem isNaN_eq_false_of_isFinite (h : x.isFinite = true) : x.isNaN = false := by
  simp only [isNaN, isFinite, decide_eq_true_eq, decide_eq_false_iff_not] at h ⊢
  omega

theorem isInfinite_eq_false_of_isFinite (h : x.isFinite = true) : x.isInfinite = false := by
  simp only [isInfinite, isFinite, decide_eq_true_eq, decide_eq_false_iff_not] at h ⊢
  omega

theorem format_of_isNaN (h : x.isNaN = true) : x.format layout {} = "NaN" := by
  simp [format, body, h, Style.unsigned, Style.pad_of_width_eq_zero]

theorem format_of_isInfinite (h : x.isInfinite = true) :
    x.format layout {} = Style.sign {} x.negative ++ "inf" := by
  simp [format, body, h, isNaN_eq_false_of_isInfinite h, Style.signed, Style.pad_of_width_eq_zero]

theorem format_of_isFinite (h : x.isFinite = true) :
    x.format layout {} = Style.sign {} x.negative ++ String.ofList (layout.write x.shortest) := by
  simp [format, body, isNaN_eq_false_of_isFinite h, isInfinite_eq_false_of_isFinite h,
    Style.signed, Style.pad_of_width_eq_zero]

theorem isNumeric_format (x : Binary64) : ∀ c ∈ (x.format layout {}).toList, IsNumeric c := by
  have hwords : (∀ c ∈ "NaN".toList, IsNumeric c) ∧ ∀ c ∈ "inf".toList, IsNumeric c := by
    simp [IsNumeric]
  rcases x.isNaN_or_isInfinite_or_isFinite with h | h | h
  · rw [format_of_isNaN layout h]
    exact hwords.1
  · rw [format_of_isInfinite layout h, String.toList_append, List.forall_mem_append]
    exact ⟨Style.isNumeric_sign_default _, hwords.2⟩
  · obtain ⟨d, hnumeral, -⟩ := layout.exists_isNumeral_write x.shortest
    rw [format_of_isFinite layout h, String.toList_append, List.forall_mem_append,
      String.toList_ofList]
    exact ⟨Style.isNumeric_sign_default _, hnumeral.isNumeric_of_mem⟩

theorem format_ne_empty (x : Binary64) : x.format layout {} ≠ "" := by
  rcases x.isNaN_or_isInfinite_or_isFinite with h | h | h
  · simp [format_of_isNaN layout h]
  · simp [format_of_isInfinite layout h]
  · obtain ⟨d, hnumeral, -⟩ := layout.exists_isNumeral_write x.shortest
    obtain ⟨first, others, hwrite, -⟩ := hnumeral.exists_eq_cons
    simp [format_of_isFinite layout h, hwrite]

end Binary64

end GradedSymbols
