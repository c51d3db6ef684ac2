import GradedSymbols.Proofs.Binary64.Nearest
import GradedSymbols.Proofs.Scalar.Numbers

/-!
# Reading binary64 numbers

The text of a number is read back in the usual way: a sign, then a numeral that is rounded to the
nearest magnitude, or the word for infinity. The shortest decimal of a finite number rounds to that
number, because the search for it accepts no other decimal, and the exact decimal behind the search has
the magnitude itself as its value. The numeral in either layout has the value of the shortest decimal.
So every number but a not-a-number is read back from its text, and two words have the same text only if
they are the same or both are not-a-numbers.

## Main definitions

* `GradedSymbols.Binary64.ofParts` — the word with a given sign and magnitude code.
* `GradedSymbols.Binary64.read?` — the number that a text stands for.

## Main results

* `GradedSymbols.Binary64.isReadAs_iff` — a decimal is read as the code that is nearest to its value.
* `GradedSymbols.Binary64.isNearest_shortest` — the shortest decimal rounds to its number.
* `GradedSymbols.Binary64.read?_format` — numbers are read back.
* `GradedSymbols.Binary64.format_eq_iff` — numbers with the same text.
-/

namespace GradedSymbols

open Decimal (IsNumeral)

/-! ### Decimals as quotients -/

namespace Decimal

theorem denominator_pos (d : Decimal) : 0 < d.denominator := Nat.pow_pos (by decide)

theorem numerator_div_denominator (d : Decimal) : (d.numerator / d.denominator : ℚ) = d.value := by
  obtain ⟨n, e⟩ := d
  simp only [numerator, denominator, value, Nat.pow_eq]
  cases e with
  | ofNat e => simp
  | negSucc e => simp [zpow_negSucc, div_eq_mul_inv]

end Decimal

namespace Binary64

/-! ### Shortest decimals -/

theorem isReadAs_iff (c : Nat) (d : Decimal) : isReadAs c d = true ↔ IsNearest d.value c := by
  have hnearest := isNearest_nearestCode d.numerator d.denominator_pos
  rw [d.numerator_div_denominator] at hnearest
  rw [isReadAs, beq_iff_eq]
  constructor
  · rintro rfl
    exact hnearest
  · exact hnearest.unique

/-- A number of units of `2 ^ -k` is as many times `5 ^ k` units of `10 ^ -k`. -/
theorem value_mul_pow_five (u k : Nat) :
    (⟨u * Nat.pow 5 k, -k⟩ : Decimal).value = u / (Nat.pow 2 k : Nat) := by
  simp only [Decimal.value, Nat.pow_eq]
  rw [show (10 : ℚ) = 2 * 5 by norm_num, zpow_neg, zpow_natCast, mul_pow]
  push_cast
  field_simp

theorem value_exactDecimal (c : Nat) : (exactDecimal c).value = magnitude c :=
  value_mul_pow_five (unitsOfCode c) 1074

theorem isReadAs_of_onGrid? {c : Nat} {g : Int} {d : Decimal} (h : onGrid? c g = some d) :
    isReadAs c d = true := by
  unfold onGrid? at h
  dsimp only at h
  split at h
  · next hlow =>
    split at h
    · next hhigh =>
      rw [← Option.some.inj h]
      split
      · exact hlow
      · exact hhigh
    · rw [← Option.some.inj h]
      exact hlow
  · split at h
    · next hhigh =>
      rw [← Option.some.inj h]
      exact hhigh
    · cases h

/-- **The shortest decimal** of a code rounds to the code. -/
theorem isNearest_shortestOfCode {c : Nat} (hc : c ≤ infinityCode) :
    IsNearest (shortestOfCode c).value c := by
  unfold shortestOfCode
  split
  · next hzero =>
    have hunits : unitsOfCode 0 = 0 := rfl
    have hvalue : (⟨0, 0⟩ : Decimal).value = magnitude c := by
      rw [hzero, magnitude, hunits, Decimal.value, Nat.cast_zero, zero_mul, zero_div]
    rw [hvalue]
    exact isNearest_magnitude hc
  · split
    · next d hfound =>
      obtain ⟨k, -, hgrid⟩ := List.exists_of_findSome?_eq_some hfound
      exact (isReadAs_iff c d).1 (isReadAs_of_onGrid? hgrid)
    · rw [value_exactDecimal]
      exact isNearest_magnitude hc

theorem isNearest_shortest {x : Binary64} (h : x.isFinite = true) :
    IsNearest x.shortest.value x.code :=
  isNearest_shortestOfCode (Nat.le_of_lt (of_decide_eq_true h))

/-! ### Reading -/

/-- The word with a given sign and magnitude code. -/
def ofParts (negative : Bool) (c : Nat) : Binary64 :=
  ofCode (if negative then 2 ^ 63 + c else c)

theorem ofParts_negative_code (x : Binary64) : ofParts x.negative x.code = x := by
  obtain ⟨bits⟩ := x
  have hlt : bits.toNat < 2 ^ 64 := bits.toNat_lt
  have hparts : (if (⟨bits⟩ : Binary64).negative then 2 ^ 63 + (⟨bits⟩ : Binary64).code
      else (⟨bits⟩ : Binary64).code) = bits.toNat := by
    simp only [negative, code, Nat.pow_eq, decide_eq_true_eq]
    split <;> omega
  rw [ofParts, hparts, ofCode, UInt64.ofNat_toNat]

/-- The magnitude code that characters without a sign stand for: the word for infinity, or a numeral
that is rounded. -/
def readCode? (cs : List Char) : Option Nat :=
  if cs = ['i', 'n', 'f'] then some infinityCode
  else (Decimal.read? cs).map fun d => nearestCode d.numerator d.denominator

/-- The number that a text stands for. -/
def read? (text : String) : Option Binary64 :=
  match text.toList with
  | '-' :: cs => (readCode? cs).map (ofParts true)
  | cs => (readCode? cs).map (ofParts false)

/-- A sign in front of characters that do not begin with one is read as the sign of the number. -/
theorem read?_sign_append (negative : Bool) {first : Char} (hfirst : first ≠ '-')
    (others : List Char) : read? (Style.sign {} negative ++ String.ofList (first :: others)) =
      (readCode? (first :: others)).map (ofParts negative) := by
  cases negative with
  | true =>
    simp [read?, Style.sign_default]
  | false =>
    rw [read?, Style.sign_default, if_neg Bool.false_ne_true, String.empty_append,
      String.toList_ofList]
    split
    · next cs hcs => exact absurd (List.cons.inj hcs).1 hfirst
    · rfl

theorem readCode?_of_isNumeral {cs : List Char} {d : Decimal} {c : Nat} (h : IsNumeral cs d)
    (hnearest : IsNearest d.value c) : readCode? cs = some c := by
  have hne : cs ≠ ['i', 'n', 'f'] := by
    rintro rfl
    obtain ⟨first, others, hcs, hfirst⟩ := h.exists_eq_cons
    rw [← (List.cons.inj hcs).1] at hfirst
    exact absurd hfirst (by decide)
  have hcode := (isReadAs_iff c d).2 hnearest
  rw [isReadAs, beq_iff_eq] at hcode
  rw [readCode?, if_neg hne, h.read?_eq, Option.map_some, hcode]

/-- In either layout a finite number is written by its sign and a numeral for its shortest decimal. -/
theorem exists_format_eq (layout : Layout) {x : Binary64} (h : x.isFinite = true) :
    ∃ cs d, x.format layout {} = Style.sign {} x.negative ++ String.ofList cs ∧ IsNumeral cs d ∧
      d.value = x.shortest.value := by
  obtain ⟨d, hnumeral, hvalue⟩ := layout.exists_isNumeral_write x.shortest
  exact ⟨_, d, format_of_isFinite layout h, hnumeral, hvalue⟩

/-- **Numbers are read back** from their texts in either layout. -/
theorem read?_format (layout : Layout) {x : Binary64} (h : x.isNaN = false) :
    read? (x.format layout {}) = some x := by
  rcases x.isNaN_or_isInfinite_or_isFinite with hnan | hinfinite | hfinite
  · simp [h] at hnan
  · have hcode : infinityCode = x.code := (of_decide_eq_true hinfinite).symm
    have hword : "inf" = String.ofList ['i', 'n', 'f'] := rfl
    rw [format_of_isInfinite layout hinfinite, hword, read?_sign_append _ (by decide), readCode?,
      if_pos rfl, hcode, Option.map_some, ofParts_negative_code]
  · obtain ⟨cs, d, hformat, hnumeral, hvalue⟩ := exists_format_eq layout hfinite
    have hnearest := isNearest_shortest hfinite
    rw [← hvalue] at hnearest
    have hcode := readCode?_of_isNumeral hnumeral hnearest
    obtain ⟨first, others, rfl, hfirst⟩ := hnumeral.exists_eq_cons
    have hsign : first ≠ '-' := by
      rintro rfl
      exact absurd hfirst (by decide)
    rw [hformat, read?_sign_append _ hsign, hcode, Option.map_some, ofParts_negative_code]

example : read? "-2.5e-1" = some ⟨0xbfd0000000000000⟩ := by decide +kernel

theorem read?_format_of_isNaN (layout : Layout) {x : Binary64} (h : x.isNaN = true) :
    read? (x.format layout {}) = none := by
  rw [format_of_isNaN layout h]
  decide

/-- **Texts of numbers.** Two words have the same text exactly if they are the same or both are
not-a-numbers. -/
theorem format_eq_iff (layout : Layout) {x y : Binary64} :
    x.format layout {} = y.format layout {} ↔ x = y ∨ x.isNaN = true ∧ y.isNaN = true := by
  constructor
  · intro h
    cases hx : x.isNaN with
    | true =>
      cases hy : y.isNaN with
      | true => exact .inr ⟨rfl, rfl⟩
      | false =>
        have hread := read?_format layout hy
        rw [← h, read?_format_of_isNaN layout hx] at hread
        cases hread
    | false =>
      have hread := read?_format layout hx
      rw [h] at hread
      cases hy : y.isNaN with
      | true =>
        rw [read?_format_of_isNaN layout hy] at hread
        cases hread
      | false =>
        rw [read?_format layout hy] at hread
        exact .inl (Option.some.inj hread).symm
  · rintro (rfl | ⟨hx, hy⟩)
    · rfl
    · rw [format_of_isNaN layout hx, format_of_isNaN layout hy]

end Binary64

end GradedSymbols
