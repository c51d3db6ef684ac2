import GradedSymbols.Proofs.Binary64.Reading

/-!
# Texts of scalars carry the value

The text of an integer is read back as the integer, and both texts of a finite float as the float,
sign included. So the text for inspection tells scalars apart except not-a-numbers, whose payloads it
does not show. The comparison of scalars as numbers draws other lines at two places only: it does not
tell the two zeros apart, and it does not take a not-a-number for itself.

## Main definitions

* `GradedSymbols.Scalar.isNaN` — whether a scalar is a not-a-number.

## Main results

* `GradedSymbols.Binary64.numericallyEqual_iff` — the comparison of binary64 numbers.
* `GradedSymbols.Scalar.inspect_eq_iff` — scalars with the same text for inspection.
* `GradedSymbols.Scalar.texts_carry_value` — what the texts of scalars tell.
-/

namespace GradedSymbols

open Decimal (IsNumeral)

/-! ### Comparison of binary64 numbers -/

namespace Binary64

variable {x y z : Binary64}

theorem numericallyEqual_iff : x.numericallyEqual y = true ↔
    x.isNaN = false ∧ y.isNaN = false ∧ (x = y ∨ x.code = 0 ∧ y.code = 0) := by
  simp [numericallyEqual, and_assoc]

theorem numericallyEqual_comm (x y : Binary64) :
    x.numericallyEqual y = y.numericallyEqual x := by
  rw [Bool.eq_iff_iff, numericallyEqual_iff, numericallyEqual_iff, eq_comm (a := x),
    and_comm (a := x.code = 0), and_left_comm]

theorem numericallyEqual_trans (hxy : x.numericallyEqual y = true)
    (hyz : y.numericallyEqual z = true) : x.numericallyEqual z = true := by
  rw [numericallyEqual_iff] at hxy hyz ⊢
  obtain ⟨hx, -, hxy⟩ := hxy
  obtain ⟨-, hz, hyz⟩ := hyz
  refine ⟨hx, hz, ?_⟩
  rcases hxy with rfl | ⟨hx, hy⟩
  · exact hyz
  · rcases hyz with rfl | ⟨-, hz⟩
    · exact .inr ⟨hx, hy⟩
    · exact .inr ⟨hx, hz⟩

theorem numericallyEqual_self : x.numericallyEqual x = true ↔ x.isNaN = false := by
  simp [numericallyEqual_iff]

/-- Different words that are the same number are the two zeros. -/
theorem numericallyEqual_and_ne_iff : x.numericallyEqual y = true ∧ x ≠ y ↔
    ∃ negative, x = ofParts negative 0 ∧ y = ofParts (!negative) 0 := by
  constructor
  · rintro ⟨h, hne⟩
    obtain ⟨-, -, rfl | ⟨hx, hy⟩⟩ := numericallyEqual_iff.1 h
    · exact absurd rfl hne
    · have hx' := x.ofParts_negative_code
      have hy' := y.ofParts_negative_code
      rw [hx] at hx'
      rw [hy] at hy'
      have hsign : y.negative = !x.negative := by
        rw [Bool.eq_not_iff]
        intro hsame
        rw [hsame, hx'] at hy'
        exact hne hy'
      exact ⟨x.negative, hx'.symm, by rw [← hsign, hy']⟩
  · rintro ⟨negative, rfl, rfl⟩
    cases negative <;> decide

end Binary64

namespace Scalar

/-! ### Texts -/

theorem inspect_int (i : Int64) :
    (int i).inspect {} = "Int(" ++ (Integer.format {} i.toInt ++ ")") := by
  simp [inspect, outline, Outline.render, Outline.oneLine, ← String.toList_inj]

theorem inspect_float (x : Binary64) :
    (float x).inspect {} = "Float(" ++ (x.format .general {} ++ ")") := by
  simp [inspect, outline, Outline.render, Outline.oneLine, ← String.toList_inj]

theorem inspect_int_ne_float (i : Int64) (x : Binary64) :
    (int i).inspect {} ≠ (float x).inspect {} := by
  rw [inspect_int, inspect_float]
  simp [← String.toList_inj]

theorem readInt?_format (i : Int) : Decimal.readInt? (Integer.format {} i).toList = some i := by
  rw [Integer.format_default, String.toList_ofList, Decimal.readInt?_signedDigits]

theorem inspect_int_inj {i j : Int64} : (int i).inspect {} = (int j).inspect {} ↔ i = j := by
  refine ⟨fun h => ?_, fun h => by rw [h]⟩
  rw [inspect_int, inspect_int, String.append_right_inj, String.append_left_inj] at h
  have hread := readInt?_format i.toInt
  rw [h, readInt?_format] at hread
  exact (Int64.toInt_inj.1 (Option.some.inj hread)).symm

/-- Whether a scalar is a not-a-number. -/
def isNaN : Scalar → Bool
  | int _ => false
  | float x => x.isNaN

/-- **Texts for inspection** are the same exactly for the same scalar and for not-a-numbers. -/
theorem inspect_eq_iff {v w : Scalar} :
    v.inspect {} = w.inspect {} ↔ v = w ∨ v.isNaN = true ∧ w.isNaN = true := by
  cases v with
  | int i =>
    cases w with
    | int j => simp [inspect_int_inj, isNaN]
    | float y => simp [inspect_int_ne_float i y, isNaN]
  | float x =>
    cases w with
    | int j => simp [(inspect_int_ne_float j x).symm, isNaN]
    | float y =>
      rw [inspect_float, inspect_float, String.append_right_inj, String.append_left_inj,
        Binary64.format_eq_iff, float.injEq]
      rfl

/-! ### Comparison of scalars -/

variable {u v w : Scalar}

theorem numericallyEqual_comm (v w : Scalar) : v.numericallyEqual w = w.numericallyEqual v := by
  cases v with
  | int i =>
    cases w with
    | int j => exact Bool.beq_comm
    | float y => rfl
  | float x =>
    cases w with
    | int j => rfl
    | float y => exact x.numericallyEqual_comm y

theorem numericallyEqual_int_iff {i : Int64} :
    (int i).numericallyEqual v = true ↔ v = int i := by
  cases v with
  | int j =>
    rw [int.injEq, eq_comm (a := j)]
    exact beq_iff_eq
  | float y => simp [numericallyEqual]

theorem numericallyEqual_trans (huv : u.numericallyEqual v = true)
    (hvw : v.numericallyEqual w = true) : u.numericallyEqual w = true := by
  cases u with
  | int i =>
    rw [numericallyEqual_int_iff] at huv
    rwa [huv] at hvw
  | float x =>
    cases v with
    | int j => cases huv
    | float y =>
      cases w with
      | int k => cases hvw
      | float z => exact Binary64.numericallyEqual_trans huv hvw

theorem numericallyEqual_self : v.numericallyEqual v = true ↔ v.isNaN = false := by
  cases v with
  | int i => simp [numericallyEqual, isNaN]
  | float x => exact Binary64.numericallyEqual_self

theorem isNaN_eq_false_of_numericallyEqual (h : v.numericallyEqual w = true) :
    v.isNaN = false ∧ w.isNaN = false := by
  have h' : w.numericallyEqual v = true := by rwa [numericallyEqual_comm]
  exact ⟨numericallyEqual_self.1 (numericallyEqual_trans h h'),
    numericallyEqual_self.1 (numericallyEqual_trans h' h)⟩

/-- Different scalars that are the same number are the two zeros. -/
theorem numericallyEqual_and_ne_iff : v.numericallyEqual w = true ∧ v ≠ w ↔
    ∃ negative, v = float (.ofParts negative 0) ∧ w = float (.ofParts (!negative) 0) := by
  cases v with
  | int i =>
    simp only [numericallyEqual_int_iff, reduceCtorEq, false_and, exists_false, iff_false]
    rintro ⟨rfl, hne⟩
    exact hne rfl
  | float x =>
    cases w with
    | int j => simp [numericallyEqual]
    | float y =>
      simp only [float.injEq, ne_eq, ← Binary64.numericallyEqual_and_ne_iff]
      rfl

/-- The comparison as numbers and the texts for inspection differ on the two zeros. -/
theorem numericallyEqual_and_inspect_ne_iff :
    v.numericallyEqual w = true ∧ v.inspect {} ≠ w.inspect {} ↔
      ∃ negative, v = float (.ofParts negative 0) ∧ w = float (.ofParts (!negative) 0) := by
  rw [← numericallyEqual_and_ne_iff, Ne, inspect_eq_iff]
  constructor
  · rintro ⟨h, hne⟩
    exact ⟨h, fun heq => hne (.inl heq)⟩
  · rintro ⟨h, hne⟩
    refine ⟨h, ?_⟩
    rintro (heq | ⟨hnan, -⟩)
    · exact hne heq
    · simp [(isNaN_eq_false_of_numericallyEqual h).1] at hnan

/-- The comparison as numbers and the texts for inspection differ on not-a-numbers. -/
theorem not_numericallyEqual_and_inspect_eq_iff :
    v.numericallyEqual w = false ∧ v.inspect {} = w.inspect {} ↔
      v.isNaN = true ∧ w.isNaN = true := by
  rw [inspect_eq_iff]
  constructor
  · rintro ⟨h, rfl | hnan⟩
    · have hself := numericallyEqual_self (v := v)
      cases hnan : v.isNaN <;> simp_all
    · exact hnan
  · intro hnan
    refine ⟨?_, .inr hnan⟩
    rw [Bool.eq_false_iff]
    intro h
    simp [(isNaN_eq_false_of_numericallyEqual h).1] at hnan

/-! ### What the texts tell -/

/-- **The texts of scalars carry the value.**

* The number in the text for inspection of an integer is read back as the integer.
* Both texts of a finite float are numerals behind the sign of the float. The two numerals have the
  same value, and the float is the one that this value is rounded to, to the nearest and in the middle
  to the even one.
* So both texts are read back as the float; infinities are read back as well.
* Two scalars have the same text for inspection exactly if they are the same bits of the same type, or
  both not-a-numbers.
* The comparison of scalars as numbers is symmetric and transitive. It takes scalars with different
  texts for the same only if they are the two zeros, and scalars with the same text for different only
  if they are not-a-numbers.
* An integer is never the same number as a float, and never has the same text. -/
theorem texts_carry_value :
    (∀ i : Int64, (int i).inspect {} = "Int(" ++ ((int i).format {} ++ ")") ∧
      Decimal.readInt? ((int i).format {}).toList = some i.toInt ∧ Int64.ofInt i.toInt = i) ∧
    (∀ x : Binary64, x.isFinite = true → ∃ cs d cs' d',
      (float x).inspect {} =
        "Float(" ++ (Style.sign {} x.negative ++ String.ofList cs ++ ")") ∧ IsNumeral cs d ∧
      (float x).format {} = Style.sign {} x.negative ++ String.ofList cs' ∧ IsNumeral cs' d' ∧
      d.value = d'.value ∧ ∀ c, Binary64.IsNearest d.value c ↔ c = x.code) ∧
    (∀ x : Binary64, x.isNaN = false →
      (float x).inspect {} = "Float(" ++ (x.format .general {} ++ ")") ∧
      Binary64.read? (x.format .general {}) = some x ∧
      Binary64.read? ((float x).format {}) = some x) ∧
    (∀ v w : Scalar, v.inspect {} = w.inspect {} ↔ v = w ∨ v.isNaN = true ∧ w.isNaN = true) ∧
    (∀ v w : Scalar, v.numericallyEqual w = w.numericallyEqual v) ∧
    (∀ u v w : Scalar, u.numericallyEqual v = true → v.numericallyEqual w = true →
      u.numericallyEqual w = true) ∧
    (∀ v w : Scalar, v.numericallyEqual w = true ∧ v.inspect {} ≠ w.inspect {} ↔
      ∃ negative, v = float (.ofParts negative 0) ∧ w = float (.ofParts (!negative) 0)) ∧
    (∀ v w : Scalar, v.numericallyEqual w = false ∧ v.inspect {} = w.inspect {} ↔
      v.isNaN = true ∧ w.isNaN = true) ∧
    (∀ (i : Int64) (x : Binary64), (int i).numericallyEqual (float x) = false ∧
      (int i).inspect {} ≠ (float x).inspect {}) := by
  refine ⟨fun i => ⟨inspect_int i, readInt?_format i.toInt, Int64.ofInt_toInt i⟩, fun x hx => ?_,
    fun x hx => ⟨inspect_float x, Binary64.read?_format .general hx, Binary64.read?_format .plain hx⟩,
    fun _ _ => inspect_eq_iff, numericallyEqual_comm, fun _ _ _ => numericallyEqual_trans,
    fun _ _ => numericallyEqual_and_inspect_ne_iff,
    fun _ _ => not_numericallyEqual_and_inspect_eq_iff, fun i x => ⟨rfl, inspect_int_ne_float i x⟩⟩
  obtain ⟨cs, d, hgeneral, hd, hvalue⟩ := Binary64.exists_format_eq .general hx
  obtain ⟨cs', d', hplain, hd', hvalue'⟩ := Binary64.exists_format_eq .plain hx
  refine ⟨cs, d, cs', d', ?_, hd, hplain, hd', hvalue.trans hvalue'.symm, fun c => ?_⟩
  · rw [inspect_float, hgeneral]
  · rw [hvalue]
    exact ⟨fun h => h.unique (Binary64.isNearest_shortest hx), fun h =>
      h ▸ Binary64.isNearest_shortest hx⟩

end Scalar

end GradedSymbols
