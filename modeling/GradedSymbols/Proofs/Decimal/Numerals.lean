import GradedSymbols.Decimal.Basic
import GradedSymbols.Proofs.Text.Digits
import Mathlib.Algebra.Order.Field.Rat
import Mathlib.Data.List.Induction
import Mathlib.Tactic.FieldSimp
import Mathlib.Tactic.NormNum
import Mathlib.Tactic.Ring

/-!
# Numerals

A numeral is a mantissa, that is digits with or without decimals behind a point, or a mantissa and a
power of ten. It stands for a decimal: its digits are the coefficient, and the decimals and the power
of ten make up the exponent. A numeral is read back as that decimal, whatever its form.

All layouts of decimals are numerals. The positional layout and the general one may write zeros
behind the digits, so that the decimal that is read is another one, with the same value.

## Main definitions

* `GradedSymbols.Decimal.value` — the rational number that a decimal is.
* `GradedSymbols.Decimal.IsMantissa`, `GradedSymbols.Decimal.IsNumeral` — the characters that stand
  for a decimal.
* `GradedSymbols.Decimal.read?` — the decimal that characters stand for.

## Main results

* `GradedSymbols.Decimal.IsNumeral.read?_eq` — numerals are read back.
* `GradedSymbols.Decimal.isMantissa_withPlaces`, `GradedSymbols.Decimal.exists_isMantissa_positional`,
  `GradedSymbols.Decimal.isNumeral_scientific`, `GradedSymbols.Decimal.exists_isNumeral_general` — the
  layouts are numerals.
-/

namespace GradedSymbols

/-! ### Digits -/

namespace Digits

/-- Characters are *digits* when there is at least one and all are digits of the base ten. -/
def IsDigits (ds : List Char) : Prop := ds ≠ [] ∧ ∀ d ∈ ds, d.isDigit = true

instance (ds : List Char) : Decidable (IsDigits ds) :=
  @instDecidableAnd _ _ inferInstance (List.decidableBAll _ ds)

theorem IsDigits.append {ds es : List Char} (hds : IsDigits ds)
    (hes : ∀ e ∈ es, e.isDigit = true) : IsDigits (ds ++ es) :=
  ⟨by simp [hds.1], List.forall_mem_append.2 ⟨hds.2, hes⟩⟩

theorem IsDigits.notMem {ds : List Char} (h : IsDigits ds) {c : Char} (hc : c.isDigit = false) :
    c ∉ ds :=
  fun hmem => absurd (h.2 c hmem) (by simp [hc])

theorem isDigit_of_mem_replicate_zero {k : Nat} {d : Char} (h : d ∈ List.replicate k '0') :
    d.isDigit = true := by
  rw [List.eq_of_mem_replicate h]
  rfl

/-- The digits of a text in two parts: the first part counts as many powers of the base more as the
second part has digits. -/
theorem read_append (base : Nat) (ds es : List Char) :
    read base (ds ++ es) = read base ds * base ^ es.length + read base es := by
  induction es using List.reverseRecOn with
  | nil => simp [read]
  | append_singleton es e ih =>
    rw [← List.append_assoc, read_append_singleton, ih, read_append_singleton, List.length_append,
      List.length_singleton]
    ring

theorem read_replicate_zero (base k : Nat) : read base (List.replicate k '0') = 0 := by
  induction k with
  | zero => rfl
  | succ k ih =>
    rw [List.replicate_succ', read_append_singleton, ih]
    rfl

end Digits

namespace Decimal

open Digits (IsDigits)

theorem isDigits_digits (n : Nat) : IsDigits (digits n) :=
  ⟨Nat.toDigits_ne_nil, fun _ h => Nat.isDigit_of_mem_toDigits (by decide) (by decide) h⟩

theorem read_digits (n : Nat) : Digits.read 10 (digits n) = n :=
  Digits.read_toDigits (by decide) (by decide) n

theorem isDigit_of_mem_paddedDigits {k n : Nat} {d : Char} (h : d ∈ paddedDigits k n) :
    d.isDigit = true := by
  rcases List.mem_append.1 h with h | h
  · exact Digits.isDigit_of_mem_replicate_zero h
  · exact (isDigits_digits n).2 d h

theorem read_paddedDigits (k n : Nat) : Digits.read 10 (paddedDigits k n) = n := by
  rw [paddedDigits, Digits.read_append, Digits.read_replicate_zero, read_digits]
  simp

theorem le_length_paddedDigits (k n : Nat) : k ≤ (paddedDigits k n).length := by
  rw [paddedDigits, List.length_append, List.length_replicate]
  omega

/-! ### Values -/

/-- The rational number that a decimal is. -/
def value (d : Decimal) : ℚ := d.coefficient * 10 ^ d.exponent

/-! ### Numerals -/

/-- The characters of a mantissa and the decimal that it stands for. A mantissa is made of digits, with
or without a point between them. -/
inductive IsMantissa : List Char → Decimal → Prop
  | whole {ds : List Char} (h : IsDigits ds) : IsMantissa ds ⟨Digits.read 10 ds, 0⟩
  | point {ds es : List Char} (hds : IsDigits ds) (hes : IsDigits es) :
    IsMantissa (ds ++ '.' :: es) ⟨Digits.read 10 (ds ++ es), -es.length⟩

/-- The characters of a numeral and the decimal that it stands for. A numeral is a mantissa, with or
without a power of ten behind it. -/
inductive IsNumeral : List Char → Decimal → Prop
  | mantissa {cs : List Char} {d : Decimal} (h : IsMantissa cs d) : IsNumeral cs d
  | power {cs : List Char} {d : Decimal} (h : IsMantissa cs d) (k : Int) :
    IsNumeral (cs ++ 'e' :: signedDigits k) ⟨d.coefficient, k + d.exponent⟩

/-! ### Layouts -/

theorem isMantissa_take_drop {ds : List Char} (hds : ∀ d ∈ ds, d.isDigit = true) {p : Nat}
    (hpos : 0 < p) (hlt : p < ds.length) :
    IsMantissa (ds.take (ds.length - p) ++ '.' :: ds.drop (ds.length - p))
      ⟨Digits.read 10 ds, -p⟩ := by
  have hwhole : IsDigits (ds.take (ds.length - p)) := by
    refine ⟨?_, fun d hd => hds d (List.mem_of_mem_take hd)⟩
    rw [← List.length_pos_iff, List.length_take]
    omega
  have hlength : (ds.drop (ds.length - p)).length = p := by
    rw [List.length_drop]
    omega
  have hdecimals : IsDigits (ds.drop (ds.length - p)) := by
    refine ⟨?_, fun d hd => hds d (List.mem_of_mem_drop hd)⟩
    rwa [← List.length_pos_iff, hlength]
  have hmantissa := IsMantissa.point hwhole hdecimals
  rwa [List.take_append_drop, hlength] at hmantissa

/-- **Decimals.** A number with decimals counts units of that many places. -/
theorem isMantissa_withPlaces (k n : Nat) :
    IsMantissa (withPlaces (k + 1) n) ⟨n, .negSucc k⟩ := by
  have hmantissa := isMantissa_take_drop (fun _ => isDigit_of_mem_paddedDigits) (Nat.succ_pos k)
    (le_length_paddedDigits (k + 1 + 1) n)
  rw [read_paddedDigits] at hmantissa
  exact hmantissa

/-- A number with any number of decimals counts units of that many places; without decimals it has no
point and counts ones. -/
theorem isMantissa_withPlaces_neg (p n : Nat) : IsMantissa (withPlaces p n) ⟨n, -p⟩ := by
  cases p with
  | zero =>
    have hdigits : IsDigits (paddedDigits 1 n) :=
      ⟨List.ne_nil_of_length_pos (le_length_paddedDigits 1 n),
        fun _ => isDigit_of_mem_paddedDigits⟩
    have hmantissa := IsMantissa.whole hdigits
    rw [read_paddedDigits] at hmantissa
    exact hmantissa
  | succ k => exact isMantissa_withPlaces k n

/-- **Positional layout.** It stands for a decimal with the same value. -/
theorem exists_isMantissa_positional (d : Decimal) :
    ∃ d', IsMantissa d.positional d' ∧ d'.value = d.value := by
  obtain ⟨n, e⟩ := d
  cases e with
  | ofNat e =>
    have hdigits : IsDigits (digits n ++ List.replicate e '0') :=
      (isDigits_digits n).append fun _ => Digits.isDigit_of_mem_replicate_zero
    refine ⟨⟨Digits.read 10 (digits n ++ List.replicate e '0'), 0⟩, .whole hdigits, ?_⟩
    rw [Digits.read_append, Digits.read_replicate_zero, read_digits]
    simp [value]
  | negSucc k => exact ⟨_, isMantissa_withPlaces k n, rfl⟩

/-- **Scientific layout.** It stands for the decimal itself. -/
theorem isNumeral_scientific (d : Decimal) : IsNumeral d.scientific d := by
  have hdigits := isDigits_digits d.coefficient
  have hread := read_digits d.coefficient
  cases hds : digits d.coefficient with
  | nil => exact absurd hds hdigits.1
  | cons first others =>
    rw [hds] at hdigits hread
    have hleading : d.leadingExponent = others.length + d.exponent := by
      rw [leadingExponent, hds, List.length_cons]
      omega
    cases others with
    | nil =>
      have hnumeral := IsNumeral.power (.whole hdigits) d.leadingExponent
      rw [hread] at hnumeral
      simpa [scientific, hds, hleading] using hnumeral
    | cons second others =>
      have hfirst : IsDigits [first] :=
        ⟨List.cons_ne_nil _ _, fun c hc => hdigits.2 c (by simp_all)⟩
      have hothers : IsDigits (second :: others) :=
        ⟨List.cons_ne_nil _ _, fun c hc => hdigits.2 c (List.mem_cons_of_mem first hc)⟩
      have hnumeral := IsNumeral.power (.point hfirst hothers) d.leadingExponent
      -- The point moves the exponent up by as many places as there are digits behind it.
      have hexponent : d.leadingExponent + -((second :: others).length : Int) = d.exponent := by
        omega
      simp only [List.singleton_append, hread, hexponent] at hnumeral
      simpa [scientific, hds] using hnumeral

/-- **General layout.** It stands for a decimal with the same value. -/
theorem exists_isNumeral_general (d : Decimal) :
    ∃ d', IsNumeral d.general d' ∧ d'.value = d.value := by
  unfold general
  split
  · exact ⟨d, isNumeral_scientific d, rfl⟩
  · split
    · next hexponent =>
      obtain ⟨n, e⟩ := d
      obtain ⟨e, rfl⟩ := Int.eq_ofNat_of_zero_le hexponent
      have hdigits : IsDigits (digits n ++ List.replicate e '0') :=
        (isDigits_digits n).append fun _ => Digits.isDigit_of_mem_replicate_zero
      have hzero : IsDigits ['0'] := by decide
      refine ⟨⟨Digits.read 10 (digits n ++ List.replicate e '0' ++ ['0']), -1⟩,
        .mantissa (.point hdigits hzero), ?_⟩
      rw [Digits.read_append_singleton, Digits.read_append, Digits.read_replicate_zero, read_digits]
      have hread : Digits.value '0' = 0 := rfl
      simp only [value, hread, List.length_replicate, zpow_natCast, zpow_neg, zpow_one]
      push_cast
      field_simp
      ring
    · obtain ⟨d', hd', hvalue⟩ := exists_isMantissa_positional d
      exact ⟨d', .mantissa hd', hvalue⟩

theorem IsMantissa.exists_decimals {cs : List Char} {d : Decimal} (h : IsMantissa cs d) {p : Nat}
    (hp : d.exponent = -p) : ∃ whole decimals, IsDigits whole ∧ (∀ d ∈ decimals, d.isDigit = true) ∧
      decimals.length = p ∧ cs = whole ++ if p = 0 then [] else '.' :: decimals := by
  cases h with
  | whole h =>
    have hzero : (0 : Int) = -p := hp
    obtain rfl : p = 0 := by omega
    exact ⟨cs, [], h, by simp, rfl, by simp⟩
  | @point whole decimals hwhole hdecimals =>
    have hlength : -(decimals.length : Int) = -p := hp
    have hpos : 0 < decimals.length := List.length_pos_iff.2 hdecimals.1
    exact ⟨whole, decimals, hwhole, hdecimals.2, by omega, by rw [if_neg (by omega)]⟩

/-! ### The characters of numerals -/

/-- A character is *numeric* when it is a digit, the point, the minus sign or one of the letters in
numbers, which are that of powers of ten and those of the words for what is not finite. -/
def IsNumeric (c : Char) : Prop :=
  c.isDigit = true ∨ c ∈ ['.', '-', 'e', 'i', 'n', 'f', 'N', 'a']

theorem isNumeric_of_mem_signedDigits {i : Int} {c : Char} (h : c ∈ signedDigits i) :
    IsNumeric c := by
  have hdigits : ∀ d ∈ digits i.natAbs, IsNumeric d := fun d hd =>
    .inl ((isDigits_digits i.natAbs).2 d hd)
  unfold signedDigits at h
  split at h
  · rcases List.mem_cons.1 h with rfl | h
    · exact .inr (by decide)
    · exact hdigits c h
  · exact hdigits c h

theorem IsMantissa.isNumeric_of_mem {cs : List Char} {d : Decimal} (h : IsMantissa cs d) :
    ∀ c ∈ cs, IsNumeric c := by
  cases h with
  | whole h => exact fun c hc => .inl (h.2 c hc)
  | point hds hes =>
    rw [List.forall_mem_append, List.forall_mem_cons]
    exact ⟨fun c hc => .inl (hds.2 c hc), .inr (by decide), fun c hc => .inl (hes.2 c hc)⟩

theorem IsNumeral.isNumeric_of_mem {cs : List Char} {d : Decimal} (h : IsNumeral cs d) :
    ∀ c ∈ cs, IsNumeric c := by
  cases h with
  | mantissa h => exact h.isNumeric_of_mem
  | power h k =>
    rw [List.forall_mem_append, List.forall_mem_cons]
    exact ⟨h.isNumeric_of_mem, .inr (by decide), fun c hc => isNumeric_of_mem_signedDigits hc⟩

theorem IsMantissa.exists_eq_cons {cs : List Char} {d : Decimal} (h : IsMantissa cs d) :
    ∃ first others, cs = first :: others ∧ first.isDigit = true := by
  cases h with
  | whole h =>
    obtain ⟨first, others, rfl⟩ := List.exists_cons_of_ne_nil h.1
    exact ⟨first, others, rfl, h.2 first List.mem_cons_self⟩
  | point h _ =>
    obtain ⟨first, others, rfl⟩ := List.exists_cons_of_ne_nil h.1
    exact ⟨first, _, rfl, h.2 first List.mem_cons_self⟩

/-- A numeral begins with a digit, so not with a sign. -/
theorem IsNumeral.exists_eq_cons {cs : List Char} {d : Decimal} (h : IsNumeral cs d) :
    ∃ first others, cs = first :: others ∧ first.isDigit = true := by
  cases h with
  | mantissa h => exact h.exists_eq_cons
  | power h k =>
    obtain ⟨first, others, rfl, hfirst⟩ := h.exists_eq_cons
    exact ⟨first, _, rfl, hfirst⟩

/-! ### Reading -/

/-- The number that characters stand for if they are digits. -/
def readNat? (cs : List Char) : Option Nat :=
  if IsDigits cs then some (Digits.read 10 cs) else none

/-- The integer that characters stand for if they are digits, possibly behind a minus sign. -/
def readInt? : List Char → Option Int
  | '-' :: cs => (readNat? cs).map fun n : Nat => -(n : Int)
  | cs => (readNat? cs).map fun n : Nat => (n : Int)

/-- The decimal that characters stand for if they are a mantissa. -/
def readMantissa? (cs : List Char) : Option Decimal :=
  match cs.splitOn '.' with
  | [whole] => (readNat? whole).map fun n => ⟨n, 0⟩
  | [whole, decimals] =>
    if IsDigits whole ∧ IsDigits decimals then
      some ⟨Digits.read 10 (whole ++ decimals), -decimals.length⟩
    else none
  | _ => none

/-- The decimal that characters stand for if they are a numeral. -/
def read? (cs : List Char) : Option Decimal :=
  match cs.splitOn 'e' with
  | [mantissa] => readMantissa? mantissa
  | [mantissa, power] => do
    let d ← readMantissa? mantissa
    let k ← readInt? power
    return ⟨d.coefficient, k + d.exponent⟩
  | _ => none

theorem readNat?_of_isDigits {cs : List Char} (h : IsDigits cs) :
    readNat? cs = some (Digits.read 10 cs) := if_pos h

theorem readNat?_digits (n : Nat) : readNat? (digits n) = some n := by
  rw [readNat?_of_isDigits (isDigits_digits n), read_digits]

theorem readInt?_signedDigits (i : Int) : readInt? (signedDigits i) = some i := by
  unfold signedDigits
  split
  · rw [readInt?, readNat?_digits, Option.map_some]
    congr 1
    omega
  · -- Digits do not begin with a minus sign, so they are read as they are.
    have hunsigned : readInt? (digits i.natAbs) =
        (readNat? (digits i.natAbs)).map fun n : Nat => (n : Int) := by
      unfold readInt?
      split
      · next cs hcs => exact absurd ((isDigits_digits i.natAbs).2 '-' (by simp [hcs])) (by decide)
      · rfl
    rw [hunsigned, readNat?_digits, Option.map_some]
    congr 1
    omega

theorem e_notMem_signedDigits (i : Int) : 'e' ∉ signedDigits i := by
  have he : 'e' ∉ digits i.natAbs := (isDigits_digits i.natAbs).notMem rfl
  unfold signedDigits
  split
  · simp [he]
  · exact he

theorem IsMantissa.e_notMem {cs : List Char} {d : Decimal} (h : IsMantissa cs d) : 'e' ∉ cs := by
  cases h with
  | whole h => exact h.notMem rfl
  | point hds hes => simp [hds.notMem (c := 'e') rfl, hes.notMem (c := 'e') rfl]

theorem IsMantissa.readMantissa?_eq {cs : List Char} {d : Decimal} (h : IsMantissa cs d) :
    readMantissa? cs = some d := by
  cases h with
  | whole h =>
    have hsplit : cs.splitOn '.' = [cs] := List.splitOn_eq_singleton (h.notMem rfl)
    rw [readMantissa?, hsplit]
    simp only [readNat?_of_isDigits h, Option.map_some]
  | @point ds es hds hes =>
    have hsplit : (ds ++ '.' :: es).splitOn '.' = [ds, es] := by
      rw [List.splitOn_append_cons_self_of_not_mem (hds.notMem rfl),
        List.splitOn_eq_singleton (hes.notMem rfl)]
    rw [readMantissa?, hsplit]
    exact if_pos ⟨hds, hes⟩

/-- **Numerals** are read back as the decimal that they stand for. -/
theorem IsNumeral.read?_eq {cs : List Char} {d : Decimal} (h : IsNumeral cs d) :
    read? cs = some d := by
  cases h with
  | mantissa h =>
    rw [read?, List.splitOn_eq_singleton h.e_notMem]
    exact h.readMantissa?_eq
  | @power mantissa _ h k =>
    have hsplit : (mantissa ++ 'e' :: signedDigits k).splitOn 'e' = [mantissa, signedDigits k] := by
      rw [List.splitOn_append_cons_self_of_not_mem h.e_notMem,
        List.splitOn_eq_singleton (e_notMem_signedDigits k)]
    rw [read?, hsplit]
    simp [h.readMantissa?_eq, readInt?_signedDigits]

example : read? "1.5e-7".toList = some ⟨15, -8⟩ := by decide

end Decimal

end GradedSymbols
