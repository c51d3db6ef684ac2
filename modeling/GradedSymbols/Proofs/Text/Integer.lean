import GradedSymbols.Proofs.Decimal.Numerals
import GradedSymbols.Proofs.Text.Padding

/-!
# Reading integers

An integer is written by its digits behind a sign, whatever the width is, so a text that is padded by
zeros is read back by its sign and its digits: zeros in front of digits do not count. Hexadecimal
digits are read back as the word of the integer, which is the integer modulo `2 ^ 64`.

## Main definitions

* `GradedSymbols.Integer.lead`, `GradedSymbols.Integer.body` — what is padded.
* `GradedSymbols.Decimal.readSigned?` — the integer that digits behind a sign stand for.
* `GradedSymbols.LetterCase.hexDigits` — the sixteen digits with letters of one case.

## Main results

* `GradedSymbols.Integer.format_eq_pad` — the text of an integer is padded.
* `GradedSymbols.Integer.readSigned?_format` — an integer is read back from a text padded by zeros.
* `GradedSymbols.Integer.read_hexDigits` — hexadecimal digits are read back.
-/

namespace GradedSymbols

open Digits (IsDigits)

/-! ### Signed digits -/

namespace Decimal

/-- The integer that characters stand for if they are digits, possibly behind a sign. -/
def readSigned? : List Char → Option Int
  | '+' :: cs => (readNat? cs).map fun n : Nat => (n : Int)
  | cs => readInt? cs

theorem isDigits_replicate_append {ds : List Char} (h : IsDigits ds) (k : Nat) :
    IsDigits (List.replicate k '0' ++ ds) :=
  ⟨by simp [h.1], List.forall_mem_append.2 ⟨fun _ => Digits.isDigit_of_mem_replicate_zero, h.2⟩⟩

/-- Zeros in front of digits do not count. -/
theorem readNat?_replicate_append {ds : List Char} (h : IsDigits ds) (k : Nat) :
    readNat? (List.replicate k '0' ++ ds) = readNat? ds := by
  rw [readNat?_of_isDigits (isDigits_replicate_append h k), readNat?_of_isDigits h,
    Digits.read_append, Digits.read_replicate_zero, Nat.zero_mul, Nat.zero_add]

theorem readSigned?_of_isDigits {ds : List Char} (h : IsDigits ds) :
    readSigned? ds = (readNat? ds).map fun n : Nat => (n : Int) := by
  unfold readSigned? readInt?
  split
  · exact absurd (h.2 '+' List.mem_cons_self) (by decide)
  · split
    · exact absurd (h.2 '-' List.mem_cons_self) (by decide)
    · rfl

/-- Digits behind the sign of a style are read with this sign. -/
theorem readSigned?_sign_append (s : Style) (negative : Bool) {ds : List Char} (h : IsDigits ds) :
    readSigned? ((s.sign negative).toList ++ ds) =
      (readNat? ds).map fun n : Nat => if negative then -(n : Int) else n := by
  cases negative with
  | true =>
    simp only [Style.sign, ↓reduceIte]
    rfl
  | false =>
    cases hplus : s.plus with
    | true =>
      simp only [Style.sign, hplus, Bool.false_eq_true, ↓reduceIte]
      rfl
    | false =>
      simp only [Style.sign, hplus, Bool.false_eq_true, ↓reduceIte]
      exact readSigned?_of_isDigits h

end Decimal

/-! ### Hexadecimal digits -/

/-- The sixteen digits with letters of one case. -/
def LetterCase.hexDigits : LetterCase → List Char
  | lower => "0123456789abcdef".toList
  | upper => "0123456789ABCDEF".toList

namespace Digits

/-- Characters with the same values in the same places are read as the same number. -/
theorem read_map (base : Nat) {f : Char → Char} {ds : List Char}
    (h : ∀ d ∈ ds, value (f d) = value d) : read base (ds.map f) = read base ds := by
  induction ds using List.reverseRecOn with
  | nil => rfl
  | append_singleton ds d ih =>
    rw [List.forall_mem_append, List.forall_mem_singleton] at h
    rw [List.map_append, List.map_singleton, read_append_singleton, read_append_singleton, ih h.1,
      h.2]

end Digits

namespace Integer

/-- A hexadecimal digit in either case, and the value of its capital letter. -/
theorem hexDigit_cases {d : Char} {n : Nat} (h : d ∈ Nat.toDigits 16 n) :
    d ∈ LetterCase.lower.hexDigits ∧ d.toUpper ∈ LetterCase.upper.hexDigits ∧
      Digits.value d.toUpper = Digits.value d := by
  have hall : ∀ k < 16, k.digitChar ∈ LetterCase.lower.hexDigits ∧
      k.digitChar.toUpper ∈ LetterCase.upper.hexDigits ∧
      Digits.value k.digitChar.toUpper = Digits.value k.digitChar := by
    decide
  obtain ⟨k, hk, rfl⟩ := Digits.exists_digitChar_of_mem_toDigits (by decide) h
  exact hall k hk

theorem mem_hexDigits {letters : LetterCase} {i : Int} {d : Char} (h : d ∈ hexDigits letters i) :
    d ∈ letters.hexDigits := by
  cases letters with
  | lower => exact (hexDigit_cases h).1
  | upper =>
    obtain ⟨c, hc, rfl⟩ := List.mem_map.1 h
    exact (hexDigit_cases hc).2.1

theorem hexDigits_ne_nil (letters : LetterCase) (i : Int) : hexDigits letters i ≠ [] := by
  have hne : Nat.toDigits 16 (word i) ≠ [] := Nat.toDigits_ne_nil
  cases letters with
  | lower => exact hne
  | upper => exact fun h => hne (List.map_eq_nil_iff.1 h)

theorem word_eq_emod (i : Int) : (word i : Int) = i % 2 ^ 64 := by
  rw [word, BitVec.toNat_ofInt, Int.toNat_of_nonneg (Int.emod_nonneg i (by decide))]
  rfl

/-- **Hexadecimal digits** are read back as the word. -/
theorem read_hexDigits (letters : LetterCase) (i : Int) :
    Digits.read 16 (hexDigits letters i) = word i := by
  have hread : Digits.read 16 (Nat.toDigits 16 (word i)) = word i :=
    Digits.read_toDigits (by decide) (by decide) (word i)
  cases letters with
  | lower => exact hread
  | upper => exact (Digits.read_map 16 fun d hd => (hexDigit_cases hd).2.2).trans hread

/-! ### Padded integers -/

/-- What stands in front of the digits of an integer. In decimal this is the minus sign of a negative
integer, else the plus sign if the style has it. Hexadecimal digits have no minus sign, and are marked
in the alternate style. -/
def lead (s : Style) (i : Int) : String :=
  match s.hex with
  | none => if i < 0 then "-" else if s.plus then "+" else ""
  | some _ => (if s.plus then "+" else "") ++ if s.alternate then "0x" else ""

/-- The digits of an integer. -/
def body (s : Style) (i : Int) : String :=
  match s.hex with
  | none => String.ofList (Decimal.digits i.natAbs)
  | some letters => String.ofList (hexDigits letters i)

theorem lead_of_hex_eq_none {s : Style} (h : s.hex = none) (i : Int) : lead s i = s.sign (i < 0) := by
  simp [lead, h, Style.sign]

theorem format_eq_pad (s : Style) (i : Int) : format s i = s.pad (lead s i) (body s i) := by
  cases h : s.hex with
  | none => simp only [format, body, h, lead_of_hex_eq_none, Style.signed]
  | some letters => simp [format, lead, body, h, Style.sign]

/-- **Integers are read back** from texts that are padded by zeros behind the sign. -/
theorem readSigned?_format {s : Style} (hhex : s.hex = none) (hzeros : s.zeros = true) (i : Int) :
    Decimal.readSigned? (format s i).toList = some i := by
  have hdigits := Decimal.isDigits_digits i.natAbs
  obtain ⟨k, hpadded⟩ := (Style.isPadded_pad s (lead s i) (body s i)).behind_sign hzeros
  have htext : (format s i).toList = (s.sign (i < 0)).toList ++
      (List.replicate k '0' ++ Decimal.digits i.natAbs) := by
    rw [format_eq_pad, hpadded, lead_of_hex_eq_none hhex]
    simp [body, hhex]
  rw [htext, Decimal.readSigned?_sign_append s _ (Decimal.isDigits_replicate_append hdigits k),
    Decimal.readNat?_replicate_append hdigits, Decimal.readNat?_digits, Option.map_some]
  congr 1
  by_cases hneg : i < 0
  · rw [decide_eq_true hneg, if_pos rfl]
    omega
  · rw [decide_eq_false hneg, if_neg Bool.false_ne_true]
    omega

example : Decimal.readSigned? (format { width := 6, plus := true, zeros := true } 42).toList =
    some 42 := by
  decide

end Integer

end GradedSymbols
