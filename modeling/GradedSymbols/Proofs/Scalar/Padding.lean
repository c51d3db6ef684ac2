import GradedSymbols.Object.Basic
import GradedSymbols.Proofs.Scalar.Numbers
import GradedSymbols.Proofs.Text.Integer

/-!
# Padding keeps the number

A scalar is padded to the width of its style, in the plain text and within the constructor in the text
for inspection. What is padded is the text that the scalar has without a width: fill characters come to
its ends, or zeros between its sign and the rest. The words for numbers that are not finite are padded
like digits. Around the padded number nothing changes, and the texts of symbols know no width at all.
So the number is still there: an integer is read back from the text that zeros fill, and from its
hexadecimal digits up to a multiple of `2 ^ 64`.

## Main definitions

* `GradedSymbols.Scalar.lead`, `GradedSymbols.Scalar.body` — the sign of a scalar and the rest.
* `GradedSymbols.Style.IsUnsigned` — texts that do not begin with a sign.
* `GradedSymbols.Scalar.enclose`, `GradedSymbols.Scalar.encloseOperand` — a text in the place of the
  number.

## Main results

* `GradedSymbols.Scalar.isPadded_number_iff` — what is padded.
* `GradedSymbols.Scalar.inspect_eq_enclose`, `GradedSymbols.Scalar.inspectOperand_eq_encloseOperand` —
  the texts for inspection.
* `GradedSymbols.Scalar.padding_keeps_number` — what padding does to scalars.
-/

namespace GradedSymbols

open Decimal (IsNumeral)

/-! ### Signs and bodies -/

namespace Style

/-- A text is *unsigned* when it begins with a character that is not a sign. -/
def IsUnsigned (text : String) : Prop :=
  ∃ first others, text = String.ofList (first :: others) ∧ first ≠ '+' ∧ first ≠ '-'

theorem isUnsigned_of_isDigit {first : Char} (h : first.isDigit = true) (others : List Char) :
    IsUnsigned (String.ofList (first :: others)) := by
  refine ⟨first, others, rfl, ?_, ?_⟩
  all_goals
    rintro rfl
    exact absurd h (by decide)

end Style

namespace Integer

theorem ne_sign_of_mem_hexDigits {letters : LetterCase} {d : Char} (h : d ∈ letters.hexDigits) :
    d ≠ '+' ∧ d ≠ '-' := by
  have hall : letters.hexDigits.all (fun d => d ≠ '+' ∧ d ≠ '-') = true := by
    cases letters <;> decide
  simpa only [decide_eq_true_eq] using List.all_eq_true.1 hall d h

theorem isUnsigned_body (s : Style) (i : Int) : Style.IsUnsigned (body s i) := by
  unfold body
  cases s.hex with
  | none =>
    obtain ⟨hne, hdigits⟩ := Decimal.isDigits_digits i.natAbs
    obtain ⟨first, others, hcons⟩ := List.exists_cons_of_ne_nil hne
    rw [hcons] at hdigits ⊢
    exact Style.isUnsigned_of_isDigit (hdigits first List.mem_cons_self) others
  | some letters =>
    obtain ⟨first, others, hcons⟩ := List.exists_cons_of_ne_nil (hexDigits_ne_nil letters i)
    have hfirst : first ∈ hexDigits letters i := by simp [hcons]
    exact ⟨first, others, congrArg String.ofList hcons,
      ne_sign_of_mem_hexDigits (mem_hexDigits hfirst)⟩

end Integer

namespace Binary64

/-- The sign of a number in a style: the minus sign of a negative one, else the plus sign if the style
has it. A not-a-number never has a sign. -/
def lead (s : Style) (x : Binary64) : String :=
  if x.isNaN then "" else if x.negative then "-" else if s.plus then "+" else ""

theorem format_eq_pad (layout : Layout) (s : Style) (x : Binary64) :
    x.format layout s = s.pad (x.lead s) (x.body layout s.precision) := by
  unfold format lead
  dsimp only
  split <;> rfl

/-- A finite magnitude is written by a numeral, whether its decimals are fixed or not. -/
theorem exists_isNumeral_body (layout : Layout) (precision : Option Nat) {x : Binary64}
    (h : x.isFinite = true) :
    ∃ cs d, x.body layout precision = String.ofList cs ∧ IsNumeral cs d := by
  have hnan := isNaN_eq_false_of_isFinite h
  have hinfinite := isInfinite_eq_false_of_isFinite h
  cases precision with
  | none =>
    obtain ⟨d, hnumeral, -⟩ := layout.exists_isNumeral_write x.shortest
    exact ⟨_, d, by simp [body, hnan, hinfinite], hnumeral⟩
  | some p =>
    exact ⟨_, _, by simp [body, hnan, hinfinite],
      .mantissa (Decimal.isMantissa_withPlaces_neg p (x.fixed p))⟩

theorem isUnsigned_body (layout : Layout) (precision : Option Nat) (x : Binary64) :
    Style.IsUnsigned (x.body layout precision) := by
  rcases x.isNaN_or_isInfinite_or_isFinite with h | h | h
  · exact ⟨'N', ['a', 'N'], by simp [body, h], by decide, by decide⟩
  · have hnan := isNaN_eq_false_of_isInfinite h
    exact ⟨'i', ['n', 'f'], by simp [body, h, hnan], by decide, by decide⟩
  · obtain ⟨cs, d, hbody, hnumeral⟩ := exists_isNumeral_body layout precision h
    obtain ⟨first, others, rfl, hfirst⟩ := hnumeral.exists_eq_cons
    rw [hbody]
    exact Style.isUnsigned_of_isDigit hfirst others

end Binary64

namespace Scalar

variable (layout : Binary64.Layout) (s : Style) (v : Scalar)

/-- What stands in front of the digits of a scalar: its sign, which a not-a-number never has, and the
mark of hexadecimal digits. -/
def lead : Scalar → String
  | int i => Integer.lead s i.toInt
  | float x => x.lead s

/-- The text of a scalar behind its sign. -/
def body : Scalar → String
  | int i => Integer.body s i.toInt
  | float x => x.body layout s.precision

/-- The number of a scalar, with the layout of floats. -/
def number : Scalar → String
  | int i => Integer.format s i.toInt
  | float x => x.format layout s

theorem isUnsigned_body : Style.IsUnsigned (v.body layout s) := by
  cases v with
  | int i => exact Integer.isUnsigned_body s i.toInt
  | float x => exact x.isUnsigned_body layout s.precision

theorem number_eq_pad : v.number layout s = s.pad (v.lead s) (v.body layout s) := by
  cases v with
  | int i => exact Integer.format_eq_pad s i.toInt
  | float x => exact x.format_eq_pad layout s

theorem number_unpadded : v.number layout { s with width := 0 } = v.lead s ++ v.body layout s := by
  rw [number_eq_pad, Style.pad_of_width_eq_zero rfl]
  cases v <;> rfl

/-- Without padding and plus signs the number has the same body. -/
theorem number_bare : v.number layout s.bare = v.lead s.bare ++ v.body layout s := by
  rw [number_eq_pad, Style.pad_of_width_eq_zero rfl]
  cases v <;> rfl

/-- **Padded numbers.** The number is the sign and the body, padded in the style. -/
theorem isPadded_number_iff (text : String) :
    s.IsPadded (v.lead s) (v.body layout s) text ↔ text = v.number layout s := by
  rw [Style.isPadded_iff, number_eq_pad]

example : (float ⟨0x7ff8000000000000⟩).number .plain { width := 10, plus := true, zeros := true } =
    "0000000NaN" := by
  decide +kernel

/-! ### Places of numbers -/

/-- The name of the constructor of a scalar. -/
def label : Scalar → String
  | int _ => "Int"
  | float _ => "Float"

/-- A text in the place of the number in the text for inspection, on one line or over several. -/
def enclose (broken : Bool) (text : String) : String :=
  if broken then v.label ++ "(\n    " ++ text ++ ",\n)" else v.label ++ "(" ++ text ++ ")"

/-- A text in the place of the number in the text for inspection of the scalar as an operand. -/
def encloseOperand (broken : Bool) (text : String) : String :=
  if broken then
    "Operand(\n    Scalar(\n        " ++ v.label ++ "(\n            " ++ text ++
      ",\n        ),\n    ),\n)"
  else "Operand(Scalar(" ++ v.label ++ "(" ++ text ++ ")))"

theorem format_eq_number : v.format s = v.number .plain s := by
  cases v <;> rfl

theorem outline_eq : v.outline s = .tuple v.label (.leaf (v.number .general s)) := by
  cases v <;> rfl

theorem inspect_eq_enclose : v.inspect s = v.enclose s.alternate (v.number .general s) := by
  rw [inspect, outline_eq, Outline.render, enclose]
  cases s.alternate with
  | false => rfl
  | true =>
    simp [Outline.indented, Outline.lines, Outline.closeEntry, Outline.indent, ← String.toList_inj]

theorem inspectOperand_eq_encloseOperand : Object.inspectOperand s (.scalar v) =
    v.encloseOperand s.alternate (v.number .general s) := by
  rw [Object.inspectOperand, Object.outline, outline_eq, Outline.render, encloseOperand]
  cases s.alternate with
  | false => simp [Outline.oneLine, ← String.toList_inj]
  | true =>
    simp [Outline.indented, Outline.lines, Outline.closeEntry, Outline.indent, ← String.toList_inj]

/-- Without a width the hexadecimal digits of an integer stand behind the plus sign and the mark. -/
theorem inspect_hexDigits (i : Int64) (letters : LetterCase) :
    (int i).inspect { s with width := 0, hex := some letters } =
      (int i).enclose s.alternate ((int i).lead { s with hex := some letters } ++
        String.ofList (Integer.hexDigits letters i.toInt)) := by
  have hnumber := number_unpadded .general { s with hex := some letters } (int i)
  rw [inspect_eq_enclose, hnumber]
  rfl

/-! ### What padding does -/

/-- **Padding keeps the number.**

* The sign of an integer in decimal and of a float is `-` if it is negative, else `+` if the style
  asks for it, else there is none; a not-a-number has none. Hexadecimal digits have no minus sign, and
  `0x` stands in front of them in the alternate style.
* The plain text of a scalar without a width is the sign and a body, and the body is the one that the
  scalar has without a plus sign, too. In a style with a width the plain text is these two, padded: it
  is the only text that obeys the rules of padding.
* The same holds of the number in the text for inspection, alone and as an operand, whose
  constructors stand around the padded number as around the one without a width.
* The texts of a symbol depend on a style only as it breaks an operand into lines.
* An integer is read back from the text that is padded by zeros behind the sign, also inside the
  constructor.
* The hexadecimal digits of an integer are digits of the case of the style, and the number that they
  are is the integer modulo `2 ^ 64`. -/
theorem padding_keeps_number :
    (∀ (i : Int64) (s : Style),
      (int i).lead { s with hex := none } =
        (if i.toInt < 0 then "-" else if s.plus then "+" else "") ∧
      ∀ letters, (int i).lead { s with hex := some letters } =
        (if s.plus then "+" else "") ++ (if s.alternate then "0x" else "")) ∧
    (∀ (x : Binary64) (s : Style), (float x).lead s =
      if x.isNaN then "" else if x.negative then "-" else if s.plus then "+" else "") ∧
    (∀ (v : Scalar) (s : Style), ∃ body, Style.IsUnsigned body ∧
      v.format s.bare = v.lead s.bare ++ body ∧
      v.format { s with width := 0 } = v.lead s ++ body ∧
      ∀ text, s.IsPadded (v.lead s) body text ↔ text = v.format s) ∧
    (∀ (v : Scalar) (s : Style), ∃ body number, Style.IsUnsigned body ∧
      (∀ text, s.IsPadded (v.lead s) body text ↔ text = number) ∧
      v.inspect s.bare = v.enclose s.alternate (v.lead s.bare ++ body) ∧
      v.inspect { s with width := 0 } = v.enclose s.alternate (v.lead s ++ body) ∧
      v.inspect s = v.enclose s.alternate number ∧
      Object.inspectOperand { s with width := 0 } (.scalar v) =
        v.encloseOperand s.alternate (v.lead s ++ body) ∧
      Object.inspectOperand s (.scalar v) = v.encloseOperand s.alternate number) ∧
    (∀ (a : Symbol) (s : Style), Object.format s (.symbol a) = Object.format {} (.symbol a) ∧
      Object.inspect s (.symbol a) = Object.inspect {} (.symbol a) ∧
      Object.inspectOperand s (.symbol a) =
        Object.inspectOperand { alternate := s.alternate } (.symbol a)) ∧
    (∀ (i : Int64) (s : Style),
      Decimal.readSigned? ((int i).format { s with zeros := true, hex := none }).toList =
        some i.toInt ∧
      (int i).inspect { s with zeros := true, hex := none } =
        (int i).enclose s.alternate ((int i).format { s with zeros := true, hex := none })) ∧
    (∀ (i : Int64) (letters : LetterCase), ∃ ds, ds ≠ [] ∧ (∀ d ∈ ds, d ∈ letters.hexDigits) ∧
      (Digits.read 16 ds : Int) = i.toInt % 2 ^ 64 ∧
      (int i).inspect { hex := some letters } = "Int(" ++ String.ofList ds ++ ")" ∧
      ∀ s : Style, (int i).inspect { s with width := 0, hex := some letters } =
        (int i).enclose s.alternate ((int i).lead { s with hex := some letters } ++
          String.ofList ds)) := by
  refine ⟨fun i s => ⟨rfl, fun letters => rfl⟩, fun x s => rfl,
    fun v s => ⟨v.body .plain s, v.isUnsigned_body .plain s, ?_, ?_, fun text => ?_⟩,
    fun v s => ⟨v.body .general s, v.number .general s, v.isUnsigned_body .general s,
      v.isPadded_number_iff .general s, ?_, ?_, v.inspect_eq_enclose s, ?_,
      v.inspectOperand_eq_encloseOperand s⟩,
    fun a s => ⟨rfl, rfl, rfl⟩,
    fun i s => ⟨Integer.readSigned?_format rfl rfl i.toInt, (int i).inspect_eq_enclose _⟩,
    fun i letters => ⟨_, Integer.hexDigits_ne_nil letters i.toInt, fun _ => Integer.mem_hexDigits,
      ?_, ?_, fun s => ?_⟩⟩
  · rw [format_eq_number, number_bare]
  · rw [format_eq_number, number_unpadded]
  · rw [isPadded_number_iff, format_eq_number]
  · rw [inspect_eq_enclose, number_bare]
    rfl
  · rw [inspect_eq_enclose, number_unpadded]
  · rw [inspectOperand_eq_encloseOperand, number_unpadded]
  · rw [Integer.read_hexDigits, Integer.word_eq_emod]
  · rw [inspect_hexDigits {}]
    simp [enclose, label, lead, Integer.lead]
  · exact inspect_hexDigits s i letters

end Scalar

end GradedSymbols
