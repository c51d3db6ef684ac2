import GradedSymbols.Binary64.Text
import GradedSymbols.Text.Integer
import GradedSymbols.Text.Outline

/-!
# Scalar literals

A scalar is an integer of 64 bits or a binary64 number. Its text is the number alone; for
inspection it is shown inside its constructor.

## Main definitions

* `GradedSymbols.Scalar` — scalars; equality of the type is equality of bits.
* `GradedSymbols.Scalar.ofInt32` — the scalars of shorter integers.
* `GradedSymbols.Scalar.numericallyEqual` — the comparison of scalars as numbers of one type.
* `GradedSymbols.Scalar.format`, `GradedSymbols.Scalar.outline` — the two texts in a style.
-/

namespace GradedSymbols

/-- A scalar literal. -/
inductive Scalar where
  | int (value : Int64)
  | float (value : Binary64)
deriving DecidableEq

namespace Scalar

/-- The scalar of an integer of 32 bits. -/
def ofInt32 (value : Int32) : Scalar := int value.toInt64

/-- Whether two scalars are of one type and are the same number: the two zeros of binary64 are, a
not-a-number is not even the same as itself, and an integer is never the same as a float. -/
def numericallyEqual : Scalar → Scalar → Bool
  | int a, int b => a == b
  | float a, float b => a.numericallyEqual b
  | _, _ => false

/-- The number alone, in a style. -/
def format (s : Style) : Scalar → String
  | int value => Integer.format s value.toInt
  | float value => value.format .plain s

/-- The name of the scalar's constructor and the text of its number in a style. -/
def outline (s : Style) : Scalar → Outline
  | int value => .tuple "Int" (.leaf (Integer.format s value.toInt))
  | float value => .tuple "Float" (.leaf (value.format .general s))

/-- The text for inspection, in a style. -/
def inspect (s : Style) (v : Scalar) : String := (v.outline s).render s.alternate

end Scalar

end GradedSymbols
