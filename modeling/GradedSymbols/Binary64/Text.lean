import GradedSymbols.Binary64.Shortest
import GradedSymbols.Text.Style

/-!
# Texts of binary64 numbers

A finite number is written by its shortest decimal, or rounded to a number of decimals if the
style says how many. The shortest decimal has two layouts: the plain one is positional for all
numbers, and the general one, used in reports, is scientific for very large and very small numbers
and marks whole numbers by a decimal. A number that is not finite is written by a word; a
not-a-number never has a sign.

## Main definitions

* `GradedSymbols.Binary64.Layout` — the two layouts.
* `GradedSymbols.Binary64.body` — the text of a magnitude.
* `GradedSymbols.Binary64.format` — the text of a number in a style.
-/

namespace GradedSymbols

namespace Binary64

/-- The layouts of the shortest decimal. The plain one has all digits, and a point only in front of
decimals; the general one is scientific for numbers that are very large or very small, and otherwise
has a point. -/
inductive Layout where
  | plain
  | general
deriving DecidableEq

/-- A decimal in one of the layouts. -/
def Layout.write : Layout → Decimal → List Char
  | plain, d => d.positional
  | general, d => d.general

/-- The text of a number without its sign. -/
def body (layout : Layout) (precision : Option Nat) (x : Binary64) : String :=
  if x.isNaN then "NaN"
  else if x.isInfinite then "inf"
  else
    match precision with
    | some p => String.ofList (Decimal.withPlaces p (x.fixed p))
    | none => String.ofList (layout.write x.shortest)

/-- The text of a number in a style. -/
def format (layout : Layout) (s : Style) (x : Binary64) : String :=
  let text := x.body layout s.precision
  if x.isNaN then s.unsigned text else s.signed x.negative text

end Binary64

end GradedSymbols
