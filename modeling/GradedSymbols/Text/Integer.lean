import GradedSymbols.Decimal.Basic
import GradedSymbols.Text.Style

/-!
# Texts of integers

Integers are written in decimal, or in hexadecimal if the style says so. A hexadecimal integer is
the word of 64 bits that represents it in two's complement, so it has no minus sign; it is marked
by `0x` in the alternate style. A precision does not count for integers.

## Main definitions

* `GradedSymbols.Integer.hexDigits` — the hexadecimal digits of the word of an integer.
* `GradedSymbols.Integer.format` — the text of an integer in a style.
-/

namespace GradedSymbols

namespace Integer

/-- The word of 64 bits that represents an integer in two's complement. -/
def word (i : Int) : Nat := (BitVec.ofInt 64 i).toNat

/-- The hexadecimal digits of the word of an integer, without leading zeros. -/
def hexDigits (letters : LetterCase) (i : Int) : List Char :=
  let ds := Nat.toDigits 16 (word i)
  match letters with
  | .lower => ds
  | .upper => ds.map Char.toUpper

/-- The text of an integer in a style. -/
def format (s : Style) (i : Int) : String :=
  match s.hex with
  | none => s.signed (i < 0) (String.ofList (Decimal.digits i.natAbs))
  | some letters =>
    s.pad (s.sign false ++ if s.alternate then "0x" else "") (String.ofList (hexDigits letters i))

end Integer

end GradedSymbols
