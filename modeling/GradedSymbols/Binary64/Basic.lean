/-!
# Binary64 numbers

A binary64 number is a word of 64 bits: a sign bit and a magnitude code of 63 bits. The codes from
`0` on count the finite magnitudes in ascending order, then comes the code of infinity, and all
codes above it are not-a-numbers. A finite magnitude is a whole number of units of `2 ^ -1074`, the
smallest positive magnitude, so that arithmetic on it is arithmetic of natural numbers.

## Main definitions

* `GradedSymbols.Binary64` — words of 64 bits read as numbers.
* `GradedSymbols.Binary64.negative`, `GradedSymbols.Binary64.code` — the two parts of a word.
* `GradedSymbols.Binary64.units` — a finite magnitude in units of `2 ^ -1074`.
* `GradedSymbols.Binary64.numericallyEqual` — the comparison of numbers, in which the two zeros are
  equal and a not-a-number differs from itself.
-/

namespace GradedSymbols

/-- A binary64 number, given by its bits: the sign bit, the 11 bits of the exponent, the 52 bits of the
fraction. Equality of this type is equality of bits. -/
structure Binary64 where
  bits : UInt64
deriving DecidableEq

namespace Binary64

/-! ### The parts of a word -/

/-- Whether the sign bit is set. -/
def negative (x : Binary64) : Bool := Nat.pow 2 63 ≤ x.bits.toNat

/-- The magnitude code: the word without its sign bit. -/
def code (x : Binary64) : Nat := x.bits.toNat % Nat.pow 2 63

/-- The number with the sign bit cleared and a given magnitude code. -/
def ofCode (c : Nat) : Binary64 := ⟨UInt64.ofNat c⟩

/-- The magnitude code of infinity. -/
def infinityCode : Nat := 2047 * Nat.pow 2 52

/-- Whether the word is a not-a-number. -/
def isNaN (x : Binary64) : Bool := infinityCode < x.code

/-- Whether the number is one of the two infinities. -/
def isInfinite (x : Binary64) : Bool := x.code = infinityCode

/-- Whether the number is finite. -/
def isFinite (x : Binary64) : Bool := x.code < infinityCode

/-! ### Finite magnitudes -/

/-- The significand of a magnitude code, with its leading bit unless the number is subnormal. -/
def significand (c : Nat) : Nat :=
  if c / Nat.pow 2 52 = 0 then c else Nat.pow 2 52 + c % Nat.pow 2 52

/-- The number of units of `2 ^ -1074` in the magnitude with a given code. -/
def unitsOfCode (c : Nat) : Nat := significand c * Nat.pow 2 (c / Nat.pow 2 52 - 1)

/-- The magnitude of a finite number in units of `2 ^ -1074`. -/
def units (x : Binary64) : Nat := unitsOfCode x.code

/-- The number of units in one. -/
def unitsPerOne : Nat := Nat.pow 2 1074

/-! ### Comparison of numbers -/

/-- Whether two words are the same number: the two zeros are, and a not-a-number is no number. -/
def numericallyEqual (x y : Binary64) : Bool :=
  !x.isNaN && !y.isNaN && (x == y || (x.code == 0 && y.code == 0))

end Binary64

end GradedSymbols
