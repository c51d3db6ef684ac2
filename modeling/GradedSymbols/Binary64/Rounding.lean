import GradedSymbols.Binary64.Basic
import GradedSymbols.Decimal.Basic
import GradedSymbols.Decimal.Rounding

/-!
# Rounding to binary64

A quotient of natural numbers is rounded to the nearest finite magnitude, of two that are equally
near to the one with the even significand, and to infinity if it is too large. The significand has
53 bits as long as the quotient has that many in units of `2 ^ -1074`, and all of them below.

Rounding a significand up to `2 ^ 53` needs no case of its own: magnitude codes are consecutive,
so the sum of exponent and significand carries over into the next exponent.

## Main definitions

* `GradedSymbols.Binary64.nearestCode` — the code of the magnitude nearest to a quotient.
* `GradedSymbols.Binary64.ofNat` — the number nearest to a natural number.
* `GradedSymbols.Binary64.fixed` — a finite magnitude rounded to a number of decimals.
-/

namespace GradedSymbols

namespace Binary64

/-- The code of the magnitude nearest to `n / d`. -/
def nearestCode (n d : Nat) : Nat :=
  let scaled := n * unitsPerOne
  let shift := (scaled / d).log2 - 52
  min (shift * Nat.pow 2 52 + roundHalfEven scaled (d * Nat.pow 2 shift)) infinityCode

/-- The number nearest to a natural number. -/
def ofNat (n : Nat) : Binary64 := ofCode (nearestCode n 1)

/-- The magnitude of a finite number in units of `10 ^ -p`, rounded from its exact value, the
middle between two units going to the even one. -/
def fixed (p : Nat) (x : Binary64) : Nat := roundHalfEven (x.units * Nat.pow 10 p) unitsPerOne

end Binary64

end GradedSymbols
