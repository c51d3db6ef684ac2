/-!
# Decimal numbers and their layouts

A decimal is a natural number of units of a power of ten. It is written positionally, or in
scientific form with one digit in front of the point; a natural number that counts units of
`10^-p` is written with exactly `p` decimals.

## Main definitions

* `GradedSymbols.Decimal` — decimals.
* `GradedSymbols.Decimal.numerator`, `GradedSymbols.Decimal.denominator` — the value as a quotient.
* `GradedSymbols.Decimal.withPlaces` — a count of units of `10^-p`, with `p` decimals.
* `GradedSymbols.Decimal.positional`, `GradedSymbols.Decimal.scientific` — the two layouts.
-/

namespace GradedSymbols

/-- The number `coefficient * 10 ^ exponent`. -/
structure Decimal where
  coefficient : Nat
  exponent : Int
deriving DecidableEq

namespace Decimal

/-! ### Values -/

/-- The value is `numerator / denominator`. -/
def numerator (d : Decimal) : Nat := d.coefficient * Nat.pow 10 d.exponent.toNat

/-- The value is `numerator / denominator`. -/
def denominator (d : Decimal) : Nat := Nat.pow 10 (-d.exponent).toNat

/-! ### Digits -/

/-- The decimal digits of a natural number; `0` has one digit. -/
def digits (n : Nat) : List Char := Nat.toDigits 10 n

/-- The digits of an integer, after a minus sign if it is negative. -/
def signedDigits (i : Int) : List Char :=
  if i < 0 then '-' :: digits i.natAbs else digits i.natAbs

/-- The digits of `n` with zeros in front, such that there are at least `k`. -/
def paddedDigits (k n : Nat) : List Char :=
  List.replicate (k - (digits n).length) '0' ++ digits n

/-- The number `n / 10 ^ p` with exactly `p` decimals, and without a point if there are none. -/
def withPlaces (p n : Nat) : List Char :=
  let ds := paddedDigits (p + 1) n
  if p = 0 then ds else ds.take (ds.length - p) ++ '.' :: ds.drop (ds.length - p)

/-! ### Layouts -/

/-- The positional layout: all digits, with a point if the unit is smaller than one. -/
def positional (d : Decimal) : List Char :=
  match d.exponent with
  | .ofNat e => digits d.coefficient ++ List.replicate e '0'
  | .negSucc k => withPlaces (k + 1) d.coefficient

/-- The power of ten of the first digit. -/
def leadingExponent (d : Decimal) : Int := (digits d.coefficient).length + d.exponent - 1

/-- The scientific layout: the first digit, the others behind a point, the power of ten of the
first digit. -/
def scientific (d : Decimal) : List Char :=
  match digits d.coefficient with
  | [] => []
  | first :: [] => first :: 'e' :: signedDigits d.leadingExponent
  | first :: others => first :: '.' :: others ++ 'e' :: signedDigits d.leadingExponent

/-- The layout of reports. A number is written positionally while its first digit has a power of
ten from `-4` to `15`, a whole number then with one decimal, and in scientific form beyond; zero
is written positionally. -/
def general (d : Decimal) : List Char :=
  if d.coefficient ≠ 0 ∧ (d.leadingExponent < -4 ∨ 16 ≤ d.leadingExponent) then d.scientific
  else if 0 ≤ d.exponent then d.positional ++ ['.', '0']
  else d.positional

end Decimal

end GradedSymbols
