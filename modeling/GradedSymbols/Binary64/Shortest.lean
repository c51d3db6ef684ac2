import GradedSymbols.Binary64.Rounding

/-!
# Shortest decimals

The decimal shown for a finite number is the shortest one that rounds back to it, and the nearest
to it among the shortest. It is searched for on the grids `10 ^ g` of decimals, from a grid that is
coarser than the number down to finer ones. If a grid has points that round back to the number,
then one of the two points next to the number does, because the numbers that round to it form an
interval; and the first grid on which that happens gives the fewest digits, for a last digit zero
would have been found on a coarser grid. Seventeen digits always suffice, and the search covers
them; a number is also its own exact decimal, which stands at the end of the search.

## Main definitions

* `GradedSymbols.Binary64.onGrid?` — the nearer of the two decimals next to a number on a grid, if
  it rounds back.
* `GradedSymbols.Binary64.shortest` — the shortest decimal.
-/

namespace GradedSymbols

namespace Binary64

/-- Whether a decimal rounds to the magnitude with a given code. -/
def isReadAs (c : Nat) (d : Decimal) : Bool := nearestCode d.numerator d.denominator == c

/-- On the grid `10 ^ g`, the decimal next to the magnitude with code `c` that rounds back to it.
If both neighbours do, it is the nearer one, and in the middle the larger one. -/
def onGrid? (c : Nat) (g : Int) : Option Decimal :=
  let n := unitsOfCode c * Nat.pow 10 (-g).toNat
  let d := unitsPerOne * Nat.pow 10 g.toNat
  let low : Decimal := ⟨n / d, g⟩
  let high : Decimal := ⟨n / d + 1, g⟩
  if isReadAs c low then
    if isReadAs c high then some (if 2 * (n % d) < d then low else high) else some low
  else if isReadAs c high then some high
  else none

/-- A power of ten above the magnitude with a given code, and at most a hundred times larger. It
is computed from the number of bits, `log 2 / log 10` being just below `0.30103`. -/
def coarseExponent (c : Nat) : Int :=
  ((unitsOfCode c).log2 + 1 - 1074 : Int) * 30103 / 100000 + 1

/-- The exact decimal of the magnitude with a given code. -/
def exactDecimal (c : Nat) : Decimal := ⟨unitsOfCode c * Nat.pow 5 1074, -1074⟩

/-- The shortest decimal that rounds to the magnitude with a given code; of two that are equally
short the nearer one, and in the middle the larger one. -/
def shortestOfCode (c : Nat) : Decimal :=
  if c = 0 then ⟨0, 0⟩
  else
    match (List.range 20).findSome? fun k : Nat => onGrid? c (coarseExponent c - (k : Int)) with
    | some d => d
    | none => exactDecimal c

/-- The shortest decimal that rounds to the magnitude of a finite number. -/
def shortest (x : Binary64) : Decimal := shortestOfCode x.code

end Binary64

end GradedSymbols
