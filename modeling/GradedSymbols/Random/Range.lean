import GradedSymbols.Random.Words

/-!
# Numbers drawn from a range

A number from `0` to a bound is drawn by stretching: with `n` numbers in the range and draws `d`
from `0` to `2 ^ B - 1`, the number is the whole part of `d * n / 2 ^ B`. The rest of the quotient
says whether further digits of the draw could still carry into the whole part; if they could, a
second draw gives the next `B` binary digits. Digits after those are left out.

Draws have 32 bits, the upper half of a word, if the bound has at most 32 bits, and 64 bits
otherwise.

## Main definitions

* `GradedSymbols.DrawWidth` — the two widths of draws.
* `GradedSymbols.Stretch` — the arithmetic of stretching.
* `GradedSymbols.drawUpTo` — a number drawn from a range.
-/

namespace GradedSymbols

/-! ### Draws -/

/-- The widths of draws: the upper half of a word, or a whole word. -/
inductive DrawWidth where
  | half
  | full
deriving DecidableEq

namespace DrawWidth

/-- The number of draws of a width. -/
def size : DrawWidth → Nat
  | half => UInt32.size
  | full => UInt64.size

/-- The draw that a word gives. -/
def ofWord : DrawWidth → UInt64 → Nat
  | half, w => (w >>> 32).toNat
  | full, w => w.toNat

/-- The width of the draws for numbers up to a bound. -/
def forBound (high : UInt64) : DrawWidth := if high.toNat < UInt32.size then half else full

/-- A draw from a source. -/
def draw {σ : Type} [WordSource σ] (w : DrawWidth) (source : σ) : Nat × σ :=
  let (word, source) := WordSource.next source
  (w.ofWord word, source)

end DrawWidth

/-! ### Stretching a draw -/

namespace Stretch

/-- The whole part of a draw `d` out of `size`, stretched over `n` numbers. -/
def whole (size n d : Nat) : Nat := d * n / size

/-- The rest of a stretched draw. -/
def rest (size n d : Nat) : Nat := d * n % size

/-- Whether no further digits can carry into the whole part. -/
def isSettled (size n d : Nat) : Bool := rest size n d ≤ size - n

/-- The whole part after a second draw `y` has given the next digits. -/
def corrected (size n d y : Nat) : Nat :=
  if size ≤ rest size n d + y * n / size then whole size n d + 1 else whole size n d

end Stretch

/-- A number from `0` to a bound, drawn from a source. -/
def drawUpTo {σ : Type} [WordSource σ] (high : UInt64) (source : σ) : Nat × σ :=
  let width := DrawWidth.forBound high
  let n := high.toNat + 1
  let (d, source) := width.draw source
  if Stretch.isSettled width.size n d then (Stretch.whole width.size n d, source)
  else
    let (y, source) := width.draw source
    (Stretch.corrected width.size n d y, source)

end GradedSymbols
