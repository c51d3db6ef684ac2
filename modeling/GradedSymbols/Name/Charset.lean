/-!
# The characters of symbol names

A symbol name is written with the ASCII letters, the ASCII digits and the underscore. The charset
is kept as a text, because its order matters: a sampler of names numbers the characters by their
places in it.

## Main definitions

* `GradedSymbols.Charset.text`, `GradedSymbols.Charset.chars` — the charset.
* `GradedSymbols.Charset.contains` — membership of a character.
* `GradedSymbols.Charset.runs` — the members inside a range of code points, as maximal runs.

## Main results

* `GradedSymbols.Charset.length_chars` — there are 63 of them.
-/

namespace GradedSymbols

namespace Charset

/-- The charset as one text: lower-case letters, upper-case letters, digits, underscore. -/
def text : String := "abcdefghijklmnopqrstuvwxyzABCDEFGHIJKLMNOPQRSTUVWXYZ0123456789_"

/-- The characters of the charset, in its order. -/
def chars : List Char := text.toList

/-- Whether a character may stand in a symbol name. -/
def contains (c : Char) : Bool := chars.contains c

theorem length_chars : chars.length = 63 := by decide

theorem contains_iff_mem {c : Char} : contains c = true ↔ c ∈ chars := List.contains_iff_mem

/-! ### Runs of code points -/

/-- The code points of the charset, ascending. -/
def codePoints : List Nat := (chars.map Char.toNat).mergeSort

/-- Splits a list of numbers into runs of consecutive numbers, each given by its two ends. The
numbers are meant to ascend; every run is then maximal. -/
def runsOf : List Nat → List (Nat × Nat)
  | [] => []
  | n :: ns =>
    match runsOf ns with
    | [] => [(n, n)]
    | (a, b) :: rs => if n + 1 = a then (n, b) :: rs else (n, n) :: (a, b) :: rs

/-- The members of the charset between two code points, both included, as maximal runs. -/
def runs (first last : Nat) : List (Nat × Nat) :=
  runsOf (codePoints.filter fun n => first ≤ n ∧ n ≤ last)

end Charset

end GradedSymbols
