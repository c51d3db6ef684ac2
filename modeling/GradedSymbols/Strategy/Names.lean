import GradedSymbols.Sampling
import GradedSymbols.Strategy.Basic

/-!
# Names, and texts that are no names

Names are made of numbers of characters in the charset. Texts that are no names are made of three
parts, a name, a character outside the charset and any text: every text that is no name has these
parts, its first character outside the charset being the second one.

## Main definitions

* `GradedSymbols.Name.ofPlaces` — the name made of characters with given numbers.
* `GradedSymbols.Outsider` — the characters outside the charset.
* `GradedSymbols.Spoiled` — the three parts of a text that is no name.
* `GradedSymbols.smallNames` — the names of at most two characters over `x` and `y`.
-/

namespace GradedSymbols

/-- The largest number of characters of a drawn name. -/
def longestName : Nat := 24

/-! ### Names -/

theorem Charset.contains_charAt (i : Nat) : contains (charAt i) = true := by
  rw [contains_iff_mem, charAt, List.getD_eq_getElem?_getD]
  cases h : chars[i]? with
  | none => decide
  | some c => exact List.mem_of_getElem? h

/-- The name made of the characters of the charset with given numbers. -/
def Name.ofPlaces (places : List Nat) : Name where
  text := NameSampler.textOfPlaces places
  contains_of_mem c hc := by
    simp only [NameSampler.textOfPlaces, String.toList_ofList, List.mem_map] at hc
    obtain ⟨i, _, rfl⟩ := hc
    exact Charset.contains_charAt i

/-- The names of at most two characters over `x` and `y`. -/
def smallNames : List String := ["", "x", "y", "xx", "xy", "yx", "yy"]

/-! ### Texts that are no names -/

/-- The characters outside the charset. -/
abbrev Outsider : Type := { c : Char // Charset.contains c = false }

/-- The strategy for characters outside the charset: of any characters, those in the charset being
rejected. -/
def Strategy.outsiders : Strategy Char Outsider where
  assemble c := if h : Charset.contains c = false then some ⟨c, h⟩ else none

/-- The parts of a text that is no name: the name in front of the first character outside the
charset, this character, and the text behind it. -/
structure Spoiled where
  front : Name
  invalid : Char
  back : String
  contains_invalid : Charset.contains invalid = false
deriving DecidableEq

/-- The text made of the three parts. -/
def Spoiled.text (p : Spoiled) : String :=
  p.front.text ++ String.singleton p.invalid ++ p.back

end GradedSymbols
