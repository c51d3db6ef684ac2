import GradedSymbols.Contract.Trial

/-!
# Distorted factories

Factories that break the contract are made from honest ones by distorting the text before the
symbol is built from it. The distortions of a factory are applied one after the other.

## Main definitions

* `GradedSymbols.Distortion` — the distortions, and what each does to a text.
* `GradedSymbols.replaceAll` — replacement of all occurrences of a text.
* `GradedSymbols.Factory.distorted` — the factory that distorts the text first.
-/

namespace GradedSymbols

/-! ### Replacement -/

/-- Replaces the occurrences of `pattern`, which is not empty, in the characters after the next
`skip` ones; these are left out, as the rest of an occurrence that has been replaced. -/
def replaceFrom (pattern replacement : List Char) : (skip : Nat) → List Char → List Char
  | _, [] => []
  | skip + 1, _ :: cs => replaceFrom pattern replacement skip cs
  | 0, c :: cs =>
    if pattern.isPrefixOf (c :: cs) then
      replacement ++ replaceFrom pattern replacement (pattern.length - 1) cs
    else c :: replaceFrom pattern replacement 0 cs

/-- Replaces all occurrences of `pattern`, from left to right and without overlap. The empty
pattern occurs in front of every character and at the end. -/
def replaceAll (pattern replacement cs : List Char) : List Char :=
  match pattern with
  | [] => replacement ++ cs.flatMap fun c => c :: replacement
  | _ :: _ => replaceFrom pattern replacement 0 cs

/-! ### Distortions -/

/-- A change of a text: its ASCII letters in one case, its characters in reverse order, only those
that a name may have or only the first ones, a text in front or behind, or a replacement of all
occurrences of a pattern. -/
inductive Distortion where
  | lower
  | upper
  | reverse
  | sanitize
  | truncate (length : Nat)
  | prepend (text : String)
  | append (text : String)
  | replace (pattern replacement : String)
deriving DecidableEq

namespace Distortion

/-- The distorted characters of a text. -/
def applyChars : Distortion → List Char → List Char
  | lower, cs => cs.map Char.toLower
  | upper, cs => cs.map Char.toUpper
  | reverse, cs => cs.reverse
  | sanitize, cs => cs.filter fun c => c.isAlphanum || c == '_'
  | truncate length, cs => cs.take length
  | prepend text, cs => text.toList ++ cs
  | append text, cs => cs ++ text.toList
  | replace pattern replacement, cs => replaceAll pattern.toList replacement.toList cs

/-- The distorted text. -/
def apply (d : Distortion) (text : String) : String := String.ofList (d.applyChars text.toList)

/-- The text after several distortions, the first one first. -/
def applyAll (ds : List Distortion) (text : String) : String := ds.foldl (fun t d => d.apply t) text

end Distortion

/-- The factory of symbols of a kind. -/
def Factory.honest (kind : Kind) : Factory := Symbol.build kind

/-- The factory that distorts the text and then builds the symbol of a kind. -/
def Factory.distorted (kind : Kind) (ds : List Distortion) : Factory :=
  fun text => Symbol.build kind (Distortion.applyAll ds text)

end GradedSymbols
