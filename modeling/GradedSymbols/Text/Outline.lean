/-!
# Outlines of values

Values are shown for inspection by the names of their constructors and the texts of their fields.
An outline is such a nesting: a field's text, a constructor around one entry, or a constructor
with named fields. It is written on one line, or indented over several lines by four spaces for
each level, every entry then being closed by a comma.

## Main definitions

* `GradedSymbols.Outline` — outlines.
* `GradedSymbols.Outline.oneLine` — an outline on one line.
* `GradedSymbols.Outline.lines`, `GradedSymbols.Outline.indented` — an outline over several lines.
-/

namespace GradedSymbols

/-- The nesting of constructors in a value that is shown for inspection. A leaf is a text that is
shown as it is; a constructor stands around one entry, or around named fields that are given by their
texts. -/
inductive Outline where
  | leaf (text : String)
  | tuple (label : String) (entry : Outline)
  | record (label : String) (fields : List (String × String))
deriving DecidableEq

namespace Outline

/-! ### One line -/

/-- A named field. -/
def field (f : String × String) : String := f.1 ++ ": " ++ f.2

/-- The outline on one line. -/
def oneLine : Outline → String
  | leaf text => text
  | tuple label entry => label ++ "(" ++ oneLine entry ++ ")"
  | record label fields => label ++ " \x7b " ++ ", ".intercalate (fields.map field) ++ " \x7d"

/-! ### Several lines -/

/-- A line one level deeper. -/
def indent (line : String) : String := "    " ++ line

/-- The lines of an entry that is followed by a comma. -/
def closeEntry : List String → List String
  | [] => []
  | [line] => [line ++ ","]
  | line :: next :: rest => line :: closeEntry (next :: rest)

/-- The lines of the outline. -/
def lines : Outline → List String
  | leaf text => [text]
  | tuple label entry => (label ++ "(") :: (closeEntry (lines entry)).map indent ++ [")"]
  | record label fields =>
    (label ++ " \x7b") :: fields.map (fun f => indent (field f ++ ",")) ++ ["\x7d"]

/-- The outline over several lines. -/
def indented (o : Outline) : String := "\n".intercalate o.lines

/-- The outline on one line, or over several lines if `broken` is set. -/
def render (broken : Bool) (o : Outline) : String := if broken then o.indented else o.oneLine

end Outline

end GradedSymbols
