import GradedSymbols.Object.Basic

/-!
# Errors

Two things can go wrong: a text is no symbol name, or an operation is handed an object of a type
that it does not take. Each error has a message, and a text for inspection that shows its fields.
The message of a wrong type states the expected type as it is; texts in all other places are
quoted, so that a hostile name stays on one line.

## Main definitions

* `GradedSymbols.InvalidName.message`, `GradedSymbols.InvalidName.outline`.
* `GradedSymbols.TypeMismatch` — an object of a type that was not expected.
* `GradedSymbols.SymbolError` — either error.
* `GradedSymbols.Object.intoScalar` — the scalar of an object that has to be one.
-/

namespace GradedSymbols

/-! ### Invalid names -/

namespace InvalidName

/-- The message on a rejected name. -/
def message (e : InvalidName) : String :=
  "invalid symbol name " ++ Quoted.string e.name ++ ": " ++ Quoted.char e.invalid ++ " at byte "
    ++ Integer.format {} e.offset ++ " is not an ASCII letter, digit or underscore"

/-- The fields of a report, the number in a style. -/
def outline (style : Style) (e : InvalidName) : Outline :=
  .record "InvalidNameError"
    [("name", Quoted.string e.name), ("invalid", Quoted.char e.invalid),
      ("offset", Integer.format style e.offset)]

end InvalidName

/-! ### Type mismatches -/

/-- An object of the type `found` stands where an object described by `expected` is needed. -/
structure TypeMismatch where
  expected : String
  found : TypeTag
deriving DecidableEq

namespace TypeMismatch

/-- The mismatch of an object with what is expected. -/
def unexpected (expected : String) (o : Object) : TypeMismatch := ⟨expected, o.tag⟩

/-- The message on a mismatch. -/
def message (e : TypeMismatch) : String := "expected " ++ e.expected ++ ", found " ++ e.found.name

/-- The fields of a mismatch. -/
def outline (e : TypeMismatch) : Outline :=
  .record "SymbolicTypeError"
    [("expected", Quoted.string e.expected), ("found", Quoted.string e.found.name)]

end TypeMismatch

/-! ### Either error -/

/-- An error of building or combining objects. -/
inductive SymbolError where
  | invalidName (e : InvalidName)
  | typeMismatch (e : TypeMismatch)
deriving DecidableEq

namespace SymbolError

/-- The message of the error inside. -/
def message : SymbolError → String
  | invalidName e => e.message
  | typeMismatch e => e.message

/-- The outline of the error inside. -/
def innerOutline (style : Style) : SymbolError → Outline
  | invalidName e => e.outline style
  | typeMismatch e => e.outline

/-- The outline of the error, which says which of the two it is. -/
def outline (style : Style) : SymbolError → Outline
  | invalidName e => .tuple "InvalidName" (e.outline style)
  | typeMismatch e => .tuple "Type" e.outline

/-- The text for inspection of the error inside, in a style. -/
def inspectInner (style : Style) (e : SymbolError) : String :=
  (e.innerOutline style).render style.alternate

/-- The text for inspection, in a style. -/
def inspect (style : Style) (e : SymbolError) : String := (e.outline style).render style.alternate

end SymbolError

/-- The scalar of an object that has to be one. -/
def Object.intoScalar (o : Object) : Except TypeMismatch Scalar :=
  match o.scalar? with
  | some v => .ok v
  | none => .error (.unexpected "scalar literal" o)

end GradedSymbols
