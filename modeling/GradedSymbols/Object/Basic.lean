import GradedSymbols.Scalar
import GradedSymbols.Symbol
import GradedSymbols.Text.Quoted

/-!
# Objects

An object is a symbol or a scalar. Objects are what a symbol can be compared with, and what an
operation can be handed.

Besides its plain text, which is the bare name or the number, two texts for inspection belong to an
object: the text of what it is, and the text of it as an operand, in which a symbol's name is quoted.

## Main definitions

* `GradedSymbols.TypeTag` — the types of objects.
* `GradedSymbols.Object` — objects.
* `GradedSymbols.Symbol.identicalTo` — whether an object is the same symbol.
* `GradedSymbols.Object.format` — the plain text.
* `GradedSymbols.Object.inspect`, `GradedSymbols.Object.outline` — the two texts for inspection.

## Main results

* `GradedSymbols.Symbol.identicalTo_symbol` — among symbols, identity is equality.
-/

namespace GradedSymbols

/-! ### Types of objects -/

/-- The type of an object: the kind of a symbol, or the type of a scalar. -/
inductive TypeTag where
  | symbol (kind : Kind)
  | int
  | float
deriving DecidableEq

/-- The name of a type in messages. -/
def TypeTag.name : TypeTag → String
  | symbol kind => kind.typeName
  | int => "int"
  | float => "float"

/-- The type of a scalar. -/
def Scalar.tag : Scalar → TypeTag
  | int _ => .int
  | float _ => .float

/-! ### Objects -/

/-- A symbol or a scalar. -/
inductive Object where
  | symbol (s : Symbol)
  | scalar (v : Scalar)
deriving DecidableEq

namespace Object

/-- The type of an object. -/
def tag : Object → TypeTag
  | symbol s => .symbol s.kind
  | scalar v => v.tag

/-- The symbol, if the object is one. -/
def symbol? : Object → Option Symbol
  | symbol s => some s
  | scalar _ => none

/-- The scalar, if the object is one. -/
def scalar? : Object → Option Scalar
  | symbol _ => none
  | scalar v => some v

/-- Whether the object is a scalar. -/
def isScalar (o : Object) : Bool := o.scalar?.isSome

/-- The name of a symbol; a scalar has none. -/
def name? (o : Object) : Option String := o.symbol?.map fun s => s.name.text

end Object

/-! ### Identity -/

/-- Whether an object is the symbol `s`: a symbol of the same kind with the same name. -/
def Symbol.identicalTo (s : Symbol) (o : Object) : Bool :=
  match o.symbol? with
  | some t => s.kind == t.kind && s.name.text == t.name.text
  | none => false

theorem Symbol.identicalTo_symbol {s t : Symbol} : s.identicalTo (.symbol t) = true ↔ s = t := by
  constructor
  · intro h
    simp only [Symbol.identicalTo, Object.symbol?, Bool.and_eq_true, beq_iff_eq] at h
    exact Symbol.eq_of_kind_of_text h.1 h.2
  · rintro rfl
    simp [Symbol.identicalTo, Object.symbol?]

theorem Symbol.identicalTo_eq_decide (s t : Symbol) :
    s.identicalTo (.symbol t) = decide (s = t) := by
  rw [Bool.eq_iff_iff, identicalTo_symbol, decide_eq_true_iff]

theorem Symbol.identicalTo_scalar (s : Symbol) (v : Scalar) :
    s.identicalTo (.scalar v) = false := rfl

/-- Whether the object `a` is a symbol that the object `b` is identical to; no answer if `a` is a
scalar, which identity is not a question for. -/
def Object.same? (a b : Object) : Option Bool := a.symbol?.map fun s => s.identicalTo b

/-! ### Texts -/

namespace Object

/-- The plain text, in a style; the style does not count for a symbol. -/
def format (style : Style) : Object → String
  | symbol s => s.pretty
  | scalar v => v.format style

/-- The text for inspection, in a style; the style does not count for a symbol. -/
def inspect (style : Style) : Object → String
  | symbol s => s.repr
  | scalar v => v.inspect style

/-- The object as an operand: which of the two it is, and its contents, with a name quoted and a
number in a style. -/
def outline (style : Style) : Object → Outline
  | symbol s =>
    .tuple "Operand"
      (.tuple "Symbolic" (.tuple s.kind.typeName (.leaf (Quoted.string s.name.text))))
  | scalar v => .tuple "Operand" (.tuple "Scalar" (v.outline style))

/-- The text for inspection of the object as an operand, in a style. -/
def inspectOperand (style : Style) (o : Object) : String :=
  (o.outline style).render style.alternate

end Object

end GradedSymbols
