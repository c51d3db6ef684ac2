import GradedSymbols.Error

/-!
# Drafts of objects

A draft says what object is wanted: a symbol of a kind with a name that is still to be checked, or
a scalar. Building a draft checks the name.

Operations on several drafts build them one after the other and stop at the first failure, so that
later drafts, in particular later names, are not looked at.

## Main definitions

* `GradedSymbols.Draft`, `GradedSymbols.Draft.build` — drafts, and the objects they describe.
* `GradedSymbols.Refusal` — why a request on objects is refused.
* `GradedSymbols.Draft.symbols` — the symbols described by drafts, each of which has to be one.
* `GradedSymbols.Draft.scalars` — the scalars described by drafts, up to the first failure.
* `GradedSymbols.Symbol.degreeSum`, `GradedSymbols.Symbol.maxDegree?` — degrees of several symbols.
-/

namespace GradedSymbols

/-- The description of an object that is to be built. -/
inductive Draft where
  | symbol (kind : Kind) (text : String)
  | scalar (v : Scalar)
deriving DecidableEq

/-- Why a request on objects is refused: a text is no name, a scalar stands where a symbol is needed,
or a slot holds nothing. -/
inductive Refusal where
  | invalidName (e : InvalidName)
  | notSymbolic
  | emptySlot
deriving DecidableEq

namespace Draft

/-! ### One draft -/

/-- The object that a draft describes. -/
def build : Draft → Except InvalidName Object
  | symbol kind text => (Symbol.build kind text).map .symbol
  | scalar v => .ok (.scalar v)

/-- The symbol that a draft describes, which has to be one. -/
def buildSymbol (d : Draft) : Except Refusal Symbol :=
  match d.build with
  | .error e => .error (.invalidName e)
  | .ok (.scalar _) => .error .notSymbolic
  | .ok (.symbol s) => .ok s

/-- The scalar that a draft describes, which has to be one. -/
def buildScalar (d : Draft) : Except SymbolError Scalar :=
  match d.build with
  | .error e => .error (.invalidName e)
  | .ok o =>
    match o.intoScalar with
    | .error e => .error (.typeMismatch e)
    | .ok v => .ok v

/-! ### Several drafts -/

/-- The symbols that drafts describe, or the first failure. -/
def symbols : List Draft → Except Refusal (List Symbol)
  | [] => .ok []
  | d :: ds =>
    match d.buildSymbol with
    | .error e => .error e
    | .ok s => (symbols ds).map (s :: ·)

/-- The scalars that drafts describe, up to the first failure, with that failure. -/
def scalars : List Draft → List Scalar × Option SymbolError
  | [] => ([], none)
  | d :: ds =>
    match d.buildScalar with
    | .error e => ([], some e)
    | .ok v => (v :: (scalars ds).1, (scalars ds).2)

end Draft

/-! ### Degrees of several symbols -/

namespace Symbol

/-- The sum of the degrees. -/
def degreeSum (l : List Symbol) : Nat := l.foldr (fun s sum => s.degree + sum) 0

/-- The largest degree, if there is a symbol. -/
def maxDegree? (l : List Symbol) : Option Nat := (l.map degree).max?

end Symbol

end GradedSymbols
