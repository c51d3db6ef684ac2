import GradedSymbols.Object.Basic
import GradedSymbols.Error

/-!
# Trials of symbol factories

A factory builds a symbol from a text, or reports the text. A trial calls factories, counts the
calls, and makes assertions about what they return; the first assertion that fails ends it with a
violation.

## Main definitions

* `GradedSymbols.Factory` — factories.
* `GradedSymbols.Violation` — assertions that fail, with their texts.
* `GradedSymbols.Trial` — trials, and their assertions.
* `GradedSymbols.Verdict` — the outcome of a trial.
-/

namespace GradedSymbols

/-- A symbol factory: a function of the text of the name. -/
abbrev Factory : Type := String → Except InvalidName Symbol

/-! ### Violations -/

/-- The conditions that trials assert. A symbol is identical to a second one built from the same text,
and to no symbol of another factory, in either direction, nor to the integer zero or the length of its
name; and the invalid character of a report stands at its offset. -/
inductive Condition where
  | identicalToSame
  | distinctFromForeign
  | foreignDistinct
  | distinctFromZero
  | distinctFromLength
  | invalidAtOffset
deriving DecidableEq

/-- The text of a condition in reports. -/
def Condition.text : Condition → String
  | identicalToSame => "x.identical_to(Operand::from(&*same))"
  | distinctFromForeign => "!x.identical_to(Operand::from(&*foreign))"
  | foreignDistinct => "!foreign.identical_to(Operand::from(&*x))"
  | distinctFromZero => "!x.identical_to(Operand::from(0))"
  | distinctFromLength => "!x.identical_to(Operand::from(a.len() as f64))"
  | invalidAtOffset => "name[err.offset()..].starts_with(err.invalid())"

/-- An assertion that failed. Two values differ, which are given by their texts for inspection; a
condition does not hold; a factory reported a text from which a symbol has to be built, or built one
from a text that it has to report; or no character of a text begins at the offset of a report. -/
inductive Violation where
  | differ (left right : String)
  | fails (condition : Condition)
  | notBuilt (e : InvalidName)
  | notRejected (s : Symbol)
  | offBoundary (text : String) (offset : Nat)
deriving DecidableEq

/-- The text of a violation. -/
def Violation.message : Violation → String
  | differ left right =>
    "assertion `left == right` failed\n  left: " ++ left ++ "\n right: " ++ right
  | fails condition => "assertion failed: " ++ condition.text
  | notBuilt e => "called `Result::unwrap()` on an `Err` value: " ++ (e.outline {}).oneLine
  | notRejected s => "called `Result::unwrap_err()` on an `Ok` value: " ++ s.repr
  | offBoundary text offset =>
    "byte index " ++ Integer.format {} offset ++ " is not a char boundary of " ++ Quoted.string text

/-! ### Trials -/

/-- A computation that counts the calls of factories and ends at the first violation. -/
abbrev Trial (α : Type) : Type := ExceptT Violation (StateM Nat) α

namespace Trial

/-- A call of a factory. -/
def call (f : Factory) (text : String) : Trial (Except InvalidName Symbol) := do
  modify (· + 1)
  return f text

/-- The symbol that a factory has to build from a text. -/
def built (f : Factory) (text : String) : Trial Symbol := do
  match ← call f text with
  | .ok s => return s
  | .error e => throw (.notBuilt e)

/-- The report that a factory has to make on a text. -/
def rejected (f : Factory) (text : String) : Trial InvalidName := do
  match ← call f text with
  | .ok s => throw (.notRejected s)
  | .error e => return e

/-- Asserts that two values are equal; `write` gives their texts for inspection. -/
def equal {α : Type} [DecidableEq α] (write : α → String) (left right : α) : Trial Unit :=
  if left = right then pure () else throw (.differ (write left) (write right))

/-- Asserts that two texts are equal. -/
def equalText (left right : String) : Trial Unit := equal Quoted.string left right

/-- Asserts that two numbers are equal. -/
def equalNumber (left right : Nat) : Trial Unit := equal (fun n => Integer.format {} n) left right

/-- Asserts that two truth values are equal. -/
def equalTruth (left right : Bool) : Trial Unit :=
  equal (fun b => if b then "true" else "false") left right

/-- Asserts a condition. -/
def holds (condition : Condition) (b : Bool) : Trial Unit :=
  if b then pure () else throw (.fails condition)

end Trial

/-! ### Verdicts -/

/-- The outcome of a trial: the violation that ended it, if there was one, and the number of calls of
factories. -/
structure Verdict where
  violation? : Option Violation
  calls : Nat
deriving DecidableEq

/-- The outcome of a trial, from no calls on. -/
def Trial.verdict (t : Trial Unit) : Verdict :=
  match t.run 0 with
  | (.ok (), calls) => ⟨none, calls⟩
  | (.error v, calls) => ⟨some v, calls⟩

end GradedSymbols
