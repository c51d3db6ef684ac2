import GradedSymbols.Draft
import GradedSymbols.Text.Integer

/-!
# Strategies

A strategy makes values from choices. Which choices there are and how they come about is not its
concern; a choice of which it can make nothing is rejected, and the next one is tried. A run over
a list of choices goes on until they are used up, or until a choice is rejected when the limit of
rejections is already reached.

## Main definitions

* `GradedSymbols.Strategy` — strategies, and the values they make of a list of choices.
* `GradedSymbols.Strategy.run` — a run with a limit of rejections.
* `GradedSymbols.Run.report` — the report on a run.
* `GradedSymbols.Strategy.symbols` — the strategy that makes symbols of a kind of texts.
-/

namespace GradedSymbols

/-- A way to make values of type `α` from choices of type `ρ`, some of which it may reject. -/
structure Strategy (ρ α : Type) where
  assemble : ρ → Option α

/-- How a run ends: all choices are used up, or one is rejected when the limit of rejections is
reached. -/
inductive Ending where
  | exhausted
  | tooManyRejections
deriving DecidableEq

/-- A run of a strategy over a list of choices: the values that were made, the number of rejected
choices that the limit admitted, and how the run ended. -/
structure Run (α : Type) where
  values : List α
  rejections : Nat
  ending : Ending
deriving DecidableEq

namespace Strategy

variable {ρ α : Type}

/-- The values made of a list of choices. -/
def values (s : Strategy ρ α) (choices : List ρ) : List α := choices.filterMap s.assemble

theorem values_append (s : Strategy ρ α) (l r : List ρ) :
    s.values (l ++ r) = s.values l ++ s.values r := List.filterMap_append

theorem values_cons_of_some {s : Strategy ρ α} {choice : ρ} {value : α}
    (h : s.assemble choice = some value) (choices : List ρ) :
    s.values (choice :: choices) = value :: s.values choices :=
  List.filterMap_cons_some h

theorem values_cons_of_none {s : Strategy ρ α} {choice : ρ} (h : s.assemble choice = none)
    (choices : List ρ) : s.values (choice :: choices) = s.values choices :=
  List.filterMap_cons_none h

/-- The run over a list of choices, `rejections` having been counted before. -/
def runFrom (s : Strategy ρ α) (limit : Nat) : (rejections : Nat) → List ρ → Run α
  | rejections, [] => ⟨[], rejections, .exhausted⟩
  | rejections, choice :: choices =>
    match s.assemble choice with
    | some value =>
      let run := s.runFrom limit rejections choices
      { run with values := value :: run.values }
    | none =>
      if limit ≤ rejections then ⟨[], rejections, .tooManyRejections⟩
      else s.runFrom limit (rejections + 1) choices

/-- The run over a list of choices with a limit of rejections. -/
def run (s : Strategy ρ α) (limit : Nat) (choices : List ρ) : Run α := s.runFrom limit 0 choices

/-- The strategy that makes symbols of a kind of texts, and rejects texts that are no names. -/
def symbols (kind : Kind) : Strategy String Symbol where
  assemble text := (Symbol.build kind text).toOption

end Strategy

/-! ### Reports -/

/-- How a run ended, in words. -/
def Ending.text : Ending → String
  | exhausted => "exhausted"
  | tooManyRejections => "Too many local rejects"

/-- The report on a run of `Strategy.symbols`: how many choices were rejected, and for what. -/
def Run.report {α : Type} (r : Run α) : String :=
  let count := Integer.format {} r.rejections
  "\tsuccesses: 0\n\tlocal rejects: " ++ count ++ "\n"
    ++ (if r.rejections = 0 then ""
      else "\t\t" ++ count ++ " times at valid names build a symbol\n")
    ++ "\tglobal rejects: 0\n"

end GradedSymbols
