import GradedSymbols.Object.Basic

/-!
# Groups of identical symbols

A list of labelled objects is grouped by identity: the scalars drop out, and the labels of the
symbols that are identical to each other form one group. Groups stand in the order of their first
members, and the members of a group in the order of the list.

## Main definitions

* `GradedSymbols.Symbol.groups` — the groups of labelled symbols.
* `GradedSymbols.Object.groups` — the groups of labelled objects.
* `GradedSymbols.Object.identities` — the table of identity between the objects of a list.
-/

namespace GradedSymbols

variable {α : Type}

/-- Adds a labelled symbol in front of groups: its group moves to the front, or a new group is
opened there. Each group is given by its first symbol and the labels of its members. -/
def Symbol.gather (label : α) (s : Symbol) (l : List (Symbol × List α)) :
    List (Symbol × List α) :=
  let same := l.filter fun g => s.identicalTo (.symbol g.1)
  let others := l.filter fun g => !s.identicalTo (.symbol g.1)
  (s, label :: same.flatMap Prod.snd) :: others

/-- The groups of labelled symbols, each with its first symbol. -/
def Symbol.gatherAll : List (α × Symbol) → List (Symbol × List α)
  | [] => []
  | (label, s) :: rest => Symbol.gather label s (Symbol.gatherAll rest)

/-- The labels of labelled symbols, grouped by identity of the symbols. -/
def Symbol.groups (l : List (α × Symbol)) : List (List α) := (Symbol.gatherAll l).map Prod.snd

namespace Object

/-- The labelled symbols among labelled objects. -/
def labelledSymbols (l : List (α × Object)) : List (α × Symbol) :=
  l.filterMap fun p => p.2.symbol?.map fun s => (p.1, s)

/-- The labels of the symbols among labelled objects, grouped by identity. -/
def groups (l : List (α × Object)) : List (List α) := Symbol.groups (labelledSymbols l)

/-- For each object of a list, whether each object of the list is identical to it; nothing for a
scalar. -/
def identities (l : List Object) : List (Option (List Bool)) :=
  l.map fun a => a.symbol?.map fun s => l.map fun b => s.identicalTo b

end Object

end GradedSymbols
