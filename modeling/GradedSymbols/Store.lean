import GradedSymbols.Draft
import GradedSymbols.Object.Groups
import Std.Data.TreeMap

/-!
# Stores of objects

A store has named slots, each empty or holding an object. Steps put objects into slots, copy them
from slot to slot, replace a symbol by a new one of its kind, empty slots, and ask questions. An
object itself never changes: a step that replaces the symbol in one slot leaves all copies of it
alone, and a step that is refused leaves the store as it was.

## Main definitions

* `GradedSymbols.Store` — stores, as maps from the names of slots, which are sorted.
* `GradedSymbols.Store.Step`, `GradedSymbols.Store.Reply` — steps and what they answer.
* `GradedSymbols.Store.apply` — the answer of a step and the store after it, or a refusal.
* `GradedSymbols.Store.step`, `GradedSymbols.Store.run` — steps that go on after a refusal.

## Main results

* `GradedSymbols.Store.step_snd_of_error` — a step that is refused leaves the store as it was.
-/

namespace GradedSymbols

/-- The objects in the slots of a store. -/
abbrev Store : Type := Std.TreeMap String Object

namespace Store

/-! ### Steps and replies -/

/-- A step on a store. It builds an object into a slot, copies the object of a slot into another,
empties a slot, or puts a new symbol of the same kind into the slot of a symbol. Or it asks: for the
object of a slot, its name, or the object as an operand; whether the object of a slot is identical to
the symbol of another, which slots hold objects identical to a symbol, which groups of slots hold
identical symbols, and what the sum of the degrees of all symbols is. -/
inductive Step where
  | put (slot : String) (draft : Draft)
  | copy (slot target : String)
  | drop (slot : String)
  | look (slot : String)
  | nameOf (slot : String)
  | operandOf (slot : String)
  | rename (slot text : String)
  | same (slot other : String)
  | find (slot : String)
  | groups
  | degreeSum
deriving DecidableEq

/-- The answer of a step: that it is done, the object that was put into a slot, whether the slot that
was emptied held one, or what was asked for. A scalar has no name. -/
inductive Reply where
  | done
  | stored (o : Object)
  | dropped (held : Bool)
  | object (o : Object)
  | name (n : Option String)
  | operand (o : Object)
  | verdict (b : Bool)
  | slots (l : List String)
  | groups (l : List (List String))
  | degree (n : Nat)
deriving DecidableEq

/-! ### Looking into slots -/

/-- The object of a slot that has to hold one. -/
def get (s : Store) (slot : String) : Except Refusal Object :=
  match s[slot]? with
  | some o => .ok o
  | none => .error .emptySlot

/-- The symbol of an object that has to be one. -/
def symbolOf (o : Object) : Except Refusal Symbol :=
  match o.symbol? with
  | some x => .ok x
  | none => .error .notSymbolic

/-- An object that is built from a draft. -/
def built (d : Draft) : Except Refusal Object :=
  match d.build with
  | .ok o => .ok o
  | .error e => .error (.invalidName e)

/-- The symbols of a store, in the order of their slots. -/
def symbols (s : Store) : List Symbol := s.toList.filterMap fun p => p.2.symbol?

/-- The slots whose objects are identical to a symbol, in order. -/
def slotsOf (s : Store) (x : Symbol) : List String :=
  (s.toList.filter fun p => x.identicalTo p.2).map Prod.fst

/-! ### Running steps -/

/-- The answer of a step and the store after it, or the reason why the step is refused. -/
def apply (s : Store) : Step → Except Refusal (Reply × Store)
  | .put slot draft => do
    let o ← built draft
    return (.stored o, s.insert slot o)
  | .copy slot target => do
    let o ← s.get slot
    return (.done, s.insert target o)
  | .drop slot => .ok (.dropped (s.contains slot), s.erase slot)
  | .look slot => do return (.object (← s.get slot), s)
  | .nameOf slot => do return (.name (← s.get slot).name?, s)
  | .operandOf slot => do return (.operand (← s.get slot), s)
  | .rename slot text => do
    let o ← s.get slot
    let x ← symbolOf o
    let renamed ← built (.symbol x.kind text)
    return (.done, s.insert slot renamed)
  | .same slot other => do
    let a ← s.get slot
    let b ← s.get other
    let x ← symbolOf a
    return (.verdict (x.identicalTo b), s)
  | .find slot => do
    let o ← s.get slot
    let x ← symbolOf o
    return (.slots (s.slotsOf x), s)
  | .groups => .ok (.groups (Object.groups s.toList), s)
  | .degreeSum => .ok (.degree (Symbol.degreeSum s.symbols), s)

/-- The answer of a step and the store after it; a step that is refused changes nothing. -/
def step (s : Store) (t : Step) : Except Refusal Reply × Store :=
  match s.apply t with
  | .ok (reply, s') => (.ok reply, s')
  | .error e => (.error e, s)

theorem step_snd_of_error {s : Store} {t : Step} {e : Refusal} (h : (s.step t).1 = .error e) :
    (s.step t).2 = s := by
  unfold step at h ⊢
  split at h
  · cases h
  · rfl

/-- The answers of steps, each with the store after it. -/
def run (s : Store) : List Step → List (Except Refusal Reply × Store)
  | [] => []
  | t :: ts => s.step t :: run (s.step t).2 ts

end Store

end GradedSymbols
