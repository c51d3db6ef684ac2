import GradedSymbols.Symbol

/-!
# The log of checks and constructions

Checking a name and building a symbol are logged. A rejected text is reported once, by the check
that rejects it, and a symbol is reported when it is created; a text that passes a check alone
leaves no trace. The construction of a symbol checks the name by the logged check, and so reports a
rejected text through it.

## Main definitions

* `GradedSymbols.Event` — what is logged, with its level and its fields.
* `GradedSymbols.Logged` — computations that log events and may reject a name.
* `GradedSymbols.Logged.name`, `GradedSymbols.Logged.symbol` — the logged check and construction.
* `GradedSymbols.Call` — calls of either, for runs of several.
-/

namespace GradedSymbols

/-! ### Events -/

/-- An event in the log: a text was rejected as a name, or a symbol was created. -/
inductive Event where
  | rejected (e : InvalidName)
  | created (kind : Kind) (name : String)
deriving DecidableEq

/-- How much an event matters. -/
inductive Level where
  | debug
  | trace
deriving DecidableEq

/-- The name of a level. -/
def Level.name : Level → String
  | debug => "DEBUG"
  | trace => "TRACE"

/-- The value of a field of an event. -/
inductive FieldValue where
  | text (s : String)
  | number (n : Nat)
deriving DecidableEq

namespace Event

/-- The level of an event. -/
def level : Event → Level
  | rejected _ => .debug
  | created _ _ => .trace

/-- The message of an event. -/
def message : Event → String
  | rejected _ => "rejected symbol name"
  | created .linear _ => "created lin symbol"
  | created .parameter _ => "created param symbol"

/-- The fields of an event, sorted by their names. The character of a rejected text is not
quoted. -/
def fields (e : Event) : List (String × FieldValue) :=
  match e with
  | rejected r =>
    [("invalid", .text (String.singleton r.invalid)), ("message", .text e.message),
      ("name", .text r.name), ("offset", .number r.offset)]
  | created _ name => [("message", .text e.message), ("name", .text name)]

end Event

/-! ### Logged computations -/

/-- A computation that adds events at the end of a log and may reject a name. -/
abbrev Logged (α : Type) : Type := ExceptT InvalidName (StateM (List Event)) α

namespace Logged

/-- Adds an event to the log. -/
def emit (e : Event) : Logged Unit := modify (· ++ [e])

/-- The name spelled by a text; a rejected text is logged. -/
def name (text : String) : Logged Name :=
  match Name.ofString text with
  | .ok n => pure n
  | .error e => do
    emit (.rejected e)
    throw e

/-- The symbol of a kind whose name is spelled by a text; the symbol is logged. -/
def symbol (kind : Kind) (text : String) : Logged Symbol := do
  let n ← name text
  emit (.created kind n.text)
  return ⟨kind, n⟩

end Logged

/-! ### Runs of calls -/

/-- A call that is logged: a check of a text, or the construction of a symbol. -/
inductive Call where
  | check (text : String)
  | build (kind : Kind) (text : String)
deriving DecidableEq

namespace Call

/-- What a call returns and logs: the created symbol, if it creates one, or the report. -/
def logged : Call → Logged (Option Symbol)
  | check text => do
    let _ ← Logged.name text
    return none
  | build kind text => return some (← Logged.symbol kind text)

/-- The result of a call and the log after it. -/
def run (c : Call) (log : List Event) : Except InvalidName (Option Symbol) × List Event :=
  c.logged.run log

/-- The results of calls that share a log, and the log after them. -/
def runAll : List Call → List Event → List (Except InvalidName (Option Symbol)) × List Event
  | [], log => ([], log)
  | c :: cs, log =>
    let (result, log) := c.run log
    let (results, log) := runAll cs log
    (result :: results, log)

/-- The result of a call and the events that it logs. -/
def trace (c : Call) : Except InvalidName (Option Symbol) × List Event := c.run []

end Call

end GradedSymbols
