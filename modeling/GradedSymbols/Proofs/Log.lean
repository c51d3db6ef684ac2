import GradedSymbols.Log
import GradedSymbols.Proofs.Name.Scan

/-!
# The log tells what happened

The result of a call determines the events that it logs: none for a text that passes a check, one
event of the level `DEBUG` for a report, one event of the level `TRACE` for a symbol. A call adds
these events behind whatever the log holds (`run_eq`), and by induction a run of calls adds the
events of its results, one after the other (`runAll_eq`). The events of either level are therefore
the reports and the symbols of the run, in the order of the calls. What an event shows is enough to
read back the result of the call that logged it, so if every call logs something, the results of a
run are read off its log.

## Main definitions

* `GradedSymbols.Event.ofResult` — the events that belong to a result.
* `GradedSymbols.Event.shown`, `GradedSymbols.Event.read?` — what an event shows, and the result that
  is read off that.
* `GradedSymbols.Call.result` — the result of a call, said without the log.
* `GradedSymbols.Call.failure?`, `GradedSymbols.Call.created?` — the report or symbol of a result.

## Main results

* `GradedSymbols.Call.run_eq`, `GradedSymbols.Call.runAll_eq` — what a call and a run log.
* `GradedSymbols.Call.filter_debug`, `GradedSymbols.Call.filter_trace` — the events of either level.
* `GradedSymbols.Call.map_read?_shown` — results are read off the log.
* `GradedSymbols.Call.log_tells_what_happened` — the laws of the log.
-/

namespace GradedSymbols

namespace Event

/-! ### Events and results -/

/-- The events that belong to the result of a call. -/
def ofResult : Except InvalidName (Option Symbol) → List Event
  | .ok none => []
  | .ok (some s) => [created s.kind s.name.text]
  | .error e => [rejected e]

/-- What is seen of an event: its level and its fields. -/
def shown (e : Event) : Level × List (String × FieldValue) := (e.level, e.fields)

/-- The kind of symbol that a message on a creation tells. -/
def kindOfMessage? (message : String) : Option Kind :=
  if message = "created lin symbol" then some .linear
  else if message = "created param symbol" then some .parameter
  else none

/-- The result of a call that is read off what its event shows: the report of a `DEBUG` event, or the
symbol of a `TRACE` event. -/
def read? : Level × List (String × FieldValue) → Option (Except InvalidName (Option Symbol))
  | (.debug, [("invalid", .text invalid), _, ("name", .text name), ("offset", .number offset)]) =>
    invalid.toList.head?.map fun c => .error ⟨name, c, offset⟩
  | (.trace, [("message", .text message), ("name", .text name)]) =>
    (kindOfMessage? message).map fun kind => (Symbol.build kind name).map some
  | _ => none

theorem read?_shown_rejected (e : InvalidName) : read? (rejected e).shown = some (.error e) := by
  simp [read?, shown, level, fields]

theorem read?_shown_created (s : Symbol) :
    read? (created s.kind s.name.text).shown = some (.ok (some s)) := by
  have hmessage : kindOfMessage? (created s.kind s.name.text).message = some s.kind := by
    cases s.kind <;> rfl
  simp only [read?, shown, level, fields, hmessage, Option.map_some, Symbol.build_kind_name]
  rfl

end Event

namespace Call

open Event (ofResult)

/-! ### What calls log -/

/-- The result of a call, said without the log: that of the check, or of the construction. -/
def result : Call → Except InvalidName (Option Symbol)
  | check text => (Name.check text).map fun _ => none
  | build kind text => (Symbol.build kind text).map some

theorem result_check_of_ok {text : String} {n : Name} (h : Name.ofString text = .ok n) :
    (check text).result = .ok none := by
  have hcheck : Name.check text = .ok () := by
    rw [← Name.text_of_ofString h]
    exact Name.check_eq_ok_iff.2 n.contains_of_mem
  rw [result, hcheck]
  rfl

theorem result_build_of_ok {kind : Kind} {text : String} {s : Symbol}
    (h : Symbol.build kind text = .ok s) : (build kind text).result = .ok (some s) := by
  rw [result, h]
  rfl

theorem result_build_of_error {kind : Kind} {text : String} {e : InvalidName}
    (h : Symbol.build kind text = .error e) : (build kind text).result = .error e := by
  rw [result, h]
  rfl

/-- **Calls.** A call adds the events of its result to the log. -/
theorem run_eq (c : Call) (log : List Event) :
    c.run log = (c.result, log ++ ofResult c.result) := by
  -- A construction logs its symbol behind the check, so it adds nothing to the report of a check.
  cases c with
  | check text =>
    cases hname : Name.ofString text with
    | ok n =>
      rw [result_check_of_ok hname]
      simp only [run, logged, Logged.name, hname, ofResult, List.append_nil]
      rfl
    | error e =>
      have hresult : (check text).result = .error e := by
        rw [result, Name.ofString_eq_error_iff.1 hname]
        rfl
      rw [hresult]
      simp only [run, logged, Logged.name, hname, ofResult]
      rfl
  | build kind text =>
    cases hname : Name.ofString text with
    | ok n =>
      have hbuild : Symbol.build kind text = .ok ⟨kind, n⟩ := by
        rw [Symbol.build, hname]
        rfl
      rw [result_build_of_ok hbuild]
      simp only [run, logged, Logged.symbol, Logged.name, hname, ofResult]
      rfl
    | error e =>
      have hbuild : Symbol.build kind text = .error e := by
        rw [Symbol.build, hname]
        rfl
      rw [result_build_of_error hbuild]
      simp only [run, logged, Logged.symbol, Logged.name, hname, ofResult]
      rfl

/-- **Runs.** A run of calls adds the events of its results to the log, in the order of the calls. -/
theorem runAll_eq (cs : List Call) (log : List Event) :
    runAll cs log = (cs.map result, log ++ (cs.map result).flatMap ofResult) := by
  induction cs generalizing log with
  | nil => simp [runAll]
  | cons c cs ih =>
    rw [runAll, run_eq]
    simp [ih]

/-! ### The events of either level -/

/-- The report that a call returns, if it does not succeed. -/
def failure? : Except InvalidName (Option Symbol) → Option InvalidName
  | .ok _ => none
  | .error e => some e

/-- The symbol that a call creates, if it creates one. -/
def created? : Except InvalidName (Option Symbol) → Option Symbol
  | .ok o => o
  | .error _ => none

/-- The `DEBUG` events of results are their reports, in order. -/
theorem filter_debug : (rs : List (Except InvalidName (Option Symbol))) →
    ((rs.flatMap ofResult).filter fun event => event.level = .debug) =
      (rs.filterMap failure?).map .rejected
  | [] => rfl
  | .ok none :: rs => filter_debug rs
  | .ok (some _) :: rs => filter_debug rs
  | .error e :: rs => congrArg (Event.rejected e :: ·) (filter_debug rs)

theorem filter_trace : (rs : List (Except InvalidName (Option Symbol))) →
    ((rs.flatMap ofResult).filter fun event => event.level = .trace) =
      (rs.filterMap created?).map fun s => .created s.kind s.name.text
  | [] => rfl
  | .ok none :: rs => filter_trace rs
  | .ok (some s) :: rs => congrArg (Event.created s.kind s.name.text :: ·) (filter_trace rs)
  | .error _ :: rs => filter_trace rs

/-- The results of constructions are read off the events, one off each. -/
theorem map_read?_shown : (l : List (Kind × String)) →
    ((l.map fun p => (build p.1 p.2).result).flatMap ofResult).map (fun event =>
        Event.read? event.shown) = l.map fun p => some (build p.1 p.2).result
  | [] => rfl
  | (kind, text) :: l => by
    rw [List.map_cons, List.flatMap_cons, List.map_append, map_read?_shown l, List.map_cons]
    cases hbuild : Symbol.build kind text with
    | ok s =>
      rw [result_build_of_ok hbuild, ofResult, List.map_cons, Event.read?_shown_created]
      rfl
    | error e =>
      rw [result_build_of_error hbuild, ofResult, List.map_cons, Event.read?_shown_rejected]
      rfl

/-! ### The laws of the log -/

/-- **The log tells what happened.**

* A call returns what the check or the construction returns, and adds the events that belong to its
  result to any log.
* Nothing belongs to a text that passes the check. One event of the level `DEBUG` belongs to a
  report, and has its fields, the character not being quoted. One event of the level `TRACE` belongs
  to a symbol, and has its name and tells its kind.
* The `DEBUG` events of a run are the reports that its calls return and the `TRACE` events are the
  symbols that its calls create, both in the order of the calls; so there are as many of them.
* In a run of constructions there is one event for each call, and its result is read off what the
  event shows. -/
theorem log_tells_what_happened :
    (∀ (c : Call) (log : List Event), c.run log = (c.result, log ++ ofResult c.result)) ∧
    ofResult (.ok none) = [] ∧
    (∀ e : InvalidName, ∃ event, ofResult (.error e) = [event] ∧ event.level = .debug ∧
      event.fields = [("invalid", .text (String.singleton e.invalid)),
        ("message", .text "rejected symbol name"), ("name", .text e.name),
        ("offset", .number e.offset)]) ∧
    (∀ s : Symbol, ∃ event, ofResult (.ok (some s)) = [event] ∧ event.level = .trace ∧
      event.fields = [("message", .text (if s.kind = .linear then "created lin symbol"
        else "created param symbol")), ("name", .text s.name.text)]) ∧
    (∀ (cs : List Call) (results : List (Except InvalidName (Option Symbol)))
      (events : List Event), runAll cs [] = (results, events) →
      results = cs.map result ∧
      (events.filter fun event => event.level = .debug) =
        (results.filterMap failure?).map .rejected ∧
      (events.countP fun event => event.level = .debug) =
        results.countP (fun r => (failure? r).isSome) ∧
      (events.filter fun event => event.level = .trace) =
        (results.filterMap created?).map (fun s => .created s.kind s.name.text) ∧
      (events.countP fun event => event.level = .trace) =
        results.countP fun r => (created? r).isSome) ∧
    ∀ (l : List (Kind × String)) (results : List (Except InvalidName (Option Symbol)))
      (events : List Event),
      runAll (l.map fun p => .build p.1 p.2) [] = (results, events) →
      events.map (fun event => Event.read? event.shown) = results.map some := by
  refine ⟨run_eq, rfl, fun e => ⟨_, rfl, rfl, rfl⟩, fun s => ?_, fun cs results events h => ?_,
    fun l results events h => ?_⟩
  · obtain ⟨_ | _, n⟩ := s
    · exact ⟨_, rfl, rfl, rfl⟩
    · exact ⟨_, rfl, rfl, rfl⟩
  · obtain ⟨rfl, rfl⟩ := Prod.mk.inj ((runAll_eq cs []).symm.trans h)
    rw [List.nil_append]
    refine ⟨rfl, filter_debug _, ?_, filter_trace _, ?_⟩
    · rw [List.countP_eq_length_filter, filter_debug, List.length_map,
        List.length_filterMap_eq_countP]
    · rw [List.countP_eq_length_filter, filter_trace, List.length_map,
        List.length_filterMap_eq_countP]
  · obtain ⟨rfl, rfl⟩ := Prod.mk.inj ((runAll_eq _ []).symm.trans h)
    rw [List.nil_append, List.map_map, List.map_map]
    exact map_read?_shown l

end Call

end GradedSymbols
