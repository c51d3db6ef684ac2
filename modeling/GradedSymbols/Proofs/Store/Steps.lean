import GradedSymbols.Proofs.Name.Scan
import GradedSymbols.Store

/-!
# What a step of a store can do

A step writes one slot at most. What it writes there is the object of a draft, the object of another
slot, or a new symbol of the kind of the one it replaces; or it empties the slot. Questions and
refused steps write nothing. All that is known about the store after a step is derived from this one
statement, `GradedSymbols.Store.change_of_step`: every slot but the one written is as it was, and
a symbol that was in no slot before is one that the step has just built.

## Main definitions

* `GradedSymbols.Store.Step.target?` — the slot that a step writes.
* `GradedSymbols.Store.Step.Builds` — the symbols that a step builds.
* `GradedSymbols.Store.Writes` — the object that a step writes, and where.
* `GradedSymbols.Store.Change` — the stores that a step can lead to.

## Main results

* `GradedSymbols.Store.change_of_step` — a step that is done leads to these stores only.
* `GradedSymbols.Store.exists_step_of_writes` — a step that has something to write is done.
* `GradedSymbols.Store.getElem?_step_of_target?_ne` — the other slots are as they were.
* `GradedSymbols.Store.getElem?_step_eq_symbol` — where the symbols in slots come from.
-/

namespace GradedSymbols

namespace Store

/-! ### Targets, and what is written there -/

namespace Step

/-- The slot that a step writes; a question writes none. -/
def target? : Step → Option String
  | put slot _ => some slot
  | copy _ target => some target
  | drop slot => some slot
  | rename slot _ => some slot
  | look _ | nameOf _ | operandOf _ | same _ _ | find _ | groups | degreeSum => none

/-- A step *builds* a symbol when it is built from the text of the step: either from the draft of a
symbol, or for a symbol to be replaced, whose kind the step does not say. -/
inductive Builds : Step → Symbol → Prop
  | put {slot : String} {kind : Kind} {text : String} {x : Symbol}
      (h : Symbol.build kind text = .ok x) : Builds (put slot (.symbol kind text)) x
  | rename {slot : String} {kind : Kind} {text : String} {x : Symbol}
      (h : Symbol.build kind text = .ok x) : Builds (rename slot text) x

theorem Builds.check_name {t : Step} {x : Symbol} (h : t.Builds x) :
    Name.check x.name.text = .ok () := by
  cases h with
  | put h => exact Symbol.check_name_of_build h
  | rename h => exact Symbol.check_name_of_build h

end Step

/-- In a store, a step *writes* an object into a slot: the object of its draft, the object of the
slot it copies, or a symbol of the same kind as the one it replaces. -/
inductive Writes (s : Store) : Step → String → Object → Prop
  | put {slot : String} {draft : Draft} {o : Object} (h : draft.build = .ok o) :
      Writes s (.put slot draft) slot o
  | copy {slot target : String} {o : Object} (h : s[slot]? = some o) :
      Writes s (.copy slot target) target o
  | rename {slot text : String} {x y : Symbol} (hslot : s[slot]? = some (.symbol x))
      (hbuild : Symbol.build x.kind text = .ok y) : Writes s (.rename slot text) slot (.symbol y)

/-- A step *changes* a store into another one: it is a question and the store is the same, or one
slot is written, or one slot is emptied. -/
inductive Change (s : Store) : Step → Store → Prop
  | ask {t : Step} (h : t.target? = none) : Change s t s
  | write {t : Step} {slot : String} {o : Object} (h : s.Writes t slot o) :
      Change s t (s.insert slot o)
  | drop {slot : String} : Change s (.drop slot) (s.erase slot)

theorem Writes.target?_eq {s : Store} {t : Step} {slot : String} {o : Object}
    (h : s.Writes t slot o) : t.target? = some slot := by
  cases h <;> rfl

/-! ### Steps that are done -/

/-- A computation that goes on after a first part is done only if the first part is. -/
theorem exists_of_bind_eq_ok {ε α β : Type} {m : Except ε α} {f : α → Except ε β} {b : β}
    (h : (m >>= f) = .ok b) : ∃ a, m = .ok a ∧ f a = .ok b := by
  cases m with
  | ok a => exact ⟨a, rfl, h⟩
  | error e => cases h

theorem get_eq_ok_iff {s : Store} {slot : String} {o : Object} :
    s.get slot = .ok o ↔ s[slot]? = some o := by
  unfold get
  split <;> simp_all

theorem symbolOf_eq_ok_iff {o : Object} {x : Symbol} : symbolOf o = .ok x ↔ o = .symbol x := by
  cases o <;> simp [symbolOf, Object.symbol?]

theorem built_eq_ok_iff {d : Draft} {o : Object} : built d = .ok o ↔ d.build = .ok o := by
  unfold built
  split <;> simp_all

theorem exists_build_of_built_symbol {kind : Kind} {text : String} {o : Object}
    (h : built (.symbol kind text) = .ok o) :
    ∃ y, Symbol.build kind text = .ok y ∧ o = .symbol y := by
  rw [built_eq_ok_iff, Draft.build] at h
  cases hbuild : Symbol.build kind text with
  | ok y =>
    rw [hbuild] at h
    exact ⟨y, rfl, (Except.ok.inj h).symm⟩
  | error e =>
    rw [hbuild] at h
    cases h

/-- **What a step can do.** A step that is done is a question, writes one slot, or empties one. -/
theorem change_of_apply {s s' : Store} {t : Step} {reply : Reply}
    (h : s.apply t = .ok (reply, s')) : s.Change t s' := by
  cases t with
  | put slot draft =>
    obtain ⟨o, ho, h⟩ := exists_of_bind_eq_ok h
    cases h
    exact .write (.put (built_eq_ok_iff.1 ho))
  | copy slot target =>
    obtain ⟨o, ho, h⟩ := exists_of_bind_eq_ok h
    cases h
    exact .write (.copy (get_eq_ok_iff.1 ho))
  | drop slot =>
    cases h
    exact .drop
  | rename slot text =>
    -- Three things can refuse a replacement: an empty slot, a scalar in it, and the text.
    obtain ⟨o, ho, h⟩ := exists_of_bind_eq_ok h
    obtain ⟨x, hx, h⟩ := exists_of_bind_eq_ok h
    obtain ⟨renamed, hrenamed, h⟩ := exists_of_bind_eq_ok h
    cases h
    obtain ⟨y, hy, rfl⟩ := exists_build_of_built_symbol hrenamed
    obtain rfl := symbolOf_eq_ok_iff.1 hx
    exact .write (.rename (get_eq_ok_iff.1 ho) hy)
  | look slot | nameOf slot | operandOf slot =>
    obtain ⟨o, -, h⟩ := exists_of_bind_eq_ok h
    cases h
    exact .ask rfl
  | same slot other =>
    obtain ⟨a, -, h⟩ := exists_of_bind_eq_ok h
    obtain ⟨b, -, h⟩ := exists_of_bind_eq_ok h
    obtain ⟨x, -, h⟩ := exists_of_bind_eq_ok h
    cases h
    exact .ask rfl
  | find slot =>
    obtain ⟨o, -, h⟩ := exists_of_bind_eq_ok h
    obtain ⟨x, -, h⟩ := exists_of_bind_eq_ok h
    cases h
    exact .ask rfl
  | groups | degreeSum =>
    cases h
    exact .ask rfl

theorem change_of_step {s s' : Store} {t : Step} {reply : Reply}
    (h : s.step t = (.ok reply, s')) : s.Change t s' := by
  unfold step at h
  split at h
  · next reply' s'' happly =>
    cases h
    exact change_of_apply happly
  · cases h

/-- A step is refused and leaves the store as it was, or it changes the store. -/
theorem eq_or_change_step (s : Store) (t : Step) :
    (s.step t).2 = s ∨ s.Change t (s.step t).2 := by
  cases hreply : (s.step t).1 with
  | ok reply => exact .inr (change_of_step (Prod.ext hreply rfl))
  | error e => exact .inl (step_snd_of_error hreply)

/-- A step that has an object to write is done, and writes it. -/
theorem exists_step_of_writes {s : Store} {t : Step} {slot : String} {o : Object}
    (h : s.Writes t slot o) : ∃ reply, s.step t = (.ok reply, s.insert slot o) := by
  suffices ∃ reply, s.apply t = .ok (reply, s.insert slot o) by
    obtain ⟨reply, happly⟩ := this
    exact ⟨reply, by rw [step, happly]⟩
  cases h with
  | put h =>
    rw [apply, built_eq_ok_iff.2 h]
    exact ⟨_, rfl⟩
  | copy h =>
    rw [apply, get_eq_ok_iff.2 h]
    exact ⟨_, rfl⟩
  | @rename slot text x y hslot hbuild =>
    have hbuilt : built (.symbol x.kind text) = .ok (.symbol y) := by
      rw [built_eq_ok_iff, Draft.build, hbuild]
      rfl
    refine ⟨.done, ?_⟩
    rw [apply, get_eq_ok_iff.2 hslot]
    exact congrArg (· >>= fun renamed => Except.ok (Reply.done, s.insert slot renamed)) hbuilt

/-! ### The store after a step -/

/-- A change leaves every slot but the target of the step as it was. -/
theorem Change.getElem?_of_target?_ne {s s' : Store} {t : Step} (h : s.Change t s') {slot : String}
    (hslot : t.target? ≠ some slot) : s'[slot]? = s[slot]? := by
  cases h with
  | ask => rfl
  | write h =>
    rw [h.target?_eq] at hslot
    rw [Std.TreeMap.getElem?_insert, if_neg]
    simpa [compare_eq_iff_eq] using hslot
  | drop =>
    rw [Std.TreeMap.getElem?_erase, if_neg]
    simpa [Step.target?, compare_eq_iff_eq] using hslot

/-- **Frame.** A step leaves every slot but its target as it was. -/
theorem getElem?_step_of_target?_ne {s : Store} {t : Step} {slot : String}
    (hslot : t.target? ≠ some slot) : (s.step t).2[slot]? = s[slot]? := by
  obtain hrefused | hchange := s.eq_or_change_step t
  · rw [hrefused]
  · exact hchange.getElem?_of_target?_ne hslot

/-- The symbol that a step writes was in a slot before, or the step builds it. -/
theorem Writes.symbol_origin {s : Store} {t : Step} {slot : String} {x : Symbol}
    (h : s.Writes t slot (.symbol x)) :
    (∃ other : String, s[other]? = some (.symbol x)) ∨ t.Builds x := by
  cases h with
  | @put _ draft _ h =>
    cases draft with
    | symbol kind text =>
      obtain ⟨y, hbuild, hy⟩ := exists_build_of_built_symbol (built_eq_ok_iff.2 h)
      cases hy
      exact .inr (.put hbuild)
    | scalar v => cases h
  | copy h => exact .inl ⟨_, h⟩
  | rename _ hbuild => exact .inr (.rename hbuild)

theorem Change.symbol_origin {s s' : Store} {t : Step} (h : s.Change t s') {slot : String}
    {x : Symbol} (hslot : s'[slot]? = some (.symbol x)) :
    (∃ other : String, s[other]? = some (.symbol x)) ∨ t.Builds x := by
  cases h with
  | ask => exact .inl ⟨slot, hslot⟩
  | write h =>
    rw [Std.TreeMap.getElem?_insert] at hslot
    split at hslot
    · cases hslot
      exact h.symbol_origin
    · exact .inl ⟨slot, hslot⟩
  | drop =>
    rw [Std.TreeMap.getElem?_erase] at hslot
    split at hslot
    · cases hslot
    · exact .inl ⟨slot, hslot⟩

theorem getElem?_step_eq_symbol {s : Store} {t : Step} {slot : String} {x : Symbol}
    (hslot : (s.step t).2[slot]? = some (.symbol x)) :
    (∃ other : String, s[other]? = some (.symbol x)) ∨ t.Builds x := by
  obtain hrefused | hchange := s.eq_or_change_step t
  · rw [hrefused] at hslot
    exact .inl ⟨slot, hslot⟩
  · exact hchange.symbol_origin hslot

end Store

end GradedSymbols
