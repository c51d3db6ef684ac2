import GradedSymbols.Proofs.Store.Steps

/-!
# Runs of stores

A run takes one step after the other, from the store with nothing in its slots. What a single step
preserves is preserved by runs, by induction on the list of steps: a slot that no step writes stays
as it is, and all symbols in slots were built by steps of the run. A copy is therefore not affected
by anything that happens to the slot it was taken from.

## Main definitions

* `GradedSymbols.Store.after` — the store after steps.
* `GradedSymbols.Store.linearSlots` — the slots that hold linear symbols.
* `GradedSymbols.Store.Shows` — what a store tells about a slot is said of one object.

## Main results

* `GradedSymbols.Store.getElem?_run` — the entries of a run are the steps from such stores.
* `GradedSymbols.Store.getElem?_after_of_target?_ne` — slots that are not written.
* `GradedSymbols.Store.exists_builds_of_getElem?_after` — where the symbols of a run come from.
* `GradedSymbols.Store.step_degreeSum` — the sum of degrees counts the linear symbols.
* `GradedSymbols.Store.shows_after_copy` — a copy is what its slot shows from then on.
* `GradedSymbols.Store.immutability` — the laws of runs.
-/

namespace GradedSymbols

theorem Symbol.kind_and_degree (x : Symbol) :
    x.kind = .linear ∧ x.degree = 1 ∨ x.kind = .parameter ∧ x.degree = 0 := by
  obtain ⟨_ | _, _⟩ := x
  · exact .inl ⟨rfl, rfl⟩
  · exact .inr ⟨rfl, rfl⟩

namespace Store

/-! ### The store after steps -/

/-- The store after steps, done or refused. -/
def after (s : Store) : List Step → Store
  | [] => s
  | t :: ts => after (s.step t).2 ts

theorem after_append (s : Store) (ts us : List Step) :
    after s (ts ++ us) = after (after s ts) us := by
  induction ts generalizing s with
  | nil => rfl
  | cons t ts ih => exact ih _

/-- The entry of a run at a place is the step there, taken from the store after the steps before
it. -/
theorem getElem?_run (s : Store) (ts : List Step) (i : Nat) :
    (run s ts)[i]? = ts[i]?.map (after s (ts.take i)).step := by
  induction ts generalizing s i with
  | nil => rfl
  | cons t ts ih =>
    cases i with
    | zero => rfl
    | succ i => exact ih _ i

/-- **Frame.** Steps leave every slot that none of them writes as it was. -/
theorem getElem?_after_of_target?_ne {s : Store} {ts : List Step} {slot : String}
    (hts : ∀ t ∈ ts, t.target? ≠ some slot) : (after s ts)[slot]? = s[slot]? := by
  -- The store is general in the induction: the steps behind the first one start from another.
  induction ts generalizing s with
  | nil => rfl
  | cons t ts ih =>
    obtain ⟨ht, hts⟩ := List.forall_mem_cons.1 hts
    rw [after, ih hts, getElem?_step_of_target?_ne ht]

/-! ### Where symbols come from -/

/-- A symbol in a slot after steps was in a slot before, or one of the steps builds it. -/
theorem getElem?_after_eq_symbol {s : Store} {ts : List Step} {slot : String} {x : Symbol}
    (hslot : (after s ts)[slot]? = some (.symbol x)) :
    (∃ other : String, s[other]? = some (.symbol x)) ∨ ∃ t ∈ ts, t.Builds x := by
  induction ts generalizing s slot with
  | nil => exact .inl ⟨slot, hslot⟩
  | cons t ts ih =>
    obtain ⟨other, hother⟩ | ⟨u, hu, hbuilds⟩ := ih hslot
    · exact (getElem?_step_eq_symbol hother).imp_right fun h => ⟨t, List.mem_cons_self, h⟩
    · exact .inr ⟨u, List.mem_cons_of_mem t hu, hbuilds⟩

/-- The symbols in slots of a store that was empty at first are built by the steps of the run. -/
theorem exists_builds_of_getElem?_after {ts : List Step} {slot : String} {x : Symbol}
    (hslot : (after ∅ ts)[slot]? = some (.symbol x)) : ∃ t ∈ ts, t.Builds x := by
  refine (getElem?_after_eq_symbol hslot).resolve_left ?_
  rintro ⟨other, hother⟩
  rw [Std.TreeMap.getElem?_emptyc] at hother
  cases hother

/-! ### Sums of degrees -/

/-- The slots that hold linear symbols. -/
def linearSlots (s : Store) : List String :=
  (s.toList.filter fun p => p.2.tag = .symbol .linear).map Prod.fst

theorem mem_linearSlots {s : Store} {slot : String} :
    slot ∈ s.linearSlots ↔ ∃ x, s[slot]? = some (.symbol x) ∧ x.kind = .linear := by
  simp only [linearSlots, List.mem_map, List.mem_filter, decide_eq_true_eq]
  constructor
  · rintro ⟨⟨_, o⟩, ⟨hmem, htag⟩, rfl⟩
    have hslot := Std.TreeMap.mem_toList_iff_getElem?_eq_some.1 hmem
    cases o with
    | symbol x => exact ⟨x, hslot, TypeTag.symbol.inj htag⟩
    | scalar v => cases v <;> cases htag
  · rintro ⟨x, hslot, hkind⟩
    exact ⟨(slot, .symbol x), ⟨Std.TreeMap.mem_toList_iff_getElem?_eq_some.2 hslot,
      congrArg TypeTag.symbol hkind⟩, rfl⟩

theorem nodup_linearSlots (s : Store) : s.linearSlots.Nodup := by
  refine List.Nodup.sublist (List.filter_sublist.map Prod.fst) ?_
  rw [Std.TreeMap.map_fst_toList_eq_keys]
  exact Std.TreeMap.nodup_keys

/-- Scalars and parameter symbols count nothing for the sum of degrees, and a linear symbol counts
one. -/
theorem degreeSum_filterMap_symbol? : (l : List (String × Object)) →
    Symbol.degreeSum (l.filterMap fun p => p.2.symbol?) =
      (l.filter fun p => p.2.tag = .symbol .linear).length
  | [] => rfl
  | (_, .symbol ⟨.linear, _⟩) :: l => by
    rw [List.filter_cons_of_pos rfl, List.length_cons, ← degreeSum_filterMap_symbol? l,
      Nat.add_comm]
    rfl
  | (_, .symbol ⟨.parameter, _⟩) :: l => by
    rw [List.filter_cons_of_neg Bool.false_ne_true, ← degreeSum_filterMap_symbol? l]
    exact Nat.zero_add _
  | (_, .scalar (.int _)) :: l | (_, .scalar (.float _)) :: l => by
    rw [List.filter_cons_of_neg Bool.false_ne_true, ← degreeSum_filterMap_symbol? l]
    rfl

/-- **Sums of degrees.** The sum of degrees is the number of slots that hold linear symbols. -/
theorem step_degreeSum (s : Store) :
    s.step .degreeSum = (.ok (.degree s.linearSlots.length), s) := by
  rw [linearSlots, List.length_map, ← degreeSum_filterMap_symbol?]
  rfl

/-! ### Copies -/

/-- The reply on a question of identity, which a scalar is refused. -/
def identityReply : Option Bool → Except Refusal Reply
  | some b => .ok (.verdict b)
  | none => .error .notSymbolic

/-- A slot *shows* an object when all that a store tells about the slot is said of that object: the
object itself and with it its kind, degree and texts for inspection, its name, and its identity with
the objects of all slots. -/
structure Shows (s : Store) (slot : String) (o : Object) : Prop where
  look : (s.step (.look slot)).1 = .ok (.object o)
  nameOf : (s.step (.nameOf slot)).1 = .ok (.name o.name?)
  operandOf : (s.step (.operandOf slot)).1 = .ok (.operand o)
  same : ∀ (other : String) (p : Object), s[other]? = some p →
    (s.step (.same slot other)).1 = identityReply (o.same? p)
  same_symm : ∀ (other : String) (p : Object), s[other]? = some p →
    (s.step (.same other slot)).1 = identityReply (p.same? o)

theorem fst_step_same {s : Store} {slot other : String} {o p : Object} (hslot : s[slot]? = some o)
    (hother : s[other]? = some p) : (s.step (.same slot other)).1 = identityReply (o.same? p) := by
  rw [step, apply, get_eq_ok_iff.2 hslot, get_eq_ok_iff.2 hother]
  cases o <;> rfl

theorem shows_of_getElem? {s : Store} {slot : String} {o : Object} (hslot : s[slot]? = some o) :
    s.Shows slot o where
  look := by
    rw [step, apply, get_eq_ok_iff.2 hslot]
    rfl
  nameOf := by
    rw [step, apply, get_eq_ok_iff.2 hslot]
    rfl
  operandOf := by
    rw [step, apply, get_eq_ok_iff.2 hslot]
    rfl
  same _ _ hother := fst_step_same hslot hother
  same_symm _ _ hother := fst_step_same hother hslot

/-- **Copies.** A copy of an object is what its slot shows after all steps that do not write that
slot, whatever they do to the slot that the copy was taken from. -/
theorem shows_after_copy {s : Store} {slot target : String} {o : Object} {ts : List Step}
    (hslot : s[slot]? = some o) (hts : ∀ t ∈ ts, t.target? ≠ some target) :
    (after s (.copy slot target :: ts)).Shows target o := by
  obtain ⟨reply, hcopy⟩ := exists_step_of_writes (.copy hslot)
  refine shows_of_getElem? ?_
  rw [after, getElem?_after_of_target?_ne hts, hcopy, Std.TreeMap.getElem?_insert_self]

/-! ### The laws of runs -/

/-- **Immutability.** For all steps, taken from the store with nothing in its slots:

* Each entry of the run is the step at its place, taken from the store after the steps before it.
* Each symbol in a slot was built by one of the steps, the check accepts its name, and its degree is
  one for a linear symbol and zero for a parameter symbol.
* The sum of degrees is the number of slots that hold linear symbols.
* A further step that is refused leaves the store as it was.
* A further step that is done is a question and leaves the store as it was, or writes one slot, or
  empties one. A step that has an object to write is done and writes it, and a slot can always be
  emptied.
* Every slot but the one that a further step writes is as it was.
* A copy that is taken of an object is what its slot shows from then on, until a step writes that
  slot. -/
theorem immutability (ts : List Step) :
    (∀ i, (run ∅ ts)[i]? = ts[i]?.map (after ∅ (ts.take i)).step) ∧
    (∀ (slot : String) (x : Symbol), (after ∅ ts)[slot]? = some (.symbol x) →
      (∃ t ∈ ts, t.Builds x) ∧ Name.check x.name.text = .ok () ∧
        (x.kind = .linear ∧ x.degree = 1 ∨ x.kind = .parameter ∧ x.degree = 0)) ∧
    (∃ slots : List String, slots.Nodup ∧
      (∀ slot, slot ∈ slots ↔ ∃ x, (after ∅ ts)[slot]? = some (.symbol x) ∧ x.kind = .linear) ∧
      (after ∅ ts).step .degreeSum = (.ok (.degree slots.length), after ∅ ts)) ∧
    (∀ (t : Step) (e : Refusal), ((after ∅ ts).step t).1 = .error e →
      ((after ∅ ts).step t).2 = after ∅ ts) ∧
    (∀ (t : Step) (reply : Reply) (s : Store), (after ∅ ts).step t = (.ok reply, s) →
      (after ∅ ts).Change t s) ∧
    (∀ (t : Step) (slot : String) (o : Object), (after ∅ ts).Writes t slot o →
      ∃ reply, (after ∅ ts).step t = (.ok reply, (after ∅ ts).insert slot o)) ∧
    (∀ slot : String, (after ∅ ts).step (.drop slot) =
      (.ok (.dropped ((after ∅ ts).contains slot)), (after ∅ ts).erase slot)) ∧
    (∀ (t : Step) (slot : String), t.target? ≠ some slot →
      ((after ∅ ts).step t).2[slot]? = (after ∅ ts)[slot]?) ∧
    ∀ (slot target : String) (o : Object) (us : List Step), (after ∅ ts)[slot]? = some o →
      (∀ t ∈ us, t.target? ≠ some target) →
        (after ∅ (ts ++ .copy slot target :: us)).Shows target o := by
  refine ⟨getElem?_run ∅ ts, ?_, ?_, fun _ _ => step_snd_of_error,
    fun _ _ _ => change_of_step, fun _ _ _ => exists_step_of_writes, fun _ => rfl,
    fun _ _ => getElem?_step_of_target?_ne, ?_⟩
  · intro slot x hslot
    obtain ⟨t, ht, hbuilds⟩ := exists_builds_of_getElem?_after hslot
    exact ⟨⟨t, ht, hbuilds⟩, hbuilds.check_name, x.kind_and_degree⟩
  · exact ⟨_, nodup_linearSlots _, fun _ => mem_linearSlots, step_degreeSum _⟩
  · intro slot target o us hslot hus
    rw [after_append]
    exact shows_after_copy hslot hus

end Store

end GradedSymbols
