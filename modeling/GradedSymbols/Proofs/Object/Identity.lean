import GradedSymbols.Proofs.Object.Groups
import GradedSymbols.Store

/-!
# Identity of symbols

A symbol is identical to an object exactly if the object is a symbol of the same kind whose name has
the same characters. This file proves the laws of identity from that: it is an equivalence of
symbols, copies and symbols that are built again cannot be told apart from the symbol they come
from, scalars are identical to nothing, and the groups of identical symbols in a list of objects are
the classes of kind and name.

## Main definitions

* `GradedSymbols.Symbol.Indistinguishable` — symbols that no comparison tells apart.

## Main results

* `GradedSymbols.Symbol.identicalTo_iff` — identity in terms of kinds and names.
* `GradedSymbols.Store.exists_copy` — copying the object of a slot.
* `GradedSymbols.Symbol.identity_laws` — the laws of identity.
-/

namespace GradedSymbols

namespace Symbol

/-! ### Identity in terms of kinds and names -/

/-- A symbol is identical to the symbols of its kind that have its name, and to nothing else. -/
theorem identicalTo_iff {a : Symbol} {o : Object} : a.identicalTo o = true ↔
    ∃ s, o = .symbol s ∧ s.kind = a.kind ∧ s.name.text.toList = a.name.text.toList := by
  cases o with
  | symbol s =>
    rw [identicalTo_symbol, eq_comm]
    simp only [Object.symbol.injEq, exists_eq_left', String.toList_inj, kind_and_text_iff]
  | scalar v => simp [identicalTo_scalar]

theorem identicalTo_equivalence :
    Equivalence fun a b : Symbol => a.identicalTo (.symbol b) = true := by
  simp only [identicalTo_symbol]
  exact eq_equivalence

/-! ### Symbols that cannot be told apart -/

/-- Two symbols are *indistinguishable* when they are identical to the same objects and the same
symbols are identical to them. -/
def Indistinguishable (a b : Symbol) : Prop :=
  (∀ o, a.identicalTo o = b.identicalTo o) ∧
    ∀ c : Symbol, c.identicalTo (.symbol a) = c.identicalTo (.symbol b)

theorem Indistinguishable.refl (a : Symbol) : a.Indistinguishable a := ⟨fun _ => rfl, fun _ => rfl⟩

/-- A symbol that is built again from the kind and the name of a symbol cannot be told apart from
it. -/
theorem exists_build_indistinguishable (a : Symbol) :
    ∃ b, build a.kind a.name.text = .ok b ∧ b.Indistinguishable a :=
  ⟨a, build_kind_name a, .refl a⟩

end Symbol

theorem Store.exists_copy {store : Store} {slot : String} {o : Object}
    (h : store[slot]? = some o) (target : String) :
    ∃ store', store.apply (.copy slot target) = .ok (.done, store') ∧
      store'[target]? = some o := by
  refine ⟨store.insert target o, ?_, Std.TreeMap.getElem?_insert_self⟩
  have hget : store.get slot = .ok o := by
    rw [Store.get, h]
  rw [Store.apply, hget]
  rfl

namespace Symbol

/-! ### The laws of identity -/

/-- **The laws of identity.**

* A symbol is identical to an object exactly if the object is a symbol of the same kind whose name
  has the same characters.
* Identity is reflexive, symmetric and transitive on symbols.
* A copy of the symbol in a slot, and a symbol that is built again from the kind of a symbol and its
  name or its bare text, cannot be told apart from it.
* Scalars, whether made of an integer of 64 or 32 bits or of a float, are identical to no symbol and
  have no identity of their own; symbols of different kinds are not identical, whatever their names
  are.
* The groups of a list of labelled objects are the classes of kind and name, one for each distinct
  symbol of the list and with the labels of all symbols of the class; they hold the labels of the
  symbols of the list and no others, and they do not depend on the order of the list. -/
theorem identity_laws :
    (∀ (a : Symbol) (o : Object), a.identicalTo o = true ↔
      ∃ s, o = .symbol s ∧ s.kind = a.kind ∧ s.name.text.toList = a.name.text.toList) ∧
    (Equivalence fun a b : Symbol => a.identicalTo (.symbol b) = true) ∧
    (∀ (store : Store) (slot target : String) (a : Symbol), store[slot]? = some (.symbol a) →
      ∃ store' b, store.apply (.copy slot target) = .ok (.done, store') ∧
        store'[target]? = some (.symbol b) ∧ b.Indistinguishable a) ∧
    (∀ a : Symbol, ∀ text ∈ [a.name.text, a.pretty],
      ∃ b, build a.kind text = .ok b ∧ b.Indistinguishable a) ∧
    (∀ (a : Symbol) (m : Int64) (n : Int32) (x : Binary64),
      a.identicalTo (.scalar (.int m)) = false ∧ a.identicalTo (.scalar (.ofInt32 n)) = false ∧
        a.identicalTo (.scalar (.float x)) = false) ∧
    (∀ (v : Scalar) (o : Object), (Object.scalar v).same? o = none) ∧
    (∀ a b : Symbol, a.kind ≠ b.kind → a.identicalTo (.symbol b) = false) ∧
    ∀ (α : Type) (l : List (α × Object)),
      (∃ distinct : List Symbol, distinct.Nodup ∧
        (∀ s, s ∈ distinct ↔ ∃ label, (label, Object.symbol s) ∈ l) ∧
        Object.groups l = distinct.map fun s => labelsOf s (Object.labelledSymbols l)) ∧
      (Object.groups l).flatten.Perm ((Object.labelledSymbols l).map Prod.fst) ∧
      ∀ l' : List (α × Object), l.Perm l' → Object.blocks l = Object.blocks l' := by
  refine ⟨fun _ _ => identicalTo_iff, identicalTo_equivalence, ?_, ?_, ?_, fun _ _ => rfl, ?_, ?_⟩
  · intro store slot target a h
    obtain ⟨store', happly, htarget⟩ := Store.exists_copy h target
    exact ⟨store', a, happly, htarget, .refl a⟩
  · intro a text htext
    simp only [List.mem_cons, List.not_mem_nil, or_false, pretty, or_self] at htext
    exact htext ▸ exists_build_indistinguishable a
  · exact fun a m n x => ⟨a.identicalTo_scalar _, a.identicalTo_scalar _, a.identicalTo_scalar _⟩
  · intro a b hkind
    rw [Bool.eq_false_iff, Ne, identicalTo_symbol]
    exact fun h => hkind (congrArg Symbol.kind h)
  · intro α l
    refine ⟨⟨firsts ((Object.labelledSymbols l).map Prod.snd), nodup_firsts _, fun s => ?_,
      groups_eq_map_firsts _⟩, flatten_groups_perm _, fun l' h => Object.blocks_eq_of_perm h⟩
    rw [mem_firsts, List.mem_map]
    constructor
    · rintro ⟨⟨label, t⟩, ht, rfl⟩
      exact ⟨label, Object.mem_labelledSymbols.1 ht⟩
    · rintro ⟨label, h⟩
      exact ⟨(label, s), Object.mem_labelledSymbols.2 h, rfl⟩

end Symbol

end GradedSymbols
