import GradedSymbols.Object.Groups
import Mathlib.Data.Multiset.MapFold

/-!
# Groups are the classes of kind and name

A list of labelled objects is grouped from its end: each symbol gathers the group that it belongs to
and puts it in front. This file proves that the groups are the classes of symbols with one kind and
one name, each class once and with all its labels, and that the order of the list counts for nothing
but the order of groups and labels.

The invariant is `gatherAll_eq_map_firsts`: the groups of a list, with their first symbols, are the
distinct symbols of the list, each with the labels of its class.

## Main definitions

* `GradedSymbols.Symbol.firsts` — the distinct symbols of a list.
* `GradedSymbols.Symbol.labelsOf` — the labels of the class of a symbol.
* `GradedSymbols.Object.blocks` — the groups of labelled objects without their order.

## Main results

* `GradedSymbols.Symbol.groups_eq_map_firsts` — the groups are the classes.
* `GradedSymbols.Symbol.flatten_groups_perm` — no label is lost and none is added.
* `GradedSymbols.Object.blocks_eq_of_perm` — the groups do not depend on the order of the list.
-/

namespace GradedSymbols

variable {α : Type}

namespace Symbol

/-! ### Distinct symbols and their classes -/

/-- The distinct symbols of a list, in the order of their first places. -/
def firsts : List Symbol → List Symbol
  | [] => []
  | s :: l => s :: (firsts l).filter fun t => t ≠ s

theorem mem_firsts {s : Symbol} (l : List Symbol) : s ∈ firsts l ↔ s ∈ l := by
  induction l with
  | nil => rfl
  | cons t l ih =>
    rw [firsts, List.mem_cons, List.mem_filter, ih, List.mem_cons, decide_eq_true_eq]
    by_cases h : s = t <;> simp [h]

theorem nodup_firsts (l : List Symbol) : (firsts l).Nodup := by
  induction l with
  | nil => exact List.nodup_nil
  | cons s l ih =>
    refine List.nodup_cons.2 ⟨fun hs => ?_, ih.filter _⟩
    simp at hs

/-- The labels of the symbols that have the kind and the name of `s`. -/
def labelsOf (s : Symbol) (l : List (α × Symbol)) : List α :=
  (l.filter fun p => p.2.kind = s.kind ∧ p.2.name.text = s.name.text).map Prod.fst

theorem labelsOf_cons_self (label : α) (s : Symbol) (l : List (α × Symbol)) :
    labelsOf s ((label, s) :: l) = label :: labelsOf s l := by
  simp [labelsOf]

theorem labelsOf_cons_of_ne {s t : Symbol} (h : t ≠ s) (label : α) (l : List (α × Symbol)) :
    labelsOf s ((label, t) :: l) = labelsOf s l := by
  rw [labelsOf, List.filter_cons_of_neg, labelsOf]
  simpa [kind_and_text_iff] using h

/-! ### Gathering -/

/-- Gathering takes the labels of the class of the symbol to the front, and leaves the other
classes as they are. -/
theorem gather_map (label : α) (s : Symbol) {firsts : List Symbol} (hfirsts : firsts.Nodup)
    (labels : Symbol → List α) (hlabels : s ∉ firsts → labels s = []) :
    gather label s (firsts.map fun t => (t, labels t)) =
      (s, label :: labels s) ::
        (firsts.filter fun t => t ≠ s).map fun t => (t, labels t) := by
  have hsame : (firsts.filter fun t => t = s).flatMap labels = labels s := by
    by_cases hs : s ∈ firsts
    · have hone : (firsts.filter fun t => t = s) = [s] := by
        rw [List.filter_eq, List.count_eq_one_of_mem hfirsts hs]
        rfl
      rw [hone, List.flatMap_singleton]
    · have hnone : (firsts.filter fun t => t = s) = [] :=
        List.filter_eq_nil_iff.2 fun t ht h => hs (of_decide_eq_true h ▸ ht)
      rw [hnone, List.flatMap_nil, hlabels hs]
  simp only [gather, List.filter_map, List.flatMap_map, Function.comp_def, identicalTo_eq_decide,
    eq_comm (a := s), hsame, decide_not]

/-- The groups of a list with their first symbols are its distinct symbols with the labels of their
classes. -/
theorem gatherAll_eq_map_firsts (l : List (α × Symbol)) :
    gatherAll l = (firsts (l.map Prod.snd)).map fun s => (s, labelsOf s l) := by
  induction l with
  | nil => rfl
  | cons p l ih =>
    obtain ⟨label, s⟩ := p
    have habsent : s ∉ firsts (l.map Prod.snd) → labelsOf s l = [] := by
      intro hs
      rw [labelsOf, List.map_eq_nil_iff, List.filter_eq_nil_iff]
      intro p hp hps
      rw [mem_firsts] at hs
      have hps' : p.2 = s := kind_and_text_iff.1 (of_decide_eq_true hps)
      exact hs (List.mem_map.2 ⟨p, hp, hps'⟩)
    rw [gatherAll, ih, gather_map label s (nodup_firsts _) _ habsent, List.map_cons, firsts,
      List.map_cons, labelsOf_cons_self]
    congr 1
    refine List.map_congr_left fun t ht => ?_
    have hts : t ≠ s := of_decide_eq_true (List.mem_filter.1 ht).2
    rw [labelsOf_cons_of_ne hts.symm]

/-- **Groups are classes.** The groups of a list are the labels of the classes of its distinct
symbols. -/
theorem groups_eq_map_firsts (l : List (α × Symbol)) :
    groups l = (firsts (l.map Prod.snd)).map fun s => labelsOf s l := by
  rw [groups, gatherAll_eq_map_firsts, List.map_map]
  rfl

/-- The groups hold the labels of the list, each as often as the list does. -/
theorem flatten_groups_perm (l : List (α × Symbol)) :
    (groups l).flatten.Perm (l.map Prod.fst) := by
  induction l with
  | nil => exact List.Perm.nil
  | cons p l ih =>
    obtain ⟨label, s⟩ := p
    have hrest : ((gatherAll l).flatMap Prod.snd).Perm (l.map Prod.fst) := by
      rw [List.flatMap_def]
      exact ih
    have hgather := (List.filter_append_perm (fun g => s.identicalTo (.symbol g.1))
      (gatherAll l)).flatMap_right Prod.snd
    rw [List.flatMap_append] at hgather
    rw [groups, gatherAll, gather, List.map_cons, List.flatten_cons, List.map_cons,
      List.cons_append]
    refine List.Perm.cons label (List.Perm.trans ?_ hrest)
    rw [← List.flatMap_def]
    exact hgather

end Symbol

/-! ### Groups of objects -/

namespace Object

/-- The groups of labelled objects, without the order of the groups and of their labels. -/
def blocks (l : List (α × Object)) : Multiset (Multiset α) :=
  Multiset.ofList ((groups l).map Multiset.ofList)

theorem mem_labelledSymbols {l : List (α × Object)} {label : α} {s : Symbol} :
    (label, s) ∈ labelledSymbols l ↔ (label, symbol s) ∈ l := by
  rw [labelledSymbols, List.mem_filterMap]
  constructor
  · rintro ⟨⟨label', o⟩, ho, h⟩
    cases o with
    | symbol t =>
      obtain ⟨rfl, rfl⟩ := Prod.mk.inj (Option.some.inj h)
      exact ho
    | scalar v => cases h
  · exact fun h => ⟨(label, symbol s), h, rfl⟩

/-- The groups of a list in another order are the same, up to the order of groups and labels. -/
theorem blocks_eq_of_perm {l l' : List (α × Object)} (h : l.Perm l') : blocks l = blocks l' := by
  have hsymbols : (labelledSymbols l).Perm (labelledSymbols l') := h.filterMap _
  have hfirsts : (Symbol.firsts ((labelledSymbols l).map Prod.snd)).Perm
      (Symbol.firsts ((labelledSymbols l').map Prod.snd)) := by
    rw [List.perm_ext_iff_of_nodup (Symbol.nodup_firsts _) (Symbol.nodup_firsts _)]
    intro s
    rw [Symbol.mem_firsts, Symbol.mem_firsts]
    exact (hsymbols.map Prod.snd).mem_iff
  have hlabels : ∀ s : Symbol, Multiset.ofList (Symbol.labelsOf s (labelledSymbols l)) =
      Multiset.ofList (Symbol.labelsOf s (labelledSymbols l')) :=
    fun s => Multiset.coe_eq_coe.2 ((hsymbols.filter _).map _)
  simp only [blocks, groups, Symbol.groups_eq_map_firsts, List.map_map, Function.comp_def, hlabels]
  exact Multiset.coe_eq_coe.2 (hfirsts.map _)

end Object

end GradedSymbols
