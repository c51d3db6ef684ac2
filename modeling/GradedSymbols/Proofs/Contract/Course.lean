import GradedSymbols.Contract.Trial

/-!
# The course of a trial

A trial ends with a value or with a violation, after some calls of factories. How it ends and how
many calls it makes do not depend on the calls that were counted before (`Trial.Ends`), so that the
course of a trial is put together from the courses of its parts. A check that repeats a round for
the elements of a list passes after all rounds, or ends in the first round that is refused.

## Main definitions

* `GradedSymbols.Trial.Ends` — how a trial ends, and after how many calls.

## Main results

* `GradedSymbols.Trial.Ends.bind`, `GradedSymbols.Trial.Ends.bind_error` — the course of two parts.
* `GradedSymbols.Trial.ends_forM_of_forall`, `GradedSymbols.Trial.ends_forM_of_getElem?` — the
  course of a list of rounds.
* `GradedSymbols.Trial.verdict_forM` — the verdict of a check, by a property of its rounds.
-/

namespace GradedSymbols

namespace Trial

variable {α β : Type}

/-- A trial *ends* with `r` after `k` calls, whatever was counted before. -/
def Ends (t : Trial α) (r : Except Violation α) (k : Nat) : Prop := ∀ n, t.run n = (r, n + k)

/-! ### Parts of a trial -/

theorem ends_pure (a : α) : Ends (pure a : Trial α) (.ok a) 0 := fun _ => rfl

theorem ends_throw (v : Violation) : Ends (throw v : Trial α) (.error v) 0 := fun _ => rfl

/-- The calls of a part that ends with a value and of the part after it add up. -/
theorem Ends.bind {t : Trial α} {f : α → Trial β} {a : α} {r : Except Violation β} {j k : Nat}
    (ht : t.Ends (.ok a) j) (hf : (f a).Ends r k) : (t >>= f).Ends r (j + k) := by
  intro n
  have hrun : (t >>= f).run n = (f a).run (n + j) := by
    change (ExceptT.bindCont f (t.run n).1 : StateM Nat _) (t.run n).2 = _
    rw [ht n]
    rfl
  rw [hrun, hf, Nat.add_assoc]

theorem Ends.bind_error {t : Trial α} (f : α → Trial β) {v : Violation} {k : Nat}
    (ht : t.Ends (.error v) k) : (t >>= f).Ends (.error v) k := by
  intro n
  change (ExceptT.bindCont f (t.run n).1 : StateM Nat _) (t.run n).2 = _
  rw [ht n]
  rfl

theorem Ends.eq {t t' : Trial α} {r : Except Violation α} {k : Nat} (h : t.Ends r k)
    (h' : t'.Ends r k) : t = t' :=
  funext fun n => (h n).trans (h' n).symm

/-! ### Calls and assertions -/

variable {f : Factory} {text : String}

theorem ends_call (f : Factory) (text : String) : (call f text).Ends (.ok (f text)) 1 :=
  fun _ => rfl

theorem ends_built_of_ok {s : Symbol} (h : f text = .ok s) : (built f text).Ends (.ok s) 1 := by
  refine (ends_call f text).bind (k := 0) ?_
  rw [h]
  exact ends_pure s

theorem ends_built_of_error {e : InvalidName} (h : f text = .error e) :
    (built f text).Ends (.error (.notBuilt e)) 1 := by
  refine (ends_call f text).bind (k := 0) ?_
  rw [h]
  exact ends_throw _

theorem ends_rejected_of_error {e : InvalidName} (h : f text = .error e) :
    (rejected f text).Ends (.ok e) 1 := by
  refine (ends_call f text).bind (k := 0) ?_
  rw [h]
  exact ends_pure e

theorem ends_rejected_of_ok {s : Symbol} (h : f text = .ok s) :
    (rejected f text).Ends (.error (.notRejected s)) 1 := by
  refine (ends_call f text).bind (k := 0) ?_
  rw [h]
  exact ends_throw _

theorem ends_equal_of_eq [DecidableEq α] (write : α → String) {a b : α} (h : a = b) :
    (equal write a b).Ends (.ok ()) 0 := by
  rw [equal, if_pos h]
  exact ends_pure ()

theorem ends_equal_of_ne [DecidableEq α] (write : α → String) {a b : α} (h : a ≠ b) :
    (equal write a b).Ends (.error (.differ (write a) (write b))) 0 := by
  rw [equal, if_neg h]
  exact ends_throw _

theorem ends_holds_of_eq_true (condition : Condition) {b : Bool} (h : b = true) :
    (holds condition b).Ends (.ok ()) 0 := by
  rw [holds, if_pos h]
  exact ends_pure ()

theorem ends_holds_of_eq_false (condition : Condition) {b : Bool} (h : b = false) :
    (holds condition b).Ends (.error (.fails condition)) 0 := by
  rw [holds, if_neg (by simp [h])]
  exact ends_throw _

/-! ### Rounds -/

section Rounds

variable {round : α → Trial Unit} {k : Nat}

theorem ends_forM_of_forall (l : List α) (h : ∀ x ∈ l, (round x).Ends (.ok ()) k) :
    (l.forM round).Ends (.ok ()) (l.length * k) := by
  induction l with
  | nil =>
    rw [List.length_nil, Nat.zero_mul]
    exact ends_pure ()
  | cons x l ih =>
    have hrest := ih fun y hy => h y (List.mem_cons_of_mem _ hy)
    rw [List.length_cons, Nat.succ_mul, Nat.add_comm]
    exact (h x List.mem_cons_self).bind hrest

theorem ends_forM_of_getElem? {v : Violation} {calls : Nat} (l : List α) {i : Nat} {x : α}
    (hx : l[i]? = some x) (hround : (round x).Ends (.error v) calls)
    (hbefore : ∀ j < i, ∀ y, l[j]? = some y → (round y).Ends (.ok ()) k) :
    (l.forM round).Ends (.error v) (i * k + calls) := by
  induction l generalizing i with
  | nil => cases hx
  | cons y l ih =>
    cases i with
    | zero =>
      obtain rfl := Option.some.inj hx
      rw [Nat.zero_mul, Nat.zero_add]
      exact hround.bind_error _
    | succ i =>
      have hy : (round y).Ends (.ok ()) k := hbefore 0 (Nat.succ_pos i) y rfl
      have hrest := ih hx fun j hj => hbefore (j + 1) (Nat.succ_lt_succ hj)
      rw [Nat.succ_mul, Nat.add_comm (i * k), Nat.add_assoc]
      exact hy.bind hrest

end Rounds

/-! ### Verdicts -/

theorem forall_or_exists_first (p : α → Prop) (l : List α) :
    (∀ x ∈ l, p x) ∨ ∃ (i : Nat) (x : α), l[i]? = some x ∧ ¬p x ∧
      ∀ j < i, ∀ y, l[j]? = some y → p y := by
  induction l with
  | nil => exact Or.inl (by simp)
  | cons x l ih =>
    by_cases hx : p x
    · rcases ih with hall | ⟨i, y, hy, hpy, hbefore⟩
      · exact Or.inl (List.forall_mem_cons.2 ⟨hx, hall⟩)
      · refine Or.inr ⟨i + 1, y, hy, hpy, fun j hj z hz => ?_⟩
        cases j with
        | zero => exact Option.some.inj hz ▸ hx
        | succ j => exact hbefore j (Nat.lt_of_succ_lt_succ hj) z hz
    · exact Or.inr ⟨0, x, rfl, hx, fun j hj => absurd hj (Nat.not_lt_zero j)⟩

theorem Ends.verdict_of_ok {t : Trial Unit} {k : Nat} (h : t.Ends (.ok ()) k) :
    t.verdict = ⟨none, k⟩ := by
  rw [verdict, h 0, Nat.zero_add]

theorem Ends.verdict_of_error {t : Trial Unit} {v : Violation} {k : Nat}
    (h : t.Ends (.error v) k) : t.verdict = ⟨some v, k⟩ := by
  rw [verdict, h 0, Nat.zero_add]

/-- **Verdicts of checks.** Let the rounds with a property `p` pass after `k` calls, and let a round
without it be refused with the violation and the calls that `refusal` gives. A check passes exactly
if all its rounds have the property, and then makes `k` calls for each; otherwise it ends in the
first round that has not. Any violation is thus the one of a round. -/
theorem verdict_forM {round : α → Trial Unit} {k : Nat} (p : α → Prop)
    (refusal : α → Violation × Nat) (hpass : ∀ x, p x → (round x).Ends (.ok ()) k)
    (hrefuse : ∀ x, ¬p x → (round x).Ends (.error (refusal x).1) (refusal x).2) (l : List α) :
    (Trial.verdict (l.forM round) = ⟨none, l.length * k⟩ ↔ ∀ x ∈ l, p x) ∧
    ((Trial.verdict (l.forM round)).violation? = none ↔ ∀ x ∈ l, p x) ∧
    (∀ (i : Nat) (x : α), l[i]? = some x → ¬p x → (∀ j < i, ∀ y, l[j]? = some y → p y) →
      Trial.verdict (l.forM round) = ⟨some (refusal x).1, i * k + (refusal x).2⟩) ∧
    ∀ v, (Trial.verdict (l.forM round)).violation? = some v → ∃ x ∈ l, v = (refusal x).1 := by
  have hall : (∀ x ∈ l, p x) → Trial.verdict (l.forM round) = ⟨none, l.length * k⟩ := fun h =>
    (ends_forM_of_forall l fun x hx => hpass x (h x hx)).verdict_of_ok
  have hfirst : ∀ (i : Nat) (x : α), l[i]? = some x → ¬p x →
      (∀ j < i, ∀ y, l[j]? = some y → p y) →
      Trial.verdict (l.forM round) = ⟨some (refusal x).1, i * k + (refusal x).2⟩ :=
    fun i x hx hpx hbefore => Ends.verdict_of_error <|
      ends_forM_of_getElem? l hx (hrefuse x hpx) fun j hj y hy => hpass y (hbefore j hj y hy)
  rcases forall_or_exists_first p l with hp | ⟨i, x, hx, hpx, hbefore⟩
  · rw [hall hp]
    exact ⟨iff_of_true rfl hp, iff_of_true rfl hp, fun i x hx hpx =>
      absurd (hp x (List.mem_of_getElem? hx)) hpx, fun v h => by cases h⟩
  · have hp : ¬∀ x ∈ l, p x := fun hp => hpx (hp x (List.mem_of_getElem? hx))
    refine ⟨?_, ?_, hfirst, fun v h => ?_⟩
    · rw [hfirst i x hx hpx hbefore]
      exact iff_of_false (by simp) hp
    · rw [hfirst i x hx hpx hbefore]
      exact iff_of_false (by simp) hp
    · rw [hfirst i x hx hpx hbefore] at h
      exact ⟨x, List.mem_of_getElem? hx, (Option.some.inj h).symm⟩

end Trial

end GradedSymbols
