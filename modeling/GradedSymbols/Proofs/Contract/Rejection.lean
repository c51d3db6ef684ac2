import GradedSymbols.Contract.Distortion
import GradedSymbols.Proofs.Contract.Course
import GradedSymbols.Proofs.Contract.Names
import GradedSymbols.Proofs.Name.Reports

/-!
# The check of rejected texts

A round of the check of rejected texts asks a factory for the report on a text, compares the texts,
and looks at the character that stands at the offset of the report. An offset counts the bytes of
the text that the report was made on, and in another text it may lie inside a character or behind
the end. The comparison of the texts comes first, and the reports of a factory that makes only
genuine ones have the offset of their own text, so that after the comparison the character of the
report is found where it has to be. This file describes by that what a round asks of a factory, and
with it the verdict and the number of calls of the whole check.

## Main definitions

* `GradedSymbols.Factory.Truthful` — factories all of whose reports are genuine.
* `GradedSymbols.Contract.ReportsOn` — what a round asks of a factory and a text.
* `GradedSymbols.Contract.rejectionRefusal` — the violation that refuses a round.

## Main results

* `GradedSymbols.Contract.charsFrom?_offset` — a report on a text finds its character there.
* `GradedSymbols.Contract.ends_rejectionRound_of_reportsOn`,
  `GradedSymbols.Contract.ends_rejectionRound_of_not_reportsOn` — the course of a round.
* `GradedSymbols.Contract.rejection_verdict` — the verdict of the check.
-/

namespace GradedSymbols

open String (utf8Len)

/-! ### Truthful factories -/

/-- A factory is *truthful* when it makes genuine reports only. A report may be the one on another
text. -/
def Factory.Truthful (f : Factory) : Prop := ∀ text e, f text = .error e → e.Genuine

theorem Factory.truthful_distorted (kind : Kind) (ds : List Distortion) :
    (distorted kind ds).Truthful :=
  fun _ _ h => .build (Distortion.applyAll ds) h

namespace Contract

open Trial

/-! ### The character at an offset -/

theorem charsFrom?_utf8Len (front back : List Char) :
    charsFrom? (utf8Len front) (front ++ back) = some back := by
  induction front with
  | nil => simp [charsFrom?]
  | cons c front ih =>
    have hpos := c.utf8Size_pos
    obtain ⟨n, hn⟩ : ∃ n, utf8Len front + c.utf8Size = n + 1 :=
      Nat.exists_eq_succ_of_ne_zero (by omega)
    have hrest : n + 1 - c.utf8Size = utf8Len front := by omega
    rw [String.utf8Len_cons, hn, List.cons_append, charsFrom?, if_pos (by omega), hrest, ih]

/-- In the text that a report is made on, the character of the report begins at its offset. -/
theorem charsFrom?_offset {text : String} {e : InvalidName} (h : Name.check text = .error e) :
    ∃ back, charsFrom? e.offset text.toList = some (e.invalid :: back) := by
  obtain ⟨-, front, back, rfl, -, -, hoffset⟩ := Name.check_eq_error_iff.1 h
  rw [hoffset, String.toList_ofList]
  exact ⟨back, charsFrom?_utf8Len front _⟩

/-! ### A round -/

/-- What a round of the check of rejected texts asks of a factory and a text: a report that holds
the text. -/
def ReportsOn (f : Factory) (text : String) : Prop := ∃ e, f text = .error e ∧ e.name = text

/-- The violation that refuses a round of the check of rejected texts: a symbol is built, or the
report is on another text. -/
def rejectionRefusal (f : Factory) (text : String) : Violation :=
  match f text with
  | .ok s => .notRejected s
  | .error e => .differ (Quoted.string e.name) (Quoted.string text)

section Round

variable {f : Factory} {text : String}

theorem reportsOn_iff (hf : f.Truthful) :
    ReportsOn f text ↔ ∃ e, Name.check text = .error e ∧ f text = .error e := by
  constructor
  · rintro ⟨e, he, rfl⟩
    exact ⟨e, (hf _ e he).check_name, he⟩
  · rintro ⟨e, hcheck, he⟩
    exact ⟨e, he, (Name.check_eq_error_iff.1 hcheck).1⟩

theorem not_reportsOn_iff : ¬ReportsOn f text ↔
    (∃ s, f text = .ok s) ∨ ∃ e, f text = .error e ∧ e.name ≠ text := by
  unfold ReportsOn
  cases f text <;> simp

theorem ends_rejectionRound_of_reportsOn (hf : f.Truthful) (h : ReportsOn f text) :
    (rejectionRound f text).Ends (.ok ()) 1 := by
  obtain ⟨e, hcheck, he⟩ := (reportsOn_iff hf).1 h
  obtain ⟨back, hback⟩ := charsFrom?_offset hcheck
  refine (ends_rejected_of_error he).bind (k := 0) ?_
  refine (ends_equal_of_eq _ (Name.check_eq_error_iff.1 hcheck).1).bind (k := 0) ?_
  rw [hback]
  exact ends_holds_of_eq_true _ (by simp)

/-- A round is refused before the offset of a report is used. -/
theorem ends_rejectionRound_of_not_reportsOn (h : ¬ReportsOn f text) :
    (rejectionRound f text).Ends (.error (rejectionRefusal f text)) 1 := by
  unfold rejectionRefusal
  rcases not_reportsOn_iff.1 h with ⟨s, hs⟩ | ⟨e, he, hname⟩
  · rw [hs]
    exact (ends_rejected_of_ok hs).bind_error _
  · rw [he]
    refine (ends_rejected_of_error he).bind (k := 0) ?_
    exact (ends_equal_of_ne _ hname).bind_error _

end Round

/-! ### The check -/

section Check

variable {f : Factory}

theorem rejection_verdict_of_truthful (hf : f.Truthful) :
    ((rejection f).verdict = ⟨none, 7⟩ ↔ ∀ text ∈ badNames, ReportsOn f text) ∧
    ((rejection f).verdict.violation? = none ↔ ∀ text ∈ badNames, ReportsOn f text) ∧
    (∀ (i : Nat) (text : String), badNames[i]? = some text → ¬ReportsOn f text →
      (∀ j < i, ∀ earlier, badNames[j]? = some earlier → ReportsOn f earlier) →
      (rejection f).verdict = ⟨some (rejectionRefusal f text), i + 1⟩) ∧
    ∀ v, (rejection f).verdict.violation? = some v →
      ∃ text ∈ badNames, v = rejectionRefusal f text := by
  have hverdict := verdict_forM (ReportsOn f) (fun text => (rejectionRefusal f text, 1))
    (fun _ => ends_rejectionRound_of_reportsOn hf)
    (fun _ => ends_rejectionRound_of_not_reportsOn) badNames
  simp only [Nat.mul_one] at hverdict
  exact hverdict

/-- The check ends with a symbol that should not have been built, or with two texts that differ: the
offset of a report is never in the way. -/
theorem violation_cases (hf : f.Truthful) {v : Violation}
    (h : (rejection f).verdict.violation? = some v) :
    (∃ s, v = .notRejected s) ∨ ∃ left right, v = .differ left right := by
  obtain ⟨text, -, rfl⟩ := (rejection_verdict_of_truthful hf).2.2.2 v h
  unfold rejectionRefusal
  cases f text with
  | ok s => exact Or.inl ⟨s, rfl⟩
  | error e => exact Or.inr ⟨_, _, rfl⟩

theorem rejection_honest (kind : Kind) : (rejection (.honest kind)).verdict = ⟨none, 7⟩ := by
  have htruthful : (Factory.honest kind).Truthful := Factory.truthful_distorted kind []
  refine (rejection_verdict_of_truthful htruthful).1.2 fun text htext => ?_
  obtain ⟨e, he⟩ := exists_check_of_mem_badNames htext
  exact (reportsOn_iff htruthful).2 ⟨e, he, Symbol.build_eq_error_iff.2 he⟩

end Check

/-- **The verdict of the check of rejected texts.**

* The check of the text in a genuine report makes the report again, so that two genuine reports are
  equal exactly if their texts are.
* None of the seven texts is a name. Factories that distort texts are truthful, and honest factories
  pass.
* A truthful factory passes exactly if it makes the report of the check on every text, and then it
  is called seven times.
* Otherwise it is refused with the first text from which it builds a symbol, or for which it makes
  the report on another text: after one call for each text up to that one.
* No violation is an offset that is no boundary of characters, and none is a condition: in no report
  of a truthful factory another character than the reported one is found at the offset. -/
theorem rejection_verdict :
    (∀ e : InvalidName, e.Genuine → Name.check e.name = .error e) ∧
    (∀ e e' : InvalidName, e.Genuine → e'.Genuine → (e = e' ↔ e.name = e'.name)) ∧
    (badNames.length = 7 ∧ ∀ text ∈ badNames, ∃ e, Name.check text = .error e) ∧
    (∀ kind ds, (Factory.distorted kind ds).Truthful) ∧
    (∀ kind, (rejection (.honest kind)).verdict = ⟨none, 7⟩) ∧
    ∀ f : Factory, f.Truthful →
      ((rejection f).verdict = ⟨none, 7⟩ ↔
        ∀ text ∈ badNames, ∃ e, Name.check text = .error e ∧ f text = .error e) ∧
      ((rejection f).verdict.violation? = none ↔
        ∀ text ∈ badNames, ∃ e, Name.check text = .error e ∧ f text = .error e) ∧
      (∀ (i : Nat) (text : String), badNames[i]? = some text →
        (∃ s, f text = .ok s) ∨ (∃ e, f text = .error e ∧ e.name ≠ text) →
        (∀ j < i, ∀ earlier, badNames[j]? = some earlier →
          ∃ e, f earlier = .error e ∧ e.name = earlier) →
        (rejection f).verdict = ⟨some (rejectionRefusal f text), i + 1⟩) ∧
      (∀ text offset, (rejection f).verdict.violation? ≠ some (.offBoundary text offset)) ∧
      ∀ condition, (rejection f).verdict.violation? ≠ some (.fails condition) := by
  refine ⟨fun _ => InvalidName.Genuine.check_name, fun _ _ => InvalidName.Genuine.eq_iff,
    ⟨rfl, fun _ => exists_check_of_mem_badNames⟩, Factory.truthful_distorted, rejection_honest,
    fun f hf => ?_⟩
  obtain ⟨hpass, hnone, hfirst, -⟩ := rejection_verdict_of_truthful hf
  simp only [reportsOn_iff hf] at hpass hnone
  refine ⟨hpass, hnone, fun i text htext hnot hbefore => ?_, fun text offset h => ?_, fun c h => ?_⟩
  · exact hfirst i text htext (not_reportsOn_iff.2 hnot) hbefore
  · rcases violation_cases hf h with ⟨_, hv⟩ | ⟨_, _, hv⟩ <;> cases hv
  · rcases violation_cases hf h with ⟨_, hv⟩ | ⟨_, _, hv⟩ <;> cases hv

/-- A factory that appends a character reports each text as another one, and is refused after one
call. -/
theorem rejection_verdict_appended :
    (rejection (.distorted .linear [.append "\u00e9"])).verdict =
      ⟨some (.differ "\x22a b\u00e9\x22" "\x22a b\x22"), 1⟩ := by
  have hother : Factory.distorted .linear [.append "\u00e9"] "a b" =
      .error ⟨"a b\u00e9", ' ', 1⟩ := by decide +kernel
  have hrefusal : rejectionRefusal (.distorted .linear [.append "\u00e9"]) "a b" =
      .differ "\x22a b\u00e9\x22" "\x22a b\x22" := by decide +kernel
  rw [← hrefusal]
  exact (rejection_verdict.2.2.2.2.2 _ (Factory.truthful_distorted _ _)).2.2.1 0 "a b" rfl
    (Or.inr ⟨_, hother, by decide⟩) (by simp)

end Contract

end GradedSymbols
