import GradedSymbols.Proofs.Name.Scan

/-!
# Genuine reports

A report holds a text, a character and an offset, and the type admits any three of them. Reports
are made by the check of a text, and by the constructions of symbols, which may change the text
first; they can be copied, and in no other way does one come about. The three values of such a
report belong together: the check of its text makes the same report again. A genuine report is
therefore determined by its text, also where it is handed on as the report on another one.

## Main definitions

* `GradedSymbols.InvalidName.copy` — a copy of a report.
* `GradedSymbols.InvalidName.Genuine` — reports that are made by checks and constructions.

## Main results

* `GradedSymbols.InvalidName.Genuine.check_name` — the check of its text makes a genuine report
  again.
* `GradedSymbols.InvalidName.Genuine.eq_iff` — a genuine report is determined by its text.
-/

namespace GradedSymbols

theorem Symbol.build_eq_error_iff {kind : Kind} {text : String} {e : InvalidName} :
    build kind text = .error e ↔ Name.check text = .error e := by
  rw [← Name.ofString_eq_error_iff, build]
  cases Name.ofString text <;> simp [Except.map]

namespace InvalidName

/-- A copy of a report, field by field. -/
def copy (e : InvalidName) : InvalidName := ⟨e.name, e.invalid, e.offset⟩

/-- A report is *genuine* when it is made by the check of a text or by the construction of a symbol
from a text that was changed first, or is a copy of a genuine report. -/
inductive Genuine : InvalidName → Prop
  | check {text : String} {e : InvalidName} (h : Name.check text = .error e) : Genuine e
  | build {kind : Kind} {text : String} {e : InvalidName} (change : String → String)
      (h : Symbol.build kind (change text) = .error e) : Genuine e
  | copy {e : InvalidName} (h : Genuine e) : Genuine e.copy

/-- A report that is made by the check of a text is made again by the check of the text in it. -/
theorem check_name_of_check {text : String} {e : InvalidName} (h : Name.check text = .error e) :
    Name.check e.name = .error e := by
  obtain ⟨rfl, -⟩ := Name.check_eq_error_iff.1 h
  exact h

/-- **Provenance.** The fields of a genuine report belong together: the check of its text makes the
report again. -/
theorem Genuine.check_name {e : InvalidName} (h : e.Genuine) : Name.check e.name = .error e := by
  induction h with
  | check h => exact check_name_of_check h
  | build change h => exact check_name_of_check (Symbol.build_eq_error_iff.1 h)
  | copy _ ih => exact ih

/-- A genuine report is determined by its text. -/
theorem Genuine.eq_iff {e e' : InvalidName} (h : e.Genuine) (h' : e'.Genuine) :
    e = e' ↔ e.name = e'.name := by
  constructor
  · rintro rfl
    rfl
  · intro hname
    have hcheck := h.check_name
    rw [hname, h'.check_name] at hcheck
    exact (Except.error.inj hcheck).symm

end InvalidName

end GradedSymbols
