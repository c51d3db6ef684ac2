import GradedSymbols.Error
import GradedSymbols.Proofs.Text.Quoted
import Mathlib.Data.List.Infix

/-!
# Texts of errors determine the errors

An error has a message and a text for inspection. Both show all its fields, names and characters
between quotes, so that a name cannot pass for the rest of a text. Only the message on a wrong type
states a text as it is, namely what was expected, in front of the type that was found. It can still
be told where that text ends: the four types have names none of which is the end of another one.

## Main results

* `GradedSymbols.InvalidName.message_inj`, `GradedSymbols.InvalidName.oneLine_outline_inj` — the
  texts of reports.
* `GradedSymbols.TypeMismatch.message_inj`, `GradedSymbols.TypeMismatch.oneLine_outline_inj` — the
  texts of mismatches.
* `GradedSymbols.SymbolError.eq_iff_texts_eq` — either text determines an error.
-/

namespace GradedSymbols

/-! ### Reports -/

namespace InvalidName

variable {e e' : InvalidName}

/-- Fields in their places between fixed texts determine the report. -/
theorem eq_of_places {opening middle last closing : String}
    (h : opening ++ (Quoted.string e.name ++ (middle ++ (Quoted.char e.invalid ++
        (last ++ (Integer.format {} e.offset ++ closing))))) =
      opening ++ (Quoted.string e'.name ++ (middle ++ (Quoted.char e'.invalid ++
        (last ++ (Integer.format {} e'.offset ++ closing)))))) : e = e' := by
  -- Each quoted text says itself where it ends; the offset ends where the fixed text begins.
  rw [String.append_right_inj] at h
  obtain ⟨hname, h⟩ := Quoted.string_append_inj h
  rw [String.append_right_inj] at h
  obtain ⟨hinvalid, h⟩ := Quoted.char_append_inj h
  rw [String.append_right_inj, String.append_left_inj, Integer.format_natCast_inj] at h
  cases e
  cases e'
  cases hname
  cases hinvalid
  cases h
  rfl

theorem message_eq (e : InvalidName) : e.message =
    "invalid symbol name " ++ (Quoted.string e.name ++ (": " ++ (Quoted.char e.invalid ++
      (" at byte " ++ (Integer.format {} e.offset ++
        " is not an ASCII letter, digit or underscore"))))) := by
  unfold message
  simp only [String.append_assoc]

theorem message_inj (h : e.message = e'.message) : e = e' := by
  rw [message_eq, message_eq] at h
  exact eq_of_places h

theorem oneLine_outline (e : InvalidName) (style : Style) : (e.outline style).oneLine =
    "InvalidNameError \x7b name: " ++ (Quoted.string e.name ++ (", invalid: " ++
      (Quoted.char e.invalid ++ (", offset: " ++
        (Integer.format style e.offset ++ " \x7d"))))) := by
  simp [outline, Outline.oneLine, Outline.field, ← String.toList_inj]

theorem oneLine_outline_inj (h : (e.outline {}).oneLine = (e'.outline {}).oneLine) : e = e' := by
  rw [oneLine_outline, oneLine_outline] at h
  exact eq_of_places h

end InvalidName

/-! ### Mismatches -/

namespace TypeTag

theorem name_inj {t u : TypeTag} (h : t.name = u.name) : t = u := by
  rcases t with (_ | _) | _ | _ <;> rcases u with (_ | _) | _ | _ <;>
    first | rfl | exact absurd h (by decide)

/-- The end of a message from the comma on. -/
def ending (t : TypeTag) : String := ", found " ++ t.name

/-- No ending is the end of another one. -/
theorem eq_of_ending_suffix {t u : TypeTag} (h : t.ending.toList <:+ u.ending.toList) : t = u := by
  rcases t with (_ | _) | _ | _ <;> rcases u with (_ | _) | _ | _ <;>
    first | rfl | exact absurd h (by decide)

theorem append_ending_inj {a b : String} {t u : TypeTag} (h : a ++ t.ending = b ++ u.ending) :
    a = b ∧ t = u := by
  have hlist : a.toList ++ t.ending.toList = b.toList ++ u.ending.toList := by
    rw [← String.toList_append, h, String.toList_append]
  have htu : t = u := by
    rcases List.suffix_or_suffix_of_suffix (List.suffix_append a.toList t.ending.toList)
      (hlist ▸ List.suffix_append b.toList u.ending.toList) with hsuffix | hsuffix
    · exact eq_of_ending_suffix hsuffix
    · exact (eq_of_ending_suffix hsuffix).symm
  subst htu
  exact ⟨(String.append_left_inj _).1 h, rfl⟩

end TypeTag

namespace TypeMismatch

variable {e e' : TypeMismatch}

/-- Mismatches are equal if what was expected and the names of the types that were found are. -/
theorem unexpected_eq_iff {x y : String} {o p : Object} :
    unexpected x o = unexpected y p ↔ x = y ∧ o.tag.name = p.tag.name := by
  simp only [unexpected, TypeMismatch.mk.injEq]
  exact and_congr_right fun _ => ⟨congrArg _, TypeTag.name_inj⟩

theorem message_eq (e : TypeMismatch) :
    e.message = "expected " ++ (e.expected ++ e.found.ending) := by
  rw [message, TypeTag.ending, String.append_assoc, String.append_assoc]

theorem message_inj (h : e.message = e'.message) : e = e' := by
  obtain ⟨x, t⟩ := e
  obtain ⟨y, u⟩ := e'
  rw [message_eq, message_eq, String.append_right_inj] at h
  obtain ⟨rfl, rfl⟩ := TypeTag.append_ending_inj h
  rfl

theorem oneLine_outline (e : TypeMismatch) : e.outline.oneLine =
    "SymbolicTypeError \x7b expected: " ++ (Quoted.string e.expected ++ (", found: " ++
      (Quoted.string e.found.name ++ " \x7d"))) := by
  simp [outline, Outline.oneLine, Outline.field, ← String.toList_inj]

theorem oneLine_outline_inj (h : e.outline.oneLine = e'.outline.oneLine) : e = e' := by
  obtain ⟨x, t⟩ := e
  obtain ⟨y, u⟩ := e'
  rw [oneLine_outline, oneLine_outline, String.append_right_inj] at h
  obtain ⟨rfl, h⟩ := Quoted.string_append_inj h
  rw [String.append_right_inj] at h
  obtain ⟨hname, -⟩ := Quoted.string_append_inj h
  cases TypeTag.name_inj hname
  rfl

end TypeMismatch

/-! ### Either error -/

namespace SymbolError

/-- Messages of the two cases begin with different characters. -/
theorem message_ne (e : InvalidName) (e' : TypeMismatch) : e.message ≠ e'.message := by
  have hstart : ∀ s t : String, "invalid symbol name " ++ s ≠ "expected " ++ t := fun s t => by
    simp [← String.toList_inj]
  rw [InvalidName.message_eq, TypeMismatch.message_eq]
  exact hstart _ _

theorem message_inj {a b : SymbolError} (h : a.message = b.message) : a = b := by
  cases a with
  | invalidName e =>
    cases b with
    | invalidName e' => rw [InvalidName.message_inj h]
    | typeMismatch e' => exact absurd h (message_ne e e')
  | typeMismatch e =>
    cases b with
    | invalidName e' => exact absurd h.symm (message_ne e' e)
    | typeMismatch e' => rw [TypeMismatch.message_inj h]

theorem inspect_invalidName (e : InvalidName) :
    (invalidName e).inspect {} = "InvalidName(" ++ ((e.outline {}).oneLine ++ ")") := by
  rw [inspect, outline, Outline.render, Outline.oneLine, ← String.append_assoc]
  rfl

theorem inspect_typeMismatch (e : TypeMismatch) :
    (typeMismatch e).inspect {} = "Type(" ++ (e.outline.oneLine ++ ")") := by
  rw [inspect, outline, Outline.render, Outline.oneLine, ← String.append_assoc]
  rfl

/-- Texts for inspection of the two cases begin with different characters. -/
theorem inspect_ne (e : InvalidName) (e' : TypeMismatch) :
    (invalidName e).inspect {} ≠ (typeMismatch e').inspect {} := by
  have hstart : ∀ s t : String, "InvalidName(" ++ s ≠ "Type(" ++ t := fun s t => by
    simp [← String.toList_inj]
  rw [inspect_invalidName, inspect_typeMismatch]
  exact hstart _ _

theorem inspect_inj {a b : SymbolError} (h : a.inspect {} = b.inspect {}) : a = b := by
  cases a with
  | invalidName e =>
    cases b with
    | invalidName e' =>
      rw [inspect_invalidName, inspect_invalidName, String.append_right_inj,
        String.append_left_inj] at h
      rw [InvalidName.oneLine_outline_inj h]
    | typeMismatch e' => exact absurd h (inspect_ne e e')
  | typeMismatch e =>
    cases b with
    | invalidName e' => exact absurd h.symm (inspect_ne e' e)
    | typeMismatch e' =>
      rw [inspect_typeMismatch, inspect_typeMismatch, String.append_right_inj,
        String.append_left_inj] at h
      rw [TypeMismatch.oneLine_outline_inj h]

/-- **Texts of errors are faithful.** Two errors, of either case and with any fields, are equal
exactly if their messages are, and exactly if their texts for inspection are. The mismatches that
are made of an object are equal if the expected texts and the names of the types that were found
are. -/
theorem eq_iff_texts_eq (a b : SymbolError) :
    (a = b ↔ a.message = b.message) ∧ (a = b ↔ a.inspect {} = b.inspect {}) ∧
    ∀ (x y : String) (o p : Object),
      typeMismatch (.unexpected x o) = typeMismatch (.unexpected y p) ↔
        x = y ∧ o.tag.name = p.tag.name := by
  refine ⟨⟨congrArg _, message_inj⟩, ⟨congrArg _, inspect_inj⟩, fun x y o p => ?_⟩
  rw [typeMismatch.injEq, TypeMismatch.unexpected_eq_iff]

end SymbolError

end GradedSymbols
