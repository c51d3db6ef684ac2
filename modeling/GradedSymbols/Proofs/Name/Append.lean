import GradedSymbols.Proofs.Name.Scan

/-!
# The check of one text behind another

The first character outside the charset in a text does not move when text is appended behind it, and
it moves by the bytes of the text when text over the charset is put in front of it. The check of two
texts, one behind the other, is therefore determined by the checks of the two: the report on the
first one stands, and otherwise the report on the second one is shifted.

## Main results

* `GradedSymbols.Name.firstOutside?_append` — the scan of two lists, one behind the other.
* `GradedSymbols.Name.check_append` — the check of two texts, one behind the other.
* `GradedSymbols.Name.check_append_eq_ok_iff`, `GradedSymbols.Name.check_append_of_error`,
  `GradedSymbols.Name.check_append_of_ok_of_error` — its three cases.
-/

namespace GradedSymbols

namespace Name

open String (utf8Len)

/-- A scan that starts later finds the same character, the position counted from there. -/
theorem firstOutside?_eq_map (start : Nat) (cs : List Char) :
    firstOutside? start cs = (firstOutside? 0 cs).map fun p => (p.1, start + p.2) := by
  induction cs generalizing start with
  | nil => rfl
  | cons c cs ih =>
    by_cases hc : Charset.contains c = true
    · simp only [firstOutside?, hc, ↓reduceIte]
      rw [ih (start + c.utf8Size), ih (0 + c.utf8Size), Option.map_map]
      congr 1
      funext p
      simp only [Function.comp_apply, Prod.mk.injEq, true_and]
      omega
    · simp [firstOutside?, hc]

/-- The scan of two lists finds what is found in the first one, and otherwise goes on with the
second one behind all bytes of the first one. -/
theorem firstOutside?_append (start : Nat) (cs ds : List Char) :
    firstOutside? start (cs ++ ds) =
      (firstOutside? start cs).or (firstOutside? (start + utf8Len cs) ds) := by
  induction cs generalizing start with
  | nil => simp [firstOutside?]
  | cons c cs ih =>
    by_cases hc : Charset.contains c = true
    · have hstart : start + c.utf8Size + utf8Len cs = start + utf8Len (c :: cs) := by
        rw [String.utf8Len_cons]
        omega
      simp only [List.cons_append, firstOutside?, hc, ↓reduceIte]
      rw [ih, hstart]
    · simp [firstOutside?, hc]

/-- **Two texts, one behind the other.** The report on the first text stands for the whole; if there
is none, the report on the second text does, shifted by the bytes of the first text. -/
theorem check_append (p s : String) :
    check (p ++ s) =
      match check p, check s with
      | .error e, _ => .error ⟨p ++ s, e.invalid, e.offset⟩
      | .ok (), .error e => .error ⟨p ++ s, e.invalid, p.utf8ByteSize + e.offset⟩
      | .ok (), .ok () => .ok () := by
  have hscan : firstOutside? 0 (p ++ s).toList =
      (firstOutside? 0 p.toList).or
        ((firstOutside? 0 s.toList).map fun q => (q.1, p.utf8ByteSize + q.2)) := by
    rw [String.toList_append, firstOutside?_append, firstOutside?_eq_map (0 + _), Nat.zero_add,
      String.utf8Len_toList]
  simp only [check, hscan]
  cases firstOutside? 0 p.toList with
  | some q => simp
  | none => cases firstOutside? 0 s.toList <;> simp

section Cases

variable {p s : String} {e : InvalidName}

theorem check_append_eq_ok_iff :
    check (p ++ s) = .ok () ↔ check p = .ok () ∧ check s = .ok () := by
  rw [check_append]
  cases check p <;> cases check s <;> simp

theorem check_append_of_error (h : check p = .error e) :
    check (p ++ s) = .error ⟨p ++ s, e.invalid, e.offset⟩ := by
  rw [check_append, h]

theorem check_append_of_ok_of_error (hp : check p = .ok ()) (hs : check s = .error e) :
    check (p ++ s) = .error ⟨p ++ s, e.invalid, p.utf8ByteSize + e.offset⟩ := by
  rw [check_append, hp, hs]

end Cases

end Name

end GradedSymbols
