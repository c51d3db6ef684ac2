import GradedSymbols.Name.Charset

/-!
# Symbol names

A text is a symbol name when all its characters are in the charset; the empty text is one. There
is no limit of length and no normalization. A text that is no name is reported with its first
character outside the charset and the number of UTF-8 bytes in front of that character
(`GradedSymbols.InvalidName`).

## Main definitions

* `GradedSymbols.InvalidName` — the report on a rejected text.
* `GradedSymbols.Name` — a text together with the fact that it is a name.
* `GradedSymbols.Name.check` — accepts a text or reports it.
* `GradedSymbols.Name.ofString` — the name spelled by a text, or the report on it.

## Main results

* `GradedSymbols.Name.firstOutside?_eq_none_iff` — nothing is found exactly in texts over the
  charset.
* `GradedSymbols.Name.check_eq_ok_iff` — the accepted texts are those over the charset.
* `GradedSymbols.Name.ofString_text`, `GradedSymbols.Name.text_of_ofString` — a name is spelled by
  its own text and by no other.
-/

namespace GradedSymbols

/-- The report on a text that is no symbol name: the text, its first character outside the charset,
and the number of UTF-8 bytes in front of that character. The type itself admits any three values. -/
structure InvalidName where
  name : String
  invalid : Char
  offset : Nat
deriving DecidableEq

/-- A symbol name: a text all of whose characters are in the charset. -/
structure Name where
  text : String
  contains_of_mem : ∀ c ∈ text.toList, Charset.contains c = true
deriving DecidableEq

namespace Name

/-! ### The first character outside the charset -/

/-- The first character outside the charset with its byte position, the list starting at the byte
position `start`. -/
def firstOutside? (start : Nat) : List Char → Option (Char × Nat)
  | [] => none
  | c :: cs => if Charset.contains c then firstOutside? (start + c.utf8Size) cs else some (c, start)

/-- Nothing is found exactly when all characters are in the charset. -/
theorem firstOutside?_eq_none_iff (start : Nat) : (cs : List Char) →
    (firstOutside? start cs = none ↔ ∀ c ∈ cs, Charset.contains c = true)
  | [] => by simp [firstOutside?]
  | c :: cs => by
    by_cases h : Charset.contains c = true
    · simp [firstOutside?, h, firstOutside?_eq_none_iff (start + c.utf8Size) cs]
    · simp [firstOutside?, h]

/-! ### Checking a text -/

/-- Accepts a text all of whose characters are in the charset, and reports the first character
outside it otherwise. -/
def check (text : String) : Except InvalidName Unit :=
  match firstOutside? 0 text.toList with
  | none => .ok ()
  | some (c, i) => .error ⟨text, c, i⟩

/-- The accepted texts are those over the charset. -/
theorem check_eq_ok_iff {text : String} :
    check text = .ok () ↔ ∀ c ∈ text.toList, Charset.contains c = true := by
  rw [← firstOutside?_eq_none_iff 0, check]
  split <;> simp_all

/-- The name spelled by a text, or the report on it. -/
def ofString (text : String) : Except InvalidName Name :=
  match h : check text with
  | .ok () => .ok ⟨text, check_eq_ok_iff.1 h⟩
  | .error e => .error e

theorem ofString_text (n : Name) : ofString n.text = .ok n := by
  unfold ofString
  split
  · rfl
  · next h => simp [check_eq_ok_iff.2 n.contains_of_mem] at h

theorem text_of_ofString {text : String} {n : Name} (h : ofString text = .ok n) :
    n.text = text := by
  unfold ofString at h
  split at h
  · injection h with h
    rw [← h]
  · cases h

/-- The texts that spell no name are reported as they are by the check. -/
theorem ofString_eq_error_iff {text : String} {e : InvalidName} :
    ofString text = .error e ↔ check text = .error e := by
  unfold ofString
  split <;> simp_all

/-- The number of UTF-8 bytes of a name. -/
def byteSize (n : Name) : Nat := n.text.utf8ByteSize

end Name

end GradedSymbols
