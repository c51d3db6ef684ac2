import GradedSymbols.Proofs.Text.Digits
import GradedSymbols.Text.Quoted
import Mathlib.Tactic.SplitIfs

/-!
# Quoted texts end where they should

A quoted text may hold quotes, backslashes and text that looks like an escape. Still the characters
that are written for one character can be read back from the front of any text that begins with
them, and none of them begins with the enclosing quote. A quoted text therefore ends at its own last
quote, whatever follows it: the text between the quotes and the rest are determined.

## Main definitions

* `GradedSymbols.Quoted.IsQuote` — the two quotes that enclose texts and characters.
* `GradedSymbols.Quoted.readEscape?`, `GradedSymbols.Quoted.readChar?` — the character that the
  front of a quoted text stands for, and the rest.

## Main results

* `GradedSymbols.Quoted.readChar?_escape` — every character is read back.
* `GradedSymbols.Quoted.enclose_append_inj` — a quoted text and what follows it are determined.
* `GradedSymbols.Quoted.string_append_inj`, `GradedSymbols.Quoted.char_append_inj` — the same for
  the two ways of quoting.
-/

namespace GradedSymbols

namespace Quoted

/-- The quotes. -/
def IsQuote (c : Char) : Prop := c = doubleQuote ∨ c = singleQuote

/-! ### Reading one character -/

/-- The character that an escape stands for and the text behind it, after the backslash. -/
def readEscape? : List Char → Option (Char × List Char)
  | [] => none
  | c :: cs =>
    if c = '0' then some ('\x00', cs)
    else if c = 't' then some ('\t', cs)
    else if c = 'n' then some ('\n', cs)
    else if c = 'r' then some ('\r', cs)
    else if c = 'u' then
      let code := cs.drop 1
      some (Char.ofNat (Digits.read 16 (code.takeWhile (· ≠ '\x7d'))),
        (code.dropWhile (· ≠ '\x7d')).drop 1)
    else some (c, cs)

/-- The character that the front of a text stands for inside the quotes `quote`, and the rest of the
text; there is none at the enclosing quote. -/
def readChar? (quote : Char) : List Char → Option (Char × List Char)
  | [] => none
  | c :: cs =>
    if c = quote then none else if c = backslash then readEscape? cs else some (c, cs)

section Quote

variable {quote : Char}

theorem IsQuote.ne_backslash (h : IsQuote quote) : backslash ≠ quote := by
  rcases h with rfl | rfl <;> decide

theorem readChar?_quote (cs : List Char) : readChar? quote (quote :: cs) = none :=
  if_pos rfl

theorem readChar?_backslash (h : IsQuote quote) (cs : List Char) :
    readChar? quote (backslash :: cs) = readEscape? cs := by
  rw [readChar?, if_neg h.ne_backslash, if_pos rfl]

/-! ### Reading back -/

theorem readEscape?_of_shortEscape? {c letter : Char} (h : shortEscape? c = some letter)
    (cs : List Char) : readEscape? (letter :: cs) = some (c, cs) := by
  unfold shortEscape? at h
  split_ifs at h with h0 ht hn hr <;> cases h
  · rw [h0]; rfl
  · rw [ht]; rfl
  · rw [hn]; rfl
  · rw [hr]; rfl

theorem readEscape?_self {c : Char} (h : c = backslash ∨ IsQuote c) (cs : List Char) :
    readEscape? (c :: cs) = some (c, cs) := by
  rcases h with rfl | rfl | rfl <;> rfl

theorem readEscape?_code (c : Char) (cs : List Char) :
    readEscape? ('u' :: '\x7b' :: hexDigits c ++ '\x7d' :: cs) = some (c, cs) := by
  have hdigit : ∀ d ∈ hexDigits c, decide (d ≠ '\x7d') = true := by
    intro d hd
    obtain ⟨k, hk, rfl⟩ := Digits.exists_digitChar_of_mem_toDigits (by decide) hd
    have hbrace : ∀ j < 16, decide (Nat.digitChar j ≠ '\x7d') = true := by decide
    exact hbrace k hk
  have hread : Char.ofNat (Digits.read 16 (hexDigits c)) = c := by
    rw [hexDigits, Digits.read_toDigits (by decide) (by decide), Char.ofNat_toNat]
  have htake : (hexDigits c ++ '\x7d' :: cs).takeWhile (· ≠ '\x7d') = hexDigits c := by
    rw [List.takeWhile_append_of_pos hdigit]
    simp
  have hdrop : (hexDigits c ++ '\x7d' :: cs).dropWhile (· ≠ '\x7d') = '\x7d' :: cs := by
    rw [List.dropWhile_append_of_pos hdigit]
    simp
  change some (Char.ofNat (Digits.read 16 ((hexDigits c ++ '\x7d' :: cs).takeWhile (· ≠ '\x7d'))),
    ((hexDigits c ++ '\x7d' :: cs).dropWhile (· ≠ '\x7d')).drop 1) = some (c, cs)
  rw [htake, hdrop, hread]
  rfl

/-- Every character is read back from what is written for it, whatever follows. -/
theorem readChar?_escape (hquote : IsQuote quote) (c : Char) (cs : List Char) :
    readChar? quote (escape quote c ++ cs) = some (c, cs) := by
  unfold escape
  cases hshort : shortEscape? c with
  | some letter =>
    exact (readChar?_backslash hquote _).trans (readEscape?_of_shortEscape? hshort cs)
  | none =>
    dsimp only
    split_ifs with hself hcode
    · have hself' : c = backslash ∨ IsQuote c := by
        rcases hself with h | rfl
        · exact Or.inl h
        · exact Or.inr hquote
      exact (readChar?_backslash hquote _).trans (readEscape?_self hself' cs)
    · rw [List.append_assoc]
      exact (readChar?_backslash hquote _).trans (readEscape?_code c cs)
    · rw [not_or] at hself
      rw [List.singleton_append, readChar?, if_neg hself.2, if_neg hself.1]

/-! ### Quoted texts -/

/-- What is written for characters up to the enclosing quote determines the characters and what
follows. The induction goes through both texts: at each place the front is read. -/
theorem flatMap_escape_append_inj (hquote : IsQuote quote) {cs ds a b : List Char}
    (h : cs.flatMap (escape quote) ++ quote :: a = ds.flatMap (escape quote) ++ quote :: b) :
    cs = ds ∧ a = b := by
  induction cs generalizing ds with
  | nil =>
    cases ds with
    | nil => exact ⟨rfl, (List.cons.inj h).2⟩
    | cons d ds =>
      rw [List.flatMap_cons, List.append_assoc] at h
      have hread := congrArg (readChar? quote) h
      rw [List.flatMap_nil, List.nil_append, readChar?_quote, readChar?_escape hquote] at hread
      cases hread
  | cons c cs ih =>
    rw [List.flatMap_cons, List.append_assoc] at h
    have hread := congrArg (readChar? quote) h
    rw [readChar?_escape hquote] at hread
    cases ds with
    | nil =>
      rw [List.flatMap_nil, List.nil_append, readChar?_quote] at hread
      cases hread
    | cons d ds =>
      rw [List.flatMap_cons, List.append_assoc, readChar?_escape hquote] at hread
      obtain ⟨rfl, hrest⟩ := Prod.mk.inj (Option.some.inj hread)
      obtain ⟨rfl, hab⟩ := ih hrest
      exact ⟨rfl, hab⟩

theorem enclose_append_inj (hquote : IsQuote quote) {cs ds a b : List Char}
    (h : enclose quote cs ++ a = enclose quote ds ++ b) : cs = ds ∧ a = b := by
  simp only [enclose, List.cons_append, List.append_assoc, List.nil_append, List.cons.injEq,
    true_and] at h
  exact flatMap_escape_append_inj hquote h

end Quote

/-- A text between double quotes and what follows it are determined. -/
theorem string_append_inj {s t a b : String} (h : string s ++ a = string t ++ b) :
    s = t ∧ a = b := by
  simp only [string, ← String.toList_inj, String.toList_append, String.toList_ofList] at h ⊢
  exact enclose_append_inj (Or.inl rfl) h

/-- A character between single quotes and what follows it are determined. -/
theorem char_append_inj {c d : Char} {a b : String} (h : char c ++ a = char d ++ b) :
    c = d ∧ a = b := by
  simp only [char, ← String.toList_inj, String.toList_append, String.toList_ofList] at h ⊢
  obtain ⟨hcd, hab⟩ := enclose_append_inj (Or.inr rfl) h
  exact ⟨List.singleton_inj.1 hcd, hab⟩

end Quoted

end GradedSymbols
