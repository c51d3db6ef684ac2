import GradedSymbols.Proofs.Text.Quoted

/-!
# Lines of texts

A text is a single line if none of its characters is a control character or one of the two line
separators. Quoted texts are single lines whatever they quote: control characters and separators are
among the characters that are written by their code points, and the code points are written by digits.

## Main definitions

* `GradedSymbols.IsPlain` — characters that are no control characters and no line separators.
* `GradedSymbols.IsSingleLine` — texts of plain characters.
* `GradedSymbols.textLines` — the lines of a text.

## Main results

* `GradedSymbols.textLines_intercalate` — single lines are found again in a text that is made of them.
* `GradedSymbols.Unprintable.contains_of_not_isPlain` — what is not plain is not shown as it is.
* `GradedSymbols.Quoted.isSingleLine_string`, `GradedSymbols.Quoted.isSingleLine_char` — quoted texts
  and characters are single lines.
-/

namespace GradedSymbols

/-! ### Single lines -/

/-- A character is *plain* when it is no control character, that is none of the first 32, of the 32
that begin at `U+0080`, and not `U+007F`, and when it is neither the line separator `U+2028` nor the
paragraph separator `U+2029`. -/
def IsPlain (c : Char) : Prop :=
  ¬ c.toNat < 0x20 ∧ ¬ (0x7f ≤ c.toNat ∧ c.toNat < 0xa0) ∧ c.toNat ≠ 0x2028 ∧ c.toNat ≠ 0x2029

instance (c : Char) : Decidable (IsPlain c) := inferInstanceAs (Decidable (_ ∧ _))

/-- A text is a *single line* when all its characters are plain. -/
def IsSingleLine (s : String) : Prop := ∀ c ∈ s.toList, IsPlain c

instance (s : String) : Decidable (IsSingleLine s) := List.decidableBAll IsPlain s.toList

@[simp] theorem isSingleLine_append {s t : String} :
    IsSingleLine (s ++ t) ↔ IsSingleLine s ∧ IsSingleLine t := by
  simp only [IsSingleLine, String.toList_append, List.forall_mem_append]

theorem IsSingleLine.append {s t : String} (hs : IsSingleLine s) (ht : IsSingleLine t) :
    IsSingleLine (s ++ t) :=
  isSingleLine_append.2 ⟨hs, ht⟩

theorem IsSingleLine.lineFeed_notMem {s : String} (h : IsSingleLine s) : '\n' ∉ s.toList :=
  fun hmem => absurd (h '\n' hmem) (by decide)

/-! ### The lines of a text -/

/-- The lines of a text, which line feeds separate. -/
def textLines (s : String) : List String := (s.toList.splitOn '\n').map String.ofList

/-- Single lines are found again in the text in which line feeds separate them. -/
theorem textLines_intercalate {lines : List String} (hne : lines ≠ [])
    (h : ∀ line ∈ lines, IsSingleLine line) : textLines ("\n".intercalate lines) = lines := by
  have hlines : ∀ l ∈ lines.map String.toList, '\n' ∉ l := by
    intro l hl
    obtain ⟨line, hline, rfl⟩ := List.mem_map.1 hl
    exact (h line hline).lineFeed_notMem
  have hsplit := List.splitOn_intercalate '\n' hlines (by simpa using hne)
  rw [textLines, String.toList_intercalate]
  change ((['\n'].intercalate (lines.map String.toList)).splitOn '\n').map String.ofList = lines
  rw [hsplit, List.map_map]
  simp [Function.comp_def]

/-! ### Quoted texts -/

/-- The control characters and the line separators are written by their code points. -/
theorem Unprintable.contains_of_not_isPlain {c : Char} (h : ¬ IsPlain c) :
    contains c = true := by
  have hranges : ∃ rest, ranges = (0x00, 0x1f) :: (0x7f, 0xa0) :: rest := ⟨_, rfl⟩
  have hcases : c.toNat ≤ 0x1f ∨ 0x7f ≤ c.toNat ∧ c.toNat ≤ 0xa0 ∨
      c.toNat = 0x2028 ∨ c.toNat = 0x2029 := by
    unfold IsPlain at h
    omega
  obtain ⟨rest, hrest⟩ := hranges
  rcases hcases with hlow | ⟨hfirst, hlast⟩ | hline | hparagraph
  · rw [contains, hrest, inRanges, if_neg (by omega)]
    simp
  · rw [contains, hrest, inRanges, if_pos (by omega), inRanges, if_neg (by omega)]
    simpa using hfirst
  · rw [contains, hline]
    decide +kernel
  · rw [contains, hparagraph]
    decide +kernel

namespace Quoted

/-- Whatever a character is, only plain characters are written for it. -/
theorem isPlain_of_mem_escape {quote c d : Char} (hquote : IsQuote quote)
    (hd : d ∈ escape quote c) : IsPlain d := by
  have hbackslash : IsPlain backslash := by decide
  unfold escape at hd
  cases hshort : shortEscape? c with
  | some letter =>
    have hletter : IsPlain letter := by
      unfold shortEscape? at hshort
      split_ifs at hshort <;> cases hshort <;> decide
    simp only [hshort, List.mem_cons, List.not_mem_nil, or_false] at hd
    rcases hd with rfl | rfl
    · exact hbackslash
    · exact hletter
  | none =>
    simp only [hshort] at hd
    split_ifs at hd with hself hcode
    · have hc : IsPlain c := by
        rcases hself with rfl | rfl
        · exact hbackslash
        · rcases hquote with rfl | rfl <;> decide
      simp only [List.mem_cons, List.not_mem_nil, or_false] at hd
      rcases hd with rfl | rfl
      · exact hbackslash
      · exact hc
    · have hdigit : ∀ k < 16, IsPlain (Nat.digitChar k) := by decide
      simp only [List.cons_append, List.mem_cons, List.mem_append, List.not_mem_nil,
        or_false] at hd
      rcases hd with rfl | rfl | rfl | hmem | rfl
      · exact hbackslash
      · decide
      · decide
      · obtain ⟨k, hk, rfl⟩ := Digits.exists_digitChar_of_mem_toDigits (by decide) hmem
        exact hdigit k hk
      · decide
    · obtain rfl := List.mem_singleton.1 hd
      exact Decidable.byContradiction fun h => hcode (Unprintable.contains_of_not_isPlain h)

theorem isPlain_of_mem_enclose {quote d : Char} (hquote : IsQuote quote) {cs : List Char}
    (hd : d ∈ enclose quote cs) : IsPlain d := by
  have hplain : IsPlain quote := by
    rcases hquote with rfl | rfl <;> decide
  simp only [enclose, List.cons_append, List.mem_cons, List.mem_append, List.mem_flatMap,
    List.not_mem_nil, or_false] at hd
  rcases hd with rfl | ⟨c, -, hd⟩ | rfl
  · exact hplain
  · exact isPlain_of_mem_escape hquote hd
  · exact hplain

/-- **Quoted texts** are single lines, whatever they quote. -/
theorem isSingleLine_string (s : String) : IsSingleLine (string s) := by
  intro d hd
  rw [string, String.toList_ofList] at hd
  exact isPlain_of_mem_enclose (Or.inl rfl) hd

/-- **Quoted characters** are single lines, whatever they are. -/
theorem isSingleLine_char (c : Char) : IsSingleLine (char c) := by
  intro d hd
  rw [char, String.toList_ofList] at hd
  exact isPlain_of_mem_enclose (Or.inr rfl) hd

end Quoted

end GradedSymbols
