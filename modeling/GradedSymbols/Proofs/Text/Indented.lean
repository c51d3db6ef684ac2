import GradedSymbols.Proofs.Text.Lines
import GradedSymbols.Proofs.Text.Outline

/-!
# Reading indented outlines

An outline that is indented over several lines can be put on one line again by someone who sees
nothing but the text. The indentation is stripped off each line. A line that ends in a parenthesis or
a brace opens a level, a line that begins with the closing one ends it, and the entry in front of
that line loses its comma. Then the lines are joined: with nothing in between inside parentheses,
and with a space inside braces.

This works as long as no text in the outline breaks a line or begins like an indentation or like the
end of a level. The proof follows the outline: the lines of an entry, up to the line that closes the
level around it, are joined to the entry on one line.

## Main definitions

* `GradedSymbols.Outline.unindent` — the text on one line, read off the indented text.
* `GradedSymbols.Outline.IsRegular` — outlines whose texts are single lines and whose lines begin
  regularly.

## Main results

* `GradedSymbols.Outline.IsRegular.isSingleLine_oneLine` — a regular outline on one line is a single
  line.
* `GradedSymbols.Outline.IsRegular.textLines_indented` — the lines of an indented outline.
* `GradedSymbols.Outline.IsRegular.unindent_indented` — an indented outline is read back.
-/

namespace GradedSymbols

namespace Outline

/-! ### Joining lines -/

/-- The two ways in which the lines of a level are joined: those between parentheses and those
between braces. -/
inductive Level where
  | tuple
  | record
deriving DecidableEq

/-- What stands between two lines of the innermost level. -/
def gap : List Level → List Char
  | .record :: _ => [' ']
  | _ => []

/-- The level that a line opens, if it opens one. -/
def opened (line : List Char) : List Level :=
  match line.getLast? with
  | some '(' => [.tuple]
  | some '\x7b' => [.record]
  | _ => []

/-- Whether a line ends the innermost level. -/
def closes (line : List Char) : Bool :=
  match line with
  | ')' :: _ => true
  | '\x7d' :: _ => true
  | _ => false

/-- Lines joined to one. In front of the lines the levels `levels` are open, the innermost one first.
A line in front of the end of a level is the end of its last entry, and loses its comma. -/
def join : (levels : List Level) → List (List Char) → List Char
  | _, [] => []
  | _, [line] => line
  | levels, line :: next :: lines =>
    let inside := opened line ++ levels
    if closes next then line.dropLast ++ gap inside ++ join inside.tail (next :: lines)
    else line ++ gap inside ++ join inside (next :: lines)

/-- A line without its indentation. -/
def strip (line : String) : List Char := line.toList.dropWhile (· = ' ')

/-- The text on one line, read off a text over several lines. -/
def unindent (text : String) : String := String.ofList (join [] ((textLines text).map strip))

/-! ### Regular outlines -/

/-- A text *begins regularly* when it does so with a character that is no space and closes nothing. -/
def BeginsRegularly (s : String) : Prop :=
  ∃ c cs, s.toList = c :: cs ∧ c ≠ ' ' ∧ c ≠ ')' ∧ c ≠ '\x7d'

instance (s : String) : Decidable (BeginsRegularly s) :=
  decidable_of_iff (s.toList.head?.any (fun c => c ≠ ' ' ∧ c ≠ ')' ∧ c ≠ '\x7d') = true) <| by
    simp only [BeginsRegularly, Option.any_eq_true, decide_eq_true_eq, List.head?_eq_some_iff,
      exists_and_right]

/-- A text is a *label* when it is a single line that begins regularly. -/
def IsLabel (s : String) : Prop := IsSingleLine s ∧ BeginsRegularly s

instance (s : String) : Decidable (IsLabel s) := inferInstanceAs (Decidable (_ ∧ _))

/-- An outline is *regular* when the texts at the beginnings of its lines are labels, its other texts
are single lines, and its records have fields. -/
def IsRegular : Outline → Prop
  | leaf text => IsLabel text
  | tuple label entry => IsLabel label ∧ IsRegular entry
  | record label fields =>
    IsLabel label ∧ fields ≠ [] ∧ ∀ f ∈ fields, IsLabel f.1 ∧ IsSingleLine f.2

theorem BeginsRegularly.append {s : String} (h : BeginsRegularly s) (t : String) :
    BeginsRegularly (s ++ t) := by
  obtain ⟨c, cs, hs, hc⟩ := h
  exact ⟨c, cs ++ t.toList, by rw [String.toList_append, hs, List.cons_append], hc⟩

theorem BeginsRegularly.strip_eq {s : String} (h : BeginsRegularly s) : strip s = s.toList := by
  obtain ⟨c, cs, hs, hspace, -⟩ := h
  rw [strip, hs, List.dropWhile_cons_of_neg (by simpa using hspace)]

theorem BeginsRegularly.not_closes {s : String} (h : BeginsRegularly s) :
    closes s.toList = false := by
  obtain ⟨c, cs, hs, -, hparenthesis, hbrace⟩ := h
  rw [hs]
  unfold closes
  split
  · exact absurd (List.cons.inj ‹_›).1 hparenthesis
  · exact absurd (List.cons.inj ‹_›).1 hbrace
  · rfl

theorem strip_indent (line : String) : strip (indent line) = strip line := by
  simp [strip, indent]

/-! ### The lines of an outline -/

/-- The comma behind an entry is put at the end of its last line. -/
theorem closeEntry_append_singleton (line : String) : (lines : List String) →
    closeEntry (lines ++ [line]) = lines ++ [line ++ ","]
  | [] => rfl
  | l :: lines => by
    rw [List.cons_append, closeEntry_cons_of_ne_nil l (by simp),
      closeEntry_append_singleton line lines, List.cons_append]

theorem lines_ne_nil (o : Outline) : o.lines ≠ [] := by
  cases o <;> simp [lines]

/-- The stripped lines of an entry that is followed by a comma. -/
def entryLines (o : Outline) : List (List Char) := (closeEntry o.lines).map strip

theorem map_strip_map_indent (l : List String) : (l.map indent).map strip = l.map strip := by
  rw [List.map_map]
  exact List.map_congr_left fun line _ => strip_indent line

theorem entryLines_leaf {text : String} (h : BeginsRegularly text) :
    (leaf text).entryLines = [text.toList ++ [',']] := by
  rw [entryLines, lines, closeEntry, List.map_singleton, (h.append ",").strip_eq,
    String.toList_append]
  rfl

theorem map_strip_lines_tuple {label : String} (h : BeginsRegularly label) (entry : Outline) :
    (tuple label entry).lines.map strip =
      (label.toList ++ ['(']) :: entry.entryLines ++ [[')']] := by
  rw [lines, List.map_append, List.map_cons, map_strip_map_indent, (h.append "(").strip_eq,
    String.toList_append]
  rfl

theorem entryLines_tuple {label : String} (h : BeginsRegularly label) (entry : Outline) :
    (tuple label entry).entryLines =
      (label.toList ++ ['(']) :: entry.entryLines ++ [[')', ',']] := by
  rw [entryLines, lines, closeEntry_append_singleton, List.map_append, List.map_cons,
    map_strip_map_indent, (h.append "(").strip_eq, String.toList_append]
  rfl

/-- The stripped line of a named field, followed by a comma. -/
def fieldLine (f : String × String) : List Char := (field f).toList ++ [',']

theorem beginsRegularly_field {f : String × String} (h : BeginsRegularly f.1) :
    BeginsRegularly (field f) := by
  rw [field, String.append_assoc]
  exact h.append _

theorem strip_fieldLine {f : String × String} (h : BeginsRegularly f.1) :
    strip (indent (field f ++ ",")) = fieldLine f := by
  rw [strip_indent, ((beginsRegularly_field h).append ",").strip_eq, String.toList_append]
  rfl

theorem closes_fieldLine {f : String × String} (h : BeginsRegularly f.1) :
    closes (fieldLine f) = false := by
  have hline : fieldLine f = (field f ++ ",").toList := by
    rw [String.toList_append]
    rfl
  rw [hline]
  exact ((beginsRegularly_field h).append ",").not_closes

section Record

variable {label : String} {fields : List (String × String)}
  (hfields : ∀ f ∈ fields, BeginsRegularly f.1)

include hfields

theorem map_strip_map_indent_field :
    (fields.map fun f => indent (field f ++ ",")).map strip = fields.map fieldLine := by
  rw [List.map_map]
  exact List.map_congr_left fun f hf => strip_fieldLine (hfields f hf)

variable (hlabel : BeginsRegularly label)

include hlabel

theorem map_strip_lines_record : (record label fields).lines.map strip =
    (label.toList ++ [' ', '\x7b']) :: fields.map fieldLine ++ [['\x7d']] := by
  rw [lines, List.map_append, List.map_cons,
    map_strip_map_indent_field hfields, (hlabel.append " \x7b").strip_eq, String.toList_append]
  rfl

theorem entryLines_record : (record label fields).entryLines =
    (label.toList ++ [' ', '\x7b']) :: fields.map fieldLine ++ [['\x7d', ',']] := by
  rw [entryLines, lines, closeEntry_append_singleton, List.map_append, List.map_cons,
    map_strip_map_indent_field hfields, (hlabel.append " \x7b").strip_eq, String.toList_append]
  rfl

end Record

/-- The first line of a regular outline ends no level. -/
theorem IsRegular.exists_entryLines_eq {o : Outline} (h : o.IsRegular) :
    ∃ first others, o.entryLines = first :: others ∧ closes first = false := by
  have hnot : ∀ {s : String}, BeginsRegularly s → ∀ t, closes (s.toList ++ t) = false := by
    intro s hs t
    have happend := (hs.append (String.ofList t)).not_closes
    rwa [String.toList_append, String.toList_ofList] at happend
  cases o with
  | leaf text => exact ⟨_, _, entryLines_leaf h.2, hnot h.2 _⟩
  | tuple label entry => exact ⟨_, _, entryLines_tuple h.1.2 entry, hnot h.1.2 _⟩
  | record label fields =>
    exact ⟨_, _, entryLines_record (fun f hf => (h.2.2 f hf).1.2) h.1.2, hnot h.1.2 _⟩

/-! ### Joining the lines of an outline -/

theorem opened_append_comma (l : List Char) : opened (l ++ [',']) = [] := by
  simp [opened]

theorem join_cons_of_closes {line closing : List Char} (h : closes closing = true)
    (levels : List Level) (rest : List (List Char)) :
    join levels (line :: closing :: rest) = line.dropLast ++ gap (opened line ++ levels) ++
      join (opened line ++ levels).tail (closing :: rest) := by
  rw [join, if_pos h]

theorem join_cons_of_not_closes {line next : List Char} (h : closes next = false)
    (levels : List Level) (rest : List (List Char)) :
    join levels (line :: next :: rest) = line ++ gap (opened line ++ levels) ++
      join (opened line ++ levels) (next :: rest) := by
  rw [join, if_neg (by simp [h])]

section Join

variable {closing : List Char} (hclosing : closes closing = true) (levels : List Level)
  (rest : List (List Char))

theorem join_tuple {label : String} {entry : Outline} (hentry : entry.IsRegular)
    (ih : ∀ levels', join levels' (entry.entryLines ++ closing :: rest) =
      entry.oneLine.toList ++ gap levels' ++ join levels'.tail (closing :: rest)) :
    join levels ((label.toList ++ ['(']) :: entry.entryLines ++ closing :: rest) =
      (label ++ "(" ++ entry.oneLine).toList ++ join levels (closing :: rest) := by
  have hopened : opened (label.toList ++ ['(']) = [.tuple] := by simp [opened]
  obtain ⟨first, others, hlines, hfirst⟩ := hentry.exists_entryLines_eq
  have hjoin := ih (.tuple :: levels)
  rw [hlines, List.cons_append] at hjoin
  rw [hlines, List.cons_append, List.cons_append, join_cons_of_not_closes hfirst, hopened,
    List.singleton_append, hjoin]
  simp [gap]

include hclosing

/-- The last line of an entry loses its comma and ends the level. -/
theorem join_last (line : List Char) : join levels ((line ++ [',']) :: closing :: rest) =
    line ++ gap levels ++ join levels.tail (closing :: rest) := by
  rw [join_cons_of_closes hclosing, opened_append_comma, List.dropLast_concat, List.nil_append]

theorem join_fields : (fields : List (String × String)) → fields ≠ [] →
    (∀ f ∈ fields, BeginsRegularly f.1) →
    join (.record :: levels) (fields.map fieldLine ++ closing :: rest) =
      (", ".intercalate (fields.map field)).toList ++ [' '] ++ join levels (closing :: rest)
  | [], h, _ => absurd rfl h
  | [f], _, _ => by
    rw [List.map_singleton, List.singleton_append, fieldLine, join_last hclosing]
    rfl
  | f :: g :: fields, _, h => by
    have hg := h g (List.mem_cons_of_mem f List.mem_cons_self)
    have ih := join_fields (g :: fields) (List.cons_ne_nil g fields) fun f' hf' =>
      h f' (List.mem_cons_of_mem f hf')
    rw [List.map_cons, List.cons_append] at ih
    rw [List.map_cons, List.map_cons, List.cons_append, List.cons_append,
      join_cons_of_not_closes (closes_fieldLine hg), fieldLine, opened_append_comma,
      List.nil_append, ih]
    simp [gap]

theorem join_record {label : String} {fields : List (String × String)} (hne : fields ≠ [])
    (hfields : ∀ f ∈ fields, BeginsRegularly f.1) :
    join levels ((label.toList ++ [' ', '\x7b']) :: fields.map fieldLine ++ closing :: rest) =
      (label ++ " \x7b " ++ ", ".intercalate (fields.map field) ++ " ").toList ++
        join levels (closing :: rest) := by
  have hopened : opened (label.toList ++ [' ', '\x7b']) = [.record] := by simp [opened]
  have hjoin := join_fields hclosing levels rest fields hne hfields
  obtain ⟨f, fields, rfl⟩ := List.exists_cons_of_ne_nil hne
  rw [List.map_cons, List.cons_append] at hjoin
  rw [List.map_cons, List.cons_append, List.cons_append,
    join_cons_of_not_closes (closes_fieldLine (hfields f List.mem_cons_self)), hopened,
    List.singleton_append, hjoin]
  simp [gap]

end Join

/-- **Entries.** The lines of an entry, up to the line that closes the level around it, are joined to
the entry on one line. -/
theorem IsRegular.join_entryLines {o : Outline} (h : o.IsRegular) {closing : List Char}
    (hclosing : closes closing = true) (levels : List Level) (rest : List (List Char)) :
    join levels (o.entryLines ++ closing :: rest) =
      o.oneLine.toList ++ gap levels ++ join levels.tail (closing :: rest) := by
  induction o generalizing closing levels rest with
  | leaf text =>
    rw [entryLines_leaf h.2, List.singleton_append, join_last hclosing]
    rfl
  | tuple label entry ih =>
    -- The line with the closing parenthesis is the last one of this entry.
    have hend : closes [')', ','] = true := rfl
    rw [entryLines_tuple h.1.2, List.append_assoc, List.singleton_append,
      join_tuple levels _ h.2 fun levels' => ih h.2 hend levels' _]
    change _ ++ join levels (([')'] ++ [',']) :: closing :: rest) = _
    rw [join_last hclosing]
    simp [oneLine]
  | record label fields =>
    have hend : closes ['\x7d', ','] = true := rfl
    have hfields : ∀ f ∈ fields, BeginsRegularly f.1 := fun f hf => (h.2.2 f hf).1.2
    rw [entryLines_record hfields h.1.2, List.append_assoc, List.singleton_append,
      join_record hend levels _ h.2.1 hfields]
    change _ ++ join levels ((['\x7d'] ++ [',']) :: closing :: rest) = _
    rw [join_last hclosing]
    simp [oneLine]

/-- The lines of a regular outline are joined to the outline on one line. -/
theorem IsRegular.join_lines {o : Outline} (h : o.IsRegular) :
    join [] (o.lines.map strip) = o.oneLine.toList := by
  cases o with
  | leaf text =>
    rw [lines, List.map_singleton, h.2.strip_eq]
    rfl
  | tuple label entry =>
    rw [map_strip_lines_tuple h.1.2, join_tuple [] _ h.2 fun levels' =>
      h.2.join_entryLines rfl levels' _]
    simp [oneLine, join]
  | record label fields =>
    have hfields : ∀ f ∈ fields, BeginsRegularly f.1 := fun f hf => (h.2.2 f hf).1.2
    rw [map_strip_lines_record hfields h.1.2, join_record rfl [] _ h.2.1 hfields]
    simp [oneLine, join]

/-! ### Indented outlines -/

theorem isSingleLine_field {f : String × String} (hname : IsSingleLine f.1)
    (htext : IsSingleLine f.2) : IsSingleLine (field f) := by
  have hcolon : IsSingleLine ": " := by decide
  rw [field, isSingleLine_append, isSingleLine_append]
  exact ⟨⟨hname, hcolon⟩, htext⟩

theorem isSingleLine_intercalate : (l : List String) → (∀ s ∈ l, IsSingleLine s) →
    IsSingleLine (", ".intercalate l)
  | [], _ => by simp [IsSingleLine]
  | [s], h => by
    rw [String.intercalate_singleton]
    exact h s List.mem_cons_self
  | s :: t :: l, h => by
    have hcomma : IsSingleLine ", " := by decide
    rw [String.intercalate_cons_cons, isSingleLine_append, isSingleLine_append]
    exact ⟨⟨h s List.mem_cons_self, hcomma⟩,
      isSingleLine_intercalate (t :: l) fun u hu => h u (List.mem_cons_of_mem s hu)⟩

theorem IsRegular.isSingleLine_oneLine {o : Outline} (h : o.IsRegular) :
    IsSingleLine o.oneLine := by
  have hfixed : IsSingleLine "(" ∧ IsSingleLine ")" ∧ IsSingleLine " \x7b " ∧
      IsSingleLine " \x7d" := by decide
  induction o with
  | leaf text => exact h.1
  | tuple label entry ih =>
    simp only [oneLine, isSingleLine_append]
    exact ⟨⟨⟨h.1.1, hfixed.1⟩, ih h.2⟩, hfixed.2.1⟩
  | record label fields =>
    have hfields : IsSingleLine (", ".intercalate (fields.map field)) := by
      refine isSingleLine_intercalate _ fun s hs => ?_
      obtain ⟨f, hf, rfl⟩ := List.mem_map.1 hs
      exact isSingleLine_field (h.2.2 f hf).1.1 (h.2.2 f hf).2
    simp only [oneLine, isSingleLine_append]
    exact ⟨⟨⟨h.1.1, hfixed.2.2.1⟩, hfields⟩, hfixed.2.2.2⟩

theorem isSingleLine_indent {line : String} (h : IsSingleLine line) : IsSingleLine (indent line) :=
  isSingleLine_append.2 ⟨by decide, h⟩

theorem isSingleLine_of_mem_closeEntry : (l : List String) → (∀ line ∈ l, IsSingleLine line) →
    ∀ line ∈ closeEntry l, IsSingleLine line
  | [], h => h
  | [line], h => by
    rw [closeEntry, List.forall_mem_singleton, isSingleLine_append]
    exact ⟨h line List.mem_cons_self, by decide⟩
  | line :: next :: l, h => by
    rw [List.forall_mem_cons] at h
    rw [closeEntry, List.forall_mem_cons]
    exact ⟨h.1, isSingleLine_of_mem_closeEntry (next :: l) h.2⟩

theorem IsRegular.isSingleLine_of_mem_lines {o : Outline} (h : o.IsRegular) :
    ∀ line ∈ o.lines, IsSingleLine line := by
  have hfixed : IsSingleLine "(" ∧ IsSingleLine ")" ∧ IsSingleLine "," ∧
      IsSingleLine " \x7b" ∧ IsSingleLine "\x7d" := by decide
  induction o with
  | leaf text => exact List.forall_mem_singleton.2 h.1
  | tuple label entry ih =>
    have hentry : ∀ line ∈ (closeEntry entry.lines).map indent, IsSingleLine line := by
      intro line hline
      obtain ⟨l, hl, rfl⟩ := List.mem_map.1 hline
      exact isSingleLine_indent (isSingleLine_of_mem_closeEntry _ (ih h.2) l hl)
    rw [lines, List.forall_mem_append, List.forall_mem_cons, List.forall_mem_singleton,
      isSingleLine_append]
    exact ⟨⟨⟨h.1.1, hfixed.1⟩, hentry⟩, hfixed.2.1⟩
  | record label fields =>
    have hfields : ∀ line ∈ fields.map fun f => indent (field f ++ ","), IsSingleLine line := by
      intro line hline
      obtain ⟨f, hf, rfl⟩ := List.mem_map.1 hline
      refine isSingleLine_indent (isSingleLine_append.2 ⟨?_, hfixed.2.2.1⟩)
      exact isSingleLine_field (h.2.2 f hf).1.1 (h.2.2 f hf).2
    rw [lines, List.forall_mem_append, List.forall_mem_cons, List.forall_mem_singleton,
      isSingleLine_append]
    exact ⟨⟨⟨h.1.1, hfixed.2.2.2.1⟩, hfields⟩, hfixed.2.2.2.2⟩

/-- The text of a regular outline over several lines has the lines of the outline. -/
theorem IsRegular.textLines_indented {o : Outline} (h : o.IsRegular) :
    textLines o.indented = o.lines :=
  textLines_intercalate o.lines_ne_nil h.isSingleLine_of_mem_lines

/-- **Indented outlines** are read back: the text on one line is got from the text over several
lines. -/
theorem IsRegular.unindent_indented {o : Outline} (h : o.IsRegular) :
    unindent o.indented = o.oneLine := by
  rw [unindent, h.textLines_indented, h.join_lines, String.ofList_toList]

example : unindent "Wrapped(\n    Point \x7b\n        x: 1,\n        y: 2,\n    \x7d,\n)" =
    "Wrapped(Point \x7b x: 1, y: 2 \x7d)" := by decide

end Outline

end GradedSymbols
