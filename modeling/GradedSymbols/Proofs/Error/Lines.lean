import GradedSymbols.Error
import GradedSymbols.Proofs.Scalar.Numbers
import GradedSymbols.Proofs.Text.Indented

/-!
# Reports on hostile names keep to their lines

The name in a report is any text, with control characters, line separators and quotes in it. All
texts of the report quote it, so that the message and the text for inspection stay on one line, and
the indented text has one line for each field and each end of a level, none more. Such an indented
text can be put on one line again. The same holds of objects as operands, in which a name is quoted
and the characters of a number are harmless.

## Main definitions

* `GradedSymbols.IsShownInLines` — a text on one line and the same text indented over given lines.
* `GradedSymbols.Object.operandLines` — the lines of an object as an operand.

## Main results

* `GradedSymbols.SymbolError.isRegular_innerOutline`, `GradedSymbols.SymbolError.isRegular_outline`,
  `GradedSymbols.Object.isRegular_outline` — the outlines of errors and operands are regular.
* `GradedSymbols.SymbolError.reports_keep_lines` — the texts of reports and operands.
-/

namespace GradedSymbols

open Outline (IsLabel)
open Decimal (IsNumeric)

/-! ### Two forms of a text -/

/-- A text *is shown in lines* when it is a single line itself, its indented form has exactly the
given lines, which are single lines, and it can be read off the indented form. -/
structure IsShownInLines (text indented : String) (lines : List String) : Prop where
  isSingleLine : IsSingleLine text
  textLines_eq : textLines indented = lines
  isSingleLine_of_mem : ∀ line ∈ lines, IsSingleLine line
  unindent_eq : Outline.unindent indented = text

theorem Outline.IsRegular.isShownInLines {o : Outline} (h : o.IsRegular) :
    IsShownInLines (o.render false) (o.render true) o.lines :=
  ⟨h.isSingleLine_oneLine, h.textLines_indented, h.isSingleLine_of_mem_lines, h.unindent_indented⟩

/-! ### Numbers -/

/-- The characters of numbers are plain, and they are no spaces and close nothing. -/
theorem isPlain_of_isNumeric {c : Char} (h : IsNumeric c) :
    IsPlain c ∧ c ≠ ' ' ∧ c ≠ ')' ∧ c ≠ '\x7d' := by
  rcases h with h | h
  · have hrange : 48 ≤ c.toNat ∧ c.toNat ≤ 57 := Char.isDigit_iff_toNat.1 h
    have hplain : IsPlain c := by
      unfold IsPlain
      omega
    refine ⟨hplain, ?_, ?_, ?_⟩ <;> rintro rfl <;> exact absurd hrange (by decide)
  · simp only [List.mem_cons, List.not_mem_nil, or_false] at h
    rcases h with rfl | rfl | rfl | rfl | rfl | rfl | rfl | rfl <;> decide

theorem Outline.isRegular_leaf_of_isNumeric {text : String} (hne : text ≠ "")
    (h : ∀ c ∈ text.toList, IsNumeric c) : (leaf text).IsRegular := by
  obtain ⟨c, cs, hcs⟩ : ∃ c cs, text.toList = c :: cs :=
    List.exists_cons_of_ne_nil (by simpa using hne)
  exact ⟨fun c hc => (isPlain_of_isNumeric (h c hc)).1,
    c, cs, hcs, (isPlain_of_isNumeric (h c (by simp [hcs]))).2⟩

theorem Integer.isSingleLine_format (i : Int) : IsSingleLine (format {} i) :=
  (Outline.isRegular_leaf_of_isNumeric (format_ne_empty i) (isNumeric_format i)).1

/-! ### Errors -/

namespace InvalidName

theorem isSingleLine_message (e : InvalidName) : IsSingleLine e.message := by
  have hfixed : IsSingleLine "invalid symbol name " ∧ IsSingleLine ": " ∧
      IsSingleLine " at byte " ∧
      IsSingleLine " is not an ASCII letter, digit or underscore" := by decide
  obtain ⟨hopening, hcolon, hat, hclosing⟩ := hfixed
  have hname : IsSingleLine ("invalid symbol name " ++ Quoted.string e.name) :=
    hopening.append (Quoted.isSingleLine_string e.name)
  have hinvalid := (hname.append hcolon).append (Quoted.isSingleLine_char e.invalid)
  exact ((hinvalid.append hat).append (Integer.isSingleLine_format e.offset)).append hclosing

/-- The lines of a report: its label, one line for each field, and the end. -/
theorem lines_outline (e : InvalidName) : (e.outline {}).lines =
    ["InvalidNameError \x7b",
     "    name: " ++ Quoted.string e.name ++ ",",
     "    invalid: " ++ Quoted.char e.invalid ++ ",",
     "    offset: " ++ Integer.format {} e.offset ++ ",",
     "\x7d"] := by
  simp [outline, Outline.lines, Outline.field, Outline.indent, ← String.toList_inj]

/-- The lines of a report in an error: those of the report, one level deeper, between two more. -/
theorem lines_outline_invalidName (e : InvalidName) :
    (SymbolError.outline {} (.invalidName e)).lines =
      ["InvalidName(",
       "    InvalidNameError \x7b",
       "        name: " ++ Quoted.string e.name ++ ",",
       "        invalid: " ++ Quoted.char e.invalid ++ ",",
       "        offset: " ++ Integer.format {} e.offset ++ ",",
       "    \x7d,",
       ")"] := by
  rw [SymbolError.outline, Outline.lines, lines_outline]
  simp [Outline.closeEntry, Outline.indent, ← String.toList_inj]

theorem isRegular_outline (e : InvalidName) : (e.outline {}).IsRegular := by
  have hlabels : IsLabel "InvalidNameError" ∧ IsLabel "name" ∧ IsLabel "invalid" ∧
      IsLabel "offset" := by decide
  obtain ⟨hreport, hname, hinvalid, hoffset⟩ := hlabels
  refine ⟨hreport, List.cons_ne_nil _ _, ?_⟩
  simp only [List.forall_mem_cons]
  exact ⟨⟨hname, Quoted.isSingleLine_string e.name⟩, ⟨hinvalid, Quoted.isSingleLine_char e.invalid⟩,
    ⟨hoffset, Integer.isSingleLine_format e.offset⟩, by simp⟩

end InvalidName

theorem TypeMismatch.isRegular_outline (e : TypeMismatch) : e.outline.IsRegular := by
  have hlabels : IsLabel "SymbolicTypeError" ∧ IsLabel "expected" ∧ IsLabel "found" := by decide
  obtain ⟨hmismatch, hexpected, hfound⟩ := hlabels
  refine ⟨hmismatch, List.cons_ne_nil _ _, ?_⟩
  simp only [List.forall_mem_cons]
  exact ⟨⟨hexpected, Quoted.isSingleLine_string e.expected⟩,
    ⟨hfound, Quoted.isSingleLine_string e.found.name⟩, by simp⟩

namespace SymbolError

theorem isRegular_innerOutline (e : SymbolError) : (e.innerOutline {}).IsRegular := by
  cases e with
  | invalidName e => exact e.isRegular_outline
  | typeMismatch e => exact e.isRegular_outline

theorem isRegular_outline (e : SymbolError) : (e.outline {}).IsRegular := by
  have hlabels : IsLabel "InvalidName" ∧ IsLabel "Type" := by decide
  cases e with
  | invalidName e => exact ⟨hlabels.1, e.isRegular_outline⟩
  | typeMismatch e => exact ⟨hlabels.2, e.isRegular_outline⟩

/-- The style that breaks an outline into lines does not change the numbers in it. -/
theorem innerOutline_alternate (e : SymbolError) :
    e.innerOutline { alternate := true } = e.innerOutline {} := by
  cases e <;> rfl

theorem outline_alternate (e : SymbolError) :
    e.outline { alternate := true } = e.outline {} := by
  cases e <;> rfl

theorem isShownInLines_inspectInner (e : SymbolError) : IsShownInLines (e.inspectInner {})
    (e.inspectInner { alternate := true }) (e.innerOutline {}).lines := by
  rw [inspectInner, inspectInner, innerOutline_alternate]
  exact e.isRegular_innerOutline.isShownInLines

theorem isShownInLines_inspect (e : SymbolError) :
    IsShownInLines (e.inspect {}) (e.inspect { alternate := true }) (e.outline {}).lines := by
  rw [inspect, inspect, outline_alternate]
  exact e.isRegular_outline.isShownInLines

end SymbolError

/-! ### Operands -/

namespace Object

theorem isLabel_typeName (kind : Kind) : IsLabel kind.typeName := by
  cases kind <;> decide

theorem isRegular_leaf_string (s : String) : (Outline.leaf (Quoted.string s)).IsRegular := by
  have hquoted : (Quoted.string s).toList = Quoted.enclose Quoted.doubleQuote s.toList :=
    String.toList_ofList
  exact ⟨Quoted.isSingleLine_string s, Quoted.doubleQuote, _, hquoted, by decide⟩

theorem isRegular_outline (o : Object) : (o.outline {}).IsRegular := by
  have hlabels : IsLabel "Operand" ∧ IsLabel "Symbolic" ∧ IsLabel "Scalar" ∧ IsLabel "Int" ∧
      IsLabel "Float" := by decide
  obtain ⟨hoperand, hsymbolic, hscalar, hint, hfloat⟩ := hlabels
  rcases o with s | i | x
  · exact ⟨hoperand, hsymbolic, isLabel_typeName s.kind, isRegular_leaf_string s.name.text⟩
  · exact ⟨hoperand, hscalar, hint, Outline.isRegular_leaf_of_isNumeric
      (Integer.format_ne_empty i.toInt) (Integer.isNumeric_format i.toInt)⟩
  · exact ⟨hoperand, hscalar, hfloat, Outline.isRegular_leaf_of_isNumeric
      (Binary64.format_ne_empty .general x) (Binary64.isNumeric_format .general x)⟩

theorem outline_alternate (o : Object) : o.outline { alternate := true } = o.outline {} := by
  rcases o with s | i | x <;> rfl

theorem isShownInLines_inspectOperand (o : Object) : IsShownInLines (o.inspectOperand {})
    (o.inspectOperand { alternate := true }) (o.outline {}).lines := by
  rw [inspectOperand, inspectOperand, outline_alternate]
  exact o.isRegular_outline.isShownInLines

/-- The lines of an object as an operand, the contents being a text in a constructor. -/
def operandLines (case label text : String) : List String :=
  ["Operand(",
   "    " ++ case ++ "(",
   "        " ++ label ++ "(",
   "            " ++ text ++ ",",
   "        ),",
   "    ),",
   ")"]

theorem lines_operand (case label text : String) :
    (Outline.tuple "Operand" (.tuple case (.tuple label (.leaf text)))).lines =
      operandLines case label text := by
  simp [operandLines, Outline.lines, Outline.closeEntry, Outline.indent, ← String.toList_inj]

end Object

/-! ### Lines of reports and operands -/

/-- **Reports on hostile names keep to their lines.** Let `e` be a report on a rejected name; the
name, the character and the offset in it may be any.

* The message is a single line, also as the message of an error.
* The text for inspection is shown in five lines, and in seven lines as the text of an error, which
  says that it is a report: one line for each field and each end of a level.
* The text of an object as an operand is shown in seven lines, one of which is the quoted name or the
  number. -/
theorem SymbolError.reports_keep_lines :
    (∀ e : InvalidName,
      IsSingleLine e.message ∧ IsSingleLine (invalidName e).message ∧
      IsShownInLines ((invalidName e).inspectInner {})
        ((invalidName e).inspectInner { alternate := true })
        ["InvalidNameError \x7b",
         "    name: " ++ Quoted.string e.name ++ ",",
         "    invalid: " ++ Quoted.char e.invalid ++ ",",
         "    offset: " ++ Integer.format {} e.offset ++ ",",
         "\x7d"] ∧
      IsShownInLines ((invalidName e).inspect {}) ((invalidName e).inspect { alternate := true })
        ["InvalidName(",
         "    InvalidNameError \x7b",
         "        name: " ++ Quoted.string e.name ++ ",",
         "        invalid: " ++ Quoted.char e.invalid ++ ",",
         "        offset: " ++ Integer.format {} e.offset ++ ",",
         "    \x7d,",
         ")"]) ∧
    (∀ s : Symbol, IsShownInLines (Object.inspectOperand {} (.symbol s))
      (Object.inspectOperand { alternate := true } (.symbol s))
      (Object.operandLines "Symbolic" s.kind.typeName (Quoted.string s.name.text))) ∧
    (∀ i : Int64, IsShownInLines (Object.inspectOperand {} (.scalar (.int i)))
      (Object.inspectOperand { alternate := true } (.scalar (.int i)))
      (Object.operandLines "Scalar" "Int" (Integer.format {} i.toInt))) ∧
    (∀ x : Binary64, IsShownInLines (Object.inspectOperand {} (.scalar (.float x)))
      (Object.inspectOperand { alternate := true } (.scalar (.float x)))
      (Object.operandLines "Scalar" "Float" (x.format .general {}))) := by
  refine ⟨fun e => ⟨e.isSingleLine_message, e.isSingleLine_message, ?_, ?_⟩, fun s => ?_, fun i => ?_,
    fun x => ?_⟩
  · rw [← e.lines_outline]
    exact isShownInLines_inspectInner (.invalidName e)
  · rw [← e.lines_outline_invalidName]
    exact isShownInLines_inspect (.invalidName e)
  all_goals
    rw [← Object.lines_operand]
    exact Object.isShownInLines_inspectOperand _

end GradedSymbols
