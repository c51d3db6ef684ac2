import GradedSymbols.Symbol
import Mathlib.Data.String.Basic

/-!
# The first character outside the charset

The check of a text goes through its characters and counts bytes. This file proves that what it
reports is the first character outside the charset, at the byte where that character begins, and
that the constructions of symbols accept and report the same texts. The charset is made of ASCII
characters, so the text in front of a reported character has as many bytes as characters.

The invariant of the scan is `firstOutside?_eq_some_iff`: a character is found exactly if the list
splits at it behind characters of the charset, and its position is the start of the scan plus the
bytes of those characters.

## Main results

* `GradedSymbols.Charset.contains_iff_isAlphanum` — the charset in terms of ASCII.
* `GradedSymbols.Name.check_eq_error_iff` — the reports are those on the first character outside
  the charset.
* `GradedSymbols.Symbol.map_build_eq_check` — the construction of a symbol accepts and reports as
  the check does.
* `GradedSymbols.Name.accepts_or_reports_first_outside` — the check and the two constructions,
  described completely.
-/

namespace GradedSymbols

open String (utf8Len)

/-! ### The charset in ASCII -/

namespace Charset

private theorem toNat_lt_of_isAlphanum {c : Char} (h : c.isAlphanum = true ∨ c = '_') :
    c.toNat < 128 := by
  have hle : c.val ≤ 'z'.val := by
    rcases h with halnum | rfl
    · rcases Bool.or_eq_true_iff.1 (show (c.isAlpha || c.isDigit) = true from halnum) with
        halpha | hdigit
      · rcases Bool.or_eq_true_iff.1 (show (c.isUpper || c.isLower) = true from halpha) with
          hupper | hlower
        · exact UInt32.le_trans (of_decide_eq_true hupper).2 (by decide)
        · exact of_decide_eq_true (Bool.and_eq_true_iff.1 hlower).2
      · exact UInt32.le_trans (of_decide_eq_true (Bool.and_eq_true_iff.1 hdigit).2) (by decide)
    · decide
  exact (UInt32.le_iff_toNat_le.1 hle).trans_lt (by decide)

/-- The charset is made of the ASCII letters, the ASCII digits and the underscore. -/
theorem contains_iff_isAlphanum {c : Char} :
    contains c = true ↔ c.isAlphanum = true ∨ c = '_' := by
  constructor
  · intro hc
    have hlisted : chars.all (fun d => d.isAlphanum || d == '_') = true := by decide
    simpa using List.all_eq_true.1 hlisted c (contains_iff_mem.1 hc)
  · intro hc
    -- The class lies below code point 128, so that it is enough to look at the characters there.
    have hascii : ∀ n < 128, (Char.ofNat n).isAlphanum = true ∨ Char.ofNat n = '_' →
        contains (Char.ofNat n) = true := by decide +kernel
    have hc' := hascii c.toNat (toNat_lt_of_isAlphanum hc)
    rw [Char.ofNat_toNat] at hc'
    exact hc' hc

theorem utf8Size_of_contains {c : Char} (h : contains c = true) : c.utf8Size = 1 := by
  have hlisted : chars.all (fun d => d.utf8Size == 1) = true := by decide
  simpa using List.all_eq_true.1 hlisted c (contains_iff_mem.1 h)

theorem utf8Len_eq_length (cs : List Char) (h : ∀ c ∈ cs, contains c = true) :
    utf8Len cs = cs.length := by
  induction cs with
  | nil => rfl
  | cons c cs ih =>
    have hrest := ih fun d hd => h d (List.mem_cons_of_mem _ hd)
    rw [String.utf8Len_cons, utf8Size_of_contains (h c List.mem_cons_self), hrest,
      List.length_cons]

end Charset

/-! ### Positions behind a front part -/

section Positions

variable (front back : List Char) (c : Char)

private theorem isValid_utf8Len :
    (String.Pos.Raw.mk (utf8Len front)).IsValid (String.ofList (front ++ c :: back)) := by
  rw [String.Pos.Raw.isValid_iff_exists_append]
  refine ⟨String.ofList front, String.ofList (c :: back), String.ofList_append, ?_⟩
  rw [String.rawEndPos_ofList]

private theorem utf8Len_lt_utf8ByteSize :
    utf8Len front < (String.ofList (front ++ c :: back)).utf8ByteSize := by
  have hc := c.utf8Size_pos
  rw [String.utf8ByteSize_ofList, String.utf8Len_append, String.utf8Len_cons]
  omega

private theorem utf8DecodeChar?_utf8Len :
    (String.ofList (front ++ c :: back)).toByteArray.utf8DecodeChar? (utf8Len front) =
      some c := by
  rw [ByteArray.utf8DecodeChar?_eq_utf8DecodeChar?_extract, String.toByteArray_ofList,
    List.utf8Encode_append, ByteArray.extract_append_eq_right]
  · exact List.utf8DecodeChar?_utf8Encode_cons
  · rw [← String.toByteArray_ofList, String.size_toByteArray, String.utf8ByteSize_ofList]
  · rw [ByteArray.size_append]

private theorem extract_utf8Len :
    String.Pos.Raw.extract (String.ofList (front ++ c :: back)) 0 ⟨utf8Len front⟩ =
      String.ofList front := by
  have h := String.extract_of_valid [] front (c :: back)
  simpa using h

end Positions

/-! ### The scan -/

namespace Name

/-- A character is found exactly if the list splits at it behind characters of the charset; it is
found at the byte where it begins. -/
theorem firstOutside?_eq_some_iff {c : Char} {i : Nat} (start : Nat) (cs : List Char) :
    firstOutside? start cs = some (c, i) ↔ ∃ front back, cs = front ++ c :: back ∧
      (∀ d ∈ front, Charset.contains d = true) ∧ Charset.contains c = false ∧
        i = start + utf8Len front := by
  induction cs generalizing start with
  | nil => simp [firstOutside?]
  | cons d cs ih =>
    by_cases hd : Charset.contains d = true
    · simp only [firstOutside?, hd, ↓reduceIte, ih]
      constructor
      · rintro ⟨front, back, rfl, hfront, hc, rfl⟩
        refine ⟨d :: front, back, rfl, List.forall_mem_cons.2 ⟨hd, hfront⟩, hc, ?_⟩
        rw [String.utf8Len_cons]
        omega
      · rintro ⟨front, back, hcs, hfront, hc, rfl⟩
        cases front with
        | nil =>
          obtain ⟨rfl, -⟩ := List.cons.inj hcs
          rw [hd] at hc
          cases hc
        | cons d' front =>
          obtain ⟨rfl, rfl⟩ := List.cons.inj hcs
          refine ⟨front, back, rfl, (List.forall_mem_cons.1 hfront).2, hc, ?_⟩
          rw [String.utf8Len_cons]
          omega
    · simp only [firstOutside?, hd]
      constructor
      · intro h
        obtain ⟨rfl, rfl⟩ := Prod.mk.inj (Option.some.inj h)
        exact ⟨[], cs, rfl, by simp, by simpa using hd, rfl⟩
      · rintro ⟨front, back, hcs, hfront, hc, rfl⟩
        cases front with
        | nil =>
          obtain ⟨rfl, -⟩ := List.cons.inj hcs
          rfl
        | cons d' front =>
          obtain ⟨rfl, -⟩ := List.cons.inj hcs
          exact absurd (hfront d List.mem_cons_self) hd

/-- **Reports.** A text is reported exactly if it splits at a character outside the charset behind
characters of the charset; the report holds the text, that character and the number of bytes in
front of it. -/
theorem check_eq_error_iff {text : String} {e : InvalidName} :
    check text = .error e ↔ e.name = text ∧ ∃ front back : List Char,
      text = String.ofList (front ++ e.invalid :: back) ∧
        (∀ c ∈ front, Charset.contains c = true) ∧ Charset.contains e.invalid = false ∧
          e.offset = utf8Len front := by
  have hscan := firstOutside?_eq_some_iff (c := e.invalid) (i := e.offset) 0 text.toList
  simp only [Nat.zero_add, ← String.toList_inj, String.toList_ofList] at hscan ⊢
  rw [← hscan, check]
  obtain ⟨name, invalid, offset⟩ := e
  cases h : firstOutside? 0 text.toList with
  | none => simp
  | some p =>
    simp only [Except.error.injEq, InvalidName.mk.injEq, Option.some.injEq, Prod.ext_iff,
      String.toList_inj, eq_comm]

end Name

/-! ### Constructions -/

namespace Symbol

/-- The construction of a symbol accepts the texts that the check accepts, and reports the others
as the check does. -/
theorem map_build_eq_check (kind : Kind) (text : String) :
    (build kind text).map (fun _ => ()) = Name.check text := by
  rw [build]
  cases h : Name.ofString text with
  | ok n =>
    rw [← Name.text_of_ofString h]
    exact (Name.check_eq_ok_iff.2 n.contains_of_mem).symm
  | error e => exact (Name.ofString_eq_error_iff.1 h).symm

theorem kind_and_text_of_build {kind : Kind} {text : String} {s : Symbol}
    (h : build kind text = .ok s) : s.kind = kind ∧ s.name.text = text := by
  rw [build] at h
  cases hn : Name.ofString text with
  | ok n =>
    rw [hn] at h
    obtain rfl := Except.ok.inj h
    exact ⟨rfl, Name.text_of_ofString hn⟩
  | error e =>
    rw [hn] at h
    cases h

theorem check_name_of_build {kind : Kind} {text : String} {s : Symbol}
    (h : build kind text = .ok s) : Name.check s.name.text = .ok () := by
  rw [(kind_and_text_of_build h).2, ← map_build_eq_check kind text, h]
  rfl

theorem exists_build_of_check {text : String} (h : Name.check text = .ok ()) (kind : Kind) :
    ∃ s, build kind text = .ok s ∧ s.kind = kind ∧ s.name.text = text := by
  have hmap := map_build_eq_check kind text
  rw [h] at hmap
  cases hbuild : build kind text with
  | ok s => exact ⟨s, rfl, kind_and_text_of_build hbuild⟩
  | error e =>
    rw [hbuild] at hmap
    cases hmap

end Symbol

/-! ### The check and the constructions -/

/-- **Acceptance and reports.** For every text:

* the construction of a symbol of either kind accepts it if the check does, and otherwise makes the
  report that the check makes;
* a symbol that is built has the kind asked for, and the text is its name;
* the text is accepted exactly if all its characters are ASCII letters, ASCII digits or underscores,
  which are the characters of the charset;
* it is reported by `e` exactly if `e` holds the text, and the text is a front part over the charset,
  the character of `e`, which is outside the charset, and any rest, the offset of `e` being the
  number of bytes of the front part;
* the offset of a report is a boundary of characters strictly inside the text, the character of the
  report is decoded there, and the text in front of it is accepted and has as many characters as the
  offset says. -/
theorem Name.accepts_or_reports_first_outside (text : String) :
    (∀ kind, (Symbol.build kind text).map (fun _ => ()) = check text) ∧
    (∀ kind s, Symbol.build kind text = .ok s → s.kind = kind ∧ s.name.text = text) ∧
    (check text = .ok () ↔ ∀ c ∈ text.toList, c.isAlphanum = true ∨ c = '_') ∧
    (∀ c, Charset.contains c = true ↔ c.isAlphanum = true ∨ c = '_') ∧
    (∀ e, check text = .error e ↔ e.name = text ∧ ∃ front back : String,
      text = front ++ String.singleton e.invalid ++ back ∧
        (∀ c ∈ front.toList, Charset.contains c = true) ∧ Charset.contains e.invalid = false ∧
          e.offset = front.utf8ByteSize) ∧
    ∀ e, check text = .error e →
      (String.Pos.Raw.mk e.offset).IsValid text ∧ e.offset < text.utf8ByteSize ∧
        text.toByteArray.utf8DecodeChar? e.offset = some e.invalid ∧
          check (String.Pos.Raw.extract text 0 ⟨e.offset⟩) = .ok () ∧
            (String.Pos.Raw.extract text 0 ⟨e.offset⟩).length = e.offset := by
  refine ⟨fun kind => Symbol.map_build_eq_check kind text, fun _ _ => Symbol.kind_and_text_of_build,
    ?_, fun _ => Charset.contains_iff_isAlphanum, fun e => ?_, fun e he => ?_⟩
  · simp only [check_eq_ok_iff, Charset.contains_iff_isAlphanum]
  · rw [check_eq_error_iff]
    refine and_congr_right fun _ => ?_
    constructor
    · rintro ⟨front, back, htext, hfront, he, hoffset⟩
      refine ⟨.ofList front, .ofList back, ?_, by simpa using hfront, he, ?_⟩
      · rw [htext, String.ofList_append, String.ofList_cons, ← String.append_assoc]
      · rw [hoffset, String.utf8ByteSize_ofList]
    · rintro ⟨front, back, htext, hfront, he, hoffset⟩
      refine ⟨front.toList, back.toList, ?_, hfront, he, ?_⟩
      · rw [htext, ← String.toList_inj]
        simp
      · rw [hoffset, String.utf8Len_toList]
  · obtain ⟨-, front, back, rfl, hfront, -, hoffset⟩ := check_eq_error_iff.1 he
    rw [hoffset, extract_utf8Len]
    refine ⟨isValid_utf8Len front back _, utf8Len_lt_utf8ByteSize front back _,
      utf8DecodeChar?_utf8Len front back _, ?_, ?_⟩
    · rw [check_eq_ok_iff, String.toList_ofList]
      exact hfront
    · rw [String.length_ofList, Charset.utf8Len_eq_length front hfront]

end GradedSymbols
