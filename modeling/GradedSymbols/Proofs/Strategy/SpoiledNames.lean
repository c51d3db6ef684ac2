import GradedSymbols.Proofs.Name.Append
import GradedSymbols.Proofs.Strategy.Draws
import Mathlib.Data.Set.Function

/-!
# The parts of texts that are no names

A text that is no name is made of a name, a character outside the charset and any text behind it, in
exactly one way. The report on such a text gives the parts back: its character is the second part,
and its offset says where the text has to be cut. A text that is no name is drawn by drawing its
three parts, so nothing but such texts is drawn, whatever the primitive draws are. If these are
lawful, all such texts are drawn whose first part is short enough and whose last part is a text that
can be drawn. Texts with a control character in their last part are left out.

## Main definitions

* `GradedSymbols.Spoiled.parts` — the three parts as texts.
* `GradedSymbols.InvalidName.parts` — the three parts that a report cuts its text into.

## Main results

* `GradedSymbols.Spoiled.check_text` — the report on a text that is put together.
* `GradedSymbols.Spoiled.parts_of_check` — the parts are given back by the report.
* `GradedSymbols.Spoiled.text_bijOn` — the texts that are no names have their parts in one way.
* `GradedSymbols.Primitives.fst_spoiledName_eq_some_iff`,
  `GradedSymbols.Primitives.fst_spoiledName_eq_none_iff` — how the parts are drawn.
* `GradedSymbols.Primitives.IsLawful.spoiledTexts_eq` — which texts are drawn.
* `GradedSymbols.Spoiled.unique_decomposition` — the laws of decomposition.
* `GradedSymbols.Spoiled.hyphen_lineFeed_not_drawn` — a short text that is no name and is not drawn.
-/

namespace GradedSymbols

open String (utf8Len)

/-- The parts that a report cuts its text into: the text in front of the character, the character
and the text behind it. -/
def InvalidName.parts (e : InvalidName) : String × Char × String :=
  (String.Pos.Raw.extract e.name 0 ⟨e.offset⟩, e.invalid,
    String.Pos.Raw.extract e.name ⟨e.offset + e.invalid.utf8Size⟩ e.name.rawEndPos)

namespace Spoiled

/-- The three parts as texts. -/
def parts (p : Spoiled) : String × Char × String := (p.front.text, p.invalid, p.back)

theorem eq_of_parts {p q : Spoiled} (h : p.parts = q.parts) : p = q := by
  obtain ⟨⟨a, ha⟩, c, s, hc⟩ := p
  obtain ⟨⟨b, hb⟩, d, t, hd⟩ := q
  simp only [parts, Prod.mk.injEq] at h
  obtain ⟨rfl, rfl, rfl⟩ := h
  rfl

/-- The parts are any accepted text, any character outside the charset and any text. -/
theorem exists_parts_eq_iff {front back : String} {c : Char} :
    (∃ p : Spoiled, p.parts = (front, c, back)) ↔
      Name.check front = .ok () ∧ Charset.contains c = false := by
  rw [Name.check_eq_ok_iff]
  constructor
  · rintro ⟨p, hp⟩
    simp only [parts, Prod.mk.injEq] at hp
    obtain ⟨rfl, rfl, rfl⟩ := hp
    exact ⟨p.front.contains_of_mem, p.contains_invalid⟩
  · rintro ⟨hfront, hc⟩
    exact ⟨⟨⟨front, hfront⟩, c, back, hc⟩, rfl⟩

theorem text_eq_push (p : Spoiled) : p.text = p.front.text.push p.invalid ++ p.back := by
  rw [String.push_eq_append]
  rfl

theorem text_eq_ofList (p : Spoiled) : p.text =
    String.ofList (p.front.text.toList ++ [p.invalid] ++ p.back.toList) := by
  rw [← String.toList_inj]
  simp [text]

/-! ### Reports and parts -/

theorem check_singleton {c : Char} (hc : Charset.contains c = false) :
    Name.check (String.singleton c) = .error ⟨String.singleton c, c, 0⟩ := by
  simp [Name.check, Name.firstOutside?, hc]

/-- The text that is put together is reported with the second part at the end of the first one. -/
theorem check_text (p : Spoiled) :
    Name.check p.text = .error ⟨p.text, p.invalid, p.front.byteSize⟩ := by
  have hfront : Name.check p.front.text = .ok () :=
    Name.check_eq_ok_iff.2 p.front.contains_of_mem
  have hreport := Name.check_append_of_ok_of_error hfront (check_singleton p.contains_invalid)
  exact Name.check_append_of_error hreport

/-- The report on a text that is put together gives the parts back. -/
theorem parts_of_check {p : Spoiled} {e : InvalidName} (h : Name.check p.text = .error e) :
    e.parts = p.parts := by
  obtain rfl := Except.error.inj (p.check_text.symm.trans h)
  have hbyteSize : utf8Len p.front.text.toList = p.front.byteSize := String.utf8Len_toList _
  have hfront : String.Pos.Raw.extract p.text 0 ⟨p.front.byteSize⟩ = p.front.text := by
    have hcut := String.extract_of_valid [] p.front.text.toList ([p.invalid] ++ p.back.toList)
    rw [List.nil_append, ← List.append_assoc, ← text_eq_ofList, String.ofList_toList] at hcut
    simpa [hbyteSize] using hcut
  have hback : String.Pos.Raw.extract p.text ⟨p.front.byteSize + p.invalid.utf8Size⟩
      p.text.rawEndPos = p.back := by
    have hcut := String.extract_of_valid (p.front.text.toList ++ [p.invalid]) p.back.toList []
    have hend : p.text.rawEndPos =
        ⟨utf8Len (p.front.text.toList ++ [p.invalid]) + utf8Len p.back.toList⟩ := by
      rw [text_eq_ofList, String.rawEndPos_ofList, String.utf8Len_append]
    rw [List.append_nil, ← text_eq_ofList, ← hend, String.ofList_toList] at hcut
    simpa [hbyteSize] using hcut
  simp only [InvalidName.parts, parts, hfront, hback]

theorem exists_text_eq {text : String} {e : InvalidName} (h : Name.check text = .error e) :
    ∃ p : Spoiled, p.text = text := by
  obtain ⟨-, front, back, htext, hfront, hinvalid, -⟩ := Name.check_eq_error_iff.1 h
  refine ⟨⟨⟨.ofList front, by simpa using hfront⟩, e.invalid, .ofList back, hinvalid⟩, ?_⟩
  rw [text_eq_ofList, htext]
  simp

/-- **Parts.** Putting three parts together is a bijection onto the texts that are no names. -/
theorem text_bijOn :
    Set.BijOn text Set.univ {text | ∃ e, Name.check text = .error e} := by
  refine ⟨fun p _ => ⟨_, p.check_text⟩, fun p _ q _ h => ?_, fun text ⟨e, he⟩ => ?_⟩
  · have hq : Name.check q.text = .error ⟨p.text, p.invalid, p.front.byteSize⟩ :=
      h ▸ p.check_text
    exact eq_of_parts ((parts_of_check p.check_text).symm.trans (parts_of_check hq))
  · obtain ⟨p, hp⟩ := exists_text_eq he
    exact ⟨p, trivial, hp⟩

end Spoiled

/-! ### How the parts are drawn -/

namespace Strategy

theorem outsiders_assemble_eq_some_iff {c : Char} {outsider : Outsider} :
    outsiders.assemble c = some outsider ↔ c = outsider := by
  obtain ⟨d, hd⟩ := outsider
  by_cases hc : Charset.contains c = false
  · simp [outsiders, hc]
  · simp only [outsiders, hc, ↓reduceDIte, reduceCtorEq, false_iff]
    rintro rfl
    exact hc hd

theorem outsiders_values_eq_nil_iff {cs : List Char} :
    outsiders.values cs = [] ↔ ∀ c ∈ cs, Charset.contains c = true := by
  simp [values, outsiders, List.filterMap_eq_nil_iff]

end Strategy

namespace Primitives

section Source

variable {σ : Type} {r : Primitives σ} {limit : Nat} {source rest : σ} {p : Spoiled}

/-- A character outside the charset is drawn behind characters of the charset, not more than the
limit admits. -/
theorem outsider_eq_some_iff {c : Outsider} : r.outsider limit source = (some c, rest) ↔
    ∃ inside, inside.length ≤ limit ∧ (∀ d ∈ inside, Charset.contains d = true) ∧
      r.character.several (inside.length + 1) source = (inside ++ [c.val], rest) := by
  rw [outsider, Strategy.sample_eq_some_iff]
  simp only [Strategy.outsiders_values_eq_nil_iff, Strategy.outsiders_assemble_eq_some_iff]
  constructor
  · rintro ⟨inside, -, hlimit, hinside, rfl, hseveral⟩
    exact ⟨inside, hlimit, hinside, hseveral⟩
  · rintro ⟨inside, hlimit, hinside, hseveral⟩
    exact ⟨inside, _, hlimit, hinside, rfl, hseveral⟩

theorem outsider_eq_none_or_some (r : Primitives σ) (limit : Nat) (source : σ) :
    (r.outsider limit source).1 = none ∨ ∃ c rest, r.outsider limit source = (some c, rest) := by
  cases h : (r.outsider limit source).1 with
  | none => exact .inl rfl
  | some c => exact .inr ⟨c, _, Prod.ext h rfl⟩

theorem spoiledName_of_outsider_eq_none
    (h : (r.outsider limit (r.name source).2).1 = none) :
    (r.spoiledName limit source).1 = none := by
  rw [spoiledName, Draw.bind_apply, Draw.bind_apply, h]
  rfl

theorem spoiledName_of_outsider_eq_some {c : Outsider}
    (h : r.outsider limit (r.name source).2 = (some c, rest)) :
    (r.spoiledName limit source).1 =
      some ⟨(r.name source).1, c, (r.text rest).1, c.property⟩ := by
  rw [spoiledName, Draw.bind_apply, Draw.bind_apply, h]
  rfl

/-- The parts are drawn one after the other: the name, then characters until one is outside the
charset, then the text behind it. -/
theorem fst_spoiledName_eq_some_iff : (r.spoiledName limit source).1 = some p ↔
    p.front = (r.name source).1 ∧ ∃ inside rest, inside.length ≤ limit ∧
      (∀ c ∈ inside, Charset.contains c = true) ∧
      r.character.several (inside.length + 1) (r.name source).2 = (inside ++ [p.invalid], rest) ∧
      (r.text rest).1 = p.back := by
  constructor
  · intro h
    -- If no character is drawn, neither are the parts.
    obtain houtsider | ⟨c, rest, houtsider⟩ := r.outsider_eq_none_or_some limit (r.name source).2
    · rw [spoiledName_of_outsider_eq_none houtsider] at h
      exact nomatch h
    · rw [spoiledName_of_outsider_eq_some houtsider, Option.some_inj] at h
      obtain ⟨inside, hlimit, hinside, hseveral⟩ := outsider_eq_some_iff.1 houtsider
      subst h
      exact ⟨rfl, inside, rest, hlimit, hinside, hseveral, rfl⟩
  · rintro ⟨hfront, inside, rest, hlimit, hinside, hseveral, hback⟩
    have houtsider : r.outsider limit (r.name source).2 =
        (some ⟨p.invalid, p.contains_invalid⟩, rest) :=
      outsider_eq_some_iff.2 ⟨inside, hlimit, hinside, hseveral⟩
    rw [spoiledName_of_outsider_eq_some houtsider, Option.some_inj]
    apply Spoiled.eq_of_parts
    rw [Spoiled.parts, Spoiled.parts, hfront, hback]

/-- Nothing is drawn exactly if one character of the charset more is drawn than the limit admits. -/
theorem fst_spoiledName_eq_none_iff : (r.spoiledName limit source).1 = none ↔
    ∀ c ∈ (r.character.several (limit + 1) (r.name source).2).1, Charset.contains c = true := by
  rw [← Strategy.outsiders_values_eq_nil_iff, ← Strategy.fst_sample_eq_none_iff]
  refine ⟨fun h => ?_, spoiledName_of_outsider_eq_none⟩
  obtain houtsider | ⟨c, rest, houtsider⟩ := r.outsider_eq_none_or_some limit (r.name source).2
  · exact houtsider
  · rw [spoiledName_of_outsider_eq_some houtsider] at h
    exact nomatch h

end Source

/-! ### Which texts are drawn -/

namespace IsLawful

variable {r : Primitives Tape} (h : r.IsLawful)
include h

/-- Three parts can be drawn if the first one is not too long and the last one is a text that is
drawn. -/
theorem canGive_spoiledName {p : Spoiled} (hlength : p.front.text.length ≤ 24)
    (hback : ∃ t, (r.text t).1 = p.back) (limit : Nat) :
    (r.spoiledName limit).CanGive (some p) := by
  obtain ⟨t, ht⟩ := hback
  have houtsider : (r.outsider limit).CanGive (some ⟨p.invalid, p.contains_invalid⟩) :=
    Strategy.canGive_sample (h.canGive_character p.invalid)
      (Strategy.outsiders_assemble_eq_some_iff.2 rfl) limit
  have htext : r.text.CanGive p.back := ht ▸ h.canGive_text t
  exact (h.canGive_name hlength).bind (houtsider.bind (htext.bind (.pure (some p))))

/-- **Texts that are drawn.** They are the texts that are no names, as far as their first part is
not too long and their last part is a text that is drawn. -/
theorem spoiledTexts_eq (limit : Nat) :
    {text | ∃ t p, (r.spoiledName limit t).1 = some p ∧ p.text = text} =
      {text | ∃ e, Name.check text = .error e ∧ e.parts.1.length ≤ 24 ∧
        ∃ t, (r.text t).1 = e.parts.2.2} := by
  ext text
  constructor
  · rintro ⟨t, p, hp, rfl⟩
    obtain ⟨hfront, -, rest, -, -, -, hback⟩ := fst_spoiledName_eq_some_iff.1 hp
    refine ⟨_, p.check_text, ?_⟩
    rw [Spoiled.parts_of_check p.check_text, Spoiled.parts, hfront]
    exact ⟨length_name_le h.upTo_le t, rest, hback⟩
  · rintro ⟨e, he, hlength, hback⟩
    obtain ⟨p, rfl⟩ := Spoiled.exists_text_eq he
    rw [Spoiled.parts_of_check he] at hlength hback
    obtain ⟨t, ht⟩ := (h.canGive_spoiledName hlength hback limit).exists_eq
    exact ⟨t, p, ht, rfl⟩

/-- There is no control character behind the character outside the charset. -/
theorem not_isControl_of_mem_back {limit : Nat} {t : Tape} {p : Spoiled}
    (hp : (r.spoiledName limit t).1 = some p) : ∀ c ∈ p.back.toList, ¬ IsControl c := by
  obtain ⟨-, -, rest, -, -, -, hback⟩ := fst_spoiledName_eq_some_iff.1 hp
  exact hback ▸ h.not_isControl rest

end IsLawful

end Primitives

/-! ### The laws of decomposition -/

/-- **Unique decomposition.**

* Two texts, one behind the other, are accepted exactly if both are; a report on the first one
  stands, and a report on the second one is shifted by the bytes of the first one if that is
  accepted.
* The three parts of a text that is no name are any accepted text, any character outside the charset
  and any text. The text is put together by writing the character behind the first part, and the
  third part behind both. This is a bijection onto the texts that are no names.
* The report on such a text has its second part as the character and the bytes of its first part as
  the offset, and cutting the text there gives the parts back.
* Whatever the source and the primitive draws are, the three parts are drawn one after the other: a
  name, the first of the drawn characters that is outside the charset, and a text. Only the character
  is drawn again, and nothing is drawn if and only if all characters that the limit admits are in the
  charset. What is drawn is no name, and is reported with the drawn character at the end of the drawn
  name, which has at most 24 characters if drawn numbers keep to their bound.
* If the primitive draws are lawful, the texts that are drawn are all texts that are no names, have
  at most 24 characters in front of the reported one and behind it a text that can be drawn. -/
theorem Spoiled.unique_decomposition :
    (∀ p s : String,
      (Name.check (p ++ s) = .ok () ↔ Name.check p = .ok () ∧ Name.check s = .ok ()) ∧
      (∀ e, Name.check p = .error e →
        Name.check (p ++ s) = .error ⟨p ++ s, e.invalid, e.offset⟩) ∧
      ∀ e, Name.check p = .ok () → Name.check s = .error e →
        Name.check (p ++ s) = .error ⟨p ++ s, e.invalid, p.utf8ByteSize + e.offset⟩) ∧
    (∀ (front : String) (c : Char) (back : String),
      (∃ p : Spoiled, p.parts = (front, c, back)) ↔
        Name.check front = .ok () ∧ Charset.contains c = false) ∧
    (∀ p q : Spoiled, p.parts = q.parts → p = q) ∧
    (∀ p : Spoiled, p.text = p.front.text.push p.invalid ++ p.back) ∧
    Set.BijOn text Set.univ {text | ∃ e, Name.check text = .error e} ∧
    (∀ (p : Spoiled) (e : InvalidName), Name.check p.text = .error e →
      e.invalid = p.invalid ∧ e.offset = p.front.text.utf8ByteSize ∧ e.parts = p.parts) ∧
    (∀ (σ : Type) (r : Primitives σ) (limit : Nat) (source : σ),
      ((r.spoiledName limit source).1 = none ↔
        ∀ c ∈ (r.character.several (limit + 1) (r.name source).2).1,
          Charset.contains c = true) ∧
      ∀ p : Spoiled,
        ((r.spoiledName limit source).1 = some p ↔
          p.front = (r.name source).1 ∧ ∃ inside rest, inside.length ≤ limit ∧
            (∀ c ∈ inside, Charset.contains c = true) ∧
            r.character.several (inside.length + 1) (r.name source).2 =
              (inside ++ [p.invalid], rest) ∧
            (r.text rest).1 = p.back) ∧
        ((r.spoiledName limit source).1 = some p →
          Name.check p.text =
            .error ⟨p.text, p.invalid, (r.name source).1.text.utf8ByteSize⟩ ∧
          ((∀ high source, (r.upTo high source).1 ≤ high.toNat) →
            p.front.text.length ≤ 24))) ∧
    ∀ r : Primitives Tape, r.IsLawful → ∀ limit,
      {text | ∃ t p, (r.spoiledName limit t).1 = some p ∧ p.text = text} =
        {text | ∃ e, Name.check text = .error e ∧ e.parts.1.length ≤ 24 ∧
          ∃ t, (r.text t).1 = e.parts.2.2} := by
  refine ⟨fun p s => ⟨Name.check_append_eq_ok_iff, fun e => Name.check_append_of_error,
    fun e => Name.check_append_of_ok_of_error⟩, fun _ _ _ => exists_parts_eq_iff,
    fun _ _ => eq_of_parts, text_eq_push, text_bijOn, fun p e he => ?_,
    fun σ r limit source => ⟨Primitives.fst_spoiledName_eq_none_iff,
      fun p => ⟨Primitives.fst_spoiledName_eq_some_iff, fun hp => ?_⟩⟩,
    fun r hr => hr.spoiledTexts_eq⟩
  · obtain rfl := Except.error.inj (p.check_text.symm.trans he)
    exact ⟨rfl, rfl, parts_of_check p.check_text⟩
  · obtain ⟨hfront, -⟩ := Primitives.fst_spoiledName_eq_some_iff.1 hp
    rw [← hfront]
    exact ⟨p.check_text, fun hupTo => hfront ▸ Primitives.length_name_le hupTo source⟩

/-- The draws from words are lawful, and some tape makes them give `x-λ`. -/
theorem Spoiled.hyphen_lambda_drawn : (Primitives.ofWords : Primitives Tape).IsLawful ∧
    Name.check "x-λ" = .error ⟨"x-λ", '-', 1⟩ ∧
    ∃ t p, ((Primitives.ofWords : Primitives Tape).spoiledName 0 t).1 = some p ∧
      p.text = "x-λ" := by
  have hcheck : Name.check "x-λ" = .error ⟨"x-λ", '-', 1⟩ := by decide
  have hparts : InvalidName.parts ⟨"x-λ", '-', 1⟩ = ("x", '-', "λ") := by decide
  have hshown : ∀ c ∈ "λ".toList, Unprintable.contains c = false := by
    rintro c hc
    obtain rfl : c = 'λ' := by simpa using hc
    decide +kernel
  have hlambda : Draw.CanGive Primitives.textOfWords "λ" :=
    Primitives.canGive_textOfWords (by decide) hshown
  obtain ⟨-, -, -, -, -, -, -, htexts⟩ := Spoiled.unique_decomposition
  refine ⟨Primitives.isLawful_ofWords, hcheck, ?_⟩
  apply (Set.ext_iff.1 (htexts _ Primitives.isLawful_ofWords 0) "x-λ").2
  refine ⟨_, hcheck, ?_⟩
  rw [hparts]
  exact ⟨by decide, hlambda.exists_eq⟩

/-- **A text that is not drawn.** A hyphen with a line feed behind it is no name, and there is
nothing in front of the reported character; but lawful draws never give this text, for the line feed
is a control character. -/
theorem Spoiled.hyphen_lineFeed_not_drawn :
    Name.check "-\n" = .error ⟨"-\n", '-', 0⟩ ∧
    InvalidName.parts ⟨"-\n", '-', 0⟩ = ("", '-', "\n") ∧
    (∃ r : Primitives Tape, r.IsLawful) ∧
    ∀ r : Primitives Tape, r.IsLawful → ∀ limit t p,
      (r.spoiledName limit t).1 = some p → p.text ≠ "-\n" := by
  have hcheck : Name.check "-\n" = .error ⟨"-\n", '-', 0⟩ := by decide
  have hparts : InvalidName.parts ⟨"-\n", '-', 0⟩ = ("", '-', "\n") := by decide
  refine ⟨hcheck, hparts, ⟨_, Primitives.isLawful_ofWords⟩, fun r hr limit t p hp htext => ?_⟩
  have hreport : Name.check p.text = .error ⟨"-\n", '-', 0⟩ := by rw [htext, hcheck]
  have hback : p.back = "\n" :=
    congrArg (fun parts => parts.2.2) ((parts_of_check hreport).symm.trans hparts)
  have hnot := hr.not_isControl_of_mem_back hp '\n' (by rw [hback]; decide)
  exact hnot (Or.inl (by decide))

end GradedSymbols
