import GradedSymbols.Proofs.Name.Sampling
import GradedSymbols.Proofs.Text.Lines
import GradedSymbols.Strategy.Draws

/-!
# What can be drawn

A draw can give a value when some words make it do so: on every tape that begins with these words it
gives the value and takes just these words. Draws that are put together from others can give what
the parts can give, construct by construct. Of the primitive draws only a few laws are needed, which
say that numbers and characters are not left out and that a text is made by the words that are taken
for it. The primitive draws from words obey these laws.

## Main definitions

* `GradedSymbols.Draw.CanGive` — values that are made by some words.
* `GradedSymbols.Primitives.IsLawful` — the laws of primitive draws.

## Main results

* `GradedSymbols.Strategy.sample_eq_some_iff` — the sampled value is the one of the first choice that
  is not rejected.
* `GradedSymbols.Strategy.fst_sample_eq_none_iff` — when no value is sampled.
* `GradedSymbols.Primitives.length_name_le`, `GradedSymbols.Primitives.IsLawful.canGive_name` — the
  names that can be drawn.
* `GradedSymbols.Primitives.isLawful_ofWords` — the laws of the draws from words.
-/

namespace GradedSymbols

/-- A character is a *control character* when it is one of the first 32, one of the 32 that begin at
`U+0080`, or `U+007F`. -/
def IsControl (c : Char) : Prop := c.toNat < 0x20 ∨ 0x7f ≤ c.toNat ∧ c.toNat < 0xa0

theorem IsPlain.not_isControl {c : Char} (h : IsPlain c) : ¬ IsControl c :=
  not_or.2 ⟨h.1, h.2.1⟩

/-! ### Constructs -/

namespace Draw

variable {σ α β : Type}

theorem bind_apply (d : Draw σ α) (f : α → Draw σ β) (source : σ) :
    (d >>= f) source = f (d source).1 (d source).2 := rfl

theorem pure_apply (a : α) (source : σ) : (pure a : Draw σ α) source = (a, source) := rfl

theorem several_succ_apply (d : Draw σ α) (count : Nat) (source : σ) :
    d.several (count + 1) source =
      ((d source).1 :: (d.several count (d source).2).1, (d.several count (d source).2).2) := rfl

theorem length_fst_several (d : Draw σ α) (count : Nat) (source : σ) :
    (d.several count source).1.length = count := by
  induction count generalizing source with
  | zero => rfl
  | succ count ih => rw [several_succ_apply, List.length_cons, ih]

/-- A draw *can give* a value when there are words such that on every tape that begins with them it
gives the value and takes these words. -/
def CanGive (d : Draw Tape α) (value : α) : Prop :=
  ∃ ws, ∀ t : Tape, t.Reads ws → d t = (value, t.advance ws.length)

namespace CanGive

variable {d : Draw Tape α} {a : α}

theorem exists_eq (h : d.CanGive a) : ∃ t, (d t).1 = a := by
  obtain ⟨ws, hws⟩ := h
  exact ⟨_, congrArg Prod.fst (hws _ (Tape.reads_cycle ws))⟩

protected theorem pure (a : α) : CanGive (pure a) a := ⟨[], fun _ _ => rfl⟩

protected theorem bind {f : α → Draw Tape β} {b : β} (hd : d.CanGive a) (hf : (f a).CanGive b) :
    CanGive (d >>= f) b := by
  obtain ⟨ws, hws⟩ := hd
  obtain ⟨vs, hvs⟩ := hf
  refine ⟨ws ++ vs, fun t ht => ?_⟩
  obtain ⟨hread, hread'⟩ := (Tape.reads_append ws vs t).1 ht
  rw [bind_apply, hws t hread, hvs _ hread', Tape.advance_advance, List.length_append]

protected theorem several {values : List α} (h : ∀ a ∈ values, d.CanGive a) :
    (d.several values.length).CanGive values := by
  induction values with
  | nil => exact .pure []
  | cons a values ih =>
    obtain ⟨ha, hvalues⟩ := List.forall_mem_cons.1 h
    exact ha.bind ((ih hvalues).bind (.pure (a :: values)))

end CanGive

end Draw

/-! ### The first choice that is not rejected -/

namespace Strategy

variable {σ ρ α : Type} {s : Strategy ρ α} {d : Draw σ ρ} {limit : Nat} {source rest : σ} {value : α}

theorem sample_of_some (h : s.assemble (d source).1 = some value) :
    s.sample d limit source = (some value, (d source).2) := by
  cases limit with
  | zero => rw [sample, Draw.bind_apply, h, Draw.pure_apply]
  | succ limit =>
    rw [sample, Draw.bind_apply, h]
    exact Draw.pure_apply _ _

theorem sample_succ_of_none (h : s.assemble (d source).1 = none) :
    s.sample d (limit + 1) source = s.sample d limit (d source).2 := by
  rw [sample, Draw.bind_apply, h]

/-- A sampled value is made of a choice that is drawn behind rejected ones, not more than the limit
admits. -/
theorem exists_several_of_sample (h : s.sample d limit source = (some value, rest)) :
    ∃ rejected choice, rejected.length ≤ limit ∧ s.values rejected = [] ∧
      s.assemble choice = some value ∧
      d.several (rejected.length + 1) source = (rejected ++ [choice], rest) := by
  -- The source is general in the induction: a rejected choice leaves another one behind.
  induction limit generalizing source with
  | zero =>
    obtain ⟨hvalue, rfl⟩ := Prod.mk.inj h
    exact ⟨[], (d source).1, Nat.le_refl 0, rfl, hvalue, rfl⟩
  | succ limit ih =>
    cases hchoice : s.assemble (d source).1 with
    | some first =>
      rw [sample_of_some hchoice] at h
      obtain ⟨hvalue, rfl⟩ := Prod.mk.inj h
      exact ⟨[], (d source).1, Nat.zero_le _, rfl, hchoice.trans hvalue, rfl⟩
    | none =>
      rw [sample_succ_of_none hchoice] at h
      obtain ⟨rejected, choice, hlimit, hrejected, hvalue, hseveral⟩ := ih h
      refine ⟨(d source).1 :: rejected, choice, Nat.succ_le_succ hlimit, ?_, hvalue, ?_⟩
      · rw [values_cons_of_none hchoice, hrejected]
      · rw [List.length_cons, Draw.several_succ_apply, hseveral]
        rfl

/-- Behind rejected choices, not more than the limit admits, the next one makes the value. -/
theorem sample_of_several {rejected : List ρ} {choice : ρ} (hlimit : rejected.length ≤ limit)
    (hrejected : s.values rejected = []) (hvalue : s.assemble choice = some value)
    (hseveral : d.several (rejected.length + 1) source = (rejected ++ [choice], rest)) :
    s.sample d limit source = (some value, rest) := by
  induction rejected generalizing limit source with
  | nil =>
    obtain ⟨hlist, rfl⟩ := Prod.mk.inj hseveral
    obtain ⟨rfl, -⟩ := List.cons.inj hlist
    exact sample_of_some hvalue
  | cons first rejected ih =>
    obtain ⟨hlist, hrest⟩ := Prod.mk.inj hseveral
    obtain ⟨rfl, htail⟩ := List.cons.inj hlist
    cases hfirst : s.assemble (d source).1 with
    | some other =>
      rw [values_cons_of_some hfirst] at hrejected
      exact nomatch hrejected
    | none =>
      rw [values_cons_of_none hfirst] at hrejected
      cases limit with
      | zero => exact absurd hlimit (Nat.not_succ_le_zero _)
      | succ limit =>
        rw [sample_succ_of_none hfirst]
        exact ih (Nat.le_of_succ_le_succ hlimit) hrejected (Prod.ext htail hrest)

/-- **The first choice that is not rejected** makes the sampled value, if not more choices are rejected
before it than the limit admits. -/
theorem sample_eq_some_iff : s.sample d limit source = (some value, rest) ↔
    ∃ rejected choice, rejected.length ≤ limit ∧ s.values rejected = [] ∧
      s.assemble choice = some value ∧
      d.several (rejected.length + 1) source = (rejected ++ [choice], rest) := by
  refine ⟨exists_several_of_sample, ?_⟩
  rintro ⟨rejected, choice, hlimit, hrejected, hvalue, hseveral⟩
  exact sample_of_several hlimit hrejected hvalue hseveral

/-- No value is sampled exactly if one choice more is rejected than the limit admits. -/
theorem fst_sample_eq_none_iff : (s.sample d limit source).1 = none ↔
    s.values (d.several (limit + 1) source).1 = [] := by
  induction limit generalizing source with
  | zero =>
    change s.assemble (d source).1 = none ↔ s.values [(d source).1] = []
    simp [values]
  | succ limit ih =>
    rw [Draw.several_succ_apply]
    cases hchoice : s.assemble (d source).1 with
    | some first =>
      rw [sample_of_some hchoice, values_cons_of_some hchoice]
      simp
    | none => rw [sample_succ_of_none hchoice, ih, values_cons_of_none hchoice]

theorem canGive_sample {d : Draw Tape ρ} {choice : ρ} (hd : d.CanGive choice)
    (h : s.assemble choice = some value) (limit : Nat) :
    (s.sample d limit).CanGive (some value) := by
  obtain ⟨ws, hws⟩ := hd
  refine ⟨ws, fun t ht => ?_⟩
  have ht := hws t ht
  rw [sample_of_some ((congrArg (s.assemble ·.1) ht).trans h), ht]

end Strategy

/-! ### Laws of primitive draws -/

namespace Primitives

/-- Primitive draws from tapes are *lawful* when a drawn number is at most its bound, every number
up to the bound and every character can be drawn, a drawn text is made by the words that are taken
for it, and there is no control character in it. -/
structure IsLawful (r : Primitives Tape) : Prop where
  upTo_le (high : UInt64) (t : Tape) : (r.upTo high t).1 ≤ high.toNat
  canGive_upTo {high : UInt64} {i : Nat} (hi : i ≤ high.toNat) : (r.upTo high).CanGive i
  canGive_character (c : Char) : r.character.CanGive c
  canGive_text (t : Tape) : r.text.CanGive (r.text t).1
  not_isControl (t : Tape) : ∀ c ∈ (r.text t).1.toList, ¬ IsControl c

section Names

variable {σ : Type} {r : Primitives σ}

theorem length_name_le (h : ∀ high source, (r.upTo high source).1 ≤ high.toNat) (source : σ) :
    (r.name source).1.text.length ≤ 24 := by
  have hname : (r.name source).1.text = NameSampler.textOfPlaces (r.places source).1 := rfl
  have hlength : (r.places source).1.length = (r.upTo 24 source).1 :=
    Draw.length_fst_several _ _ _
  rw [hname, NameSampler.textOfPlaces, String.length_ofList, List.length_map, hlength]
  exact h 24 source

end Names

theorem IsLawful.canGive_name {r : Primitives Tape} (h : r.IsLawful) {name : Name}
    (hlength : name.text.length ≤ 24) : r.name.CanGive name := by
  obtain ⟨places, hplaces, htext⟩ :=
    NameSampler.exists_places_of_contains name.text.toList name.contains_of_mem
  have hname : Name.ofPlaces places = name := by
    cases name
    simp only [Name.ofPlaces, NameSampler.textOfPlaces, htext, String.ofList_toList]
  have hle : places.length ≤ longestName := by
    rwa [← String.length_toList, ← htext, List.length_map] at hlength
  have hseveral : ((r.upTo 62).several places.length).CanGive places :=
    .several fun i hi => h.canGive_upTo (Nat.le_of_lt_succ (hplaces i hi))
  exact ((h.canGive_upTo hle).bind hseveral).bind (hname ▸ .pure _)

/-! ### The draws from words -/

theorem canGive_upToOfWords {high : UInt64} {i : Nat} (hi : i ≤ high.toNat) :
    (upToOfWords (σ := Tape) high).CanGive i := exists_reads_drawUpTo hi

/-- Every character has a place. -/
theorem exists_characterAt_eq (c : Char) : ∃ i ≤ 0x10f7ff, characterAt i = c := by
  have hcases : c.toNat < 0xd800 ∨ 0xdfff < c.toNat ∧ c.toNat < 0x110000 := c.valid
  rcases hcases with hlow | ⟨hfirst, hlast⟩
  · refine ⟨c.toNat, by omega, ?_⟩
    rw [characterAt, if_pos hlow, Char.ofNat_toNat]
  · refine ⟨c.toNat - 0x800, by omega, ?_⟩
    rw [characterAt, if_neg (by omega), Nat.sub_add_cancel (by omega), Char.ofNat_toNat]

theorem canGive_characterOfWords (c : Char) : Draw.CanGive characterOfWords c := by
  obtain ⟨i, hi, rfl⟩ := exists_characterAt_eq c
  exact (canGive_upToOfWords (i := 1) (by decide)).bind
    ((canGive_upToOfWords hi).bind (.pure _))

/-- The texts that can be drawn from words. -/
theorem canGive_textOfWords {text : String} (hlength : text.length ≤ 32)
    (h : ∀ c ∈ text.toList, Unprintable.contains c = false) : Draw.CanGive textOfWords text := by
  have hle : text.toList.length ≤ (32 : UInt64).toNat := by rwa [String.length_toList]
  have hseveral : (Draw.several characterOfWords text.toList.length).CanGive text.toList :=
    .several fun c _ => canGive_characterOfWords c
  have hfilter : String.ofList (text.toList.filter fun c => !Unprintable.contains c) = text := by
    rw [List.filter_eq_self.2 fun c hc => by rw [h c hc, Bool.not_false], String.ofList_toList]
  have hpure : Draw.CanGive
      (pure (String.ofList (text.toList.filter fun c => !Unprintable.contains c))) text := by
    rw [hfilter]
    exact .pure text
  exact (canGive_upToOfWords hle).bind (hseveral.bind hpure)

/-- What is drawn from words is made of some of the drawn characters. -/
theorem fst_textOfWords (t : Tape) : ∃ cs : List Char, cs.length ≤ 32 ∧
    (textOfWords t).1 = String.ofList (cs.filter fun c => !Unprintable.contains c) := by
  refine ⟨(characterOfWords.several (upToOfWords 32 t).1 (upToOfWords 32 t).2).1, ?_, rfl⟩
  rw [Draw.length_fst_several]
  exact fst_drawUpTo_le 32 t

theorem length_textOfWords_le (t : Tape) : (textOfWords t).1.length ≤ 32 := by
  obtain ⟨cs, hlength, htext⟩ := fst_textOfWords t
  rw [htext, String.length_ofList]
  exact (List.length_filter_le _ cs).trans hlength

theorem contains_of_mem_textOfWords (t : Tape) :
    ∀ c ∈ (textOfWords t).1.toList, Unprintable.contains c = false := by
  intro c hc
  obtain ⟨cs, -, htext⟩ := fst_textOfWords t
  rw [htext, String.toList_ofList] at hc
  simpa using List.of_mem_filter hc

theorem isLawful_ofWords : (ofWords : Primitives Tape).IsLawful where
  upTo_le := fst_drawUpTo_le
  canGive_upTo := canGive_upToOfWords
  canGive_character := canGive_characterOfWords
  canGive_text t := canGive_textOfWords (length_textOfWords_le t) (contains_of_mem_textOfWords t)
  not_isControl t c hc := by
    have hshown := contains_of_mem_textOfWords t c hc
    refine IsPlain.not_isControl (not_not.1 fun hplain => ?_)
    rw [Unprintable.contains_of_not_isPlain hplain] at hshown
    exact Bool.noConfusion hshown

end Primitives

end GradedSymbols
