import GradedSymbols.Proofs.Name.Scan
import GradedSymbols.Proofs.Random.Stretch
import GradedSymbols.Strategy.Names
import Mathlib.Data.List.Forall2
import Mathlib.Data.List.GetD
import Mathlib.Data.Set.Basic

/-!
# The language of the sampler of names

The sampler of names numbers the characters of the charset, and the check of names looks for the
first character outside the charset. This file proves that both describe the same language: the
sampler draws exactly the texts that the check accepts, as long as they are not longer than its
bound. It also counts the words that are taken for a text, one or two for its length and for each of
its characters.

## Main definitions

* `GradedSymbols.Charset.charOfByte?` — the characters of the charset by the bytes of its text.
* `GradedSymbols.NameSampler.places` — the numbers that are drawn for the characters of a text.

## Main results

* `GradedSymbols.NameSampler.check_sample`, `GradedSymbols.NameSampler.length_sample_le` — what is
  drawn is a name within the bound, whatever the source is.
* `GradedSymbols.NameSampler.exists_reads_sample` — every name within the bound is drawn.
* `GradedSymbols.NameSampler.sample_draws_exactly_names` — the language of the sampler, and the
  words that it takes.
-/

namespace GradedSymbols

/-! ### Numbers of characters -/

namespace Charset

/-- The character that is the byte at a position in the text of the charset, if there is one. -/
def charOfByte? (i : Nat) : Option Char :=
  text.toByteArray.data[i]?.map fun b => Char.ofNat b.toNat

theorem charOfByte?_eq_charAt {i : Nat} (hi : i < 63) : charOfByte? i = some (charAt i) := by
  have hbytes : ∀ j < 63, charOfByte? j = some (charAt j) := by decide +kernel
  exact hbytes i hi

theorem exists_charAt_eq {c : Char} (h : contains c = true) : ∃ i < 63, charAt i = c := by
  have hc := contains_iff_mem.1 h
  have hlt : chars.idxOf c < chars.length := List.idxOf_lt_length_iff.2 hc
  refine ⟨chars.idxOf c, length_chars ▸ hlt, ?_⟩
  rw [charAt, List.getD_eq_getElem _ _ hlt, List.getElem_idxOf]

end Charset

theorem NameSampler.exists_places_of_contains (cs : List Char)
    (h : ∀ c ∈ cs, Charset.contains c = true) :
    ∃ places : List Nat, (∀ i ∈ places, i < 63) ∧ places.map Charset.charAt = cs := by
  induction cs with
  | nil => exact ⟨[], by simp, rfl⟩
  | cons c cs ih =>
    obtain ⟨i, hi, hic⟩ := Charset.exists_charAt_eq (h c List.mem_cons_self)
    obtain ⟨places, hplaces, hcs⟩ := ih fun d hd => h d (List.mem_cons_of_mem _ hd)
    refine ⟨i :: places, List.forall_mem_cons.2 ⟨hi, hplaces⟩, ?_⟩
    rw [List.map_cons, hic, hcs]

namespace NameSampler

/-! ### What is drawn -/

section Source

variable {σ : Type} [WordSource σ]

/-- The numbers that are drawn for the characters of a text. -/
def places (s : NameSampler) (source : σ) : List Nat :=
  (drawPlaces (drawUpTo s.maxLength source).1 (drawUpTo s.maxLength source).2).1

theorem fst_sample (s : NameSampler) (source : σ) :
    (s.sample source).1 = textOfPlaces (s.places source) := rfl

theorem length_drawPlaces (n : Nat) (source : σ) : (drawPlaces n source).1.length = n := by
  induction n generalizing source with
  | zero => rfl
  | succ n ih => rw [drawPlaces, List.length_cons, ih]

theorem lt_of_mem_drawPlaces (n : Nat) (source : σ) : ∀ i ∈ (drawPlaces n source).1, i < 63 := by
  induction n generalizing source with
  | zero => simp [drawPlaces]
  | succ n ih =>
    rw [drawPlaces]
    exact List.forall_mem_cons.2 ⟨Nat.lt_succ_of_le (fst_drawUpTo_le 62 source), ih _⟩

theorem lt_of_mem_places (s : NameSampler) (source : σ) : ∀ i ∈ s.places source, i < 63 :=
  lt_of_mem_drawPlaces _ _

theorem length_sample (s : NameSampler) (source : σ) :
    (s.sample source).1.length = (drawUpTo s.maxLength source).1 := by
  rw [fst_sample, textOfPlaces, String.length_ofList, List.length_map, places, length_drawPlaces]

theorem length_sample_le (s : NameSampler) (source : σ) :
    (s.sample source).1.length ≤ s.maxLength.toNat := by
  rw [length_sample]
  exact fst_drawUpTo_le _ _

theorem check_sample (s : NameSampler) (source : σ) :
    Name.check (s.sample source).1 = .ok () :=
  Name.check_eq_ok_iff.2 (Name.ofPlaces (s.places source)).contains_of_mem

/-- The characters of a drawn text are the bytes of the charset with the numbers that are drawn. -/
theorem forall₂_charOfByte? (s : NameSampler) (source : σ) :
    List.Forall₂ (fun i c => Charset.charOfByte? i = some c) (s.places source)
      (s.sample source).1.toList := by
  rw [fst_sample, textOfPlaces, String.toList_ofList, List.forall₂_map_right_iff,
    List.forall₂_same]
  exact fun i hi => Charset.charOfByte?_eq_charAt (s.lt_of_mem_places source i hi)

theorem length_samples (s : NameSampler) (count : Nat) (source : σ) :
    (s.samples count source).1.length = count := by
  induction count generalizing source with
  | zero => rfl
  | succ count ih => rw [samples, List.length_cons, ih]

theorem check_of_mem_samples (s : NameSampler) (count : Nat) (source : σ) :
    ∀ text ∈ (s.samples count source).1, Name.check text = .ok () := by
  induction count generalizing source with
  | zero => simp [samples]
  | succ count ih =>
    rw [samples]
    exact List.forall_mem_cons.2 ⟨s.check_sample source, ih _⟩

end Source

/-! ### The words that are taken -/

theorem snd_drawPlaces (n : Nat) (t : Tape) :
    ∃ taken, (drawPlaces n t).2 = t.advance taken ∧ n ≤ taken ∧ taken ≤ 2 * n := by
  induction n generalizing t with
  | zero => exact ⟨0, rfl, Nat.le_refl 0, Nat.le_refl 0⟩
  | succ n ih =>
    rw [drawPlaces]
    rcases snd_drawUpTo 62 t with h | h
    · obtain ⟨taken, hrest, hle, hle'⟩ := ih (t.advance 1)
      refine ⟨1 + taken, ?_, by omega, by omega⟩
      rw [← t.advance_advance, ← hrest, ← h]
    · obtain ⟨taken, hrest, hle, hle'⟩ := ih (t.advance 2)
      refine ⟨2 + taken, ?_, by omega, by omega⟩
      rw [← t.advance_advance, ← hrest, ← h]

/-- One or two words are taken for the length of a text, and for each of its characters. -/
theorem snd_sample (s : NameSampler) (t : Tape) :
    ∃ taken, (s.sample t).2 = t.advance taken ∧ (s.sample t).1.length + 1 ≤ taken ∧
      taken ≤ 2 * ((s.sample t).1.length + 1) := by
  obtain ⟨taken, hrest, hle, hle'⟩ :=
    snd_drawPlaces (drawUpTo s.maxLength t).1 (drawUpTo s.maxLength t).2
  have hsnd : (s.sample t).2 = (drawUpTo s.maxLength t).2.advance taken := hrest
  rw [length_sample]
  rcases snd_drawUpTo s.maxLength t with h | h
  · exact ⟨1 + taken, by rw [hsnd, h, t.advance_advance], by omega, by omega⟩
  · exact ⟨2 + taken, by rw [hsnd, h, t.advance_advance], by omega, by omega⟩

/-! ### Every name is drawn -/

theorem exists_reads_drawPlaces (places : List Nat) (h : ∀ i ∈ places, i < 63) :
    ∃ ws, ∀ t : Tape, t.Reads ws →
      drawPlaces places.length t = (places, t.advance ws.length) := by
  induction places with
  | nil => exact ⟨[], fun _ _ => rfl⟩
  | cons i places ih =>
    have hi : i ≤ (62 : UInt64).toNat := Nat.le_of_lt_succ (h i List.mem_cons_self)
    obtain ⟨ws, hws⟩ := exists_reads_drawUpTo hi
    obtain ⟨vs, hvs⟩ := ih fun j hj => h j (List.mem_cons_of_mem _ hj)
    refine ⟨ws ++ vs, fun t ht => ?_⟩
    obtain ⟨hread, hread'⟩ := (Tape.reads_append ws vs t).1 ht
    simp only [List.length_cons, drawPlaces, hws t hread, hvs _ hread', Tape.advance_advance,
      List.length_append]

/-- For every name within the bound there are words such that a tape that begins with them gives
the name. -/
theorem exists_reads_sample {s : NameSampler} {text : String} (hcheck : Name.check text = .ok ())
    (hlength : text.length ≤ s.maxLength.toNat) :
    ∃ ws, ∀ t : Tape, t.Reads ws → (s.sample t).1 = text := by
  obtain ⟨places, hplaces, htext⟩ :=
    exists_places_of_contains text.toList (Name.check_eq_ok_iff.1 hcheck)
  have hle : places.length ≤ s.maxLength.toNat := by
    rw [← String.length_toList, ← htext, List.length_map] at hlength
    exact hlength
  obtain ⟨ws, hws⟩ := exists_reads_drawUpTo hle
  obtain ⟨vs, hvs⟩ := exists_reads_drawPlaces places hplaces
  refine ⟨ws ++ vs, fun t ht => ?_⟩
  obtain ⟨hread, hread'⟩ := (Tape.reads_append ws vs t).1 ht
  simp only [sample, hws t hread, hvs _ hread', textOfPlaces, htext, String.ofList_toList]

/-- **The language of the sampler.** The texts that a sampler draws, from any words, are the texts
that the check accepts and that have at most as many characters as its bound. On every tape,

* the drawn text is accepted and within the bound;
* the numbers that are drawn for its characters are below 63, and its characters are the bytes of
  the charset with these numbers;
* at least one and at most two words are taken for the length and for each of the characters.

Each accepted text within the bound is drawn even from a list of words that is repeated for ever. -/
theorem sample_draws_exactly_names (s : NameSampler) :
    {text | ∃ t : Tape, (s.sample t).1 = text} =
      {text | Name.check text = .ok () ∧ text.length ≤ s.maxLength.toNat} ∧
    (∀ t : Tape,
      Name.check (s.sample t).1 = .ok () ∧ (s.sample t).1.length ≤ s.maxLength.toNat ∧
      (∀ i ∈ s.places t, i < 63) ∧
      List.Forall₂ (fun i c => Charset.charOfByte? i = some c) (s.places t)
        (s.sample t).1.toList ∧
      ∃ taken, (s.sample t).2 = t.advance taken ∧ (s.sample t).1.length + 1 ≤ taken ∧
        taken ≤ 2 * ((s.sample t).1.length + 1)) ∧
    ∀ text, Name.check text = .ok () → text.length ≤ s.maxLength.toNat →
      ∃ ws : List UInt64, (s.sample (Tape.cycle ws.toArray)).1 = text := by
  have hcycle : ∀ text, Name.check text = .ok () → text.length ≤ s.maxLength.toNat →
      ∃ ws : List UInt64, (s.sample (Tape.cycle ws.toArray)).1 = text := by
    intro text hcheck hlength
    obtain ⟨ws, hws⟩ := exists_reads_sample hcheck hlength
    exact ⟨ws, hws _ (Tape.reads_cycle ws)⟩
  refine ⟨Set.ext fun text => ?_, fun t => ?_, hcycle⟩
  · constructor
    · rintro ⟨t, rfl⟩
      exact ⟨s.check_sample t, s.length_sample_le t⟩
    · rintro ⟨hcheck, hlength⟩
      obtain ⟨ws, hws⟩ := hcycle text hcheck hlength
      exact ⟨_, hws⟩
  · exact ⟨s.check_sample t, s.length_sample_le t, s.lt_of_mem_places t, s.forall₂_charOfByte? t,
      s.snd_sample t⟩

end NameSampler

end GradedSymbols
