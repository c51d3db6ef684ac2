import GradedSymbols.Proofs.Name.Sampling
import GradedSymbols.Proofs.Random.Even

/-!
# Lengths and characters are drawn evenly

The sampler of names draws a length and then one character after the other. The words that are taken
for the length and for the characters in front of a place fix where on the tape the character of that
place begins (`NameSampler.exists_reads_sourceAfter`). Behind these words, its number is a number
drawn from the range of the charset, and so the laws of drawn numbers hold of the length and of every
character.

## Main definitions

* `GradedSymbols.NameSampler.sourceAfter` — the source behind the length and the first characters.

## Main results

* `GradedSymbols.NameSampler.getElem?_places` — the number of a character as a number drawn from a
  range.
* `GradedSymbols.NameSampler.exists_reads_sourceAfter` — the words that are taken in front of a
  character.
* `GradedSymbols.NameSampler.sample_draws_evenly` — the laws of the length and of the characters.
-/

namespace GradedSymbols

namespace NameSampler

/-! ### The characters one after the other -/

section Source

variable {σ : Type} [WordSource σ]

/-- The source from which the character behind the first `k` characters is drawn. -/
def sourceAfter (s : NameSampler) (source : σ) (k : Nat) : σ :=
  (drawPlaces k (drawUpTo s.maxLength source).2).2

theorem snd_drawPlaces_succ (k : Nat) (source : σ) :
    (drawPlaces (k + 1) source).2 = (drawUpTo 62 (drawPlaces k source).2).2 := by
  induction k generalizing source with
  | zero => rfl
  | succ k ih => exact ih (drawUpTo 62 source).2

theorem getElem?_drawPlaces {n k : Nat} (hk : k < n) (source : σ) :
    (drawPlaces n source).1[k]? = some (drawUpTo 62 (drawPlaces k source).2).1 := by
  induction n generalizing k source with
  | zero => omega
  | succ n ih =>
    cases k with
    | zero => rfl
    | succ k => exact ih (Nat.lt_of_succ_lt_succ hk) (drawUpTo 62 source).2

theorem getElem?_places {s : NameSampler} {source : σ} {k : Nat}
    (hk : k < (s.sample source).1.length) :
    (s.places source)[k]? = some (drawUpTo 62 (s.sourceAfter source k)).1 := by
  rw [length_sample] at hk
  exact getElem?_drawPlaces hk _

theorem sourceAfter_succ (s : NameSampler) (source : σ) (k : Nat) :
    s.sourceAfter source (k + 1) = (drawUpTo 62 (s.sourceAfter source k)).2 :=
  snd_drawPlaces_succ k _

end Source

/-! ### The words in front of a character -/

theorem exists_reads_drawPlaces_eq (n : Nat) (t : Tape) :
    ∃ ws places, t.Reads ws ∧
      ∀ t' : Tape, t'.Reads ws → drawPlaces n t' = (places, t'.advance ws.length) := by
  induction n generalizing t with
  | zero => exact ⟨[], [], trivial, fun _ _ => rfl⟩
  | succ n ih =>
    obtain ⟨ws, i, ht, hws⟩ := exists_reads_drawUpTo_eq 62 t
    obtain ⟨vs, places, hrest, hvs⟩ := ih (t.advance ws.length)
    refine ⟨ws ++ vs, i :: places, (Tape.reads_append ws vs t).2 ⟨ht, hrest⟩, fun t' ht' => ?_⟩
    obtain ⟨hread, hread'⟩ := (Tape.reads_append ws vs t').1 ht'
    simp only [drawPlaces, hws t' hread, hvs _ hread', Tape.advance_advance, List.length_append]

/-- The words that are taken for the length and for the first characters determine the length, and
where the next character begins. -/
theorem exists_reads_sourceAfter (s : NameSampler) (t : Tape) (k : Nat) :
    ∃ ws, t.Reads ws ∧ ∀ t' : Tape, t'.Reads ws →
      (s.sample t').1.length = (s.sample t).1.length ∧
        s.sourceAfter t' k = t'.advance ws.length := by
  obtain ⟨ws, length, ht, hws⟩ := exists_reads_drawUpTo_eq s.maxLength t
  obtain ⟨vs, places, hrest, hvs⟩ := exists_reads_drawPlaces_eq k (t.advance ws.length)
  refine ⟨ws ++ vs, (Tape.reads_append ws vs t).2 ⟨ht, hrest⟩, fun t' ht' => ?_⟩
  obtain ⟨hread, hread'⟩ := (Tape.reads_append ws vs t').1 ht'
  simp only [length_sample, sourceAfter, hws t ht, hws t' hread, hvs _ hread', Tape.advance_advance,
    List.length_append, and_self]

/-! ### The laws of the sampler -/

/-- **Lengths and characters are drawn evenly.** Draws for the length have 32 binary digits if the
bound is below `2 ^ 32`, and 64 otherwise; draws for the characters have 32.

* From any source, the length is the number that the next two draws are stretched to. The characters
  are those of the charset with the numbers drawn for them, and these are the numbers that the next
  two draws are stretched to, wherever a character begins.
* From the same source and by draws of the same width, a sampler with a larger bound draws no shorter
  text.
* The laws of a drawn number hold of the length: whether its second draw is taken or not, it is the
  number that the two are stretched to, and each length up to the bound has the same number of pairs
  of draws, give or take one.
* The laws hold of the number of every character, among the tapes that begin with the words taken in
  front of it. -/
theorem sample_draws_evenly (s : NameSampler) :
    (DrawWidth.forBound s.maxLength).bits = (if s.maxLength.toNat < 2 ^ 32 then 32 else 64) ∧
    (∀ {σ : Type} [WordSource σ] (source : σ),
      (s.sample source).1.length =
        Stretch.stretched (DrawWidth.forBound s.maxLength).bits (s.maxLength.toNat + 1)
          ((DrawWidth.forBound s.maxLength).drawPair source) ∧
      (s.sample source).1.toList = (s.places source).map Charset.charAt ∧
      ∀ k < (s.sample source).1.length, (s.places source)[k]? =
        some (Stretch.stretched 32 63 (DrawWidth.half.drawPair (s.sourceAfter source k)))) ∧
    (∀ s' : NameSampler, DrawWidth.forBound s.maxLength = DrawWidth.forBound s'.maxLength →
      s.maxLength ≤ s'.maxLength → ∀ {σ : Type} [WordSource σ] (source : σ),
        (s.sample source).1.length ≤ (s'.sample source).1.length) ∧
    DrawsEvenly [] (DrawWidth.forBound s.maxLength) (s.maxLength.toNat + 1)
      (fun t => ((s.sample t).1.length, s.sourceAfter t 0)) ∧
    ∀ (t : Tape) (k : Nat), k < (s.sample t).1.length →
      ∃ ws, t.Reads ws ∧ s.sourceAfter t k = t.advance ws.length ∧
        (∀ t' : Tape, t'.Reads ws → (s.sample t').1.length = (s.sample t).1.length) ∧
        DrawsEvenly ws .half 63 fun t' => ((s.places t').getD k 0, s.sourceAfter t' (k + 1)) := by
  refine ⟨DrawWidth.bits_forBound _, fun source => ⟨?_, ?_, fun k hk => ?_⟩,
    fun s' hwidth hle σ _ source => ?_, DrawsEvenly.of_eq_drawUpTo _ fun t _ => ?_, fun t k hk => ?_⟩
  · rw [length_sample, fst_drawUpTo_eq_stretched]
  · rw [fst_sample, textOfPlaces, String.toList_ofList]
  · rw [getElem?_places hk, fst_drawUpTo_eq_stretched]
    rfl
  · rw [length_sample, length_sample]
    exact fst_drawUpTo_mono hwidth hle source
  · rw [length_sample]
    rfl
  · obtain ⟨ws, ht, hws⟩ := s.exists_reads_sourceAfter t k
    refine ⟨ws, ht, (hws t ht).2, fun t' ht' => (hws t' ht').1,
      DrawsEvenly.of_eq_drawUpTo 62 fun t' ht' => ?_⟩
    obtain ⟨hlength, hsource⟩ := hws t' ht'
    have hplace := getElem?_places (hk.trans_eq hlength.symm)
    rw [List.getD_eq_getElem?_getD, hplace, sourceAfter_succ, hsource]
    rfl

end NameSampler

end GradedSymbols
