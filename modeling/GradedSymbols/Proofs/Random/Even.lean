import GradedSymbols.Proofs.Random.Stretch
import Mathlib.Algebra.Order.Floor.Div
import Mathlib.Data.Finset.Prod
import Mathlib.Order.Interval.Finset.Nat

/-!
# Numbers are drawn evenly

A number of a range is drawn from a pair of draws, of which the second need not be taken. The closed
form of `GradedSymbols.Proofs.Random.Stretch` reads a pair as one number with two digits, and so cuts
the numbers with two digits into intervals, one for each number of the range. The ends of these
intervals are multiples of one quotient, rounded up. The lengths of two intervals therefore differ by
one at most: each number of the range is drawn from as many pairs as any other, or from one more.

A number may be drawn after other words have been taken from a tape. The predicate
`GradedSymbols.DrawsEvenly` states the laws of a drawn number together with the words in front of it,
and `GradedSymbols.DrawsEvenly.of_eq_drawUpTo` proves them wherever a number is drawn.

## Main definitions

* `GradedSymbols.Stretch.pairs` — the pairs of draws.
* `GradedSymbols.Stretch.stretched` — the number that a pair of draws is stretched to.
* `GradedSymbols.DrawWidth.bits` — the number of binary digits of a draw.
* `GradedSymbols.DrawWidth.drawPair` — the next two draws of a source.
* `GradedSymbols.Tape.prepend` — a tape with a list of words in front.
* `GradedSymbols.DrawsEvenly` — the laws of a number that is drawn from a range.

## Main results

* `GradedSymbols.Stretch.card_twoDigits_eq` — how many pairs give a number of the range.
* `GradedSymbols.fst_drawUpTo_mono` — the numbers that are drawn from a larger range are larger.
* `GradedSymbols.exists_reads_drawUpTo_eq` — a drawn number depends on the words that are taken.
* `GradedSymbols.DrawsEvenly.of_eq_drawUpTo` — a number that is drawn obeys the laws.
-/

namespace GradedSymbols

/-! ### Pairs of draws -/

namespace Stretch

variable {size n n' d y i : Nat}

theorem twoDigits_mono (h : n ≤ n') : twoDigits size n d y ≤ twoDigits size n' d y :=
  Nat.div_le_div_right (Nat.mul_le_mul_left _ h)

/-- The pairs of draws. -/
def pairs (size : Nat) : Finset (Nat × Nat) := Finset.range size ×ˢ Finset.range size

theorem mem_pairs {p : Nat × Nat} : p ∈ pairs size ↔ p.1 < size ∧ p.2 < size := by
  simp [pairs]

/-- The pairs of draws are the numbers with two digits. -/
theorem card_filter_pairs (P : Nat → Prop) [DecidablePred P] :
    ((pairs size).filter fun p => P (p.1 * size + p.2)).card =
      ((Finset.range (size * size)).filter P).card := by
  refine Finset.card_nbij' (fun p => p.1 * size + p.2) (fun m => (m / size, m % size)) ?_ ?_ ?_ ?_
  · intro p hp
    obtain ⟨hmem, hP⟩ := Finset.mem_filter.1 hp
    obtain ⟨hd, hy⟩ := mem_pairs.1 hmem
    exact Finset.mem_filter.2 ⟨Finset.mem_range.2 (digits_lt hd hy), hP⟩
  · intro m hm
    obtain ⟨hmem, hP⟩ := Finset.mem_filter.1 hm
    have hlt : m < size * size := Finset.mem_range.1 hmem
    have hsize : 0 < size := Nat.pos_of_mul_pos_left (Nat.zero_lt_of_lt hlt)
    refine Finset.mem_filter.2 ⟨mem_pairs.2 ⟨Nat.div_lt_of_lt_mul hlt, Nat.mod_lt _ hsize⟩, ?_⟩
    simpa only [Nat.div_add_mod'] using hP
  · intro p hp
    obtain ⟨-, hy⟩ := mem_pairs.1 (Finset.mem_filter.1 hp).1
    have hdiv : (p.1 * size + p.2) / size = p.1 := by
      rw [Nat.mul_comm, Nat.mul_add_div (Nat.zero_lt_of_lt hy), Nat.div_eq_of_lt hy, Nat.add_zero]
    exact Prod.ext hdiv (Nat.mul_add_mod_of_lt hy)
  · exact fun m _ => Nat.div_add_mod' m size

/-- The numbers below `N` that are stretched to `i` are an interval, between two quotients that are
rounded up. -/
theorem filter_quotient_eq (hi : i < n) (N : Nat) :
    ((Finset.range N).filter fun m => m * n / N = i) =
      Finset.Ico ((i * N) ⌈/⌉ n) ((i * N + N) ⌈/⌉ n) := by
  have hn : 0 < n := Nat.zero_lt_of_lt hi
  have hlast : i * N + N ≤ n * N := by
    rw [← Nat.succ_mul]
    exact Nat.mul_le_mul_right N hi
  ext m
  have hlower : (i * N) ⌈/⌉ n ≤ m ↔ i * N ≤ m * n := by
    rw [ceilDiv_le_iff_le_mul hn, Nat.mul_comm n]
  have hupper : m < (i * N + N) ⌈/⌉ n ↔ m * n < i * N + N := by
    rw [← not_le, ceilDiv_le_iff_le_mul hn, Nat.mul_comm n, not_le]
  rw [Finset.mem_filter, Finset.mem_range, Finset.mem_Ico, hlower, hupper]
  constructor
  · rintro ⟨hm, hquotient⟩
    obtain ⟨hle, hlt⟩ := (Nat.div_eq_iff (Nat.zero_lt_of_lt hm)).1 hquotient
    exact ⟨hle, by omega⟩
  · rintro ⟨hle, hlt⟩
    have hm : m < N := Nat.lt_of_mul_lt_mul_right (hlt.trans_le (hlast.trans_eq (Nat.mul_comm n N)))
    exact ⟨hm, (Nat.div_eq_iff (Nat.zero_lt_of_lt hm)).2 ⟨hle, by omega⟩⟩

/-- Two quotients that are rounded up, `N` apart, differ by the quotient of `N`, rounded down or up. -/
theorem ceilDiv_add_sub (hn : 0 < n) (a N : Nat) :
    (a + N) ⌈/⌉ n - a ⌈/⌉ n = N / n ∨ (a + N) ⌈/⌉ n - a ⌈/⌉ n = N ⌈/⌉ n := by
  have hsum : (a + N) ⌈/⌉ n ≤ a ⌈/⌉ n + N ⌈/⌉ n := by
    rw [ceilDiv_le_iff_le_mul hn, Nat.mul_add]
    exact Nat.add_le_add (le_smul_ceilDiv hn) (le_smul_ceilDiv hn)
  have hdiff : a ⌈/⌉ n + N / n ≤ (a + N) ⌈/⌉ n := by
    have hcover : a + N ≤ n * ((a + N) ⌈/⌉ n) := le_smul_ceilDiv hn
    have hfloor : n * (N / n) ≤ N := Nat.mul_div_le N n
    have hle : N / n ≤ (a + N) ⌈/⌉ n := Nat.le_of_mul_le_mul_left (by omega) hn
    rw [← Nat.le_sub_iff_add_le hle, ceilDiv_le_iff_le_mul hn, Nat.mul_sub]
    omega
  have hceil : N ⌈/⌉ n ≤ N / n + 1 :=
    (ceilDiv_le_iff_le_mul hn).2 (Nat.lt_mul_div_succ N hn).le
  omega

/-- **Even pairs.** Each number of the range is drawn from the whole part of `size ^ 2 / n` pairs, or
from one more if the quotient is not whole. -/
theorem card_twoDigits_eq (hi : i < n) :
    ((pairs size).filter fun p => twoDigits size n p.1 p.2 = i).card = size * size / n ∨
      ((pairs size).filter fun p => twoDigits size n p.1 p.2 = i).card = (size * size) ⌈/⌉ n := by
  have hcard : ((pairs size).filter fun p => twoDigits size n p.1 p.2 = i).card =
      (i * (size * size) + size * size) ⌈/⌉ n - (i * (size * size)) ⌈/⌉ n := by
    rw [← Nat.card_Ico, ← filter_quotient_eq hi]
    exact card_filter_pairs fun m => m * n / (size * size) = i
  rw [hcard]
  exact ceilDiv_add_sub (Nat.zero_lt_of_lt hi) _ _

/-- Of the 16 pairs of draws below 4, three numbers have 6, 5 and 5. -/
example : (List.range 3).map (fun i =>
    ((pairs 4).filter fun p => twoDigits 4 3 p.1 p.2 = i).card) = [6, 5, 5] := by
  decide

/-- The number below `n` that a pair of draws, of `bits` binary digits each, is stretched to. -/
def stretched (bits n : Nat) (p : Nat × Nat) : Nat :=
  n * (p.1 * 2 ^ bits + p.2) / 2 ^ (2 * bits)

theorem twoDigits_two_pow (bits n d y : Nat) :
    twoDigits (2 ^ bits) n d y = stretched bits n (d, y) := by
  rw [twoDigits, stretched, Nat.mul_comm n, Nat.two_mul, Nat.pow_add]

end Stretch

/-! ### Draws and tapes -/

namespace DrawWidth

/-- The number of binary digits of a draw. -/
def bits : DrawWidth → Nat
  | half => 32
  | full => 64

theorem size_eq_two_pow : (width : DrawWidth) → width.size = 2 ^ width.bits
  | half => rfl
  | full => rfl

theorem bits_forBound (high : UInt64) :
    (forBound high).bits = if high.toNat < 2 ^ 32 then 32 else 64 :=
  apply_ite bits _ _ _

/-- The next two draws of a source. -/
def drawPair {σ : Type} [WordSource σ] (width : DrawWidth) (source : σ) : Nat × Nat :=
  ((width.draw source).1, (width.draw (width.draw source).2).1)

/-- Two words that give a pair of draws. -/
def wordsOf (width : DrawWidth) (p : Nat × Nat) : List UInt64 := [width.wordOf p.1, width.wordOf p.2]

theorem drawPair_of_reads {width : DrawWidth} {p : Nat × Nat} {t : Tape}
    (hp : p ∈ Stretch.pairs width.size) (ht : t.Reads (width.wordsOf p)) :
    width.drawPair t = p := by
  obtain ⟨hd, hy⟩ := Stretch.mem_pairs.1 hp
  simp only [drawPair, draw_tape, ht.1, ht.2.1, ofWord_wordOf hd, ofWord_wordOf hy]

end DrawWidth

namespace Tape

/-- The tape that gives the words of a list before those that come next on a tape. -/
def prepend (t : Tape) (ws : List UInt64) : Tape :=
  { words := fun i => ws.getD i (t.words (t.position + (i - ws.length))) }

theorem reads_prepend (t : Tape) (ws : List UInt64) : (t.prepend ws).Reads ws :=
  reads_of_getElem ws _ fun i hi => by simp [prepend, hi]

end Tape

/-! ### Drawn numbers -/

section Source

variable {σ : Type} [WordSource σ]

theorem fst_drawUpTo_eq_stretched (high : UInt64) (source : σ) :
    (drawUpTo high source).1 = Stretch.stretched (DrawWidth.forBound high).bits (high.toNat + 1)
      ((DrawWidth.forBound high).drawPair source) := by
  rw [fst_drawUpTo, DrawWidth.size_eq_two_pow, Stretch.twoDigits_two_pow]
  rfl

/-- With draws of one width, a number that is drawn from a larger range is not smaller. -/
theorem fst_drawUpTo_mono {high high' : UInt64}
    (hwidth : DrawWidth.forBound high = DrawWidth.forBound high') (hle : high ≤ high')
    (source : σ) : (drawUpTo high source).1 ≤ (drawUpTo high' source).1 := by
  rw [fst_drawUpTo, fst_drawUpTo, hwidth]
  exact Stretch.twoDigits_mono (Nat.succ_le_succ hle)

/-- If the first draw settles the number, every second draw would give the same number. -/
theorem fst_drawUpTo_of_isSettled {high : UInt64} {source : σ}
    (hsettled : Stretch.isSettled (DrawWidth.forBound high).size (high.toNat + 1)
      ((DrawWidth.forBound high).draw source).1 = true)
    {y : Nat} (hy : y < (DrawWidth.forBound high).size) :
    (drawUpTo high source).1 = Stretch.twoDigits (DrawWidth.forBound high).size (high.toNat + 1)
      ((DrawWidth.forBound high).draw source).1 y := by
  rw [drawUpTo]
  simp only [hsettled, ↓reduceIte]
  exact Stretch.whole_eq_twoDigits (Nat.succ_pos _) (DrawWidth.le_size_forBound high) hy hsettled

end Source

/-- If one word is taken for a number, the draw that it gives settles the number. -/
theorem isSettled_of_snd_drawUpTo {high : UInt64} {t : Tape}
    (h : (drawUpTo high t).2 = t.advance 1) :
    Stretch.isSettled (DrawWidth.forBound high).size (high.toNat + 1)
      ((DrawWidth.forBound high).draw t).1 = true := by
  by_contra hsettled
  have hrest : (drawUpTo high t).2 = t.advance 2 := by
    rw [drawUpTo]
    simp only [hsettled, ↓reduceIte]
    exact t.advance_advance 1 1
  have hposition : t.position + 1 = t.position + 2 :=
    congrArg Tape.position (h.symm.trans hrest)
  omega

/-- A number that is drawn from a tape depends on the words that are taken, and on nothing else. -/
theorem exists_reads_drawUpTo_eq (high : UInt64) (t : Tape) :
    ∃ ws i, t.Reads ws ∧ ∀ t' : Tape, t'.Reads ws → drawUpTo high t' = (i, t'.advance ws.length) := by
  by_cases hsettled : Stretch.isSettled (DrawWidth.forBound high).size (high.toNat + 1)
      ((DrawWidth.forBound high).ofWord (t.words t.position)) = true
  · refine ⟨[t.words t.position], (drawUpTo high t).1, ⟨rfl, trivial⟩, fun t' ht' => ?_⟩
    simp only [drawUpTo, DrawWidth.draw_tape, ht'.1, hsettled, ↓reduceIte]
    rfl
  · refine ⟨[t.words t.position, t.words (t.position + 1)], (drawUpTo high t).1,
      ⟨rfl, rfl, trivial⟩, fun t' ht' => ?_⟩
    simp only [drawUpTo, DrawWidth.draw_tape, ht'.1, ht'.2.1, hsettled]
    rfl

/-! ### The laws of a drawn number -/

/-- The laws of a number below `n` that is drawn from a tape behind the words `ws`, by draws of a
width. The number comes from the next two draws, stretched, whether the second one is taken or not; if
it is not taken, every second draw would give the same number. Each number comes from
`2 ^ (2 * bits) / n` pairs of draws, rounded down or up, whatever the tape gives behind them. -/
structure DrawsEvenly (ws : List UInt64) (width : DrawWidth) (n : Nat)
    (draw : Tape → Nat × Tape) : Prop where
  taken : ∀ t : Tape, t.Reads ws →
    (draw t).2 = t.advance (ws.length + 1) ∨ (draw t).2 = t.advance (ws.length + 2)
  eq_stretched : ∀ t : Tape, t.Reads ws →
    (draw t).1 = Stretch.stretched width.bits n (width.drawPair (t.advance ws.length))
  eq_stretched_of_skipped : ∀ t : Tape, t.Reads ws → (draw t).2 = t.advance (ws.length + 1) →
    ∀ y < 2 ^ width.bits,
      (draw t).1 = Stretch.stretched width.bits n ((width.draw (t.advance ws.length)).1, y)
  card_pairs : ∀ (t : Tape) (i : Nat), i < n →
    ((Stretch.pairs (2 ^ width.bits)).filter fun p =>
        (draw (t.prepend (ws ++ width.wordsOf p))).1 = i).card ∈
      ({2 ^ (2 * width.bits) / n, 2 ^ (2 * width.bits) ⌈/⌉ n} : Finset Nat)

/-- **Even draws.** The laws hold of a number that is drawn after the words in front have been
taken. -/
theorem DrawsEvenly.of_eq_drawUpTo {ws : List UInt64} (high : UInt64) {draw : Tape → Nat × Tape}
    (h : ∀ t : Tape, t.Reads ws → draw t = drawUpTo high (t.advance ws.length)) :
    DrawsEvenly ws (DrawWidth.forBound high) (high.toNat + 1) draw where
  taken t ht := by
    rw [h t ht, ← t.advance_advance, ← t.advance_advance]
    exact snd_drawUpTo high _
  eq_stretched t ht := by rw [h t ht, fst_drawUpTo_eq_stretched]
  eq_stretched_of_skipped t ht hskipped y hy := by
    rw [h t ht, ← t.advance_advance] at hskipped
    rw [← DrawWidth.size_eq_two_pow] at hy
    rw [h t ht, fst_drawUpTo_of_isSettled (isSettled_of_snd_drawUpTo hskipped) hy,
      DrawWidth.size_eq_two_pow, Stretch.twoDigits_two_pow]
  card_pairs t i hi := by
    have hsize := DrawWidth.size_eq_two_pow (DrawWidth.forBound high)
    have hfilter : ((Stretch.pairs (2 ^ (DrawWidth.forBound high).bits)).filter fun p =>
          (draw (t.prepend (ws ++ (DrawWidth.forBound high).wordsOf p))).1 = i) =
        (Stretch.pairs (DrawWidth.forBound high).size).filter fun p =>
          Stretch.twoDigits (DrawWidth.forBound high).size (high.toNat + 1) p.1 p.2 = i := by
      rw [← hsize]
      refine Finset.filter_congr fun p hp => ?_
      -- Behind the words in front, the tape gives just the pair.
      obtain ⟨hread, hread'⟩ := (Tape.reads_append ws _ _).1
        (t.reads_prepend (ws ++ (DrawWidth.forBound high).wordsOf p))
      rw [h _ hread, fst_drawUpTo_eq_stretched, DrawWidth.drawPair_of_reads hp hread', hsize,
        Stretch.twoDigits_two_pow]
    rw [hfilter, Nat.two_mul, Nat.pow_add, ← hsize, Finset.mem_insert, Finset.mem_singleton]
    exact Stretch.card_twoDigits_eq hi

end GradedSymbols
