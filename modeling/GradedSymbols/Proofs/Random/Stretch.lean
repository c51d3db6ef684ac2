import GradedSymbols.Random.Range
import Mathlib.Tactic.Ring

/-!
# Numbers drawn from a range

A number drawn from a range has a closed form. With `n` numbers in the range and draws below `size`,
a draw `d` and a second draw `y` are the two digits of a number in base `size`, and the drawn number
is the whole part of `(d * size + y) * n / size ^ 2` (`fst_drawUpTo`). When the second draw is left
out, its value would not have mattered, and the correction by one never goes further than the closed
form does. That the drawn number is in the range, and that every number of the range is drawn, are
then facts about one quotient.

## Main definitions

* `GradedSymbols.Stretch.twoDigits` — the closed form.
* `GradedSymbols.Tape.advance`, `GradedSymbols.Tape.Reads` — a tape further on, and the words that
  come next on it.
* `GradedSymbols.DrawWidth.wordOf` — a word that gives a draw.

## Main results

* `GradedSymbols.Stretch.whole_eq_twoDigits`, `GradedSymbols.Stretch.corrected_eq_twoDigits` — the
  closed form with one draw and with two.
* `GradedSymbols.fst_drawUpTo_le` — a drawn number is in the range.
* `GradedSymbols.snd_drawUpTo` — one or two words are taken for it.
* `GradedSymbols.exists_reads_drawUpTo` — every number of the range is drawn.
-/

namespace GradedSymbols

/-! ### Two digits -/

namespace Stretch

variable {size n d y : Nat}

/-- The whole part of the number with the digits `d` and `y` in base `size`, stretched over `n`
numbers. -/
def twoDigits (size n d y : Nat) : Nat := (d * size + y) * n / (size * size)

theorem twoDigits_eq_whole_add (hsize : 0 < size) :
    twoDigits size n d y = whole size n d + (rest size n d + y * n / size) / size := by
  have hsplit : (d * size + y) * n = size * (d * n) + y * n := by ring
  have hdigit : (d * size + y) * n / size = d * n + y * n / size := by
    rw [hsplit, Nat.mul_add_div hsize]
  rw [twoDigits, ← Nat.div_div_eq_div_mul, hdigit, whole, rest]
  conv_lhs => rw [← Nat.div_add_mod (d * n) size, Nat.add_assoc, Nat.mul_add_div hsize]

private theorem mul_div_lt (hn : 0 < n) (hy : y < size) : y * n / size < n :=
  Nat.div_lt_of_lt_mul (Nat.mul_lt_mul_of_pos_right hy hn)

/-- A settled draw is the closed form, whatever the second digit is. -/
theorem whole_eq_twoDigits (hn : 0 < n) (hnsize : n ≤ size) (hy : y < size)
    (hsettled : isSettled size n d = true) : whole size n d = twoDigits size n d y := by
  have hcarry : y * n / size < n := mul_div_lt hn hy
  have hrest : rest size n d ≤ size - n := by simpa [isSettled] using hsettled
  have hsum : rest size n d + y * n / size < size := by omega
  rw [twoDigits_eq_whole_add (Nat.zero_lt_of_lt hy), Nat.div_eq_of_lt hsum, Nat.add_zero]

theorem corrected_eq_twoDigits (hn : 0 < n) (hnsize : n ≤ size) (hy : y < size) :
    corrected size n d y = twoDigits size n d y := by
  have hsize : 0 < size := Nat.zero_lt_of_lt hy
  have hcarry : y * n / size < n := mul_div_lt hn hy
  have hrest : rest size n d < size := Nat.mod_lt _ hsize
  rw [twoDigits_eq_whole_add hsize, corrected]
  split
  · next h =>
    have hone : (rest size n d + y * n / size) / size = 1 :=
      Nat.div_eq_of_lt_le (by omega) (by omega)
    rw [hone]
  · next h => rw [Nat.div_eq_of_lt (by omega), Nat.add_zero]

theorem digits_lt (hd : d < size) (hy : y < size) : d * size + y < size * size := by
  calc d * size + y < d * size + size := Nat.add_lt_add_left hy _
    _ = (d + 1) * size := by ring
    _ ≤ size * size := Nat.mul_le_mul_right size hd

theorem twoDigits_lt (hn : 0 < n) (hd : d < size) (hy : y < size) : twoDigits size n d y < n :=
  Nat.div_lt_of_lt_mul (Nat.mul_lt_mul_of_pos_right (digits_lt hd hy) hn)

/-- The least draw that gives the number `i` when no second digit is added. -/
def leastDraw (size n i : Nat) : Nat := (i * size + (n - 1)) / n

theorem leastDraw_mul (size : Nat) (hn : 0 < n) (i : Nat) :
    ∃ r < n, leastDraw size n i * n = i * size + r := by
  have hdiv := Nat.div_add_mod (i * size + (n - 1)) n
  have hmod := Nat.mod_lt (i * size + (n - 1)) hn
  refine ⟨n - 1 - (i * size + (n - 1)) % n, by omega, ?_⟩
  rw [leastDraw, Nat.mul_comm]
  omega

theorem leastDraw_lt {i : Nat} (hnsize : n ≤ size) (hi : i < n) : leastDraw size n i < size := by
  obtain ⟨r, hr, hmul⟩ := leastDraw_mul size (Nat.zero_lt_of_lt hi) i
  have hstep : (i + 1) * size ≤ n * size := Nat.mul_le_mul_right size hi
  have hlt : leastDraw size n i * n < size * n := by
    calc leastDraw size n i * n = i * size + r := hmul
      _ < i * size + size := by omega
      _ = (i + 1) * size := by ring
      _ ≤ n * size := hstep
      _ = size * n := Nat.mul_comm n size
  exact Nat.lt_of_mul_lt_mul_right hlt

/-- Every number of the range is the closed form of its least draw and the digit zero. -/
theorem twoDigits_leastDraw {i : Nat} (hnsize : n ≤ size) (hi : i < n) :
    twoDigits size n (leastDraw size n i) 0 = i := by
  have hsize : 0 < size := by omega
  obtain ⟨r, hr, hmul⟩ := leastDraw_mul size (Nat.zero_lt_of_lt hi) i
  have hr' : r < size := hr.trans_le hnsize
  rw [twoDigits_eq_whole_add hsize, whole, rest, hmul, Nat.zero_mul, Nat.zero_div, Nat.add_zero,
    Nat.div_eq_of_lt (Nat.mod_lt _ hsize), Nat.add_zero, Nat.mul_comm i size, Nat.mul_add_div hsize,
    Nat.div_eq_of_lt hr', Nat.add_zero]

end Stretch

/-! ### Draws -/

namespace DrawWidth

theorem ofWord_lt_size (width : DrawWidth) (w : UInt64) : width.ofWord w < width.size := by
  cases width with
  | half =>
    have hw := w.toNat_lt
    simp only [ofWord, size, UInt64.toNat_shiftRight]
    rw [Nat.shiftRight_eq_div_pow]
    exact Nat.div_lt_of_lt_mul hw
  | full => exact w.toNat_lt

theorem le_size_forBound (high : UInt64) : high.toNat + 1 ≤ (forBound high).size := by
  have hhigh := high.toNat_lt
  unfold forBound
  split
  · next h => exact h
  · exact hhigh

/-- A word that gives a draw. -/
def wordOf : DrawWidth → Nat → UInt64
  | half, d => UInt64.ofNat (d * 2 ^ 32)
  | full, d => UInt64.ofNat d

theorem ofWord_wordOf {width : DrawWidth} {d : Nat} (hd : d < width.size) :
    width.ofWord (width.wordOf d) = d := by
  cases width with
  | half =>
    have hd' : d * 2 ^ 32 < 2 ^ 64 := by
      simp only [size, UInt32.size] at hd
      omega
    simp only [ofWord, wordOf, UInt64.toNat_shiftRight]
    rw [UInt64.toNat_ofNat_of_lt' hd', Nat.shiftRight_eq_div_pow]
    exact Nat.mul_div_cancel d (by decide)
  | full => exact UInt64.toNat_ofNat_of_lt' hd

end DrawWidth

section Source

variable {σ : Type} [WordSource σ]

theorem DrawWidth.fst_draw_lt (width : DrawWidth) (source : σ) :
    (width.draw source).1 < width.size := width.ofWord_lt_size _

/-- **Drawn numbers.** A number drawn from a range is the closed form of the next two draws of the
source, the second of which need not be taken. -/
theorem fst_drawUpTo (high : UInt64) (source : σ) :
    (drawUpTo high source).1 = Stretch.twoDigits (DrawWidth.forBound high).size (high.toNat + 1)
      ((DrawWidth.forBound high).draw source).1
      ((DrawWidth.forBound high).draw ((DrawWidth.forBound high).draw source).2).1 := by
  have hn : 0 < high.toNat + 1 := Nat.succ_pos _
  have hnsize := DrawWidth.le_size_forBound high
  rw [drawUpTo]
  dsimp only
  split
  · next hsettled =>
    exact Stretch.whole_eq_twoDigits hn hnsize (DrawWidth.fst_draw_lt _ _) hsettled
  · exact Stretch.corrected_eq_twoDigits hn hnsize (DrawWidth.fst_draw_lt _ _)

theorem fst_drawUpTo_le (high : UInt64) (source : σ) : (drawUpTo high source).1 ≤ high.toNat := by
  rw [fst_drawUpTo]
  exact Nat.lt_succ_iff.1 (Stretch.twoDigits_lt (Nat.succ_pos _) (DrawWidth.fst_draw_lt _ _)
    (DrawWidth.fst_draw_lt _ _))

end Source

/-! ### Tapes -/

namespace Tape

/-- The tape after some of its words have been taken. -/
def advance (t : Tape) (count : Nat) : Tape := { t with position := t.position + count }

/-- The words that come next on a tape begin with those of a list. -/
def Reads : Tape → List UInt64 → Prop
  | _, [] => True
  | t, w :: ws => t.words t.position = w ∧ Reads (t.advance 1) ws

theorem advance_advance (t : Tape) (m n : Nat) : (t.advance m).advance n = t.advance (m + n) := by
  simp only [advance, Nat.add_assoc]

theorem reads_append (ws vs : List UInt64) (t : Tape) :
    t.Reads (ws ++ vs) ↔ t.Reads ws ∧ (t.advance ws.length).Reads vs := by
  induction ws generalizing t with
  | nil =>
    simp only [List.nil_append, Reads, true_and]
    rfl
  | cons w ws ih =>
    rw [List.cons_append, Reads, Reads, ih, and_assoc, advance_advance, List.length_cons,
      Nat.add_comm 1]

theorem reads_of_getElem (ws : List UInt64) (t : Tape)
    (h : ∀ i (hi : i < ws.length), t.words (t.position + i) = ws[i]) : t.Reads ws := by
  induction ws generalizing t with
  | nil => trivial
  | cons w ws ih =>
    refine ⟨h 0 (Nat.succ_pos _), ih _ fun i hi => ?_⟩
    have hsucc := h (i + 1) (Nat.succ_lt_succ hi)
    rw [List.getElem_cons_succ] at hsucc
    rw [← hsucc]
    simp only [advance, Nat.add_assoc, Nat.add_comm 1]

theorem reads_cycle (ws : List UInt64) : (cycle ws.toArray).Reads ws := by
  refine reads_of_getElem ws _ fun i hi => ?_
  have hmod : i % ws.length = i := Nat.mod_eq_of_lt hi
  simp [cycle, hmod, hi]

end Tape

theorem DrawWidth.draw_tape (width : DrawWidth) (t : Tape) :
    width.draw t = (width.ofWord (t.words t.position), t.advance 1) := rfl

/-- One or two words are taken for a drawn number. -/
theorem snd_drawUpTo (high : UInt64) (t : Tape) :
    (drawUpTo high t).2 = t.advance 1 ∨ (drawUpTo high t).2 = t.advance 2 := by
  rw [drawUpTo]
  dsimp only
  split
  · exact Or.inl rfl
  · exact Or.inr (t.advance_advance 1 1)

/-- **Every number of a range is drawn.** For each number there are words such that a tape that
begins with them gives the number and takes these words. -/
theorem exists_reads_drawUpTo {high : UInt64} {i : Nat} (hi : i ≤ high.toNat) :
    ∃ ws, ∀ t : Tape, t.Reads ws → drawUpTo high t = (i, t.advance ws.length) := by
  have hnsize := DrawWidth.le_size_forBound high
  have hlt : i < high.toNat + 1 := Nat.lt_succ_of_le hi
  generalize hwidth : DrawWidth.forBound high = width at hnsize
  have hsize : 0 < width.size := by omega
  have hleast := Stretch.leastDraw_lt hnsize hlt
  have hclosed := Stretch.twoDigits_leastDraw hnsize hlt
  generalize Stretch.leastDraw width.size (high.toNat + 1) i = d at hleast hclosed
  -- Whether a second word is taken depends on the draw; the digit of that word is zero.
  by_cases hsettled : Stretch.isSettled width.size (high.toNat + 1) d = true
  · refine ⟨[width.wordOf d], fun t ht => ?_⟩
    rw [drawUpTo]
    simp only [hwidth, DrawWidth.draw_tape, ht.1, DrawWidth.ofWord_wordOf hleast, hsettled, ↓reduceIte]
    rw [Stretch.whole_eq_twoDigits (Nat.succ_pos _) hnsize hsize hsettled, hclosed]
    rfl
  · refine ⟨[width.wordOf d, width.wordOf 0], fun t ht => ?_⟩
    rw [drawUpTo]
    simp only [hwidth, DrawWidth.draw_tape, ht.1, ht.2.1, DrawWidth.ofWord_wordOf hleast,
      DrawWidth.ofWord_wordOf hsize, hsettled]
    rw [if_neg (by simp), Stretch.corrected_eq_twoDigits (Nat.succ_pos _) hnsize hsize, hclosed]
    rfl

end GradedSymbols
