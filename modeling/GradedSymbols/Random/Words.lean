/-!
# Sources of random words

All randomness comes from a source of words of 64 bits, which gives one word after the other. A
tape is a source that is written out: a word for each position, and the position of the next word,
which counts the words that have been taken.

## Main definitions

* `GradedSymbols.WordSource` — sources of words.
* `GradedSymbols.Tape` — written out sources.
* `GradedSymbols.Tape.cycle` — the tape that repeats a list of words.
-/

namespace GradedSymbols

/-- A type whose values give a word and the source of the words after it. -/
class WordSource (σ : Type) where
  next : σ → UInt64 × σ

/-- A source that is written out: the word at each position, and the position of the next word. -/
structure Tape where
  words : Nat → UInt64
  position : Nat := 0

namespace Tape

instance : WordSource Tape where
  next t := (t.words t.position, { t with position := t.position + 1 })

/-- The tape that repeats a list of words for ever; the word `0` if the list is empty. -/
def cycle (words : Array UInt64) : Tape :=
  { words := fun i => words.getD (i % words.size) 0 }

end Tape

end GradedSymbols
