import GradedSymbols.Random.Words

/-!
# The xoshiro256++ generator

A source of words with a state of four words. The state is filled from a seed of one word by the
SplitMix64 generator, which counts in steps of an odd constant and scrambles the count.

## Main definitions

* `GradedSymbols.SplitMix` — the generator that fills the state.
* `GradedSymbols.Xoshiro` — the generator.
* `GradedSymbols.Xoshiro.ofSeed` — its state for a seed.
-/

namespace GradedSymbols

/-- The SplitMix64 generator, which counts. -/
structure SplitMix where
  count : UInt64
deriving DecidableEq

namespace SplitMix

/-- The scrambled form of a count. -/
def scramble (z : UInt64) : UInt64 :=
  let z := (z ^^^ (z >>> 30)) * 0xbf58476d1ce4e5b9
  let z := (z ^^^ (z >>> 27)) * 0x94d049bb133111eb
  z ^^^ (z >>> 31)

instance : WordSource SplitMix where
  next g :=
    let count := g.count + 0x9e3779b97f4a7c15
    (scramble count, ⟨count⟩)

end SplitMix

/-- The xoshiro256++ generator, with four words of state. -/
structure Xoshiro where
  s0 : UInt64
  s1 : UInt64
  s2 : UInt64
  s3 : UInt64
deriving DecidableEq

namespace Xoshiro

/-- A word with its bits rotated to the left by `k` places, `k` being between `1` and `63`. -/
def rotateLeft (x k : UInt64) : UInt64 := (x <<< k) ||| (x >>> (64 - k))

instance : WordSource Xoshiro where
  next g :=
    let result := rotateLeft (g.s0 + g.s3) 23 + g.s0
    let t := g.s1 <<< 17
    let s2 := g.s2 ^^^ g.s0
    let s3 := g.s3 ^^^ g.s1
    let s1 := g.s1 ^^^ s2
    let s0 := g.s0 ^^^ s3
    (result, ⟨s0, s1, s2 ^^^ t, rotateLeft s3 45⟩)

/-- The generator whose state is filled from a seed. -/
def ofSeed (seed : UInt64) : Xoshiro :=
  let (s0, g) := WordSource.next (SplitMix.mk seed)
  let (s1, g) := WordSource.next g
  let (s2, g) := WordSource.next g
  let (s3, _) := WordSource.next g
  ⟨s0, s1, s2, s3⟩

end Xoshiro

end GradedSymbols
