import GradedSymbols.Name.Basic
import GradedSymbols.Random.Range
import GradedSymbols.Text.Integer
import GradedSymbols.Text.Outline

/-!
# Sampled names

A sampler of names draws a length up to its bound, and then for each place of the name the number
of a character in the charset. The drawn text is a symbol name, and every symbol name within the
bound can be drawn.

## Main definitions

* `GradedSymbols.NameSampler` — samplers, given by the bound on the length.
* `GradedSymbols.NameSampler.sample` — a text drawn from a source of words.
* `GradedSymbols.NameSampler.samples` — several texts drawn one after the other.
-/

namespace GradedSymbols

/-- The character of the charset with a given number. -/
def Charset.charAt (i : Nat) : Char := chars.getD i '_'

/-- A sampler of names with at most `maxLength` characters. -/
structure NameSampler where
  maxLength : UInt64 := 16
deriving DecidableEq

namespace NameSampler

variable {σ : Type} [WordSource σ]

/-- The numbers of `length` characters of the charset. -/
def drawPlaces : (length : Nat) → σ → List Nat × σ
  | 0, source => ([], source)
  | length + 1, source =>
    let (i, source) := drawUpTo 62 source
    let (rest, source) := drawPlaces length source
    (i :: rest, source)

/-- The text made of the characters with given numbers. -/
def textOfPlaces (places : List Nat) : String := String.ofList (places.map Charset.charAt)

/-- A text drawn from a source. -/
def sample (s : NameSampler) (source : σ) : String × σ :=
  let (length, source) := drawUpTo s.maxLength source
  let (places, source) := drawPlaces length source
  (textOfPlaces places, source)

/-- Texts drawn one after the other. -/
def samples (s : NameSampler) : (count : Nat) → σ → List String × σ
  | 0, source => ([], source)
  | count + 1, source =>
    let (text, source) := s.sample source
    let (rest, source) := s.samples count source
    (text :: rest, source)

/-- The outline of a sampler. -/
def outline (s : NameSampler) : Outline :=
  .record "ValidSymbolName" [("max_len", Integer.format {} s.maxLength.toNat)]

end NameSampler

end GradedSymbols
