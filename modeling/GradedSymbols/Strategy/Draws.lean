import GradedSymbols.Object.Basic
import GradedSymbols.Strategy.Names
import GradedSymbols.Text.Unprintable

/-!
# Draws

A draw takes from a source what it needs, and gives a value. A strategy works on a drawn choice; a
choice that it rejects is drawn again, as long as the limit of rejections is not reached. Names,
texts that are no names, scalars and drafts of objects are put together from a few primitive draws,
about which nothing is assumed here. Sources of words have primitive draws of their own.

## Main definitions

* `GradedSymbols.Draw` — draws from a source.
* `GradedSymbols.Strategy.sample` — the value of a strategy for the first choice that is not
  rejected.
* `GradedSymbols.Primitives` — the primitive draws.
* `GradedSymbols.Primitives.name`, `GradedSymbols.Primitives.outsider`,
  `GradedSymbols.Primitives.spoiledName` — names, characters outside the charset, and the parts of
  texts that are no names.
* `GradedSymbols.Primitives.ofWords` — the primitive draws from a source of words.
-/

namespace GradedSymbols

/-- A draw from a source gives a value and leaves a source behind. -/
abbrev Draw (σ α : Type) : Type := StateM σ α

section Constructs

variable {σ ρ α : Type}

/-- Several draws, one after the other. -/
def Draw.several (d : Draw σ α) : (count : Nat) → Draw σ (List α)
  | 0 => return []
  | count + 1 => do
    let value ← d
    let rest ← several d count
    return value :: rest

/-- The value that a strategy makes of the first drawn choice that it does not reject, if not more
choices are rejected before it than the limit admits. -/
def Strategy.sample (s : Strategy ρ α) (d : Draw σ ρ) : (limit : Nat) → Draw σ (Option α)
  | 0 => do
    let choice ← d
    return s.assemble choice
  | limit + 1 => do
    let choice ← d
    match s.assemble choice with
    | some value => return some value
    | none => s.sample d limit

end Constructs

/-- The draws that all others are put together from: a number from `0` to a bound, a character, a
text, and the two types of scalars. -/
structure Primitives (σ : Type) where
  upTo : UInt64 → Draw σ Nat
  character : Draw σ Char
  text : Draw σ String
  integer : Draw σ Int64
  float : Draw σ Binary64

namespace Primitives

variable {σ : Type} (r : Primitives σ)

/-! ### Names and texts -/

/-- Numbers of characters in the charset, at most as many as a drawn name has. -/
def places : Draw σ (List Nat) := do
  let length ← r.upTo (UInt64.ofNat longestName)
  (r.upTo 62).several length

/-- A name. -/
def name : Draw σ Name := do
  let places ← r.places
  return Name.ofPlaces places

/-- A character outside the charset. -/
def outsider (limit : Nat) : Draw σ (Option Outsider) := Strategy.outsiders.sample r.character limit

/-- The parts of a text that is no name. Only the character is drawn again. -/
def spoiledName (limit : Nat) : Draw σ (Option Spoiled) := do
  let front ← r.name
  match ← r.outsider limit with
  | none => return none
  | some c =>
    let back ← r.text
    return some ⟨front, c, back, c.property⟩

/-- A small name. -/
def smallName : Draw σ String := do
  let i ← r.upTo 6
  return smallNames.getD i ""

/-! ### Objects -/

/-- A scalar of either type. -/
def scalar : Draw σ Scalar := do
  match ← r.upTo 1 with
  | 0 => return .int (← r.integer)
  | _ => return .float (← r.float)

/-- A symbol with a small name, of either kind, or a scalar. -/
def draft : Draw σ Draft := do
  match ← r.upTo 2 with
  | 0 => return .symbol .linear (← r.smallName)
  | 1 => return .symbol .parameter (← r.smallName)
  | _ => return .scalar (← r.scalar)

end Primitives

/-- The strategy that builds drafts. -/
def Strategy.objects : Strategy Draft Object where
  assemble d := d.build.toOption

/-! ### Draws from words -/

namespace Primitives

variable {σ : Type} [WordSource σ]

/-- The character whose place among all characters is `i`, the surrogate code points being left
out. -/
def characterAt (i : Nat) : Char := Char.ofNat (if i < 0xd800 then i else i + 0x800)

/-- A number from `0` to a bound. -/
def upToOfWords (high : UInt64) : Draw σ Nat := fun source => drawUpTo high source

/-- Any character: an ASCII character as often as one of all characters, for among these hardly
one is in the charset. -/
def characterOfWords : Draw σ Char := do
  let ascii ← upToOfWords 1
  let i ← upToOfWords (if ascii = 0 then 0x7f else 0x10f7ff)
  return characterAt i

/-- A text of at most 32 characters, which are all shown as they are when the text is quoted. -/
def textOfWords : Draw σ String := do
  let length ← upToOfWords 32
  let cs ← characterOfWords.several length
  return String.ofList (cs.filter fun c => !Unprintable.contains c)

/-- The primitive draws from a source of words. -/
def ofWords : Primitives σ where
  upTo := upToOfWords
  character := characterOfWords
  text := textOfWords
  integer := fun source =>
    let (word, source) := WordSource.next source
    (word.toInt64, source)
  float := fun source =>
    let (word, source) := WordSource.next source
    (⟨word⟩, source)

end Primitives

end GradedSymbols
