import GradedSymbols.Contract.Trial
import GradedSymbols.Random.Xoshiro
import GradedSymbols.Sampling

/-!
# The contract of symbol factories

Three checks make up the contract. A factory builds, from every name, the symbol of one kind with
that name; symbols of one factory are identical exactly when their names are equal, and never to
symbols of another factory or to scalars; and texts that are no names are reported, with the
character that is in the way.

The first two checks run over sampled names, each from a seed of its own.

## Main definitions

* `GradedSymbols.Contract.names` — the names that are sampled for a seed.
* `GradedSymbols.Contract.symbol`, `GradedSymbols.Contract.identity`,
  `GradedSymbols.Contract.rejection` — the checks.
-/

namespace GradedSymbols

namespace Contract

/-- The number of sampled names. -/
def sampleCount : Nat := 256

/-- The names that are sampled for a seed. -/
def names (seed : UInt64) : List String :=
  (NameSampler.samples {} sampleCount (Xoshiro.ofSeed seed)).1

/-! ### Symbols carry their names -/

/-- What a symbol built from a name has to be: of that name, of the given degree, and with the
texts that belong to the name and the kind called `variant`. -/
def symbolRound (f : Factory) (variant : String) (degree : Nat) (name : String) : Trial Unit := do
  let s ← Trial.built f name
  Trial.equalText s.name.text name
  Trial.equalNumber s.degree degree
  Trial.equalText (Object.inspect {} (.symbol s)) (variant ++ "(" ++ name ++ ")")
  Trial.equalText s.pretty name
  Trial.equalText s.repr (variant ++ "(" ++ name ++ ")")
  Trial.equalText s.pretty name

/-- The check of symbols over given names. -/
def symbolOver (f : Factory) (variant : String) (degree : Nat) (l : List String) : Trial Unit :=
  l.forM (symbolRound f variant degree)

/-- The check of symbols: over the sampled names of the seed one, and the empty name. -/
def symbol (f : Factory) (variant : String) (degree : Nat) : Trial Unit :=
  symbolOver f variant degree (names 1 ++ [""])

/-! ### Identity -/

/-- What has to hold between symbols built by `f` from two names, and one built by `other` from the
first of them. -/
def identityRound (f other : Factory) (p : String × String) : Trial Unit := do
  let x ← Trial.built f p.1
  let same ← Trial.built f p.1
  let y ← Trial.built f p.2
  let foreign ← Trial.built other p.1
  Trial.holds .identicalToSame (x.identicalTo (.symbol same))
  Trial.equalTruth (x.identicalTo (.symbol y)) (p.1 == p.2)
  Trial.holds .distinctFromForeign (!x.identicalTo (.symbol foreign))
  Trial.holds .foreignDistinct (!foreign.identicalTo (.symbol x))
  Trial.holds .distinctFromZero (!x.identicalTo (.scalar (.int 0)))
  Trial.holds .distinctFromLength
    (!x.identicalTo (.scalar (.float (Binary64.ofNat p.1.utf8ByteSize))))

/-- The check of identity over given names, each paired with the one at its place from the end. -/
def identityOver (f other : Factory) (l : List String) : Trial Unit :=
  (l.zip l.reverse).forM (identityRound f other)

/-- The check of identity: over the sampled names of the seed two. -/
def identity (f other : Factory) : Trial Unit := identityOver f other (names 2)

/-! ### Rejected texts -/

/-- The characters from a byte position on, if a character or the end stands there. -/
def charsFrom? : Nat → List Char → Option (List Char)
  | 0, cs => some cs
  | _ + 1, [] => none
  | n + 1, c :: cs => if c.utf8Size ≤ n + 1 then charsFrom? (n + 1 - c.utf8Size) cs else none

/-- Texts that are no names. -/
def badNames : List String :=
  ["a b", "x-1", "x.y", "\u03b1", "tab\t", "new\nline", "caf\u00e9"]

/-- What has to hold of the report on a text: it is on that text, and its character stands at its
offset. -/
def rejectionRound (f : Factory) (text : String) : Trial Unit := do
  let e ← Trial.rejected f text
  Trial.equalText e.name text
  match charsFrom? e.offset text.toList with
  | none => throw (.offBoundary text e.offset)
  | some cs => Trial.holds .invalidAtOffset (cs.head? == some e.invalid)

/-- The check of rejected texts. -/
def rejection (f : Factory) : Trial Unit := badNames.forM (rejectionRound f)

end Contract

end GradedSymbols
