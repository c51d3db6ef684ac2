import GradedSymbols.Strategy.Draws

/-!
# Surveys of strategies

A survey draws many values of a strategy and states findings on them that hold whatever the source
of words is, as long as there are enough values: laws that all values obey, and the sets of values
or of their properties, sorted.

## Main definitions

* `GradedSymbols.Finding` — what a survey finds.
* `GradedSymbols.Survey` — the surveys.
* `GradedSymbols.Survey.findingsOf` — the findings of a survey.
-/

namespace GradedSymbols

/-- Something found in a survey: whether a law holds, a number, a text, or the truth values, numbers
or texts that occur, sorted. -/
inductive Finding where
  | truth (b : Bool)
  | truths (l : List Bool)
  | number (n : Nat)
  | numbers (l : List Nat)
  | text (s : String)
  | texts (l : List String)
deriving DecidableEq

/-- The members of a list in ascending order, each once. -/
def sortedDistinct {α : Type} [BEq α] (le : α → α → Bool) (l : List α) : List α :=
  (l.mergeSort le).eraseReps

/-- The texts of a list in ascending order, each once. -/
def distinctTexts (l : List String) : List String := sortedDistinct (fun a b => decide (a ≤ b)) l

/-- The numbers of a list in ascending order, each once. -/
def distinctNumbers (l : List Nat) : List Nat := sortedDistinct (fun a b => decide (a ≤ b)) l

/-- The truth values of a list, each once, `false` first. -/
def distinctTruths (l : List Bool) : List Bool := [false, true].filter l.contains

/-- The strategies that are surveyed. -/
inductive Survey where
  | names
  | outsiders
  | spoiledNames
  | texts
  | smallNames
  | symbols (kind : Kind)
  | smallSymbols (kind : Kind)
  | scalars
  | objects
deriving DecidableEq

namespace Survey

/-- Whether a text is accepted as a name. -/
def accepts (text : String) : Bool := (Name.check text).toBool

/-- The findings on names. -/
def ofNames (l : List Name) : List (String × Finding) :=
  let texts := l.map Name.text
  [("all_valid", .truth (texts.all accepts)),
    ("bounded", .truth (texts.all fun t => t.length ≤ longestName)),
    ("max", .number longestName),
    ("lens", .numbers (distinctNumbers (texts.map String.length))),
    ("chars", .text (String.join (distinctTexts (texts.flatMap fun t =>
      t.toList.map String.singleton))))]

/-- The findings on characters outside the charset. -/
def ofOutsiders (l : List Char) : List (String × Finding) :=
  [("any_valid", .truth (l.any Charset.contains))]

/-- Whether the report on a text points to a byte that a name made by a strategy can reach. -/
def isReportedEarly (text : String) : Bool :=
  match Name.check text with
  | .ok () => false
  | .error e => e.offset ≤ longestName

/-- The findings on texts that are no names. -/
def ofSpoiledNames (l : List Spoiled) : List (String × Finding) :=
  let texts := l.map Spoiled.text
  [("any_valid", .truth (texts.any accepts)),
    ("offset_bounded", .truth (texts.all isReportedEarly))]

/-- The findings on any texts. -/
def ofTexts (l : List String) : List (String × Finding) :=
  [("agrees", .truth (l.all fun t => accepts t == t.toList.all Charset.contains))]

/-- The findings on symbols. -/
def ofSymbols (l : List Symbol) : List (String × Finding) :=
  [("all_valid", .truth (l.all fun s => accepts s.name.text)),
    ("degrees", .numbers (distinctNumbers (l.map Symbol.degree))),
    ("kinds", .texts (distinctTexts (l.map fun s => s.kind.typeName))),
    ("repr_ok", .truth (l.all fun s => s.repr == s.kind.typeName ++ "(" ++ s.pretty ++ ")"))]

/-- The findings on symbols, linear ones with small names being compared with the objects at the
same places. -/
def ofObjects (l : List Object) (xs : List Symbol) : List (String × Finding) :=
  [("types", .texts (distinctTexts (l.map fun o => o.tag.name))),
    ("symbols", .texts (distinctTexts (l.filterMap fun o => o.symbol?.map Symbol.repr))),
    ("scalar_iff_nameless", .truth (l.all fun o => o.isScalar == o.name?.isNone)),
    ("outcomes", .truths (distinctTruths ((xs.zip l).map fun p => p.1.identicalTo p.2)))]

/-- The number of rejections that a survey admits for each value. -/
def rejectionLimit : Nat := 65536

/-- The values of a strategy for several drawn choices, rejected ones being drawn again. -/
def valuesOf {σ ρ α : Type} (s : Strategy ρ α) (d : Draw σ ρ) (cases : Nat) : Draw σ (List α) := do
  let values ← (s.sample d rejectionLimit).several cases
  return values.filterMap id

/-- The findings of a survey that draws a number of values. -/
def findingsOf {σ : Type} (r : Primitives σ) (cases : Nat) :
    Survey → Draw σ (List (String × Finding))
  | names => return ofNames (← r.name.several cases)
  | outsiders => do
    let l ← valuesOf Strategy.outsiders r.character cases
    return ofOutsiders (l.map Subtype.val)
  | spoiledNames => do
    let l ← (r.spoiledName rejectionLimit).several cases
    return ofSpoiledNames (l.filterMap id)
  | texts => return ofTexts (← r.text.several cases)
  | smallNames => return [("names", .texts (distinctTexts (← r.smallName.several cases)))]
  | symbols kind => return ofSymbols (← valuesOf (Strategy.symbols kind) (Name.text <$> r.name) cases)
  | smallSymbols kind => do
    let l ← valuesOf (Strategy.symbols kind) r.smallName cases
    return [("reprs", .texts (distinctTexts (l.map Symbol.repr)))]
  | scalars => do
    let l ← r.scalar.several cases
    return [("types", .texts (distinctTexts (l.map fun v => v.tag.name)))]
  | objects => do
    let l ← valuesOf Strategy.objects r.draft cases
    let xs ← valuesOf (Strategy.symbols .linear) r.smallName cases
    return ofObjects l xs

/-- The findings of a survey that draws from a source of words. -/
def findings {σ : Type} [WordSource σ] (cases : Nat) (s : Survey) :
    Draw σ (List (String × Finding)) :=
  s.findingsOf Primitives.ofWords cases

end Survey

end GradedSymbols
