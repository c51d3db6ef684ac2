import GradedSymbols.Name.Basic

/-!
# Symbols

A symbol is a kind and a name, and nothing else: two symbols are identical exactly when both agree.
A linear symbol stands for an unknown that occurs linearly and has degree one, a parameter symbol
stands for a constant and has degree zero. The degree belongs to the kind, through the class of
degrees that the kind is in.

## Main definitions

* `GradedSymbols.DegreeClass`, `GradedSymbols.Kind`, `GradedSymbols.Symbol`.
* `GradedSymbols.Symbol.build` — the symbol of a kind whose name is spelled by a text.
* `GradedSymbols.Symbol.degree` — the degree.
* `GradedSymbols.Symbol.repr`, `GradedSymbols.Symbol.pretty` — the text for inspection and the bare
  name; no style changes either.
-/

namespace GradedSymbols

/-! ### Kinds and degrees -/

/-- The classes of expressions of a fixed degree: constants and parameters on the one hand, unknowns
that occur linearly on the other. -/
inductive DegreeClass where
  | constant
  | linear
deriving DecidableEq

/-- The degree of all expressions in a class. -/
def DegreeClass.degree : DegreeClass → Nat
  | constant => 0
  | linear => 1

/-- The kinds of symbols: symbols for unknowns are linear, symbols for constants are parameters. -/
inductive Kind where
  | linear
  | parameter
deriving DecidableEq

namespace Kind

/-- The name of a kind in texts for inspection. -/
def typeName : Kind → String
  | linear => "LinSymbol"
  | parameter => "ParamSymbol"

/-- The class of degrees that the symbols of a kind are in. -/
def degreeClass : Kind → DegreeClass
  | linear => .linear
  | parameter => .constant

end Kind

/-! ### Symbols -/

/-- A symbol: a kind and a name. -/
structure Symbol where
  kind : Kind
  name : Name
deriving DecidableEq

namespace Symbol

/-- The symbol of a kind whose name is spelled by a text, or the report on the text. -/
def build (kind : Kind) (text : String) : Except InvalidName Symbol :=
  (Name.ofString text).map fun name => ⟨kind, name⟩

theorem build_kind_name (s : Symbol) : build s.kind s.name.text = .ok s := by
  rw [build, Name.ofString_text]
  rfl

theorem eq_of_kind_of_text {s t : Symbol} (hk : s.kind = t.kind) (ht : s.name.text = t.name.text) :
    s = t := by
  obtain ⟨k, n⟩ := s
  obtain ⟨l, m⟩ := t
  obtain ⟨a, ha⟩ := n
  obtain ⟨b, hb⟩ := m
  subst hk ht
  rfl

theorem kind_and_text_iff {s t : Symbol} :
    s.kind = t.kind ∧ s.name.text = t.name.text ↔ s = t := by
  constructor
  · exact fun h => eq_of_kind_of_text h.1 h.2
  · rintro rfl
    exact ⟨rfl, rfl⟩

/-- The degree, which the kind determines. -/
def degree (s : Symbol) : Nat := s.kind.degreeClass.degree

/-- The text for inspection: the name of the kind around the bare name. -/
def repr (s : Symbol) : String := s.kind.typeName ++ "(" ++ s.name.text ++ ")"

/-- The bare name. -/
def pretty (s : Symbol) : String := s.name.text

/-- The degree plus the number of bytes of the name. -/
def weight (s : Symbol) : Nat := s.degree + s.name.byteSize

/-- What `readers` readers of one symbol observe, each on its own: a symbol never changes, so all
observe the same. -/
def observations {α : Type} (readers : Nat) (observe : Symbol → α) (s : Symbol) : List α :=
  (List.range readers).map fun _ => observe s

end Symbol

end GradedSymbols
