/-!
# Rounding of quotients

A quotient of natural numbers is rounded to the nearest natural number; the middle between two
neighbours goes to the even one.

## Main definitions

* `GradedSymbols.roundHalfEven` — the rounded quotient.
-/

namespace GradedSymbols

/-- The natural number nearest to `n / d`, the even one of two that are equally near. -/
def roundHalfEven (n d : Nat) : Nat :=
  let below := n / d
  let rest := n % d
  if 2 * rest < d ∨ (2 * rest = d ∧ below % 2 = 0) then below else below + 1

end GradedSymbols
