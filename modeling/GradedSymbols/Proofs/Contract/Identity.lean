import GradedSymbols.Contract.Distortion
import GradedSymbols.Proofs.Contract.Course
import GradedSymbols.Proofs.Contract.Names

/-!
# The check of identity

A round of the check of identity calls two factories four times, and asserts six things about the
symbols that they build. Only two of the assertions can be the first to fail: a factory is a
function of the text, so that the two symbols of the first name are the same; identity is symmetric,
so that the comparison from the side of the other factory says nothing new; and a scalar is no
symbol. This file describes by that what a round refuses, and with it the verdict and the number of
calls of the whole check.

## Main definitions

* `GradedSymbols.Contract.KeepsIdentity` — what a round asks of two factories and two names.
* `GradedSymbols.Contract.identityRefusal` — the violation that refuses a round, and the calls up to
  it.
* `GradedSymbols.Contract.nameAt` — the sampled names by their places.

## Main results

* `GradedSymbols.Contract.ends_identityRound_of_keeps`,
  `GradedSymbols.Contract.ends_identityRound_of_not_keeps` — the course of a round.
* `GradedSymbols.Contract.identity_verdict` — the verdict of the check.
-/

namespace GradedSymbols

namespace Contract

open Trial

/-! ### The assertions of a round -/

/-- The assertions of a round about the symbols `x` and `y` of two names and the symbol of another
factory. -/
def identityAssertions (x y foreign : Symbol) (a b : String) : Trial Unit := do
  holds .identicalToSame (x.identicalTo (.symbol x))
  equalTruth (x.identicalTo (.symbol y)) (a == b)
  holds .distinctFromForeign (!x.identicalTo (.symbol foreign))
  holds .foreignDistinct (!foreign.identicalTo (.symbol x))
  holds .distinctFromZero (!x.identicalTo (.scalar (.int 0)))
  holds .distinctFromLength (!x.identicalTo (.scalar (.float (Binary64.ofNat a.utf8ByteSize))))

section Assertions

variable {x y foreign : Symbol} {a b : String}

/-- The assertions hold if the symbols of the names are the same exactly if the names are, and the
other symbol is another one. The two about scalars and the one from the other side follow. -/
theorem ends_identityAssertions (hnames : x = y ↔ a = b) (hforeign : x ≠ foreign) :
    (identityAssertions x y foreign a b).Ends (.ok ()) 0 := by
  have htruth : x.identicalTo (.symbol y) = (a == b) := by
    rw [Symbol.identicalTo_eq_decide, beq_eq_decide]
    exact decide_eq_decide.2 hnames
  refine (ends_holds_of_eq_true _ (by simp [Symbol.identicalTo_eq_decide])).bind (k := 0) ?_
  refine (ends_equal_of_eq _ htruth).bind (k := 0) ?_
  refine (ends_holds_of_eq_true _ (by simp [Symbol.identicalTo_eq_decide, hforeign])).bind
    (k := 0) ?_
  refine (ends_holds_of_eq_true _ (by simp [Symbol.identicalTo_eq_decide, hforeign.symm])).bind
    (k := 0) ?_
  refine (ends_holds_of_eq_true _ (by simp [Symbol.identicalTo_scalar])).bind (k := 0) ?_
  exact ends_holds_of_eq_true _ (by simp [Symbol.identicalTo_scalar])

/-- The comparison of names is the first to fail if different names have the same symbol. -/
theorem ends_identityAssertions_of_ne (hxy : x = y) (hab : a ≠ b) :
    (identityAssertions x y foreign a b).Ends (.error (.differ "true" "false")) 0 := by
  have htrue : x.identicalTo (.symbol y) = true := Symbol.identicalTo_symbol.2 hxy
  have hfalse : (a == b) = false := beq_eq_false_iff_ne.2 hab
  refine (ends_holds_of_eq_true _ (by simp [Symbol.identicalTo_eq_decide])).bind (k := 0) ?_
  refine Ends.bind_error _ ?_
  rw [htrue, hfalse]
  exact ends_equal_of_ne _ (by decide)

/-- The comparison with the other factory is the first to fail if names and symbols agree and that
factory builds the same symbol. -/
theorem ends_identityAssertions_of_eq_foreign (hnames : x = y ↔ a = b) (hforeign : x = foreign) :
    (identityAssertions x y foreign a b).Ends (.error (.fails .distinctFromForeign)) 0 := by
  have htruth : x.identicalTo (.symbol y) = (a == b) := by
    rw [Symbol.identicalTo_eq_decide, beq_eq_decide]
    exact decide_eq_decide.2 hnames
  refine (ends_holds_of_eq_true _ (by simp [Symbol.identicalTo_eq_decide])).bind (k := 0) ?_
  refine (ends_equal_of_eq _ htruth).bind (k := 0) ?_
  exact (ends_holds_of_eq_false _ (by simp [Symbol.identicalTo_eq_decide, hforeign])).bind_error _

end Assertions

/-! ### A round -/

/-- What a round of the check of identity asks of two factories and two names: all calls build
symbols, the first factory builds symbols of one kind and name from the two names only if the names
are equal, and the other factory builds a symbol of another kind or name from the first name. -/
def KeepsIdentity (f other : Factory) (a b : String) : Prop :=
  ∃ x y foreign, f a = .ok x ∧ f b = .ok y ∧ other a = .ok foreign ∧
    (x.kind = y.kind ∧ x.name.text = y.name.text → a = b) ∧
      ¬(x.kind = foreign.kind ∧ x.name.text = foreign.name.text)

/-- The violation that refuses a round of the check of identity, and the calls up to it: one call if
the first name is reported, three if the second is, and otherwise four. -/
def identityRefusal (f other : Factory) (a b : String) : Violation × Nat :=
  match f a, f b, other a with
  | .error e, _, _ => (.notBuilt e, 1)
  | .ok _, .error e, _ => (.notBuilt e, 3)
  | .ok _, .ok _, .error e => (.notBuilt e, 4)
  | .ok x, .ok y, .ok _ =>
    if x.kind = y.kind ∧ x.name.text = y.name.text ∧ a ≠ b then (.differ "true" "false", 4)
    else (.fails .distinctFromForeign, 4)

section Round

variable {f other : Factory} {a b : String}

theorem ends_identityRound_of_assertions {x y foreign : Symbol} {r : Except Violation Unit}
    (hx : f a = .ok x) (hy : f b = .ok y) (hforeign : other a = .ok foreign)
    (h : (identityAssertions x y foreign a b).Ends r 0) :
    (identityRound f other (a, b)).Ends r 4 := by
  unfold identityRound
  refine (ends_built_of_ok hx).bind (k := 3) ?_
  refine (ends_built_of_ok hx).bind (k := 2) ?_
  refine (ends_built_of_ok hy).bind (k := 1) ?_
  exact (ends_built_of_ok hforeign).bind (k := 0) h

theorem eq_iff_eq_of_factory {x y : Symbol} (hx : f a = .ok x) (hy : f b = .ok y)
    (h : x = y → a = b) : x = y ↔ a = b := by
  refine ⟨h, ?_⟩
  rintro rfl
  exact Except.ok.inj (hx.symm.trans hy)

theorem ends_identityRound_of_keeps (h : KeepsIdentity f other a b) :
    (identityRound f other (a, b)).Ends (.ok ()) 4 := by
  obtain ⟨x, y, foreign, hx, hy, hforeign, hnames, hdistinct⟩ := h
  rw [Symbol.kind_and_text_iff] at hnames hdistinct
  exact ends_identityRound_of_assertions hx hy hforeign
    (ends_identityAssertions (eq_iff_eq_of_factory hx hy hnames) hdistinct)

/-- A round that does not find what it asks for is refused. The cases are those of the calls: the
second call of the first factory repeats the first one, and cannot fail. -/
theorem ends_identityRound_of_not_keeps (h : ¬KeepsIdentity f other a b) :
    (identityRound f other (a, b)).Ends (.error (identityRefusal f other a b).1)
      (identityRefusal f other a b).2 := by
  unfold identityRefusal
  cases hx : f a with
  | error e => exact (ends_built_of_error hx).bind_error _
  | ok x =>
    cases hy : f b with
    | error e =>
      refine (ends_built_of_ok hx).bind (k := 2) ?_
      refine (ends_built_of_ok hx).bind (k := 1) ?_
      exact (ends_built_of_error hy).bind_error _
    | ok y =>
      cases hforeign : other a with
      | error e =>
        refine (ends_built_of_ok hx).bind (k := 3) ?_
        refine (ends_built_of_ok hx).bind (k := 2) ?_
        refine (ends_built_of_ok hy).bind (k := 1) ?_
        exact (ends_built_of_error hforeign).bind_error _
      | ok foreign =>
        dsimp only
        split
        · next hsame =>
          have hxy : x = y := Symbol.kind_and_text_iff.1 ⟨hsame.1, hsame.2.1⟩
          exact ends_identityRound_of_assertions hx hy hforeign
            (ends_identityAssertions_of_ne hxy hsame.2.2)
        · next hsame =>
          have hnames : x.kind = y.kind ∧ x.name.text = y.name.text → a = b := fun hk => by
            by_contra hab
            exact hsame ⟨hk.1, hk.2, hab⟩
          have heq : x = foreign := by
            by_contra hne
            exact h ⟨x, y, foreign, hx, hy, hforeign, hnames, fun hk =>
              hne (Symbol.kind_and_text_iff.1 hk)⟩
          rw [Symbol.kind_and_text_iff] at hnames
          exact ends_identityRound_of_assertions hx hy hforeign
            (ends_identityAssertions_of_eq_foreign (eq_iff_eq_of_factory hx hy hnames) heq)

theorem not_keepsIdentity_self (f : Factory) (a b : String) : ¬KeepsIdentity f f a b := by
  rintro ⟨x, y, foreign, hx, -, hforeign, -, hdistinct⟩
  obtain rfl := Except.ok.inj (hx.symm.trans hforeign)
  exact hdistinct ⟨rfl, rfl⟩

theorem keepsIdentity_honest {kind kind' : Kind} (hkind : kind ≠ kind')
    (ha : Name.check a = .ok ()) (hb : Name.check b = .ok ()) :
    KeepsIdentity (Factory.honest kind) (Factory.honest kind') a b := by
  obtain ⟨x, hx, hxkind, hxtext⟩ := Symbol.exists_build_of_check ha kind
  obtain ⟨y, hy, -, hytext⟩ := Symbol.exists_build_of_check hb kind
  obtain ⟨foreign, hforeign, hforeignkind, -⟩ := Symbol.exists_build_of_check ha kind'
  refine ⟨x, y, foreign, hx, hy, hforeign, fun h => ?_, fun h => hkind ?_⟩
  · rw [← hxtext, ← hytext, h.2]
  · rw [← hxkind, ← hforeignkind, h.1]

/-- Of the conditions, only the comparison with the other factory refuses a round. -/
theorem eq_distinctFromForeign_of_refusal {c : Condition}
    (h : (identityRefusal f other a b).1 = .fails c) : c = .distinctFromForeign := by
  unfold identityRefusal at h
  split at h
  · cases h
  · cases h
  · cases h
  · split at h
    · cases h
    · exact (Violation.fails.inj h).symm

end Round

/-! ### The check -/

section Over

variable (f other : Factory) (l : List String)

/-- The names of a round: the one at a place from the start, and the one at that place from the
end. -/
theorem getElem?_zip_reverse (l : List String) {i : Nat} (hi : i < l.length) :
    (l.zip l.reverse)[i]? = some (l.getD i "", l.getD (l.length - 1 - i) "") := by
  have hmirror : l.length - 1 - i < l.length := by omega
  rw [List.getElem?_zip_eq_some, List.getElem?_reverse hi, List.getD_eq_getElem _ _ hi,
    List.getD_eq_getElem _ _ hmirror]
  exact ⟨List.getElem?_eq_getElem hi, List.getElem?_eq_getElem hmirror⟩

theorem forall_mem_zip_reverse (p : String × String → Prop) :
    (∀ q ∈ l.zip l.reverse, p q) ↔
      ∀ i < l.length, p (l.getD i "", l.getD (l.length - 1 - i) "") := by
  constructor
  · intro h i hi
    exact h _ (List.mem_of_getElem? (getElem?_zip_reverse l hi))
  · intro h q hq
    obtain ⟨i, hi, rfl⟩ := List.getElem_of_mem hq
    have hlt : i < l.length := by simpa using hi
    have hround := getElem?_zip_reverse l hlt
    rw [List.getElem?_eq_getElem hi] at hround
    rw [Option.some.inj hround]
    exact h i hlt

theorem identityOver_verdict :
    ((identityOver f other l).verdict = ⟨none, 4 * l.length⟩ ↔
      ∀ i < l.length, KeepsIdentity f other (l.getD i "") (l.getD (l.length - 1 - i) "")) ∧
    ((identityOver f other l).verdict.violation? = none ↔
      ∀ i < l.length, KeepsIdentity f other (l.getD i "") (l.getD (l.length - 1 - i) "")) ∧
    (∀ i < l.length, ¬KeepsIdentity f other (l.getD i "") (l.getD (l.length - 1 - i) "") →
      (∀ j < i, KeepsIdentity f other (l.getD j "") (l.getD (l.length - 1 - j) "")) →
      (identityOver f other l).verdict =
        ⟨some (identityRefusal f other (l.getD i "") (l.getD (l.length - 1 - i) "")).1,
          4 * i + (identityRefusal f other (l.getD i "") (l.getD (l.length - 1 - i) "")).2⟩) ∧
    ∀ c, (identityOver f other l).verdict.violation? = some (.fails c) →
      c = .distinctFromForeign := by
  obtain ⟨hpass, hnone, hfirst, hviolation⟩ := verdict_forM (fun q => KeepsIdentity f other q.1 q.2)
    (fun q => identityRefusal f other q.1 q.2) (fun _ => ends_identityRound_of_keeps)
    (fun _ => ends_identityRound_of_not_keeps) (l.zip l.reverse)
  rw [forall_mem_zip_reverse] at hpass hnone
  rw [List.length_zip, List.length_reverse, Nat.min_self, Nat.mul_comm] at hpass
  refine ⟨hpass, hnone, fun i hi hi' hbefore => ?_, fun c hc => ?_⟩
  · rw [Nat.mul_comm 4 i]
    refine hfirst i _ (getElem?_zip_reverse l hi) hi' fun j hj q hq => ?_
    rw [getElem?_zip_reverse l (hj.trans hi)] at hq
    exact Option.some.inj hq ▸ hbefore j hj
  · obtain ⟨q, -, hq⟩ := hviolation _ hc
    exact eq_distinctFromForeign_of_refusal hq.symm

theorem identityOver_honest {kind kind' : Kind} (hkind : kind ≠ kind')
    (hl : ∀ name ∈ l, Name.check name = .ok ()) :
    (identityOver (Factory.honest kind) (Factory.honest kind') l).verdict =
      ⟨none, 4 * l.length⟩ := by
  have hcheck : ∀ i < l.length, Name.check (l.getD i "") = .ok () := fun i hi => by
    rw [List.getD_eq_getElem _ _ hi]
    exact hl _ (List.getElem_mem hi)
  exact (identityOver_verdict _ _ l).1.2 fun i hi =>
    keepsIdentity_honest hkind (hcheck i hi) (hcheck _ (by omega))

end Over

/-! ### The sampled names -/

/-- The name at a place among those that are sampled for a seed. -/
def nameAt (seed : UInt64) (i : Nat) : String := (names seed).getD i ""

/-- **The verdict of the check of identity.** There are 256 names, and the round with the number `i`
takes the names at the places `i` and `255 - i`.

* The check passes exactly if every round finds what it asks for, and then makes 1024 calls.
* Otherwise the least round that does not refuses, after `4 * i + 1` calls if the first factory
  reports the first name, `4 * i + 3` if it reports the second one, and otherwise `4 * i + 4`.
* The only condition that refuses a check is the comparison with the other factory.
* Honest factories of different kinds pass, whatever the seed.
* A factory that is checked against itself is refused in the first round. -/
theorem identity_verdict (f other : Factory) :
    (names 2).length = 256 ∧
    ((identity f other).verdict = ⟨none, 1024⟩ ↔
      ∀ i < 256, KeepsIdentity f other (nameAt 2 i) (nameAt 2 (255 - i))) ∧
    ((identity f other).verdict.violation? = none ↔
      ∀ i < 256, KeepsIdentity f other (nameAt 2 i) (nameAt 2 (255 - i))) ∧
    (∀ i < 256, ¬KeepsIdentity f other (nameAt 2 i) (nameAt 2 (255 - i)) →
      (∀ j < i, KeepsIdentity f other (nameAt 2 j) (nameAt 2 (255 - j))) →
      (identity f other).verdict =
        ⟨some (identityRefusal f other (nameAt 2 i) (nameAt 2 (255 - i))).1,
          4 * i + (identityRefusal f other (nameAt 2 i) (nameAt 2 (255 - i))).2⟩) ∧
    (∀ c, (identity f other).verdict.violation? = some (.fails c) → c = .distinctFromForeign) ∧
    (∀ (kind kind' : Kind) (seed : UInt64), kind ≠ kind' →
      (identity (.honest kind) (.honest kind')).verdict = ⟨none, 1024⟩ ∧
      (identityOver (.honest kind) (.honest kind') (names seed)).verdict = ⟨none, 1024⟩) ∧
    (identity f f).verdict =
      ⟨some (identityRefusal f f (nameAt 2 0) (nameAt 2 255)).1,
        (identityRefusal f f (nameAt 2 0) (nameAt 2 255)).2⟩ := by
  have hover := identityOver_verdict f other (names 2)
  have hself := identityOver_verdict f f (names 2)
  rw [length_names] at hover hself
  obtain ⟨hpass, hnone, hfirst, hviolation⟩ := hover
  have hhonest : ∀ (kind kind' : Kind) (seed : UInt64), kind ≠ kind' →
      (identityOver (.honest kind) (.honest kind') (names seed)).verdict = ⟨none, 1024⟩ := by
    intro kind kind' seed hkind
    rw [identityOver_honest _ hkind fun _ => check_of_mem_names, length_names]
  refine ⟨length_names 2, hpass, hnone, hfirst, hviolation, ?_, ?_⟩
  · exact fun kind kind' seed hkind => ⟨hhonest kind kind' 2 hkind, hhonest kind kind' seed hkind⟩
  · have hfail := hself.2.2.1 0 (by omega) (not_keepsIdentity_self f _ _) fun j hj => by omega
    rw [Nat.mul_zero, Nat.zero_add] at hfail
    exact hfail

end Contract

end GradedSymbols
