import GradedSymbols.Proofs.Name.Reports
import GradedSymbols.Strategy.Basic

/-!
# Symbols made of texts

The strategy for symbols of a kind makes one symbol of each text that the check accepts, with that
text as its name, and rejects the other texts. Which texts are rejected does not depend on the kind,
so the strategies for the two kinds run alike over the same texts: they make symbols of the same
names at the same places, count the same rejections and end in the same place.

The first part of this file is about runs of any strategy: as long as the limit of rejections is not
exceeded, a run makes what the choices are worth without a limit, and otherwise it ends in front of
the first rejection that is too many. A run over two lists of choices goes on, in the second one,
with the rejections that were counted in the first one.

## Main definitions

* `GradedSymbols.Strategy.rejections` — the number of choices that are rejected.
* `GradedSymbols.Strategy.accepted`, `GradedSymbols.Strategy.reported` — the texts of a list that are
  names, and the number of those that are none.

## Main results

* `GradedSymbols.Strategy.runFrom_append` — a run over two lists of choices.
* `GradedSymbols.Strategy.runFrom_of_le`, `GradedSymbols.Strategy.exists_eq_append_of_lt`,
  `GradedSymbols.Strategy.runFrom_append_of_none` — what a run makes within the limit, where the limit
  is exceeded, and that the run ends there.
* `GradedSymbols.Strategy.map_kind_and_text_values` — the symbols that are made of texts.
* `GradedSymbols.Strategy.symbols_lose_and_invent_nothing` — the laws of the strategies for symbols.
-/

namespace GradedSymbols

namespace Strategy

/-! ### Runs with a limit -/

section Runs

variable {ρ α : Type} (s : Strategy ρ α) (limit : Nat)

/-- The number of choices of a list that are rejected. -/
def rejections (choices : List ρ) : Nat := choices.countP fun choice => (s.assemble choice).isNone

variable {s} {limit}

theorem rejections_cons_of_some {choice : ρ} {value : α} (h : s.assemble choice = some value)
    (choices : List ρ) : s.rejections (choice :: choices) = s.rejections choices := by
  simp [rejections, h]

theorem rejections_cons_of_none {choice : ρ} (h : s.assemble choice = none) (choices : List ρ) :
    s.rejections (choice :: choices) = s.rejections choices + 1 := by
  simp [rejections, h]

theorem runFrom_cons_of_some {choice : ρ} {value : α} (h : s.assemble choice = some value)
    (n : Nat) (choices : List ρ) : s.runFrom limit n (choice :: choices) =
      { s.runFrom limit n choices with values := value :: (s.runFrom limit n choices).values } := by
  rw [runFrom, h]

theorem runFrom_cons_of_none {choice : ρ} (h : s.assemble choice = none) (n : Nat)
    (choices : List ρ) : s.runFrom limit n (choice :: choices) =
      if limit ≤ n then ⟨[], n, .tooManyRejections⟩ else s.runFrom limit (n + 1) choices := by
  rw [runFrom, h]

/-- **Runs over two lists.** If the first list is used up, the run goes on in the second one with the
rejections counted so far; otherwise it has ended in the first one. -/
theorem runFrom_append (n : Nat) (l r : List ρ) : s.runFrom limit n (l ++ r) =
    match (s.runFrom limit n l).ending with
    | .exhausted =>
      { s.runFrom limit (s.runFrom limit n l).rejections r with
        values := (s.runFrom limit n l).values ++
          (s.runFrom limit (s.runFrom limit n l).rejections r).values }
    | .tooManyRejections => s.runFrom limit n l := by
  induction l generalizing n with
  | nil => rfl
  | cons choice l ih =>
    rw [List.cons_append]
    cases hchoice : s.assemble choice with
    | some value =>
      rw [runFrom_cons_of_some hchoice, runFrom_cons_of_some hchoice, ih]
      cases (s.runFrom limit n l).ending <;> rfl
    | none =>
      rw [runFrom_cons_of_none hchoice, runFrom_cons_of_none hchoice]
      by_cases hn : limit ≤ n
      · rw [if_pos hn, if_pos hn]
      · rw [if_neg hn, if_neg hn, ih]

/-- Within the limit, a run makes all values and uses up the choices. -/
theorem runFrom_of_le {n : Nat} {choices : List ρ} (h : n + s.rejections choices ≤ limit) :
    s.runFrom limit n choices = ⟨s.values choices, n + s.rejections choices, .exhausted⟩ := by
  induction choices generalizing n with
  | nil => rfl
  | cons choice choices ih =>
    cases hchoice : s.assemble choice with
    | some value =>
      rw [rejections_cons_of_some hchoice] at h ⊢
      rw [runFrom_cons_of_some hchoice, ih h, values_cons_of_some hchoice]
    | none =>
      rw [rejections_cons_of_none hchoice] at h ⊢
      rw [runFrom_cons_of_none hchoice, if_neg (by omega), ih (by omega),
        values_cons_of_none hchoice]
      congr 1
      omega

/-- If there are too many rejections, one of them is the first that is too many. -/
theorem exists_eq_append_of_lt {n : Nat} {choices : List ρ} (hn : n ≤ limit)
    (h : limit < n + s.rejections choices) : ∃ front choice rest,
      choices = front ++ choice :: rest ∧ n + s.rejections front = limit ∧
        s.assemble choice = none := by
  induction choices generalizing n with
  | nil => exact absurd h (Nat.not_lt.2 hn)
  | cons choice choices ih =>
    cases hchoice : s.assemble choice with
    | some value =>
      rw [rejections_cons_of_some hchoice] at h
      obtain ⟨front, c, rest, rfl, hfront, hc⟩ := ih hn h
      exact ⟨choice :: front, c, rest, rfl, by rwa [rejections_cons_of_some hchoice], hc⟩
    | none =>
      rcases Nat.eq_or_lt_of_le hn with rfl | hlt
      · exact ⟨[], choice, choices, rfl, rfl, hchoice⟩
      · rw [rejections_cons_of_none hchoice] at h
        obtain ⟨front, c, rest, rfl, hfront, hc⟩ := ih hlt (by omega)
        refine ⟨choice :: front, c, rest, rfl, ?_, hc⟩
        rw [rejections_cons_of_none hchoice]
        omega

/-- Beyond the limit, a run makes the values in front of the first rejection that is too many. -/
theorem runFrom_append_of_none {n : Nat} {front : List ρ} {choice : ρ}
    (hfront : n + s.rejections front = limit) (hchoice : s.assemble choice = none)
    (rest : List ρ) : s.runFrom limit n (front ++ choice :: rest) =
      ⟨s.values front, limit, .tooManyRejections⟩ := by
  rw [runFrom_append, runFrom_of_le (Nat.le_of_eq hfront)]
  dsimp only
  rw [hfront, runFrom_cons_of_none hchoice, if_pos (Nat.le_refl limit), List.append_nil]

end Runs

/-! ### Symbols -/

/-- A text makes a symbol exactly if the check accepts it, and then the symbol has the kind of the
strategy and the text as its name. -/
theorem symbols_assemble_eq_some_iff {kind : Kind} {text : String} {s : Symbol} :
    (symbols kind).assemble text = some s ↔
      Name.check text = .ok () ∧ s.kind = kind ∧ s.name.text = text := by
  have hassemble : (symbols kind).assemble text = (Symbol.build kind text).toOption := rfl
  rw [hassemble]
  constructor
  · intro h
    cases hbuild : Symbol.build kind text with
    | ok t =>
      rw [hbuild] at h
      obtain rfl := Option.some.inj h
      refine ⟨?_, Symbol.kind_and_text_of_build hbuild⟩
      rw [← Symbol.map_build_eq_check kind text, hbuild]
      rfl
    | error e =>
      rw [hbuild] at h
      cases h
  · rintro ⟨-, rfl, rfl⟩
    rw [Symbol.build_kind_name]
    rfl

theorem symbols_assemble_eq_none_iff {kind : Kind} {text : String} :
    (symbols kind).assemble text = none ↔ ∃ e, Name.check text = .error e := by
  have hassemble : (symbols kind).assemble text = (Symbol.build kind text).toOption := rfl
  rw [hassemble]
  cases hbuild : Symbol.build kind text with
  | ok s =>
    refine iff_of_false (Option.some_ne_none s) ?_
    rintro ⟨e, he⟩
    rw [Symbol.build_eq_error_iff.2 he] at hbuild
    cases hbuild
  | error e => exact iff_of_true rfl ⟨e, Symbol.build_eq_error_iff.1 hbuild⟩

/-- The texts of a list that are names. -/
def accepted (texts : List String) : List String :=
  texts.filter fun text => (Name.check text).toBool

/-- The number of texts of a list that are no names. -/
def reported (texts : List String) : Nat := texts.countP fun text => !(Name.check text).toBool

theorem isSome_symbols_assemble (kind : Kind) (text : String) :
    ((symbols kind).assemble text).isSome = (Name.check text).toBool := by
  cases hcheck : Name.check text with
  | ok _ =>
    obtain ⟨s, -, hkind, htext⟩ := Symbol.exists_build_of_check hcheck kind
    rw [symbols_assemble_eq_some_iff.2 ⟨hcheck, hkind, htext⟩]
    rfl
  | error e =>
    rw [symbols_assemble_eq_none_iff.2 ⟨e, hcheck⟩]
    rfl

/-- The rejected texts are those that are no names, whatever the kind is. -/
theorem rejections_symbols (kind : Kind) (texts : List String) :
    (symbols kind).rejections texts = reported texts := by
  refine List.countP_congr fun text _ => ?_
  rw [← isSome_symbols_assemble kind, Option.not_isSome]

/-- **Symbols made of texts.** One symbol is made of each text that is a name, in order, of the kind
of the strategy and with the text as its name. -/
theorem map_kind_and_text_values (kind : Kind) : (texts : List String) →
    ((symbols kind).values texts).map (fun s => (s.kind, s.name.text)) =
      (accepted texts).map fun text => (kind, text)
  | [] => rfl
  | text :: texts => by
    cases hcheck : Name.check text with
    | ok _ =>
      obtain ⟨s, -, hkind, htext⟩ := Symbol.exists_build_of_check hcheck kind
      have hmade := symbols_assemble_eq_some_iff.2 ⟨hcheck, hkind, htext⟩
      rw [values_cons_of_some hmade, accepted, List.filter_cons_of_pos (by rw [hcheck]; rfl),
        List.map_cons, List.map_cons, map_kind_and_text_values kind texts, hkind, htext]
      rfl
    | error e =>
      have hmade : (symbols kind).assemble text = none :=
        symbols_assemble_eq_none_iff.2 ⟨e, hcheck⟩
      rw [values_cons_of_none hmade, accepted,
        List.filter_cons_of_neg (by simp [hcheck, Except.toBool]),
        map_kind_and_text_values kind texts]
      rfl

theorem exists_getElem?_values (kind : Kind) {texts : List String} {i : Nat} {text : String}
    (h : (accepted texts)[i]? = some text) : ∃ s, ((symbols kind).values texts)[i]? = some s ∧
      s.kind = kind ∧ s.name.text = text := by
  have hplaces := congrArg (·[i]?) (map_kind_and_text_values kind texts)
  simp only [List.getElem?_map, h, Option.map_some, Option.map_eq_some_iff,
    Prod.mk.injEq] at hplaces
  exact hplaces

/-- Over the same texts, the strategies for symbols run alike: up to the end, or up to the first
rejection that is too many. -/
theorem run_symbols_cases (limit : Nat) (texts : List String) :
    (reported texts ≤ limit ∧ ∀ kind, (symbols kind).run limit texts =
      ⟨(symbols kind).values texts, reported texts, .exhausted⟩) ∨
    ∃ front text rest, texts = front ++ text :: rest ∧ (∃ e, Name.check text = .error e) ∧
      reported front = limit ∧ ∀ kind, (symbols kind).run limit texts =
        ⟨(symbols kind).values front, limit, .tooManyRejections⟩ := by
  by_cases hle : reported texts ≤ limit
  · refine Or.inl ⟨hle, fun kind => ?_⟩
    rw [← rejections_symbols kind] at hle ⊢
    rw [run, runFrom_of_le (by omega), Nat.zero_add]
  · -- Which rejection is too many is the same for all kinds; any of them finds it.
    have hlt : limit < 0 + (symbols .linear).rejections texts := by
      rw [rejections_symbols]
      omega
    obtain ⟨front, text, rest, rfl, hfront, htext⟩ :=
      exists_eq_append_of_lt (Nat.zero_le limit) hlt
    rw [Nat.zero_add, rejections_symbols] at hfront
    rw [symbols_assemble_eq_none_iff] at htext
    refine Or.inr ⟨front, text, rest, rfl, htext, hfront, fun kind => ?_⟩
    rw [← rejections_symbols kind] at hfront
    rw [run, runFrom_append_of_none (by omega) (symbols_assemble_eq_none_iff.2 htext)]

/-! ### The laws of the strategies for symbols -/

/-- **Strategies for symbols lose and invent nothing.**

* A text makes a symbol exactly if the check accepts it, and is rejected exactly if the check reports
  it; the symbol has the kind of the strategy and the text as its name. So the texts are accepted and
  rejected at the same places for both kinds.
* The symbols that are made of a list of texts are those of the names among them, one each, in order
  and with that name.
* Two of them, made of the same texts, are identical exactly if the strategies are for the same kind
  and the names are equal.
* With a limit of rejections, the strategies for both kinds run alike. If there are not more
  rejections than the limit admits, the texts are used up and all symbols are made; otherwise the
  run ends at a text that is no name and in front of which the limit is reached.
* The symbols of two lists of texts, one behind the other, are those of the first followed by those
  of the second. With a limit, the run goes on in the second list with the rejections that were
  counted in the first one, if that is used up. -/
theorem symbols_lose_and_invent_nothing :
    (∀ (kind : Kind) (text : String),
      (∀ s, (symbols kind).assemble text = some s ↔
        Name.check text = .ok () ∧ s.kind = kind ∧ s.name.text = text) ∧
      ((symbols kind).assemble text = none ↔ ∃ e, Name.check text = .error e)) ∧
    (∀ (kind : Kind) (texts : List String),
      texts.map (fun text => ((symbols kind).assemble text).isSome) =
        texts.map (fun text => (Name.check text).toBool) ∧
      ((symbols kind).values texts).map (fun s => (s.kind, s.name.text)) =
        (accepted texts).map fun text => (kind, text)) ∧
    (∀ (kind kind' : Kind) (texts : List String) (i j : Nat) (a b : String),
      (accepted texts)[i]? = some a → (accepted texts)[j]? = some b →
      ∃ s t, ((symbols kind).values texts)[i]? = some s ∧
        ((symbols kind').values texts)[j]? = some t ∧
          (s.identicalTo (.symbol t) = true ↔ kind = kind' ∧ a = b)) ∧
    (∀ (limit : Nat) (texts : List String),
      (reported texts ≤ limit ∧ ∀ kind, (symbols kind).run limit texts =
        ⟨(symbols kind).values texts, reported texts, .exhausted⟩) ∨
      ∃ front text rest, texts = front ++ text :: rest ∧ (∃ e, Name.check text = .error e) ∧
        reported front = limit ∧ ∀ kind, (symbols kind).run limit texts =
          ⟨(symbols kind).values front, limit, .tooManyRejections⟩) ∧
    ∀ (kind : Kind) (l r : List String),
      (symbols kind).values (l ++ r) = (symbols kind).values l ++ (symbols kind).values r ∧
      ∀ limit, (symbols kind).run limit (l ++ r) =
        match ((symbols kind).run limit l).ending with
        | .exhausted =>
          { (symbols kind).runFrom limit ((symbols kind).run limit l).rejections r with
            values := ((symbols kind).run limit l).values ++
              ((symbols kind).runFrom limit ((symbols kind).run limit l).rejections r).values }
        | .tooManyRejections => (symbols kind).run limit l := by
  refine ⟨fun kind text => ⟨fun s => symbols_assemble_eq_some_iff, symbols_assemble_eq_none_iff⟩,
    fun kind texts => ⟨List.map_congr_left fun text _ => isSome_symbols_assemble kind text,
      map_kind_and_text_values kind texts⟩,
    fun kind kind' texts i j a b ha hb => ?_, run_symbols_cases,
    fun kind l r => ⟨values_append _ l r, fun limit => runFrom_append 0 l r⟩⟩
  obtain ⟨s, hs, rfl, rfl⟩ := exists_getElem?_values kind ha
  obtain ⟨t, ht, rfl, rfl⟩ := exists_getElem?_values kind' hb
  refine ⟨s, t, hs, ht, ?_⟩
  rw [Symbol.identicalTo_symbol, Symbol.kind_and_text_iff]

end Strategy

end GradedSymbols
