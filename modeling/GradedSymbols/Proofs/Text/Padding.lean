import GradedSymbols.Text.Style
import Mathlib.Data.String.Basic

/-!
# Padded texts

A sign and a body are padded to a width by fill characters at the ends, where the alignment says how
many of them stand at which end, or by zeros between the sign and the body. Nothing is cut off, so a
text that is already longer than the width is left as it is. These rules leave no choice: the text
that obeys them is the one that is written.

## Main definitions

* `GradedSymbols.Alignment.Allows` — the fill characters at the two ends of a text.
* `GradedSymbols.Style.IsPadded` — the rules of padding.
* `GradedSymbols.Style.bare` — a style without padding and plus signs.

## Main results

* `GradedSymbols.Style.isPadded_iff` — the padded text is the only one that obeys the rules.
-/

namespace GradedSymbols

/-- How many fill characters may stand on the left and on the right of a text. -/
def Alignment.Allows : Alignment → Nat → Nat → Prop
  | left, l, _ => l = 0
  | right, _, r => r = 0
  | center, l, r => r = l ∨ r = l + 1

namespace Style

/-- A text is a sign and a body *padded* in a style when it has as many characters as they have, or
as the width demands if that is more, and besides them holds nothing but fill characters at its ends,
on the sides that the alignment allows, or zeros between the sign and the body. -/
structure IsPadded (s : Style) (sign body text : String) : Prop where
  length_eq : text.length = max s.width (sign ++ body).length
  at_ends : s.zeros = false → ∃ l r, s.alignment.Allows l r ∧
    text = String.ofList (List.replicate l s.fill) ++ (sign ++ body) ++
      String.ofList (List.replicate r s.fill)
  behind_sign : s.zeros = true → ∃ n, text = sign ++ String.ofList (List.replicate n '0') ++ body

/-- The style that writes numbers in the same digits, without padding and without plus signs. -/
def bare (s : Style) : Style :=
  { precision := s.precision, hex := s.hex, alternate := s.alternate }

@[simp]
theorem length_copies (n : Nat) (c : Char) : (copies n c).length = n := by
  simp [copies]

theorem ofList_replicate (n : Nat) (c : Char) : String.ofList (List.replicate n c) = copies n c :=
  rfl

@[simp]
theorem copies_zero (c : Char) : copies 0 c = "" := rfl

variable {s : Style} {sign body : String}

theorem isPadded_pad (s : Style) (sign body : String) : s.IsPadded sign body (s.pad sign body) := by
  refine ⟨?_, fun hzeros => ?_, fun hzeros => ⟨_, by rw [pad, if_pos hzeros, copies]⟩⟩
  · unfold pad
    dsimp only
    split
    · simp only [String.length_append, length_copies]
      omega
    · split <;> simp only [String.length_append, length_copies] <;> omega
  · simp only [pad, hzeros, Bool.false_eq_true, ↓reduceIte]
    generalize s.width - (sign.length + body.length) = gap
    cases s.alignment with
    | left => exact ⟨0, gap, rfl, by simp [copies]⟩
    | right => exact ⟨gap, 0, rfl, by simp [copies, String.append_assoc]⟩
    | center =>
      have hallows : Alignment.center.Allows (gap / 2) (gap - gap / 2) := by
        rw [Alignment.Allows]
        omega
      exact ⟨gap / 2, gap - gap / 2, hallows, by simp [copies, String.append_assoc]⟩

/-- **Padding.** A sign and a body have one padded text in a style. -/
theorem isPadded_iff {text : String} : s.IsPadded sign body text ↔ text = s.pad sign body := by
  refine ⟨fun h => ?_, fun h => h ▸ isPadded_pad s sign body⟩
  have hlength := h.length_eq
  cases hzeros : s.zeros with
  | true =>
    obtain ⟨n, rfl⟩ := h.behind_sign hzeros
    simp only [ofList_replicate, String.length_append, length_copies] at hlength
    obtain rfl : n = s.width - (sign.length + body.length) := by omega
    rw [pad, if_pos hzeros, copies]
  | false =>
    obtain ⟨l, r, hallows, rfl⟩ := h.at_ends hzeros
    simp only [ofList_replicate, String.length_append, length_copies] at hlength
    -- The fill characters make up for the gap, and the alignment fixes their numbers.
    have hgap : l + r = s.width - (sign.length + body.length) := by omega
    simp only [pad, hzeros, Bool.false_eq_true, ↓reduceIte, ← hgap, ofList_replicate]
    cases halignment : s.alignment with
    | left =>
      obtain rfl : l = 0 := by rwa [halignment] at hallows
      simp
    | right =>
      obtain rfl : r = 0 := by rwa [halignment] at hallows
      simp [String.append_assoc]
    | center =>
      rw [halignment, Alignment.Allows] at hallows
      have hleft : (l + r) / 2 = l := by omega
      simp [hleft, String.append_assoc]

example : ({ width := 6, fill := '*', alignment := .center } : Style).pad "-" "12" = "*-12**" := by
  decide

end Style

end GradedSymbols
