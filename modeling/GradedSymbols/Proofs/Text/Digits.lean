import GradedSymbols.Text.Integer
import Mathlib.Data.Nat.Init

/-!
# Reading digits

The digits of a number in a base up to sixteen are read back as the number, so that different
numbers have different digits. Offsets are written in base ten, and code points in base sixteen.

## Main definitions

* `GradedSymbols.Digits.value` — the value of a digit.
* `GradedSymbols.Digits.read` — the number that digits stand for.

## Main results

* `GradedSymbols.Digits.read_toDigits` — the digits of a number are read back as the number.
* `GradedSymbols.Integer.format_natCast_inj` — different natural numbers have different texts.
-/

namespace GradedSymbols

namespace Digits

/-- The value of a digit. The letters of both cases are the digits from ten on. -/
def value (c : Char) : Nat := if c.isDigit then c.toNat - 48 else c.toLower.toNat - 87

/-- The number that digits stand for in a base, the highest digit first. -/
def read (base : Nat) (ds : List Char) : Nat := ds.foldl (fun n d => base * n + value d) 0

theorem value_digitChar {d : Nat} (hd : d < 16) : value d.digitChar = d := by
  have hvalue : ∀ k < 16, value (Nat.digitChar k) = k := by decide
  exact hvalue d hd

theorem read_append_singleton (base : Nat) (ds : List Char) (d : Char) :
    read base (ds ++ [d]) = base * read base ds + value d := by
  rw [read, List.foldl_append]
  rfl

section Base

variable {base : Nat} (hbase : 1 < base)

include hbase

theorem read_toDigits (hle : base ≤ 16) (n : Nat) : read base (Nat.toDigits base n) = n := by
  induction n using Nat.strong_induction_on with
  | _ n ih =>
    by_cases hn : n < base
    · have hvalue : value n.digitChar = n := value_digitChar (Nat.lt_of_lt_of_le hn hle)
      rw [Nat.toDigits_of_lt_base hn, ← List.nil_append [n.digitChar], read_append_singleton,
        hvalue]
      exact Nat.zero_add n
    · rw [Nat.not_lt] at hn
      have hlast : n % base < 16 := Nat.lt_of_lt_of_le (Nat.mod_lt n (by omega)) hle
      have hrest := ih (n / base) (Nat.div_lt_self (by omega) hbase)
      rw [Nat.toDigits_of_base_le hbase hn, read_append_singleton, hrest, value_digitChar hlast,
        Nat.div_add_mod]

theorem toDigits_inj (hle : base ≤ 16) {m n : Nat} :
    Nat.toDigits base m = Nat.toDigits base n ↔ m = n := by
  refine ⟨fun h => ?_, congrArg _⟩
  rw [← read_toDigits hbase hle m, h, read_toDigits hbase hle n]

theorem exists_digitChar_of_mem_toDigits {n : Nat} {c : Char} (hc : c ∈ Nat.toDigits base n) :
    ∃ d < base, c = d.digitChar := by
  induction n using Nat.strong_induction_on with
  | _ n ih =>
    by_cases hn : n < base
    · rw [Nat.toDigits_of_lt_base hn, List.mem_singleton] at hc
      exact ⟨n, hn, hc⟩
    · rw [Nat.not_lt] at hn
      rw [Nat.toDigits_of_base_le hbase hn, List.mem_append, List.mem_singleton] at hc
      rcases hc with hc | hc
      · exact ih (n / base) (Nat.div_lt_self (by omega) hbase) hc
      · exact ⟨n % base, Nat.mod_lt n (by omega), hc⟩

end Base

end Digits

namespace Integer

theorem format_natCast (n : Nat) : format {} n = String.ofList (Nat.toDigits 10 n) := by
  have hsign : decide ((n : Int) < 0) = false := decide_eq_false (by omega)
  simp [format, Style.signed, Style.sign, Style.pad, Style.copies, Decimal.digits, hsign]

theorem format_natCast_inj {m n : Nat} : format {} (m : Int) = format {} (n : Int) ↔ m = n := by
  rw [format_natCast, format_natCast, String.ofList_inj,
    Digits.toDigits_inj (by decide) (by decide)]

end Integer

end GradedSymbols
