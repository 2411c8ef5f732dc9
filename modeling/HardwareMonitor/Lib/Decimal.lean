/-
  HardwareMonitor.Lib.Decimal — decimal numerals (`Nat.toDigits 10`): the last digit and
  the numeral before it, and the number read back.
-/

import Mathlib.Logic.Function.Basic

namespace HardwareMonitor.Lib.Decimal

/-- A digit is a digit, and stands for its value. -/
theorem digitChar_digit : ∀ k < 10, (Nat.digitChar k).isDigit = true ∧ Nat.ofDigitChars 10 [Nat.digitChar k] 0 = k := by
  decide

theorem digitChar_inj {j k : Nat} (hj : j < 10) (hk : k < 10) (h : Nat.digitChar j = Nat.digitChar k) : j = k := by
  rw [← (digitChar_digit j hj).2, ← (digitChar_digit k hk).2, h]

/-- The last digit, behind the numeral of the rest if there is any. -/
theorem toDigits_eq (n : Nat) :
    Nat.toDigits 10 n = (if n < 10 then [] else Nat.toDigits 10 (n / 10)) ++ [Nat.digitChar (n % 10)] := by
  rw [Nat.toDigits_eq_if (by decide)]
  by_cases hsmall : n < 10
  · rw [if_pos hsmall, if_pos hsmall, Nat.mod_eq_of_lt hsmall]
    rfl
  · rw [if_neg hsmall, if_neg hsmall]

theorem isDigit_of_mem_toDigits {n : Nat} {c : Char} (h : c ∈ Nat.toDigits 10 n) : c.isDigit = true :=
  Nat.isDigit_of_mem_toDigits (by decide) (by decide) h

theorem toDigits_injective : Function.Injective (Nat.toDigits 10) := by
  intro i j h
  have hread := fun n => Nat.ofDigitChars_toDigits (b := 10) (n := n) (by decide) (by decide)
  rw [← hread i, ← hread j, h]

end HardwareMonitor.Lib.Decimal
