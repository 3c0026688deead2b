import ApiTools.Document.Steps
import Mathlib.Tactic.IntervalCases

/-!
# Decimal digits

What the decimal digits of a natural number are: digits, with the number as their value, and with no
zero before others.  So different numbers have different digits.
-/

namespace ApiTools

theorem toList_natText (n : Nat) : (natText n).toList = Nat.toDigits 10 n := String.toList_ofList

theorem isDigitChar_of_mem_toDigits {n : Nat} {c : Char} (h : c ∈ Nat.toDigits 10 n) :
    isDigitChar c = true := by
  have hdigit := Nat.isDigit_of_mem_toDigits (by decide) (by decide) h
  simpa [Char.isDigit, isDigitChar, UInt32.le_iff_toNat_le] using hdigit

theorem digitsValue_toDigits (n : Nat) : digitsValue (Nat.toDigits 10 n) = n := by
  have hfold := Nat.ofDigitChars_ten_toDigits (n := n)
  rw [Nat.ofDigitChars_eq_foldl] at hfold
  simp only [Nat.mul_comm 10] at hfold
  exact hfold

theorem toDigits_injective : Function.Injective (Nat.toDigits 10) :=
  Function.LeftInverse.injective digitsValue_toDigits

theorem natText_injective {i j : Nat} (h : natText i = natText j) : i = j := by
  apply toDigits_injective
  rw [← toList_natText, h, toList_natText]

/-- Only zero is written with a zero in front. -/
theorem head?_toDigits_ne {n : Nat} (h : n ≠ 0) : (Nat.toDigits 10 n).head? ≠ some '0' := by
  induction n using Nat.strongRecOn with
  | ind n ih =>
    rw [Nat.toDigits_eq_if (by decide)]
    by_cases hlt : n < 10
    · rw [if_pos hlt]
      interval_cases n
      · exact absurd rfl h
      all_goals decide
    · have hquotient := ih (n / 10) (by omega) (by omega)
      rw [if_neg hlt, List.head?_append]
      cases hdigits : Nat.toDigits 10 (n / 10) with
      | nil => exact absurd hdigits Nat.toDigits_ne_nil
      | cons first rest => rwa [hdigits] at hquotient

end ApiTools
