import QualityGate.Text.Basic
import Mathlib.Algebra.Ring.Nat
import Mathlib.Data.List.Basic

/-!
# Numbers in decimal

Decimal digits are read back as the number they were written for, also with zeros in front.
-/

namespace QualityGate
namespace Text

theorem decimalValue_eq_ofDigitChars (digits : List Char) :
    decimalValue digits = Nat.ofDigitChars 10 digits 0 := by
  rw [decimalValue, Nat.ofDigitChars_eq_foldl]
  congr 1
  funext value digit
  rw [Nat.mul_comm]

/-- Only zero is written with a zero in front. -/
theorem head?_toDigits_ne_zero
    {value : Nat}
    (positive : 0 < value) :
    (Nat.toDigits 10 value).head? ≠ some '0' := by
  induction value using Nat.strongRecOn with
  | ind value inductionHypothesis =>
    by_cases single : value < 10
    · rw [Nat.toDigits_of_lt_base single]
      have nonzero : ∀ digit < 10, 0 < digit → [digit.digitChar].head? ≠ some '0' := by decide
      exact nonzero value single positive
    · rw [Nat.toDigits_of_base_le (by decide) (by omega),
        List.head?_append_of_ne_nil _ Nat.toDigits_ne_nil]
      exact inductionHypothesis (value / 10) (by omega) (by omega)

theorem toList_paddedDecimal (width value : Nat) :
    (paddedDecimal width value).toList =
      List.replicate (width - (Nat.toDigits 10 value).length) '0' ++ Nat.toDigits 10 value := by
  rw [paddedDecimal, String.toList_ofList]

/-- Zeros in front do not change the value. -/
theorem decimalValue_paddedDecimal (width value : Nat) :
    decimalValue (paddedDecimal width value).toList = value := by
  rw [decimalValue_eq_ofDigitChars, toList_paddedDecimal, Nat.ofDigitChars_append,
    Nat.ofDigitChars_replicate_zero, Nat.mul_zero, Nat.ofDigitChars_ten_toDigits]

theorem isDigit_of_mem_paddedDecimal
    {width value : Nat}
    {digit : Char}
    (member : digit ∈ (paddedDecimal width value).toList) :
    digit.isDigit = true := by
  rw [toList_paddedDecimal] at member
  rcases List.mem_append.mp member with isZero | isDigit
  · rw [List.eq_of_mem_replicate isZero]
    rfl
  · exact Nat.isDigit_of_mem_toDigits (by decide) (by decide) isDigit

/-- A number that is not too long is written with the least width. -/
theorem length_paddedDecimal
    {width value : Nat}
    (widthPositive : 0 < width)
    (fits : value < 10 ^ width) :
    (paddedDecimal width value).toList.length = width := by
  have short : (Nat.toDigits 10 value).length ≤ width :=
    (Nat.length_toDigits_le_iff (by decide) widthPositive).mpr fits
  rw [toList_paddedDecimal, List.length_append, List.length_replicate, Nat.sub_add_cancel short]

theorem paddedDecimal_ne_nil (width value : Nat) : (paddedDecimal width value).toList ≠ [] := by
  rw [toList_paddedDecimal]
  exact List.append_ne_nil_of_right_ne_nil _ Nat.toDigits_ne_nil

end Text
end QualityGate
