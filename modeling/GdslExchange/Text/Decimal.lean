/-
This file reads numbers back from their decimal text, as `parseFloat` does, and says that what
`toFixed` has written is read as what it stands for.
-/

import GdslExchange.Numeric.Fixed
import Mathlib.Data.List.TakeWhile

namespace Text

open Numeric

/-- The digits before and after the first point. -/
def decimalParts (chars : List Char) : List Char × List Char :=
  (chars.takeWhile Char.isDigit,
    match chars.dropWhile Char.isDigit with
    | '.' :: rest => rest.takeWhile Char.isDigit
    | _ => [])

/-- `parseFloat` of digits and points, and zero where it reads no number. -/
def parseDecimal (chars : List Char) : ℚ :=
  let parts := decimalParts chars
  Nat.ofDigitChars 10 (parts.1 ++ parts.2) 0 / 10 ^ parts.2.length

theorem decimalParts_point {whole fraction : List Char} (wholeDigits : ∀ c ∈ whole, c.isDigit)
    (fractionDigits : ∀ c ∈ fraction, c.isDigit) :
    decimalParts (whole ++ '.' :: fraction) = (whole, fraction) := by
  have point : ¬ ('.').isDigit = true := by decide
  unfold decimalParts
  rw [List.takeWhile_append_of_pos wholeDigits, List.dropWhile_append_of_pos wholeDigits,
    List.takeWhile_cons_of_neg point, List.dropWhile_cons_of_neg point, List.append_nil]
  exact congrArg _ ((List.takeWhile_eq_self_iff.mpr fractionDigits))

theorem parseDecimal_digits {digits : List Char} (areDigits : ∀ c ∈ digits, c.isDigit) :
    parseDecimal digits = Nat.ofDigitChars 10 digits 0 := by
  have taken : digits.takeWhile Char.isDigit = digits := List.takeWhile_eq_self_iff.mpr areDigits
  have dropped : digits.dropWhile Char.isDigit = [] := List.dropWhile_eq_nil_iff.mpr areDigits
  unfold parseDecimal decimalParts
  rw [taken, dropped]
  simp

theorem parseDecimal_point {whole fraction : List Char} (wholeDigits : ∀ c ∈ whole, c.isDigit)
    (fractionDigits : ∀ c ∈ fraction, c.isDigit) :
    parseDecimal (whole ++ '.' :: fraction) = Nat.ofDigitChars 10 whole 0 +
      Nat.ofDigitChars 10 fraction 0 / 10 ^ fraction.length := by
  have scale : (10 : ℚ) ^ fraction.length ≠ 0 := by positivity
  unfold parseDecimal
  rw [decimalParts_point wholeDigits fractionDigits]
  dsimp only
  rw [Nat.ofDigitChars_append, Nat.ofDigitChars_eq_ofDigitChars_zero]
  push_cast
  rw [add_div, mul_div_cancel_left₀ _ scale]

section

variable {numeral : Fixed} (unsigned : 0 ≤ numeral.units) (some : 0 < numeral.places)
include unsigned some

theorem toList_render :
    numeral.render.toList = Nat.toDigits 10 (numeral.units.natAbs / 10 ^ numeral.places) ++ '.' ::
      (List.replicate (numeral.places -
          (toString (numeral.units.natAbs % 10 ^ numeral.places)).length) '0' ++
        Nat.toDigits 10 (numeral.units.natAbs % 10 ^ numeral.places)) := by
  unfold Fixed.render Fixed.padded
  simp only [if_neg (not_lt.mpr unsigned), if_neg some.ne']
  simp

theorem parseDecimal_render : parseDecimal numeral.render.toList = numeral.value := by
  set whole := numeral.units.natAbs / 10 ^ numeral.places
  set rest := numeral.units.natAbs % 10 ^ numeral.places
  set zeros := List.replicate (numeral.places - (toString rest).length) '0'
  have digits (number : ℕ) : ∀ c ∈ Nat.toDigits 10 number, c.isDigit := fun c member =>
    Nat.isDigit_of_mem_toDigits (by norm_num) le_rfl member
  have fractionDigits : ∀ c ∈ zeros ++ Nat.toDigits 10 rest, c.isDigit := by
    intro c member
    obtain inZeros | inRest := List.mem_append.mp member
    · rw [List.eq_of_mem_replicate inZeros]
      decide
    · exact digits rest c inRest
  have restLength : (Nat.toDigits 10 rest).length ≤ numeral.places :=
    (Nat.length_toDigits_le_iff (by norm_num) some).mpr (Nat.mod_lt _ (by positivity))
  have places : (zeros ++ Nat.toDigits 10 rest).length = numeral.places := by
    have sameLength : (toString rest).length = (Nat.toDigits 10 rest).length := by
      rw [Nat.toString_eq_ofList_toDigits, String.length_ofList]
    rw [List.length_append, List.length_replicate, sameLength]
    omega
  have read : Nat.ofDigitChars 10 (Nat.toDigits 10 whole ++ (zeros ++ Nat.toDigits 10 rest)) 0 =
      numeral.units.natAbs := by
    rw [Nat.ofDigitChars_append, Nat.ofDigitChars_ten_toDigits, Nat.ofDigitChars_eq_ofDigitChars_zero,
      places, Nat.ofDigitChars_append, Nat.ofDigitChars_replicate_zero, Nat.mul_zero,
      Nat.ofDigitChars_ten_toDigits]
    exact Nat.div_add_mod _ _
  have isUnits : (numeral.units.natAbs : ℚ) = numeral.units := by
    have same : ((numeral.units.natAbs : ℤ) : ℚ) = numeral.units := by
      rw [Int.natAbs_of_nonneg unsigned]
    exact same
  unfold parseDecimal
  rw [toList_render unsigned some, decimalParts_point (digits whole) fractionDigits]
  show ((Nat.ofDigitChars 10 (Nat.toDigits 10 whole ++ (zeros ++ Nat.toDigits 10 rest)) 0 : ℕ) : ℚ) /
    10 ^ (zeros ++ Nat.toDigits 10 rest).length = numeral.value
  rw [read, places, isUnits]
  rfl

theorem mem_render :
    ∀ c ∈ numeral.render.toList, c.isDigit ∨ c = '.' := by
  rw [toList_render unsigned some]
  intro c member
  rw [List.mem_append, List.mem_cons, List.mem_append] at member
  have digits {number : ℕ} (isDigit : c ∈ Nat.toDigits 10 number) : c.isDigit :=
    Nat.isDigit_of_mem_toDigits (by norm_num) le_rfl isDigit
  obtain inWhole | rfl | inZeros | inRest := member
  · exact .inl (digits inWhole)
  · exact .inr rfl
  · rw [List.eq_of_mem_replicate inZeros]
    exact .inl (by decide)
  · exact .inl (digits inRest)

end

end Text
