/-
This file gives the rounding of numbers that the services share: `Math.round`,
rounding to a number of decimal places, and decimal text of a fixed number of
places, which is how an exchange writes the steps and limits of its filters and
expects the quantities of its orders. Numbers are exact rationals throughout.
-/

import Mathlib.Data.Rat.Floor
import Mathlib.Tactic.FieldSimp
import Mathlib.Tactic.Linarith
import Mathlib.Tactic.Positivity
import Mathlib.Tactic.Ring

namespace Numeric

/-- `Math.round`: to the nearest integer, halves upwards. -/
def round (number : ℚ) : ℤ := ⌊number + 1 / 2⌋

def roundTo (places : ℕ) (number : ℚ) : ℚ := round (number * 10 ^ places) / 10 ^ places

/-- A decimal numeral with a fixed number of places after the point. -/
structure Fixed where
  units : ℤ
  places : ℕ
deriving DecidableEq

namespace Fixed

/-- The number the text denotes, as `parseFloat` and `Number` read it. -/
def value (text : Fixed) : ℚ := text.units / 10 ^ text.places

/-- The digits of a natural number, padded with zeros to a width. -/
def padded (width : ℕ) (digits : String) : String :=
  String.ofList (List.replicate (width - digits.length) '0') ++ digits

def render (text : Fixed) : String :=
  let scale := 10 ^ text.places
  let sign := if text.units < 0 then "-" else ""
  let whole := toString (text.units.natAbs / scale)
  if text.places = 0 then sign ++ whole
  else sign ++ whole ++ "." ++ padded text.places (toString (text.units.natAbs % scale))

end Fixed

/-- `number.toFixed(places)`: to the nearest numeral, halves away from zero. -/
def toFixed (places : ℕ) (number : ℚ) : Fixed where
  units := if number < 0 then -round (-number * 10 ^ places) else round (number * 10 ^ places)
  places := places

/-- A number as a template literal prints it, in plain notation with at most twenty places. -/
def text (number : ℚ) : String :=
  let exact (places : ℕ) : Bool := (toFixed places number).value = number
  (toFixed (((List.range 20).find? exact).getD 20) number).render

/-! ### Bounds -/

theorem round_le (number : ℚ) : (round number : ℚ) ≤ number + 1 / 2 := Int.floor_le _

theorem lt_round (number : ℚ) : number - 1 / 2 < round number := by
  have above := Int.lt_floor_add_one (number + 1 / 2)
  unfold round
  linarith

theorem round_intCast (units : ℤ) : round (units : ℚ) = units := by
  unfold round
  rw [Int.floor_intCast_add]
  norm_num

theorem round_nonneg {number : ℚ} (nonneg : 0 ≤ number) : 0 ≤ round number :=
  Int.floor_nonneg.mpr (by linarith)

theorem roundTo_zero (places : ℕ) : roundTo places 0 = 0 := by
  have none : round (((0 : ℤ) : ℚ)) = 0 := round_intCast 0
  unfold roundTo
  rw [zero_mul, ← Int.cast_zero, none, Int.cast_zero, zero_div]

theorem roundTo_le (places : ℕ) (number : ℚ) :
    roundTo places number ≤ number + 1 / (2 * 10 ^ places) := by
  have scale : (0 : ℚ) < 10 ^ places := by positivity
  have bound := round_le (number * 10 ^ places)
  have half : 1 / (2 * 10 ^ places) * (10 : ℚ) ^ places = 1 / 2 := by field_simp
  unfold roundTo
  rw [div_le_iff₀ scale, add_mul, half]
  exact bound

theorem lt_roundTo (places : ℕ) (number : ℚ) :
    number - 1 / (2 * 10 ^ places) < roundTo places number := by
  have scale : (0 : ℚ) < 10 ^ places := by positivity
  have bound := lt_round (number * 10 ^ places)
  have half : 1 / (2 * 10 ^ places) * (10 : ℚ) ^ places = 1 / 2 := by field_simp
  unfold roundTo
  rw [lt_div_iff₀ scale, sub_mul, half]
  exact bound

/-- Rounding keeps the order of numbers. -/
theorem roundTo_mono (places : ℕ) {lower higher : ℚ} (le : lower ≤ higher) :
    roundTo places lower ≤ roundTo places higher := by
  have scaled : lower * 10 ^ places ≤ higher * 10 ^ places :=
    mul_le_mul_of_nonneg_right le (by positivity)
  have rounded : round (lower * 10 ^ places) ≤ round (higher * 10 ^ places) :=
    Int.floor_le_floor (by linarith)
  exact div_le_div_of_nonneg_right (Int.cast_le.mpr rounded) (by positivity)

theorem toFixed_value_of_units {number : ℚ} {places : ℕ} (units : ℤ)
    (exact : number * 10 ^ places = units) : (toFixed places number).value = number := by
  have scale : (10 : ℚ) ^ places ≠ 0 := by positivity
  have rounded : (toFixed places number).units = units := by
    unfold toFixed
    simp only
    split
    · rw [neg_mul, exact, show (-(units : ℚ)) = ((-units : ℤ) : ℚ) by push_cast; ring,
        round_intCast, neg_neg]
    · rw [exact, round_intCast]
  unfold Fixed.value
  rw [rounded, ← exact]
  show number * 10 ^ places / 10 ^ places = number
  field_simp

end Numeric
