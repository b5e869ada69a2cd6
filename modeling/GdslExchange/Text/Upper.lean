/-
This file gives what the services rely on when they trim a symbol and put it in
upper case: doing the latter twice changes nothing, and it goes through a text
letter by letter.
-/

import Mathlib.Logic.Basic

namespace Text

def trim (text : String) : String :=
  String.ofList (((text.toList.dropWhile Char.isWhitespace).reverse.dropWhile
    Char.isWhitespace).reverse)

theorem toUpper_toUpper (text : String) : text.toUpper.toUpper = text.toUpper := by
  have letters : ∀ letter : Char, letter.toUpper.toUpper = letter.toUpper := by
    intro letter
    have upper : ¬ (97 ≤ letter.toUpper.val ∧ letter.toUpper.val ≤ 122) := by
      delta Char.toUpper
      split <;> grind [UInt32.toNat_add, Char.toNat_val]
    generalize letter.toUpper = upperCase at upper ⊢
    delta Char.toUpper
    exact dif_neg upper
  unfold String.toUpper
  rw [← String.toList_inj, String.toList_map, String.toList_map, List.map_map]
  exact List.map_congr_left fun letter _ => letters letter

theorem toUpper_append (first second : String) :
    (first ++ second).toUpper = first.toUpper ++ second.toUpper := by
  unfold String.toUpper
  rw [← String.toList_inj, String.toList_append, String.toList_map, String.toList_map,
    String.toList_map, String.toList_append, List.map_append]

end Text
