/-
This file reads texts in which a character can be escaped by one put before it: which characters
stand behind an escape, and whether the text breaks off right after one. Escaping the special
characters of a text loses nothing, and escapes all of them.
-/

import Mathlib.Data.List.Basic

namespace Text

variable {Letter : Type*} {mark : Letter} {special : Letter → Bool}

def escape (mark : Letter) (special : Letter → Bool) (text : List Letter) : List Letter :=
  text.flatMap fun letter => if special letter then [mark, letter] else [letter]

theorem flatten_map_escape (texts : List (List Letter)) :
    (texts.map (escape mark special)).flatten = escape mark special texts.flatten := by
  induction texts with
  | nil => rfl
  | cons text rest inductionHypothesis =>
    rw [List.map_cons, List.flatten_cons, List.flatten_cons, inductionHypothesis]
    exact List.flatMap_append.symm

theorem length_le_escape (text : List Letter) :
    text.length ≤ (escape mark special text).length := by
  unfold escape
  induction text with
  | nil => exact Nat.le_refl _
  | cons letter rest inductionHypothesis =>
    rw [List.flatMap_cons, List.length_append, List.length_cons, Nat.add_comm]
    refine Nat.add_le_add ?_ inductionHypothesis
    split
    · exact Nat.le_succ 1
    · exact Nat.le_refl _

variable [DecidableEq Letter]

/-- The letters that are read, each with whether it stands behind an escape, from a place that
itself stands behind one or does not. -/
def readings (mark : Letter) : Bool → List Letter → List (Bool × Letter)
  | _, [] => []
  | true, letter :: rest => (true, letter) :: readings mark false rest
  | false, letter :: rest =>
    if letter = mark then readings mark true rest else (false, letter) :: readings mark false rest

/-- The text breaks off behind an escape. -/
def breaksOff (mark : Letter) : Bool → List Letter → Bool
  | escaped, [] => escaped
  | true, _ :: rest => breaksOff mark false rest
  | false, letter :: rest => breaksOff mark (letter = mark) rest

def unescape (mark : Letter) (text : List Letter) : List Letter :=
  (readings mark false text).map Prod.snd

theorem readings_append (escaped : Bool) (first second : List Letter) :
    readings mark escaped (first ++ second) =
      readings mark escaped first ++ readings mark (breaksOff mark escaped first) second := by
  induction first generalizing escaped with
  | nil => rfl
  | cons letter rest inductionHypothesis =>
    cases escaped with
    | true => exact congrArg _ (inductionHypothesis false)
    | false =>
      by_cases isMark : letter = mark <;>
        simp [readings, breaksOff, isMark, inductionHypothesis]

/-- An escaped text reads as the text, with the special letters behind escapes. -/
theorem readings_escape (markSpecial : special mark) (text : List Letter) :
    readings mark false (escape mark special text) =
      text.map (fun letter => (special letter, letter)) ∧
    breaksOff mark false (escape mark special text) = false := by
  unfold escape
  induction text with
  | nil => exact ⟨rfl, rfl⟩
  | cons letter rest inductionHypothesis =>
    rw [List.flatMap_cons, List.map_cons]
    by_cases isSpecial : special letter
    · simp [readings, breaksOff, isSpecial, inductionHypothesis]
    · have plain : letter ≠ mark := by
        rintro rfl
        exact isSpecial markSpecial
      simp [readings, breaksOff, isSpecial, plain, inductionHypothesis]

theorem unescape_escape (markSpecial : special mark) (text : List Letter) :
    unescape mark (escape mark special text) = text := by
  unfold unescape
  rw [(readings_escape markSpecial text).1, List.map_map]
  exact List.map_id text

end Text
