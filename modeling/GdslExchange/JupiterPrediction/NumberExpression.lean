/-
This file says what the expression for a number reads of a number.

It takes a plain number whole, one with decimals whole or up to its point, and one with separators
up to the last group that no word runs on from. It never takes decimals after separators.
-/

import GdslExchange.JupiterPrediction.CryptoClaim

namespace GdslExchange.JupiterPrediction

open Text Text.Matcher

/-! ### The end of a number -/

/-- A suffix that stands alone, perhaps after spaces. -/
def loneSuffix (text : List Char) : Option Char :=
  match text.dropWhile isSpace with
  | letter :: rest => if isSuffix letter ∧ ¬ headIsWord rest then some letter else none
  | [] => none

/-- What is read of a number, in front of the rest of the text. -/
def readSuffix (number rest : List Char) : Option Captures :=
  match loneSuffix rest with
  | some letter => some [(2, [letter]), (1, number)]
  | none => if headIsWord rest then none else some [(1, number)]

section Suffix

variable {c : Char} {rest number : List Char} {captures : Captures}

theorem isSuffix_iff : isSuffix c ↔ c = 'k' ∨ c = 'K' ∨ c = 'm' ∨ c = 'M' := by
  simp [isSuffix]

theorem isWord_of_isSuffix (suffix : isSuffix c) : isWord c := by
  rcases isSuffix_iff.mp suffix with rfl | rfl | rfl | rfl <;> decide

theorem not_isDigit_of_isSuffix (suffix : isSuffix c) : ¬ c.isDigit := by
  rcases isSuffix_iff.mp suffix with rfl | rfl | rfl | rfl <;> decide

theorem not_isSpace_of_isWord (word : isWord c) : ¬ isSpace c := fun space =>
  not_isWord_of_isSpace space word

theorem not_isSuffix_of_isSpace (space : isSpace c) : ¬ isSuffix c := fun suffix =>
  not_isWord_of_isSpace space (isWord_of_isSuffix suffix)

/-- The optional suffix, in front of what is no space. -/
def suffixOrNone : Matcher := seq (Matcher.optional (group 2 (oneOf isSuffix))) boundary

/-- What the suffix is, in front of what is no space. -/
def suffixAt : List Char → Option Char
  | letter :: after => if isSuffix letter ∧ ¬ headIsWord after then some letter else none
  | [] => none

theorem suffixOrNone_eq {previous : Option Char} {afterWord : Bool}
    (isAfter : previous.any isWord = afterWord) :
    suffixOrNone accept ⟨previous, rest, captures⟩ =
      ((suffixAt rest).map fun letter => (2, [letter]) :: captures).or
        (if afterWord = headIsWord rest then none else some captures) := by
  subst isAfter
  unfold suffixOrNone seq Matcher.optional alt group boundary accept Matcher.empty
  refine congrArg (Option.or · _) ?_
  cases rest with
  | nil => rfl
  | cons letter after =>
    unfold oneOf suffixAt
    dsimp only
    by_cases isLetter : isSuffix letter
    · have word := isWord_of_isSuffix isLetter
      cases headIsWord after <;> simp [isLetter, word]
    · simp [isLetter]

theorem loneSuffix_eq : loneSuffix rest = suffixAt (rest.dropWhile isSpace) := by
  rfl

theorem head?_dropWhile_isSpace :
    (rest.dropWhile isSpace).head?.all fun c => ! isSpace c := by
  have head := List.head?_dropWhile_not isSpace rest
  cases isLeft : (rest.dropWhile isSpace).head? with
  | none => rfl
  | some c =>
    rw [isLeft] at head
    simpa using head

/-- In a gap the number can end before any of the spaces. -/
theorem suffixExpression_gap {digit space : Char} {gap left : List Char}
    (digitIsWord : isWord digit) (isSpaced : isSpace space) (spaces : ∀ c ∈ gap, isSpace c)
    (unspaced : left.head?.all fun c => ! isSpace c) :
    suffixExpression accept ⟨some digit, space :: gap ++ left, captures⟩ =
      some (((suffixAt left).map fun letter => (2, [letter]) :: captures).getD captures) := by
  have nonword : isWord space = false := eq_false_of_ne_true (not_isWord_of_isSpace isSpaced)
  have startsNonword : (some space).any isWord = false := nonword
  have afterDigit : (some digit).any isWord = true := digitIsWord
  have lastIsSpace : ((gap.getLast?).or (some space)).any isWord = false := by
    rcases List.eq_nil_or_concat gap with rfl | ⟨front, last, rfl⟩
    · exact nonword
    · have isLast := spaces last (by simp)
      simpa using not_isWord_of_isSpace isLast
  have inGap (previous : Option Char) (c : Char) (after : List Char) {afterWord : Bool}
      (isAfter : previous.any isWord = afterWord) (isSpace : isSpace c) :
      suffixOrNone accept ⟨previous, c :: after, captures⟩ =
        if afterWord = false then none else some captures := by
    have notSuffix : suffixAt (c :: after) = none :=
      if_neg fun both => not_isSuffix_of_isSpace isSpace both.1
    have ends : headIsWord (c :: after) = false :=
      Bool.not_eq_true _ ▸ not_isWord_of_isSpace isSpace
    rw [suffixOrNone_eq isAfter, notSuffix, ends]
    rfl
  show star (oneOf isSpace) (suffixOrNone accept) _ = _
  rw [List.cons_append, star_of_accepts isSpaced,
    star_run (fun previous => previous.any isWord = false) spaces unspaced startsNonword
      (fun c isSpace => eq_false_of_ne_true (not_isWord_of_isSpace isSpace))
      fun previous c after inside isSpace => inGap previous c after inside isSpace,
    suffixOrNone_eq lastIsSpace, inGap (some digit) space _ afterDigit isSpaced]
  cases suffixAt left <;> cases headIsWord left <;> rfl

/-- What follows a digit is a lone suffix, or the number ends there, or it runs into a word. -/
theorem suffixExpression_eq {digit : Char} (isDigit : digit.isDigit) :
    suffixExpression accept ⟨some digit, rest, [(1, number)]⟩ = readSuffix number rest := by
  have digitIsWord := isWord_of_isDigit isDigit
  have spaced : rest.takeWhile isSpace ++ rest.dropWhile isSpace = rest :=
    List.takeWhile_append_dropWhile
  have unspaced := @head?_dropWhile_isSpace rest
  unfold readSuffix
  rw [loneSuffix_eq]
  cases isGap : rest.takeWhile isSpace with
  | nil =>
    rw [isGap, List.nil_append] at spaced
    rw [spaced] at unspaced ⊢
    show star (oneOf isSpace) (suffixOrNone accept) _ = _
    have afterDigit : (some digit).any isWord = true := digitIsWord
    rw [star_of_rejects unspaced, suffixOrNone_eq afterDigit]
    cases suffixAt rest <;> cases headIsWord rest <;> rfl
  | cons space gap =>
    have spaces : ∀ c ∈ space :: gap, isSpace c := fun c member =>
      List.mem_takeWhile_imp (isGap ▸ member)
    have isSpaced := spaces space List.mem_cons_self
    have nonword : headIsWord rest = false := by
      rw [← spaced, isGap]
      exact Bool.not_eq_true _ ▸ not_isWord_of_isSpace isSpaced
    rw [nonword]
    conv_lhs => rw [← spaced, isGap]
    rw [suffixExpression_gap digitIsWord isSpaced
      (fun c member => spaces c (List.mem_cons_of_mem _ member)) unspaced]
    cases suffixAt (rest.dropWhile isSpace) <;> rfl

/-- Whether a number can end here does not depend on the number. -/
theorem readSuffix_eq_none_iff :
    readSuffix number rest = none ↔ loneSuffix rest = none ∧ headIsWord rest := by
  unfold readSuffix
  cases loneSuffix rest <;> simp

theorem readSuffix_of_mark (nonword : ¬ isWord c) (unspaced : ¬ isSpace c) :
    readSuffix number (c :: rest) = some [(1, number)] := by
  have notSuffix : ¬ isSuffix c := fun suffix => nonword (isWord_of_isSuffix suffix)
  have alone : loneSuffix (c :: rest) = none := by
    rw [loneSuffix_eq, List.dropWhile_cons_of_neg unspaced]
    exact if_neg fun both => notSuffix both.1
  unfold readSuffix
  rw [alone]
  exact if_neg nonword

theorem readSuffix_of_digit (isDigit : c.isDigit) : readSuffix number (c :: rest) = none := by
  have word := isWord_of_isDigit isDigit
  have notSuffix : ¬ isSuffix c := fun suffix => not_isDigit_of_isSuffix suffix isDigit
  have alone : loneSuffix (c :: rest) = none := by
    rw [loneSuffix_eq, List.dropWhile_cons_of_neg (not_isSpace_of_isWord word)]
    exact if_neg fun both => notSuffix both.1
  unfold readSuffix
  rw [alone]
  exact if_pos word

end Suffix

/-! ### The number -/

/-- Digits, at least one. -/
structure IsNumeral (digits : List Char) : Prop where
  nonempty : digits ≠ []
  isDigit : ∀ c ∈ digits, c.isDigit

def startsDigit (text : List Char) : Bool := text.head?.any Char.isDigit

/-- Digits follow after this mark. -/
def startsMarked (mark : Char) : List Char → Bool
  | c :: rest => c = mark ∧ startsDigit rest
  | [] => false

/-- What comes after a number would be read as a part of it. -/
def continuesNumber (text : List Char) : Bool :=
  startsDigit text ∨ startsMarked ',' text ∨ startsMarked '.' text

/-- What comes after the number in the expression, in this text. -/
def finish (text : List Char) : Cursor → Option Captures := fun after =>
  suffixExpression accept { after with
    captures := (1, text.take (text.length - after.rest.length)) :: after.captures }

section Number

variable {digits rest number : List Char} {next : Cursor → Option Captures}
  {previous : Option Char} {captures : Captures}

theorem numberExpression_eq {text : List Char} :
    numberExpression accept ⟨previous, text, []⟩ =
      (separatedExpression (finish text) ⟨previous, text, []⟩).or
        (decimalExpression (finish text) ⟨previous, text, []⟩) := rfl

theorem finish_append {digit : Char} (isDigit : digit.isDigit) :
    finish (number ++ rest) ⟨some digit, rest, []⟩ = readSuffix number rest := by
  unfold finish
  rw [List.length_append, Nat.add_sub_cancel, List.take_left]
  exact suffixExpression_eq isDigit

/-- A number does not end before a digit. -/
theorem finish_digit (text : List Char) {digit c : Char} (isDigit : digit.isDigit)
    (isNext : c.isDigit) : finish text ⟨some digit, c :: rest, []⟩ = none :=
  (suffixExpression_eq isDigit).trans (readSuffix_of_digit isNext)

theorem not_startsMarked_cons {mark c : Char} (other : c ≠ mark) :
    ¬ startsMarked mark (c :: rest) := fun marked => other (of_decide_eq_true marked).1

theorem not_startsDigit_cons {c : Char} (nondigit : ¬ c.isDigit) : ¬ startsDigit (c :: rest) :=
  nondigit

theorem not_continuesNumber_cons {c : Char} (nondigit : ¬ c.isDigit) (noComma : c ≠ ',')
    (noPoint : c ≠ '.') : ¬ continuesNumber (c :: rest) := by
  intro continues
  rcases of_decide_eq_true continues with digit | comma | point
  · exact not_startsDigit_cons nondigit digit
  · exact not_startsMarked_cons noComma comma
  · exact not_startsMarked_cons noPoint point

theorem rejected_of_not_startsDigit (ends : ¬ startsDigit rest) :
    rest.head?.all fun c => ! c.isDigit := by
  cases rest with
  | nil => rfl
  | cons c rest => simpa [startsDigit] using ends

theorem plus_digits (previous : Option Char) (numeral : IsNumeral digits)
    (ends : ¬ startsDigit rest)
    (fails : ∀ digit c after, digit.isDigit → c.isDigit →
      next ⟨some digit, c :: after, captures⟩ = none) :
    ∃ last : Char, last.isDigit ∧
      plus (oneOf Char.isDigit) next ⟨previous, digits ++ rest, captures⟩ =
        next ⟨some last, rest, captures⟩ := by
  obtain ⟨first, others, rfl⟩ := List.exists_cons_of_ne_nil numeral.nonempty
  have isFirst := numeral.isDigit first List.mem_cons_self
  have areOthers : ∀ c ∈ others, c.isDigit := fun c member =>
    numeral.isDigit c (List.mem_cons_of_mem _ member)
  have taken : plus (oneOf Char.isDigit) next ⟨previous, first :: others ++ rest, captures⟩ =
      next ⟨others.getLast?.or (some first), rest, captures⟩ := by
    refine (oneOf_of_accepts isFirst).trans
      (star_run (fun previous => ∃ digit : Char, previous = some digit ∧ digit.isDigit)
        areOthers (rejected_of_not_startsDigit ends) ⟨first, rfl, isFirst⟩
        (fun c isDigit => ⟨c, rfl, isDigit⟩) ?_)
    rintro _ c after ⟨digit, rfl, isDigit⟩ isNext
    exact fails digit c after isDigit isNext
  rw [taken]
  cases isLast : others.getLast? with
  | none => exact ⟨first, isFirst, rfl⟩
  | some last => exact ⟨last, areOthers last (List.mem_of_getLast? isLast), rfl⟩

theorem decimals_digit (text : List Char) {digit c : Char} (isDigit : digit.isDigit)
    (isNext : c.isDigit) :
    Matcher.optional (seq (oneOf (· = '.')) (plus (oneOf Char.isDigit))) (finish text)
      ⟨some digit, c :: rest, []⟩ = none := by
  have notPoint : ¬ c = '.' := by
    rintro rfl
    exact absurd isNext (by decide)
  unfold Matcher.optional alt seq
  rw [oneOf_of_rejects (by simpa using notPoint)]
  exact finish_digit text isDigit isNext

/-- A number without separators and decimals. -/
theorem decimalExpression_plain (numeral : IsNumeral digits) (ends : ¬ startsDigit rest)
    (noPoint : ¬ startsMarked '.' rest) :
    decimalExpression (finish (digits ++ rest)) ⟨previous, digits ++ rest, []⟩ =
      readSuffix digits rest := by
  obtain ⟨last, isLast, taken⟩ := plus_digits previous numeral ends
    fun digit c after isDigit isNext => decimals_digit (digits ++ rest) isDigit isNext
  refine taken.trans ?_
  have noDecimals : seq (oneOf (· = '.')) (plus (oneOf Char.isDigit)) (finish (digits ++ rest))
      ⟨some last, rest, []⟩ = none := by
    cases rest with
    | nil => rfl
    | cons c after =>
      by_cases isPoint : c = '.'
      · have noDigit : ¬ startsDigit after := fun digit => noPoint (decide_eq_true ⟨isPoint, digit⟩)
        refine (oneOf_of_accepts (decide_eq_true isPoint)).trans ?_
        exact oneOf_of_rejects (rejected_of_not_startsDigit noDigit)
      · exact oneOf_of_rejects (by simpa using isPoint)
  unfold Matcher.optional alt
  rw [noDecimals]
  exact finish_append isLast

/-- A number with decimals and without separators is read whole, or up to its point. -/
theorem decimalExpression_point {decimals : List Char} (numeral : IsNumeral digits)
    (fraction : IsNumeral decimals) (ends : ¬ startsDigit rest) :
    decimalExpression (finish (digits ++ '.' :: decimals ++ rest))
        ⟨previous, digits ++ '.' :: decimals ++ rest, []⟩ =
      (readSuffix (digits ++ '.' :: decimals) rest).or (some [(1, digits)]) := by
  set text := digits ++ '.' :: decimals ++ rest with isText
  have atPoint : ¬ startsDigit ('.' :: decimals ++ rest) := not_startsDigit_cons (by decide)
  obtain ⟨last, isLast, taken⟩ := plus_digits previous numeral atPoint
    fun digit c after isDigit isNext => decimals_digit text isDigit isNext
  obtain ⟨lastDecimal, isLastDecimal, takenDecimals⟩ :=
    plus_digits (some '.') fraction ends
      fun digit c after isDigit isNext => finish_digit text isDigit isNext
  have whole : finish text ⟨some lastDecimal, rest, []⟩ =
      readSuffix (digits ++ '.' :: decimals) rest := finish_append isLastDecimal
  have upToPoint : finish text ⟨some last, '.' :: decimals ++ rest, []⟩ = some [(1, digits)] := by
    rw [isText, List.append_assoc, finish_append isLast, List.cons_append]
    exact readSuffix_of_mark (by decide) (by decide)
  have start : (⟨previous, text, []⟩ : Cursor) =
      ⟨previous, digits ++ ('.' :: decimals ++ rest), []⟩ :=
    congrArg (Cursor.mk previous · []) (List.append_assoc _ _ _)
  rw [start]
  refine taken.trans ?_
  show (seq (oneOf (· = '.')) (plus (oneOf Char.isDigit)) (finish text)
    ⟨some last, '.' :: (decimals ++ rest), []⟩).or
      (finish text ⟨some last, '.' :: decimals ++ rest, []⟩) = _
  rw [upToPoint, ← whole, ← takenDecimals]
  rfl

/-! ### Separators -/

/-- `,\d{3}`. -/
def groupExpression : Matcher := seq (oneOf (· = ',')) (exactly (oneOf Char.isDigit) 3)

/-- Three digits. -/
structure IsGroup (digits : List Char) : Prop where
  length : digits.length = 3
  isDigit : ∀ c ∈ digits, c.isDigit

/-- The groups, each behind its separator. -/
def separated (groups : List (List Char)) : List Char := groups.flatMap (',' :: ·)

theorem IsGroup.isNumeral {group : List Char} (isGroup : IsGroup group) : IsNumeral group :=
  ⟨List.ne_nil_of_length_eq_add_one isGroup.length, isGroup.isDigit⟩

theorem separated_dropLast {group : List Char} {groups : List (List Char)} (more : groups ≠ []) :
    separated (group :: groups).dropLast = ',' :: group ++ separated groups.dropLast := by
  rw [List.dropLast_cons_of_ne_nil more]
  rfl

theorem groupExpression_eq_none (noGroup : ¬ startsMarked ',' rest) :
    groupExpression next ⟨previous, rest, captures⟩ = none := by
  unfold groupExpression seq
  cases rest with
  | nil => rfl
  | cons c after =>
    by_cases isSeparator : c = ','
    · have noDigit : ¬ startsDigit after := fun digit =>
        noGroup (decide_eq_true ⟨isSeparator, digit⟩)
      refine (oneOf_of_accepts (decide_eq_true isSeparator)).trans ?_
      exact oneOf_of_rejects (rejected_of_not_startsDigit noDigit)
    · exact oneOf_of_rejects (by simpa using isSeparator)

theorem groupExpression_digit {c : Char} (isDigit : c.isDigit) :
    groupExpression next ⟨previous, c :: rest, captures⟩ = none := by
  refine groupExpression_eq_none fun marked => ?_
  obtain ⟨rfl, -⟩ := of_decide_eq_true marked
  exact absurd isDigit (by decide)

theorem groupExpression_group {group : List Char} (isGroup : IsGroup group)
    (next : Cursor → Option Captures) (previous : Option Char) (rest : List Char)
    (captures : Captures) :
    ∃ last : Char, last.isDigit ∧
      groupExpression next ⟨previous, ',' :: group ++ rest, captures⟩ =
        next ⟨some last, rest, captures⟩ := by
  obtain ⟨first, others, rfl⟩ := List.exists_cons_of_ne_nil isGroup.isNumeral.nonempty
  have taken : groupExpression next ⟨previous, ',' :: (first :: others) ++ rest, captures⟩ =
      next ⟨(first :: others).getLast?.or (some ','), rest, captures⟩ := by
    unfold groupExpression
    rw [← isGroup.length]
    exact exactly_run isGroup.isDigit
  rw [taken]
  cases isLast : (first :: others).getLast? with
  | none => exact absurd (List.getLast?_eq_none_iff.mp isLast) (List.cons_ne_nil _ _)
  | some last => exact ⟨last, isGroup.isDigit last (List.mem_of_getLast? isLast), rfl⟩

/-- Without separators the first way of writing a number fails. -/
theorem separatedExpression_eq_none (numeral : IsNumeral digits) (ends : ¬ startsDigit rest)
    (noGroup : ¬ startsMarked ',' rest) :
    separatedExpression next ⟨previous, digits ++ rest, captures⟩ = none := by
  obtain ⟨first, others, rfl⟩ := List.exists_cons_of_ne_nil numeral.nonempty
  have areOthers : ∀ c ∈ others, c.isDigit := fun c member =>
    numeral.isDigit c (List.mem_cons_of_mem _ member)
  refine (oneOf_of_accepts (numeral.isDigit first List.mem_cons_self)).trans ?_
  refine upTo_eq_none areOthers (rejected_of_not_startsDigit ends) fun previous left isLeft => ?_
  cases left with
  | nil => exact groupExpression_eq_none noGroup
  | cons c left =>
    exact groupExpression_digit (areOthers c (isLeft.mem List.mem_cons_self))

theorem star_groups {groups : List (List Char)} (areGroups : ∀ group ∈ groups, IsGroup group)
    (noGroup : ¬ startsMarked ',' rest) {digit : Char} (isDigit : digit.isDigit) :
    star groupExpression (finish (number ++ separated groups ++ rest))
        ⟨some digit, separated groups ++ rest, []⟩ =
      (readSuffix (number ++ separated groups) rest).or
        (if groups = [] then none else some [(1, number ++ separated groups.dropLast)]) := by
  induction groups generalizing number digit with
  | nil =>
    rw [star_eq, show separated [] ++ rest = rest from rfl, groupExpression_eq_none noGroup,
      Option.none_or, show separated [] = [] from rfl, List.append_nil, finish_append isDigit]
    simp
  | cons group groups inductionHypothesis =>
    have isGroup := areGroups group List.mem_cons_self
    have spelled : separated (group :: groups) ++ rest =
        ',' :: group ++ (separated groups ++ rest) := List.append_assoc _ _ _
    have regrouped : number ++ separated (group :: groups) =
        number ++ ',' :: group ++ separated groups := (List.append_assoc _ _ _).symm
    set text := number ++ separated (group :: groups) ++ rest with isText
    obtain ⟨last, isLast, taken⟩ := groupExpression_group isGroup
      (fun after =>
        if after.rest.length < (separated (group :: groups) ++ rest).length then
          star groupExpression (finish text) after
        else none)
      (some digit) (separated groups ++ rest) []
    have further := @inductionHypothesis (number ++ ',' :: group)
      (fun other member => areGroups other (List.mem_cons_of_mem _ member)) last isLast
    rw [← regrouped, ← isText] at further
    have shorter :
        (separated groups ++ rest).length < (separated (group :: groups) ++ rest).length := by
      rw [spelled]
      simp only [List.cons_append, List.length_cons, List.length_append]
      omega
    have before : finish text ⟨some digit, separated (group :: groups) ++ rest, []⟩ =
        some [(1, number)] := by
      rw [isText, List.append_assoc, finish_append isDigit]
      exact readSuffix_of_mark (by decide) (by decide)
    rw [star_eq, before, if_neg (List.cons_ne_nil _ _)]
    rw [spelled] at taken ⊢
    rw [taken, ← spelled, if_pos shorter, further]
    rcases eq_or_ne groups [] with rfl | more
    · simp [separated]
    · rw [if_neg more, separated_dropLast more, Option.or_assoc, Option.some_or,
        List.append_assoc number]

/-- The head is taken whole, and then the first group. -/
theorem separatedExpression_groups {head : List Char} {groups : List (List Char)}
    (numeral : IsNumeral head) (short : head.length ≤ 3) (some_group : groups ≠ [])
    (areGroups : ∀ group ∈ groups, IsGroup group) (noGroup : ¬ startsMarked ',' rest) :
    separatedExpression (finish (head ++ separated groups ++ rest))
        ⟨previous, head ++ separated groups ++ rest, []⟩ =
      (readSuffix (head ++ separated groups) rest).or
        (if groups.tail = [] then none
          else some [(1, head ++ separated groups.dropLast)]) := by
  obtain ⟨group, groups, rfl⟩ := List.exists_cons_of_ne_nil some_group
  obtain ⟨first, others, rfl⟩ := List.exists_cons_of_ne_nil numeral.nonempty
  have areOthers : ∀ c ∈ others, c.isDigit := fun c member =>
    numeral.isDigit c (List.mem_cons_of_mem _ member)
  have regrouped : first :: others ++ separated (group :: groups) =
      first :: others ++ ',' :: group ++ separated groups := (List.append_assoc _ _ _).symm
  set text := first :: others ++ separated (group :: groups) ++ rest with isText
  have start : (⟨previous, text, []⟩ : Cursor) =
      ⟨previous, first :: (others ++ (',' :: group ++ (separated groups ++ rest))), []⟩ := by
    rw [isText, regrouped]
    simp
  have atSeparator :
      (',' :: group ++ (separated groups ++ rest)).head?.all fun c => ! c.isDigit := by
    show (! (',').isDigit) = true
    decide
  obtain ⟨last, isLast, taken⟩ := groupExpression_group
    (areGroups group List.mem_cons_self) (star groupExpression (finish text))
    (others.getLast?.or (some first)) (separated groups ++ rest) []
  have further := @star_groups _ (first :: others ++ ',' :: group) groups
    (fun other member => areGroups other (List.mem_cons_of_mem _ member)) noGroup last isLast
  rw [← regrouped, ← isText] at further
  rw [start]
  refine (oneOf_of_accepts (numeral.isDigit first List.mem_cons_self)).trans ?_
  refine (upTo_run (Nat.le_of_succ_le_succ short) areOthers atSeparator
    fun previous c after isNext => groupExpression_digit isNext).trans ?_
  refine taken.trans (further.trans ?_)
  rw [List.tail_cons]
  rcases eq_or_ne groups [] with rfl | more
  · rfl
  · rw [separated_dropLast more, List.append_assoc (first :: others)]

/-! ### What is read of a number -/

theorem startsDigit_of_not_continues (concluded : ¬ continuesNumber rest) : ¬ startsDigit rest :=
  fun starts => concluded (decide_eq_true (.inl starts))

theorem numberExpression_plain (numeral : IsNumeral digits) (concluded : ¬ continuesNumber rest) :
    numberExpression accept ⟨previous, digits ++ rest, []⟩ = readSuffix digits rest := by
  have ends := startsDigit_of_not_continues concluded
  have noGroup : ¬ startsMarked ',' rest := fun marked =>
    concluded (decide_eq_true (.inr (.inl marked)))
  have noPoint : ¬ startsMarked '.' rest := fun marked =>
    concluded (decide_eq_true (.inr (.inr marked)))
  rw [numberExpression_eq, separatedExpression_eq_none numeral ends noGroup,
    decimalExpression_plain numeral ends noPoint, Option.none_or]

theorem numberExpression_point {decimals : List Char} (numeral : IsNumeral digits)
    (fraction : IsNumeral decimals) (concluded : ¬ continuesNumber rest) :
    numberExpression accept ⟨previous, digits ++ '.' :: decimals ++ rest, []⟩ =
      (readSuffix (digits ++ '.' :: decimals) rest).or (some [(1, digits)]) := by
  have unseparated (next : Cursor → Option Captures) :
      separatedExpression next ⟨previous, digits ++ '.' :: decimals ++ rest, []⟩ = none := by
    rw [List.append_assoc]
    exact separatedExpression_eq_none numeral (not_startsDigit_cons (by decide))
      (not_startsMarked_cons (by decide))
  rw [numberExpression_eq, unseparated,
    decimalExpression_point numeral fraction (startsDigit_of_not_continues concluded),
    Option.none_or]

/-- With separators the number ends with the last group that no word runs on from. -/
theorem numberExpression_groups {head : List Char} {groups : List (List Char)}
    (numeral : IsNumeral head) (short : head.length ≤ 3) (some_group : groups ≠ [])
    (areGroups : ∀ group ∈ groups, IsGroup group) (noGroup : ¬ startsMarked ',' rest) :
    numberExpression accept ⟨previous, head ++ separated groups ++ rest, []⟩ =
      (readSuffix (head ++ separated groups) rest).or
        (some [(1, head ++ separated groups.dropLast)]) := by
  rw [numberExpression_eq,
    separatedExpression_groups numeral short some_group areGroups noGroup, Option.or_assoc]
  refine congrArg _ ?_
  by_cases single : groups.tail = []
  · obtain ⟨group, groups, rfl⟩ := List.exists_cons_of_ne_nil some_group
    obtain rfl : groups = [] := single
    have spelled : head ++ separated [group] ++ rest = head ++ ',' :: (group ++ rest) := by
      simp [separated]
    rw [List.tail_cons, if_pos rfl, Option.none_or, spelled,
      decimalExpression_plain numeral (not_startsDigit_cons (by decide))
        (not_startsMarked_cons (by decide)),
      readSuffix_of_mark (by decide) (by decide)]
    simp [separated]
  · rw [if_neg single, Option.some_or]

end Number

end GdslExchange.JupiterPrediction
