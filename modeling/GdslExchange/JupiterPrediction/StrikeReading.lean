/-
This file settles which number of a label is read as its strike.

The expression takes the first number that does not run into a word, with or without a dollar sign,
and it does not take decimals after separators. So a dollar amount is read as it stands where no
other number comes before it and nothing is written onto it, and what is read else is said too.
-/

import GdslExchange.JupiterPrediction.NumberExpression
import Mathlib.Algebra.Order.Field.Rat
import Mathlib.Tactic.Linarith
import Mathlib.Tactic.NormNum
import Mathlib.Tactic.Positivity

namespace GdslExchange.JupiterPrediction

open Text Text.Matcher

/-! ### The first number of a text -/

section Search

variable {previous other : Option Char} {text rest : List Char}

/-- A number begins with a digit, so it does not matter what stands before. -/
theorem numberExpression_previous : numberExpression accept ⟨previous, text, []⟩ =
    numberExpression accept ⟨other, text, []⟩ := by
  cases text <;> rfl

theorem search_previous :
    search numberExpression previous text = search numberExpression other text := by
  cases text with
  | nil => exact numberExpression_previous
  | cons c rest =>
    unfold search
    rw [@numberExpression_previous previous other]

theorem numberExpression_nondigit (nondigit : ¬ startsDigit text) :
    numberExpression accept ⟨previous, text, []⟩ = none := by
  have rejected := rejected_of_not_startsDigit nondigit
  rw [numberExpression_eq]
  unfold separatedExpression decimalExpression plus seq
  rw [oneOf_of_rejects rejected, oneOf_of_rejects rejected, Option.or_none]

theorem search_nondigit {c : Char} (nondigit : ¬ c.isDigit) :
    search numberExpression previous (c :: rest) = search numberExpression none rest := by
  rw [search, numberExpression_nondigit (not_startsDigit_cons nondigit), Option.none_or,
    search_previous]

theorem not_isDigit_of_isSpace {c : Char} (space : isSpace c) : ¬ c.isDigit := fun digit =>
  not_isWord_of_isSpace space (isWord_of_isDigit digit)

theorem star_spaces : star (oneOf isSpace) (numberExpression accept) ⟨previous, text, []⟩ =
    numberExpression accept ⟨none, text.dropWhile isSpace, []⟩ := by
  have spaced : text.takeWhile isSpace ++ text.dropWhile isSpace = text :=
    List.takeWhile_append_dropWhile
  conv_lhs => rw [← spaced]
  rw [star_run (fun _ => True) (fun c member => List.mem_takeWhile_imp member)
    head?_dropWhile_isSpace trivial (fun _ _ => trivial) fun previous c after _ space =>
      numberExpression_nondigit (not_startsDigit_cons (not_isDigit_of_isSpace space))]
  exact numberExpression_previous

theorem search_of_spaces {captures : Captures}
    (found : numberExpression accept ⟨none, text.dropWhile isSpace, []⟩ = some captures) :
    search numberExpression previous text = some captures := by
  induction text generalizing previous with
  | nil => exact numberExpression_previous.trans found
  | cons c rest inductionHypothesis =>
    by_cases space : isSpace c
    · rw [List.dropWhile_cons_of_pos space] at found
      rw [search_nondigit (not_isDigit_of_isSpace space)]
      exact inductionHypothesis found
    · rw [List.dropWhile_cons_of_neg space] at found
      rw [search, numberExpression_previous.trans found, Option.some_or]

theorem strikeExpression_dollar :
    strikeExpression accept ⟨previous, '$' :: rest, []⟩ =
      numberExpression accept ⟨none, rest.dropWhile isSpace, []⟩ := by
  unfold strikeExpression seq Matcher.optional alt Matcher.empty
  rw [oneOf_of_accepts (decide_eq_true rfl), star_spaces, star_spaces,
    List.dropWhile_cons_of_neg (by decide),
    numberExpression_nondigit (not_startsDigit_cons (by decide)), Option.or_none]

theorem strikeExpression_other (noDollar : text.head? ≠ some '$') :
    strikeExpression accept ⟨previous, text, []⟩ =
      numberExpression accept ⟨none, text.dropWhile isSpace, []⟩ := by
  have rejected : text.head?.all fun c => ! decide (c = '$') := by
    cases text with
    | nil => rfl
    | cons c rest => simpa using noDollar
  unfold strikeExpression seq Matcher.optional alt Matcher.empty
  rw [oneOf_of_rejects rejected, Option.none_or, star_spaces]

/-- The dollar sign and the spaces before a number make no difference. -/
theorem search_strikeExpression :
    search strikeExpression previous text = search numberExpression previous text := by
  induction text generalizing previous with
  | nil => exact (strikeExpression_other (by simp)).trans numberExpression_previous
  | cons c rest inductionHypothesis =>
    by_cases skipped : c = '$' ∨ isSpace c
    · have nondigit : ¬ c.isDigit := by
        rcases skipped with rfl | space
        · decide
        · exact not_isDigit_of_isSpace space
      have here : strikeExpression accept ⟨previous, c :: rest, []⟩ =
          numberExpression accept ⟨none, rest.dropWhile isSpace, []⟩ := by
        by_cases dollar : c = '$'
        · subst dollar
          exact strikeExpression_dollar
        · have space := skipped.resolve_left dollar
          rw [strikeExpression_other (by simpa using dollar), List.dropWhile_cons_of_pos space]
      rw [search, here, inductionHypothesis, search_nondigit nondigit]
      cases found : numberExpression accept ⟨none, rest.dropWhile isSpace, []⟩ with
      | none => exact search_previous
      | some captures => exact (search_of_spaces found).symm
    · have noDollar : c ≠ '$' := fun dollar => skipped (.inl dollar)
      have unspaced : ¬ isSpace c := fun space => skipped (.inr space)
      rw [search, search, strikeExpression_other (by simpa using noDollar),
        List.dropWhile_cons_of_neg unspaced, inductionHypothesis, numberExpression_previous]

/-- No number goes on over a dollar sign. -/
theorem stopsAt_numberExpression : StopsAt ('$' :: rest) numberExpression := by
  have digit : StopsAt ('$' :: rest) (oneOf Char.isDigit) := stopsAt_oneOf (by decide)
  have mark {c : Char} (other : c ≠ '$') : StopsAt ('$' :: rest) (oneOf (· = c)) :=
    stopsAt_oneOf (by simpa using other.symm)
  have separators : StopsAt ('$' :: rest) separatedExpression :=
    stopsAt_seq (stopsAt_seq digit (stopsAt_upTo digit 2))
      (stopsAt_plus (stopsAt_seq (mark (by decide)) (stopsAt_exactly digit 3)))
  have decimals : StopsAt ('$' :: rest) decimalExpression :=
    stopsAt_seq (stopsAt_plus digit)
      (stopsAt_optional (stopsAt_seq (mark (by decide)) (stopsAt_plus digit)))
  have suffix : StopsAt ('$' :: rest) suffixExpression :=
    stopsAt_seq (stopsAt_star (stopsAt_oneOf (by decide)))
      (stopsAt_seq (stopsAt_optional (stopsAt_group (stopsAt_oneOf (by decide))))
        (stopsAt_boundary (by simp [headIsWord, isWord])))
  exact stopsAt_seq (stopsAt_group (stopsAt_alt separators decimals)) suffix

theorem search_dollar {before : List Char} :
    search strikeExpression none (before ++ '$' :: rest) =
      (search numberExpression none before).or (search numberExpression none rest) := by
  rw [search_strikeExpression, search_append_stop stopsAt_numberExpression fun previous =>
    numberExpression_nondigit (not_startsDigit_cons (by decide))]
  exact congrArg _ search_previous

theorem search_of_found {captures : Captures}
    (found : numberExpression accept ⟨none, text, []⟩ = some captures) :
    search numberExpression previous text = some captures := by
  cases text with
  | nil => exact numberExpression_previous.trans found
  | cons c rest => rw [search, numberExpression_previous.trans found, Option.some_or]

theorem search_runsOn {digits : List Char} (areDigits : ∀ c ∈ digits, c.isDigit)
    (concluded : ¬ continuesNumber rest) (runsOn : ∀ number, readSuffix number rest = none) :
    search numberExpression previous (digits ++ rest) = search numberExpression none rest := by
  induction digits generalizing previous with
  | nil => exact search_previous
  | cons c digits inductionHypothesis =>
    have numeral : IsNumeral (c :: digits) := ⟨List.cons_ne_nil _ _, areDigits⟩
    rw [List.cons_append, search, ← List.cons_append, numberExpression_plain numeral concluded,
      runsOn, Option.none_or]
    exact inductionHypothesis fun d member => areDigits d (List.mem_cons_of_mem _ member)

end Search

/-! ### Dollar amounts -/

/-- A dollar amount, without its sign: digits, perhaps in groups, at most two decimals, and perhaps
a suffix, with the gap in front of it. -/
structure DollarAmount where
  head : List Char
  groups : List (List Char)
  decimals : List Char
  suffix : Option (List Char × Char)
  isNumeral : IsNumeral head
  areGroups : ∀ group ∈ groups, IsGroup group
  short : groups ≠ [] → head.length ≤ 3
  areDecimals : ∀ c ∈ decimals, c.isDigit
  cents : decimals.length ≤ 2
  isGap : ∀ gap letter, suffix = some (gap, letter) → ∀ c ∈ gap, isSpace c
  isLetter : ∀ gap letter, suffix = some (gap, letter) → isSuffix letter

namespace DollarAmount

variable (amount : DollarAmount)

/-- The digits before the decimals. -/
def wholeText : List Char := amount.head ++ separated amount.groups

def number : List Char :=
  amount.wholeText ++ if amount.decimals = [] then [] else '.' :: amount.decimals

def suffixText : List Char :=
  match amount.suffix with
  | some (gap, letter) => gap ++ [letter]
  | none => []

def render : List Char := amount.number ++ amount.suffixText

def whole : ℕ := Nat.ofDigitChars 10 (amount.head ++ amount.groups.flatten) 0

def fraction : ℚ := Nat.ofDigitChars 10 amount.decimals 0 / 10 ^ amount.decimals.length

def thousands : ℚ :=
  match amount.suffix with
  | some (_, letter) => if letter = 'k' ∨ letter = 'K' then 1000 else 1000000
  | none => 1

def value : ℚ := (amount.whole + amount.fraction) * amount.thousands

/-- The amount ends before this: the text does not go on with digits or a suffix of its own. -/
def EndsBefore (after : List Char) : Prop :=
  match amount.suffix with
  | some _ => ¬ headIsWord after
  | none => ¬ continuesNumber after ∧ loneSuffix after = none

end DollarAmount

/-- No dollar sign here has a digit after it. -/
def NoAmount (text : List Char) : Prop :=
  ∀ before after, text = before ++ '$' :: after → ¬ startsDigit after

theorem noAmount_of_not_mem {text : List Char} (absent : '$' ∉ text) : NoAmount text := by
  rintro before after rfl
  exact absurd (by simp) absent

/-- A market question that names a supported asset and contains one dollar amount. -/
structure PriceQuestion where
  text : String
  before : List Char
  amount : DollarAmount
  after : List Char
  parts : trimSpaces text.toList = before ++ '$' :: (amount.render ++ after)
  ends : amount.EndsBefore after
  noneBefore : NoAmount before
  noneAfter : NoAmount after
  names : ∃ word ∈ claimWords (trimSpaces text.toList), (nameToTicker.lookup word).isSome

/-! ### What is read of an amount -/

namespace DollarAmount

variable {amount : DollarAmount} {after : List Char}

theorem not_continuesNumber (ends : amount.EndsBefore after) :
    ¬ continuesNumber (amount.suffixText ++ after) := by
  unfold EndsBefore at ends
  unfold suffixText
  cases isSuffixed : amount.suffix with
  | none =>
    rw [isSuffixed] at ends
    exact ends.1
  | some suffix =>
    obtain ⟨gap, letter⟩ := suffix
    cases gap with
    | nil =>
      have isLetter := amount.isLetter [] letter isSuffixed
      refine not_continuesNumber_cons (not_isDigit_of_isSuffix isLetter) ?_ ?_ <;>
        rintro rfl <;> exact absurd isLetter (by decide)
    | cons c gap =>
      have space := amount.isGap (c :: gap) letter isSuffixed c List.mem_cons_self
      refine not_continuesNumber_cons (not_isDigit_of_isSpace space) ?_ ?_ <;>
        rintro rfl <;> exact absurd space (by decide)

theorem readSuffix_amount (ends : amount.EndsBefore after) {number : List Char} :
    readSuffix number (amount.suffixText ++ after) =
      match amount.suffix with
      | some (_, letter) => some [(2, [letter]), (1, number)]
      | none => if headIsWord after then none else some [(1, number)] := by
  unfold EndsBefore at ends
  unfold suffixText readSuffix
  cases isSuffixed : amount.suffix with
  | none =>
    rw [isSuffixed] at ends
    simp only [List.nil_append]
    rw [ends.2]
  | some suffix =>
    obtain ⟨gap, letter⟩ := suffix
    rw [isSuffixed] at ends
    have isLetter := amount.isLetter gap letter isSuffixed
    have alone : loneSuffix (gap ++ [letter] ++ after) = some letter := by
      rw [loneSuffix_eq, List.append_assoc,
        List.dropWhile_append_of_pos (amount.isGap gap letter isSuffixed), List.singleton_append,
        List.dropWhile_cons_of_neg (not_isSpace_of_isWord (isWord_of_isSuffix isLetter))]
      exact if_pos ⟨isLetter, ends⟩
    simp only [alone]

theorem wholeText_of_plain (plain : amount.groups = []) : amount.wholeText = amount.head := by
  unfold wholeText
  rw [plain]
  exact List.append_nil _

theorem number_of_noDecimals (noDecimals : amount.decimals = []) :
    amount.number = amount.wholeText := by
  unfold number
  rw [if_pos noDecimals, List.append_nil]

theorem number_of_decimals (decimals : amount.decimals ≠ []) :
    amount.number = amount.wholeText ++ '.' :: amount.decimals := by
  unfold number
  rw [if_neg decimals]

theorem render_append :
    amount.render ++ after = amount.number ++ (amount.suffixText ++ after) :=
  List.append_assoc _ _ _

/-- The search goes on where a word is written onto the digits. -/
theorem search_plain (ends : amount.EndsBefore after) (plain : amount.groups = [])
    (noDecimals : amount.decimals = []) :
    search numberExpression none (amount.render ++ after) =
      (readSuffix amount.number (amount.suffixText ++ after)).or
        (search numberExpression none after) := by
  have concluded := not_continuesNumber ends
  have isHead : amount.number = amount.head :=
    (number_of_noDecimals noDecimals).trans (wholeText_of_plain plain)
  rw [render_append, isHead]
  cases read : readSuffix amount.head (amount.suffixText ++ after) with
  | some captures =>
    exact search_of_found ((numberExpression_plain amount.isNumeral concluded).trans read)
  | none =>
    cases isSuffixed : amount.suffix with
    | some suffix =>
      rw [readSuffix_amount ends, isSuffixed] at read
      exact absurd read (Option.some_ne_none _)
    | none =>
      have unsuffixed : amount.suffixText = [] := by
        unfold suffixText
        rw [isSuffixed]
      rw [unsuffixed] at concluded read ⊢
      have runsOn (number : List Char) : readSuffix number after = none :=
        readSuffix_eq_none_iff.mpr (readSuffix_eq_none_iff.mp read)
      exact search_runsOn amount.isNumeral.isDigit concluded runsOn

theorem search_point (ends : amount.EndsBefore after) (plain : amount.groups = [])
    (decimals : amount.decimals ≠ []) :
    search numberExpression none (amount.render ++ after) =
      (readSuffix amount.number (amount.suffixText ++ after)).or
        (some [(1, amount.wholeText)]) := by
  have concluded := not_continuesNumber ends
  have found := @numberExpression_point _ _ none _ amount.isNumeral
    ⟨decimals, amount.areDecimals⟩ concluded
  have isNumber : amount.number = amount.head ++ '.' :: amount.decimals := by
    rw [number_of_decimals decimals, wholeText_of_plain plain]
  rw [render_append, wholeText_of_plain plain, isNumber]
  cases read : readSuffix (amount.head ++ '.' :: amount.decimals) (amount.suffixText ++ after) <;>
    exact search_of_found (by rw [found, read]; rfl)

theorem search_groups (ends : amount.EndsBefore after) (some_group : amount.groups ≠ [])
    (noDecimals : amount.decimals = []) :
    search numberExpression none (amount.render ++ after) =
      (readSuffix amount.number (amount.suffixText ++ after)).or
        (some [(1, amount.head ++ separated amount.groups.dropLast)]) := by
  have concluded := not_continuesNumber ends
  have found := @numberExpression_groups (amount.suffixText ++ after) none _ _ amount.isNumeral
    (amount.short some_group) some_group amount.areGroups
    fun marked => concluded (decide_eq_true (.inr (.inl marked)))
  rw [render_append, number_of_noDecimals noDecimals]
  unfold wholeText
  cases read : readSuffix (amount.head ++ separated amount.groups) (amount.suffixText ++ after) <;>
    exact search_of_found (by rw [found, read]; rfl)

theorem search_whole (some_group : amount.groups ≠ []) (decimals : amount.decimals ≠ []) :
    search numberExpression none (amount.render ++ after) = some [(1, amount.wholeText)] := by
  have spelled : amount.render ++ after = amount.head ++ separated amount.groups ++
      '.' :: (amount.decimals ++ (amount.suffixText ++ after)) := by
    rw [render_append, number_of_decimals decimals]
    unfold wholeText
    simp
  have found := @numberExpression_groups
    ('.' :: (amount.decimals ++ (amount.suffixText ++ after))) none _ _ amount.isNumeral
    (amount.short some_group) some_group amount.areGroups (not_startsMarked_cons (by decide))
  rw [readSuffix_of_mark (by decide) (by decide), Option.some_or] at found
  rw [spelled]
  exact search_of_found found

/-! ### What an amount is worth -/

theorem filter_digits {digits : List Char} (areDigits : ∀ c ∈ digits, c.isDigit) :
    digits.filter (· ≠ ',') = digits := by
  refine List.filter_eq_self.mpr fun c member => decide_eq_true ?_
  rintro rfl
  exact absurd (areDigits _ member) (by decide)

theorem filter_separated {groups : List (List Char)}
    (areGroups : ∀ group ∈ groups, IsGroup group) :
    (separated groups).filter (· ≠ ',') = groups.flatten := by
  induction groups with
  | nil => rfl
  | cons group groups inductionHypothesis =>
    have isGroup := areGroups group List.mem_cons_self
    have others := inductionHypothesis fun other member =>
      areGroups other (List.mem_cons_of_mem _ member)
    show (',' :: group ++ separated groups).filter (· ≠ ',') = group ++ groups.flatten
    rw [List.filter_append, others, List.filter_cons_of_neg (by decide),
      filter_digits isGroup.isDigit]

section

variable {head : List Char} {groups : List (List Char)} (numeral : IsNumeral head)
  (areGroups : ∀ group ∈ groups, IsGroup group)
include numeral areGroups

theorem isDigit_grouped : ∀ c ∈ head ++ groups.flatten, c.isDigit := by
  intro c member
  rcases List.mem_append.mp member with inHead | inGroups
  · exact numeral.isDigit c inHead
  · obtain ⟨group, isGroup, inGroup⟩ := List.mem_flatten.mp inGroups
    exact (areGroups group isGroup).isDigit c inGroup

/-- The separators make no difference to what digits stand for. -/
theorem parseDecimal_separated :
    parseDecimal ((head ++ separated groups).filter (· ≠ ',')) =
      Nat.ofDigitChars 10 (head ++ groups.flatten) 0 := by
  rw [List.filter_append, filter_digits numeral.isDigit, filter_separated areGroups]
  exact parseDecimal_digits (isDigit_grouped numeral areGroups)

end

theorem parseDecimal_wholeText :
    parseDecimal (amount.wholeText.filter (· ≠ ',')) = amount.whole :=
  parseDecimal_separated amount.isNumeral amount.areGroups

theorem parseDecimal_number :
    parseDecimal (amount.number.filter (· ≠ ',')) = amount.whole + amount.fraction := by
  by_cases noDecimals : amount.decimals = []
  · rw [number_of_noDecimals noDecimals, parseDecimal_wholeText]
    simp [fraction, noDecimals]
  · have spelled : amount.number.filter (· ≠ ',') =
        amount.head ++ amount.groups.flatten ++ '.' :: amount.decimals := by
      rw [number_of_decimals noDecimals]
      unfold wholeText
      rw [List.filter_append, List.filter_append, filter_digits amount.isNumeral.isDigit,
        filter_separated amount.areGroups, List.filter_cons_of_pos (by decide),
        filter_digits amount.areDecimals]
    rw [spelled]
    exact parseDecimal_point (isDigit_grouped amount.isNumeral amount.areGroups)
      amount.areDecimals

theorem strikeOf_number {number : List Char} :
    strikeOf [(1, number)] = parseDecimal (number.filter (· ≠ ',')) := mul_one _

theorem thousands_of_none (unsuffixed : amount.suffix = none) : amount.thousands = 1 := by
  unfold thousands
  rw [unsuffixed]

theorem multiplier_suffix {gap : List Char} {letter : Char}
    (isSuffixed : amount.suffix = some (gap, letter)) :
    multiplier (some [letter]) = amount.thousands := by
  have isLetter := amount.isLetter gap letter isSuffixed
  unfold thousands
  rw [isSuffixed]
  rcases isSuffix_iff.mp isLetter with rfl | rfl | rfl | rfl <;> rfl

theorem strikeOf_amount (ends : amount.EndsBefore after) {captures : Captures}
    (read : readSuffix amount.number (amount.suffixText ++ after) = some captures) :
    strikeOf captures = amount.value := by
  rw [readSuffix_amount ends] at read
  unfold value
  cases isSuffixed : amount.suffix with
  | none =>
    simp only [isSuffixed] at read
    split at read
    · exact absurd read nofun
    · obtain rfl := Option.some.inj read
      rw [strikeOf_number, parseDecimal_number, thousands_of_none isSuffixed, mul_one]
  | some suffix =>
    obtain ⟨gap, letter⟩ := suffix
    simp only [isSuffixed] at read
    obtain rfl := Option.some.inj read
    rw [← multiplier_suffix isSuffixed, ← parseDecimal_number]
    rfl

theorem fraction_nonneg : 0 ≤ amount.fraction := by
  unfold fraction
  positivity

theorem thousands_of_some (isSuffixed : amount.suffix ≠ none) : 1000 ≤ amount.thousands := by
  obtain ⟨⟨gap, letter⟩, isSome⟩ := Option.ne_none_iff_exists'.mp isSuffixed
  unfold thousands
  rw [isSome]
  dsimp only
  split <;> norm_num

/-- The digits before the decimals are not the amount, but for zero cents and no suffix. -/
theorem whole_eq_value_iff (positive : 0 < amount.value) :
    (amount.whole : ℚ) = amount.value ↔ amount.suffix = none ∧ amount.fraction = 0 := by
  have cents := @fraction_nonneg amount
  have wholes : (0 : ℚ) ≤ amount.whole := Nat.cast_nonneg _
  unfold value at positive ⊢
  constructor
  · intro same
    by_cases unsuffixed : amount.suffix = none
    · rw [thousands_of_none unsuffixed, mul_one] at same
      exact ⟨unsuffixed, by linarith⟩
    · have scaled := mul_le_mul_of_nonneg_left (thousands_of_some unsuffixed)
        (add_nonneg wholes cents)
      linarith
  · rintro ⟨unsuffixed, noCents⟩
    rw [thousands_of_none unsuffixed, noCents, add_zero, mul_one]

theorem front_ne_value (positive : 0 < amount.value) (unsuffixed : amount.suffix = none)
    (some_group : amount.groups ≠ []) (noDecimals : amount.decimals = []) :
    strikeOf [(1, amount.head ++ separated amount.groups.dropLast)] ≠ amount.value := by
  obtain ⟨front, last, isGroups⟩ := List.eq_nil_or_concat amount.groups |>.resolve_left some_group
  rw [List.concat_eq_append] at isGroups
  have isLast : IsGroup last := amount.areGroups last (by simp [isGroups])
  have areFront : ∀ group ∈ front, IsGroup group := fun group member =>
    amount.areGroups group (by simp [isGroups, member])
  set thousand := Nat.ofDigitChars 10 (amount.head ++ front.flatten) 0 with isThousand
  have split : amount.whole = 10 ^ 3 * thousand + Nat.ofDigitChars 10 last 0 := by
    unfold whole
    rw [isGroups, List.flatten_append, List.flatten_singleton, ← List.append_assoc,
      Nat.ofDigitChars_append, Nat.ofDigitChars_eq_ofDigitChars_zero, isLast.length]
  have isValue : amount.value = amount.whole := by
    refine ((whole_eq_value_iff positive).mpr ⟨unsuffixed, ?_⟩).symm
    simp [fraction, noDecimals]
  rw [isGroups, List.dropLast_concat, strikeOf_number,
    parseDecimal_separated amount.isNumeral areFront, isValue]
  rw [isValue] at positive
  have some_whole : 0 < amount.whole := Nat.cast_pos.mp positive
  intro same
  have equal : thousand = amount.whole := Nat.cast_injective same
  omega

end DollarAmount

/-! ### The strike of a question -/

theorem multiplier_pos (suffix : Option (List Char)) : 0 < multiplier suffix := by
  unfold multiplier
  split
  · split
    · norm_num
    · split <;> norm_num
  · norm_num

theorem rawNum_nonpos_iff {captures : Captures} : rawNum captures ≤ 0 ↔ strikeOf captures ≤ 0 := by
  have positive := multiplier_pos (captures.lookup 2)
  constructor
  · exact fun nonpos => mul_nonpos_of_nonpos_of_nonneg nonpos positive.le
  · exact fun nonpos => nonpos_of_mul_nonpos_left nonpos positive

namespace PriceQuestion

variable (question : PriceQuestion)

/-- The amount is what the question is read to ask about. -/
def ReadsAmount : Prop :=
  (parseCryptoClaim question.text).map (·.strike) = some question.amount.value

def RunsOn : Prop := question.amount.suffix = none ∧ headIsWord question.after

/-- What is read from the amount on is the amount: nothing is written onto it and it has not both
separators and decimals that count, or a word is written onto it and it has decimals that do not
count, or the next number stands for the same. -/
def ReadAsItStands : Prop :=
  (¬ question.RunsOn ∧ (question.amount.groups = [] ∨ question.amount.decimals = [] ∨
    (question.amount.suffix = none ∧ question.amount.fraction = 0))) ∨
  (question.RunsOn ∧ question.amount.decimals ≠ [] ∧ question.amount.fraction = 0) ∨
  (question.RunsOn ∧ question.amount.decimals = [] ∧ question.amount.groups = [] ∧
    ∃ later, search numberExpression none question.after = some later ∧
      strikeOf later = question.amount.value)

/-- The amount is positive, and no number is read before it but one that stands for the same. -/
def Readable : Prop :=
  0 < question.amount.value ∧
    match search numberExpression none question.before with
    | some earlier => strikeOf earlier = question.amount.value
    | none => question.ReadAsItStands

variable {question}

theorem baseOf_isSome : (baseOf (trimSpaces question.text.toList)).isSome := by
  obtain ⟨word, isWord, isName⟩ := question.names
  refine List.findSome?_isSome_iff.mpr ⟨word, isWord, ?_⟩
  unfold tickerOf
  split
  · rfl
  · exact isName

theorem text_ne_empty : question.text ≠ "" := by
  intro isEmpty
  have parts := question.parts
  rw [isEmpty] at parts
  exact absurd parts.symm (by simp [trimSpaces])

theorem strike_parseCryptoClaim :
    (parseCryptoClaim question.text).map (·.strike) =
      (search strikeExpression none (trimSpaces question.text.toList)).bind fun captures =>
        if strikeOf captures ≤ 0 then none else some (strikeOf captures) := by
  obtain ⟨base, isBase⟩ := Option.isSome_iff_exists.mp (@baseOf_isSome question)
  unfold parseCryptoClaim
  rw [if_neg text_ne_empty]
  dsimp only
  cases search strikeExpression none (trimSpaces question.text.toList) with
  | none => rfl
  | some captures =>
    dsimp only [Option.bind_some]
    rw [isBase]
    by_cases nonpos : strikeOf captures ≤ 0
    · rw [if_pos (rawNum_nonpos_iff.mpr nonpos), if_pos nonpos]
      rfl
    · rw [if_neg nonpos, if_neg (mt rawNum_nonpos_iff.mp nonpos), if_neg nonpos]
      rfl

theorem readsAmount_iff_found : question.ReadsAmount ↔ 0 < question.amount.value ∧
    ∃ captures, (search numberExpression none question.before).or
      (search numberExpression none (question.amount.render ++ question.after)) = some captures ∧
      strikeOf captures = question.amount.value := by
  unfold ReadsAmount
  rw [strike_parseCryptoClaim, question.parts, search_dollar, Option.bind_eq_some_iff]
  constructor
  · rintro ⟨captures, found, read⟩
    split at read
    · exact absurd read nofun
    · next positive =>
      have isValue := Option.some.inj read
      exact ⟨isValue ▸ not_le.mp positive, captures, found, isValue⟩
  · rintro ⟨positive, captures, found, isValue⟩
    refine ⟨captures, found, ?_⟩
    rw [isValue, if_neg (not_le.mpr positive)]

theorem readSuffix_of_runsOn (runsOn : question.RunsOn) {number : List Char} :
    readSuffix number (question.amount.suffixText ++ question.after) = none := by
  rw [question.amount.readSuffix_amount question.ends, runsOn.1]
  exact if_pos runsOn.2

theorem readSuffix_of_not_runsOn (ended : ¬ question.RunsOn) {number : List Char} :
    ∃ captures, readSuffix number (question.amount.suffixText ++ question.after) =
      some captures := by
  rw [question.amount.readSuffix_amount question.ends]
  cases isSuffixed : question.amount.suffix with
  | some suffix => exact ⟨_, rfl⟩
  | none => exact ⟨_, if_neg fun word => ended ⟨isSuffixed, word⟩⟩

/-- The digits before the decimals are read as the amount just where no more counts. -/
theorem found_whole_iff (positive : 0 < question.amount.value) :
    (∃ captures, some [(1, question.amount.wholeText)] = some captures ∧
      strikeOf captures = question.amount.value) ↔
      question.amount.suffix = none ∧ question.amount.fraction = 0 := by
  rw [← question.amount.whole_eq_value_iff positive, ← DollarAmount.parseDecimal_wholeText,
    ← DollarAmount.strikeOf_number]
  simp

theorem found_iff (positive : 0 < question.amount.value) :
    (∃ captures, search numberExpression none (question.amount.render ++ question.after) =
      some captures ∧ strikeOf captures = question.amount.value) ↔ question.ReadAsItStands := by
  have ends := question.ends
  unfold ReadAsItStands
  by_cases runsOn : question.RunsOn
  · have unread := @readSuffix_of_runsOn question runsOn question.amount.number
    by_cases plain : question.amount.groups = [] <;>
      by_cases noDecimals : question.amount.decimals = []
    · rw [DollarAmount.search_plain ends plain noDecimals, unread, Option.none_or]
      simp [runsOn, plain, noDecimals]
    · rw [DollarAmount.search_point ends plain noDecimals, unread, Option.none_or,
        found_whole_iff positive]
      simp [runsOn, noDecimals, runsOn.1]
    · rw [DollarAmount.search_groups ends plain noDecimals, unread, Option.none_or]
      have wrong := DollarAmount.front_ne_value positive runsOn.1 plain noDecimals
      simp [runsOn, plain, noDecimals, wrong]
    · rw [DollarAmount.search_whole plain noDecimals, found_whole_iff positive]
      simp [runsOn, noDecimals, runsOn.1]
  · obtain ⟨captures, read⟩ := @readSuffix_of_not_runsOn question runsOn question.amount.number
    have isValue := question.amount.strikeOf_amount ends read
    by_cases plain : question.amount.groups = [] <;>
      by_cases noDecimals : question.amount.decimals = []
    · rw [DollarAmount.search_plain ends plain noDecimals, read, Option.some_or]
      simp [runsOn, plain, isValue]
    · rw [DollarAmount.search_point ends plain noDecimals, read, Option.some_or]
      simp [runsOn, plain, isValue]
    · rw [DollarAmount.search_groups ends plain noDecimals, read, Option.some_or]
      simp [runsOn, noDecimals, isValue]
    · rw [DollarAmount.search_whole plain noDecimals, found_whole_iff positive]
      simp [runsOn, plain, noDecimals]

/-- A question is read to ask about its dollar amount if and only if the amount is positive, no
number before it stands for something else, and what is read from it on is it. -/
theorem readsAmount_iff (question : PriceQuestion) : question.ReadsAmount ↔ question.Readable := by
  rw [readsAmount_iff_found]
  refine and_congr_right fun positive => ?_
  cases search numberExpression none question.before with
  | some earlier => simp
  | none =>
    rw [Option.none_or]
    exact found_iff positive

/-- A date stands before the amount. -/
def byNewYear : PriceQuestion where
  text := "Will Bitcoin on Dec 31 be above $100,000?"
  before := "Will Bitcoin on Dec 31 be above ".toList
  amount :=
    { head := ['1', '0', '0']
      groups := [['0', '0', '0']]
      decimals := []
      suffix := none
      isNumeral := ⟨List.cons_ne_nil _ _, by simp⟩
      areGroups := by
        rintro group member
        obtain rfl := List.mem_singleton.mp member
        exact ⟨rfl, by simp⟩
      short := fun _ => le_rfl
      areDecimals := List.forall_mem_nil _
      cents := Nat.zero_le _
      isGap := nofun
      isLetter := nofun }
  after := ['?']
  parts := by decide +kernel
  ends := ⟨by decide, by decide⟩
  noneBefore := noAmount_of_not_mem (by decide +kernel)
  noneAfter := noAmount_of_not_mem (by decide)
  names := ⟨"bitcoin", by decide +kernel, by decide +kernel⟩

/-- The day is read as the strike. -/
theorem not_readsAmount_byNewYear : ¬ byNewYear.ReadsAmount := by
  unfold ReadsAmount
  decide +kernel

end PriceQuestion

end GdslExchange.JupiterPrediction
