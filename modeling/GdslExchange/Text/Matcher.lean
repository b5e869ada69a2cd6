/-
This file gives the matchers of regular expressions as ECMAScript defines them: a matcher is tried
at a place of the text with what comes after it in the expression, and takes the first of its ways
on which that matches too.

A run of one kind of character is taken whole where nothing can follow inside of it, and an
expression that does not take some character reads up to it as up to the end of the text.
-/

import Mathlib.Data.List.Infix
import Mathlib.Data.List.TakeWhile

namespace Text

/-! ### Characters -/

/-- `\s`: white space and line terminators. -/
def isSpace (c : Char) : Bool :=
  c ∈ [' ', '\t', '\n', '\x0b', '\x0c', '\r', '\u00a0', '\u1680', '\u2028', '\u2029', '\u202f',
    '\u205f', '\u3000', '\ufeff'] ∨ ('\u2000' ≤ c ∧ c ≤ '\u200a')

/-- `\w`. -/
def isWord (c : Char) : Bool := c.isAlphanum ∨ c = '_'

def headIsWord (text : List Char) : Bool := text.head?.any isWord

/-- `text.trim()`, of its characters. -/
def trimSpaces (text : List Char) : List Char :=
  ((text.dropWhile isSpace).reverse.dropWhile isSpace).reverse

theorem isWord_of_isDigit {c : Char} (digit : c.isDigit) : isWord c := by
  unfold isWord Char.isAlphanum
  simp [digit]

theorem not_isWord_of_isSpace {c : Char} (space : isSpace c) : ¬ isWord c := by
  rcases of_decide_eq_true space with listed | ⟨low, -⟩
  · simp only [List.mem_cons, List.not_mem_nil, or_false] at listed
    rcases listed with rfl | rfl | rfl | rfl | rfl | rfl | rfl | rfl | rfl | rfl | rfl | rfl |
      rfl | rfl <;>
    decide
  · intro word
    have ascii : c.val ≤ 122 := by
      rcases of_decide_eq_true word with alphanum | rfl
      · rcases (Bool.or_eq_true c.isAlpha c.isDigit).mp alphanum with alpha | digit
        · rcases (Bool.or_eq_true c.isUpper c.isLower).mp alpha with upper | lower
          · exact UInt32.le_trans (of_decide_eq_true upper).2 (by decide)
          · exact of_decide_eq_true ((Bool.and_eq_true _ _).mp lower).2
        · exact UInt32.le_trans (of_decide_eq_true ((Bool.and_eq_true _ _).mp digit).2) (by decide)
      · decide
    exact absurd (UInt32.le_trans low ascii) (by decide)

/-! ### Matchers -/

/-- The texts of the groups, by their numbers. -/
abbrev Captures := List (ℕ × List Char)

/-- Where a match stands: the character before, what is left, and what has been captured. -/
structure Cursor where
  previous : Option Char
  rest : List Char
  captures : Captures

abbrev Matcher := (Cursor → Option Captures) → Cursor → Option Captures

namespace Matcher

/-- One character of a class. -/
def oneOf (accepts : Char → Bool) : Matcher := fun next cursor =>
  match cursor.rest with
  | c :: rest => if accepts c then next ⟨some c, rest, cursor.captures⟩ else none
  | [] => none

def empty : Matcher := fun next => next

def seq (first second : Matcher) : Matcher := fun next => first (second next)

def alt (first second : Matcher) : Matcher := fun next cursor =>
  (first next cursor).or (second next cursor)

def optional (body : Matcher) : Matcher := alt body empty

/-- At most this many repetitions, each of which takes something. -/
def repeatUpTo (body : Matcher) : ℕ → Matcher
  | 0 => empty
  | n + 1 => fun next cursor =>
    (body (fun after =>
      if after.rest.length < cursor.rest.length then repeatUpTo body n next after else none)
      cursor).or (next cursor)

/-- `body*`. Each repetition takes a character, so there are fewer than this. -/
def star (body : Matcher) : Matcher := fun next cursor =>
  repeatUpTo body (cursor.rest.length + 1) next cursor

def plus (body : Matcher) : Matcher := seq body (star body)

/-- `body{n}`. -/
def exactly (body : Matcher) : ℕ → Matcher
  | 0 => empty
  | n + 1 => seq body (exactly body n)

/-- `body{0,n}`. -/
def upTo (body : Matcher) : ℕ → Matcher
  | 0 => empty
  | n + 1 => optional (seq body (upTo body n))

/-- `\b`. -/
def boundary : Matcher := fun next cursor =>
  if cursor.previous.any isWord = headIsWord cursor.rest then none else next cursor

def group (number : ℕ) (body : Matcher) : Matcher := fun next cursor =>
  body (fun after => next { after with
    captures := (number, cursor.rest.take (cursor.rest.length - after.rest.length)) ::
      after.captures }) cursor

/-- A text of small letters, in an expression that ignores case. -/
def literal (text : String) : Matcher :=
  text.toList.foldr (fun letter => seq (oneOf (·.toLower = letter))) empty

/-- One of several texts, the first that fits. -/
def anyOf : List String → Matcher
  | [] => fun _ _ => none
  | [text] => literal text
  | text :: texts => alt (literal text) (anyOf texts)

/-- The end of the expression. -/
def accept (cursor : Cursor) : Option Captures := some cursor.captures

/-- `text.match(expression)`: the leftmost place at which it matches. -/
def search (expression : Matcher) : Option Char → List Char → Option Captures
  | previous, [] => expression accept ⟨previous, [], []⟩
  | previous, c :: rest =>
    (expression accept ⟨previous, c :: rest, []⟩).or (search expression (some c) rest)

def test (expression : Matcher) (text : List Char) : Bool := (search expression none text).isSome

/-! ### Runs of a class -/

section Runs

variable {accepts : Char → Bool} {next : Cursor → Option Captures} {previous : Option Char}
  {c : Char} {rest : List Char} {captures : Captures}

theorem oneOf_of_accepts (accepted : accepts c) :
    oneOf accepts next ⟨previous, c :: rest, captures⟩ = next ⟨some c, rest, captures⟩ :=
  if_pos accepted

theorem oneOf_of_rejects (rejected : rest.head?.all fun c => ! accepts c) :
    oneOf accepts next ⟨previous, rest, captures⟩ = none := by
  cases rest with
  | nil => rfl
  | cons c rest => exact if_neg (by simpa using rejected)

theorem star_of_accepts (accepted : accepts c) :
    star (oneOf accepts) next ⟨previous, c :: rest, captures⟩ =
      (star (oneOf accepts) next ⟨some c, rest, captures⟩).or
        (next ⟨previous, c :: rest, captures⟩) := by
  unfold star
  simp only [List.length_cons, repeatUpTo, oneOf_of_accepts accepted]
  rw [if_pos (Nat.lt_succ_self _)]

theorem star_of_rejects (rejected : rest.head?.all fun c => ! accepts c) :
    star (oneOf accepts) next ⟨previous, rest, captures⟩ = next ⟨previous, rest, captures⟩ := by
  unfold star
  simp only [repeatUpTo, oneOf_of_rejects rejected]
  rfl

theorem star_run (Inside : Option Char → Prop) {run : List Char}
    (accepted : ∀ c ∈ run, accepts c) (rejected : rest.head?.all fun c => ! accepts c)
    (start : Inside previous) (inside : ∀ c, accepts c → Inside (some c))
    (fails : ∀ previous c after, Inside previous → accepts c →
      next ⟨previous, c :: after, captures⟩ = none) :
    star (oneOf accepts) next ⟨previous, run ++ rest, captures⟩ =
      next ⟨run.getLast?.or previous, rest, captures⟩ := by
  induction run generalizing previous with
  | nil => exact star_of_rejects rejected
  | cons c run inductionHypothesis =>
    have isAccepted := accepted c List.mem_cons_self
    rw [List.cons_append, star_of_accepts isAccepted,
      inductionHypothesis (fun d member => accepted d (List.mem_cons_of_mem _ member))
        (inside c isAccepted),
      fails previous c _ start isAccepted, Option.or_none]
    cases run <;> simp [List.getLast?_cons]

theorem exactly_run {run : List Char} (accepted : ∀ c ∈ run, accepts c) :
    exactly (oneOf accepts) run.length next ⟨previous, run ++ rest, captures⟩ =
      next ⟨run.getLast?.or previous, rest, captures⟩ := by
  induction run generalizing previous with
  | nil => rfl
  | cons c run inductionHypothesis =>
    rw [List.length_cons, exactly, seq, List.cons_append,
      oneOf_of_accepts (accepted c List.mem_cons_self),
      inductionHypothesis fun d member => accepted d (List.mem_cons_of_mem _ member)]
    cases run <;> simp [List.getLast?_cons]

theorem upTo_run {run : List Char} {n : ℕ} (short : run.length ≤ n)
    (accepted : ∀ c ∈ run, accepts c) (rejected : rest.head?.all fun c => ! accepts c)
    (fails : ∀ previous c after, accepts c → next ⟨previous, c :: after, captures⟩ = none) :
    upTo (oneOf accepts) n next ⟨previous, run ++ rest, captures⟩ =
      next ⟨run.getLast?.or previous, rest, captures⟩ := by
  induction n generalizing run previous with
  | zero =>
    obtain rfl := List.length_eq_zero_iff.mp (Nat.le_zero.mp short)
    rfl
  | succ n inductionHypothesis =>
    unfold upTo optional alt seq
    cases run with
    | nil =>
      rw [List.nil_append, oneOf_of_rejects rejected]
      rfl
    | cons c run =>
      have isAccepted := accepted c List.mem_cons_self
      rw [List.cons_append, oneOf_of_accepts isAccepted,
        inductionHypothesis (Nat.le_of_succ_le_succ short) fun d member =>
          accepted d (List.mem_cons_of_mem _ member),
        show empty next ⟨previous, c :: (run ++ rest), captures⟩ = none from
          fails previous c _ isAccepted, Option.or_none]
      cases run <;> simp [List.getLast?_cons]

theorem upTo_eq_none {run : List Char} {n : ℕ} (accepted : ∀ c ∈ run, accepts c)
    (rejected : rest.head?.all fun c => ! accepts c)
    (fails : ∀ previous left, left <:+ run → next ⟨previous, left ++ rest, captures⟩ = none) :
    upTo (oneOf accepts) n next ⟨previous, run ++ rest, captures⟩ = none := by
  induction n generalizing run previous with
  | zero => exact fails previous run List.suffix_rfl
  | succ n inductionHypothesis =>
    unfold upTo optional alt seq
    rw [show empty next ⟨previous, run ++ rest, captures⟩ = none from
      fails previous run List.suffix_rfl, Option.or_none]
    cases run with
    | nil => exact oneOf_of_rejects rejected
    | cons c run =>
      rw [List.cons_append, oneOf_of_accepts (accepted c List.mem_cons_self)]
      exact inductionHypothesis (fun d member => accepted d (List.mem_cons_of_mem _ member))
        fun previous left isLeft => fails previous left (isLeft.trans (List.suffix_cons _ _))

end Runs

/-! ### Repetitions -/

section Repetitions

variable {body : Matcher} {next : Cursor → Option Captures}

theorem repeatUpTo_eq {bound other : ℕ} {cursor : Cursor} (isBound : cursor.rest.length < bound)
    (isOther : cursor.rest.length < other) :
    repeatUpTo body bound next cursor = repeatUpTo body other next cursor := by
  induction bound generalizing other cursor with
  | zero => exact absurd isBound (Nat.not_lt_zero _)
  | succ bound inductionHypothesis =>
    obtain ⟨other, rfl⟩ := Nat.exists_eq_succ_of_ne_zero (Nat.ne_zero_of_lt isOther)
    refine congrArg (Option.or · _) (congrArg (body · cursor) (funext fun after => ?_))
    split
    · next takes => exact inductionHypothesis (by omega) (by omega)
    · rfl

/-- One repetition and the others, or none. -/
theorem star_eq {cursor : Cursor} : star body next cursor =
    (body (fun after =>
      if after.rest.length < cursor.rest.length then star body next after else none)
      cursor).or (next cursor) := by
  unfold star
  rw [repeatUpTo]
  refine congrArg (Option.or · _) (congrArg (body · cursor) (funext fun after => ?_))
  split
  · next takes => exact repeatUpTo_eq (by omega) (Nat.lt_succ_self _)
  · rfl

end Repetitions

/-! ### A text that goes on with what is not taken -/

/-- The expression matches before this as before the end of the text. -/
def StopsAt (tail : List Char) (expression : Matcher) : Prop :=
  ∀ next atEnd, (∀ previous rest captures,
      next ⟨previous, rest ++ tail, captures⟩ = atEnd ⟨previous, rest, captures⟩) →
    ∀ previous rest captures, expression next ⟨previous, rest ++ tail, captures⟩ =
      expression atEnd ⟨previous, rest, captures⟩

section Stops

variable {stop : Char} {after tail : List Char} {first second body : Matcher}

theorem stopsAt_oneOf {accepts : Char → Bool} (rejected : ¬ accepts stop) :
    StopsAt (stop :: after) (oneOf accepts) := by
  intro next atEnd same previous rest captures
  cases rest with
  | nil => exact if_neg rejected
  | cons c rest =>
    unfold oneOf
    dsimp only [List.cons_append]
    rw [same]

theorem stopsAt_empty : StopsAt tail empty := fun _ _ same => same

theorem stopsAt_seq (isFirst : StopsAt tail first) (isSecond : StopsAt tail second) :
    StopsAt tail (seq first second) := fun next atEnd same =>
  isFirst (second next) (second atEnd) (isSecond next atEnd same)

theorem stopsAt_alt (isFirst : StopsAt tail first) (isSecond : StopsAt tail second) :
    StopsAt tail (alt first second) := by
  intro next atEnd same previous rest captures
  unfold alt
  rw [isFirst next atEnd same, isSecond next atEnd same]

section

variable (isBody : StopsAt tail body)
include isBody

theorem stopsAt_optional : StopsAt tail (optional body) :=
  stopsAt_alt isBody stopsAt_empty

theorem stopsAt_exactly (n : ℕ) :
    StopsAt tail (exactly body n) := by
  induction n with
  | zero => exact stopsAt_empty
  | succ n inductionHypothesis => exact stopsAt_seq isBody inductionHypothesis

theorem stopsAt_upTo (n : ℕ) : StopsAt tail (upTo body n) := by
  induction n with
  | zero => exact stopsAt_empty
  | succ n inductionHypothesis => exact stopsAt_optional (stopsAt_seq isBody inductionHypothesis)

/-- The bound on the repetitions is never reached, so it does not matter which it is. -/
theorem repeatUpTo_append {next atEnd : Cursor → Option Captures}
    (same : ∀ previous rest captures,
      next ⟨previous, rest ++ tail, captures⟩ = atEnd ⟨previous, rest, captures⟩)
    {previous : Option Char} {rest : List Char} {captures : Captures} {bound fewer : ℕ}
    (isBound : rest.length < bound) (isFewer : rest.length < fewer) :
    repeatUpTo body bound next ⟨previous, rest ++ tail, captures⟩ =
      repeatUpTo body fewer atEnd ⟨previous, rest, captures⟩ := by
  induction bound generalizing previous rest captures fewer with
  | zero => exact absurd isBound (Nat.not_lt_zero _)
  | succ bound inductionHypothesis =>
    obtain ⟨fewer, rfl⟩ := Nat.exists_eq_succ_of_ne_zero (Nat.ne_zero_of_lt isFewer)
    unfold repeatUpTo
    rw [same]
    refine congrArg (Option.or · _) (isBody _ _ (fun previous shorter captures => ?_) _ _ _)
    simp only [List.length_append, Nat.add_lt_add_iff_right]
    split
    · next takes =>
      exact inductionHypothesis (by omega) (by omega)
    · rfl

theorem stopsAt_star : StopsAt tail (star body) := by
  intro next atEnd same previous rest captures
  exact repeatUpTo_append isBody same
    (by rw [List.length_append]; omega) (Nat.lt_succ_self _)

theorem stopsAt_plus : StopsAt tail (plus body) :=
  stopsAt_seq isBody (stopsAt_star isBody)

end

theorem headIsWord_append {rest : List Char} (nonword : ¬ headIsWord tail) :
    headIsWord (rest ++ tail) = headIsWord rest := by
  cases rest with
  | nil => exact Bool.not_eq_true _ ▸ nonword
  | cons c rest => rfl

theorem stopsAt_boundary (nonword : ¬ headIsWord tail) : StopsAt tail boundary := by
  intro next atEnd same previous rest captures
  unfold boundary
  rw [headIsWord_append nonword, same]

theorem stopsAt_group {number : ℕ} (isBody : StopsAt tail body) :
    StopsAt tail (group number body) := by
  intro next atEnd same previous rest captures
  refine isBody _ _ (fun previous shorter captures => ?_) _ _ _
  rw [same]
  rw [List.length_append, List.length_append, Nat.add_sub_add_right,
    List.take_append_of_le_length (Nat.sub_le _ _)]

/-- The search in a text with such a character is that before it, and else that after it. -/
theorem search_append_stop (stops : StopsAt (stop :: after) body)
    (fails : ∀ previous, body accept ⟨previous, stop :: after, []⟩ = none)
    {text : List Char} {previous : Option Char} :
    search body previous (text ++ stop :: after) =
      (search body previous text).or (search body (some stop) after) := by
  have same (previous : Option Char) (text : List Char) :
      body accept ⟨previous, text ++ stop :: after, []⟩ = body accept ⟨previous, text, []⟩ :=
    stops accept accept (fun _ _ _ => rfl) previous text []
  induction text generalizing previous with
  | nil =>
    have atEnd : search body previous [] = none := by
      rw [search, ← same, List.nil_append, fails]
    rw [List.nil_append, atEnd, search, fails]
  | cons c text inductionHypothesis =>
    rw [List.cons_append, search, search, ← List.cons_append, same, inductionHypothesis,
      Option.or_assoc]

end Stops

end Matcher

end Text
