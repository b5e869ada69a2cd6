/-
This file models the texts that are sent as MarkdownV2. What is put into a message is escaped, so
that it reads as it was; a message that is too long is cut, and three points are put behind it,
which nobody escapes.
-/

import GdslExchange.Text.Escape

namespace GdslExchange.Telegram.Markdown

open Text

/-- A JavaScript string, by its code units. -/
abbrev Units := List UInt16

def unit (c : Char) : UInt16 := c.toNat.toUInt16

def backslash : UInt16 := unit '\\'

/-- The characters of the class in `escapeMd`. -/
def reserved (c : UInt16) : Bool :=
  c ∈ ['_', '*', '[', ']', '(', ')', '~', '\x60', '>', '#', '+', '-', '=', '|', '\x7b', '\x7d',
    '.', '!', '\\'].map unit

/-- The text of a value, which is `none` when the value is null or undefined. -/
def escapeMd (value : Option Units) : Units :=
  escape backslash reserved (value.getD [])

inductive ParseMode where
  | MarkdownV2
  | HTML
deriving DecidableEq

structure Options (Markup : Type) where
  parseMode : Option ParseMode
  disablePreview : Option Bool
  replyMarkup : Option Markup

structure Payload (Markup : Type) where
  chat_id : String
  text : Units
  disable_web_page_preview : Bool
  parse_mode : Option ParseMode
  reply_markup : Option Markup

/-- The payload that `sendRawMessage` puts into the queue. -/
def sendRawMessage {Markup : Type} (chatId : String) (text : Units) (opts : Options Markup) :
    Payload Markup where
  chat_id := chatId
  text := if text.length > 4096 then text.take 4093 ++ ['.', '.', '.'].map unit else text
  disable_web_page_preview := opts.disablePreview.getD true
  parse_mode := opts.parseMode
  reply_markup := opts.replyMarkup

/-- Every reserved character stands behind a backslash that escapes it. -/
def Escaped (text : Units) : Prop :=
  ∀ reading ∈ readings backslash false text, reserved reading.2 → reading.1 = true

structure WellFormed (text : Units) : Prop where
  fits : text.length ≤ 4096
  escaped : Escaped text
  paired : breaksOff backslash false text = false

theorem reserved_backslash : reserved backslash = true := by decide

theorem escaped_escapeMd (value : Option Units) : Escaped (escapeMd value) := by
  unfold Escaped escapeMd
  rw [(readings_escape reserved_backslash _).1]
  intro reading member isReserved
  obtain ⟨c, -, rfl⟩ := List.mem_map.mp member
  exact isReserved

/-- A message that is put together from escaped texts is an escaped text. -/
theorem flatten_escapeMd (values : List (Option Units)) :
    (values.map escapeMd).flatten = escapeMd (some (values.map (Option.getD · [])).flatten) := by
  unfold escapeMd
  rw [Option.getD_some, ← flatten_map_escape, List.map_map]
  rfl

/-- However the text has been cut, the last of the three points stands there unescaped. -/
theorem not_escaped_points (cut : Units) : ¬ Escaped (cut ++ ['.', '.', '.'].map unit) := by
  intro escaped
  have unescaped : (false, unit '.') ∈
      readings backslash (breaksOff backslash false cut) (['.', '.', '.'].map unit) := by
    cases breaksOff backslash false cut <;> decide
  refine Bool.false_ne_true (escaped (false, unit '.') ?_ (by decide))
  rw [readings_append]
  exact List.mem_append_right _ unescaped

section Sending

variable {Markup : Type} (chatId : String) (opts : Options Markup)

theorem not_wellFormed_of_long {text : Units} (long : 4096 < text.length) :
    ¬ WellFormed (sendRawMessage chatId text opts).text := by
  unfold sendRawMessage
  rw [if_pos long]
  exact fun wellFormed => not_escaped_points _ wellFormed.escaped

/-- Removing the escapes gives back what was escaped, and every reserved character is behind one; a
message of such texts is well-formed just when it has not been cut. -/
theorem sendRawMessage_wellFormed_iff (values : List (Option Units)) :
    (∀ s : Units, unescape backslash (escapeMd (some s)) = s ∧ Escaped (escapeMd (some s))) ∧
    (WellFormed (sendRawMessage chatId (values.map escapeMd).flatten opts).text ↔
      (values.map escapeMd).flatten.length ≤ 4096) := by
  refine ⟨fun s => ⟨unescape_escape reserved_backslash s, escaped_escapeMd _⟩, ?_⟩
  constructor
  · intro wellFormed
    by_contra long
    exact not_wellFormed_of_long chatId opts (Nat.lt_of_not_le long) wellFormed
  · intro fits
    have uncut : (sendRawMessage chatId (values.map escapeMd).flatten opts).text =
        (values.map escapeMd).flatten := if_neg (Nat.not_lt.mpr fits)
    rw [uncut]
    refine ⟨fits, ?_, ?_⟩
    · rw [flatten_escapeMd]
      exact escaped_escapeMd _
    · rw [flatten_escapeMd]
      exact (readings_escape reserved_backslash _).2

end Sending

/-- A message of 4,097 letters. -/
theorem not_wellFormed_letters :
    ¬ ∀ (opts : Options Unit) (values : List (Option Units)),
      WellFormed (sendRawMessage "chat" (values.map escapeMd).flatten opts).text := by
  intro wellFormed
  refine not_wellFormed_of_long "chat" ⟨some .MarkdownV2, none, none⟩ ?_
    (wellFormed ⟨some .MarkdownV2, none, none⟩ [some (List.replicate 4097 (unit 'a'))])
  rw [flatten_escapeMd]
  refine Nat.lt_of_lt_of_le ?_ (length_le_escape _)
  rw [Option.getD_some, List.map_singleton, Option.getD_some, List.flatten_singleton,
    List.length_replicate]
  exact Nat.lt_succ_self 4096

end GdslExchange.Telegram.Markdown
