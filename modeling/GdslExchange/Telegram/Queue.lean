/-
This file models the queues of `telegramService`, one for each chat, and the loop that drains
them. A drain runs without interruption from one await to the next; it waits for a timer, for the
answer to a send or for the link to be disabled, and meanwhile messages are enqueued.

Messages are told apart by the order in which their chat got them.
-/

import Mathlib.Algebra.Order.Field.Basic
import Mathlib.Data.List.Induction
import Mathlib.Data.List.Nodup
import Mathlib.Logic.Function.Basic

namespace GdslExchange.Telegram.Queue

def PER_CHAT_INTERVAL_MS : ℕ := 1100

structure QueuedMessage where
  ordinal : ℕ
  attempt : ℕ

/-- What the drain of a chat waits for, if one is running. -/
inductive Drain where
  | stopped
  | pacing (wakesAt : ℕ)
  | sending
  | disabling
  | backingOff (wakesAt : ℕ)
deriving DecidableEq

structure SendResult where
  ok : Bool
  status : ℕ

/-- A chat, and what has happened to it: how many messages it got, when the sends started, which
of them succeeded, and how the messages were resolved. The latest start comes first. -/
structure Chat where
  queue : List QueuedMessage
  lastSendAt : ℕ
  drain : Drain
  enqueued : ℕ
  starts : List ℕ
  delivered : List ℕ
  resolved : List (ℕ × Bool)

inductive Event where
  | enqueue
  | timer
  | answer (result : SendResult)
  | disabled

namespace Chat

def fresh : Chat := ⟨[], 0, .stopped, 0, [], [], []⟩

def send (now : ℕ) (chat : Chat) : Chat :=
  { chat with drain := .sending, starts := now :: chat.starts }

/-- The loop of `drain`, up to its first await. -/
def loop (now : ℕ) (chat : Chat) : Chat :=
  if chat.queue = [] then { chat with drain := .stopped }
  else
    let wait := PER_CHAT_INTERVAL_MS - (now - chat.lastSendAt)
    if 0 < wait then { chat with drain := .pacing (now + wait) } else chat.send now

/-- `queue.shift()` and `next.resolve(ok)`. -/
def finish (ok : Bool) (chat : Chat) : Chat :=
  match chat.queue with
  | [] => chat
  | next :: rest =>
    { chat with queue := rest, resolved := chat.resolved ++ [(next.ordinal, ok)] }

/-- The loop from the answer to a send to the next await. -/
def answered (result : SendResult) (now : ℕ) (chat : Chat) : Chat :=
  match chat.queue with
  | [] => chat
  | next :: rest =>
    let chat := { chat with lastSendAt := now }
    if result.ok then
      (finish true { chat with delivered := chat.delivered ++ [next.ordinal] }).loop now
    else if result.status = 403 then { chat with drain := .disabling }
    else if (result.status = 429 ∨ 500 ≤ result.status) ∧ next.attempt < 3 then
      { chat with
        queue := { next with attempt := next.attempt + 1 } :: rest
        drain := .backingOff (now + min 15000 (1500 * 2 ^ next.attempt)) }
    else (chat.finish false).loop now

def enqueue (now : ℕ) (chat : Chat) : Chat :=
  let pushed :=
    { chat with queue := chat.queue ++ [⟨chat.enqueued, 0⟩], enqueued := chat.enqueued + 1 }
  if chat.drain = .stopped then pushed.loop now else pushed

/-- What an event does to its chat: nothing, where the drain waits for another. A timer goes off no
earlier than it was asked to. -/
def react (now : ℕ) (event : Event) (chat : Chat) : Chat :=
  match event, chat.drain with
  | .enqueue, _ => chat.enqueue now
  | .timer, .pacing wakesAt => if wakesAt ≤ now then chat.send now else chat
  | .timer, .backingOff wakesAt => if wakesAt ≤ now then chat.loop now else chat
  | .answer result, .sending => chat.answered result now
  | .disabled, .disabling => (chat.finish false).loop now
  | _, _ => chat

/-- What is left of the turns of the drain, if no more messages come. -/
def work (chat : Chat) : ℕ :=
  (chat.queue.map fun message => 3 * (4 - message.attempt)).sum +
    match chat.drain with
    | .stopped | .pacing _ => 2
    | .sending => 1
    | .disabling => 0
    | .backingOff _ => 3

end Chat

/-! ### All chats -/

structure World where
  now : ℕ
  chats : String → Chat

/-- An event of a chat, some time after the one before it. -/
structure Turn where
  elapsed : ℕ
  chatId : String
  event : Event

def World.turn (world : World) (turn : Turn) : World where
  now := world.now + turn.elapsed
  chats := Function.update world.chats turn.chatId
    ((world.chats turn.chatId).react (world.now + turn.elapsed) turn.event)

def World.run (start : ℕ) (turns : List Turn) : World :=
  turns.foldl World.turn ⟨start, fun _ => .fresh⟩

/-- The resolved messages and then the waiting ones are all that were enqueued, in order; the sends
that succeeded are those of the messages resolved so; sends are spaced. -/
structure Orderly (chat : Chat) : Prop where
  order : chat.resolved.map Prod.fst ++ chat.queue.map QueuedMessage.ordinal =
    List.range chat.enqueued
  told : chat.delivered = (chat.resolved.filter Prod.snd).map Prod.fst
  paced : chat.starts.Pairwise fun later earlier => earlier + PER_CHAT_INTERVAL_MS ≤ later

/-- Moreover no message is sent successfully twice, what is not drained is empty, and every turn of
the drain, however it ends, leaves less to do. -/
structure Fair (chat : Chat) : Prop extends Orderly chat where
  delivered : chat.delivered.Nodup
  stopped : chat.drain = .stopped → chat.queue = []
  progress : ∀ now event, event ≠ .enqueue →
    chat.react now event = chat ∨ (chat.react now event).work < chat.work

/-! ### What every turn keeps -/

/-- The part of the invariant that does not depend on what the drain waits for. -/
structure Sound (now : ℕ) (chat : Chat) : Prop extends Orderly chat where
  attempts : ∀ message ∈ chat.queue, message.attempt ≤ 3
  past : chat.lastSendAt ≤ now
  started : ∀ start ∈ chat.starts, start ≤ now

structure Kept (now : ℕ) (chat : Chat) : Prop extends Sound now chat where
  sent : chat.drain ≠ .sending → ∀ start ∈ chat.starts, start ≤ chat.lastSendAt
  waits : ∀ wakesAt, chat.drain = .pacing wakesAt →
    chat.lastSendAt + PER_CHAT_INTERVAL_MS ≤ wakesAt
  stopped : chat.drain = .stopped ↔ chat.queue = []

variable {now : ℕ} {chat : Chat}

theorem Kept.nonempty (kept : Kept now chat) {drain : Drain} (isDrain : chat.drain = drain)
    (runs : drain ≠ .stopped) : chat.queue ≠ [] :=
  fun empty => runs (isDrain.symm.trans (kept.stopped.mpr empty))

theorem kept_send (sound : Sound now chat) (nonempty : chat.queue ≠ [])
    (sent : ∀ start ∈ chat.starts, start ≤ chat.lastSendAt)
    (due : chat.lastSendAt + PER_CHAT_INTERVAL_MS ≤ now) : Kept now (chat.send now) := by
  have paced : ∀ start ∈ chat.starts, start + PER_CHAT_INTERVAL_MS ≤ now := fun start member =>
    Nat.le_trans (Nat.add_le_add_right (sent start member) _) due
  exact ⟨⟨⟨sound.order, sound.told, List.pairwise_cons.mpr ⟨paced, sound.paced⟩⟩,
    sound.attempts, sound.past, List.forall_mem_cons.mpr ⟨Nat.le_refl now, sound.started⟩⟩,
    fun sending => (sending rfl).elim, nofun, iff_of_false nofun nonempty⟩

theorem kept_loop (sound : Sound now chat)
    (sent : ∀ start ∈ chat.starts, start ≤ chat.lastSendAt) : Kept now (chat.loop now) := by
  have past := sound.past
  unfold Chat.loop
  dsimp only
  split
  next empty =>
    exact ⟨⟨⟨sound.order, sound.told, sound.paced⟩, sound.attempts, past, sound.started⟩,
      fun _ => sent, nofun, iff_of_true rfl empty⟩
  next nonempty =>
    split
    · refine ⟨⟨⟨sound.order, sound.told, sound.paced⟩, sound.attempts, past, sound.started⟩,
        fun _ => sent, ?_, iff_of_false nofun nonempty⟩
      rintro wakesAt ⟨⟩
      dsimp only
      omega
    · exact kept_send sound nonempty sent (by omega)

theorem kept_finish {ok : Bool} {next : QueuedMessage} {rest : List QueuedMessage}
    {delivered : List ℕ} (isQueue : chat.queue = next :: rest) (sound : Sound now chat)
    (sent : ∀ start ∈ chat.starts, start ≤ chat.lastSendAt)
    (told : delivered =
      ((chat.resolved ++ [(next.ordinal, ok)]).filter Prod.snd).map Prod.fst) :
    Kept now ((Chat.finish ok { chat with delivered }).loop now) := by
  have order := sound.order
  have attempts := sound.attempts
  rw [isQueue] at order attempts
  unfold Chat.finish
  simp only [isQueue]
  refine kept_loop ⟨⟨?_, told, sound.paced⟩, (List.forall_mem_cons.mp attempts).2, sound.past,
    sound.started⟩ sent
  rw [← order, List.map_append, List.append_assoc]
  rfl

theorem kept_answered {result : SendResult} (kept : Kept now chat)
    (isSending : chat.drain = .sending) : Kept now (chat.answered result now) := by
  have nonempty := kept.nonempty isSending nofun
  have sound : Sound now { chat with lastSendAt := now } :=
    ⟨⟨kept.order, kept.told, kept.paced⟩, kept.attempts, Nat.le_refl now, kept.started⟩
  unfold Chat.answered
  split
  next empty => exact (nonempty empty).elim
  next next rest isQueue =>
    split
    · exact @kept_finish now { chat with lastSendAt := now } true next rest _ isQueue sound
        kept.started (by simp [kept.told])
    · split
      · exact ⟨⟨⟨kept.order, kept.told, kept.paced⟩, kept.attempts, sound.past, kept.started⟩,
          fun _ => kept.started, nofun, iff_of_false nofun nonempty⟩
      · split
        next again =>
          have attempts := kept.attempts
          have order := kept.order
          rw [isQueue] at attempts order
          have others := (List.forall_mem_cons.mp attempts).2
          exact ⟨⟨⟨order, kept.told, kept.paced⟩, List.forall_mem_cons.mpr ⟨again.2, others⟩,
            sound.past, kept.started⟩, fun _ => kept.started, nofun, iff_of_false nofun nofun⟩
        · exact @kept_finish now { chat with lastSendAt := now } false next rest _ isQueue sound
            kept.started (by simp [kept.told])

theorem kept_enqueue (kept : Kept now chat) : Kept now (chat.enqueue now) := by
  have sound : Sound now { chat with
      queue := chat.queue ++ [⟨chat.enqueued, 0⟩], enqueued := chat.enqueued + 1 } := by
    refine ⟨⟨?_, kept.told, kept.paced⟩, ?_, kept.past, kept.started⟩
    · rw [List.map_append, ← List.append_assoc, kept.order]
      exact List.range_succ.symm
    · intro message member
      obtain earlier | latest := List.mem_append.mp member
      · exact kept.attempts message earlier
      · rw [List.mem_singleton.mp latest]
        exact Nat.zero_le 3
  unfold Chat.enqueue
  split
  next isStopped =>
    exact kept_loop sound (kept.sent (by rw [isStopped]; nofun))
  next goesOn =>
    exact ⟨sound, kept.sent, kept.waits, iff_of_false goesOn (by simp)⟩

theorem kept_react {event : Event} (kept : Kept now chat) : Kept now (chat.react now event) := by
  have sent {drain : Drain} (isDrain : chat.drain = drain) (notSending : drain ≠ .sending) :=
    kept.sent (isDrain ▸ notSending)
  unfold Chat.react
  split
  · exact kept_enqueue kept
  next wakesAt isPacing =>
    split
    next due =>
      exact kept_send kept.toSound (kept.nonempty isPacing nofun) (sent isPacing nofun)
        (Nat.le_trans (kept.waits wakesAt isPacing) due)
    · exact kept
  next wakesAt isBackingOff =>
    split
    · exact kept_loop kept.toSound (sent isBackingOff nofun)
    · exact kept
  next result isSending => exact kept_answered kept isSending
  next isDisabling =>
    obtain ⟨next, rest, isQueue⟩ := List.exists_cons_of_ne_nil (kept.nonempty isDisabling nofun)
    exact kept_finish isQueue kept.toSound (sent isDisabling nofun) (by simp [kept.told])
  · exact kept

theorem kept_later {later : ℕ} (kept : Kept now chat) (le : now ≤ later) : Kept later chat :=
  ⟨⟨kept.toOrderly, kept.attempts, Nat.le_trans kept.past le,
    fun start member => Nat.le_trans (kept.started start member) le⟩, kept.sent, kept.waits,
    kept.stopped⟩

theorem kept_run (start : ℕ) (turns : List Turn) (chatId : String) :
    Kept (World.run start turns).now ((World.run start turns).chats chatId) := by
  unfold World.run
  induction turns using List.reverseRecOn with
  | nil =>
    exact ⟨⟨⟨rfl, rfl, .nil⟩, nofun, Nat.zero_le start, nofun⟩, nofun, nofun,
      iff_of_true rfl rfl⟩
  | append_singleton turns turn inductionHypothesis =>
    rw [List.foldl_append]
    generalize turns.foldl World.turn _ = world at inductionHypothesis
    have later := Nat.le_add_right world.now turn.elapsed
    show Kept (world.now + turn.elapsed) (Function.update world.chats turn.chatId _ chatId)
    by_cases same : chatId = turn.chatId
    · subst same
      rw [Function.update_self]
      exact kept_react (kept_later inductionHypothesis later)
    · rw [Function.update_of_ne same]
      exact kept_later inductionHypothesis later

/-! ### The drain ends -/

theorem work_loop_le (now : ℕ) (chat : Chat) : (chat.loop now).work ≤
    (chat.queue.map fun message => 3 * (4 - message.attempt)).sum + 2 := by
  unfold Chat.loop Chat.send
  dsimp only
  split
  · exact Nat.le_refl _
  · split
    · exact Nat.le_refl _
    · exact Nat.le_succ _

theorem work_finish_lt {ok : Bool} {next : QueuedMessage} {rest : List QueuedMessage}
    (delivered : List ℕ) (isQueue : chat.queue = next :: rest) (bound : next.attempt ≤ 3) :
    ((Chat.finish ok { chat with delivered }).loop now).work <
      (chat.queue.map fun message => 3 * (4 - message.attempt)).sum := by
  refine Nat.lt_of_le_of_lt (work_loop_le now _) ?_
  unfold Chat.finish
  simp only [isQueue, List.map_cons, List.sum_cons]
  omega

theorem work_answered_lt {result : SendResult} (kept : Kept now chat)
    (isSending : chat.drain = .sending) (later : ℕ) :
    (chat.answered result later).work < chat.work := by
  have isWork : chat.work = (chat.queue.map fun message => 3 * (4 - message.attempt)).sum + 1 := by
    rw [Chat.work, isSending]
  rw [isWork, Nat.lt_succ_iff]
  unfold Chat.answered
  split
  next empty => exact (kept.nonempty isSending nofun empty).elim
  next next rest isQueue =>
    have bound : next.attempt ≤ 3 := kept.attempts next (by simp [isQueue])
    split
    · exact Nat.le_of_lt
        (@work_finish_lt later { chat with lastSendAt := later } true next rest _ isQueue bound)
    · split
      · exact Nat.le_refl _
      · split
        next again =>
          rw [isQueue]
          unfold Chat.work
          simp only [List.map_cons, List.sum_cons]
          omega
        · exact Nat.le_of_lt (@work_finish_lt later { chat with lastSendAt := later } false next
            rest _ isQueue bound)

/-- Every event that the drain does not wait for changes nothing, and every other lowers what is
left to do. -/
theorem work_react_lt {event : Event} (kept : Kept now chat) (later : ℕ)
    (notEnqueued : event ≠ .enqueue) :
    chat.react later event = chat ∨ (chat.react later event).work < chat.work := by
  unfold Chat.react
  split
  · exact (notEnqueued rfl).elim
  next isPacing =>
    split
    · refine .inr ?_
      rw [Chat.work, Chat.work, isPacing]
      exact Nat.lt_succ_self _
    · exact .inl rfl
  next isBackingOff =>
    split
    · refine .inr (Nat.lt_of_le_of_lt (work_loop_le later chat) ?_)
      rw [Chat.work, isBackingOff]
      exact Nat.lt_succ_self _
    · exact .inl rfl
  next isSending => exact .inr (work_answered_lt kept isSending later)
  next isDisabling =>
    obtain ⟨next, rest, isQueue⟩ :=
      List.exists_cons_of_ne_nil (kept.nonempty isDisabling nofun)
    refine .inr (Nat.lt_of_lt_of_le (work_finish_lt chat.delivered isQueue
      (kept.attempts next (by simp [isQueue]))) ?_)
    rw [Chat.work, isDisabling]
    exact Nat.le_refl _
  · exact .inl rfl

end GdslExchange.Telegram.Queue
