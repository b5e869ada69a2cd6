/-
This file puts the calls of one service inside another that offers its
operations among others. An embedded call runs as it runs alone, on the part of
the state that its own service sees.
-/

import GdslExchange.Async.Protocol

namespace Async

/-- A service whose operations are among those of another, which answers them alike. -/
structure Embedding (inner outer : Service) where
  op : inner.Op → outer.Op
  fate : (awaited : inner.Op) → outer.Fate (op awaited) → inner.Fate awaited
  view : outer.State → inner.State
  reply : (awaited : inner.Op) → Except outer.Failure (outer.Result (op awaited)) →
    Except inner.Failure (inner.Result awaited)
  failure : inner.Failure → outer.Failure
  view_perform : ∀ awaited outcome state, view (outer.perform (op awaited) outcome state).1 =
    (inner.perform awaited (fate awaited outcome) (view state)).1
  reply_perform : ∀ awaited outcome state,
    reply awaited (outer.perform (op awaited) outcome state).2 =
      (inner.perform awaited (fate awaited outcome) (view state)).2

namespace Embedding

variable {inner outer : Service} (embedding : Embedding inner outer) {Value : Type}

def embed : Program inner Value → Program outer Value
  | .done value => .done value
  | .failed failure => .failed (embedding.failure failure)
  | .await awaited resume =>
    .await (embedding.op awaited) fun answer => embed (resume (embedding.reply awaited answer))

def fates (outerFates : (op : outer.Op) → outer.Fate op) (awaited : inner.Op) :
    inner.Fate awaited :=
  embedding.fate awaited (outerFates (embedding.op awaited))

variable (outerFates : (op : outer.Op) → outer.Fate op)

/-- An embedded call runs as it runs alone. -/
theorem exec_embed (program : Program inner Value) (state : outer.State) :
    embedding.view ((embedding.embed program).exec outerFates state).1 =
        (program.exec (embedding.fates outerFates) (embedding.view state)).1 ∧
      ((embedding.embed program).exec outerFates state).2 =
        (program.exec (embedding.fates outerFates) (embedding.view state)).2.mapError
          embedding.failure := by
  induction program generalizing state with
  | done value => exact ⟨rfl, rfl⟩
  | failed failure => exact ⟨rfl, rfl⟩
  | await awaited resume inductionHypothesis =>
    have sameState := embedding.view_perform awaited (outerFates (embedding.op awaited)) state
    have sameReply := embedding.reply_perform awaited (outerFates (embedding.op awaited)) state
    obtain ⟨view, result⟩ := inductionHypothesis
      (embedding.reply awaited (outer.perform (embedding.op awaited)
        (outerFates (embedding.op awaited)) state).2)
      (outer.perform (embedding.op awaited) (outerFates (embedding.op awaited)) state).1
    rw [sameReply] at view result
    rw [sameState] at view result
    simp only [embed, Program.exec, sameReply]
    exact ⟨view, result⟩

/-! ### Protocols -/

section Follows

variable {Phase : Type} {embedding} {inside : Protocol inner Phase} {outside : Protocol outer Phase}

theorem follows (permits : ∀ phase op, inside.permits phase op →
      outside.permits phase (embedding.op op))
    (next : ∀ phase op answer, outside.next phase (embedding.op op) answer =
      inside.next phase op (embedding.reply op answer))
    {phase : Phase} {program : Program inner Value} {returns : Value → Phase → Prop}
    {throws : Phase → Prop}
    (inFollows : inside.Follows phase program (Protocol.ends returns throws)) :
    outside.Follows phase (embedding.embed program) (Protocol.ends returns throws) := by
  induction program generalizing phase with
  | done value => exact inFollows
  | failed failure => exact inFollows
  | await op resume inductionHypothesis =>
    refine ⟨permits phase op inFollows.1, fun answer => ?_⟩
    rw [next]
    exact inductionHypothesis _ (inFollows.2 (embedding.reply op answer))

end Follows

end Embedding

end Async
