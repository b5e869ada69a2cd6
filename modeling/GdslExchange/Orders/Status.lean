/-
This file models the order state machine: the statuses of an order row and the
table of allowed transitions.
-/

import Mathlib.Data.Fintype.Basic

namespace GdslExchange.Orders

/-- `OrderStatus` of the database schema. -/
inductive OrderStatus where
  | pendingSubmit
  | new
  | partiallyFilled
  | filled
  | canceled
  | rejected
  | expired
deriving DecidableEq

instance : Fintype OrderStatus :=
  Fintype.ofList [.pendingSubmit, .new, .partiallyFilled, .filled, .canceled, .rejected,
    .expired] (by intro status; cases status <;> decide)

/-- A status word the exchange sends. The services cast it to `OrderStatus` unchecked, so it
may be a word the schema does not list. -/
inductive RemoteStatus where
  | listed (status : OrderStatus)
  | unlisted (word : String)
deriving DecidableEq

instance : Coe OrderStatus RemoteStatus := ⟨RemoteStatus.listed⟩

namespace OrderStatus

/-- The status as the source writes it. -/
def word : OrderStatus → String
  | pendingSubmit => "PENDING_SUBMIT"
  | new => "NEW"
  | partiallyFilled => "PARTIALLY_FILLED"
  | filled => "FILLED"
  | canceled => "CANCELED"
  | rejected => "REJECTED"
  | expired => "EXPIRED"

end OrderStatus

def RemoteStatus.word : RemoteStatus → String
  | listed status => status.word
  | unlisted word => word

/-- The transition table. -/
def transitions : OrderStatus → List OrderStatus
  | .pendingSubmit => [.new, .filled, .partiallyFilled, .rejected, .canceled]
  | .new => [.partiallyFilled, .filled, .canceled, .expired, .rejected]
  | .partiallyFilled => [.filled, .canceled, .expired]
  | .filled => []
  | .canceled => []
  | .rejected => []
  | .expired => []

/-- `transitions[source].includes(target)`. -/
def canTransitionOrderStatus (source : OrderStatus) : RemoteStatus → Bool
  | .listed target => (transitions source).contains target
  | .unlisted _ => false

/-- `TERMINAL_STATUSES` of the reconciler. -/
def terminalStatuses : List OrderStatus := [.filled, .canceled, .rejected, .expired]

/-! ### The table -/

theorem not_canTransition_self (status : OrderStatus) :
    canTransitionOrderStatus status status = false := by
  cases status <;> rfl

theorem exists_listed_of_canTransition {source : OrderStatus} {target : RemoteStatus}
    (allowed : canTransitionOrderStatus source target = true) :
    ∃ status : OrderStatus, target = status := by
  cases target with
  | listed status => exact ⟨status, rfl⟩
  | unlisted word => cases allowed

/-- A row moves along the table, or keeps its status. -/
def Moves (source target : OrderStatus) : Prop :=
  target = source ∨ canTransitionOrderStatus source target = true

instance (source target : OrderStatus) : Decidable (Moves source target) :=
  inferInstanceAs (Decidable (_ ∨ _))

/-- The statuses a row can come to along the table: the reflexive transitive closure of the
transitions. -/
def Reaches (source target : OrderStatus) : Prop :=
  Moves source target ∨
    ∃ middle ∈ transitions source, canTransitionOrderStatus middle target = true

instance (source target : OrderStatus) : Decidable (Reaches source target) :=
  inferInstanceAs (Decidable (_ ∨ _))

theorem Reaches.refl (status : OrderStatus) : Reaches status status := Or.inl (Or.inl rfl)

end GdslExchange.Orders
