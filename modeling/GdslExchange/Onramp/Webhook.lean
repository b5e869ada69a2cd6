/-
This file models the webhook of fiat orders and settles when the status of an order never moves
backwards: when no report that an order is created or pending is delivered after one that it is
completed or failed.

The handler writes whatever status a report maps to, and the reason only of a failure.
-/

import GdslExchange.Async.Delivery
import GdslExchange.Async.Program
import Mathlib.Algebra.Order.Ring.Rat
import Mathlib.Data.List.Infix
import Mathlib.Logic.Function.Basic

namespace GdslExchange.Onramp

open Async Async.Program

/-! ### Statuses -/

inductive Status where
  | created
  | pending
  | completed
  | failed
deriving DecidableEq

/-- A status that no order should leave for an earlier one. -/
def Status.Final (status : Status) : Prop := status = .completed ∨ status = .failed

instance : DecidablePred Status.Final := fun _ => inferInstanceAs (Decidable (_ ∨ _))

/-- Some of the words of a pattern occurs in the text. -/
def test (pattern : List String) (text : String) : Prop :=
  ∃ word ∈ pattern, word.toList <:+: text.toList

instance (pattern : List String) (text : String) : Decidable (test pattern text) :=
  inferInstanceAs (Decidable (∃ word ∈ pattern, _))

def mapStatus (raw : String) : Status :=
  let s := raw.toUpper
  if test ["COMPLETE", "SUCCESS"] s then .completed
  else if test ["FAIL", "CANCEL", "EXPIRED", "REFUND", "DECLIN"] s then .failed
  else if test ["PENDING", "PROCESSING", "SUBMITTED", "AWAITING", "ONGOING", "PAYMENT"] s then
    .pending
  else .created

/-! ### Orders -/

/-- An order of the table; only a failed one has a reason. -/
structure Order where
  status : Status
  providerOrderId : Option String
  txHash : Option String
  cryptoAmount : Option ℚ
  failureReason : Option String
  explained : failureReason.isSome → status = .failed

/-- What the update of a webhook writes; of the middle three, what is undefined stays. -/
structure Update where
  status : Status
  providerOrderId : Option String
  txHash : Option String
  cryptoAmount : Option ℚ
  statusReason : Option String

def Update.failureReason (update : Update) : Option String :=
  if update.status = .failed then some (update.statusReason.getD "Provider reported failure")
  else none

def Order.update (order : Order) (update : Update) : Order where
  status := update.status
  providerOrderId := update.providerOrderId <|> order.providerOrderId
  txHash := update.txHash <|> order.txHash
  cryptoAmount := update.cryptoAmount <|> order.cryptoAmount
  failureReason := update.failureReason
  explained := by
    unfold Update.failureReason
    split
    · exact fun _ => ‹_›
    · exact fun impossible => absurd impossible Bool.false_ne_true

/-- The orders by their partner ids. -/
abbrev Orders : Type := String → Option Order

/-- The orders, and the reports of webhooks that have taken effect. -/
structure Desk where
  orders : Orders
  reports : List (String × Status)

def Desk.update (desk : Desk) (partnerOrderId : String) (order : Order) (update : Update) :
    Desk where
  orders := Function.update desk.orders partnerOrderId (some (order.update update))
  reports := desk.reports ++ [(partnerOrderId, update.status)]

/-! ### The webhook -/

inductive Op where
  | update (partnerOrderId : String) (update : Update)

def perform : (op : Op) → Delivery → Desk → Desk × Except String Unit
  | .update partnerOrderId update, delivery, desk =>
    delivery.update desk (desk.orders partnerOrderId) fun order =>
      (desk.update partnerOrderId order update, ())

@[reducible] def tables : Service where
  State := Desk
  Op := Op
  Result _ := Unit
  Failure := String
  Fate _ := Delivery
  perform := perform

abbrev Call (Value : Type) : Type := Program tables Value

def await (op : Op) : Call Unit := @Program.perform tables op

/-- The data of a webhook; of an amount what `Number` makes of it, if that is finite. -/
structure WebhookData where
  partnerOrderId : Option String
  status : Option String
  id : Option String
  transactionHash : Option String
  cryptoAmount : Option ℚ
  statusReason : Option String

/-- The claims of a token, with the data that stand among them where there are none apart. -/
structure Claims where
  webhookData : Option WebhookData
  eventID : Option String
  own : WebhookData

inductive Response where
  | ok
  | error (status : ℕ) (message : String)

def trim (text : String) : String :=
  String.ofList
    ((text.toList.dropWhile Char.isWhitespace).reverse.dropWhile Char.isWhitespace).reverse

/-- A request to the webhook: the access token that the server has for it, and the signed data. -/
structure Request where
  accessToken : Option String
  signed : Option String

section Webhook

variable (verify : (signed accessToken : String) → Option Claims)

/-- The handler of `/webhook/transak`. -/
def webhook (request : Request) : Call Response :=
  match request.accessToken with
  | none => return .error 503 "Webhook not configured"
  | some accessToken =>
    match request.signed.filter (· ≠ "") with
    | none => return .error 400 "Missing signed payload"
    | some signed =>
      match verify signed accessToken with
      | none => return .error 401 "Bad signature"
      | some claims => do
        let data := claims.webhookData.getD claims.own
        let partnerOrderId := trim (data.partnerOrderId.getD "")
        if partnerOrderId = "" then return .error 400 "Missing partnerOrderId"
        else
          let status := mapStatus ((data.status <|> claims.eventID).getD "")
          recover (await (.update partnerOrderId
            { status
              providerOrderId := data.id
              txHash := data.transactionHash
              cryptoAmount := data.cryptoAmount
              statusReason := data.statusReason })) fun _ => return ()
          return .ok

def webhookSystem (orders : Orders) (requests : List Request) : System tables Response :=
  ⟨⟨⟨orders, []⟩, []⟩, requests.map (webhook verify)⟩

end Webhook

/-! ### What a run should keep -/

/-- An order that is completed or failed stays so, and its reason is only erased where it is
completed. -/
structure Sound (step : Step tables) : Prop where
  forward : ∀ id, ∀ order ∈ step.before.state.orders id, order.status.Final →
    ∃ after ∈ step.after.state.orders id, after.status.Final
  explained : ∀ id, ∀ order ∈ step.before.state.orders id, order.failureReason.isSome →
    ∃ after ∈ step.after.state.orders id,
      after.failureReason.isSome ∨ after.status = .completed

/-- An order was completed or failed at the start, or a report has said so. -/
def Finished (orders : Orders) (desk : Desk) (id : String) : Prop :=
  (∃ order ∈ orders id, order.status.Final) ∨ ∃ report ∈ desk.reports, report.1 = id ∧ report.2.Final

instance (orders : Orders) (desk : Desk) (id : String) : Decidable (Finished orders desk id) :=
  inferInstanceAs (Decidable (_ ∨ _))

/-- A report of an earlier status that takes effect is of an order that is not finished. -/
def Orderly (orders : Orders) (step : Step tables) : Prop :=
  match step.op with
  | .update id update => Delivery.Applies step.fate →
    (step.before.state.orders id).isSome → ¬ update.status.Final →
      ¬ Finished orders step.before.state id

instance (orders : Orders) (step : Step tables) : Decidable (Orderly orders step) := by
  unfold Orderly
  infer_instance

/-! ### Steps -/

theorem step_cases (step : Step tables) :
    ((∀ orders, Orderly orders step) ∧ step.after.state = step.before.state) ∨
    ∃ id update order, step.op = .update id update ∧ Delivery.Applies step.fate ∧
      step.before.state.orders id = some order ∧
      step.after.state = step.before.state.update id order update := by
  obtain ⟨before, caller, ⟨id, update⟩, fate⟩ := step
  have isAfter := Delivery.update_state fate before.state (before.state.orders id) fun order =>
    (before.state.update id order update, ())
  by_cases applies : Delivery.Applies fate
  · rw [if_pos applies] at isAfter
    cases found : before.state.orders id with
    | none =>
      refine .inl ⟨fun orders _ isSome => ?_, isAfter.trans (congrArg (Option.elim · _ _) found)⟩
      rw [found] at isSome
      cases isSome
    | some order =>
      exact .inr ⟨id, update, order, rfl, applies, found,
        isAfter.trans (congrArg (Option.elim · _ _) found)⟩
  · rw [if_neg applies] at isAfter
    exact .inl ⟨fun _ applied => absurd applied applies, isAfter⟩

variable {id : String} {order : Order} {update : Update}

theorem orders_update {desk : Desk} {other : String} :
    (desk.update id order update).orders other =
      if other = id then some (order.update update) else desk.orders other :=
  Function.update_apply ..

theorem finished_update {orders : Orders} {desk : Desk} {other : String} :
    Finished orders (desk.update id order update) other ↔
      Finished orders desk other ∨ id = other ∧ update.status.Final := by
  unfold Finished Desk.update
  rw [or_assoc]
  refine or_congr_right ?_
  simp only [List.mem_append, List.mem_singleton, or_and_right, exists_or, exists_eq_left]

/-- Nothing but a report moves an order. -/
def Reported (orders : Orders) (desk : Desk) : Prop :=
  ∀ id, ∀ order ∈ desk.orders id, order.status.Final → Finished orders desk id

/-- What is finished is completed or failed. -/
def Settled (orders : Orders) (desk : Desk) : Prop :=
  ∀ id, Finished orders desk id → ∀ order ∈ desk.orders id, order.status.Final

variable {step : Step tables}

theorem reported_step {orders : Orders} (reported : Reported orders step.before.state) :
    Reported orders step.after.state := by
  rcases step_cases step with ⟨-, same⟩ | ⟨id, update, order, -, -, found, isAfter⟩
  · rwa [same]
  · rw [isAfter]
    intro other after isOther final
    rw [orders_update] at isOther
    refine finished_update.mpr ?_
    split at isOther
    case isTrue same =>
      rw [← Option.some.inj isOther] at final
      exact .inr ⟨same.symm, final⟩
    case isFalse => exact .inl (reported other after isOther final)

theorem orderly_iff {orders : Orders} (isOp : step.op = .update id update)
    (applies : Delivery.Applies step.fate) (found : step.before.state.orders id = some order) :
    Orderly orders step ↔ (¬ update.status.Final → ¬ Finished orders step.before.state id) := by
  unfold Orderly
  rw [isOp]
  have isSome : (step.before.state.orders id).isSome := by rw [found]; rfl
  exact ⟨fun orderly => orderly applies isSome, fun orderly _ _ => orderly⟩

theorem settled_step {orders : Orders} (orderly : Orderly orders step)
    (settled : Settled orders step.before.state) : Settled orders step.after.state := by
  rcases step_cases step with ⟨-, same⟩ | ⟨id, update, order, isOp, applies, found, isAfter⟩
  · rwa [same]
  · rw [isAfter]
    rw [orderly_iff isOp applies found] at orderly
    intro other finished after isOther
    rw [orders_update] at isOther
    rw [finished_update] at finished
    split at isOther
    case isTrue same =>
      rw [← Option.some.inj isOther]
      by_contra reopened
      rcases finished with before | ⟨-, final⟩
      · exact orderly reopened (same ▸ before)
      · exact reopened final
    case isFalse different =>
      rcases finished with before | ⟨same, -⟩
      · exact settled other before after isOther
      · exact absurd same.symm different

theorem update_sound (kept : order.status.Final → update.status.Final)
    (explained : order.failureReason.isSome) :
    (order.update update).failureReason.isSome ∨ (order.update update).status = .completed := by
  rcases kept (.inr (order.explained explained)) with completed | failed
  · exact .inr completed
  · refine .inl ?_
    show update.failureReason.isSome
    unfold Update.failureReason
    rw [if_pos failed]
    rfl

theorem sound_iff_orderly {orders : Orders} (reported : Reported orders step.before.state)
    (settled : Settled orders step.before.state) :
    Sound step ↔ Orderly orders step := by
  rcases step_cases step with ⟨always, same⟩ | ⟨id, update, order, isOp, applies, found, isAfter⟩
  · refine ⟨fun _ => always orders, fun _ => ⟨fun id order found final => ?_, ?_⟩⟩
    · rw [same]
      exact ⟨order, found, final⟩
    · intro id order found explained
      rw [same]
      exact ⟨order, found, .inl explained⟩
  · rw [orderly_iff isOp applies found]
    constructor
    · intro sound reopened finished
      obtain ⟨after, isOrder, final⟩ :=
        sound.forward id order found (settled id finished order found)
      rw [isAfter, orders_update, if_pos rfl] at isOrder
      rw [← Option.some.inj isOrder] at final
      exact reopened final
    · intro orderly
      have kept : order.status.Final → update.status.Final := fun final =>
        by_contra fun reopened => orderly reopened (reported id order found final)
      refine ⟨fun other before isOther final => ?_, fun other before isOther explained => ?_⟩
      · rw [isAfter, orders_update]
        split
        case isTrue same =>
          rw [same, found] at isOther
          rw [← Option.some.inj isOther] at final
          exact ⟨_, rfl, kept final⟩
        case isFalse => exact ⟨before, isOther, final⟩
      · rw [isAfter, orders_update]
        split
        case isTrue same =>
          rw [same, found] at isOther
          rw [← Option.some.inj isOther] at explained
          exact ⟨_, rfl, update_sound kept explained⟩
        case isFalse => exact ⟨before, isOther, .inl explained⟩

/-! ### Runs -/

/-- A moment at which the orders are where the reports have left them. -/
def Kept (orders : Orders) (moment : Moment tables) : Prop :=
  Reported orders moment.state ∧ Settled orders moment.state

theorem kept_start (orders : Orders) : Kept orders ⟨⟨orders, []⟩, []⟩ := by
  refine ⟨fun id order found final => .inl ⟨order, found, final⟩, fun id finished order found => ?_⟩
  rcases finished with ⟨opened, isOpened, final⟩ | ⟨report, member, -⟩
  · rwa [← Option.some.inj (isOpened.symm.trans found)]
  · cases member

section Runs

variable {verify : (signed accessToken : String) → Option Claims} {orders : Orders}
  {requests : List Request} {turns : List (Turn tables)}

theorem orderly_of_sound_run
    (sound : ∀ step ∈ (webhookSystem verify orders requests).steps turns, Sound step) :
    ∀ step ∈ (webhookSystem verify orders requests).steps turns, Orderly orders step := by
  refine (@System.run_keeps tables Response (Kept orders) Sound (Orderly orders)
    (fun step kept sound => ?_) _ (kept_start orders) turns sound).2
  have orderly := (sound_iff_orderly kept.1 kept.2).mp sound
  exact ⟨orderly, reported_step kept.1, settled_step orderly kept.2⟩

end Runs

/-- In a run no status moves backwards, and no reason is erased but where an order is completed,
if and only if no report of an earlier status takes effect on an order that is finished. -/
theorem forwards_iff (verify : (signed accessToken : String) → Option Claims) (orders : Orders)
    (requests : List Request) (turns : List (Turn tables)) :
    (∀ step ∈ (webhookSystem verify orders requests).steps turns, Sound step) ↔
      ∀ step ∈ (webhookSystem verify orders requests).steps turns, Orderly orders step := by
  refine ⟨orderly_of_sound_run, fun orderly => ?_⟩
  refine (@System.run_keeps tables Response (Kept orders) (Orderly orders) Sound
    (fun step kept orderly => ?_) _ (kept_start orders) turns orderly).2
  exact ⟨(sound_iff_orderly kept.1 kept.2).mpr orderly, reported_step kept.1,
    settled_step orderly kept.2⟩

def opened : Order := ⟨.created, none, none, none, none, nofun⟩

def reporting (status : String) : Claims :=
  ⟨some ⟨some "gdx_1", some status, none, none, none, none⟩, none,
    ⟨none, none, none, none, none, none⟩⟩

def verifyStatus (signed _accessToken : String) : Option Claims := some (reporting signed)

/-- The report of a payment comes after that of the completion. -/
theorem not_forwards :
    ¬ ∀ (verify : (signed accessToken : String) → Option Claims) (orders : Orders)
      (requests : List Request) (turns : List (Turn tables)),
      ∀ step ∈ (webhookSystem verify orders requests).steps turns, Sound step := by
  intro always
  have orderly := orderly_of_sound_run (always verifyStatus (fun _ => some opened)
    [⟨some "token", some "COMPLETED"⟩, ⟨some "token", some "PROCESSING"⟩]
    [⟨0, fun _ => .answered⟩, ⟨1, fun _ => .answered⟩])
  exact absurd orderly (by decide +kernel)

end GdslExchange.Onramp
