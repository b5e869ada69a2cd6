/-
This file settles when a key that can withdraw never trades: when no check sees the permission
on a key that a connection holds, or that a call under way has taken up.

The handlers refuse such a key, but neither stores what it has seen, so that a connection whose
key has got the permission goes on trading.
-/

import GdslExchange.Exchange.Connections

namespace GdslExchange.Exchange

open Async Async.Program
open Protocol (Anywhere Follows Stays anywhere ends permitted phase_after_other phase_after_self)

variable {cipher : Cipher}

/-! ### What a run should keep -/

def Desk.CanWithdraw (desk : Desk) (apiKey : String) : Prop :=
  ∃ check ∈ desk.checks.find? (fun check => check.apiKey = apiKey), check.canWithdraw

instance (desk : Desk) (apiKey : String) : Decidable (desk.CanWithdraw apiKey) :=
  inferInstanceAs (Decidable (∃ check ∈ _, _))

/-- An order is placed only with a key of which the last check has not seen that. -/
def Sound (step : Step (exchange cipher)) : Prop :=
  match step.op with
  | .order (.placeRemoteOrder request) => ¬ step.before.state.CanWithdraw request.apiKey
  | _ => True

instance (step : Step (exchange cipher)) : Decidable (Sound step) := by
  unfold Sound
  split <;> infer_instance

/-! ### Keys under way -/

/-- What a call has of a key: it has found it fit to be stored, read it from its connection, or
decrypted it. -/
inductive Phase where
  | idle
  | accepted (apiKey : String)
  | read (encryptedApiKey : String)
  | opened (apiKey : String)
deriving DecidableEq

variable (cipher) in
/-- The call has taken up the key. -/
def Phase.Holds (apiKey : String) : Phase → Prop
  | .idle => False
  | .accepted own => own = apiKey
  | .read encryptedApiKey => cipher.decryptSecret encryptedApiKey = apiKey
  | .opened own => own = apiKey

instance (apiKey : String) (phase : Phase) : Decidable (phase.Holds cipher apiKey) := by
  cases phase <;> unfold Phase.Holds <;> infer_instance

variable (cipher) in
/-- A connection is stored with a key that a check has accepted, and an order is sent with the key
of the connection that it has read. -/
def Permits (phase : Phase) : Op → Prop
  | .upsertConnection _ new =>
    ∃ apiKey, phase = .accepted apiKey ∧ new.encryptedApiKey = cipher.encryptSecret apiKey
  | .order (.placeRemoteOrder request) => phase = .opened request.apiKey
  | _ => True

/-- What an answer of the order service leads to. -/
def orderNext (phase : Phase) : (op : Orders.Op) → Except String (Orders.Result op) → Phase
  | .findConnection _ _, .ok (some connection) => .read connection.encryptedApiKey
  | .decryptSecret encrypted, .ok secret => if phase = .read encrypted then .opened secret else phase
  | .placeRemoteOrder _, _ => .idle
  | _, _ => phase

def next (phase : Phase) : (op : Op) → Except String (Result op) → Phase
  | .testConnection apiKey _, .ok account =>
    if inferBinanceCanTrade account ∧ !inferBinanceApiKeyCanWithdraw account then .accepted apiKey
    else .idle
  | .upsertConnection _ _, _ => .idle
  | .updatePermissions _ _, _ => .idle
  | .findTrading _, .ok (some row) => .read row.encryptedApiKey
  | .order op, answer => orderNext phase op answer
  | _, _ => phase

variable (cipher) in
def lane : Protocol (exchange cipher) Phase where
  start := .idle
  permits := Permits cipher
  next := next

/-- A check that sees the permission sees it on a key that no active connection holds, and that no
other call has taken up and not used yet. -/
def Guarded (step : Step (exchange cipher)) : Prop :=
  match step with
  | ⟨before, caller, .testConnection apiKey _, fate⟩ =>
    match fate with
    | .ok account => inferBinanceApiKeyCanWithdraw account →
      (∀ row ∈ before.state.connections, row.isActive →
        cipher.decryptSecret row.encryptedApiKey ≠ apiKey) ∧
      (lane cipher).Others before caller fun phase => ¬ phase.Holds cipher apiKey
    | .error _ => True
  | _ => True

instance (step : Step (exchange cipher)) : Decidable (Guarded step) := by
  unfold Guarded
  split
  · split <;> infer_instance
  · infer_instance

/-! ### Orders -/

variable (cipher) in
def orderLane : Protocol Orders.oms Phase where
  start := .idle
  permits phase op := Permits cipher phase (.order op)
  next := orderNext

theorem neutral_checking {phase : Phase} {op : Orders.Op} (checking : Orders.Checking op) :
    (orderLane cipher).Neutral phase op := by
  obtain ⟨preparing, other⟩ := checking
  cases op with
  | findConnection id userId => exact absurd rfl (other id userId)
  | now => exact ⟨trivial, fun _ => rfl⟩
  | findLatestRiskRule userId => exact ⟨trivial, fun _ => rfl⟩
  | findClosedTrades userId since => exact ⟨trivial, fun _ => rfl⟩
  | createRiskEvent event => exact ⟨trivial, fun _ => rfl⟩
  | tryGetBinanceSymbolRules symbol => exact ⟨trivial, fun _ => rfl⟩
  | _ => exact preparing.elim

theorem prepareOrder_follows (input : Orders.CreateOrderInput) :
    (orderLane cipher).Follows .idle (Orders.prepareOrder input)
      (ends (fun prepared phase => phase = .read prepared.1.encryptedApiKey)
        fun _ => True) := by
  have found : (orderLane cipher).Follows .idle
      (Orders.await (.findConnection input.exchangeConnectionId input.userId))
      (ends (fun found phase => ∀ connection, found = some connection →
        phase = .read connection.encryptedApiKey) fun _ => True) := by
    refine Follows.perform trivial ?_ fun _ => trivial
    rintro result connection rfl
    rfl
  refine Follows.bind found fun found phase isRead => ?_
  refine Follows.orThrow (fun _ => trivial) fun connection isFound => ?_
  rw [isRead connection isFound]
  refine Follows.throwIf (fun _ => trivial) fun _ => ?_
  refine Stays.andThen (Follows.neutral
    ((Orders.only_checkRisk _).mono fun _ => neutral_checking)) (fun risk => ?_) trivial
  cases risk with
  | denied reason => exact trivial
  | allowed =>
    have sized : (orderLane cipher).Stays (.read connection.encryptedApiKey)
        (Orders.submitQuantity input) :=
      Follows.neutral ((Orders.only_submitQuantity input).mono fun _ => neutral_checking)
    exact sized.andThen (fun _ => Follows.done rfl) trivial

theorem apiKey_remoteRequest {input : Orders.PlaceOrderInput} {request : Orders.RemoteRequest}
    (isRequest : Orders.remoteRequest input = .ok request) : request.apiKey = input.apiKey := by
  unfold Orders.remoteRequest at isRequest
  simp only at isRequest
  split at isRequest
  · split at isRequest
    · cases isRequest
    · cases isRequest
    · cases isRequest
      rfl
  · split at isRequest
    · cases isRequest
      rfl
    · cases isRequest
      rfl
    · cases isRequest

theorem adapterPlaceOrder_follows (input : Orders.PlaceOrderInput) :
    (orderLane cipher).Follows (.opened input.apiKey) (Orders.adapterPlaceOrder input)
      anywhere := by
  unfold Orders.adapterPlaceOrder
  cases isRequest : Orders.remoteRequest input with
  | error message => exact trivial
  | ok request =>
    refine Follows.perform ?_ (fun _ => trivial) fun _ => trivial
    exact congrArg Phase.opened (apiKey_remoteRequest isRequest).symm

theorem decrypt_follows {Value : Type} {encryptedApiKey encryptedSecret : String}
    {rest : String → String → Orders.Call Value}
    (follows : ∀ apiKey apiSecret, (orderLane cipher).Follows (.opened apiKey)
      (rest apiKey apiSecret) anywhere) :
    (orderLane cipher).Follows (.read encryptedApiKey)
      (do
        let apiKey ← Orders.await (.decryptSecret encryptedApiKey)
        let apiSecret ← Orders.await (.decryptSecret encryptedSecret)
        rest apiKey apiSecret) anywhere := by
  refine Follows.moves .opened trivial (fun _ => if_pos rfl) (fun _ => trivial) fun apiKey => ?_
  refine Stays.andThen (Stays.perform ⟨trivial, fun reply => ?_⟩)
    (follows apiKey) trivial
  cases reply with
  | ok secret =>
    have other : Phase.opened apiKey ≠ .read encryptedSecret := nofun
    exact (if_neg other : (if _ then Phase.opened secret else .opened apiKey) = _)
  | error message => rfl

theorem anywhere_rejectOrder (input : Orders.CreateOrderInput) (id : ℕ) (message : String) :
    (orderLane cipher).Anywhere (Orders.rejectOrder input id message) := by
  refine Anywhere.only ?_
  refine only_bind (only_perform fun _ => trivial) fun time => ?_
  refine only_bind (only_perform fun _ => trivial) fun _ => ?_
  exact only_bind (only_perform fun _ => trivial) fun _ => trivial

theorem submitOrder_follows (input : Orders.CreateOrderInput)
    (connection : Orders.ExchangeConnection) (quantity : ℚ) (clientOrderId : String) (id : ℕ) :
    (orderLane cipher).Follows (.read connection.encryptedApiKey)
      (Orders.submitOrder input connection quantity clientOrderId id) anywhere := by
  refine decrypt_follows fun apiKey apiSecret => ?_
  refine Follows.bind
    (adapterPlaceOrder_follows (input.adapterInput quantity apiKey apiSecret clientOrderId))
    fun remote phase _ => ?_
  refine Anywhere.only (only_bind ?_ fun status => ?_) phase
  · unfold Orders.requireTransition
    split
    · split <;> trivial
    · trivial
  · refine only_bind (only_perform fun _ => trivial) fun time => ?_
    refine only_bind (only_perform fun _ => trivial) fun updated => ?_
    exact only_bind (only_perform fun _ => trivial) fun _ => trivial

theorem placeOrder_follows (input : Orders.CreateOrderInput) :
    (orderLane cipher).Follows .idle (Orders.placeOrder input) anywhere := by
  refine Follows.bind (prepareOrder_follows input) fun prepared phase isRead => ?_
  obtain ⟨connection, quantity⟩ := prepared
  rw [isRead]
  refine Stays.andThen (Stays.perform ⟨trivial, fun _ => rfl⟩)
    (fun clientOrderId => ?_) trivial
  refine Stays.andThen (Stays.perform ⟨trivial, fun _ => rfl⟩)
    (fun order => ?_) trivial
  exact Follows.recover
    (submitOrder_follows input connection quantity clientOrderId order.id)
    fun message reached _ => anywhere_rejectOrder input order.id message reached

/-! ### Calls -/

theorem embed_follows {Value : Type} {phase : Phase} {program : Orders.Call Value}
    (follows : (orderLane cipher).Follows phase program anywhere) :
    (lane cipher).Follows phase ((orderService cipher).embed program) anywhere :=
  @Embedding.follows Orders.oms (exchange cipher) (orderService cipher) Value Phase
    (orderLane cipher) (lane cipher) (fun _ _ permitted => permitted) (fun _ _ _ => rfl) _ _ _ _
    follows

variable (cipher) in
/-- A call ends anywhere. -/
def Ended : Except (exchange cipher).Failure Response → Phase → Prop :=
  ends (fun _ _ => True) fun _ => True

theorem await_follows {phase : Phase} {op : Op} (permitted : Permits cipher phase op) :
    (lane cipher).Follows phase (await cipher op) anywhere :=
  Follows.perform permitted (fun _ => trivial) fun _ => trivial

def checked (apiKey : String) (account : Option BinanceAccount) : Phase :=
  if inferBinanceCanTrade account ∧ !inferBinanceApiKeyCanWithdraw account then .accepted apiKey
  else .idle

theorem testConnection_follows (apiKey apiSecret : String) :
    (lane cipher).Follows .idle (await cipher (.testConnection apiKey apiSecret))
      (ends (fun account phase => phase = checked apiKey account) fun _ => True) :=
  Follows.perform trivial (fun _ => rfl) fun _ => trivial

theorem connect_follows (userId : String) (label : Option String) (rawKey rawSecret : String) :
    (lane cipher).Follows .idle (connect cipher userId label rawKey rawSecret) (Ended cipher) := by
  have tested : (lane cipher).Follows .idle
      (recover (do
        let account ← await cipher (.testConnection (sanitizeBinanceCredential rawKey)
          (sanitizeBinanceCredential rawSecret))
        return Except.ok account) fun detail => return Except.error detail)
      (ends (fun tested phase => ∀ account, tested = .ok account →
        phase = checked (sanitizeBinanceCredential rawKey) account) fun _ => True) := by
    refine Follows.recover (Follows.bind (testConnection_follows _ _)
      fun account phase isChecked => ?_) fun detail reached _ => ?_
    · rintro _ ⟨⟩
      exact isChecked
    · exact nofun
  refine Follows.bind tested fun tested phase isChecked => ?_
  cases tested with
  | error detail => exact trivial
  | ok account =>
    rw [isChecked account rfl]
    by_cases canTrade : inferBinanceCanTrade account
    · by_cases canWithdraw : inferBinanceApiKeyCanWithdraw account
      · simp only [getBinancePermissionState, canTrade, canWithdraw]
        exact trivial
      · simp only [getBinancePermissionState, canTrade, canWithdraw, checked]
        exact Follows.bind (await_follows ⟨_, rfl, rfl⟩) fun id phase _ => trivial
    · simp only [getBinancePermissionState, canTrade]
      exact trivial

theorem test_follows (userId id : String) :
    (lane cipher).Follows .idle (test cipher userId id) (Ended cipher) := by
  refine Anywhere.only ?_ Phase.idle
  refine only_bind (only_perform fun _ => trivial) fun found => ?_
  cases found with
  | none => trivial
  | some connection =>
    refine only_bind (only_perform fun _ => trivial) fun account => ?_
    simp only
    split
    · trivial
    · split
      · trivial
      · exact only_bind (only_perform fun _ => trivial) fun _ => trivial

theorem placed_follows (input : Orders.CreateOrderInput) :
    (lane cipher).Follows .idle (placeOrder cipher input) (Ended cipher) :=
  Follows.bind (embed_follows (placeOrder_follows input)) fun _ _ _ => trivial

theorem findTradeOnly_stays (id : Option String) (userId : String) :
    (lane cipher).Stays .idle (await cipher (.findTradeOnly id userId)) :=
  Stays.perform ⟨trivial, fun _ => rfl⟩

theorem resolveConnectionId_stays (userId : String) (preferred : Option String) :
    (lane cipher).Stays .idle (resolveConnectionId cipher userId preferred) := by
  cases preferred with
  | none => exact (findTradeOnly_stays none userId).bind fun _ => Stays.done _
  | some id =>
    refine (findTradeOnly_stays (some id) userId).bind fun c => ?_
    cases c with
    | some c => exact Stays.done _
    | none => exact (findTradeOnly_stays none userId).bind fun _ => Stays.done _

theorem placeSpot_follows (userId : String) (input : Orders.PlaceOrderInput) :
    (lane cipher).Follows .idle (placeSpot cipher userId input) (Ended cipher) := by
  have found : (lane cipher).Follows .idle (await cipher (.findTrading userId))
      (ends (fun found phase => ∀ row, found = some row →
        phase = .read row.encryptedApiKey) fun _ => True) := by
    refine Follows.perform trivial ?_ fun _ => trivial
    rintro result row rfl
    rfl
  refine Follows.bind found fun found phase isRead => ?_
  refine Follows.orThrow (fun _ => trivial) fun row isFound => ?_
  rw [isRead row isFound]
  exact Follows.bind (embed_follows (decrypt_follows fun apiKey apiSecret =>
    adapterPlaceOrder_follows { input with apiKey := apiKey, apiSecret := apiSecret }))
    fun _ _ _ => trivial

theorem call_follows (request : Request) :
    (lane cipher).Follows .idle (request.call cipher) (Ended cipher) := by
  cases request with
  | connect userId label rawKey rawSecret => exact connect_follows userId label rawKey rawSecret
  | test userId id => exact test_follows userId id
  | remove userId id => exact ⟨trivial, fun reply => by cases reply <;> trivial⟩
  | order input => exact placed_follows input
  | resolved preferred input =>
    refine (resolveConnectionId_stays input.userId preferred).andThen (fun resolved => ?_) trivial
    cases resolved with
    | none => exact trivial
    | some id => exact placed_follows { input with exchangeConnectionId := id }
  | spot userId input => exact placeSpot_follows userId input

/-! ### Steps -/

/-- An active connection holds the key, or a call has taken it up. -/
def Taken (moment : Moment (exchange cipher)) (apiKey : String) : Prop :=
  (∃ row ∈ moment.state.connections, row.isActive ∧
    cipher.decryptSecret row.encryptedApiKey = apiKey) ∨
  ∃ caller, ((lane cipher).phase moment caller).Holds cipher apiKey

/-- No key that is taken has last been seen able to withdraw. -/
def Clean (moment : Moment (exchange cipher)) : Prop :=
  ∀ apiKey, Taken moment apiKey → ¬ moment.state.CanWithdraw apiKey

theorem canWithdraw_check {desk : Desk} {apiKey other : String} {canWithdraw : Bool} :
    (desk.check apiKey canWithdraw).CanWithdraw other ↔
      if apiKey = other then canWithdraw = true else desk.CanWithdraw other := by
  unfold Desk.CanWithdraw Desk.check
  by_cases same : apiKey = other <;> simp [same]

theorem canWithdraw_congr {first second : Desk} {apiKey : String}
    (same : first.checks = second.checks) :
    first.CanWithdraw apiKey ↔ second.CanWithdraw apiKey := by
  unfold Desk.CanWithdraw
  rw [same]

section Rows

variable {desk : Desk} {row : ConnectionRow}

theorem mem_upsertConnection {id userId : String} {new : NewConnection}
    (member : row ∈ (desk.upsertConnection id userId new).connections) :
    row ∈ desk.connections ∨ row.encryptedApiKey = new.encryptedApiKey := by
  unfold Desk.upsertConnection at member
  split at member
  · obtain ⟨old, isOld, rfl⟩ := List.mem_map.mp member
    split
    · exact .inr rfl
    · exact .inl isOld
  · rcases List.mem_append.mp member with old | isNew
    · exact .inl old
    · rw [List.mem_singleton.mp isNew]
      exact .inr rfl

theorem mem_updatePermissions {id : String} {permissionState : BinancePermissionState}
    (member : row ∈ (desk.updatePermissions id permissionState).connections) :
    ∃ old ∈ desk.connections, row.isActive = old.isActive ∧
      row.encryptedApiKey = old.encryptedApiKey := by
  obtain ⟨old, isOld, rfl⟩ := List.mem_map.mp member
  refine ⟨old, isOld, ?_⟩
  split <;> exact ⟨rfl, rfl⟩

theorem mem_deactivate {id userId : String}
    (member : row ∈ (desk.deactivate id userId).connections) (active : row.isActive) :
    row ∈ desk.connections := by
  obtain ⟨old, isOld, rfl⟩ := List.mem_map.mp member
  split at active
  · cases active
  · rwa [if_neg ‹_›]

end Rows

/-- A step leaves the connections alone, or it stores, updates or removes one. -/
theorem connections_after (step : Step (exchange cipher)) :
    step.after.state.connections = step.before.state.connections ∨
    (∃ id userId new, step.op = .upsertConnection userId new ∧
      step.after.state = step.before.state.upsertConnection id userId new) ∨
    (∃ id permissionState,
      step.after.state = step.before.state.updatePermissions id permissionState) ∨
    ∃ id userId, step.after.state = step.before.state.deactivate id userId := by
  obtain ⟨before, caller, op, fate⟩ := step
  cases op with
  | upsertConnection userId new =>
    have isAfter := @Delivery.write_cases Desk String fate.delivery before.state
      (before.state.upsertConnection fate.id userId new) (before.state.upsertedId userId fate.id)
    exact isAfter.symm.imp (congrArg Desk.connections) fun isUpserted =>
      .inl ⟨fate.id, userId, new, rfl, isUpserted⟩
  | updatePermissions id permissionState =>
    by_cases found : ∃ row ∈ before.state.connections, row.id = id
    · have isAfter := @Delivery.write_cases Desk Unit fate before.state
        (before.state.updatePermissions id permissionState) ()
      have isWrite : (perform cipher (.updatePermissions id permissionState) fate before.state).1 =
          (Delivery.write fate before.state (before.state.updatePermissions id permissionState) ()).1 :=
        congrArg Prod.fst (if_pos found)
      rw [← isWrite] at isAfter
      exact isAfter.symm.imp (congrArg Desk.connections) fun isUpdated =>
        .inr (.inl ⟨id, permissionState, isUpdated⟩)
    · exact .inl (congrArg (Desk.connections ∘ Prod.fst) (if_neg found))
  | deactivate id userId =>
    have isAfter := @Delivery.write_cases Desk Unit fate before.state
      (before.state.deactivate id userId) ()
    exact isAfter.symm.imp (congrArg Desk.connections) fun isDeactivated =>
      .inr (.inr ⟨id, userId, isDeactivated⟩)
  | testConnection apiKey apiSecret => cases fate <;> exact .inl rfl
  | _ => exact .inl rfl

theorem taken_of_row {step : Step (exchange cipher)}
    (permitted : Permits cipher ((lane cipher).phase step.before step.caller) step.op)
    {row : ConnectionRow} (member : row ∈ step.after.state.connections) (active : row.isActive) :
    Taken step.before (cipher.decryptSecret row.encryptedApiKey) := by
  rcases connections_after step with
    same | ⟨id, userId, new, isOp, isAfter⟩ | ⟨id, permissionState, isAfter⟩ | ⟨id, userId, isAfter⟩
  · exact .inl ⟨row, same ▸ member, active, rfl⟩
  · rw [isAfter] at member
    rcases mem_upsertConnection member with old | isNew
    · exact .inl ⟨row, old, active, rfl⟩
    · rw [isOp] at permitted
      obtain ⟨apiKey, isAccepted, isStored⟩ := permitted
      refine .inr ⟨step.caller, ?_⟩
      rw [isNew, isStored, cipher.decrypt_encrypt, isAccepted]
      rfl
  · rw [isAfter] at member
    obtain ⟨old, isOld, sameActive, sameKey⟩ := mem_updatePermissions member
    exact .inl ⟨old, isOld, sameActive ▸ active, congrArg cipher.decryptSecret sameKey.symm⟩
  · rw [isAfter] at member
    exact .inl ⟨row, mem_deactivate member active, active, rfl⟩

theorem taken_of_connection {before : Moment (exchange cipher)}
    {connection : Orders.ExchangeConnection} {id userId : String}
    (found : before.state.orders.connections.find? (fun connection =>
      connection.id = id ∧ connection.userId = userId ∧ connection.isActive) = some connection) :
    Taken before (cipher.decryptSecret connection.encryptedApiKey) := by
  have member := List.mem_of_find?_eq_some found
  have chosen := List.find?_some found
  rw [decide_eq_true_eq] at chosen
  rw [before.state.sameConnections] at member
  obtain ⟨row, isRow, rfl⟩ := List.mem_map.mp member
  exact .inl ⟨row, isRow, chosen.2.2, rfl⟩

theorem holds_found {phase : Phase} {id userId apiKey : String}
    {found : Option Orders.ExchangeConnection}
    (holds : (orderNext phase (.findConnection id userId) (.ok found)).Holds cipher apiKey) :
    phase.Holds cipher apiKey ∨ ∃ connection, found = some connection ∧
      cipher.decryptSecret connection.encryptedApiKey = apiKey := by
  cases found with
  | none => exact .inl holds
  | some connection => exact .inr ⟨connection, rfl, holds⟩

theorem holds_trading {phase : Phase} {userId apiKey : String} {found : Option ConnectionRow}
    (holds : (next phase (.findTrading userId) (.ok found)).Holds cipher apiKey) :
    phase.Holds cipher apiKey ∨ ∃ row, found = some row ∧
      cipher.decryptSecret row.encryptedApiKey = apiKey := by
  cases found with
  | none => exact .inl holds
  | some row => exact .inr ⟨row, rfl, holds⟩

theorem taken_of_orderNext {before : Moment (exchange cipher)} {caller : ℕ} {op : Orders.Op}
    {fate : Orders.Fate op} {apiKey : String}
    (holds : (orderNext ((lane cipher).phase before caller) op
      (Orders.perform op (orderFate cipher op fate) before.state.orders).2).Holds cipher apiKey) :
    Taken before apiKey := by
  have stays (held : ((lane cipher).phase before caller).Holds cipher apiKey) :
      Taken before apiKey := .inr ⟨caller, held⟩
  cases op with
  | findConnection id userId =>
    cases fate with
    | answered =>
      rcases holds_found holds with held | ⟨connection, found, isKey⟩
      · exact stays held
      · rw [← isKey]
        exact taken_of_connection found
    | refused message => exact stays holds
    | lost message => exact stays holds
  | decryptSecret encrypted =>
    change (if _ = Phase.read encrypted then Phase.opened (cipher.decryptSecret encrypted)
      else (lane cipher).phase before caller).Holds cipher apiKey at holds
    split at holds
    · rename_i isRead
      refine stays ?_
      rw [isRead]
      exact holds
    · exact stays holds
  | placeRemoteOrder request => exact holds.elim
  | _ => exact stays holds

theorem taken_of_next {step : Step (exchange cipher)} {apiKey : String}
    (holds : ((lane cipher).next ((lane cipher).phase step.before step.caller) step.op
      step.reply).Holds cipher apiKey) :
    Taken step.before apiKey ∨ ¬ step.after.state.CanWithdraw apiKey := by
  obtain ⟨before, caller, op, fate⟩ := step
  have stays (held : ((lane cipher).phase before caller).Holds cipher apiKey) :
      Taken before apiKey := .inr ⟨caller, held⟩
  cases op with
  | testConnection other apiSecret =>
    cases fate with
    | ok account =>
      change (checked other account).Holds cipher apiKey at holds
      unfold checked at holds
      split at holds
      · rename_i accepted
        have isKey : other = apiKey := holds
        refine .inr fun canWithdraw => ?_
        have seen := canWithdraw_check.mp canWithdraw
        rw [if_pos isKey] at seen
        simp [seen] at accepted
      · exact holds.elim
    | error message => exact .inl (stays holds)
  | findTrading userId =>
    cases fate with
    | answered =>
      rcases holds_trading holds with held | ⟨row, found, isKey⟩
      · exact .inl (stays held)
      · have chosen := List.find?_some found
        rw [decide_eq_true_eq] at chosen
        exact .inl (.inl ⟨row, List.mem_of_find?_eq_some found, chosen.2.1, isKey⟩)
    | refused message => exact .inl (stays holds)
    | lost message => exact .inl (stays holds)
  | order op => exact .inl (taken_of_orderNext holds)
  | upsertConnection userId new => exact holds.elim
  | updatePermissions id permissionState => exact holds.elim
  | _ => exact .inl (stays holds)

theorem taken_after {step : Step (exchange cipher)}
    (permitted : Permits cipher ((lane cipher).phase step.before step.caller) step.op)
    {apiKey : String} (taken : Taken step.after apiKey) :
    Taken step.before apiKey ∨ ¬ step.after.state.CanWithdraw apiKey := by
  rcases taken with ⟨row, member, active, isKey⟩ | ⟨caller, holds⟩
  · rw [← isKey]
    exact .inl (taken_of_row permitted member active)
  · by_cases same : caller = step.caller
    · rw [same, phase_after_self] at holds
      exact taken_of_next holds
    · rw [phase_after_other step same] at holds
      exact .inl (.inr ⟨caller, holds⟩)

theorem checks_upsertConnection {desk : Desk} {id userId : String} {new : NewConnection} :
    (desk.upsertConnection id userId new).checks = desk.checks := by
  unfold Desk.upsertConnection
  split <;> rfl

theorem canWithdraw_after {step : Step (exchange cipher)} {apiKey : String}
    (canWithdraw : step.after.state.CanWithdraw apiKey) :
    step.before.state.CanWithdraw apiKey ∨ ∃ before caller apiSecret account,
      step = ⟨before, caller, .testConnection apiKey apiSecret, .ok account⟩ ∧
        inferBinanceApiKeyCanWithdraw account := by
  obtain ⟨before, caller, op, fate⟩ := step
  have unseen (same : (perform cipher op fate before.state).1.checks = before.state.checks) :
      before.state.CanWithdraw apiKey :=
    (canWithdraw_congr same).mp canWithdraw
  cases op with
  | testConnection other apiSecret =>
    cases fate with
    | error message => exact .inl canWithdraw
    | ok account =>
      have seen := canWithdraw_check.mp canWithdraw
      split at seen
      · rename_i same
        subst same
        exact .inr ⟨before, caller, apiSecret, account, rfl, seen⟩
      · exact .inl seen
  | upsertConnection userId new =>
    refine .inl (unseen ?_)
    show (Delivery.write fate.delivery before.state _ _).1.checks = _
    exact Delivery.write_same checks_upsertConnection
  | updatePermissions id permissionState =>
    refine .inl (unseen ?_)
    show (if _ then Delivery.write fate _ _ () else _ : Desk × Except String Unit).1.checks = _
    split
    · exact Delivery.write_same rfl
    · rfl
  | deactivate id userId =>
    refine .inl (unseen ?_)
    show (Delivery.write fate before.state _ _).1.checks = _
    exact Delivery.write_same rfl
  | _ => exact .inl canWithdraw

theorem not_taken_of_guarded {step : Step (exchange cipher)} (guarded : Guarded step)
    {before : Moment (exchange cipher)} {caller : ℕ} {apiKey apiSecret : String}
    {account : Option BinanceAccount}
    (isCheck : step = ⟨before, caller, .testConnection apiKey apiSecret, .ok account⟩)
    (canWithdraw : inferBinanceApiKeyCanWithdraw account) : ¬ Taken step.after apiKey := by
  have isIdle : (lane cipher).phase step.after step.caller = .idle := by
    rw [phase_after_self]
    subst isCheck
    exact if_neg fun accepted => by simp [canWithdraw] at accepted
  subst isCheck
  obtain ⟨unstored, others⟩ := guarded canWithdraw
  rintro (⟨row, member, active, isKey⟩ | ⟨other, holds⟩)
  · exact unstored row member active isKey
  · by_cases same : other = caller
    · rw [same] at holds
      have holdsIdle : Phase.idle.Holds cipher apiKey := isIdle ▸ holds
      exact holdsIdle
    · rw [phase_after_other _ same] at holds
      exact others.apply (fun impossible => impossible) same holds

section

variable {step : Step (exchange cipher)}
  (permitted : Permits cipher ((lane cipher).phase step.before step.caller) step.op)
include permitted

theorem clean_step (guarded : Guarded step) (clean : Clean step.before) : Clean step.after := by
  intro apiKey taken canWithdraw
  rcases canWithdraw_after canWithdraw with
    seen | ⟨before, caller, apiSecret, account, isCheck, sees⟩
  · rcases taken_after permitted taken with earlier | unseen
    · exact clean apiKey earlier seen
    · exact unseen canWithdraw
  · exact not_taken_of_guarded guarded isCheck sees taken

/-- Where the taken keys are clean, an order is placed with none that can withdraw. -/
theorem sound_step (clean : Clean step.before) : Sound step := by
  obtain ⟨before, caller, op, fate⟩ := step
  cases op with
  | order op =>
    cases op with
    | placeRemoteOrder request =>
      refine clean request.apiKey (.inr ⟨caller, ?_⟩)
      rw [show (lane cipher).phase before caller = .opened request.apiKey from permitted]
      rfl
    | _ => trivial
  | _ => trivial

end

/-! ### Runs -/

/-- Tables before any check. -/
structure Start where
  orders : Orders.Desk
  connections : List ConnectionRow
  sameConnections : orders.connections = connections.map ConnectionRow.toExchangeConnection

variable (cipher) in
def exchangeSystem (start : Start) (requests : List Request) :
    System (exchange cipher) Response :=
  ⟨⟨⟨start.orders, start.connections, [], start.sameConnections⟩, []⟩,
    requests.map (Request.call cipher)⟩

theorem permits_of_mem_steps (start : Start) (requests : List Request)
    (turns : List (Turn (exchange cipher))) :
    ∀ step ∈ (exchangeSystem cipher start requests).steps turns,
      (lane cipher).permits ((lane cipher).phase step.before step.caller) step.op :=
  permitted (System.each_call fun _ request => call_follows request) turns

/-- Where no key has been checked, none has been seen able to withdraw. -/
theorem clean_start (start : Start) (requests : List Request) :
    Clean (exchangeSystem cipher start requests).moment := by
  rintro apiKey - ⟨check, found, -⟩
  cases found

theorem sound_of_guarded_run {start : Start} {requests : List Request}
    {turns : List (Turn (exchange cipher))}
    (guarded : ∀ step ∈ (exchangeSystem cipher start requests).steps turns, Guarded step) :
    ∀ step ∈ (exchangeSystem cipher start requests).steps turns, Sound step := by
  have permits := permits_of_mem_steps start requests turns
  refine (@System.run_keeps (exchange cipher) Response Clean
    (fun step => Permits cipher ((lane cipher).phase step.before step.caller) step.op ∧
      Guarded step) Sound
    (fun step clean ok => ⟨sound_step ok.1 clean, clean_step ok.1 ok.2 clean⟩)
    _ (clean_start start requests) turns
    fun step member => ⟨permits step member, guarded step member⟩).2

/-- In a run in which no check sees the permission on a key that an active connection holds, or
that another call has taken up, no order is placed with a key whose last check has seen it. -/
theorem tradeOnly_of_guarded (cipher : Cipher) (start : Start) (requests : List Request)
    (turns : List (Turn (exchange cipher)))
    (guarded : ∀ step ∈ (exchangeSystem cipher start requests).steps turns, Guarded step) :
    ∀ step ∈ (exchangeSystem cipher start requests).steps turns, Sound step :=
  sound_of_guarded_run guarded

/-! ### A key that got the permission -/

/-- Secrets as they are. -/
def plain : Cipher := ⟨id, id, fun _ => rfl⟩

def aliceRow : ConnectionRow where
  toExchangeConnection := Orders.aliceConnection
  label := none
  canRead := true
  canWithdraw := false

def aliceStart : Start := ⟨Orders.aliceDesk, [aliceRow], rfl⟩

/-- An environment in which the exchange reports these permissions and fills every order. -/
def reporting (permissions : List String) : (op : Op) → Fate op
  | .testConnection _ _ => .ok (some ⟨permissions⟩)
  | .findConnection _ _ => .answered
  | .upsertConnection _ _ => ⟨.answered, "second"⟩
  | .updatePermissions _ _ => .answered
  | .deactivate _ _ => .answered
  | .findTradeOnly _ _ => .answered
  | .findTrading _ => .answered
  | .order op =>
    Orders.Outlook.fate { placed := .accepted ⟨Orders.OrderStatus.filled, "7", none, some 1, some 50000⟩ } op

/-- Alice connects a key that can withdraw, which is refused, and places an order with another. -/
def refusedKeyRun : List (Step (exchange plain)) :=
  (exchangeSystem plain aliceStart
    [.connect "alice" none "other" "secret", .order Orders.aliceBuy]).steps
    (⟨0, reporting ["SPOT", "WITHDRAW"]⟩ :: List.replicate 14 ⟨1, reporting ["SPOT"]⟩)

theorem tradeOnly_refused_key :
    (∃ step ∈ refusedKeyRun, ∃ request, step.op = .order (.placeRemoteOrder request)) ∧
      ∀ step ∈ refusedKeyRun, Sound step := by
  refine ⟨?_, tradeOnly_of_guarded plain aliceStart _ _ (by decide +kernel)⟩
  have placed : (refusedKeyRun.any fun step =>
      match step.op with
      | .order (.placeRemoteOrder _) => true
      | _ => false) = true := by decide +kernel
  obtain ⟨step, member, isOrder⟩ := List.any_eq_true.mp placed
  refine ⟨step, member, ?_⟩
  split at isOrder
  · exact ⟨_, by assumption⟩
  · cases isOrder

/-- The check of a stored key sees the permission, and the order that follows is placed. -/
theorem not_tradeOnly :
    ¬ ∀ (cipher : Cipher) (start : Start) (requests : List Request)
      (turns : List (Turn (exchange cipher))),
      ∀ step ∈ (exchangeSystem cipher start requests).steps turns, Sound step := by
  intro claimed
  have sound := claimed plain aliceStart [.test "alice" "binance", .order Orders.aliceBuy]
    (List.replicate 2 ⟨0, reporting ["SPOT", "WITHDRAW"]⟩ ++
      List.replicate 14 ⟨1, reporting ["SPOT"]⟩)
  exact absurd sound (by decide +kernel)

end GdslExchange.Exchange
