/-
This file settles when every transaction of a call that lands is logged and reported once: when it
is confirmed to the call, and its event is stored.
-/

import GdslExchange.Async.Protocol
import GdslExchange.JupiterPrediction.Orders

namespace GdslExchange.JupiterPrediction

open Async Async.Program
open Protocol (Follows Stays ends phase_after_self sound)

/-! ### How far a call is -/

/-- Nothing has been confirmed to a call, or a transaction has been, or its event has been handed
on. -/
inductive Phase where
  | working
  | heard (signature : String)
  | noted (signature : String)

/-- The signature that an answer confirms. -/
def confirms (op : Op) (reply : Except Failure (Result op)) : Option String :=
  match op, reply with
  | .confirmTransaction _ signature _ _, .ok none => some signature
  | .getSignatureStatus _ signature, .ok .confirmed => some signature
  | _, _ => none

def nextPhase (phase : Phase) (op : Op) (reply : Except Failure (Result op)) : Phase :=
  match phase with
  | .working => match confirms op reply with
    | some signature => .heard signature
    | none => .working
  | .heard signature => .noted signature
  | .noted signature => .noted signature

/-- An event is stored of what has been confirmed, and nothing else is done then. -/
def Permits (phase : Phase) (op : Op) : Prop :=
  match phase with
  | .working => ∀ event, op ≠ .createEvent event
  | .heard signature => ∃ event, op = .createEvent event ∧ event.txSignature = signature
  | .noted _ => False

/-- How a call goes about its transactions. -/
def reporting : Protocol venue Phase where
  start := .working
  permits := Permits
  next := nextPhase

/-- An operation that neither confirms anything nor stores an event. -/
def Preliminary : Op → Prop
  | .confirmTransaction _ _ _ _ => False
  | .getSignatureStatus _ _ => False
  | .createEvent _ => False
  | _ => True

theorem neutral_of_preliminary {op : Op} (preliminary : Preliminary op) :
    reporting.Neutral .working op := by
  cases op with
  | confirmTransaction url signature blockhash height => exact preliminary.elim
  | getSignatureStatus url signature => exact preliminary.elim
  | createEvent event => exact preliminary.elim
  | _ => exact ⟨fun event => nofun, fun reply => rfl⟩

/-- A call that has not been told of a confirmation, and may still be. -/
abbrev Confirming {Value : Type} (program : Call Value) (signatureOf : Value → String) : Prop :=
  reporting.Follows .working program
    (ends (fun value reached => reached = .heard (signatureOf value))
      fun reached => reached = .working)

theorem stays_await {op : Op} (preliminary : Preliminary op) :
    reporting.Stays .working (await op) := .perform (neutral_of_preliminary preliminary)

theorem stays_refuse {Value : Type} (message : String) :
    reporting.Stays .working (refuse message : Call Value) := rfl

theorem stays_ofExcept {Value : Type} (value : Except Failure Value) :
    reporting.Stays .working (ofExcept value : Call Value) := by
  cases value <;> rfl

/-! ### Sending -/

section Sending

theorem confirming_confirm (url signature blockhash : String) (height : ℕ) :
    Confirming (confirm url signature blockhash height) fun _ => signature := by
  refine Follows.moves (fun err => if err = none then .heard signature else .working)
    (fun event => nofun) (fun err => ?_) (fun _ => rfl) fun err => ?_
  · cases err <;> rfl
  cases err <;> rfl

theorem confirming_pollStatus (url signature : String) (pauses : ℕ) :
    Confirming (pollStatus url signature pauses) fun _ => signature := by
  induction pauses with
  | zero => exact rfl
  | succ pauses inductionHypothesis =>
    refine (stays_await (by trivial)).andThen (fun time => ?_) rfl
    split
    · exact rfl
    refine Follows.moves (fun status => if status = .confirmed then .heard signature else .working)
      (fun event => nofun) (fun status => ?_) (fun _ => rfl) fun status => ?_
    · cases status <;> rfl
    cases status with
    | pending => exact inductionHypothesis
    | confirmed => exact rfl
    | failed reason => exact rfl

theorem confirming_sendAndConfirm (signed : SignedTransaction) (txMeta : Option PredictionTxMeta)
    (url : String) : Confirming (sendAndConfirm signed txMeta url) id := by
  have sends : reporting.Stays .working (sendTwice url signed.signature) := by
    refine (stays_await (by trivial)).recover fun failure => ?_
    cases failure with
    | error message => exact stays_await (by trivial)
    | timeout url => exact rfl
  refine sends.andThen (fun signature => ?_) rfl
  have waits : Confirming
      (waitForSignatureConfirmation url signature txMeta signed.recentBlockhash)
      fun _ => signature := by
    unfold waitForSignatureConfirmation
    dsimp only
    split
    · split
      · exact confirming_confirm _ _ _ _
      · exact confirming_pollStatus _ _ _
    · exact confirming_pollStatus _ _ _
  exact waits.bind fun _ reached isHeard => isHeard

variable {Value : Type} {fn : String → Call Value} {signatureOf : Value → String}

theorem confirming_withEndpoint (confirming : ∀ url, Confirming (fn url) signatureOf) (url : String)
    (isLast : Bool) (backoffs : List ℕ) :
    Confirming (withEndpoint fn url isLast backoffs) signatureOf := by
  induction backoffs with
  | nil => exact confirming url
  | cons backoff rest inductionHypothesis =>
    refine (confirming url).recover ?_
    rintro failure _ rfl
    split
    · exact inductionHypothesis
    · exact rfl

theorem confirming_withEndpoints (confirming : ∀ url, Confirming (fn url) signatureOf)
    (last : Option PoolEntry) (entries : List PoolEntry) (lastErr : Failure) :
    Confirming (withEndpoints fn last entries lastErr) signatureOf := by
  induction entries generalizing lastErr with
  | nil => exact rfl
  | cons entry rest inductionHypothesis =>
    refine (confirming_withEndpoint confirming _ _ _).recover ?_
    rintro failure _ rfl
    exact inductionHypothesis failure

theorem confirming_signAndSend (settings : Settings) (transaction : String)
    (txMeta : Option PredictionTxMeta) :
    Confirming (signAndSend settings transaction txMeta) id := by
  have funded : reporting.Stays .working ensureSolForPredictTx := by
    refine (stays_await (by trivial)).bind fun sol => ?_
    split
    · exact rfl
    · exact stays_refuse _
  refine funded.andThen (fun _ => ?_) rfl
  refine (stays_await (by trivial)).andThen (fun ownerPubkey => ?_) rfl
  refine (stays_ofExcept _).andThen (fun signed => ?_) rfl
  refine (stays_await (by trivial)).andThen (fun pool => ?_) rfl
  exact confirming_withEndpoints (confirming_sendAndConfirm signed txMeta) _ _ _

end Sending

/-! ### Calls -/

section Calls

variable {settings : Settings} {userId : String}

/-- A call that returns the signature that has been confirmed to it and whose event it has handed
on, or throws where nothing has been confirmed to it. -/
abbrev Reporting (program : Call Placed) : Prop :=
  reporting.Follows .working program
    (ends (fun placed reached => reached = .noted placed.txSignature)
      fun reached => reached = .working)

theorem stays_predictionFetch (request : TxRequest) :
    reporting.Stays .working (predictionFetch settings request) := by
  unfold predictionFetch
  split
  · exact (stays_await (by trivial)).bind fun response => stays_ofExcept _
  · exact stays_refuse _

theorem stays_extract (body : PredictionTxResponse) :
    reporting.Stays .working (extractPredictionTransaction body) := by
  unfold extractPredictionTransaction
  dsimp only
  split
  · exact stays_refuse _
  · exact rfl

theorem stays_assertWalletEnabled : reporting.Stays .working (assertWalletEnabled settings) := by
  unfold assertWalletEnabled
  split
  · exact rfl
  · exact stays_refuse _

theorem stays_ownerOf : reporting.Stays .working ownerOf :=
  (stays_await (by trivial)).bind fun _ => stays_await (by trivial)

/-- The event of what has been confirmed is handed on, whether or not it can be stored. -/
theorem follows_logPredictEvent (event : PredictEvent) :
    reporting.Follows (.heard event.txSignature) (logPredictEvent event)
      (ends (fun _ reached => reached = .noted event.txSignature)
        fun reached => reached = .working) := by
  have created : reporting.Follows (.heard event.txSignature) (await (.createEvent event))
      (ends (fun _ reached => reached = .noted event.txSignature)
        fun reached => reached = .noted event.txSignature) :=
    Follows.perform ⟨event, rfl, rfl⟩ (fun _ => rfl) fun _ => rfl
  exact created.recover fun failure reached isNoted => isNoted

theorem reporting_transaction {request : TxRequest} {event : PredictionTxResponse → String →
    PredictEvent} {placed : PredictionTxResponse → String → Placed}
    (isLogged : ∀ body signature, (event body signature).txSignature = signature)
    (isPlaced : ∀ body signature, (placed body signature).txSignature = signature) :
    Reporting (do
      let body ← predictionFetch settings request
      let (transaction, txMeta) ← extractPredictionTransaction body
      let txSignature ← signAndSend settings transaction txMeta
      logPredictEvent (event body txSignature)
      pure (placed body txSignature)) := by
  refine (stays_predictionFetch request).andThen (fun body => ?_) rfl
  refine (stays_extract body).andThen (fun extracted => ?_) rfl
  refine (confirming_signAndSend settings extracted.1 extracted.2).bind ?_
  rintro signature _ rfl
  have logged := follows_logPredictEvent (event body signature)
  rw [isLogged] at logged
  refine logged.bind ?_
  rintro _ _ rfl
  exact congrArg Phase.noted (isPlaced body signature).symm

theorem reporting_buy (input : BuyInput) :
    Reporting (buyJupiterPrediction settings userId input) := by
  refine stays_assertWalletEnabled.andThen (fun _ => ?_) rfl
  have amount : reporting.Stays .working (assertAmount input.amountUsd) := by
    unfold assertAmount
    split
    · exact stays_refuse _
    · exact rfl
  refine amount.andThen (fun _ => ?_) rfl
  refine stays_ownerOf.andThen (fun ownerPubkey => ?_) rfl
  exact reporting_transaction (fun _ _ => rfl) fun _ _ => rfl

theorem reporting_closeSteps {attempt : ℕ → Call Placed}
    (attempts : ∀ slippage, Reporting (attempt slippage)) (slippages : List ℕ)
    (lastErr : Failure) : Reporting (closeSteps attempt slippages lastErr) := by
  induction slippages generalizing lastErr with
  | nil => exact rfl
  | cons slippage rest inductionHypothesis =>
    refine (attempts slippage).recover ?_
    rintro failure _ rfl
    split
    · exact inductionHypothesis failure
    · exact rfl

theorem reporting_close (positionPubkey : String) (opts : CloseOptions) :
    Reporting (closeJupiterPredictionPosition settings userId positionPubkey opts) := by
  refine stays_assertWalletEnabled.andThen (fun _ => ?_) rfl
  refine stays_ownerOf.andThen (fun ownerPubkey => ?_) rfl
  have snapshots : reporting.Stays .working
      (snapshot settings positionPubkey opts.logMeta) := by
    unfold snapshot
    split
    · exact rfl
    · refine Stays.recover (Stays.bind ?_ fun _ => rfl) fun _ => rfl
      refine stays_assertWalletEnabled.bind fun _ => ?_
      refine stays_ownerOf.bind fun _ => ?_
      split
      · exact (stays_await (by trivial)).bind fun response => stays_ofExcept _
      · exact stays_refuse _
  refine snapshots.andThen (fun logMeta => ?_) rfl
  exact reporting_closeSteps (fun slippage =>
    reporting_transaction (fun _ _ => rfl) fun _ _ => rfl) _ _

theorem reporting_claim (positionPubkey : String) :
    Reporting (claimJupiterPredictionPosition settings userId positionPubkey) := by
  refine stays_assertWalletEnabled.andThen (fun _ => ?_) rfl
  refine stays_ownerOf.andThen (fun ownerPubkey => ?_) rfl
  have claims : Reporting (claim settings userId ownerPubkey positionPubkey) :=
    reporting_transaction (fun _ _ => rfl) fun _ _ => rfl
  refine claims.recover ?_
  rintro failure _ rfl
  split
  · refine (reporting_close positionPubkey ⟨none, none⟩).bind ?_
    rintro sold _ rfl
    exact rfl
  · exact rfl

theorem reporting_call (request : Request) : Reporting (request.call settings userId) := by
  cases request with
  | buy input => exact reporting_buy input
  | close positionPubkey opts => exact reporting_close positionPubkey opts
  | claim positionPubkey => exact reporting_claim positionPubkey

end Calls

/-! ### What a call should see to -/

/-- The signature of a transaction that a sending lands. -/
def landsBy (event : Event venue) : Option String :=
  match event with
  | ⟨_, .sendRawTransaction _ _ signature, sending, _⟩ =>
    if sending.lands then some signature else none
  | _ => none

/-- The signature that an answer of the run confirms. -/
def confirmedBy (event : Event venue) : Option String := confirms event.op event.reply

def Unrecorded (event : Event venue) : Prop :=
  match event with
  | ⟨_, .createEvent _, delivery, _⟩ => ¬ delivery.Applies
  | _ => False

/-- Every transaction that has landed is logged once, at most one has, and a failure is reported
only where none has. -/
structure Reported (desk : Desk) (outcome : Except Failure Placed) : Prop where
  loggedOnce : ∀ signature ∈ desk.landed,
    desk.events.countP (fun event => event.txSignature = signature) = 1
  onlyOne : desk.landed.length ≤ 1
  noFailure : ∀ failure, outcome = .error failure → desk.landed = []

/-- Every transaction that lands is confirmed to the call, and what it logs is stored. -/
structure Heard (log : List (Event venue)) : Prop where
  confirmed : ∀ event ∈ log, ∀ signature ∈ landsBy event,
    ∃ other ∈ log, confirmedBy other = some signature
  recorded : ∀ event ∈ log, ¬ Unrecorded event

/-- How the call of a run has ended, if it has. -/
def endOf (system : System venue Placed) : Option (Except Failure Placed) :=
  system.calls[0]?.bind Program.result?

/-- The call of a run has reported its transactions, if it has ended. -/
def Faithful (system : System venue Placed) : Prop :=
  ∀ outcome ∈ endOf system, Reported system.moment.state outcome

/-- The call of a run has been told of its transactions, if it has ended. -/
def WellInformed (system : System venue Placed) : Prop :=
  (endOf system).isSome → Heard system.moment.log

def predictionSystem (settings : Settings) (userId : String) (request : Request) :
    System venue Placed :=
  System.solo ⟨[], []⟩ (request.call settings userId)

/-! ### What each phase knows -/

/-- Nothing has been logged, and nothing could not be stored. -/
structure Unlogged (moment : Moment venue) : Prop where
  noEvents : moment.state.events = []
  nothingLost : ∀ event ∈ moment.log, ¬ Unrecorded event

/-- One transaction has been confirmed, and no other. -/
structure ConfirmedOnly (moment : Moment venue) (signature : String) : Prop where
  landed : signature ∈ moment.state.landed
  isConfirmed : ∃ event ∈ moment.log, confirmedBy event = some signature
  noOther : ∀ event ∈ moment.log, ∀ other ∈ confirmedBy event, other = signature

/-- The event of a transaction has been stored, or it could not be. -/
def Logged (moment : Moment venue) (signature : String) : Prop :=
  (∃ event : PredictEvent, event.txSignature = signature ∧ moment.state.events = [event] ∧
    ∀ event ∈ moment.log, ¬ Unrecorded event) ∨
  moment.state.events = [] ∧ ∃ event ∈ moment.log, Unrecorded event

/-- What the desk looks like in each phase. -/
def Tracked (moment : Moment venue) : Phase → Prop
  | .working => Unlogged moment ∧ ∀ event ∈ moment.log, confirmedBy event = none
  | .heard signature => Unlogged moment ∧ ConfirmedOnly moment signature
  | .noted signature => Logged moment signature ∧ ConfirmedOnly moment signature

/-- What has landed is what the sendings have landed. -/
structure Landings (moment : Moment venue) : Prop where
  once : moment.state.landed.Nodup
  landed_iff : ∀ signature, signature ∈ moment.state.landed ↔
    ∃ event ∈ moment.log, landsBy event = some signature

/-! ### Steps -/

section Steps

theorem mem_land (signature other : String) (desk : Desk) :
    other ∈ (desk.land signature).landed ↔ other = signature ∨ other ∈ desk.landed := by
  unfold Desk.land
  split
  · next landed => exact ⟨.inr, fun either => either.elim (fun same => same ▸ landed) id⟩
  · simp [or_comm]

variable {desk : Desk}

theorem nodup_land (signature : String) (once : desk.landed.Nodup) :
    (desk.land signature).landed.Nodup := by
  unfold Desk.land
  split
  · exact once
  · next fresh =>
    exact List.nodup_append.mpr ⟨once, List.nodup_singleton _, fun member isMember other isOther =>
      by rintro rfl; exact fresh (List.mem_singleton.mp isOther ▸ isMember)⟩

variable {step : Step venue}

theorem Landings.of_same (landings : Landings step.before)
    (same : step.after.state.landed = step.before.state.landed)
    (noSending : landsBy step.event = none) : Landings step.after := by
  refine ⟨same ▸ landings.once, fun signature => ?_⟩
  rw [same, landings.landed_iff, show step.after.log = step.event :: step.before.log from rfl,
    List.exists_mem_cons_iff, noSending]
  simp

theorem landings_step (landings : Landings step.before) :
    Landings step.after := by
  obtain ⟨before, caller, op, fate⟩ := step
  cases op with
  | sendRawTransaction url skipPreflight signature =>
    cases lands : fate.lands with
    | false =>
      refine landings.of_same ?_ ?_
      · show (if fate.lands then _ else before.state).landed = _
        rw [lands]
        rfl
      · show (if fate.lands then _ else none) = none
        rw [lands]
        rfl
    | true =>
      have isLanded : (Step.after ⟨before, caller, .sendRawTransaction url skipPreflight signature,
          fate⟩).state = before.state.land signature := if_pos lands
      have isSending : landsBy (Step.event ⟨before, caller,
          .sendRawTransaction url skipPreflight signature, fate⟩) = some signature := if_pos lands
      refine ⟨?_, fun other => ?_⟩
      · rw [isLanded]
        exact nodup_land signature landings.once
      · rw [isLanded, mem_land, landings.landed_iff]
        show _ ↔ ∃ event ∈ _ :: _, _
        rw [List.exists_mem_cons_iff, isSending, Option.some.injEq, eq_comm]
  | createEvent event =>
    refine landings.of_same ?_ rfl
    exact @Delivery.write_same _ _ _ Desk.landed fate before.state (before.state.record event) ()
      rfl
  | _ => exact landings.of_same rfl rfl

/-- A step of the preliminaries leaves nothing logged, lost or confirmed. -/
theorem tracked_working (same : step.after.state.events = step.before.state.events)
    (notLost : ¬ Unrecorded step.event) (notConfirmed : confirmedBy step.event = none)
    (tracked : Tracked step.before .working) :
    Tracked step.after .working := by
  obtain ⟨⟨noEvents, nothingLost⟩, noneConfirmed⟩ := tracked
  exact ⟨⟨same.trans noEvents, List.forall_mem_cons.mpr ⟨notLost, nothingLost⟩⟩,
    List.forall_mem_cons.mpr ⟨notConfirmed, noneConfirmed⟩⟩

/-- The first confirmation. -/
theorem tracked_heard {signature : String} (same : step.after.state = step.before.state)
    (notLost : ¬ Unrecorded step.event) (isConfirmed : confirmedBy step.event = some signature)
    (landed : signature ∈ step.before.state.landed) (tracked : Tracked step.before .working) :
    Tracked step.after (.heard signature) := by
  obtain ⟨⟨noEvents, nothingLost⟩, noneConfirmed⟩ := tracked
  refine ⟨⟨same ▸ noEvents, List.forall_mem_cons.mpr ⟨notLost, nothingLost⟩⟩, same ▸ landed,
    ⟨_, List.mem_cons_self, isConfirmed⟩, List.forall_mem_cons.mpr ⟨?_, ?_⟩⟩
  · intro other isOther
    exact (Option.some.inj (isConfirmed.symm.trans isOther)).symm
  · intro event member other isOther
    rw [noneConfirmed event member] at isOther
    cases isOther

theorem tracked_noted {before : Moment venue} {caller : ℕ} {event : PredictEvent}
    {delivery : Delivery} (tracked : Tracked before (.heard event.txSignature)) :
    Tracked (Step.after ⟨before, caller, .createEvent event, delivery⟩)
      (.noted event.txSignature) := by
  obtain ⟨⟨noEvents, nothingLost⟩, landed, ⟨confirmer, member, isConfirmed⟩, noOther⟩ := tracked
  refine ⟨?_, ?_, ⟨confirmer, List.mem_cons_of_mem _ member, isConfirmed⟩,
    List.forall_mem_cons.mpr ⟨fun other isOther => (by cases isOther), noOther⟩⟩
  · by_cases applies : delivery.Applies
    · have stored : (Step.after ⟨before, caller, .createEvent event, delivery⟩).state =
          before.state.record event := if_pos applies
      refine .inl ⟨event, rfl, ?_, List.forall_mem_cons.mpr ⟨not_not.mpr applies, nothingLost⟩⟩
      rw [stored]
      exact congrArg (· ++ [event]) noEvents
    · have same : (Step.after ⟨before, caller, .createEvent event, delivery⟩).state =
          before.state := if_neg applies
      exact .inr ⟨same ▸ noEvents, _, List.mem_cons_self, applies⟩
  · exact (@Delivery.write_same _ _ _ Desk.landed delivery before.state
      (before.state.record event) () rfl) ▸ landed

/-- A confirmation that is heard is that of a transaction that has landed. -/
theorem landed_of_confirms {op : Op} {fate : Fate op} {signature : String}
    (isConfirmed : confirms op (perform op fate desk).2 = some signature) :
    signature ∈ desk.landed ∧ (perform op fate desk).1 = desk := by
  cases op with
  | confirmTransaction url asked blockhash height =>
    by_cases landed : asked ∈ desk.landed
    · cases fate with
      | answered =>
        simp only [perform, confirmation, landed, confirms] at isConfirmed
        exact ⟨Option.some.inj isConfirmed ▸ landed, rfl⟩
      | unseen => cases isConfirmed
      | failed message => cases isConfirmed
      | late => cases isConfirmed
    · cases fate with
      | answered =>
        simp [perform, confirmation, landed, confirms] at isConfirmed
      | unseen => cases isConfirmed
      | failed message => cases isConfirmed
      | late => cases isConfirmed
  | getSignatureStatus url asked =>
    by_cases landed : asked ∈ desk.landed
    · cases fate with
      | answered =>
        simp only [perform, statusOf, landed, confirms] at isConfirmed
        exact ⟨Option.some.inj isConfirmed ▸ landed, rfl⟩
      | unseen => cases isConfirmed
      | failed message => cases isConfirmed
      | late => cases isConfirmed
    · cases fate with
      | answered =>
        simp [perform, statusOf, landed, confirms] at isConfirmed
      | unseen => cases isConfirmed
      | failed message => cases isConfirmed
      | late => cases isConfirmed
  | _ => cases isConfirmed

theorem events_perform {op : Op} {fate : Fate op} (noEvent : ∀ event, op ≠ .createEvent event) :
    (perform op fate desk).1.events = desk.events := by
  cases op with
  | createEvent event => exact absurd rfl (noEvent event)
  | sendRawTransaction url skipPreflight signature =>
    show (if fate.lands then desk.land signature else desk).events = _
    unfold Desk.land
    split
    · split <;> rfl
    · rfl
  | _ => rfl

theorem not_unrecorded (noEvent : ∀ event, step.op ≠ .createEvent event) :
    ¬ Unrecorded step.event := by
  obtain ⟨before, caller, op, fate⟩ := step
  cases op with
  | createEvent event => exact absurd rfl (noEvent event)
  | _ => exact not_false

/-- Every step that a call may take keeps track of what it has been told. -/
theorem tracked_step {phase : Phase} (permitted : Permits phase step.op)
    (tracked : Tracked step.before phase) :
    Tracked step.after (nextPhase phase step.op step.reply) := by
  cases phase with
  | noted signature => exact permitted.elim
  | heard signature =>
    obtain ⟨before, caller, op, fate⟩ := step
    obtain ⟨event, rfl, rfl⟩ := permitted
    exact tracked_noted tracked
  | working =>
    have noEvent : ∀ event, step.op ≠ .createEvent event := permitted
    unfold nextPhase
    cases isConfirmed : confirms step.op step.reply with
    | none =>
      exact tracked_working (events_perform noEvent) (not_unrecorded noEvent) isConfirmed tracked
    | some signature =>
      obtain ⟨landed, same⟩ := landed_of_confirms isConfirmed
      exact tracked_heard same (not_unrecorded noEvent) isConfirmed landed tracked

end Steps

/-- What is kept track of in the run of a call. -/
def Known (moment : Moment venue) : Prop :=
  Tracked moment (reporting.phase moment 0) ∧ Landings moment

theorem known_keeps : reporting.Keeps (fun step => step.caller = 0) Known := by
  intro step permitted isCaller known
  have next : reporting.phase step.after 0 =
      nextPhase (reporting.phase step.before 0) step.op step.reply := by
    rw [← isCaller]
    exact phase_after_self step
  rw [isCaller] at permitted
  refine ⟨?_, landings_step known.2⟩
  rw [next]
  exact tracked_step permitted known.1

/-! ### The call -/

section Run

variable {settings : Settings} {userId : String} {request : Request} {turns : List (Turn venue)}

/-- Where a call ends. -/
def Phase.last : Except Failure Placed → Phase
  | .ok placed => .noted placed.txSignature
  | .error _ => .working

theorem known_start : Known ⟨⟨[], []⟩, []⟩ := by
  have nothing {property : Event venue → Prop} : ∀ event ∈ ([] : List (Event venue)),
      property event := fun event member => (List.not_mem_nil member).elim
  refine ⟨⟨⟨rfl, nothing⟩, nothing⟩, List.nodup_nil, fun signature => ?_⟩
  exact iff_of_false List.not_mem_nil fun ⟨event, member, _⟩ => List.not_mem_nil member

theorem known_run {outcome : Except Failure Placed}
    (ended : endOf ((predictionSystem settings userId request).run turns) = some outcome) :
    Landings ((predictionSystem settings userId request).run turns).moment ∧
      Tracked ((predictionSystem settings userId request).run turns).moment
        (Phase.last outcome) := by
  set system := predictionSystem settings userId request
  have start : Known system.moment := known_start
  have follows : ∀ caller program, system.calls[caller]? = some program →
      reporting.Follows (reporting.phase system.moment caller) program
        (ends (fun placed reached => reached = .noted placed.txSignature)
          fun reached => reached = .working) := by
    intro caller program found
    rw [List.mem_singleton.mp (List.mem_of_getElem? found)]
    exact reporting_call request
  have alone : ∀ step ∈ system.steps turns, step.caller = 0 := fun step member =>
    Nat.lt_one_iff.mp (System.caller_lt_of_mem_steps member)
  have holds := (sound known_keeps start follows turns alone).1
  obtain ⟨tracked, landings⟩ := holds.invariant
  have isPhase := holds.ended ended
  refine ⟨landings, ?_⟩
  cases outcome with
  | ok placed =>
    rw [show reporting.phase (system.run turns).moment 0 = .noted placed.txSignature from
      isPhase] at tracked
    exact tracked
  | error failure =>
    rw [show reporting.phase (system.run turns).moment 0 = .working from isPhase] at tracked
    exact tracked

end Run

section Outcome

theorem eq_of_length_le_one {items : List String} (short : items.length ≤ 1) {first second : String}
    (isFirst : first ∈ items) (isSecond : second ∈ items) : first = second := by
  match items with
  | [] => cases isFirst
  | [item] => rw [List.mem_singleton.mp isFirst, List.mem_singleton.mp isSecond]
  | _ :: _ :: _ => simp at short

theorem length_le_one_of_nodup {items : List String} (once : items.Nodup) {only : String}
    (isOnly : ∀ item ∈ items, item = only) : items.length ≤ 1 := by
  have bounded : items ⊆ [only] := fun item member => List.mem_singleton.mpr (isOnly item member)
  exact (once.subperm bounded).length_le

variable {moment : Moment venue} (landings : Landings moment)
include landings

/-- A call to which nothing has been confirmed reports a failure, which is right if nothing has
landed. -/
theorem reported_failure_iff (failure : Failure) (tracked : Tracked moment .working) :
    Reported moment.state (.error failure) ↔ Heard moment.log := by
  obtain ⟨⟨noEvents, nothingLost⟩, noneConfirmed⟩ := tracked
  constructor
  · intro reported
    refine ⟨fun event member signature lands => ?_, nothingLost⟩
    have landed := (landings.landed_iff signature).mpr ⟨event, member, lands⟩
    rw [reported.noFailure failure rfl] at landed
    cases landed
  · intro heard
    have nothing : moment.state.landed = [] := by
      refine List.eq_nil_iff_forall_not_mem.mpr fun signature landed => ?_
      obtain ⟨event, member, lands⟩ := (landings.landed_iff signature).mp landed
      obtain ⟨other, isOther, isConfirmed⟩ := heard.confirmed event member signature lands
      cases (noneConfirmed other isOther).symm.trans isConfirmed
    refine ⟨fun signature landed => ?_, ?_, fun _ _ => nothing⟩
    · rw [nothing] at landed
      cases landed
    · rw [nothing]
      exact zero_le_one

/-- A call to which a transaction has been confirmed reports that one, which is right if its event
is stored and no other has landed. -/
theorem reported_success_iff (placed : Placed)
    (tracked : Tracked moment (.noted placed.txSignature)) :
    Reported moment.state (.ok placed) ↔ Heard moment.log := by
  obtain ⟨logged, landed, ⟨confirmer, isConfirmer, isConfirmed⟩, noOther⟩ := tracked
  constructor
  · intro reported
    refine ⟨fun event member signature lands => ?_, ?_⟩
    · have alsoLanded := (landings.landed_iff signature).mpr ⟨event, member, lands⟩
      have same : signature = placed.txSignature :=
        eq_of_length_le_one reported.onlyOne alsoLanded landed
      exact ⟨confirmer, isConfirmer, same ▸ isConfirmed⟩
    · obtain ⟨-, -, -, nothingLost⟩ | ⟨noEvents, -⟩ := logged
      · exact nothingLost
      · have once := reported.loggedOnce _ landed
        rw [noEvents] at once
        cases once
  · intro heard
    have only : ∀ signature ∈ moment.state.landed, signature = placed.txSignature := by
      intro signature alsoLanded
      obtain ⟨event, member, lands⟩ := (landings.landed_iff signature).mp alsoLanded
      obtain ⟨other, isOther, confirmed⟩ := heard.confirmed event member signature lands
      exact noOther other isOther signature confirmed
    obtain ⟨event, isEvent, events, -⟩ | ⟨-, lost, isLost, unrecorded⟩ := logged
    · refine ⟨fun signature alsoLanded => ?_, length_le_one_of_nodup landings.once only, nofun⟩
      rw [events, only signature alsoLanded, ← isEvent]
      simp
    · exact absurd unrecorded (heard.recorded lost isLost)

end Outcome

/-- In every run of a buy, a close or a claim, what lands is logged and reported once if and only
if it is confirmed to the call and its event is stored. -/
theorem faithful_iff (settings : Settings) (userId : String) (request : Request)
    (turns : List (Turn venue)) :
    Faithful ((predictionSystem settings userId request).run turns) ↔
      WellInformed ((predictionSystem settings userId request).run turns) := by
  unfold Faithful WellInformed
  cases ended : endOf ((predictionSystem settings userId request).run turns) with
  | none => exact iff_of_true nofun nofun
  | some outcome =>
    obtain ⟨landings, tracked⟩ := known_run ended
    have reported_iff : Reported ((predictionSystem settings userId request).run turns).moment.state
        outcome ↔ Heard ((predictionSystem settings userId request).run turns).moment.log := by
      cases outcome with
      | ok placed => exact reported_success_iff landings placed tracked
      | error failure => exact reported_failure_iff landings failure tracked
    constructor
    · exact fun faithful _ => reported_iff.mp (faithful outcome rfl)
    · rintro informed other isOther
      rw [← Option.some.inj isOther]
      exact reported_iff.mpr (informed rfl)

/-! ### A buy of five dollars -/

def predictSettings : Settings where
  isSolanaWalletEnabled := true
  isJupiterConfigured := true
  solanaRpcUrl := none
  signTransaction := fun _ transaction => .ok ⟨"sig of " ++ transaction, "blockhash"⟩

/-- Everything is answered, but the only endpoint runs out of time before the confirmation. -/
def slowly : (op : Op) → Fate op
  | .ensureSolanaPersonalWallet => .ok ()
  | .getSolanaKeypair => .ok "owner"
  | .getSolanaTokenBalance => .ok 1
  | .fetchPositions _ => .ok (.ok [])
  | .fetchTransaction _ => .ok (.ok ⟨some "AQAB", some ⟨none, some 300000000⟩, none, none, none⟩)
  | .pool => [⟨"https://api.mainnet-beta.solana.com", 80⟩]
  | .sendRawTransaction _ _ _ => .answered true
  | .confirmTransaction _ _ _ _ => .late
  | .elapsed => 0
  | .getSignatureStatus _ _ => .late
  | .createEvent _ => .answered

/-- It lands, is reported as a failure and never logged. -/
theorem not_faithful : ¬ Faithful ((predictionSystem predictSettings "ann"
    (.buy ⟨"market", true, 5⟩)).run (List.replicate 8 ⟨0, slowly⟩)) := by
  intro faithful
  have reported := faithful (.error (.timeout "https://api.mainnet-beta.solana.com"))
    (by decide +kernel)
  exact absurd (reported.noFailure _ rfl) (by decide +kernel)

end GdslExchange.JupiterPrediction
