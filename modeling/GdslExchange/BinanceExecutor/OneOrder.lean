/-
This file settles when a call places at most one order: when each order that reaches the exchange
in time, after the first of them, comes while that one is still open.
-/

import GdslExchange.BinanceExecutor.Client

namespace GdslExchange.BinanceExecutor

open Async.Program

/-! ### Orders that have reached the exchange -/

namespace Arrival

variable {first second third : Arrival}

/-- Nothing but an open order keeps the exchange from executing it. -/
def Admitted (arrival : Arrival) : Prop := arrival.InTime ∧ arrival.landing.refused = false

instance (arrival : Arrival) : Decidable arrival.Admitted := inferInstanceAs (Decidable (_ ∧ _))

instance : Std.Total Precedes where
  total first second := by
    unfold Precedes
    omega

instance : IsTrans Arrival Precedes where
  trans first second third := by
    unfold Precedes
    omega

end Arrival

/-- Orders with one client order id, each from another attempt. -/
structure SameOrder (request : OrderRequest) (arrivals : List Arrival) : Prop where
  same : ∀ arrival ∈ arrivals, arrival.request = request
  distinct : arrivals.Pairwise fun first second => first.attempt ≠ second.attempt

/-- Of the orders that are not refused, each after the first comes while the first is open. -/
def CoveredByFirst (holds : Arrival → Prop) : Prop :=
  ∀ first, holds first → first.Admitted →
    (∀ other, holds other → other.Admitted → first.Precedes other) →
    ∀ later, holds later → later.Admitted → later ≠ first → first.WhileOpen later

theorem prefix_foldl_process (orders arrivals : List Arrival) :
    orders <+: arrivals.foldl process orders := by
  induction arrivals generalizing orders with
  | nil => exact List.prefix_rfl
  | cons arrival rest inductionHypothesis =>
    refine List.IsPrefix.trans ?_ (inductionHypothesis (process orders arrival))
    unfold process
    split
    · exact List.prefix_append _ _
    · exact List.prefix_rfl

theorem process_of_not_admitted {orders : List Arrival} {arrival : Arrival}
    (notAdmitted : ¬ arrival.Admitted) : process orders arrival = orders :=
  if_neg fun accepted => notAdmitted ⟨accepted.1, accepted.2.1⟩

theorem process_nil {arrival : Arrival} (admitted : arrival.Admitted) :
    process [] arrival = [arrival] :=
  if_pos ⟨admitted.1, admitted.2, by simp⟩

/-- An order with the same client order id as the only one that has been executed. -/
theorem process_singleton {first later : Arrival} (same : first.request = later.request)
    (admitted : later.Admitted) :
    process [first] later = if first.WhileOpen later then [first] else [first, later] := by
  unfold process
  by_cases isOpen : first.WhileOpen later
  · rw [if_pos isOpen, if_neg]
    rintro ⟨-, -, none⟩
    exact none ⟨first, List.mem_singleton_self first, by rw [same], isOpen⟩
  · have noneOpen : ¬ ∃ order ∈ [first],
        order.request.newClientOrderId = later.request.newClientOrderId ∧
          order.WhileOpen later := by
      rintro ⟨order, member, -, whileOpen⟩
      rw [List.mem_singleton.mp member] at whileOpen
      exact isOpen whileOpen
    rw [if_neg isOpen, if_pos ⟨admitted.1, admitted.2, noneOpen⟩]
    rfl

/-- What comes after the first order that is executed. -/
theorem length_process_first_le_iff {first : Arrival} {rest : List Arrival}
    (same : ∀ later ∈ rest, first.request = later.request) :
    (rest.foldl process [first]).length ≤ 1 ↔
      ∀ later ∈ rest, later.Admitted → first.WhileOpen later := by
  induction rest with
  | nil => simp
  | cons later rest inductionHypothesis =>
    have tail := inductionHypothesis fun other member => same other (List.mem_cons_of_mem _ member)
    rw [List.foldl_cons, List.forall_mem_cons]
    by_cases admitted : later.Admitted
    · rw [process_singleton (same later List.mem_cons_self) admitted]
      by_cases isOpen : first.WhileOpen later
      · rw [if_pos isOpen, tail]
        exact ⟨fun covered => ⟨fun _ => isOpen, covered⟩, fun covered => covered.2⟩
      · rw [if_neg isOpen]
        have both := (prefix_foldl_process [first, later] rest).length_le
        refine iff_of_false (fun atMost => ?_) fun covered => isOpen (covered.1 admitted)
        simp only [List.length_cons, List.length_nil] at both
        omega
    · rw [process_of_not_admitted admitted, tail]
      exact ⟨fun covered => ⟨fun isAdmitted => absurd isAdmitted admitted, covered⟩,
        fun covered => covered.2⟩

theorem length_processed_le_iff {request : OrderRequest} {arrivals : List Arrival}
    (sameOrder : SameOrder request arrivals) (sorted : arrivals.Pairwise Arrival.Precedes) :
    (arrivals.foldl process []).length ≤ 1 ↔ CoveredByFirst (· ∈ arrivals) := by
  induction arrivals with
  | nil => exact iff_of_true (Nat.zero_le _) fun first member => (List.not_mem_nil member).elim
  | cons arrival rest inductionHypothesis =>
    obtain ⟨⟨isRequest, restSame⟩, distinct⟩ :=
      And.intro (List.forall_mem_cons.mp sameOrder.same) (List.pairwise_cons.mp sameOrder.distinct)
    have before := List.pairwise_cons.mp sorted
    rw [List.foldl_cons]
    by_cases admitted : arrival.Admitted
    · rw [process_nil admitted, length_process_first_le_iff fun later member =>
        isRequest.trans (restSame later member).symm]
      constructor
      · intro covered first member _ precedes later isLater isAdmitted different
        -- Only the first of the sorted orders precedes all others.
        have isFirst : first = arrival := by
          obtain now | inRest := List.mem_cons.mp member
          · exact now
          · have back := precedes arrival List.mem_cons_self admitted
            have forth := before.1 first inRest
            have other := distinct.1 first inRest
            unfold Arrival.Precedes at back forth
            omega
        rw [isFirst] at different ⊢
        exact covered later (List.mem_of_ne_of_mem different isLater) isAdmitted
      · intro covered later member isAdmitted
        refine covered arrival List.mem_cons_self admitted (fun other isOther _ => ?_) later
          (List.mem_cons_of_mem _ member) isAdmitted fun same => ?_
        · obtain now | inRest := List.mem_cons.mp isOther
          · rw [now]
            exact .inr ⟨rfl, le_rfl⟩
          · exact before.1 other inRest
        · exact distinct.1 later member (by rw [same])
    · rw [process_of_not_admitted admitted,
        inductionHypothesis ⟨restSame, distinct.2⟩ before.2]
      have inRest {other : Arrival} (member : other ∈ arrival :: rest)
          (isAdmitted : other.Admitted) : other ∈ rest :=
        List.mem_of_ne_of_mem (fun same => admitted (by rwa [← same])) member
      constructor
      · intro covered first member isAdmitted precedes later isLater laterAdmitted
        exact covered first (inRest member isAdmitted) isAdmitted
          (fun other isOther => precedes other (List.mem_cons_of_mem _ isOther)) later
          (inRest isLater laterAdmitted) laterAdmitted
      · intro covered first member isAdmitted precedes later isLater
        exact covered first (List.mem_cons_of_mem _ member) isAdmitted
          (fun other isOther otherAdmitted =>
            precedes other (inRest isOther otherAdmitted) otherAdmitted) later
          (List.mem_cons_of_mem _ isLater)

theorem length_executed_le_iff {exchange : Exchange} {request : OrderRequest}
    (sameOrder : SameOrder request exchange.arrivals) :
    exchange.executed.length ≤ 1 ↔ CoveredByFirst (· ∈ exchange.arrivals) := by
  have perm := List.perm_insertionSort Arrival.Precedes exchange.arrivals
  have sortedSame : SameOrder request (exchange.arrivals.insertionSort Arrival.Precedes) :=
    ⟨fun arrival member => sameOrder.same arrival (perm.mem_iff.mp member),
      (perm.pairwise_iff fun different => different.symm).mpr sameOrder.distinct⟩
  unfold Exchange.executed
  rw [length_processed_le_iff sortedSame (List.pairwise_insertionSort _ _)]
  simp only [perm.mem_iff]

/-! ### The attempts to send an order -/

/-- What a request makes of what is heard of it. -/
def heard {Body : Type} (config : ExecutorConfig) (path method : String) (answer : Answer Body) :
    Except Failure Body :=
  match answer.fetched with
  | .ok res => res.read path
  | .error err => .error (timeoutError config path method err)

/-- An attempt to send an order fails in a way that may pass. -/
def Sending.Passing (config : ExecutorConfig) (sending : Sending) : Prop :=
  ∃ e, heard config "/api/v3/order" "POST" sending.answer = .error e ∧ isRetryableError e

/-- An attempt is made: there are as many, and all before it fail in a way that may pass. -/
def Made (config : ExecutorConfig) (sends : ℕ → Sending) (attempt : ℕ) : Prop :=
  attempt < config.maxRetries ∧ ∀ earlier < attempt, (sends earlier).Passing config

/-- An attempt that is made brings an order to the exchange. -/
structure Brings (config : ExecutorConfig) (sends : ℕ → Sending) (order : OrderRequest)
    (arrival : Arrival) : Prop where
  made : Made config sends arrival.attempt
  request : arrival.request = order
  reaches : (sends arrival.attempt).reaches = some arrival.landing

section Attempts

variable {config : ExecutorConfig} {fates : (op : Op) → Fate op} {order : OrderRequest}
  {exchange : Exchange}

theorem attempts_attempt_of_ne {op other : Op} (different : other ≠ op) (exchange : Exchange) :
    (exchange.attempt op).attempts other = exchange.attempts other :=
  Function.update_of_ne different _ _

def Exchange.send (sending : Sending) (order : OrderRequest) (exchange : Exchange) : Exchange :=
  { exchange.attempt (.order order) with
    arrivals := exchange.arrivals ++
      (sending.arrival? (exchange.attempts (.order order)) order).toList }

theorem exec_request :
    (request config "/api/v3/order" "POST" (await (.order order))).exec fates exchange =
      (exchange.send (fates (.order order) (exchange.attempts (.order order))) order,
        heard config "/api/v3/order" "POST"
          (fates (.order order) (exchange.attempts (.order order))).answer) := by
  have performed : (await (.order order)).exec fates exchange = perform (.order order)
      (fates (.order order)) exchange := exec_perform _ _
  unfold request
  rw [exec_bind, exec_recover, performed]
  unfold heard perform
  dsimp only
  cases (fates (.order order) (exchange.attempts (.order order))).answer with
  | response res =>
    dsimp only [Answer.fetched]
    cases res.read "/api/v3/order" <;> rfl
  | thrown message => rfl
  | silence => rfl

variable {sends : ℕ → Sending} {attempt : ℕ}

/-- The exchange after a number of attempts to send an order. -/
structure Tried (config : ExecutorConfig) (sends : ℕ → Sending) (order : OrderRequest)
    (attempts : ℕ) (exchange : Exchange) : Prop where
  tried : exchange.attempts (.order order) = attempts
  arrivals : ∀ arrival, arrival ∈ exchange.arrivals ↔
    arrival.attempt < attempts ∧ Brings config sends order arrival
  distinct : exchange.arrivals.Pairwise fun first second => first.attempt ≠ second.attempt

/-- The exchange after every attempt that is made. -/
structure Left (config : ExecutorConfig) (sends : ℕ → Sending) (order : OrderRequest)
    (exchange : Exchange) : Prop where
  arrivals : ∀ arrival, arrival ∈ exchange.arrivals ↔ Brings config sends order arrival
  distinct : exchange.arrivals.Pairwise fun first second => first.attempt ≠ second.attempt

section

variable (tried : Tried config sends order attempt exchange)
include tried

theorem Tried.send (made : Made config sends attempt) :
    Tried config sends order (attempt + 1) (exchange.send (sends attempt) order) where
  tried := by
    rw [← tried.tried]
    exact Function.update_self _ _ _
  arrivals arrival := by
    unfold Exchange.send
    rw [List.mem_append, tried.arrivals, Option.mem_toList, tried.tried, Sending.arrival?,
      Option.map_eq_some_iff]
    constructor
    · rintro (⟨earlier, brings⟩ | ⟨landing, reaches, rfl⟩)
      · exact ⟨Nat.lt_succ_of_lt earlier, brings⟩
      · exact ⟨Nat.lt_succ_self attempt, made, rfl, reaches⟩
    · rintro ⟨few, brings⟩
      obtain earlier | last := Nat.lt_succ_iff_lt_or_eq.mp few
      · exact .inl ⟨earlier, brings⟩
      · refine .inr ⟨arrival.landing, ?_, ?_⟩
        · rw [← last]
          exact brings.reaches
        · rw [← last, ← brings.request]
  distinct := by
    refine List.pairwise_append.mpr ⟨tried.distinct, ?_, fun first isFirst second isSecond => ?_⟩
    · cases (sends attempt).reaches <;> simp [Sending.arrival?]
    · rw [Option.mem_toList, tried.tried, Sending.arrival?,
        Option.map_eq_some_iff] at isSecond
      obtain ⟨landing, -, rfl⟩ := isSecond
      exact ((tried.arrivals first).mp isFirst).1.ne

theorem Tried.pause (ms : ℕ) :
    Tried config sends order attempt (exchange.attempt (.pause ms)) where
  tried := by
    have different : Op.order order ≠ .pause ms := nofun
    rw [← tried.tried]
    exact attempts_attempt_of_ne different exchange
  arrivals := tried.arrivals
  distinct := tried.distinct

theorem Tried.left (last : ¬ Made config sends attempt) : Left config sends order exchange where
  arrivals arrival := by
    rw [tried.arrivals]
    refine ⟨fun brought => brought.2, fun brings => ⟨?_, brings⟩⟩
    by_contra later
    have reached := not_lt.mp later
    exact last ⟨reached.trans_lt brings.made.1,
      fun earlier before => brings.made.2 earlier (before.trans_le reached)⟩
  distinct := tried.distinct

end

/-- What is left once no attempt is made any more. -/
theorem left_retryFrom {label : String} {baseDelayMs left : ℕ}
    (tried : Tried config (fates (.order order)) order attempt exchange)
    (count : attempt + left = config.maxRetries)
    (passing : ∀ earlier < attempt, (fates (.order order) earlier).Passing config) :
    Left config (fates (.order order)) order
      ((retryFrom label (request config "/api/v3/order" "POST" (await (.order order)))
        config.maxRetries baseDelayMs left (attempt + 1)).exec fates exchange).1 := by
  induction left generalizing attempt exchange with
  | zero =>
    refine tried.left fun made => ?_
    have few := made.1
    omega
  | succ left inductionHypothesis =>
    have sent := tried.send ⟨by omega, passing⟩
    rw [retryFrom, exec_recover, exec_request, tried.tried]
    cases outcome : heard config "/api/v3/order" "POST" (fates (.order order) attempt).answer with
    | ok result =>
      refine sent.left fun made => ?_
      obtain ⟨e, isError, -⟩ := made.2 attempt (Nat.lt_succ_self attempt)
      cases outcome.symm.trans isError
    | error e =>
      dsimp only
      by_cases last : ¬ isRetryableError e ∨ attempt + 1 = config.maxRetries
      · rw [if_pos last]
        refine sent.left fun made => ?_
        obtain notPassing | isLast := last
        · obtain ⟨other, isError, isPassing⟩ := made.2 attempt (Nat.lt_succ_self attempt)
          cases outcome.symm.trans isError
          exact notPassing isPassing
        · exact made.1.ne isLast
      · obtain ⟨isPassing, notLast⟩ := not_or.mp last
        rw [if_neg last]
        refine inductionHypothesis (sent.pause _) (by omega) fun earlier before => ?_
        obtain first | rfl := Nat.lt_succ_iff_lt_or_eq.mp before
        · exact passing earlier first
        · exact ⟨e, outcome, not_not.mp isPassing⟩

end Attempts

/-! ### Before the order is sent -/

section Prepare

variable {config : ExecutorConfig} {fates : (op : Op) → Fate op}

/-- The operations that send no order. -/
def Preparatory : Op → Prop
  | .order _ => False
  | _ => True

theorem only_retryFrom {Value : Type} {label : String} {fn : Call Value}
    (only : fn.Only Preparatory) {maxAttempts baseDelayMs : ℕ} (left attempt : ℕ) :
    (retryFrom label fn maxAttempts baseDelayMs left attempt).Only Preparatory := by
  induction left generalizing attempt with
  | zero => trivial
  | succ left inductionHypothesis =>
    refine only_recover only fun e => ?_
    split
    · trivial
    · exact only_then trivial fun _ => inductionHypothesis (attempt + 1)

theorem only_publicGet {Body : Type} {path : String} {fetch : Call (Response Body)}
    (only : fetch.Only Preparatory) : (publicGet config path fetch).Only Preparatory := by
  refine only_retryFrom ?_ _ _
  exact only_bind (only_recover only fun _ => trivial) fun _ => only_ofExcept

theorem only_require {Value : Type} {checked : Except String Value} :
    (require checked).Only Preparatory := only_ofExcept

theorem only_getSymbolInfo (symbol : String) :
    (getSymbolInfo config symbol).Only Preparatory := by
  refine only_bind (only_publicGet (only_perform trivial)) fun symbols => ?_
  split
  · trivial
  · split
    · trivial
    · exact only_require

/-- Whatever is done before the order is sent sends none. -/
theorem only_prepareOrder {symbol : String} {side : OrderSide} {quantity : String} :
    (prepareOrder config symbol side quantity >>= OrderParams.sign).Only Preparatory := by
  refine only_bind ?_ fun params => only_then trivial fun _ => trivial
  refine only_bind (only_getSymbolInfo _) fun rules => ?_
  refine only_bind (only_publicGet (only_perform trivial)) fun refPrice => ?_
  -- What the checks say is of no matter.
  generalize assertValidQuantityForSymbol quantity rules = valid
  refine only_bind only_require fun _ => only_bind only_require fun _ => ?_
  refine only_then trivial fun now => ?_
  exact only_then trivial fun random => trivial

/-- No order has been sent. -/
structure Exchange.Untouched (exchange : Exchange) : Prop where
  noArrivals : exchange.arrivals = []
  notTried : ∀ order, exchange.attempts (.order order) = 0

theorem Exchange.Untouched.attempt {exchange : Exchange} (untouched : exchange.Untouched) {op : Op}
    (preparatory : Preparatory op) : (exchange.attempt op).Untouched where
  noArrivals := untouched.noArrivals
  notTried order := by
    refine (attempts_attempt_of_ne ?_ exchange).trans (untouched.notTried order)
    rintro rfl
    exact preparatory

theorem Exchange.Untouched.exec {exchange : Exchange} (untouched : exchange.Untouched)
    {Value : Type} {program : Call Value} (only : program.Only Preparatory) :
    (program.exec fates exchange).1.Untouched := by
  refine exec_keeps (fun op before preparatory kept => ?_) only untouched
  cases op with
  | order order => exact preparatory.elim
  | _ => exact kept.attempt trivial

theorem Exchange.Untouched.tried {exchange : Exchange} (untouched : exchange.Untouched)
    (sends : ℕ → Sending) (order : OrderRequest) : Tried config sends order 0 exchange where
  tried := untouched.notTried order
  arrivals arrival := by
    rw [untouched.noArrivals]
    exact iff_of_false List.not_mem_nil fun brought => Nat.not_lt_zero _ brought.1
  distinct := by
    rw [untouched.noArrivals]
    exact .nil

end Prepare

/-! ### One order for a call -/

section Place

variable {config : ExecutorConfig} {symbol : String} {side : OrderSide} {quantity : String}
  {fates : (op : Op) → Fate op}

/-- The orders that are executed for a call. -/
def placed (config : ExecutorConfig) (symbol : String) (side : OrderSide) (quantity : String)
    (fates : (op : Op) → Fate op) : List Arrival :=
  ((placeMarketOrder config symbol side quantity).exec fates .start).1.executed

def Signs (config : ExecutorConfig) (symbol : String) (side : OrderSide) (quantity : String)
    (fates : (op : Op) → Fate op) (order : OrderRequest) : Prop :=
  ∃ after, (prepareOrder config symbol side quantity >>= OrderParams.sign).exec fates .start =
    (after, .ok order)

theorem placeMarketOrder_eq : placeMarketOrder config symbol side quantity =
    (prepareOrder config symbol side quantity >>= OrderParams.sign) >>= fun order =>
      withRetry "POST /api/v3/order"
        (request config "/api/v3/order" "POST" (await (.order order))) config.maxRetries 400 :=
  (bind_assoc _ _ _).symm

/-- At most one order is executed for a call if, of the orders that its attempts bring to the
exchange and that are not refused there, each after the first comes while the first is open. -/
theorem length_placed_le_iff :
    (placed config symbol side quantity fates).length ≤ 1 ↔
      ∀ order, Signs config symbol side quantity fates order →
        CoveredByFirst (Brings config (fates (.order order)) order) := by
  have start : Exchange.start.Untouched := ⟨rfl, fun _ => rfl⟩
  have untouched := @Exchange.Untouched.exec fates _ start _ _
    (@only_prepareOrder config symbol side quantity)
  unfold placed Signs
  rw [placeMarketOrder_eq]
  rcases ran : (prepareOrder config symbol side quantity >>= OrderParams.sign).exec fates .start
    with ⟨after, e | order⟩
  · rw [ran] at untouched
    rw [exec_bind_error ran]
    have none : after.executed = [] := by
      unfold Exchange.executed
      rw [untouched.noArrivals]
      rfl
    refine iff_of_true (by simp [none]) ?_
    rintro order ⟨other, signed⟩
    cases ran.symm.trans signed
  · rw [ran] at untouched
    rw [exec_bind_ok ran]
    have left := @left_retryFrom config fates order after 0 "POST /api/v3/order" 400
      config.maxRetries (untouched.tried _ _) (Nat.zero_add _) nofun
    have same : SameOrder order _ :=
      ⟨fun arrival member => ((left.arrivals arrival).mp member).request, left.distinct⟩
    refine (length_executed_le_iff same).trans ?_
    rw [show CoveredByFirst (· ∈ _) ↔ CoveredByFirst (Brings config (fates (.order order)) order)
      from by simp only [left.arrivals]]
    constructor
    · rintro covered other ⟨reached, signed⟩
      cases ran.symm.trans signed
      exact covered
    · exact fun covered => covered order ⟨after, ran⟩

end Place

/-! ### A thousandth of a bitcoin -/

def executorConfig : ExecutorConfig := ⟨"https://api.binance.com", 15000, 3⟩

def bitcoin : ListedSymbol where
  symbol := "BTCUSDT"
  filters := [⟨"LOT_SIZE", some ⟨⟨1, 5⟩, ⟨900000000, 5⟩, ⟨1, 5⟩⟩, none⟩,
    ⟨"NOTIONAL", none, some ⟨5, 0⟩⟩]
  status := "TRADING"

def filled : MarketOrderResult where
  orderId := "28"
  status := some "FILLED"
  symbol := "BTCUSDT"
  side := "BUY"
  executedQty := some "0.00100"
  cummulativeQuoteQty := some "60.00"

/-- An order of which the exchange hears at a millisecond, and that is filled at once. -/
def filledAt (millisecond : ℕ) (answer : Answer MarketOrderResult) : Sending :=
  ⟨some ⟨millisecond * 10 ^ 6, false, 0⟩, answer⟩

/-- The response to the first attempt is lost. -/
def lostOnce : ℕ → Sending
  | 0 => filledAt 1700000000050 (.thrown "fetch failed")
  | _ => filledAt 1700000000600 (.response ⟨200, "", .ok filled⟩)

/-- An exchange at which the attempts to send an order end as given, and everything else is
answered. -/
def market (sends : ℕ → Sending) : (op : Op) → Fate op
  | .now => fun _ => 1700000000000
  | .random => fun _ => "0.4fzyo82mvyr"
  | .exchangeInfo _ => fun _ => .response ⟨200, "", .ok [bitcoin]⟩
  | .tickerPrice _ => fun _ => .response ⟨200, "", .ok (some 60000)⟩
  | .order _ => sends
  | .pause _ => ()

/-- Two orders are executed, although one was asked for. -/
theorem not_length_placed_le :
    ¬ (placed executorConfig "BTCUSDT" .buy "0.00100" (market lostOnce)).length ≤ 1 := by
  decide +kernel

end GdslExchange.BinanceExecutor
