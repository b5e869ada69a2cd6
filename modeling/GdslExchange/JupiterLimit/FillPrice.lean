/-
This file settles when a limit order is filled within its limit. The trigger looks at a mark that
was quoted for some size, and the swap is quoted for the amount of the order and may bring less
than its quote by the slippage that was submitted with it. So the quote has to beat the limit by
that much.
-/

import GdslExchange.Jupiter.FillValue
import GdslExchange.JupiterLimit.Service

namespace GdslExchange.Jupiter

open Async.Program

/-! ### The quote of a swap -/

/-- The operation asks for an order and gets one. -/
def isQuote (fates : (op : Op) → Fate op) : Op → Bool
  | .getJupiterOrder request =>
    Except.isOk (fates (.getJupiterOrder request) : Except String Order)
  | _ => false

/-- The slippage that an order is asked for with, at the first attempt. -/
def submittedSlippage (request : SwapRequest) : ℚ :=
  min 2000 (max 10 (request.slippageBps.getD 100))

/-- A request that an exchange answers with an order, at the slippage of the first attempt or of
the second. -/
structure Quotes (fates : (op : Op) → Fate op) (slippageBps : ℚ) (placed : OrderRequest)
    (order : Order) : Prop where
  answered : fates (.getJupiterOrder placed) = .ok order
  slippage : placed.slippageBps = slippageBps ∨
    placed.slippageBps = min 2000 (max slippageBps 300)

section Quote

variable {fates : (op : Op) → Fate op} {desk : Desk} {settings : Settings}
  {request : SwapRequest} {options : ExecuteOptions}

theorem isQuote_of_answered {placed : OrderRequest} {order : Order}
    (answered : fates (.getJupiterOrder placed) = .ok order) :
    isQuote fates (.getJupiterOrder placed) = true :=
  congrArg Except.isOk answered

theorem not_isQuote_of_surveying : ∀ op, Surveying op → isQuote fates op = false := by
  intro op surveying
  cases op with
  | getJupiterOrder placed => exact surveying.elim
  | _ => rfl

theorem silent_survey {Value : Type} {survey : Call Value} (only : survey.Only Surveying) :
    survey.Only fun op => isQuote fates op = false :=
  only.mono not_isQuote_of_surveying

/-- The exchange is asked again after a failure, with at least as wide a slippage. -/
theorem returnsAfter_getJupiterOrder (slippageBps : ℚ) (placed : OrderRequest)
    (slippage : placed.slippageBps = slippageBps ∨
      placed.slippageBps = min 2000 (max slippageBps 300)) :
    (await (.getJupiterOrder placed)).ReturnsAfter fates (isQuote fates) fun order op =>
      ∃ placed, op = Op.getJupiterOrder placed ∧ Quotes fates slippageBps placed order := by
  intro state reached order returned
  have asked : (await (.getJupiterOrder placed)).exec fates state =
      (state, fates (.getJupiterOrder placed)) := exec_perform _ _
  have answered := (Prod.mk.inj (asked.symm.trans returned)).2
  refine ⟨_, List.find?_cons_of_pos (isQuote_of_answered answered), placed, rfl, answered, slippage⟩

theorem returnsAfter_placeOrder (placed : OrderRequest) (small : placed.slippageBps ≤ 2000) :
    (placeOrder placed).ReturnsAfter fates (isQuote fates) fun order op =>
      ∃ again, op = Op.getJupiterOrder again ∧ Quotes fates placed.slippageBps again order := by
  intro state reached order returned
  have asked : (await (.getJupiterOrder placed)).exec fates state =
      (state, fates (.getJupiterOrder placed)) := exec_perform _ _
  unfold placeOrder at returned ⊢
  cases answer : (fates (.getJupiterOrder placed) : Except String Order) with
  | ok first =>
    rw [exec_recover, asked, answer] at returned
    cases returned
    exact ⟨_, List.find?_cons_of_pos (isQuote_of_answered answer), placed, rfl, answer, .inl rfl⟩
  | error message =>
    have none : isQuote fates (.getJupiterOrder placed) = false := congrArg Except.isOk answer
    have silent : (await (.getJupiterOrder placed)).Only fun op => isQuote fates op = false :=
      only_perform none
    rw [exec_recover, asked, answer] at returned
    rw [find?_trace_recover_silent silent, asked, answer]
    dsimp only at returned ⊢
    split at returned
    · next retried =>
      rw [if_pos retried]
      have topUp : (topUpGas message).Only fun op => isQuote fates op = false := by
        unfold topUpGas
        split
        · exact only_perform rfl
        · trivial
      refine (show ReturnsAfter fates (isQuote fates) (fun order op => ∃ again,
        op = Op.getJupiterOrder again ∧ Quotes fates placed.slippageBps again order) _ from
          returnsAfter_silent topUp fun _ => returnsAfter_getJupiterOrder _ _ ?_)
        state reached order returned
      split
      · rw [max_self, min_eq_right small]
        exact .inl rfl
      · exact .inr rfl
    · cases returned

theorem returnsAfter_prepareSwap : (prepareSwap settings request options).ReturnsAfter fates
    (isQuote fates) fun prepared op => ∃ placed order, op = Op.getJupiterOrder placed ∧
      Quotes fates (submittedSlippage request) placed order ∧ ∃ spend amountHuman amountIn,
        prepared.signed.swap =
          order.swap request options prepared.token spend amountHuman amountIn := by
  have thrown {condition : Prop} [Decidable condition] {message : String} :
      (throwIf condition message : Call Unit).Only fun op => isQuote fates op = false :=
    only_throwIf
  have asked {op : Op} (surveying : Surveying op) :
      (await op).Only fun op => isQuote fates op = false := silent_survey (only_perform surveying)
  refine returnsAfter_silent thrown fun _ => returnsAfter_silent thrown fun _ =>
    returnsAfter_silent thrown fun _ => returnsAfter_silent (asked trivial) fun _ =>
    returnsAfter_silent (asked trivial) fun _ =>
    returnsAfter_silent (silent_survey only_checkPreview) fun _ =>
    returnsAfter_silent (asked trivial) fun _ => returnsAfter_silent only_orThrow fun _ =>
    returnsAfter_silent (silent_survey (only_hydrateSolTokenDecimals _)) fun token =>
    returnsAfter_silent (silent_survey only_spendOf) fun spend =>
    returnsAfter_silent (asked trivial) fun taker =>
    returnsAfter_silent (silent_survey only_payable) fun amountHuman =>
    returnsAfter_silent (silent_survey only_preferredDexes) fun dexes => ?_
  refine (returnsAfter_placeOrder _ (min_le_left _ _)).bind ?_
  rintro order op ⟨placed, rfl, quotes⟩
  exact returns_bind fun transaction => ⟨placed, order, rfl, quotes, _, _, _, rfl⟩

theorem quote_execute {op : Op}
    (quoted : ((prepareSwap settings request options).trace fates desk).find? (isQuote fates) =
      some op) :
    ((executeJupiterSwap settings request options).trace fates desk).find? (isQuote fates) =
      some op :=
  @find?_trace_bind_found venue _ _ fates desk op (isQuote fates) _ _ quoted

/-! ### The submission of a swap -/

def SubmitsNothing : Op → Prop
  | .submitJupiterExecute _ => False
  | _ => True

theorem only_reconcile (mint : String) (fillPrice : ℚ) :
    (reconcileFillPriceWithMark mint fillPrice).Only SubmitsNothing := by
  unfold reconcileFillPriceWithMark
  split
  · trivial
  · exact only_recover (only_then trivial fun _ => trivial) fun _ => trivial

theorem only_tryMerge : tryMerge.Only SubmitsNothing := by
  have lot (rows : List (Async.Stored Trade)) : (mergeLot rows).Only SubmitsNothing := by
    unfold mergeLot
    split
    · exact only_then trivial fun _ => only_perform trivial
    · trivial
  refine only_recover ?_ fun _ => trivial
  refine only_then trivial fun _ => only_then trivial fun opens => ?_
  split
  · trivial
  · exact only_bind (only_forEach fun rows _ => lot rows) fun _ => trivial

theorem only_book (pair : String) (swap : Swap) (price : ℚ) :
    (book pair swap price).Only SubmitsNothing := by
  unfold book bookBuy bookSell
  split
  · refine only_bind (only_then trivial fun _ => only_throwIf) fun _ =>
      only_andFinally (only_then trivial fun existing? => ?_) (only_perform trivial)
    split
    · exact only_then trivial fun _ => only_bind only_tryMerge fun _ => trivial
    · exact only_then trivial fun _ => trivial
  · refine only_then trivial fun existing? => ?_
    split
    · refine only_then trivial fun _ => ?_
      split
      · dsimp only
        split <;> trivial
      · exact only_then trivial fun _ => trivial
    · exact only_then trivial fun _ => trivial

theorem submit_mem_execute_iff {signed : SignedTransaction} :
    .submitJupiterExecute signed ∈ (executeJupiterSwap settings request options).trace fates desk ↔
      ∃ prepared, (prepareSwap settings request options).exec fates desk = (desk, .ok prepared) ∧
        prepared.signed = signed := by
  have prepares {reached : Desk} {prepared : Prepared}
      (returned : (prepareSwap settings request options).exec fates desk =
        (reached, .ok prepared)) : reached = desk := by
    rw [← @desk_prepareSwap fates desk settings request options, returned]
  have unprepared : ¬ Preparing (.submitJupiterExecute signed) := fun preparing => preparing
  have unbooked : ¬ SubmitsNothing (.submitJupiterExecute signed) := fun nothing => nothing
  constructor
  · intro submitted
    obtain ⟨reached, prepared, returned, submitted⟩ :=
      mem_trace_second only_prepareSwap unprepared submitted
    rw [prepares returned] at returned
    refine ⟨prepared, returned, ?_⟩
    have booking (signature : String) : (do
        let price ← reconcileFillPriceWithMark prepared.token.mint prepared.signed.swap.price
        await .ensureJupiterStrategyId
        let trade ← book prepared.token.pair prepared.signed.swap price
        pure (⟨signature, request.side, prepared.token.binanceSymbol, prepared.amountIn,
          prepared.expectedOut, trade⟩ : SwapResult) : Call SwapResult).Only SubmitsNothing :=
      only_bind (only_reconcile _ _) fun _ => only_then trivial fun _ =>
        only_bind (only_book _ _ _) fun _ => trivial
    have first := mem_trace_first booking unbooked submitted
    have only : (submitSwap prepared.signed).Only fun op =>
        op = Op.submitJupiterExecute prepared.signed :=
      only_then rfl fun _ => only_ofExcept
    exact (Op.submitJupiterExecute.inj (only.of_mem_trace first)).symm
  · rintro ⟨prepared, returned, rfl⟩
    exact mem_trace_bind_ok returned List.mem_cons_self

end Quote

end GdslExchange.Jupiter

namespace GdslExchange.JupiterLimit

open Async.Program
open Jupiter (Desk Prepared SignedTransaction Swap prepareSwap executeJupiterSwap
  isQuote solUsdcMint submittedSlippage)

/-! ### The attempt -/

/-- The marks trigger an order, and its preview can be traded. -/
def JupiterLimitOrder.Attempted (order : JupiterLimitOrder)
    (watched : (op : Op) → Fate op) : Prop :=
  ∃ marks preview, watched (.getJupiterExecutableMarks order.base) = .ok (some marks) ∧
    order.triggered marks ∧ watched (.previewJupiterSwap order.userId order.swap) = .ok preview ∧
    preview.tradable ∧ ¬ preview.blockTrade

/-- An attempt starts the swap of its own order, and it does where the order is triggered and the
preview can be traded. -/
theorem startSwap_mem_tryFillOrder_iff {order other : JupiterLimitOrder}
    {request : Jupiter.SwapRequest} {watched : (op : Op) → Fate op} {store : Store} :
    .startSwap other request ∈ (tryFillOrder order).trace watched store ↔
      (other = order ∧ request = order.swap) ∧ order.Attempted watched := by
  have only {op : Op} : (await op).Only fun asked => asked = op := only_perform rfl
  have executed {reached : Store} :
      .startSwap other request ∈ (executeOrder order).trace watched reached ↔
        other = order ∧ request = order.swap := by
    constructor
    · intro started
      obtain first | ⟨reached, none, -, later⟩ := mem_trace_bind_cases started
      · exact Op.startSwap.inj (only.of_mem_trace first)
      · have finish : Op.finishSwap order ≠ .startSwap other request := nofun
        have fill (txSignature : String) :
            Op.fillOrder order txSignature ≠ .startSwap other request := nofun
        have finishing : (do
            let txSignature ← await (.finishSwap order)
            await (.fillOrder order txSignature) : Call Unit).Only fun op =>
              op ≠ Op.startSwap other request :=
          only_then finish fun _ => only_perform (fill _)
        exact absurd rfl (finishing.of_mem_trace later)
    · rintro ⟨rfl, rfl⟩
      exact List.mem_cons_self
  have marksOnly : Op.startSwap other request ≠ .getJupiterExecutableMarks order.base := nofun
  have previewOnly : Op.startSwap other request ≠ .previewJupiterSwap order.userId order.swap :=
    nofun
  refine (Asks.mem_trace_iff (asks_perform rfl) only marksOnly).trans ?_
  constructor
  · rintro ⟨_ | marks, isMarks, started⟩
    · cases started
    dsimp only at started
    split at started
    · cases started
    next triggered =>
    obtain ⟨preview, isPreview, started⟩ :=
      (Asks.mem_trace_iff (asks_perform rfl) only previewOnly).mp started
    split at started
    · cases started
    next passed =>
    rw [Bool.or_eq_true, not_or, Bool.not_eq_true', Bool.not_eq_false] at passed
    rw [Bool.not_eq_true', Bool.not_eq_false] at triggered
    exact ⟨executed.mp started, marks, preview, isMarks, triggered, isPreview, passed⟩
  · rintro ⟨same, marks, preview, isMarks, triggered, isPreview, tradable, notBlocked⟩
    refine ⟨some marks, isMarks, ?_⟩
    dsimp only
    rw [if_neg (by rw [triggered]; exact Bool.false_ne_true)]
    refine (Asks.mem_trace_iff (asks_perform rfl) only previewOnly).mpr ⟨preview, isPreview, ?_⟩
    rw [if_neg (by rw [tradable, eq_false_of_ne_true notBlocked]; exact Bool.false_ne_true)]
    exact executed.mpr same

/-! ### The price of a fill -/

/-- The USD value of one token; a USDC is a dollar. -/
def usdPerUnit (worth : String → ℚ) (mint : String) : ℚ :=
  if mint = solUsdcMint then 1 else worth mint

def Permits (slippageBps : ℚ) (swap : Swap) (received : ℚ) : Prop :=
  swap.outAmount * (1 - slippageBps / 10000) ≤ received

/-- The dollars paid for each token received, or the dollars received for each token sold, are no
worse than the limit price. -/
def JupiterLimitOrder.Within (order : JupiterLimitOrder) (worth : String → ℚ) (swap : Swap)
    (received : ℚ) : Prop :=
  match order.side with
  | .buy => swap.inAmount * usdPerUnit worth swap.inputMint ≤ order.limitPrice * received
  | .sell => order.limitPrice * swap.inAmount ≤ received

/-- The price that a swap is quoted at is better than the limit price by the slippage. -/
def JupiterLimitOrder.Beaten (order : JupiterLimitOrder) (worth : String → ℚ) (swap : Swap)
    (slippageBps : ℚ) : Prop :=
  match order.side with
  | .buy => swap.inAmount * usdPerUnit worth swap.inputMint ≤
      order.limitPrice * (1 - slippageBps / 10000) * swap.outAmount
  | .sell => order.limitPrice * swap.inAmount ≤ (1 - slippageBps / 10000) * swap.outAmount

theorem within_iff_beaten {order : JupiterLimitOrder} {worth : String → ℚ} {swap : Swap}
    {slippageBps : ℚ} (positive : 0 < order.limitPrice) :
    (∀ received, Permits slippageBps swap received → order.Within worth swap received) ↔
      order.Beaten worth swap slippageBps := by
  unfold Permits JupiterLimitOrder.Within JupiterLimitOrder.Beaten
  cases order.side with
  | buy =>
    constructor
    · intro within
      have worst := within _ le_rfl
      linarith
    · intro beaten received permitted
      have atLeast := mul_le_mul_of_nonneg_left permitted positive.le
      linarith
  | sell =>
    constructor
    · intro within
      have worst := within _ le_rfl
      linarith
    · intro beaten received permitted
      linarith

/-! ### Every fill within the limit -/

section Fill

variable (settings : Jupiter.Settings) (watched : (op : Op) → Fate op) (store : Store)
  (fates : (op : Jupiter.Op) → Jupiter.Fate op) (desk : Desk) (order : JupiterLimitOrder)

/-- The watcher starts the swap of an order, and that submits a transaction with a slippage. -/
structure Fills (signed : SignedTransaction) (slippageBps : ℚ) : Prop where
  started : .startSwap order order.swap ∈ (tryFillOrder order).trace watched store
  submitted : .submitJupiterExecute signed ∈
    (executeJupiterSwap settings order.swap {}).trace fates desk
  quoted : ∃ placed, ((executeJupiterSwap settings order.swap {}).trace fates desk).find?
    (isQuote fates) = some (.getJupiterOrder placed) ∧ placed.slippageBps = slippageBps

/-- Whatever a fill brings is within the limit. -/
def NeverBeyond (worth : String → ℚ) : Prop :=
  ∀ signed slippageBps, Fills settings watched store fates desk order signed slippageBps →
    ∀ received, Permits slippageBps signed.swap received → order.Within worth signed.swap received

/-- The order of an attempt that gets ready is quoted at a price that beats the limit. -/
def QuotedBelow (worth : String → ℚ) : Prop :=
  order.Attempted watched → ∀ prepared placed,
    (prepareSwap settings order.swap {}).exec fates desk = (desk, .ok prepared) →
    ((prepareSwap settings order.swap {}).trace fates desk).find? (isQuote fates) =
      some (.getJupiterOrder placed) →
    order.Beaten worth prepared.signed.swap placed.slippageBps

variable {settings watched store fates desk order} {worth : String → ℚ}

theorem limitPrice_pos {userId : String} {raw : RawOrder} {now : ℕ} {before : Store}
    (created : (createJupiterLimitOrder userId raw now before).2 = .ok order) :
    0 < order.limitPrice := by
  unfold createJupiterLimitOrder at created
  cases checked : checkOrder raw with
  | error message =>
    rw [checked] at created
    cases created
  | ok sym =>
    rw [checked] at created
    obtain rfl := Except.ok.inj created
    unfold checkOrder at checked
    dsimp only at checked
    split at checked
    · cases checked
    split at checked
    · cases checked
    next positive => exact not_le.mp positive

/-- Every fill of an order is within its limit just where the order is quoted at a price that beats
the limit by the slippage. -/
theorem neverBeyond_iff {userId : String} {raw : RawOrder} {now : ℕ} {before : Store}
    (created : (createJupiterLimitOrder userId raw now before).2 = .ok order) :
    NeverBeyond settings watched store fates desk order worth ↔
      QuotedBelow settings watched fates desk order worth := by
  have positive := limitPrice_pos created
  constructor
  · intro never attempted prepared placed returned quoted
    have started : .startSwap order order.swap ∈ (tryFillOrder order).trace watched store :=
      startSwap_mem_tryFillOrder_iff.mpr ⟨⟨rfl, rfl⟩, attempted⟩
    have submitted := Jupiter.submit_mem_execute_iff.mpr ⟨prepared, returned, rfl⟩
    exact (within_iff_beaten positive).mp (never prepared.signed placed.slippageBps
      ⟨started, submitted, placed, Jupiter.quote_execute quoted, rfl⟩)
  · rintro below signed slippageBps ⟨started, submitted, placed, quoted, rfl⟩
    obtain ⟨prepared, returned, rfl⟩ := Jupiter.submit_mem_execute_iff.mp submitted
    obtain ⟨op, found, -⟩ := Jupiter.returnsAfter_prepareSwap desk desk prepared returned
    obtain rfl := Option.some.inj ((Jupiter.quote_execute found).symm.trans quoted)
    exact (within_iff_beaten positive).mpr (below (startSwap_mem_tryFillOrder_iff.mp started).2
      prepared placed returned found)

end Fill

/-! ### A buy at two dollars -/

def solanaSettings : Jupiter.Settings := ⟨true, true, 150⟩

def wifLimit : RawOrder := ⟨"WIFUSDT", .buy, 2, 150, none⟩

def wifOrder : JupiterLimitOrder := newOrder 0 "user" wifLimit "WIFUSDT" 0

/-- An ask of two dollars for some size, and a preview that can be traded. -/
def watchedAtTwo : (op : Op) → Fate op
  | .createJupiterLimitOrder _ _ => (0 : ℕ)
  | .cancelJupiterLimitOrder _ _ => ()
  | .isJupiterSwapRateLimited => false
  | .openOrders _ => ()
  | .getJupiterExecutableMarks _ => .ok (some ⟨some (199 / 100), some 2⟩)
  | .previewJupiterSwap _ _ => .ok ⟨true, false, none, none⟩
  | .startSwap _ _ => ()
  | .finishSwap _ => .landed "5sig"
  | .fillOrder _ _ => (0 : ℕ)

theorem wifOrder_created : (createJupiterLimitOrder "user" wifLimit 0 .empty).2 = .ok wifOrder ∧
    wifOrder.triggered ⟨some (199 / 100), some 2⟩ := by
  decide +kernel

theorem wifOrder_attempted : wifOrder.Attempted watchedAtTwo :=
  ⟨⟨some (199 / 100), some 2⟩, ⟨true, false, none, none⟩, rfl, wifOrder_created.2, rfl, rfl,
    Bool.false_ne_true⟩

/-- A swap of 150 USDC that is ready. -/
def wifPrepared (outAmount : ℕ) : Prepared where
  token := Jupiter.wifToken
  signed := ⟨"AQAB", "7xKX", "r1", ⟨.buy, false, solUsdcMint, 150, 150,
    Jupiter.fromSmallest outAmount 6⟩⟩
  amountIn := 150000000
  expectedOut := outAmount

def wifQuote : Jupiter.OrderRequest :=
  ⟨solUsdcMint, Jupiter.wifToken.mint, 150000000, "7xKX", 150, none⟩

/-- What the swap prepares and quotes, for as much as the order is answered to bring. -/
theorem wifOrder_prepares : ∀ outAmount ∈ [75000000, 76500000],
    ((prepareSwap solanaSettings wifOrder.swap {}).exec (Jupiter.market 1000 2 outAmount)
      ⟨[], fun _ => none⟩).2 = .ok (wifPrepared outAmount) ∧
    ((prepareSwap solanaSettings wifOrder.swap {}).trace (Jupiter.market 1000 2 outAmount)
      ⟨[], fun _ => none⟩).find? (isQuote (Jupiter.market 1000 2 outAmount)) =
        some (.getJupiterOrder wifQuote) := by
  decide +kernel

/-- 150 USDC for 76.5 WIF, at 1.96 dollars. -/
theorem neverBeyond_better :
    NeverBeyond solanaSettings watchedAtTwo .empty (Jupiter.market 1000 2 76500000)
      ⟨[], fun _ => none⟩ wifOrder fun _ => 1 := by
  refine (neverBeyond_iff wifOrder_created.1).mpr fun _ prepared placed returned quoted => ?_
  obtain ⟨prepares, quotes⟩ := wifOrder_prepares 76500000 (by decide)
  obtain rfl := Except.ok.inj (prepares.symm.trans (congrArg Prod.snd returned))
  obtain rfl := Jupiter.Op.getJupiterOrder.inj (Option.some.inj (quotes.symm.trans quoted))
  show (150 : ℚ) * 1 ≤ 2 * (1 - 150 / 10000) * (76500000 / 10 ^ 6)
  norm_num

/-- 150 USDC for 75 WIF, at the limit: with 1.5 % of slippage they may cost 2.03 dollars. -/
theorem not_neverBeyond :
    ¬ NeverBeyond solanaSettings watchedAtTwo .empty (Jupiter.market 1000 2 75000000)
      ⟨[], fun _ => none⟩ wifOrder fun _ => 1 := by
  intro never
  obtain ⟨prepares, quotes⟩ := wifOrder_prepares 75000000 (by decide)
  have started : .startSwap wifOrder wifOrder.swap ∈
      (tryFillOrder wifOrder).trace watchedAtTwo .empty :=
    startSwap_mem_tryFillOrder_iff.mpr ⟨⟨rfl, rfl⟩, wifOrder_attempted⟩
  have returned : (prepareSwap solanaSettings wifOrder.swap {}).exec
      (Jupiter.market 1000 2 75000000) ⟨[], fun _ => none⟩ =
        (⟨[], fun _ => none⟩, .ok (wifPrepared 75000000)) :=
    Prod.ext (Jupiter.desk_prepareSwap _ _ _) prepares
  have submitted := Jupiter.submit_mem_execute_iff.mpr ⟨_, returned, rfl⟩
  have within := never _ _
    ⟨started, submitted, wifQuote, Jupiter.quote_execute quotes, rfl⟩ _ le_rfl
  change (150 : ℚ) * 1 ≤ 2 * (75000000 / 10 ^ 6 * (1 - 150 / 10000)) at within
  norm_num at within

end GdslExchange.JupiterLimit
