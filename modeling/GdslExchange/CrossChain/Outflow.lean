/-
This file compares what the operator pays for a same-token transfer with what it
received: the credit, from its inventory or over the bridge, and the fee that is
swept to the treasury.

The credit is fixed at the price of the quote, the bridged amount and the fee at
the price of the attempt, and each is rounded to the nearest unit of its own
token. So the two sides need not add up to the debit: on the fast path the
operator pays a difference of the fees, and on both paths what rounding up adds.
-/

import GdslExchange.CrossChain.Transfer
import GdslExchange.Text.Upper

namespace GdslExchange.CrossChain

open Async.Program
open Numeric

/-! ### Amounts -/

def settlementFee (price : ℚ) : ℚ := if price > 0 then transferFeeUsd / price else 0

def netAmount (amount price : ℚ) : ℚ := max 0 (amount - settlementFee price)

/-- The amounts that one attempt at a credit goes by. -/
structure Settlement where
  amount : ℚ
  creditAmount : ℚ
  bridgeSourceAmount : ℚ

/-- How an attempt pays: out of the operator's inventory or over the bridge. -/
inductive CreditPath where
  | inventory
  | bridge
deriving DecidableEq

namespace Settlement

/-- What the credit costs the operator. -/
def paid (settlement : Settlement) : CreditPath → ℚ
  | .inventory => settlement.creditAmount
  | .bridge => settlement.bridgeSourceAmount

/-- What is swept to the treasury after the credit. -/
def swept (settlement : Settlement) : ℚ :=
  let feeTokenAmount := settlement.amount - settlement.bridgeSourceAmount
  if feeTokenAmount > 0 then feeTokenAmount else 0

def outflow (settlement : Settlement) (path : CreditPath) : ℚ :=
  settlement.paid path + settlement.swept

end Settlement

/-- The amounts of an attempt at one price, for a transfer that was quoted at another. At the
first attempt the two are the same. -/
def attemptAt (route : Route) (amount quotePrice price : ℚ) : Settlement where
  amount := amount
  creditAmount := (computeRouteQuote route amount quotePrice quotePrice).creditAmount
  bridgeSourceAmount := computeBridgeSourceAmount route amount price

/-- The net amount at the price of the quote, in whole units of the destination token, is at
most the amount, and at most the net amount at the price of the attempt, in whole units of the
source token. -/
def FitsInventory (route : Route) (amount quotePrice price : ℚ) : Prop :=
  roundTokenAmount (netAmount amount quotePrice) route.destLeg.decimals ≤ amount ∧
    roundTokenAmount (netAmount amount quotePrice) route.destLeg.decimals ≤
      roundTokenAmount (netAmount amount price) route.sourceLeg.decimals

/-- The net amount at the price of the attempt, in whole units, is at most the amount. -/
def FitsBridge (route : Route) (amount price : ℚ) : Prop :=
  roundTokenAmount (netAmount amount price) route.sourceLeg.decimals ≤ amount

def Fits (route : Route) (amount quotePrice price : ℚ) : CreditPath → Prop
  | .inventory => FitsInventory route amount quotePrice price
  | .bridge => FitsBridge route amount price

/-! ### What is paid and what is swept -/

section Amounts

variable {route : Route} {amount quotePrice price : ℚ}

/-- A credit is covered if it fits into the amount and into what the sweep leaves of it. -/
theorem outflow_le_iff (settlement : Settlement) (path : CreditPath) :
    settlement.outflow path ≤ settlement.amount ↔
      settlement.paid path ≤ settlement.amount ∧
        settlement.paid path ≤ settlement.bridgeSourceAmount := by
  unfold Settlement.outflow Settlement.swept
  dsimp only
  split
  · constructor
    · intro covered
      exact ⟨by linarith, by linarith⟩
    · rintro ⟨_, within⟩
      linarith
  · constructor
    · intro covered
      exact ⟨by linarith, by linarith⟩
    · rintro ⟨within, _⟩
      linarith

theorem creditAmount_eq (priced : 0 < quotePrice) :
    (computeRouteQuote route amount quotePrice quotePrice).creditAmount =
      roundTokenAmount (netAmount amount quotePrice) route.destLeg.decimals := by
  have net : max 0 (amount * quotePrice - transferFeeUsd) / quotePrice =
      netAmount amount quotePrice := by
    unfold netAmount settlementFee
    rw [if_pos priced, ← max_div_div_right priced.le, zero_div, sub_div,
      mul_div_cancel_right₀ _ priced.ne']
  unfold computeRouteQuote
  rw [if_pos priced, net]

/-- An attempt at a credit costs the operator at most the debit if and only if the amounts it
goes by fit. -/
theorem outflow_le_amount_iff (route : Route) (amount quotePrice price : ℚ) (path : CreditPath)
    (priced : 0 < quotePrice) :
    (attemptAt route amount quotePrice price).outflow path ≤ amount ↔
      Fits route amount quotePrice price path := by
  refine (outflow_le_iff _ _).trans ?_
  cases path with
  | inventory =>
    have credit := @creditAmount_eq route amount quotePrice priced
    unfold attemptAt Settlement.paid
    rw [credit]
    rfl
  | bridge =>
    exact and_iff_left le_rfl

/-- Where both net amounts are whole units, the fast path is covered exactly when the price has
not fallen since the quote, or could not be fetched. -/
theorem fitsInventory_iff_price (priced : 0 < quotePrice)
    (beyondFee : settlementFee quotePrice < amount)
    (wholeQuote : roundTokenAmount (netAmount amount quotePrice) route.destLeg.decimals =
      netAmount amount quotePrice)
    (wholeAttempt : roundTokenAmount (netAmount amount price) route.sourceLeg.decimals =
      netAmount amount price) :
    FitsInventory route amount quotePrice price ↔ price ≤ 0 ∨ quotePrice ≤ price := by
  have feePositive : 0 < transferFeeUsd := by
    unfold transferFeeUsd
    norm_num
  have quoteFee : settlementFee quotePrice = transferFeeUsd / quotePrice := if_pos priced
  have feeNonneg : 0 ≤ settlementFee quotePrice := by
    rw [quoteFee]
    positivity
  have net : netAmount amount quotePrice = amount - settlementFee quotePrice :=
    max_eq_right (sub_nonneg.mpr beyondFee.le)
  have within : netAmount amount quotePrice ≤ netAmount amount price ↔
      settlementFee price ≤ settlementFee quotePrice := by
    rw [net]
    unfold netAmount
    rw [le_max_iff, or_iff_right (not_le.mpr (sub_pos.mpr beyondFee)), sub_le_sub_iff_left]
  unfold FitsInventory
  rw [wholeQuote, wholeAttempt, within, and_iff_right (by rw [net]; linarith)]
  rcases le_or_gt price 0 with unknown | known
  · rw [show settlementFee price = 0 from if_neg unknown.not_gt]
    exact iff_of_true feeNonneg (Or.inl unknown)
  · rw [quoteFee, show settlementFee price = transferFeeUsd / price from if_pos known,
      div_le_div_iff_of_pos_left feePositive known priced, or_iff_right known.not_ge]

end Amounts

/-! ### The attempts of the service -/

section Attempts

variable {settings : Settings}

/-- The amounts that a plan goes by. -/
def Plan.settlement (plan : Plan) : Settlement where
  amount := plan.quote.amount
  creditAmount := plan.quote.creditAmount
  bridgeSourceAmount := plan.bridgeSourceAmount

/-- The amounts that a retry goes by, at the price it has fetched. -/
def Transfer.settlement (row : Transfer) (route : Route) (sourceUsdPrice : Option ℚ) :
    Settlement where
  amount := row.amount
  creditAmount := row.creditAmount
  bridgeSourceAmount := computeBridgeSourceAmount route row.amount (sourceUsdPrice.getD 0)

theorem normalizeSymbol_idempotent (symbol : String) :
    normalizeSymbol (normalizeSymbol symbol) = normalizeSymbol symbol := by
  have btc : normalizeSymbol "BTC" = "BTC" := by decide +kernel
  have bnb : normalizeSymbol "BNB" = "BNB" := by decide +kernel
  unfold normalizeSymbol at *
  by_cases isBtcb : symbol.toUpper = "BTCB"
  · rw [if_pos isBtcb]
    exact btc
  · by_cases isWbnb : symbol.toUpper = "WBNB"
    · rw [if_neg isBtcb, if_pos isWbnb]
      exact bnb
    · rw [if_neg isBtcb, if_neg isWbnb, Text.toUpper_toUpper, if_neg isBtcb, if_neg isWbnb]

theorem resolveCrossChainRoute_again {direction : Direction} {sourceSymbol : String}
    {destSymbol : Option String} {route : Route}
    (resolved : resolveCrossChainRoute settings direction sourceSymbol destSymbol = .ok route) :
    resolveCrossChainRoute settings direction route.sourceSymbol (some route.destSymbol) =
      .ok route := by
  unfold resolveCrossChainRoute at resolved
  dsimp only at resolved
  split at resolved
  · cases resolved
  · cases resolved
  · rename_i sourceLeg destLeg foundSource foundDest
    cases resolved
    unfold resolveCrossChainRoute
    dsimp only [Option.getD_some]
    rw [normalizeSymbol_idempotent, normalizeSymbol_idempotent, foundSource, foundDest]

theorem returns_previewCrossChainTransfer (userId : String) (params : TransferParams) :
    (previewCrossChainTransfer settings userId params).Returns fun preview =>
      ∃ route, resolveCrossChainRoute settings params.direction
          (params.sourceSymbol.getD "USDC") params.destSymbol = .ok route ∧
        (route.sameToken = true → 0 < preview.tokenUsdPrice ∧ preview.quote =
          computeRouteQuote route params.amount preview.tokenUsdPrice preview.tokenUsdPrice) := by
  refine returns_bind fun _ => returns_ofExcept.bind fun route resolved => ?_
  refine returns_bind fun sourcePrice => returns_orThrow.bind fun sourceUsdPrice isPrice => ?_
  have sameDest : (priceDestToken route sourceUsdPrice).Returns fun destPrice =>
      route.sameToken = true → destPrice = some sourceUsdPrice := by
    unfold priceDestToken
    split
    · exact fun _ => rfl
    · rename_i different
      intro reply
      cases reply with
      | ok price => exact fun sameToken => absurd sameToken different
      | error failure => trivial
  refine sameDest.bind fun destPrice isDest => returns_orThrow.bind fun destUsdPrice found => ?_
  refine returns_bind fun _ => returns_bind fun _ => returns_bind fun _ => ?_
  refine ⟨route, resolved, fun sameToken => ⟨?_, ?_⟩⟩
  · exact of_decide_eq_true (Option.mem_filter_iff.mp isPrice).2
  · rw [isDest sameToken] at found
    obtain rfl := Option.some.inj (Option.mem_filter_iff.mp found).1
    rfl

theorem returns_planTransfer (userId : String) (params : TransferParams) :
    (planTransfer settings userId params).Returns fun plan => plan.route.sameToken = true →
      ∃ quotePrice, 0 < quotePrice ∧
        plan.settlement = attemptAt plan.route plan.quote.amount quotePrice quotePrice := by
  refine returns_bind fun _ => returns_bind fun _ => returns_bind fun _ => ?_
  refine returns_ofExcept.bind fun route resolved => ?_
  refine (returns_previewCrossChainTransfer userId _).bind fun preview previewed => ?_
  refine returns_bind fun _ => returns_bind fun _ => returns_bind fun _ => returns_bind fun _ => ?_
  refine returns_bind fun _ => returns_bind fun _ sameToken => ?_
  obtain ⟨again, isAgain, priced⟩ := previewed
  rw [show resolveCrossChainRoute settings params.direction ((some route.sourceSymbol).getD "USDC")
    (some route.destSymbol) = .ok route from resolveCrossChainRoute_again resolved] at isAgain
  cases isAgain
  obtain ⟨positive, isQuote⟩ := priced sameToken
  refine ⟨preview.tokenUsdPrice, positive, ?_⟩
  rw [isQuote]
  rfl

/-- No update moves the amounts of a record. -/
theorem settlement_apply (patch : TransferPatch) (row : Transfer) (route : Route)
    (price : Option ℚ) :
    (patch.apply row).settlement route price = row.settlement route price := rfl

/-- A retry goes by the price of the quote for the credit and by its own for the rest. -/
theorem settlement_pendingTransfer {plan : Plan} {quotePrice : ℚ} (userId : String)
    (planned : plan.settlement = attemptAt plan.route plan.quote.amount quotePrice quotePrice)
    (price : Option ℚ) : (pendingTransfer userId plan).settlement plan.route price =
      attemptAt plan.route plan.quote.amount quotePrice (price.getD 0) := by
  have credit := congrArg Settlement.creditAmount planned
  exact congrArg (Settlement.mk plan.quote.amount · _) credit

end Attempts

/-- A hundred dollars from BSC to Solana. -/
def usdtRoute : Route where
  direction := .bscToSol
  sourceSymbol := "USDT"
  destSymbol := "USDT"
  sameToken := true
  sourceLeg := ⟨"USDT", bscUsdtAddress, 18, false, "USDTUSDT"⟩
  destLeg := ⟨"USDT", solUsdtMint, 6, false, "USDTUSDT"⟩
  sourceChain := .bsc
  destChain := .sol

theorem outflow_usdt : 0 < (1 : ℚ) ∧ (attemptAt usdtRoute 100 1 1).outflow .inventory ≤ 100 :=
  ⟨one_pos, (outflow_le_amount_iff usdtRoute 100 1 1 .inventory one_pos).mpr (by
    unfold Fits FitsInventory
    decide +kernel)⟩

/-- A retry at half the price of the quote pays twice the fee, and a net amount that is rounded
up is more than was received. -/
theorem not_outflow_le_amount : ¬ ∃ path : CreditPath, ∀ (route : Route)
    (amount quotePrice price : ℚ), route.sameToken = true → 0 < quotePrice →
    (attemptAt route amount quotePrice price).outflow path ≤ amount := by
  rintro ⟨path, claimed⟩
  cases path with
  | inventory =>
    have paid := claimed usdtRoute 100 1 (1 / 2) rfl one_pos
    revert paid
    decide +kernel
  | bridge =>
    have paid := claimed usdtRoute (100 + 5 / 10 ^ 9) 1 0 rfl one_pos
    revert paid
    decide +kernel

end GdslExchange.CrossChain
