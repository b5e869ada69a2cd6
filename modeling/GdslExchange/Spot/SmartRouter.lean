/-
This file models the smart execution router, which picks Binance Spot or 1inch on BSC for the best
all-in price, and settles when it does.

The router compares what the venues pay out. The gas of the chain is charged to the summary of the
venue and not to the comparison, so 1inch wins by less than its gas.
-/

import GdslExchange.Spot.Binance
import Mathlib.Data.List.Sort

namespace GdslExchange.Spot

open Jupiter (Side)
open Numeric

/-! ### The quotes -/

inductive ExecutionVenue where
  | binance
  | oneinchBsc
deriving DecidableEq

/-- The summary of a venue, with the estimated extra cost against the best one. -/
structure VenueQuoteSummary where
  venue : ExecutionVenue
  available : Bool
  reason : Option String
  executablePrice : Option ℚ
  amountInHuman : ℚ
  amountOutHuman : ℚ
  extraCostUsd : ℚ
  priceVsBinanceMidBps : Option ℤ

structure SmartExecutionQuote where
  binanceSymbol : String
  side : Side
  amount : ℚ
  binanceMid : Option ℚ
  binance : VenueQuoteSummary
  oneinch : VenueQuoteSummary
  recommended : Option ExecutionVenue
  savingsVsOtherBps : Option ℤ
  savingsVsOtherUsd : ℚ
  blockTrade : Bool
  blockReason : Option String

/-- The settings that the router reads. The schema takes any number for each. -/
structure SmartRouterSettings extends RouterSettings where
  smartRouterMaxBuyVsBinanceBps : ℚ
  smartRouterDexGasUsdBuy : ℚ
  smartRouterDexGasUsdSell : ℚ

/-- What `fetchBookTicker` returns: only positive prices. -/
structure BookTicker where
  bid : ℚ
  ask : ℚ
  bid_pos : 0 < bid
  ask_pos : 0 < ask

def BookTicker.mid (book : BookTicker) : ℚ := (book.bid + book.ask) / 2

/-- `BinanceVenueQuote`, the fields that the router reads. -/
structure BinanceVenueQuote where
  available : Bool
  reason : Option String
  executablePrice : Option ℚ
  amountInHuman : ℚ
  amountOutHuman : ℚ

/-- `OneInchQuotePreview`, the fields that the router reads. -/
structure OneInchQuotePreview where
  tradable : Bool
  message : Option String
  executablePrice : Option ℚ
  amountInHuman : ℚ
  amountOutHuman : ℚ
  priceVsBinanceBps : Option ℤ

/-- What the router has been answered. The preview is none without 1inch or a personal wallet, and
an error where it throws. -/
structure RouterReplies where
  book : Option BookTicker
  binance : BinanceVenueQuote
  dex : Option (Except String OneInchQuotePreview)

/-! ### The router -/

def bpsVsMid (executablePrice mid : Option ℚ) (side : Side) : Option ℤ :=
  match executablePrice, mid with
  | some price, some mid =>
    if mid ≤ 0 then none
    else
      let raw := (price - mid) / mid * 10000
      some (Numeric.round (if side = .buy then raw else -raw))
  | _, _ => none

structure Candidate where
  venue : ExecutionVenue
  out : ℚ
  px : ℚ

/-- A venue that can be taken: it is available, has a price and pays something out. -/
def VenueQuoteSummary.candidate (summary : VenueQuoteSummary) : Option Candidate :=
  match summary.executablePrice with
  | some price =>
    if summary.available ∧ summary.amountOutHuman > 0 then
      some ⟨summary.venue, summary.amountOutHuman, price⟩
    else none
  | none => none

structure Winner where
  venue : Option ExecutionVenue
  savingsBps : Option ℤ
  savingsUsd : ℚ

/-- More out wins. The sort is stable, so Binance wins a tie. -/
def pickWinner (side : Side) (binance oneinch : VenueQuoteSummary) : Winner :=
  let candidates := binance.candidate.toList ++ oneinch.candidate.toList
  match candidates.insertionSort fun a b => b.out ≤ a.out with
  | [] => ⟨none, none, 0⟩
  | [best] => ⟨some best.venue, none, 0⟩
  | best :: second :: _ =>
    let midPx := (best.px + second.px) / 2
    { venue := some best.venue
      savingsBps :=
        if midPx > 0 then some (Numeric.round (|best.px - second.px| / midPx * 10000)) else none
      savingsUsd :=
        match side with
        | .buy => max 0 ((best.out - second.out) * best.px)
        | .sell => max 0 (best.out - second.out) }

section Router

variable (settings : SmartRouterSettings) (input : SpotInput) (replies : RouterReplies)

def RouterReplies.binanceMid : Option ℚ := replies.book.map BookTicker.mid

def RouterReplies.dexPreview : Option OneInchQuotePreview :=
  replies.dex.map fun reply =>
    match reply with
    | .ok preview => preview
    | .error message => ⟨false, some message, none, input.amount, 0, none⟩

def dexGasUsd (side : Side) : ℚ :=
  match side with
  | .buy => settings.smartRouterDexGasUsdBuy
  | .sell => settings.smartRouterDexGasUsdSell

def RouterReplies.dexAvailable : Bool :=
  (replies.dexPreview input).any fun preview => preview.tradable ∧ preview.executablePrice.isSome

/-- The extra cost of 1inch, where it is available: its gas. -/
def dexExtraUsd : ℚ := if replies.dexAvailable input then dexGasUsd settings input.side else 0

/-- The summaries, before the savings are charged to the loser. -/
def binanceSummary : VenueQuoteSummary where
  venue := .binance
  available := replies.binance.available
  reason := replies.binance.reason
  executablePrice := replies.binance.executablePrice
  amountInHuman := replies.binance.amountInHuman
  amountOutHuman := replies.binance.amountOutHuman
  extraCostUsd := 0
  priceVsBinanceMidBps :=
    bpsVsMid replies.binance.executablePrice replies.binanceMid input.side

def oneinchSummary : VenueQuoteSummary :=
  let preview := replies.dexPreview input
  { venue := .oneinchBsc
    available := replies.dexAvailable input
    reason :=
      if replies.dexAvailable input then none
      else some ((preview.bind OneInchQuotePreview.message).getD
        "1inch or personal wallet unavailable")
    executablePrice := preview.bind OneInchQuotePreview.executablePrice
    amountInHuman := (preview.map OneInchQuotePreview.amountInHuman).getD input.amount
    amountOutHuman := (preview.map OneInchQuotePreview.amountOutHuman).getD 0
    extraCostUsd := dexExtraUsd settings input replies
    priceVsBinanceMidBps := preview.bind OneInchQuotePreview.priceVsBinanceBps }

/-- `blockReason`, which is there just where the trade is blocked. -/
def blockReason (winner : Option VenueQuoteSummary) : Option String :=
  match winner with
  | none => some
    (match input.side with
    | .buy => "No venue available — connect Binance keys and/or create a personal wallet with " ++
        "USDT on BSC."
    | .sell => "No venue available for this sell.")
  | some winner =>
    if input.side = .buy ∧ input.amount < settings.smartRouterMinUsdt then
      some s!"Minimum trade size is {text settings.smartRouterMinUsdt} USDT."
    else match winner.priceVsBinanceMidBps with
    | some vsMid =>
      if input.side = .buy ∧ vsMid > settings.smartRouterMaxBuyVsBinanceBps then
        some (s!"Best venue is still {(toFixed 2 (vsMid / 100)).render}% above Binance mid — " ++
          "wait for a better quote or use a more liquid pair.")
      else none
    | none => none

def getSmartExecutionQuote : SmartExecutionQuote :=
  let binance := binanceSummary input replies
  let oneinch := oneinchSummary settings input replies
  let winner := pickWinner input.side binance oneinch
  let charged (summary : VenueQuoteSummary) : VenueQuoteSummary :=
    { summary with extraCostUsd := max 0 winner.savingsUsd }
  let binanceCharged := if winner.venue = some .oneinchBsc then charged binance else binance
  let oneinchCharged := if winner.venue = some .binance then charged oneinch else oneinch
  let taken := winner.venue.map fun venue =>
    match venue with
    | .binance => binanceCharged
    | .oneinchBsc => oneinchCharged
  { binanceSymbol := input.binanceSymbol.toUpper
    side := input.side
    amount := input.amount
    binanceMid := replies.binanceMid
    binance := binanceCharged
    oneinch := oneinchCharged
    recommended := winner.venue
    savingsVsOtherBps := winner.savingsBps
    savingsVsOtherUsd := winner.savingsUsd
    blockTrade := (blockReason settings input taken).isSome
    blockReason := blockReason settings input taken }

end Router

/-! ### The property and the condition -/

def ExecutionVenue.other : ExecutionVenue → ExecutionVenue
  | binance => oneinchBsc
  | oneinchBsc => binance

namespace SmartExecutionQuote

variable (quote : SmartExecutionQuote)

def summary : ExecutionVenue → VenueQuoteSummary
  | .binance => quote.binance
  | .oneinchBsc => quote.oneinch

/-- What a unit that is paid out is worth: the mid of Binance for a BUY, a dollar for a SELL. -/
def outPrice : Option ℚ :=
  match quote.side with
  | .buy => quote.binanceMid
  | .sell => some 1

/-- What a venue gives at this price, less the gas where it is the chain. -/
def netOutcome (gas price : ℚ) (venue : ExecutionVenue) : ℚ :=
  price * (quote.summary venue).amountOutHuman -
    match venue with
    | .binance => 0
    | .oneinchBsc => gas

/-- The recommended venue is available, and the other one gives nothing better. -/
def RecommendsBest (gas : ℚ) : Prop :=
  ∀ venue ∈ quote.recommended, (quote.summary venue).available ∧
    ((quote.summary venue.other).available → ∀ price ∈ quote.outPrice,
      quote.netOutcome gas price venue.other ≤ quote.netOutcome gas price venue)

end SmartExecutionQuote

section Condition

variable (settings : SmartRouterSettings) (input : SpotInput) (replies : RouterReplies)

def RouterReplies.dexOut : ℚ :=
  ((replies.dexPreview input).map OneInchQuotePreview.amountOutHuman).getD 0

/-- Binance can be taken. -/
def RouterReplies.BinanceQuotes : Prop :=
  replies.binance.available ∧ replies.binance.executablePrice.isSome ∧
    0 < replies.binance.amountOutHuman

/-- 1inch can be taken, and pays out more than Binance where that can be taken. -/
def RouterReplies.DexPaysMore : Prop :=
  replies.dexAvailable input ∧ 0 < replies.dexOut input ∧
    (replies.BinanceQuotes → replies.binance.amountOutHuman < replies.dexOut input)

/-- Binance can be taken, and 1inch is not available or pays out no more. -/
def RouterReplies.BinancePaysMost : Prop :=
  replies.BinanceQuotes ∧
    (replies.dexAvailable input → replies.dexOut input ≤ replies.binance.amountOutHuman)

/-- What a unit that is paid out is worth. -/
def RouterReplies.outPrice : Option ℚ :=
  match input.side with
  | .buy => replies.binanceMid
  | .sell => some 1

/-- Where 1inch pays out more, what it pays out beyond Binance is worth its gas. The rest is about
a gas that is configured to be negative. -/
def GasPaysOff : Prop :=
  (replies.DexPaysMore input → replies.binance.available → ∀ price ∈ replies.outPrice input,
    dexGasUsd settings input.side ≤
      price * (replies.dexOut input - replies.binance.amountOutHuman)) ∧
  (replies.BinancePaysMost input → replies.dexAvailable input → ∀ price ∈ replies.outPrice input,
    price * (replies.dexOut input - replies.binance.amountOutHuman) ≤
      dexGasUsd settings input.side)

end Condition

/-! ### The recommended venue -/

section Recommended

variable {settings : SmartRouterSettings} {input : SpotInput} {replies : RouterReplies}

theorem candidate_binance : (binanceSummary input replies).candidate.isSome ↔
    replies.BinanceQuotes := by
  unfold VenueQuoteSummary.candidate binanceSummary RouterReplies.BinanceQuotes
  cases replies.binance.executablePrice <;> simp

theorem candidate_oneinch : (oneinchSummary settings input replies).candidate.isSome ↔
    replies.dexAvailable input ∧ 0 < replies.dexOut input := by
  unfold VenueQuoteSummary.candidate oneinchSummary RouterReplies.dexAvailable
    RouterReplies.dexOut
  cases replies.dexPreview input with
  | none => simp
  | some preview => cases isPrice : preview.executablePrice <;> simp [isPrice]

theorem eq_of_candidate {summary : VenueQuoteSummary} {found : Candidate}
    (candidate : summary.candidate = some found) :
    found.venue = summary.venue ∧ found.out = summary.amountOutHuman := by
  unfold VenueQuoteSummary.candidate at candidate
  split at candidate
  · split at candidate
    · obtain rfl := Option.some.inj candidate
      exact ⟨rfl, rfl⟩
    · cases candidate
  · cases candidate

theorem pickWinner_venue {side : Side} {binance oneinch : VenueQuoteSummary} :
    (pickWinner side binance oneinch).venue =
      match binance.candidate, oneinch.candidate with
      | some first, some second =>
        if second.out ≤ first.out then some first.venue else some second.venue
      | some first, none => some first.venue
      | none, some second => some second.venue
      | none, none => none := by
  unfold pickWinner
  rcases binance.candidate with _ | first <;> rcases oneinch.candidate with _ | second
  · rfl
  · rfl
  · rfl
  · by_cases le : second.out ≤ first.out <;>
    simp [List.insertionSort, List.orderedInsert, le]

theorem recommended_eq : (getSmartExecutionQuote settings input replies).recommended =
    (pickWinner input.side (binanceSummary input replies)
      (oneinchSummary settings input replies)).venue := rfl

theorem recommended_oneinch_iff :
    (getSmartExecutionQuote settings input replies).recommended = some .oneinchBsc ↔
      replies.DexPaysMore input := by
  rw [recommended_eq, pickWinner_venue]
  unfold RouterReplies.DexPaysMore
  rw [← and_assoc, ← @candidate_oneinch settings, ← @candidate_binance input]
  rcases isBinance : (binanceSummary input replies).candidate with _ | first <;>
    rcases isOneinch : (oneinchSummary settings input replies).candidate with _ | second
  · simp
  · simp [(eq_of_candidate isOneinch).1, oneinchSummary]
  · simp [(eq_of_candidate isBinance).1, binanceSummary]
  · obtain ⟨firstVenue, firstOut⟩ := eq_of_candidate isBinance
    obtain ⟨secondVenue, secondOut⟩ := eq_of_candidate isOneinch
    have outs : (second.out ≤ first.out) ↔
        ¬ replies.binance.amountOutHuman < replies.dexOut input := by
      rw [firstOut, secondOut, not_lt]
      rfl
    dsimp only
    split
    · next le => simp [firstVenue, binanceSummary, not_lt.mp (outs.mp le)]
    · next more =>
      simp [secondVenue, oneinchSummary, not_not.mp (outs.not.mp more)]

theorem recommended_binance_iff :
    (getSmartExecutionQuote settings input replies).recommended = some .binance ↔
      replies.BinancePaysMost input := by
  rw [recommended_eq, pickWinner_venue]
  unfold RouterReplies.BinancePaysMost
  rw [← @candidate_binance input]
  rcases isBinance : (binanceSummary input replies).candidate with _ | first <;>
    rcases isOneinch : (oneinchSummary settings input replies).candidate with _ | second
  · simp
  · simp [(eq_of_candidate isOneinch).1, oneinchSummary]
  · have positive := (candidate_binance.mp (Option.isSome_of_eq_some isBinance)).2.2
    have notTaken : ¬ (replies.dexAvailable input ∧ 0 < replies.dexOut input) := by
      rw [← @candidate_oneinch settings, isOneinch]
      nofun
    simp only [(eq_of_candidate isBinance).1, binanceSummary, Option.isSome_some, true_and,
      true_iff]
    exact fun available => (not_lt.mp fun pays => notTaken ⟨available, pays⟩).trans positive.le
  · obtain ⟨firstVenue, firstOut⟩ := eq_of_candidate isBinance
    obtain ⟨secondVenue, secondOut⟩ := eq_of_candidate isOneinch
    have available := (@candidate_oneinch settings).mp (Option.isSome_of_eq_some isOneinch)
    have outs : (second.out ≤ first.out) ↔
        replies.dexOut input ≤ replies.binance.amountOutHuman := by
      rw [firstOut, secondOut]
      rfl
    dsimp only
    split
    · next le => simp [firstVenue, binanceSummary, outs.mp le]
    · next more => simp [secondVenue, oneinchSummary, available.1, outs.not.mp more]

theorem summary_binance : ((getSmartExecutionQuote settings input replies).summary
      .binance).available = replies.binance.available ∧
    ((getSmartExecutionQuote settings input replies).summary .binance).amountOutHuman =
      replies.binance.amountOutHuman := by
  unfold SmartExecutionQuote.summary getSmartExecutionQuote
  dsimp only
  split <;> exact ⟨rfl, rfl⟩

theorem summary_oneinch : ((getSmartExecutionQuote settings input replies).summary
      .oneinchBsc).available = replies.dexAvailable input ∧
    ((getSmartExecutionQuote settings input replies).summary .oneinchBsc).amountOutHuman =
      replies.dexOut input := by
  unfold SmartExecutionQuote.summary getSmartExecutionQuote
  dsimp only
  split <;> exact ⟨rfl, rfl⟩

/-- The recommended venue is the best all-in just where 1inch is not taken for less than its gas. -/
theorem recommendsBest_iff :
    (getSmartExecutionQuote settings input replies).RecommendsBest
        (dexGasUsd settings input.side) ↔ GasPaysOff settings input replies := by
  unfold SmartExecutionQuote.RecommendsBest SmartExecutionQuote.netOutcome GasPaysOff
  rw [← @recommended_oneinch_iff settings, ← @recommended_binance_iff settings]
  have isPrice : (getSmartExecutionQuote settings input replies).outPrice =
      replies.outPrice input := rfl
  rw [isPrice]
  constructor
  · intro best
    refine ⟨fun taken available price isPrice => ?_, fun taken available price isPrice => ?_⟩
    · have better := (best _ taken).2 (summary_binance.1.trans available) price isPrice
      simp only [ExecutionVenue.other, summary_binance.2, summary_oneinch.2] at better
      linarith
    · have better := (best _ taken).2 (summary_oneinch.1.trans available) price isPrice
      simp only [ExecutionVenue.other, summary_binance.2, summary_oneinch.2] at better
      linarith
  · rintro ⟨paysOff, costsNothing⟩ venue taken
    cases venue with
    | oneinchBsc =>
      refine ⟨summary_oneinch.1.trans (recommended_oneinch_iff.mp taken).1,
        fun available price isPrice => ?_⟩
      have worth := paysOff taken (summary_binance.1.symm.trans available) price isPrice
      simp only [ExecutionVenue.other, summary_binance.2, summary_oneinch.2]
      linarith
    | binance =>
      refine ⟨summary_binance.1.trans (recommended_binance_iff.mp taken).1.1,
        fun available price isPrice => ?_⟩
      have worth := costsNothing taken (summary_oneinch.1.symm.trans available) price isPrice
      simp only [ExecutionVenue.other, summary_binance.2, summary_oneinch.2]
      linarith

end Recommended

/-- A BUY of 100 USDT at a price of a dollar: 1inch gives five cents more than Binance, and its gas
is twelve. -/
def fiveCentsMore : RouterReplies where
  book := some ⟨1, 1, one_pos, one_pos⟩
  binance := ⟨true, none, some (1001 / 1000), 100, 100000 / 1001⟩
  dex := some (.ok ⟨true, none, some (2000 / 1999), 100, 1999 / 20, some 5⟩)

def routerDefaults : SmartRouterSettings where
  smartRouterMinUsdt := 50
  smartRouterMaxBuyVsBinanceBps := 80
  smartRouterDexGasUsdBuy := 12 / 100
  smartRouterDexGasUsdSell := 1 / 10

/-- The router takes twelve cents of gas for five cents. -/
theorem not_recommendsBest_fiveCentsMore :
    ¬ (getSmartExecutionQuote routerDefaults ⟨"ETHUSDT", .buy, 100⟩ fiveCentsMore).RecommendsBest
      (dexGasUsd routerDefaults .buy) := by
  intro best
  have taken : (getSmartExecutionQuote routerDefaults ⟨"ETHUSDT", .buy, 100⟩
      fiveCentsMore).recommended = some .oneinchBsc := by
    decide +kernel
  have better := (best _ taken).2 (by decide +kernel) 1 (by decide +kernel)
  exact absurd better (by decide +kernel)

end GdslExchange.Spot
