/-
This file models the preflight of a manual trade, and the trade down to the call of the order
service. The preflight first reads all it looks at, and then lists what blocks the order.

Numbers are exact and finite.
-/

import GdslExchange.CexManual.Account

namespace GdslExchange.CexManual

open Async.Program hiding await
open Cex (BookTicker ManualTradeRequest Side freeAsset stripQuote)
open Numeric
open Orders (CreateOrderInput ExchangeConnection SymbolRules)

/-! ### Symbols -/

def normalizeSymbol (symbol : String) : String := (String.ofList (symbol.toList.erase '/')).toUpper

def baseFromCexSymbol (raw : String) : String := (stripQuote raw).toUpper

inductive QuoteAsset where
  | usdt
  | usdc
deriving DecidableEq

def QuoteAsset.name : QuoteAsset → String
  | usdt => "USDT"
  | usdc => "USDC"

structure ResolvedCexSymbol where
  baseAsset : String
  quoteAsset : QuoteAsset

def ResolvedCexSymbol.symbol (resolved : ResolvedCexSymbol) : String :=
  resolved.baseAsset ++ resolved.quoteAsset.name

def ResolvedCexSymbol.pair (resolved : ResolvedCexSymbol) : String :=
  resolved.baseAsset ++ "/" ++ resolved.quoteAsset.name

/-- The balances that `loadBalances` returns, of which the preflight reads these. -/
structure Balances where
  freeUsdt : ℚ
  freeUsdc : ℚ
  freeBase : ℚ
  error : Option String
deriving DecidableEq

def resolveCexTradeSymbol (rawSymbol : String) (balances : Balances) (side : Side)
    (spendQuoteUsd : Option ℚ) : ResolvedCexSymbol :=
  let need := spendQuoteUsd.getD 0
  let spends : Bool := side = .buy ∧ need > 0
  let quoteAsset :=
    if spends ∧ balances.freeUsdt ≥ need then .usdt
    else if spends ∧ balances.freeUsdc ≥ need then .usdc
    else if balances.freeUsdc > balances.freeUsdt ∧ balances.freeUsdc ≥ 5 then .usdc
    else .usdt
  ⟨baseFromCexSymbol rawSymbol, quoteAsset⟩

/-! ### Readings -/

/-- What the deployment allows. -/
structure Env where
  liveAutomationEnabled : Bool
  maintenanceReason : Option String
  cexLiveMaxOrderUsdt : ℚ

def resolveConnectionId (userId : String) : Call (Option String) := do
  let conn ← await (.findTradeConnection userId)
  pure (conn.map fun row => row.id)

def loadBalances (userId : String) (connectionId : Option String) (baseAsset : String) :
    Call Balances :=
  match connectionId.filter (· ≠ "") with
  | none => pure ⟨0, 0, 0, none⟩
  | some id => do
    let found ← await (.findConnection id userId)
    match found with
    | none => pure ⟨0, 0, 0, none⟩
    | some conn =>
      recover (do
        let apiKey ← await (.decryptSecret conn.encryptedApiKey)
        let apiSecret ← await (.decryptSecret conn.encryptedSecret)
        let balances ← await (.getBalances apiKey apiSecret)
        pure ⟨freeAsset balances "USDT", freeAsset balances "USDC", freeAsset balances baseAsset,
          none⟩)
        fun message => pure ⟨0, 0, 0, some message⟩

structure ReadinessConnection where
  id : String
  label : Option String
  exchange : String
deriving DecidableEq

structure AutomationReadiness where
  hasRiskPolicyEnabled : Bool
  hasSafeTradableConnection : Bool
  liveAutomationEnabled : Bool
  maintenanceReason : Option String
  blockers : List String
  safeConnections : List ReadinessConnection
deriving DecidableEq

def AutomationReadiness.ready (readiness : AutomationReadiness) : Bool :=
  readiness.blockers.length = 0

def push (condition : Prop) [Decidable condition] (message : String) : List String :=
  if condition then [message] else []

/-- What is wrong with the connection that is asked for. -/
def selectedBlockers (connections : List ConnectionRow) (selected : Option String) : List String :=
  match selected.filter (· ≠ "") with
  | none => []
  | some id =>
    match connections.find? fun row => row.id = id with
    | none => ["Selected Binance connection was not found or is inactive."]
    | some row =>
      if !row.canTrade then ["Selected Binance key does not have trading permission enabled."]
      else push row.canWithdraw "Selected Binance key has withdraw enabled. Use a trade-only key."

/-- The end of `computeAutomationReadiness`, after its reads. -/
def automationReadiness (env : Env) (riskRule : Option RiskRuleRow)
    (connections : List ConnectionRow) (selected : Option String) : AutomationReadiness :=
  let hasRiskPolicyEnabled : Bool := riskRule.any fun rule => rule.isEnabled
  let safeTradableConnections := connections.filter fun row => row.canTrade ∧ !row.canWithdraw
  let hasSafeTradableConnection : Bool := safeTradableConnections.length > 0
  { hasRiskPolicyEnabled := hasRiskPolicyEnabled
    hasSafeTradableConnection := hasSafeTradableConnection
    liveAutomationEnabled := env.liveAutomationEnabled
    maintenanceReason := env.maintenanceReason
    blockers :=
      push (!env.liveAutomationEnabled)
        (match env.maintenanceReason.filter (· ≠ "") with
          | some reason => "Live automation is currently disabled: " ++ reason
          | none => "Live automation is currently disabled by operator.") ++
      push (!hasSafeTradableConnection)
        "No active trade-only Binance key found (withdraw must be disabled)." ++
      push (!hasRiskPolicyEnabled) "Risk policy is not enabled. Configure it in Settings." ++
      selectedBlockers connections selected
    safeConnections := safeTradableConnections.map fun row => ⟨row.id, row.label, row.exchange⟩ }

def computeAutomationReadiness (env : Env) (userId : String) (selected : Option String) :
    Call AutomationReadiness := do
  let riskRule ← await (.findNewestRiskRule userId)
  let connections ← await (.findBinanceConnections userId)
  pure (automationReadiness env riskRule connections selected)

/-- All that the preflight reads. -/
structure Readings where
  connectionId : Option String
  balances : Balances
  readiness : AutomationReadiness
  book : Option BookTicker
  rules : Option SymbolRules
  tech : TechnicalSnapshot
deriving DecidableEq

def baseAssetOf (request : ManualTradeRequest) : String :=
  baseFromCexSymbol (normalizeSymbol request.symbol)

def resolvedOf (request : ManualTradeRequest) (balances : Balances) : ResolvedCexSymbol :=
  resolveCexTradeSymbol request.symbol balances request.side
    (if request.side = .buy then some (request.quoteOrderQty.getD 0) else none)

def readForPreview (env : Env) (userId : String) (request : ManualTradeRequest) :
    Call Readings := do
  let connectionId ← resolveConnectionId userId
  let balances ← loadBalances userId connectionId (baseAssetOf request)
  let symbol := (resolvedOf request balances).symbol
  let readiness ← computeAutomationReadiness env userId connectionId
  let book ← recover (await (.fetchBookTicker symbol)) fun _ => pure none
  let rules ← await (.order (.tryGetBinanceSymbolRules symbol))
  let tech ← await (.technicalVote symbol)
  pure ⟨connectionId, balances, readiness, book, rules, tech⟩

/-! ### The preflight -/

inductive SignalAlignment where
  | aligned
  | against
  | neutral
deriving DecidableEq

/-- `ManualPreflight`, whose order is what the trade goes on with. -/
structure ManualPreflight extends Cex.ManualPreflight where
  warnings : List String
  estBaseQty : Option ℚ
  minNotional : Option ℚ
  stepSize : Option ℚ
  signalAlignment : SignalAlignment

def minOrderUsd : ℚ := 5

def estPriceOf (side : Side) (book : Option BookTicker) : Option ℚ :=
  match side with
  | .buy => book.bind fun book => book.ask.or book.mid
  | .sell => book.bind fun book => book.bid.or book.mid

/-- The base units that a SELL asks for. -/
def requestedQuantity (request : ManualTradeRequest) (freeBase : ℚ) : ℚ :=
  match request.fraction.filter (· > 0) with
  | some fraction => freeBase * min 1 fraction
  | none => request.quantity.getD 0

def wholeSteps (rules : SymbolRules) (quantity : ℚ) : ℚ :=
  let step := rules.lot.stepSize.value
  if step > 0 then ⌊quantity / step⌋ * step else quantity

/-- The base units that a SELL goes on with. -/
def sellQuantity (request : ManualTradeRequest) (seen : Readings) : ℚ :=
  let requested := requestedQuantity request seen.balances.freeBase
  match seen.rules with
  | none => requested
  | some rules => wholeSteps rules requested

def commonBlockers (env : Env) (request : ManualTradeRequest) (seen : Readings) : List String :=
  let estPrice := estPriceOf request.side seen.book
  push (seen.connectionId.filter (· ≠ "") = none)
    "No trade-only Binance connection. Add API keys with trading enabled and withdrawals disabled."
  ++ push (!env.liveAutomationEnabled) "Live trading is disabled on this deployment."
  ++ seen.readiness.blockers
  ++ push (estPrice.all fun price => price ≤ 0)
    ("No live price for " ++ (resolvedOf request seen.balances).symbol ++ ".")

/-- The notional that the exchange requires is not met. -/
def TooSmall (rules : Option SymbolRules) (notional : ℚ) : Prop :=
  ∃ found ∈ rules, found.minNotional > 0 ∧ notional < found.minNotional

instance (rules : Option SymbolRules) (notional : ℚ) : Decidable (TooSmall rules notional) := by
  unfold TooSmall; infer_instance

def minNotionalText (rules : Option SymbolRules) : String :=
  text ((rules.map SymbolRules.minNotional).getD 0)

def buyBlockers (env : Env) (request : ManualTradeRequest) (seen : Readings) : List String :=
  let resolved := resolvedOf request seen.balances
  let quoteOrderQty := request.quoteOrderQty.getD 0
  let quote := resolved.quoteAsset.name
  let quoteFree :=
    if resolved.quoteAsset = .usdc then seen.balances.freeUsdc else seen.balances.freeUsdt
  if quoteOrderQty ≤ 0 then ["Enter how much " ++ quote ++ " to spend."]
  else
    push (quoteOrderQty < minOrderUsd) ("Minimum order is $" ++ text minOrderUsd ++ ".")
    ++ push (quoteOrderQty > env.cexLiveMaxOrderUsdt)
      ("Order exceeds the $" ++ text env.cexLiveMaxOrderUsdt ++ " per-order cap.")
    ++ push (quoteOrderQty > quoteFree)
      ("Not enough " ++ quote ++ ": have $" ++ (toFixed 2 quoteFree).render ++ ", need $" ++
        (toFixed 2 quoteOrderQty).render ++ " for " ++ resolved.pair ++ ".")
    ++ push (TooSmall seen.rules quoteOrderQty)
      ("Binance requires at least $" ++ minNotionalText seen.rules ++ " notional on " ++
        resolved.symbol ++ ".")

/-- The steps of a SELL fall short of the smallest lot. -/
def BelowMinQty (rules : Option SymbolRules) (quantity : ℚ) : Prop :=
  ∃ found ∈ rules, quantity < found.lot.minQty.value

instance (rules : Option SymbolRules) (quantity : ℚ) : Decidable (BelowMinQty rules quantity) := by
  unfold BelowMinQty; infer_instance

def sellBlockers (request : ManualTradeRequest) (seen : Readings) : List String :=
  let baseAsset := baseAssetOf request
  let freeBase := seen.balances.freeBase
  let requested := requestedQuantity request freeBase
  let quantity := sellQuantity request seen
  let estQuoteValue := (estPriceOf .sell seen.book).map fun price => quantity * price
  (if requested ≤ 0 then ["Enter how much " ++ baseAsset ++ " to sell."]
    else push (requested > freeBase)
      ("Free " ++ baseAsset ++ " balance is " ++ text freeBase ++ " — cannot sell " ++
        text requested ++ "."))
  ++ push (BelowMinQty seen.rules quantity)
    ("Below the Binance minimum quantity of " ++
      ((seen.rules.map fun rules => rules.lot.minQty.render).getD "") ++ " " ++ baseAsset ++ ".")
  ++ push (∃ value ∈ estQuoteValue, TooSmall seen.rules value)
    ("Sale value $" ++ (toFixed 2 (estQuoteValue.getD 0)).render ++ " is below the $" ++
      minNotionalText seen.rules ++ " Binance minimum.")

def spreadBps (book : Option BookTicker) : Option ℚ := do
  let ticker ← book
  let bid ← ticker.bid
  let ask ← ticker.ask
  let mid ← ticker.mid.filter (· > 0)
  pure ((ask - bid) / mid * 10000)

/-- The warnings of the technical agent, and where the order stands to its read. -/
def signalRead (side : Side) (tech : TechnicalSnapshot) : List String × SignalAlignment :=
  match side with
  | .buy =>
    let bearish := tech.context.filter fun ctx => ctx.available ∧ ctx.alignmentScore ≤ -1 / 2
    let nearHigh := (tech.context.bind MarketContext.pctFromHigh52w).filter (· > -2)
    (push (tech.vote = .avoid) ("Technical agent says AVOID: " ++ tech.reason)
      ++ (match bearish with
        | some ctx => [toString ctx.bearish ++ "/" ++ toString ctx.total ++
            " higher timeframes are bearish."]
        | none => [])
      ++ push (nearHigh.isSome)
        "Buying at 52-week highs — confirm this is a breakout, not exhaustion.",
     if bearish.isSome then .against
     else match tech.vote with
      | .avoid => .against
      | .buy => .aligned
      | .hold => .neutral)
  | .sell =>
    if tech.vote = .buy then (["Technical agent still reads BUY: " ++ tech.reason], .against)
    else ([], .neutral)

/-- The end of `previewManualTrade`, after its reads. -/
def preflight (env : Env) (request : ManualTradeRequest) (seen : Readings) : ManualPreflight :=
  let resolved := resolvedOf request seen.balances
  let estPrice := estPriceOf request.side seen.book
  let quoteOrderQty := request.quoteOrderQty.getD 0
  let quantity := sellQuantity request seen
  let blockers := commonBlockers env request seen ++ match request.side with
    | .buy => buyBlockers env request seen
    | .sell => sellBlockers request seen
  let spread := (spreadBps seen.book).filter (· > 15)
  let (signalWarnings, signalAlignment) := signalRead request.side seen.tech
  { ok := blockers.length = 0
    blockers := blockers
    warnings := (match spread with
      | some bps => ["Spread is " ++ (toFixed 1 bps).render ++
          " bps — a market order will pay that."]
      | none => []) ++ signalWarnings
    symbol := resolved.symbol
    side := request.side
    quoteOrderQty := match request.side with
      | .buy => some quoteOrderQty
      | .sell => none
    quantity := match request.side with
      | .buy => none
      | .sell => some quantity
    estPrice := estPrice
    estBaseQty := match request.side with
      | .buy => if quoteOrderQty ≤ 0 then none
        else (estPrice.filter (· > 0)).map fun price => quoteOrderQty / price
      | .sell => some quantity
    estQuoteValue := match request.side with
      | .buy => if quoteOrderQty ≤ 0 then none else some quoteOrderQty
      | .sell => estPrice.map fun price => quantity * price
    minNotional := seen.rules.map SymbolRules.minNotional
    stepSize := seen.rules.map fun rules => rules.lot.stepSize.value
    signalAlignment := signalAlignment }

def previewManualTrade (env : Env) (userId : String) (request : ManualTradeRequest) :
    Call ManualPreflight := do
  let seen ← readForPreview env userId request
  pure (preflight env request seen)

/-! ### The trade -/

/-- What `executeManualTrade` asks the order service for. -/
def orderInput (userId : String) (request : Cex.OrderRequest) : CreateOrderInput where
  userId := userId
  exchangeConnectionId := request.exchangeConnectionId
  symbol := request.symbol
  side := match request.side with
    | .buy => .buy
    | .sell => .sell
  type := .market
  quantity := request.quantity
  quoteOrderQty := request.quoteOrderQty
  price := request.price

/-- `executeManualTrade` down to the call of the order service. -/
def manualOrder (env : Env) (userId : String) (request : ManualTradeRequest) :
    Call CreateOrderInput := do
  let preflight ← previewManualTrade env userId request
  throwIf (!preflight.ok) (preflight.blockers.head?.getD "Manual trade preflight failed")
  let connectionId ← resolveConnectionId userId
  let id ← orThrow (connectionId.filter (· ≠ "")) "No trade-only Binance connection"
  pure (orderInput userId (Cex.manualRequest id preflight.toManualPreflight))

/-- `executeManualTrade` up to the end of the gates of `placeOrder`; what follows submits the order
and books the fill. -/
def passGates (env : Env) (userId : String) (request : ManualTradeRequest) :
    Call (ExchangeConnection × ℚ) := do
  let input ← manualOrder env userId request
  orderService.embed (Orders.prepareOrder input)

end GdslExchange.CexManual
