/-
This file models the four writers of the config row: the tick of the super
machine, the manual skim, the exit overrides and the manual trade.

Each reads the row once and later writes columns computed from what it read.
-/

import GdslExchange.Cex.Machine

namespace GdslExchange.Cex

open Async.Program
open Exits (ExitDecision ExitReason)
open Jupiter (profitPct)
open Numeric

/-- What the deployment allows. -/
structure Env where
  liveAutomationEnabled : Bool

/-- `a || b` on numbers. -/
def orElse (value fallback : ℚ) : ℚ := if value ≠ 0 then value else fallback

def freeAsset (balances : List AdapterBalance) (asset : String) : ℚ :=
  ((balances.find? fun balance => balance.asset = asset).map AdapterBalance.free).getD 0

def sumQuoteStables (balances : List AdapterBalance) : ℚ :=
  (["USDT", "USDC", "BUSD", "FDUSD"].map (freeAsset balances)).sum

/-- `symbol.replace(/USDT$/, '')`. -/
def stripUsdt (symbol : String) : String :=
  if symbol.endsWith "USDT" then (symbol.dropEnd 4).toString else symbol

def resolveConnectionId (preferred : Option String) : Call (Option String) :=
  match preferred.filter (· ≠ "") with
  | some connId => do
    let usable ← await (.findTradingConnection connId)
    if usable then pure (some connId) else await .findAnyConnection
  | none => await .findAnyConnection

def log (message : String) : Call Unit := do
  let _ ← await (.appendTradingLog message)
  pure ()

def update (data : Write) : Call Unit := do
  let _ ← await (.write data)
  pure ()

/-! ### Skims -/

/-- What a filled skim writes: the rest of the lot, computed from the lot as it was read. -/
def skimWrite (long : CexOpenLong) (soldQty fillPrice : ℚ) : Write :=
  let fraction := min (95 / 100) (soldQty / long.baseQty)
  .skim (max 0 (long.baseQty - soldQty)) (max 0 (long.quoteSpent * (1 - fraction)))
    (long.skimmedUsd + (fillPrice - long.entryPrice) * soldQty)

/-- The price of a fill, or the mark where the exchange reports none. -/
def fillPriceOf (filled : PlacedOrder) (mark : ℚ) : ℚ :=
  if filled.avgFillPrice.getD 0 > 0 then filled.avgFillPrice.getD 0 else mark

def sellRequest (connId : String) (long : CexOpenLong) (quantity mark : ℚ) : OrderRequest where
  exchangeConnectionId := connId
  symbol := long.symbol
  side := .sell
  quantity := quantity
  price := some mark

structure SkimResult where
  pair : String
  soldQty : ℚ
  markPrice : ℚ
  pnlPct : ℚ
  skimmedUsdTotal : ℚ

/-- `book?.bid ?? book?.mid`. -/
def sellMark (book : Option BookTicker) : Option ℚ :=
  book.bind fun ticker => ticker.bid.or ticker.mid

/-- `book?.ask ?? book?.mid`. -/
def buyMark (book : Option BookTicker) : Option ℚ :=
  book.bind fun ticker => ticker.ask.or ticker.mid

def skimCexPositionProfit : Call SkimResult := do
  let row ← await .findConfig
  let long ← orThrow (row.bind toOpenLong) "No open Binance position to skim"
  let connId? ← resolveConnectionId (row.bind ConfigRow.exchangeConnectionId)
  let connId ← orThrow connId? "No trade-only Binance connection linked"
  let conn? ← await (.loadConnection connId)
  let keys ← orThrow conn? "Binance connection not found"
  let book ← await (.fetchBookTicker long.symbol)
  let mark ← orThrow ((sellMark book).filter fun mark => mark > 0)
    "No live Binance price right now — try again in a few seconds"
  let balances ← await (.getBalances keys)
  let freeBase := freeAsset balances (stripQuote long.symbol)
  let slice := computeCexSkimSlice long mark (some freeBase)
  match slice.blockedReason with
  | some reason =>
    failed (if slice.pnlPct ≤ 5 / 100 then
        long.pair ++ " is not in profit yet (" ++ (toFixed 2 slice.pnlPct).render ++
          "% vs entry) — nothing to skim"
      else reason ++ ". Let profit grow or close the position instead.")
  | none => do
    let filled ← await (.placeOrder (sellRequest connId long slice.skimQty mark))
    let soldQty := orElse (filled.filledQuantity.getD 0) slice.skimQty
    let fillPrice := fillPriceOf filled mark
    let realized := (fillPrice - long.entryPrice) * soldQty
    update (skimWrite long soldQty fillPrice)
    log ("[cex-sm] Manual skim " ++ long.pair ++ " +$" ++ (toFixed 2 realized).render ++
      " — position still running")
    pure ⟨long.pair, soldQty, fillPrice, slice.pnlPct, long.skimmedUsd + realized⟩

/-! ### Overrides -/

def setCexPositionExitOverrides (overrides : Overrides) : Call Bool := do
  let row ← await .findConfig
  if ((row.bind ConfigRow.openSymbol).filter (· ≠ "")).isNone then pure false
  else if overrides = {} then pure true
  else do
    update (.setOverrides overrides)
    pure true

/-! ### The tick -/

def reasonText : ExitReason → String
  | .takeProfit => "take_profit"
  | .profitSkim => "profit_skim"
  | .stopLoss => "stop_loss"
  | .trailingStop => "trailing_stop"

/-- Sell the profit slice and keep the runner. A failure is logged, and the lot stays. -/
def tickSkim (connId : String) (long : CexOpenLong) (decision : ExitDecision) (mark : ℚ) :
    Call Unit :=
  recover (do
    let filled ← await (.placeOrder (sellRequest connId long decision.sellQty mark))
    let soldQty := orElse (filled.filledQuantity.getD 0) decision.sellQty
    let fillPrice := fillPriceOf filled mark
    update (skimWrite long soldQty fillPrice)
    log ("[cex-sm] Profit skim " ++ long.pair ++ " +$" ++
      (toFixed 2 ((fillPrice - long.entryPrice) * soldQty)).render ++ " at +" ++
      (toFixed 2 (profitPct long.entryPrice mark)).render ++ "% — position still running"))
    fun message => log ("[cex-sm] profit skim SELL failed: " ++ message)

/-- Sell the whole lot and clear it. A failure is logged, and the lot stays for the next tick. -/
def tickClose (connId : String) (long : CexOpenLong) (reason : ExitReason)
    (decision : ExitDecision) (mark : ℚ) : Call Unit :=
  recover (do
    let _ ← await (.placeOrder (sellRequest connId long decision.sellQty mark))
    update .clearOpenLot
    log ("[cex-sm] " ++ reasonText reason ++ " " ++
      (toFixed 2 (profitPct long.entryPrice mark)).render ++ "% — sold " ++ long.pair))
    fun message => log ("[cex-sm] " ++ reasonText reason ++ " SELL failed: " ++ message)

/-- What the management of an open lot leaves to the tick: nothing more to do, or the lot with
which the council is asked. -/
inductive Managed where
  | finished
  | goOn (long : Option CexOpenLong)

/-- The skim at the take-profit runs unless one has just run. -/
def takeSkim (wanted : Bool) : Call Bool := if wanted then await .takeSkim else pure false

/-- A new peak is written without waiting for it. -/
def postPeak (peakWrite : Option ℚ) : Call Unit :=
  match peakWrite with
  | some peak => await (.postPeak peak)
  | none => pure ()

def act (connId : String) (long : CexOpenLong) (decision : ExitDecision) (mark : ℚ) :
    Call Managed :=
  match decision.reason with
  | some .profitSkim => do
    tickSkim connId long decision mark
    pure .finished
  | some reason => do
    tickClose connId long reason decision mark
    pure .finished
  | none => pure (.goOn (some long))

def tickExit (connId : String) (long : CexOpenLong) (freeBase mark : ℚ) : Call Managed := do
  let exit ← await .getCexExitSettings
  let slice := computeCexSkimSlice long mark (some freeBase)
  let ready ← takeSkim (exit.enabled ∧
    profitPct long.entryPrice mark ≥ long.takeProfitPct.getD exit.takeProfitPct ∧
      exit.profitSkim ∧ slice.blockedReason = none)
  let decision := long.decideExit exit freeBase ready mark
  postPeak decision.peakWrite
  act connId long decision mark

/-- The open lot of a tick: a lot whose coin has left the account is cleared. -/
def manageLong (connId : String) (long : CexOpenLong) (balances : List AdapterBalance) :
    Call Managed := do
  let baseAsset := stripUsdt long.symbol
  let freeBase := freeAsset balances baseAsset
  if long.IsGhost freeBase then do
    update .clearOpenLot
    log ("[cex-sm] Cleared stale " ++ long.pair ++ " lot — no " ++ baseAsset ++
      " balance on Binance")
    pure (.goOn none)
  else do
    let book ← await (.fetchBookTicker long.symbol)
    match sellMark book with
    | none => pure (.goOn (some long))
    | some mark => tickExit connId long freeBase mark

def buyCooldownMs : ℕ := 480000

def buyRequest (connId symbol : String) (sizeUsd price : ℚ) : OrderRequest where
  exchangeConnectionId := connId
  symbol := symbol
  side := .buy
  quantity := sizeUsd
  quoteOrderQty := some sizeUsd
  price := some price

def tickBuy (connId symbol : String) (decision : CouncilDecision) (price : ℚ) : Call Unit :=
  recover (do
    let filled ← await (.placeOrder (buyRequest connId symbol decision.orderSizeUsd price))
    let qty := filled.filledQuantity.getD 0
    if qty ≤ 0 then log "[cex-sm] BUY returned zero fill"
    else do
      let spent := orElse (filled.quoteQuantity.getD 0) decision.orderSizeUsd
      let pair := stripUsdt symbol ++ "/USDT"
      let now ← await .currentTime
      update (.councilBuy ⟨symbol, pair, fillPriceOf filled (spent / qty), qty, spent, now⟩)
      log ("[cex-sm] Council BUY " ++ pair ++ " $" ++ (toFixed 2 spent).render ++
        " · consensus " ++ (toFixed 0 (decision.consensus * 100)).render ++ "%"))
    fun message => log ("[cex-sm] BUY failed: " ++ message)

def tickCouncil (row : ConfigRow) (connId : String) (long : Option CexOpenLong)
    (balances : List AdapterBalance) : Call Unit := do
  let decision ← await (.cexCouncilEvaluate ⟨row.maxTradeUsd, row.watchSymbol, long.isSome⟩
    (sumQuoteStables balances))
  if !decision.isBuy ∨ decision.orderSizeUsd < 5 then pure ()
  else if long.isSome then pure ()
  else do
    let now ← await .currentTime
    if now - row.lastBuyAt.getD 0 < buyCooldownMs then pure ()
    else do
      let book ← await (.fetchBookTicker row.watchSymbol)
      match (buyMark book).filter fun price => price > 0 with
      | none => pure ()
      | some price => tickBuy connId row.watchSymbol decision price

def keepConnection (row : ConfigRow) (connId : String) : Call Unit :=
  if row.exchangeConnectionId ≠ some connId then update (.connect connId) else pure ()

/-- The part of a tick in which the exchange can be traded on. -/
def tickConnected (row : ConfigRow) (connId : String) (keys : ApiKeys) : Call Unit := do
  let balances ← await (.getBalances keys)
  let now ← await .currentTime
  update (.tick now)
  match toOpenLong row with
  | none => tickCouncil row connId none balances
  | some long => do
    let managed ← manageLong connId long balances
    match managed with
    | .finished => pure ()
    | .goOn long => tickCouncil row connId long balances

/-- `tickUser`, on the row as the watcher read it. -/
def tickUser (env : Env) (row : ConfigRow) : Call Unit :=
  if !row.enabled ∨ row.emergencyStop ∨ !env.liveAutomationEnabled then pure ()
  else do
    let connId? ← resolveConnectionId row.exchangeConnectionId
    match connId? with
    | none => log "[cex-sm] No trade-only Binance connection"
    | some connId => do
      keepConnection row connId
      let ready ← await (.computeAutomationReadiness connId)
      if !ready then pure ()
      else do
        let conn? ← await (.loadConnection connId)
        match conn? with
        | none => pure ()
        | some keys => tickConnected row connId keys

/-- The user's part of `tickAll`: the row as it was read, and a failed tick is logged. -/
def tickAll (env : Env) : Call Unit := do
  let found ← await .findConfig
  match found.filter fun row => row.enabled ∧ !row.emergencyStop with
  | none => pure ()
  | some row => recover (tickUser env row) fun _ => pure ()

/-! ### The manual desk -/

def baseFromCexSymbol (symbol : String) : String := (stripQuote symbol).toUpper

structure ManualTradeResult where
  orderId : String
  side : Side
  symbol : String
  pair : String
  filledQty : ℚ
  quoteValue : ℚ
  avgPrice : Option ℚ
  exitsAttached : Bool
  note : Option String

/-- What a filled manual BUY writes beside the lot it finds: another symbol's lot stays, a lot of
the symbol is added to, and otherwise a lot is opened. -/
def manualBuyWrite (existing : Option ConfigRow) (symbol pair : String)
    (filledQty quoteValue avgPrice : ℚ) (now : ℕ) : Option Write :=
  let prevSymbol := (existing.bind ConfigRow.openSymbol).filter (· ≠ "")
  let prevQty := (existing.bind ConfigRow.openBaseQty).getD 0
  if prevSymbol.isSome ∧ prevSymbol ≠ some symbol ∧ prevQty > 0 then none
  else if prevSymbol = some symbol ∧ prevQty > 0 then
    let prevCost := (existing.bind ConfigRow.openQuoteSpent).getD 0
    let newQty := prevQty + filledQty
    let newCost := prevCost + quoteValue
    some (.manualAdd ⟨symbol, pair, newCost / newQty, newQty, newCost,
      (existing.bind ConfigRow.openedAt).getD now⟩)
  else some (.manualOpen ⟨symbol, pair, avgPrice, filledQty, quoteValue, now⟩)

/-- Write what a manual BUY writes, or note that it writes nothing. -/
def landManualBuy (existing : Option ConfigRow) (symbol : String) (data? : Option Write) :
    Call (Option String) :=
  match data? with
  | some data => do
    update data
    pure none
  | none => pure (some ("Open lot stays on " ++ (existing.bind ConfigRow.openSymbol).getD "" ++
      " — sell or flatten it before tracking " ++ symbol ++ "."))

/-- The bookkeeping of a manual BUY, and its note. -/
def bookManualBuy (symbol pair : String) (filledQty quoteValue avgPrice : ℚ)
    (attachExits : Bool) : Call (Option String) := do
  let existing ← await .findConfig
  let now ← await .currentTime
  let note ← landManualBuy existing symbol
    (manualBuyWrite existing symbol pair filledQty quoteValue avgPrice now)
  if attachExits ∧ !((existing.map ConfigRow.enabled).getD false) then
    pure (note.or (some ("Exits are attached but Auto Binance is switched off — turn it on for " ++
      "take-profit and stop-loss to run.")))
  else pure note

/-- The bookkeeping of a manual SELL: it flattens or shrinks the lot of its symbol. -/
def bookManualSell (symbol : String) (filledQty : ℚ) : Call (Option String) := do
  let existing ← await .findConfig
  let bookedQty := (existing.bind ConfigRow.openBaseQty).getD 0
  if existing.bind ConfigRow.openSymbol = some symbol ∧ bookedQty > 0 then do
    let remaining := bookedQty - filledQty
    if remaining ≤ bookedQty * (5 / 100) then do
      update .manualClose
      pure (some "Closed the tracked Auto Binance position.")
    else do
      let spent := (existing.bind ConfigRow.openQuoteSpent).getD 0
      update (.manualReduce remaining (spent * (remaining / bookedQty)))
      pure (some ("Reduced the tracked Auto Binance position to " ++ text remaining ++ " " ++
        baseFromCexSymbol symbol ++ "."))
  else pure none

/-- A filled manual trade: what was bought or sold, for how much, and at which price. -/
structure ManualFill where
  symbol : String
  pair : String
  side : Side
  filledQty : ℚ
  quoteValue : ℚ
  avgPrice : Option ℚ

def manualFill (preflight : ManualPreflight) (filled : PlacedOrder) : ManualFill :=
  let symbol := preflight.symbol
  let baseAsset := baseFromCexSymbol symbol
  let filledQty := filled.filledQuantity.getD 0
  let quoteValue := orElse (filled.quoteQuantity.getD 0) (preflight.estQuoteValue.getD 0)
  { symbol := symbol
    pair := if symbol.endsWith "USDC" then baseAsset ++ "/USDC" else baseAsset ++ "/USDT"
    side := preflight.side
    filledQty := filledQty
    quoteValue := quoteValue
    avgPrice :=
      if filled.avgFillPrice.getD 0 > 0 then filled.avgFillPrice
      else if filledQty > 0 then some (quoteValue / filledQty)
      else preflight.estPrice }

/-- The fill is a BUY whose lot is tracked. -/
def ManualFill.Tracked (fill : ManualFill) : Prop :=
  fill.side = .buy ∧ fill.filledQty > 0 ∧ fill.avgPrice.getD 0 > 0

instance (fill : ManualFill) : Decidable fill.Tracked := by
  unfold ManualFill.Tracked; infer_instance

def bookManualTrade (fill : ManualFill) (attachExits : Bool) : Call (Option String) :=
  if fill.Tracked then
    bookManualBuy fill.symbol fill.pair fill.filledQty fill.quoteValue (fill.avgPrice.getD 0)
      attachExits
  else if fill.side = .sell ∧ fill.filledQty > 0 then bookManualSell fill.symbol fill.filledQty
  else pure none

def manualRequest (connId : String) (preflight : ManualPreflight) : OrderRequest where
  exchangeConnectionId := connId
  symbol := preflight.symbol
  side := preflight.side
  quantity := match preflight.side with
    | .buy => preflight.quoteOrderQty.getD 0
    | .sell => preflight.quantity.getD 0
  quoteOrderQty := match preflight.side with
    | .buy => preflight.quoteOrderQty
    | .sell => none
  price := preflight.estPrice

def executeManualTrade (request : ManualTradeRequest) : Call ManualTradeResult := do
  let preflight ← await (.previewManualTrade request)
  throwIf (!preflight.ok) (preflight.blockers.head?.getD "Manual trade preflight failed")
  let connection? ← await .findAnyConnection
  let connId ← orThrow connection? "No trade-only Binance connection"
  let filled ← await (.placeOrder (manualRequest connId preflight))
  let fill := manualFill preflight filled
  let note ← bookManualTrade fill request.attachExits
  log ("[cex-manual] " ++ (if fill.side = .buy then "BUY" else "SELL") ++ " " ++ fill.pair ++
    " " ++ text fill.filledQty ++ " @ " ++
    ((fill.avgPrice.map fun price => (toFixed 6 price).render).getD "—") ++ " ($" ++
    (toFixed 2 fill.quoteValue).render ++ ")")
  pure
    { orderId := filled.id
      side := fill.side
      symbol := fill.symbol
      pair := fill.pair
      filledQty := fill.filledQty
      quoteValue := fill.quoteValue
      avgPrice := fill.avgPrice
      exitsAttached := decide (fill.Tracked ∧ request.attachExits)
      note := note }

/-! ### Requests -/

/-- The calls that write the row, and the landing of a posted peak. -/
inductive Request where
  | tick
  | skim
  | override (overrides : Overrides)
  | manualTrade (request : ManualTradeRequest)
  | landPeak (position : ℕ)

def Request.call (env : Env) : Request → Call Unit
  | tick => tickAll env
  | skim => do
    let _ ← skimCexPositionProfit
    pure ()
  | override overrides => do
    let _ ← setCexPositionExitOverrides overrides
    pure ()
  | manualTrade request => do
    let _ ← executeManualTrade request
    pure ()
  | landPeak position => recover (await (.landPeak position)) fun _ => pure ()

end GdslExchange.Cex
