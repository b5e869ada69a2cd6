/-
This file models the swaps of the personal BSC wallet: a buy opens a row, a sell
closes one, and "sell all" sells what the wallet holds of a symbol, up to two
percent more than its rows stand for, closes the oldest row and cancels the
others.

The quotes that are only taken for the log are left out.
-/

import GdslExchange.Jupiter.Exits
import GdslExchange.Spot.Book

namespace GdslExchange.Spot

open Async (Stored)
open Async.Program
open Jupiter (Side Trade lotQuantity roundTripRealizedPnl)
open Numeric

/-! ### Tokens and amounts -/

def usdtAddr : String := "0x55d398326f99059ff775485246999027b3197955"

def wbnbAddr : String := "0xbb4CdB9CBd36B01bD1cBaEBF2De08d9173bc095c"

def personalWalletTokens : List BscToken :=
  [⟨"BNB", none, 18⟩,
   ⟨"USDT", some usdtAddr, 18⟩,
   ⟨"USDC", some "0x8ac76a51cc950d9822d68b83fe1ad97b32cd580d", 18⟩,
   ⟨"BTCB", some "0x7130d2a12b9bcbfae4f2634d864a1ee1ce3ead9c", 18⟩,
   ⟨"ETH", some "0x2170ed0880ac9a755fd29b2688956bd959f933f8", 18⟩,
   ⟨"XRP", some "0x1d2f0da169ceb9fc7b3144628db156f3f6c60dbe", 18⟩,
   ⟨"DOGE", some "0xba2ae424d960c26247dd6c32edc70b295c744c43", 8⟩,
   ⟨"SOL", some "0x570a5d26f7765ecb712c0924e4de545b89fd43df", 18⟩,
   ⟨"LINK", some "0xf8a0bf9cf54bb92f17374d9e9a321e6a111a51bd", 18⟩,
   ⟨"ADA", some "0x3ee2200efb3400fabb9aacf31297cbdd1d435d47", 18⟩,
   ⟨"DOT", some "0x7083609fce4d1d8dc0c979aab8c869ea2c873402", 18⟩,
   ⟨"AVAX", some "0x1ce0c2827e2ef14d5c4f29a091d735a204794041", 18⟩,
   ⟨"MATIC", some "0xcc42724c6683b7e57334c4e856f4c9965ed682bd", 18⟩,
   ⟨"NEAR", some "0x1fa4a73a3f0133f0025378af00236f3abdee5d63", 18⟩,
   ⟨"LTC", some "0x4338665cbb7b2485a8855a139b75d5e34ab0db94", 18⟩]

def findToken (symbol : String) : Option BscToken :=
  personalWalletTokens.find? fun token => token.symbol = symbol

/-- `formatUnits`, as a number. -/
def fromUnits (raw decimals : ℕ) : ℚ := raw / 10 ^ decimals

/-- `formatUnits`, as the text of a message. -/
def formatUnits (raw decimals : ℕ) : String :=
  let digits := text (fromUnits raw decimals)
  if digits.contains '.' then digits else digits ++ ".0"

/-- `parseUnits` of a decimal text with at most that many places. -/
def parseUnits (amount : Fixed) (decimals : ℕ) : ℕ :=
  (amount.units * 10 ^ (decimals - amount.places)).toNat

def parseAmount (amount : ℚ) (decimals : ℕ) : Except String ℕ :=
  if (amount * 10 ^ decimals).den = 1 then .ok (amount * 10 ^ decimals).num.toNat
  else .error "too many decimals for format"

def sellAmountRawFromBalance (balanceRaw : ℕ) : ℕ :=
  if balanceRaw ≤ 1 then balanceRaw else balanceRaw * (10000 - 15) / 10000

def ledgerCounterAddress (token : BscToken) : Option String :=
  token.address.or (if token.symbol = "BNB" then some wbnbAddr else none)

/-! ### The route -/

def candidateSwapPaths (token : BscToken) (side : Side) : List (List String) :=
  match token.address, side with
  | none, .buy => [[usdtAddr, wbnbAddr]]
  | none, .sell => [[wbnbAddr, usdtAddr]]
  | some tokenAddr, .buy => [[usdtAddr, tokenAddr], [usdtAddr, wbnbAddr, tokenAddr]]
  | some tokenAddr, .sell => [[tokenAddr, usdtAddr], [tokenAddr, wbnbAddr, usdtAddr]]

structure QuotedPath where
  path : List String
  expectedOut : ℕ

/-- A candidate's quote, unless it reverts or brings nothing. -/
def quotePath (amountIn : ℕ) (path : List String) : Call (Option QuotedPath) :=
  recover (do
    let amountsOut ← await (.getAmountsOut amountIn path)
    let expectedOut := amountsOut.getLast?.getD 0
    pure (if expectedOut = 0 then none else some ⟨path, expectedOut⟩))
    fun _ => pure none

def quotePaths (amountIn : ℕ) : List (List String) → Call (List QuotedPath)
  | [] => pure []
  | path :: rest => do
    let quote ← quotePath amountIn path
    let quotes ← quotePaths amountIn rest
    pure (quote.toList ++ quotes)

/-- The first of the quotes that bring the most. -/
def bestQuote : List QuotedPath → Option QuotedPath
  | [] => none
  | quote :: rest =>
    some (rest.foldl (fun best other => if other.expectedOut > best.expectedOut then other else best)
      quote)

def quoteBestPath (amountIn : ℕ) (candidates : List (List String)) : Call QuotedPath := do
  let quotes ← quotePaths amountIn candidates
  orThrow (bestQuote quotes)
    "No Pancake V2 route found for this token. The pool may be paused or out of liquidity."

/-! ### The swap -/

structure PersonalSwapRequest where
  side : Side
  tokenSymbol : String
  amount : ℚ
  slippageBps : Option ℚ := none
  closeTradeId : Option ℕ := none
  sellAmountRaw : Option ℕ := none

/-- A raw amount that a sell names and that is not zero. -/
def PersonalSwapRequest.rawAmount (request : PersonalSwapRequest) : Option ℕ :=
  request.sellAmountRaw.filter fun raw => raw > 0

/-- `slippageBps`. -/
def slippageOf (raw : Option ℚ) : ℕ := (min 2000 (max 10 ⌊raw.getD 100⌋)).toNat

/-- Native BNB is wrapped before it is sold. -/
def wrapForSell (token : BscToken) (request : PersonalSwapRequest) : Call Unit :=
  if request.side = .sell ∧ token.symbol = "BNB" then do
    let sellable ← await .readBnbBalances
    await (.ensureWbnbForSell (request.rawAmount.getD (sellAmountRawFromBalance sellable)))
  else pure ()

def swapAmount (request : PersonalSwapRequest) (inDecimals balance : ℕ) : Except String ℕ :=
  match request.side, request.rawAmount with
  | .sell, some raw => .ok (if raw > balance then sellAmountRawFromBalance balance else raw)
  | .sell, none =>
    let wanted := parseUnits (toFixed (min 12 inDecimals) request.amount) inDecimals
    let desired := if wanted > balance then balance else wanted
    .ok (sellAmountRawFromBalance (if desired > 0 then desired else balance))
  | .buy, _ => parseAmount request.amount inDecimals

def checkBalance (token : BscToken) (request : PersonalSwapRequest)
    (inDecimals balance amountIn : ℕ) : Call Unit := do
  throwIf (request.side = .buy ∧ balance < amountIn)
    ("Insufficient USDT balance — have " ++ formatUnits balance inDecimals ++ ", need " ++
      text request.amount)
  throwIf (request.side = .sell ∧ (amountIn = 0 ∨ amountIn > balance))
    ("Insufficient " ++ token.symbol ++ " balance — have " ++ formatUnits balance inDecimals ++
      ", cannot sell")

def ensureAllowance (inToken : String) (amountIn : ℕ) : Call Unit := do
  let currentAllowance ← await (.allowance inToken)
  if currentAllowance < amountIn then await (.approve inToken) else pure ()

def simEntryPrice (side : Side) (quotedOut amountIn : ℚ) : ℚ :=
  let epsilon : ℚ := 1 / 2 ^ 52
  match side with
  | .buy => amountIn / max quotedOut epsilon
  | .sell => quotedOut / max amountIn epsilon

/-- A balance of the token, where the ledger keeps one. -/
def counterBalance (counter : Option String) (reading : Reading) : Call ℕ :=
  match counter with
  | some address => await (.balanceOf address reading)
  | none => pure 0

/-- `allocationUsd` and `safeEntryPrice`: by what was paid and received, or else by the
quote. -/
def fillAmounts (side : Side) (counted : Bool) (dollars tokens quotedOut amountIn : ℚ) : ℚ × ℚ :=
  let simulated := simEntryPrice side quotedOut amountIn
  if counted then
    let effective := if tokens > 1 / 10 ^ 18 then dollars / tokens else 0
    (max 0 dollars, if effective > 0 then effective else simulated)
  else (max 0 (if side = .buy then amountIn else quotedOut), max 0 simulated)

/-- The swap itself, from the route to the balances after it. -/
def swapOnPancake (token : BscToken) (request : PersonalSwapRequest)
    (inDecimals amountIn : ℕ) : Call Fill := do
  let best ← quoteBestPath amountIn (candidateSwapPaths token request.side)
  let minOut := best.expectedOut * (10000 - slippageOf request.slippageBps) / 10000
  let counter := ledgerCounterAddress token
  let usdtBefore ← await (.balanceOf usdtAddr .before)
  let counterBefore ← counterBalance counter .before
  let hash ← await (.swapExactTokensForTokens amountIn minOut best.path)
  await (.waitForReceipt hash)
  let usdtAfter ← await (.balanceOf usdtAddr .after)
  let counterAfter ← counterBalance counter .after
  let paid := fromUnits amountIn inDecimals
  pure (match request.side with
    | .buy =>
      let spentUsdt := fromUnits usdtBefore 18 - fromUnits usdtAfter 18
      let recvTok := fromUnits counterAfter token.decimals - fromUnits counterBefore token.decimals
      let amounts := fillAmounts .buy counter.isSome spentUsdt recvTok
        (fromUnits best.expectedOut token.decimals) paid
      ⟨recvTok, amounts.2, amounts.1, hash⟩
    | .sell =>
      let recvUsdt := fromUnits usdtAfter 18 - fromUnits usdtBefore 18
      let soldTok := fromUnits counterBefore token.decimals - fromUnits counterAfter token.decimals
      let amounts := fillAmounts .sell counter.isSome recvUsdt soldTok
        (fromUnits best.expectedOut 18) paid
      ⟨paid, amounts.2, amounts.1, hash⟩)

/-- Everything up to the trade row. -/
def swapPersonal (request : PersonalSwapRequest) : Call Fill := do
  throwIf (request.tokenSymbol = "") "tokenSymbol required"
  throwIf (request.amount ≤ 0) "amount must be positive"
  let token ← orThrow (findToken request.tokenSymbol.toUpper)
    ("Unsupported token " ++ request.tokenSymbol)
  throwIf (token.symbol = "USDT") "Cannot swap USDT against itself"
  await .loadSigner
  let inDecimals := if request.side = .buy then 18 else token.decimals
  let inToken := if request.side = .buy then usdtAddr else token.address.getD wbnbAddr
  wrapForSell token request
  let balance ← await (.balanceOf inToken .held)
  let amountIn ← ofExcept (swapAmount request inDecimals balance)
  checkBalance token request inDecimals balance amountIn
  ensureAllowance inToken amountIn
  swapOnPancake token request inDecimals amountIn

/-! ### The rows -/

def openedRow (pair : String) (fill : Fill) : Trade where
  pair := pair
  entryPrice := fill.price
  exitPrice := none
  pnl := none
  allocationUsd := if roundTo 8 fill.dollars > 0 then some (roundTo 8 fill.dollars) else none
  takeProfitPct := none
  status := .open

/-- A sell without an OPEN row is recorded by itself. -/
def orphanRow (pair : String) (fill : Fill) : Trade :=
  { openedRow pair fill with status := .closed }

/-- The update of the row that a sell closes. -/
def closePatch (row : Trade) (exitPrice : ℚ) : Jupiter.TradePatch where
  exitPrice := some exitPrice
  pnl := some (roundTripRealizedPnl row.alloc row.entryPrice exitPrice)
  status := some .closed

/-- The OPEN row that a sell closes. -/
def positionToClose (closeTradeId : Option ℕ) (pair : String) : Call (Option (Stored Trade)) :=
  match closeTradeId with
  | some id => await (.findOpenTradeWithId id pair)
  | none => await (.findOpenTrade pair)

def recordSell (closeTradeId : Option ℕ) (pair : String) (fill : Fill) : Call RecordedTrade := do
  let openPos? ← positionToClose closeTradeId pair
  match openPos? with
  | some openPos => do
    let updated ← await (.updateTrade openPos.id (closePatch openPos.row fill.price))
    pure ⟨updated.id, pair, "CLOSED", openPos.row.alloc, updated.row.entryPrice, some fill.price,
      some (roundTripRealizedPnl openPos.row.alloc openPos.row.entryPrice fill.price), .closed⟩
  | none => do
    let created ← await (.createTrade (orphanRow pair fill))
    pure ⟨created.id, pair, "SELL", roundTo 8 fill.dollars, fill.price, none, none, .closed⟩

def recordPersonalSwap (request : PersonalSwapRequest) (pair : String) (fill : Fill) :
    Call RecordedTrade := do
  await .ensureStrategyId
  match request.side with
  | .buy => do
    let created ← await (.createTrade (openedRow pair fill))
    pure ⟨created.id, pair, "BUY", roundTo 8 fill.dollars, fill.price, none, none, .open⟩
  | .sell => recordSell request.closeTradeId pair fill

def executePersonalSwap (request : PersonalSwapRequest) : Call RecordedTrade := do
  let fill ← swapPersonal request
  recordPersonalSwap request (request.tokenSymbol.toUpper ++ "/USDT") fill

/-! ### Sell all -/

/-- What an aggregated sell is about to do. -/
structure AggregatedSell where
  request : PersonalSwapRequest
  siblings : List (Stored Trade)

def balanceToSell (token : BscToken) : Call ℕ :=
  match token.address with
  | none => do
    let sellable ← await .readBnbBalances
    throwIf (sellable = 0) ("No " ++ token.symbol ++ " balance in the personal wallet")
    await (.ensureWbnbForSell (sellAmountRawFromBalance sellable))
    await (.balanceOf wbnbAddr .toSell)
  | some address => await (.balanceOf address .toSell)

/-- `sellRaw`: the balance, up to two percent more than the rows stand for. -/
def aggregatedSellRaw (lotQty : ℚ) (decimals balanceRaw : ℕ) : ℕ :=
  let sellRaw := sellAmountRawFromBalance balanceRaw
  if lotQty > 1 / 10 ^ 12 then
    let lotCap := parseUnits (toFixed (min 12 decimals) lotQty) decimals * 102 / 100
    if sellRaw > lotCap then sellAmountRawFromBalance lotCap else sellRaw
  else sellRaw

def planAggregatedSell (symbol : String) : Call AggregatedSell := do
  let sym := symbol.toUpper
  let token ← orThrow (findToken sym) ("Unsupported symbol " ++ sym)
  throwIf (token.address = none ∧ sym ≠ "BNB") ("Unsupported or non-sellable symbol " ++ sym)
  await .ensureStrategyId
  let openTrades ← await (.findOpenTradesOf (sym ++ "/USDT"))
  let oldest ← orThrow openTrades.head? ("No open " ++ sym ++ " position in the trade book")
  await .loadSigner
  let balanceRaw ← balanceToSell token
  throwIf (balanceRaw = 0) ("No " ++ sym ++ " balance in the personal wallet")
  let sellRaw := aggregatedSellRaw (lotQuantity openTrades) token.decimals balanceRaw
  throwIf (sellRaw = 0) ("No " ++ sym ++ " balance available to sell after rounding")
  pure ⟨{ side := .sell, tokenSymbol := sym, amount := fromUnits sellRaw token.decimals,
          slippageBps := some 100, closeTradeId := some oldest.id,
          sellAmountRaw := some sellRaw }, openTrades.tail⟩

def sellAggregatedOpenPosition (symbol : String) : Call RecordedTrade := do
  let plan ← planAggregatedSell symbol
  let trade ← executePersonalSwap plan.request
  cancelSiblings plan.siblings
  pure trade

end GdslExchange.Spot
