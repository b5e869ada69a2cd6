/-
This file models what the swaps of browser wallets talk to: the builds that wait for a
signature, the book of self-custody trades, and Jupiter, which answers whatever it likes.

The look for a build, the checks and the relay of the signed bytes follow each other
without an await and are one operation; the answer to the relay is heard in a later one.
Ids are positions: of a build among all that were made, and of a trade in the book, which
is in creation order.
-/

import GdslExchange.Jupiter.Swap

namespace GdslExchange.JupiterBrowser

open Async (Delivery Stored)
open Jupiter (ExecuteReply OrderRequest Side Token TradeStatus executedSignature
  roundTripRealizedPnl)
open Numeric

/-! ### Builds -/

structure BuildContext where
  builtAt : ℕ
  userId : String
  owner : String
  side : Side
  binanceSymbol : String
  pair : String
  baseSymbol : String
  amountInHuman : ℚ
  expectedOutHuman : ℚ
  usdValue : ℚ

/-- A build as it was made: the context that is kept, and the transaction that is handed out. -/
structure Built where
  requestId : String
  transaction : String
  context : BuildContext

def buildTtlMs : ℕ := 90000

/-! ### The book -/

/-- The `Trade` rows of the self-custody strategy. -/
structure Trade where
  userId : String
  pair : String
  entryPrice : ℚ
  exitPrice : Option ℚ
  pnl : Option ℚ
  allocationUsd : Option ℚ
  status : TradeStatus

/-- The `data` of the trade update. -/
structure TradePatch where
  allocationUsd : ℚ
  pnl : ℚ
  status : TradeStatus
  exitPrice : Option ℚ

def TradePatch.apply (patch : TradePatch) (trade : Trade) : Trade :=
  { trade with
    allocationUsd := some patch.allocationUsd
    pnl := some patch.pnl
    status := patch.status
    exitPrice := patch.exitPrice.or trade.exitPrice }

namespace BuildContext

variable (ctx : BuildContext)

def allocationUsd : ℚ := roundTo 8 (max 0 ctx.usdValue)

def effectivePrice : ℚ :=
  let dust : ℚ := 1 / 10 ^ 18
  match ctx.side with
  | .buy => if ctx.expectedOutHuman > dust then ctx.amountInHuman / ctx.expectedOutHuman else 0
  | .sell => if ctx.amountInHuman > dust then ctx.expectedOutHuman / ctx.amountInHuman else 0

def allocationColumn : Option ℚ := if ctx.allocationUsd > 0 then some ctx.allocationUsd else none

def buyRow : Trade where
  userId := ctx.userId
  pair := ctx.pair
  entryPrice := ctx.effectivePrice
  exitPrice := none
  pnl := none
  allocationUsd := ctx.allocationColumn
  status := .open

/-- The row of a SELL of a coin that was never bought here. -/
def strayRow : Trade where
  userId := ctx.userId
  pair := ctx.pair
  entryPrice := ctx.effectivePrice
  exitPrice := some ctx.effectivePrice
  pnl := some 0
  allocationUsd := ctx.allocationColumn
  status := .closed

/-- What a SELL makes of the oldest OPEN row. -/
def sellPatch (open_ : Trade) : TradePatch :=
  let buyAlloc := open_.allocationUsd.getD 0
  let buyEntry := open_.entryPrice
  let bookedQty := if buyEntry > 0 then buyAlloc / buyEntry else 0
  let soldQty := ctx.amountInHuman
  let priorPnl := open_.pnl.getD 0
  let isPartial : Bool := bookedQty > 0 ∧ soldQty < bookedQty * (95 / 100)
  let soldFraction := if isPartial then min (95 / 100) (soldQty / bookedQty) else 1
  let closedAlloc := buyAlloc * soldFraction
  let remainingAlloc := max 0 (buyAlloc - closedAlloc)
  let realized := roundTripRealizedPnl closedAlloc buyEntry ctx.effectivePrice
  let stillOpen : Bool := isPartial ∧ remainingAlloc > 1 / 2
  { allocationUsd := if stillOpen then remainingAlloc else buyAlloc
    pnl := priorPnl + realized
    status := if stillOpen then .open else .closed
    exitPrice := if stillOpen then none else some ctx.effectivePrice }

end BuildContext

/-! ### The desk -/

/-- All builds that were made, the `Map` of those that wait for a signature, the book, and the
builds of its updates. -/
structure Desk where
  built : List Built
  builds : String → Option ℕ
  trades : List Trade
  booked : List ℕ

def Desk.empty : Desk := ⟨[], fun _ => none, [], []⟩

/-- `pruneBuilds`. -/
def Desk.prune (now : ℕ) (desk : Desk) : Desk :=
  { desk with
    builds := fun requestId => (desk.builds requestId).filter fun id =>
      (desk.built[id]?).all fun built => now ≤ built.context.builtAt + buildTtlMs }

/-- `builds.set`. -/
def Desk.storeBuild (built : Built) (desk : Desk) : Desk :=
  { desk with
    built := desk.built ++ [built]
    builds := Function.update desk.builds built.requestId (some desk.built.length) }

/-- `builds.get`. -/
def Desk.findBuild (requestId : String) (desk : Desk) : Option (Stored BuildContext) :=
  (desk.builds requestId).bind fun id => (desk.built[id]?).map fun built => ⟨id, built.context⟩

def Desk.deleteBuild (requestId : String) (desk : Desk) : Desk :=
  { desk with builds := Function.update desk.builds requestId none }

/-- The parameters of `submitBrowserJupiterSwap`. -/
structure SubmitOptions where
  userId : String
  requestId : String
  signedTransaction : String

/-- The start of `submitBrowserJupiterSwap`, up to the relay of bytes that can be decoded or
cannot. -/
def Desk.openSubmit (opts : SubmitOptions) (decoded : Bool) (now : ℕ) (desk : Desk) :
    Desk × Except String (Stored BuildContext) :=
  let pruned := desk.prune now
  match pruned.findBuild opts.requestId with
  | none => (pruned,
      .error "This quote expired before it was signed. Get a fresh quote and try again.")
  | some found =>
    if found.row.userId ≠ opts.userId then
      (pruned, .error "Quote does not belong to this account")
    else if !decoded then (pruned, .error "Signed transaction could not be decoded")
    else (pruned, .ok found)

/-- The oldest OPEN row of a user and a pair. -/
def findOpen (userId pair : String) (trades : List Trade) : Option (Stored Trade) :=
  (trades.mapIdx fun id row => (⟨id, row⟩ : Stored Trade)).find? fun stored =>
    stored.row.userId = userId ∧ stored.row.pair = pair ∧ stored.row.status = .open

def Desk.write (desk : Desk) (build : ℕ) (trades : List Trade) : Desk :=
  { desk with trades := trades, booked := build :: desk.booked }

/-! ### Operations -/

structure Holding where
  mint : String
  amount : ℚ
  decimals : ℕ

/-- The fields of an order that a build reads. -/
structure Order extends Jupiter.Order where
  priceImpactPct : Option ℚ

inductive Op where
  | getJupiterTradableToken (binanceSymbol : String)
  | listSolanaHoldingsForOwner (owner : String)
  | fetchJupiterPricesV3 (mint : String)
  | getJupiterOrder (request : OrderRequest)
  | storeBuild (built : Built)
  | submitJupiterExecute (opts : SubmitOptions) (decoded : Bool)
  | hearExecute (requestId : String)
  | ensureSelfCustodyStrategyId
  | findOpenTrade (userId pair : String)
  | createTrade (build : ℕ) (row : Trade)
  | updateTrade (build : ℕ) (id : ℕ) (patch : TradePatch)

abbrev Result : Op → Type
  | .getJupiterTradableToken _ => Option Token
  | .listSolanaHoldingsForOwner _ => List Holding
  | .fetchJupiterPricesV3 _ => Option ℚ
  | .getJupiterOrder _ => Order
  | .storeBuild _ => Built
  | .submitJupiterExecute _ _ => Stored BuildContext
  | .hearExecute _ => String
  | .ensureSelfCustodyStrategyId => Unit
  | .findOpenTrade _ _ => Option (Stored Trade)
  | .createTrade _ _ => Stored Trade
  | .updateTrade _ _ _ => Stored Trade

abbrev Fate : Op → Type
  | .storeBuild _ => ℕ
  | .submitJupiterExecute _ _ => ℕ
  | .hearExecute _ => Except String ExecuteReply
  | .ensureSelfCustodyStrategyId => Delivery
  | .findOpenTrade _ _ => Delivery
  | .createTrade _ _ => Delivery
  | .updateTrade _ _ _ => Delivery
  | op => Except String (Result op)

def heardSignature (answer : Except String ExecuteReply) : Except String String :=
  match answer with
  | .ok reply => executedSignature reply
  | .error message => .error message

def perform : (op : Op) → Fate op → Desk → Desk × Except String (Result op)
  | .getJupiterTradableToken _, answer, desk => (desk, answer)
  | .listSolanaHoldingsForOwner _, answer, desk => (desk, answer)
  | .fetchJupiterPricesV3 _, answer, desk => (desk, answer)
  | .getJupiterOrder _, answer, desk => (desk, answer)
  | .storeBuild built, now, desk =>
    let stored := { built with context := { built.context with builtAt := now } }
    ((desk.prune now).storeBuild stored, .ok stored)
  | .submitJupiterExecute opts decoded, now, desk => desk.openSubmit opts decoded now
  | .hearExecute requestId, answer, desk =>
    match heardSignature answer with
    | .ok signature => (desk.deleteBuild requestId, .ok signature)
    | .error message => (desk, .error message)
  | .ensureSelfCustodyStrategyId, delivery, desk => delivery.read desk ()
  | .findOpenTrade userId pair, delivery, desk =>
    delivery.read desk (findOpen userId pair desk.trades)
  | .createTrade build row, delivery, desk =>
    delivery.write desk (desk.write build (desk.trades ++ [row])) ⟨desk.trades.length, row⟩
  | .updateTrade build id patch, delivery, desk =>
    match desk.trades[id]? with
    | none => (desk, .error "Record to update not found.")
    | some row =>
      delivery.write desk (desk.write build (desk.trades.set id (patch.apply row)))
        ⟨id, patch.apply row⟩

/-- The outside world of the browser swaps. -/
abbrev venue : Async.Service where
  State := Desk
  Op := Op
  Result := Result
  Failure := String
  Fate := Fate
  perform := perform

abbrev Call (Value : Type) := Async.Program venue Value

def await (op : Op) : Call (Result op) := @Async.Program.perform venue op

end GdslExchange.JupiterBrowser
