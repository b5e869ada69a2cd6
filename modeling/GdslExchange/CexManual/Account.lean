/-
This file models what the manual trading desk reads before it places an order: the
connections and risk rules of a user, his balances, the book, the rules of a symbol, and the
technical agent. The order service works on the same tables, and sees fewer of their columns.
-/

import GdslExchange.Async.Embedding
import GdslExchange.Cex.Trading
import GdslExchange.Orders.Service

namespace GdslExchange.CexManual

open Async (Delivery)
open Cex (AdapterBalance BookTicker)
open Orders (SymbolRules choose)

/-! ### Tables -/

/-- An `ExchangeConnection` row with the columns that the order service does not read. -/
structure ConnectionRow extends Orders.ExchangeConnection where
  label : Option String
  exchange : String
  canWithdraw : Bool
  updatedAt : ℕ

/-- A `RiskRule` row with the column that the order service does not read. -/
structure RiskRuleRow extends Orders.RiskRule where
  createdAt : ℕ

/-- The tables, as the order service sees them and with all columns. -/
structure Account where
  desk : Orders.Desk
  connections : List ConnectionRow
  riskRules : List RiskRuleRow
  sameConnections : desk.connections = connections.map ConnectionRow.toExchangeConnection
  sameRiskRules : desk.riskRules = riskRules.map RiskRuleRow.toRiskRule
  uniqueIds : (connections.map fun row => row.id).Nodup

/-- The rows that `orderBy: { key: 'desc' }` may put first. -/
def latest {Row : Type} (key : Row → ℕ) (rows : List Row) : List Row :=
  rows.filter fun row => rows.all fun other => key other ≤ key row

def binanceConnections (rows : List ConnectionRow) (userId : String) : List ConnectionRow :=
  rows.filter fun row => row.userId = userId ∧ row.isActive ∧ row.exchange = "BINANCE"

/-- Those that can trade and cannot withdraw. -/
def tradeOnly (rows : List ConnectionRow) (userId : String) : List ConnectionRow :=
  (binanceConnections rows userId).filter fun row => row.canTrade ∧ !row.canWithdraw

/-! ### The technical agent -/

inductive Vote where
  | buy
  | hold
  | avoid
deriving DecidableEq

/-- The fields of a `MarketContext` that the preflight reads. -/
structure MarketContext where
  available : Bool
  alignmentScore : ℚ
  bearish : ℕ
  total : ℕ
  pctFromHigh52w : Option ℚ
deriving DecidableEq

/-- The fields of a `TechnicalSnapshot` that the preflight reads. -/
structure TechnicalSnapshot where
  vote : Vote
  reason : String
  context : Option MarketContext
deriving DecidableEq

/-! ### Operations -/

inductive Op where
  | findTradeConnection (userId : String)
  | findConnection (id userId : String)
  | findNewestRiskRule (userId : String)
  | findBinanceConnections (userId : String)
  | decryptSecret (encrypted : String)
  | getBalances (apiKey apiSecret : String)
  | fetchBookTicker (symbol : String)
  | technicalVote (symbol : String)
  | order (op : Orders.Op)

@[reducible] def Result : Op → Type
  | .findTradeConnection _ => Option ConnectionRow
  | .findConnection _ _ => Option ConnectionRow
  | .findNewestRiskRule _ => Option RiskRuleRow
  | .findBinanceConnections _ => List ConnectionRow
  | .decryptSecret _ => String
  | .getBalances _ _ => List AdapterBalance
  | .fetchBookTicker _ => Option BookTicker
  | .technicalVote _ => TechnicalSnapshot
  | .order op => Orders.Result op

@[reducible] def Fate : Op → Type
  | .findTradeConnection _ => Orders.Pick
  | .findConnection _ _ => Delivery
  | .findNewestRiskRule _ => Orders.Pick
  | .findBinanceConnections _ => Delivery
  | .decryptSecret _ => Except String String
  | .getBalances _ _ => Except String (List AdapterBalance)
  | .fetchBookTicker _ => Except String (Option BookTicker)
  | .technicalVote _ => TechnicalSnapshot
  | .order op => Orders.Fate op

/-- No operation of the order service writes a connection. -/
theorem connections_perform (op : Orders.Op) (fate : Orders.Fate op) (desk : Orders.Desk) :
    (Orders.perform op fate desk).1.connections = desk.connections := by
  cases op with
  | updateOrder id patch =>
    simp only [Orders.perform]
    split
    · rfl
    · cases fate <;> rfl
  | placeRemoteOrder request => cases fate <;> rfl
  | createRiskEvent event => cases fate <;> rfl
  | createExecutionEvent event => cases fate <;> rfl
  | createOrder order => cases fate <;> rfl
  | _ => rfl

/-- What an operation of the order service leaves. -/
def Account.afterOrder (account : Account) (op : Orders.Op) (fate : Orders.Fate op) : Account :=
  { account with
    desk := (Orders.perform op fate account.desk).1
    sameConnections := (connections_perform op fate account.desk).trans account.sameConnections
    sameRiskRules := (Orders.riskRules_perform op fate account.desk).trans account.sameRiskRules }

def perform : (op : Op) → Fate op → Account → Account × Except String (Result op)
  | .findTradeConnection userId, pick, account =>
    pick.delivery.read account (choose pick.position
      (latest ConnectionRow.updatedAt (tradeOnly account.connections userId)))
  | .findConnection id userId, delivery, account =>
    delivery.read account (account.connections.find? fun row => row.id = id ∧ row.userId = userId)
  | .findNewestRiskRule userId, pick, account =>
    pick.delivery.read account (choose pick.position (latest RiskRuleRow.createdAt
      (account.riskRules.filter fun rule => rule.userId = userId)))
  | .findBinanceConnections userId, delivery, account =>
    delivery.read account (binanceConnections account.connections userId)
  | .decryptSecret _, secret, account => (account, secret)
  | .getBalances _ _, balances, account => (account, balances)
  | .fetchBookTicker _, book, account => (account, book)
  | .technicalVote _, snapshot, account => (account, .ok snapshot)
  | .order op, fate, account =>
    (account.afterOrder op fate, (Orders.perform op fate account.desk).2)

/-- The outside world of the manual trading desk. -/
abbrev terminal : Async.Service where
  State := Account
  Op := Op
  Result := Result
  Failure := String
  Fate := Fate
  perform := perform

abbrev Call (Value : Type) := Async.Program terminal Value

def await (op : Op) : Call (Result op) := @Async.Program.perform terminal op

/-- The order service works on the tables of the account. -/
def orderService : Async.Embedding Orders.oms terminal where
  op := Op.order
  fate := fun _ fate => fate
  view := Account.desk
  reply := fun _ answer => answer
  failure := id
  view_perform := fun _ _ _ => rfl
  reply_perform := fun _ _ _ => rfl

end GdslExchange.CexManual
