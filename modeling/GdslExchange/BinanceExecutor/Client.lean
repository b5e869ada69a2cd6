/-
This file models the client of the exchange that places a market order: the rules of the symbol and
its last price, the checks of the quantity, and the signed request, which is sent again when an
attempt to send it fails in a way that may pass.

The network does whatever it likes. The fate of an operation may be another one at each attempt of
it. Whether a request reaches the exchange, and when, is settled apart from what its sender hears.
-/

import GdslExchange.Async.Program
import GdslExchange.Orders.SymbolInfo
import GdslExchange.Text.Decimal
import GdslExchange.Text.Upper
import Mathlib.Data.List.Sort

namespace GdslExchange.BinanceExecutor

open Async.Program
open Numeric (toFixed)
open Orders (SymbolRules BinanceSymbolInfo countDecimals parseSymbolRules)

/-! ### Errors -/

/-- A `BinanceHttpError`, an `AbortError`, or another error. -/
inductive Failure where
  | http (message : String) (status : ℕ) (body : String)
  | abort (message : String)
  | error (message : String)

namespace Failure

def message : Failure → String
  | http message _ _ => message
  | abort message => message
  | error message => message

def withMessage (message : String) : Failure → Failure
  | http _ status body => http message status body
  | abort _ => abort message
  | error _ => error message

end Failure

/-- The words of a message that make its error one that may pass. -/
def passingWords : List String := ["fetch failed", "network", "econnreset", "aborted", "timeout"]

def isRetryableError : Failure → Prop
  | .http _ status _ => status = 429 ∨ status = 418 ∨ 500 ≤ status
  | e => ∃ word ∈ passingWords, word.toList <:+: e.message.toLower.toList

instance : DecidablePred isRetryableError
  | .http _ _ _ => inferInstanceAs (Decidable (_ ∨ _))
  | .abort _ => inferInstanceAs (Decidable (∃ word ∈ passingWords, _))
  | .error _ => inferInstanceAs (Decidable (∃ word ∈ passingWords, _))

def wrapError (label : String) (e : Failure) (attempt : ℕ) : Failure :=
  e.withMessage s!"[{label}] attempt {attempt}: {e.message}"

/-! ### The exchange -/

/-- What the client reads of its `ExecutorConfig`. The key and the secret sign a request; a request
that is sent again is signed alike. -/
structure ExecutorConfig where
  baseUrl : String
  requestTimeoutMs : ℕ
  maxRetries : ℕ

inductive OrderSide where
  | buy
  | sell
deriving DecidableEq

/-- The parameters of an order, before they are signed. -/
structure OrderParams where
  symbol : String
  side : OrderSide
  type : String
  quantity : String
  newClientOrderId : String
deriving DecidableEq

/-- The parameters of a signed order. -/
structure OrderRequest extends OrderParams where
  timestamp : ℕ
  recvWindow : ℕ
deriving DecidableEq

/-- A symbol of `exchangeInfo`. -/
structure ListedSymbol extends BinanceSymbolInfo where
  status : String

structure MarketOrderResult where
  orderId : String
  status : Option String
  symbol : String
  side : String
  executedQty : Option String
  cummulativeQuoteQty : Option String

/-- A `Response`: its status, its text, and what `JSON.parse` makes of the text. -/
structure Response (Body : Type) where
  status : ℕ
  text : String
  json : Except String Body

/-- What is heard of a request: a response, an error, or nothing within the time there is. -/
inductive Answer (Body : Type) where
  | response (res : Response Body)
  | thrown (message : String)
  | silence

/-- What becomes of an order that reaches the exchange: the nanosecond of the exchange's clock in
which it is processed, whether it is refused for a reason of its own, and how long it stays open if
it is executed. -/
structure Landing where
  instant : ℕ
  refused : Bool
  openFor : ℕ
deriving DecidableEq

/-- How an attempt to send an order ends, on the exchange and for the client. -/
structure Sending where
  reaches : Option Landing
  answer : Answer MarketOrderResult

inductive Op where
  | now
  | random
  | exchangeInfo (symbol : String)
  | tickerPrice (symbol : String)
  | order (request : OrderRequest)
  | pause (ms : ℕ)
deriving DecidableEq

/-- The price is the number that `parseFloat` reads, if it reads one. -/
@[reducible] def Result : Op → Type
  | .now => ℕ
  | .random => String
  | .exchangeInfo _ => Response (List ListedSymbol)
  | .tickerPrice _ => Response (Option ℚ)
  | .order _ => Response MarketOrderResult
  | .pause _ => Unit

/-- The fate of an operation at each attempt of it. -/
@[reducible] def Fate : Op → Type
  | .now => ℕ → ℕ
  | .random => ℕ → String
  | .exchangeInfo _ => ℕ → Answer (List ListedSymbol)
  | .tickerPrice _ => ℕ → Answer (Option ℚ)
  | .order _ => ℕ → Sending
  | .pause _ => Unit

/-- An order that has reached the exchange, with the number of the attempt that has sent it. -/
structure Arrival where
  attempt : ℕ
  request : OrderRequest
  landing : Landing
deriving DecidableEq

/-- The attempts of the operations of a call, and its orders that have reached the exchange, in the
order in which they were sent. -/
structure Exchange where
  attempts : Op → ℕ
  arrivals : List Arrival

namespace Exchange

/-- The exchange before a call. -/
def start : Exchange := ⟨fun _ => 0, []⟩

/-- One more attempt of an operation. -/
def attempt (op : Op) (exchange : Exchange) : Exchange :=
  { exchange with attempts := Function.update exchange.attempts op (exchange.attempts op + 1) }

end Exchange

def Sending.arrival? (sending : Sending) (attempt : ℕ) (request : OrderRequest) : Option Arrival :=
  sending.reaches.map fun landing => ⟨attempt, request, landing⟩

/-- What `fetch` gives. -/
def Answer.fetched {Body : Type} : Answer Body → Except Failure (Response Body)
  | response res => .ok res
  | thrown message => .error (.error message)
  | silence => .error (.abort "This operation was aborted")

def perform : (op : Op) → Fate op → Exchange → Exchange × Except Failure (Result op)
  | .now, fate, exchange => (exchange.attempt .now, .ok (fate (exchange.attempts .now)))
  | .random, fate, exchange => (exchange.attempt .random, .ok (fate (exchange.attempts .random)))
  | .exchangeInfo symbol, fate, exchange =>
    (exchange.attempt (.exchangeInfo symbol),
      (fate (exchange.attempts (.exchangeInfo symbol))).fetched)
  | .tickerPrice symbol, fate, exchange =>
    (exchange.attempt (.tickerPrice symbol),
      (fate (exchange.attempts (.tickerPrice symbol))).fetched)
  | .order request, fate, exchange =>
    let attempt := exchange.attempts (.order request)
    let sending := fate attempt
    ({ exchange.attempt (.order request) with
        arrivals := exchange.arrivals ++ (sending.arrival? attempt request).toList },
      sending.answer.fetched)
  | .pause ms, _, exchange => (exchange.attempt (.pause ms), .ok ())

/-- The exchange, as the client reaches it. -/
abbrev api : Async.Service where
  State := Exchange
  Op := Op
  Result := Result
  Failure := Failure
  Fate := Fate
  perform := perform

abbrev Call (Value : Type) := Async.Program api Value

def await (op : Op) : Call (Result op) := @Async.Program.perform api op

/-- `throw new Error(message)`, where a check says so. -/
def require {Value : Type} (checked : Except String Value) : Call Value :=
  ofExcept (checked.mapError .error)

/-! ### The rules of the exchange -/

namespace Arrival

/-- The timestamp is not older than its window, by the milliseconds of the exchange's clock. -/
def InTime (arrival : Arrival) : Prop :=
  arrival.landing.instant / 10 ^ 6 ≤ arrival.request.timestamp + arrival.request.recvWindow

def WhileOpen (earlier later : Arrival) : Prop :=
  later.landing.instant < earlier.landing.instant + earlier.landing.openFor

/-- The order in which the exchange processes what it gets. -/
def Precedes (first second : Arrival) : Prop :=
  first.landing.instant < second.landing.instant ∨
    first.landing.instant = second.landing.instant ∧ first.attempt ≤ second.attempt

instance (arrival : Arrival) : Decidable arrival.InTime := inferInstanceAs (Decidable (_ ≤ _))

instance (earlier later : Arrival) : Decidable (earlier.WhileOpen later) :=
  inferInstanceAs (Decidable (_ < _))

instance : DecidableRel Precedes := fun _ _ => inferInstanceAs (Decidable (_ ∨ _))

end Arrival

/-- An order is executed unless it comes too late, is refused for a reason of its own, or has the
client order id of one that is still open. -/
def process (orders : List Arrival) (arrival : Arrival) : List Arrival :=
  if arrival.InTime ∧ arrival.landing.refused = false ∧ ¬ ∃ order ∈ orders,
      order.request.newClientOrderId = arrival.request.newClientOrderId ∧ order.WhileOpen arrival
  then orders ++ [arrival] else orders

def Exchange.executed (exchange : Exchange) : List Arrival :=
  (exchange.arrivals.insertionSort Arrival.Precedes).foldl process []

/-! ### Requests -/

/-- What is left of `withRetry` before an attempt, by the number of attempts that are left. -/
def retryFrom {Value : Type} (label : String) (fn : Call Value) (maxAttempts baseDelayMs : ℕ) :
    ℕ → ℕ → Call Value
  -- Without a first attempt there is no last error.
  | 0, _ => failed (wrapError label (.error "undefined") maxAttempts)
  | left + 1, attempt => fn.recover fun e =>
    if ¬ isRetryableError e ∨ attempt = maxAttempts then failed (wrapError label e attempt)
    else do
      let delay := baseDelayMs * 2 ^ (attempt - 1)
      await (.pause delay)
      retryFrom label fn maxAttempts baseDelayMs left (attempt + 1)

def withRetry {Value : Type} (label : String) (fn : Call Value) (maxAttempts baseDelayMs : ℕ) :
    Call Value :=
  retryFrom label fn maxAttempts baseDelayMs maxAttempts 1

/-- The error that an error of `fetch` is thrown on as. -/
def timeoutError (config : ExecutorConfig) (path method : String) : Failure → Failure
  | .abort _ => .error
    s!"Binance HTTP timeout after {config.requestTimeoutMs}ms ({method} {config.baseUrl}{path})"
  | err => err

def Response.read {Body : Type} (path : String) (res : Response Body) : Except Failure Body :=
  if 200 ≤ res.status ∧ res.status ≤ 299 then res.json.mapError .error
  else .error (.http s!"Binance {path}: {res.status} {res.text}" res.status res.text)

/-- The function that `publicGet` and `signedRequest` hand to `withRetry`: `fetchWithTimeout`, and
what is read of its response. -/
def request {Body : Type} (config : ExecutorConfig) (path method : String)
    (fetch : Call (Response Body)) : Call Body := do
  let res ← fetch.recover fun err => failed (timeoutError config path method err)
  ofExcept (res.read path)

def publicGet {Body : Type} (config : ExecutorConfig) (path : String)
    (fetch : Call (Response Body)) : Call Body :=
  withRetry s!"GET {path}" (request config path "GET" fetch) config.maxRetries 400

/-- `params.set('timestamp', ..)` and `params.set('recvWindow', ..)`. -/
def OrderParams.sign (params : OrderParams) : Call OrderRequest := do
  let timestamp ← await .now
  pure { params with timestamp, recvWindow := 10000 }

def signedRequest (config : ExecutorConfig) (params : OrderParams) : Call MarketOrderResult := do
  let order ← params.sign
  withRetry "POST /api/v3/order" (request config "/api/v3/order" "POST" (await (.order order)))
    config.maxRetries 400

/-! ### Market orders -/

def getSymbolInfo (config : ExecutorConfig) (symbol : String) : Call SymbolRules := do
  let sym := symbol.toUpper
  let symbols ← publicGet config "/api/v3/exchangeInfo" (await (.exchangeInfo sym))
  match symbols.find? fun row => row.symbol = sym with
  | none => failed (.error s!"Symbol {sym} not trading or not found")
  | some row =>
    if row.status ≠ "TRADING" then failed (.error s!"Symbol {sym} not trading or not found")
    else require (parseSymbolRules row.toBinanceSymbolInfo)

def getLastPrice (config : ExecutorConfig) (symbol : String) : Call (Option ℚ) :=
  let sym := symbol.toUpper
  publicGet config "/api/v3/ticker/price" (await (.tickerPrice sym))

/-- `/^\d+(\.\d+)?$/`. -/
def isQuantity (chars : List Char) : Bool :=
  !(chars.takeWhile Char.isDigit).isEmpty &&
    match chars.dropWhile Char.isDigit with
    | [] => true
    | '.' :: fraction => !fraction.isEmpty && fraction.all Char.isDigit
    | _ => false

/-- `parseFloat` of a quantity. -/
def parseQuantity (quantityStr : String) : ℚ := Text.parseDecimal quantityStr.toList

/-- A check that throws. -/
def assert (holds : Prop) [Decidable holds] (message : String) : Except String Unit :=
  if holds then .ok () else .error message

def assertValidQuantityForSymbol (quantityStr : String) (rules : SymbolRules) :
    Except String ℚ := do
  let s := Text.trim quantityStr
  assert (isQuantity s.toList) s!"Invalid quantity format: {quantityStr}"
  let q := parseQuantity s
  assert (0 < q) "Quantity must be a positive finite number"
  let step := rules.lot.stepSize.value
  assert (0 < step) "Invalid stepSize from exchange info"
  assert (rules.lot.minQty.value - 1 / 10 ^ 10 ≤ q)
    s!"Quantity {s} below minQty {rules.lot.minQty.render}"
  assert (q ≤ rules.lot.maxQty.value + 1 / 10 ^ 10)
    s!"Quantity {s} above maxQty {rules.lot.maxQty.render}"
  let reconstructed := Numeric.round (q / step) * step
  assert (|q - reconstructed| ≤ step * (1 / 10 ^ 6))
    s!"Quantity {s} is not a valid multiple of stepSize {rules.lot.stepSize.render}"
  let decimals := countDecimals rules.lot.stepSize
  let normalized := (toFixed decimals q).render
  let places := s!"must use {decimals} decimal places for stepSize {rules.lot.stepSize.render}"
  assert (normalized = s) s!"Quantity string {s} {places} (expected {normalized})"
  pure q

def assertMinNotionalMet (quantityStr : String) (refPrice : Option ℚ) (rules : SymbolRules) :
    Except String Unit :=
  match refPrice.filter (0 < ·) with
  | none => .error "refPrice must be positive for notional validation"
  | some price =>
    let n := parseQuantity quantityStr * price
    let traded := s!"(qty {quantityStr} @ {Numeric.text price})"
    assert (rules.minNotional ≤ 0 ∨ rules.minNotional - 1 / 10 ^ 8 ≤ n)
      s!"Notional {(toFixed 8 n).render} below minNotional {Numeric.text rules.minNotional} {traded}"

def substring (start stop : ℕ) (text : String) : String :=
  String.ofList ((text.toList.take stop).drop start)

/-- `clientId`, from `Date.now()` and `Math.random().toString(36)`. -/
def clientId (now : ℕ) (random : String) : String :=
  substring 0 32 s!"cex{now}{substring 2 10 random}"

/-- What `placeMarketOrder` does before it sends anything. The rules and the price, of which the
code asks at once, are asked for in turn. -/
def prepareOrder (config : ExecutorConfig) (symbol : String) (side : OrderSide)
    (quantity : String) : Call OrderParams := do
  let sym := symbol.toUpper
  let rules ← getSymbolInfo config sym
  let refPrice ← getLastPrice config sym
  let _ ← require (assertValidQuantityForSymbol quantity rules)
  require (assertMinNotionalMet quantity refPrice rules)
  let now ← await .now
  let random ← await .random
  pure
    { symbol := sym
      side
      type := "MARKET"
      quantity
      newClientOrderId := clientId now random }

def placeMarketOrder (config : ExecutorConfig) (symbol : String) (side : OrderSide)
    (quantity : String) : Call MarketOrderResult := do
  let params ← prepareOrder config symbol side quantity
  signedRequest config params

end GdslExchange.BinanceExecutor
