/-
This file models the Jupiter limit orders of a server: the lists of orders in memory,
the watcher that fills them, and the swaps that have landed.

An access to the lists happens at once and is a turn of its own. A swap is started in
one turn and ends in a later one, and what becomes of it in between is its fate: it may
land and be heard of, not land, or land and be reported as failed.
-/

import GdslExchange.Jupiter.Book

namespace GdslExchange.JupiterLimit

open Jupiter (Side SwapRequest Preview)

/-! ### Orders -/

/-- `JupiterLimitOrderStatus`. -/
inductive Status where
  | open
  | filled
  | cancelled
deriving DecidableEq

structure JupiterLimitOrder where
  id : ℕ
  userId : String
  binanceSymbol : String
  side : Side
  limitPrice : ℚ
  amount : ℚ
  spendMint : Option String
  status : Status
  createdAt : ℕ
  filledAt : Option ℕ
  txSignature : Option String
deriving DecidableEq

/-- What `createJupiterLimitOrder` is given. -/
structure RawOrder where
  binanceSymbol : String
  side : Side
  limitPrice : ℚ
  amount : ℚ
  spendMint : Option String

/-- The orders of every user and the users in the order of a `Map`; whose order each id was
given to, an id being a position; and the orders whose swaps have landed. -/
structure Store where
  users : List String
  list : String → List JupiterLimitOrder
  owners : List String
  chain : List ℕ

def Store.empty : Store := ⟨[], fun _ => [], [], []⟩

def Store.save (store : Store) (userId : String) (rows : List JupiterLimitOrder) : Store :=
  { store with
    users := if userId ∈ store.users then store.users else store.users ++ [userId]
    list := Function.update store.list userId rows }

/-- `toUpperCase().replace(/[^A-Z0-9]/g, '')`. -/
def normalize (binanceSymbol : String) : String :=
  String.ofList (binanceSymbol.toUpper.toList.filter fun letter =>
    letter.isUpper || letter.isDigit)

/-- An order that `createJupiterLimitOrder` accepts. -/
def checkOrder (raw : RawOrder) : Except String String :=
  let sym := normalize raw.binanceSymbol
  if !sym.endsWith "USDT" then .error "binanceSymbol must end with USDT"
  else if raw.limitPrice ≤ 0 then .error "limitPrice must be positive"
  else if raw.amount ≤ 0 then .error "amount must be positive"
  else .ok sym

def newOrder (id : ℕ) (userId : String) (raw : RawOrder) (sym : String) (now : ℕ) :
    JupiterLimitOrder where
  id := id
  userId := userId
  binanceSymbol := sym
  side := raw.side
  limitPrice := raw.limitPrice
  amount := raw.amount
  spendMint := raw.spendMint
  status := .open
  createdAt := now
  filledAt := none
  txSignature := none

def createJupiterLimitOrder (userId : String) (raw : RawOrder) (now : ℕ) (store : Store) :
    Store × Except String JupiterLimitOrder :=
  match checkOrder raw with
  | .error message => (store, .error message)
  | .ok sym =>
    let order := newOrder store.owners.length userId raw sym now
    let rows := order :: store.list userId
    ({ store with owners := store.owners ++ [userId] }.save userId (rows.take 40), .ok order)

/-- The entry of a list that satisfies a predicate first, replaced. -/
def replaceFirst (predicate : JupiterLimitOrder → Bool)
    (change : JupiterLimitOrder → JupiterLimitOrder) :
    List JupiterLimitOrder → Option (List JupiterLimitOrder)
  | [] => none
  | row :: rows =>
    if predicate row then some (change row :: rows)
    else (replaceFirst predicate change rows).map (row :: ·)

def JupiterLimitOrder.cancel (row : JupiterLimitOrder) : JupiterLimitOrder :=
  { row with status := .cancelled }

def JupiterLimitOrder.fill (txSignature : String) (now : ℕ) (row : JupiterLimitOrder) :
    JupiterLimitOrder :=
  { row with
    status := .filled
    filledAt := some now
    txSignature := some txSignature }

def cancelJupiterLimitOrder (userId : String) (orderId : ℕ) (store : Store) : Store × Bool :=
  match replaceFirst (fun row => row.id = orderId ∧ row.status = .open)
      JupiterLimitOrder.cancel (store.list userId) with
  | none => (store, false)
  | some rows => (store.save userId rows, true)

/-- The end of `tryFillOrder`, right after the swap. -/
def fillOrder (order : JupiterLimitOrder) (txSignature : String) (now : ℕ) (store : Store) :
    Store :=
  match replaceFirst (fun row => row.id = order.id) (JupiterLimitOrder.fill txSignature now)
      (store.list order.userId) with
  | none => store
  | some rows => store.save order.userId rows

/-- The user that a pass over the `Map` is at, and his OPEN orders. -/
def Store.openOrders (store : Store) (index : ℕ) : Option (List JupiterLimitOrder) :=
  (store.users[index]?).map fun userId =>
    (store.list userId).filter fun row => row.status = .open

/-! ### Operations -/

/-- `getJupiterExecutableMarks`. -/
structure Marks where
  bid : Option ℚ
  ask : Option ℚ

inductive Op where
  | createJupiterLimitOrder (userId : String) (raw : RawOrder)
  | cancelJupiterLimitOrder (userId : String) (orderId : ℕ)
  | isJupiterSwapRateLimited
  | openOrders (index : ℕ)
  | getJupiterExecutableMarks (base : String)
  | previewJupiterSwap (userId : String) (request : SwapRequest)
  | startSwap (order : JupiterLimitOrder) (request : SwapRequest)
  | finishSwap (order : JupiterLimitOrder)
  | fillOrder (order : JupiterLimitOrder) (txSignature : String)

abbrev Result : Op → Type
  | .createJupiterLimitOrder _ _ => JupiterLimitOrder
  | .cancelJupiterLimitOrder _ _ => Bool
  | .isJupiterSwapRateLimited => Bool
  | .openOrders _ => Option (List JupiterLimitOrder)
  | .getJupiterExecutableMarks _ => Option Marks
  | .previewJupiterSwap _ _ => Preview
  | .startSwap _ _ => Unit
  | .finishSwap _ => String
  | .fillOrder _ _ => Unit

/-- What becomes of a swap. -/
inductive SwapFate where
  | failed (message : String)
  | landed (txSignature : String)
  | landedThenFailed (message : String)

abbrev Fate : Op → Type
  | .createJupiterLimitOrder _ _ => ℕ
  | .isJupiterSwapRateLimited => Bool
  | .getJupiterExecutableMarks _ => Except String (Option Marks)
  | .previewJupiterSwap _ _ => Except String Preview
  | .finishSwap _ => SwapFate
  | .fillOrder _ _ => ℕ
  | _ => Unit

def Store.land (store : Store) (order : JupiterLimitOrder) : Store :=
  { store with chain := order.id :: store.chain }

def endSwap (order : JupiterLimitOrder) (store : Store) :
    SwapFate → Store × Except String String
  | .failed message => (store, .error message)
  | .landed txSignature => (store.land order, .ok txSignature)
  | .landedThenFailed message => (store.land order, .error message)

def perform : (op : Op) → Fate op → Store → Store × Except String (Result op)
  | .createJupiterLimitOrder userId raw, now, store =>
    JupiterLimit.createJupiterLimitOrder userId raw now store
  | .cancelJupiterLimitOrder userId orderId, _, store =>
    let cancelled := JupiterLimit.cancelJupiterLimitOrder userId orderId store
    (cancelled.1, .ok cancelled.2)
  | .isJupiterSwapRateLimited, limited, store => (store, .ok limited)
  | .openOrders index, _, store => (store, .ok (store.openOrders index))
  | .getJupiterExecutableMarks _, answer, store => (store, answer)
  | .previewJupiterSwap _ _, answer, store => (store, answer)
  | .startSwap _ _, _, store => (store, .ok ())
  | .finishSwap order, fate, store => endSwap order store fate
  | .fillOrder order txSignature, now, store =>
    (JupiterLimit.fillOrder order txSignature now store, .ok ())

/-- The outside world of the limit orders. -/
abbrev venue : Async.Service where
  State := Store
  Op := Op
  Result := Result
  Failure := String
  Fate := Fate
  perform := perform

abbrev Call (Value : Type) := Async.Program venue Value

def await (op : Op) : Call (Result op) := @Async.Program.perform venue op

/-! ### The watcher -/

structure Settings where
  dexServerAutoExit : Bool
  solanaWalletEnabled : Bool
  jupiterConfigured : Bool

namespace JupiterLimitOrder

/-- `binanceSymbol.replace(/USDT$/i, '')`. -/
def base (order : JupiterLimitOrder) : String :=
  if order.binanceSymbol.toUpper.endsWith "USDT" then (order.binanceSymbol.dropEnd 4).toString
  else order.binanceSymbol

def triggered (order : JupiterLimitOrder) (marks : Marks) : Bool :=
  match order.side with
  | .buy => marks.ask.any fun ask => ask ≤ order.limitPrice
  | .sell => marks.bid.any fun bid => bid ≥ order.limitPrice

def swap (order : JupiterLimitOrder) : SwapRequest where
  side := order.side
  binanceSymbol := order.binanceSymbol
  amount := order.amount
  slippageBps := some 150
  spendAsset := if order.side = .buy ∧ order.spendMint.all (· = "") then some .usdc else none
  spendMint := if order.side = .buy then order.spendMint else none

end JupiterLimitOrder

/-- The swap of an order, and its entry. -/
def executeOrder (order : JupiterLimitOrder) : Call Unit := do
  await (.startSwap order order.swap)
  let txSignature ← await (.finishSwap order)
  await (.fillOrder order txSignature)

def tryFillOrder (order : JupiterLimitOrder) : Call Unit := do
  let marks? ← await (.getJupiterExecutableMarks order.base)
  match marks? with
  | none => pure ()
  | some marks =>
    if !order.triggered marks then pure ()
    else do
      let preview ← await (.previewJupiterSwap order.userId order.swap)
      if !preview.tradable || preview.blockTrade then pure () else executeOrder order

/-- The pass over the `Map`, from an index on, as far as `fuel` users. -/
def visitUsers : ℕ → ℕ → Call Unit
  | 0, _ => pure ()
  | fuel + 1, index => do
    let rows? ← await (.openOrders index)
    match rows? with
    | none => pure ()
    | some rows => do
      Async.Program.forEach (fun order => (tryFillOrder order).recover fun _ => pure ()) rows
      visitUsers fuel (index + 1)

def runJupiterLimitOrderWatcher (settings : Settings) (fuel : ℕ) : Call Unit :=
  if !settings.dexServerAutoExit || !settings.solanaWalletEnabled || !settings.jupiterConfigured
  then pure ()
  else do
    let limited ← await .isJupiterSwapRateLimited
    if limited then pure () else visitUsers fuel 0

inductive Request where
  | create (userId : String) (raw : RawOrder)
  | cancel (userId : String) (orderId : ℕ)
  | watch (fuel : ℕ)

def Request.call (settings : Settings) : Request → Call Unit
  | create userId raw => do
    let _ ← await (.createJupiterLimitOrder userId raw)
  | cancel userId orderId => do
    let _ ← await (.cancelJupiterLimitOrder userId orderId)
  | watch fuel => runJupiterLimitOrderWatcher settings fuel

/-- A server that has just started, of which a list of requests is made. -/
def limitSystem (settings : Settings) (requests : List Request) : Async.System venue Unit where
  moment := ⟨.empty, []⟩
  calls := requests.map (Request.call settings)

end GdslExchange.JupiterLimit
