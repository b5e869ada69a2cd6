/-
This file models the connections of users to the exchange: the handlers that connect, test and
remove them, what is inferred of a key from the account that the exchange answers with, and the
calls that trade with the key of a connection.

A user has one connection at most, since there is one exchange. The order service works on the
same tables.
-/

import GdslExchange.CexManual.Account

namespace GdslExchange.Exchange

open Async (Delivery)
open Async.Program
open CexManual (connections_perform)
open Orders (CreateOrderInput PlaceOrderInput)

/-! ### Permissions of a key -/

/-- An account as the exchange answers with it, by the permissions it lists, if any. -/
structure BinanceAccount where
  permissions : Option (List String)

def impliesTrading (p : String) : Bool :=
  p = "SPOT" ∨ p = "MARGIN" ∨ p = "LEVERAGED" ∨ "TRD_GRP_".toList <+: p.toList ∨ p = "OPTIONS" ∨
    p = "FUTURES" ∨ p = "DELIVERY"

/-- Of an answer that is no object nothing is known. -/
def inferBinanceCanTrade (account : Option BinanceAccount) : Bool :=
  match account with
  | none => false
  | some account =>
    match account.permissions with
    | none => true
    | some raw => (raw.map String.toUpper).any impliesTrading

def inferBinanceApiKeyCanWithdraw (account : Option BinanceAccount) : Bool :=
  match account with
  | none => false
  | some account =>
    match account.permissions with
    | none => false
    | some raw => raw.any fun p => "WITHDRAW".toList <:+: p.toUpper.toList

structure BinancePermissionState where
  canTrade : Bool
  canRead : Bool
  canWithdraw : Bool
  permissions : Option (List String)

def getBinancePermissionState (account : Option BinanceAccount) : BinancePermissionState where
  canTrade := inferBinanceCanTrade account
  canRead := true
  canWithdraw := inferBinanceApiKeyCanWithdraw account
  permissions := (account.bind BinanceAccount.permissions).map (List.map String.toUpper)

/-! ### Tables -/

/-- A connection with the columns that the order service does not read. -/
structure ConnectionRow extends Orders.ExchangeConnection where
  label : Option String
  canRead : Bool
  canWithdraw : Bool

/-- What a check of a key has seen. -/
structure Check where
  apiKey : String
  canWithdraw : Bool

/-- The tables, as the order service sees them and with all columns, and what the checks have
seen, the last one first. -/
structure Desk where
  orders : Orders.Desk
  connections : List ConnectionRow
  checks : List Check
  sameConnections : orders.connections = connections.map ConnectionRow.toExchangeConnection

/-- The columns that a check stores. -/
structure NewConnection where
  label : Option String
  encryptedApiKey : String
  encryptedSecret : String
  canTrade : Bool
  canRead : Bool
  canWithdraw : Bool

/-- The row that an upsert creates. -/
def NewConnection.create (new : NewConnection) (id userId : String) : ConnectionRow where
  id := id
  userId := userId
  isActive := true
  canTrade := new.canTrade
  encryptedApiKey := new.encryptedApiKey
  encryptedSecret := new.encryptedSecret
  label := new.label
  canRead := new.canRead
  canWithdraw := new.canWithdraw

namespace Desk

variable (desk : Desk)

/-- The tables with other connections. -/
def withConnections (connections : List ConnectionRow) : Desk where
  orders :=
    { desk.orders with connections := connections.map ConnectionRow.toExchangeConnection }
  connections := connections
  checks := desk.checks
  sameConnections := rfl

def check (apiKey : String) (canWithdraw : Bool) : Desk :=
  { desk with checks := ⟨apiKey, canWithdraw⟩ :: desk.checks }

def upsertConnection (id userId : String) (new : NewConnection) : Desk :=
  if ∃ row ∈ desk.connections, row.userId = userId then
    desk.withConnections (desk.connections.map fun row =>
      if row.userId = userId then new.create row.id userId else row)
  else desk.withConnections (desk.connections ++ [new.create id userId])

def updatePermissions (id : String) (permissionState : BinancePermissionState) : Desk :=
  desk.withConnections (desk.connections.map fun row =>
    if row.id = id then
      { row with
        canTrade := permissionState.canTrade
        canRead := permissionState.canRead
        canWithdraw := permissionState.canWithdraw }
    else row)

def deactivate (id userId : String) : Desk :=
  desk.withConnections (desk.connections.map fun row =>
    if row.id = id ∧ row.userId = userId then { row with isActive := false } else row)

/-- What an operation of the order service leaves. -/
def afterOrder (op : Orders.Op) (fate : Orders.Fate op) : Desk :=
  { desk with
    orders := (Orders.perform op fate desk.orders).1
    sameConnections := (connections_perform op fate desk.orders).trans desk.sameConnections }

end Desk

/-! ### Operations -/

inductive Op where
  | testConnection (apiKey apiSecret : String)
  | findConnection (id userId : String)
  | upsertConnection (userId : String) (new : NewConnection)
  | updatePermissions (id : String) (permissionState : BinancePermissionState)
  | deactivate (id userId : String)
  | findTradeOnly (id : Option String) (userId : String)
  | findTrading (userId : String)
  | order (op : Orders.Op)

@[reducible] def Result : Op → Type
  | .testConnection _ _ => Option BinanceAccount
  | .findConnection _ _ => Option ConnectionRow
  | .upsertConnection _ _ => String
  | .updatePermissions _ _ => Unit
  | .deactivate _ _ => Unit
  | .findTradeOnly _ _ => Option ConnectionRow
  | .findTrading _ => Option ConnectionRow
  | .order op => Orders.Result op

/-- How an upsert ends, and the id that a new row gets. -/
structure Upsertion where
  delivery : Delivery
  id : String

@[reducible] def Fate : Op → Type
  | .testConnection _ _ => Except String (Option BinanceAccount)
  | .upsertConnection _ _ => Upsertion
  | .order op => Orders.Fate op
  | _ => Delivery

/-- How secrets are stored. -/
structure Cipher where
  encryptSecret : String → String
  decryptSecret : String → String
  decrypt_encrypt : ∀ secret, decryptSecret (encryptSecret secret) = secret

section Service

variable (cipher : Cipher)

/-- Secrets are decrypted by the cipher. -/
def orderFate : (op : Orders.Op) → Orders.Fate op → Orders.Fate op
  | .decryptSecret encrypted, _ => .ok (cipher.decryptSecret encrypted)
  | _, fate => fate

def Desk.upsertedId (desk : Desk) (userId id : String) : String :=
  ((desk.connections.find? fun row => row.userId = userId).map fun row => row.id).getD id

def perform : (op : Op) → Fate op → Desk → Desk × Except String (Result op)
  | .testConnection apiKey _, answer, desk =>
    match answer with
    | .ok account => (desk.check apiKey (inferBinanceApiKeyCanWithdraw account), .ok account)
    | .error message => (desk, .error message)
  | .findConnection id userId, delivery, desk =>
    delivery.read desk (desk.connections.find? fun row => row.id = id ∧ row.userId = userId)
  | .upsertConnection userId new, upsertion, desk =>
    upsertion.delivery.write desk (desk.upsertConnection upsertion.id userId new)
      (desk.upsertedId userId upsertion.id)
  | .updatePermissions id permissionState, delivery, desk =>
    if ∃ row ∈ desk.connections, row.id = id then
      delivery.write desk (desk.updatePermissions id permissionState) ()
    else (desk, .error "Record to update not found.")
  | .deactivate id userId, delivery, desk => delivery.write desk (desk.deactivate id userId) ()
  | .findTradeOnly id userId, delivery, desk =>
    delivery.read desk (desk.connections.find? fun row =>
      (∀ preferred ∈ id, row.id = preferred) ∧ row.userId = userId ∧ row.isActive ∧ row.canTrade ∧
        !row.canWithdraw)
  | .findTrading userId, delivery, desk =>
    delivery.read desk (desk.connections.find? fun row =>
      row.userId = userId ∧ row.isActive ∧ row.canTrade)
  | .order op, fate, desk =>
    (desk.afterOrder op (orderFate cipher op fate),
      (Orders.perform op (orderFate cipher op fate) desk.orders).2)

abbrev exchange : Async.Service where
  State := Desk
  Op := Op
  Result := Result
  Failure := String
  Fate := Fate
  perform := perform cipher

abbrev Call (Value : Type) := Async.Program (exchange cipher) Value

def await (op : Op) : Call cipher (Result op) := @Async.Program.perform (exchange cipher) op

/-- The order service works on the same tables. -/
def orderService : Async.Embedding Orders.oms (exchange cipher) where
  op := Op.order
  fate := orderFate cipher
  view := Desk.orders
  reply := fun _ answer => answer
  failure := id
  view_perform := fun _ _ _ => rfl
  reply_perform := fun _ _ _ => rfl

/-! ### Handlers -/

def stripEnd (junk : Char → Bool) (letters : List Char) : List Char :=
  (letters.reverse.dropWhile junk).reverse

/-- Double and single quotes. -/
def isQuote (letter : Char) : Bool := letter.toNat = 34 ∨ letter.toNat = 39

/-- `value.trim()`. -/
def trim (letters : List Char) : List Char :=
  stripEnd Char.isWhitespace (letters.dropWhile Char.isWhitespace)

def sanitizeBinanceCredential (value : String) : String :=
  let unquoted := stripEnd isQuote ((trim value.toList).dropWhile isQuote)
  String.ofList (trim (stripEnd (· = ':') unquoted))

/-- What a handler answers, or the status of a refusal with its message and the permissions. -/
inductive Response where
  | connected (id : String) (permissionState : BinancePermissionState)
  | tested (permissionState : BinancePermissionState)
  | removed
  | refused (status : ℕ) (message : String) (permissions : Option (List String))
  | ordered
  | unconnected

/-- The handler of `POST /connections`. -/
def connect (userId : String) (label : Option String) (rawKey rawSecret : String) :
    Call cipher Response := do
  let apiKey := sanitizeBinanceCredential rawKey
  let apiSecret := sanitizeBinanceCredential rawSecret
  let tested ← recover (do
      let account ← await cipher (.testConnection apiKey apiSecret)
      return Except.ok account) fun detail => return Except.error detail
  match tested with
  | .error _ =>
    return .refused 400
      ("Binance rejected the key (wrong secret, IP not whitelisted, disabled key, or mainnet vs " ++
        "testnet mismatch). Fix it in Binance API Management — details below.") none
  | .ok account =>
    let permissionState := getBinancePermissionState account
    if !permissionState.canTrade then
      return .refused 400 "This Binance key does not have trading permission enabled."
        permissionState.permissions
    else if permissionState.canWithdraw then
      return .refused 400
        "Withdraw permission is not allowed for automated non-custodial trading."
        permissionState.permissions
    else
      let id ← await cipher (.upsertConnection userId
        { label
          encryptedApiKey := cipher.encryptSecret apiKey
          encryptedSecret := cipher.encryptSecret apiSecret
          canTrade := permissionState.canTrade
          canRead := permissionState.canRead
          canWithdraw := permissionState.canWithdraw })
      return .connected id permissionState

/-- The handler of `POST /connections/:id/test`. -/
def test (userId id : String) : Call cipher Response := do
  let found ← await cipher (.findConnection id userId)
  match found with
  | none => return .refused 404 "Connection not found" none
  | some connection =>
    let account ← await cipher (.testConnection (cipher.decryptSecret connection.encryptedApiKey)
      (cipher.decryptSecret connection.encryptedSecret))
    let permissionState := getBinancePermissionState account
    if permissionState.canWithdraw then
      return .refused 400 "This key still has withdraw permission enabled."
        permissionState.permissions
    else if !permissionState.canTrade then
      return .refused 400 "Trading permission is not enabled on this key."
        permissionState.permissions
    else
      await cipher (.updatePermissions connection.id permissionState)
      return .tested permissionState

/-- The handler of `DELETE /connections/:id`. -/
def remove (userId id : String) : Call cipher Response := do
  await cipher (.deactivate id userId)
  return .removed

/-! ### Trading -/

def placeOrder (input : CreateOrderInput) : Call cipher Response := do
  let _ ← (orderService cipher).embed (Orders.placeOrder input)
  return .ordered

/-- `resolveConnectionId`: the preferred connection if it is trade-only, or else any such. -/
def resolveConnectionId (userId : String) (preferred : Option String) :
    Call cipher (Option String) := do
  let c ← match preferred with
    | some id => await cipher (.findTradeOnly (some id) userId)
    | none => pure none
  match c with
  | some c => return some c.id
  | none =>
    let any ← await cipher (.findTradeOnly none userId)
    return any.map fun row => row.id

/-- An order of the machine or of the manual desk, through the connection that they resolve. -/
def placeResolved (preferred : Option String) (input : CreateOrderInput) :
    Call cipher Response := do
  let resolved ← resolveConnectionId cipher input.userId preferred
  match resolved with
  | none => return .unconnected
  | some id => placeOrder cipher { input with exchangeConnectionId := id }

/-- An order of the spot book, of a size that it has found, with the key of the connection. -/
def placeSpot (userId : String) (input : PlaceOrderInput) : Call cipher Response := do
  let found ← await cipher (.findTrading userId)
  let conn ← orThrow found "Binance API not connected — add keys on the Exchange page."
  let _ ← (orderService cipher).embed (do
    let apiKey ← Orders.await (.decryptSecret conn.encryptedApiKey)
    let apiSecret ← Orders.await (.decryptSecret conn.encryptedSecret)
    Orders.adapterPlaceOrder { input with apiKey := apiKey, apiSecret := apiSecret })
  return .ordered

inductive Request where
  | connect (userId : String) (label : Option String) (rawKey rawSecret : String)
  | test (userId id : String)
  | remove (userId id : String)
  | order (input : CreateOrderInput)
  | resolved (preferred : Option String) (input : CreateOrderInput)
  | spot (userId : String) (input : PlaceOrderInput)

def Request.call : Request → Call cipher Response
  | .connect userId label rawKey rawSecret => Exchange.connect cipher userId label rawKey rawSecret
  | .test userId id => Exchange.test cipher userId id
  | .remove userId id => Exchange.remove cipher userId id
  | .order input => placeOrder cipher input
  | .resolved preferred input => placeResolved cipher preferred input
  | .spot userId input => placeSpot cipher userId input

end Service

end GdslExchange.Exchange
