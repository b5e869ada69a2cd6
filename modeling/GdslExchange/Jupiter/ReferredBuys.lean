/-
This file settles when the share of a referrer counts every Jupiter buy once. A buy is credited in
the branch that opens a row, so it counts where it opens one, and by the amount that is booked.
-/

import GdslExchange.Jupiter.FillValue
import GdslExchange.Referral.Volume

namespace GdslExchange.Jupiter

open Async (Delivery Stored)
open Async.Program
open Numeric
open Referral.Volume (Counts Tables counts_maybeCredit counts_nothing
  maybeCreditJupiterReferralVolume)

/-! ### Swaps that are credited -/

/-- `executeJupiterSwap`, the booking of a buy, with the notional that is handed to the credit.
Nobody waits for the credit. -/
def bookBuyCrediting (pair : String) (swap : Swap) (price : ℚ) :
    Call (RecordedTrade × Option ℚ) := do
  let existing? ← await (.findOpenTrade pair)
  match existing? with
  | some existing => do
    let patch := buyPatch existing.row swap.alloc price
    let updated ← await (.updateTrade existing.id patch)
    let _ ← tryMerge
    let newRow := patch.apply existing.row
    pure (⟨updated.id, pair, newRow.alloc, newRow.entryPrice, none, none, "BUY", .open⟩, none)
  | none => do
    let created ← await (.createTrade (newTrade pair swap price))
    pure (⟨created.id, pair, swap.alloc, price, none, none, "BUY", .open⟩, some swap.alloc)

def bookCrediting (pair : String) (swap : Swap) (price : ℚ) :
    Call (RecordedTrade × Option ℚ) :=
  match swap.side with
  | .buy => do
    guardBuy pair
    andFinally (bookBuyCrediting pair swap price) (await (.leaveBuy pair))
  | .sell => do
    let trade ← bookSell pair swap price
    pure (trade, none)

/-- `executeJupiterSwap`, with the notional that is handed to the credit. -/
def executeJupiterSwapCrediting (settings : Settings) (request : SwapRequest)
    (options : ExecuteOptions) : Call (SwapResult × Option ℚ) := do
  let prepared ← prepareSwap settings request options
  let swap := prepared.signed.swap
  let signature ← submitSwap prepared.signed
  let price ← reconcileFillPriceWithMark prepared.token.mint swap.price
  await .ensureJupiterStrategyId
  let booked ← bookCrediting prepared.token.pair swap price
  pure (⟨signature, request.side, prepared.token.binanceSymbol, prepared.amountIn,
    prepared.expectedOut, booked.1⟩, booked.2)

/-! ### The credit changes nothing about the swap -/

theorem bookBuyCrediting_fst (pair : String) (swap : Swap) (price : ℚ) :
    (bookBuyCrediting pair swap price >>= fun both => pure both.1) = bookBuy pair swap price := by
  refine (Async.Program.bind_assoc _ _ _).trans (congrArg _ (funext fun existing? => ?_))
  cases existing? with
  | none => exact Async.Program.bind_assoc _ _ _
  | some existing =>
    refine (Async.Program.bind_assoc _ _ _).trans (congrArg _ (funext fun updated => ?_))
    exact Async.Program.bind_assoc _ _ _

theorem bookCrediting_fst (pair : String) (swap : Swap) (price : ℚ) :
    (bookCrediting pair swap price >>= fun both => pure both.1) = book pair swap price := by
  unfold bookCrediting book
  cases swap.side with
  | buy =>
    refine (Async.Program.bind_assoc _ _ _).trans (congrArg _ (funext fun _ => ?_))
    rw [andFinally_map, bookBuyCrediting_fst]
  | sell => exact (Async.Program.bind_assoc _ _ _).trans (Async.Program.bind_pure _)

theorem executeJupiterSwapCrediting_fst (settings : Settings) (request : SwapRequest)
    (options : ExecuteOptions) :
    (executeJupiterSwapCrediting settings request options >>= fun both => pure both.1) =
      executeJupiterSwap settings request options := by
  refine (Async.Program.bind_assoc _ _ _).trans (congrArg _ (funext fun prepared => ?_))
  refine (Async.Program.bind_assoc _ _ _).trans (congrArg _ (funext fun signature => ?_))
  refine (Async.Program.bind_assoc _ _ _).trans (congrArg _ (funext fun price => ?_))
  refine (Async.Program.bind_assoc _ _ _).trans (congrArg _ (funext fun _ => ?_))
  rw [← bookCrediting_fst]
  exact (Async.Program.bind_assoc _ _ _).trans
    (Async.Program.bind_assoc _ (fun both : RecordedTrade × Option ℚ => pure both.1)
      fun trade => pure (SwapResult.mk signature request.side prepared.token.binanceSymbol
        prepared.amountIn prepared.expectedOut trade)).symm

/-! ### Sequences of buys -/

/-- A buy of a user, and the fates that it meets. -/
structure Buy where
  userId : String
  settings : Settings
  request : SwapRequest
  options : ExecuteOptions
  fates : (op : Op) → Fate op
  isBuy : request.side = .buy

/-- The desk of each user, and the tables of the referrals. -/
structure World where
  desks : String → Desk
  tables : Tables

namespace Buy

variable (buy : Buy) (desk : Desk)

def run : Desk × Except String (SwapResult × Option ℚ) :=
  (executeJupiterSwapCrediting buy.settings buy.request buy.options).exec buy.fates desk

/-- What a unit of the token that is spent is worth. -/
def usdPerUnit : ℚ :=
  match ((resolveSpendMint buy.request).exec buy.fates desk).2 with
  | .ok spend => spend.usdPerUnit
  | .error _ => 0

/-- The swap of the buy, where it is executed. -/
def executed : Option Prepared :=
  match ((prepareSwap buy.settings buy.request buy.options).exec buy.fates desk).2 with
  | .error _ => none
  | .ok prepared =>
    match ((submitSwap prepared.signed).exec buy.fates desk).2 with
    | .error _ => none
    | .ok _ => some prepared

def sizeOf (prepared : Prepared) : ℚ := prepared.signed.swap.inAmount * buy.usdPerUnit desk

def size : Option ℚ := (buy.executed desk).map (buy.sizeOf desk)

/-- The price that is booked for a swap. -/
def price (prepared : Prepared) : ℚ :=
  bookedPrice prepared.signed.swap (markOf buy.fates prepared.token.mint)

/-- A swap opens a new row, and the tokens that it spends are worth something, namely themselves. -/
structure Opens (prepared : Prepared) : Prop where
  worth : prepared.signed.swap.WorthItself (buy.usdPerUnit desk)
  something : 0 < buy.sizeOf desk prepared
  isNew : openRowsOf prepared.token.pair desk.trades = []
  idle : ¬ desk.buying prepared.token.pair (buy.fates (.enterBuy prepared.token.pair))
  ensured : buy.fates .ensureJupiterStrategyId = .answered
  looked : buy.fates (.findOpenTrade prepared.token.pair) = .answered
  created : buy.fates (.createTrade (newTrade prepared.token.pair prepared.signed.swap
    (buy.price prepared))) = .answered

end Buy

namespace World

/-- A buy, and what it is credited with. -/
def buy (world : World) (bought : Buy) : World :=
  let ran := bought.run (world.desks bought.userId)
  { desks := Function.update world.desks bought.userId ran.1
    tables := match ran.2 with
      | .ok (_, some notionalUsd) =>
        maybeCreditJupiterReferralVolume world.tables bought.userId notionalUsd .buy
      | _ => world.tables }

def run (world : World) (buys : List Buy) : World := buys.foldl buy world

def sizes (referrerId : String) : World → List Buy → List ℚ
  | _, [] => []
  | world, bought :: rest =>
    (if world.tables.referrerOf bought.userId = some referrerId then
      (bought.size (world.desks bought.userId)).toList else []) ++
      sizes referrerId (world.buy bought) rest

/-- Every executed buy opens a new row. -/
def AllOpen : World → List Buy → Prop
  | _, [] => True
  | world, bought :: rest =>
    (∀ prepared, bought.executed (world.desks bought.userId) = some prepared →
      bought.Opens (world.desks bought.userId) prepared) ∧ AllOpen (world.buy bought) rest

end World

section Run

variable {bought : Buy} {desk : Desk} {prepared : Prepared}

theorem exec_prepareSwap_of_executed (isExecuted : bought.executed desk = some prepared) :
    (prepareSwap bought.settings bought.request bought.options).exec bought.fates desk =
        (desk, .ok prepared) ∧
      ∃ signature, (submitSwap prepared.signed).exec bought.fates desk = (desk, .ok signature) := by
  have kept := @desk_prepareSwap bought.fates desk bought.settings bought.request bought.options
  unfold Buy.executed at isExecuted
  split at isExecuted
  · cases isExecuted
  · next ready isReady =>
    obtain ⟨submitted, isSubmitted⟩ := @exec_submitSwap bought.fates desk ready.signed
    rw [isSubmitted] at isExecuted
    cases submitted with
    | error failure => cases isExecuted
    | ok signature =>
      obtain rfl := Option.some.inj isExecuted
      exact ⟨Prod.ext kept isReady, signature, isSubmitted⟩

theorem run_of_not_executed (never : bought.executed desk = none) :
    ∃ failure, (bought.run desk).2 = .error failure := by
  have kept := @desk_prepareSwap bought.fates desk bought.settings bought.request bought.options
  unfold Buy.run executeJupiterSwapCrediting
  unfold Buy.executed at never
  rcases ready : (prepareSwap bought.settings bought.request bought.options).exec bought.fates desk
    with ⟨reached, failure | prepared⟩
  · exact ⟨failure, congrArg Prod.snd (exec_bind_error ready)⟩
  · rw [ready] at never kept
    obtain rfl : reached = desk := kept
    obtain ⟨submitted, isSubmitted⟩ := @exec_submitSwap bought.fates reached prepared.signed
    dsimp only at never
    rw [isSubmitted] at never
    cases submitted with
    | ok signature => cases never
    | error failure =>
      rw [exec_bind_ok ready]
      exact ⟨failure, congrArg Prod.snd (exec_bind_error isSubmitted)⟩

theorem exec_bookCrediting {fates : (op : Op) → Fate op} {pair : String} {swap : Swap} {price : ℚ}
    (isBuy : swap.side = .buy) (isNew : openRowsOf pair desk.trades = [])
    (idle : ¬ desk.buying pair (fates (.enterBuy pair)))
    (looked : fates (.findOpenTrade pair) = .answered)
    (created : fates (.createTrade (newTrade pair swap price)) = .answered) :
    ∃ reached trade, (bookCrediting pair swap price).exec fates desk =
      (reached, .ok (trade, some swap.alloc)) := by
  have entered : (await (.enterBuy pair)).exec fates desk =
      (desk.flight pair (some (fates (.enterBuy pair))), .ok true) :=
    (exec_perform _ _).trans (if_neg idle)
  have guarded : (guardBuy pair).exec fates desk =
      (desk.flight pair (some (fates (.enterBuy pair))), .ok ()) := exec_bind_ok entered
  set reached := desk.flight pair (some (fates (.enterBuy pair)))
  have found : (await (.findOpenTrade pair)).exec fates reached = (reached, .ok none) := by
    refine (exec_perform _ _).trans ?_
    show Delivery.read (fates (.findOpenTrade pair)) reached (openRowsOf pair desk.trades).head? = _
    rw [looked, isNew]
    rfl
  have stored : (await (.createTrade (newTrade pair swap price))).exec fates reached =
      (reached.store (reached.trades ++ [newTrade pair swap price]),
        .ok ⟨reached.trades.length, newTrade pair swap price⟩) := by
    refine (exec_perform _ _).trans ?_
    show Delivery.write (fates (.createTrade (newTrade pair swap price))) reached _ _ = _
    rw [created]
    rfl
  have booked : ∃ trade, (bookBuyCrediting pair swap price).exec fates reached =
      (reached.store (reached.trades ++ [newTrade pair swap price]),
        .ok (trade, some swap.alloc)) := by
    unfold bookBuyCrediting
    rw [exec_bind_ok found]
    exact ⟨_, exec_bind_ok stored⟩
  obtain ⟨trade, booked⟩ := booked
  unfold bookCrediting
  rw [isBuy]
  exact ⟨_, trade, (exec_bind_ok guarded).trans (exec_andFinally booked (exec_perform _ _))⟩

/-- A buy that opens a row hands what it books to the credit. -/
theorem run_of_opens (isExecuted : bought.executed desk = some prepared)
    (opens : bought.Opens desk prepared) :
    ∃ result, (bought.run desk).2 = .ok (result, some (bought.sizeOf desk prepared)) := by
  obtain ⟨ready, signature, isSubmitted⟩ := exec_prepareSwap_of_executed isExecuted
  have isBuy := (returns_prepareSwap.exec ready).1.trans bought.isBuy
  have ensured : (await .ensureJupiterStrategyId).exec bought.fates desk = (desk, .ok ()) := by
    refine (exec_perform _ _).trans ?_
    show Delivery.read (bought.fates .ensureJupiterStrategyId) desk () = _
    rw [opens.ensured]
    rfl
  obtain ⟨reached, trade, booked⟩ :=
    exec_bookCrediting isBuy opens.isNew opens.idle opens.looked opens.created
  rw [(Swap.alloc_eq_iff isBuy).mpr opens.worth] at booked
  unfold Buy.run executeJupiterSwapCrediting
  rw [exec_bind_ok ready, exec_bind_ok isSubmitted, exec_bind_ok (exec_reconcile _ _),
    exec_bind_ok ensured]
  exact ⟨_, congrArg Prod.snd (exec_bind_ok booked)⟩

end Run

/-! ### What is counted -/

theorem counts_buy (world : World) {bought : Buy}
    (opens : ∀ prepared, bought.executed (world.desks bought.userId) = some prepared →
      bought.Opens (world.desks bought.userId) prepared) (referrerId : String) :
    Counts world.tables (world.buy bought).tables referrerId
      (if world.tables.referrerOf bought.userId = some referrerId then
        (bought.size (world.desks bought.userId)).toList else []) := by
  unfold World.buy Buy.size
  dsimp only
  cases isExecuted : bought.executed (world.desks bought.userId) with
  | none =>
    obtain ⟨failure, thrown⟩ := run_of_not_executed isExecuted
    rw [thrown, show (if world.tables.referrerOf bought.userId = some referrerId then
      ((none : Option Prepared).map _).toList else []) = [] from ite_self _]
    exact counts_nothing _ _
  | some prepared =>
    have opened := opens prepared isExecuted
    obtain ⟨result, returned⟩ := run_of_opens isExecuted opened
    rw [returned]
    exact counts_maybeCredit _ _ _ opened.something

/-- Where every executed buy opens a new row, a referrer is credited for every one of them. -/
theorem counts_run {buys : List Buy} {world : World} (allOpen : world.AllOpen buys)
    (referrerId : String) :
    Counts world.tables (world.run buys).tables referrerId
      (World.sizes referrerId world buys) := by
  induction buys generalizing world with
  | nil => exact counts_nothing _ _
  | cons bought rest inductionHypothesis =>
    obtain ⟨opens, later⟩ := allOpen
    exact (counts_buy world opens referrerId).trans (inductionHypothesis later)

/-! ### Alice, whom Bob has referred -/

def bob : Referral.User := ⟨"bob", some "BOB", none, 0⟩

def alice : Referral.User := ⟨"alice", none, some "bob", 0⟩

def referredWorld : World where
  desks := fun _ => ⟨[], fun _ => none⟩
  tables :=
    { users := [bob, alice]
      rewards := []
      linked := by
        intro user member referrerId isReferred
        simp only [List.mem_cons, List.not_mem_nil, or_false] at member
        obtain rfl | rfl := member
        · cases isReferred
        · cases isReferred
          exact ⟨by decide, bob, List.mem_cons_self, rfl⟩ }

/-- 150 USDC for 75 WIF. -/
def aliceBuy : Buy where
  userId := "alice"
  settings := solSettings
  request := solBuy .usdc 150
  options := {}
  fates := solMarket
  isBuy := rfl

def alicePrepared : Prepared :=
  ⟨wifToken, ⟨"AQAB", "7xKX", "r1", ⟨.buy, false, solUsdcMint, 150, 150, 75⟩⟩, 150000000, 75000000⟩

theorem executed_aliceBuy :
    aliceBuy.executed (referredWorld.desks aliceBuy.userId) = some alicePrepared ∧
      aliceBuy.usdPerUnit (referredWorld.desks aliceBuy.userId) = 1 := by
  decide +kernel

theorem counts_run_aliceBuy : Counts referredWorld.tables (referredWorld.run [aliceBuy]).tables
    "bob" (World.sizes "bob" referredWorld [aliceBuy]) := by
  refine @counts_run [aliceBuy] referredWorld ⟨fun prepared isExecuted => ?_, trivial⟩ "bob"
  obtain ⟨executed, usdPerUnit⟩ := executed_aliceBuy
  obtain rfl := Option.some.inj (executed.symm.trans isExecuted)
  refine ⟨?_, ?_, rfl, ?_, rfl, rfl, rfl⟩
  · rw [usdPerUnit]
    refine ⟨⟨15000000000, ?_⟩, ?_, ?_⟩ <;> norm_num [alicePrepared]
  · rw [Buy.sizeOf, usdPerUnit]
    norm_num [alicePrepared]
  · rintro ⟨since, isSince, -⟩
    cases isSince

/-- The second buy of a pair is added to the row of the first, and counts for nothing. -/
theorem not_counts_run : ¬ Counts referredWorld.tables
    (referredWorld.run [aliceBuy, aliceBuy]).tables "bob"
    (World.sizes "bob" referredWorld [aliceBuy, aliceBuy]) := by
  intro counts
  have trades := counts.trades
  revert trades
  decide +kernel

end GdslExchange.Jupiter
