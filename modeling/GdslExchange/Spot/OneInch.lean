/-
This file models swaps over 1inch: what is checked before the swap, the swap, the balances that
are read around it, the row that is written, and which rows the exit watcher looks at.

All balances are read after the swap has been mined, so their differences are nothing. A buy
therefore carries no cost and the watcher never looks at it; a sell carries the quoted price.
-/

import GdslExchange.Spot.PersonalWallet

namespace GdslExchange.Spot.OneInch

open Async (Stored)
open Jupiter (Side Trade TradePatch openRowsOf mem_openRowsOf roundTripRealizedPnl)
open Numeric

/-! ### Tokens -/

def minUsdtTrade : ℚ := 50

def maxBuyVsBinanceBps : ℤ := 90

/-- `ONEINCH_NATIVE`. -/
def oneInchNative : String := "0xeeeeeeeeeeeeeeeeeeeeeeeeeeeeeeeeeeeeeeee"

/-- `ResolvedBscToken`. The native coin has 18 decimals. -/
structure ResolvedBscToken where
  baseSymbol : String
  contractAddress : String
  decimals : ℕ
  native_decimals : contractAddress.toLower = oneInchNative → decimals = 18

def ResolvedBscToken.isNative (token : ResolvedBscToken) : Bool :=
  token.contractAddress.toLower = oneInchNative

/-- The fields of a `OneInchSwapRequest` that the swap looks at; the slippage it only passes on. -/
structure OneInchSwapRequest where
  side : Side
  binanceSymbol : String
  amount : ℚ

namespace OneInchSwapRequest

variable (req : OneInchSwapRequest) (token : ResolvedBscToken)

def inDecimals : ℕ := if req.side = .buy then 18 else token.decimals

def outDecimals : ℕ := if req.side = .buy then token.decimals else 18

end OneInchSwapRequest

/-! ### Before the swap -/

/-- What the services answer to one swap. -/
structure Answers where
  isPersonalWalletEnabled : Bool
  isOneInchConfigured : Bool
  previewed : Option ResolvedBscToken
  quote : Except String ℕ
  binanceMid : Option ℚ
  token : Option ResolvedBscToken
  signer : Except String Unit
  allowance : Except String Unit
  built : Except String ℕ
  /-- What the mined transaction pays out, unless it is not sent or reverts. -/
  mined : Except String ℕ

/-- The fields of a `OneInchQuotePreview` that the swap reads. -/
structure Preview where
  tradable : Bool
  message : Option String
  priceVsBinanceBps : Option ℤ

def previewOneInchSwap (req : OneInchSwapRequest) (answers : Answers) : Except String Preview :=
  match answers.previewed with
  | none => .ok ⟨false, some
      "No BSC token mapping for this pair. It may not be available on 1inch BSC.", none⟩
  | some token => do
    let amountIn ← parseAmount req.amount (req.inDecimals token)
    match answers.quote with
    | .error message => return ⟨false, some message, none⟩
    | .ok dstAmount =>
      let outHuman := fromUnits dstAmount (req.outDecimals token)
      let inHuman := fromUnits amountIn (req.inDecimals token)
      let executablePrice :=
        if 0 < inHuman ∧ 0 < outHuman then
          some (if req.side = .buy then inHuman / outHuman else outHuman / inHuman)
        else none
      let priceVsBinanceBps := do
        let price ← executablePrice
        let mid ← answers.binanceMid
        guard (0 < mid ∧ 0 < price)
        return Numeric.round ((price - mid) / mid * 10000)
      return ⟨0 < outHuman, none, priceVsBinanceBps⟩

/-- The wallet's USDT, what it holds of the token, native or not, and the rows of the user under
the strategy "DEX 1inch BSC". -/
structure Desk where
  usdt : ℕ
  held : ℕ
  trades : List Trade

/-- `if (refused) throw new Error(message)`. -/
def throwIf (refused : Prop) [Decidable refused] (message : String) : Except String Unit :=
  if refused then .error message else .ok ()

/-- `amountIn`, if the wallet has it. -/
def amountInOf (req : OneInchSwapRequest) (token : ResolvedBscToken) (desk : Desk) :
    Except String ℕ :=
  match req.side with
  | .buy => do
    let amountIn ← parseAmount req.amount 18
    throwIf (desk.usdt < amountIn)
      ("Insufficient USDT — need " ++ text req.amount ++ ", have " ++ formatUnits desk.usdt 18)
    return amountIn
  | .sell =>
    if token.isNative then do
      let amountIn ← parseAmount req.amount 18
      throwIf (desk.held < amountIn) ("Insufficient BNB — have " ++ formatUnits desk.held 18)
      return amountIn
    else do
      let desired ← parseAmount req.amount token.decimals
      throwIf (min desired desk.held ≤ 0) ("Insufficient " ++ token.baseSymbol ++ " balance")
      return min desired desk.held

/-- A swap that was mined: what it took, what was quoted for it and what it paid out. -/
structure Plan where
  token : ResolvedBscToken
  amountIn : ℕ
  expectedOut : ℕ
  received : ℕ

def checkOneInchSwap (req : OneInchSwapRequest) (answers : Answers) : Except String Unit := do
  throwIf (!answers.isPersonalWalletEnabled)
    "Personal wallet is not configured (WALLET_ENCRYPTION_KEY)."
  throwIf (!answers.isOneInchConfigured) "1inch is not configured (ONEINCH_API_KEY)."
  throwIf (req.amount ≤ 0) "amount must be positive"
  throwIf (req.side = .buy ∧ req.amount < minUsdtTrade)
    ("Minimum buy size is " ++ text minUsdtTrade ++ " USDT on DEX 1inch.")
  let fresh ← previewOneInchSwap req answers
  throwIf (!fresh.tradable) (fresh.message.getD "No executable 1inch route for this pair.")
  throwIf (req.side = .buy ∧ fresh.priceVsBinanceBps.any (maxBuyVsBinanceBps < ·))
    ("1inch price is " ++ (toFixed 2 (((fresh.priceVsBinanceBps.getD 0 : ℤ) : ℚ) / 100)).render ++
      "% above Binance — trade blocked to protect PnL.")

/-- The token of the pair, if it trades on BSC. -/
def tokenOf (req : OneInchSwapRequest) (answers : Answers) : Except String ResolvedBscToken :=
  match answers.token with
  | some token => .ok token
  | none => .error ("This pair is not available on BSC via 1inch (" ++ req.binanceSymbol ++ ").")

/-- `executeOneInchSwap` up to the mined transaction. -/
def planOneInchSwap (req : OneInchSwapRequest) (answers : Answers) (desk : Desk) :
    Except String Plan := do
  checkOneInchSwap req answers
  let token ← tokenOf req answers
  answers.signer
  let amountIn ← amountInOf req token desk
  answers.allowance
  let expectedOut ← answers.built
  let received ← answers.mined
  return ⟨token, amountIn, expectedOut, received⟩

/-! ### The swap -/

/-- What the mined transaction does to the wallet. -/
def Desk.swapped (req : OneInchSwapRequest) (plan : Plan) (desk : Desk) : Desk :=
  match req.side with
  | .buy => { desk with usdt := desk.usdt - plan.amountIn, held := desk.held + plan.received }
  | .sell => { desk with usdt := desk.usdt + plan.received, held := desk.held - plan.amountIn }

/-- `Number(formatUnits(…))` of a difference of balances. -/
def changeOf (before after decimals : ℕ) : ℚ := ((after : ℤ) - before : ℤ) / 10 ^ decimals

/-- `1e-18`. -/
def dust : ℚ := 1 / 10 ^ 18

/-- The price and the cost that are booked. -/
structure Fill where
  safeEntry : ℚ
  safeAlloc : ℚ

section Fill

variable (req : OneInchSwapRequest) (plan : Plan)

def amountInNum : ℚ := fromUnits plan.amountIn (req.inDecimals plan.token)

def quotedOutNum : ℚ := fromUnits plan.expectedOut (req.outDecimals plan.token)

def quotedPrice : ℚ :=
  if req.side = .buy then amountInNum req plan / max (quotedOutNum req plan) dust
  else quotedOutNum req plan / max (amountInNum req plan) dust

/-- The fill, from the balances that are read once the transaction is mined. -/
def fillOf (mined : Desk) : Fill :=
  let usdtBefore := mined.usdt
  let counterBefore := if plan.token.isNative then 0 else mined.held
  let usdtAfter := mined.usdt
  let counterAfter := if plan.token.isNative then 0 else mined.held
  let (allocationUsd, entryPriceEff) :=
    match req.side with
    | .buy =>
      let spent := changeOf usdtAfter usdtBefore 18
      let recv :=
        if plan.token.isNative then quotedOutNum req plan
        else changeOf counterBefore counterAfter plan.token.decimals
      (max 0 spent, if dust < recv then spent / recv else quotedPrice req plan)
    | .sell =>
      let recv := changeOf usdtBefore usdtAfter 18
      let sold :=
        if plan.token.isNative then amountInNum req plan
        else changeOf counterAfter counterBefore plan.token.decimals
      (max 0 recv, if dust < sold then recv / sold else quotedPrice req plan)
  { safeEntry := if 0 < entryPriceEff then entryPriceEff else quotedPrice req plan
    safeAlloc := roundTo 8 allocationUsd }

end Fill

/-! ### The row -/

inductive RecordedSide where
  | buy
  | sell
  | closed
deriving DecidableEq

/-- The fields of the recorded trade that tell which row was written, and how. -/
structure RecordedTrade where
  id : ℕ
  side : RecordedSide

def Plan.pair (plan : Plan) : String := plan.token.baseSymbol ++ "/USDT"

/-- A row of the pair at the price and the cost of a fill. -/
def Plan.row (plan : Plan) (fill : Fill) (status : Jupiter.TradeStatus) : Trade where
  pair := plan.pair
  entryPrice := fill.safeEntry
  exitPrice := none
  pnl := none
  allocationUsd := if 0 < fill.safeAlloc then some fill.safeAlloc else none
  takeProfitPct := none
  status := status

def closedRow (openPos : Trade) (fill : Fill) : Trade :=
  TradePatch.apply
    { exitPrice := some fill.safeEntry
      pnl := some (roundTripRealizedPnl openPos.alloc openPos.entryPrice fill.safeEntry)
      status := some .closed }
    openPos

def book (req : OneInchSwapRequest) (plan : Plan) (fill : Fill) (trades : List Trade) :
    List Trade × RecordedTrade :=
  match req.side with
  | .buy => (trades ++ [plan.row fill .open], ⟨trades.length, .buy⟩)
  | .sell =>
    match openRowsOf plan.pair trades with
    | openPos :: _ => (trades.set openPos.id (closedRow openPos.row fill), ⟨openPos.id, .closed⟩)
    | [] => (trades ++ [plan.row fill .closed], ⟨trades.length, .sell⟩)

def executeOneInchSwap (req : OneInchSwapRequest) (answers : Answers) (desk : Desk) :
    Desk × Except String RecordedTrade :=
  match planOneInchSwap req answers desk with
  | .error failure => (desk, .error failure)
  | .ok plan =>
    let mined := desk.swapped req plan
    let booked := book req plan (fillOf req plan mined) mined.trades
    ({ mined with trades := booked.1 }, .ok booked.2)

/-! ### The exit watcher -/

/-- The quantity for which `runOneInchOpenPositionWatcher` asks a mark, unless it skips the row. -/
def lotQty (trade : Trade) : Option ℚ :=
  if trade.entryPrice ≤ 0 ∨ trade.alloc ≤ 0 then none
  else some (trade.alloc / trade.entryPrice)

/-- The rows that a run examines: of the oldest forty OPEN ones those that are not cooling down. -/
def examined (cooling : ℕ → Bool) (openTrades : List (Stored Trade)) :
    List (Stored Trade × ℚ) :=
  (openTrades.take 40).filterMap fun stored =>
    if cooling stored.id then none else (lotQty stored.row).map fun quantity => (stored, quantity)

/-! ### What a swap books -/

namespace Plan

variable (plan : Plan)

/-- The USDT that a buy spends and the tokens it receives. -/
def spent : ℚ := fromUnits plan.amountIn 18

def bought : ℚ := fromUnits plan.received plan.token.decimals

/-- The tokens that a sell gives and the USDT it receives. -/
def sold : ℚ := fromUnits plan.amountIn plan.token.decimals

def proceeds : ℚ := fromUnits plan.received 18

/-- What was received is what was quoted, for an amount that is not dust. -/
def FilledAsQuoted : Prop :=
  (plan.received : ℚ) * max plan.sold dust = plan.expectedOut * plan.sold

instance : Decidable plan.FilledAsQuoted := inferInstanceAs (Decidable (_ = _))

end Plan

def RecordedTrade.price (recorded : RecordedTrade) (row : Trade) : Option ℚ :=
  if recorded.side = .closed then row.exitPrice else some row.entryPrice

/-- A buy opens a row with what it spent, at the price it paid, whose quantity the watcher reads; a
sell leaves a row at the price it fetched. -/
def BookedAsFilled (req : OneInchSwapRequest) (plan : Plan) (trades : List Trade)
    (recorded : RecordedTrade) : Prop :=
  ∃ row, trades[recorded.id]? = some row ∧
    match req.side with
    | .buy => row.IsOpen ∧ row.allocationUsd = some plan.spent ∧
        recorded.price row = some (plan.spent / plan.bought) ∧ lotQty row = some plan.bought
    | .sell => recorded.price row = some (plan.proceeds / plan.sold)

section Booking

variable {req : OneInchSwapRequest} {answers : Answers} {desk : Desk} {plan : Plan}

theorem changeOf_self (balance decimals : ℕ) : changeOf balance balance decimals = 0 := by
  unfold changeOf
  rw [sub_self, Int.cast_zero, zero_div]

/-- A change of nothing gives no price, so the price of the quote is booked. -/
theorem safeEntry_eq {changed quoted : ℚ} :
    (if 0 < (if dust < changed then 0 / changed else quoted) then
      (if dust < changed then 0 / changed else quoted) else quoted) = quoted := by
  by_cases some : dust < changed
  · rw [if_pos some, zero_div, if_neg (lt_irrefl _)]
  · rw [if_neg some, ite_self]

/-- What is booked is the quote, without a cost. -/
theorem fillOf_eq (req : OneInchSwapRequest) (plan : Plan) (mined : Desk) :
    fillOf req plan mined = ⟨quotedPrice req plan, 0⟩ := by
  have free : roundTo 8 (max 0 0) = 0 := by rw [max_self, roundTo_zero]
  unfold fillOf
  simp only [changeOf_self]
  rcases req.side with _ | _
  · simp only [safeEntry_eq, free]
  · simp only [safeEntry_eq, free]

theorem bind_eq_ok {Value Next : Type} {value : Except String Value}
    {next : Value → Except String Next} {result : Next} :
    value >>= next = .ok result ↔ ∃ answer, value = .ok answer ∧ next answer = .ok result := by
  rcases value with failure | answer
  · constructor
    · intro never
      cases never
    · rintro ⟨_, never, _⟩
      cases never
  · exact ⟨fun answered => ⟨answer, rfl, answered⟩, fun ⟨_, same, answered⟩ =>
      Except.ok.inj same ▸ answered⟩

theorem ok_bind {Value Next : Type} (value : Value) (next : Value → Except String Next) :
    (Except.ok value >>= next) = next value := rfl

theorem not_of_throwIf {refused : Prop} [Decidable refused] {message : String} {done : Unit}
    (passed : throwIf refused message = .ok done) : ¬ refused := by
  unfold throwIf at passed
  split_ifs at passed with isRefused
  exact isRefused

theorem amount_pos {done : Unit} (checked : checkOneInchSwap req answers = .ok done) :
    0 < req.amount := by
  obtain ⟨_, _, checked⟩ := bind_eq_ok.mp checked
  obtain ⟨_, _, checked⟩ := bind_eq_ok.mp checked
  obtain ⟨_, positive, _⟩ := bind_eq_ok.mp checked
  exact not_le.mp (not_of_throwIf positive)

theorem parseAmount_pos {amount : ℚ} {decimals parsed : ℕ} (positive : 0 < amount)
    (isParsed : parseAmount amount decimals = .ok parsed) : 0 < parsed := by
  unfold parseAmount at isParsed
  split_ifs at isParsed
  obtain rfl := Except.ok.inj isParsed
  have scaled : 0 < amount * 10 ^ decimals := by positivity
  have units : 0 < (amount * 10 ^ decimals).num := Rat.num_pos.mpr scaled
  omega

theorem amountIn_pos (planned : planOneInchSwap req answers desk = .ok plan)
    (isSell : req.side = .sell) : 0 < plan.amountIn := by
  obtain ⟨_, checked, planned⟩ := bind_eq_ok.mp planned
  obtain ⟨token, _, planned⟩ := bind_eq_ok.mp planned
  obtain ⟨_, _, planned⟩ := bind_eq_ok.mp planned
  obtain ⟨amountIn, amounts, planned⟩ := bind_eq_ok.mp planned
  obtain ⟨_, _, planned⟩ := bind_eq_ok.mp planned
  obtain ⟨_, _, planned⟩ := bind_eq_ok.mp planned
  obtain ⟨_, _, planned⟩ := bind_eq_ok.mp planned
  obtain rfl := Except.ok.inj planned
  unfold amountInOf at amounts
  rw [isSell] at amounts
  split_ifs at amounts
  · obtain ⟨parsed, isParsed, amounts⟩ := bind_eq_ok.mp amounts
    obtain ⟨_, _, amounts⟩ := bind_eq_ok.mp amounts
    exact Except.ok.inj amounts ▸ parseAmount_pos (amount_pos checked) isParsed
  · obtain ⟨desired, _, amounts⟩ := bind_eq_ok.mp amounts
    obtain ⟨_, some, amounts⟩ := bind_eq_ok.mp amounts
    exact Except.ok.inj amounts ▸ not_le.mp (not_of_throwIf some)

theorem quotedPrice_eq_iff (isSell : req.side = .sell) (some : 0 < plan.amountIn) :
    quotedPrice req plan = plan.proceeds / plan.sold ↔ plan.FilledAsQuoted := by
  have sold : 0 < plan.sold := by
    unfold Plan.sold fromUnits
    positivity
  have most : 0 < max plan.sold dust := lt_max_of_lt_left sold
  have amountIn : amountInNum req plan = plan.sold := by
    unfold amountInNum Plan.sold OneInchSwapRequest.inDecimals
    rw [isSell]
    rfl
  have quoted : quotedOutNum req plan = fromUnits plan.expectedOut 18 := by
    unfold quotedOutNum OneInchSwapRequest.outDecimals
    rw [isSell]
    rfl
  unfold quotedPrice Plan.FilledAsQuoted Plan.proceeds
  rw [isSell, if_neg Side.noConfusion, amountIn, quoted, div_eq_div_iff most.ne' sold.ne']
  unfold fromUnits
  constructor
  · intro same
    field_simp at same
    linarith
  · intro same
    field_simp
    linarith

/-- The swap leaves a row that tells what it did. -/
def ExecutesAsFilled (req : OneInchSwapRequest) (answers : Answers) (desk : Desk) (plan : Plan) :
    Prop :=
  ∃ recorded, (executeOneInchSwap req answers desk).2 = .ok recorded ∧
    BookedAsFilled req plan (executeOneInchSwap req answers desk).1.trades recorded

theorem lotQty_of_examined {cooling : ℕ → Bool} {openTrades : List (Stored Trade)}
    {lot : Stored Trade × ℚ} (member : lot ∈ examined cooling openTrades) :
    lotQty lot.1.row ≠ none := by
  obtain ⟨stored, _, isLot⟩ := List.mem_filterMap.mp member
  split_ifs at isLot
  obtain ⟨quantity, isQuantity, rfl⟩ := Option.map_eq_some_iff.mp isLot
  rw [isQuantity]
  exact Option.some_ne_none _

section Planned

variable (planned : planOneInchSwap req answers desk = .ok plan)
include planned

theorem executesAsFilled_iff_book : ExecutesAsFilled req answers desk plan ↔
    BookedAsFilled req plan (book req plan ⟨quotedPrice req plan, 0⟩ desk.trades).1
      (book req plan ⟨quotedPrice req plan, 0⟩ desk.trades).2 := by
  have kept : (desk.swapped req plan).trades = desk.trades := by
    unfold Desk.swapped
    rcases req.side with _ | _ <;> rfl
  unfold ExecutesAsFilled executeOneInchSwap
  rw [planned]
  dsimp only
  rw [fillOf_eq, kept]
  simp only [Except.ok.injEq, exists_eq_left']

/-- The row of a buy carries no cost. -/
theorem not_executesAsFilled_buy (isBuy : req.side = .buy) :
    ¬ ExecutesAsFilled req answers desk plan := by
  rw [executesAsFilled_iff_book planned]
  unfold book BookedAsFilled
  rw [isBuy]
  rintro ⟨row, isRow, _, alloc, _⟩
  rw [List.getElem?_concat_length] at isRow
  obtain rfl := Option.some.inj isRow
  unfold Plan.row at alloc
  rw [if_neg (lt_irrefl _)] at alloc
  cases alloc

theorem not_examined_buy (isBuy : req.side = .buy) : ∃ row,
    (executeOneInchSwap req answers desk).1.trades = desk.trades ++ [row] ∧ row.IsOpen ∧
      ∀ cooling openTrades, ∀ lot ∈ examined cooling openTrades, lot.1.row ≠ row := by
  refine ⟨plan.row ⟨quotedPrice req plan, 0⟩ .open, ?_, rfl, ?_⟩
  · unfold executeOneInchSwap
    rw [planned]
    dsimp only
    rw [fillOf_eq]
    unfold Desk.swapped book
    rw [isBuy]
  · intro cooling openTrades lot member isRow
    have skipped : lotQty lot.1.row = none := by
      rw [isRow]
      exact if_pos (Or.inr le_rfl)
    exact lotQty_of_examined member skipped

theorem executesAsFilled_sell (isSell : req.side = .sell) :
    ExecutesAsFilled req answers desk plan ↔ plan.FilledAsQuoted := by
  rw [executesAsFilled_iff_book planned, ← quotedPrice_eq_iff isSell (amountIn_pos planned isSell)]
  unfold book BookedAsFilled
  rw [isSell]
  rcases isLot : openRowsOf plan.pair desk.trades with _ | ⟨openPos, rest⟩
  · simp only [List.getElem?_concat_length, Option.some.injEq, exists_eq_left']
    exact Option.some_inj
  · have found : openPos.id < desk.trades.length := by
      have member := mem_openRowsOf.mp (isLot ▸ List.mem_cons_self :
        openPos ∈ openRowsOf plan.pair desk.trades)
      exact (List.getElem?_eq_some_iff.mp member.1).1
    simp only [List.getElem?_set_self found, Option.some.injEq, exists_eq_left']
    exact Option.some_inj

/-- A sell is booked as it was filled exactly if it was filled as quoted, and a buy never is. -/
theorem executesAsFilled_iff :
    ExecutesAsFilled req answers desk plan ↔ req.side = .sell ∧ plan.FilledAsQuoted := by
  rcases isSide : req.side with _ | _
  · exact iff_of_false (not_executesAsFilled_buy planned isSide)
      fun both => Side.noConfusion both.1
  · rw [executesAsFilled_sell planned isSide, and_iff_right rfl]

end Planned

end Booking

/-! ### Runs -/

/-- A token with eight decimals. -/
def doge : ResolvedBscToken where
  baseSymbol := "DOGE"
  contractAddress := "0xba2ae424d960c26247dd6c32edc70b295c744c43"
  decimals := 8
  native_decimals := by decide +kernel

/-- Everything is in order, so much is quoted and so much is paid out. -/
def filled (quoted received : ℕ) : Answers where
  isPersonalWalletEnabled := true
  isOneInchConfigured := true
  previewed := some doge
  quote := .ok quoted
  binanceMid := none
  token := some doge
  signer := .ok ()
  allowance := .ok ()
  built := .ok quoted
  mined := .ok received

theorem planOneInchSwap_filled {req : OneInchSwapRequest} {desk : Desk}
    {quoted received amountIn : ℕ}
    (checked : checkOneInchSwap req (filled quoted received) = .ok ())
    (amounts : amountInOf req doge desk = .ok amountIn) :
    planOneInchSwap req (filled quoted received) desk =
      .ok ⟨doge, amountIn, quoted, received⟩ := by
  have token : tokenOf req (filled quoted received) = .ok doge := rfl
  have signer : (filled quoted received).signer = .ok () := rfl
  unfold planOneInchSwap
  rw [checked, token, signer, ok_bind, ok_bind, ok_bind, amounts]
  rfl

def wallet (usdt doge : ℕ) : Desk where
  usdt := usdt * 10 ^ 18
  held := doge * 10 ^ 8
  trades := []

def sellDoge : OneInchSwapRequest where
  side := .sell
  binanceSymbol := "DOGEUSDT"
  amount := 1000

def buyDoge : OneInchSwapRequest where
  side := .buy
  binanceSymbol := "DOGEUSDT"
  amount := 100

theorem planned_doge :
    planOneInchSwap sellDoge (filled (100 * 10 ^ 18) (100 * 10 ^ 18)) (wallet 0 1000) =
        .ok ⟨doge, 1000 * 10 ^ 8, 100 * 10 ^ 18, 100 * 10 ^ 18⟩ ∧
      planOneInchSwap buyDoge (filled (1000 * 10 ^ 8) (1000 * 10 ^ 8)) (wallet 100 0) =
        .ok ⟨doge, 100 * 10 ^ 18, 1000 * 10 ^ 8, 1000 * 10 ^ 8⟩ := by
  have checked : (checkOneInchSwap sellDoge (filled (100 * 10 ^ 18) (100 * 10 ^ 18)) = .ok () ∧
      amountInOf sellDoge doge (wallet 0 1000) = .ok (1000 * 10 ^ 8)) ∧
      checkOneInchSwap buyDoge (filled (1000 * 10 ^ 8) (1000 * 10 ^ 8)) = .ok () ∧
      amountInOf buyDoge doge (wallet 100 0) = .ok (100 * 10 ^ 18) := by
    decide +kernel
  exact ⟨planOneInchSwap_filled checked.1.1 checked.1.2,
    planOneInchSwap_filled checked.2.1 checked.2.2⟩

/-- A sell of 1000 DOGE that fetches the 100 USDT that were quoted. -/
theorem executesAsFilled_sellDoge :
    ExecutesAsFilled sellDoge (filled (100 * 10 ^ 18) (100 * 10 ^ 18)) (wallet 0 1000)
      ⟨doge, 1000 * 10 ^ 8, 100 * 10 ^ 18, 100 * 10 ^ 18⟩ :=
  (executesAsFilled_iff planned_doge.1).mpr ⟨rfl, by decide +kernel⟩

/-- A buy of 1000 DOGE for 100 USDT, as quoted. -/
theorem not_executesAsFilled_buyDoge :
    planOneInchSwap buyDoge (filled (1000 * 10 ^ 8) (1000 * 10 ^ 8)) (wallet 100 0) =
        .ok ⟨doge, 100 * 10 ^ 18, 1000 * 10 ^ 8, 1000 * 10 ^ 8⟩ ∧
      ¬ ExecutesAsFilled buyDoge (filled (1000 * 10 ^ 8) (1000 * 10 ^ 8)) (wallet 100 0)
        ⟨doge, 100 * 10 ^ 18, 1000 * 10 ^ 8, 1000 * 10 ^ 8⟩ :=
  ⟨planned_doge.2, not_executesAsFilled_buy planned_doge.2 rfl⟩

end GdslExchange.Spot.OneInch
