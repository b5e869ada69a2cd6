/-
This file models the three ways out of an OPEN lot: the profit skim of the
dashboard, the profit skim of the open-position watcher, and "Sell now" for all
or half of the lot.
-/

import GdslExchange.Jupiter.Swap

namespace GdslExchange.Jupiter

open Async (Stored)
open Async.Program
open Numeric

/-- `symbol.toUpperCase().replace(/USDT$/i, '')`. -/
def baseOf (symbol : String) : String :=
  let upper := symbol.toUpper
  if upper.endsWith "USDT" then (upper.dropEnd 4).toString else upper

def pairOf (baseSymbol : String) : String := baseSymbol ++ "/USDT"

/-- The sell order of an automatic or manual exit. -/
def exitRequest (settings : Settings) (binanceSymbol : String) (amount : ℚ) : SwapRequest where
  side := .sell
  binanceSymbol := binanceSymbol
  amount := amount
  slippageBps := some settings.dexAutoExitSlippageBps

/-- The profit of a lot at a mark, in percent. -/
def profitPct (entry mark : ℚ) : ℚ := (mark - entry) / entry * 100

/-! ### Skims -/

/-- The profit slice: at most a share of the lot, and of what the wallet holds. -/
def skimQuantity (share : ℚ) (row : Trade) (mark : ℚ) (walletQty : Option ℚ) (decimals : ℕ) : ℚ :=
  let lotQty := row.alloc / row.entryPrice
  let profitUsd := row.alloc * (profitPct row.entryPrice mark / 100)
  let slice := min (lotQty * share) (profitUsd / mark)
  floorTo decimals (match walletQty with
    | some held => if held > 0 then min slice (held * (98 / 100)) else slice
    | none => slice)

def skimJupiterPositionProfit (settings : Settings) (symbol : String) : Call SwapResult := do
  let sym := baseOf symbol
  await .ensureJupiterStrategyId
  let _ ← tryMerge
  let openPos? ← await (.findOpenTrade (pairOf sym))
  let openPos ← orThrow openPos? ("No open " ++ sym ++ " position to skim")
  let row := openPos.row
  throwIf (row.entryPrice ≤ 0 ∨ row.alloc ≤ 0) ("Open " ++ sym ++ " position has no recorded size")
  let lotQty := row.alloc / row.entryPrice
  let quoted ← await (.quoteJupiterSellUsdPerToken sym lotQty)
  let exitMark ← orThrow (quoted.filter fun mark => mark > 0)
    "No executable Jupiter quote right now — try again in a few seconds"
  let pct := profitPct row.entryPrice exitMark
  throwIf (pct ≤ 0) (sym ++ " is not in profit yet (" ++ (toFixed 2 pct).render ++
    "% vs entry) — nothing to skim")
  let token? ← await (.getJupiterTradableToken (sym ++ "USDT"))
  let token ← orThrow token? ("Unsupported symbol " ++ sym ++ " on Jupiter Solana")
  let walletQty ← await (.getSolanaTokenBalance token.mint token.decimals)
  let slice := skimQuantity (1 / 2) row exitMark (some walletQty) token.decimals
  throwIf (slice ≤ 0) "Profit slice is too small to skim on-chain — let it run a bit more"
  let skimQty := if slice ≥ lotQty * (9 / 10) then floorTo token.decimals (lotQty * (1 / 2)) else slice
  throwIf (skimQty ≤ 0) "Profit slice is too small to skim on-chain — let it run a bit more"
  executeJupiterSwap settings (exitRequest settings (sym ++ "USDT") skimQty)
    { skipEntryGuard := true, partialSkim := true }

/-- The exit settings the watcher reads. -/
structure ExitSettings where
  enabled : Bool
  profitSkim : Bool
  takeProfitPct : ℚ

/-- The skim of `runJupiterOpenPositionWatcher`, for one lot that is past its cooldowns. A failed
swap is logged and the lot kept for the next pass. -/
def skimOpenTrade (settings : Settings) (prefs : ExitSettings) (baseSymbol : String)
    (row : Trade) : Call Unit := do
  if row.entryPrice ≤ 0 ∨ row.alloc ≤ 0 ∨ !prefs.enabled then pure ()
  else do
    let lotQty := row.alloc / row.entryPrice
    let quoted ← await (.quoteJupiterSellUsdPerToken baseSymbol lotQty)
    match quoted with
    | none => pure ()
    | some exitMark => do
      let pct := profitPct row.entryPrice exitMark
      let takeProfit := row.takeProfitPct.getD prefs.takeProfitPct
      if pct ≥ takeProfit ∧ prefs.profitSkim then do
        let token? ← await (.getJupiterTradableToken (baseSymbol ++ "USDT"))
        let decimals := (token?.map Token.decimals).getD 6
        let sellQty := skimQuantity (4 / 10) row exitMark none decimals
        if sellQty > 0 ∧ sellQty < lotQty * (9 / 10) then
          recover ((executeJupiterSwap settings
            (exitRequest settings (baseSymbol ++ "USDT") sellQty)
            { skipEntryGuard := true, partialSkim := true }).bind fun _ => pure ())
            fun _ => pure ()
        else pure ()
      else pure ()

/-! ### Sell now -/

inductive Fraction where
  | all
  | half
deriving DecidableEq

/-- The quantity to sell, with a haircut on what the wallet holds. -/
def sellQuantity (fraction : Fraction) (lotQty walletQty : ℚ) (decimals : ℕ) : ℚ :=
  let held := if walletQty > 0 then min lotQty (walletQty * (98 / 100)) else 0
  floorTo decimals (match fraction with
    | .all => held
    | .half => held / 2)

def lotQuantity (opens : List (Stored Trade)) : ℚ :=
  (opens.map fun stored => if stored.row.Counted then stored.row.alloc / stored.row.entryPrice
    else 0).sum

inductive SellOpenResult where
  | sold (result : SwapResult)
  | clearedStale (symbol : String) (cancelledCount : ℕ) (message : String)

/-- The rows that are still OPEN after a sell, the oldest apart, are cancelled. -/
def cancelRest : List (Stored Trade) → Call Unit :=
  forEach fun stored => do
    let _ ← await (.updateTrade stored.id { status := some .cancelled })
    pure ()

def sellJupiterOpenPosition (settings : Settings) (symbol : String) (fraction : Fraction) :
    Call SellOpenResult := do
  let sym := baseOf symbol
  await .ensureJupiterStrategyId
  let openTrades ← await (.findOpenTradesOf (pairOf sym))
  throwIf (openTrades.length = 0)
    ("No open " ++ sym ++ " position in the DEX Jupiter trade book")
  let _ ← tryMerge
  let token? ← await (.getJupiterTradableToken (sym ++ "USDT"))
  let token ← orThrow token? ("Unsupported symbol " ++ sym ++ " on Jupiter Solana")
  let lotQty := lotQuantity openTrades
  if lotQty ≤ 0 then do
    await (.cancelOpenTrades (openTrades.map Stored.id))
    pure (.clearedStale sym openTrades.length ("Cleared " ++ toString openTrades.length ++
      " stale " ++ sym ++ " open position(s) with no recorded quantity."))
  else do
    let walletQty ← await (.getSolanaTokenBalance token.mint token.decimals)
    let sellQty := sellQuantity fraction lotQty walletQty token.decimals
    if sellQty ≤ 0 then do
      await (.cancelOpenTrades (openTrades.map Stored.id))
      pure (.clearedStale sym openTrades.length ("No " ++ sym ++
        " balance in the Solana wallet — cleared " ++ toString openTrades.length ++
        " stale open position(s) from the trade book."))
    else do
      let result ← executeJupiterSwap settings
        (exitRequest settings token.binanceSymbol sellQty)
        { skipEntryGuard := true, skipPreview := true, smartRoute := false }
      let stillOpen ← await (.findOpenTradesOf (pairOf sym))
      cancelRest (stillOpen.drop 1)
      pure (.sold result)

end GdslExchange.Jupiter
