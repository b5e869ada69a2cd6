/-
This file models the token catalog: which token of which chain a transfer
debits, and which one it credits.
-/

import GdslExchange.CrossChain.Ledger

namespace GdslExchange.CrossChain

/-- A token of one chain's DEX catalog, with its contract or mint. -/
structure CatalogToken where
  baseSymbol : String
  token : String
  decimals : ℕ
  binanceSymbol : String

/-- The configuration of the server: the operator wallets, the fee treasuries and the two DEX
catalogs. -/
structure Settings where
  hotWalletSigner : Option String
  operatorSolanaKeypair : Option String
  isSolanaWalletEnabled : Bool
  feeTreasuryBsc : String
  feeTreasurySol : String
  bscDexCatalog : List CatalogToken
  solDexCatalog : List CatalogToken

/-- `CrossChainBscLeg` and `CrossChainSolLeg`. -/
structure Leg where
  symbol : String
  token : String
  decimals : ℕ
  native : Bool
  binanceSymbol : String

def nativeEvm : String := "0x0000000000000000000000000000000000000000"
def bscUsdtAddress : String := "0x55d398326f99059ff775485246999027b3197955"
def solNativeMint : String := "So11111111111111111111111111111111111111112"
def solUsdcMint : String := "EPjFWdd5AufqSSqeM2qN1xzybapC8G4wEGGkZwyTDt1v"
def solUsdtMint : String := "Es9vMFrzaCERmJfrF4H2FYD4KCoNkY11McCe8BenwNYB"

/-- User-facing aliases of a symbol, in upper case. -/
def normalizeSymbol (raw : String) : String :=
  let upper := raw.toUpper
  if upper = "BTCB" then "BTC"
  else if upper = "WBNB" then "BNB"
  else upper

def catalogLeg (catalog : List CatalogToken) (canonical : String) : Option Leg :=
  (catalog.find? fun entry => entry.baseSymbol = canonical).map fun entry =>
    { symbol := canonical, token := entry.token, decimals := entry.decimals, native := false,
      binanceSymbol := entry.binanceSymbol }

def bscLegForSymbol (settings : Settings) (canonical : String) : Option Leg :=
  if canonical = "BNB" then
    some { symbol := "BNB", token := nativeEvm, decimals := 18, native := true,
           binanceSymbol := "BNBUSDT" }
  else if canonical = "USDT" then
    some { symbol := "USDT", token := bscUsdtAddress, decimals := 18, native := false,
           binanceSymbol := "USDTUSDT" }
  else catalogLeg settings.bscDexCatalog canonical

def solLegForSymbol (settings : Settings) (canonical : String) : Option Leg :=
  if canonical = "SOL" then
    some { symbol := "SOL", token := solNativeMint, decimals := 9, native := true,
           binanceSymbol := "SOLUSDT" }
  else if canonical = "USDC" then
    some { symbol := "USDC", token := solUsdcMint, decimals := 6, native := false,
           binanceSymbol := "USDCUSDT" }
  else if canonical = "USDT" then
    some { symbol := "USDT", token := solUsdtMint, decimals := 6, native := false,
           binanceSymbol := "USDTUSDT" }
  else catalogLeg settings.solDexCatalog canonical

def crossChainLegForChain (settings : Settings) (symbol : String) : Chain → Option Leg
  | .bsc => bscLegForSymbol settings (normalizeSymbol symbol)
  | .sol => solLegForSymbol settings (normalizeSymbol symbol)

/-- `CrossChainRoute`. -/
structure Route where
  direction : Direction
  sourceSymbol : String
  destSymbol : String
  sameToken : Bool
  sourceLeg : Leg
  destLeg : Leg
  sourceChain : Chain
  destChain : Chain

def resolveCrossChainRoute (settings : Settings) (direction : Direction) (sourceSymbol : String)
    (destSymbol : Option String) : Except String Route :=
  let srcCanonical := normalizeSymbol sourceSymbol
  let dstCanonical := normalizeSymbol (destSymbol.getD sourceSymbol)
  let sourceChain := match direction with
    | .bscToSol => Chain.bsc
    | .solToBsc => Chain.sol
  let destChain := match direction with
    | .bscToSol => Chain.sol
    | .solToBsc => Chain.bsc
  match crossChainLegForChain settings srcCanonical sourceChain,
    crossChainLegForChain settings dstCanonical destChain with
  | none, _ => .error s!"{srcCanonical} is not supported on {sourceChain.word} for cross-chain yet."
  | some _, none =>
    .error s!"{dstCanonical} is not supported on {destChain.word} for cross-chain yet."
  | some sourceLeg, some destLeg =>
    .ok { direction := direction, sourceSymbol := srcCanonical, destSymbol := dstCanonical,
          sameToken := srcCanonical = dstCanonical, sourceLeg := sourceLeg, destLeg := destLeg,
          sourceChain := sourceChain, destChain := destChain }

end GdslExchange.CrossChain
