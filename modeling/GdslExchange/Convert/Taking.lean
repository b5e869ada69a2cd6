/-
This file brings the two converts together: on either chain a convert takes at most what was
asked, reports the fee that it has taken and takes nothing where it throws just where nothing
fails after the fee or the swap has landed, the fee is heard to have landed, and the rounded
amounts stay within what was asked.
-/

import GdslExchange.Convert.BscTaking
import GdslExchange.Convert.SolanaTaking

namespace GdslExchange.Convert

/-- A convert is honest just where it settles. -/
theorem honestConverts_iff (onBsc : (op : Bsc.Op) → Bsc.Fate op)
    (onSolana : (op : Solana.Op) → Solana.Fate op) (settings : Jupiter.Settings)
    (treasury : String) (request : ConvertRequest) :
    (Bsc.HonestConvert onBsc treasury request ↔ Bsc.Settles onBsc treasury request) ∧
      (Solana.HonestConvert onSolana settings treasury request ↔
        Solana.Settles onSolana settings treasury request) :=
  ⟨Bsc.honestConvert_iff_settles onBsc treasury request,
    Solana.honestConvert_iff_settles onSolana settings treasury request⟩

/-! ### Converts that are not honest -/

/-- The fee uses up the gas that the swap needs. -/
def outOfGas : (op : Bsc.Op) → Bsc.Fate op
  | .fetchBinancePrice _ => none
  | .loadSigner _ => .ok ()
  | .sendFee _ _ _ => .answered
  | .ensureNativeBnbForGas => .error "Not enough BNB for gas"
  | .readBnbBalances => .ok 0
  | .ensureWbnbForSell _ => .ok ()
  | .balanceOf _ _ => .ok (100 * 10 ^ 18)
  | .allowance _ => .ok (10 ^ 30)
  | .approve _ => .ok ()
  | .getAmountsOut _ _ => .ok [1, 5]
  | .swapExactTokensForTokens _ _ _ => .answered
  | .recordWalletConvert _ _ _ _ => .ok ()

/-- The fee lands, and its confirmation times out. -/
def lostFee : (op : Solana.Op) → Solana.Fate op
  | .ensureSolanaPersonalWallet => .ok ()
  | .ensureSolanaSwapGas => .ok ()
  | .getSolanaKeypair _ => .ok "7wallet"
  | .getMint _ => .ok 6
  | .getBalance => .ok 50000000
  | .getAccount _ _ => .ok 20000000
  | .fetchJupiterPrice _ => none
  | .publicKey _ => .ok ()
  | .getAccountInfo _ => .ok ()
  | .sendFee _ _ _ => .lost "TransactionExpiredTimeoutError"
  | .getJupiterOrder _ => .ok ⟨some "AQAB", "r1", none, 65000000⟩
  | .signTransaction transaction => .ok transaction
  | .submitJupiterExecute _ => ⟨true, .ok ⟨true, 200, some "Success", none, none, some "5sig"⟩⟩
  | .recordWalletConvert _ _ _ _ => .ok ()

/-- A convert of 100 USDT charges its fee and throws, and one of 10 USDC takes 10.1. -/
theorem not_honestConverts :
    ¬ Bsc.HonestConvert outOfGas "0xfee" ⟨"USDT", "BNB", 100, none⟩ ∧
    ¬ Solana.HonestConvert lostFee ⟨true, true, 1⟩ "9fee"
      ⟨Jupiter.solUsdcMint, Jupiter.solNativeMint, 10, none⟩ := by
  constructor
  · intro honest
    have ran : (Bsc.convertBscTokens "0xfee" ⟨"USDT", "BNB", 100, none⟩).exec outOfGas untouched =
        (⟨some (10 ^ 17), none⟩, .error "Not enough BNB for gas") := by decide +kernel
    have clean := honest.clean _ (congrArg Prod.snd ran)
    rw [ran] at clean
    cases clean
  · intro honest
    have taken : ((Solana.convertSolanaTokens ⟨true, true, 1⟩ "9fee"
        ⟨Jupiter.solUsdcMint, Jupiter.solNativeMint, 10, none⟩).exec lostFee untouched).1 =
        ⟨some 100000, some 10000000⟩ := by decide +kernel
    have counted : Solana.sourceDecimals lostFee
        ⟨Jupiter.solUsdcMint, Jupiter.solNativeMint, 10, none⟩ = 6 := by decide +kernel
    have bounded := honest.bounded
    rw [taken, counted] at bounded
    have exceeds := bounded (by decide)
    norm_num [Taken.total] at exceeds

end GdslExchange.Convert
