/-
This file settles when a convert on Solana is honest: when nothing fails once the fee or the input
of the swap has left the wallet, no landing of the fee is reported as a failure, and the amount is
at least the smallest unit of its token, which is the least that the swap takes.
-/

import GdslExchange.Async.Finding
import GdslExchange.Convert.Solana

namespace GdslExchange.Convert.Solana

open Async (Delivery)
open Async.Program
open Jupiter (ExecuteReply Order OrderRequest Settings executedSignature fromSmallest
  solGasReserve solNativeMint solUsdcMint toSmallest)

section Fates

variable (fates : (op : Op) → Fate op) (settings : Settings) (treasury : String)
  (request : ConvertRequest) (decimals : ℕ)

/-! ### What is checked -/

def mintDecimals (mint : String) : Except String ℕ :=
  if mint = solNativeMint then .ok 9
  else if mint = solUsdcMint then .ok 6
  else fates (.getMint mint)

/-- What a token account is found to hold. One that cannot be read counts as empty. -/
def accountBalance (mint : String) : ℚ :=
  match fates (.getAccount mint .balance) with
  | .error _ => 0
  | .ok raw => fromSmallest raw decimals

/-- What the wallet is found to hold of the source token. -/
def Holds (bal : ℚ) : Prop :=
  (∃ key, fates (.getSolanaKeypair .balance) = .ok key) ∧
    if request.source = solNativeMint then
      ∃ lamports, fates .getBalance = .ok lamports ∧ bal = fromSmallest lamports 9
    else bal = accountBalance fates decimals request.source

/-- A request that gets as far as the fee. -/
structure Checked : Prop where
  walletEnabled : settings.solanaWalletEnabled = true
  configured : settings.jupiterConfigured = true
  picked : request.source ≠ "" ∧ request.destination ≠ ""
  distinct : request.source ≠ request.destination
  positive : 0 < request.amount
  wallet : fates .ensureSolanaPersonalWallet = .ok ()
  gas : request.destination ≠ solNativeMint ∨ request.source ≠ solUsdcMint →
    fates .ensureSolanaSwapGas = .ok ()
  counted : mintDecimals fates request.source = .ok decimals
  funded : ∃ bal, Holds fates request decimals bal ∧ needed request ≤ bal

/-! ### The fee -/

def priceOf : Option ℚ :=
  if request.source = solUsdcMint then some 1 else fates (.fetchJupiterPrice request.source)

def TooSmall : Prop :=
  ∃ price ∈ (priceOf fates request).filter fun price => price > 0,
    convertFeeUsd / price ≥ request.amount * (2 / 10)

def feeDue : ℚ :=
  match (priceOf fates request).filter fun price => price > 0 with
  | none => 0
  | some price => convertFeeUsd / price

/-- An amount of the source token, in its smallest unit. -/
def rawAmount (amount : ℚ) : ℕ := ⌊amount * 10 ^ decimals⌋.toNat

def rawFee : ℕ := rawAmount decimals (feeDue fates request)

/-- The transfer of the fee is sent. -/
structure FeeSent : Prop where
  due : 0 < feeDue fates request
  key : ∃ key, fates (.getSolanaKeypair .fee) = .ok key
  treasury : fates (.publicKey treasury) = .ok ()
  account : request.source ≠ solNativeMint → fates (.getAccountInfo request.source) = .ok ()
  held : request.source ≠ solNativeMint → ∃ held,
    fates (.getAccount request.source .fee) = .ok held ∧ rawFee fates request decimals ≤ held

def feeFate : Delivery :=
  fates (.sendFee request.source treasury (rawFee fates request decimals))

/-- The fee leaves the wallet. -/
def FeeLands : Prop :=
  FeeSent fates treasury request decimals ∧ (feeFate fates treasury request decimals).Applies

def FeeHeard : Prop :=
  FeeSent fates treasury request decimals ∧ feeFate fates treasury request decimals = .answered

/-! ### The swap -/

/-- An order for the swap of an amount is placed and signed. -/
structure Signs (amountIn : ℕ) (order : Order) (signed : SignedOrder) : Prop where
  ordered : ∃ taker, fates (.getSolanaKeypair .swap) = .ok taker ∧
    fates (.getJupiterOrder
      { inputMint := request.source
        outputMint := request.destination
        amount := amountIn
        taker := taker
        slippageBps := min 2000 (max 10 (request.slippageBps.getD 100))
        dexes := none }) = .ok order
  transaction : ∃ transaction, order.transaction.filter (· ≠ "") = some transaction ∧
    fates (.signTransaction transaction) = .ok signed.transaction
  requested : signed.requestId = order.requestId
  amount : signed.amountIn = amountIn

/-- The swap of an amount is submitted. -/
def Submits (amountIn : ℕ) (signed : SignedOrder) : Prop :=
  ∃ order, Signs fates request amountIn order signed

def execution (signed : SignedOrder) : Execution := fates (.submitJupiterExecute signed)

/-- The execute endpoint names a signature, and what the swap has brought can be counted. -/
def Answers (signed : SignedOrder) : Prop :=
  (∃ reply signature, (execution fates signed).answer = .ok reply ∧
    executedSignature reply = .ok signature) ∧
  ∃ toDecimals, mintDecimals fates request.destination = .ok toDecimals

end Fates

section Exec

variable {fates : (op : Op) → Fate op} {taken : Taken} {request : ConvertRequest} {decimals : ℕ}

/-! ### Running the checks -/

theorem exec_await (op : Op) : (await op).exec fates taken = perform op (fates op) taken :=
  exec_perform _ _

theorem asks_await {op : Op} {answer : Except String (Result op)}
    (kept : perform op (fates op) taken = (taken, answer)) :
    (await op).Asks fates taken fun value => answer = .ok value := asks_perform kept

theorem asks_getSolanaMintDecimals (mint : String) :
    (getSolanaMintDecimals mint).Asks fates taken fun decimals =>
      mintDecimals fates mint = .ok decimals := by
  unfold getSolanaMintDecimals mintDecimals
  split
  · exact (asks_of_exec rfl).congr (by simp [eq_comm])
  · split
    · exact (asks_of_exec rfl).congr (by simp [eq_comm])
    · exact asks_await rfl

theorem exec_tokenAccount (mint : String) :
    (recover (do
      let raw ← await (.getAccount mint .balance)
      pure (fromSmallest raw decimals))
      fun _ => pure 0 : Call ℚ).exec fates taken =
    (taken, .ok (accountBalance fates decimals mint)) := by
  unfold accountBalance
  rw [exec_recover]
  cases read : fates (.getAccount mint .balance) with
  | error failure =>
    rw [exec_bind_error ((exec_await _).trans (congrArg (Prod.mk taken) read))]
    rfl
  | ok raw =>
    rw [exec_bind_ok ((exec_await _).trans (congrArg (Prod.mk taken) read))]
    rfl

theorem asks_getSolanaTokenBalance :
    (getSolanaTokenBalance request.source decimals).Asks fates taken
      (Holds fates request decimals) := by
  unfold getSolanaTokenBalance Holds
  by_cases native : request.source = solNativeMint
  · simp only [if_pos native]
    exact (Asks.bind (asks_await rfl) fun _ _ => Asks.bind (asks_await rfl) fun _ _ =>
      asks_of_exec rfl).congr fun _ => exists_and_right
  · simp only [if_neg native]
    exact (Asks.bind (asks_await rfl) fun _ _ =>
      asks_of_exec (exec_tokenAccount request.source)).congr fun _ => exists_and_right

theorem asks_assertFunded : (assertFunded request decimals).Asks fates taken fun _ =>
    ∃ bal, Holds fates request decimals bal ∧ needed request ≤ bal := by
  exact (asks_getSolanaTokenBalance.bind fun bal _ => asks_throwIf _ _).congr (by simp)

theorem asks_assertConvertInputs : (assertConvertInputs request).Asks fates taken fun _ =>
    (request.source ≠ "" ∧ request.destination ≠ "") ∧ request.source ≠ request.destination ∧
      0 < request.amount := by
  exact ((asks_throwIf _ _).bind fun _ _ => (asks_throwIf _ _).bind fun _ _ =>
    asks_throwIf _ _).congr (by simp)

theorem asks_ensureGas : (ensureGas request).Asks fates taken fun _ =>
    request.destination ≠ solNativeMint ∨ request.source ≠ solUsdcMint →
      fates .ensureSolanaSwapGas = .ok () := by
  unfold ensureGas
  split
  · next due => exact (asks_await rfl).congr fun _ => ⟨fun bought _ => bought, fun gas => gas due⟩
  · next exempt => exact (asks_of_exec rfl).congr (by simp [exempt])

theorem asks_checkConvert (settings : Settings) :
    (checkConvert settings request).Asks fates taken (Checked fates settings request) := by
  refine ((asks_throwIf _ _).bind fun _ _ => (asks_throwIf _ _).bind fun _ _ =>
    asks_assertConvertInputs.bind fun _ _ => Asks.bind (asks_await rfl) fun _ _ =>
      asks_ensureGas.bind fun _ _ => (asks_getSolanaMintDecimals request.source).bind
        fun fromDecimals _ => asks_assertFunded.bind fun _ _ => asks_of_exec rfl).congr
          fun decimals => ?_
  constructor
  · rintro ⟨_, walletEnabled, _, configured, _, ⟨picked, distinct, positive⟩, _, wallet, _, gas,
      _, counted, _, funded, rfl⟩
    exact ⟨by simpa using walletEnabled, by simpa using configured, picked, distinct, positive,
      wallet, gas, counted, funded⟩
  · intro checked
    exact ⟨(), by simpa using checked.walletEnabled, (), by simpa using checked.configured, (),
      ⟨checked.picked, checked.distinct, checked.positive⟩, (), checked.wallet, (), checked.gas,
      decimals, checked.counted, (), checked.funded, rfl⟩

/-! ### Running the fee -/

theorem exec_tokenPrice :
    (tokenPrice request.source).exec fates taken = (taken, .ok (priceOf fates request)) := by
  unfold tokenPrice priceOf
  split
  · rfl
  · exact exec_await _

theorem asks_feeTokens :
    (solConvertFeeTokens request.source request.amount).Asks fates taken fun feeTokens =>
      ¬ TooSmall fates request ∧ feeTokens = feeDue fates request := by
  unfold solConvertFeeTokens TooSmall feeDue
  refine asks_bind_of_exec exec_tokenPrice ?_
  cases (priceOf fates request).filter fun price => price > 0 with
  | none => exact (asks_of_exec rfl).congr (by simp)
  | some price =>
    dsimp only
    split
    · next small => exact .inr ⟨by simp [small], _, rfl⟩
    · next enough => exact (asks_of_exec rfl).congr (by simp [enough])

theorem asks_prepareSend (treasury : String)
    (counted : mintDecimals fates request.source = .ok decimals)
    (due : 0 < feeDue fates request) :
    (prepareSend request.source (feeDue fates request) treasury).Asks fates taken fun raw =>
      FeeSent fates treasury request decimals ∧ raw = rawFee fates request decimals := by
  unfold prepareSend
  by_cases native : request.source = solNativeMint
  · have nine : decimals = 9 := by
      rw [mintDecimals, if_pos native] at counted
      exact (Except.ok.inj counted).symm
    simp only [if_pos native]
    refine (Asks.bind (asks_await rfl) fun _ _ => Asks.bind (asks_await rfl) fun _ _ =>
      asks_of_exec rfl).congr fun raw => ?_
    subst nine
    constructor
    · rintro ⟨key, isKey, _, isTreasury, rfl⟩
      exact ⟨⟨due, ⟨key, isKey⟩, isTreasury, (absurd native ·), (absurd native ·)⟩, rfl⟩
    · rintro ⟨sent, rfl⟩
      obtain ⟨key, isKey⟩ := sent.key
      exact ⟨key, isKey, (), sent.treasury, rfl⟩
  · simp only [if_neg native]
    refine (Asks.bind (asks_await rfl) fun _ _ => Asks.bind (asks_await rfl) fun _ _ =>
      Asks.bind (asks_await rfl) fun _ _ => (asks_getSolanaMintDecimals request.source).bind
        fun _ _ => Asks.bind (asks_await rfl) fun _ _ => (asks_throwIf _ _).bind fun _ _ =>
          asks_of_exec rfl).congr fun raw => ?_
    constructor
    · rintro ⟨key, isKey, _, isTreasury, _, account, same, again, held, isHeld, _, covers, rfl⟩
      rw [counted] at again
      cases again
      exact ⟨⟨due, ⟨key, isKey⟩, isTreasury, fun _ => account,
        fun _ => ⟨held, isHeld, not_lt.mp covers⟩⟩, rfl⟩
    · rintro ⟨sent, rfl⟩
      obtain ⟨key, isKey⟩ := sent.key
      obtain ⟨held, isHeld, covers⟩ := sent.held native
      exact ⟨key, isKey, (), sent.treasury, (), sent.account native, decimals, counted, held,
        isHeld, (), not_lt.mpr covers, rfl⟩

theorem exec_tryFee (treasury : String)
    (counted : mintDecimals fates request.source = .ok decimals) :
    ∃ reached heard,
      (tryFee treasury request.source (feeDue fates request)).exec fates taken =
        (reached, .ok heard) ∧
      (FeeLands fates treasury request decimals →
        reached = { taken with fee := some (rawFee fates request decimals) }) ∧
      (¬ FeeLands fates treasury request decimals → reached = taken) ∧
      (heard = true ↔ FeeHeard fates treasury request decimals) := by
  unfold tryFee sendSolanaTokenFromUser FeeLands FeeHeard
  by_cases due : 0 < feeDue fates request
  · rw [if_pos due, exec_recover]
    have asks := @asks_prepareSend fates taken request decimals treasury counted due
    by_cases sent : FeeSent fates treasury request decimals
    · have delivered : (await (.sendFee request.source treasury
          (rawFee fates request decimals))).exec fates taken =
          (feeFate fates treasury request decimals).write taken
            { taken with fee := some (rawFee fates request decimals) } "5fee" := exec_await _
      rw [exec_bind, exec_bind_ok (asks.returns ⟨sent, rfl⟩), delivered]
      cases fate : feeFate fates treasury request decimals with
      | answered => exact ⟨_, true, rfl, by simp [sent, Delivery.Applies]⟩
      | refused message => exact ⟨_, false, rfl, by simp [Delivery.Applies]⟩
      | lost message => exact ⟨_, false, rfl, by simp [sent, Delivery.Applies]⟩
    · obtain ⟨failure, failed⟩ := asks.fails fun _ answered => sent answered.1
      rw [exec_bind_error (exec_bind_error failed)]
      exact ⟨taken, false, rfl, by simp [sent]⟩
  · rw [if_neg due]
    refine ⟨taken, false, rfl, ?_⟩
    have unsent : ¬ FeeSent fates treasury request decimals := fun sent => due sent.due
    simp [unsent]

/-! ### Running the swap -/

/-- The history of converts fails nothing. -/
theorem exec_tryRecord (inAmount outAmount : ℚ) :
    (tryRecord request inAmount outAmount).exec fates taken = (taken, .ok ()) := by
  unfold tryRecord
  rw [exec_recover, exec_await]
  cases fates (.recordWalletConvert request.source request.destination inAmount outAmount) <;> rfl

theorem asks_signOrder (amountIn : ℕ) :
    (signOrder request amountIn).Asks fates taken fun placed =>
      Signs fates request amountIn placed.1 placed.2 := by
  refine (Asks.bind (asks_await rfl) fun _ _ => Asks.bind (asks_await rfl) fun _ _ =>
    (asks_orThrow _ _).bind fun _ _ => Asks.bind (asks_await rfl) fun _ _ =>
      asks_of_exec rfl).congr fun placed => ?_
  constructor
  · rintro ⟨taker, isTaker, order, isOrder, transaction, isTransaction, signed, isSigned, rfl⟩
    exact ⟨⟨taker, isTaker, isOrder⟩, ⟨transaction, isTransaction, isSigned⟩, rfl, rfl⟩
  · obtain ⟨order, signed, requestId, amount⟩ := placed
    rintro ⟨⟨taker, isTaker, isOrder⟩, ⟨transaction, isTransaction, isSigned⟩, requested, same⟩
    obtain rfl : requestId = order.requestId := requested
    obtain rfl : amount = amountIn := same
    exact ⟨taker, isTaker, order, isOrder, transaction, isTransaction, signed, isSigned, rfl⟩

/-- How the swap ends that has been submitted. -/
structure RestEnds (fates : (op : Op) → Fate op) (request : ConvertRequest) (feePaid : Bool)
    (taken : Taken) (signed : SignedOrder) (ran : Taken × Except String ConvertResult) :
    Prop where
  lands : (execution fates signed).lands = true →
    ran.1 = { taken with input := some signed.amountIn }
  stays : (execution fates signed).lands = false → ran.1 = taken
  returns : (∃ converted, ran.2 = .ok converted) ↔ Answers fates request signed
  feeUsd : ∀ converted, ran.2 = .ok converted →
    converted.feeUsd = if feePaid then convertFeeUsd else 0

theorem asks_reportOrder (feeTokens : ℚ) (feePaid : Bool) (order : Order)
    (signed : SignedOrder) (reply : ExecuteReply) :
    (reportOrder request decimals feeTokens feePaid order signed reply).Asks fates taken
      fun converted => ∃ signature, executedSignature reply = .ok signature ∧
        ∃ toDecimals, mintDecimals fates request.destination = .ok toDecimals ∧
        converted =
          { txHash := signature
            source := request.source
            destination := request.destination
            inAmount :=
              if feePaid then
                fromSmallest (order.inAmount.getD signed.amountIn) decimals + feeTokens
              else fromSmallest (order.inAmount.getD signed.amountIn) decimals
            outAmount := fromSmallest order.outAmount toDecimals
            feeUsd := if feePaid then convertFeeUsd else 0 } := by
  exact (asks_ofExcept _).bind fun signature _ =>
    (asks_getSolanaMintDecimals request.destination).bind fun toDecimals _ =>
      asks_bind_of_exec (exec_tryRecord _ _) (asks_of_exec rfl)

theorem exec_executeOrder (feeTokens : ℚ) (feePaid : Bool) (order : Order)
    (signed : SignedOrder) :
    RestEnds fates request feePaid taken signed
      ((executeOrder request decimals feeTokens feePaid order signed).exec fates taken) := by
  unfold executeOrder
  have submitted : (await (.submitJupiterExecute signed)).exec fates taken =
      (if (execution fates signed).lands then { taken with input := some signed.amountIn }
        else taken, (execution fates signed).answer) := exec_await _
  have stays (refused : (execution fates signed).lands = false) :
      (if (execution fates signed).lands then { taken with input := some signed.amountIn }
        else taken) = taken := if_neg (by simp [refused])
  cases answer : (execution fates signed).answer with
  | error failure =>
    rw [answer] at submitted
    rw [exec_bind_error submitted]
    exact ⟨fun lands => if_pos lands, stays, by simp [Answers, answer], by simp⟩
  | ok reply =>
    rw [answer] at submitted
    rw [exec_bind_ok submitted]
    obtain ⟨converted, only, returned⟩ | ⟨silent, failure, failed⟩ :=
      asks_reportOrder feeTokens feePaid order signed reply
    · obtain ⟨signature, isSignature, toDecimals, counted, isConverted⟩ :=
        (only converted).mpr rfl
      rw [returned]
      refine ⟨fun lands => if_pos lands, stays, ?_, ?_⟩
      · exact iff_of_true ⟨converted, rfl⟩
          ⟨⟨reply, signature, answer, isSignature⟩, toDecimals, counted⟩
      · rintro _ ⟨⟩
        rw [isConverted]
    · rw [failed]
      refine ⟨fun lands => if_pos lands, stays, iff_of_false (by simp) ?_, by simp⟩
      rintro ⟨⟨other, signature, isReply, isSignature⟩, toDecimals, counted⟩
      rw [answer] at isReply
      cases isReply
      exact silent _ ⟨signature, isSignature, toDecimals, counted, rfl⟩

theorem finds_convertRest (feeTokens : ℚ) (feePaid : Bool) :
    (convertRest request decimals feeTokens feePaid).Finds fates taken
      (fun signed => Submits fates request (toSmallest
        (if feePaid then request.amount - feeTokens else request.amount) decimals) signed)
      (RestEnds fates request feePaid taken) := by
  refine ((asks_signOrder _).finds fun placed _ => finds_of_exec (fun _ => Iff.rfl)
    (exec_executeOrder feeTokens feePaid placed.1 placed.2)).congr fun signed => ?_
  constructor
  · rintro ⟨placed, signs, rfl⟩
    exact ⟨placed.1, signs⟩
  · rintro ⟨order, signs⟩
    exact ⟨(order, signed), signs, rfl⟩

end Exec

/-! ### Rounding -/

theorem one_le_toSmallest (amount : ℚ) (decimals : ℕ) : 1 ≤ toSmallest amount decimals := by
  unfold toSmallest
  omega

theorem toSmallest_le {amount : ℚ} {decimals : ℕ} (unit : 1 ≤ amount * 10 ^ decimals) :
    (toSmallest amount decimals : ℚ) ≤ amount * 10 ^ decimals := by
  have positive : 1 ≤ ⌊amount * 10 ^ decimals⌋ := Int.le_floor.mpr (by exact_mod_cast unit)
  have isFloor : (toSmallest amount decimals : ℤ) = ⌊amount * 10 ^ decimals⌋ := by
    rw [toSmallest, max_eq_right positive]
    omega
  calc (toSmallest amount decimals : ℚ)
      = ((toSmallest amount decimals : ℤ) : ℚ) := by norm_cast
    _ = (⌊amount * 10 ^ decimals⌋ : ℚ) := by rw [isFloor]
    _ ≤ amount * 10 ^ decimals := Int.floor_le _

theorem toSmallest_of_lt {amount : ℚ} {decimals : ℕ} (dust : amount * 10 ^ decimals < 1) :
    toSmallest amount decimals = 1 := by
  have least : ⌊amount * 10 ^ decimals⌋ < 1 := Int.floor_lt.mpr (by exact_mod_cast dust)
  rw [toSmallest, max_eq_left least.le]
  rfl

theorem rawAmount_le {amount : ℚ} (decimals : ℕ) (nonneg : 0 ≤ amount) :
    (rawAmount decimals amount : ℚ) ≤ amount * 10 ^ decimals := by
  have floorNonneg : 0 ≤ ⌊amount * 10 ^ decimals⌋ := Int.floor_nonneg.mpr (by positivity)
  calc (rawAmount decimals amount : ℚ)
      = ((⌊amount * 10 ^ decimals⌋.toNat : ℤ) : ℚ) := by rw [rawAmount]; norm_cast
    _ = (⌊amount * 10 ^ decimals⌋ : ℚ) := by rw [Int.toNat_of_nonneg floorNonneg]
    _ ≤ amount * 10 ^ decimals := Int.floor_le _

/-- A fee of less than a fifth of the amount and the swap of the rest come to the amount, unless
the amount is dust. -/
theorem rawAmount_add_toSmallest_le {amount fee : ℚ} {decimals : ℕ}
    (unit : 1 ≤ amount * 10 ^ decimals) (due : 0 < fee) (small : fee < amount * (2 / 10)) :
    (rawAmount decimals fee : ℚ) + toSmallest (amount - fee) decimals ≤
      amount * 10 ^ decimals := by
  have scale : (0 : ℚ) < 10 ^ decimals := by positivity
  have isFee := rawAmount_le decimals due.le
  have share : fee * 10 ^ decimals < amount * 10 ^ decimals * (2 / 10) := by
    calc fee * 10 ^ decimals < amount * (2 / 10) * 10 ^ decimals :=
          mul_lt_mul_of_pos_right small scale
      _ = amount * 10 ^ decimals * (2 / 10) := by ring
  by_cases dust : (amount - fee) * 10 ^ decimals < 1
  · -- the fee is less than a unit, and none is taken
    have fraction : fee * 10 ^ decimals < 1 := by
      linarith
    have noFee : rawAmount decimals fee = 0 := by
      have least : ⌊fee * 10 ^ decimals⌋ < 1 := Int.floor_lt.mpr (by exact_mod_cast fraction)
      unfold rawAmount
      omega
    rw [noFee, toSmallest_of_lt dust]
    simpa using unit
  · have isRest := toSmallest_le (not_lt.mp dust)
    linarith

/-! ### The course of a convert -/

section Course

variable (fates : (op : Op) → Fate op) (settings : Settings) (treasury : String)
  (request : ConvertRequest) (decimals : ℕ)

/-- What is left to swap. -/
def IsNet (net : ℚ) : Prop :=
  FeeHeard fates treasury request decimals ∧ net = request.amount - feeDue fates request ∨
    ¬ FeeHeard fates treasury request decimals ∧ net = request.amount

/-- The swap of what is left is submitted. -/
def Submitted (signed : SignedOrder) : Prop :=
  ∃ net, IsNet fates treasury request decimals net ∧
    Submits fates request (toSmallest net decimals) signed

def course : Course where
  fee := rawFee fates request decimals
  feeLands := FeeLands fates treasury request decimals
  feeHeard := FeeHeard fates treasury request decimals
  swapLands input := ∃ signed, Submitted fates treasury request decimals signed ∧
    (execution fates signed).lands = true ∧ signed.amountIn = input
  returns := ∃ signed, Submitted fates treasury request decimals signed ∧
    Answers fates request signed
  paidFor := (∃ signed, Submitted fates treasury request decimals signed ∧
    (execution fates signed).lands = true) → 1 ≤ request.amount * 10 ^ decimals

/-- How a fee in USD is counted in the source token. -/
def feeUnits (usd : ℚ) : ℕ :=
  rawAmount decimals (usd / ((priceOf fates request).filter fun price => price > 0).getD 0)

variable {fates settings treasury request decimals}

theorem feeUnits_convertFeeUsd :
    feeUnits fates request decimals convertFeeUsd = rawFee fates request decimals := by
  unfold feeUnits rawFee feeDue
  cases (priceOf fates request).filter fun price => price > 0 <;> simp

theorem feeUnits_zero : feeUnits fates request decimals 0 = 0 := by
  simp [feeUnits, rawAmount]

theorem FeeHeard.lands (heard : FeeHeard fates treasury request decimals) :
    FeeLands fates treasury request decimals := by
  refine ⟨heard.1, ?_⟩
  rw [heard.2]
  trivial

theorem feeDue_lt (enough : ¬ TooSmall fates request) (due : 0 < feeDue fates request) :
    feeDue fates request < request.amount * (2 / 10) := by
  unfold feeDue at due ⊢
  cases isPrice : (priceOf fates request).filter fun price => price > 0 with
  | none =>
    rw [isPrice] at due
    exact absurd due (lt_irrefl (0 : ℚ))
  | some price => exact not_le.mp fun small => enough ⟨price, isPrice, small⟩

theorem Signs.unique {amountIn : ℕ} {order other : Order} {signed next : SignedOrder}
    (signs : Signs fates request amountIn order signed)
    (again : Signs fates request amountIn other next) : signed = next := by
  obtain ⟨taker, isTaker, isOrder⟩ := signs.ordered
  obtain ⟨same, isSame, isOther⟩ := again.ordered
  rw [isTaker] at isSame
  cases isSame
  rw [isOrder] at isOther
  cases isOther
  obtain ⟨transaction, isTransaction, isSigned⟩ := signs.transaction
  obtain ⟨copy, isCopy, isNext⟩ := again.transaction
  rw [isTransaction] at isCopy
  cases isCopy
  rw [isSigned] at isNext
  obtain ⟨_, _, _⟩ := signed
  obtain ⟨_, _, _⟩ := next
  simp only [SignedOrder.mk.injEq]
  exact ⟨Except.ok.inj isNext, signs.requested.trans again.requested.symm,
    signs.amount.trans again.amount.symm⟩

theorem IsNet.unique {net other : ℚ} (isNet : IsNet fates treasury request decimals net)
    (again : IsNet fates treasury request decimals other) : net = other := by
  rcases isNet with ⟨heard, rfl⟩ | ⟨unheard, rfl⟩
  · rcases again with ⟨_, rfl⟩ | ⟨unheard, -⟩
    · rfl
    · exact absurd heard unheard
  · rcases again with ⟨heard, -⟩ | ⟨_, rfl⟩
    · exact absurd heard unheard
    · rfl

theorem Submitted.unique {signed next : SignedOrder}
    (submitted : Submitted fates treasury request decimals signed)
    (again : Submitted fates treasury request decimals next) : signed = next := by
  obtain ⟨net, isNet, order, signs⟩ := submitted
  obtain ⟨other, isOther, another, signsNext⟩ := again
  cases isNet.unique isOther
  exact signs.unique signsNext

theorem one_le_of_submitted {signed : SignedOrder}
    (submitted : Submitted fates treasury request decimals signed) : 1 ≤ signed.amountIn := by
  obtain ⟨net, -, order, signs⟩ := submitted
  rw [signs.amount]
  exact one_le_toSmallest net decimals

theorem rawFee_le (enough : ¬ TooSmall fates request) (due : 0 < feeDue fates request) :
    ((rawFee fates request decimals + 0 : ℕ) : ℚ) ≤ request.amount * 10 ^ decimals := by
  have small := feeDue_lt enough due
  calc ((rawFee fates request decimals + 0 : ℕ) : ℚ)
      ≤ feeDue fates request * 10 ^ decimals := rawAmount_le decimals due.le
    _ ≤ request.amount * 10 ^ decimals :=
      mul_le_mul_of_nonneg_right (by linarith) (by positivity)

theorem paid_iff (enough : ¬ TooSmall fates request)
    {signed : SignedOrder} (submitted : Submitted fates treasury request decimals signed)
    {fee : ℕ}
    (heardFee : FeeHeard fates treasury request decimals → fee = rawFee fates request decimals)
    (noFee : ¬ FeeHeard fates treasury request decimals → fee = 0) :
    1 ≤ request.amount * 10 ^ decimals ↔
      ((fee + signed.amountIn : ℕ) : ℚ) ≤ request.amount * 10 ^ decimals := by
  obtain ⟨net, isNet, order, signs⟩ := submitted
  rw [signs.amount]
  constructor
  · intro unit
    push_cast
    rcases isNet with ⟨heard, rfl⟩ | ⟨unheard, rfl⟩
    · rw [heardFee heard]
      exact rawAmount_add_toSmallest_le unit heard.1.due (feeDue_lt enough heard.1.due)
    · rw [noFee unheard, Nat.cast_zero, zero_add]
      exact toSmallest_le unit
  · intro bounded
    have least : 1 ≤ fee + toSmallest net decimals :=
      (one_le_toSmallest net decimals).trans (Nat.le_add_left _ _)
    exact le_trans (by exact_mod_cast least) bounded

/-- What the run of the swap has taken, and when the convert returns. -/
structure RestRun (fates : (op : Op) → Fate op) (request : ConvertRequest) (amountIn : ℕ)
    (feePaid : Bool) (taken : Taken) (ran : Taken × Except String ConvertResult) : Prop where
  fee : ran.1.fee = taken.fee
  input : ∀ signed, Submits fates request amountIn signed →
    (execution fates signed).lands = true → ran.1.input = some signed.amountIn
  noInput : (∀ signed, Submits fates request amountIn signed →
    (execution fates signed).lands = false) → ran.1.input = taken.input
  returned : (∃ converted, ran.2 = .ok converted) ↔
    ∃ signed, Submits fates request amountIn signed ∧ Answers fates request signed
  feeUsd : ∀ converted, ran.2 = .ok converted →
    converted.feeUsd = if feePaid then convertFeeUsd else 0

theorem restRun (feeTokens : ℚ) (feePaid : Bool) (taken : Taken) :
    RestRun fates request (toSmallest
        (if feePaid then request.amount - feeTokens else request.amount) decimals) feePaid taken
      ((convertRest request decimals feeTokens feePaid).exec fates taken) := by
  obtain ⟨signed, ⟨order, signs⟩, ends⟩ | ⟨nothing, failure, failed⟩ :=
    @finds_convertRest fates taken request decimals feeTokens feePaid
  · refine ⟨?_, ?_, ?_, ?_, ends.feeUsd⟩
    · cases lands : (execution fates signed).lands with
      | true => rw [ends.lands lands]
      | false => rw [ends.stays lands]
    · rintro next ⟨other, again⟩ lands
      cases signs.unique again
      rw [ends.lands lands]
    · intro never
      rw [ends.stays (never signed ⟨order, signs⟩)]
    · rw [ends.returns]
      constructor
      · exact fun answers => ⟨signed, ⟨order, signs⟩, answers⟩
      · rintro ⟨next, ⟨other, again⟩, answers⟩
        cases signs.unique again
        exact answers
  · rw [failed]
    refine ⟨rfl, ?_, fun _ => rfl, iff_of_false (by simp) ?_, by simp⟩
    · exact fun signed submits => absurd submits (nothing signed)
    · rintro ⟨signed, submits, -⟩
      exact nothing signed submits

theorem course_describes (counted : mintDecimals fates request.source = .ok decimals)
    (enough : ¬ TooSmall fates request) :
    (course fates treasury request decimals).Describes request.amount decimals
      (feeUnits fates request decimals)
      ((convertChecked treasury request decimals).exec fates untouched).1
      ((convertChecked treasury request decimals).exec fates untouched).2 := by
  obtain ⟨charged, heard, tried, lands, stays, isHeard⟩ :=
    @exec_tryFee fates untouched request decimals treasury counted
  have swap := @restRun fates request decimals (feeDue fates request) heard charged
  have isNet : IsNet fates treasury request decimals
      (if heard then request.amount - feeDue fates request else request.amount) := by
    unfold IsNet
    rw [← isHeard]
    cases heard <;> simp
  have submitted (signed : SignedOrder) : Submitted fates treasury request decimals signed ↔
      Submits fates request (toSmallest
        (if heard then request.amount - feeDue fates request else request.amount) decimals)
        signed := by
    constructor
    · rintro ⟨net, again, submits⟩
      rwa [← again.unique isNet]
    · exact fun submits => ⟨_, isNet, submits⟩
  rcases rest : (convertRest request decimals (feeDue fates request) heard).exec fates charged
    with ⟨taken, result⟩
  rw [rest] at swap
  have ran : (convertChecked treasury request decimals).exec fates untouched =
      (taken, result) := by
    unfold convertChecked
    rw [exec_bind_ok (asks_feeTokens.returns ⟨enough, rfl⟩), exec_bind_ok tried]
    exact rest
  have fee (feeLands : FeeLands fates treasury request decimals) :
      taken.fee.getD 0 = rawFee fates request decimals := by
    rw [swap.fee, lands feeLands]
    rfl
  have noFee (unpaid : ¬ FeeLands fates treasury request decimals) : taken.fee.getD 0 = 0 := by
    rw [swap.fee, stays unpaid]
    rfl
  have noInput : charged.input = none := by
    by_cases feeLands : FeeLands fates treasury request decimals
    · rw [lands feeLands]
      rfl
    · rw [stays feeLands]
      rfl
  rw [ran]
  refine
    { lands := FeeHeard.lands
      positive := ?_
      fee := fee
      noFee := noFee
      input := ?_
      noInput := ?_
      returned := ?_
      reportsFee := ?_
      reportsNone := ?_
      paidFor := ?_ }
  · rintro input ⟨signed, isSubmitted, -, rfl⟩
    exact one_le_of_submitted isSubmitted
  · rintro input ⟨signed, submits, swapLands, rfl⟩
    rw [swap.input signed ((submitted signed).mp submits) swapLands]
    rfl
  · intro never
    rw [swap.noInput fun signed submits => ?_, noInput]
    · rfl
    · exact Bool.eq_false_of_not_eq_true fun swapLands =>
        never signed.amountIn ⟨signed, (submitted signed).mpr submits, swapLands, rfl⟩
  · refine swap.returned.trans (exists_congr fun signed => ?_)
    rw [submitted]
  · intro feeHeard converted isResult
    rw [swap.feeUsd converted isResult, if_pos (isHeard.mpr feeHeard), feeUnits_convertFeeUsd]
    rfl
  · intro unheard converted isResult
    rw [swap.feeUsd converted isResult, if_neg fun isTrue => unheard (isHeard.mp isTrue),
      feeUnits_zero]
  · rintro ⟨signed, isSubmitted, answers⟩ heardOf
    have heardFee (feeHeard : FeeHeard fates treasury request decimals) :
        taken.fee.getD 0 = rawFee fates request decimals := fee feeHeard.lands
    have unheardFee := Course.taken_of_unheard fee noFee heardOf
    unfold Taken.total
    cases swapLands : (execution fates signed).lands with
    | true =>
      rw [swap.input signed ((submitted signed).mp isSubmitted) swapLands]
      have pays := paid_iff enough isSubmitted heardFee unheardFee
      constructor
      · exact fun paid _ => pays.mp (paid ⟨signed, isSubmitted, swapLands⟩)
      · intro bounded _
        have positive := one_le_of_submitted isSubmitted
        exact pays.mpr (bounded (Nat.add_pos_right _ positive))
    | false =>
      have never (next : SignedOrder)
          (again : Submitted fates treasury request decimals next) :
          (execution fates next).lands = false := by
        rwa [← isSubmitted.unique again]
      rw [swap.noInput fun next submits => never next ((submitted next).mpr submits), noInput]
      refine iff_of_true ?_ ?_
      · rintro ⟨next, again, nextLands⟩
        rw [never next again] at nextLands
        cases nextLands
      · intro positive
        have feeHeard : FeeHeard fates treasury request decimals := by
          by_contra unheard
          rw [unheardFee unheard] at positive
          exact lt_irrefl 0 positive
        rw [heardFee feeHeard]
        exact rawFee_le enough feeHeard.1.due

theorem honest_convertChecked (counted : mintDecimals fates request.source = .ok decimals) :
    Honest request.amount decimals (feeUnits fates request decimals)
        ((convertChecked treasury request decimals).exec fates untouched).1
        ((convertChecked treasury request decimals).exec fates untouched).2 ↔
      (¬ TooSmall fates request → (course fates treasury request decimals).Sound) := by
  by_cases small : TooSmall fates request
  · obtain ⟨failure, failed⟩ := (@asks_feeTokens fates untouched request).fails
      fun _ answered => answered.1 small
    have ran : (convertChecked treasury request decimals).exec fates untouched =
        (untouched, .error failure) := exec_bind_error failed
    rw [ran]
    exact iff_of_true (honest_untouched _ _ _ _) fun enough => absurd small enough
  · rw [(course_describes counted small).honest_iff]
    exact ⟨fun sound _ => sound, fun sound => sound small⟩

variable (fates settings treasury request)

/-- The decimals of the source token, where they can be read. -/
def sourceDecimals : ℕ := (mintDecimals fates request.source).toOption.getD 0

/-- A convert on Solana takes what it may. -/
def HonestConvert : Prop :=
  Honest request.amount (sourceDecimals fates request)
    (feeUnits fates request (sourceDecimals fates request))
    ((convertSolanaTokens settings treasury request).exec fates untouched).1
    ((convertSolanaTokens settings treasury request).exec fates untouched).2

/-- Once the request is checked and its amount is found not to be too small, the convert runs a
sound course. -/
def Settles : Prop :=
  ∀ decimals, Checked fates settings request decimals → ¬ TooSmall fates request →
    (course fates treasury request decimals).Sound

/-- A convert on Solana takes what it may just where it settles. -/
theorem honestConvert_iff_settles :
    HonestConvert fates settings treasury request ↔ Settles fates settings treasury request := by
  unfold HonestConvert Settles convertSolanaTokens
  obtain ⟨decimals, only, returned⟩ | ⟨unchecked, failure, failed⟩ :=
    @asks_checkConvert fates untouched request settings
  · have checked := (only decimals).mpr rfl
    have counted : sourceDecimals fates request = decimals := by
      rw [sourceDecimals, checked.counted]
      rfl
    rw [exec_bind_ok returned, counted, honest_convertChecked checked.counted]
    constructor
    · intro sound other again
      cases (only other).mp again
      exact sound
    · exact fun settles => settles decimals checked
  · rw [exec_bind_error failed]
    exact iff_of_true (honest_untouched _ _ _ _) fun decimals checked =>
      absurd checked (unchecked decimals)

end Course

end GdslExchange.Convert.Solana
