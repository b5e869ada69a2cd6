/-
This file settles when a new CEX lot starts clean.

Of the eleven columns of a lot a BUY sets six. The other five hold what was set
for, banked from or seen of one lot, and only `CLEAR_OPEN_LOT` empties them. A
flat row stays bare as long as nothing is written to them behind the lot's back
and a manual close finds nothing in them; then every lot that is opened from a
flat row starts with five empty columns.
-/

import GdslExchange.Async.Contract
import GdslExchange.Cex.Trading

namespace GdslExchange.Cex

open Async Async.Program Async.Contract
open Exits (ExitReason)

/-! ### Rows -/

/-- The five columns that belong to one lot and are not set by a BUY are empty. -/
structure ConfigRow.Bare (row : ConfigRow) : Prop where
  takeProfitPct : row.openTakeProfitPct = none
  stopLossPct : row.openStopLossPct = none
  trailingStop : row.openTrailingStop = none
  trailingPeak : row.openTrailingPeak = none
  skimmedUsd : row.openSkimmedUsd = none

theorem ConfigRow.bare_iff {row : ConfigRow} : row.Bare ↔
    row.openTakeProfitPct = none ∧ row.openStopLossPct = none ∧ row.openTrailingStop = none ∧
      row.openTrailingPeak = none ∧ row.openSkimmedUsd = none :=
  ⟨fun bare => ⟨bare.1, bare.2, bare.3, bare.4, bare.5⟩,
    fun ⟨target, stop, trails, peak, skimmed⟩ => ⟨target, stop, trails, peak, skimmed⟩⟩

instance (row : ConfigRow) : Decidable row.Bare := decidable_of_iff _ ConfigRow.bare_iff.symm

def ConfigRow.Holding (row : ConfigRow) : Prop := (toOpenLong row).isSome

instance (row : ConfigRow) : Decidable row.Holding := by
  unfold ConfigRow.Holding; infer_instance

/-- A row without a lot carries nothing of an earlier one. -/
def Clean (row : Option ConfigRow) : Prop := ∀ found ∈ row, ¬ found.Holding → found.Bare

theorem ConfigRow.holding_iff {row : ConfigRow} : row.Holding ↔
    ∃ symbol baseQty entryPrice, row.openSymbol = some symbol ∧ row.openBaseQty = some baseQty ∧
      row.openEntryPrice = some entryPrice ∧ symbol ≠ "" ∧ 0 < baseQty ∧ 0 < entryPrice := by
  unfold Holding toOpenLong
  constructor
  · intro holding
    split at holding
    · next symbol baseQty entryPrice isSymbol isQty isEntry =>
      split at holding
      · next positive => exact ⟨symbol, baseQty, entryPrice, isSymbol, isQty, isEntry, positive⟩
      · cases holding
    · cases holding
  · rintro ⟨symbol, baseQty, entryPrice, isSymbol, isQty, isEntry, positive⟩
    rw [isSymbol, isQty, isEntry]
    dsimp only
    rw [dif_pos positive]
    rfl

/-! ### Writes -/

def Write.isBuy : Write → Bool
  | councilBuy _ => true
  | manualOpen _ => true
  | manualAdd _ => true
  | _ => false

/-- What the writers see to: a lot that is bought or shrunk has a positive quantity. -/
def Write.Sized : Write → Prop
  | councilBuy lot => 0 < lot.baseQty
  | manualOpen lot => 0 < lot.baseQty
  | manualAdd lot => 0 < lot.baseQty
  | manualReduce baseQty _ => 0 < baseQty
  | _ => True

/-- What the writers do not see to. A peak, an override and a skim land while there is a lot, and
the skim leaves some of it; a BUY that lands on a lot leaves a lot; a manual close finds nothing
in the columns that it leaves. -/
def Write.Tidy (row : ConfigRow) : Write → Prop
  | raisePeak _ => row.Holding
  | setOverrides _ => row.Holding
  | skim baseQty _ _ => row.Holding ∧ 0 < baseQty
  | councilBuy lot => row.Holding → lot.symbol ≠ "" ∧ 0 < lot.entryPrice
  | manualOpen lot => row.Holding → lot.symbol ≠ "" ∧ 0 < lot.entryPrice
  | manualAdd lot => row.Holding → lot.symbol ≠ "" ∧ 0 < lot.entryPrice
  | manualClose => row.Bare
  | _ => True

instance (row : ConfigRow) (data : Write) : Decidable (data.Tidy row) := by
  cases data <;> unfold Write.Tidy <;> infer_instance

section Apply

variable {row : ConfigRow}

variable {lot : NewLot}

theorem holding_openLot (sized : 0 < lot.baseQty) (priced : lot.symbol ≠ "" ∧ 0 < lot.entryPrice) :
    (row.openLot lot).Holding :=
  ConfigRow.holding_iff.mpr
    ⟨lot.symbol, lot.baseQty, lot.entryPrice, rfl, rfl, rfl, priced.1, sized, priced.2⟩

/-- Whether there is a lot is said by three columns. -/
theorem holding_congr {written : ConfigRow} (sameSymbol : written.openSymbol = row.openSymbol)
    (sameQty : written.openBaseQty = row.openBaseQty)
    (samePrice : written.openEntryPrice = row.openEntryPrice) :
    written.Holding ↔ row.Holding := by
  rw [ConfigRow.holding_iff, ConfigRow.holding_iff, sameSymbol, sameQty, samePrice]

theorem holding_of_quantity {written : ConfigRow} {baseQty : ℚ} (holding : row.Holding)
    (sized : 0 < baseQty) (isQty : written.openBaseQty = some baseQty)
    (sameSymbol : written.openSymbol = row.openSymbol)
    (samePrice : written.openEntryPrice = row.openEntryPrice) : written.Holding := by
  obtain ⟨symbol, _, entryPrice, isSymbol, _, isEntry, named, _, priced⟩ :=
    ConfigRow.holding_iff.mp holding
  exact ConfigRow.holding_iff.mpr ⟨symbol, baseQty, entryPrice, sameSymbol.trans isSymbol, isQty,
    samePrice.trans isEntry, named, sized, priced⟩

/-- A BUY leaves the five columns as they were. -/
theorem bare_openLot (bare : row.Bare) : (row.openLot lot).Bare :=
  ⟨bare.1, bare.2, bare.3, bare.4, bare.5⟩

/-- A BUY leaves a lot, or a row that was flat and is as bare as before. -/
theorem clean_openLot (clean : ¬ row.Holding → row.Bare) (sized : 0 < lot.baseQty)
    (tidy : row.Holding → lot.symbol ≠ "" ∧ 0 < lot.entryPrice) :
    ¬ (row.openLot lot).Holding → (row.openLot lot).Bare := by
  intro flat
  refine bare_openLot (clean fun holding => flat ?_)
  exact holding_openLot sized (tidy holding)

theorem clean_apply {data : Write} (clean : ¬ row.Holding → row.Bare) (sized : data.Sized)
    (tidy : data.Tidy row) : ¬ (data.apply row).Holding → (data.apply row).Bare := by
  intro flat
  cases data with
  | connect connId =>
    have bare := clean ((holding_congr rfl rfl rfl).not.mp flat)
    exact ⟨bare.1, bare.2, bare.3, bare.4, bare.5⟩
  | tick now =>
    have bare := clean ((holding_congr rfl rfl rfl).not.mp flat)
    exact ⟨bare.1, bare.2, bare.3, bare.4, bare.5⟩
  | clearOpenLot => exact ⟨rfl, rfl, rfl, rfl, rfl⟩
  | raisePeak peak =>
    have same : ((Write.raisePeak peak).apply row).Holding ↔ row.Holding := holding_congr rfl rfl rfl
    exact (same.not.mp flat tidy).elim
  | setOverrides overrides =>
    have same : ((Write.setOverrides overrides).apply row).Holding ↔ row.Holding := holding_congr rfl rfl rfl
    exact (same.not.mp flat tidy).elim
  | skim baseQty quoteSpent skimmedUsd =>
    obtain ⟨holding, sizedRest⟩ : row.Holding ∧ 0 < baseQty := tidy
    exact (flat (holding_of_quantity holding sizedRest rfl rfl rfl)).elim
  | councilBuy lot =>
    have bare := clean_openLot clean sized tidy ((holding_congr rfl rfl rfl).not.mp flat)
    exact ⟨bare.1, bare.2, bare.3, bare.4, bare.5⟩
  | manualOpen lot => exact clean_openLot clean sized tidy flat
  | manualAdd lot => exact clean_openLot clean sized tidy flat
  | manualClose => exact ⟨tidy.1, tidy.2, tidy.3, tidy.4, tidy.5⟩
  | manualReduce baseQty quoteSpent =>
    have bare := clean fun holding => flat (holding_of_quantity holding sized rfl rfl rfl)
    exact ⟨bare.1, bare.2, bare.3, bare.4, bare.5⟩

theorem bare_apply_of_isBuy {data : Write} (buys : data.isBuy = true) (bare : row.Bare) :
    (data.apply row).Bare := by
  cases data with
  | councilBuy lot => exact ⟨bare.1, bare.2, bare.3, bare.4, bare.5⟩
  | manualOpen lot => exact bare_openLot bare
  | manualAdd lot => exact bare_openLot bare
  | _ => cases buys

end Apply

/-! ### Steps -/

/-- The write that a step lands on the row, if it takes effect. -/
def landed (step : Step binance) : Option Write :=
  match step.op, step.fate with
  | .write data, delivery => if delivery.Applies then some data else none
  | .landPeak position, delivery =>
    if delivery.Applies then (step.before.state.posted[position]?).map .raisePeak else none
  | _, _ => none

def TidyStep (step : Step binance) : Prop :=
  ∀ data ∈ landed step, ∀ row ∈ step.before.state.row, data.Tidy row

instance (step : Step binance) : Decidable (TidyStep step) := by
  unfold TidyStep; infer_instance

def OpensLot (step : Step binance) : Prop :=
  ∃ data ∈ landed step, data.isBuy = true ∧
    ∀ row ∈ step.before.state.row, ¬ row.Holding

/-- A lot that is opened from flat has nothing left over from an earlier one. -/
def StartsClean (step : Step binance) : Prop :=
  OpensLot step → ∀ row ∈ step.after.state.row, row.Bare

/-! ### The calls -/

/-- What the writers see to, of the operation they await. -/
def SizedOp : Op → Prop
  | .write data => data.Sized
  | _ => True

theorem sized_log (message : String) : (log message).Only SizedOp :=
  only_then trivial fun _ => trivial

variable {data : Write}

theorem sized_update (sized : data.Sized) : (update data).Only SizedOp :=
  only_then sized fun _ => trivial

theorem sized_resolveConnectionId (preferred : Option String) :
    (resolveConnectionId preferred).Only SizedOp := by
  unfold resolveConnectionId
  split
  · refine only_then trivial fun usable => ?_
    split
    · trivial
    · exact only_perform trivial
  · exact only_perform trivial

theorem sized_skimCexPositionProfit : skimCexPositionProfit.Only SizedOp := by
  refine only_then trivial fun row => ?_
  refine only_bind only_orThrow fun long => ?_
  refine only_bind (sized_resolveConnectionId _) fun connId? => ?_
  refine only_bind only_orThrow fun connId => ?_
  refine only_then trivial fun conn? => ?_
  refine only_bind only_orThrow fun keys => ?_
  refine only_then trivial fun book => ?_
  refine only_bind only_orThrow fun mark => ?_
  refine only_then trivial fun balances => ?_
  dsimp only
  split
  · trivial
  · refine only_then trivial fun filled => ?_
    refine only_bind (sized_update trivial) fun _ => ?_
    exact only_bind (sized_log _) fun _ => trivial

theorem sized_setCexPositionExitOverrides (overrides : Overrides) :
    (setCexPositionExitOverrides overrides).Only SizedOp := by
  refine only_then trivial fun row => ?_
  split
  · trivial
  · split
    · trivial
    · exact only_bind (sized_update trivial) fun _ => trivial

section Tick

variable (connId : String) (long : CexOpenLong) (mark : ℚ)

theorem sized_tickSkim (decision : Exits.ExitDecision) :
    (tickSkim connId long decision mark).Only SizedOp := by
  refine only_recover ?_ fun message => sized_log _
  refine only_then trivial fun filled => ?_
  exact only_bind (sized_update trivial) fun _ => sized_log _

theorem sized_tickClose (reason : ExitReason) (decision : Exits.ExitDecision) :
    (tickClose connId long reason decision mark).Only SizedOp := by
  refine only_recover ?_ fun message => sized_log _
  refine only_then trivial fun filled => ?_
  exact only_bind (sized_update trivial) fun _ => sized_log _

theorem sized_tickExit (freeBase : ℚ) : (tickExit connId long freeBase mark).Only SizedOp := by
  unfold tickExit takeSkim postPeak act
  refine only_then trivial fun exit => ?_
  refine only_bind ?_ fun ready => only_bind ?_ fun _ => ?_
  · split
    · exact only_perform trivial
    · trivial
  · split
    · exact only_perform trivial
    · trivial
  · split
    · exact only_bind (sized_tickSkim connId long mark _) fun _ => trivial
    · exact only_bind (sized_tickClose connId long mark _ _) fun _ => trivial
    · trivial

theorem sized_manageLong (balances : List AdapterBalance) :
    (manageLong connId long balances).Only SizedOp := by
  unfold manageLong
  dsimp only
  split
  · refine only_bind (sized_update trivial) fun _ => ?_
    exact only_bind (sized_log _) fun _ => trivial
  · refine only_then trivial fun book => ?_
    split
    · trivial
    · exact sized_tickExit connId long _ _

/-- A BUY that returned no fill writes nothing. -/
theorem sized_tickBuy (symbol : String) (decision : CouncilDecision) (price : ℚ) :
    (tickBuy connId symbol decision price).Only SizedOp := by
  refine only_recover ?_ fun message => sized_log _
  refine only_then trivial fun filled => ?_
  dsimp only
  split
  · exact sized_log _
  · next filledSome =>
    refine only_then trivial fun now => ?_
    exact only_bind (sized_update (not_le.mp filledSome)) fun _ => sized_log _

theorem sized_tickCouncil (row : ConfigRow) (open? : Option CexOpenLong)
    (balances : List AdapterBalance) : (tickCouncil row connId open? balances).Only SizedOp := by
  refine only_then trivial fun decision => ?_
  split
  · trivial
  · split
    · trivial
    · refine only_then trivial fun now => ?_
      split
      · trivial
      · refine only_then trivial fun book => ?_
        split
        · trivial
        · exact sized_tickBuy connId _ _ _

theorem sized_tickConnected (row : ConfigRow) (keys : ApiKeys) :
    (tickConnected row connId keys).Only SizedOp := by
  refine only_then trivial fun balances => ?_
  refine only_then trivial fun now => ?_
  refine only_bind (sized_update trivial) fun _ => ?_
  split
  · exact sized_tickCouncil connId row none balances
  · refine only_bind (sized_manageLong connId _ balances) fun managed => ?_
    split
    · trivial
    · exact sized_tickCouncil connId row _ balances

theorem sized_tickUser (env : Env) (row : ConfigRow) : (tickUser env row).Only SizedOp := by
  unfold tickUser keepConnection
  split
  · trivial
  · refine only_bind (sized_resolveConnectionId _) fun connId? => ?_
    split
    · exact sized_log _
    · refine only_bind ?_ fun _ => ?_
      · split
        · exact sized_update trivial
        · trivial
      · refine only_then trivial fun ready => ?_
        split
        · trivial
        · refine only_then trivial fun conn? => ?_
          split
          · trivial
          · exact sized_tickConnected _ row _

end Tick

/-! ### The manual desk -/

theorem sized_manualBuyWrite {existing : Option ConfigRow} {symbol pair : String}
    {filledQty quoteValue avgPrice : ℚ} {now : ℕ} (filled : 0 < filledQty) :
    ∀ data ∈ manualBuyWrite existing symbol pair filledQty quoteValue avgPrice now,
      data.Sized := by
  intro data member
  unfold manualBuyWrite at member
  dsimp only at member
  split at member
  · cases member
  · split at member
    · next adds =>
      cases member
      exact add_pos adds.2 filled
    · cases member
      exact filled

theorem sized_bookManualBuy {symbol pair : String} {filledQty quoteValue avgPrice : ℚ}
    {attachExits : Bool} (filled : 0 < filledQty) :
    (bookManualBuy symbol pair filledQty quoteValue avgPrice attachExits).Only SizedOp := by
  unfold bookManualBuy landManualBuy
  refine only_then trivial fun existing => ?_
  refine only_then trivial fun now => ?_
  refine only_bind ?_ fun stays => ?_
  · split
    · next data isWrite =>
      exact only_bind (sized_update (sized_manualBuyWrite filled data isWrite)) fun _ => trivial
    · trivial
  · split
    · trivial
    · trivial

/-- A manual SELL that does not flatten the lot leaves more than a twentieth of it. -/
theorem sized_bookManualSell (symbol : String) (filledQty : ℚ) :
    (bookManualSell symbol filledQty).Only SizedOp := by
  refine only_then trivial fun existing => ?_
  dsimp only
  split
  · next tracked =>
    split
    · exact only_bind (sized_update trivial) fun _ => trivial
    · next remains =>
      have sized : 0 < (existing.bind ConfigRow.openBaseQty).getD 0 - filledQty := by
        linarith
      exact only_bind (sized_update sized) fun _ => trivial
  · trivial

theorem sized_bookManualTrade (fill : ManualFill) (attachExits : Bool) :
    (bookManualTrade fill attachExits).Only SizedOp := by
  unfold bookManualTrade
  split
  · next tracked => exact sized_bookManualBuy tracked.2.1
  · split
    · exact sized_bookManualSell _ _
    · trivial

theorem sized_executeManualTrade (request : ManualTradeRequest) :
    (executeManualTrade request).Only SizedOp := by
  refine only_then trivial fun preflight => ?_
  refine only_bind only_throwIf fun _ => ?_
  refine only_then trivial fun connection? => ?_
  refine only_bind only_orThrow fun connId => ?_
  refine only_then trivial fun filled => ?_
  refine only_bind (sized_bookManualTrade _ _) fun note => ?_
  exact only_bind (sized_log _) fun _ => trivial

theorem sized_call (env : Env) (request : Request) : (request.call env).Only SizedOp := by
  cases request with
  | tick =>
    refine only_then trivial fun found => ?_
    split
    · trivial
    · exact only_recover (sized_tickUser env _) fun _ => trivial
  | skim => exact only_bind sized_skimCexPositionProfit fun _ => trivial
  | override overrides =>
    exact only_bind (sized_setCexPositionExitOverrides overrides) fun _ => trivial
  | manualTrade request => exact only_bind (sized_executeManualTrade request) fun _ => trivial
  | landPeak position => exact only_recover (only_perform trivial) fun _ => trivial

/-! ### Every run -/

/-- While every write is tidy the row stays clean, and every lot opened from flat starts clean. -/
def tidying : Contract binance where
  allowed := TidyStep
  promised := StartsClean
  invariant := fun moment => Clean moment.state.row
  rely := fun _ _ _ => True
  rely_refl := fun _ _ => trivial
  rely_trans := fun _ _ _ _ _ _ => trivial

/-- A write that finds no row leaves none, or the bare row of a manual BUY. -/
theorem bare_land_none : ∀ written ∈ data.land none, written.Bare := by
  intro written member
  cases data with
  | manualOpen lot =>
    cases member
    exact ⟨rfl, rfl, rfl, rfl, rfl⟩
  | _ => cases member

theorem clean_land {row : Option ConfigRow} (clean : Clean row) (sized : data.Sized)
    (tidy : ∀ found ∈ row, data.Tidy found) : Clean (data.land row) := by
  cases row with
  | none => exact fun written member _ => bare_land_none written member
  | some found =>
    rw [land_some]
    rintro _ ⟨⟩
    exact clean_apply (clean found rfl) sized (tidy found rfl)

theorem bare_land {row : Option ConfigRow} (clean : Clean row) (buys : data.isBuy = true)
    (flat : ∀ found ∈ row, ¬ found.Holding) :
    ∀ written ∈ data.land row, written.Bare := by
  cases row with
  | none => exact bare_land_none
  | some found =>
    rw [land_some]
    rintro _ ⟨⟩
    exact bare_apply_of_isBuy buys (clean found rfl (flat found rfl))

theorem eq_none_of_land {row : Option ConfigRow} (nowhere : ¬ (data.land row).isSome) :
    data.land row = row := by
  cases row with
  | none => exact Option.not_isSome_iff_eq_none.mp nowhere
  | some found => exact absurd rfl (land_some ▸ nowhere)

theorem row_after (step : Step binance) :
    step.after.state.row = (landed step).elim step.before.state.row fun data =>
      data.land step.before.state.row := by
  obtain ⟨before, caller, op, fate⟩ := step
  show (perform op fate before.state).1.row = _
  cases op with
  | write data =>
    show ((if (data.land before.state.row).isSome then _ else _) : Machine × _).1.row =
      ((if fate.Applies then some data else none : Option Write)).elim _ _
    split
    · show ((if fate.Applies then _ else _) : Machine).row = _
      split
      · rfl
      · rfl
    · next nowhere =>
      split
      · exact (eq_none_of_land nowhere).symm
      · rfl
  | landPeak position =>
    unfold perform landed
    cases posted : before.state.posted[position]? with
    | none => cases fate <;> simp [posted]
    | some peak => cases fate <;> simp [posted, Delivery.write, Delivery.Applies, Machine.put]
  | takeSkim =>
    show ((if before.state.skimReady fate then _ else _) : Machine × _).1.row = _
    split
    · rfl
    · rfl
  | _ => rfl

theorem respects_of_sized {step : Step binance} (clean : Clean step.before.state.row)
    (sized : ∀ data ∈ landed step, data.Sized) (tidy : TidyStep step) :
    tidying.Respects step := by
  have after := row_after step
  refine ⟨?_, ?_, fun _ _ => trivial⟩
  · rintro ⟨data, lands, buys, flat⟩
    rw [lands] at after
    rw [after]
    exact bare_land clean buys flat
  · show Clean step.after.state.row
    rw [after]
    cases lands : landed step with
    | none => exact clean
    | some data => exact clean_land clean (sized data lands) (tidy data lands)

theorem sized_of_landed {step : Step binance} (permitted : SizedOp step.op) :
    ∀ data ∈ landed step, data.Sized := by
  obtain ⟨before, caller, op, fate⟩ := step
  intro data lands
  cases op with
  | write written =>
    obtain ⟨-, same⟩ := Option.ite_none_right_eq_some.mp lands
    cases same
    exact permitted
  | landPeak position =>
    obtain ⟨-, raises⟩ := Option.ite_none_right_eq_some.mp lands
    obtain ⟨peak, -, rfl⟩ := Option.map_eq_some_iff.mp raises
    trivial
  | _ => cases lands

theorem triple_sized {caller : ℕ} {Value : Type} {program : Call Value}
    (sized : program.Only SizedOp) :
    tidying.Triple caller (fun _ => True) program fun _ _ => True := by
  refine Triple.weaken (Triple.only (fun op permitted => ?_) sized) (fun _ _ => trivial)
    fun _ _ _ => trivial
  refine Triple.perform (fun _ _ _ _ _ => trivial) fun before fate _ clean allowed => ?_
  exact ⟨respects_of_sized clean (sized_of_landed permitted) allowed, outcome_const.mpr trivial⟩

def machineSystem (env : Env) (row : Option ConfigRow) (requests : List Request) :
    System binance Unit where
  moment := ⟨⟨row, [], none⟩, []⟩
  calls := requests.map (Request.call env)

theorem machineSystem_holds {env : Env} {row : Option ConfigRow} {requests : List Request}
    (clean : Clean row) : tidying.Holds (fun _ _ _ => True) (machineSystem env row requests) where
  invariant := clean
  calls := System.each_call fun _ request => triple_sized (sized_call env request) _ trivial

/-- In every run from a clean row whose writes are tidy, every lot that a BUY opens from flat
starts clean. -/
theorem newLot_startsClean (env : Env) (row : Option ConfigRow) (requests : List Request)
    (turns : List (Turn binance)) (clean : Clean row)
    (tidy : ∀ step ∈ (machineSystem env row requests).steps turns, TidyStep step) :
    ∀ step ∈ (machineSystem env row requests).steps turns, StartsClean step := by
  obtain ⟨-, respects⟩ := sound (fun _ _ _ _ _ _ _ => trivial) (machineSystem_holds clean) turns
    tidy
  exact fun step member => (respects step member).promised

section Example

instance (step : Step binance) : Decidable (OpensLot step) := by
  unfold OpensLot; infer_instance

instance (step : Step binance) : Decidable (StartsClean step) := by
  unfold StartsClean; infer_instance

private def exitsOff : Exits.ExitSettings where
  enabled := false
  takeProfitPct := 2
  stopLossPct := 2
  profitSkim := false
  trailingStop := false
  trailingActivationPct := 8 / 10
  trailingDeltaPct := 4 / 10
  stopLossPct_nonneg := by norm_num

/-- An exchange on which the coin costs 100 and every order is filled in full. -/
private def fillingAt100 : (op : Op) → Fate op
  | .findConfig => .answered
  | .write _ => .answered
  | .postPeak _ => ()
  | .landPeak _ => .answered
  | .takeSkim => 0
  | .currentTime => 1000000
  | .findTradingConnection _ => .ok true
  | .findAnyConnection => .ok (some "binance")
  | .loadConnection _ => .ok (some ⟨"key", "secret"⟩)
  | .computeAutomationReadiness _ => .ok true
  | .getBalances _ => .ok [⟨"USDT", 500⟩, ⟨"SOL", 1⟩]
  | .fetchBookTicker _ => .ok (some ⟨some 100, some 100, some 100⟩)
  | .getCexExitSettings => .ok exitsOff
  | .cexCouncilEvaluate _ _ => .ok ⟨true, 100, 1⟩
  | .previewManualTrade request => .ok
    { ok := true
      blockers := []
      symbol := request.symbol
      side := request.side
      quoteOrderQty := request.quoteOrderQty
      quantity := request.quantity
      estPrice := some 100
      estQuoteValue := some 100 }
  | .placeOrder _ => .ok ⟨"order", some 1, some 100, some 100⟩
  | .appendTradingLog _ => .ok ()

private def buySol : ManualTradeRequest := ⟨"SOLUSDT", .buy, some 100, none, none, false⟩

private def sellSol : ManualTradeRequest := ⟨"SOLUSDT", .sell, none, some 1, none, false⟩

/-- The calls one after the other. -/
private def inTurn (count : ℕ) : List (Turn binance) :=
  (List.range count).flatMap fun caller => List.replicate 12 ⟨caller, fillingAt100⟩

private def machineRun (requests : List Request) : List (Step binance) :=
  (machineSystem ⟨true⟩ none requests).steps (inTurn requests.length)

/-- A lot that is opened, given a stop and taken off it again, sold and followed by another. -/
theorem newLot_startsClean_sol :
    (machineRun [.manualTrade buySol, .override { stopLossPct := some (some 1) },
      .override { stopLossPct := some none }, .manualTrade sellSol, .manualTrade buySol]).Forall
        StartsClean :=
  List.forall_iff_forall_mem.mpr
    (newLot_startsClean ⟨true⟩ none _ _ (fun _ member => by cases member) (by decide +kernel))

/-- A stop that is set for a lot outlives its manual sale and guards the next lot. -/
theorem not_newLot_startsClean :
    ¬ ∀ (requests : List Request) (turns : List (Turn binance)),
      ∀ step ∈ (machineSystem ⟨true⟩ none requests).steps turns, StartsClean step := by
  intro clean
  have steps := clean [.manualTrade buySol, .override { stopLossPct := some (some 1) },
    .manualTrade sellSol, .manualTrade buySol] (inTurn 4)
  revert steps
  decide +kernel

end Example

end GdslExchange.Cex
