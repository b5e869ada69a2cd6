/-
This file settles when the caps of the Super Machine bind what it executes.

The cap of a trade is multiplied after it has been taken, the reserve is left out of
it where it was saved when there was more in the wallet, and the counters of the day
are read at the start of a tick and written at its end. So the caps bind in the runs
in which no factor lifts a size above its cap, the wallet still holds the size and
the reserve, and every BUY so far is in the counters that the next one has read.
-/

import GdslExchange.SuperMachine.Grounds

namespace GdslExchange.SuperMachine

open Async Async.Program

/-! ### The property and the condition -/

/-- An executed BUY is within the effective maximum trade of its tick, leaves the reserve in the
wallet, and leaves the BUYs of the day within the number and the volume of the day. -/
def CapsBind (config : Config) : Step world → Prop
  | ⟨before, caller, .executeJupiterSwap request, delivery⟩ =>
    let tick := (grounds.phase before caller).tick
    let bought := (Step.mk before caller (.executeJupiterSwap request) delivery).after.state.bought
    Executes request delivery before.state →
      (∀ row ∈ tick.row, request.amount ≤ tick.maxTrade row) ∧
        request.amount ≤ before.state.usdc - usdcReserveUsd ∧
        bought.length ≤ config.maxDailyTrades ∧ bought.sum ≤ config.maxDailyVolumeUsd
  | _ => True

/-- What a tick has read fits the BUY of a size: the factor does not lift the cap, the wallet holds
the size and the reserve, the counters cover what has been bought, and the size fits in the rest of
the volume. -/
structure Fits (machine : Machine) (maxTrade : ℚ) (row refreshed : Config) (confidence : ℚ)
    (stats : SuperMachineStats) : Prop where
  tempered : Tempered maxTrade (sizeMultiplier confidence stats)
  reserved : calculateDynamicSize maxTrade confidence stats + usdcReserveUsd ≤ machine.usdc
  tradesCounted : machine.bought.length ≤ refreshed.tradesToday
  volumeCounted : machine.bought.sum ≤ refreshed.volumeTodayUsd
  volumeLeft : refreshed.volumeTodayUsd + calculateDynamicSize maxTrade confidence stats ≤
    row.maxDailyVolumeUsd

/-- When a BUY is executed, it fits what its tick has read. -/
def FitsReadings : Step world → Prop
  | ⟨before, caller, .executeJupiterSwap request, delivery⟩ =>
    let readings := grounds.phase before caller
    Executes request delivery before.state →
      ∀ row ∈ readings.tick.row, ∀ refreshed ∈ readings.tick.refreshed,
        ∀ tick ∈ readings.published,
          Fits before.state (readings.tick.maxTrade row) row refreshed tick.1 tick.2
  | _ => True

/-! ### Every BUY -/

theorem capsBind_of_fitsReadings {config : Config} {step : Step world}
    (permitted : grounds.permits (grounds.phase step.before step.caller) step.op)
    (kept : LimitsKept config step.before) (fits : FitsReadings step) : CapsBind config step := by
  obtain ⟨before, caller, op, delivery⟩ := step
  cases op with
  | executeJupiterSwap request =>
    intro executes
    obtain ⟨row, refreshed, confidence, stats, grounded⟩ := permitted
    have fit := fits executes row grounded.due.rowRead refreshed grounded.due.refreshedRead _
      grounded.published
    have sized : request.amount = calculateDynamicSize
        ((grounds.phase before caller).tick.maxTrade row) confidence stats := grounded.sized
    have limits := kept.row caller row grounded.due.rowRead
    have isBought : (Step.mk before caller (.executeJupiterSwap request) delivery).after.state.bought
        = before.state.bought ++ [request.amount] := by
      show (perform (.executeJupiterSwap request) delivery before.state).1.bought = _
      rw [perform_executeJupiterSwap, if_pos executes]
    refine ⟨fun other isOther => ?_, ?_, ?_, ?_⟩
    · cases grounded.due.rowRead.symm.trans isOther
      rw [sized]
      exact calculateDynamicSize_le_iff.mpr fit.tempered
    · rw [sized]
      exact le_sub_iff_add_le.mpr fit.reserved
    · rw [isBought, List.length_append, ← limits.maxDailyTrades]
      exact (Nat.add_le_add_right fit.tradesCounted 1).trans grounded.due.tradesLeft
    · rw [isBought, List.sum_append, List.sum_singleton, ← limits.maxDailyVolumeUsd, sized]
      exact (add_le_add_left fit.volumeCounted _).trans fit.volumeLeft
  | _ => trivial

/-- The BUYs of the day are within its limits, once there are any. -/
def DayWithin (config : Config) (machine : Machine) : Prop :=
  machine.bought.length ≤ config.maxDailyTrades ∧
    (machine.bought ≠ [] → machine.bought.sum ≤ config.maxDailyVolumeUsd)

theorem dayWithin_after {config : Config} (step : Step world)
    (within : DayWithin config step.before.state) (binds : CapsBind config step) :
    DayWithin config step.after.state := by
  obtain ⟨before, caller, op, fate⟩ := step
  show DayWithin config (perform op fate before.state).1
  cases op with
  | executeJupiterSwap request =>
    rw [perform_executeJupiterSwap]
    split
    · next executes =>
      have limits := (binds executes).2.2
      rw [show (Step.mk before caller (.executeJupiterSwap request) fate).after.state = _ from
        (perform_executeJupiterSwap request fate before.state).trans (if_pos executes)] at limits
      exact ⟨limits.1, fun _ => limits.2⟩
    · exact within
  | updateConfig data =>
    have same : (perform (.updateConfig data) fate before.state).1.bought = before.state.bought :=
      Async.Delivery.write_same rfl
    unfold DayWithin
    rw [same]
    exact within
  | _ => exact within

/-- In a run of the Super Machine in which every executed BUY fits what its tick has read, the caps
bind every executed BUY, and the limits of the day hold in the state that is reached. -/
theorem capsBind_of_fits (today : String) (config : Config) (usdc : ℚ) (requests : List Request)
    (turns : List (Turn world))
    (fits : ∀ step ∈ (superMachine today config usdc requests).steps turns, FitsReadings step) :
    (∀ step ∈ (superMachine today config usdc requests).steps turns, CapsBind config step) ∧
      DayWithin config ((superMachine today config usdc requests).run turns).moment.state := by
  have binds : ∀ step ∈ (superMachine today config usdc requests).steps turns,
      CapsBind config step := fun step member =>
    capsBind_of_fitsReadings (permits_of_mem_steps today config usdc requests turns step member)
      (limitsKept_of_mem_steps today config usdc requests turns step member) (fits step member)
  have start : DayWithin config (superMachine today config usdc requests).moment.state :=
    ⟨Nat.zero_le _, fun bought => absurd rfl bought⟩
  exact ⟨binds, (@System.run_keeps world Unit (fun moment => DayWithin config moment.state) _
    (fun _ => True) (fun step within binds => ⟨trivial, dayWithin_after step within binds⟩) _
    start turns binds).1⟩

/-- In auto-scan the reserve is kept where the wallet has enough for a cap of its own, that cap is
the one taken, no factor lifts it, and the wallet holds by then what it held when it was read. -/
theorem reserved_of_scanned {machine : Machine} {reading : TickReading} {row : Config}
    {usdc confidence : ℚ} {stats : SuperMachineStats}
    (scanning : ¬ row.toSettings.watchSymbol.isSome) (read : reading.usdc = some usdc)
    (enough : 8 + usdcReserveUsd ≤ usdc) (saved : row.maxTradeUsd ≤ walletMaxTradeUsd usdc)
    (tempered : Tempered (reading.maxTrade row) (sizeMultiplier confidence stats))
    (held : usdc ≤ machine.usdc) :
    calculateDynamicSize (reading.maxTrade row) confidence stats + usdcReserveUsd ≤
      machine.usdc := by
  have cap : reading.maxTrade row = walletMaxTradeUsd usdc := by
    unfold TickReading.maxTrade
    rw [if_neg scanning, read]
    exact max_eq_right saved
  have within : calculateDynamicSize (reading.maxTrade row) confidence stats ≤
      reading.maxTrade row := calculateDynamicSize_le_iff.mpr tempered
  have reserve := walletMaxTradeUsd_le enough
  rw [cap] at within ⊢
  linarith

section Example

instance (machine : Machine) (maxTrade : ℚ) (row refreshed : Config) (confidence : ℚ)
    (stats : SuperMachineStats) :
    Decidable (Fits machine maxTrade row refreshed confidence stats) :=
  decidable_of_iff
    (Tempered maxTrade (sizeMultiplier confidence stats) ∧
      calculateDynamicSize maxTrade confidence stats + usdcReserveUsd ≤ machine.usdc ∧
      machine.bought.length ≤ refreshed.tradesToday ∧
      machine.bought.sum ≤ refreshed.volumeTodayUsd ∧
      refreshed.volumeTodayUsd + calculateDynamicSize maxTrade confidence stats ≤
        row.maxDailyVolumeUsd)
    ⟨fun ⟨tempered, reserved, trades, volume, left⟩ => ⟨tempered, reserved, trades, volume, left⟩,
      fun ⟨tempered, reserved, trades, volume, left⟩ => ⟨tempered, reserved, trades, volume, left⟩⟩

instance (step : Step world) : Decidable (FitsReadings step) := by
  obtain ⟨before, caller, op, fate⟩ := step
  cases op with
  | executeJupiterSwap request =>
    unfold FitsReadings
    infer_instance
  | _ => exact isTrue trivial

instance (config : Config) (step : Step world) : Decidable (CapsBind config step) := by
  obtain ⟨before, caller, op, fate⟩ := step
  cases op with
  | executeJupiterSwap request =>
    unfold CapsBind
    infer_instance
  | _ => exact isTrue trivial

/-- A tick on a token of a momentum score, with 100 USDC in the wallet. -/
private def oneTick (score : ℚ) : List (Turn world) :=
  List.replicate 28 ⟨0, (trending score).fate⟩

/-- A confidence of five eighths and no closed trades make a factor below one. -/
theorem capsBind_calm :
    (∀ step ∈ (superMachine "2025-01-01" aliceConfig 100 [.tick]).steps (oneTick 60),
      CapsBind aliceConfig step) ∧
    DayWithin aliceConfig
      ((superMachine "2025-01-01" aliceConfig 100 [.tick]).run (oneTick 60)).moment.state :=
  capsBind_of_fits _ _ _ _ _ (by decide +kernel)

/-- A confidence above seven tenths lifts the size above the cap. -/
theorem not_capsBind : ¬ ∀ (today : String) (config : Config) (usdc : ℚ)
    (requests : List Request) (turns : List (Turn world)),
    ∀ step ∈ (superMachine today config usdc requests).steps turns, CapsBind config step := by
  intro binds
  have steps : ∀ step ∈ (superMachine "2025-01-01" aliceConfig 100 [.tick]).steps (oneTick 95),
      CapsBind aliceConfig step := binds _ _ _ _ _
  revert steps
  decide +kernel

end Example

end GdslExchange.SuperMachine
