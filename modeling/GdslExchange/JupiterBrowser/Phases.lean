/-
This file reads the submission of a signed swap as a caller that moves through phases: it
waits for Jupiter's answer to a relay, it may book what was executed, it has found the row
of a SELL.
-/

import GdslExchange.Async.Protocol
import GdslExchange.JupiterBrowser.Swap

namespace GdslExchange.JupiterBrowser

open Async
open Async.Program hiding await
open Protocol (Follows Stays anywhere ends permitted)

/-! ### Phases -/

inductive Phase where
  | idle
  | waiting (requestId : String) (build : Stored BuildContext)
  | confirmed (build : Stored BuildContext)
  | matched (build : Stored BuildContext) (found : Stored Trade)

namespace Phase

/-- The build that a caller is about. -/
def build : Phase → Option (Stored BuildContext)
  | idle => none
  | waiting _ build => some build
  | confirmed build => some build
  | matched build _ => some build

/-- The build that a caller may book. -/
def claim : Phase → Option ℕ
  | confirmed build => some build.id
  | matched build _ => some build.id
  | _ => none

/-- The signature is there. -/
def confirm : Phase → Phase
  | waiting _ build => confirmed build
  | phase => phase

/-- The row of a SELL is there. -/
def found (found : Stored Trade) : Phase → Phase
  | confirmed build => matched build found
  | phase => phase

end Phase

def BuildContext.Creates (ctx : BuildContext) (row : Trade) : Prop :=
  (ctx.side = .buy ∧ row = ctx.buyRow) ∨ (ctx.side = .sell ∧ row = ctx.strayRow)

def lane : Protocol venue Phase where
  start := .idle
  permits phase
    | .submitJupiterExecute _ _ => phase = .idle
    | .hearExecute requestId => ∃ build, phase = .waiting requestId build
    | .findOpenTrade userId pair => ∃ build, phase = .confirmed build ∧
        userId = build.row.userId ∧ pair = build.row.pair
    | .createTrade id row => ∃ build, phase = .confirmed build ∧ id = build.id ∧
        build.row.Creates row
    | .updateTrade id row patch => ∃ build found, phase = .matched build found ∧ id = build.id ∧
        row = found.id ∧ build.row.side = .sell ∧ patch = build.row.sellPatch found.row
    | _ => True
  next phase
    | .submitJupiterExecute opts _, .ok build => .waiting opts.requestId build
    | .hearExecute _, .ok _ => phase.confirm
    | .hearExecute _, .error _ => .idle
    | .findOpenTrade _ _, .ok (some found) => phase.found found
    | .createTrade _ _, _ => .idle
    | .updateTrade _ _ _, _ => .idle
    | _, _ => phase

/-! ### Rules -/

/-- Operations that a build awaits. -/
def Preparing : Op → Prop
  | .getJupiterTradableToken _ => True
  | .listSolanaHoldingsForOwner _ => True
  | .fetchJupiterPricesV3 _ => True
  | .getJupiterOrder _ => True
  | .storeBuild _ => True
  | .ensureSelfCustodyStrategyId => True
  | _ => False

theorem neutral_preparing {op : Op} {phase : Phase} (preparing : Preparing op) :
    lane.Neutral phase op := by
  cases op <;> first | exact preparing.elim | exact ⟨trivial, fun _ => rfl⟩

theorem only_ownerBalance (owner mint : String) : (ownerBalance owner mint).Only Preparing :=
  only_then trivial fun _ => trivial

theorem only_checkBalances {owner inputMint : String} {amount : ℚ} {held : ℚ × ℕ} :
    (checkBalances owner inputMint amount held).Only Preparing := by
  refine only_bind only_throwIf fun _ => only_bind ?_ fun _ => only_throwIf
  unfold solHeldOf
  split
  · trivial
  · exact only_bind (only_ownerBalance _ _) fun _ => trivial

theorem only_orderValue {inputMint : String} {amount : ℚ} :
    (orderValue inputMint amount).Only Preparing := by
  refine only_bind ?_ fun _ => only_bind only_throwIf fun _ => trivial
  unfold usdPerUnit
  split
  · trivial
  · exact only_bind (only_recover (only_perform trivial) fun _ => trivial) fun _ => trivial

theorem only_buildBrowserJupiterSwap {web3 : Web3} {configured : Bool} {opts : BuildOptions} :
    (buildBrowserJupiterSwap web3 configured opts).Only Preparing := by
  exact only_bind only_throwIf fun _ => only_bind only_throwIf fun _ =>
    only_bind only_orThrow fun _ => only_then trivial fun _ =>
    only_bind only_orThrow fun _ => only_bind (only_ownerBalance _ _) fun _ =>
    only_bind only_checkBalances fun _ => only_bind only_orderValue fun _ =>
    only_then trivial fun _ => only_bind only_orThrow fun _ =>
    only_then trivial fun _ => trivial

theorem anyhow {Value : Type} {phase : Phase} {program : Call Value}
    {returns : Value → Phase → Prop} {throws : Phase → Prop}
    (follows : lane.Follows phase program (ends returns throws)) :
    lane.Follows phase program anywhere := by
  refine follows.mono fun result reached _ => ?_
  cases result <;> trivial

theorem bookTrade_follows (build : Stored BuildContext) :
    lane.Follows (.confirmed build) (bookTrade build.id build.row) anywhere := by
  unfold bookTrade
  cases side : build.row.side with
  | buy =>
    exact Follows.perform ⟨build, rfl, rfl, Or.inl ⟨side, rfl⟩⟩ (fun _ => trivial)
      fun _ => trivial
  | sell =>
    refine Follows.moves (fun open? => open?.elim (.confirmed build) fun found =>
      .matched build found) ⟨build, rfl, rfl, rfl⟩ (fun open? => ?_) (fun _ => trivial)
      fun open? => ?_
    · cases open? <;> exact rfl
    cases open? with
    | none =>
      exact Follows.perform ⟨build, rfl, rfl, Or.inr ⟨side, rfl⟩⟩ (fun _ => trivial)
        fun _ => trivial
    | some found =>
      exact Follows.perform ⟨build, found, rfl, rfl, rfl, side, rfl⟩ (fun _ => trivial)
        fun _ => trivial

theorem submitBrowserJupiterSwap_follows (web3 : Web3) (opts : SubmitOptions) :
    lane.Follows .idle (submitBrowserJupiterSwap web3 opts) anywhere := by
  refine Follows.moves (.waiting opts.requestId) rfl (fun _ => rfl) (fun _ => trivial)
    fun build => ?_
  refine Follows.moves (fun _ => .confirmed build) ⟨build, rfl⟩ (fun _ => rfl) (fun _ => trivial)
    fun signature => ?_
  have named : lane.Stays (.confirmed build) (await .ensureSelfCustodyStrategyId) :=
    Stays.perform (neutral_preparing trivial)
  refine Stays.andThen named (fun _ => ?_) trivial
  exact Follows.bind (bookTrade_follows build) fun _ _ _ => trivial

/-- Every request goes through the phases. -/
theorem request_follows (web3 : Web3) (configured : Bool) (request : Request) :
    lane.Follows .idle (request.call web3 configured) anywhere := by
  cases request with
  | build opts =>
    have prepared : (buildBrowserJupiterSwap web3 configured opts).Only (lane.Neutral .idle) :=
      only_buildBrowserJupiterSwap.mono fun op preparing => neutral_preparing preparing
    exact Follows.bind (anyhow (Follows.neutral prepared)) fun _ _ _ => trivial
  | submit opts =>
    exact Follows.bind (submitBrowserJupiterSwap_follows web3 opts) fun _ _ _ => trivial

theorem permits_of_mem_steps (web3 : Web3) (configured : Bool) (requests : List Request)
    (turns : List (Turn venue)) :
    ∀ step ∈ (browserSystem web3 configured requests).steps turns,
      lane.permits (lane.phase step.before step.caller) step.op :=
  permitted (System.each_call fun _ request => request_follows web3 configured request) turns

end GdslExchange.JupiterBrowser
