/-
This file settles when the browser swap relays and books exactly what was built: in every
run in which clients hand back what their wallets made of the transaction they were given,
and no other submission of a build waits when Jupiter confirms one.

The server itself only finds out whether the bytes can be decoded, and keeps a build until
the answer is there.
-/

import GdslExchange.JupiterBrowser.Phases

namespace GdslExchange.JupiterBrowser

open Async
open Async.Program hiding await
open Jupiter (ExecuteReply)

/-! ### What a run should keep -/

section Sound

variable (web3 : Web3)

/-- The bytes are the message of a build, signed by its owner. -/
def Exact (desk : Desk) (build : ℕ) (signedTransaction : String) : Prop :=
  (desk.built[build]?).any (fun built => web3.deserialize signedTransaction =
    some ⟨web3.message built.transaction, built.context.owner⟩) = true

def IsBuilt (desk : Desk) (build : Stored BuildContext) : Prop :=
  (desk.built[build.id]?).map Built.context = some build.row

/-- A step relays exact bytes only, and books a build as it was made: a BUY and a SELL without an
OPEN row as a row of their own, any other SELL in a row of its user and pair. -/
structure StepSound (step : Step venue) : Prop where
  relayed : ∀ opts decoded build, step.op = .submitJupiterExecute opts decoded →
    lane.phase step.after step.caller = .waiting opts.requestId build →
    Exact web3 step.before.state build.id opts.signedTransaction
  created : ∀ id row, step.op = .createTrade id row →
    ∃ ctx : BuildContext, IsBuilt step.before.state ⟨id, ctx⟩ ∧ ctx.Creates row
  updated : ∀ id position patch, step.op = .updateTrade id position patch →
    ∃ ctx : BuildContext, IsBuilt step.before.state ⟨id, ctx⟩ ∧ ctx.side = .sell ∧
      ∃ row later : Trade, patch = ctx.sellPatch row ∧
        step.before.state.trades[position]? = some later ∧
          later.userId = ctx.userId ∧ later.pair = ctx.pair

/-! ### Orderly steps -/

/-- The bytes are what the wallet of a build has made of its transaction. -/
def Handed (desk : Desk) (signedTransaction : String) (build : Stored BuildContext) : Prop :=
  (desk.built[build.id]?).any (fun built =>
    signedTransaction = web3.sign built.context.owner built.transaction) = true

/-- A phase that waits for no answer about a build. -/
def Phase.leaves (build : Stored BuildContext) : Phase → Prop
  | waiting _ other => other.id ≠ build.id
  | _ => True

/-- Nobody else waits for an answer about the build of a caller. -/
def Alone (before : Moment venue) (caller : ℕ) : Phase → Prop
  | .waiting _ build => lane.Others before caller (Phase.leaves build)
  | _ => True

/-- What is relayed was handed back, and what is confirmed is confirmed to one caller. -/
def Orderly (step : Step venue) : Prop :=
  match step with
  | ⟨before, _, .submitJupiterExecute opts decoded, now⟩ =>
    match (before.state.openSubmit opts decoded now).2 with
    | .ok build => Handed web3 before.state opts.signedTransaction build
    | .error _ => True
  | ⟨before, caller, .hearExecute _, answer⟩ =>
    (heardSignature answer).isOk = true → Alone before caller (lane.phase before caller)
  | _ => True

end Sound

/-! ### The invariant -/

/-- A build that somebody may book or has booked. -/
def Taken (desk : Desk) (phases : ℕ → Phase) (id : ℕ) : Prop :=
  id ∈ desk.booked ∨ ∃ caller, (phases caller).claim = some id

/-- Callers are about builds that were made; a build is taken once, and only when nobody can find
it any more or waits for it. -/
structure Tickets (desk : Desk) (phases : ℕ → Phase) : Prop where
  built : ∀ caller build, (phases caller).build = some build → IsBuilt desk build
  keyed : ∀ requestId id, desk.builds requestId = some id →
    (desk.built[id]?).map Built.requestId = some requestId
  asked : ∀ caller requestId build, phases caller = .waiting requestId build →
    (desk.built[build.id]?).map Built.requestId = some requestId
  stored : ∀ requestId id, desk.builds requestId = some id → ¬ Taken desk phases id
  waiting : ∀ caller requestId build, phases caller = .waiting requestId build →
    ¬ Taken desk phases build.id
  single : ∀ first second id, (phases first).claim = some id →
    (phases second).claim = some id → first = second
  unbooked : ∀ caller id, (phases caller).claim = some id → id ∉ desk.booked
  once : desk.booked.Nodup
  used : ∀ id ∈ desk.booked, id < desk.built.length

/-- A row that a SELL has found is still one of its user and pair. -/
def Matched (desk : Desk) (phases : ℕ → Phase) : Prop :=
  ∀ caller build found, phases caller = .matched build found →
    ∃ row, desk.trades[found.id]? = some row ∧ row.userId = build.row.userId ∧
      row.pair = build.row.pair

variable {desk : Desk} {phases : ℕ → Phase}

theorem Tickets.start : Tickets .empty fun _ => .idle where
  built _ _ isBuild := by cases isBuild
  keyed _ _ isStored := by cases isStored
  asked _ _ _ isWaiting := by cases isWaiting
  stored _ _ isStored := by cases isStored
  waiting _ _ _ isWaiting := by cases isWaiting
  single _ _ _ isClaim := by cases isClaim
  unbooked _ _ isClaim := by cases isClaim
  once := List.nodup_nil
  used _ member := by cases member

theorem build_of_claim {phase : Phase} {id : ℕ} (isClaim : phase.claim = some id) :
    ∃ build, phase.build = some build ∧ build.id = id := by
  cases phase with
  | idle => cases isClaim
  | waiting requestId build => cases isClaim
  | confirmed build => exact ⟨build, rfl, Option.some.inj isClaim⟩
  | matched build found => exact ⟨build, rfl, Option.some.inj isClaim⟩

theorem lt_of_isBuilt {build : Stored BuildContext} (isBuilt : IsBuilt desk build) :
    build.id < desk.built.length := by
  obtain ⟨built, isSome, -⟩ := Option.map_eq_some_iff.mp isBuilt
  exact (List.getElem?_eq_some_iff.mp isSome).1

theorem Tickets.lt_of_taken (tickets : Tickets desk phases) {id : ℕ}
    (taken : Taken desk phases id) : id < desk.built.length := by
  rcases taken with isBooked | ⟨caller, isClaim⟩
  · exact tickets.used id isBooked
  · obtain ⟨build, isBuild, rfl⟩ := build_of_claim isClaim
    exact lt_of_isBuilt (tickets.built caller build isBuild)

/-! ### The map of builds -/

/-- Some builds can no longer be found. -/
theorem Tickets.forget (tickets : Tickets desk phases) {builds : String → Option ℕ}
    (fewer : ∀ requestId id, builds requestId = some id → desk.builds requestId = some id) :
    Tickets { desk with builds := builds } phases where
  built := tickets.built
  keyed requestId id isStored := tickets.keyed requestId id (fewer requestId id isStored)
  asked := tickets.asked
  stored requestId id isStored := tickets.stored requestId id (fewer requestId id isStored)
  waiting := tickets.waiting
  single := tickets.single
  unbooked := tickets.unbooked
  once := tickets.once
  used := tickets.used

theorem Tickets.prune (tickets : Tickets desk phases) (now : ℕ) :
    Tickets (desk.prune now) phases :=
  tickets.forget fun _ _ isStored => (Option.filter_eq_some_iff.mp isStored).1

theorem map_built_append {Value : Type} {read : Built → Value} {built : Built} {id : ℕ}
    {value : Value} (isValue : (desk.built[id]?).map read = some value) :
    ((desk.built ++ [built])[id]?).map read = some value := by
  obtain ⟨found, isSome, isRead⟩ := Option.map_eq_some_iff.mp isValue
  rw [List.getElem?_append_left (List.getElem?_eq_some_iff.mp isSome).1, isSome, ← isRead]
  rfl

theorem builds_storeBuild (built : Built) (requestId : String) :
    (desk.storeBuild built).builds requestId =
      if requestId = built.requestId then some desk.built.length else desk.builds requestId :=
  Function.update_apply _ _ _ _

theorem Tickets.storeBuild (tickets : Tickets desk phases) (built : Built) :
    Tickets (desk.storeBuild built) phases where
  built caller build isBuild := map_built_append (tickets.built caller build isBuild)
  keyed requestId id isStored := by
    rw [builds_storeBuild] at isStored
    split at isStored
    · next same =>
      rw [← Option.some.inj isStored, same]
      show ((desk.built ++ [built])[desk.built.length]?).map Built.requestId = _
      rw [List.getElem?_concat_length]
      rfl
    · exact map_built_append (tickets.keyed requestId id isStored)
  asked caller requestId build isWaiting :=
    map_built_append (tickets.asked caller requestId build isWaiting)
  stored requestId id isStored taken := by
    have older : id < desk.built.length := tickets.lt_of_taken taken
    rw [builds_storeBuild] at isStored
    split at isStored
    · rw [← Option.some.inj isStored] at older
      exact lt_irrefl _ older
    · exact tickets.stored requestId id isStored taken
  waiting := tickets.waiting
  single := tickets.single
  unbooked := tickets.unbooked
  once := tickets.once
  used id member := by
    show id < (desk.built ++ [built]).length
    rw [List.length_append]
    exact (tickets.used id member).trans_le (Nat.le_add_right _ _)

/-! ### A caller that moves -/

section Moves

variable {caller : ℕ} {phase : Phase}

/-- What a caller is at after one of them has moved. -/
theorem update_cases {Value : Type} {read : Phase → Value} {value : Value} {other : ℕ}
    (isValue : read (Function.update phases caller phase other) = value) :
    (other = caller ∧ read phase = value) ∨ (other ≠ caller ∧ read (phases other) = value) := by
  by_cases same : other = caller
  · rw [same, Function.update_self] at isValue
    exact Or.inl ⟨same, isValue⟩
  · rw [Function.update_of_ne same] at isValue
    exact Or.inr ⟨same, isValue⟩

theorem update_eq_cases {other : ℕ} {reached : Phase}
    (isReached : Function.update phases caller phase other = reached) :
    (other = caller ∧ phase = reached) ∨ (other ≠ caller ∧ phases other = reached) := by
  by_cases same : other = caller
  · rw [same, Function.update_self] at isReached
    exact Or.inl ⟨same, isReached⟩
  · rw [Function.update_of_ne same] at isReached
    exact Or.inr ⟨same, isReached⟩

/-- A caller moves and may not book what it could not book before. -/
theorem Tickets.move (tickets : Tickets desk phases)
    (built : ∀ build, phase.build = some build → IsBuilt desk build)
    (waiting : ∀ requestId build, phase = .waiting requestId build →
      (desk.built[build.id]?).map Built.requestId = some requestId ∧
        ¬ Taken desk phases build.id)
    (claim : ∀ id, phase.claim = some id → (phases caller).claim = some id) :
    Tickets desk (Function.update phases caller phase) := by
  have claims : ∀ other id, (Function.update phases caller phase other).claim = some id →
      (phases other).claim = some id := by
    intro other id isClaim
    rcases update_cases isClaim with ⟨same, claimed⟩ | ⟨-, claimed⟩
    · rw [same]
      exact claim id claimed
    · exact claimed
  have taken : ∀ id, Taken desk (Function.update phases caller phase) id →
      Taken desk phases id := fun id isTaken =>
    isTaken.imp_right fun ⟨other, isClaim⟩ => ⟨other, claims other id isClaim⟩
  exact {
    built := fun other build isBuild => by
      rcases update_cases isBuild with ⟨-, isBuild⟩ | ⟨-, isBuild⟩
      · exact built build isBuild
      · exact tickets.built other build isBuild
    keyed := tickets.keyed
    asked := fun other requestId build isWaiting => by
      rcases update_eq_cases isWaiting with
        ⟨-, isWaiting⟩ | ⟨-, isWaiting⟩
      · exact (waiting requestId build isWaiting).1
      · exact tickets.asked other requestId build isWaiting
    stored := fun requestId id isStored isTaken =>
      tickets.stored requestId id isStored (taken id isTaken)
    waiting := fun other requestId build isWaiting isTaken => by
      rcases update_eq_cases isWaiting with
        ⟨-, isWaiting⟩ | ⟨-, isWaiting⟩
      · exact (waiting requestId build isWaiting).2 (taken _ isTaken)
      · exact tickets.waiting other requestId build isWaiting (taken _ isTaken)
    single := fun first second id isFirst isSecond =>
      tickets.single first second id (claims first id isFirst) (claims second id isSecond)
    unbooked := fun other id isClaim => tickets.unbooked other id (claims other id isClaim)
    once := tickets.once
    used := tickets.used }

/-- A caller has nothing to do with builds any more. -/
theorem Tickets.drop (tickets : Tickets desk phases) :
    Tickets desk (Function.update phases caller .idle) :=
  tickets.move nofun nofun nofun

/-- The signature is there, and nobody else waits for one of the same build. -/
theorem Tickets.confirm (tickets : Tickets desk phases) {requestId : String}
    {build : Stored BuildContext} (isWaiting : phases caller = .waiting requestId build)
    (alone : ∀ other, other ≠ caller → (phases other).leaves build) :
    Tickets (desk.deleteBuild requestId)
      (Function.update phases caller (.confirmed build)) := by
  have isBuilt : IsBuilt desk build := tickets.built caller build (by rw [isWaiting]; rfl)
  have untaken : ¬ Taken desk phases build.id := tickets.waiting caller requestId build isWaiting
  have kept : ∀ other id, other ≠ requestId →
      (desk.deleteBuild requestId).builds other = some id → desk.builds other = some id := by
    intro other id different isStored
    rw [← isStored]
    exact (Function.update_of_ne different _ _).symm
  have deleted : ∀ id, (desk.deleteBuild requestId).builds requestId ≠ some id := by
    intro id isStored
    have isNone : (desk.deleteBuild requestId).builds requestId = none := Function.update_self _ _ _
    rw [isNone] at isStored
    cases isStored
  have taken : ∀ id, Taken (desk.deleteBuild requestId)
      (Function.update phases caller (.confirmed build)) id → id = build.id ∨ Taken desk phases id := by
    rintro id (isBooked | ⟨other, isClaim⟩)
    · exact Or.inr (Or.inl isBooked)
    · rcases update_cases isClaim with ⟨-, isClaim⟩ | ⟨-, isClaim⟩
      · exact Or.inl (Option.some.inj isClaim).symm
      · exact Or.inr (Or.inr ⟨other, isClaim⟩)
  exact {
    built := fun other found isBuild => by
      rcases update_cases isBuild with ⟨-, isBuild⟩ | ⟨-, isBuild⟩
      · rw [← Option.some.inj isBuild]
        exact isBuilt
      · exact tickets.built other found isBuild
    keyed := fun other id isStored => by
      by_cases same : other = requestId
      · exact (deleted id (same ▸ isStored)).elim
      · exact tickets.keyed other id (kept other id same isStored)
    asked := fun other otherId found isOther => by
      rcases update_eq_cases isOther with ⟨-, isOther⟩ | ⟨-, isOther⟩
      · cases isOther
      · exact tickets.asked other otherId found isOther
    stored := fun other id isStored isTaken => by
      by_cases same : other = requestId
      · exact deleted id (same ▸ isStored)
      · have isOld := kept other id same isStored
        rcases taken id isTaken with rfl | wasTaken
        · have isKey := tickets.keyed other _ isOld
          rw [tickets.asked caller requestId build isWaiting] at isKey
          exact same (Option.some.inj isKey).symm
        · exact tickets.stored other id isOld wasTaken
    waiting := fun other otherId found isOther isTaken => by
      rcases update_eq_cases isOther with
        ⟨-, isOther⟩ | ⟨different, isOther⟩
      · cases isOther
      · rcases taken _ isTaken with isSame | wasTaken
        · have leaves := alone other different
          rw [isOther] at leaves
          exact leaves isSame
        · exact tickets.waiting other otherId found isOther wasTaken
    single := fun first second id isFirst isSecond => by
      rcases update_cases isFirst with ⟨firstSame, ofFirst⟩ | ⟨-, ofFirst⟩ <;>
        rcases update_cases isSecond with ⟨secondSame, ofSecond⟩ | ⟨-, ofSecond⟩
      · exact firstSame.trans secondSame.symm
      · rw [← Option.some.inj ofFirst] at ofSecond
        exact (untaken (Or.inr ⟨second, ofSecond⟩)).elim
      · rw [← Option.some.inj ofSecond] at ofFirst
        exact (untaken (Or.inr ⟨first, ofFirst⟩)).elim
      · exact tickets.single first second id ofFirst ofSecond
    unbooked := fun other id isClaim isBooked => by
      rcases update_cases isClaim with ⟨-, isClaim⟩ | ⟨-, isClaim⟩
      · rw [← Option.some.inj isClaim] at isBooked
        exact untaken (Or.inl isBooked)
      · exact tickets.unbooked other id isClaim isBooked
    once := tickets.once
    used := tickets.used }

theorem Tickets.book (tickets : Tickets desk phases) {build : ℕ}
    (isClaim : (phases caller).claim = some build) (trades : List Trade) :
    Tickets (desk.write build trades) (Function.update phases caller .idle) := by
  have taken : ∀ id, Taken (desk.write build trades) (Function.update phases caller .idle) id →
      Taken desk phases id := by
    rintro id (isBooked | ⟨other, isOther⟩)
    · rcases List.mem_cons.mp isBooked with rfl | older
      · exact Or.inr ⟨caller, isClaim⟩
      · exact Or.inl older
    · rcases update_cases isOther with ⟨-, isOther⟩ | ⟨-, isOther⟩
      · cases isOther
      · exact Or.inr ⟨other, isOther⟩
  have dropped := @Tickets.drop _ _ caller tickets
  exact {
    built := dropped.built
    keyed := tickets.keyed
    asked := dropped.asked
    stored := fun requestId id isStored isTaken =>
      tickets.stored requestId id isStored (taken id isTaken)
    waiting := fun other requestId found isWaiting isTaken => by
      rcases update_eq_cases isWaiting with
        ⟨-, isWaiting⟩ | ⟨-, isWaiting⟩
      · cases isWaiting
      · exact tickets.waiting other requestId found isWaiting (taken _ isTaken)
    single := dropped.single
    unbooked := fun other id isOther isBooked => by
      rcases update_cases isOther with ⟨-, isOther⟩ | ⟨different, isOther⟩
      · cases isOther
      · rcases List.mem_cons.mp isBooked with rfl | older
        · exact different (tickets.single other caller _ isOther isClaim)
        · exact tickets.unbooked other id isOther older
    once := List.nodup_cons.mpr ⟨tickets.unbooked caller build isClaim, tickets.once⟩
    used := fun id member => by
      rcases List.mem_cons.mp member with rfl | older
      · exact tickets.lt_of_taken (Or.inr ⟨caller, isClaim⟩)
      · exact tickets.used id older }

end Moves

/-! ### Rows -/

theorem Matched.start : Matched desk fun _ => .idle :=
  fun _ _ _ isMatched => Phase.noConfusion isMatched

theorem Matched.move (matched : Matched desk phases) {caller : ℕ} {phase : Phase}
    (unmatched : ∀ build found, phase ≠ .matched build found) :
    Matched desk (Function.update phases caller phase) := by
  intro other build found isMatched
  rcases update_eq_cases isMatched with ⟨-, isPhase⟩ | ⟨-, isPhase⟩
  · exact (unmatched build found isPhase).elim
  · exact matched other build found isPhase

theorem Matched.trades (matched : Matched desk phases) {later : Desk}
    (kept : ∀ (id : ℕ) (row : Trade), desk.trades[id]? = some row →
      ∃ next : Trade, later.trades[id]? = some next ∧ next.userId = row.userId ∧
        next.pair = row.pair) : Matched later phases := by
  intro caller build found isMatched
  obtain ⟨row, isRow, userId, pair⟩ := matched caller build found isMatched
  obtain ⟨next, isNext, sameUser, samePair⟩ := kept found.id row isRow
  exact ⟨next, isNext, sameUser.trans userId, samePair.trans pair⟩

theorem kept_append (row : Trade) (id : ℕ) (old : Trade) (isOld : desk.trades[id]? = some old) :
    ∃ next, (desk.trades ++ [row])[id]? = some next ∧ next.userId = old.userId ∧
      next.pair = old.pair := by
  rw [List.getElem?_append_left (List.getElem?_eq_some_iff.mp isOld).1]
  exact ⟨old, isOld, rfl, rfl⟩

theorem kept_set {position : ℕ} {row : Trade} (isRow : desk.trades[position]? = some row)
    (patch : TradePatch) (id : ℕ) (old : Trade) (isOld : desk.trades[id]? = some old) :
    ∃ next, (desk.trades.set position (patch.apply row))[id]? = some next ∧
      next.userId = old.userId ∧ next.pair = old.pair := by
  by_cases same : position = id
  · subst same
    rw [List.getElem?_set_self (List.getElem?_eq_some_iff.mp isRow).1]
    rw [isRow] at isOld
    cases isOld
    exact ⟨_, rfl, rfl, rfl⟩
  · rw [List.getElem?_set_ne same]
    exact ⟨old, isOld, rfl, rfl⟩

theorem findOpen_some {userId pair : String} {trades : List Trade} {found : Stored Trade}
    (isFound : findOpen userId pair trades = some found) :
    trades[found.id]? = some found.row ∧ found.row.userId = userId ∧ found.row.pair = pair := by
  obtain ⟨position, bound, isStored⟩ := List.mem_mapIdx.mp (List.mem_of_find?_eq_some isFound)
  have holds := List.find?_some isFound
  obtain ⟨sameUser, samePair, -⟩ := of_decide_eq_true holds
  rw [← isStored]
  rw [← isStored] at sameUser samePair
  exact ⟨List.getElem?_eq_getElem bound, sameUser, samePair⟩

/-! ### Steps -/

/-- Builds and rows are in order. -/
structure InOrder (moment : Moment venue) : Prop where
  tickets : Tickets moment.state (lane.phase moment)
  matched : Matched moment.state (lane.phase moment)

theorem inOrder_after {step : Step venue}
    (tickets : Tickets step.after.state (Function.update (lane.phase step.before) step.caller
      (lane.next (lane.phase step.before step.caller) step.op step.reply)))
    (matched : Matched step.after.state (Function.update (lane.phase step.before) step.caller
      (lane.next (lane.phase step.before step.caller) step.op step.reply))) :
    InOrder step.after := by
  constructor
  · rw [Protocol.phases_after]
    exact tickets
  · rw [Protocol.phases_after]
    exact matched

theorem inOrder_still {step : Step venue}
    (phase : lane.next (lane.phase step.before step.caller) step.op step.reply =
      lane.phase step.before step.caller)
    (tickets : Tickets step.after.state (lane.phase step.before))
    (matched : Matched step.after.state (lane.phase step.before)) : InOrder step.after := by
  refine inOrder_after ?_ ?_
  · rw [phase, Function.update_eq_self]
    exact tickets
  · rw [phase, Function.update_eq_self]
    exact matched

theorem openSubmit_state (opts : SubmitOptions) (decoded : Bool) (now : ℕ) (desk : Desk) :
    (desk.openSubmit opts decoded now).1 = desk.prune now := by
  unfold Desk.openSubmit
  dsimp only
  split
  · rfl
  · split_ifs <;> rfl

theorem openSubmit_ok {opts : SubmitOptions} {decoded : Bool} {now : ℕ} {desk : Desk}
    {build : Stored BuildContext} (isOk : (desk.openSubmit opts decoded now).2 = .ok build) :
    (desk.prune now).findBuild opts.requestId = some build := by
  unfold Desk.openSubmit at isOk
  dsimp only at isOk
  split at isOk
  · cases isOk
  · next found isFound =>
    split_ifs at isOk
    rw [isFound, Except.ok.inj isOk]

theorem findBuild_some {requestId : String} {desk : Desk} {build : Stored BuildContext}
    (isFound : desk.findBuild requestId = some build) :
    desk.builds requestId = some build.id ∧ IsBuilt desk build := by
  obtain ⟨id, isStored, isRead⟩ := Option.bind_eq_some_iff.mp isFound
  obtain ⟨built, isBuilt, rfl⟩ := Option.map_eq_some_iff.mp isRead
  refine ⟨isStored, ?_⟩
  show (desk.built[id]?).map Built.context = some built.context
  rw [isBuilt]
  rfl

section Steps

variable {before : Moment venue} {caller : ℕ}

/-- A build that is found waits for an answer. -/
theorem relay_keeps (inOrder : InOrder before) {opts : SubmitOptions} {decoded : Bool}
    (now : ℕ) : InOrder (Step.mk before caller (.submitJupiterExecute opts decoded) now).after := by
  have pruned := inOrder.tickets.prune now
  have matched : Matched (before.state.prune now) (lane.phase before) := inOrder.matched
  have state : (Step.mk before caller (.submitJupiterExecute opts decoded) now).after.state =
      before.state.prune now := openSubmit_state opts decoded now before.state
  cases isReply : (before.state.openSubmit opts decoded now).2 with
  | error message =>
    have reply : (Step.mk before caller (.submitJupiterExecute opts decoded) now).reply =
        .error message := isReply
    refine inOrder_still (by rw [reply]; rfl) ?_ ?_
    · rw [state]
      exact pruned
    · rw [state]
      exact matched
  | ok build =>
    have reply : (Step.mk before caller (.submitJupiterExecute opts decoded) now).reply =
        .ok build := isReply
    obtain ⟨isStored, isBuilt⟩ := findBuild_some (openSubmit_ok isReply)
    refine inOrder_after ?_ ?_
    · rw [state, reply]
      refine pruned.move (fun other isOther => ?_) (fun requestId other isOther => ?_)
        fun _ isClaim => by cases isClaim
      · rw [← Option.some.inj isOther]
        exact isBuilt
      · cases isOther
        exact ⟨pruned.keyed opts.requestId build.id isStored,
          pruned.stored opts.requestId build.id isStored⟩
    · rw [state, reply]
      exact matched.move fun _ _ => Phase.noConfusion

theorem hear_keeps (inOrder : InOrder before) {requestId : String}
    {answer : Except String ExecuteReply}
    (permitted : lane.permits (lane.phase before caller) (.hearExecute requestId))
    (orderly : (heardSignature answer).isOk = true →
      Alone before caller (lane.phase before caller)) :
    InOrder (Step.mk before caller (.hearExecute requestId) answer).after := by
  obtain ⟨build, isWaiting⟩ := permitted
  have matched : Matched (before.state.deleteBuild requestId) (lane.phase before) := inOrder.matched
  cases isAnswer : heardSignature answer with
  | error message =>
    have performed : perform (.hearExecute requestId) answer before.state =
        (before.state, .error message) := by
      simp only [perform, isAnswer]
    have state : (Step.mk before caller (.hearExecute requestId) answer).after.state =
        before.state := congrArg Prod.fst performed
    have reply : (Step.mk before caller (.hearExecute requestId) answer).reply = .error message :=
      congrArg Prod.snd performed
    refine inOrder_after ?_ ?_
    · rw [state, reply]
      exact inOrder.tickets.drop
    · rw [state, reply]
      exact inOrder.matched.move fun _ _ => Phase.noConfusion
  | ok signature =>
    have performed : perform (.hearExecute requestId) answer before.state =
        (before.state.deleteBuild requestId, .ok signature) := by
      simp only [perform, isAnswer]
    have state : (Step.mk before caller (.hearExecute requestId) answer).after.state =
        before.state.deleteBuild requestId := congrArg Prod.fst performed
    have reply : (Step.mk before caller (.hearExecute requestId) answer).reply = .ok signature :=
      congrArg Prod.snd performed
    have confirmed : lane.next (lane.phase before caller) (.hearExecute requestId)
        (.ok signature) = .confirmed build := by
      rw [isWaiting]
      rfl
    have alone : lane.Others before caller (Phase.leaves build) := by
      have isAlone := orderly (by rw [isAnswer]; rfl)
      rw [isWaiting] at isAlone
      exact isAlone
    refine inOrder_after ?_ ?_
    · rw [state, reply, confirmed]
      exact inOrder.tickets.confirm isWaiting fun other different => alone.apply trivial different
    · rw [state, reply, confirmed]
      exact matched.move fun _ _ => Phase.noConfusion

theorem find_keeps (inOrder : InOrder before) {userId pair : String}
    (permitted : lane.permits (lane.phase before caller) (.findOpenTrade userId pair))
    (delivery : Delivery) :
    InOrder (Step.mk before caller (.findOpenTrade userId pair) delivery).after := by
  obtain ⟨build, isConfirmed, rfl, rfl⟩ := permitted
  cases delivery with
  | answered =>
    cases isFound : findOpen build.row.userId build.row.pair before.state.trades with
    | none =>
      have reply : (Step.mk before caller (.findOpenTrade build.row.userId build.row.pair)
          Delivery.answered).reply = .ok none := congrArg Except.ok isFound
      exact inOrder_still (by rw [reply]; rfl) inOrder.tickets inOrder.matched
    | some found =>
      have reply : (Step.mk before caller (.findOpenTrade build.row.userId build.row.pair)
          Delivery.answered).reply = .ok (some found) := congrArg Except.ok isFound
      have matched : lane.next (lane.phase before caller)
          (.findOpenTrade build.row.userId build.row.pair) (.ok (some found)) =
            .matched build found := by
        rw [isConfirmed]
        rfl
      refine inOrder_after ?_ ?_
      · rw [reply, matched]
        refine inOrder.tickets.move (fun other isOther => ?_)
          (fun _ _ isOther => by cases isOther) fun id isClaim => ?_
        · rw [← Option.some.inj isOther]
          exact inOrder.tickets.built caller build (by rw [isConfirmed]; rfl)
        · rw [isConfirmed]
          exact isClaim
      · rw [reply, matched]
        intro other otherBuild otherFound isMatched
        rcases update_eq_cases isMatched with ⟨-, isPhase⟩ | ⟨-, isPhase⟩
        · cases isPhase
          obtain ⟨isRow, sameUser, samePair⟩ := findOpen_some isFound
          exact ⟨found.row, isRow, sameUser, samePair⟩
        · exact inOrder.matched other otherBuild otherFound isPhase
  | refused message => exact inOrder_still rfl inOrder.tickets inOrder.matched
  | lost message => exact inOrder_still rfl inOrder.tickets inOrder.matched

/-- A write that may have taken effect. -/
theorem write_keeps (inOrder : InOrder before) {op : Op} {fate : Fate op} {id : ℕ}
    {trades : List Trade} (claim : (lane.phase before caller).claim = some id)
    (ends : lane.next (lane.phase before caller) op (Step.mk before caller op fate).reply = .idle)
    (written : (Step.mk before caller op fate).after.state = before.state ∨
      (Step.mk before caller op fate).after.state = before.state.write id trades)
    (kept : ∀ (position : ℕ) (row : Trade), before.state.trades[position]? = some row →
      ∃ next : Trade, trades[position]? = some next ∧ next.userId = row.userId ∧
        next.pair = row.pair) :
    InOrder (Step.mk before caller op fate).after := by
  have moved : Matched before.state (Function.update (lane.phase before) caller .idle) :=
    inOrder.matched.move fun _ _ => Phase.noConfusion
  rcases written with same | changed
  · refine inOrder_after ?_ ?_
    · rw [same, ends]
      exact inOrder.tickets.drop
    · rw [same, ends]
      exact moved
  · refine inOrder_after ?_ ?_
    · rw [changed, ends]
      exact inOrder.tickets.book claim trades
    · rw [changed, ends]
      exact moved.trades kept

theorem write_cases (delivery : Delivery) (first second : Desk) (row : Stored Trade) :
    (delivery.write first second row).1 = first ∨ (delivery.write first second row).1 = second := by
  unfold Delivery.write
  split
  · exact Or.inr rfl
  · exact Or.inl rfl

theorem create_keeps (inOrder : InOrder before) {id : ℕ} {row : Trade}
    (permitted : lane.permits (lane.phase before caller) (.createTrade id row))
    (delivery : Delivery) :
    InOrder (Step.mk before caller (.createTrade id row) delivery).after := by
  obtain ⟨build, isConfirmed, rfl, -⟩ := permitted
  have claim : (lane.phase before caller).claim = some build.id := by
    rw [isConfirmed]
    rfl
  have written := write_cases delivery before.state
    (before.state.write build.id (before.state.trades ++ [row])) ⟨before.state.trades.length, row⟩
  exact write_keeps inOrder claim rfl written (kept_append row)

theorem update_keeps (inOrder : InOrder before) {id position : ℕ} {patch : TradePatch}
    (permitted : lane.permits (lane.phase before caller) (.updateTrade id position patch))
    (delivery : Delivery) :
    InOrder (Step.mk before caller (.updateTrade id position patch) delivery).after := by
  obtain ⟨build, found, isMatched, rfl, rfl, -, -⟩ := permitted
  have claim : (lane.phase before caller).claim = some build.id := by
    rw [isMatched]
    rfl
  obtain ⟨row, isRow, -⟩ := inOrder.matched caller build found isMatched
  refine write_keeps inOrder claim rfl ?_ (kept_set isRow patch)
  show (perform (.updateTrade build.id found.id patch) delivery before.state).1 = _ ∨
    (perform (.updateTrade build.id found.id patch) delivery before.state).1 = _
  have performed : perform (.updateTrade build.id found.id patch) delivery before.state =
      delivery.write before.state (before.state.write build.id
        (before.state.trades.set found.id (patch.apply row))) ⟨found.id, patch.apply row⟩ := by
    simp only [perform, isRow]
  rw [performed]
  exact write_cases delivery _ _ _

end Steps

theorem inOrder_step {web3 : Web3} (step : Step venue)
    (permitted : lane.permits (lane.phase step.before step.caller) step.op)
    (orderly : Orderly web3 step) (inOrder : InOrder step.before) : InOrder step.after := by
  obtain ⟨before, caller, op, fate⟩ := step
  cases op with
  | storeBuild built =>
    exact inOrder_still rfl ((inOrder.tickets.prune fate).storeBuild _) inOrder.matched
  | submitJupiterExecute opts decoded => exact relay_keeps inOrder fate
  | hearExecute requestId => exact hear_keeps inOrder permitted orderly
  | findOpenTrade userId pair => exact find_keeps inOrder permitted fate
  | createTrade id row => exact create_keeps inOrder permitted fate
  | updateTrade id position patch => exact update_keeps inOrder permitted fate
  | _ => exact inOrder_still rfl inOrder.tickets inOrder.matched

theorem exact_of_handed {web3 : Web3} {desk : Desk} {signedTransaction : String}
    {build : Stored BuildContext} (handed : Handed web3 desk signedTransaction build) :
    Exact web3 desk build.id signedTransaction := by
  obtain ⟨built, isBuilt, isSigned⟩ := (Option.any_eq_true _ _).mp handed
  refine (Option.any_eq_true _ _).mpr ⟨built, isBuilt, decide_eq_true ?_⟩
  rw [of_decide_eq_true isSigned]
  exact web3.deserialize_sign _ _

theorem stepSound_step {web3 : Web3} (step : Step venue)
    (permitted : lane.permits (lane.phase step.before step.caller) step.op)
    (orderly : Orderly web3 step) (inOrder : InOrder step.before) : StepSound web3 step := by
  obtain ⟨before, caller, op, fate⟩ := step
  constructor
  · rintro opts decoded build isRelay isWaiting
    obtain rfl : op = .submitJupiterExecute opts decoded := isRelay
    have isIdle : lane.phase before caller = .idle := permitted
    rw [Protocol.phase_after_self] at isWaiting
    cases isReply : (before.state.openSubmit opts decoded fate).2 with
    | error message =>
      have reply : (Step.mk before caller (.submitJupiterExecute opts decoded) fate).reply =
          .error message := isReply
      rw [reply] at isWaiting
      exact absurd (isIdle.symm.trans isWaiting) Phase.noConfusion
    | ok found =>
      have reply : (Step.mk before caller (.submitJupiterExecute opts decoded) fate).reply =
          .ok found := isReply
      rw [reply] at isWaiting
      cases isWaiting
      have handed : Handed web3 before.state opts.signedTransaction build := by
        unfold Orderly at orderly
        dsimp only at orderly
        rw [isReply] at orderly
        exact orderly
      exact exact_of_handed handed
  · rintro id row isCreate
    obtain rfl : op = .createTrade id row := isCreate
    obtain ⟨build, isConfirmed, rfl, creates⟩ := permitted
    exact ⟨build.row, inOrder.tickets.built caller build (by rw [isConfirmed]; rfl), creates⟩
  · rintro id position patch isUpdate
    obtain rfl : op = .updateTrade id position patch := isUpdate
    obtain ⟨build, found, isMatched, rfl, rfl, side, isPatch⟩ := permitted
    obtain ⟨later, isLater, sameUser, samePair⟩ := inOrder.matched caller build found isMatched
    exact ⟨build.row, inOrder.tickets.built caller build (by rw [isMatched]; rfl), side, found.row,
      later, isPatch, isLater, sameUser, samePair⟩

/-- In an orderly run what is relayed and what is booked is what was built, and is booked at most
once, whatever is interleaved. -/
theorem relaysExactly_of_orderly (web3 : Web3) (configured : Bool) (requests : List Request)
    (turns : List (Turn venue))
    (orderly : ∀ step ∈ (browserSystem web3 configured requests).steps turns,
      Orderly web3 step) :
    (∀ step ∈ (browserSystem web3 configured requests).steps turns, StepSound web3 step) ∧
      ∀ id, ((browserSystem web3 configured requests).run turns).moment.state.booked.count id ≤ 1 := by
  have allowed : ∀ step ∈ (browserSystem web3 configured requests).steps turns,
      lane.permits (lane.phase step.before step.caller) step.op ∧ Orderly web3 step :=
    fun step member =>
      ⟨permits_of_mem_steps web3 configured requests turns step member, orderly step member⟩
  have start : InOrder (browserSystem web3 configured requests).moment := ⟨Tickets.start, Matched.start⟩
  obtain ⟨inOrder, sound⟩ := Async.System.run_keeps (fun step holds both =>
    ⟨stepSound_step step both.1 both.2 holds, inOrder_step step both.1 both.2 holds⟩)
    start turns allowed
  exact ⟨sound, fun id => List.nodup_iff_count_le_one.mp inOrder.tickets.once id⟩

/-! ### Runs -/

instance (web3 : Web3) (desk : Desk) (signedTransaction : String) (build : Stored BuildContext) :
    Decidable (Handed web3 desk signedTransaction build) := inferInstanceAs (Decidable (_ = true))

instance (build : Stored BuildContext) : DecidablePred (Phase.leaves build)
  | .waiting _ _ => inferInstanceAs (Decidable (_ ≠ _))
  | .idle | .confirmed _ | .matched _ _ => inferInstanceAs (Decidable True)

instance (before : Moment venue) (caller : ℕ) (phase : Phase) :
    Decidable (Alone before caller phase) :=
  match phase with
  | .waiting _ build => inferInstanceAs (Decidable (lane.Others before caller (Phase.leaves build)))
  | .idle | .confirmed _ | .matched _ _ => inferInstanceAs (Decidable True)

instance (web3 : Web3) (step : Step venue) : Decidable (Orderly web3 step) := by
  unfold Orderly
  split
  · split <;> infer_instance
  · infer_instance
  · infer_instance

/-- A format of signed transactions: the length of the signer's address in unary, the address, and
the message. -/
def plainDeserialize (bytes : String) : Option Transaction :=
  let size := (bytes.toList.takeWhile (· = '1')).length
  match bytes.toList.drop size with
  | [] => none
  | _ :: rest => some ⟨String.ofList (rest.drop size), String.ofList (rest.take size)⟩

def plainSign (owner transaction : String) : String :=
  String.ofList (List.replicate owner.toList.length '1' ++
    '0' :: (owner.toList ++ transaction.toList))

theorem plainDeserialize_sign (owner transaction : String) :
    plainDeserialize (plainSign owner transaction) = some ⟨transaction, owner⟩ := by
  have size : ((List.replicate owner.toList.length '1' ++
      '0' :: (owner.toList ++ transaction.toList)).takeWhile (· = '1')).length =
        owner.toList.length := by
    rw [List.takeWhile_append_of_pos (by simp), List.takeWhile_cons_of_neg (by decide),
      List.append_nil, List.length_replicate]
  have dropped : (List.replicate owner.toList.length '1' ++
      '0' :: (owner.toList ++ transaction.toList)).drop owner.toList.length =
        '0' :: (owner.toList ++ transaction.toList) :=
    List.drop_left' List.length_replicate
  unfold plainDeserialize plainSign
  dsimp only
  rw [String.toList_ofList, size, dropped]
  dsimp only
  rw [List.drop_left, List.take_left, String.ofList_toList, String.ofList_toList]

/-- Transactions in that format. -/
def plain : Web3 where
  publicKey := some
  deserialize := plainDeserialize
  message := id
  sign := plainSign
  deserialize_sign := plainDeserialize_sign

/-- Everything answers: Solana is tradable, the wallet holds 100 USDC and a SOL, and Jupiter
executes what it is given. -/
def fine : (op : Op) → Fate op
  | .getJupiterTradableToken _ => .ok (some ⟨"SOLUSDT", "SOL", "solana", 9⟩)
  | .listSolanaHoldingsForOwner _ =>
    .ok [⟨Jupiter.solUsdcMint, 100, 6⟩, ⟨Jupiter.solNativeMint, 1, 9⟩]
  | .fetchJupiterPricesV3 _ => .ok (some 100)
  | .getJupiterOrder _ => .ok ⟨⟨some "transaction", "request", some 50000000, 500000000⟩, none⟩
  | .storeBuild _ => (1000 : ℕ)
  | .submitJupiterExecute _ _ => (2000 : ℕ)
  | .hearExecute _ => .ok ⟨true, 200, some "Success", none, none, some "signature"⟩
  | .ensureSelfCustodyStrategyId => Delivery.answered
  | .findOpenTrade _ _ => Delivery.answered
  | .createTrade _ _ => Delivery.answered
  | .updateTrade _ _ _ => Delivery.answered

def turnsOf (caller count : ℕ) : List (Turn venue) := List.replicate count ⟨caller, fine⟩

def fiftyUsdc : Request := .build ⟨"user", "wallet", .buy, "SOLUSDT", 50, none, none⟩

def submitSigned (signedTransaction : String) : Request :=
  .submit ⟨"user", "request", signedTransaction⟩

/-- A build, and the submission of what the wallet has signed. -/
theorem relaysExactly_of_orderly_swap :
    (∀ step ∈ (browserSystem plain true
        [fiftyUsdc, submitSigned (plainSign "wallet" "transaction")]).steps
        (turnsOf 0 8 ++ turnsOf 1 5), StepSound plain step) ∧
      ∀ id, ((browserSystem plain true
        [fiftyUsdc, submitSigned (plainSign "wallet" "transaction")]).run
        (turnsOf 0 8 ++ turnsOf 1 5)).moment.state.booked.count id ≤ 1 :=
  relaysExactly_of_orderly plain true _ _ (by decide +kernel)

/-- A step relays something else than was built. -/
def Substitutes (web3 : Web3) (step : Step venue) : Bool :=
  match step.op, lane.phase step.after step.caller with
  | .submitJupiterExecute opts _, .waiting requestId build =>
    requestId = opts.requestId ∧ ¬ (step.before.state.built[build.id]?).any (fun built =>
      web3.deserialize opts.signedTransaction =
        some ⟨web3.message built.transaction, built.context.owner⟩)
  | _, _ => false

theorem not_stepSound_of_substitutes {web3 : Web3} {step : Step venue}
    (substitutes : Substitutes web3 step = true) : ¬ StepSound web3 step := by
  intro sound
  unfold Substitutes at substitutes
  split at substitutes
  · next opts decoded requestId build isRelay isWaiting =>
    obtain ⟨rfl, inexact⟩ := of_decide_eq_true substitutes
    exact inexact (sound.relayed opts decoded build isRelay isWaiting)
  · cases substitutes

/-- The wallet signs another transaction. -/
theorem not_relaysExactly : ¬ ∀ (web3 : Web3) (configured : Bool) (requests : List Request)
    (turns : List (Turn venue)),
    (∀ step ∈ (browserSystem web3 configured requests).steps turns, StepSound web3 step) ∧
      ∀ id, ((browserSystem web3 configured requests).run turns).moment.state.booked.count id ≤ 1 := by
  intro always
  have sound := (always plain true [fiftyUsdc, submitSigned (plainSign "wallet" "another")]
    (turnsOf 0 8 ++ turnsOf 1 5)).1
  have found : ((browserSystem plain true
      [fiftyUsdc, submitSigned (plainSign "wallet" "another")]).steps
      (turnsOf 0 8 ++ turnsOf 1 5)).any (Substitutes plain) = true := by decide +kernel
  obtain ⟨step, member, substitutes⟩ := List.any_eq_true.mp found
  exact not_stepSound_of_substitutes substitutes (sound step member)

end GdslExchange.JupiterBrowser
