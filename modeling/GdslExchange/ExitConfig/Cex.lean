/-
This file models the exit settings of the CEX and settles when a change of one of them changes
only that one, and exits are evaluated with what is persisted.

The settings are in a table with a cache of 30 seconds in front of it. A change reads like
everybody else, merges, and writes the whole row; a read that fails falls back on an entry that
has expired or on the defaults. Nothing compares the row that is overwritten with the one that
was read.
-/

import GdslExchange.Async.Delivery
import GdslExchange.Async.Protocol
import GdslExchange.ExitConfig.Settings

namespace GdslExchange.ExitConfig.Cex

open Async Async.Program
open Protocol (anywhere ends)

def cexExitDefaults (takeProfitPct stopLossPct : ℚ) : ExitSettings where
  enabled := true
  takeProfitPct := clampPct takeProfitPct (2 / 10) 50
  stopLossPct := clampPct stopLossPct (2 / 10) 50
  profitSkim := false
  trailingStop := false
  trailingActivationPct := 8 / 10
  trailingDeltaPct := 4 / 10

/-- The service under the two settings of its environment. -/
def exitService (takeProfitPct stopLossPct : ℚ) : ExitConfig.Service :=
  ⟨2 / 10, cexExitDefaults takeProfitPct stopLossPct⟩

/-! ### The table and the cache -/

/-- Settings that a call has, and how often the row had been written when they were taken from
it, if they were. The number is not in the source: it says what the settings are a copy of. -/
structure Copy where
  settings : ExitSettings
  version : Option ℕ

/-- An entry of `cache`. -/
structure Entry where
  setAt : ℕ
  copy : Copy

def CACHE_TTL_MS : ℕ := 30000

def Entry.Fresh (now : ℕ) (entry : Entry) : Prop := now < entry.setAt + CACHE_TTL_MS

instance (now : ℕ) (entry : Entry) : Decidable (entry.Fresh now) :=
  inferInstanceAs (Decidable (_ < _))

/-- The rows, how often each was written since the start, and the cache of the process. -/
structure Desk where
  rows : String → Option ExitSettings
  writes : String → ℕ
  cache : String → Option Entry

/-- A row as it was found, and how often it had been written. -/
structure Found where
  row : Option ExitSettings
  version : ℕ

/-- Who asks for settings: a watcher that evaluates exits, or a route. -/
inductive Reader where
  | watcher
  | route
deriving DecidableEq

inductive Op where
  /-- `cache.get` and the time. -/
  | peek (userId : String) (reader : Reader)
  | findRow (userId : String)
  /-- What `getCexExitSettings` does with the answer of the table. -/
  | settle (userId : String) (reader : Reader) (hit : Option Copy) (answer : Except String Found)
  /-- The upsert of what a change makes of the settings before it. -/
  | upsert (userId : String) (raw : PartialExitSettings) (prev : Copy)
  /-- `cache.set` of what was written. -/
  | remember (userId : String) (next : Copy)

/-- What `peek` finds. -/
structure Peek where
  hit : Option Entry
  now : ℕ

def Peek.fresh (peek : Peek) : Option Copy :=
  (peek.hit.filter (·.Fresh peek.now)).map Entry.copy

abbrev Result : Op → Type
  | .peek _ _ => Peek
  | .findRow _ => Found
  | .settle _ _ _ _ => Copy
  | .upsert _ _ _ => ℕ
  | .remember _ _ => Unit

/-- The time it is, or what becomes of a query. -/
abbrev Fate : Op → Type
  | .peek _ _ => ℕ
  | .findRow _ => Delivery
  | .settle _ _ _ _ => ℕ
  | .upsert _ _ _ => Delivery
  | .remember _ _ => ℕ

variable (service : ExitConfig.Service)

/-- The settings that a row stands for, or the defaults. -/
def Found.copy (found : Found) : Copy :=
  ⟨(found.row.map service.ofRow).getD service.defaults, some found.version⟩

/-- What `getCexExitSettings` returns once the table has answered. -/
def settled (hit : Option Copy) : Except String Found → Copy
  | .ok found => found.copy service
  | .error _ => hit.getD ⟨service.defaults, none⟩

def Desk.write (desk : Desk) (userId : String) (next : ExitSettings) : Desk :=
  { desk with
    rows := Function.update desk.rows userId (some next)
    writes := Function.update desk.writes userId (desk.writes userId + 1) }

def Desk.keep (desk : Desk) (userId : String) (entry : Entry) : Desk :=
  { desk with cache := Function.update desk.cache userId (some entry) }

def perform : (op : Op) → Fate op → Desk → Desk × Except String (Result op)
  | .peek userId _, now, desk => (desk, .ok ⟨desk.cache userId, now⟩)
  | .findRow userId, delivery, desk => delivery.read desk ⟨desk.rows userId, desk.writes userId⟩
  | .settle userId _ hit answer, now, desk =>
    (match answer with
      | .ok found => desk.keep userId ⟨now, found.copy service⟩
      | .error _ => desk,
      .ok (settled service hit answer))
  | .upsert userId raw prev, delivery, desk =>
    delivery.write desk (desk.write userId (service.merge raw prev.settings))
      (desk.writes userId + 1)
  | .remember userId next, now, desk => (desk.keep userId ⟨now, next⟩, .ok ())

/-- The outside world of the service. -/
@[reducible] def store : Async.Service where
  State := Desk
  Op := Op
  Result := Result
  Failure := String
  Fate := Fate
  perform := perform service

abbrev Call (Value : Type) : Type := Program (store service) Value

def await (op : Op) : Call service (Result op) := @Program.perform (store service) op

/-! ### The calls -/

def getCexExitSettings (reader : Reader) (userId : String) : Call service Copy := do
  let peek ← await service (.peek userId reader)
  match peek.fresh with
  | some copy => pure copy
  | none =>
    let hit := peek.hit.map Entry.copy
    let answer ← recover (do
        let found ← await service (.findRow userId)
        pure (Except.ok found))
      fun message => pure (Except.error message)
    await service (.settle userId reader hit answer)

def setCexExitSettings (userId : String) (raw : PartialExitSettings) :
    Call service ExitSettings := do
  let prev ← getCexExitSettings service .route userId
  let version ← await service (.upsert userId raw prev)
  let next := service.merge raw prev.settings
  await service (.remember userId ⟨next, some version⟩)
  pure next

inductive Request where
  | get (reader : Reader) (userId : String)
  | set (userId : String) (raw : PartialExitSettings)

def Request.call : Request → Call service Unit
  | get reader userId => do
    let _ ← getCexExitSettings service reader userId
  | set userId raw => do
    let _ ← setCexExitSettings service userId raw

/-- A process that has just started, with the rows that there are and the requests of a run. -/
def cexSystem (rows : String → Option ExitSettings) (requests : List Request) :
    Async.System (store service) Unit :=
  ⟨⟨⟨rows, fun _ => 0, fun _ => none⟩, []⟩, requests.map (·.call service)⟩

/-! ### Phases -/

/-- The settings that a call holds. -/
inductive Phase where
  | idle
  | missed (userId : String) (hit : Option Copy)
  | found (userId : String) (hit : Option Copy) (answer : Except String Found)
  | ready (userId : String) (copy : Copy)
  | written (userId : String) (copy : Copy)

def lane : Protocol (store service) Phase where
  start := .idle
  permits phase
    | .peek _ _ => True
    | .findRow userId => ∃ hit, phase = .missed userId hit
    | .settle userId _ hit answer => phase = .found userId hit answer
    | .upsert userId _ prev => phase = .ready userId prev
    | .remember userId next => phase = .written userId next
  next
    | _, .peek userId _, .ok peek =>
      match peek.fresh with
      | some copy => .ready userId copy
      | none => .missed userId (peek.hit.map Entry.copy)
    | .missed userId hit, .findRow _, reply => .found userId hit reply
    | _, .settle userId _ _ _, .ok copy => .ready userId copy
    | _, .upsert userId raw prev, .ok version =>
      .written userId ⟨service.merge raw prev.settings, some version⟩
    | _, _, _ => .idle

variable {service}

theorem getCexExitSettings_follows (reader : Reader) (userId : String) (phase : Phase) :
    (lane service).Follows phase (getCexExitSettings service reader userId)
      (ends (fun copy reached => reached = .ready userId copy) fun _ => True) := by
  refine ⟨trivial, fun reply => ?_⟩
  cases reply with
  | error message => trivial
  | ok peek =>
    show (lane service).Follows (match peek.fresh with
      | some copy => .ready userId copy
      | none => .missed userId (peek.hit.map Entry.copy)) (match peek.fresh with
      | some copy => pure copy
      | none => _) _
    cases peek.fresh with
    | some copy => exact rfl
    | none =>
      refine ⟨⟨_, rfl⟩, fun answer => ?_⟩
      have settling (known : Except String Found) :
          (lane service).Follows (.found userId (peek.hit.map Entry.copy) known)
            (await service (.settle userId reader (peek.hit.map Entry.copy) known))
            (ends (fun copy reached => reached = .ready userId copy) fun _ => True) :=
        Protocol.Follows.perform rfl (fun _ => rfl) fun _ => trivial
      cases answer with
      | ok found => exact settling (.ok found)
      | error message => exact settling (.error message)

theorem setCexExitSettings_follows (userId : String) (raw : PartialExitSettings) (phase : Phase) :
    (lane service).Follows phase (setCexExitSettings service userId raw) anywhere := by
  refine Protocol.Follows.bind (getCexExitSettings_follows .route userId phase)
    fun prev reached same => ?_
  rw [same]
  refine Protocol.Follows.moves
    (fun version => .written userId ⟨service.merge raw prev.settings, some version⟩) rfl
    (fun _ => rfl) (fun _ => trivial) fun version => ?_
  exact ⟨rfl, fun reply => by cases reply <;> trivial⟩

theorem call_follows (request : Request) (phase : Phase) :
    (lane service).Follows phase (request.call service) anywhere := by
  cases request with
  | get reader userId =>
    exact Protocol.Follows.bind (getCexExitSettings_follows reader userId phase)
      fun _ _ _ => trivial
  | set userId raw =>
    exact Protocol.Follows.bind (setCexExitSettings_follows userId raw phase) fun _ _ _ => trivial

theorem permits_of_mem_steps (rows : String → Option ExitSettings) (requests : List Request)
    (turns : List (Turn (store service))) :
    ∀ step ∈ (cexSystem service rows requests).steps turns,
      (lane service).permits ((lane service).phase step.before step.caller) step.op :=
  Protocol.permitted (System.each_call fun _ request => call_follows request _) turns

/-! ### What a run should keep -/

variable (service)

/-- The user and the settings that an operation has its caller work with: a watcher evaluates
exits with them, a change is merged into them and written. -/
def used : (op : Op) → Fate op → Desk → Option (String × Copy)
  | .peek userId .watcher, now, desk =>
    (Peek.fresh ⟨desk.cache userId, now⟩).map fun copy => (userId, copy)
  | .settle userId .watcher hit answer, _, _ => some (userId, settled service hit answer)
  | .upsert userId _ prev, delivery, _ => if delivery.Applies then some (userId, prev) else none
  | _, _, _ => none

/-- A watcher evaluates exits with the persisted settings of a user who has some, and a change
that takes effect leaves them as they were but for the fields that are given. -/
def Sound (step : Step (store service)) : Prop :=
  ∀ work ∈ used service step.op step.fate step.before.state,
    ∀ row ∈ step.before.state.rows work.1,
      match step.op with
      | .upsert userId raw _ => ∀ after ∈ step.after.state.rows userId,
        service.ofRow after = service.withGiven raw (service.ofRow row)
      | _ => work.2.settings = service.ofRow row

/-- What a caller works with is a copy of the row as it was last written, if there is a row. -/
def Orderly (step : Step (store service)) : Prop :=
  ∀ work ∈ used service step.op step.fate step.before.state,
    step.before.state.rows work.1 = none ∨
      work.2.version = some (step.before.state.writes work.1)

/-! ### The invariant -/

/-- Settings that are a copy of the row as it was last written are the ones it stands for. -/
def Copy.Genuine (desk : Desk) (userId : String) (copy : Copy) : Prop :=
  ∀ version ∈ copy.version, version ≤ desk.writes userId ∧
    (version = desk.writes userId → ∀ row ∈ desk.rows userId, copy.settings = service.ofRow row)

/-- The settings that a caller holds, and whose they are. -/
def Phase.held : Phase → Option (String × Copy)
  | idle => none
  | missed userId hit => hit.map fun copy => (userId, copy)
  | found userId hit answer => some (userId, settled service hit answer)
  | ready userId copy => some (userId, copy)
  | written userId copy => some (userId, copy)

structure Kept (moment : Moment (store service)) : Prop where
  cached : ∀ userId, ∀ entry ∈ moment.state.cache userId,
    entry.copy.Genuine service moment.state userId
  held : ∀ caller, ∀ pair ∈ ((lane service).phase moment caller).held service,
    pair.2.Genuine service moment.state pair.1

variable {service}

variable {desk : Desk} {userId : String} {copy : Copy}

/-! ### Genuine copies -/

/-- Copies stay genuine: a write of the row leaves all of them behind. -/
theorem genuine_write {writtenOf : String} (genuine : copy.Genuine service desk userId)
    (next : ExitSettings) :
    copy.Genuine service (desk.write writtenOf next) userId := by
  intro version isVersion
  obtain ⟨le, same⟩ := genuine version isVersion
  by_cases isWritten : userId = writtenOf
  · subst isWritten
    have isNext : (desk.write userId next).writes userId = desk.writes userId + 1 :=
      Function.update_self ..
    rw [isNext]
    exact ⟨Nat.le_succ_of_le le, fun isLast => absurd isLast (Nat.lt_succ_of_le le).ne⟩
  · have sameWrites : (desk.write writtenOf next).writes userId = desk.writes userId :=
      Function.update_of_ne isWritten ..
    have sameRow : (desk.write writtenOf next).rows userId = desk.rows userId :=
      Function.update_of_ne isWritten ..
    rw [sameWrites, sameRow]
    exact ⟨le, same⟩

theorem genuine_perform (genuine : copy.Genuine service desk userId) (op : Op) (fate : Fate op) :
    copy.Genuine service (perform service op fate desk).1 userId := by
  cases op with
  | settle otherUser reader hit answer => cases answer <;> exact genuine
  | upsert otherUser raw prev =>
    show copy.Genuine service (if fate.Applies then _ else desk) userId
    split
    · exact genuine_write genuine _
    · exact genuine
  | _ => exact genuine

theorem genuine_found (desk : Desk) (userId : String) :
    (Found.copy service ⟨desk.rows userId, desk.writes userId⟩).Genuine service desk userId := by
  rintro version ⟨⟩
  refine ⟨le_rfl, fun _ row isRow => ?_⟩
  have present : desk.rows userId = some row := isRow
  rw [present]
  rfl

theorem genuine_written (desk : Desk) (userId : String) (raw : PartialExitSettings)
    (prev : ExitSettings) :
    (Copy.mk (service.merge raw prev) (some (desk.writes userId + 1))).Genuine service
      (desk.write userId (service.merge raw prev)) userId := by
  rintro version ⟨⟩
  have isNext : (desk.write userId (service.merge raw prev)).writes userId =
      desk.writes userId + 1 := Function.update_self ..
  refine ⟨isNext.ge, fun _ row isRow => ?_⟩
  have isMerged : some (service.merge raw prev) = some row :=
    (Function.update_self userId _ desk.rows).symm.trans isRow
  rw [← Option.some.inj isMerged]
  exact (service.ofRow_merge raw prev).symm

theorem genuine_defaults (desk : Desk) (userId : String) :
    (Copy.mk service.defaults none).Genuine service desk userId := by
  rintro version ⟨⟩

theorem genuine_fresh {now : ℕ}
    (cached : ∀ entry ∈ desk.cache userId, entry.copy.Genuine service desk userId)
    (isFresh : Peek.fresh ⟨desk.cache userId, now⟩ = some copy) :
    copy.Genuine service desk userId := by
  obtain ⟨entry, isEntry, rfl⟩ := Option.map_eq_some_iff.mp isFresh
  exact cached entry (Option.filter_eq_some_iff.mp isEntry).1

/-! ### Steps -/

section Steps

variable {step : Step (store service)} (kept : Kept service step.before)
  (permitted : (lane service).permits ((lane service).phase step.before step.caller) step.op)

include kept permitted

theorem held_next : ∀ pair ∈ ((lane service).next ((lane service).phase step.before step.caller)
    step.op step.reply).held service, pair.2.Genuine service step.after.state pair.1 := by
  obtain ⟨before, caller, op, fate⟩ := step
  have held := kept.held caller
  cases op with
  | peek userId reader =>
    show ∀ pair ∈ Phase.held service (match Peek.fresh ⟨before.state.cache userId, fate⟩ with
      | some copy => .ready userId copy
      | none => .missed userId ((before.state.cache userId).map Entry.copy)), _
    cases isFresh : Peek.fresh ⟨before.state.cache userId, fate⟩ with
    | some copy =>
      rintro pair ⟨⟩
      exact genuine_fresh (kept.cached userId) isFresh
    | none =>
      intro pair isPair
      obtain ⟨copy, isCopy, rfl⟩ := Option.map_eq_some_iff.mp isPair
      obtain ⟨entry, isEntry, rfl⟩ := Option.map_eq_some_iff.mp isCopy
      exact kept.cached userId entry isEntry
  | findRow userId =>
    obtain ⟨hit, isMissed⟩ := permitted
    have isMissed : (lane service).phase before caller = .missed userId hit := isMissed
    rw [isMissed] at held
    show ∀ pair ∈ ((lane service).next ((lane service).phase before caller) _ _).held service, _
    rw [isMissed]
    rintro pair ⟨⟩
    cases delivery : (fate : Delivery) with
    | answered =>
      subst delivery
      exact genuine_found before.state userId
    | _ =>
      subst delivery
      cases hit with
      | some copy => exact held _ rfl
      | none => exact genuine_defaults before.state userId
  | settle userId reader hit answer =>
    have isFound : (lane service).phase before caller = .found userId hit answer := permitted
    rw [isFound] at held
    rintro pair ⟨⟩
    exact genuine_perform (held _ rfl) (.settle userId reader hit answer) fate
  | upsert userId raw prev =>
    cases delivery : (fate : Delivery) with
    | answered =>
      subst delivery
      rintro pair ⟨⟩
      exact genuine_written before.state userId raw prev.settings
    | _ =>
      subst delivery
      rintro pair ⟨⟩
  | remember userId next => rintro pair ⟨⟩

theorem cached_after : ∀ userId, ∀ entry ∈ step.after.state.cache userId,
    entry.copy.Genuine service step.after.state userId := by
  obtain ⟨before, caller, op, fate⟩ := step
  have held := kept.held caller
  intro userId entry isEntry
  refine genuine_perform ?_ op fate
  have kept_or (setOf : String) (new : Entry) (genuine : new.copy.Genuine service before.state setOf)
      (isKept : (before.state.keep setOf new).cache userId = some entry) :
      entry.copy.Genuine service before.state userId := by
    by_cases same : userId = setOf
    · subst same
      have isNew : some new = some entry := (Function.update_self userId _ _).symm.trans isKept
      rw [← Option.some.inj isNew]
      exact genuine
    · exact kept.cached userId entry ((Function.update_of_ne same _ _).symm.trans isKept)
  cases op with
  | settle setOf reader hit answer =>
    have isFound : (lane service).phase before caller = .found setOf hit answer := permitted
    rw [isFound] at held
    cases answer with
    | error message => exact kept.cached userId entry isEntry
    | ok found => exact kept_or setOf _ (held _ rfl) isEntry
  | remember setOf next =>
    have isWritten : (lane service).phase before caller = .written setOf next := permitted
    rw [isWritten] at held
    exact kept_or setOf _ (held _ rfl) isEntry
  | upsert otherUser raw prev =>
    have sameCache : (perform service (.upsert otherUser raw prev) fate before.state).1.cache =
        before.state.cache := Delivery.write_same rfl
    refine kept.cached userId entry ?_
    rw [← sameCache]
    exact isEntry
  | _ => exact kept.cached userId entry isEntry

theorem kept_step : Kept service step.after := by
  refine ⟨cached_after kept permitted, fun caller pair isPair => ?_⟩
  rw [Protocol.phases_after] at isPair
  by_cases same : caller = step.caller
  · rw [same, Function.update_self] at isPair
    exact held_next kept permitted pair isPair
  · rw [Function.update_of_ne same] at isPair
    exact genuine_perform (kept.held caller pair isPair) step.op step.fate

theorem genuine_used : ∀ work ∈ used service step.op step.fate step.before.state,
    work.2.Genuine service step.before.state work.1 := by
  obtain ⟨before, caller, op, fate⟩ := step
  have held := kept.held caller
  intro work isWork
  cases op with
  | peek userId reader =>
    cases reader with
    | route => cases isWork
    | watcher =>
      obtain ⟨copy, isFresh, rfl⟩ := Option.map_eq_some_iff.mp isWork
      exact genuine_fresh (kept.cached userId) isFresh
  | settle userId reader hit answer =>
    have isFound : (lane service).phase before caller = .found userId hit answer := permitted
    rw [isFound] at held
    cases reader with
    | route => cases isWork
    | watcher =>
      cases isWork
      exact held _ rfl
  | upsert userId raw prev =>
    have isReady : (lane service).phase before caller = .ready userId prev := permitted
    rw [isReady] at held
    have applied : (if fate.Applies then some (userId, prev) else none) = some work := isWork
    split at applied
    · cases applied
      exact held _ rfl
    · cases applied
  | _ => cases isWork

theorem sound_step (orderly : Orderly service step) : Sound service step := by
  intro work isWork row isRow
  have isLast : work.2.version = some (step.before.state.writes work.1) := by
    refine (orderly work isWork).resolve_left fun absent => ?_
    rw [absent] at isRow
    cases isRow
  have current : work.2.settings = service.ofRow row :=
    (genuine_used kept permitted work isWork _ isLast).2 rfl row isRow
  obtain ⟨before, caller, op, fate⟩ := step
  cases op with
  | upsert userId raw prev =>
    intro after isAfter
    have applied : (if fate.Applies then some (userId, prev) else none) = some work := isWork
    split at applied
    next applies =>
      cases applied
      have isWritten : (if fate.Applies then
          before.state.write userId (service.merge raw prev.settings) else before.state).rows
          userId = some after := isAfter
      rw [if_pos applies] at isWritten
      have isMerged : some (service.merge raw prev.settings) = some after :=
        (Function.update_self userId _ before.state.rows).symm.trans isWritten
      rw [← Option.some.inj isMerged, service.ofRow_merge, current]
      exact service.merge_ofRow raw row
    next => cases applied
  | _ => exact current

end Steps

/-- In every run whose callers work with copies of the rows as they were last written, they
evaluate exits with what is persisted, and changes change what they are given. -/
theorem sound_of_orderly (rows : String → Option ExitSettings) (requests : List Request)
    (turns : List (Turn (store service)))
    (orderly : ∀ step ∈ (cexSystem service rows requests).steps turns, Orderly service step) :
    ∀ step ∈ (cexSystem service rows requests).steps turns, Sound service step := by
  have allowed : ∀ step ∈ (cexSystem service rows requests).steps turns,
      (lane service).permits ((lane service).phase step.before step.caller) step.op ∧
        Orderly service step :=
    fun step member => ⟨permits_of_mem_steps rows requests turns step member, orderly step member⟩
  have start : Kept service (cexSystem service rows requests).moment := by
    refine ⟨fun userId entry isEntry => ?_, fun caller pair isPair => ?_⟩
    · cases isEntry
    · cases isPair
  exact (Async.System.run_keeps (fun step kept both =>
    ⟨sound_step kept both.1 both.2, kept_step kept both.1⟩) start turns allowed).2

/-! ### Runs -/

instance (step : Step (store service)) : Decidable (Orderly service step) := by
  unfold Orderly
  infer_instance

instance (step : Step (store service)) : Decidable (Sound service step) := by
  obtain ⟨before, caller, op, fate⟩ := step
  unfold Sound
  cases op <;> infer_instance

end GdslExchange.ExitConfig.Cex
