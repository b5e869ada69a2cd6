/-
This file settles when a CEX lot is tracked, whatever its quote: when its base has left the account
at every tick that misses it, and when it is sold under its own symbol.

A tick takes the base of a lot for its symbol without a final USDT, and a manual sale shrinks the
lot of the very symbol that is sold.
-/

import GdslExchange.Cex.Books

namespace GdslExchange.Cex

open Async Async.Program
open Exits (ExitDecision ExitReason)

/-! ### Calls and runs -/

/-- A request, and what its operations meet. The exchange fills no negative quantity. -/
structure Errand where
  request : Request
  fates : (op : Op) → Fate op
  nonneg : ∀ request placed, fates (.placeOrder request) = .ok placed →
    0 ≤ (execution request placed).qty

/-- The course that a call starts from. -/
def Course.begin (course : Course) : Course := (course.1, course.2.begin)

def Errand.step (env : Env) (errand : Errand) (course : Course) : Course :=
  ((errand.request.call env).play track errand.fates course.begin).1

def Write.BooksSale : Write → Prop
  | .clearOpenLot => True
  | .skim _ _ _ => True
  | .manualClose => True
  | .manualReduce _ _ => True
  | _ => False

def ConfigRow.IsOn (env : Env) (row : ConfigRow) : Prop :=
  row.enabled = true ∧ row.emergencyStop = false ∧ env.liveAutomationEnabled = true

/-- What a call finds: a tick finds next to nothing of what it takes for the base of the lot only
where there is next to nothing of the base; a manual sale of the base of a lot is of the symbol of
the lot and reads the row; and what books a sale takes effect. -/
structure Errand.Fits (env : Env) (errand : Errand) (course : Course) : Prop where
  counted : errand.request = .tick → ∀ row ∈ course.1.row, row.IsOn env →
    ∀ long ∈ toOpenLong row, ∀ keys balances, errand.fates (.getBalances keys) = .ok balances →
      long.IsGhost (freeAsset balances (stripUsdt long.symbol)) →
        long.IsGhost (freeAsset balances (baseFromCexSymbol long.symbol))
  matched : ∀ request, errand.request = .manualTrade request → ∀ preflight,
    errand.fates (.previewManualTrade request) = .ok preflight → preflight.side = .sell →
      ∀ connId placed, errand.fates (.placeOrder (manualRequest connId preflight)) = .ok placed →
        0 < placed.filledQuantity.getD 0 →
          ∀ shown ∈ course.1.shown, ∀ symbol, shown.1 = some symbol → 0 < shown.2 →
            baseFromCexSymbol preflight.symbol = baseFromCexSymbol symbol →
              preflight.symbol = symbol ∧ errand.fates .findConfig = .answered
  stored : ∀ data, Write.BooksSale data → (errand.fates (.write data)).Applies

/-- A lot is cleared as stale only where its base has left the account, a manual sale of its base
reduces what is tracked, and what is tracked is at most what has been bought less what has been
sold. -/
structure Errand.Tracks (env : Env) (errand : Errand) (course : Course) : Prop where
  fair : (errand.step env course).2.Fair (course.1.row.bind toOpenLong)
  reduces : ∀ request, errand.request = .manualTrade request →
    Reduces course.1.shown (errand.step env course)
  covered : (errand.step env course).Covered

/-! ### Operations that leave the lot alone -/

/-- Operations that fill nothing, read no balance and leave the lot of the row as it is. -/
def Still : Op → Prop
  | .placeOrder _ => False
  | .getBalances _ => False
  | .write (.connect _) => True
  | .write (.tick _) => True
  | .write (.setOverrides _) => True
  | .write _ => False
  | _ => True

theorem shown_put {data : Write} (still : Still (.write data)) (machine : Machine) :
    (machine.put data).shown = machine.shown := by
  unfold Machine.put Machine.shown
  cases machine.row with
  | none => cases data <;> first | exact still.elim | rfl
  | some row => cases data <;> first | exact still.elim | rfl

/-- The landing of a peak leaves the lot as it is, too. -/
theorem shown_raisePeak (peak : ℚ) (machine : Machine) :
    (machine.put (.raisePeak peak)).shown = machine.shown := by
  unfold Machine.put Machine.shown
  cases machine.row <;> rfl

theorem shown_still {op : Op} (still : Still op) (fate : Fate op) (machine : Machine) :
    (perform op fate machine).1.shown = machine.shown := by
  cases op with
  | placeOrder request => exact still.elim
  | getBalances keys => exact still.elim
  | write data =>
    simp only [perform]
    split
    · exact Delivery.write_same (shown_put still machine)
    · rfl
  | landPeak position =>
    simp only [perform]
    split
    · exact Delivery.write_same (shown_raisePeak _ _)
    · rfl
  | takeSkim =>
    simp only [perform]
    split <;> rfl
  | _ => rfl

theorem track_still {op : Op} (still : Still op) (fate : Fate op) (books : Books) :
    track op fate books = books := by
  cases op with
  | placeOrder request => exact still.elim
  | getBalances keys => exact still.elim
  | write data =>
    show (if fate.Applies then books.enter data else books) = books
    cases data <;> first | exact still.elim | exact ite_self _
  | _ => rfl

/-! ### Steps of a call -/

/-- What the row shows, and the books. -/
def Sees (shown : Option (Option String × ℚ)) (books : Books) (course : Course) : Prop :=
  course.1.shown = shown ∧ course.2 = books

section Steps

variable {fates : (op : Op) → Fate op} {Value Next : Type} {first : Call Value}
  {next : Value → Call Next} {post : Next → Course → Prop} {thrown : Course → Prop}
  {shown : Option (Option String × ℚ)} {books : Books} {course : Course}

theorem still_meets (only : first.Only Still) (sees : Sees shown books course) :
    first.Meets track fates (fun _ => Sees shown books) (Sees shown books) course := by
  refine meets_keeps (fun op course still sees => ⟨?_, ?_⟩) only sees
  · exact (shown_still still _ _).trans sees.1
  · exact (track_still still _ _).trans sees.2

/-- After a call that leaves the lot alone comes what follows, or nothing. -/
theorem still_then (only : first.Only Still) (sees : Sees shown books course)
    (throws : ∀ reached, Sees shown books reached → thrown reached)
    (follows : ∀ value reached, Sees shown books reached →
      (next value).Meets track fates post thrown reached) :
    (first >>= next).Meets track fates post thrown course :=
  meets_bind.mpr ((still_meets only sees).mono follows throws)

theorem await_then {op : Op} {next : Result op → Call Next} (still : Still op)
    (sees : Sees shown books course)
    (throws : ∀ reached, Sees shown books reached → thrown reached)
    (follows : ∀ value reached, Sees shown books reached →
      (next value).Meets track fates post thrown reached) :
    (await op >>= next).Meets track fates post thrown course :=
  still_then (only_perform still) sees throws follows

theorem only_log (message : String) : (log message).Only Still :=
  only_then trivial fun _ => trivial

theorem placeOrder_then {request : OrderRequest} {next : PlacedOrder → Call Next}
    (sees : Sees shown books course) (throws : ∀ reached, Sees shown books reached → thrown reached)
    (follows : ∀ placed reached, fates (.placeOrder request) = .ok placed →
      Sees shown (books.fill (execution request placed)) reached →
        (next placed).Meets track fates post thrown reached) :
    (await (.placeOrder request) >>= next).Meets track fates post thrown course := by
  refine meets_bind.mpr (meets_perform.mpr ?_)
  obtain ⟨isShown, isBooks⟩ := sees
  simp only [perform, track]
  cases fate : fates (.placeOrder request) with
  | error failure => exact throws _ ⟨isShown, isBooks⟩
  | ok placed => exact follows placed _ fate ⟨isShown, by rw [← isBooks]⟩

theorem getBalances_then {keys : ApiKeys} {next : List AdapterBalance → Call Next}
    (sees : Sees shown books course) (throws : ∀ reached, Sees shown books reached → thrown reached)
    (follows : ∀ balances reached, fates (.getBalances keys) = .ok balances →
      Sees shown { books with balances := balances } reached →
        (next balances).Meets track fates post thrown reached) :
    (await (.getBalances keys) >>= next).Meets track fates post thrown course := by
  refine meets_bind.mpr (meets_perform.mpr ?_)
  obtain ⟨isShown, isBooks⟩ := sees
  simp only [perform, track]
  cases fate : fates (.getBalances keys) with
  | error failure => exact throws _ ⟨isShown, isBooks⟩
  | ok balances => exact follows balances _ fate ⟨isShown, by rw [← isBooks]⟩

theorem findConfig_then {next : Option ConfigRow → Call Next}
    (throws : fates .findConfig ≠ .answered → thrown course)
    (follows : fates .findConfig = .answered →
      (next course.1.row).Meets track fates post thrown course) :
    (await .findConfig >>= next).Meets track fates post thrown course := by
  refine meets_bind.mpr (meets_perform.mpr ?_)
  cases fate : fates .findConfig with
  | answered => exact follows fate
  | refused message => exact throws (by rw [fate]; nofun)
  | lost message => exact throws (by rw [fate]; nofun)

end Steps

def Write.shows : Write → Option String × ℚ → Option String × ℚ
  | .clearOpenLot, _ => (none, 0)
  | .manualClose, _ => (none, 0)
  | .skim baseQty _ _, shown => (shown.1, baseQty)
  | .manualReduce baseQty _, shown => (shown.1, baseQty)
  | .councilBuy lot, _ => (some lot.symbol, lot.baseQty)
  | .manualOpen lot, _ => (some lot.symbol, lot.baseQty)
  | .manualAdd lot, _ => (some lot.symbol, lot.baseQty)
  | _, shown => shown

theorem shown_apply (data : Write) (row : ConfigRow) :
    (data.apply row).shown = data.shows row.shown := by
  cases data <;> rfl

section Writes

variable {fates : (op : Op) → Fate op} {post : Unit → Course → Prop} {thrown : Course → Prop}
  {shown : Option String × ℚ} {books : Books} {course : Course} {data : Write}

/-- A write that can land takes effect or does not, and in both cases it may throw. -/
theorem update_meets (lands : (data.land course.1.row).isSome = true)
    (refused : ¬ (fates (.write data)).Applies → thrown course)
    (applied : (fates (.write data)).Applies →
      post () (course.1.put data, course.2.enter data) ∧
        thrown (course.1.put data, course.2.enter data)) :
    (update data).Meets track fates post thrown course := by
  refine meets_bind.mpr (meets_perform.mpr ?_)
  simp only [perform, track, lands, if_true]
  cases fate : fates (.write data) with
  | answered =>
    rw [fate] at applied
    exact (applied trivial).1
  | refused message =>
    rw [fate] at refused
    exact refused id
  | lost message =>
    rw [fate] at applied
    exact (applied trivial).2

theorem update_row (sees : Sees (some shown) books course)
    (refused : ¬ (fates (.write data)).Applies → thrown course)
    (applied : (fates (.write data)).Applies → ∀ reached,
      Sees (some (data.shows shown)) (books.enter data) reached →
        post () reached ∧ thrown reached) :
    (update data).Meets track fates post thrown course := by
  obtain ⟨isShown, isBooks⟩ := sees
  obtain ⟨row, isRow, isShown⟩ := Option.map_eq_some_iff.mp isShown
  refine update_meets ?_ refused fun applies => applied applies _ ⟨?_, ?_⟩
  · rw [isRow, land_some]
    rfl
  · show (data.land course.1.row).map ConfigRow.shown = _
    rw [isRow, land_some, ← isShown]
    exact congrArg some (shown_apply data row)
  · rw [isBooks]

theorem update_manualOpen {lot : NewLot} {shown : Option (Option String × ℚ)}
    (sees : Sees shown books course) (refused : thrown course)
    (applied : ∀ reached, Sees (some (some lot.symbol, lot.baseQty))
        (books.openLot lot.symbol) reached → post () reached ∧ thrown reached) :
    (update (.manualOpen lot)).Meets track fates post thrown course := by
  obtain ⟨-, isBooks⟩ := sees
  refine update_meets ?_ (fun _ => refused) fun applies => applied _ ⟨?_, ?_⟩
  · cases course.1.row <;> rfl
  · show ((Write.manualOpen lot).land course.1.row).map ConfigRow.shown = _
    cases course.1.row <;> rfl
  · rw [isBooks]
    rfl

end Writes

/-! ### Sales of a tick -/

/-- What a call leaves: what is tracked is covered, and a lot that was dropped was gone. -/
def Settled (lot : Option CexOpenLong) (course : Course) : Prop :=
  course.Covered ∧ course.2.Fair lot

/-- What the management of a lot leaves. The tick goes on where the row is there. -/
def Managed.Leaves (lot : Option CexOpenLong) (managed : Managed) (course : Course) : Prop :=
  Settled lot course ∧ (managed ≠ .finished → course.1.shown.isSome = true)

section Tick

variable {fates : (op : Op) → Fate op} {lot : Option CexOpenLong} {books : Books}
  {course : Course} {Value : Type}

theorem settled_of_sees {shown : Option String × ℚ} (sees : Sees (some shown) books course)
    (covers : books.Covers shown) (fair : books.Fair lot) : Settled lot course := by
  obtain ⟨isShown, rfl⟩ := sees
  refine ⟨fun other isOther => ?_, fair⟩
  rw [isShown] at isOther
  cases isOther
  exact covers

theorem still_settles {program : Call Value} (only : program.Only Still)
    (settled : Settled lot course) :
    program.Meets track fates (fun _ => Settled lot) (Settled lot) course := by
  have transfers : ∀ reached, Sees course.1.shown course.2 reached → Settled lot reached := by
    rintro reached ⟨isShown, isBooks⟩
    unfold Settled Course.Covered
    rw [isShown, isBooks]
    exact settled
  exact (still_meets only ⟨rfl, rfl⟩).mono (fun _ => transfers) transfers

theorem fair_of_kept (kept : books.dropped = false) : books.Fair lot := by
  intro dropped
  rw [kept] at dropped
  cases dropped

theorem skimQty_pos {long : CexOpenLong} {mark : ℚ} {freeBase : Option ℚ}
    (unblocked : (computeCexSkimSlice long mark freeBase).blockedReason = none) :
    0 < (computeCexSkimSlice long mark freeBase).skimQty := by
  unfold computeCexSkimSlice at unblocked ⊢
  grind

theorem sellQty_pos {long : CexOpenLong} {exit : Exits.ExitSettings} {freeBase mark : ℚ}
    {ready : Bool} (skims : (long.decideExit exit freeBase ready mark).reason = some .profitSkim) :
    0 < (long.decideExit exit freeBase ready mark).sellQty := by
  unfold CexOpenLong.decideExit at skims ⊢
  dsimp only at skims ⊢
  split at skims
  · next enabled =>
    rw [if_pos enabled]
    split at skims
    · next target =>
      rw [if_pos target]
      unfold CexOpenLong.takeProfit at skims ⊢
      dsimp only at skims ⊢
      split at skims
      · next skimmed =>
        rw [if_pos skimmed]
        exact skimQty_pos skimmed.2.2
      · cases skims
    · split at skims
      · unfold CexOpenLong.trail CexOpenLong.closing at skims
        grind
      · split at skims <;> cases skims
  · cases skims

/-- What a lot shows. -/
def CexOpenLong.shown (long : CexOpenLong) : Option String × ℚ := (some long.symbol, long.baseQty)

theorem shown_of_toOpenLong {row : ConfigRow} {long : CexOpenLong}
    (isLong : toOpenLong row = some long) : row.shown = long.shown := by
  unfold toOpenLong at isLong
  split at isLong
  · next isSymbol isQty isEntry =>
    split at isLong
    · cases isLong
      unfold ConfigRow.shown CexOpenLong.shown
      rw [isSymbol, isQty]
      rfl
    · cases isLong
  · cases isLong

theorem settled_of_kept (lot : Option CexOpenLong) {shown : Option String × ℚ}
    (covers : books.Covers shown) (kept : books.dropped = false) :
    ∀ reached, Sees (some shown) books reached → Settled lot reached :=
  fun _ sees => settled_of_sees sees covers (fair_of_kept kept)

theorem kept_fill {execution : Execution} (kept : books.dropped = false) :
    (books.fill execution).dropped = false := kept

theorem kept_clear {execution : Execution} (kept : books.dropped = false) :
    ((books.fill execution).enter .clearOpenLot).dropped = false := by
  show (books.dropped || false) = false
  rw [kept]
  rfl

variable {long : CexOpenLong} (stored : ∀ data, Write.BooksSale data → (fates (.write data)).Applies)
  (nonneg : ∀ request placed, fates (.placeOrder request) = .ok placed →
    0 ≤ (execution request placed).qty)

include stored in
/-- What a sale of a part of a lot leaves, once the rest is written. -/
theorem skimWrite_settles {execution : Execution} {wanted fillPrice : ℚ}
    (sees : Sees (some long.shown) (books.fill execution) course) (covers : books.Covers long.shown)
    (kept : books.dropped = false) (isSell : execution.side = .sell) (nonneg : 0 ≤ execution.qty)
    (positive : 0 < wanted) :
    (update (skimWrite long (orElse execution.qty wanted) fillPrice)).Meets track fates
      (fun _ => Settled lot) (Settled lot) course := by
  refine update_row sees (fun refused => (refused (stored _ trivial)).elim)
    fun _ reached later => ?_
  have sold : execution.qty ≤ orElse execution.qty wanted ∧ 0 ≤ orElse execution.qty wanted := by
    unfold orElse
    split
    · exact ⟨le_rfl, nonneg⟩
    · next zero =>
      rw [not_not.mp zero]
      exact ⟨positive.le, positive.le⟩
  have settled : Settled lot reached := by
    refine settled_of_sees later (covers_fill_sell covers isSell long.baseQty_pos ?_ ?_)
      (fair_of_kept (kept_fill kept))
    · intro left
      have isRest := (lt_max_iff.mp left).resolve_left (lt_irrefl 0)
      exact max_le (by linarith) (by linarith)
    · exact fun _ => max_le long.baseQty_pos.le (by linarith)
  exact ⟨settled, settled⟩

include stored nonneg in
theorem tickSkim_settles {connId : String} {decision : ExitDecision} {mark : ℚ}
    (sees : Sees (some long.shown) books course) (covers : books.Covers long.shown)
    (kept : books.dropped = false) (positive : 0 < decision.sellQty) :
    (tickSkim connId long decision mark).Meets track fates (fun _ => Settled lot) (Settled lot)
      course := by
  have untouched := settled_of_kept lot covers kept
  refine @Meets.recover _ _ _ _ _ _ _ _ (Settled lot) _ _ ?_ fun message reached settled =>
    still_settles (only_log _) settled
  refine placeOrder_then sees untouched fun placed reached fate later => ?_
  refine meets_bind.mpr ((skimWrite_settles stored later covers kept rfl (nonneg _ _ fate)
    positive).mono (fun _ reached settled => ?_) fun _ settled => settled)
  exact still_settles (only_log _) settled

include stored in
theorem tickClose_settles {connId : String} {reason : ExitReason} {decision : ExitDecision}
    {mark : ℚ} (sees : Sees (some long.shown) books course) (covers : books.Covers long.shown)
    (kept : books.dropped = false) :
    (tickClose connId long reason decision mark).Meets track fates (fun _ => Settled lot)
      (Settled lot) course := by
  have untouched := settled_of_kept lot covers kept
  refine @Meets.recover _ _ _ _ _ _ _ _ (Settled lot) _ _ ?_ fun message reached settled =>
    still_settles (only_log _) settled
  refine placeOrder_then sees untouched fun placed reached fate later => ?_
  refine meets_bind.mpr (update_row later (fun refused => (refused (stored _ trivial)).elim)
    fun _ cleared sees => ?_)
  have settled : Settled lot cleared :=
    settled_of_sees sees covers_flat (fair_of_kept (kept_clear kept))
  exact ⟨still_settles (only_log _) settled, settled⟩

include stored nonneg in
theorem tickExit_settles {connId : String} {freeBase mark : ℚ}
    (sees : Sees (some long.shown) books course) (covers : books.Covers long.shown)
    (kept : books.dropped = false) :
    (tickExit connId long freeBase mark).Meets track fates
      (Managed.Leaves lot) (Settled lot) course := by
  have untouched := settled_of_kept lot covers kept
  refine await_then trivial sees untouched fun exit reached sees => ?_
  have taken (wanted : Bool) : (takeSkim wanted).Only Still := by
    unfold takeSkim
    split
    · exact only_perform trivial
    · trivial
  have posted (peakWrite : Option ℚ) : (postPeak peakWrite).Only Still := by
    unfold postPeak
    split
    · exact only_perform trivial
    · trivial
  refine still_then (taken _) sees untouched fun ready reached sees => ?_
  refine still_then (posted _) sees untouched fun _ reached sees => ?_
  unfold act
  split
  · next skims =>
    refine meets_bind.mpr ((tickSkim_settles stored nonneg sees covers kept
      (sellQty_pos skims)).mono (fun _ reached settled => ?_) fun _ settled => settled)
    exact ⟨settled, fun goesOn => (goesOn rfl).elim⟩
  · refine meets_bind.mpr ((tickClose_settles stored sees covers kept).mono
      (fun _ reached settled => ?_) fun _ settled => settled)
    exact ⟨settled, fun goesOn => (goesOn rfl).elim⟩
  · exact ⟨untouched _ sees, fun _ => by rw [sees.1]; rfl⟩

include nonneg in
theorem tickBuy_settles {connId symbol : String} {decision : CouncilDecision} {price : ℚ}
    {shown : Option String × ℚ}
    (sees : Sees (some shown) books course) (covers : books.Covers shown) (fair : books.Fair lot) :
    (tickBuy connId symbol decision price).Meets track fates (fun _ => Settled lot) (Settled lot)
      course := by
  refine @Meets.recover _ _ _ _ _ _ _ _ (Settled lot) _ _ ?_ fun message reached settled =>
    still_settles (only_log _) settled
  refine placeOrder_then sees (fun reached sees => settled_of_sees sees covers fair)
    fun placed reached fate later => ?_
  have untouched : ∀ reached, Sees (some shown) (books.fill _) reached → Settled lot reached :=
    fun reached sees => settled_of_sees sees (covers_fill_buy covers rfl (nonneg _ _ fate)) fair
  dsimp only
  split
  · exact still_settles (only_log _) (untouched _ later)
  · refine await_then trivial later untouched fun now reached later => ?_
    refine meets_bind.mpr (update_row later (fun _ => untouched _ later)
      fun _ opened sees => ?_)
    have settled : Settled lot opened :=
      settled_of_sees sees (covers_openLot rfl rfl) fair
    exact ⟨still_settles (only_log _) settled, settled⟩

include nonneg in
theorem tickCouncil_settles {connId : String} {row : ConfigRow} {open? : Option CexOpenLong}
    {balances : List AdapterBalance}
    (settled : Settled lot course) (present : course.1.shown.isSome = true) :
    (tickCouncil row connId open? balances).Meets track fates (fun _ => Settled lot) (Settled lot)
      course := by
  obtain ⟨shown, isShown⟩ := Option.isSome_iff_exists.mp present
  have sees : Sees (some shown) course.2 course := ⟨isShown, rfl⟩
  have untouched : ∀ reached, Sees (some shown) course.2 reached → Settled lot reached :=
    fun reached sees => settled_of_sees sees (settled.1 shown isShown) settled.2
  refine await_then trivial sees untouched fun decision reached sees => ?_
  split
  · exact untouched _ sees
  · split
    · exact untouched _ sees
    · refine await_then trivial sees untouched fun now reached sees => ?_
      split
      · exact untouched _ sees
      · refine await_then trivial sees untouched fun book reached sees => ?_
        split
        · exact untouched _ sees
        · exact tickBuy_settles nonneg sees (settled.1 shown isShown) settled.2

include stored nonneg in
/-- A lot that is cleared as stale has been missed by its base, if the account has been. -/
theorem manageLong_settles {connId : String} {balances : List AdapterBalance}
    (counted : long.IsGhost (freeAsset balances (stripUsdt long.symbol)) →
      long.IsGhost (freeAsset balances (baseFromCexSymbol long.symbol)))
    (isRead : books.balances = balances)
    (sees : Sees (some long.shown) books course) (covers : books.Covers long.shown)
    (kept : books.dropped = false) :
    (manageLong connId long balances).Meets track fates (Managed.Leaves (some long))
      (Settled (some long)) course := by
  have untouched := settled_of_kept (some long) covers kept
  unfold manageLong
  dsimp only
  split
  · next isGhost =>
    refine meets_bind.mpr (update_row sees (fun refused => (refused (stored _ trivial)).elim)
      fun _ cleared sees => ?_)
    have fair : (books.enter .clearOpenLot).Fair (some long) := by
      rintro - _ ⟨⟩
      show long.IsGhost (freeAsset books.balances _)
      rw [isRead]
      exact counted isGhost
    have settled : ∀ reached, Sees (some (none, 0)) (books.enter .clearOpenLot) reached →
        Settled (some long) reached :=
      fun reached sees => settled_of_sees sees covers_flat fair
    refine ⟨still_then (only_log _) sees settled fun _ reached sees => ?_, settled _ sees⟩
    exact ⟨settled _ sees, fun _ => by rw [sees.1]; rfl⟩
  · refine await_then trivial sees untouched fun book reached sees => ?_
    split
    · exact ⟨untouched _ sees, fun _ => by rw [sees.1]; rfl⟩
    · exact tickExit_settles stored nonneg sees covers kept

include stored nonneg in
theorem tickConnected_settles {row : ConfigRow} {connId : String} {keys : ApiKeys}
    (counted : ∀ long ∈ toOpenLong row, ∀ balances, fates (.getBalances keys) = .ok balances →
      long.IsGhost (freeAsset balances (stripUsdt long.symbol)) →
        long.IsGhost (freeAsset balances (baseFromCexSymbol long.symbol)))
    (sees : Sees (some row.shown) books course) (covers : books.Covers row.shown)
    (kept : books.dropped = false) :
    (tickConnected row connId keys).Meets track fates (fun _ => Settled (toOpenLong row))
      (Settled (toOpenLong row)) course := by
  have untouched (balances : List AdapterBalance) :
      ∀ reached, Sees (some row.shown) { books with balances := balances } reached →
        Settled (toOpenLong row) reached :=
    fun reached sees => settled_of_sees sees covers (fair_of_kept kept)
  refine getBalances_then sees (settled_of_kept _ covers kept) fun balances reached fate sees => ?_
  refine await_then trivial sees (untouched balances) fun now reached sees => ?_
  refine still_then (only_then trivial fun _ => trivial) sees (untouched balances)
    fun _ reached sees => ?_
  cases isLong : toOpenLong row with
  | none =>
    rw [isLong] at untouched
    exact tickCouncil_settles nonneg (untouched balances _ sees) (by rw [sees.1]; rfl)
  | some long =>
    rw [shown_of_toOpenLong isLong] at sees covers
    refine meets_bind.mpr ((manageLong_settles stored nonneg (counted long isLong balances fate)
      rfl sees covers kept).mono (fun managed reached leaves => ?_) fun _ settled => settled)
    cases managed with
    | finished => exact leaves.1
    | goOn open? => exact tickCouncil_settles nonneg leaves.1 (leaves.2 nofun)

theorem only_resolveConnectionId (preferred : Option String) :
    (resolveConnectionId preferred).Only Still := by
  unfold resolveConnectionId
  split
  · refine only_then trivial fun usable => ?_
    split
    · trivial
    · exact only_perform trivial
  · exact only_perform trivial

theorem only_keepConnection (row : ConfigRow) (connId : String) :
    (keepConnection row connId).Only Still := by
  unfold keepConnection
  split
  · exact only_then trivial fun _ => trivial
  · trivial

include stored nonneg in
theorem tickUser_settles {env : Env} {row : ConfigRow}
    (counted : row.IsOn env → ∀ long ∈ toOpenLong row, ∀ keys balances,
      fates (.getBalances keys) = .ok balances →
        long.IsGhost (freeAsset balances (stripUsdt long.symbol)) →
          long.IsGhost (freeAsset balances (baseFromCexSymbol long.symbol)))
    (sees : Sees (some row.shown) books course) (covers : books.Covers row.shown)
    (kept : books.dropped = false) :
    (tickUser env row).Meets track fates (fun _ => Settled (toOpenLong row))
      (Settled (toOpenLong row)) course := by
  have untouched := settled_of_kept (toOpenLong row) covers kept
  unfold tickUser
  split
  · exact untouched _ sees
  · next allowed =>
    have isOn : row.IsOn env := by simpa [ConfigRow.IsOn, not_or] using allowed
    refine still_then (only_resolveConnectionId _) sees untouched fun connId? reached sees => ?_
    split
    · exact still_settles (only_log _) (untouched _ sees)
    · refine still_then (only_keepConnection row _) sees untouched fun _ reached sees => ?_
      refine await_then trivial sees untouched fun ready reached sees => ?_
      split
      · exact untouched _ sees
      · refine await_then trivial sees untouched fun conn? reached sees => ?_
        split
        · exact untouched _ sees
        · exact tickConnected_settles stored nonneg
            (fun long isLong => counted isOn long isLong _) sees covers kept

include stored nonneg in
theorem skimCexPositionProfit_settles
    (covered : course.Covered) (kept : course.2.dropped = false) :
    skimCexPositionProfit.Meets track fates (fun _ => Settled lot) (Settled lot) course := by
  have sees : Sees course.1.shown course.2 course := ⟨rfl, rfl⟩
  have untouched : ∀ reached, Sees course.1.shown course.2 reached → Settled lot reached := by
    rintro reached ⟨isShown, isBooks⟩
    refine ⟨?_, isBooks ▸ fair_of_kept kept⟩
    unfold Course.Covered
    rw [isShown, isBooks]
    exact covered
  refine findConfig_then (fun _ => untouched _ sees) fun _ => ?_
  cases isLong : course.1.row.bind toOpenLong with
  | none => exact untouched _ sees
  | some long =>
    obtain ⟨row, isRow, isLong⟩ := Option.bind_eq_some_iff.mp isLong
    have isShown : course.1.shown = some long.shown := by
      unfold Machine.shown
      rw [isRow, ← shown_of_toOpenLong isLong]
      rfl
    rw [isShown] at sees untouched
    have covers : course.2.Covers long.shown := covered _ isShown
    refine meets_bind.mpr (meets_pure.mpr ?_)
    refine still_then (only_resolveConnectionId _) sees untouched fun connId? reached sees => ?_
    refine still_then only_orThrow sees untouched fun connId reached sees => ?_
    refine await_then trivial sees untouched fun conn? reached sees => ?_
    refine still_then only_orThrow sees untouched fun keys reached sees => ?_
    refine await_then trivial sees untouched fun book reached sees => ?_
    refine still_then only_orThrow sees untouched fun mark reached sees => ?_
    refine getBalances_then sees untouched fun balances reached fate sees => ?_
    have read : ∀ reached, Sees (some long.shown) { course.2 with balances := balances } reached →
        Settled lot reached :=
      fun reached sees => settled_of_sees sees covers (fair_of_kept kept)
    dsimp only
    split
    · exact read _ sees
    · next unblocked =>
      refine placeOrder_then sees read fun placed reached filled sees => ?_
      refine meets_bind.mpr ((skimWrite_settles stored sees covers kept rfl (nonneg _ _ filled)
        (skimQty_pos unblocked)).mono (fun _ reached settled => ?_) fun _ settled => settled)
      refine meets_bind.mpr ((still_settles (only_log _) settled).mono
        (fun _ reached settled => settled) fun _ settled => settled)

theorem only_setCexPositionExitOverrides (overrides : Overrides) :
    (setCexPositionExitOverrides overrides).Only Still := by
  refine only_then trivial fun row => ?_
  split
  · trivial
  · split
    · trivial
    · refine only_bind (only_then trivial fun _ => trivial) fun _ => trivial

end Tick

/-! ### Manual trades -/

/-- What a manual trade leaves. -/
def Booked (before : Option (Option String × ℚ)) (lot : Option CexOpenLong) (course : Course) :
    Prop :=
  Settled lot course ∧ Reduces before course

section Manual

variable {fates : (op : Op) → Fate op} {lot : Option CexOpenLong} {books : Books}
  {shown before : Option (Option String × ℚ)} {course : Course}

theorem booked_of_sees (sees : Sees shown books course)
    (covers : ∀ tracked ∈ shown, books.Covers tracked) (fair : books.Fair lot)
    (reduces : ∀ reached, Sees shown books reached → Reduces before reached) :
    Booked before lot course := by
  refine ⟨⟨?_, sees.2 ▸ fair⟩, reduces course sees⟩
  unfold Course.Covered
  rw [sees.1, sees.2]
  exact covers

theorem still_books {Value : Type} {program : Call Value} (only : program.Only Still)
    (booked : Booked before lot course) :
    program.Meets track fates (fun _ => Booked before lot) (Booked before lot) course := by
  have transfers : ∀ reached, Sees course.1.shown course.2 reached → Booked before lot reached := by
    rintro reached ⟨isShown, isBooks⟩
    unfold Booked Settled Course.Covered Reduces
    rw [isShown, isBooks]
    exact booked
  exact (still_meets only ⟨rfl, rfl⟩).mono (fun _ => transfers) transfers

theorem reduces_buy {execution : Execution} (isBuy : execution.side = .buy)
    (isFilled : course.2.filled = some execution) : Reduces before course := by
  intro sale isSale isSell
  rw [isFilled] at isSale
  cases isSale
  rw [isBuy] at isSell
  cases isSell

theorem booked_buy {execution : Execution} (sees : Sees shown books course)
    (covers : ∀ tracked ∈ shown, books.Covers tracked) (fair : books.Fair lot)
    (isFilled : books.filled = some execution) (isBuy : execution.side = .buy) :
    Booked before lot course :=
  booked_of_sees sees covers fair fun _ sees =>
    reduces_buy isBuy ((congrArg Books.filled sees.2).trans isFilled)

/-- A sale of another base, or of nothing that is tracked, is covered as it is. -/
theorem covers_fill_apart {execution : Execution} {tracked : Option String × ℚ}
    (covers : books.Covers tracked)
    (apart : ∀ own, tracked.1 = some own → 0 < tracked.2 →
      baseFromCexSymbol execution.symbol ≠ baseFromCexSymbol own) :
    (books.fill execution).Covers tracked := by
  intro own isOwn
  obtain ⟨isBase, covered⟩ := covers own isOwn
  refine ⟨isBase, fun positive => (covered positive).trans ?_⟩
  unfold Books.fill
  rw [if_neg (isBase ▸ apart own isOwn positive)]

theorem bookManualSell_books {symbol : String} {filledQty : ℚ}
    (stored : ∀ data, Write.BooksSale data → (fates (.write data)).Applies)
    (matched : ∀ tracked ∈ shown, ∀ own, tracked.1 = some own → 0 < tracked.2 →
      baseFromCexSymbol symbol = baseFromCexSymbol own →
        symbol = own ∧ fates .findConfig = .answered)
    (sees : Sees shown (books.fill ⟨symbol, .sell, filledQty⟩) course) (positive : 0 < filledQty)
    (covers : ∀ tracked ∈ shown, books.Covers tracked) (kept : books.dropped = false) :
    (bookManualSell symbol filledQty).Meets track fates (fun _ => Booked shown lot)
      (Booked shown lot) course := by
  have fair : (books.fill ⟨symbol, .sell, filledQty⟩).Fair lot := fair_of_kept (kept_fill kept)
  refine findConfig_then (fun unread => ?_) fun _ => ?_
  · refine booked_of_sees sees (fun tracked isTracked => ?_) fair fun reached sees => ?_
    · refine covers_fill_apart (covers tracked isTracked) fun own isOwn sized same => ?_
      exact unread (matched tracked isTracked own isOwn sized same).2
    · intro sale isSale _ _ tracked isTracked own isOwn same sized
      rw [sees.2] at isSale
      cases isSale
      exact (unread (matched tracked isTracked own isOwn sized same).2).elim
  cases isRow : course.1.row with
  | none =>
    have isNone : shown = none := by
      rw [← sees.1]
      unfold Machine.shown
      rw [isRow]
      rfl
    rw [isNone] at sees ⊢
    exact booked_of_sees sees nofun fair fun _ _ _ _ _ _ _ absent => by cases absent
  | some row =>
    have isShown : shown = some row.shown := by
      rw [← sees.1]
      unfold Machine.shown
      rw [isRow]
      rfl
    rw [isShown] at sees matched covers ⊢
    have covered : books.Covers row.shown := covers _ rfl
    dsimp only [Option.bind_some]
    split
    · next tracked =>
      have isTracked : row.shown = (some symbol, row.shown.2) := by
        unfold ConfigRow.shown
        rw [tracked.1]
      rw [isTracked] at covered
      split
      · next flattens =>
        refine meets_bind.mpr (update_row sees (fun refused => (refused (stored _ trivial)).elim)
          fun _ reached sees => ?_)
        have booked : Booked (some row.shown) lot reached := by
          refine booked_of_sees sees (fun _ isFlat => ?_) fair fun reached sees => ?_
          · cases isFlat
            exact covers_flat
          · intro sale isSale _ _ _ isShown own isOwn _ _
            rw [sees.2] at isSale
            cases isSale
            cases isShown
            exact ⟨(none, 0), sees.1, .inr ⟨rfl, flattens⟩⟩
        exact ⟨booked, booked⟩
      · next remains =>
        refine meets_bind.mpr (update_row sees (fun refused => (refused (stored _ trivial)).elim)
          fun _ reached sees => ?_)
        have booked : Booked (some row.shown) lot reached := by
          refine booked_of_sees sees (fun _ isRest => ?_) fair fun reached sees => ?_
          · cases isRest
            rw [isTracked]
            exact covers_fill_sell covered rfl tracked.2 (fun _ => le_rfl) fun _ => by
              show row.openBaseQty.getD 0 - filledQty ≤ row.openBaseQty.getD 0
              linarith
          · intro sale isSale _ _ _ isShown own isOwn _ _
            rw [sees.2] at isSale
            cases isSale
            cases isShown
            rw [isTracked] at isOwn
            cases isOwn
            refine ⟨_, sees.1, .inl ?_⟩
            rw [isTracked]
            rfl
        exact ⟨booked, booked⟩
    · next untracked =>
      refine booked_of_sees sees (fun _ isRest => ?_) fair fun reached sees => ?_
      · cases isRest
        refine covers_fill_apart covered fun own isOwn sized same => untracked ⟨?_, sized⟩
        rw [(matched _ rfl own isOwn sized same).1]
        exact isOwn
      · intro sale isSale _ _ _ isShown own isOwn same sized
        rw [sees.2] at isSale
        cases isSale
        cases isShown
        refine (untracked ⟨?_, sized⟩).elim
        rw [(matched _ rfl own isOwn sized same).1]
        exact isOwn

theorem covers_add {execution : Execution} {symbol : String} {qty : ℚ}
    (covers : books.Covers (some symbol, qty)) (isSymbol : execution.symbol = symbol)
    (isBuy : execution.side = .buy) (positive : 0 < qty) :
    (books.fill execution).Covers (some symbol, qty + execution.qty) := by
  rintro _ ⟨⟩
  obtain ⟨isBase, covered⟩ := covers symbol rfl
  refine ⟨isBase, fun _ => ?_⟩
  unfold Books.fill
  rw [isSymbol, if_pos isBase, isBuy]
  exact add_le_add_left (covered positive) _

theorem bookManualBuy_books {symbol pair : String} {filledQty quoteValue avgPrice : ℚ}
    {attachExits : Bool}
    (sees : Sees shown (books.fill ⟨symbol, .buy, filledQty⟩) course) (nonneg : 0 ≤ filledQty)
    (covers : ∀ tracked ∈ shown, books.Covers tracked) (fair : books.Fair lot) :
    (bookManualBuy symbol pair filledQty quoteValue avgPrice attachExits).Meets track fates
      (fun _ => Booked before lot) (Booked before lot) course := by
  have untouched : ∀ reached, Sees shown (books.fill ⟨symbol, .buy, filledQty⟩) reached →
      Booked before lot reached :=
    fun reached sees => booked_buy sees (fun tracked isTracked =>
      covers_fill_buy (covers tracked isTracked) rfl nonneg) fair rfl rfl
  have opened : ∀ reached, Sees (some (some symbol, filledQty))
      ((books.fill ⟨symbol, .buy, filledQty⟩).openLot symbol) reached →
        Booked before lot reached := by
    intro reached sees
    refine booked_buy sees (fun tracked isTracked => ?_) fair rfl rfl
    cases isTracked
    exact covers_openLot rfl rfl
  refine findConfig_then (fun _ => untouched _ sees) fun _ => ?_
  set existing := course.1.row with isExisting
  have isShown : shown = existing.map ConfigRow.shown := sees.1.symm
  refine await_then trivial sees untouched fun now reached sees => ?_
  have landed : (landManualBuy existing symbol
      (manualBuyWrite existing symbol pair filledQty quoteValue avgPrice now)).Meets track fates
        (fun _ => Booked before lot) (Booked before lot) reached := by
    unfold manualBuyWrite
    dsimp only
    split
    · exact untouched _ sees
    · split
      · next adds =>
        obtain ⟨isSymbol, sized⟩ := adds
        obtain ⟨isOpen, -⟩ := Option.filter_eq_some_iff.mp isSymbol
        obtain ⟨row, isRow, isOpen⟩ := Option.bind_eq_some_iff.mp isOpen
        rw [isRow] at isShown sized ⊢
        rw [isShown] at sees
        have isTracked : row.shown = (some symbol, row.openBaseQty.getD 0) := by
          unfold ConfigRow.shown
          rw [isOpen]
        refine meets_bind.mpr (update_row sees (fun _ => untouched _ (isShown ▸ sees))
          fun _ reached sees => ?_)
        have booked : Booked before lot reached := by
          refine booked_buy sees (fun tracked isMore => ?_) fair rfl rfl
          cases isMore
          exact covers_add (isTracked ▸ covers _ isShown) rfl rfl sized
        exact ⟨booked, booked⟩
      · exact meets_bind.mpr (update_manualOpen sees (untouched _ sees) fun reached sees =>
          ⟨opened _ sees, opened _ sees⟩)
  refine meets_bind.mpr (landed.mono (fun note reached booked => ?_) fun _ booked => booked)
  split
  · exact booked
  · exact booked

theorem covers_fill_nothing {execution : Execution} {tracked : Option String × ℚ}
    (covers : books.Covers tracked) (nothing : execution.qty = 0) :
    (books.fill execution).Covers tracked := by
  intro own isOwn
  obtain ⟨isBase, covered⟩ := covers own isOwn
  refine ⟨isBase, fun positive => (covered positive).trans ?_⟩
  unfold Books.fill
  rw [nothing, add_zero, sub_zero]
  split
  · split <;> exact le_rfl
  · exact le_rfl

def ManualFill.execution (fill : ManualFill) : Execution := ⟨fill.symbol, fill.side, fill.filledQty⟩

theorem bookManualTrade_books {fill : ManualFill} {attachExits : Bool}
    (stored : ∀ data, Write.BooksSale data → (fates (.write data)).Applies)
    (matched : fill.side = .sell → 0 < fill.filledQty →
      ∀ tracked ∈ shown, ∀ own, tracked.1 = some own → 0 < tracked.2 →
        baseFromCexSymbol fill.symbol = baseFromCexSymbol own →
          fill.symbol = own ∧ fates .findConfig = .answered)
    (sees : Sees shown (books.fill fill.execution) course) (nonneg : 0 ≤ fill.filledQty)
    (covers : ∀ tracked ∈ shown, books.Covers tracked) (kept : books.dropped = false) :
    (bookManualTrade fill attachExits).Meets track fates (fun _ => Booked shown lot)
      (Booked shown lot) course := by
  have fair : (books.fill fill.execution).Fair lot := fair_of_kept (kept_fill kept)
  obtain ⟨symbol, pair, side, filledQty, quoteValue, avgPrice⟩ := fill
  unfold bookManualTrade
  split
  · next tracked =>
    cases (show side = .buy from tracked.1)
    exact bookManualBuy_books sees nonneg covers (fair_of_kept kept)
  · split
    · next sells =>
      cases (show side = .sell from sells.1)
      exact bookManualSell_books stored (matched rfl sells.2) sees sells.2 covers kept
    · next idle =>
      cases side with
      | buy =>
        exact booked_buy sees (fun tracked isTracked =>
          covers_fill_buy (covers tracked isTracked) rfl nonneg) fair rfl rfl
      | sell =>
        have nothing : filledQty ≤ 0 := not_lt.mp fun positive => idle ⟨rfl, positive⟩
        refine booked_of_sees sees (fun tracked isTracked => ?_) fair fun reached sees => ?_
        · exact covers_fill_nothing (covers tracked isTracked) (le_antisymm nothing nonneg)
        · intro sale isSale _ positive
          rw [sees.2] at isSale
          cases isSale
          exact absurd positive (not_lt.mpr nothing)

theorem executeManualTrade_books {request : ManualTradeRequest}
    (nonneg : ∀ request placed, fates (.placeOrder request) = .ok placed →
      0 ≤ (execution request placed).qty)
    (stored : ∀ data, Write.BooksSale data → (fates (.write data)).Applies)
    (matched : ∀ preflight, fates (.previewManualTrade request) = .ok preflight →
      preflight.side = .sell → ∀ connId placed,
        fates (.placeOrder (manualRequest connId preflight)) = .ok placed →
          0 < placed.filledQuantity.getD 0 →
            ∀ tracked ∈ course.1.shown, ∀ own, tracked.1 = some own → 0 < tracked.2 →
              baseFromCexSymbol preflight.symbol = baseFromCexSymbol own →
                preflight.symbol = own ∧ fates .findConfig = .answered)
    (covered : course.Covered) (kept : course.2.dropped = false) (unfilled : course.2.filled = none) :
    (executeManualTrade request).Meets track fates (fun _ => Booked course.1.shown lot)
      (Booked course.1.shown lot) course := by
  have untouched : ∀ reached, Sees course.1.shown course.2 reached →
      Booked course.1.shown lot reached := by
    intro reached sees
    refine booked_of_sees sees covered (fair_of_kept kept) fun reached sees sale isSale => ?_
    rw [sees.2, unfilled] at isSale
    cases isSale
  have sees : Sees course.1.shown course.2 course := ⟨rfl, rfl⟩
  refine meets_bind.mpr (meets_perform.mpr ?_)
  cases previewed : fates (.previewManualTrade request) with
  | error failure => exact untouched _ sees
  | ok preflight =>
    refine still_then only_throwIf sees untouched fun _ reached sees => ?_
    refine await_then trivial sees untouched fun connection? reached sees => ?_
    refine still_then only_orThrow sees untouched fun connId reached sees => ?_
    refine placeOrder_then sees untouched fun placed reached filled sees => ?_
    have isNonneg : 0 ≤ (manualFill preflight placed).filledQty := nonneg _ _ filled
    refine meets_bind.mpr ((@bookManualTrade_books fates lot course.2 course.1.shown reached
      (manualFill preflight placed) _ stored
      (fun isSell => matched preflight previewed isSell connId placed filled) sees isNonneg covered
      kept).mono (fun note reached booked => ?_) fun _ booked => booked)
    exact meets_bind.mpr ((still_books (only_log _) booked).mono (fun _ _ booked => booked)
      fun _ booked => booked)

end Manual

/-! ### Runs -/

section Runs

variable {env : Env} {course : Course}

theorem tickAll_settles {fates : (op : Op) → Fate op}
    (nonneg : ∀ request placed, fates (.placeOrder request) = .ok placed →
      0 ≤ (execution request placed).qty)
    (counted : ∀ row ∈ course.1.row, row.IsOn env → ∀ long ∈ toOpenLong row, ∀ keys balances,
      fates (.getBalances keys) = .ok balances →
        long.IsGhost (freeAsset balances (stripUsdt long.symbol)) →
          long.IsGhost (freeAsset balances (baseFromCexSymbol long.symbol)))
    (stored : ∀ data, Write.BooksSale data → (fates (.write data)).Applies)
    (covered : course.Covered) (kept : course.2.dropped = false) :
    (tickAll env).Meets track fates (fun _ => Settled (course.1.row.bind toOpenLong))
      (Settled (course.1.row.bind toOpenLong)) course := by
  have untouched : Settled (course.1.row.bind toOpenLong) course :=
    ⟨covered, fair_of_kept kept⟩
  refine findConfig_then (fun _ => untouched) fun _ => ?_
  split
  · exact untouched
  · next row isRow =>
    obtain ⟨isRow, -⟩ := Option.filter_eq_some_iff.mp isRow
    have isShown : course.1.shown = some row.shown := congrArg (Option.map _) isRow
    rw [isRow]
    refine Meets.recover (tickUser_settles stored nonneg (counted row isRow) ⟨isShown, rfl⟩
      (covered _ isShown) kept) fun _ _ settled => settled

/-- What a call does that finds what it should. -/
theorem tracks_of_fits {errand : Errand} (covered : course.Covered) (fits : errand.Fits env course) :
    errand.Tracks env course := by
  have atStart : course.begin.Covered := covered
  obtain ⟨counted, matched, stored⟩ := fits
  have tracks (settled : Settled (course.1.row.bind toOpenLong) (errand.step env course))
      (reduces : ∀ request, errand.request = .manualTrade request →
        Reduces course.1.shown (errand.step env course)) : errand.Tracks env course :=
    ⟨settled.2, reduces, settled.1⟩
  have still {program : Call Unit} (isCall : errand.request.call env = program)
      (only : program.Only Still) :
      Settled (course.1.row.bind toOpenLong) (errand.step env course) := by
    unfold Errand.step
    rw [isCall]
    exact meets_always.mp (still_settles only ⟨atStart, fair_of_kept rfl⟩)
  cases isRequest : errand.request with
  | tick =>
    refine tracks ?_ fun request isTrade => by rw [isRequest] at isTrade; cases isTrade
    unfold Errand.step
    rw [isRequest]
    exact meets_always.mp (tickAll_settles errand.nonneg (counted isRequest) stored atStart rfl)
  | skim =>
    refine tracks ?_ fun request isTrade => by rw [isRequest] at isTrade; cases isTrade
    unfold Errand.step
    rw [isRequest]
    refine meets_always.mp (meets_bind.mpr ?_)
    exact (skimCexPositionProfit_settles stored errand.nonneg atStart rfl).mono
      (fun _ _ settled => settled) fun _ settled => settled
  | override overrides =>
    refine tracks ?_ fun request isTrade => by rw [isRequest] at isTrade; cases isTrade
    exact still (congrArg (Request.call env) isRequest)
      (only_bind (only_setCexPositionExitOverrides _) fun _ => trivial)
  | landPeak position =>
    refine tracks ?_ fun request isTrade => by rw [isRequest] at isTrade; cases isTrade
    exact still (congrArg (Request.call env) isRequest)
      (only_recover (only_perform trivial) fun _ => trivial)
  | manualTrade request =>
    have booked : Booked course.1.shown (course.1.row.bind toOpenLong) (errand.step env course) := by
      unfold Errand.step
      rw [isRequest]
      refine meets_always.mp (meets_bind.mpr ?_)
      exact (@executeManualTrade_books errand.fates _ course.begin request errand.nonneg stored
        (matched request isRequest) atStart rfl rfl).mono (fun _ _ booked => booked)
        fun _ booked => booked
    exact tracks booked.1 fun _ _ => booked.2

/-- A row that shows no lot, and books that are empty. -/
def flatStart (row : Option ConfigRow) : Course :=
  (⟨row.map ConfigRow.clearOpenLot, [], none⟩, ⟨"", 0, [], none, false⟩)

theorem flatStart_covered (row : Option ConfigRow) : (flatStart row).Covered := by
  intro shown isShown
  obtain ⟨cleared, isCleared, rfl⟩ := Option.map_eq_some_iff.mp isShown
  obtain ⟨found, -, rfl⟩ := Option.map_eq_some_iff.mp isCleared
  exact covers_flat

end Runs

/-! ### One coin -/

instance (books : Books) (lot : Option CexOpenLong) : Decidable (books.Fair lot) :=
  inferInstanceAs (Decidable (_ → ∀ long ∈ lot, long.IsGhost _))

/-- An exchange on which every order is filled with a coin at 100, an account that has a coin, and
a council that holds. -/
def oneSol : (op : Op) → Fate op
  | .findConfig => .answered
  | .write _ => .answered
  | .postPeak _ => ()
  | .landPeak _ => .answered
  | .takeSkim => 0
  | .currentTime => 0
  | .findTradingConnection _ => .ok true
  | .findAnyConnection => .ok (some "binance")
  | .loadConnection _ => .ok (some ⟨"key", "secret"⟩)
  | .computeAutomationReadiness _ => .ok true
  | .getBalances _ => .ok [⟨"USDT", 500⟩, ⟨"USDC", 500⟩, ⟨"SOL", 1⟩]
  | .fetchBookTicker _ => .ok none
  | .getCexExitSettings => .error "unavailable"
  | .cexCouncilEvaluate _ _ => .ok ⟨false, 0, 0⟩
  | .previewManualTrade request => .ok
    { ok := true
      blockers := []
      symbol := request.symbol
      side := request.side
      quoteOrderQty := request.quoteOrderQty
      quantity := request.quantity
      estPrice := some 100
      estQuoteValue := some 100 }
  | .placeOrder _ => .ok ⟨"order", some 1, some 100, some 100⟩
  | .appendTradingLog _ => .ok ()

/-- A request that meets these. -/
def solErrand (request : Request) : Errand where
  request := request
  fates := oneSol
  nonneg := by
    rintro _ _ ⟨⟩
    exact zero_le_one

def buyIn (symbol : String) : Request :=
  .manualTrade ⟨symbol, .buy, some 100, none, none, false⟩

def sellIn (symbol : String) : Request :=
  .manualTrade ⟨symbol, .sell, none, some 1, none, false⟩

def switchedOn : ConfigRow := { createdRow ⟨"SOLUSDT", "SOL/USDT", 100, 1, 100, 0⟩ with enabled := true }

end GdslExchange.Cex
