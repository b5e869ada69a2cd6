/-
This file settles when there is one champion and its model is the file in use, whatever candidates
come and whatever checks overlap or fail.
-/

import GdslExchange.Ml.Promotion

namespace GdslExchange.Ml

open Async Async.Program

/-! ### Runs -/

/-- What takes its turns: a check, or the trainer with a candidate. -/
inductive Activity where
  | check
  | train (candidate : Candidate)

def Activity.call : Activity → Call Unit
  | check => checkAndPromote
  | train candidate => publish candidate

/-- There is at most one champion, and its model is in use. -/
structure Registry.Crowned (registry : Registry) : Prop where
  one : registry.champions.length ≤ 1
  inUse : ∀ row ∈ registry.champions, registry.champion = some row.model

/-- A registry in order, as it is before the first check. -/
structure Opening where
  registry : Registry
  crowned : registry.Crowned

def promotionSystem (opening : Opening) (activities : List Activity) : System models Unit :=
  ⟨⟨opening.registry, []⟩, activities.map Activity.call⟩

/-- What is true of a promotion that the step records: of its candidate, of the champion that the
check has read and of the registry. -/
def Promoting (step : Step models)
    (property : Candidate → Option ModelMetrics → Registry → Prop) : Prop :=
  match step with
  | ⟨before, _, .createChampion candidate champion, (delivery, _)⟩ =>
    delivery.Applies → property candidate champion before.state
  | _ => True

/-- What a promotion promises: the gates have been passed, and the champion gets better. -/
structure Deserved (candidate : Candidate) (registry : Registry) : Prop where
  drawdown : candidate.metrics.maxDrawdown < maxDrawdownGate
  winRate : minWinRate ≤ candidate.metrics.winRate
  better : ∀ last ∈ registry.lastPromoted, last.metrics.sharpe < candidate.metrics.sharpe

/-- After a step there is at most one champion, its model is in use, and a promotion that the step
records is deserved. -/
structure Sound (step : Step models) : Prop where
  crowned : step.after.state.Crowned
  deserved : Promoting step fun candidate _ registry => Deserved candidate registry

/-- A promotion meets no champion and finds the model of its candidate in use; the drawdown is not
right at the limit; and the model promoted last is the champion that the check has read, with a
Sharpe ratio that is not negative, or has a lower one than the candidate. -/
structure Timely (candidate : Candidate) (champion : Option ModelMetrics) (registry : Registry) :
    Prop where
  vacant : registry.champions = []
  inPlace : registry.champion = some candidate.model
  inside : candidate.metrics.maxDrawdown ≠ maxDrawdownGate
  comparable : ∀ last ∈ registry.lastPromoted,
    champion = some last.metrics ∧ 0 ≤ last.metrics.sharpe ∨
      last.metrics.sharpe < candidate.metrics.sharpe

/-- What a copy of the candidate leaves in the place of the champion. -/
def Copying.left (fate : Copying) (registry : Registry) : Option Onnx :=
  match registry.candidate, fate with
  | none, _ => none
  | some model, .copied delivery => if delivery.Applies then some model else none
  | some _, .torn left _ => some left

/-- No model but its own is put in the place of a champion, and every promotion is timely. -/
def Orderly (step : Step models) : Prop :=
  match step with
  | ⟨before, _, .installCandidate, fate⟩ =>
    ∀ model ∈ fate.left before.state, ∀ row ∈ before.state.champions, row.model = model
  | _ => Promoting step Timely

instance (candidate : Candidate) (champion : Option ModelMetrics) (registry : Registry) :
    Decidable (Timely candidate champion registry) :=
  decidable_of_iff (registry.champions = [] ∧ registry.champion = some candidate.model ∧
      candidate.metrics.maxDrawdown ≠ maxDrawdownGate ∧
      ∀ last ∈ registry.lastPromoted, champion = some last.metrics ∧ 0 ≤ last.metrics.sharpe ∨
        last.metrics.sharpe < candidate.metrics.sharpe)
    ⟨fun ⟨vacant, inPlace, inside, comparable⟩ => ⟨vacant, inPlace, inside, comparable⟩,
      fun timely => ⟨timely.vacant, timely.inPlace, timely.inside, timely.comparable⟩⟩

instance (step : Step models) : Decidable (Orderly step) := by
  unfold Orderly Promoting
  split
  · infer_instance
  · split <;> infer_instance

/-! ### What a check may do -/

/-- A check promotes only what has passed its gates, and never removes the model in use. -/
def Permitted : Op → Prop
  | .createChampion candidate champion =>
    candidate.metrics.maxDrawdown ≤ maxDrawdownGate ∧ minWinRate ≤ candidate.metrics.winRate ∧
      ∀ read ∈ champion, read.sharpe * promotionMargin < candidate.metrics.sharpe
  | .unlink .champion => False
  | _ => True

theorem only_unlinkIfThere {file : ModelFile} (removable : Permitted (.unlink file)) :
    (unlinkIfThere file).Only Permitted := by
  refine only_then trivial fun there => ?_
  split
  · exact only_perform removable
  · trivial

theorem only_cleanupCandidate : cleanupCandidate.Only Permitted :=
  only_bind (only_unlinkIfThere trivial) fun _ => only_unlinkIfThere trivial

theorem only_mtimes (names : List String) : (mtimes names).Only Permitted := by
  induction names with
  | nil => trivial
  | cons name rest inductionHypothesis =>
    exact only_then trivial fun _ => only_bind inductionHypothesis fun _ => trivial

theorem only_pruneArchive : pruneArchive.Only Permitted := by
  refine only_then trivial fun there => ?_
  split
  · exact only_then trivial fun names => only_bind (only_mtimes _) fun files =>
      only_forEach fun _ _ => only_perform trivial
  · trivial

theorem only_reject (candidate : Candidate) (reason : String) :
    (reject candidate reason).Only Permitted :=
  only_bind (only_recover (only_perform trivial) fun _ => trivial) fun _ => only_cleanupCandidate

theorem only_archive (champion : Option ModelMetrics) : (archive champion).Only Permitted := by
  refine only_then trivial fun there => ?_
  split
  · exact only_then trivial fun timestamp =>
      only_then trivial fun _ => only_perform trivial
  · trivial

theorem only_promote {candidate : Candidate} {champion : Option ModelMetrics}
    (passed : Permitted (.createChampion candidate champion)) :
    (promote candidate champion).Only Permitted := by
  refine only_then trivial fun there => ?_
  split
  · refine only_then trivial fun _ => ?_
    refine only_bind (only_archive _) fun _ => ?_
    refine only_then trivial fun _ => ?_
    refine only_then passed fun _ => ?_
    refine only_bind only_cleanupCandidate fun _ => ?_
    exact only_bind only_pruneArchive fun _ => only_perform trivial
  · exact only_cleanupCandidate

theorem only_challenge {candidate : Candidate}
    (drawdown : candidate.metrics.maxDrawdown ≤ maxDrawdownGate)
    (winRate : minWinRate ≤ candidate.metrics.winRate) :
    (challenge candidate).Only Permitted := by
  refine only_bind (only_then trivial fun row => trivial) fun champion => ?_
  cases champion with
  | none => exact only_promote ⟨drawdown, winRate, nofun⟩
  | some champion =>
    dsimp only
    split
    case isTrue => exact only_reject _ _
    case isFalse beaten =>
      refine only_promote ⟨drawdown, winRate, fun read isRead => ?_⟩
      rw [← Option.some.inj isRead]
      exact not_le.mp beaten

theorem only_checkAndPromote : checkAndPromote.Only Permitted := by
  have reads : readCandidateMetrics.Only Permitted := by
    refine only_then trivial fun there => ?_
    split
    · exact only_recover (only_perform trivial) fun _ => trivial
    · trivial
  refine only_bind reads fun found => ?_
  cases found with
  | none => trivial
  | some candidate =>
    dsimp only
    split
    case isTrue => exact only_reject _ _
    case isFalse drawdown =>
      split
      case isTrue => exact only_reject _ _
      case isFalse winRate => exact only_challenge (not_lt.mp drawdown) (not_lt.mp winRate)

theorem only_call (activity : Activity) : activity.call.Only Permitted := by
  cases activity with
  | check => exact only_checkAndPromote
  | train candidate => exact only_then trivial fun _ => only_perform trivial

/-! ### Steps -/

section Steps

variable {registry : Registry}

theorem Registry.Crowned.of_same {after : Registry} (crowned : registry.Crowned)
    (sameRows : after.champions = registry.champions)
    (sameFile : after.champion = registry.champion) : after.Crowned := by
  refine ⟨?_, ?_⟩
  · rw [sameRows]
    exact crowned.one
  · rw [sameRows, sameFile]
    exact crowned.inUse

theorem champions_archiveRows (now : ℕ) : (registry.archiveRows now).champions = [] := by
  refine List.filter_eq_nil_iff.mpr fun row member => ?_
  obtain ⟨old, -, rfl⟩ := List.mem_map.mp member
  split
  · simp
  · simpa

theorem champions_create_rejected (candidate : Candidate) (notes : String) :
    (registry.create (candidate.row .rejected none notes)).champions = registry.champions := by
  simp [Registry.champions, Registry.create, Candidate.row]

theorem champions_create_champion (candidate : Candidate) (now : ℕ) (notes : String) :
    (registry.create (candidate.row .champion (some now) notes)).champions =
      registry.champions ++ [candidate.row .champion (some now) notes] := by
  simp [Registry.champions, Registry.create, Candidate.row]

theorem crowned_installed_iff (crowned : registry.Crowned) (fate : Copying) :
    (installed fate registry).1.Crowned ↔
      ∀ model ∈ fate.left registry, ∀ row ∈ registry.champions, row.model = model := by
  have replaced (model : Onnx) : (registry.install model).Crowned ↔
      ∀ row ∈ registry.champions, row.model = model := by
    constructor
    · intro after row member
      exact (Option.some.inj (after.inUse row member)).symm
    · exact fun own => ⟨crowned.one, fun row member => congrArg some (own row member).symm⟩
  unfold installed Copying.left
  cases registry.candidate with
  | none => simpa using crowned
  | some model =>
    cases fate with
    | torn left message => simpa using replaced left
    | copied delivery =>
      by_cases applies : delivery.Applies
      · simpa [Delivery.write, applies] using replaced model
      · simpa [Delivery.write, applies] using crowned

theorem crowned_create_iff (candidate : Candidate) (now : ℕ) (notes : String) :
    (registry.create (candidate.row .champion (some now) notes)).Crowned ↔
      registry.champions = [] ∧ registry.champion = some candidate.model := by
  have row := @champions_create_champion registry candidate now notes
  constructor
  · rintro ⟨one, inUse⟩
    rw [row] at one inUse
    refine ⟨?_, inUse _ (List.mem_append_right _ (List.mem_singleton.mpr rfl))⟩
    rw [List.length_append, List.length_singleton] at one
    exact List.length_eq_zero_iff.mp (by omega)
  · rintro ⟨vacant, inPlace⟩
    refine ⟨?_, ?_⟩
    · rw [row, vacant]
      exact le_rfl
    · rw [row, vacant]
      rintro other member
      rw [List.mem_singleton.mp member]
      exact inPlace

/-- What a check promotes is deserved if its drawdown is not right at the limit, and what it is
compared with is the champion and not negative, or worse. -/
theorem deserved_iff {candidate : Candidate} {champion : Option ModelMetrics}
    (passed : Permitted (.createChampion candidate champion)) :
    Deserved candidate registry ↔ candidate.metrics.maxDrawdown ≠ maxDrawdownGate ∧
      ∀ last ∈ registry.lastPromoted, champion = some last.metrics ∧ 0 ≤ last.metrics.sharpe ∨
        last.metrics.sharpe < candidate.metrics.sharpe := by
  obtain ⟨drawdown, winRate, beaten⟩ := passed
  constructor
  · intro deserved
    exact ⟨deserved.drawdown.ne, fun last isLast => .inr (deserved.better last isLast)⟩
  · rintro ⟨inside, comparable⟩
    refine ⟨lt_of_le_of_ne drawdown inside, winRate, fun last isLast => ?_⟩
    obtain ⟨isRead, nonneg⟩ | worse := comparable last isLast
    · have margin := beaten _ isRead
      unfold promotionMargin at margin
      linarith
    · exact worse

end Steps

/-- What no other operation touches is there after it as before. -/
theorem crowned_write {registry after : Registry} {delivery : Delivery} {Row : Type} {written : Row}
    (crowned : registry.Crowned) (kept : after.Crowned) :
    (delivery.write registry after written).1.Crowned := by
  obtain same | same := @Delivery.write_cases _ _ delivery registry after written
  · rwa [same]
  · rwa [same]

/-- The operations that neither put a model in place nor record a promotion. -/
def Quiet : Op → Prop
  | .installCandidate => False
  | .createChampion _ _ => False
  | _ => True

theorem crowned_quiet {op : Op} {fate : Fate op} {registry : Registry} (permitted : Permitted op)
    (quiet : Quiet op) (crowned : registry.Crowned) : (perform op fate registry).1.Crowned := by
  cases op with
  | installCandidate => exact quiet.elim
  | createChampion candidate champion => exact quiet.elim
  | unlink file =>
    refine crowned_write crowned ?_
    cases file with
    | champion => exact permitted.elim
    | candidate => exact crowned.of_same rfl rfl
    | candidateMetrics => exact crowned.of_same rfl rfl
  | archiveRows =>
    obtain ⟨delivery, now⟩ := fate
    have empty := @champions_archiveRows registry now
    have archived : (registry.archiveRows now).Crowned :=
      ⟨by rw [empty]; exact zero_le_one, fun row member => by rw [empty] at member; cases member⟩
    exact crowned_write crowned archived
  | logRejection candidate reason =>
    exact crowned_write crowned
      (crowned.of_same (champions_create_rejected candidate reason) rfl)
  | archiveChampion name =>
    obtain ⟨delivery, now⟩ := fate
    show (delivery.update registry registry.champion _).1.Crowned
    cases registry.champion with
    | none => exact crowned
    | some model => exact crowned_write crowned (crowned.of_same rfl rfl)
  | mtime name =>
    show (Delivery.update fate registry _ _).1.Crowned
    cases registry.archive.find? fun archived => archived.name = name with
    | none => exact crowned
    | some archived => exact crowned_write crowned crowned
  | makeArchiveDir => exact crowned_write crowned (crowned.of_same rfl rfl)
  | unlinkArchived name => exact crowned_write crowned (crowned.of_same rfl rfl)
  | writeModel model => exact crowned_write crowned (crowned.of_same rfl rfl)
  | writeMetrics candidate => exact crowned_write crowned (crowned.of_same rfl rfl)
  | _ => exact crowned

/-- From a registry that is crowned, a step leads to one and promotes what is deserved if and only
if it is orderly. -/
theorem sound_iff_orderly {step : Step models} (permitted : Permitted step.op)
    (crowned : step.before.state.Crowned) : Sound step ↔ Orderly step := by
  obtain ⟨before, caller, op, fate⟩ := step
  cases op with
  | installCandidate =>
    have isCrowned := crowned_installed_iff crowned fate
    exact ⟨fun sound => isCrowned.mp sound.crowned,
      fun orderly => ⟨isCrowned.mpr orderly, trivial⟩⟩
  | createChampion candidate champion =>
    obtain ⟨delivery, now⟩ := fate
    set notes := promotionNotes candidate.metrics champion
    by_cases applies : delivery.Applies
    · have created : (Step.after ⟨before, caller, .createChampion candidate champion,
          (delivery, now)⟩).state =
          before.state.create (candidate.row .champion (some now) notes) := if_pos applies
      have isCrowned := @crowned_create_iff before.state candidate now notes
      have isDeserved := @deserved_iff before.state _ _ permitted
      constructor
      · intro sound
        obtain ⟨vacant, inPlace⟩ := isCrowned.mp (created ▸ sound.crowned)
        obtain ⟨inside, comparable⟩ := isDeserved.mp (sound.deserved applies)
        exact fun _ => ⟨vacant, inPlace, inside, comparable⟩
      · intro orderly
        obtain ⟨vacant, inPlace, inside, comparable⟩ := orderly applies
        refine ⟨?_, fun _ => isDeserved.mpr ⟨inside, comparable⟩⟩
        rw [created]
        exact isCrowned.mpr ⟨vacant, inPlace⟩
    · have same : (Step.after ⟨before, caller, .createChampion candidate champion,
          (delivery, now)⟩).state = before.state := if_neg applies
      refine iff_of_true ⟨?_, fun applied => absurd applied applies⟩
        fun applied => absurd applied applies
      rw [same]
      exact crowned
  | _ => exact iff_of_true ⟨crowned_quiet permitted trivial crowned, trivial⟩ trivial

/-! ### Runs -/

def Reigning (moment : Moment models) : Prop := moment.state.Crowned

section Runs

variable {opening : Opening} {activities : List Activity} {turns : List (Turn models)}

theorem permitted_steps :
    ∀ step ∈ (promotionSystem opening activities).steps turns, Permitted step.op :=
  System.permitted_of_only (System.each_call fun _ activity => only_call activity) turns

theorem orderly_of_sound_run
    (sound : ∀ step ∈ (promotionSystem opening activities).steps turns, Sound step) :
    ∀ step ∈ (promotionSystem opening activities).steps turns, Orderly step := by
  refine (@System.run_keeps models Unit Reigning (fun step => Permitted step.op ∧ Sound step)
    Orderly (fun step crowned known => ?_) (promotionSystem opening activities) opening.crowned
    turns fun step member => ⟨permitted_steps step member, sound step member⟩).2
  exact ⟨(sound_iff_orderly known.1 crowned).mp known.2, known.2.crowned⟩

end Runs

/-- In a run there is at most one champion, its model is in use and every promotion is deserved, if
and only if every promotion is timely and no champion's model is replaced by another. -/
theorem oneChampion_iff (opening : Opening) (activities : List Activity)
    (turns : List (Turn models)) :
    (∀ step ∈ (promotionSystem opening activities).steps turns, Sound step) ↔
      ∀ step ∈ (promotionSystem opening activities).steps turns, Orderly step := by
  refine ⟨orderly_of_sound_run, fun orderly => ?_⟩
  refine (@System.run_keeps models Unit Reigning (fun step => Permitted step.op ∧ Orderly step)
    Sound (fun step crowned known => ?_) (promotionSystem opening activities) opening.crowned
    turns fun step member => ⟨permitted_steps step member, orderly step member⟩).2
  have sound := (sound_iff_orderly known.1 crowned).mpr known.2
  exact ⟨sound, sound.crowned⟩

/-! ### A candidate right at the limit -/

/-- A quarter of the equity is lost at the worst. -/
def atTheLimit : Candidate where
  metrics := ⟨12 / 10, 15 / 10, 1 / 2, 1 / 4, 14 / 10, 3 / 10, 500, "dqn-v2"⟩
  model := ⟨[2]⟩

def noModels : Opening where
  registry := ⟨none, none, none, false, [], []⟩
  crowned := ⟨zero_le_one, fun row member => by cases member⟩

/-- Everything is answered. -/
def smoothly : (op : Op) → Fate op
  | .existsSync _ => .answered
  | .readMetrics => .answered
  | .findChampion => .answered
  | .logRejection _ _ => .answered
  | .makeArchiveDir => .answered
  | .timestamp => "2025-01-01T00-00-00-000Z"
  | .archiveChampion _ => (.answered, 0)
  | .archiveRows => (.answered, 0)
  | .installCandidate => .copied .answered
  | .createChampion _ _ => (.answered, 0)
  | .unlink _ => .answered
  | .existsArchive => .answered
  | .readArchive => .answered
  | .mtime _ => .answered
  | .unlinkArchived _ => .answered
  | .reloadPolicy => .answered
  | .writeModel _ => .answered
  | .writeMetrics _ => .answered

/-- It is promoted, although the drawdown has to be below the limit. -/
theorem not_oneChampion : ¬ ∀ (opening : Opening) (activities : List Activity)
    (turns : List (Turn models)),
    ∀ step ∈ (promotionSystem opening activities).steps turns, Sound step := by
  intro always
  have orderly := orderly_of_sound_run (always noModels [.train atTheLimit, .check]
    ([0, 0, 1, 1, 1, 1, 1, 1, 1, 1].map fun caller => ⟨caller, smoothly⟩))
  exact absurd orderly (by decide +kernel)

end GdslExchange.Ml
