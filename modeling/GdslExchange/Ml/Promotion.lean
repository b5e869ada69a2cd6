/-
This file models the promotion of a candidate model: the gates, the archive of the champion, the
copy of the candidate over it and the row that records it.

Every step on a file and every query is an operation of its own, between which other checks and
the trainer, which writes the candidates, take theirs.
-/

import GdslExchange.Async.Delivery
import GdslExchange.Async.Program
import GdslExchange.Numeric.Fixed

namespace GdslExchange.Ml

open Async Async.Program Numeric

/-! ### Models and their metrics -/

def promotionMargin : ℚ := 105 / 100

def maxDrawdownGate : ℚ := 25 / 100

def minWinRate : ℚ := 47 / 100

def maxArchiveCount : ℕ := 3

structure ModelMetrics where
  sharpe : ℚ
  sortino : ℚ
  winRate : ℚ
  maxDrawdown : ℚ
  profitFactor : ℚ
  totalReturn : ℚ
  episodes : ℕ
  modelId : String
deriving DecidableEq

/-- The contents of a model file. -/
structure Onnx where
  weights : List ℤ
deriving DecidableEq

/-- Metrics, and the model that they have been measured on. The metrics file holds the metrics
only; which model they belong to is kept for what is said of it. -/
structure Candidate where
  metrics : ModelMetrics
  model : Onnx

inductive Status where
  | champion
  | archived
  | rejected
deriving DecidableEq

/-- A row of `ModelVersion`, and the model that it is about, which is no column. -/
structure ModelVersion where
  modelId : String
  status : Status
  sharpe : Option ℚ
  sortino : Option ℚ
  winRate : Option ℚ
  maxDrawdown : Option ℚ
  profitFactor : Option ℚ
  totalReturn : Option ℚ
  episodes : Option ℕ
  promotedAt : Option ℕ
  archivedAt : Option ℕ
  notes : Option String
  model : Onnx

/-- What `getChampionMetrics` makes of a row. -/
def ModelVersion.metrics (row : ModelVersion) : ModelMetrics where
  sharpe := row.sharpe.getD 0
  sortino := row.sortino.getD 0
  winRate := row.winRate.getD 0
  maxDrawdown := row.maxDrawdown.getD 1
  profitFactor := row.profitFactor.getD 1
  totalReturn := row.totalReturn.getD 0
  episodes := row.episodes.getD 0
  modelId := row.modelId

def Candidate.row (candidate : Candidate) (status : Status) (promotedAt : Option ℕ)
    (notes : String) : ModelVersion where
  modelId := candidate.metrics.modelId
  status := status
  sharpe := candidate.metrics.sharpe
  sortino := candidate.metrics.sortino
  winRate := candidate.metrics.winRate
  maxDrawdown := candidate.metrics.maxDrawdown
  profitFactor := candidate.metrics.profitFactor
  totalReturn := candidate.metrics.totalReturn
  episodes := candidate.metrics.episodes
  promotedAt := promotedAt
  archivedAt := none
  notes := notes
  model := candidate.model

/-- The later of two dates, where a missing one is the latest of all. -/
def notBefore (first second : Option ℕ) : Bool :=
  match first, second with
  | none, _ => true
  | some _, none => false
  | some first, some second => second ≤ first

/-- The row that has been promoted last. -/
def newest : List ModelVersion → Option ModelVersion
  | [] => none
  | row :: rest =>
    match newest rest with
    | none => some row
    | some other => if notBefore row.promotedAt other.promotedAt then some row else some other

/-! ### The models directory and the table -/

inductive ModelFile where
  | champion
  | candidate
  | candidateMetrics
deriving DecidableEq

structure ArchivedModel where
  name : String
  mtime : ℕ
  model : Onnx

/-- The files of `/models`, and the rows in the order in which they were created. A metrics file
that cannot be parsed holds no candidate. -/
structure Registry where
  champion : Option Onnx
  candidate : Option Onnx
  candidateMetrics : Option (Option Candidate)
  archiveDir : Bool
  archive : List ArchivedModel
  rows : List ModelVersion

namespace Registry

variable (registry : Registry)

def holds : ModelFile → Bool
  | .champion => registry.champion.isSome
  | .candidate => registry.candidate.isSome
  | .candidateMetrics => registry.candidateMetrics.isSome

def unlink : ModelFile → Registry
  | .champion => { registry with champion := none }
  | .candidate => { registry with candidate := none }
  | .candidateMetrics => { registry with candidateMetrics := none }

def champions : List ModelVersion := registry.rows.filter fun row => row.status = .champion

/-- The model that has been promoted last, be it the champion or archived. -/
def lastPromoted : Option ModelVersion :=
  (registry.rows.filter fun row => row.status = .champion ∨ row.status = .archived).getLast?

/-- Champions are archived. -/
def archiveRows (now : ℕ) : Registry :=
  { registry with
    rows := registry.rows.map fun row =>
      if row.status = .champion then { row with status := .archived, archivedAt := some now }
      else row }

def install (model : Onnx) : Registry := { registry with champion := some model }

def create (row : ModelVersion) : Registry := { registry with rows := registry.rows ++ [row] }

def archiveModel (archived : ArchivedModel) : Registry :=
  { registry with
    archive := (registry.archive.filter fun other => other.name ≠ archived.name) ++ [archived] }

def unlinkArchived (name : String) : Registry :=
  { registry with archive := registry.archive.filter fun other => other.name ≠ name }

end Registry

/-! ### Operations -/

inductive Op where
  | existsSync (file : ModelFile)
  | readMetrics
  | findChampion
  | logRejection (candidate : Candidate) (reason : String)
  | makeArchiveDir
  | timestamp
  | archiveChampion (name : String)
  | archiveRows
  | installCandidate
  | createChampion (candidate : Candidate) (champion : Option ModelMetrics)
  | unlink (file : ModelFile)
  | existsArchive
  | readArchive
  | mtime (name : String)
  | unlinkArchived (name : String)
  | reloadPolicy
  | writeModel (model : Onnx)
  | writeMetrics (candidate : Candidate)

@[reducible] def Result : Op → Type
  | .existsSync _ => Bool
  | .readMetrics => Option Candidate
  | .findChampion => Option ModelVersion
  | .timestamp => String
  | .existsArchive => Bool
  | .readArchive => List String
  | .mtime _ => ℕ
  | _ => Unit

/-- How the copy of a file ends. A copy that is torn leaves something else in its place. -/
inductive Copying where
  | copied (delivery : Delivery)
  | torn (left : Onnx) (message : String)

/-- Queries may be lost, dates are those of the database's clock. -/
@[reducible] def Fate : Op → Type
  | .timestamp => String
  | .archiveChampion _ => Delivery × ℕ
  | .archiveRows => Delivery × ℕ
  | .installCandidate => Copying
  | .createChampion _ _ => Delivery × ℕ
  | _ => Delivery

/-- `notes` of a new champion. -/
def promotionNotes (candidate : ModelMetrics) : Option ModelMetrics → String
  | some champion =>
    "Replaced " ++ champion.modelId ++ " (sharpe " ++ (toFixed 3 champion.sharpe).render ++ " → " ++
      (toFixed 3 candidate.sharpe).render ++ ")"
  | none => "First champion"

/-- The copy of the candidate over the champion. -/
def installed (fate : Copying) (registry : Registry) : Registry × Except String Unit :=
  match registry.candidate, fate with
  | none, _ => (registry, .error "ENOENT: no such file or directory")
  | some model, .copied delivery => delivery.write registry (registry.install model) ()
  | some _, .torn left message => (registry.install left, .error message)

def perform : (op : Op) → Fate op → Registry → Registry × Except String (Result op)
  | .existsSync file, _, registry => (registry, .ok (registry.holds file))
  | .readMetrics, delivery, registry =>
    delivery.read registry (registry.candidateMetrics.getD none)
  | .findChampion, delivery, registry => delivery.read registry (newest registry.champions)
  | .logRejection candidate reason, delivery, registry =>
    delivery.write registry (registry.create (candidate.row .rejected none reason)) ()
  | .makeArchiveDir, delivery, registry =>
    delivery.write registry { registry with archiveDir := true } ()
  | .timestamp, text, registry => (registry, .ok text)
  | .archiveChampion name, (delivery, now), registry =>
    delivery.update registry registry.champion fun model =>
      (registry.archiveModel ⟨name, now, model⟩, ())
  | .archiveRows, (delivery, now), registry =>
    delivery.write registry (registry.archiveRows now) ()
  | .installCandidate, fate, registry => installed fate registry
  | .createChampion candidate champion, (delivery, now), registry =>
    delivery.write registry
      (registry.create (candidate.row .champion (some now)
        (promotionNotes candidate.metrics champion))) ()
  | .unlink file, delivery, registry => delivery.write registry (registry.unlink file) ()
  | .existsArchive, _, registry => (registry, .ok registry.archiveDir)
  | .readArchive, delivery, registry =>
    delivery.read registry (registry.archive.map ArchivedModel.name)
  | .mtime name, delivery, registry =>
    delivery.update registry (registry.archive.find? fun archived => archived.name = name)
      fun archived => (registry, archived.mtime)
  | .unlinkArchived name, delivery, registry =>
    delivery.write registry (registry.unlinkArchived name) ()
  | .reloadPolicy, delivery, registry => delivery.read registry ()
  | .writeModel model, delivery, registry =>
    delivery.write registry { registry with candidate := some model } ()
  | .writeMetrics candidate, delivery, registry =>
    delivery.write registry { registry with candidateMetrics := some (some candidate) } ()

/-- The files of the models and their table. -/
@[reducible] def models : Service where
  State := Registry
  Op := Op
  Result := Result
  Failure := String
  Fate := Fate
  perform := perform

abbrev Call (Value : Type) : Type := Program models Value

def await (op : Op) : Call (Result op) := @Program.perform models op

/-! ### The check -/

def readCandidateMetrics : Call (Option Candidate) := do
  let there ← await (.existsSync .candidateMetrics)
  if there then recover (await .readMetrics) fun _ => pure none else pure none

def getChampionMetrics : Call (Option ModelMetrics) := do
  let row ← await .findChampion
  pure (row.map ModelVersion.metrics)

def unlinkIfThere (file : ModelFile) : Call Unit := do
  let there ← await (.existsSync file)
  if there then await (.unlink file) else pure ()

def cleanupCandidate : Call Unit := do
  unlinkIfThere .candidate
  unlinkIfThere .candidateMetrics

/-- The times of files, newest first. -/
def mtimes : List String → Call (List (String × ℕ))
  | [] => pure []
  | name :: rest => do
    let time ← await (.mtime name)
    let times ← mtimes rest
    pure ((name, time) :: times)

def pruneArchive : Call Unit := do
  let there ← await .existsArchive
  if there then do
    let names ← await .readArchive
    let files ← mtimes (names.filter fun name => ".onnx".toList <:+ name.toList)
    let sorted := files.mergeSort fun first second => second.2 ≤ first.2
    forEach (fun file => await (.unlinkArchived file.1)) (sorted.drop maxArchiveCount)
  else pure ()

/-- The rejection is recorded if it can be, and the candidate is removed. -/
def reject (candidate : Candidate) (reason : String) : Call Unit := do
  recover (await (.logRejection candidate reason)) fun _ => pure ()
  cleanupCandidate

/-- The champion is archived, if there is one. -/
def archive (champion : Option ModelMetrics) : Call Unit := do
  let there ← await (.existsSync .champion)
  if there ∧ champion.isSome then do
    let timestamp ← await .timestamp
    await (.archiveChampion ("champion-" ++ timestamp ++ ".onnx"))
    await .archiveRows
  else pure ()

/-- A candidate that has passed takes the place of the champion. -/
def promote (candidate : Candidate) (champion : Option ModelMetrics) : Call Unit := do
  let there ← await (.existsSync .candidate)
  if there then do
    await .makeArchiveDir
    archive champion
    await .installCandidate
    await (.createChampion candidate champion)
    cleanupCandidate
    pruneArchive
    await .reloadPolicy
  else cleanupCandidate

/-- A candidate that has passed the hard gates is compared with the champion. -/
def challenge (candidate : Candidate) : Call Unit := do
  let champion ← getChampionMetrics
  match champion with
  | none => promote candidate none
  | some champion =>
    if candidate.metrics.sharpe ≤ champion.sharpe * promotionMargin then
      reject candidate ("sharpe " ++ (toFixed 3 candidate.metrics.sharpe).render ++
        " didn't beat champion " ++ (toFixed 3 champion.sharpe).render ++ " × " ++
        text promotionMargin)
    else promote candidate (some champion)

def checkAndPromote : Call Unit := do
  let found ← readCandidateMetrics
  match found with
  | none => pure ()
  | some candidate =>
    if candidate.metrics.maxDrawdown > maxDrawdownGate then
      reject candidate ("maxDrawdown too high: " ++ (toFixed 3 candidate.metrics.maxDrawdown).render)
    else if candidate.metrics.winRate < minWinRate then
      reject candidate ("winRate too low: " ++ (toFixed 3 candidate.metrics.winRate).render)
    else challenge candidate

/-- The trainer writes the model and then its metrics. -/
def publish (candidate : Candidate) : Call Unit := do
  await (.writeModel candidate.model)
  await (.writeMetrics candidate)

end GdslExchange.Ml
