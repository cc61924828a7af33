import YTPipe.Broker.Chunking
import YTPipe.UnitOfWork

/-!
# Pipeline stages and videos

The rows of `models/pipeline_stage.py` and what the pipeline reads of a video.
-/

namespace YTPipe

open Broker

inductive StageName
  | transcript
  | summary
  | telegram
  | fallbackTelegram
  deriving DecidableEq, Repr

inductive Status
  | pending
  | pendingRetry
  | completed
  | failed
  | skipped
  deriving DecidableEq, Repr

/-- A stage that work may still be done for. -/
def Status.isOpen (s : Status) : Prop := s = .pending ∨ s = .pendingRetry

instance (s : Status) : Decidable s.isOpen := inferInstanceAs (Decidable (_ ∨ _))

theorem completed_not_open : ¬ Status.completed.isOpen := by decide

theorem skipped_not_open : ¬ Status.skipped.isOpen := by decide

theorem failed_not_open : ¬ Status.failed.isOpen := by decide

inductive ReconciliationStatus
  | submissionPrepared
  | submissionAccepted
  | awaitingOperatorResolution
  | getEligible
  deriving DecidableEq, Repr

/-- An entry of `broker_submission_history`. -/
structure SubmissionRecord where
  epoch : Int
  failureClass : String
  failureCode : String
  reason : String
  observedAt : Time
  deriving DecidableEq, Repr

structure PipelineStage where
  id : Int
  videoId : Int
  userId : Int
  stage : StageName
  status : Status
  attemptCount : Int
  maxAttempts : Int
  brokerSubmissionEpoch : Int
  brokerSubmissionHistory : Option (List SubmissionRecord)
  brokerChunkPlan : Option ChunkPlan
  lastAttemptAt : Option Time
  nextAttemptAt : Option Time
  failureClass : Option String
  failureCode : Option String
  lastError : Option String
  quarantinedAt : Option Time
  reconciliationStatus : Option ReconciliationStatus
  nextReconcileAt : Option Time
  reconciliationAlertedAt : Option Time
  reconciliationReason : Option String
  brokerTaskId : Option String
  brokerIdempotencyKey : Option String
  deriving DecidableEq, Repr

/-- A row as `PipelineStage(video_id=..., user_id=..., stage=..., status="pending")`
creates it. -/
def PipelineStage.new (id videoId userId : Int) (stage : StageName) : PipelineStage where
  id := id
  videoId := videoId
  userId := userId
  stage := stage
  status := .pending
  attemptCount := 0
  maxAttempts := 3
  brokerSubmissionEpoch := 0
  brokerSubmissionHistory := none
  brokerChunkPlan := none
  lastAttemptAt := none
  nextAttemptAt := none
  failureClass := none
  failureCode := none
  lastError := none
  quarantinedAt := none
  reconciliationStatus := none
  nextReconcileAt := none
  reconciliationAlertedAt := none
  reconciliationReason := none
  brokerTaskId := none
  brokerIdempotencyKey := none

/-- A summary stage as it is created, with any limit of attempts. -/
def newSummary (id videoId userId maxAttempts : Int) : PipelineStage :=
  { PipelineStage.new id videoId userId .summary with maxAttempts := maxAttempts }

structure Video where
  id : Int
  channelTitle : Option String
  youtubeVideoId : String
  title : Option String
  publishedAt : Option Time
  isShort : Option Bool
  transcript : Option Text
  summary : Option Text
  deriving DecidableEq, Repr

/-- `broker_chunk_plan`, the JSON column whose object is changed in place. -/
def planColumn : Column PipelineStage (Option ChunkPlan) where
  get r := r.brokerChunkPlan
  set plan r := { r with brokerChunkPlan := plan }
  get_set _ _ := rfl
  set_get _ := rfl
  set_set _ _ _ := rfl

abbrev StageInstance := Instance PipelineStage (Option ChunkPlan)

abbrev VideoInstance := Instance Video Unit

end YTPipe
