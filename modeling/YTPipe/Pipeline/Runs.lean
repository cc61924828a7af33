import YTPipe.Pipeline.Service

/-!
# Runs of a video's pipeline

Any sequence of calls of the service, of commits, rollbacks and crashes, with any
configuration in each. What a call is answered is part of the operation.
-/

namespace YTPipe.Pipeline

open Broker

inductive Call
  | createStages
  | processContent
  | processNew
  | processPending (maxStageCount : Option Int)
  | processNext
  | drain
  | throttled (rounds : Nat)
  | skipShorts
  | reconcile
  /-- The operator's request with the text of its audit record. -/
  | request (audit : String)
  | recovery
  | commit
  | rollback
  /-- Other work on the video. -/
  | video (v : Video)
  deriving DecidableEq

structure PipelineOp where
  service : PipelineService
  call : Call
  replies : List PipelineReply

section

variable (platform : Platform)

/-- `session.rollback()`, on the trace. -/
def undo (w : PipelineWorld) : PipelineWorld :=
  { w with state := w.state.rollback, trace := .rolledBack :: w.trace }

def rollback : PipelineProc Unit := do
  Proc.modify (·.rollback)
  Proc.emit fun _ => .rolledBack

/-- A call; the result tells whether it was a processing call that worked on the video. -/
def Call.proc (service : PipelineService) : Call → PipelineProc Bool
  | createStages => do
    createStagesForVideo platform service
    return false
  | processContent => do
    processContentStages platform service
    return false
  | processNew => do
    processNewVideoStages platform service
    return true
  | processPending maxStageCount => processPendingStages platform service maxStageCount
  | processNext => processNextPendingVideo platform service
  | drain => drainPendingVideos platform service
  | throttled rounds => processPendingStagesWithThrottling platform service rounds
  | skipShorts => do
    skipDisabledShortStagesForUser platform service
    return false
  | reconcile => do
    reconcileQuarantinedSummaries platform service
    return false
  | request audit => do
    onSummary platform (requestReconciliation platform audit)
    return false
  | recovery => do
    attemptSummaryRecovery platform service
    return false
  | commit => do
    Pipeline.commit platform
    return false
  | rollback => do
    Pipeline.rollback
    return false
  | video v => do
    setVideo fun _ => v
    return false

def PipelineOp.proc (op : PipelineOp) : PipelineProc Bool := op.call.proc platform op.service

/-- Something that was raised. -/
def PipelineEvent.isRaise : PipelineEvent → Bool
  | .raised => true
  | .stage (.raised _) => true
  | _ => false

/-- A process that was lost leaves its session to be rolled back; an exception,
an event after the first `before`, leaves it as it is. -/
def recover (before : Nat) (r : Option Bool × PipelineWorld) : PipelineWorld :=
  match r.1, r.2.trace with
  | some _, _ => r.2
  | none, e :: earlier =>
    if e.isRaise = true ∧ before ≤ earlier.length then r.2 else undo r.2
  | none, [] => undo r.2

def perform (op : PipelineOp) (w : PipelineWorld) : PipelineWorld :=
  recover w.trace.length ((op.proc platform).run { w with replies := op.replies })

/-- The call comes back, and worked on the video. -/
def Works (op : PipelineOp) (w : PipelineWorld) : Prop :=
  ((op.proc platform).run { w with replies := op.replies }).1 = some true

def runPipeline (ops : List PipelineOp) (w : PipelineWorld) : PipelineWorld :=
  ops.foldl (fun w op => perform platform op w) w

/-- A session that has just loaded a video and its stages. -/
def openVideo (userId : Int) (rows : Rows) (video : Video) : PipelineWorld where
  state :=
    { userId := userId
      slot := fun n => (rows n).elim .empty .loaded
      video := Instance.load (Column.none Video) video
      recoveryTarget := none }
  replies := []
  trace := []

theorem recover_lost {P : PipelineWorld → Prop} {before : Nat} {w : PipelineWorld} (kept : P w)
    (back : P (undo w)) : P (recover before (none, w)) := by
  unfold recover
  split
  · exact kept
  · split
    · exact kept
    · exact back
  · exact back

/-- What holds wherever the process comes back or is lost holds after it. -/
theorem recover_of_wp {P : PipelineWorld → Prop} {p : PipelineProc Bool} {before : Nat}
    {w : PipelineWorld} (h : Proc.wp p (fun _ => P) (fun v => P v ∧ P (undo v)) w) :
    P (recover before (p.run w)) := by
  revert h
  unfold Proc.wp Proc.run
  cases p w with
  | mk r v =>
    cases r with
    | none => exact fun h => recover_lost h.1 h.2
    | some a => exact fun h => h

theorem perform_of_wp {P : PipelineWorld → Prop} {op : PipelineOp} {w : PipelineWorld}
    (h : Proc.wp (op.proc platform) (fun _ => P) (fun v => P v ∧ P (undo v))
      { w with replies := op.replies }) : P (perform platform op w) := recover_of_wp h

/-- Everything a run keeps, when each operation keeps it. -/
theorem runPipeline_induction {P : PipelineWorld → Prop} {ops : List PipelineOp}
    {w : PipelineWorld} (step : ∀ op ∈ ops, ∀ v, P v → P (perform platform op v)) (start : P w) :
    P (runPipeline platform ops w) := by
  induction ops generalizing w with
  | nil => exact start
  | cons op ops ih =>
    exact ih (fun o ho => step o (List.mem_cons_of_mem _ ho))
      (step op (List.mem_cons_self ..) w start)

theorem runPipeline_append (ops ops' : List PipelineOp) (w : PipelineWorld) :
    runPipeline platform (ops ++ ops') w
      = runPipeline platform ops' (runPipeline platform ops w) :=
  List.foldl_append

end

theorem openVideo_rows (userId : Int) (rows : Rows) (video : Video) :
    (openVideo userId rows video).state.rows = rows
      ∧ (openVideo userId rows video).state.flushedRows = rows
      ∧ (openVideo userId rows video).state.durableRows = rows := by
  refine ⟨?_, ?_, ?_⟩
  all_goals
    funext n
    simp only [openVideo, PipelineSession.rows, PipelineSession.flushedRows,
      PipelineSession.durableRows]
    cases rows n <;> rfl

/-! A video without a transcript, and the services it is worked on with. -/

namespace Sample

def video : Video := { YTPipe.Sample.video with transcript := none }

def service (summaries : SummarizationService) : PipelineService where
  summaries := { YTPipe.Sample.config 1000 with summarizationService := some summaries }
  transcriptService := true
  telegramService := true
  shortsProcessingEnabled := true
  startupBatchSize := 0
  summaryPaused := false

/-- A session for a video nothing was done for. -/
def fresh : PipelineWorld := openVideo 1 (fun _ => none) video

def idle : PipelineReply := .others .untouched false

end Sample

end YTPipe.Pipeline
