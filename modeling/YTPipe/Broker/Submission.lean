import Mathlib.Algebra.Order.Ring.Unbundled.Rat
import YTPipe.Session
import YTPipe.Broker.FailurePolicy
import YTPipe.Broker.Prompts

/-!
# Submitting one operation

The calls of `broker_traffic.py` and the coordinator of `broker_submission.py`.
-/

namespace YTPipe.Broker

structure BrokerService where
  profile : BrokerRequestProfile
  baseUrl : String
  timeoutSeconds : Rat

/-- `BrokerTrafficSummarizationService._operation`: the whole transcript at once. -/
def trafficOperation (service : BrokerService) (transcript : Text) : SummaryOperation where
  kind := "traffic"
  ordinal := 0
  systemPrompt := summarizationSystemPrompt
  userPrompt := finalSummaryInstructions ++ "\n\nTRANSCRIPCION:\n\n" ++ String.ofList transcript
  maxTokens := service.profile.maxTokens
  stop := []

def operationFor (service : BrokerService) (kind : String) (ordinal : Int) (userPrompt : String) :
    SummaryOperation where
  kind := kind
  ordinal := ordinal
  systemPrompt := summarizationSystemPrompt
  userPrompt := userPrompt
  maxTokens := service.profile.maxTokens
  stop := []

section

variable (platform : Platform) (service : BrokerService)

/-- `_submit_task_response` without `Prefer`: one POST, unless the time is over before it. -/
def postTask (operation : SummaryOperation) (key : String) (timeout : Option Rat) :
    StageProc (Except Raised AcceptedTask) := do
  let expired : Raised := .broker (brokerError "broker_timeout" none (some key))
  let deadline := (← clock) + timeout.getD service.timeoutSeconds
  let remaining := deadline - (← clock)
  if remaining ≤ 0 then return .error expired
  else
    let outcome ← request fun s outcome =>
      .post ⟨s.stage.durable, s.stage.current, operation, key, service.baseUrl, outcome⟩
    match outcome with
    | .httpError => return .error (.broker (brokerError "broker_transport_error" none (some key)))
    | .valueError => return .error (.broker (brokerError "broker_transport_error" none (some key)))
    | .otherError => return .error .other
    | .response r =>
      if deadline - (← clock) ≤ 0 then return .error expired
      else return readAccepted platform service.baseUrl key r

/-- `BrokerTrafficSummarizationService.submit_task`. -/
def submitTask (context : SummaryGatewayContext) (operation : SummaryOperation)
    (timeout : Option Rat) : StageProc (Except Raised AcceptedTask) := do
  let requestBytes := operation.systemPrompt.utf8ByteSize + operation.userPrompt.utf8ByteSize
  if requestBytes > service.profile.maxRequestContentBytes then
    return .error (.broker (brokerError "broker_input_too_large" none none))
  else
    match brokerIdempotencyKey platform context operation with
    | none => return .error .other
    | some key =>
      match ← postTask platform service operation key timeout with
      | .ok accepted => return .ok accepted
      | .error (.broker e) => return .error (.broker e)
      | .error .other =>
        return .error (.broker (brokerError "broker_task_indeterminate" none (some key)))

inductive SubmissionDisposition
  | completed
  | terminal
  | quarantine
  | retry
  deriving DecidableEq, Repr

structure BrokerSubmissionOutcome where
  disposition : SubmissionDisposition
  summary : Option Text
  failureClass : Option String
  failureCode : Option String
  displayReason : Option String
  retryAt : Option Time

def FailureDisposition.submission : FailureDisposition → SubmissionDisposition
  | .terminal => .terminal
  | .retry => .retry
  | .quarantine => .quarantine

def SummaryFailureOutcome.submission (outcome : SummaryFailureOutcome) : BrokerSubmissionOutcome :=
  ⟨outcome.disposition.submission, none, some outcome.failureClass, some outcome.failureCode,
    some outcome.displayReason, outcome.retryAt⟩

theorem disposition_ne_completed (o : SummaryFailureOutcome) :
    o.submission.disposition ≠ .completed := by
  unfold SummaryFailureOutcome.submission FailureDisposition.submission
  split <;> nofun

/-- `if task_id: ...` and `if key: ...` of `_classify` and `_quarantine`. -/
def keepCorrelation (taskId key : Option String) (r : PipelineStage) : PipelineStage :=
  { r with
    brokerTaskId := if taskId.getD "" = "" then r.brokerTaskId else taskId.map (truncate 128)
    brokerIdempotencyKey :=
      if key.getD "" = "" then r.brokerIdempotencyKey else key.map (truncate 128) }

def noteFailure (outcome : SummaryFailureOutcome) (r : PipelineStage) : PipelineStage :=
  { r with
    failureClass := some outcome.failureClass
    failureCode := some outcome.failureCode
    lastError := some outcome.displayReason
    nextAttemptAt := outcome.retryAt }

/-- `history[-max(1, max_attempts):]` after an entry for the ended task. -/
def recordHistory (outcome : SummaryFailureOutcome) (attemptedAt : Time) (r : PipelineStage) :
    PipelineStage :=
  let history := r.brokerSubmissionHistory.getD [] ++
    [⟨r.brokerSubmissionEpoch, outcome.failureClass, outcome.failureCode, outcome.displayReason,
      attemptedAt⟩]
  { r with
    brokerSubmissionHistory := some (history.drop (history.length - (max 1 r.maxAttempts).toNat)) }

/-- The old terminal task is no longer the active correlation. -/
def advanceEpoch (r : PipelineStage) : PipelineStage :=
  { r with
    brokerSubmissionEpoch := r.brokerSubmissionEpoch + 1
    brokerTaskId := none
    brokerIdempotencyKey := none }

/-- The columns `_apply_outcome` writes, the plan apart. -/
def applyOutcomeRow (outcome : SummaryFailureOutcome) (attemptedAt : Time) (taskId : Option String)
    (terminalConfirmed : Bool) (r : PipelineStage) : PipelineStage :=
  let r := noteFailure outcome r
  let r :=
    if terminalConfirmed ∧ taskId.getD "" ≠ "" ∧ outcome.failureClass ∈ safeTerminalClasses then
      recordHistory outcome attemptedAt r
    else r
  let r :=
    if canAdvanceSubmissionEpoch .broker terminalConfirmed taskId r.brokerTaskId
        (some outcome.failureClass) r.attemptCount r.maxAttempts r.brokerSubmissionEpoch then
      advanceEpoch r
    else r
  match outcome.disposition with
  | .quarantine =>
    { r with
      quarantinedAt := some attemptedAt
      reconciliationStatus := some .awaitingOperatorResolution
      nextReconcileAt := none
      reconciliationReason := some outcome.displayReason
      status := .pendingRetry }
  | .terminal => { r with status := .failed, reconciliationStatus := none }
  | .retry => { r with status := .pendingRetry, reconciliationStatus := none }

/-- `_apply_outcome`. -/
def applyOutcome (outcome : SummaryFailureOutcome) (attemptedAt : Time) (taskId : Option String)
    (terminalConfirmed : Bool) : StageProc BrokerSubmissionOutcome := do
  let serialized := terminalConfirmed ∧ taskId.getD "" ≠ ""
  Proc.when serialized populateExisting
  let r ← stageRow
  -- another worker already handled this terminal task
  if serialized ∧ r.brokerTaskId ≠ taskId then return outcome.submission
  else
    setStage (applyOutcomeRow outcome attemptedAt taskId terminalConfirmed)
    Proc.when (outcome.disposition = .terminal) (assignPlan none)
    flush platform
    commit platform
    return outcome.submission

/-- `_quarantine`. -/
def quarantine (attemptedAt : Time) (code : String) (brokerClass : Option String)
    (key taskId : Option String) : StageProc BrokerSubmissionOutcome := do
  setStage (keepCorrelation taskId key)
  let r ← stageRow
  applyOutcome platform
    (classifySummaryFailure .broker code r.attemptCount r.maxAttempts attemptedAt brokerClass)
    attemptedAt taskId false

/-- Post-Location ambiguity: only the GET-only reconciliation remains. -/
def protocolQuarantine : SummaryFailureOutcome where
  route := .broker
  failureClass := "indeterminate"
  failureCode := "broker_protocol_error"
  disposition := .quarantine
  retryAt := none
  recoveryOwner := .operator
  recoveryAction := "broker_resolve"
  displayReason := "El broker devolvió una respuesta incompatible."

def Raised.code : Raised → Option String
  | .broker e => some e.code
  | .other => none

def Raised.brokerCode : Raised → Option String
  | .broker e => e.brokerCode
  | .other => none

def Raised.failureClass : Raised → Option String
  | .broker e => e.failureClass
  | .other => none

def Raised.taskId : Raised → Option String
  | .broker e => e.taskId
  | .other => none

def Raised.idempotencyKey : Raised → Option String
  | .broker e => e.idempotencyKey
  | .other => none

/-- `a or b` of optional strings. -/
def firstOf (a b : Option String) : Option String := if a.getD "" = "" then b else a

/-- `_classify`. -/
def classify (exc : Raised) (attemptedAt : Time) (key taskId : Option String) :
    StageProc BrokerSubmissionOutcome := do
  let taskId := firstOf taskId exc.taskId
  let key := firstOf key exc.idempotencyKey
  let code := orElse (firstOf exc.brokerCode exc.code) "broker_protocol_error"
  setStage (keepCorrelation taskId key)
  let r ← stageRow
  let outcome :=
    if taskId.getD "" ≠ "" ∧ exc.code = some "broker_protocol_error" then protocolQuarantine
    else classifySummaryFailure .broker code r.attemptCount r.maxAttempts attemptedAt exc.failureClass
  applyOutcome platform outcome attemptedAt taskId (exc.code = some "broker_task_failed")

/-- The columns `_complete` writes. -/
def completeRow (finalizeStage : Bool) (r : PipelineStage) : PipelineStage :=
  { r with
    status := if finalizeStage then .completed else .pendingRetry
    lastError := none
    failureClass := none
    failureCode := none
    nextAttemptAt := none
    quarantinedAt := none
    reconciliationStatus := none
    nextReconcileAt := none
    reconciliationReason := none
    brokerTaskId := if finalizeStage then r.brokerTaskId else none
    brokerIdempotencyKey := if finalizeStage then r.brokerIdempotencyKey else none }

/-- `_complete`. -/
def complete (summary : Text) (finalizeStage : Bool) (onCompleted : Text → StageProc Unit) :
    StageProc BrokerSubmissionOutcome := do
  onCompleted summary
  Proc.when finalizeStage (setVideo fun v => { v with summary := some summary })
  setStage (completeRow finalizeStage)
  flush platform
  commit platform
  return ⟨.completed, some summary, none, none, none, none⟩

/-- What an attempt submits: the whole transcript, or an operation of a plan
with what to do once it is done. -/
structure Submission where
  operation : SummaryOperation
  planned : Bool
  finalizeStage : Bool
  onCompleted : Text → StageProc Unit
  deadline : Option Rat
  timeoutSeconds : Rat

/-- The kind `attempt` passes on to `poll_task`. -/
def Submission.polledKind (submission : Submission) : Option String :=
  if submission.planned then some submission.operation.kind else none

/-- One round of the polling loop of `attempt`. -/
def pollRound (submission : Submission) (attemptedAt : Time) (deadline : Rat)
    (accepted : AcceptedTask) (key : String) : StageProc (Option BrokerSubmissionOutcome) := do
  let acceptedKey := orElse (some accepted.idempotencyKey) key
  let expire : StageProc (Option BrokerSubmissionOutcome) := do
    return some (← quarantine platform attemptedAt "broker_timeout" (some "indeterminate")
      (some acceptedKey) (some accepted.taskId))
  let remaining := deadline - (← clock)
  if remaining ≤ 0 then expire
  else
    sleep (min 1 remaining)
    let remaining := deadline - (← clock)
    if remaining ≤ 0 then expire
    else
      let outcome ← request fun s outcome =>
        .get ⟨s.stage.durable, s.stage.current, .attempt, service.profile, accepted.taskId,
          submission.polledKind, outcome⟩
      match pollTask service.profile accepted.taskId acceptedKey submission.polledKind outcome with
      | .error e =>
        return some (← classify platform (.broker e) attemptedAt (some acceptedKey)
          (some accepted.taskId))
      | .ok none => return none
      | .ok (some summary) =>
        return some (← complete platform summary submission.finalizeStage submission.onCompleted)

/-- `stage.broker_idempotency_key = key[:128]` and the marker before the POST. -/
def prepareRow (key : String) (r : PipelineStage) : PipelineStage :=
  { r with
    brokerIdempotencyKey := some (truncate 128 key)
    reconciliationStatus := some .submissionPrepared }

/-- The task and the marker before the first GET. -/
def acceptRow (accepted : AcceptedTask) (key : String) (r : PipelineStage) : PipelineStage :=
  { r with
    brokerTaskId := some (truncate 128 accepted.taskId)
    brokerIdempotencyKey := some (truncate 128 (orElse (some accepted.idempotencyKey) key))
    reconciliationStatus := some .submissionAccepted }

/-- The body of the `try` around the POST. -/
def trySubmit (context : SummaryGatewayContext) (submission : Submission) :
    StageProc (Except Raised AcceptedTask) :=
  match submission.deadline with
  | none => submitTask platform service context submission.operation none
  | some deadline => do
    let remaining := deadline - (← clock)
    if remaining ≤ 0 then
      return .error (.broker ⟨"broker_timeout", some "indeterminate", none, none, none⟩)
    else submitTask platform service context submission.operation (some remaining)

/-- `deadline if deadline is not None else self._clock() + self._timeout_seconds`. -/
def pollDeadline (submission : Submission) : StageProc Rat :=
  match submission.deadline with
  | some deadline => pure deadline
  | none => do return (← clock) + submission.timeoutSeconds

theorem wp_pollDeadline {submission : Submission} {w : StageWorld}
    {post : Rat → StageWorld → Prop} {lost : StageWorld → Prop} (stop : lost w)
    (go : ∀ deadline rest, post deadline { w with replies := rest }) :
    Proc.wp (pollDeadline submission) post lost w := by
  unfold pollDeadline
  split
  · exact go _ w.replies
  · rw [Proc.wp_bind]
    exact wp_clock stop fun now rest => go _ rest

/-- The part of `attempt` from the POST on. -/
def submitPrepared (context : SummaryGatewayContext) (submission : Submission) (attemptedAt : Time)
    (key : String) : StageProc BrokerSubmissionOutcome := do
  match ← trySubmit platform service context submission with
  | .error exc => classify platform exc attemptedAt (some key) none
  | .ok accepted =>
    setStage (acceptRow accepted key)
    flush platform
    commit platform
    let deadline ← pollDeadline submission
    Proc.loop (pollRound platform service submission attemptedAt deadline accepted key)

/-- `attempt`: a stage found prepared or accepted is the residue of a crash and
is quarantined; otherwise the key is durable before the POST and the task before
the first GET. -/
def attempt (context : SummaryGatewayContext) (submission : Submission) (attemptedAt : Time) :
    StageProc BrokerSubmissionOutcome := do
  let r ← stageRow
  if r.reconciliationStatus = some .submissionPrepared then
    quarantine platform attemptedAt "broker_timeout" (some "indeterminate")
      r.brokerIdempotencyKey none
  else if r.reconciliationStatus = some .submissionAccepted then
    quarantine platform attemptedAt "broker_timeout" (some "indeterminate")
      r.brokerIdempotencyKey r.brokerTaskId
  else
    match brokerIdempotencyKey platform context submission.operation with
    | none => raise .idempotencyKey
    | some key =>
      setStage (prepareRow key)
      flush platform
      commit platform
      submitPrepared platform service context submission attemptedAt key

end

end YTPipe.Broker
