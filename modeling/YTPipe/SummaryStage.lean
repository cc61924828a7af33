import YTPipe.Broker.Submission

/-!
# The summary stage

What `pipeline.py` does to one summary stage: the attempt on either route, the
chunk plan's loop, the reconciliation of a quarantined task and the operator's
transition.
-/

namespace YTPipe

open Broker

/-- The summarization gateway a service is wired with. -/
inductive SummarizationService
  | direct
  | broker (service : BrokerService)

structure PipelineConfig where
  summarizationService : Option SummarizationService
  brokerChunkConfig : BrokerChunkConfig
  brokerPlanDeadlineSeconds : Rat

section

variable (platform : Platform)

/-- `stage.attempt_count += 1` and `stage.last_attempt_at = attempted_at`. -/
def startAttempt (attemptedAt : Time) (r : PipelineStage) : PipelineStage :=
  { r with attemptCount := r.attemptCount + 1, lastAttemptAt := some attemptedAt }

/-- The columns `_record_local_broker_failure` writes, the plan apart. -/
def localFailureRow (attemptedAt : Time) (code : String) (r : PipelineStage) : PipelineStage :=
  let r := startAttempt attemptedAt r
  let outcome := classifySummaryFailure .broker code r.attemptCount r.maxAttempts attemptedAt
    (some (if code = "backend_context_exceeded" then "backend_rejected" else "internal"))
  { noteFailure outcome r with
    status := if outcome.disposition = .terminal then .failed else .pendingRetry
    brokerTaskId := none
    brokerIdempotencyKey := none }

/-- `_record_local_broker_failure`. -/
def recordLocalBrokerFailure (attemptedAt : Time) (code : String) : StageProc Unit := do
  setStage (localFailureRow attemptedAt code)
  assignPlan none
  flush platform
  commit platform

/-- `save_completed`: a successful chunk is progress, not a consumed retry. -/
def saveCompleted (object : Nat) (plan : ChunkPlan) (nextStep : Int) (output : Text) :
    StageProc Unit := do
  setStage fun r => { r with attemptCount := max 0 (r.attemptCount - 1) }
  let plan := plan.completeStep nextStep output
  if plan.nextStep ≥ plan.steps.length then assignPlan none
  else assignMutatedPlan object (some plan)

/-- The plan `save_completed` leaves. -/
def savedPlan (plan : ChunkPlan) (output : Text) : Option ChunkPlan :=
  if plan.nextStep + 1 ≥ plan.steps.length then none
  else some (plan.completeStep plan.nextStep output)

def finalPrompt (outputs : List Text) : String :=
  "Integra los siguientes resumenes parciales en un unico resumen completo, sin repetir ideas y "
    ++ "conservando los hechos importantes.\n\n"
    ++ finalSummaryInstructions ++ "\n\nRESUMENES PARCIALES:\n\n"
    ++ String.ofList (Text.join "\n\n---\n\n".toList outputs)

def fragmentPrompt (fragment : Text) : String :=
  partialSummaryInstructions ++ "\n\nFRAGMENTO:\n\n" ++ String.ofList fragment

/-- What a step submits, or the local failure that ends the attempt; `none` is
an exception of `estimated_request_tokens`. -/
def stepPrompt (plan : ChunkPlan) (step : PlanStep) (transcript : Text) :
    Option (Except String (String × String)) :=
  match step.kind with
  | .piece start stop =>
    if ¬ (0 ≤ start ∧ start < stop ∧ stop ≤ transcript.length) then
      some (.error "broker_chunk_plan_invalid")
    else
      some (.ok (partialKind, fragmentPrompt (transcript.slice start.toNat stop.toNat)))
  | .final =>
    let outputs := plan.steps.dropLast.map (·.output.getD [])
    if ¬ outputs.all (!·.isEmpty) then some (.error "broker_chunk_plan_invalid")
    else
      match estimatedRequestTokens (finalPrompt outputs).length (configFromPlan plan) with
      | .error _ => none
      | .ok tokens =>
        if tokens > plan.config.contextTokens then some (.error "backend_context_exceeded")
        else some (.ok (finalKind, finalPrompt outputs))

/-- The submission of a plan's next operation; `none` goes on with the step after it. -/
def submitStep (service : BrokerService) (context : SummaryGatewayContext) (attemptedAt : Time)
    (deadline remaining : Rat) (object : Nat) (plan : ChunkPlan) (operation : SummaryOperation) :
    StageProc (Option Unit) := do
  setStage (startAttempt attemptedAt)
  let outcome ← attempt platform service context
    { operation := operation
      planned := true
      finalizeStage := operation.kind = finalKind
      onCompleted := saveCompleted object plan plan.nextStep
      deadline := some deadline
      timeoutSeconds := remaining } attemptedAt
  setRecoveryTarget (some "none")
  if outcome.disposition ≠ .completed then return some ()
  else if operation.kind = finalKind then
    syncFlush platform
    return some ()
  else return none

/-- One round of the plan's loop; `none` goes on with the next step. -/
def planRound (service : BrokerService) (context : SummaryGatewayContext) (attemptedAt : Time)
    (deadline : Rat) : StageProc (Option Unit) := do
  let (object, plan) ← planObject
  let transcript := (← videoRow).transcript.getD []
  match plan with
  | none => raise .chunkPlan
  | some plan =>
    match validatePlan platform plan transcript, plan.steps[plan.nextStep.toNat]? with
    | .ok (), some step => do
      let remaining := deadline - (← clock)
      if remaining ≤ 1 / 2 then
        commit platform
        return some ()
      else
        match stepPrompt plan step transcript with
        | none => raise .chunkPlan
        | some (.error code) =>
          recordLocalBrokerFailure platform attemptedAt code
          return some ()
        | some (.ok (kind, userPrompt)) =>
          submitStep platform service context attemptedAt deadline remaining object plan
            (operationFor service kind step.ordinal userPrompt)
    | _, _ => raise .chunkPlan

/-- The coordinator's attempt of the whole transcript. -/
def attemptSingleShot (service : BrokerService) (context : SummaryGatewayContext)
    (attemptedAt : Time) : StageProc Unit := do
  setStage (startAttempt attemptedAt)
  let transcript := (← videoRow).transcript.getD []
  let outcome ← attempt platform service context
    { operation := trafficOperation service transcript
      planned := false
      finalizeStage := true
      onCompleted := fun _ => pure ()
      deadline := none
      timeoutSeconds := service.timeoutSeconds } attemptedAt
  setRecoveryTarget (some "none")
  if outcome.disposition = .completed then syncFlush platform else pure ()

def runPlan (config : PipelineConfig) (service : BrokerService) (context : SummaryGatewayContext)
    (attemptedAt : Time) : StageProc Unit := do
  let deadline := (← clock) + config.brokerPlanDeadlineSeconds
  Proc.loop (planRound platform service context attemptedAt deadline)

/-- `_attempt_broker_summary_stage`. -/
def attemptBrokerSummaryStage (config : PipelineConfig) (service : BrokerService)
    (attemptedAt : Time) : StageProc Unit := do
  let r ← stageRow
  let context : SummaryGatewayContext := ⟨r.id, r.brokerSubmissionEpoch⟩
  if r.reconciliationStatus = some .submissionPrepared
      ∨ r.reconciliationStatus = some .submissionAccepted then
    attemptSingleShot platform service context attemptedAt
  else
    let transcript := (← videoRow).transcript.getD []
    match r.brokerChunkPlan with
    | some plan =>
      match validatePlan platform plan transcript with
      | .error _ => recordLocalBrokerFailure platform attemptedAt "broker_chunk_plan_invalid"
      | .ok () => runPlan platform config service context attemptedAt
    | none =>
      match buildPlan platform transcript config.brokerChunkConfig with
      | .error _ => recordLocalBrokerFailure platform attemptedAt "backend_context_exceeded"
      | .ok none => attemptSingleShot platform service context attemptedAt
      | .ok (some plan) =>
        assignPlan (some plan)
        flush platform
        commit platform
        runPlan platform config service context attemptedAt

/-- The columns a failed call of the direct route leaves. -/
def directFailureRow (outcome : SummaryFailureOutcome) (r : PipelineStage) : PipelineStage :=
  { noteFailure outcome r with
    status := if outcome.disposition = .terminal then .failed else .pendingRetry }

/-- The rest of `_attempt_summary_stage` on the direct route. -/
def attemptDirectSummary (attemptedAt : Time) : StageProc Unit := do
  setStage (startAttempt attemptedAt)
  Proc.emit fun s => .summarize s.stage.durable s.stage.current
  let outcome ← Proc.ask fun r => match r with
    | .summarized outcome => some outcome
    | _ => none
  match outcome with
  | .raised code recoveryTarget =>
    let r ← stageRow
    setStage (directFailureRow (classifySummaryFailure .direct
      (orElse code "direct_transport_error") r.attemptCount r.maxAttempts attemptedAt none))
    let target := recoveryTarget.getD "direct_llama"
    setRecoveryTarget (some (if target = "direct_llama" then target else "none"))
  | .returned summary =>
    if summary.getD [] ≠ [] then
      setVideo fun v => { v with summary := summary }
      setStage fun r => { r with
        status := .completed
        lastError := none
        failureClass := none
        failureCode := none
        nextAttemptAt := none
        quarantinedAt := none }
      setRecoveryTarget none
      syncFlush platform
    else
      setStage fun r => { r with
        lastError := some (r.lastError.getD "Summary generation failed.")
        status := if r.attemptCount ≥ r.maxAttempts then .failed else .pendingRetry }

/-- `next_attempt_at is not None and next_attempt_at > datetime.now(UTC)`. -/
def notYetDue (r : PipelineStage) : StageProc Bool :=
  match r.nextAttemptAt with
  | none => pure false
  | some t => do return t > (← utcNow)

open Proc in
/-- It takes at most an answer. -/
theorem wp_notYetDue {r : PipelineStage} {post : Bool → StageWorld → Prop}
    {lost : StageWorld → Prop} {w : StageWorld} (stop : lost w)
    (go : ∀ late answers, post late { w with replies := answers }) :
    wp (notYetDue r) post lost w := by
  unfold notYetDue
  split
  · exact go false w.replies
  · rw [wp_bind]
    exact wp_utcNow stop fun now answers => go _ answers

/-- `_attempt_summary_stage`; the result tells whether an attempt was made. -/
def attemptSummaryStage (config : PipelineConfig) : StageProc Bool := do
  let r ← stageRow
  if ¬ r.status.isOpen ∨ r.quarantinedAt.isSome then return false
  else
    if ← notYetDue r then return false
    else
      let video ← videoRow
      if video.summary.isSome then
        setStage fun r => { r with status := .completed }
        return false
      else
        match config.summarizationService with
        | none =>
          setStage fun r => { r with
            status := .failed
            lastError := some "Summarization service not available."
            failureClass := some "internal"
            failureCode := some "summary_service_unavailable" }
          return true
        | some service =>
          if video.transcript.isNone then
            setStage fun r => { r with
              status := .failed
              lastError := some "No transcript available to summarize."
              failureClass := some "permanent"
              failureCode := some "no_transcript" }
            return true
          else
            let attemptedAt ← utcNow
            match service with
            | .broker service =>
              attemptBrokerSummaryStage platform config service attemptedAt
              return true
            | .direct =>
              attemptDirectSummary platform attemptedAt
              return true

/-- The rows `reconcile_quarantined_summaries` asks the database for. -/
def reconcilable (now : Time) (r : PipelineStage) : Prop :=
  r.stage = .summary ∧ r.quarantinedAt.isSome ∧ r.brokerTaskId.isSome
    ∧ r.reconciliationStatus = some .getEligible ∧ r.nextReconcileAt.getD now ≤ now

instance (now : Time) (r : PipelineStage) : Decidable (reconcilable now r) :=
  inferInstanceAs (Decidable (_ ∧ _ ∧ _ ∧ _ ∧ _))

def invalidPlanRow (r : PipelineStage) : PipelineStage :=
  { r with
    status := .failed
    failureClass := some "internal"
    failureCode := some "broker_chunk_plan_invalid"
    lastError := some (formatSummaryFailureCode (some "broker_chunk_plan_invalid"))
    quarantinedAt := none
    reconciliationStatus := none }

/-- The columns an exception of `reconcile` leaves, where it stays indeterminate. -/
def stillIndeterminateRow (exc : Raised) (now : Time) (r : PipelineStage) : PipelineStage :=
  { r with
    lastError := some (formatSummaryFailureCode (firstOf exc.brokerCode exc.code))
    failureCode := some (orElse (firstOf exc.brokerCode exc.code) "broker_task_failed")
    failureClass := some "indeterminate"
    reconciliationStatus := some .getEligible
    nextReconcileAt := some (now + seconds 60) }

def reconcileFailedRow (exc : Raised) (r : PipelineStage) : PipelineStage :=
  { r with
    lastError := some (formatSummaryFailureCode (firstOf exc.brokerCode exc.code))
    failureCode := some (orElse (firstOf exc.brokerCode exc.code) "broker_task_failed")
    failureClass := some (orElse exc.failureClass "indeterminate")
    status := .failed
    quarantinedAt := none
    reconciliationStatus := none }

/-- The columns a reconciled partial step leaves, the plan apart. -/
def reconciledPartialRow (r : PipelineStage) : PipelineStage :=
  { r with
    status := .pendingRetry
    lastError := none
    failureClass := none
    failureCode := none
    attemptCount := max 0 (r.attemptCount - 1)
    brokerTaskId := none
    brokerIdempotencyKey := none
    quarantinedAt := none
    reconciliationStatus := none
    nextReconcileAt := none
    nextAttemptAt := none }

def reconciledRow (planned : Bool) (r : PipelineStage) : PipelineStage :=
  { r with
    attemptCount := if planned then max 0 (r.attemptCount - 1) else r.attemptCount
    status := .completed
    lastError := none
    failureClass := none
    failureCode := none
    quarantinedAt := none
    reconciliationStatus := none
    nextReconcileAt := none }

/-- The step a reconciled result belongs to; an error is a plan that is not valid. -/
def reconcileStep (plan : Option ChunkPlan) (transcript : Text) :
    Except ChunkPlanError (Option (ChunkPlan × PlanStep)) :=
  match plan with
  | none => .ok none
  | some plan =>
    match validatePlan platform plan transcript, plan.steps[plan.nextStep.toNat]? with
    | .ok (), some step => .ok (some (plan, step))
    | .error e, _ => .error e
    | _, none => .error "IndexError"

def operationKind (step : PlanStep) : String :=
  match step.kind with
  | .piece _ _ => partialKind
  | .final => finalKind

/-- The turn of one row in `reconcile_quarantined_summaries`. -/
def reconcileRow (service : BrokerService) : StageProc Unit := do
  let (object, plan) ← planObject
  let r ← stageRow
  match reconcileStep platform plan ((← videoRow).transcript.getD []) with
  | .error _ =>
    setStage invalidPlanRow
    assignPlan none
  | .ok planned =>
    let kind := planned.map (fun p => operationKind p.2)
    let taskId := r.brokerTaskId.getD "None"
    let outcome ← request fun s outcome =>
      .get ⟨s.stage.durable, s.stage.current, .reconciliation, service.profile, taskId, kind,
        outcome⟩
    match reconcile service.profile taskId r.brokerIdempotencyKey kind outcome with
    | .error exc =>
      if orElse exc.failureClass "indeterminate" = "indeterminate" then
        let now ← utcNow
        setStage (stillIndeterminateRow exc now)
      else
        setStage (reconcileFailedRow exc)
        assignPlan none
    | .ok none =>
      let now ← utcNow
      setStage fun r => { r with nextReconcileAt := some (now + seconds 60) }
    | .ok (some summary) =>
      match planned with
      | some (plan, ⟨.piece _ _, _, _, _⟩) =>
        assignMutatedPlan object (some (plan.completeStep plan.nextStep summary))
        setStage reconciledPartialRow
      | _ =>
        setVideo fun v => { v with summary := some summary }
        setStage (reconciledRow planned.isSome)
        assignPlan none

/-- `make_quarantine_get_eligible`; the result tells whether it made the transition. -/
def makeQuarantineGetEligible : StageProc Bool := do
  let r ← stageRow
  if r.quarantinedAt.isNone ∨ r.brokerTaskId.getD "" = "" then return false
  else if r.reconciliationStatus ≠ some .awaitingOperatorResolution then return false
  else
    let now ← utcNow
    setStage fun r => { r with
      reconciliationStatus := some .getEligible
      nextReconcileAt := some now }
    return true

/-- `_skip_stage`. -/
def skipRow (r : PipelineStage) : PipelineStage :=
  if r.status = .completed ∨ r.status = .failed then r
  else { r with status := .skipped, lastError := none }

end

end YTPipe
