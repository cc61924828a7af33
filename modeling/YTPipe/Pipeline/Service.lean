import YTPipe.Pipeline.Session
import Mathlib.Data.List.Sort

/-!
# The pipeline service

`PipelineService` of `services/pipeline.py`, as it works on one user's video. The
counts it returns are left out.
-/

namespace YTPipe.Pipeline

open Broker

/-- `_can_proceed`. -/
def canProceed (r : Option PipelineStage) : Prop := r.any fun r => r.status = .completed

instance (r : Option PipelineStage) : Decidable (canProceed r) :=
  inferInstanceAs (Decidable (_ = true))

def shortProcessingDisabledError : String := "Short processing is disabled by configuration."

/-- The status of a stage whose attempt failed in a way that may pass. -/
def retryStatus (r : PipelineStage) : Status :=
  if r.attemptCount ≥ r.maxAttempts then .failed else .pendingRetry

section rows

def transcriptUnavailable : String := "No se encontró una transcripción utilizable."

def transcriptProviderDown : String :=
  "El proveedor de transcripción no está disponible temporalmente."

/-- The text an answer brings, if it has any. -/
def FetchOutcome.found : FetchOutcome → Option Text
  | .result found outcome =>
    if outcome = "unavailable" ∨ outcome = "retryable" then none
    else found.filter (!·.isEmpty)
  | .text found => found.filter (!·.isEmpty)
  | .raised => none

/-- The columns an answer that brings no text leaves. -/
def unfetchedRow (outcome : FetchOutcome) (r : PipelineStage) : PipelineStage :=
  match outcome with
  | .result _ "unavailable" =>
    { r with status := .failed, lastError := some transcriptUnavailable }
  | .result _ "retryable" =>
    { r with lastError := some transcriptProviderDown, status := retryStatus r }
  | .raised => { r with lastError := some transcriptProviderDown, status := retryStatus r }
  | _ => { r with
      lastError := some (r.lastError.getD transcriptUnavailable), status := retryStatus r }

def fetchedRow (r : PipelineStage) : PipelineStage :=
  { r with status := .completed, lastError := none }

/-- The columns `_attempt_telegram_stage` leaves. -/
def deliveredRow (outcome : DeliveryOutcome) (r : PipelineStage) : PipelineStage :=
  match outcome with
  | .sent => { r with status := .completed, lastError := none }
  | .refused message true => { r with lastError := some message, status := retryStatus r }
  | .refused message false => { r with lastError := some message, status := .failed }
  | .raised message => { r with lastError := some message, status := retryStatus r }

/-- The columns `_attempt_single_fallback` leaves: it is retried without end. -/
def toldRow (outcome : DeliveryOutcome) (r : PipelineStage) : PipelineStage :=
  match outcome with
  | .sent => { r with status := .completed, lastError := none }
  | .refused message true => { r with lastError := some message, status := .pendingRetry }
  | .refused message false => { r with lastError := some message, status := .failed }
  | .raised message => { r with lastError := some message, status := .pendingRetry }

end rows

section

variable (platform : Platform) (service : PipelineService)

/-! The stages of a video. -/

/-- `session.add`, of a row that may be there already. -/
def createStage (n : StageName) : PipelineProc Unit := do
  let s ← Proc.read
  if (s.slot n).row.isSome then pure ()
  else
    let id ← Proc.ask fun r => match r with
      | .inserted id => some id
      | _ => none
    Proc.modify fun s => s.setSlot n
      (.added (PipelineStage.new id s.video.current.id s.userId n))

/-- `create_stages_for_video`. -/
def createStagesForVideo : PipelineProc Unit := do
  let video ← videoRow
  Proc.when (service.shouldProcess video) do
    workStages.forM createStage
    flush platform

def createContentStage (n : StageName) : PipelineProc Unit := do
  createStage n
  flush platform

/-- `create_content_stages_for_video`. -/
def createContentStagesForVideo : PipelineProc Unit := do
  let video ← videoRow
  Proc.when (service.shouldProcess video)
    ([.transcript, .summary].forM (createContentStage platform))

/-! Attempts. -/

/-- `_attempt_transcript_stage`. -/
def attemptTranscriptStage : PipelineProc Unit := do
  match (← rows) .transcript with
  | none => pure ()
  | some r =>
    let video ← videoRow
    if ¬ r.status.isOpen then pure ()
    else if video.transcript.isSome then
      setRow .transcript fun r => { r with status := .completed }
    else if ¬ service.transcriptService then
      setRow .transcript fun r => { r with
        status := .failed, lastError := some "Transcript service not available." }
    else
      let attemptedAt ← utcNow
      setRow .transcript (startAttempt attemptedAt)
      let outcome ← fetch
      match outcome.found with
      | some text =>
        setVideo fun v => { v with transcript := some text }
        setRow .transcript fetchedRow
      | none => setRow .transcript (unfetchedRow outcome)

/-- `_attempt_summary_stage`, of the video's summary. -/
def attemptSummary : PipelineProc Unit :=
  onSummary platform do
    let _ ← attemptSummaryStage platform service.summaries

/-- Notes that a stage changes to skipped. -/
def noteSkip (n : StageName) (video : Video) (r : PipelineStage) : PipelineProc Unit :=
  Proc.when (r.status ≠ .skipped) (Proc.emit fun s => .skip n ⟨service, s.rows, video⟩)

/-- `_skip_stage`. -/
def skipStage (n : StageName) (video : Video) : PipelineProc Unit := do
  match (← rows) n with
  | none => pure ()
  | some r =>
    if r.status = .completed ∨ r.status = .failed then pure ()
    else
      noteSkip service n video r
      setRow n skipRow

/-- A stage of a Short, while these are not processed. -/
def skipDisabledShort (n : StageName) (video : Video) : PipelineProc Unit := do
  skipStage service n video
  setRow n fun r => { r with lastError := some shortProcessingDisabledError }

/-- A Short the service does not process. -/
def PipelineService.refuses (service : PipelineService) (video : Video) : Prop :=
  service.shortsProcessingEnabled = false ∧ video.isShort = some true

instance (service : PipelineService) (video : Video) : Decidable (service.refuses video) :=
  inferInstanceAs (Decidable (_ ∧ _))

/-- `_attempt_telegram_stage`. -/
def attemptTelegramStage : PipelineProc Unit := do
  match (← rows) .telegram with
  | none => pure ()
  | some r =>
    let video ← videoRow
    if ¬ r.status.isOpen then pure ()
    else if service.refuses video then
      noteSkip service .telegram video r
      setRow .telegram fun r => { r with
        status := .skipped, lastError := some shortProcessingDisabledError }
    else if ¬ service.telegramService then
      noteSkip service .telegram video r
      setRow .telegram fun r => { r with status := .skipped }
    else if video.summary.isNone then
      setRow .telegram fun r => { r with
        status := .failed, lastError := some "No summary available for Telegram delivery." }
    else
      let attemptedAt ← utcNow
      setRow .telegram (startAttempt attemptedAt)
      let outcome ← Proc.exchange viewDelivery fun _ outcome => .notify outcome
      setRow .telegram (deliveredRow outcome)

/-! The fallback. -/

/-- `if summary_stage.quarantined_at is not None` after a message was sent. -/
def noteAlert (outcome : DeliveryOutcome) (attemptedAt : Time) : PipelineProc Unit := do
  let stages ← rows
  Proc.when (outcome = .sent ∧ (stages .summary).any (·.quarantinedAt.isSome) = true)
    (setRow .summary fun r => { r with reconciliationAlertedAt := some attemptedAt })

/-- The part of `_attempt_single_fallback` that sends. -/
def sendFallback (message : String) : PipelineProc Unit := do
  let attemptedAt ← utcNow
  setRow .fallbackTelegram (startAttempt attemptedAt)
  let outcome ← Proc.exchange viewDelivery fun s outcome => .fallback s.rows message outcome
  setRow .fallbackTelegram (toldRow outcome)
  noteAlert outcome attemptedAt

/-- `_attempt_single_fallback`. -/
def attemptSingleFallback : PipelineProc Unit := do
  let stages ← rows
  match stages .fallbackTelegram with
  | none => pure ()
  | some r =>
    let video ← videoRow
    if service.refuses video then
      setRow .fallbackTelegram fun r => { r with
        status := .skipped, lastError := some shortProcessingDisabledError }
    else if ¬ service.telegramService ∨ ¬ r.status.isOpen then pure ()
    else
      match buildFallbackReason stages (videoUrl video) with
      | none => setRow .fallbackTelegram fun r => { r with status := .completed }
      | some reason => sendFallback (fallbackMessage stages video reason)

/-- `_get_or_create_fallback_stage`. -/
def getOrCreateFallbackStage : PipelineProc Unit := do
  let s ← Proc.read
  if (s.slot .fallbackTelegram).row.isSome then pure ()
  else
    createStage .fallbackTelegram
    flush platform

/-- `_attempt_fallback_telegram`. -/
def attemptFallbackTelegram : PipelineProc Unit := do
  let video ← videoRow
  if service.refuses video ∨ ¬ service.telegramService then pure ()
  else
    getOrCreateFallbackStage platform
    let open? := ((← rows) .fallbackTelegram).any fun r => decide r.status.isOpen
    Proc.when (open? = true) (attemptSingleFallback service)

/-- The fallback of a video that was worked on. -/
def tellFailure : PipelineProc Unit := do
  let stages ← rows
  Proc.when (shouldTriggerFallback stages = true) (attemptFallbackTelegram platform service)

/-! Shorts that are not processed. -/

/-- The rows of the video whose durable or written status is still open. -/
def openRows (s : PipelineSession) : List StageName :=
  [.transcript, .summary, .telegram, .fallbackTelegram].filter fun n =>
    (s.flushedRows n).any fun r => decide r.status.isOpen

/-- `_skip_disabled_short_stages`. -/
def skipDisabledShortStages : PipelineProc Unit :=
  Proc.when (service.shortsProcessingEnabled = false) do
    let s ← Proc.read
    (openRows s).forM fun n => skipDisabledShort service n s.video.current
    flush platform

/-- `_skip_disabled_short_stages_for_user`. -/
def skipDisabledShortStagesForUser : PipelineProc Unit :=
  Proc.when (service.shortsProcessingEnabled = false) do
    let s ← Proc.read
    Proc.when (s.video.flushed.isShort = some true)
      ((openRows s).forM fun n => skipDisabledShort service n s.video.flushed)
    flush platform

/-! The orchestration of one video. -/

/-- `_persist_summary_pause_state`, as far as the session goes. -/
def persistSummaryPauseState : PipelineProc Unit :=
  Proc.when (service.summaryPaused = true) (flush platform)

/-- The summary of `process_new_video_stages`. -/
def advanceSummary : PipelineProc Unit := do
  let stages ← rows
  let video ← videoRow
  if canProceed (stages .transcript) then attemptSummary platform service
  else
    Proc.when ((stages .transcript).any (·.status = .failed) = true)
      (skipStage service .summary video)

/-- The telegram stage of `process_new_video_stages`. -/
def advanceTelegram : PipelineProc Unit := do
  let stages ← rows
  let video ← videoRow
  if canProceed (stages .summary) then attemptTelegramStage service
  else
    Proc.when ((stages .summary).any (fun r => r.status = .failed ∨ r.status = .skipped) = true)
      (skipStage service .telegram video)

/-- `process_new_video_stages`. -/
def processNewVideoStages : PipelineProc Unit := do
  let video ← videoRow
  if ¬ service.shouldProcess video then skipDisabledShortStages platform service
  else
    createStagesForVideo platform service
    attemptTranscriptStage service
    advanceSummary platform service
    advanceTelegram service
    flush platform
    tellFailure platform service
    persistSummaryPauseState platform service

/-- A stage that content processing does not reopen. -/
def contentClosed (stages : Rows) : Prop :=
  (stages .transcript).any (·.status = .skipped) = true
    ∨ (stages .summary).any (fun r => r.status = .skipped ∨ r.quarantinedAt.isSome) = true

instance (stages : Rows) : Decidable (contentClosed stages) := inferInstanceAs (Decidable (_ ∨ _))

/-- The summary of `process_content_stages`. -/
def advanceContent : PipelineProc Unit := do
  let stages ← rows
  let video ← videoRow
  if canProceed (stages .transcript) then
    attemptSummary platform service
    persistSummaryPauseState platform service
  else
    Proc.when ((stages .transcript).any (·.status = .failed) = true)
      (skipStage service .summary video)

/-- `process_content_stages`. -/
def processContentStages : PipelineProc Unit := do
  let video ← videoRow
  Proc.when (service.shouldProcess video) do
    createContentStagesForVideo platform service
    let stages ← rows
    Proc.when (¬ contentClosed stages) do
      attemptTranscriptStage service
      advanceContent platform service
      flush platform

/-! Pending work. -/

/-- `_automatic_stage_intent_filter`. -/
def automaticIntent (s : PipelineSession) (n : StageName) : Prop :=
  n = .telegram ∨ n = .fallbackTelegram ∨ (s.flushedRows .telegram).isSome = true
    ∨ (s.flushedRows .fallbackTelegram).isSome = true

instance (s : PipelineSession) (n : StageName) : Decidable (automaticIntent s n) :=
  inferInstanceAs (Decidable (_ ∨ _))

/-- `_summary_due_filter`. -/
def summaryDue (now : Time) (n : StageName) (r : PipelineStage) : Prop :=
  n ≠ .summary ∨ r.quarantinedAt = none ∧ r.nextAttemptAt.getD now ≤ now

instance (now : Time) (n : StageName) (r : PipelineStage) : Decidable (summaryDue now n r) :=
  inferInstanceAs (Decidable (_ ∨ _))

/-- The pending rows of the video that the queries select, in the order of their numbers. -/
def pendingRows (now : Time) (s : PipelineSession) : List StageName :=
  ((openRows s).filter fun n => automaticIntent s n
    ∧ (s.flushedRows n).any (fun r => decide (summaryDue now n r)) = true).insertionSort
    fun m n => ((s.flushedRows m).elim 0 (·.id)) ≤ ((s.flushedRows n).elim 0 (·.id))

/-- What a query for pending rows returns: those of the video, and whether there
are rows of other videos. -/
def selectPending (maxStageCount : Option Int) : PipelineProc (List StageName × Bool) := do
  let now ← utcNow
  let s ← Proc.read
  let (kept, others) ← Proc.ask fun r => match r with
    | .page kept others => some (kept, others)
    | _ => none
  match maxStageCount with
  | none => return (pendingRows now s, others)
  | some m => return ((pendingRows now s).take (min kept m.toNat), others && decide (m > 0))

/-- The turn of a row in `process_pending_stages`. -/
def pendingTurn (n : StageName) : PipelineProc Unit :=
  match n with
  | .fallbackTelegram => pure ()
  | .transcript => attemptTranscriptStage service
  | .summary => do
    let stages ← rows
    let video ← videoRow
    Proc.emit fun s => .dependency .summary ⟨service, s.rows, video⟩
    if ¬ canProceed (stages .transcript) then skipStage service .summary video
    else attemptSummary platform service
  | .telegram => do
    let stages ← rows
    let video ← videoRow
    Proc.emit fun s => .dependency .telegram ⟨service, s.rows, video⟩
    if ¬ canProceed (stages .summary) then skipStage service .telegram video
    else attemptTelegramStage service

/-- The loop over the fallback rows, for that of the video. -/
def retryFallback : PipelineProc Unit := do
  let s ← Proc.read
  others platform
  Proc.when (StageName.fallbackTelegram ∈ openRows s) (attemptSingleFallback service)
  others platform

/-- The loop over the pending rows, for those of the video. -/
def workPending (selected : List StageName) : PipelineProc Unit := do
  selected.forM fun n => do
    pendingTurn platform service n
    others platform
  flush platform

/-- `process_pending_stages`; the result tells whether the video is one of
`video_ids_processed`. -/
def processPendingStages (maxStageCount : Option Int) : PipelineProc Bool := do
  skipDisabledShortStagesForUser platform service
  let (selected, more) ← selectPending maxStageCount
  if selected.isEmpty ∧ ¬ more then return false
  else
    let worked := selected.any (· ≠ .fallbackTelegram)
    retryFallback platform service
    workPending platform service selected
    others platform
    Proc.when (worked = true) (tellFailure platform service)
    others platform
    persistSummaryPauseState platform service
    return worked

/-- `process_next_pending_video`; the result tells whether it worked on the video. -/
def processNextPendingVideo : PipelineProc Bool := do
  skipDisabledShortStagesForUser platform service
  let (selected, _) ← selectPending none
  let mine ← Proc.ask fun r => match r with
    | .first mine => some mine
    | _ => none
  if selected ≠ [] ∧ mine then
    processNewVideoStages platform service
    return true
  else
    others platform
    return false

/-- `drain_pending_videos`; the result tells whether it worked on the video. -/
def drainPendingVideos : PipelineProc Bool := do
  skipDisabledShortStagesForUser platform service
  let (selected, _) ← selectPending none
  others platform
  if selected.isEmpty then return false
  else
    processNewVideoStages platform service
    commit platform
    others platform
    return true

/-- A batch of `process_pending_stages_with_throttling`. -/
def processBatch : PipelineProc Bool := do
  let worked ← processPendingStages platform service (some service.startupBatchSize)
  commit platform
  return worked

/-- The batches after the first: `rounds` times where rows are left. -/
def processBatches : Nat → PipelineProc Bool
  | 0 => return false
  | n + 1 => do
    let (selected, more) ← selectPending (some service.startupBatchSize)
    let worked ← if selected.isEmpty ∧ ¬ more then pure false else processBatch platform service
    return worked || (← processBatches n)

/-- `process_pending_stages_with_throttling`. -/
def processPendingStagesWithThrottling (rounds : Nat) : PipelineProc Bool := do
  if service.startupBatchSize ≤ 0 then processPendingStages platform service none
  else
    let (selected, more) ← selectPending (some service.startupBatchSize)
    if selected.isEmpty ∧ ¬ more then return false
    else
      let worked ← processBatch platform service
      return worked || (← processBatches platform service rounds)

/-! Recovery and resolution. -/

/-- The rows `attempt_summary_recovery` asks for. -/
def recoverable (s : PipelineSession) : Prop :=
  (s.flushedRows .summary).any (fun r => decide r.status.isOpen) = true
    ∧ s.video.flushed.transcript.isSome = true
    ∧ (service.shortsProcessingEnabled = true ∨ s.video.flushed.isShort ≠ some true)

instance (s : PipelineSession) : Decidable (recoverable service s) :=
  inferInstanceAs (Decidable (_ ∧ _ ∧ _))

/-- `attempt_summary_recovery`. -/
def attemptSummaryRecovery : PipelineProc Unit := do
  let s ← Proc.read
  if ¬ service.summaryPaused ∨ s.recoveryTarget = some "none" then pure ()
  else
    let mine ← Proc.ask fun r => match r with
      | .first mine => some mine
      | _ => none
    if recoverable service s ∧ mine then attemptSummary platform service
    else others platform
    flush platform

/-- `reconcile_quarantined_summaries`. -/
def reconcileQuarantinedSummaries : PipelineProc Unit := do
  match service.summaries.summarizationService with
  | some (.broker broker) =>
    others platform
    onSummary platform (reconcileStage platform broker)
    others platform
    flush platform
  | _ => pure ()

end

end YTPipe.Pipeline
