import YTPipe.SummaryStage

/-!
# What a user is told of a failed video

The fallback's trigger, its reason and its message in `services/pipeline.py`, and
the notice of `telegram_failure_notice.py`.
-/

namespace YTPipe.Pipeline

open Broker

/-- The stages of a video, by their names. -/
abbrev Rows := StageName → Option PipelineStage

/-- The stages that do the work, in their order. -/
def workStages : List StageName := [.transcript, .summary, .telegram]

/-- `_compact_error`. -/
def compactError (message : String) : String :=
  let spaced := message.toList.map fun c => if c = '\n' ∨ c = '\r' then ' ' else c
  orElse (some (truncate 500 (String.ofList (Text.join [' '] (Text.words spaced)))))
    "Unknown summarization failure."

/-- `format_summary_failure_diagnostic_code`. -/
def formatSummaryFailureDiagnosticCode (code : String) : String :=
  if code = "" ∨ (displayReason code = fallbackReason ∧ code ≠ "summary_failure") then
    "summary_failure"
  else code

/-- `format_summary_failure_notice`. -/
def formatSummaryFailureNotice (outcome : SummaryFailureOutcome) (title : Option String)
    (attemptCount maxAttempts : Int) (videoReference : String) : String :=
  let titled := if title.getD "" = "" then "" else "Video: " ++ title.getD "" ++ "\n"
  let reference := if videoReference = "" then "" else "Video: " ++ videoReference ++ "\n"
  let state := match outcome.disposition with
    | .quarantine =>
      if outcome.failureCode = "broker_timeout" then
        "La espera agotó el plazo; se desconoce si el broker completó el trabajo. "
          ++ "Los reintentos están suspendidos para evitar duplicados. "
          ++ "Un operador debe revisar el worker del broker y recuperar el resultado de "
          ++ "la tarea existente antes de habilitar nuevos intentos."
      else "Quarantined: requiere resolución operativa antes de continuar."
    | .retry => "Se reintentará automáticamente con backoff."
    | .terminal => "No se reintentará automáticamente."
  let attempts :=
    if outcome.disposition = .retry ∧ attemptCount > 0 then
      "\nIntentos realizados: " ++ toString attemptCount ++ " de " ++ toString maxAttempts ++ "."
    else ""
  titled ++ reference ++ "Resumen no disponible.\nMotivo: " ++ outcome.displayReason
    ++ "\nEstado: " ++ state ++ attempts
    ++ "\nCódigo: " ++ formatSummaryFailureDiagnosticCode outcome.failureCode

/-- The route a persisted failure class speaks of. -/
def routeOfClass (failureClass : Option String) : Route :=
  if ["client_invalid", "policy_rejected", "backend_rejected", "output_invalid",
      "indeterminate"].contains (failureClass.getD "") then .broker
  else .direct

/-- The outcome of a persisted summary failure that is told as final. -/
def terminalOutcome (r : PipelineStage) (displayReason : String) : SummaryFailureOutcome where
  route := routeOfClass r.failureClass
  failureClass := orElse r.failureClass "permanent"
  failureCode := orElse r.failureCode "summary_failure"
  disposition := .terminal
  retryAt := none
  recoveryOwner := .operator
  recoveryAction := "none"
  displayReason := displayReason

/-- The outcome of a persisted quarantine, for the reason. -/
def quarantineOutcome (r : PipelineStage) : SummaryFailureOutcome where
  route := .broker
  failureClass := orElse r.failureClass "indeterminate"
  failureCode := orElse r.failureCode "broker_task_indeterminate"
  disposition := .quarantine
  retryAt := none
  recoveryOwner := .operator
  recoveryAction := "broker_resolve"
  displayReason := formatSummaryFailureCode r.failureCode

/-- `FALLBACK_REASON_TRANSCRIPT` and its kin, with the stage's limit. -/
def exhaustedReason (action : String) (r : PipelineStage) : String :=
  "No se pudo " ++ action ++ " después de " ++ toString r.maxAttempts ++ " intentos."

/-- The reason with its cause. -/
def causedReason (action : String) (r : PipelineStage) : String :=
  exhaustedReason action r ++ " Causa: "
    ++ compactError (orElse r.lastError (exhaustedReason action r))

/-- The reason of one stage in `_build_fallback_reason`. -/
def stageReason (videoReference : String) (r : PipelineStage) : StageName → String
  | .transcript => causedReason "obtener la transcripción" r
  | .summary =>
    let outcome :=
      if r.quarantinedAt.isSome then quarantineOutcome r
      else terminalOutcome r
        (orElse (some (formatSummaryFailureCode r.failureCode))
          (exhaustedReason "generar el resumen" r))
    formatSummaryFailureNotice outcome none r.attemptCount r.maxAttempts videoReference
  | _ => causedReason "enviar el mensaje por Telegram" r

/-- `_should_trigger_fallback`. -/
def shouldTriggerFallback (rows : Rows) : Bool :=
  workStages.any fun n => (rows n).any fun r =>
    r.status = .failed || (n = .summary && r.quarantinedAt.isSome)

/-- `_build_fallback_reason`. -/
def buildFallbackReason (rows : Rows) (videoReference : String) : Option String :=
  workStages.findSome? fun n => (rows n).bind fun r =>
    if r.status ≠ .failed ∧ r.quarantinedAt = none then none
    else some (stageReason videoReference r n)

def videoUrl (video : Video) : String := "https://www.youtube.com/watch?v=" ++ video.youtubeVideoId

/-- The message `_attempt_single_fallback` sends. -/
def fallbackMessage (rows : Rows) (video : Video) (reason : String) : String :=
  let title := orElse video.title video.youtubeVideoId
  let channelTitle := orElse video.channelTitle "Canal desconocido"
  match (rows .summary).filter fun r => r.status = .failed || r.quarantinedAt.isSome with
  | some r =>
    let outcome : SummaryFailureOutcome :=
      if r.quarantinedAt.isSome then
        { terminalOutcome r (formatSummaryFailureCode r.failureCode) with
          disposition := .quarantine
          recoveryAction := "broker_resolve" }
      else terminalOutcome r (formatSummaryFailureCode r.failureCode)
    formatSummaryFailureNotice outcome (some title) r.attemptCount r.maxAttempts (videoUrl video)
      ++ "\nCanal: " ++ channelTitle
      ++ "\nCausa: " ++ formatSummaryFailureCode r.failureCode
  | none =>
    "⚠️ No se pudo completar el envío\n🎬 " ++ title ++ "\n" ++ channelTitle ++ "\n"
      ++ videoUrl video ++ "\n\nMotivo: " ++ reason

/-- Something to tell the user of. -/
def Troubled (rows : Rows) : Prop :=
  (∃ n ∈ workStages, ∃ r, rows n = some r ∧ r.status = .failed)
    ∨ ∃ r, rows .summary = some r ∧ r.quarantinedAt.isSome

theorem shouldTriggerFallback_iff {rows : Rows} :
    shouldTriggerFallback rows = true ↔ Troubled rows := by
  simp only [shouldTriggerFallback, List.any_eq_true, Option.any_eq_true, Troubled,
    Bool.or_eq_true, Bool.and_eq_true, decide_eq_true_eq]
  constructor
  · rintro ⟨n, hn, r, hr, failed | ⟨rfl, quarantined⟩⟩
    · exact .inl ⟨n, hn, r, hr, failed⟩
    · exact .inr ⟨r, hr, quarantined⟩
  · rintro (⟨n, hn, r, hr, failed⟩ | ⟨r, hr, quarantined⟩)
    · exact ⟨n, hn, r, hr, .inl failed⟩
    · exact ⟨.summary, by decide, r, hr, .inr ⟨rfl, quarantined⟩⟩

/-- There is a reason just where the fallback is triggered, as long as only the
summary is ever quarantined. -/
theorem buildFallbackReason_isSome {rows : Rows} (reference : String)
    (calm : ∀ n ∈ workStages, n ≠ .summary → ∀ r, rows n = some r → r.quarantinedAt = none) :
    (buildFallbackReason rows reference).isSome = true ↔ Troubled rows := by
  rw [← shouldTriggerFallback_iff, shouldTriggerFallback, buildFallbackReason,
    List.findSome?_isSome_iff, List.any_eq_true]
  apply exists_congr
  intro n
  apply and_congr_right
  intro hn
  cases hr : rows n with
  | none => simp
  | some r =>
    by_cases summary : n = .summary
    · subst summary
      by_cases failed : r.status = .failed
      · simp [failed]
      · simp [failed, Option.isSome_iff_ne_none]
    · have quiet := calm n hn summary r hr
      by_cases failed : r.status = .failed
      · simp [failed]
      · simp [failed, quiet, summary]

end YTPipe.Pipeline
