import YTPipe.Pipeline.Notice
import YTPipe.Telegram.Requests

/-!
# What a command's reply tells

`_reply_message` and the notice it is made of, and that neither the reply to a
failed command nor the fallback's message depends on anything but the video's
names, the quarantine and the code of the failure.
-/

namespace YTPipe.Telegram

open Broker Pipeline

/-- `format_persisted_summary_failure`. -/
def formatPersistedSummaryFailure (failureCode : Option String) (quarantined : Bool)
    (videoReference : Option String) : String :=
  let state :=
    if quarantined then
      if failureCode = some "broker_timeout" then
        "La espera agotó el plazo; se desconoce si el broker completó el trabajo. "
          ++ "Los reintentos están suspendidos para evitar duplicados. "
          ++ "Un operador debe revisar el worker del broker y recuperar el resultado de "
          ++ "la tarea existente antes de habilitar nuevos intentos."
      else "Quarantined: requiere resolución operativa antes de continuar."
    else "No se reintentará automáticamente."
  let reference :=
    if videoReference.getD "" = "" then "" else "Video: " ++ videoReference.getD "" ++ "\n"
  reference ++ "Resumen no disponible.\nMotivo: " ++ formatSummaryFailureCode failureCode
    ++ "\nEstado: " ++ state
    ++ "\nCódigo: " ++ formatSummaryFailureDiagnosticCode (failureCode.getD "")

/-- `text.rsplit(" ", 1)[0]`. -/
def beforeLastSpace (text : Text) : Text :=
  match (text.reverse.dropWhile (· ≠ ' ')) with
  | [] => text
  | _ :: front => front.reverse

/-- `_truncate_telegram_text`. -/
def truncateTelegramText (text : String) : String :=
  if text.length ≤ 3800 then text
  else String.ofList (beforeLastSpace (text.toList.take 3800))

/-- `_reply_message`, with the request's video and the summary stage that the
query for the video gives. -/
def replyMessage (request : TelegramCommandRequest) (video : Option Video)
    (summaryStage : Option PipelineStage) : String :=
  if request.status = .completed then
    let summary := (video.bind (·.summary)).getD []
    truncateTelegramText ("📝 " ++
      if summary = [] then "El resumen no está disponible." else String.ofList summary)
  else if request.lastError = some "short_disabled" then
    "Este video es un Short y su procesamiento está desactivado."
  else if request.status = .rejected then
    "No pude procesar esta solicitud. Revisa la URL o la configuración actual."
  else if request.status = .failed then
    match (if request.videoId.isSome then summaryStage else none).filter
        fun r => r.failureCode.getD "" ≠ "" with
    | some r =>
      formatPersistedSummaryFailure r.failureCode r.quarantinedAt.isSome (video.map videoUrl)
    | none => "No se pudo completar el resumen de este video."
  else "No se pudo completar la solicitud."

/-- A code that `_display_reason` has no text for. -/
def Unrecognized (code : String) : Prop := code ∉ displayReasons.map (·.1)

/-- Codes that read the same: no code, one code, or two that have no text. -/
inductive SameCode : Option String → Option String → Prop
  | absent {c c' : Option String} (empty : c.getD "" = "") (empty' : c'.getD "" = "") :
      SameCode c c'
  | equal {code : String} (nonempty : code ≠ "") : SameCode (some code) (some code)
  | unrecognized {code code' : String} (nonempty : code ≠ "") (nonempty' : code' ≠ "")
      (unknown : Unrecognized code) (unknown' : Unrecognized code') :
      SameCode (some code) (some code')

/-- Summary stages that failed in the same way, whatever else they hold. -/
structure SameFailure (r r' : PipelineStage) : Prop where
  failed : r.status = .failed ↔ r'.status = .failed
  quarantined : r.quarantinedAt.isSome = r'.quarantinedAt.isSome
  code : SameCode r.failureCode r'.failureCode

section codes

variable {code code' : String}

theorem displayReason_of_unrecognized (h : Unrecognized code) :
    displayReason code = fallbackReason := by
  unfold displayReason
  rw [List.lookup_eq_none_iff.mpr]
  · rfl
  · intro pair hpair
    rw [bne_iff_ne]
    intro same
    exact h (List.mem_map.mpr ⟨pair, hpair, same.symm⟩)

theorem diagnosticCode_of_unrecognized (h : Unrecognized code) :
    formatSummaryFailureDiagnosticCode code = "summary_failure" := by
  unfold formatSummaryFailureDiagnosticCode
  split
  · rfl
  · next known =>
    have plain : code = "summary_failure" := by
      rw [displayReason_of_unrecognized h] at known
      simpa using (not_or.mp known).2
    exact plain

theorem broker_timeout_recognized (h : Unrecognized code) : code ≠ "broker_timeout" := by
  rintro rfl
  exact h (by decide)

theorem orElse_of_empty {c : Option String} (h : c.getD "" = "") (default : String) :
    orElse c default = default := by
  cases c with
  | none => rfl
  | some code => exact if_pos h

theorem orElse_of_nonempty (h : code ≠ "") (default : String) : orElse (some code) default = code :=
  if_neg h

end codes

theorem SameCode.reason {c c' : Option String} (h : SameCode c c') :
    formatSummaryFailureCode c = formatSummaryFailureCode c' := by
  cases h with
  | absent empty empty' =>
    unfold formatSummaryFailureCode
    rw [orElse_of_empty empty, orElse_of_empty empty']
  | equal => rfl
  | unrecognized nonempty nonempty' unknown unknown' =>
    unfold formatSummaryFailureCode
    rw [orElse_of_nonempty nonempty, orElse_of_nonempty nonempty',
      displayReason_of_unrecognized unknown, displayReason_of_unrecognized unknown']

theorem SameCode.diagnostic {c c' : Option String} (h : SameCode c c') (default : String) :
    formatSummaryFailureDiagnosticCode (orElse c default)
      = formatSummaryFailureDiagnosticCode (orElse c' default) := by
  cases h with
  | absent empty empty' => rw [orElse_of_empty empty, orElse_of_empty empty']
  | equal => rfl
  | unrecognized nonempty nonempty' unknown unknown' =>
    rw [orElse_of_nonempty nonempty, orElse_of_nonempty nonempty',
      diagnosticCode_of_unrecognized unknown, diagnosticCode_of_unrecognized unknown']

theorem SameCode.timeout {c c' : Option String} (h : SameCode c c') (default : String) :
    orElse c default = "broker_timeout" ↔ orElse c' default = "broker_timeout" := by
  cases h with
  | absent empty empty' => rw [orElse_of_empty empty, orElse_of_empty empty']
  | equal => exact Iff.rfl
  | unrecognized nonempty nonempty' unknown unknown' =>
    rw [orElse_of_nonempty nonempty, orElse_of_nonempty nonempty']
    exact iff_of_false (broker_timeout_recognized unknown) (broker_timeout_recognized unknown')

theorem SameCode.empty_iff {c c' : Option String} (h : SameCode c c') :
    c.getD "" = "" ↔ c'.getD "" = "" := by
  cases h with
  | absent empty empty' => exact iff_of_true empty empty'
  | equal => exact Iff.rfl
  | unrecognized nonempty nonempty' => exact iff_of_false nonempty nonempty'

theorem SameCode.notice {c c' : Option String} (h : SameCode c c') (nonempty : c.getD "" ≠ "")
    (quarantined : Bool) (reference : Option String) :
    formatPersistedSummaryFailure c quarantined reference
      = formatPersistedSummaryFailure c' quarantined reference := by
  have reason := h.reason
  cases h with
  | absent empty => exact absurd empty nonempty
  | equal => rfl
  | unrecognized _ _ unknown unknown' =>
    unfold formatPersistedSummaryFailure
    simp only [reason, Option.some.injEq, broker_timeout_recognized unknown,
      broker_timeout_recognized unknown', Option.getD_some,
      diagnosticCode_of_unrecognized unknown, diagnosticCode_of_unrecognized unknown']

/-- A notice that does not count attempts tells the reason, the code and the state. -/
theorem formatSummaryFailureNotice_congr {o o' : SummaryFailureOutcome} (title : Option String)
    (attempts attempts' limit limit' : Int) (reference : String)
    (disposition : o.disposition = o'.disposition) (final : o.disposition ≠ .retry)
    (reason : o.displayReason = o'.displayReason)
    (timeout : o.failureCode = "broker_timeout" ↔ o'.failureCode = "broker_timeout")
    (diagnostic : formatSummaryFailureDiagnosticCode o.failureCode
      = formatSummaryFailureDiagnosticCode o'.failureCode) :
    formatSummaryFailureNotice o title attempts limit reference
      = formatSummaryFailureNotice o' title attempts' limit' reference := by
  have final' : o'.disposition ≠ .retry := disposition ▸ final
  unfold formatSummaryFailureNotice
  simp only [disposition, final', reason, timeout, diagnostic, false_and, if_false]

/-- The fallback tells of a failed or quarantined summary. -/
theorem fallbackMessage_congr {rows rows' : Rows} {video video' : Video} {r r' : PipelineStage}
    (title : video.title = video'.title) (channel : video.channelTitle = video'.channelTitle)
    (youtube : video.youtubeVideoId = video'.youtubeVideoId) (hr : rows .summary = some r)
    (hr' : rows' .summary = some r') (same : SameFailure r r')
    (told : r.status = .failed ∨ r.quarantinedAt.isSome) (reason reason' : String) :
    fallbackMessage rows video reason = fallbackMessage rows' video' reason' := by
  have told' : r'.status = .failed ∨ r'.quarantinedAt.isSome := by
    rw [← same.failed, ← same.quarantined]
    exact told
  have url : videoUrl video = videoUrl video' := congrArg ("https://www.youtube.com/watch?v=" ++ ·) youtube
  unfold fallbackMessage
  simp only [hr, hr', Option.filter, Bool.or_eq_true, decide_eq_true_eq, told, told', if_true,
    title, channel, youtube, url]
  rw [same.code.reason]
  congr 4
  apply formatSummaryFailureNotice_congr
  · simp only [same.quarantined]
    split <;> rfl
  · split <;> simp [terminalOutcome]
  · simp only [same.quarantined]
    split <;> rfl
  · simp only [same.quarantined]
    split <;> exact same.code.timeout _
  · simp only [same.quarantined]
    split <;> exact same.code.diagnostic _

/-- The stage's failure, where it has a code, as the reply tells it. -/
theorem SameFailure.reply {r r' : PipelineStage} (same : SameFailure r r')
    (reference : Option String) :
    (match (some r).filter fun r => r.failureCode.getD "" ≠ "" with
      | some r => formatPersistedSummaryFailure r.failureCode r.quarantinedAt.isSome reference
      | none => "No se pudo completar el resumen de este video.")
    = match (some r').filter fun r => r.failureCode.getD "" ≠ "" with
      | some r => formatPersistedSummaryFailure r.failureCode r.quarantinedAt.isSome reference
      | none => "No se pudo completar el resumen de este video." := by
  by_cases empty : r.failureCode.getD "" = ""
  · rw [Option.filter_some_neg (by simpa using empty),
      Option.filter_some_neg (by simpa using same.code.empty_iff.mp empty)]
  · rw [Option.filter_some_pos (by simpa using empty),
      Option.filter_some_pos (by simpa using mt same.code.empty_iff.mpr empty)]
    exact (same.code.notice empty _ reference).trans (by rw [same.quarantined])

/-- The reply to a failed request. -/
theorem replyMessage_congr {request request' : TelegramCommandRequest} {video video' : Video}
    {r r' : PipelineStage} (youtube : video.youtubeVideoId = video'.youtubeVideoId)
    (known : request.videoId.isSome = request'.videoId.isSome) (same : SameFailure r r')
    (failed : request.status = .failed) (failed' : request'.status = .failed)
    (plain : request.lastError ≠ some "short_disabled")
    (plain' : request'.lastError ≠ some "short_disabled") :
    replyMessage request (request.videoId.map fun _ => video) (some r)
      = replyMessage request' (request'.videoId.map fun _ => video') (some r') := by
  have url : videoUrl video = videoUrl video' :=
    congrArg ("https://www.youtube.com/watch?v=" ++ ·) youtube
  have unfinished : RequestStatus.failed ≠ .completed := by decide
  have unrejected : RequestStatus.failed ≠ .rejected := by decide
  simp only [replyMessage, failed, failed', plain, plain', unfinished, unrejected, if_false,
    if_true]
  cases hid : request.videoId with
  | none =>
    rw [hid] at known
    rw [Option.isSome_eq_false_iff.mp known.symm |> Option.isNone_iff_eq_none.mp]
    rfl
  | some id =>
    rw [hid] at known
    obtain ⟨id', hid'⟩ := Option.isSome_iff_exists.mp known.symm
    rw [hid', Option.map_some, Option.map_some, Option.map_some, Option.map_some, url]
    exact same.reply _

/-- There is something to tell of a failed or quarantined summary. -/
theorem buildFallbackReason_of_summary {rows : Rows} {r : PipelineStage}
    (hr : rows .summary = some r) (told : r.status = .failed ∨ r.quarantinedAt.isSome)
    (reference : String) : ∃ reason, buildFallbackReason rows reference = some reason := by
  rw [← Option.isSome_iff_exists, buildFallbackReason, List.findSome?_isSome_iff]
  refine ⟨.summary, by decide, ?_⟩
  rw [hr, Option.bind_some, if_neg]
  · rfl
  · rintro ⟨open_, quiet⟩
    rcases told with failed | quarantined
    · exact open_ failed
    · rw [quiet] at quarantined
      cases quarantined

/-- Two states that agree on the names of the video, and on the failure of the
summary and its code, give the same fallback message and the same reply. -/
theorem failure_notices_leak_nothing (rows rows' : Rows) (video video' : Video)
    (r r' : PipelineStage) (title : video.title = video'.title)
    (channel : video.channelTitle = video'.channelTitle)
    (youtube : video.youtubeVideoId = video'.youtubeVideoId)
    (hr : rows .summary = some r) (hr' : rows' .summary = some r') (same : SameFailure r r') :
    (r.status = .failed ∨ r.quarantinedAt.isSome →
      ∃ reason reason', buildFallbackReason rows (videoUrl video) = some reason
        ∧ buildFallbackReason rows' (videoUrl video') = some reason'
        ∧ fallbackMessage rows video reason = fallbackMessage rows' video' reason')
    ∧ ∀ request request' : TelegramCommandRequest, request.status = .failed →
      request'.status = .failed → request.lastError ≠ some "short_disabled" →
        request'.lastError ≠ some "short_disabled" →
          request.videoId.isSome = request'.videoId.isSome →
            replyMessage request (request.videoId.map fun _ => video) (some r)
              = replyMessage request' (request'.videoId.map fun _ => video') (some r') := by
  constructor
  · intro told
    have told' : r'.status = .failed ∨ r'.quarantinedAt.isSome := by
      rw [← same.failed, ← same.quarantined]
      exact told
    obtain ⟨reason, hreason⟩ := buildFallbackReason_of_summary hr told (videoUrl video)
    obtain ⟨reason', hreason'⟩ := buildFallbackReason_of_summary hr' told' (videoUrl video')
    exact ⟨reason, reason', hreason, hreason',
      fallbackMessage_congr title channel youtube hr hr' same told reason reason'⟩
  · intro request request' failed failed' plain plain' known
    exact replyMessage_congr youtube known same failed failed' plain plain'

section secrets

def leakVideo : Video := ⟨1, some "Canal", "abc", some "Título", none, none, none, none⟩

def quietStage : PipelineStage :=
  { PipelineStage.new 1 1 1 .summary with
    status := .failed
    failureCode := some "broker_invalid_output" }

def secretStage : PipelineStage :=
  { quietStage with
    attemptCount := 3
    brokerSubmissionEpoch := 7
    failureClass := some "output_invalid"
    lastError := some "Bearer 1234"
    reconciliationReason := some "operator note"
    brokerTaskId := some "task-1"
    brokerIdempotencyKey := some "key-1"
    brokerSubmissionHistory := some [⟨1, "indeterminate", "broker_timeout", "see ticket", 0⟩] }

def onlySummary (r : PipelineStage) : Rows := fun n => if n = .summary then some r else none

def failedRequest (lastError : Option String) : TelegramCommandRequest where
  id := 1
  createdAt := 0
  telegramUpdateId := 1
  telegramChatId := 1
  telegramUserId := 1
  telegramMessageId := 1
  submittedUrl := none
  youtubeVideoId := none
  videoId := some 1
  status := .failed
  attemptCount := 1
  maxAttempts := 3
  nextAttemptAt := none
  processingStartedAt := none
  leaseExpiresAt := none
  leaseToken := none
  lastError := lastError
  acknowledgedAt := none
  acknowledgmentMessageId := none
  replyStatus := .pending
  replyAttemptCount := 0
  replyMaxAttempts := 3
  replyNextAttemptAt := none
  replyStartedAt := none
  replySentAt := none
  telegramReplyMessageId := none

theorem failure_notices_leak_nothing_secrets :
    (∃ reason reason', buildFallbackReason (onlySummary quietStage) (videoUrl leakVideo) = some reason
        ∧ buildFallbackReason (onlySummary secretStage) (videoUrl leakVideo) = some reason'
        ∧ fallbackMessage (onlySummary quietStage) leakVideo reason
          = fallbackMessage (onlySummary secretStage) leakVideo reason')
    ∧ replyMessage (failedRequest none) (some leakVideo) (some quietStage)
      = replyMessage (failedRequest (some "Bearer 1234")) (some leakVideo) (some secretStage) := by
  have leak := failure_notices_leak_nothing (onlySummary quietStage) (onlySummary secretStage)
    leakVideo leakVideo quietStage secretStage rfl rfl rfl rfl rfl
    ⟨by decide, rfl, .equal (by decide)⟩
  exact ⟨leak.1 (Or.inl rfl),
    leak.2 (failedRequest none) (failedRequest (some "Bearer 1234")) rfl rfl (by decide) (by decide) rfl⟩

end secrets

end YTPipe.Telegram
