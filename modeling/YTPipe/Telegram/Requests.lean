import YTPipe.Platform
import YTPipe.Table
import YTPipe.Text

/-!
# The command queue

The rows of `models/telegram_command_request.py` and what
`telegram_command_queue.py` does to them before the work on a request starts:
recovery of stale claims, exhaustion, the choice of a request and its claim.
-/

namespace YTPipe.Telegram

inductive RequestStatus
  | pending
  | processing
  | pendingRetry
  | completed
  | failed
  | rejected
  deriving DecidableEq, Repr

inductive ReplyStatus
  | pending
  | sending
  | pendingRetry
  | sent
  | failed
  | suppressed
  deriving DecidableEq, Repr

/-- `PROCESSING_TERMINAL`. -/
def RequestStatus.isTerminal (s : RequestStatus) : Prop :=
  s = .completed ∨ s = .failed ∨ s = .rejected

instance (s : RequestStatus) : Decidable s.isTerminal := inferInstanceAs (Decidable (_ ∨ _))

/-- The statuses of a request that waits or is worked on. -/
def RequestStatus.isUnsettled (s : RequestStatus) : Prop :=
  s = .pending ∨ s = .processing ∨ s = .pendingRetry

instance (s : RequestStatus) : Decidable s.isUnsettled := inferInstanceAs (Decidable (_ ∨ _))

/-- `REPLY_DUE`. -/
def ReplyStatus.isDue (s : ReplyStatus) : Prop := s = .pending ∨ s = .pendingRetry

instance (s : ReplyStatus) : Decidable s.isDue := inferInstanceAs (Decidable (_ ∨ _))

/-- The id of a video, as the intake takes it from a URL. -/
structure YoutubeVideoId where
  text : String
  nonempty : text ≠ ""
  deriving DecidableEq, Repr

structure TelegramCommandRequest where
  id : Int
  createdAt : Time
  telegramUpdateId : Int
  telegramChatId : Int
  telegramUserId : Int
  telegramMessageId : Int
  submittedUrl : Option String
  youtubeVideoId : Option YoutubeVideoId
  videoId : Option Int
  status : RequestStatus
  attemptCount : Int
  maxAttempts : Int
  nextAttemptAt : Option Time
  processingStartedAt : Option Time
  leaseExpiresAt : Option Time
  leaseToken : Option String
  lastError : Option String
  acknowledgedAt : Option Time
  acknowledgmentMessageId : Option Int
  replyStatus : ReplyStatus
  replyAttemptCount : Int
  replyMaxAttempts : Int
  replyNextAttemptAt : Option Time
  replyStartedAt : Option Time
  replySentAt : Option Time
  telegramReplyMessageId : Option Int
  deriving DecidableEq, Repr

/-- The table of requests. -/
abbrev Requests := Table Int TelegramCommandRequest TelegramCommandRequest.id

/-- What the queue takes from the settings. An id that is not a number is `none`. -/
structure CommandSettings where
  telegramCommandsEnabled : Bool
  telegramAllowedUserId : Option Int
  telegramChatId : Option Int
  shortsProcessingEnabled : Bool

def leaseSeconds : Int := 3600

/-- What a claim is for. -/
inductive WorkKind
  | processing
  | reply
  deriving DecidableEq, Repr

section rows

variable (now : Time)

/-- `lease_expires_at < now`; a lease that does not expire is not stale. -/
def TelegramCommandRequest.stale (r : TelegramCommandRequest) : Bool :=
  r.leaseExpiresAt.any fun t => decide (t < now)

/-- The first loop of `_recover_stale_claims`. -/
def recoverProcessing (r : TelegramCommandRequest) : TelegramCommandRequest :=
  if r.status = .processing ∧ r.stale now = true then
    { r with
      status := .pendingRetry
      nextAttemptAt := some now
      processingStartedAt := none
      leaseExpiresAt := none
      leaseToken := none
      lastError := some "Previous command processing lease expired." }
  else r

/-- The second loop; its rows are chosen before the changes of the first are flushed. -/
def recoverReply (stored r : TelegramCommandRequest) : TelegramCommandRequest :=
  if stored.replyStatus = .sending ∧ stored.stale now = true then
    { r with
      replyStatus := .pendingRetry
      replyNextAttemptAt := some now
      replyStartedAt := none
      leaseExpiresAt := none
      leaseToken := none }
  else r

/-- `_recover_stale_claims`, of one row. -/
def recoverStaleClaim (r : TelegramCommandRequest) : TelegramCommandRequest :=
  recoverReply now r (recoverProcessing now r)

end rows

/-- The first loop of `_terminalize_exhausted_requests`. -/
def exhaustProcessing (r : TelegramCommandRequest) : TelegramCommandRequest :=
  if (r.status = .pending ∨ r.status = .pendingRetry) ∧ r.attemptCount ≥ r.maxAttempts then
    { r with
      status := .failed
      nextAttemptAt := none
      lastError := some "Command processing attempts were exhausted." }
  else r

/-- The second loop; its rows are chosen before the changes of the first are flushed. -/
def exhaustReply (stored r : TelegramCommandRequest) : TelegramCommandRequest :=
  if stored.status.isTerminal ∧ stored.replyStatus.isDue
      ∧ stored.replyAttemptCount ≥ stored.replyMaxAttempts then
    { r with replyStatus := .failed, replyNextAttemptAt := none }
  else r

/-- `_terminalize_exhausted_requests`, of one row. -/
def terminalizeExhausted (r : TelegramCommandRequest) : TelegramCommandRequest :=
  exhaustReply r (exhaustProcessing r)

/-- Both sweeps. -/
def sweep (now : Time) (r : TelegramCommandRequest) : TelegramCommandRequest :=
  terminalizeExhausted (recoverStaleClaim now r)

theorem recoverStaleClaim_id (now : Time) (r : TelegramCommandRequest) :
    (recoverStaleClaim now r).id = r.id := by
  unfold recoverStaleClaim recoverReply recoverProcessing
  split <;> split <;> rfl

theorem terminalizeExhausted_id (r : TelegramCommandRequest) :
    (terminalizeExhausted r).id = r.id := by
  unfold terminalizeExhausted exhaustReply exhaustProcessing
  split <;> split <;> rfl

theorem sweep_id (now : Time) (r : TelegramCommandRequest) : (sweep now r).id = r.id :=
  (terminalizeExhausted_id _).trans (recoverStaleClaim_id now r)

/-- `_is_processing_due`. -/
def processingDue (now : Time) (r : TelegramCommandRequest) : Bool :=
  r.status = .pending
    || (r.status = .pendingRetry && r.nextAttemptAt.all fun t => decide (t ≤ now))

def replyDue (now : Time) (r : TelegramCommandRequest) : Bool :=
  r.status.isTerminal && r.replyStatus.isDue
    && r.replyNextAttemptAt.all fun t => decide (t ≤ now)

/-- The row that comes first in an order. -/
def firstBy (before : TelegramCommandRequest → TelegramCommandRequest → Bool) :
    List TelegramCommandRequest → Option TelegramCommandRequest
  | [] => none
  | r :: rows =>
    match firstBy before rows with
    | none => some r
    | some s => if before s r then some s else some r

/-- `order_by(created_at.asc(), id.asc())`. -/
def createdBefore (r s : TelegramCommandRequest) : Bool :=
  r.createdAt < s.createdAt || (r.createdAt = s.createdAt && r.id < s.id)

/-- `_select_candidate`. -/
def selectCandidate (now : Time) (rows : Requests) : Option (TelegramCommandRequest × WorkKind) :=
  (firstBy createdBefore (rows.rows.filter fun r => processingDue now r || replyDue now r)).map
    fun r => (r, if processingDue now r then .processing else .reply)

/-- An unsettled request for the same video with a smaller id. -/
def leads (request r : TelegramCommandRequest) : Bool :=
  r.id < request.id && r.youtubeVideoId = request.youtubeVideoId && r.status.isUnsettled

/-- The leader, where the request names a video. -/
def olderLeader (rows : Requests) (request : TelegramCommandRequest) :
    Option TelegramCommandRequest :=
  if request.youtubeVideoId.isNone then none
  else firstBy (fun r s => r.id < s.id) (rows.rows.filter (leads request))

/-- `_has_older_content_leader`. -/
def hasOlderContentLeader (rows : Requests) (request : TelegramCommandRequest) : Bool :=
  (olderLeader rows request).isSome

/-- `_leader_retry_time`. -/
def leaderRetryTime (now : Time) (rows : Requests) (request : TelegramCommandRequest) : Time :=
  match (olderLeader rows request).bind (·.nextAttemptAt) with
  | some t => max t (now + seconds 30)
  | none => now + seconds 30

/-- `_authorized_destination`. -/
def authorizedDestination (settings : CommandSettings) (r : TelegramCommandRequest) : Bool :=
  match settings.telegramAllowedUserId, settings.telegramChatId with
  | some user, some chat => r.telegramUserId = user && r.telegramChatId = chat
  | _, _ => false

/-- `_suppress_unauthorized_request`. -/
def suppressUnauthorized (r : TelegramCommandRequest) : TelegramCommandRequest :=
  let r :=
    if r.status.isTerminal then r
    else { r with
      status := .rejected, lastError := some "Telegram command authorization changed." }
  { r with replyStatus := .suppressed, leaseExpiresAt := none, leaseToken := none }

/-- A sibling that waits for the leader. -/
def awaitLeader (until_ : Time) (r : TelegramCommandRequest) : TelegramCommandRequest :=
  { r with
    status := .pendingRetry
    nextAttemptAt := some until_
    lastError := some "Waiting for shared video content processing." }

/-- `_claim`. -/
def claim (kind : WorkKind) (token : String) (now : Time) (r : TelegramCommandRequest) :
    TelegramCommandRequest :=
  let r := { r with leaseToken := some token, leaseExpiresAt := some (now + seconds leaseSeconds) }
  match kind with
  | .processing =>
    { r with status := .processing, processingStartedAt := some now, nextAttemptAt := none }
  | .reply =>
    { r with
      replyStatus := .sending
      replyStartedAt := some now
      replyAttemptCount := r.replyAttemptCount + 1
      replyNextAttemptAt := none }

theorem suppressUnauthorized_id (r : TelegramCommandRequest) :
    (suppressUnauthorized r).id = r.id := by
  unfold suppressUnauthorized
  split <;> rfl

theorem claim_id (kind : WorkKind) (token : String) (now : Time) (r : TelegramCommandRequest) :
    (claim kind token now r).id = r.id := by
  cases kind <;> rfl

/-- The times a call of `process_next` reads, in their order. -/
structure CallClock where
  recovered : Time
  selected : Time
  settled : Time

/-- What a call does before the work on a request. -/
inductive Opening
  | disabled
  | empty
  | suppressed (request : Int)
  | waiting (request : Int)
  | claimed (request : Int) (kind : WorkKind)
  deriving DecidableEq, Repr

/-- `process_next` up to the commit of the claim. -/
def openCall (settings : CommandSettings) (clock : CallClock) (token : String) (rows : Requests) :
    Opening × Requests :=
  if settings.telegramCommandsEnabled = false then (.disabled, rows)
  else
    let rows := rows.map (sweep clock.recovered) (sweep_id clock.recovered)
    match selectCandidate clock.selected rows with
    | none => (.empty, rows)
    | some (request, kind) =>
      if authorizedDestination settings request = false then
        (.suppressed request.id,
          rows.alter request.id suppressUnauthorized suppressUnauthorized_id)
      else if kind = .processing ∧ hasOlderContentLeader rows request = true then
        (.waiting request.id,
          rows.alter request.id (awaitLeader (leaderRetryTime clock.settled rows request))
            fun _ => rfl)
      else
        (.claimed request.id kind,
          rows.alter request.id (claim kind token clock.settled)
            (claim_id kind token clock.settled))

end YTPipe.Telegram
