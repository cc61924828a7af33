import YTPipe.Telegram.Requests

/-!
# The command worker

`process_next` of `telegram_command_queue.py` after its claim, one database
transaction at a time. What it takes from the metadata lookup, the pipeline and
the Telegram API is an answer of the surroundings; the pipeline's own rows are
of any type.
-/

namespace YTPipe.Telegram

/-- `_sanitize_error`. -/
def sanitizeError (error : String) : String :=
  truncate 500 (String.ofList (Text.join [' '] (Text.words error.toList)))

def retryDelays : List Int := [30, 120, 600]

/-- `_retry_delay`. -/
def retryDelay (attemptCount : Int) : Int :=
  retryDelays.getD (min (max (attemptCount - 1) 0).toNat (retryDelays.length - 1)) 0

/-- What the worker reads of a video. -/
structure VideoFacts where
  id : Int
  isShort : Option Bool
  hasSummary : Bool

/-- How `resolve_and_upsert` ends. -/
inductive Lookup
  | found (video : VideoFacts)
  /-- A `YouTubeMetadataError`. -/
  | error (code message : String) (retryable : Bool)

/-- The outcome of `process_content_stages`. -/
inductive ContentOutcome
  | completed
  | failed
  | pending
  deriving DecidableEq, Repr

/-- How a call of the Telegram API ends. -/
inductive SendOutcome
  | sent (messageId : Int)
  | failed (retryable : Bool) (retryAfterSeconds : Option Int)
  deriving DecidableEq, Repr

/-- Where a worker stands. The copies of the row's columns are those of the
object in memory. -/
inductive Phase
  | opened
  /-- The attempt is counted, the lookup runs. -/
  | lookingUp (attemptCount maxAttempts : Int)
  /-- The pipeline runs; the video's id may be in the open transaction only. -/
  | inContent (assigned : Option Int)
  /-- The message is ready. -/
  | replying
  | replied (outcome : SendOutcome) (attemptCount maxAttempts : Int)

structure Worker where
  request : Int
  token : String
  kind : WorkKind
  settings : CommandSettings
  phase : Phase

/-- Why a request is failed. -/
inductive FailureCause
  | exhausted
  | lookup
  | content
  deriving DecidableEq, Repr

inductive QueueEvent
  /-- `_process_content` starts for a request. -/
  | content (request : Int)
  /-- A reply is sent by the worker with the token. -/
  | sent (request : Int) (token : String)
  /-- A request, whose video is known or not, is moved to failed. -/
  | failed (request : Int) (videoKnown : Bool) (cause : FailureCause)
  deriving DecidableEq, Repr

/-- The durable rows, the workers that are alive, the tokens handed out, the
pipeline's rows and what happened, newest first. -/
structure QueueState (σ : Type) where
  rows : Requests
  workers : List Worker
  issued : List String
  stages : σ
  log : List QueueEvent

/-- What the surroundings answer to a worker's transaction. -/
inductive Answer (σ : Type)
  /-- What `_process_content` finds: a user, the request's video, an account. -/
  | found (user : Bool) (video : Option VideoFacts) (account : Bool)
  | lookup (result : Lookup)
  /-- The pipeline commits, having changed its rows. -/
  | pipelineCommit (effect : σ → σ)
  /-- The pipeline comes back, having changed its rows since its last commit. -/
  | pipeline (outcome : ContentOutcome) (error : Option String) (effect : σ → σ)
  | send (outcome : SendOutcome)
  | nothing

/-- The columns of `_finish_processing`. -/
def finishRow (status : RequestStatus) (error : Option String) (delaySeconds : Option Int)
    (now : Time) (r : TelegramCommandRequest) : TelegramCommandRequest :=
  { r with
    status := status
    lastError := match error with
      | some e => if e = "" then none else some (sanitizeError e)
      | none => none
    nextAttemptAt :=
      if status = .pendingRetry then delaySeconds.map fun d => now + seconds d else none
    processingStartedAt := none
    leaseExpiresAt := none
    leaseToken := none }

/-- `WHERE lease_token = token`. -/
def fenced (token : String) (f : TelegramCommandRequest → TelegramCommandRequest)
    (r : TelegramCommandRequest) : TelegramCommandRequest :=
  if r.leaseToken = some token then f r else r

/-- The columns a reply's outcome sets. -/
def replyRow (outcome : SendOutcome) (attemptCount maxAttempts : Int) (now : Time)
    (r : TelegramCommandRequest) : TelegramCommandRequest :=
  let r := { r with leaseExpiresAt := none, leaseToken := none }
  match outcome with
  | .sent messageId =>
    { r with
      replyStatus := .sent
      replySentAt := some now
      telegramReplyMessageId := some messageId }
  | .failed retryable retryAfterSeconds =>
    if retryable = false ∨ attemptCount ≥ maxAttempts then
      { r with replyStatus := .failed, replyNextAttemptAt := none }
    else
      -- a pause of zero seconds is none
      let pause := match retryAfterSeconds with
        | some n => if n = 0 then retryDelay attemptCount else n
        | none => retryDelay attemptCount
      { r with
        replyStatus := .pendingRetry
        replyNextAttemptAt := some (now + seconds pause) }

theorem fenced_id {token : String} {f : TelegramCommandRequest → TelegramCommandRequest}
    (keeps : ∀ r, (f r).id = r.id) (r : TelegramCommandRequest) : (fenced token f r).id = r.id := by
  unfold fenced
  split
  · exact keeps r
  · rfl

theorem replyRow_id (outcome : SendOutcome) (attemptCount maxAttempts : Int) (now : Time)
    (r : TelegramCommandRequest) : (replyRow outcome attemptCount maxAttempts now r).id = r.id := by
  unfold replyRow
  cases outcome with
  | sent => rfl
  | failed =>
    simp only
    split <;> rfl

/-- What `_finish_processing` sets apart from the fence. -/
structure Finish where
  status : RequestStatus
  error : Option String
  delaySeconds : Option Int
  /-- Columns assigned in the same transaction. -/
  assignedVideo : Option Int
  assignedAttempts : Option Int
  cause : FailureCause

def Finish.row (f : Finish) (now : Time) (r : TelegramCommandRequest) : TelegramCommandRequest :=
  finishRow f.status f.error f.delaySeconds now
    { r with
      videoId := f.assignedVideo.or r.videoId
      attemptCount := f.assignedAttempts.getD r.attemptCount }

theorem Finish.row_id (f : Finish) (now : Time) (r : TelegramCommandRequest) :
    (f.row now r).id = r.id := rfl

namespace QueueState

variable {σ : Type}

/-- The worker with a token. -/
def worker (s : QueueState σ) (token : String) : Option Worker :=
  s.workers.find? fun w => w.token = token

/-- The worker comes back. -/
def leave (s : QueueState σ) (token : String) : QueueState σ :=
  { s with workers := s.workers.filter fun w => w.token ≠ token }

/-- The worker goes on to another phase. -/
def proceed (s : QueueState σ) (token : String) (phase : Phase) : QueueState σ :=
  { s with
    workers := s.workers.map fun w => if w.token = token then { w with phase := phase } else w }

def note (s : QueueState σ) (e : QueueEvent) : QueueState σ := { s with log := e :: s.log }

def update (s : QueueState σ) (id : Int) (f : TelegramCommandRequest → TelegramCommandRequest)
    (keeps : ∀ r, (f r).id = r.id) : QueueState σ :=
  { s with rows := s.rows.alter id f keeps }

/-- `_owns`. -/
def owns (s : QueueState σ) (w : Worker) : Bool :=
  (s.rows.get w.request).any fun r => r.leaseToken = some w.token

/-- `_finish_processing` and the worker's return. -/
def finish (s : QueueState σ) (w : Worker) (f : Finish) (now : Time) : QueueState σ :=
  if s.owns w then
    let known := (s.rows.get w.request).any (·.videoId.isSome)
    let s := (s.update w.request (fenced w.token (f.row now)) (fenced_id (f.row_id now))).leave
      w.token
    if f.status = .failed then s.note (.failed w.request known f.cause) else s
  else s.leave w.token

/-- The video decides: a disabled Short, a summary that is there, or content work. -/
def decideVideo (s : QueueState σ) (w : Worker) (assigned : Option Int) (video : VideoFacts)
    (now : Time) : QueueState σ :=
  if video.isShort = some true ∧ w.settings.shortsProcessingEnabled = false then
    s.finish w ⟨.rejected, some "short_disabled", none, assigned, none, .content⟩ now
  else if video.hasSummary then s.finish w ⟨.completed, none, none, assigned, none, .content⟩ now
  else s.proceed w.token (.inContent assigned)

/-- The first transaction of `_process_content`. -/
def beginContent (s : QueueState σ) (w : Worker) (user : Bool) (video : Option VideoFacts)
    (account : Bool) (now : Time) : QueueState σ :=
  let unauthenticated : Finish :=
    ⟨.pendingRetry, some "Google authentication is required.", some 3600, none, none, .lookup⟩
  match s.rows.get w.request with
  | none => s.leave w.token
  | some r =>
    if s.owns w = false then s.leave w.token
    else if user = false then s.finish w unauthenticated now
    else
      match if r.videoId.isSome then video else none with
      | some video => s.decideVideo w none video now
      | none =>
        if account = false then s.finish w unauthenticated now
        -- `_increment_metadata_attempt`
        else if r.attemptCount < r.maxAttempts then
          (s.update w.request (fun r => { r with attemptCount := r.attemptCount + 1 })
            fun _ => rfl).proceed w.token (.lookingUp (r.attemptCount + 1) r.maxAttempts)
        else s.leave w.token

/-- What follows the metadata lookup. -/
def endLookup (s : QueueState σ) (w : Worker) (attemptCount maxAttempts : Int) (result : Lookup)
    (now : Time) : QueueState σ :=
  match result with
  | .found video => s.decideVideo w (some video.id) video now
  | .error code message retryable =>
    if code = "google_reauth_required" ∨ code = "quota_blocked" ∨ code = "quota_exceeded" then
      s.finish w ⟨.pendingRetry, some message,
        some (if code = "google_reauth_required" then 3600 else 86400), none,
        some (max 0 (attemptCount - 1)), .lookup⟩ now
    else if retryable ∧ attemptCount < maxAttempts then
      s.finish w ⟨.pendingRetry, some message, some (retryDelay attemptCount), none, none,
        .lookup⟩ now
    else s.finish w ⟨.failed, some message, none, none, none, .lookup⟩ now

/-- What follows `process_content_stages`. -/
def endContent (s : QueueState σ) (w : Worker) (assigned : Option Int) (outcome : ContentOutcome)
    (error : Option String) (now : Time) : QueueState σ :=
  match outcome with
  | .completed => s.finish w ⟨.completed, none, none, assigned, none, .content⟩ now
  | .failed => s.finish w ⟨.failed, error, none, assigned, none, .content⟩ now
  | .pending =>
    let text := match error with
      | some e => if e = "" then "Content processing is temporarily pending." else e
      | none => "Content processing is temporarily pending."
    s.finish w ⟨.pendingRetry, some text, some 30, assigned, none, .content⟩ now

/-- The first transaction of `_deliver_reply`. -/
def beginReply (s : QueueState σ) (w : Worker) : QueueState σ :=
  match s.rows.get w.request with
  | none => s.leave w.token
  | some r =>
    if s.owns w = false then s.leave w.token
    else if authorizedDestination w.settings r = false then
      (s.update w.request suppressUnauthorized suppressUnauthorized_id).leave w.token
    else s.proceed w.token .replying

/-- The ownership check before the send, and the send. -/
def sendReply (s : QueueState σ) (w : Worker) (outcome : SendOutcome) : QueueState σ :=
  match s.rows.get w.request with
  | none => s.leave w.token
  | some r =>
    if s.owns w = false then s.leave w.token
    else
      (s.note (.sent w.request w.token)).proceed w.token
        (.replied outcome r.replyAttemptCount r.replyMaxAttempts)

/-- The conditional update after the send. -/
def endReply (s : QueueState σ) (w : Worker) (outcome : SendOutcome)
    (attemptCount maxAttempts : Int) (now : Time) : QueueState σ :=
  (s.update w.request (fenced w.token (replyRow outcome attemptCount maxAttempts now))
    (fenced_id (replyRow_id outcome attemptCount maxAttempts now))).leave w.token

/-- The next transaction of a worker; an answer that does not fit is an
exception, which ends it. -/
def work (s : QueueState σ) (w : Worker) (answer : Answer σ) (now : Time) : QueueState σ :=
  match w.kind, w.phase, answer with
  | .processing, .opened, .found user video account => s.beginContent w user video account now
  | .processing, .lookingUp attemptCount maxAttempts, .lookup result =>
    s.endLookup w attemptCount maxAttempts result now
  | .processing, .inContent assigned, .pipelineCommit effect =>
    let s := s.update w.request (fun r => { r with videoId := assigned.or r.videoId }) fun _ => rfl
    { s.proceed w.token (.inContent none) with stages := effect s.stages }
  | .processing, .inContent assigned, .pipeline outcome error effect =>
    { s.endContent w assigned outcome error now with
      stages := if s.owns w then effect s.stages else s.stages }
  | .reply, .opened, _ => s.beginReply w
  | .reply, .replying, .send outcome => s.sendReply w outcome
  | .reply, .replied outcome attemptCount maxAttempts, _ =>
    s.endReply w outcome attemptCount maxAttempts now
  | _, _, _ => s.leave w.token

/-- The requests that the exhaustion sweep of a call fails. -/
def exhaustedEvents (now : Time) (rows : Requests) : List QueueEvent :=
  (rows.rows.filter fun r =>
      (recoverStaleClaim now r).status ≠ .failed && (sweep now r).status = .failed).map
    fun r => .failed r.id r.videoId.isSome .exhausted

/-- A call of `process_next` up to the start of its work. -/
def callNext (s : QueueState σ) (settings : CommandSettings) (clock : CallClock) (token : String) :
    QueueState σ :=
  let (opening, rows) := openCall settings clock token s.rows
  let swept := if opening = .disabled then [] else exhaustedEvents clock.recovered s.rows
  let s := { s with rows := rows, log := swept ++ s.log }
  match opening with
  | .claimed request kind =>
    let s := { s with
      workers := ⟨request, token, kind, settings, .opened⟩ :: s.workers
      issued := token :: s.issued }
    match kind with
    | .processing => s.note (.content request)
    | .reply => s
  | _ => s

end QueueState

/-- Something that happens to the queue. -/
inductive QueueOp (σ : Type)
  /-- The intake adds a row; one whose URL is malformed is rejected at once. -/
  | submit (row : TelegramCommandRequest)
  | call (settings : CommandSettings) (clock : CallClock) (token : String)
  | work (token : String) (answer : Answer σ) (now : Time)
  | crash (token : String)
  /-- A video is deleted: `ondelete="SET NULL"`. -/
  | forget (video : Int)
  /-- `record_telegram_acknowledgment`. -/
  | acknowledge (request : Int) (messageId : Option Int) (now : Time)
  /-- Other work on the pipeline's rows. -/
  | others (effect : σ → σ)

/-- The row is as the intake creates it. -/
structure Submitted (r : TelegramCommandRequest) : Prop where
  status : r.status = .pending ∨ r.status = .rejected
  video : r.videoId = none
  attempts : r.attemptCount = 0 ∧ r.maxAttempts = 3
  reply : r.replyStatus = .pending ∧ r.replyAttemptCount = 0 ∧ r.replyMaxAttempts = 3
  lease : r.leaseToken = none ∧ r.leaseExpiresAt = none

instance (r : TelegramCommandRequest) : Decidable (Submitted r) :=
  decidable_of_iff ((r.status = .pending ∨ r.status = .rejected) ∧ r.videoId = none
      ∧ (r.attemptCount = 0 ∧ r.maxAttempts = 3)
      ∧ (r.replyStatus = .pending ∧ r.replyAttemptCount = 0 ∧ r.replyMaxAttempts = 3)
      ∧ (r.leaseToken = none ∧ r.leaseExpiresAt = none))
    ⟨fun ⟨a, b, c, d, e⟩ => ⟨a, b, c, d, e⟩, fun ⟨a, b, c, d, e⟩ => ⟨a, b, c, d, e⟩⟩

def forgetVideo (video : Int) (r : TelegramCommandRequest) : TelegramCommandRequest :=
  if r.videoId = some video then { r with videoId := none } else r

def acknowledgeRow (messageId : Option Int) (now : Time) (r : TelegramCommandRequest) :
    TelegramCommandRequest :=
  if r.acknowledgedAt.isNone then
    { r with acknowledgedAt := some now, acknowledgmentMessageId := messageId }
  else r

theorem forgetVideo_id (video : Int) (r : TelegramCommandRequest) :
    (forgetVideo video r).id = r.id := by
  unfold forgetVideo
  split <;> rfl

theorem acknowledgeRow_id (messageId : Option Int) (now : Time) (r : TelegramCommandRequest) :
    (acknowledgeRow messageId now r).id = r.id := by
  unfold acknowledgeRow
  split <;> rfl

namespace QueueState

variable {σ : Type}

/-- A token that was handed out before, and a row that is not new, do not come up. -/
def step (s : QueueState σ) : QueueOp σ → QueueState σ
  | .submit row =>
    if Submitted row then
      match s.rows.insert row with
      | some rows => { s with rows := rows }
      | none => s
    else s
  | .call settings clock token =>
    if token ∈ s.issued then s else s.callNext settings clock token
  | .work token answer now =>
    match s.worker token with
    | some w => s.work w answer now
    | none => s
  | .crash token => s.leave token
  | .forget video => { s with rows := s.rows.map (forgetVideo video) (forgetVideo_id video) }
  | .acknowledge request messageId now =>
    s.update request (acknowledgeRow messageId now) (acknowledgeRow_id messageId now)
  | .others effect => { s with stages := effect s.stages }

def run (s : QueueState σ) (ops : List (QueueOp σ)) : QueueState σ := ops.foldl step s

/-- The empty queue. -/
def initial (stages : σ) : QueueState σ := ⟨.empty, [], [], stages, []⟩

end QueueState

end YTPipe.Telegram
