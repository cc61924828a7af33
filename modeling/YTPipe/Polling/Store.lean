import YTPipe.Process
import YTPipe.Stage
import YTPipe.Table

/-!
# What a poll works on

The rows `services/polling.py` reads and writes, the session over them, what
the surroundings answer and what a poll does to them. A foreign key is the
unique key of the row it refers to: a video is named by its YouTube id. The
rows of a table stand in the order of their ids.
-/

namespace YTPipe.Polling

inductive DeliveryStatus
  | pending
  | pendingRetry
  | delivered
  | failed
  | skipped
  deriving DecidableEq, Repr

structure NotificationDelivery where
  userId : Int
  videoId : String
  status : DeliveryStatus
  attemptCount : Int
  lastAttemptAt : Option Time
  lastError : Option String
  deriving DecidableEq, Repr

/-- `unique(user_id, video_id)`. -/
def NotificationDelivery.key (d : NotificationDelivery) : Int × String := (d.userId, d.videoId)

/-- A row as `NotificationDelivery(user_id=..., video_id=..., status="pending")`
creates it. -/
def NotificationDelivery.new (key : Int × String) : NotificationDelivery :=
  ⟨key.1, key.2, .pending, 0, none, none⟩

structure Video where
  youtubeVideoId : String
  channelId : Int
  title : Option Text
  publishedAt : Option Time
  isShort : Option Bool
  deriving DecidableEq, Repr

/-- A stage row, as far as a poll looks at it. -/
structure StageRow where
  userId : Int
  videoId : String
  stage : StageName
  status : Status
  deriving DecidableEq, Repr

/-- `unique(video_id, user_id, stage)`. -/
def StageRow.key (r : StageRow) : Int × String × StageName := (r.userId, r.videoId, r.stage)

structure Channel where
  id : Int
  youtubeChannelId : String
  title : Option String
  uploadsPlaylistId : Option String
  deriving DecidableEq, Repr

/-- A user's channel, with the channel it refers to. -/
structure UserChannel where
  userId : Int
  channel : Channel
  isMonitored : Bool
  lastSeenVideoId : Option String
  baselineEstablishedAt : Option Time
  deriving DecidableEq, Repr

/-- `unique(user_id, channel_id)`. -/
def UserChannel.key (u : UserChannel) : Int × Int := (u.userId, u.channel.id)

/-- What the quota process keeps in its `state_metadata`. -/
structure QuotaMetadata where
  usageDay : Option Int
  estimatedUnitsUsedToday : Int
  safetyStopTriggeredAt : Option Time
  deriving DecidableEq, Repr

structure Db where
  userChannels : Table (Int × Int) UserChannel UserChannel.key
  videos : Table String Video Video.youtubeVideoId
  deliveries : Table (Int × String) NotificationDelivery NotificationDelivery.key
  stages : Table (Int × String × StageName) StageRow StageRow.key
  quota : QuotaMetadata

abbrev DbInstance := Instance Db Unit

/-- An item of `playlistItems().list`; a field that is missing is `none`. -/
structure PlaylistItem where
  videoId : Option String
  title : Option Text
  publishedAt : Option Text
  deriving DecidableEq, Repr

/-- A playlist, newest first, in the pages it is served in. -/
abbrev Playlist := List (List PlaylistItem)

/-- The ids of the videos of a playlist. -/
def ids (p : Playlist) : List String := p.flatten.filterMap (·.videoId)

structure QuotaContext where
  usageDay : Int
  dailyQuotaBudget : Int
  estimatedUnitsUsedToday : Int
  lastRunEstimatedUnits : Int
  safetyStopEnabled : Bool
  safetyStopActive : Bool
  safetyStopTriggeredAt : Option Time
  quotaBlocked : Bool
  deriving DecidableEq, Repr

/-- An exception on its way to a handler. -/
inductive PollError
  /-- `PollingChannelError`. -/
  | channel (code message : String)
  | other (message : String)
  deriving DecidableEq, Repr

/-- An entry of `channel_errors`. -/
structure ChannelError where
  channelId : Int
  youtubeChannelId : String
  title : Option String
  errorCode : String
  errorMessage : String
  deriving DecidableEq, Repr

/-- The counters of a run. -/
structure Tally where
  channelsProcessed : Nat
  channelsFailed : Nat
  baselinesEstablished : Nat
  newVideosDetected : Nat
  videosDiscovered : Nat
  channelErrors : List ChannelError
  deriving DecidableEq, Repr

/-- What a run works on. `remote` is YouTube's side: the uploads playlist of
each channel. -/
structure PollState where
  db : DbInstance
  quota : QuotaContext
  tally : Tally
  exception : PollError
  remote : Int → Playlist

/-- What `send_video_notification` does. -/
inductive EmailOutcome
  | returned
  | failed (message : String) (retryable : Bool)
  deriving DecidableEq, Repr

/-- What the pipeline does to a session that polling shares with it. -/
inductive PipelineEffect
  | flush
  | commit
  /-- Writes the status of a stage row, which is created where there is none. -/
  | stage (row : StageRow)

/-- An answer of the surroundings. `done` is a call that may have flushed. -/
inductive PollReply
  | now (t : Time)
  | done (flushed : Bool)
  | committed
  | answered
  | duration (value : Option Text)
  | email (outcome : EmailOutcome)
  | pipeline (effects : List PipelineEffect) (raises : Option String)
  | raised (unusablePlaylist : Bool) (message : String)

inductive PollEvent
  /-- A run begins, in a session of its own. -/
  | started
  /-- A send, with the delivery as it stands in memory. -/
  | email (delivery : NotificationDelivery) (outcome : Option EmailOutcome)
  /-- A delivery that is given up because its video is a Short. -/
  | skipped (key : Int × String)
  | push (userId : Int) (videoId : String)
  /-- A stage row is added. -/
  | staged (key : Int × String × StageName)
  /-- A request to the YouTube Data API, with the units counted so far. -/
  | request (quota : QuotaContext)
  /-- A channel is reported. -/
  | channelError (error : ChannelError)
  | committed
  | rolledBack
  deriving DecidableEq

abbrev PollWorld := World PollReply PollEvent PollState

abbrev PollProc := Proc PollReply PollEvent PollState

def DbInstance.flush (i : DbInstance) : DbInstance := Instance.flush (Column.none Db) .assigned i

def DbInstance.commit (i : DbInstance) : DbInstance := Instance.commit (Column.none Db) .assigned i

def DbInstance.rollback (i : DbInstance) : DbInstance := Instance.rollback (Column.none Db) i

/-- Changes rows in memory. -/
def PollState.edit (f : Db → Db) (s : PollState) : PollState := { s with db := s.db.modify f }

section instances

variable {i : DbInstance} {f : Db → Db}

@[simp] theorem flush_durable : i.flush.durable = i.durable := rfl
@[simp] theorem flush_flushed : i.flush.flushed = i.current := rfl
@[simp] theorem flush_current : i.flush.current = i.current := rfl
@[simp] theorem commit_durable : i.commit.durable = i.current := rfl
@[simp] theorem commit_flushed : i.commit.flushed = i.current := rfl
@[simp] theorem commit_current : i.commit.current = i.current := rfl
@[simp] theorem rollback_durable : i.rollback.durable = i.durable := rfl
@[simp] theorem rollback_flushed : i.rollback.flushed = i.durable := rfl
@[simp] theorem rollback_current : i.rollback.current = i.durable := rfl

end instances

/-! The calls a run makes. -/

def raise {α : Type} (e : PollError) : PollProc α := do
  Proc.modify fun s => { s with exception := e }
  Proc.lose

/-- An answer of a kind `view` recognises, or an exception: whether it is the
`HttpError` of an unusable playlist, and its text. -/
def viewOr {β : Type} (view : PollReply → Option β) : PollReply → Option (Except (Bool × String) β)
  | .raised unusable message => some (.error (unusable, message))
  | r => (view r).map .ok

/-- A call that may raise instead of answering. -/
def call {β : Type} (view : PollReply → Option β) : PollProc β := do
  match ← Proc.ask (viewOr view) with
  | .ok b => pure b
  | .error (_, message) => raise (.other message)

def viewNow : PollReply → Option Time
  | .now t => some t
  | _ => none

def viewDone : PollReply → Option Bool
  | .done flushed => some flushed
  | _ => none

def viewCommitted : PollReply → Option Unit
  | .committed => some ()
  | _ => none

def utcNow : PollProc Time := call viewNow

def flushSession : PollProc Unit :=
  Proc.modify fun s => { s with db := s.db.flush }

/-- A call that may flush the session. -/
def mayFlush : PollProc Unit := do
  let flushed ← call viewDone
  if flushed then flushSession else pure ()

/-- `session.flush()`. -/
def flush : PollProc Unit := do
  let _ ← call viewDone
  flushSession

def commitSession : PollProc Unit := do
  Proc.modify fun s => { s with db := s.db.commit }
  Proc.emit fun _ => .committed

/-- `session.commit()`. -/
def commit : PollProc Unit := do
  call viewCommitted
  commitSession

/-- `session.rollback()`. -/
def rollback : PollProc Unit := do
  Proc.modify fun s => { s with db := s.db.rollback }
  Proc.emit fun _ => .rolledBack

/-- The rows as a query sees them: pending changes are not flushed for it. -/
def visible : PollProc Db := do
  return (← Proc.read).db.flushed

def inMemory : PollProc Db := do
  return (← Proc.read).db.current

/-- `session.add(row); session.flush()`; a key that is taken is an integrity error. -/
def addAndFlush (add : Db → Option Db) : PollProc Unit := do
  let _ ← call viewDone
  match add (← inMemory) with
  | none => raise (.other "IntegrityError")
  | some db => do
    Proc.modify fun s => s.edit fun _ => db
    flushSession

def countUnit (q : QuotaContext) : QuotaContext :=
  { q with
    lastRunEstimatedUnits := q.lastRunEstimatedUnits + 1
    estimatedUnitsUsedToday := q.estimatedUnitsUsedToday + 1 }

def setQuota (f : QuotaContext → QuotaContext) : PollProc Unit :=
  Proc.modify fun s => { s with quota := f s.quota }

def setTally (f : Tally → Tally) : PollProc Unit :=
  Proc.modify fun s => { s with tally := f s.tally }

/-- `try: body`, with the exception where there was one. -/
def attempt {α : Type} (body : PollProc α) : PollProc (Except PollError α) := do
  Proc.modify fun s => { s with exception := .other "" }
  match ← Proc.caught body with
  | some a => return .ok a
  | none => return .error (← Proc.read).exception

/-! What the results about runs speak of. -/

/-- A world without the answers to come, and of the local variables with the count of
the day's units only. -/
structure Facts where
  db : DbInstance
  remote : Int → Playlist
  quota : QuotaContext
  trace : List PollEvent

def facts (w : PollWorld) : Facts := ⟨w.state.db, w.state.remote, w.state.quota, w.trace⟩

namespace Facts

def flush (f : Facts) : Facts := { f with db := f.db.flush }

def commit (f : Facts) : Facts := { f with db := f.db.commit, trace := .committed :: f.trace }

def rollback (f : Facts) : Facts := { f with db := f.db.rollback, trace := .rolledBack :: f.trace }

def edit (g : Db → Db) (f : Facts) : Facts := { f with db := f.db.modify g }

def note (e : PollEvent) (f : Facts) : Facts := { f with trace := e :: f.trace }

def count (q : QuotaContext) (f : Facts) : Facts := { f with quota := q }

end Facts

/-- What holds of the facts before holds of them after. -/
def Kept {α : Type} (J : Facts → Prop) (p : PollProc α) : Prop := Proc.Keeps (fun w => J (facts w)) p

section kept

open Proc

variable {J : Facts → Prop} {α β : Type}

theorem Kept.pure (a : α) : Kept J (Pure.pure a) := Keeps.pure a

theorem Kept.bind {p : PollProc α} {q : α → PollProc β} (first : Kept J p)
    (rest : ∀ a, Kept J (q a)) : Kept J (p >>= q) := Keeps.bind first rest

theorem Kept.ite {c : Prop} [Decidable c] {p q : PollProc α} (yes : c → Kept J p)
    (no : ¬ c → Kept J q) : Kept J (if c then p else q) := Keeps.ite yes no

theorem Kept.when {c : Prop} [Decidable c] {q : PollProc Unit} (yes : c → Kept J q) :
    Kept J (Proc.when c q) := Keeps.when yes

theorem Kept.forM {xs : List β} {q : β → PollProc PUnit} (turn : ∀ x ∈ xs, Kept J (q x)) :
    Kept J (xs.forM q) := Keeps.forM turn

theorem kept_raise (e : PollError) : Kept J (raise e : PollProc α) := fun _ h => h

theorem kept_ask (view : PollReply → Option β) : Kept J (Proc.ask view) :=
  fun _ h => wp_ask view h fun _ _ => h

theorem kept_call (view : PollReply → Option β) : Kept J (call view) := by
  unfold call
  refine Kept.bind (kept_ask _) fun answer => ?_
  cases answer with
  | ok b => exact Kept.pure b
  | error e => exact kept_raise _

theorem kept_utcNow : Kept J utcNow := kept_call _

theorem kept_setQuota (h : ∀ f q, J f → J (f.count q)) (g : QuotaContext → QuotaContext) :
    Kept J (setQuota g) := fun _ hw => h _ _ hw

theorem kept_setTally (g : Tally → Tally) : Kept J (setTally g) := fun _ h => h

theorem kept_read : Kept J (Proc.read : PollProc PollState) := fun _ h => h

theorem kept_visible : Kept J visible := fun _ h => h

theorem kept_inMemory : Kept J inMemory := fun _ h => h

theorem wp_visible {post : Db → PollWorld → Prop} {lost : PollWorld → Prop} {w : PollWorld} :
    wp visible post lost w ↔ post w.state.db.flushed w := Iff.rfl

theorem wp_inMemory {post : Db → PollWorld → Prop} {lost : PollWorld → Prop} {w : PollWorld} :
    wp inMemory post lost w ↔ post w.state.db.current w := Iff.rfl

theorem kept_attempt {body : PollProc α} (h : Kept J body) : Kept J (attempt body) := by
  unfold attempt
  refine Kept.bind (fun _ h => h) fun _ => ?_
  refine Kept.bind (Keeps.caught h) fun r => ?_
  cases r with
  | some a => exact Kept.pure _
  | none => exact Kept.bind kept_read fun _ => Kept.pure _

theorem wp_attempt {body : PollProc α} {post : Except PollError α → PollWorld → Prop}
    {lost : PollWorld → Prop} {w : PollWorld} :
    wp (attempt body) post lost w ↔
      wp body (fun a => post (.ok a)) (fun v => post (.error v.state.exception) v)
        { w with state := { w.state with exception := .other "" } } := by
  unfold attempt
  rw [wp_bind, wp_modify, wp_bind, wp_caught]
  exact Iff.rfl

theorem kept_flushSession (h : ∀ f, J f → J f.flush) : Kept J flushSession := fun _ hw => h _ hw

theorem kept_commitSession (h : ∀ f, J f → J f.commit) : Kept J commitSession := fun _ hw => h _ hw

theorem kept_edit {g : Db → Db} (h : ∀ f, J f → J (f.edit g)) :
    Kept J (Proc.modify fun s => s.edit g) := fun _ hw => h _ hw

theorem kept_emit {e : PollState → PollEvent}
    (h : ∀ s t, J ⟨s.db, s.remote, s.quota, t⟩ → J ⟨s.db, s.remote, s.quota, e s :: t⟩) :
    Kept J (Proc.emit e) :=
  fun w hw => h w.state w.trace hw

theorem kept_exchange {view : PollReply → Option β} {e : PollState → Option β → PollEvent}
    (h : ∀ s t answer, J ⟨s.db, s.remote, s.quota, t⟩ → J ⟨s.db, s.remote, s.quota, e s answer :: t⟩) :
    Kept J (Proc.exchange view e) :=
  fun w hw => wp_exchange view e (h w.state w.trace none hw)
    fun b _ => h w.state w.trace (some b) hw

theorem kept_mayFlush (h : ∀ f, J f → J f.flush) : Kept J mayFlush :=
  Kept.bind (kept_call _) fun _ => Kept.ite (fun _ => kept_flushSession h) fun _ => Kept.pure _

theorem kept_flush (h : ∀ f, J f → J f.flush) : Kept J flush :=
  Kept.bind (kept_call _) fun _ => kept_flushSession h

theorem kept_commit (h : ∀ f, J f → J f.commit) : Kept J commit :=
  Kept.bind (kept_call _) fun _ => kept_commitSession h

theorem kept_rollback (h : ∀ f, J f → J f.rollback) : Kept J rollback := fun _ hw => h _ hw

/-- A commit is made or the process is lost. -/
theorem wp_commit {K : Facts → Prop} {w : PollWorld} (h : J (facts w))
    (committed : ∀ f, J f → K f.commit) :
    wp commit (fun _ u => K (facts u)) (fun u => J (facts u)) w := by
  unfold commit
  rw [wp_bind]
  exact wp_mono (kept_call (J := J) viewCommitted w h) (fun _ u hu => committed _ hu) fun _ hu => hu

end kept

end YTPipe.Polling
