import YTPipe.Polling.Store

/-!
# The poll

`YouTubePollingService.run_poll` of `services/polling.py` and the route that
calls it. The pipeline's own work on the shared session is an answer of the
surroundings: any flushes, commits and stage writes, which may end in an
exception.
-/

namespace YTPipe.Polling

/-- What polling takes from the standard library. -/
structure PollPlatform where
  /-- `datetime.fromisoformat(value.replace("Z", "+00:00")).astimezone(UTC)`;
  `none` where it raises. -/
  parseDatetime : Text → Option Time
  /-- The value of a character that `\d` matches. -/
  digitValue : Char → Option Nat
  /-- The longest run of digits that `int` converts; `none` where every run is. -/
  maxStrDigits : Option Nat

/-- The services a poll is wired with. The composition root gives the pipeline
service the same Shorts setting. -/
structure PollConfig where
  dailyQuotaBudget : Int
  safetyStopEnabled : Bool
  shortsProcessingEnabled : Bool
  mobilePushService : Bool
  pipelineService : Bool

structure LatestUpload where
  videoId : Option String
  title : Option Text
  publishedAt : Option Time
  deriving DecidableEq, Repr

structure PollRunSummary where
  runOutcome : String
  channelsProcessed : Nat
  channelsFailed : Nat
  baselinesEstablished : Nat
  newVideosDetected : Nat
  quotaBlocked : Bool
  deriving DecidableEq, Repr

def shortProcessingDisabledError : String := "Short processing is disabled by configuration."

section

variable (platform : PollPlatform) (config : PollConfig)

/-! Quota. -/

def dayMicroseconds : Int := 86400 * 1000000

/-- `now.date().isoformat()`. -/
def utcDay (now : Time) : Int := now / dayMicroseconds

def buildQuotaContext (existing : QuotaMetadata) (now : Time) : QuotaContext :=
  let used := if existing.usageDay = some (utcDay now) then existing.estimatedUnitsUsedToday else 0
  let budget := max 0 config.dailyQuotaBudget
  let blocked := config.safetyStopEnabled && decide (used ≥ budget)
  { usageDay := utcDay now
    dailyQuotaBudget := budget
    estimatedUnitsUsedToday := used
    lastRunEstimatedUnits := 0
    safetyStopEnabled := config.safetyStopEnabled
    safetyStopActive := blocked
    safetyStopTriggeredAt := if blocked then some now else existing.safetyStopTriggeredAt
    quotaBlocked := blocked }

/-- `_write_quota_state`. -/
def writeQuotaState : PollProc Unit := do
  let q := (← Proc.read).quota
  Proc.modify fun s => s.edit fun db => { db with
    quota := ⟨some q.usageDay, q.estimatedUnitsUsedToday, q.safetyStopTriggeredAt⟩ }

/-! YouTube. -/

/-- A request to the YouTube Data API. -/
def request {β : Type} (view : PollReply → Option β) : PollProc (Except (Bool × String) β) := do
  Proc.emit fun s => .request s.quota
  Proc.ask (viewOr view)

def viewAnswered : PollReply → Option Unit
  | .answered => some ()
  | _ => none

/-- `_parse_youtube_datetime`; an error is a value that is not a date. -/
def parseYoutubeDatetime (value : Option Text) : Except PollError (Option Time) :=
  match value with
  | none => .ok none
  | some [] => .ok none
  | some text =>
    match platform.parseDatetime text with
    | some t => .ok (some t)
    | none => .error (.other "ValueError")

def unusableUploadsPlaylistError : String := "unusable_uploads_playlist"

/-- `if not channel.uploads_playlist_id`. -/
def Channel.unusable (channel : Channel) : Prop := channel.uploadsPlaylistId.getD "" = ""

instance (channel : Channel) : Decidable channel.unusable := inferInstanceAs (Decidable (_ = _))

def fetchLatestUpload (channel : Channel) : PollProc LatestUpload := do
  if channel.unusable then
    raise (.channel unusableUploadsPlaylistError
      "Channel does not expose a usable uploads playlist.")
  else
    match ← request viewAnswered with
    | .error (true, _) =>
      raise (.channel unusableUploadsPlaylistError
        "Channel uploads playlist is not usable for polling.")
    | .error (false, message) => raise (.other message)
    | .ok () =>
      match ((← Proc.read).remote channel.id).flatten.head? with
      | none => return ⟨none, none, none⟩
      | some item =>
        match parseYoutubeDatetime platform item.publishedAt with
        | .error e => raise e
        | .ok published => return ⟨item.videoId, item.title, published⟩

/-! Shorts. -/

def shortsTitleMarkers : List Text :=
  ["#shorts".toList, "#short".toList, "#ytshorts".toList, "ytshorts".toList]

def shortsMaxDurationSeconds : Nat := 60

/-- `title_indicates_short`. No letter of a marker is the lower case of a
letter outside ASCII. -/
def titleIndicatesShort (title : Text) : Bool :=
  shortsTitleMarkers.any fun marker => Text.contains marker (title.map Char.toLower)

/-- The digits at the head of a text, and the rest. -/
def takeDigits : Text → List Nat × Text
  | [] => ([], [])
  | c :: rest =>
    match platform.digitValue c with
    | some d => (d :: (takeDigits rest).1, (takeDigits rest).2)
    | none => ([], c :: rest)

/-- `(?:(\d+)X)?` at the head of a text; no digits where it matches nothing. -/
def durationPart (unit : Char) (text : Text) : List Nat × Text :=
  match takeDigits platform text with
  | (d :: digits, c :: rest) => if c = unit then (d :: digits, rest) else ([], text)
  | _ => ([], text)

/-- `int` of a run of digits; a run longer than the interpreter converts is a `ValueError`. -/
def intOf (digits : List Nat) : Except PollError Nat :=
  if platform.maxStrDigits.any (· < digits.length) then .error (.other "ValueError")
  else .ok (digits.foldl (fun n d => n * 10 + d) 0)

/-- `parse_iso8601_duration_seconds`: `PT`, hours, minutes and seconds, each
optional, up to the end or a last line break. -/
def parseIso8601DurationSeconds (value : Text) : Except PollError (Option Nat) :=
  match value with
  | 'P' :: 'T' :: text =>
    let (hours, text) := durationPart platform 'H' text
    let (minutes, text) := durationPart platform 'M' text
    let (seconds, text) := durationPart platform 'S' text
    if (text = [] ∨ text = ['\n']) ∧ (hours ≠ [] ∨ minutes ≠ [] ∨ seconds ≠ []) then do
      let hours ← intOf platform hours
      let minutes ← intOf platform minutes
      let seconds ← intOf platform seconds
      return some (hours * 3600 + minutes * 60 + seconds)
    else .ok none
  | _ => .ok none

def viewDuration : PollReply → Option (Option Text)
  | .duration value => some value
  | _ => none

/-- `_fetch_video_duration_seconds`. -/
def fetchVideoDurationSeconds : PollProc (Option Nat) := do
  setQuota countUnit
  match ← request viewDuration with
  | .error (_, message) => raise (.other message)
  | .ok none => return none
  | .ok (some []) => return none
  | .ok (some text) =>
    match parseIso8601DurationSeconds platform text with
    | .error e => raise e
    | .ok seconds => return seconds

/-- The columns of a video that a poll writes. -/
def Video.write (v : Video) (old : Video) : Video :=
  { old with title := v.title, publishedAt := v.publishedAt, isShort := v.isShort }

theorem Video.key_write (v old : Video) : (v.write old).youtubeVideoId = old.youtubeVideoId := rfl

def Db.setVideo (db : Db) (v : Video) : Db :=
  { db with videos := db.videos.alter v.youtubeVideoId v.write v.key_write }

def setVideo (v : Video) : PollProc Unit := Proc.modify fun s => s.edit (·.setVideo v)

/-- `_attempt_detect_and_mark_short`. -/
def attemptDetectAndMarkShort (id : String) : PollProc Unit := do
  match (← inMemory).videos.get id with
  | none => pure ()
  | some video =>
    if video.isShort.isSome then pure ()
    else if video.title.getD [] ≠ [] ∧ titleIndicatesShort (video.title.getD []) then do
      setVideo { video with isShort := some true }
      flush
    else if video.youtubeVideoId = "" then pure ()
    else
      match ← attempt (fetchVideoDurationSeconds platform) with
      | .error _ => pure ()
      | .ok none => pure ()
      | .ok (some seconds) => do
        setVideo { video with isShort := some (decide (seconds ≤ shortsMaxDurationSeconds)) }
        flush

def shouldProcessVideo (isShort : Option Bool) : Prop :=
  config.shortsProcessingEnabled = true ∨ isShort ≠ some true

instance (isShort : Option Bool) : Decidable (shouldProcessVideo config isShort) :=
  inferInstanceAs (Decidable (_ ∨ _))

/-- Whether a video's row, where there is one, is one to process. -/
def Db.shouldProcess (db : Db) (id : String) : Prop :=
  shouldProcessVideo config ((db.videos.get id).bind (·.isShort))

instance (db : Db) (id : String) : Decidable (db.shouldProcess config id) :=
  inferInstanceAs (Decidable (shouldProcessVideo _ _))

/-! Rows. -/

/-- `_get_or_create_video`. -/
def getOrCreateVideo (channelId : Int) (latest : LatestUpload) : PollProc String := do
  let id := latest.videoId.getD ""
  if id = "" then raise (.other "Cannot create canonical video without a video id.")
  else
    match (← visible).videos.get id with
    | none => do
      addAndFlush fun db => do
        let videos ← db.videos.insert ⟨id, channelId, latest.title, latest.publishedAt, none⟩
        return { db with videos := videos }
      return id
    | some _ =>
      match (← inMemory).videos.get id with
      | none => return id
      | some video => do
        setVideo { video with
          title := if video.title.isNone then latest.title else video.title
          publishedAt :=
            if video.publishedAt.isNone then latest.publishedAt else video.publishedAt }
        return id

/-- `_get_or_create_delivery`. -/
def getOrCreateDelivery (key : Int × String) : PollProc Unit := do
  match (← visible).deliveries.get key with
  | some _ => pure ()
  | none =>
    addAndFlush fun db => do
      let deliveries ← db.deliveries.insert (NotificationDelivery.new key)
      return { db with deliveries := deliveries }

def stageNames : List StageName := [.transcript, .summary, .telegram]

/-- The stages of a video that a query does not find. -/
def missingStages (db : Db) (userId : Int) (id : String) : List StageRow :=
  (stageNames.map fun name => StageRow.mk userId id name .pending).filter
    fun row => (db.stages.get row.key).isNone

def addStages : List StageRow → Db → Option Db
  | [], db => some db
  | row :: rows, db => do
    let stages ← db.stages.insert row
    addStages rows { db with stages := stages }

/-- Adding stages touches no other table. -/
theorem addStages_others {rows : List StageRow} {db db' : Db} (h : addStages rows db = some db') :
    ∃ stages, db' = { db with stages := stages } := by
  induction rows generalizing db with
  | nil =>
    cases h
    exact ⟨_, rfl⟩
  | cons row rows ih =>
    simp only [addStages, Option.bind_eq_bind, Option.bind_eq_some_iff] at h
    obtain ⟨_, -, h⟩ := h
    obtain ⟨stages, rfl⟩ := ih h
    exact ⟨stages, rfl⟩

/-- `PipelineService.create_stages_for_video`. -/
def createStagesForVideo (userId : Int) (id : String) : PollProc Unit := do
  if (← inMemory).shouldProcess config id then
    let missing := missingStages (← visible) userId id
    addAndFlush (addStages missing)
    missing.forM fun row => Proc.emit fun _ => .staged row.key
  else pure ()

/-! Deliveries. -/

/-- The columns of a delivery that a poll writes. -/
def NotificationDelivery.write (d : NotificationDelivery) (old : NotificationDelivery) :
    NotificationDelivery :=
  { old with
    status := d.status
    attemptCount := d.attemptCount
    lastAttemptAt := d.lastAttemptAt
    lastError := d.lastError }

theorem NotificationDelivery.key_write (d old : NotificationDelivery) :
    (d.write old).key = old.key := rfl

def Db.setDelivery (db : Db) (d : NotificationDelivery) : Db :=
  { db with deliveries := db.deliveries.alter d.key d.write d.key_write }

def setDelivery (d : NotificationDelivery) : PollProc Unit :=
  Proc.modify fun s => s.edit (·.setDelivery d)

def skippedDelivery (d : NotificationDelivery) : NotificationDelivery :=
  { d with status := .skipped, lastError := some shortProcessingDisabledError }

def skipDelivery (d : NotificationDelivery) : PollProc Unit := do
  setDelivery (skippedDelivery d)
  Proc.emit fun _ => .skipped d.key

def viewEmail : PollReply → Option EmailOutcome
  | .email outcome => some outcome
  | _ => none

/-- The delivery after a send. -/
def sentDelivery (isRetry : Bool) (attemptedAt : Time) (outcome : EmailOutcome)
    (d : NotificationDelivery) : NotificationDelivery :=
  match outcome with
  | .failed message retryable =>
    { d with
      attemptCount := d.attemptCount + 1
      lastAttemptAt := some attemptedAt
      lastError := some message
      status := if isRetry then .failed else if retryable then .pendingRetry else .failed }
  | .returned =>
    { d with
      attemptCount := d.attemptCount + 1
      lastAttemptAt := some attemptedAt
      lastError := none
      status := .delivered }

/-- `_attempt_delivery_send`. -/
def attemptDeliverySend (key : Int × String) (isRetry : Bool) : PollProc Unit := do
  let db ← inMemory
  match db.deliveries.get key with
  | none => pure ()
  | some delivery =>
    if db.shouldProcess config key.2 then do
      let attemptedAt ← utcNow
      let outcome ← Proc.exchange viewEmail fun _ outcome => .email delivery outcome
      setDelivery (sentDelivery isRetry attemptedAt outcome delivery)
    else skipDelivery delivery

/-- The deliveries of a user in a status, after a number of attempts. -/
def Db.deliveriesIn (db : Db) (status : DeliveryStatus) (attempts : Int) (userId : Int) :
    List (Int × String) :=
  db.deliveries.select fun d =>
    d.userId = userId && d.status = status && d.attemptCount = attempts

/-- A sweep: the rows a query finds, one after the other. -/
def sweepDeliveries (status : DeliveryStatus) (attempts : Int) (isRetry : Bool) (userId : Int) :
    PollProc Unit := do
  ((← visible).deliveriesIn status attempts userId).forM fun key =>
    attemptDeliverySend config key isRetry

/-- `_process_pending_initial_deliveries`. -/
def processPendingInitialDeliveries (userId : Int) : PollProc Unit :=
  sweepDeliveries config .pending 0 false userId

/-- `_process_pending_retry_deliveries`. -/
def processPendingRetryDeliveries (userId : Int) : PollProc Unit :=
  sweepDeliveries config .pendingRetry 1 true userId

/-- The rows `_skip_disabled_short_deliveries` asks for. -/
def pendingShort (db : Db) (userId : Int) (d : NotificationDelivery) : Bool :=
  d.userId = userId && (d.status = .pending || d.status = .pendingRetry)
    && (db.videos.get d.videoId).bind (·.isShort) = some true

/-- The turn of a row in `_skip_disabled_short_deliveries`. -/
def skipTurn (key : Int × String) : PollProc Unit := do
  match (← inMemory).deliveries.get key with
  | none => pure ()
  | some delivery => skipDelivery delivery

/-- `_skip_disabled_short_deliveries`. -/
def skipDisabledShortDeliveries (userId : Int) : PollProc Unit := do
  if config.shortsProcessingEnabled then pure ()
  else
    let db ← visible
    (db.deliveries.select (pendingShort db userId)).forM skipTurn

/-- `_attempt_initial_delivery_send`. -/
def attemptInitialDeliverySend (key : Int × String) : PollProc Unit := do
  match (← inMemory).deliveries.get key with
  | none => pure ()
  | some delivery =>
    if delivery.status ≠ .pending then pure ()
    else attemptDeliverySend config key false

/-- `_attempt_new_video_push`. -/
def attemptNewVideoPush (userId : Int) (id : String) : PollProc Unit :=
  Proc.when (config.mobilePushService = true) do
    Proc.emit fun _ => .push userId id
    let _ ← attempt mayFlush

/-! The pipeline's work in the same session. -/

/-- The column of a stage that is written here. -/
def StageRow.write (r : StageRow) (old : StageRow) : StageRow := { old with status := r.status }

theorem StageRow.key_write (r old : StageRow) : (r.write old).key = old.key := rfl

/-- A stage row under its key, written over the one that is there. -/
def Db.putStage (db : Db) (row : StageRow) : Db :=
  match db.stages.insert row with
  | some stages => { db with stages := stages }
  | none => { db with stages := db.stages.alter row.key row.write row.key_write }

theorem putStage_others (db : Db) (row : StageRow) :
    ∃ stages, db.putStage row = { db with stages := stages } := by
  unfold Db.putStage
  split <;> exact ⟨_, rfl⟩

def pipelineEffect : PipelineEffect → PollProc Unit
  | .flush => flushSession
  | .commit => commitSession
  | .stage row => Proc.modify fun s => s.edit (·.putStage row)

def viewPipeline : PollReply → Option (List PipelineEffect × Option String)
  | .pipeline effects raises => some (effects, raises)
  | _ => none

/-- A call of the pipeline service. -/
def pipelineWork : PollProc Unit := do
  if config.pipelineService then
    let (effects, raises) ← call viewPipeline
    effects.forM pipelineEffect
    match raises with
    | some message => raise (.other message)
    | none => pure ()
  else pure ()

/-! The channel loop. -/

/-- The columns of a user's channel that a poll writes. -/
def UserChannel.write (u : UserChannel) (old : UserChannel) : UserChannel :=
  { old with
    lastSeenVideoId := u.lastSeenVideoId
    baselineEstablishedAt := u.baselineEstablishedAt }

theorem UserChannel.key_write (u old : UserChannel) : (u.write old).key = old.key := rfl

def Db.setChannel (db : Db) (u : UserChannel) : Db :=
  { db with userChannels := db.userChannels.alter u.key u.write u.key_write }

def setChannel (u : UserChannel) : PollProc Unit := Proc.modify fun s => s.edit (·.setChannel u)

/-- The stages, the delivery, the first send and the push of a new video. -/
def announceVideo (userId : Int) (id : String) : PollProc Unit := do
  Proc.when (config.pipelineService = true) (createStagesForVideo config userId id)
  getOrCreateDelivery (userId, id)
  attemptInitialDeliverySend config (userId, id)
  attemptNewVideoPush config userId id

/-- The `try` of the channel loop. -/
def pollChannel (userId : Int) (now : Time) (row : UserChannel) : PollProc Unit := do
  Proc.when (¬ row.channel.unusable) (setQuota countUnit)
  let latest ← fetchLatestUpload platform row.channel
  if row.baselineEstablishedAt.isNone then do
    setChannel { row with
      lastSeenVideoId := latest.videoId
      baselineEstablishedAt := some now }
    setTally fun t => { t with
      baselinesEstablished := t.baselinesEstablished + 1
      channelsProcessed := t.channelsProcessed + 1 }
  else if latest.videoId.isNone ∨ latest.videoId = row.lastSeenVideoId then
    setTally fun t => { t with channelsProcessed := t.channelsProcessed + 1 }
  else do
    let id ← getOrCreateVideo row.channel.id latest
    attemptDetectAndMarkShort platform id
    Proc.when ((← inMemory).shouldProcess config id) (announceVideo config userId id)
    setChannel { row with lastSeenVideoId := latest.videoId }
    setTally fun t => { t with
      newVideosDetected := t.newVideosDetected + 1
      channelsProcessed := t.channelsProcessed + 1 }

def channelError (channel : Channel) (fallbackCode : String) (e : PollError) : ChannelError :=
  match e with
  | .channel code message => ⟨channel.id, channel.youtubeChannelId, channel.title, code, message⟩
  | .other message => ⟨channel.id, channel.youtubeChannelId, channel.title, fallbackCode, message⟩

/-- A turn of the channel loop: one channel failing does not end the run. -/
def pollChannelTurn (userId : Int) (now : Time) (key : Int × Int) : PollProc Unit := do
  match (← inMemory).userChannels.get key with
  | none => pure ()
  | some row =>
    match ← attempt (pollChannel platform config userId now row) with
    | .ok () => pure ()
    | .error e =>
      setTally fun t => { t with
        channelsFailed := t.channelsFailed + 1
        channelErrors := t.channelErrors ++ [channelError row.channel "channel_poll_failed" e] }

/-- The channels a user monitors, in the order of their ids. -/
def Db.monitored (db : Db) (userId : Int) : List (Int × Int) :=
  db.userChannels.select fun u => u.userId = userId && u.isMonitored

def resolveRunOutcome (processed failed : Nat) : String :=
  if failed = 0 then "success" else if processed > 0 then "partial_success" else "failed"

/-- `_skip_disabled_short_work`. -/
def skipDisabledShortWork (userId : Int) : PollProc Unit := do
  pipelineWork config
  skipDisabledShortDeliveries config userId

/-- `run_poll`. -/
def runPoll (userId : Int) : PollProc PollRunSummary := do
  let now ← utcNow
  mayFlush
  skipDisabledShortWork config userId
  let context := buildQuotaContext config (← inMemory).quota now
  setQuota fun _ => context
  if context.quotaBlocked then do
    writeQuotaState
    flush
    return ⟨"blocked", 0, 0, 0, 0, true⟩
  else do
    mayFlush
    let rows := (← visible).monitored userId
    pipelineWork config -- the recovery of a paused circuit
    pipelineWork config -- `reconcile_quarantined_summaries`
    pipelineWork config -- the drain of pending videos
    processPendingInitialDeliveries config userId
    processPendingRetryDeliveries config userId
    rows.forM fun key => pollChannelTurn platform config userId now key
    flush
    pipelineWork config -- the drain
    pipelineWork config -- the incident handling
    let t := (← Proc.read).tally
    writeQuotaState
    flush
    return ⟨resolveRunOutcome t.channelsProcessed t.channelsFailed, t.channelsProcessed,
      t.channelsFailed, t.baselinesEstablished, t.newVideosDetected, false⟩

/-- A new session, and the local variables of a run. -/
def PollState.opened (s : PollState) : PollState :=
  { s with
    db := Instance.load (Column.none Db) s.db.durable
    tally := ⟨0, 0, 0, 0, 0, []⟩ }

def openSession : PollProc Unit := do
  Proc.modify PollState.opened
  Proc.emit fun _ => .started

/-- The route `run_poll`: a run that raises is rolled back, and what is
committed after that is the record of the error. -/
def runPollRoute (userId : Int) : PollProc (Option PollRunSummary) := do
  openSession
  let result ← attempt do
    let summary ← runPoll platform config userId
    commit
    return summary
  match result with
  | .ok summary => return some summary
  | .error _ => do
    rollback
    flush
    commit
    return none

end

end YTPipe.Polling
