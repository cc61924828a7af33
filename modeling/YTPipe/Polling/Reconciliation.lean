import YTPipe.Polling.Poll

/-!
# Reconciliation of missing uploads

`YouTubePollingService.reconcile_missing_uploads` of `services/polling.py` and
the route that calls it. A playlist does not change while it is paged.
-/

namespace YTPipe.Polling

structure ReconciliationSummary where
  channelsProcessed : Nat
  channelsFailed : Nat
  videosDiscovered : Nat
  channelErrors : List ChannelError
  deriving DecidableEq, Repr

section

variable (platform : PollPlatform) (config : PollConfig)

/-! Paging. -/

/-- Counts a unit and looks at the budget again. -/
def spendUnit (q : QuotaContext) : QuotaContext :=
  let q := countUnit q
  let blocked := config.safetyStopEnabled
    && decide (q.estimatedUnitsUsedToday ≥ max 0 config.dailyQuotaBudget)
  { q with quotaBlocked := blocked, safetyStopActive := blocked }

/-- The items of a page, up to the marker. -/
def scanPage (marker : String) : List PlaylistItem → List LatestUpload →
    Except PollError (List LatestUpload × Bool)
  | [], uploads => .ok (uploads, false)
  | item :: items, uploads =>
    if item.videoId = some marker then .ok (uploads, true)
    else if item.videoId.getD "" = "" then scanPage marker items uploads
    else
      match parseYoutubeDatetime platform item.publishedAt with
      | .error e => .error e
      | .ok published =>
        scanPage marker items (uploads ++ [⟨item.videoId, item.title, published⟩])

/-- The loop over at most `n` pages. The last page has no `nextPageToken`. -/
def fetchPages (marker : String) : Nat → Playlist → List LatestUpload →
    PollProc (List LatestUpload × Bool)
  | 0, _, uploads => return (uploads, false)
  | n + 1, pages, uploads => do
    if (← Proc.read).quota.quotaBlocked then
      raise (.channel "quota_blocked" "YouTube quota safety stop is active.")
    else
      setQuota (spendUnit config)
      match ← request viewAnswered with
      | .error (_, message) => raise (.other message)
      | .ok () =>
        match scanPage platform marker (pages.headD []) uploads with
        | .error e => raise e
        | .ok (uploads, true) => return (uploads, true)
        | .ok (uploads, false) =>
          if pages.tail.isEmpty then return (uploads, false)
          else fetchPages marker n pages.tail uploads

/-- `range(max(1, max_pages))`. -/
def pageLimit (maxPages : Int) : Nat := (max 1 maxPages).toNat

/-- `_fetch_uploads_since_marker`. -/
def fetchUploadsSinceMarker (channel : Channel) (marker : String) (maxPages : Int) :
    PollProc (List LatestUpload × Bool) := do
  if channel.unusable then
    raise (.channel unusableUploadsPlaylistError
      "Channel does not expose a usable uploads playlist.")
  else
    fetchPages platform config marker (pageLimit maxPages) ((← Proc.read).remote channel.id) []

/-! The channel loop. -/

/-- The row, the Shorts check and the stages of an upload. -/
def recoverUpload (userId channelId : Int) (upload : LatestUpload) : PollProc Unit := do
  let id ← getOrCreateVideo channelId upload
  attemptDetectAndMarkShort platform id
  Proc.when (config.pipelineService = true ∧ (← inMemory).shouldProcess config id)
    (createStagesForVideo config userId id)

/-- The `try` of the channel loop: whether the marker was found. -/
def reconcileChannel (userId maxPages : Int) (row : UserChannel) (marker : String) :
    PollProc Bool := do
  let (uploads, markerFound) ← fetchUploadsSinceMarker platform config row.channel marker maxPages
  if markerFound then
    uploads.reverse.forM (recoverUpload platform config userId row.channel.id)
    Proc.when (uploads ≠ []) do
      setChannel { row with lastSeenVideoId := uploads.head?.bind (·.videoId) }
      setTally fun t => { t with videosDiscovered := t.videosDiscovered + uploads.length }
    setTally fun t => { t with channelsProcessed := t.channelsProcessed + 1 }
    return true
  else return false

/-- `_reconciliation_error`. -/
def reconciliationError (channel : Channel) (code message : String) : ChannelError :=
  ⟨channel.id, channel.youtubeChannelId, channel.title, code, message⟩

def recordError (error : ChannelError) : PollProc Unit := do
  setTally fun t => { t with
    channelsFailed := t.channelsFailed + 1
    channelErrors := t.channelErrors ++ [error] }
  Proc.emit fun _ => .channelError error

/-- `str(exc)`. -/
def PollError.text : PollError → String
  | .channel _ message => message
  | .other message => message

/-- A turn of the channel loop. -/
def reconcileTurn (userId maxPages : Int) (key : Int × Int) : PollProc Unit := do
  match (← inMemory).userChannels.get key with
  | none => pure ()
  | some row =>
    let marker := row.lastSeenVideoId.getD ""
    if row.baselineEstablishedAt.isNone ∨ marker = "" then
      recordError (reconciliationError row.channel "missing_baseline"
        "Channel has no durable baseline.")
    else
      match ← attempt (reconcileChannel platform config userId maxPages row marker) with
      | .ok true => pure ()
      | .ok false =>
        recordError (reconciliationError row.channel "marker_not_found"
          "Stored channel marker was not found within the reconciliation page limit.")
      | .error e => recordError (reconciliationError row.channel "reconciliation_failed" e.text)

/-! The pipeline's work. -/

/-- The status of a stage row that is there. -/
def Db.setStage (db : Db) (row : StageRow) : Db :=
  { db with stages := db.stages.alter row.key row.write row.key_write }

def updateEffect : PipelineEffect → PollProc Unit
  | .flush => flushSession
  | .commit => commitSession
  | .stage row => Proc.modify fun s => s.edit (·.setStage row)

/-- A call of the pipeline service that creates no stage: the skipping of
disabled Shorts, and the incident handling. -/
def pipelineUpdate : PollProc Unit := do
  if config.pipelineService then
    let (effects, raises) ← call viewPipeline
    effects.forM updateEffect
    match raises with
    | some message => raise (.other message)
    | none => pure ()
  else pure ()

/-- The recovery of a paused circuit, the drain and the incident handling, once
the recovery window is durable. -/
def processRecovered : PollProc Unit := do
  commit
  match ← attempt (do pipelineWork config; pipelineWork config; pipelineUpdate config) with
  | .ok () => pure ()
  | .error e => do
    mayFlush
    commit
    raise e

/-- What follows the channel loop in the pipeline. -/
def finishPipeline (process : Bool) : PollProc Unit :=
  if process then processRecovered config else pipelineUpdate config

/-- `reconcile_missing_uploads`. -/
def reconcileMissingUploads (userId maxPages : Int) (process : Bool) :
    PollProc ReconciliationSummary := do
  let now ← utcNow
  mayFlush
  let context := buildQuotaContext config (← inMemory).quota now
  setQuota fun _ => context
  pipelineUpdate config
  skipDisabledShortDeliveries config userId
  mayFlush
  let rows := (← visible).monitored userId
  rows.forM fun key => reconcileTurn platform config userId maxPages key
  flush
  writeQuotaState
  finishPipeline config process
  mayFlush
  flush
  let t := (← Proc.read).tally
  return ⟨t.channelsProcessed, t.channelsFailed, t.videosDiscovered, t.channelErrors⟩

/-- The route `reconcile_missing_uploads`. -/
def reconcileRoute (userId maxPages : Int) (process : Bool) :
    PollProc (Option ReconciliationSummary) := do
  openSession
  let result ← attempt do
    let summary ← reconcileMissingUploads platform config userId maxPages process
    commit
    return summary
  match result with
  | .ok summary => return some summary
  | .error _ => do
    rollback
    return none

end

end YTPipe.Polling
