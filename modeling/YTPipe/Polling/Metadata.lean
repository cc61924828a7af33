import YTPipe.Polling.Recovery
import YTPipe.Json

/-!
# Metadata of one video

`YouTubeVideoMetadataService.resolve_and_upsert` of
`services/youtube_video_metadata.py`. What an `HttpError` is classified as, and
the id of the channel's row, come with the answer.
-/

namespace YTPipe.Polling

/-- `YouTubeVideoMetadata`. -/
structure YouTubeVideoMetadata where
  videoId : String
  channelId : String
  channelTitle : String
  title : Text
  publishedAt : Option Time
  durationSeconds : Nat
  isShort : Bool
  deriving DecidableEq, Repr

section

variable (platform : PollPlatform) (config : PollConfig)

/-- `_prepare_quota`, once the row is there. -/
def prepareQuota (existing : QuotaMetadata) (now : Time) : QuotaContext :=
  let used := if existing.usageDay = some (utcDay now) then existing.estimatedUnitsUsedToday else 0
  let budget := max 0 config.dailyQuotaBudget
  let blocked := config.safetyStopEnabled && decide (used ≥ budget)
  { usageDay := utcDay now
    dailyQuotaBudget := budget
    estimatedUnitsUsedToday := used
    lastRunEstimatedUnits := 0
    safetyStopEnabled := config.safetyStopEnabled
    safetyStopActive := blocked
    safetyStopTriggeredAt := existing.safetyStopTriggeredAt
    quotaBlocked := blocked }

/-- `classify_short`, of a video with a duration. -/
def classifyShort (title : Text) (durationSeconds : Nat) : Bool :=
  if title ≠ [] ∧ titleIndicatesShort title then true
  else decide (durationSeconds ≤ shortsMaxDurationSeconds)

def malformedMetadata (message : String) : PollError := .channel "malformed_metadata" message

/-- A member of the snippet that is a text and not empty. -/
def requiredText (snippet : Json.Dict) (name : String) : Option String :=
  (snippet.getStr? name).filter (· ≠ "")

/-- `not value`. -/
def falsy : Json → Bool
  | .null => true
  | .bool b => !b
  | .int n => decide (n = 0)
  | .float q => decide (q = 0)
  | .str s => decide (s = "")
  | .arr items => items.isEmpty
  | .obj members => members.isEmpty

/-- `parse_youtube_datetime`; a value that is not a text has no `replace`. -/
def parsePublished (value : Json) : Except PollError (Option Time) :=
  if falsy value then .ok none
  else
    match value with
    | .str text =>
      match platform.parseDatetime text.toList with
      | some t => .ok (some t)
      | none => .error (malformedMetadata "YouTube returned an invalid publication timestamp.")
    | _ => .error (.other "AttributeError")

/-- `_parse_metadata`. -/
def parseMetadata (payload : Json) (requestedVideoId : String) :
    Except PollError YouTubeVideoMetadata :=
  let incomplete := malformedMetadata "YouTube returned incomplete video metadata."
  match (Json.asDict payload).bind (·.get? "items") with
  | some (.arr []) =>
    .error (.channel "video_not_found" "The YouTube video is not accessible.")
  | some (.arr (item :: _)) =>
    match (Json.asDict item).bind (·.getDict? "snippet"),
        (Json.asDict item).bind (·.getDict? "contentDetails") with
    | some snippet, some details =>
      match requiredText snippet "channelId", requiredText snippet "channelTitle",
          requiredText snippet "title", details.getStr? "duration" with
      | some channelId, some channelTitle, some title, some duration =>
        match parseIso8601DurationSeconds platform duration.toList with
        | .error e => .error e
        | .ok none => .error (malformedMetadata "YouTube returned an invalid video duration.")
        | .ok (some seconds) => do
          let published ← parsePublished platform ((snippet.get? "publishedAt").getD .null)
          return ⟨requestedVideoId, channelId, channelTitle, title.toList, published, seconds,
            classifyShort title.toList seconds⟩
      | _, _, _, _ => .error incomplete
    | _, _ => .error incomplete
  | _ => .error (malformedMetadata "YouTube returned an invalid metadata payload.")

/-- The row of the video: created, or its unknown columns filled in. -/
def upsertVideo (metadata : YouTubeVideoMetadata) (channelRow : Int) : PollProc Unit := do
  match (← visible).videos.get metadata.videoId with
  | none =>
    addAndFlush fun db => do
      let videos ← db.videos.insert ⟨metadata.videoId, channelRow, some metadata.title,
        metadata.publishedAt, some metadata.isShort⟩
      return { db with videos := videos }
  | some _ => do
    match (← inMemory).videos.get metadata.videoId with
    | none => pure ()
    | some video =>
      setVideo { video with
        title := if video.title.isNone then some metadata.title else video.title
        publishedAt := if video.publishedAt.isNone then metadata.publishedAt else video.publishedAt
        isShort := if video.isShort.isNone then some metadata.isShort else video.isShort }
    flush

/-- `resolve_and_upsert`. -/
def resolveAndUpsert (youtubeVideoId : String) (payload : Json) (channelRow : Int) :
    PollProc Unit := do
  let now ← utcNow
  mayFlush
  let context := prepareQuota config (← inMemory).quota now
  setQuota fun _ => context
  if context.quotaBlocked then
    raise (.channel "quota_blocked" "YouTube quota safety stop is active.")
  else
    mayFlush -- `ensure_valid_credentials`
    setQuota (spendUnit config)
    writeQuotaState
    match ← request viewAnswered with
    | .error (_, message) => raise (.other message)
    | .ok () =>
      match parseMetadata platform payload youtubeVideoId with
      | .error e => raise e
      | .ok metadata =>
        mayFlush -- the row of the channel
        upsertVideo metadata channelRow

end

end YTPipe.Polling
