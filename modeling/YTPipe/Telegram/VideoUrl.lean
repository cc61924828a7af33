import YTPipe.Url

/-!
# Video URLs and the summary command

`services/youtube_video_url.py`. What is accepted names one video on YouTube, and
the canonical URL is accepted as the same video.
-/

namespace YTPipe.Telegram

open Url (NetlocChecks SplitResult urlsplit)

structure YouTubeURLValidationError where
  code : String
  message : String
  deriving DecidableEq, Repr

structure ParsedYouTubeVideoURL where
  videoId : Text
  canonicalUrl : Text
  deriving DecidableEq, Repr

structure ParsedSummaryCommand where
  video : ParsedYouTubeVideoURL
  deriving DecidableEq, Repr

def youtubeHosts : List Text :=
  ["youtube.com".toList, "www.youtube.com".toList, "m.youtube.com".toList]

def shortHost : Text := "youtu.be".toList

def shortsPaths : List Text := ["shorts".toList, "live".toList]

def isVideoIdChar (c : Char) : Bool := Url.isAlpha c || Url.isDigit c || c == '_' || c == '-'

/-- `VIDEO_ID_PATTERN`. -/
def isVideoId (t : Text) : Bool := t.all isVideoIdChar && t.length == 11

/-- The values of the parameters of that name, as they are written. -/
def rawQueryValues (query key : Text) : List Text :=
  (Text.splitOn '&' query).filterMap fun parameter =>
    match Text.partition '=' parameter with
    | (rawKey, true, rawValue) => if rawKey = key then some rawValue else none
    | _ => none

def pathParts (path : Text) : List Text := (Text.splitOn '/' path).filter (!·.isEmpty)

def refuse {α : Type} (code message : String) : Except YouTubeURLValidationError α :=
  .error ⟨code, message⟩

/-- The id in the place the host and the path give it. -/
def videoIdOf (hostname path query : Text) : Except YouTubeURLValidationError Text :=
  let values := rawQueryValues query ['v']
  if hostname = shortHost then
    match pathParts path, values with
    | [videoId], [] => .ok videoId
    | _, _ => refuse "invalid_video_path" "The URL must identify exactly one video."
  else if path = "/watch".toList then
    match values with
    | [c :: videoId] => .ok (c :: videoId)
    | _ => refuse "invalid_video_query" "The watch URL must contain one video ID."
  else
    match pathParts path with
    | [form, videoId] =>
      if Text.lower form ∉ shortsPaths then
        refuse "unsupported_url" "Use a YouTube watch, shorts, live, or youtu.be URL."
      else if values ≠ [] then
        refuse "conflicting_video_id" "The URL contains conflicting video identifiers."
      else .ok videoId
    | _ => refuse "unsupported_url" "Use a YouTube watch, shorts, live, or youtu.be URL."

def canonicalUrl (videoId : Text) : Text := "https://www.youtube.com/watch?v=".toList ++ videoId

/-- The port of the scheme; only HTTP and HTTPS come here. -/
def expectedPort (scheme : Text) : Nat := if Text.lower scheme = "http".toList then 80 else 443

def parseYoutubeVideoUrl (checks : NetlocChecks) (value : Text) :
    Except YouTubeURLValidationError ParsedYouTubeVideoURL :=
  let raw := Text.strip value
  if raw = [] then refuse "missing_url" "A YouTube video URL is required."
  else if raw.length > 4096 then refuse "url_too_long" "The YouTube URL is too long."
  else
    match (urlsplit checks raw).bind fun parsed => parsed.port.map (parsed, ·) with
    | none => refuse "invalid_url" "The YouTube URL is invalid."
    | some (parsed, port) =>
      let hostname := parsed.hostname.map Text.lower
      if Text.lower parsed.scheme ∉ ["http".toList, "https".toList] then
        refuse "invalid_scheme" "The URL must use HTTP or HTTPS."
      else if parsed.username ≠ none ∨ parsed.password ≠ none
          ∨ port ∉ [none, some (expectedPort parsed.scheme)] then
        refuse "invalid_authority" "The URL must not contain credentials or a port."
      else if parsed.fragment ≠ [] then
        refuse "fragment_not_allowed" "The URL must not contain a fragment."
      else
        match hostname with
        | none => refuse "invalid_host" "Only YouTube video URLs are accepted."
        | some hostname =>
          if hostname ∉ youtubeHosts ∧ hostname ≠ shortHost then
            refuse "invalid_host" "Only YouTube video URLs are accepted."
          else
            match videoIdOf hostname parsed.path parsed.query with
            | .error error => .error error
            | .ok videoId =>
              if isVideoId videoId then .ok ⟨videoId, canonicalUrl videoId⟩
              else refuse "invalid_video_id"
                "The YouTube video ID must contain exactly 11 characters."

/-- `casefold` folds a name. -/
def parseSummaryCommand (checks : NetlocChecks) (casefold : Text → Text) (text botUsername : Text) :
    Except YouTubeURLValidationError ParsedSummaryCommand :=
  match Text.words (Text.strip text) with
  | [command, rawUrl] =>
    let (name, addressed, target) := Text.partition '@' command
    let configuredUsername := casefold (Text.lstrip (· == '@') (Text.strip botUsername))
    if name ≠ "/summary".toList then
      refuse "unsupported_command" "Only the /summary command is supported."
    else if addressed ∧ casefold target ≠ configuredUsername then
      refuse "invalid_command_target" "This command is not addressed to this bot."
    else (parseYoutubeVideoUrl checks rawUrl).map (⟨·⟩)
  | _ => refuse "invalid_command" "Use /summary followed by one YouTube video URL."

/-! What is accepted. -/

/-- The place of the only id a URL names. -/
inductive Names (hostname path query videoId : Text) : Prop
  | short (host : hostname = shortHost) (parts : pathParts path = [videoId])
      (values : rawQueryValues query ['v'] = [])
  | watch (host : hostname ≠ shortHost) (watches : path = "/watch".toList)
      (values : rawQueryValues query ['v'] = [videoId])
  | shorts (form : Text) (host : hostname ≠ shortHost) (parts : pathParts path = [form, videoId])
      (known : Text.lower form ∈ shortsPaths) (values : rawQueryValues query ['v'] = [])

/-- A URL of a video on YouTube. -/
structure VideoUrl (checks : NetlocChecks) (raw videoId : Text) (parsed : SplitResult)
    (hostname : Text) : Prop where
  split : urlsplit checks raw = some parsed
  scheme : Text.lower parsed.scheme = "http".toList ∨ Text.lower parsed.scheme = "https".toList
  host : parsed.hostname.map Text.lower = some hostname
  allowed : hostname ∈ shortHost :: youtubeHosts
  user : parsed.username = none ∧ parsed.password = none
  port : parsed.port = some none ∨ parsed.port = some (some (expectedPort parsed.scheme))
  fragment : parsed.fragment = []
  names : Names hostname parsed.path parsed.query videoId
  alphabet : ∀ c ∈ videoId, isVideoIdChar c = true
  eleven : videoId.length = 11

/-- A command without a mention, or for this bot. -/
def Addressed (casefold : Text → Text) (botUsername command : Text) : Prop :=
  command = "/summary".toList ∨ ∃ target, command = "/summary@".toList ++ target
    ∧ casefold target = casefold (Text.lstrip (· == '@') (Text.strip botUsername))

theorem names_of_videoIdOf {hostname path query videoId : Text}
    (h : videoIdOf hostname path query = .ok videoId) : Names hostname path query videoId := by
  unfold videoIdOf at h
  dsimp only at h
  split at h
  · next host =>
    split at h
    · next parts values =>
      cases h
      exact .short host parts values
    · cases h
  next host =>
  split at h
  · next watches =>
    split at h
    · next values =>
      cases h
      exact .watch host watches values
    · cases h
  · split at h
    · next form _ parts =>
      split at h
      · cases h
      next known =>
      split at h
      · cases h
      next values =>
      cases h
      exact .shorts form host parts (Decidable.not_not.mp known) (Decidable.not_not.mp values)
    · cases h

theorem videoUrl_of_parse {checks : NetlocChecks} {value : Text} {video : ParsedYouTubeVideoURL}
    (h : parseYoutubeVideoUrl checks value = .ok video) :
    video.canonicalUrl = canonicalUrl video.videoId
      ∧ ∃ parsed hostname, VideoUrl checks (Text.strip value) video.videoId parsed hostname := by
  unfold parseYoutubeVideoUrl at h
  dsimp only at h
  split at h
  · cases h
  split at h
  · cases h
  split at h
  · cases h
  next parsed port found =>
  obtain ⟨parsed', split_, portOf⟩ := Option.bind_eq_some_iff.mp found
  obtain ⟨port', portOf, same⟩ := Option.map_eq_some_iff.mp portOf
  cases same
  split at h
  · cases h
  next scheme =>
  split at h
  · cases h
  next authority =>
  split at h
  · cases h
  next fragment =>
  split at h
  · cases h
  next hostname host =>
  split at h
  · cases h
  next allowed =>
  split at h
  · cases h
  next videoId named =>
  split at h
  · next valid =>
    cases h
    simp only [isVideoId, Bool.and_eq_true, List.all_eq_true, beq_iff_eq] at valid
    simp only [not_or, Decidable.not_not] at authority
    refine ⟨rfl, parsed, hostname, ?_⟩
    exact {
      split := split_
      scheme := by simpa using Decidable.not_not.mp scheme
      host := host
      allowed := by
        rw [List.mem_cons]
        exact Decidable.byContradiction fun other =>
          allowed ⟨fun there => other (.inr there), fun same => other (.inl same)⟩
      user := ⟨authority.1, authority.2.1⟩
      port := by
        rw [portOf]
        simpa using authority.2.2
      fragment := Decidable.not_not.mp fragment
      names := names_of_videoIdOf named
      alphabet := valid.1
      eleven := valid.2 }
  · cases h

/-! The canonical URL. -/

theorem videoIdChar_plain {c : Char} (h : isVideoIdChar c = true) : Url.isPlain c = true := by
  simp only [isVideoIdChar, Bool.or_eq_true] at h
  simp only [Url.isPlain, Bool.or_eq_true]
  tauto

def wwwHost : Text := ['w', 'w', 'w', '.', 'y', 'o', 'u', 't', 'u', 'b', 'e', '.', 'c', 'o', 'm']

def canonicalParts (videoId : Text) : SplitResult where
  scheme := ['h', 't', 't', 'p', 's']
  netloc := wwwHost
  path := ['/', 'w', 'a', 't', 'c', 'h']
  query := ['v', '='] ++ videoId
  fragment := []

theorem canonicalUrl_eq (videoId : Text) : canonicalUrl videoId
    = 'h' :: ['t', 't', 'p', 's'] ++ ':' :: '/' :: '/'
      :: (wwwHost ++ '/' :: (['w', 'a', 't', 'c', 'h'] ++ '?' :: (['v', '='] ++ videoId))) := by
  have literal : "https://www.youtube.com/watch?v=".toList
      = 'h' :: ['t', 't', 'p', 's'] ++ ':' :: '/' :: '/'
        :: (wwwHost ++ '/' :: (['w', 'a', 't', 'c', 'h'] ++ '?' :: ['v', '='])) :=
    String.toList_ofList
  unfold canonicalUrl
  rw [literal]
  simp only [List.append_assoc, List.cons_append]

theorem canonical_alpha : ∀ c ∈ ['h', 't', 't', 'p', 's'], Url.isAlpha c = true :=
  List.all_eq_true.mp (by decide)

theorem canonical_plain : ∀ c ∈ wwwHost, Url.isPlain c = true :=
  List.all_eq_true.mp (by decide)

theorem canonical_paths : ∀ c ∈ ['w', 'a', 't', 'c', 'h'], Url.isPathChar c = true :=
  List.all_eq_true.mp (by decide)

theorem canonical_queries {videoId : Text} (alphabet : ∀ c ∈ videoId, isVideoIdChar c = true) :
    ∀ c ∈ ['v', '='] ++ videoId, Url.isQueryChar c = true := by
  have key : ∀ c ∈ ['v', '='], Url.isQueryChar c = true := List.all_eq_true.mp (by decide)
  intro c hc
  rw [List.mem_append] at hc
  rcases hc with hc | hc
  · exact key c hc
  · simp [Url.isQueryChar, videoIdChar_plain (alphabet c hc)]

theorem urlsplit_canonical (checks : NetlocChecks) {videoId : Text}
    (alphabet : ∀ c ∈ videoId, isVideoIdChar c = true) :
    urlsplit checks (canonicalUrl videoId) = some (canonicalParts videoId) := by
  have lowered : Text.lower ['h', 't', 't', 'p', 's'] = ['h', 't', 't', 'p', 's'] := by decide
  rw [canonicalUrl_eq, Url.urlsplit_plain checks canonical_alpha canonical_plain canonical_paths
    (canonical_queries alphabet), lowered]
  rfl

theorem rawQueryValues_canonical {videoId : Text}
    (alphabet : ∀ c ∈ videoId, isVideoIdChar c = true) :
    rawQueryValues (['v', '='] ++ videoId) ['v'] = [videoId] := by
  have free : '&' ∉ ['v', '='] ++ videoId := by
    have inId : '&' ∉ videoId := Url.not_mem_of_class alphabet (by decide)
    simp [inId]
  have one : Text.splitOn '&' (['v', '='] ++ videoId) = [['v', '='] ++ videoId] := by
    have joined : Text.splitOn '&' (Text.join ['&'] [['v', '='] ++ videoId])
        = [['v', '='] ++ videoId] :=
      Text.splitOn_join (List.cons_ne_nil _ _) (by simpa using free)
    rwa [Text.join_singleton] at joined
  have cut : Text.partition '=' (['v', '='] ++ videoId) = (['v'], true, videoId) :=
    Text.partition_append (by decide : '=' ∉ ['v'])
  unfold rawQueryValues
  rw [one]
  simp only [List.filterMap_cons, cut, if_true, List.filterMap_nil]

theorem visible_canonical {videoId : Text} (alphabet : ∀ c ∈ videoId, isVideoIdChar c = true) :
    ∀ c ∈ canonicalUrl videoId, Text.isSpace c = false := by
  intro c hc
  rw [canonicalUrl_eq] at hc
  exact Url.urlChar_visible (Url.urlChars_of_parts canonical_alpha canonical_plain canonical_paths
    (canonical_queries alphabet) c hc)

/-- The canonical URL is accepted, as the video it was made for. -/
theorem parse_canonical (checks : NetlocChecks) {videoId : Text}
    (alphabet : ∀ c ∈ videoId, isVideoIdChar c = true) (eleven : videoId.length = 11) :
    parseYoutubeVideoUrl checks (canonicalUrl videoId) = .ok ⟨videoId, canonicalUrl videoId⟩ := by
  have some_ : canonicalUrl videoId ≠ [] := by simp [canonicalUrl_eq]
  have short : ¬ (canonicalUrl videoId).length > 4096 := by
    simp [canonicalUrl_eq, wwwHost, eleven]
  have port : (canonicalParts videoId).port = some none := rfl
  have host : (canonicalParts videoId).hostname.map Text.lower = some wwwHost := by
    have found : (canonicalParts videoId).hostname = some wwwHost := rfl
    have lowered : Text.lower wwwHost = wwwHost := by decide
    rw [found, Option.map_some, lowered]
  have scheme : Text.lower (canonicalParts videoId).scheme ∈ ["http".toList, "https".toList] := by
    have listed : Text.lower ['h', 't', 't', 'p', 's'] ∈ ["http".toList, "https".toList] := by
      decide
    exact listed
  have user : (canonicalParts videoId).username = none := rfl
  have password : (canonicalParts videoId).password = none := rfl
  have known : wwwHost ∈ youtubeHosts := by decide
  have valid : isVideoId videoId = true := by
    simp only [isVideoId, Bool.and_eq_true, List.all_eq_true, beq_iff_eq]
    exact ⟨alphabet, eleven⟩
  have named : videoIdOf wwwHost ['/', 'w', 'a', 't', 'c', 'h'] (['v', '='] ++ videoId)
      = .ok videoId := by
    cases videoId with
    | nil => cases eleven
    | cons c videoId =>
      unfold videoIdOf
      rw [rawQueryValues_canonical alphabet]
      rfl
  unfold parseYoutubeVideoUrl
  rw [Text.strip_of_trim (Text.trim_of_visible (visible_canonical alphabet))]
  dsimp only
  rw [if_neg some_, if_neg short, urlsplit_canonical checks alphabet]
  simp only [Option.bind_some, port, Option.map_some]
  rw [if_neg (fun other => other scheme), if_neg (by simp [user, password]),
    if_neg (fun other => other rfl), host]
  dsimp only
  rw [if_neg (fun other => other.1 known)]
  have parts : videoIdOf wwwHost (canonicalParts videoId).path (canonicalParts videoId).query
      = .ok videoId := named
  rw [parts]
  dsimp only
  rw [if_pos valid]

/-! Commands. -/

theorem parts_of_command {checks : NetlocChecks} {casefold : Text → Text} {text botUsername : Text}
    {command : ParsedSummaryCommand}
    (h : parseSummaryCommand checks casefold text botUsername = .ok command) :
    ∃ word rawUrl, Text.words text = [word, rawUrl] ∧ Addressed casefold botUsername word
      ∧ parseYoutubeVideoUrl checks rawUrl = .ok command.video := by
  unfold parseSummaryCommand at h
  rw [Text.words_strip] at h
  split at h
  · next word rawUrl words =>
    dsimp only at h
    split at h
    · cases h
    next name =>
    split at h
    · cases h
    next target =>
    have addressed : Addressed casefold botUsername word := by
      have whole := Text.eq_of_partition '@' word
      rw [Decidable.not_not.mp name] at whole
      cases mention : (Text.partition '@' word).2.1 with
      | false =>
        rw [mention, if_neg (by decide), List.append_nil] at whole
        exact .inl whole
      | true =>
        rw [mention, if_pos rfl] at whole
        rw [mention] at target
        exact .inr ⟨_, whole, Decidable.byContradiction fun other => target ⟨rfl, other⟩⟩
    refine ⟨word, rawUrl, words, addressed, ?_⟩
    cases parsing : parseYoutubeVideoUrl checks rawUrl with
    | error error =>
      rw [parsing] at h
      cases h
    | ok video =>
      rw [parsing] at h
      cases h
      rfl
  · cases h

/-- A command that is accepted is `/summary` for this bot with the URL of one
video; its canonical URL is accepted as the same. -/
theorem summary_command_sound (checks : NetlocChecks) (casefold : Text → Text)
    (text botUsername : Text) (command : ParsedSummaryCommand)
    (h : parseSummaryCommand checks casefold text botUsername = .ok command) :
    ∃ word rawUrl parsed hostname, Text.words text = [word, rawUrl]
      ∧ Addressed casefold botUsername word
      ∧ VideoUrl checks rawUrl command.video.videoId parsed hostname
      ∧ parseYoutubeVideoUrl checks command.video.canonicalUrl = .ok command.video := by
  obtain ⟨word, rawUrl, words, addressed, parsing⟩ := parts_of_command h
  obtain ⟨canonical, parsed, hostname, url⟩ := videoUrl_of_parse parsing
  have listed : rawUrl ∈ Text.words text := by simp [words]
  rw [Text.strip_of_trim (Text.trim_of_visible (Text.visible_of_mem_words listed).2)] at url
  refine ⟨word, rawUrl, parsed, hostname, words, addressed, url, ?_⟩
  rw [canonical, parse_canonical checks url.alphabet url.eleven, ← canonical]

def exampleChecks : NetlocChecks := ⟨fun _ => false, fun _ => false⟩

def exampleCommand : Text :=
  "/summary@YTPipeBot http://youtube.com:80/Shorts/dQw4w9WgXcQ?si=1".toList

def exampleBot : Text := " @ytpipebot".toList

def exampleVideo : ParsedYouTubeVideoURL :=
  ⟨"dQw4w9WgXcQ".toList, "https://www.youtube.com/watch?v=dQw4w9WgXcQ".toList⟩

theorem summary_command_sound_shorts :
    ∃ word rawUrl parsed hostname, Text.words exampleCommand = [word, rawUrl]
      ∧ Addressed Text.casefold exampleBot word
      ∧ VideoUrl exampleChecks rawUrl exampleVideo.videoId parsed hostname
      ∧ parseYoutubeVideoUrl exampleChecks exampleVideo.canonicalUrl = .ok exampleVideo :=
  summary_command_sound exampleChecks Text.casefold exampleCommand exampleBot ⟨exampleVideo⟩ rfl

end YTPipe.Telegram
