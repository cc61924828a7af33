import YTPipe.Json
import YTPipe.Telegram.Requests
import YTPipe.Telegram.VideoUrl

/-!
# The intake of commands

How the listener of `services/telegram_command_listener.py` chooses the updates
it submits, and how `api/routes/telegram_commands.py` answers them. The ids of an
update are integers.
-/

namespace YTPipe.Telegram

open Url (NetlocChecks)

/-- What the string methods look up in tables. -/
structure StringTables where
  lower : Text → Text
  casefold : Text → Text
  netlocs : NetlocChecks

/-- What intake and listener take from the settings. -/
structure IntakeSettings extends CommandSettings where
  telegramNotificationsEnabled : Bool
  telegramBotToken : Text
  telegramBotUsername : Text
  internalApiBearerToken : Text
  appPort : Int

def IntakeSettings.normalizedTelegramBotUsername (tables : StringTables) (settings : IntakeSettings) :
    Text :=
  tables.lower (Text.lstrip (· == '@') (Text.strip settings.telegramBotUsername))

structure TelegramCommandIntakeRequest where
  telegramUpdateId : Int
  telegramChatId : Int
  telegramUserId : Int
  telegramMessageId : Int
  telegramChatType : String
  telegramUpdateType : String
  isForwarded : Bool
  isEdited : Bool
  senderChatId : Option Int
  text : Text
  deriving DecidableEq, Repr

/-! The listener. -/

structure ListenerConfig where
  commandsEnabled : Bool
  botToken : Text
  chatId : Int
  allowedUserId : Int
  botUsername : Text
  internalApiBearerToken : Text
  apiPort : Int
  deriving DecidableEq, Repr

/-- `ListenerConfig.from_settings`. -/
def ListenerConfig.fromSettings (tables : StringTables) (requireCommandConfig : Bool)
    (settings : IntakeSettings) : Except String ListenerConfig :=
  if requireCommandConfig ∧ (settings.telegramChatId = none ∨ settings.telegramAllowedUserId = none) then
    .error "Telegram listener numeric configuration is invalid."
  else
    let botToken := Text.strip settings.telegramBotToken
    let internalToken := Text.strip settings.internalApiBearerToken
    let botUsername := Text.strip (settings.normalizedTelegramBotUsername tables)
    if requireCommandConfig ∧ settings.telegramNotificationsEnabled = false then
      .error "TELEGRAM_NOTIFICATIONS_ENABLED must be true for the Telegram listener."
    else if botToken = [] ∨ botUsername = [] then
      .error "Telegram listener credentials and bot username are required."
    else if requireCommandConfig
        ∧ (internalToken = [] ∨ internalToken = "replace-me-internal".toList) then
      .error "Telegram listener credentials and bot username are required."
    else if ¬ (1 ≤ settings.appPort ∧ settings.appPort ≤ 65535) then
      .error "APP_PORT must be a valid TCP port."
    else .ok {
      commandsEnabled := settings.telegramCommandsEnabled
      botToken := botToken
      chatId := settings.telegramChatId.getD 0
      allowedUserId := settings.telegramAllowedUserId.getD 0
      botUsername := botUsername
      internalApiBearerToken := internalToken
      apiPort := settings.appPort }

def summaryWord : Text := "/summary".toList

/-- `strip().split(maxsplit=1)[0]`, empty where there is no word. -/
def firstToken (text : Text) : Text := (Text.strip text).takeWhile (!Text.isSpace ·)

def isForwarded (message : Json.Dict) : Bool :=
  ["forward_origin", "forward_from", "forward_from_chat", "forward_sender_name"].any message.hasKey

def asInt : Json → Option Int
  | .int n => some n
  | _ => none

/-- A member that is missing or null. -/
def isNone (value : Option Json) : Bool :=
  match value with
  | none => true
  | some .null => true
  | _ => false

/-- `_command_payload`. -/
def commandPayload (config : ListenerConfig) (updateId : Int) (message : Json.Dict) :
    Option TelegramCommandIntakeRequest :=
  match message.getDict? "chat", message.getDict? "from" with
  | some chat, some sender =>
    if chat.getStr? "type" ≠ some "private" then none
    else if (chat.get? "id").bind asInt ≠ some config.chatId
        ∨ (sender.get? "id").bind asInt ≠ some config.allowedUserId then none
    else if isNone (message.get? "sender_chat") = false ∨ isForwarded message = true then none
    else
      match message.getStr? "text", (message.get? "message_id").bind asInt with
      | some text, some messageId =>
        if Text.strip text.toList = [] then none
        else if Text.startsWith ['/'] (Text.lstrip Text.isSpace text.toList) = false then none
        else some {
          telegramUpdateId := updateId
          telegramChatId := config.chatId
          telegramUserId := config.allowedUserId
          telegramMessageId := messageId
          telegramChatType := "private"
          telegramUpdateType := "message"
          isForwarded := false
          isEdited := false
          senderChatId := none
          text := text.toList }
      | _, _ => none
  | _, _ => none

/-- `_is_configured_summary_token`. -/
def isConfiguredSummaryToken (tables : StringTables) (config : ListenerConfig) (token : Text) : Bool :=
  if token = summaryWord then true
  else
    let (prefix_, separator, suffix) := Text.partition '@' token
    decide (prefix_ = summaryWord) && separator && decide (tables.lower suffix = config.botUsername)

/-- An update; `message` is `none` where it is no object. -/
structure Update where
  updateId : Int
  message : Option Json.Dict

/-- What the listener does with an update before it hears from the API. -/
inductive UpdateOpening
  | handled
  | submits (request : TelegramCommandIntakeRequest)
  deriving DecidableEq, Repr

/-- `handle_update` up to its request. -/
def openUpdate (tables : StringTables) (config : ListenerConfig) (update : Update) : UpdateOpening :=
  match update.message.bind (commandPayload config update.updateId) with
  | none => .handled
  | some payload =>
    if isConfiguredSummaryToken tables config (firstToken payload.text) then .submits payload
    else .handled

/-! The API. -/

structure HttpError where
  status : Nat
  detail : String
  deriving DecidableEq, Repr

inductive IntakeOutcome
  | accepted
  | rejected
  | duplicate
  | duplicateConflict
  deriving DecidableEq, Repr

structure TelegramCommandIntakeResponse where
  requestId : Int
  accepted : Bool
  duplicate : Bool
  acceptedForOffset : Bool
  status : RequestStatus
  acknowledgedAt : Option Time
  acknowledgmentRequired : Bool
  userMessage : String
  outcome : IntakeOutcome
  deriving DecidableEq, Repr

/-- The requests under `uq_telegram_command_requests_update_id`. -/
abbrev CommandRows := Table Int TelegramCommandRequest TelegramCommandRequest.telegramUpdateId

/-- `_authorize_request`. -/
def authorizeRequest (settings : IntakeSettings) (request : TelegramCommandIntakeRequest) :
    Except HttpError Unit :=
  match settings.telegramChatId, settings.telegramAllowedUserId with
  | some configuredChatId, some configuredUserId =>
    if request.telegramUpdateType ≠ "message" ∨ request.telegramChatType ≠ "private"
        ∨ request.telegramChatId ≠ configuredChatId ∨ request.telegramUserId ≠ configuredUserId
        ∨ request.isForwarded = true ∨ request.isEdited = true ∨ request.senderChatId ≠ none then
      .error ⟨403, "Telegram command is not authorized."⟩
    else .ok ()
  | _, _ => .error ⟨500, "Telegram command authorization is not configured."⟩

/-- `_is_summary_command`. -/
def isSummaryCommand (text : Text) : Bool :=
  decide ((Text.partition '@' (firstToken text)).1 = summaryWord)

/-- `_extract_submitted_url`. -/
def extractSubmittedUrl (text : Text) : Option String :=
  match Text.words (Text.strip text) with
  | _ :: url :: _ => some (String.ofList (url.take 4096))
  | _ => none

def intakeResponse (row : TelegramCommandRequest) (duplicate acknowledgmentRequired : Bool)
    (userMessage : String) (outcome : IntakeOutcome) : TelegramCommandIntakeResponse where
  requestId := row.id
  accepted := true
  duplicate := duplicate
  acceptedForOffset := true
  status := row.status
  acknowledgedAt := row.acknowledgedAt
  acknowledgmentRequired := acknowledgmentRequired
  userMessage := userMessage
  outcome := outcome

def receivedMessage : String := "Recibido. Estoy generando el resumen..."

/-- `_duplicate_response`; every stored command is a summary. -/
def duplicateResponse (existing : TelegramCommandRequest) (request : TelegramCommandIntakeRequest)
    (submittedUrl : Option String) (summaryCommand : Bool) : TelegramCommandIntakeResponse :=
  if existing.telegramChatId = request.telegramChatId
      ∧ existing.telegramUserId = request.telegramUserId
      ∧ existing.telegramMessageId = request.telegramMessageId
      ∧ summaryCommand = true ∧ existing.submittedUrl = submittedUrl then
    intakeResponse existing true
      (decide (existing.status ≠ .rejected) && existing.acknowledgedAt.isNone)
      (if existing.status ≠ .rejected then receivedMessage else "") .duplicate
  else intakeResponse existing true false "" .duplicateConflict

/-- The row of a command; `verdict` is its video or why it is rejected. -/
def newRequest (id : Int) (now : Time) (request : TelegramCommandIntakeRequest)
    (verdict : Except YouTubeURLValidationError YoutubeVideoId) : TelegramCommandRequest where
  id := id
  createdAt := now
  telegramUpdateId := request.telegramUpdateId
  telegramChatId := request.telegramChatId
  telegramUserId := request.telegramUserId
  telegramMessageId := request.telegramMessageId
  submittedUrl := extractSubmittedUrl request.text
  youtubeVideoId := verdict.toOption
  videoId := none
  status := match verdict with
    | .ok _ => .pending
    | .error _ => .rejected
  attemptCount := 0
  maxAttempts := 3
  nextAttemptAt := none
  processingStartedAt := none
  leaseExpiresAt := none
  leaseToken := none
  lastError := match verdict with
    | .ok _ => none
    | .error error => some (error.code ++ ": " ++ error.message)
  acknowledgedAt := none
  acknowledgmentMessageId := none
  replyStatus := .pending
  replyAttemptCount := 0
  replyMaxAttempts := 3
  replyNextAttemptAt := none
  replyStartedAt := none
  replySentAt := none
  telegramReplyMessageId := none

/-- The answer to a request that is new. -/
def newResponse (row : TelegramCommandRequest) : TelegramCommandIntakeResponse :=
  if row.status = .rejected then
    intakeResponse row false false "No pude aceptar la URL. Revisa el formato de /summary." .rejected
  else intakeResponse row false true receivedMessage .accepted

theorem ofList_videoId_ne {videoId : Text} (eleven : videoId.length = 11) :
    String.ofList videoId ≠ "" := by
  intro empty
  have : (String.ofList videoId).toList = "".toList := by rw [empty]
  rw [String.toList_ofList] at this
  subst this
  cases eleven

/-- What `parse_summary_command` makes of the text. -/
def videoOf (tables : StringTables) (settings : IntakeSettings) (text : Text) :
    Except YouTubeURLValidationError YoutubeVideoId :=
  match h : parseSummaryCommand tables.netlocs tables.casefold text
      (settings.normalizedTelegramBotUsername tables) with
  | .error error => .error error
  | .ok command => .ok ⟨String.ofList command.video.videoId, by
      obtain ⟨_, _, _, _, parsing⟩ := parts_of_command h
      obtain ⟨_, _, _, url⟩ := videoUrl_of_parse parsing
      exact ofList_videoId_ne url.eleven⟩

/-- How far the route comes before it writes. -/
inductive IntakeOpening
  | answered (answer : Except HttpError TelegramCommandIntakeResponse)
  | inserting (verdict : Except YouTubeURLValidationError YoutubeVideoId)

section

variable (tables : StringTables) (settings : IntakeSettings)

/-- The route up to its insert; the body is checked before anything else. -/
def openIntake (request : TelegramCommandIntakeRequest) (rows : CommandRows) : IntakeOpening :=
  if ¬ (1 ≤ request.text.length ∧ request.text.length ≤ 4096) then
    .answered (.error ⟨422, "String should have between 1 and 4096 characters"⟩)
  else if settings.telegramCommandsEnabled = false then
    .answered (.error ⟨409, "Telegram commands are disabled."⟩)
  else
    match rows.get request.telegramUpdateId with
    | some existing =>
      .answered (.ok (duplicateResponse existing request (extractSubmittedUrl request.text)
        (isSummaryCommand request.text)))
    | none =>
      match authorizeRequest settings request with
      | .error error => .answered (.error error)
      | .ok () =>
        if isSummaryCommand request.text = false then
          .answered (.error ⟨422, "Unsupported Telegram command."⟩)
        else .inserting (videoOf tables settings request.text)

/-- The answer after a conflict, from the row that was there first. -/
def answerConflict (request : TelegramCommandIntakeRequest) (rows : CommandRows) :
    Except HttpError TelegramCommandIntakeResponse :=
  match rows.get request.telegramUpdateId with
  | some existing =>
    .ok (duplicateResponse existing request (extractSubmittedUrl request.text)
      (isSummaryCommand request.text))
  | none => .error ⟨500, "Internal Server Error"⟩

/-- The rows at the select, the flush and the select after a conflict. No request
is ever deleted. -/
structure IntakeView where
  selected : CommandRows
  flushed : CommandRows
  reread : CommandRows
  kept : ∀ k r, flushed.get k = some r → ∃ r', reread.get k = some r'

/-- `accept_telegram_command`. -/
def acceptTelegramCommand (view : IntakeView) (id : Int) (now : Time)
    (request : TelegramCommandIntakeRequest) : Except HttpError TelegramCommandIntakeResponse :=
  match openIntake tables settings request view.selected with
  | .answered answer => answer
  | .inserting verdict =>
    match view.flushed.insert (newRequest id now request verdict) with
    | some _ => .ok (newResponse (newRequest id now request verdict))
    | none => answerConflict request view.reread

end

/-! What the listener makes of the answer. -/

structure LocalApiError where
  statusCode : Option Nat
  retryable : Bool
  deriving DecidableEq, Repr

/-- An answer, or none that can be read. -/
inductive Transport
  | answered (answer : Except HttpError TelegramCommandIntakeResponse)
  | lost

/-- `submit_command`. -/
def submitCommand : Transport → Except LocalApiError TelegramCommandIntakeResponse
  | .lost => .error ⟨none, true⟩
  | .answered (.ok response) => .ok response
  | .answered (.error error) =>
    if error.status = 409 then .error ⟨some 409, false⟩
    else .error ⟨some error.status, decide (error.status ≥ 500)⟩

structure Handling where
  handled : Bool
  /-- Whether the listener stops with the error. -/
  fatal : Bool
  deriving DecidableEq, Repr

/-- `handle_update` once it has heard. -/
def closeUpdate : Except LocalApiError TelegramCommandIntakeResponse → Handling
  | .error error =>
    if error.statusCode = some 409 then ⟨true, false⟩ else ⟨false, !error.retryable⟩
  | .ok response => ⟨response.acceptedForOffset, false⟩

/-! What is submitted is accepted. -/

@[simp] theorem duplicateResponse_accepted (existing : TelegramCommandRequest)
    (request : TelegramCommandIntakeRequest) (submittedUrl : Option String) (summaryCommand : Bool) :
    (duplicateResponse existing request submittedUrl summaryCommand).acceptedForOffset = true := by
  unfold duplicateResponse
  split <;> rfl

@[simp] theorem newResponse_accepted (row : TelegramCommandRequest) :
    (newResponse row).acceptedForOffset = true := by
  unfold newResponse
  split <;> rfl

/-- What the listener lets through, as the API checks it. -/
structure Passes (config : ListenerConfig) (request : TelegramCommandIntakeRequest) : Prop where
  kind : request.telegramUpdateType = "message" ∧ request.telegramChatType = "private"
  chat : request.telegramChatId = config.chatId
  user : request.telegramUserId = config.allowedUserId
  own : request.isForwarded = false ∧ request.isEdited = false ∧ request.senderChatId = none
  nonempty : request.text ≠ []
  summary : isSummaryCommand request.text = true

theorem summaryWord_partition : Text.partition '@' summaryWord = (summaryWord, false, []) :=
  Text.partition_free (by decide)

theorem isSummaryCommand_of_token {tables : StringTables} {config : ListenerConfig} {text : Text}
    (h : isConfiguredSummaryToken tables config (firstToken text) = true) :
    isSummaryCommand text = true := by
  unfold isConfiguredSummaryToken at h
  unfold isSummaryCommand
  split at h
  · next same => simp [same, summaryWord_partition]
  · simp only [Bool.and_eq_true] at h
    exact h.1.1

theorem text_of_payload {config : ListenerConfig} {updateId : Int} {message : Json.Dict}
    {payload : TelegramCommandIntakeRequest}
    (h : commandPayload config updateId message = some payload) :
    payload.telegramUpdateId = updateId ∧ payload.text ≠ []
      ∧ payload = { payload with
        telegramChatId := config.chatId
        telegramUserId := config.allowedUserId
        telegramChatType := "private"
        telegramUpdateType := "message"
        isForwarded := false
        isEdited := false
        senderChatId := none } := by
  unfold commandPayload at h
  split at h
  · split at h
    · cases h
    split at h
    · cases h
    split at h
    · cases h
    split at h
    · next text messageId _ _ =>
      split at h
      · cases h
      next visible =>
      split at h
      · cases h
      cases h
      refine ⟨rfl, ?_, rfl⟩
      intro empty
      have blank : text.toList = [] := empty
      rw [blank] at visible
      exact visible rfl
    · cases h
  · cases h

theorem passes_of_openUpdate {tables : StringTables} {config : ListenerConfig} {update : Update}
    {request : TelegramCommandIntakeRequest}
    (h : openUpdate tables config update = .submits request) :
    request.telegramUpdateId = update.updateId ∧ Passes config request := by
  unfold openUpdate at h
  split at h
  · cases h
  next payload built =>
  split at h
  · next named =>
    cases h
    obtain ⟨message, -, built⟩ := Option.bind_eq_some_iff.mp built
    obtain ⟨id, nonempty, fields⟩ := text_of_payload built
    refine ⟨id, ?_⟩
    rw [fields]
    exact ⟨⟨rfl, rfl⟩, rfl, rfl, ⟨rfl, rfl, rfl⟩, nonempty, isSummaryCommand_of_token named⟩
  · cases h

theorem fromSettings_ids {tables : StringTables} {settings : IntakeSettings} {config : ListenerConfig}
    (h : ListenerConfig.fromSettings tables true settings = .ok config) :
    settings.telegramChatId = some config.chatId
      ∧ settings.telegramAllowedUserId = some config.allowedUserId := by
  unfold ListenerConfig.fromSettings at h
  split at h
  · cases h
  next ids =>
  dsimp only at h
  split at h
  · cases h
  split at h
  · cases h
  split at h
  · cases h
  split at h
  · cases h
  cases h
  simp only [true_and, not_or] at ids
  obtain ⟨chat, hasChat⟩ := Option.ne_none_iff_exists'.mp ids.1
  obtain ⟨user, hasUser⟩ := Option.ne_none_iff_exists'.mp ids.2
  simp [hasChat, hasUser]

theorem authorize_of_passes {settings : IntakeSettings} {config : ListenerConfig}
    {request : TelegramCommandIntakeRequest} (passes : Passes config request)
    (chat : settings.telegramChatId = some config.chatId)
    (user : settings.telegramAllowedUserId = some config.allowedUserId) :
    authorizeRequest settings request = .ok () := by
  unfold authorizeRequest
  rw [chat, user]
  simp [passes.kind, passes.chat, passes.user, passes.own]

/-- An update that passes is inserted or found. -/
theorem openIntake_of_passes (tables : StringTables) {settings : IntakeSettings}
    {config : ListenerConfig} {request : TelegramCommandIntakeRequest}
    (passes : Passes config request) (chat : settings.telegramChatId = some config.chatId)
    (user : settings.telegramAllowedUserId = some config.allowedUserId)
    (enabled : settings.telegramCommandsEnabled = true) (short : request.text.length ≤ 4096)
    (rows : CommandRows) :
    openIntake tables settings request rows = match rows.get request.telegramUpdateId with
      | some existing => .answered (.ok (duplicateResponse existing request
          (extractSubmittedUrl request.text) (isSummaryCommand request.text)))
      | none => .inserting (videoOf tables settings request.text) := by
  have some_ : 1 ≤ request.text.length := List.length_pos_iff.mpr passes.nonempty
  unfold openIntake
  rw [if_neg (Decidable.not_not.mpr ⟨some_, short⟩), if_neg (by simp [enabled])]
  split
  · rfl
  · rw [authorize_of_passes passes chat user]
    simp [passes.summary]

/-- An update the listener submits is accepted, whatever is stored, and handled. -/
theorem listener_within_intake (tables : StringTables) (settings : IntakeSettings)
    (config : ListenerConfig) (update : Update) (request : TelegramCommandIntakeRequest)
    (view : IntakeView) (id : Int) (now : Time)
    (configured : ListenerConfig.fromSettings tables true settings = .ok config)
    (enabled : settings.telegramCommandsEnabled = true)
    (submits : openUpdate tables config update = .submits request)
    (short : request.text.length ≤ 4096) :
    ∃ response, acceptTelegramCommand tables settings view id now request = .ok response
      ∧ response.acceptedForOffset = true
      ∧ closeUpdate (submitCommand (.answered (.ok response))) = ⟨true, false⟩ := by
  obtain ⟨-, passes⟩ := passes_of_openUpdate submits
  obtain ⟨chat, user⟩ := fromSettings_ids configured
  have accepted : ∃ response, acceptTelegramCommand tables settings view id now request = .ok response
      ∧ response.acceptedForOffset = true := by
    unfold acceptTelegramCommand
    rw [openIntake_of_passes tables passes chat user enabled short]
    cases found : view.selected.get request.telegramUpdateId with
    | some existing => exact ⟨_, rfl, duplicateResponse_accepted ..⟩
    | none =>
      dsimp only
      split
      · exact ⟨_, rfl, newResponse_accepted _⟩
      · next refused =>
        -- The row in the way is still there when it is read again.
        obtain ⟨first, there⟩ := Table.taken_of_insert refused
        obtain ⟨existing, reread⟩ := view.kept _ _ there
        unfold answerConflict
        rw [show view.reread.get request.telegramUpdateId = some existing from reread]
        exact ⟨_, rfl, duplicateResponse_accepted ..⟩
  obtain ⟨response, answer, forOffset⟩ := accepted
  refine ⟨response, answer, forOffset, ?_⟩
  simp only [submitCommand, closeUpdate, forOffset]

def exampleTables : StringTables := ⟨Text.lower, Text.casefold, exampleChecks⟩

def exampleSettings : IntakeSettings where
  telegramCommandsEnabled := true
  telegramAllowedUserId := some 7
  telegramChatId := some 7
  shortsProcessingEnabled := false
  telegramNotificationsEnabled := true
  telegramBotToken := ['t']
  telegramBotUsername := "@YTPipeBot".toList
  internalApiBearerToken := ['k']
  appPort := 8000

def exampleConfig : ListenerConfig :=
  ⟨true, ['t'], 7, 7, "ytpipebot".toList, ['k'], 8000⟩

def exampleUpdate : Update where
  updateId := 3
  message := some [("message_id", .int 5), ("from", .obj [("id", .int 7)]),
    ("chat", .obj [("id", .int 7), ("type", .str "private")]), ("text", .str "/summary@YTPipeBot x")]

def exampleRequest : TelegramCommandIntakeRequest :=
  ⟨3, 7, 7, 5, "private", "message", false, false, none, "/summary@YTPipeBot x".toList⟩

def exampleView : IntakeView := ⟨.empty, .empty, .empty, fun _ r h => ⟨r, h⟩⟩

theorem listener_within_intake_mention :
    ∃ response, acceptTelegramCommand exampleTables exampleSettings exampleView 1 0 exampleRequest
        = .ok response
      ∧ response.acceptedForOffset = true
      ∧ closeUpdate (submitCommand (.answered (.ok response))) = ⟨true, false⟩ :=
  listener_within_intake exampleTables exampleSettings exampleConfig exampleUpdate exampleRequest
    exampleView 1 0 rfl rfl rfl (by decide)

end YTPipe.Telegram
