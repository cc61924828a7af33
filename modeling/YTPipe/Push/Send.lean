import YTPipe.Strings
import YTPipe.Polling.Metadata

/-!
# Sending one push message

`_send_delivery` and `_mark_delivery_failure` of `services/mobile_push.py`, and
what they make of the provider's answer.
-/

namespace YTPipe.Push

open Polling (falsy)

/-- A member of the settings that a stored error must not show. -/
structure PushSettings where
  pushNotificationsEnabled : Bool
  shortsProcessingEnabled : Bool
  expoAccessToken : Text
  expoPushEndpoint : Text
  internalApiBearerToken : Text
  mobileApiBearerToken : Text
  deriving DecidableEq, Repr

inductive PushDeliveryStatus
  | pending
  | sent
  | failed
  | skipped
  | invalidToken
  deriving DecidableEq, Repr

/-- The document of `expo_response`. -/
inductive ExpoResponse
  | accepted (status : String) (ticketId : Option String)
  | rejected (status : String) (message : Text) (error : Option String)
  deriving DecidableEq, Repr

/-- What a send changes of a delivery. -/
structure DeliveryState where
  status : PushDeliveryStatus
  attemptCount : Nat
  lastAttemptAt : Option Time
  lastSuccessAt : Option Time
  lastError : Option Text
  expoStatus : Option String
  expoTicketId : Option String
  expoResponse : Option ExpoResponse
  deriving DecidableEq, Repr

def DeliveryState.new : DeliveryState := ⟨.pending, 0, none, none, none, none, none, none⟩

structure MobilePushInstallation where
  userId : Int
  /-- The device's own UUID. -/
  installationId : Nat
  expoPushToken : Text
  platform : Text
  appVersion : Option String
  buildNumber : Option String
  deviceName : Option String
  enabled : Bool
  registeredAt : Time
  lastSeenAt : Option Time
  unregisteredAt : Option Time
  invalidatedAt : Option Time
  lastAttemptAt : Option Time
  lastSuccessAt : Option Time
  lastError : Option Text
  lastExpoStatus : Option String
  lastExpoTicketId : Option String
  deriving DecidableEq, Repr

/-- `unique(user_id, installation_id)`. -/
def MobilePushInstallation.key (i : MobilePushInstallation) : Int × Nat :=
  (i.userId, i.installationId)

/-! Provider errors. -/

def withheldError : Text := "Push provider request failed.".toList

def unsafeMarkers : List Text :=
  ["bearer ", "exponentpushtoken[", "traceback", "stack trace", "http://", "https://"].map
    String.toList

/-- `message.replace("\n", " ").replace("\r", " ")`. -/
def flatten (message : Text) : Text :=
  message.map fun c => if c = '\n' ∨ c = '\r' then ' ' else c

/-- Whether the text of an error is withheld. -/
def withheld (message : Text) (sensitiveValues : List Text) : Bool :=
  message.isEmpty
    || unsafeMarkers.any (fun marker => Text.contains marker (Text.lower (flatten message)))
    || sensitiveValues.any fun value =>
      !(Text.strip value).isEmpty && Text.contains (Text.strip value) (flatten message)

/-- The function `_sanitize_provider_error`. -/
def sanitizeProviderError (message : Text) (sensitiveValues : List Text) : Text :=
  if withheld message sensitiveValues then withheldError else (flatten message).take 300

/-- The values the method `_sanitize_provider_error` looks for. -/
def PushSettings.sensitiveValues (settings : PushSettings) : List Text :=
  [settings.expoAccessToken, settings.expoPushEndpoint, settings.internalApiBearerToken,
    settings.mobileApiBearerToken]

/-! Answers. -/

structure ParsedResponse where
  ok : Bool
  expoStatus : String
  ticketId : Option String
  message : Option Text
  error : Option String
  deriving DecidableEq, Repr

def malformedResponse : ParsedResponse :=
  ⟨false, "malformed", none, some "Malformed Expo response.".toList, none⟩

/-- The entry of `data`, or the first of a list. -/
def responseEntry (payload : Json) : Option Json.Dict :=
  match (Json.asDict payload).bind (·.get? "data") with
  | some (.arr items) => items.head?.bind Json.asDict
  | some data => Json.asDict data
  | none => none

/-- `_parse_expo_response`; `str` prints a value that is no text. -/
def parseExpoResponse (str : Json → String) (payload : Json) : ParsedResponse :=
  match responseEntry payload with
  | none => malformedResponse
  | some entry =>
    let expoStatus := match (entry.get? "status").getD .null with
      | .str status => status
      | status => if falsy status then "" else str status
    let ticketId := entry.getStr? "id"
    let error := (entry.getDict? "details").bind (·.getStr? "error")
    let message := (entry.getStr? "message").getD "Expo push request failed."
    if expoStatus = "ok" then ⟨true, expoStatus, ticketId, none, none⟩
    else ⟨false, if expoStatus = "" then "error" else expoStatus, ticketId,
      some (sanitizeProviderError message.toList []), error⟩

/-- How the POST ended: a response, whose body may be no JSON, or an exception
with its text. -/
inductive PostOutcome
  | response (statusCode : Int) (body : Except Text Json)
  | raised (message : Text)

/-- The arguments of `_mark_delivery_failure`. -/
structure SendFailure where
  message : String
  error : Text
  expoStatus : String
  expoTicketId : Option String
  invalidToken : Bool
  deliveryStatus : PushDeliveryStatus
  deriving DecidableEq, Repr

def requestFailure (error : Text) : SendFailure :=
  ⟨"Push provider request failed.", error, "provider_error", none, false, .failed⟩

/-- The ticket of a message that was taken, or why it was not. -/
def sendOutcome (str : Json → String) : PostOutcome → Except SendFailure (Option String)
  | .raised message => .error (requestFailure message)
  | .response statusCode body =>
    if statusCode ≥ 400 then
      .error (requestFailure
        ("Expo provider returned HTTP ".toList ++ (toString statusCode).toList ++ ".".toList))
    else
      match body with
      | .error message => .error (requestFailure message)
      | .ok payload =>
        let parsed := parseExpoResponse str payload
        if parsed.ok then .ok parsed.ticketId
        else
          let invalidToken := parsed.error = some "DeviceNotRegistered"
          let message := if invalidToken then "Expo push token is no longer registered."
            else "Push provider rejected the request."
          let error := match parsed.message with
            | some (c :: t) => c :: t
            | _ => message.toList
          .error {
            message := message
            error := error
            expoStatus := if parsed.expoStatus = "" then "error" else parsed.expoStatus
            expoTicketId := parsed.ticketId
            invalidToken := invalidToken
            deliveryStatus := if invalidToken then .invalidToken else .failed }

/-- `PushSendResult`. -/
structure PushSendResult where
  status : PushDeliveryStatus
  sent : Bool
  disabled : Bool
  message : String
  invalidToken : Bool
  expoStatus : Option String
  expoTicketId : Option String
  lastAttemptAt : Option Time
  httpStatusCode : Option Int
  deriving DecidableEq, Repr

/-- The rows a send works on. -/
structure SendRows where
  delivery : DeliveryState
  installation : MobilePushInstallation
  deriving DecidableEq, Repr

section

variable (settings : PushSettings)

/-- The rows when the request leaves: the attempt is flushed before it. -/
def SendRows.begin (now : Time) (rows : SendRows) : SendRows where
  delivery := { rows.delivery with
    attemptCount := rows.delivery.attemptCount + 1
    lastAttemptAt := some now }
  installation := { rows.installation with lastAttemptAt := some now }

/-- `_mark_delivery_failure`; `later` is the clock after the answer. -/
def markDeliveryFailure (later : Time) (rows : SendRows) (failure : SendFailure) :
    SendRows × PushSendResult :=
  let now := rows.delivery.lastAttemptAt.getD later
  let sanitizedError := sanitizeProviderError failure.error settings.sensitiveValues
  ({ delivery := { rows.delivery with
      status := failure.deliveryStatus
      lastError := some sanitizedError
      expoStatus := some failure.expoStatus
      expoTicketId := failure.expoTicketId
      expoResponse := some (.rejected failure.expoStatus sanitizedError
        (if failure.invalidToken then some "DeviceNotRegistered" else none))
      lastAttemptAt := some now }
     installation := { rows.installation with
      lastError := some sanitizedError
      lastExpoStatus := some failure.expoStatus
      lastExpoTicketId := failure.expoTicketId
      enabled := rows.installation.enabled && !failure.invalidToken
      invalidatedAt :=
        if failure.invalidToken then some later else rows.installation.invalidatedAt
      lastAttemptAt := some now } },
   { status := failure.deliveryStatus
     sent := false
     disabled := false
     message := failure.message
     invalidToken := failure.invalidToken
     expoStatus := some failure.expoStatus
     expoTicketId := failure.expoTicketId
     lastAttemptAt := some now
     httpStatusCode := some 502 })

/-- `_send_delivery` once the request has ended. -/
def finishSend (str : Json → String) (now later : Time) (rows : SendRows) (successMessage : String)
    (outcome : PostOutcome) : SendRows × PushSendResult :=
  match sendOutcome str outcome with
  | .error failure => markDeliveryFailure settings later rows failure
  | .ok ticketId =>
    ({ delivery := { rows.delivery with
        status := .sent
        lastSuccessAt := some now
        expoStatus := some "ok"
        expoTicketId := ticketId
        expoResponse := some (.accepted "ok" ticketId) }
       installation := { rows.installation with
        lastSuccessAt := some now
        lastError := none
        lastExpoStatus := some "ok"
        lastExpoTicketId := ticketId } },
     { status := .sent
       sent := true
       disabled := false
       message := successMessage
       invalidToken := false
       expoStatus := some "ok"
       expoTicketId := ticketId
       lastAttemptAt := some now
       httpStatusCode := none })

end

end YTPipe.Push
