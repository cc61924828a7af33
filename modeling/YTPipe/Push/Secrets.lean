import Mathlib.Data.List.Infix
import YTPipe.Push.Send

/-!
# Secrets in stored push errors

A text that is not withheld shows none of the configured values. Nothing looks
for the token of the installation but the marker of one of its spellings.
-/

namespace YTPipe.Push

def secrets (settings : PushSettings) (token : Text) : List Text :=
  token :: settings.sensitiveValues

/-- A withheld error hides every secret that is no part of the sentence put in
its place; another one shows no token. -/
def Harmless (settings : PushSettings) (token error : Text) : Prop :=
  if withheld error settings.sensitiveValues then
    ∀ secret ∈ secrets settings token, ¬ secret <:+: withheldError
  else ¬ token <:+: (flatten error).take 300

instance (settings : PushSettings) (token error : Text) :
    Decidable (Harmless settings token error) := by
  unfold Harmless
  infer_instance

namespace Sample

def settings : PushSettings where
  pushNotificationsEnabled := true
  shortsProcessingEnabled := true
  expoAccessToken := "expo-secret".toList
  expoPushEndpoint := "https://exp.host/--/api/v2/push/send".toList
  internalApiBearerToken := "internal-secret".toList
  mobileApiBearerToken := "mobile-secret".toList

/-- A device with a token of the shorter spelling. -/
def installation : MobilePushInstallation where
  userId := 1
  installationId := 1
  expoPushToken := "ExpoPushToken[a1]".toList
  platform := "ios".toList
  appVersion := none
  buildNumber := none
  deviceName := none
  enabled := true
  registeredAt := 0
  lastSeenAt := some 0
  unregisteredAt := none
  invalidatedAt := none
  lastAttemptAt := none
  lastSuccessAt := none
  lastError := none
  lastExpoStatus := none
  lastExpoTicketId := none

def sending : SendRows := SendRows.begin 0 ⟨.new, installation⟩

/-- A refusal with a message. -/
def refused (message : String) : PostOutcome :=
  .response 200 (.ok (.obj [("data", .obj [("status", .str "error"), ("message", .str message),
    ("details", .obj [("error", .str "DeviceNotRegistered")])])]))

end Sample

end YTPipe.Push
