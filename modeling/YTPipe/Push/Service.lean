import YTPipe.Push.Send

/-!
# Push messages about new videos

`MobilePushService` of `services/mobile_push.py` and the routes that register
devices and change preferences. Each operation is one committed transaction;
rows are named by their unique keys.
-/

namespace YTPipe.Push

structure MobilePushSetting where
  userId : Int
  enabled : Bool
  defaultForMonitoredChannels : Bool
  firstEnabledAt : Option Time
  deriving DecidableEq, Repr

structure MobilePushChannelPreference where
  userId : Int
  channelId : Int
  pushEnabled : Bool
  explicitlySet : Bool
  deriving DecidableEq, Repr

/-- `unique(user_id, channel_id)`. -/
def MobilePushChannelPreference.key (p : MobilePushChannelPreference) : Int × Int :=
  (p.userId, p.channelId)

/-- A delivery of the new-video event. -/
structure MobilePushDelivery extends DeliveryState where
  notificationDelivery : Int × String
  installation : Int × Nat
  videoId : String
  channelId : Int
  deriving DecidableEq, Repr

abbrev PushKey := (Int × String) × Int × Nat

/-- `unique(notification_delivery_id, installation_id)`. -/
def MobilePushDelivery.key (d : MobilePushDelivery) : PushKey :=
  (d.notificationDelivery, d.installation)

structure PushDb where
  settings : Table Int MobilePushSetting MobilePushSetting.userId
  preferences : Table (Int × Int) MobilePushChannelPreference MobilePushChannelPreference.key
  installations : Table (Int × Nat) MobilePushInstallation MobilePushInstallation.key
  deliveries : Table PushKey MobilePushDelivery MobilePushDelivery.key

/-- The arguments of `attempt_new_video_push`. -/
structure NewVideo where
  userId : Int
  userChannel : Polling.UserChannel
  channel : Polling.Channel
  video : Polling.Video
  notificationDelivery : Polling.NotificationDelivery

structure PushPayload where
  recipient : Text
  title : String
  body : Text
  activityId : Int × String
  videoId : String
  channelId : Int
  sentAt : Time
  deriving DecidableEq, Repr

/-- A request to the provider, with the rows as they are when it leaves. -/
structure PushRequest where
  settings : PushSettings
  db : PushDb
  call : NewVideo
  installation : Int × Nat
  payload : PushPayload

def NewVideo.pushKey (call : NewVideo) (installation : Int × Nat) : PushKey :=
  (call.notificationDelivery.key, installation)

def PushRequest.key (r : PushRequest) : PushKey := r.call.pushKey r.installation

/-- Where an exception ends the handling of one installation before its request. -/
inductive Broken
  | lookup
  | payload
  deriving DecidableEq, Repr

/-- What the surroundings do while one installation is handled. -/
structure SendAnswer where
  broken : Option Broken
  now : Time
  later : Time
  outcome : PostOutcome

structure PushWorld where
  db : PushDb
  requests : List PushRequest

/-! Settings and preferences. -/

def newSetting (userId : Int) : MobilePushSetting := ⟨userId, false, true, none⟩

/-- `get_or_create_global_settings`. -/
def getOrCreateGlobalSettings (db : PushDb) (userId : Int) : MobilePushSetting × PushDb :=
  match db.settings.get userId with
  | some setting => (setting, db)
  | none =>
    (newSetting userId,
      { db with settings := db.settings.upsert userId (newSetting userId) id (fun _ => rfl) })

def MobilePushSetting.update (enabled default : Option Bool) (now : Time)
    (setting : MobilePushSetting) : MobilePushSetting :=
  { setting with
    defaultForMonitoredChannels := default.getD setting.defaultForMonitoredChannels
    enabled := enabled.getD setting.enabled
    firstEnabledAt :=
      if enabled = some true ∧ setting.enabled = false ∧ setting.firstEnabledAt = none
      then some now else setting.firstEnabledAt }

def updateGlobalSettings (db : PushDb) (userId : Int) (enabled default : Option Bool)
    (now : Time) : PushDb :=
  let (_, db) := getOrCreateGlobalSettings db userId
  { db with settings := db.settings.alter userId (·.update enabled default now) (fun _ => rfl) }

/-- The route `update_channel_preference` of a monitored channel. -/
def updateChannelPreference (db : PushDb) (userId channelId : Int) (pushEnabled : Bool) : PushDb :=
  let (_, db) := getOrCreateGlobalSettings db userId
  { db with
    preferences := db.preferences.upsert (userId, channelId) ⟨userId, channelId, pushEnabled, true⟩
      (fun p => { p with pushEnabled := pushEnabled, explicitlySet := true }) (fun _ => rfl) }

structure ChannelPushState where
  pushEligible : Bool
  pushEnabled : Bool
  explicitlySet : Bool
  explicitPushEnabled : Option Bool
  deriving DecidableEq, Repr

def computeChannelPushState (setting : MobilePushSetting) (isMonitored : Bool)
    (preference : Option MobilePushChannelPreference) : ChannelPushState :=
  let explicitPushEnabled := match preference with
    | some p => if p.explicitlySet then some p.pushEnabled else none
    | none => none
  let inheritedOrExplicit := explicitPushEnabled.getD setting.defaultForMonitoredChannels
  { pushEligible := isMonitored
    pushEnabled := setting.enabled && isMonitored && inheritedOrExplicit
    explicitlySet := (preference.map (·.explicitlySet)).getD false
    explicitPushEnabled := explicitPushEnabled }

/-! Installations. -/

structure Registration where
  userId : Int
  installationId : Nat
  expoPushToken : Text
  platform : Option Text
  appVersion : Option String
  buildNumber : Option String
  deviceName : Option String

def normalizePlatform (platform : Option Text) : Text :=
  let unknown := "unknown".toList
  let named := match platform with
    | some (c :: t) => c :: t
    | _ => unknown
  let normalized := Text.lower (Text.strip named)
  if normalized ∈ ["ios".toList, "android".toList] then normalized else unknown

def Registration.fresh (r : Registration) (now : Time) : MobilePushInstallation where
  userId := r.userId
  installationId := r.installationId
  expoPushToken := r.expoPushToken
  platform := normalizePlatform r.platform
  appVersion := r.appVersion
  buildNumber := r.buildNumber
  deviceName := r.deviceName
  enabled := true
  registeredAt := now
  lastSeenAt := some now
  unregisteredAt := none
  invalidatedAt := none
  lastAttemptAt := none
  lastSuccessAt := none
  lastError := none
  lastExpoStatus := none
  lastExpoTicketId := none

def Registration.renew (r : Registration) (now : Time) (i : MobilePushInstallation) :
    MobilePushInstallation :=
  { i with
    expoPushToken := r.expoPushToken
    platform := normalizePlatform r.platform
    appVersion := r.appVersion
    buildNumber := r.buildNumber
    deviceName := r.deviceName
    enabled := true
    registeredAt := now
    lastSeenAt := some now
    unregisteredAt := none
    invalidatedAt := none }

def registerInstallation (db : PushDb) (r : Registration) (now : Time) : PushDb :=
  let (_, db) := getOrCreateGlobalSettings db r.userId
  { db with
    installations := db.installations.upsert (r.userId, r.installationId) (r.fresh now) (r.renew now)
      (fun _ => rfl) }

def unregisterInstallation (db : PushDb) (key : Int × Nat) (now : Time) : PushDb :=
  { db with
    installations := db.installations.alter key
      (fun i => { i with enabled := false, unregisteredAt := some now }) (fun _ => rfl) }

def MobilePushInstallation.replace (old i : MobilePushInstallation) : MobilePushInstallation :=
  { i with userId := old.userId, installationId := old.installationId }

def MobilePushDelivery.replace (old : MobilePushDelivery) (state : DeliveryState) :
    MobilePushDelivery :=
  { old with toDeliveryState := state }

def PushDb.setInstallation (db : PushDb) (key : Int × Nat) (i : MobilePushInstallation) : PushDb :=
  { db with installations := db.installations.alter key (·.replace i) (fun _ => rfl) }

def PushDb.setDelivery (db : PushDb) (key : PushKey) (state : DeliveryState) : PushDb :=
  { db with deliveries := db.deliveries.alter key (·.replace state) (fun _ => rfl) }

/-- Whether messages go to an installation. -/
def MobilePushInstallation.active (i : MobilePushInstallation) : Bool :=
  i.enabled && i.unregisteredAt.isNone && i.invalidatedAt.isNone

/-! The fan-out. -/

def NewVideo.delivery (call : NewVideo) (installation : Int × Nat) : MobilePushDelivery where
  toDeliveryState := .new
  notificationDelivery := call.notificationDelivery.key
  installation := installation
  videoId := call.video.youtubeVideoId
  channelId := call.channel.id

/-- `get_or_create_new_video_delivery`; `none` is an exception. A clash of the
insert is read again. -/
def getOrCreateNewVideoDelivery (db : PushDb) (call : NewVideo) (installation : Int × Nat) :
    Option (MobilePushDelivery × PushDb) :=
  let key := call.pushKey installation
  if call.notificationDelivery.userId ≠ installation.1 then none
  else if call.notificationDelivery.videoId ≠ call.video.youtubeVideoId then none
  else if call.video.channelId ≠ call.channel.id then none
  else
    match db.deliveries.get key with
    | some delivery => some (delivery, db)
    | none =>
      match db.deliveries.insert (call.delivery installation) with
      | some deliveries => some (call.delivery installation, { db with deliveries := deliveries })
      | none => (db.deliveries.get key).map fun delivery => (delivery, db)

def buildNewVideoPayload (call : NewVideo) (installation : MobilePushInstallation) (now : Time) :
    PushPayload where
  recipient := installation.expoPushToken
  title := "New video from " ++ (match call.channel.title with
    | some title => if title = "" then "Unknown channel" else title
    | none => "Unknown channel")
  body := match call.video.title with
    | some (c :: t) => c :: t
    | _ => call.video.youtubeVideoId.toList
  activityId := call.notificationDelivery.key
  videoId := call.video.youtubeVideoId
  channelId := call.channel.id
  sentAt := now

section

variable (settings : PushSettings) (str : Json → String) (call : NewVideo)

/-- `_send_delivery` of a new video. The attempt is flushed, then the request leaves. -/
def sendDelivery (w : PushWorld) (installation : MobilePushInstallation)
    (delivery : MobilePushDelivery) (answer : SendAnswer) : PushWorld :=
  let key := call.pushKey installation.key
  let begun := SendRows.begin answer.now ⟨delivery.toDeliveryState, installation⟩
  let db := (w.db.setDelivery key begun.delivery).setInstallation installation.key begun.installation
  let payload := buildNewVideoPayload call installation answer.now
  let ended := (finishSend settings str answer.now answer.later begun
    "New-video push notification sent." answer.outcome).1
  { db := (db.setDelivery key ended.delivery).setInstallation installation.key ended.installation
    requests := w.requests ++ [⟨settings, db, call, installation.key, payload⟩] }

/-- The body of the loop over installations; an exception goes on with the next. -/
def pushTurn (answers : Int × Nat → SendAnswer) (w : PushWorld) (key : Int × Nat) : PushWorld :=
  match w.db.installations.get key with
  | none => w
  | some installation =>
    if installation.expoPushToken = [] then w
    else if (answers key).broken = some .lookup then w
    else
      match getOrCreateNewVideoDelivery w.db call key with
      | none => w
      | some (delivery, db) =>
        let w := { w with db := db }
        if delivery.status ≠ .pending ∨ delivery.attemptCount ≠ 0 then w
        else if (answers key).broken = some .payload then w
        else sendDelivery settings str call w installation delivery (answers key)

/-- The installations a fan-out goes to. -/
def recipients (db : PushDb) (userId : Int) : List (Int × Nat) :=
  db.installations.select fun i => decide (i.userId = userId) && i.active

/-- `attempt_new_video_push`. -/
def attemptNewVideoPush (answers : Int × Nat → SendAnswer) (w : PushWorld) : PushWorld :=
  if settings.pushNotificationsEnabled = false then w
  else if call.video.isShort = some true ∧ settings.shortsProcessingEnabled = false then w
  else
    let (setting, db) := getOrCreateGlobalSettings w.db call.userId
    let w := { w with db := db }
    if setting.enabled = false ∨ call.userChannel.isMonitored = false then w
    else
      let preference := w.db.preferences.get (call.userId, call.channel.id)
      if (computeChannelPushState setting call.userChannel.isMonitored preference).pushEnabled then
        (recipients w.db call.userId).foldl (pushTurn settings str call answers) w
      else w

/-- `send_test_push`; its delivery has no notification and is not looked at again. -/
def sendTestPush (key : Int × Nat) (answer : SendAnswer) (db : PushDb) : PushDb :=
  if settings.pushNotificationsEnabled = false then db
  else
    match db.installations.get key with
    | none => db
    | some installation =>
      if installation.active = false ∨ installation.expoPushToken = [] then db
      else
        let begun := SendRows.begin answer.now ⟨.new, installation⟩
        let ended := (finishSend settings str answer.now answer.later begun
          "Test push notification sent." answer.outcome).1
        db.setInstallation key ended.installation

end

/-- A committed transaction. -/
inductive PushOp
  /-- A poll, with the new videos it finds. -/
  | poll (settings : PushSettings) (calls : List (NewVideo × (Int × Nat → SendAnswer)))
  /-- A poll that is rolled back has sent nothing. -/
  | rolledBack
  | register (registration : Registration) (now : Time)
  | unregister (installation : Int × Nat) (now : Time)
  | updateSettings (userId : Int) (enabled default : Option Bool) (now : Time)
  | updatePreference (userId channelId : Int) (pushEnabled : Bool)
  | testPush (settings : PushSettings) (installation : Int × Nat) (answer : SendAnswer)

def pushStep (str : Json → String) (w : PushWorld) : PushOp → PushWorld
  | .poll settings calls =>
    calls.foldl (fun w call => attemptNewVideoPush settings str call.1 call.2 w) w
  | .rolledBack => w
  | .register registration now => { w with db := registerInstallation w.db registration now }
  | .unregister installation now => { w with db := unregisterInstallation w.db installation now }
  | .updateSettings userId enabled default now =>
    { w with db := updateGlobalSettings w.db userId enabled default now }
  | .updatePreference userId channelId pushEnabled =>
    { w with db := updateChannelPreference w.db userId channelId pushEnabled }
  | .testPush settings installation answer =>
    { w with db := sendTestPush settings str installation answer w.db }

def runPush (str : Json → String) (ops : List PushOp) (w : PushWorld) : PushWorld :=
  ops.foldl (pushStep str) w

end YTPipe.Push
