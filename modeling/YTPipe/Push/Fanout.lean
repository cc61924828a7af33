import YTPipe.Push.Service

/-!
# Once per device

A request for a notification and a device leaves only while the device may be
told, and never twice: its row counts the attempt before the request leaves.
-/

namespace YTPipe.Push

/-- What the channel's own preference says, or the default. -/
def PushDb.wants (db : PushDb) (setting : MobilePushSetting) (channelId : Int) : Bool :=
  match db.preferences.get (setting.userId, channelId) with
  | some p => if p.explicitlySet then p.pushEnabled else setting.defaultForMonitoredChannels
  | none => setting.defaultForMonitoredChannels

/-- Whether the user is told of the video at all. -/
structure Wanted (settings : PushSettings) (db : PushDb) (call : NewVideo) : Prop where
  configured : settings.pushNotificationsEnabled = true
  suits : ¬ (call.video.isShort = some true ∧ settings.shortsProcessingEnabled = false)
  monitored : call.userChannel.isMonitored = true
  chosen : ∃ setting, db.settings.get call.userId = some setting ∧ setting.enabled = true
    ∧ db.wants setting call.channel.id = true

/-- A device of the user that takes messages. -/
structure Reachable (db : PushDb) (call : NewVideo) (key : Int × Nat)
    (i : MobilePushInstallation) : Prop where
  found : db.installations.get key = some i
  own : i.userId = call.userId
  enabled : i.enabled = true
  registered : i.unregisteredAt = none
  valid : i.invalidatedAt = none
  token : i.expoPushToken ≠ []

/-- The rows of a call belong together. -/
structure NewVideo.Matches (call : NewVideo) (key : Int × Nat) : Prop where
  user : call.notificationDelivery.userId = key.1
  video : call.notificationDelivery.videoId = call.video.youtubeVideoId
  channel : call.video.channelId = call.channel.id

/-- Whether a device may be told of a video. -/
structure Eligible (settings : PushSettings) (db : PushDb) (call : NewVideo) (key : Int × Nat) :
    Prop where
  wanted : Wanted settings db call
  reachable : ∃ i, Reachable db call key i
  belongs : call.Matches key

def Attempted (db : PushDb) (key : PushKey) : Prop :=
  ∃ d, db.deliveries.get key = some d ∧ d.attemptCount ≠ 0

/-! Rows. -/

@[simp] theorem setDelivery_settings {db : PushDb} {key : PushKey} {state : DeliveryState} :
    (db.setDelivery key state).settings = db.settings := rfl

@[simp] theorem setDelivery_preferences {db : PushDb} {key : PushKey} {state : DeliveryState} :
    (db.setDelivery key state).preferences = db.preferences := rfl

@[simp] theorem setDelivery_installations {db : PushDb} {key : PushKey} {state : DeliveryState} :
    (db.setDelivery key state).installations = db.installations := rfl

@[simp] theorem setInstallation_settings {db : PushDb} {key : Int × Nat}
    {i : MobilePushInstallation} : (db.setInstallation key i).settings = db.settings := rfl

@[simp] theorem setInstallation_preferences {db : PushDb} {key : Int × Nat}
    {i : MobilePushInstallation} : (db.setInstallation key i).preferences = db.preferences := rfl

@[simp] theorem setInstallation_deliveries {db : PushDb} {key : Int × Nat}
    {i : MobilePushInstallation} : (db.setInstallation key i).deliveries = db.deliveries := rfl

theorem get_setDelivery {db : PushDb} {key key' : PushKey} {state : DeliveryState} :
    (db.setDelivery key state).deliveries.get key'
      = if key' = key then (db.deliveries.get key').map (·.replace state)
        else db.deliveries.get key' :=
  @Table.get_alter _ _ _ _ db.deliveries key key' (·.replace state) (fun _ => rfl)

theorem lookup_setInstallation {db : PushDb} {key key' : Int × Nat} {i : MobilePushInstallation} :
    (db.setInstallation key i).installations.get key'
      = if key' = key then (db.installations.get key').map (·.replace i)
        else db.installations.get key' :=
  @Table.get_alter _ _ _ _ db.installations key key' (·.replace i) (fun _ => rfl)

theorem get_setInstallation {db : PushDb} {key key' : Int × Nat} {i old : MobilePushInstallation}
    (found : db.installations.get key = some old) (same : i.key = key) :
    (db.setInstallation key i).installations.get key'
      = if key' = key then some i else db.installations.get key' := by
  rw [lookup_setInstallation]
  by_cases here : key' = key
  · subst here
    have own : old.key = i.key := (Table.key_of_get found).trans same.symm
    simp only [MobilePushInstallation.key, Prod.mk.injEq] at own
    simp only [if_true, found, Option.map_some, MobilePushInstallation.replace, own.1, own.2]
  · simp only [if_neg here]

@[simp] theorem replace_attemptCount {old : MobilePushDelivery} {state : DeliveryState} :
    (old.replace state).attemptCount = state.attemptCount := rfl

/-- Rows that have been tried stay so. -/
def Remembers (db db' : PushDb) : Prop := ∀ key, Attempted db key → Attempted db' key

theorem Remembers.refl (db : PushDb) : Remembers db db := fun _ h => h

theorem Remembers.trans {a b c : PushDb} (h : Remembers a b) (h' : Remembers b c) :
    Remembers a c := fun key attempted => h' key (h key attempted)

theorem remembers_of_deliveries {db db' : PushDb} (same : db'.deliveries = db.deliveries) :
    Remembers db db' := by
  intro key h
  unfold Attempted at h ⊢
  rw [same]
  exact h

theorem setDelivery_remembers {db : PushDb} {key : PushKey} {state : DeliveryState}
    (counted : state.attemptCount ≠ 0) : Remembers db (db.setDelivery key state) := by
  intro key' ⟨d, found, tried⟩
  unfold Attempted
  rw [get_setDelivery]
  by_cases here : key' = key
  · rw [if_pos here, found]
    exact ⟨_, rfl, counted⟩
  · rw [if_neg here]
    exact ⟨d, found, tried⟩

/-! One installation. -/

/-- What a turn for a device leaves alone. -/
structure Apart (key : Int × Nat) (db db' : PushDb) : Prop where
  settings : db'.settings = db.settings
  preferences : db'.preferences = db.preferences
  installations : ∀ key', key' ≠ key → db'.installations.get key' = db.installations.get key'
  deliveries : ∀ k : PushKey, k.2 ≠ key → db'.deliveries.get k = db.deliveries.get k
  remembers : Remembers db db'

theorem Apart.refl (key : Int × Nat) (db : PushDb) : Apart key db db :=
  ⟨rfl, rfl, fun _ _ => rfl, fun _ _ => rfl, Remembers.refl db⟩

theorem Apart.trans {key : Int × Nat} {a b c : PushDb} (h : Apart key a b) (h' : Apart key b c) :
    Apart key a c where
  settings := h'.settings.trans h.settings
  preferences := h'.preferences.trans h.preferences
  installations k other := (h'.installations k other).trans (h.installations k other)
  deliveries k other := (h'.deliveries k other).trans (h.deliveries k other)
  remembers := h.remembers.trans h'.remembers

theorem setDelivery_apart {db : PushDb} {call : NewVideo} {key : Int × Nat} {state : DeliveryState}
    (counted : state.attemptCount ≠ 0) :
    Apart key db (db.setDelivery (call.pushKey key) state) where
  settings := rfl
  preferences := rfl
  installations _ _ := rfl
  deliveries k other := by
    rw [get_setDelivery, if_neg]
    rintro rfl
    exact other rfl
  remembers := setDelivery_remembers counted

theorem setInstallation_apart {db : PushDb} {key : Int × Nat} {i : MobilePushInstallation} :
    Apart key db (db.setInstallation key i) where
  settings := rfl
  preferences := rfl
  installations _ other := lookup_setInstallation.trans (if_neg other)
  deliveries _ _ := rfl
  remembers := remembers_of_deliveries rfl

/-- The delivery a turn works on, found or inserted. -/
theorem delivery_of_getOrCreate {db db' : PushDb} {call : NewVideo} {key : Int × Nat}
    {delivery : MobilePushDelivery}
    (h : getOrCreateNewVideoDelivery db call key = some (delivery, db')) :
    call.Matches key ∧ db'.deliveries.get (call.pushKey key) = some delivery
      ∧ db'.installations = db.installations ∧ Apart key db db' := by
  unfold getOrCreateNewVideoDelivery at h
  dsimp only at h
  split at h
  · cases h
  next user =>
  split at h
  · cases h
  next video =>
  split at h
  · cases h
  next channel =>
  have belongs : call.Matches key :=
    ⟨Decidable.not_not.mp user, Decidable.not_not.mp video, Decidable.not_not.mp channel⟩
  refine ⟨belongs, ?_⟩
  split at h
  · next found =>
    cases h
    exact ⟨found, rfl, Apart.refl key db⟩
  · next absent =>
    split at h
    · next deliveries inserted =>
      cases h
      have lookup := fun k => Table.get_insert inserted k
      refine ⟨?_, rfl, rfl, rfl, fun _ _ => rfl, ?_, ?_⟩
      · exact (lookup _).trans (if_pos rfl)
      · intro k other
        apply (lookup k).trans
        rw [if_neg]
        rintro rfl
        exact other rfl
      · rintro k ⟨d, found, tried⟩
        refine ⟨d, (lookup k).trans ?_, tried⟩
        rw [if_neg, found]
        rintro rfl
        have : db.deliveries.get (call.pushKey key) = some d := found
        rw [absent] at this
        cases this
    · rw [absent] at h
      cases h

section

variable (settings : PushSettings) (str : Json → String) (call : NewVideo)

theorem finishSend_counts {now later : Time} {rows : SendRows} {message : String}
    {outcome : PostOutcome} :
    (finishSend settings str now later rows message outcome).1.delivery.attemptCount
      = rows.delivery.attemptCount := by
  unfold finishSend markDeliveryFailure
  split <;> rfl

/-- What leaves with a request, and what a send leaves alone. -/
theorem sendDelivery_spec {w : PushWorld} {key : Int × Nat} {i : MobilePushInstallation}
    {delivery : MobilePushDelivery} (answer : SendAnswer)
    (found : w.db.installations.get key = some i)
    (row : w.db.deliveries.get (call.pushKey key) = some delivery) :
    ∃ db, (sendDelivery settings str call w i delivery answer).requests
        = w.requests ++ [⟨settings, db, call, key, buildNewVideoPayload call i answer.now⟩]
      ∧ db.settings = w.db.settings ∧ db.preferences = w.db.preferences
      ∧ db.installations.get key = some { i with lastAttemptAt := some answer.now }
      ∧ Apart key w.db (sendDelivery settings str call w i delivery answer).db
      ∧ Attempted (sendDelivery settings str call w i delivery answer).db (call.pushKey key) := by
  have own : i.key = key := Table.key_of_get found
  subst own
  let begun := SendRows.begin answer.now ⟨delivery.toDeliveryState, i⟩
  have there : (w.db.setDelivery (call.pushKey i.key) begun.delivery).installations.get i.key
      = some i := found
  have same : begun.installation.key = i.key := rfl
  refine ⟨_, rfl, rfl, rfl, ?_, ?_, ?_⟩
  · exact (get_setInstallation there same).trans (if_pos rfl)
  · unfold sendDelivery
    refine Apart.trans (setDelivery_apart ?_) (setInstallation_apart.trans
      (Apart.trans (setDelivery_apart ?_) setInstallation_apart))
    · exact Nat.succ_ne_zero _
    · rw [finishSend_counts]
      exact Nat.succ_ne_zero _
  · unfold sendDelivery Attempted
    simp only [setInstallation_deliveries, get_setDelivery, if_true, row, Option.map_some]
    refine ⟨_, rfl, ?_⟩
    rw [replace_attemptCount, finishSend_counts]
    exact Nat.succ_ne_zero _

/-- A request for a device has left. -/
structure Sent (settings : PushSettings) (call : NewVideo) (key : Int × Nat) (w w' : PushWorld)
    (r : PushRequest) : Prop where
  appended : w'.requests = w.requests ++ [r]
  configured : r.settings = settings
  event : r.call = call
  device : r.installation = key
  belongs : call.Matches key
  settings : r.db.settings = w.db.settings
  preferences : r.db.preferences = w.db.preferences
  installation : ∃ i now, w.db.installations.get key = some i ∧ i.expoPushToken ≠ []
    ∧ r.db.installations.get key = some { i with lastAttemptAt := some now }
  fresh : ¬ Attempted w.db (call.pushKey key)
  counted : Attempted w'.db (call.pushKey key)

theorem pushTurn_cases (answers : Int × Nat → SendAnswer) (w : PushWorld) (key : Int × Nat) :
    Apart key w.db (pushTurn settings str call answers w key).db
      ∧ ((pushTurn settings str call answers w key).requests = w.requests
        ∨ ∃ r, Sent settings call key w (pushTurn settings str call answers w key) r) := by
  unfold pushTurn
  split
  · exact ⟨Apart.refl key w.db, .inl rfl⟩
  next i found =>
  split
  · exact ⟨Apart.refl key w.db, .inl rfl⟩
  next token =>
  split
  · exact ⟨Apart.refl key w.db, .inl rfl⟩
  split
  · exact ⟨Apart.refl key w.db, .inl rfl⟩
  next delivery db created =>
  obtain ⟨belongs, row, installations, apart⟩ := delivery_of_getOrCreate created
  dsimp only
  split
  · exact ⟨apart, .inl rfl⟩
  next untried =>
  split
  · exact ⟨apart, .inl rfl⟩
  have there : db.installations.get key = some i := installations ▸ found
  obtain ⟨sentDb, requests, sameSettings, samePreferences, stamped, sentApart, counted⟩ :=
    sendDelivery_spec settings str call (w := { w with db := db }) (answers key) there row
  refine ⟨apart.trans sentApart, .inr ⟨_, requests, rfl, rfl, rfl, belongs, ?_, ?_, ?_, ?_, counted⟩⟩
  · exact sameSettings.trans apart.settings
  · exact samePreferences.trans apart.preferences
  · exact ⟨i, _, found, token, stamped⟩
  · intro attempted
    obtain ⟨d, still, tried⟩ := apart.remembers _ attempted
    rw [row] at still
    cases still
    exact untried (.inr tried)

end

/-! What has left. -/

structure Sound (w : PushWorld) : Prop where
  once : (w.requests.map PushRequest.key).Nodup
  counted : ∀ r ∈ w.requests, Attempted w.db r.key
  eligible : ∀ r ∈ w.requests, Eligible r.settings r.db r.call r.installation

/-- A device a fan-out goes to. -/
def Listed (db : PushDb) (call : NewVideo) (key : Int × Nat) : Prop :=
  ∃ i, db.installations.get key = some i ∧ i.userId = call.userId ∧ i.active = true

theorem active_iff {i : MobilePushInstallation} : i.active = true ↔
    i.enabled = true ∧ i.unregisteredAt = none ∧ i.invalidatedAt = none := by
  unfold MobilePushInstallation.active
  rw [Bool.and_eq_true, Bool.and_eq_true, Option.isNone_iff_eq_none, Option.isNone_iff_eq_none,
    and_assoc]

theorem mem_recipients {db : PushDb} {call : NewVideo} {key : Int × Nat} :
    key ∈ recipients db call.userId ↔ Listed db call key := by
  unfold recipients Listed
  rw [Table.mem_select]
  simp only [Bool.and_eq_true, decide_eq_true_eq]

theorem Wanted.of_same {settings : PushSettings} {call : NewVideo} {db db' : PushDb}
    (wanted : Wanted settings db call) (same : db'.settings = db.settings)
    (preferences : db'.preferences = db.preferences) : Wanted settings db' call := by
  obtain ⟨setting, found, enabled, wants⟩ := wanted.chosen
  refine { wanted with chosen := ⟨setting, same ▸ found, enabled, ?_⟩ }
  unfold PushDb.wants at wants ⊢
  rw [preferences]
  exact wants

theorem Sound.quiet {w w' : PushWorld} (sound : Sound w) (same : w'.requests = w.requests)
    (remembers : Remembers w.db w'.db) : Sound w' where
  once := same ▸ sound.once
  counted r sent := remembers _ (sound.counted r (same ▸ sent))
  eligible r sent := sound.eligible r (same ▸ sent)

theorem Sound.sent {settings : PushSettings} {call : NewVideo} {key : Int × Nat} {w w' : PushWorld}
    {r : PushRequest} (sound : Sound w) (sent : Sent settings call key w w' r)
    (remembers : Remembers w.db w'.db) (wanted : Wanted settings w.db call)
    (listed : Listed w.db call key) : Sound w' := by
  obtain ⟨i, now, found, token, stamped⟩ := sent.installation
  obtain ⟨i', found', own, active⟩ := listed
  cases found.symm.trans found'
  have named : r.key = call.pushKey key := by
    unfold PushRequest.key
    rw [sent.event, sent.device]
  have eligible : Eligible r.settings r.db r.call r.installation := by
    obtain ⟨enabled, registered, valid⟩ := active_iff.mp active
    rw [sent.configured, sent.event, sent.device]
    exact ⟨wanted.of_same sent.settings sent.preferences,
      ⟨_, stamped, own, enabled, registered, valid, token⟩, sent.belongs⟩
  refine ⟨?_, ?_, ?_⟩
  · rw [sent.appended, List.map_append, List.nodup_append]
    refine ⟨sound.once, by simp, ?_⟩
    intro k earlier k' last same
    obtain ⟨r', sent', rfl⟩ := List.mem_map.mp earlier
    obtain rfl : k' = r.key := by simpa using last
    -- An earlier request of this delivery would have counted its attempt.
    apply sent.fresh
    rw [← named, ← same]
    exact sound.counted r' sent'
  · intro r' sent'
    rw [sent.appended, List.mem_append, List.mem_singleton] at sent'
    cases sent' with
    | inl earlier => exact remembers _ (sound.counted r' earlier)
    | inr last =>
      rw [last, named]
      exact sent.counted
  · intro r' sent'
    rw [sent.appended, List.mem_append, List.mem_singleton] at sent'
    cases sent' with
    | inl earlier => exact sound.eligible r' earlier
    | inr last => exact last ▸ eligible

/-- The devices still to come are as they were when they were listed. -/
theorem fanout_sound (settings : PushSettings) (str : Json → String) (call : NewVideo)
    (answers : Int × Nat → SendAnswer) (keys : List (Int × Nat)) (w : PushWorld)
    (distinct : keys.Nodup) (wanted : Wanted settings w.db call)
    (listed : ∀ key ∈ keys, Listed w.db call key) (sound : Sound w) :
    Sound (keys.foldl (pushTurn settings str call answers) w) := by
  induction keys generalizing w with
  | nil => exact sound
  | cons key keys ih =>
    obtain ⟨absent, distinct⟩ := List.nodup_cons.mp distinct
    obtain ⟨apart, outcome⟩ := pushTurn_cases settings str call answers w key
    apply ih _ distinct
    · exact wanted.of_same apart.settings apart.preferences
    · intro other later
      obtain ⟨i, found, kept⟩ := listed other (List.mem_cons_of_mem _ later)
      have different : other ≠ key := by
        rintro rfl
        exact absent later
      exact ⟨i, (apart.installations other different).trans found, kept⟩
    · cases outcome with
      | inl same => exact sound.quiet same apart.remembers
      | inr sent =>
        obtain ⟨r, sent⟩ := sent
        exact sound.sent sent apart.remembers wanted (listed key List.mem_cons_self)

/-! The attempt. -/

theorem getOrCreateGlobalSettings_spec (db : PushDb) (userId : Int) :
    (getOrCreateGlobalSettings db userId).2.settings.get userId
        = some (getOrCreateGlobalSettings db userId).1
      ∧ (getOrCreateGlobalSettings db userId).2.deliveries = db.deliveries := by
  unfold getOrCreateGlobalSettings
  split
  · next setting found => exact ⟨found, rfl⟩
  · next absent =>
    have created := @Table.get_upsert _ _ _ _ db.settings userId userId (newSetting userId) id
      (fun _ => rfl) rfl
    rw [if_pos rfl, absent] at created
    exact ⟨created, rfl⟩

theorem channelPush_iff {setting : MobilePushSetting} {isMonitored : Bool} {db : PushDb}
    {userId channelId : Int} (own : setting.userId = userId) :
    (computeChannelPushState setting isMonitored
        (db.preferences.get (userId, channelId))).pushEnabled = true
      ↔ setting.enabled = true ∧ isMonitored = true ∧ db.wants setting channelId = true := by
  subst own
  unfold computeChannelPushState PushDb.wants
  cases db.preferences.get (setting.userId, channelId) with
  | none => simp [and_assoc]
  | some p => by_cases explicit : p.explicitlySet = true <;> simp [explicit, and_assoc]

section

variable (settings : PushSettings) (str : Json → String) (call : NewVideo)

/-- A fan-out goes to the devices of a user who wants it, or nothing is sent. -/
theorem attempt_cases (answers : Int × Nat → SendAnswer) (w : PushWorld) :
    (∃ db, db.deliveries = w.db.deliveries
      ∧ attemptNewVideoPush settings str call answers w = { w with db := db })
    ∨ ∃ db, db.deliveries = w.db.deliveries ∧ Wanted settings db call
      ∧ attemptNewVideoPush settings str call answers w
        = (recipients db call.userId).foldl (pushTurn settings str call answers)
          { w with db := db } := by
  obtain ⟨stored, deliveries⟩ := getOrCreateGlobalSettings_spec w.db call.userId
  unfold attemptNewVideoPush
  split
  · exact .inl ⟨w.db, rfl, rfl⟩
  next configured =>
  split
  · exact .inl ⟨w.db, rfl, rfl⟩
  next suits =>
  dsimp only
  split
  · exact .inl ⟨_, deliveries, rfl⟩
  split
  · next chosen =>
    have own : (getOrCreateGlobalSettings w.db call.userId).1.userId = call.userId :=
      Table.key_of_get stored
    obtain ⟨enabled, monitored, wants⟩ := (channelPush_iff own).mp chosen
    exact .inr ⟨_, deliveries,
      ⟨by simpa using configured, suits, monitored, _, stored, enabled, wants⟩, rfl⟩
  · exact .inl ⟨_, deliveries, rfl⟩

theorem attempt_sound (answers : Int × Nat → SendAnswer) (w : PushWorld) (sound : Sound w) :
    Sound (attemptNewVideoPush settings str call answers w) := by
  obtain ⟨db, deliveries, result⟩ | ⟨db, deliveries, wanted, result⟩ :=
    attempt_cases settings str call answers w
  · rw [result]
    exact sound.quiet rfl (remembers_of_deliveries deliveries)
  · rw [result]
    apply fanout_sound settings str call answers _ _ Table.select_nodup wanted
    · exact fun key listed => mem_recipients.mp listed
    · exact sound.quiet rfl (remembers_of_deliveries deliveries)

end

/-! Runs. -/

/-- Only a poll writes deliveries of new videos. -/
theorem sendTestPush_deliveries (settings : PushSettings) (str : Json → String) (key : Int × Nat)
    (answer : SendAnswer) (db : PushDb) :
    (sendTestPush settings str key answer db).deliveries = db.deliveries := by
  unfold sendTestPush
  split
  · rfl
  split
  · rfl
  split <;> rfl

theorem step_sound (str : Json → String) (w : PushWorld) (op : PushOp) (sound : Sound w) :
    Sound (pushStep str w op) := by
  cases op with
  | poll settings calls =>
    simp only [pushStep]
    induction calls generalizing w with
    | nil => exact sound
    | cons call calls ih => exact ih _ (attempt_sound settings str call.1 call.2 w sound)
  | rolledBack => exact sound
  | register registration now =>
    exact sound.quiet rfl
      (remembers_of_deliveries (getOrCreateGlobalSettings_spec w.db registration.userId).2)
  | unregister installation now => exact sound.quiet rfl (remembers_of_deliveries rfl)
  | updateSettings userId enabled default now =>
    exact sound.quiet rfl (remembers_of_deliveries (getOrCreateGlobalSettings_spec w.db userId).2)
  | updatePreference userId channelId pushEnabled =>
    exact sound.quiet rfl (remembers_of_deliveries (getOrCreateGlobalSettings_spec w.db userId).2)
  | testPush settings installation answer =>
    exact sound.quiet rfl (remembers_of_deliveries (sendTestPush_deliveries settings str _ _ _))

end YTPipe.Push
