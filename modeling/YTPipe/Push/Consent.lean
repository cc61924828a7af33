import YTPipe.Push.Fanout

/-!
# Consent

What a user and a device have asked for last, through the routes of the mobile app,
decides over the whole history whether a request leaves, and to which token.
-/

namespace YTPipe.Push

/-- What was said last, of those that say something. -/
def lastWord {α β : Type} (word : α → Option β) (past : List α) : Option β :=
  past.reverse.findSome? word

theorem lastWord_concat {α β : Type} (word : α → Option β) (past : List α) (a : α) :
    lastWord word (past ++ [a]) = (word a).or (lastWord word past) := by
  unfold lastWord
  rw [List.reverse_append, List.reverse_singleton, List.singleton_append, List.findSome?_cons]
  cases word a <;> rfl

theorem lastWord_silent {α β : Type} {word : α → Option β} {past : List α} {a : α}
    (silent : word a = none) : lastWord word (past ++ [a]) = lastWord word past := by
  rw [lastWord_concat, silent, Option.none_or]

theorem lastWord_said {α β : Type} {word : α → Option β} {past : List α} {a : α} {b : β}
    (said : word a = some b) : lastWord word (past ++ [a]) = some b := by
  rw [lastWord_concat, said, Option.some_or]

/-- A device registers with a token, or goes. -/
def PushOp.device (key : Int × Nat) : PushOp → Option (Option Text)
  | .register registration _ =>
    if key = (registration.userId, registration.installationId) then
      some (some registration.expoPushToken)
    else none
  | .unregister installation _ => if key = installation then some none else none
  | _ => none

/-- A user turns push on or off. -/
def PushOp.switch (userId : Int) : PushOp → Option Bool
  | .updateSettings id enabled _ _ => if userId = id then enabled else none
  | _ => none

def PushOp.default (userId : Int) : PushOp → Option Bool
  | .updateSettings id _ default _ => if userId = id then default else none
  | _ => none

/-- A user decides about a channel. -/
def PushOp.channel (key : Int × Int) : PushOp → Option Bool
  | .updatePreference userId channelId pushEnabled =>
    if key = (userId, channelId) then some pushEnabled else none
  | _ => none

/-- The device's last word was its registration, with the token the message goes to;
the user's last word was to turn push on; and of the channel the last word was yes, or
there is none and the default is yes. -/
structure Consented (past : List PushOp) (r : PushRequest) : Prop where
  device : lastWord (PushOp.device r.installation) past = some (some r.payload.recipient)
  switch : lastWord (PushOp.switch r.call.userId) past = some true
  channel : (lastWord (PushOp.channel (r.call.userId, r.call.channel.id)) past).getD
    ((lastWord (PushOp.default r.call.userId) past).getD true) = true

/-! What the rows say. -/

def PushDb.setting (db : PushDb) (userId : Int) : MobilePushSetting :=
  (db.settings.get userId).getD (newSetting userId)

/-- What is said of the channel itself. -/
def PushDb.explicit (db : PushDb) (key : Int × Int) : Option Bool :=
  (db.preferences.get key).bind fun p => if p.explicitlySet then some p.pushEnabled else none

/-- The rows let a request leave. -/
structure Permitted (db : PushDb) (r : PushRequest) : Prop where
  device : ∃ i, db.installations.get r.installation = some i ∧ i.active = true
    ∧ i.expoPushToken = r.payload.recipient
  switch : (db.setting r.call.userId).enabled = true
  channel : (db.explicit (r.call.userId, r.call.channel.id)).getD
    (db.setting r.call.userId).defaultForMonitoredChannels = true

/-- The rows hold what was said last; a device may have become invalid. -/
structure Records (past : List PushOp) (db : PushDb) : Prop where
  device : ∀ key i, db.installations.get key = some i → i.active = true →
    lastWord (PushOp.device key) past = some (some i.expoPushToken)
  switch : ∀ user, (db.setting user).enabled = (lastWord (PushOp.switch user) past).getD false
  default : ∀ user, (db.setting user).defaultForMonitoredChannels
    = (lastWord (PushOp.default user) past).getD true
  channel : ∀ key, db.explicit key = lastWord (PushOp.channel key) past

theorem Records.consented {past : List PushOp} {db : PushDb} {r : PushRequest}
    (records : Records past db) (permitted : Permitted db r) : Consented past r := by
  obtain ⟨i, found, active, token⟩ := permitted.device
  have switch := records.switch r.call.userId
  rw [permitted.switch] at switch
  refine ⟨token ▸ records.device _ i found active, ?_, ?_⟩
  · cases said : lastWord (PushOp.switch r.call.userId) past with
    | none =>
      rw [said] at switch
      cases switch
    | some b =>
      rw [said] at switch
      rw [← switch.symm]
      rfl
  · rw [← records.channel, ← records.default]
    exact permitted.channel

/-! What sending does to the rows. -/

/-- Nobody has said anything; devices may have become invalid. -/
structure Fades (db db' : PushDb) : Prop where
  device : ∀ key i', db'.installations.get key = some i' → i'.active = true →
    ∃ i, db.installations.get key = some i ∧ i.active = true ∧ i.expoPushToken = i'.expoPushToken
  setting : ∀ user, db'.setting user = db.setting user
  explicit : ∀ key, db'.explicit key = db.explicit key

namespace Fades

variable {db db' db'' : PushDb}

theorem refl (db : PushDb) : Fades db db where
  device _ i found active := ⟨i, found, active, rfl⟩
  setting _ := rfl
  explicit _ := rfl

theorem trans (h : Fades db db') (h' : Fades db' db'') : Fades db db'' where
  device key i'' found active := by
    obtain ⟨i', found', active', token'⟩ := h'.device key i'' found active
    obtain ⟨i, found, active, token⟩ := h.device key i' found' active'
    exact ⟨i, found, active, token.trans token'⟩
  setting user := (h'.setting user).trans (h.setting user)
  explicit key := (h'.explicit key).trans (h.explicit key)

/-- Only deliveries differ. -/
theorem of_rows (h : Fades db db') (installations : db''.installations = db'.installations)
    (settings : db''.settings = db'.settings) (preferences : db''.preferences = db'.preferences) :
    Fades db db'' where
  device key i found active := h.device key i (installations ▸ found) active
  setting user := by
    unfold PushDb.setting
    rw [settings]
    exact h.setting user
  explicit key := by
    unfold PushDb.explicit
    rw [preferences]
    exact h.explicit key

theorem permitted {r : PushRequest} (h : Fades db db') (permitted : Permitted db' r) :
    Permitted db r where
  device := by
    obtain ⟨i', found', active', token'⟩ := permitted.device
    obtain ⟨i, found, active, token⟩ := h.device _ i' found' active'
    exact ⟨i, found, active, token.trans token'⟩
  switch := h.setting _ ▸ permitted.switch
  channel := h.setting _ ▸ h.explicit _ ▸ permitted.channel

theorem records {past : List PushOp} (h : Fades db db') (records : Records past db) :
    Records past db' where
  device key i' found' active' := by
    obtain ⟨i, found, active, token⟩ := h.device key i' found' active'
    exact token ▸ records.device key i found active
  switch user := by
    rw [h.setting]
    exact records.switch user
  default user := by
    rw [h.setting]
    exact records.default user
  channel key := (h.explicit key).trans (records.channel key)

end Fades

theorem fades_getOrCreate (db : PushDb) (userId : Int) :
    Fades db (getOrCreateGlobalSettings db userId).2 := by
  unfold getOrCreateGlobalSettings
  split
  · exact .refl db
  · next absent =>
    refine ⟨fun _ i found active => ⟨i, found, active, rfl⟩, fun user => ?_, fun _ => rfl⟩
    have created := @Table.get_upsert _ _ _ _ db.settings userId user (newSetting userId) id
      (fun _ => rfl) rfl
    unfold PushDb.setting
    by_cases same : user = userId
    · subst same
      rw [created, if_pos rfl, absent]
      rfl
    · rw [created, if_neg same]

/-- A device is written back with its token, and not made active. -/
theorem fades_setInstallation {db : PushDb} {key : Int × Nat} {i old : MobilePushInstallation}
    (found : db.installations.get key = some old) (token : i.expoPushToken = old.expoPushToken)
    (weaker : i.active = true → old.active = true) : Fades db (db.setInstallation key i) where
  device key' i' found' active' := by
    rw [lookup_setInstallation] at found'
    by_cases here : key' = key
    · rw [if_pos here, here, found] at found'
      cases found'
      exact ⟨old, here ▸ found, weaker active', token.symm⟩
    · rw [if_neg here] at found'
      exact ⟨i', found', active', rfl⟩
  setting _ := rfl
  explicit _ := rfl

section sends

variable (settings : PushSettings) (str : Json → String)

theorem finishSend_token {now later : Time} {rows : SendRows} {message : String}
    {outcome : PostOutcome} :
    (finishSend settings str now later rows message outcome).1.installation.expoPushToken
      = rows.installation.expoPushToken := by
  unfold finishSend markDeliveryFailure
  split <;> rfl

theorem active_of_finishSend {now later : Time} {rows : SendRows} {message : String}
    {outcome : PostOutcome}
    (active : (finishSend settings str now later rows message outcome).1.installation.active = true) :
    rows.installation.active = true := by
  unfold finishSend at active
  split at active
  · next failure _ =>
    unfold markDeliveryFailure at active
    obtain ⟨enabled, registered, valid⟩ := active_iff.mp active
    cases invalid : failure.invalidToken <;> simp [invalid] at enabled valid
    exact active_iff.mpr ⟨enabled, registered, valid⟩
  · exact active

theorem fades_sendTestPush (key : Int × Nat) (answer : SendAnswer) (db : PushDb) :
    Fades db (sendTestPush settings str key answer db) := by
  unfold sendTestPush
  split
  · exact .refl db
  split
  · exact .refl db
  next i found =>
  split
  · exact .refl db
  · exact fades_setInstallation found (finishSend_token settings str)
      (fun active => active_of_finishSend settings str active)

variable (call : NewVideo)

theorem fades_sendDelivery {w : PushWorld} {key : Int × Nat} {i : MobilePushInstallation}
    (delivery : MobilePushDelivery) (answer : SendAnswer)
    (found : w.db.installations.get key = some i) :
    Fades w.db (sendDelivery settings str call w i delivery answer).db := by
  obtain rfl : i.key = key := Table.key_of_get found
  have begun : (w.db.setInstallation i.key
      (SendRows.begin answer.now ⟨delivery.toDeliveryState, i⟩).installation).installations.get i.key
        = some (SendRows.begin answer.now ⟨delivery.toDeliveryState, i⟩).installation :=
    (@get_setInstallation _ _ i.key
      (SendRows.begin answer.now ⟨delivery.toDeliveryState, i⟩).installation _ found rfl).trans
      (if_pos rfl)
  have first : Fades w.db (w.db.setInstallation i.key
      (SendRows.begin answer.now ⟨delivery.toDeliveryState, i⟩).installation) :=
    fades_setInstallation found rfl fun active => active
  have second := fades_setInstallation
    (i := (finishSend settings str answer.now answer.later
      (SendRows.begin answer.now ⟨delivery.toDeliveryState, i⟩) "New-video push notification sent."
      answer.outcome).1.installation)
    begun (finishSend_token settings str) (fun active => active_of_finishSend settings str active)
  exact (first.trans second).of_rows rfl rfl rfl

/-- A turn adds requests for its device, with the token it has. -/
theorem pushTurn_adds (answers : Int × Nat → SendAnswer) (w : PushWorld) (key : Int × Nat) :
    Fades w.db (pushTurn settings str call answers w key).db
      ∧ ∃ new, (pushTurn settings str call answers w key).requests = w.requests ++ new
        ∧ ∀ r ∈ new, r.call = call ∧ r.installation = key
          ∧ ∃ i, w.db.installations.get key = some i ∧ i.expoPushToken = r.payload.recipient := by
  have none : ∃ new : List PushRequest, w.requests = w.requests ++ new
      ∧ ∀ r ∈ new, r.call = call ∧ r.installation = key
        ∧ ∃ i, w.db.installations.get key = some i ∧ i.expoPushToken = r.payload.recipient :=
    ⟨[], (List.append_nil _).symm, fun _ mem => absurd mem List.not_mem_nil⟩
  unfold pushTurn
  split
  · exact ⟨.refl w.db, none⟩
  next i found =>
  split
  · exact ⟨.refl w.db, none⟩
  split
  · exact ⟨.refl w.db, none⟩
  split
  · exact ⟨.refl w.db, none⟩
  next delivery db created =>
  obtain ⟨-, row, installations, apart⟩ := delivery_of_getOrCreate created
  have kept : Fades w.db db := by
    refine ⟨fun _ i found active => ⟨i, installations ▸ found, active, rfl⟩, fun user => ?_,
      fun key => ?_⟩
    · unfold PushDb.setting
      rw [apart.settings]
    · unfold PushDb.explicit
      rw [apart.preferences]
  dsimp only
  split
  · exact ⟨kept, none⟩
  split
  · exact ⟨kept, none⟩
  have there : db.installations.get key = some i := installations ▸ found
  refine ⟨kept.trans (fades_sendDelivery settings str call (w := { w with db := db }) delivery
    (answers key) there), ?_⟩
  obtain ⟨sentDb, requests, -⟩ :=
    sendDelivery_spec settings str call (w := { w with db := db }) (answers key) there row
  refine ⟨_, requests, ?_⟩
  intro r mem
  rw [List.mem_singleton.mp mem]
  exact ⟨rfl, rfl, i, found, rfl⟩

/-- A stretch of a poll: the requests it adds were permitted when it began. -/
structure Adds (w w' : PushWorld) : Prop where
  fades : Fades w.db w'.db
  requests : ∃ new, w'.requests = w.requests ++ new ∧ ∀ r ∈ new, Permitted w.db r

theorem Adds.none {w w' : PushWorld} (fades : Fades w.db w'.db)
    (same : w'.requests = w.requests) : Adds w w' :=
  ⟨fades, [], by rw [same, List.append_nil], fun _ mem => absurd mem List.not_mem_nil⟩

theorem Adds.trans {w w' w'' : PushWorld} (h : Adds w w') (h' : Adds w' w'') : Adds w w'' where
  fades := h.fades.trans h'.fades
  requests := by
    obtain ⟨new, requests, permitted⟩ := h.requests
    obtain ⟨new', requests', permitted'⟩ := h'.requests
    refine ⟨new ++ new', by rw [requests', requests, List.append_assoc], ?_⟩
    intro r mem
    rcases List.mem_append.mp mem with first | second
    · exact permitted r first
    · exact h.fades.permitted (permitted' r second)

/-- The devices still to come are as they were when they were listed. -/
theorem fanout_adds (answers : Int × Nat → SendAnswer) (keys : List (Int × Nat)) (w : PushWorld)
    (distinct : keys.Nodup) (listed : ∀ key ∈ keys, Listed w.db call key)
    (switch : (w.db.setting call.userId).enabled = true)
    (channel : (w.db.explicit (call.userId, call.channel.id)).getD
      (w.db.setting call.userId).defaultForMonitoredChannels = true) :
    Adds w (keys.foldl (pushTurn settings str call answers) w) := by
  induction keys generalizing w with
  | nil => exact .none (.refl w.db) rfl
  | cons key keys ih =>
    obtain ⟨absent, distinct⟩ := List.nodup_cons.mp distinct
    obtain ⟨fades, new, requests, added⟩ := pushTurn_adds settings str call answers w key
    obtain ⟨apart, -⟩ := pushTurn_cases settings str call answers w key
    have first : Adds w (pushTurn settings str call answers w key) := by
      refine ⟨fades, new, requests, fun r mem => ?_⟩
      obtain ⟨event, device, i, found, token⟩ := added r mem
      obtain ⟨i', found', -, active⟩ := listed key List.mem_cons_self
      cases found.symm.trans found'
      exact ⟨⟨i, device ▸ found, active, token⟩, event ▸ switch, event ▸ channel⟩
    refine first.trans (ih _ distinct ?_ ?_ ?_)
    · intro other later
      obtain ⟨i, found, kept⟩ := listed other (List.mem_cons_of_mem _ later)
      have different : other ≠ key := by
        rintro rfl
        exact absent later
      exact ⟨i, (apart.installations other different).trans found, kept⟩
    · rw [fades.setting]
      exact switch
    · rw [fades.setting, fades.explicit]
      exact channel

theorem attempt_adds (answers : Int × Nat → SendAnswer) (w : PushWorld) :
    Adds w (attemptNewVideoPush settings str call answers w) := by
  have fades := fades_getOrCreate w.db call.userId
  obtain ⟨stored, -⟩ := getOrCreateGlobalSettings_spec w.db call.userId
  unfold attemptNewVideoPush
  split
  · exact .none (.refl w.db) rfl
  split
  · exact .none (.refl w.db) rfl
  dsimp only
  split
  · exact .none fades rfl
  split
  · next chosen =>
    have own : (getOrCreateGlobalSettings w.db call.userId).1.userId = call.userId :=
      Table.key_of_get stored
    obtain ⟨enabled, -, wants⟩ := (channelPush_iff own).mp chosen
    have setting : (getOrCreateGlobalSettings w.db call.userId).2.setting call.userId
        = (getOrCreateGlobalSettings w.db call.userId).1 := by
      unfold PushDb.setting
      rw [stored]
      rfl
    refine Adds.trans
      (.none fades rfl : Adds w { w with db := (getOrCreateGlobalSettings w.db call.userId).2 })
      (fanout_adds settings str call answers _ _ Table.select_nodup
        (fun key listed => mem_recipients.mp listed) ?_ ?_)
    · rw [setting]
      exact enabled
    · rw [setting]
      unfold PushDb.wants at wants
      unfold PushDb.explicit
      rw [own] at wants
      cases preference : (getOrCreateGlobalSettings w.db call.userId).2.preferences.get
          (call.userId, call.channel.id) with
      | none =>
        rw [preference] at wants
        exact wants
      | some p =>
        rw [preference] at wants
        by_cases explicit : p.explicitlySet = true
        · simpa [explicit] using wants
        · simpa [explicit] using wants
  · exact .none fades rfl

end sends

/-! Runs. -/

section runs

variable {past : List PushOp} {db db' : PushDb} {op : PushOp}

/-- Whoever says nothing leaves the last words as they are. -/
theorem Records.silent (records : Records past db) (fades : Fades db db')
    (device : ∀ key, op.device key = none) (switch : ∀ user, op.switch user = none)
    (default : ∀ user, op.default user = none) (channel : ∀ key, op.channel key = none) :
    Records (past ++ [op]) db' where
  device key i found active :=
    (lastWord_silent (device key)).trans ((fades.records records).device key i found active)
  switch user := by
    rw [lastWord_silent (switch user)]
    exact (fades.records records).switch user
  default user := by
    rw [lastWord_silent (default user)]
    exact (fades.records records).default user
  channel key := by
    rw [lastWord_silent (channel key)]
    exact (fades.records records).channel key

theorem Records.register {registration : Registration} (now : Time) (records : Records past db) :
    Records (past ++ [.register registration now]) (registerInstallation db registration now) := by
  have opened := (fades_getOrCreate db registration.userId).records records
  refine ⟨fun key i found active => ?_, fun user => ?_, fun user => ?_, fun key => ?_⟩
  · have looked := @Table.get_upsert _ _ _ _
      (getOrCreateGlobalSettings db registration.userId).2.installations
      (registration.userId, registration.installationId) key (registration.fresh now)
      (registration.renew now) (fun _ => rfl) rfl
    have found := looked.symm.trans found
    by_cases here : key = (registration.userId, registration.installationId)
    · rw [if_pos here] at found
      have token : i.expoPushToken = registration.expoPushToken := by
        cases old : (getOrCreateGlobalSettings db registration.userId).2.installations.get
            (registration.userId, registration.installationId) with
        | none =>
          rw [old] at found
          cases found
          rfl
        | some stored =>
          rw [old] at found
          cases found
          rfl
      rw [token]
      exact lastWord_said (if_pos here)
    · rw [if_neg here] at found
      have silent : (PushOp.register registration now).device key = none := if_neg here
      exact (lastWord_silent silent).trans (opened.device key i found active)
  · rw [lastWord_silent rfl]
    exact opened.switch user
  · rw [lastWord_silent rfl]
    exact opened.default user
  · rw [lastWord_silent rfl]
    exact opened.channel key

theorem Records.unregister (key : Int × Nat) (now : Time) (records : Records past db) :
    Records (past ++ [.unregister key now]) (unregisterInstallation db key now) := by
  refine ⟨fun key' i found active => ?_, fun user => ?_, fun user => ?_, fun key' => ?_⟩
  · have looked := @Table.get_alter _ _ _ _ db.installations key key'
      (fun i => { i with enabled := false, unregisteredAt := some now }) (fun _ => rfl)
    have found := looked.symm.trans found
    by_cases here : key' = key
    · rw [if_pos here] at found
      obtain ⟨old, -, rfl⟩ := Option.map_eq_some_iff.mp found
      cases active
    · rw [if_neg here] at found
      have silent : (PushOp.unregister key now).device key' = none := if_neg here
      exact (lastWord_silent silent).trans (records.device key' i found active)
  · rw [lastWord_silent rfl]
    exact records.switch user
  · rw [lastWord_silent rfl]
    exact records.default user
  · rw [lastWord_silent rfl]
    exact records.channel key'

theorem setting_updateGlobalSettings (db : PushDb) (userId : Int) (enabled default : Option Bool)
    (now : Time) (user : Int) : (updateGlobalSettings db userId enabled default now).setting user
      = if user = userId then (db.setting user).update enabled default now else db.setting user := by
  rw [← (fades_getOrCreate db userId).setting user]
  obtain ⟨stored, -⟩ := getOrCreateGlobalSettings_spec db userId
  have looked := @Table.get_alter _ _ _ _ (getOrCreateGlobalSettings db userId).2.settings userId
    user (·.update enabled default now) (fun _ => rfl)
  refine (congrArg (·.getD (newSetting user)) looked).trans ?_
  unfold PushDb.setting
  by_cases here : user = userId
  · subst here
    rw [if_pos rfl, if_pos rfl, stored]
    rfl
  · rw [if_neg here, if_neg here]

theorem Records.updateSettings (userId : Int) (enabled default : Option Bool) (now : Time)
    (records : Records past db) :
    Records (past ++ [.updateSettings userId enabled default now])
      (updateGlobalSettings db userId enabled default now) := by
  have opened := (fades_getOrCreate db userId).records records
  refine ⟨fun key i found active => ?_, fun user => ?_, fun user => ?_, fun key => ?_⟩
  · exact (lastWord_silent rfl).trans (opened.device key i found active)
  · rw [setting_updateGlobalSettings, lastWord_concat]
    by_cases here : user = userId
    · rw [if_pos here]
      simp only [PushOp.switch, if_pos here, MobilePushSetting.update, records.switch]
      cases enabled <;> rfl
    · rw [if_neg here]
      simp only [PushOp.switch, if_neg here, Option.none_or]
      exact records.switch user
  · rw [setting_updateGlobalSettings, lastWord_concat]
    by_cases here : user = userId
    · rw [if_pos here]
      simp only [PushOp.default, if_pos here, MobilePushSetting.update, records.default]
      cases default <;> rfl
    · rw [if_neg here]
      simp only [PushOp.default, if_neg here, Option.none_or]
      exact records.default user
  · rw [lastWord_silent rfl]
    exact opened.channel key

theorem Records.updatePreference (userId channelId : Int) (pushEnabled : Bool)
    (records : Records past db) :
    Records (past ++ [.updatePreference userId channelId pushEnabled])
      (updateChannelPreference db userId channelId pushEnabled) := by
  have opened := (fades_getOrCreate db userId).records records
  refine ⟨fun key i found active => ?_, fun user => ?_, fun user => ?_, fun key => ?_⟩
  · exact (lastWord_silent rfl).trans (opened.device key i found active)
  · rw [lastWord_silent rfl]
    exact opened.switch user
  · rw [lastWord_silent rfl]
    exact opened.default user
  · have looked : (updateChannelPreference db userId channelId pushEnabled).preferences.get key = _ :=
      @Table.get_upsert _ _ _ _ (getOrCreateGlobalSettings db userId).2.preferences
        (userId, channelId) key ⟨userId, channelId, pushEnabled, true⟩
        (fun p => { p with pushEnabled := pushEnabled, explicitlySet := true }) (fun _ => rfl) rfl
    unfold PushDb.explicit
    rw [looked]
    by_cases here : key = (userId, channelId)
    · have said : (PushOp.updatePreference userId channelId pushEnabled).channel key
          = some pushEnabled := if_pos here
      rw [if_pos here, lastWord_said said]
      cases (getOrCreateGlobalSettings db userId).2.preferences.get (userId, channelId) <;> rfl
    · have silent : (PushOp.updatePreference userId channelId pushEnabled).channel key = none :=
        if_neg here
      rw [if_neg here, lastWord_silent silent]
      exact opened.channel key

/-- The rows hold the last words after every step, and what a step sends was permitted
when it began. -/
theorem step_consent (str : Json → String) (w : PushWorld) (op : PushOp)
    (records : Records past w.db) :
    Records (past ++ [op]) (pushStep str w op).db
      ∧ ∃ new, (pushStep str w op).requests = w.requests ++ new ∧ ∀ r ∈ new, Permitted w.db r := by
  have quiet : ∃ new : List PushRequest, w.requests = w.requests ++ new
      ∧ ∀ r ∈ new, Permitted w.db r :=
    ⟨[], (List.append_nil _).symm, fun _ mem => absurd mem List.not_mem_nil⟩
  cases op with
  | poll settings calls =>
    have adds (w : PushWorld) : Adds w (pushStep str w (.poll settings calls)) := by
      simp only [pushStep]
      induction calls generalizing w with
      | nil => exact .none (.refl w.db) rfl
      | cons call calls ih => exact (attempt_adds settings str call.1 call.2 w).trans (ih _)
    exact ⟨records.silent (adds w).fades (fun _ => rfl) (fun _ => rfl) (fun _ => rfl) (fun _ => rfl),
      (adds w).requests⟩
  | rolledBack =>
    exact ⟨records.silent (.refl w.db) (fun _ => rfl) (fun _ => rfl) (fun _ => rfl) (fun _ => rfl), quiet⟩
  | register registration now => exact ⟨records.register now, quiet⟩
  | unregister installation now => exact ⟨records.unregister installation now, quiet⟩
  | updateSettings userId enabled default now =>
    exact ⟨records.updateSettings userId enabled default now, quiet⟩
  | updatePreference userId channelId pushEnabled =>
    exact ⟨records.updatePreference userId channelId pushEnabled, quiet⟩
  | testPush settings installation answer =>
    exact ⟨records.silent (fades_sendTestPush settings str installation answer w.db)
      (fun _ => rfl) (fun _ => rfl) (fun _ => rfl) (fun _ => rfl), quiet⟩

end runs

/-- Nobody has registered, and nothing is set. -/
def noRows : PushDb := ⟨.empty, .empty, .empty, .empty⟩

theorem records_noRows : Records [] noRows where
  device _ _ found := by cases found
  switch _ := rfl
  default _ := rfl
  channel _ := rfl

theorem run_records (str : Json → String) (past : List PushOp) :
    Records past (runPush str past ⟨noRows, []⟩).db := by
  induction past using List.reverseRecOn with
  | nil => exact records_noRows
  | append_singleton past op ih =>
    unfold runPush
    rw [List.foldl_append]
    exact (step_consent str _ op ih).1

/-- Over every history a request for a new video leaves only to a device whose last word
was to register, with the token it registered last, for a user whose last word was to
turn push on and whose last word of the channel, or else of channels in general, was not
no. -/
theorem pushed_by_consent (str : Json → String) (past : List PushOp) (op : PushOp) :
    ∃ new, (runPush str (past ++ [op]) ⟨noRows, []⟩).requests
        = (runPush str past ⟨noRows, []⟩).requests ++ new
      ∧ ∀ r ∈ new, Consented past r := by
  have records := run_records str past
  obtain ⟨new, requests, permitted⟩ :=
    (step_consent str (runPush str past ⟨noRows, []⟩) op records).2
  refine ⟨new, ?_, fun r mem => records.consented (permitted r mem)⟩
  unfold runPush at requests ⊢
  rw [List.foldl_append]
  exact requests

end YTPipe.Push
