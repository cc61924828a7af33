import YTPipe.Polling.Runs

/-!
# The silent baseline

A run tells a user only of videos it finds at the head of a playlist. What it
may find is a condition on the playlists; under it, nothing that was in a
channel's playlist when its baseline was established is ever told.
-/

namespace YTPipe.Polling

open Proc

/-- An event that tells a user of a video, or begins its processing. -/
def PollEvent.tells (userId : Int) (id : String) : PollEvent → Prop
  | .email d _ => d.userId = userId ∧ d.videoId = id
  | .push user video => user = userId ∧ video = id
  | .staged key => key.1 = userId ∧ key.2.1 = id
  | _ => False

/-- A user has not been told of the videos in `quiet`, and no delivery is there
to tell of one. -/
structure Silent (userId : Int) (quiet : String → Prop) (f : Facts) : Prop where
  durable : ∀ id, quiet id → f.db.durable.deliveries.get (userId, id) = none
  flushed : ∀ id, quiet id → f.db.flushed.deliveries.get (userId, id) = none
  current : ∀ id, quiet id → f.db.current.deliveries.get (userId, id) = none
  untold : ∀ e ∈ f.trace, ∀ id, quiet id → ¬ e.tells userId id

/-- The copies of a user's channel. -/
structure Rows where
  durable : Option UserChannel
  flushed : Option UserChannel
  current : Option UserChannel

def rows (key : Int × Int) (f : Facts) : Rows where
  durable := f.db.durable.userChannels.get key
  flushed := f.db.flushed.userChannels.get key
  current := f.db.current.userChannels.get key

/-- A property of the copies of a channel that flushes and commits keep. -/
structure Settles (Q : Rows → Prop) : Prop where
  flush : ∀ r : Rows, Q r → Q { r with flushed := r.current }
  commit : ∀ r : Rows, Q r → Q ⟨r.current, r.current, r.current⟩

/-- Silence, with what is known of a channel and of YouTube. -/
def Calm (userId : Int) (quiet : String → Prop) (key : Int × Int) (remote : Int → Playlist)
    (Q : Rows → Prop) (f : Facts) : Prop :=
  Silent userId quiet f ∧ f.remote = remote ∧ Q (rows key f)

section calm

variable {platform : PollPlatform} {config : PollConfig} {userId : Int} {quiet : String → Prop}
  {key : Int × Int} {remote : Int → Playlist} {Q : Rows → Prop}

theorem Silent.edit {f : Facts} {g : Db → Db} (h : Silent userId quiet f)
    (same : ∀ id, quiet id → f.db.current.deliveries.get (userId, id) = none →
      (g f.db.current).deliveries.get (userId, id) = none) : Silent userId quiet (f.edit g) :=
  ⟨h.durable, h.flushed, fun id hid => same id hid (h.current id hid), h.untold⟩

theorem Silent.note {f : Facts} {e : PollEvent} (h : Silent userId quiet f)
    (untold : ∀ id, quiet id → ¬ e.tells userId id) : Silent userId quiet (f.note e) := by
  refine ⟨h.durable, h.flushed, h.current, fun e' he => ?_⟩
  rcases List.mem_cons.mp he with rfl | he
  · exact untold
  · exact h.untold e' he

theorem Silent.flush {f : Facts} (h : Silent userId quiet f) : Silent userId quiet f.flush :=
  ⟨h.durable, h.current, h.current, h.untold⟩

theorem Silent.commit {f : Facts} (h : Silent userId quiet f) : Silent userId quiet f.commit :=
  Silent.note (f := { f with db := f.db.commit }) ⟨h.current, h.current, h.current, h.untold⟩
    fun _ _ => id

theorem Silent.rollback {f : Facts} (h : Silent userId quiet f) : Silent userId quiet f.rollback :=
  Silent.note (f := { f with db := f.db.rollback }) ⟨h.durable, h.durable, h.durable, h.untold⟩
    fun _ _ => id

/-- Writing a row that is there adds no delivery. -/
theorem setDelivery_none {db : Db} {d : NotificationDelivery} {k : Int × String}
    (absent : db.deliveries.get k = none) : (db.setDelivery d).deliveries.get k = none := by
  rw [Db.setDelivery, Table.get_alter]
  split
  · rw [absent]
    rfl
  · exact absent

theorem calm_edit {g : Db → Db} {f : Facts} (h : Calm userId quiet key remote Q f)
    (same : (g f.db.current).deliveries = f.db.current.deliveries
      ∧ (g f.db.current).userChannels = f.db.current.userChannels) :
    Calm userId quiet key remote Q (f.edit g) := by
  obtain ⟨silent, hr, hq⟩ := h
  refine ⟨silent.edit fun id hid absent => by rw [same.1]; exact absent, hr, ?_⟩
  have copies : rows key (f.edit g) = rows key f := by
    simp only [rows, Facts.edit, Instance.modify, same.2]
  rw [copies]
  exact hq

theorem calm_note {e : PollEvent} {f : Facts} (h : Calm userId quiet key remote Q f)
    (untold : ∀ id, quiet id → ¬ e.tells userId id) : Calm userId quiet key remote Q (f.note e) :=
  ⟨h.1.note untold, h.2⟩

theorem closed_calm (settles : Settles Q) : Closed (Calm userId quiet key remote Q) where
  flush _ h := ⟨h.1.flush, h.2.1, settles.flush _ h.2.2⟩
  commit _ h := ⟨h.1.commit, h.2.1, settles.commit _ h.2.2⟩
  stage f row h := by
    obtain ⟨_, same⟩ := putStage_others f.db.current row
    exact calm_edit h (by rw [same]; exact ⟨rfl, rfl⟩)
  quota _ _ h := calm_edit h ⟨rfl, rfl⟩
  request _ _ h := calm_note h fun _ _ => id
  count _ _ h := ⟨⟨h.1.durable, h.1.flushed, h.1.current, h.1.untold⟩, h.2⟩
  video _ _ _ _ _ h := calm_edit h ⟨rfl, rfl⟩
  addVideo _ _ _ _ _ h := calm_edit h ⟨rfl, rfl⟩

theorem calm_setDelivery (d : NotificationDelivery) :
    Kept (Calm userId quiet key remote Q) (setDelivery d) :=
  kept_edit fun _ h => ⟨h.1.edit fun _ _ absent => setDelivery_none absent, h.2⟩

theorem calm_skipDelivery (d : NotificationDelivery) :
    Kept (Calm userId quiet key remote Q) (skipDelivery d) := by
  unfold skipDelivery
  refine Kept.bind (calm_setDelivery _) fun _ => kept_emit fun s t hs => ?_
  exact calm_note (f := ⟨s.db, s.remote, s.quota, t⟩) (e := .skipped d.key) hs fun _ _ => id

/-- A send is for a delivery that is there, so for no quiet video. -/
theorem calm_attemptDeliverySend (k : Int × String) (isRetry : Bool) :
    Kept (Calm userId quiet key remote Q) (attemptDeliverySend config k isRetry) := by
  unfold attemptDeliverySend
  intro w hw
  rw [wp_bind, wp_inMemory]
  cases found : w.state.db.current.deliveries.get k with
  | none => exact hw
  | some delivery =>
    have own : delivery.key = k := Table.key_of_get found
    have other : ∀ o id, quiet id → ¬ (PollEvent.email delivery o).tells userId id := by
      rintro o id hid ⟨rfl, rfl⟩
      have absent := hw.1.current _ hid
      rw [show (delivery.userId, delivery.videoId) = k from own] at absent
      cases absent.symm.trans found
    refine Kept.ite (J := Calm userId quiet key remote Q) (fun _ => ?_)
      (fun _ => calm_skipDelivery delivery) w hw
    refine Kept.bind kept_utcNow fun attemptedAt => ?_
    refine Kept.bind (kept_exchange fun s t answer hs => ?_) fun outcome => calm_setDelivery _
    exact calm_note (f := ⟨s.db, s.remote, s.quota, t⟩) hs (other answer)

theorem calm_sweepDeliveries (status : DeliveryStatus) (n user : Int) (isRetry : Bool) :
    Kept (Calm userId quiet key remote Q) (sweepDeliveries config status n isRetry user) := by
  unfold sweepDeliveries
  exact Kept.bind kept_visible fun db => Kept.forM fun k _ => calm_attemptDeliverySend k isRetry

theorem calm_skipDisabledShortWork (settles : Settles Q) (user : Int) :
    Kept (Calm userId quiet key remote Q) (skipDisabledShortWork config user) := by
  unfold skipDisabledShortWork
  refine Kept.bind (kept_pipelineWork (closed_calm settles).toStored) fun _ => ?_
  refine kept_skipDisabledShortDeliveries (fun f d h => ?_) (fun f k h => ?_) user
  · exact ⟨h.1.edit fun _ _ absent => setDelivery_none absent, h.2⟩
  · exact calm_note h fun _ _ => id

/-- What is done for a video that is not quiet. -/
theorem calm_announceVideo (settles : Settles Q) {user : Int} {id : String}
    (loud : ¬ (user = userId ∧ quiet id)) :
    Kept (Calm userId quiet key remote Q) (announceVideo config user id) := by
  have other : ∀ v, quiet v → ¬ (user = userId ∧ id = v) := by
    rintro v hv ⟨rfl, rfl⟩
    exact loud ⟨rfl, hv⟩
  unfold announceVideo
  refine Kept.bind (Kept.when fun _ => ?_) fun _ => Kept.bind ?_ fun _ => Kept.bind ?_ fun _ => ?_
  · refine kept_createStagesForVideo (fun f list db _ added hf => ?_) fun f name hf => ?_
    · obtain ⟨_, rfl⟩ := addStages_others added
      exact (closed_calm settles).flush _ (calm_edit hf ⟨rfl, rfl⟩)
    · exact calm_note hf other
  · unfold getOrCreateDelivery
    refine Kept.bind kept_visible fun db => ?_
    cases db.deliveries.get (user, id) with
    | some _ => exact Kept.pure _
    | none =>
      refine kept_addAndFlush fun f db added hf => (closed_calm settles).flush _ ?_
      simp only [Option.bind_eq_bind, Option.bind_eq_some_iff, Option.pure_def,
        Option.some.injEq] at added
      obtain ⟨deliveries, inserted, rfl⟩ := added
      refine ⟨hf.1.edit fun v hv absent => ?_, hf.2⟩
      change deliveries.get (userId, v) = _
      rw [Table.get_insert inserted, if_neg]
      · exact absent
      · intro same
        obtain ⟨rfl, rfl⟩ := Prod.mk.injEq .. ▸ same
        exact other _ hv ⟨rfl, rfl⟩
  · unfold attemptInitialDeliverySend
    refine Kept.bind kept_inMemory fun db => ?_
    cases db.deliveries.get (user, id) with
    | none => exact Kept.pure _
    | some d => exact Kept.ite (fun _ => Kept.pure _) fun _ => calm_attemptDeliverySend _ _
  · unfold attemptNewVideoPush
    refine Kept.when fun _ => Kept.bind (kept_emit fun s t hs => ?_) fun _ => ?_
    · exact calm_note (f := ⟨s.db, s.remote, s.quota, t⟩) (e := .push user id) hs other
    · exact Kept.bind (kept_attempt (kept_mayFlush (closed_calm settles).flush)) fun _ => Kept.pure _

/-! A channel's turn. -/

/-- The id of the first upload of a playlist. -/
def headId (p : Playlist) : Option String := p.flatten.head?.bind (·.videoId)

/-- The upload a poll looks at is the first one. -/
theorem wp_fetchLatestUpload {J : Facts → Prop} (request : ∀ f q, J f → J (f.note (.request q)))
    {channel : Channel} {w : PollWorld} (start : J (facts w)) :
    wp (fetchLatestUpload platform channel)
      (fun latest u => J (facts u) ∧ latest.videoId = headId (w.state.remote channel.id))
      (fun u => J (facts u)) w := by
  unfold fetchLatestUpload
  split
  · exact start
  · rw [wp_bind]
    have fixed : Kept (fun f => J f ∧ f.remote = w.state.remote) (Polling.request viewAnswered) :=
      kept_request fun f q hf => ⟨request f q hf.1, hf.2⟩
    refine wp_mono (fixed w ⟨start, rfl⟩) (fun answer u hu => ?_) fun _ hu => hu.1
    obtain ⟨hu, same⟩ := hu
    cases answer with
    | error e =>
      obtain ⟨unusable, message⟩ := e
      cases unusable <;> exact hu
    | ok =>
      rw [wp_bind, wp_read, show u.state.remote = w.state.remote from same]
      unfold headId
      cases (w.state.remote channel.id).flatten.head? with
      | none => exact ⟨hu, rfl⟩
      | some item =>
        simp only [Option.bind_some]
        split
        · exact hu
        · exact ⟨hu, rfl⟩

/-- The turn of a channel that may not be told of a quiet video. `Q` holds of
the row's copies up to its write, `Q'` after it. -/
theorem wp_pollChannel {Q' : Rows → Prop} {user : Int} {now : Time} {row : UserChannel}
    {w : PollWorld} (settles : Settles Q) (weaken : ∀ r, Q r → Q' r)
    (loud : row.baselineEstablishedAt.isSome → ∀ id, headId (remote row.channel.id) = some id →
      row.lastSeenVideoId ≠ some id → ¬ (user = userId ∧ quiet id))
    (write : ∀ f (row' : UserChannel), row'.key = row.key → row'.baselineEstablishedAt.isSome →
      Calm userId quiet key remote Q f →
      Calm userId quiet key remote Q' (f.edit (·.setChannel row')))
    (start : Calm userId quiet key remote Q (facts w)) :
    wp (pollChannel platform config user now row)
      (fun _ u => Calm userId quiet key remote Q' (facts u))
      (fun u => Calm userId quiet key remote Q' (facts u)) w := by
  have closed : Closed (Calm userId quiet key remote Q) := closed_calm settles
  have weak : ∀ f, Calm userId quiet key remote Q f → Calm userId quiet key remote Q' f :=
    fun _ h => ⟨h.1, h.2.1, weaken _ h.2.2⟩
  have tail : ∀ (row' : UserChannel) (g : Tally → Tally) (u : PollWorld), row'.key = row.key →
      row'.baselineEstablishedAt.isSome → Calm userId quiet key remote Q (facts u) →
      wp (do setChannel row'; setTally g) (fun _ u => Calm userId quiet key remote Q' (facts u))
        (fun u => Calm userId quiet key remote Q' (facts u)) u := by
    intro row' g u own established hu
    exact write (facts u) row' own established hu
  unfold pollChannel
  rw [wp_bind]
  refine wp_mono (Kept.when (J := Calm userId quiet key remote Q)
      (fun _ => kept_setQuota closed.count _) w start)
    (fun _ u hu => ?_) fun _ h => weak _ h
  rw [wp_bind]
  refine wp_mono (wp_fetchLatestUpload closed.request hu) (fun latest u' hu' => ?_)
    fun _ h => weak _ h
  obtain ⟨hu', head⟩ := hu'
  rw [show u.state.remote = remote from hu.2.1] at head
  by_cases first : row.baselineEstablishedAt.isNone
  · rw [if_pos first]
    exact tail _ _ u' rfl rfl hu'
  · rw [if_neg first]
    have established : row.baselineEstablishedAt.isSome := by
      cases hb : row.baselineEstablishedAt with
      | none => exact absurd (by rw [hb]; rfl) first
      | some t => rfl
    by_cases known : latest.videoId.isNone ∨ latest.videoId = row.lastSeenVideoId
    · rw [if_pos known]
      exact weak _ hu'
    · rw [if_neg known]
      obtain ⟨id, named⟩ : ∃ id, latest.videoId = some id := by
        cases hv : latest.videoId with
        | none => exact absurd (.inl (by rw [hv]; rfl)) known
        | some id => exact ⟨id, rfl⟩
      have new : ¬ (user = userId ∧ quiet id) :=
        loud established id (head ▸ named) fun same => known (.inr (named.trans same.symm))
      rw [wp_bind]
      refine wp_mono (wp_and (kept_getOrCreateVideo closed.toSaved closed.toStored.addUpload u' hu')
        getOrCreateVideo_id) (fun created v hv => ?_) fun _ h => weak _ h.1
      obtain ⟨hv, rfl⟩ := hv
      rw [named, Option.getD_some, wp_bind]
      refine wp_mono (kept_attemptDetectAndMarkShort closed.toTended id v hv) (fun _ v hv => ?_)
        fun _ h => weak _ h
      rw [wp_bind]
      refine wp_mono (kept_inMemory v hv) (fun db v hv => ?_) fun _ h => weak _ h
      rw [wp_bind]
      refine wp_mono (Kept.when (fun _ => calm_announceVideo settles new) v hv) (fun _ v hv => ?_)
        fun _ h => weak _ h
      exact tail _ _ v rfl established hv

/-- A turn, for a channel whose row is the one in memory. -/
theorem wp_pollChannelTurn {Q' : Rows → Prop} {user : Int} {now : Time} {k : Int × Int}
    {w : PollWorld} (settles : Settles Q) (weaken : ∀ r, Q r → Q' r)
    (loud : ∀ row, w.state.db.current.userChannels.get k = some row →
      row.baselineEstablishedAt.isSome → ∀ id, headId (remote k.2) = some id →
      row.lastSeenVideoId ≠ some id → ¬ (user = userId ∧ quiet id))
    (write : ∀ f (row : UserChannel), row.key = k → row.baselineEstablishedAt.isSome →
      Calm userId quiet key remote Q f → Calm userId quiet key remote Q' (f.edit (·.setChannel row)))
    (start : Calm userId quiet key remote Q (facts w)) :
    wp (pollChannelTurn platform config user now k)
      (fun _ u => Calm userId quiet key remote Q' (facts u))
      (fun u => Calm userId quiet key remote Q' (facts u)) w := by
  unfold pollChannelTurn
  rw [wp_bind, wp_inMemory]
  cases found : w.state.db.current.userChannels.get k with
  | none => exact ⟨start.1, start.2.1, weaken _ start.2.2⟩
  | some row =>
    obtain rfl : row.key = k := Table.key_of_get found
    simp only [wp_bind, wp_attempt]
    refine wp_mono (wp_pollChannel settles weaken (loud row found) write ?_) (fun _ u hu => hu)
      fun u hu => hu
    exact start

end calm

/-! A whole run. -/

def hasBaseline (row : Option UserChannel) : Bool := (row.bind (·.baselineEstablishedAt)).isSome

/-- The copies of a channel are as the run found them. -/
def AsFound (row : Option UserChannel) (r : Rows) : Prop :=
  r.durable = row ∧ r.flushed = row ∧ r.current = row

/-- The baseline the run found is there. -/
def Holding (row : Option UserChannel) (r : Rows) : Prop :=
  hasBaseline row = true → hasBaseline r.durable = true ∧ hasBaseline r.flushed = true
    ∧ hasBaseline r.current = true

section run

variable {platform : PollPlatform} {config : PollConfig} {userId : Int} {quiet : String → Prop}
  {key : Int × Int} {remote : Int → Playlist} {row : Option UserChannel} {user : Int}

theorem settles_found : Settles (AsFound row) where
  flush _ h := ⟨h.1, h.2.2, h.2.2⟩
  commit _ h := ⟨h.2.2, h.2.2, h.2.2⟩

theorem settles_holding : Settles (Holding row) where
  flush _ h := fun b => ⟨(h b).1, (h b).2.2, (h b).2.2⟩
  commit _ h := fun b => ⟨(h b).2.2, (h b).2.2, (h b).2.2⟩

theorem AsFound.holding {r : Rows} (h : AsFound row r) : Holding row r := by
  obtain ⟨durable, flushed, current⟩ := h
  intro b
  rw [durable, flushed, current]
  exact ⟨b, b, b⟩

/-- The write to a channel of another key. -/
theorem calm_write_other {Q : Rows → Prop} {f : Facts} {u : UserChannel} (apart : u.key ≠ key)
    (h : Calm userId quiet key remote Q f) :
    Calm userId quiet key remote Q (f.edit (·.setChannel u)) := by
  refine ⟨h.1.edit fun _ _ absent => absent, h.2.1, ?_⟩
  have copies : rows key (f.edit (·.setChannel u)) = rows key f := by
    have same : (f.db.current.setChannel u).userChannels.get key
        = f.db.current.userChannels.get key := by
      rw [Db.setChannel, Table.get_alter, if_neg fun same => apart same.symm]
    simp only [rows, Facts.edit, Instance.modify, same]
  rw [copies]
  exact h.2.2

/-- The write at the end of the channel's own turn. -/
theorem calm_write_own {f : Facts} {u : UserChannel} (own : u.key = key)
    (established : u.baselineEstablishedAt.isSome) (h : Calm userId quiet key remote (AsFound row) f) :
    Calm userId quiet key remote (Holding row) (f.edit (·.setChannel u)) := by
  refine ⟨h.1.edit fun _ _ absent => absent, h.2.1, fun b => ?_⟩
  obtain ⟨durable, flushed, current⟩ := h.2.2
  simp only [rows] at durable flushed current
  subst own
  simp only [rows, Facts.edit, Instance.modify, Db.setChannel, Table.get_alter, if_pos, durable,
    flushed, current]
  refine ⟨b, b, ?_⟩
  cases row with
  | none => exact b
  | some old => exact established

/-- The channel loop tells the user of no quiet video. -/
theorem wp_channelLoop {now : Time} {w : PollWorld} {ks : List (Int × Int)}
    (listed : ks = w.state.db.flushed.monitored user)
    (elsewhere : user = userId → ∀ c ≠ key.2, ∀ id, headId (remote c) = some id → ¬ quiet id)
    (here : user = userId → ∀ r, row = some r → r.isMonitored = true →
      r.baselineEstablishedAt.isSome → ∀ id, headId (remote key.2) = some id →
      r.lastSeenVideoId ≠ some id → ¬ quiet id)
    (own : key.1 = userId) (visible : w.state.db.flushed.userChannels.get key = row)
    {v : PollWorld} (start : Calm userId quiet key remote (AsFound row) (facts v)) :
    wp (ks.forM fun k => pollChannelTurn platform config user now k)
      (fun _ u => Calm userId quiet key remote (Holding row) (facts u))
      (fun u => Calm userId quiet key remote (Holding row) (facts u)) v := by
  have apart : ∀ k ∈ ks, k ≠ key → user = userId → k.2 ≠ key.2 := by
    intro k hk other here same
    obtain ⟨r, hr, monitored⟩ := Table.mem_select.mp (listed ▸ hk)
    simp only [Bool.and_eq_true, decide_eq_true_eq] at monitored
    refine other (Prod.ext ?_ same)
    rw [own, ← here, ← monitored.1, ← Table.key_of_get hr]
    rfl
  have others : ∀ {Q : Rows → Prop}, Settles Q → ∀ k ∈ ks, k ≠ key →
      Kept (Calm userId quiet key remote Q) (pollChannelTurn platform config user now k) := by
    intro Q settles k hk other u hu
    refine wp_pollChannelTurn settles (fun _ h => h) ?_ ?_ hu
    · rintro r - - id head - ⟨mine, hid⟩
      exact elsewhere mine _ (apart k hk other mine) id head hid
    · rintro f r rfl - hf
      exact calm_write_other other hf
  by_cases mine : key ∈ ks
  · obtain ⟨r, hr, monitored⟩ := Table.mem_select.mp (listed ▸ mine)
    simp only [Bool.and_eq_true, decide_eq_true_eq] at monitored
    have found : row = some r := visible.symm.trans hr
    refine wp_forM_once (fun u => Calm userId quiet key remote (AsFound row) (facts u))
      (fun u => Calm userId quiet key remote (Holding row) (facts u)) mine
      (listed ▸ Table.select_nodup) ?_ ?_ ?_ start
    · intro k hk other u hu
      exact wp_mono (others settles_found k hk other u hu) (fun _ _ h => h)
        fun _ h => ⟨h.1, h.2.1, h.2.2.holding⟩
    · intro u hu
      refine wp_pollChannelTurn settles_found (fun _ h => h.holding) ?_ ?_ hu
      · rintro r' current established id head changed ⟨mine, hid⟩
        obtain rfl : r' = r := by
          have same : w.state.db.flushed.userChannels.get key = some r' := by
            rw [visible, ← hu.2.2.2.2]
            exact current
          exact Option.some.inj (same.symm.trans hr)
        exact here mine r' found monitored.2 established id head changed hid
      · intro f r' own' established hf
        exact calm_write_own own' established hf
    · intro k hk other u hu
      exact others settles_holding k hk other u hu
  · have loop : Kept (Calm userId quiet key remote (AsFound row))
        (ks.forM fun k => pollChannelTurn platform config user now k) :=
      Kept.forM fun k hk => others settles_found k hk fun same => mine (same ▸ hk)
    exact wp_mono (loop v start) (fun _ _ h => ⟨h.1, h.2.1, h.2.2.holding⟩)
      fun _ h => ⟨h.1, h.2.1, h.2.2.holding⟩

theorem wp_runPoll {w : PollWorld}
    (elsewhere : user = userId → ∀ c ≠ key.2, ∀ id, headId (remote c) = some id → ¬ quiet id)
    (here : user = userId → ∀ r, row = some r → r.isMonitored = true →
      r.baselineEstablishedAt.isSome → ∀ id, headId (remote key.2) = some id →
      r.lastSeenVideoId ≠ some id → ¬ quiet id)
    (own : key.1 = userId) (start : Calm userId quiet key remote (AsFound row) (facts w)) :
    wp (runPoll platform config user)
      (fun _ u => Calm userId quiet key remote (Holding row) (facts u))
      (fun u => Calm userId quiet key remote (Holding row) (facts u)) w := by
  have found : Closed (Calm userId quiet key remote (AsFound row)) := closed_calm settles_found
  have holding : Closed (Calm userId quiet key remote (Holding row)) := closed_calm settles_holding
  have weak : ∀ f, Calm userId quiet key remote (AsFound row) f →
      Calm userId quiet key remote (Holding row) f := fun _ h => ⟨h.1, h.2.1, h.2.2.holding⟩
  have first : ∀ {α : Type} {p : PollProc α} {post : α → PollWorld → Prop} {u : PollWorld},
      Kept (Calm userId quiet key remote (AsFound row)) p →
      Calm userId quiet key remote (AsFound row) (facts u) →
      (∀ a x, Calm userId quiet key remote (AsFound row) (facts x) → post a x) →
      wp p post (fun x => Calm userId quiet key remote (Holding row) (facts x)) u :=
    fun hp hu next => wp_mono (hp _ hu) next fun _ h => weak _ h
  unfold runPoll
  rw [wp_bind]
  refine first kept_utcNow start fun now w start => ?_
  rw [wp_bind]
  refine first (kept_mayFlush found.flush) start fun _ w start => ?_
  rw [wp_bind]
  refine first (calm_skipDisabledShortWork settles_found user) start fun _ w start => ?_
  rw [wp_bind]
  refine first kept_inMemory start fun db w start => ?_
  rw [wp_bind]
  refine first (kept_setQuota found.count _) start fun _ w start => ?_
  split
  · rw [wp_bind]
    refine first (kept_writeQuotaState found) start fun _ w start => ?_
    rw [wp_bind]
    exact first (kept_flush found.flush) start fun _ w start => weak _ start
  · rw [wp_bind]
    refine first (kept_mayFlush found.flush) start fun _ w start => ?_
    rw [wp_bind, wp_visible]
    have seen : w.state.db.flushed.userChannels.get key = row := start.2.2.2.1
    generalize listed : w.state.db.flushed.monitored user = ks
    rw [wp_bind]
    refine first (kept_pipelineWork found.toStored) start fun _ u start => ?_
    rw [wp_bind]
    refine first (kept_pipelineWork found.toStored) start fun _ u start => ?_
    rw [wp_bind]
    refine first (kept_pipelineWork found.toStored) start fun _ u start => ?_
    rw [wp_bind]
    refine first (calm_sweepDeliveries .pending 0 user false) start fun _ u start => ?_
    rw [wp_bind]
    refine first (calm_sweepDeliveries .pendingRetry 1 user true) start fun _ u start => ?_
    rw [wp_bind]
    refine wp_mono (wp_channelLoop listed.symm elsewhere here own seen start) (fun _ u start => ?_)
      fun _ h => h
    refine Kept.bind (kept_flush holding.flush) (fun _ => ?_) u start
    refine Kept.bind (kept_pipelineWork holding.toStored) fun _ => ?_
    refine Kept.bind (kept_pipelineWork holding.toStored) fun _ => ?_
    refine Kept.bind kept_read fun s => ?_
    refine Kept.bind (kept_writeQuotaState holding) fun _ => ?_
    exact Kept.bind (kept_flush holding.flush) fun _ => Kept.pure _

/-- A request tells the user of no quiet video. -/
theorem poll_calm (platform : PollPlatform) (request : PollRequest) {w : PollWorld}
    (elsewhere : request.userId = userId → ∀ c ≠ key.2, ∀ id,
      headId (w.state.remote c) = some id → ¬ quiet id)
    (here : request.userId = userId → ∀ r, w.state.db.durable.userChannels.get key = some r →
      r.isMonitored = true → r.baselineEstablishedAt.isSome → ∀ id,
      headId (w.state.remote key.2) = some id → r.lastSeenVideoId ≠ some id → ¬ quiet id)
    (own : key.1 = userId) (start : Silent userId quiet (facts w)) :
    Silent userId quiet (facts (poll platform request w))
      ∧ (poll platform request w).state.remote = w.state.remote
      ∧ (hasBaseline (w.state.db.durable.userChannels.get key) = true →
        hasBaseline ((poll platform request w).state.db.durable.userChannels.get key) = true) := by
  let after := Calm userId quiet key w.state.remote
    (Holding (w.state.db.durable.userChannels.get key))
  have closed : Closed after := closed_calm settles_holding
  have back : ∀ u, after (facts u) → after (facts (abandon u)) := fun u h =>
    ⟨h.1.rollback, h.2.1, fun b => ⟨(h.2.2 b).1, (h.2.2 b).1, (h.2.2 b).1⟩⟩
  suffices result : after (facts (poll platform request w)) from
    ⟨result.1, result.2.1, fun b => (result.2.2 b).1⟩
  apply poll_of_wp (P := fun u => after (facts u))
  unfold runPollRoute
  rw [wp_bind, wp_openSession, wp_bind, wp_attempt, wp_bind]
  have fails : ∀ u : PollWorld, after (facts u) →
      wp (do rollback; flush; commit; return (none : Option PollRunSummary))
        (fun _ x => after (facts x)) (fun x => after (facts (abandon x))) u := by
    intro u hu
    rw [wp_bind, wp_rollback]
    refine wp_mono (Kept.bind (kept_flush closed.flush) (fun _ =>
      Kept.bind (kept_commit closed.commit) fun _ => Kept.pure _) _ (back u hu)) (fun _ _ h => h)
      fun x h => back x h
  have opened : Silent userId quiet (facts { w with
      state := w.state.opened, replies := request.replies, trace := .started :: w.trace }) :=
    Silent.note (e := .started) (f := ⟨w.state.opened.db, w.state.remote, w.state.quota, w.trace⟩)
      ⟨start.durable, start.durable, start.durable, start.untold⟩ fun _ _ => id
  refine wp_mono (wp_runPoll elsewhere here own ⟨opened, rfl, rfl, rfl, rfl⟩)
    (fun summary u hu => ?_) fails
  rw [wp_bind]
  exact wp_mono (kept_commit closed.commit u hu) (fun _ _ h => h) fails

end run

/-! Histories. -/

/-- A video is in the playlist of the channel that owns it, if in any. -/
def Owned (owner : String → Int) (remote : Int → Playlist) : Prop :=
  ∀ c, ∀ id ∈ ids (remote c), owner id = c

def PollStep.owned (owner : String → Int) : PollStep → Prop
  | .poll _ => True
  | .youtube remote => Owned owner remote

/-- A poll of a channel with a baseline finds a video of `base` at the head of
its playlist only where it is the remembered one. -/
def Undisturbed (key : Int × Int) (base : List String) (w : PollWorld) (request : PollRequest) :
    Prop :=
  request.userId = key.1 → ∀ r, w.state.db.durable.userChannels.get key = some r →
    r.isMonitored = true → r.baselineEstablishedAt.isSome → ∀ id ∈ base,
    headId (w.state.remote key.2) = some id → r.lastSeenVideoId = some id

section histories

variable {platform : PollPlatform} {owner : String → Int} {key : Int × Int}

theorem mem_ids_of_head {p : Playlist} {id : String} (h : headId p = some id) : id ∈ ids p := by
  unfold headId at h
  obtain ⟨item, head, named⟩ := Option.bind_eq_some_iff.mp h
  exact List.mem_filterMap.mpr ⟨item, List.mem_of_mem_head? head, named⟩

theorem Owned.elsewhere {remote : Int → Playlist} (owned : Owned owner remote) :
    ∀ c ≠ key.2, ∀ id, headId (remote c) = some id → ¬ owner id = key.2 :=
  fun c other id head same => other ((owned c id (mem_ids_of_head head)).symm.trans same)

theorem Silent.mono {userId : Int} {quiet quiet' : String → Prop} {f : Facts}
    (h : Silent userId quiet f) (fewer : ∀ id, quiet' id → quiet id) : Silent userId quiet' f :=
  ⟨fun id hid => h.durable id (fewer id hid), fun id hid => h.flushed id (fewer id hid),
    fun id hid => h.current id (fewer id hid), fun e he id hid => h.untold e he id (fewer id hid)⟩

theorem Silent.youtube {userId : Int} {quiet : String → Prop} {w : PollWorld}
    (h : Silent userId quiet (facts w)) (remote : Int → Playlist) :
    Silent userId quiet (facts (pollStep platform w (.youtube remote))) :=
  ⟨h.durable, h.flushed, h.current, h.untold⟩

/-- A baseline is never lost. -/
theorem baseline_kept (steps : List PollStep) {w : PollWorld}
    (h : hasBaseline (w.state.db.durable.userChannels.get key) = true) :
    hasBaseline ((runPolls platform steps w).state.db.durable.userChannels.get key) = true := by
  apply runPolls_induction (P := fun u =>
    hasBaseline (u.state.db.durable.userChannels.get key) = true) _ h
  intro s _ v hv
  cases s with
  | youtube remote => exact hv
  | poll request =>
    have silent : Silent key.1 (fun _ => False) (facts v) :=
      ⟨nofun, nofun, nofun, fun _ _ _ no => no.elim⟩
    exact (poll_calm platform request (fun _ _ _ _ _ no => no) (fun _ _ _ _ _ _ _ _ no => no) rfl
      silent).2.2 hv

/-- Up to a state without the baseline, the user was told of no video of the
channel. -/
theorem silent_before {steps : List PollStep} {w : PollWorld} (own : Owned owner w.state.remote)
    (owned : ∀ s ∈ steps, s.owned owner) (start : Silent key.1 (owner · = key.2) (facts w))
    (unset : hasBaseline
      ((runPolls platform steps w).state.db.durable.userChannels.get key) = false) :
    Silent key.1 (owner · = key.2) (facts (runPolls platform steps w))
      ∧ Owned owner (runPolls platform steps w).state.remote := by
  induction steps generalizing w with
  | nil => exact ⟨start, own⟩
  | cons s steps ih =>
    have owned' : ∀ s ∈ steps, s.owned owner := fun s hs => owned s (List.mem_cons_of_mem _ hs)
    cases s with
    | youtube remote => exact ih (owned _ (List.mem_cons_self ..)) owned' (start.youtube remote) unset
    | poll request =>
      have none : ∀ r, w.state.db.durable.userChannels.get key = some r →
          ¬ r.baselineEstablishedAt.isSome := by
        intro r hr established
        have set : hasBaseline (w.state.db.durable.userChannels.get key) = true := by
          rw [hr]
          exact established
        rw [baseline_kept (.poll request :: steps) set] at unset
        cases unset
      obtain ⟨silent, same, -⟩ := poll_calm platform request
        (fun _ => own.elsewhere) (fun _ r hr _ established => absurd established (none r hr)) rfl start
      refine ih (w := poll platform request w) ?_ owned' silent unset
      rw [same]
      exact own

/-- After a state in which nothing of `base` was told, nothing of it is. -/
theorem silent_after {base : List String} {steps : List PollStep} {w : PollWorld}
    (own : Owned owner w.state.remote) (owned : ∀ s ∈ steps, s.owned owner)
    (mine : ∀ id ∈ base, owner id = key.2) (start : Silent key.1 (· ∈ base) (facts w))
    (undisturbed : ∀ earlier request later, steps = earlier ++ .poll request :: later →
      Undisturbed key base (runPolls platform earlier w) request) :
    Silent key.1 (· ∈ base) (facts (runPolls platform steps w)) := by
  induction steps generalizing w with
  | nil => exact start
  | cons s steps ih =>
    have owned' : ∀ s ∈ steps, s.owned owner := fun s hs => owned s (List.mem_cons_of_mem _ hs)
    have later : ∀ earlier request later, steps = earlier ++ .poll request :: later →
        Undisturbed key base (runPolls platform earlier (pollStep platform w s)) request :=
      fun earlier request later split =>
        undisturbed (s :: earlier) request later (by rw [split, List.cons_append])
    cases s with
    | youtube remote => exact ih (owned _ (List.mem_cons_self ..)) owned' (start.youtube remote) later
    | poll request =>
      obtain ⟨silent, same, -⟩ := poll_calm platform request
        (fun _ c other id head hid => own.elsewhere c other id head (mine id hid))
        (fun user r hr monitored established id head changed hid =>
          changed (undisturbed [] request steps rfl user r hr monitored established id hid head))
        rfl start
      refine ih (w := poll platform request w) ?_ owned' silent later
      rw [same]
      exact own

theorem startPolling_silent {userId : Int} {quiet : String → Prop} {db : Db}
    {remote : Int → Playlist} : Silent userId quiet (facts (startPolling db.fresh remote)) :=
  ⟨fun _ _ => rfl, fun _ _ => rfl, fun _ _ => rfl, fun _ he => absurd he List.not_mem_nil⟩

end histories

/-- **The baseline is silent.** In every history of the playlists and of polls:
a video that is in a channel's playlist at a poll that begins without the
baseline, as the one that establishes it does, is never told to the user, where
no later poll finds a video of that playlist at its head that is not the
remembered one. -/
theorem silent_baseline (platform : PollPlatform) (owner : String → Int) (db : Db)
    (remote : Int → Playlist) (key : Int × Int) (before after : List PollStep) (request : PollRequest)
    (own : Owned owner remote) (owned : ∀ s ∈ before ++ after, s.owned owner)
    (unset : hasBaseline ((runPolls platform before
      (startPolling db.fresh remote)).state.db.durable.userChannels.get key) = false)
    (undisturbed : ∀ earlier next later, after = earlier ++ .poll next :: later →
      Undisturbed key
        (ids ((runPolls platform before (startPolling db.fresh remote)).state.remote key.2))
        (runPolls platform (before ++ .poll request :: earlier) (startPolling db.fresh remote))
        next) :
    let w := runPolls platform before (startPolling db.fresh remote)
    ∀ e ∈ (runPolls platform (before ++ .poll request :: after) (startPolling db.fresh remote)).trace,
      ∀ id ∈ ids (w.state.remote key.2), ¬ e.tells key.1 id := by
  intro w
  obtain ⟨silent, own'⟩ := silent_before own (fun s hs => owned s (List.mem_append_left _ hs))
    startPolling_silent unset
  have mine : ∀ id ∈ ids (w.state.remote key.2), owner id = key.2 := own' key.2
  have none : ∀ r, w.state.db.durable.userChannels.get key = some r →
      ¬ r.baselineEstablishedAt.isSome := by
    intro r hr established
    rw [hr] at unset
    cases established.symm.trans unset
  obtain ⟨silent, same, -⟩ := poll_calm platform request
    (fun _ => own'.elsewhere) (fun _ r hr _ established => absurd established (none r hr)) rfl silent
  have owned' : ∀ s ∈ after, s.owned owner := fun s hs => owned s (List.mem_append_right _ hs)
  have result := silent_after (w := poll platform request w) (same ▸ own') owned' mine
    (silent.mono mine) fun earlier next later split => by
      have := undisturbed earlier next later split
      rwa [runPolls_append] at this
  rw [runPolls_append]
  exact result.untold

namespace Sample

/-- A monitored channel that no poll has looked at. -/
def unset : Db := { db with
  userChannels := ⟨[{ channel with lastSeenVideoId := none, baselineEstablishedAt := none }], by simp⟩ }

/-- A run that establishes the baseline. -/
def baseline : PollRequest := ⟨config, 1, [.now 1, .done false, .done false, .answered] ++ ending⟩

/-- The run that finds a new head. -/
def next : PollRequest := ⟨config, 1, [.now 1, .done false, .done false, .answered, .done true,
  .duration none, .done true, .now 2, .email .returned] ++ ending⟩

def item (id : String) : PlaylistItem := ⟨some id, none, none⟩

/-- The playlists where channel 1 is the only one with uploads. -/
def uploads (items : List PlaylistItem) (c : Int) : Playlist := if c = 1 then [items] else []

/-- The baseline is established, and a video is uploaded. -/
def uploaded : List PollStep :=
  [.youtube (uploads [item "newest", item "new", item "old"]), .poll next]

/-- The baseline is established, and the video at the head is removed. -/
def removed : List PollStep := [.youtube (uploads [item "old"]), .poll next]

/-- Where the channel has two uploads and the baseline is not established. -/
def start : PollWorld := startPolling unset.fresh (uploads [item "new", item "old"])

theorem owned_uploads (items : List PlaylistItem) : Owned (fun _ => 1) (uploads items) := by
  intro c id hid
  by_cases here : c = 1
  · exact here.symm
  · rw [uploads, if_neg here] at hid
    cases hid

end Sample

open Sample in
theorem silent_baseline_uploaded :
    .email (NotificationDelivery.new (1, "newest")) (some .returned)
      ∈ (runPolls platform (.poll baseline :: uploaded) start).trace ∧
    ∀ e ∈ (runPolls platform ([] ++ .poll baseline :: uploaded) start).trace,
      ∀ id ∈ ids ((runPolls platform [] start).state.remote 1), ¬ e.tells 1 id := by
  refine ⟨by decide +kernel, silent_baseline platform (fun _ => 1) unset
    (uploads [item "new", item "old"]) (1, 1) [] uploaded baseline (owned_uploads _) ?_
    (by decide +kernel) ?_⟩
  · intro s hs
    rcases List.mem_cons.mp hs with rfl | hs
    · exact owned_uploads _
    · rw [List.mem_singleton.mp hs]
      exact trivial
  · intro earlier last later split _ r _ _ _ id hid head
    have one : earlier = [.youtube (uploads [item "newest", item "new", item "old"])] := by
      rcases earlier with _ | ⟨s, _ | ⟨s', earlier⟩⟩
      · cases split
      · cases split
        rfl
      · have length := congrArg List.length split
        simp only [uploaded, List.length_cons, List.length_append, List.length_nil] at length
        omega
    subst one
    have newest : headId ((runPolls platform ([] ++ .poll baseline
        :: [.youtube (uploads [item "newest", item "new", item "old"])]) start).state.remote 1)
        = some "newest" := by decide +kernel
    obtain rfl := Option.some.inj (newest.symm.trans head)
    exact absurd hid (by decide +kernel)

open Sample in
/-- Where the remembered head is removed, an older video is told. -/
theorem baseline_told :
    hasBaseline (start.state.db.durable.userChannels.get (1, 1)) = false ∧
    hasBaseline ((runPolls platform [.poll baseline] start).state.db.durable.userChannels.get (1, 1))
      = true ∧
    ¬ ∀ e ∈ (runPolls platform (.poll baseline :: removed) start).trace,
      ∀ id ∈ ids ((runPolls platform [] start).state.remote 1), ¬ e.tells 1 id := by
  refine ⟨by decide +kernel, by decide +kernel, fun h => ?_⟩
  exact h (.email (NotificationDelivery.new (1, "old")) (some .returned)) (by decide +kernel) "old"
    (by decide +kernel) ⟨rfl, rfl⟩

end YTPipe.Polling
