import YTPipe.Polling.Recovery

/-!
# A second reconciliation

A run that follows one without reports finds every marker at the head of its
playlist, and adds nothing.
-/

namespace YTPipe.Polling

open Proc

/-- `P` holds of every copy of the rows. -/
structure Copies (remote : Int → Playlist) (P : Db → Prop) (f : Facts) : Prop where
  durable : P f.db.durable
  flushed : P f.db.flushed
  current : P f.db.current
  remote : f.remote = remote

/-- What writes to the rows that are there keep. -/
structure Lasting (P : Db → Prop) : Prop where
  video : ∀ db v old, db.videos.get v.youtubeVideoId = some old → P db → P (db.setVideo v)
  update : ∀ db row, P db → P (db.setStage row)
  quota : ∀ db q, P db → P { db with quota := q }
  delivery : ∀ db d, P db → P (db.setDelivery d)

section copies

variable {remote : Int → Playlist} {P : Db → Prop} {f : Facts}

theorem Copies.edit {g : Db → Db} (h : Copies remote P f) (kept : P f.db.current → P (g f.db.current)) :
    Copies remote P (f.edit g) := ⟨h.durable, h.flushed, kept h.current, h.remote⟩

theorem Copies.flush (h : Copies remote P f) : Copies remote P f.flush :=
  ⟨h.durable, h.current, h.current, h.remote⟩

theorem Copies.commit (h : Copies remote P f) : Copies remote P f.commit :=
  ⟨h.current, h.current, h.current, h.remote⟩

theorem Copies.note (h : Copies remote P f) (e : PollEvent) : Copies remote P (f.note e) :=
  ⟨h.durable, h.flushed, h.current, h.remote⟩

theorem tended_copies (lasting : Lasting P) : Tended (Copies remote P) where
  flush _ h := h.flush
  request _ _ h := h.note _
  count _ _ h := ⟨h.durable, h.flushed, h.current, h.remote⟩
  video _ v old found _ h := h.edit (lasting.video _ v old found)

theorem served_copies (lasting : Lasting P) : Served (Copies remote P) where
  flush _ h := h.flush
  commit _ h := h.commit
  update _ row h := h.edit (lasting.update _ row)
  count _ _ h := ⟨h.durable, h.flushed, h.current, h.remote⟩
  quota _ q h := h.edit (lasting.quota _ q)
  delivery _ d h := h.edit (lasting.delivery _ d)
  skipped _ _ h := h.note _

end copies

/-! The channels a run finds. -/

/-- The same channels are there, and the same ones are monitored. -/
def SameChannels (base db : Db) : Prop :=
  ∀ k, (db.userChannels.get k).map (·.isMonitored) = (base.userChannels.get k).map (·.isMonitored)

section channels

variable {platform : PollPlatform} {remote : Int → Playlist} {base : Db} {userId : Int}

theorem lasting_sameChannels : Lasting (SameChannels base) where
  video _ _ _ _ h := h
  update _ _ h := h
  quota _ _ h := h
  delivery _ _ h := h

theorem sameChannels_setChannel {db : Db} (h : SameChannels base db) (row : UserChannel) :
    SameChannels base (db.setChannel row) := by
  intro k
  rw [← h k, Db.setChannel, Table.get_alter]
  split
  · cases db.userChannels.get k <;> rfl
  · rfl

theorem closed_sameChannels : Closed (Copies remote (SameChannels base)) where
  toTended := tended_copies lasting_sameChannels
  commit _ h := h.commit
  stage _ row h := h.edit fun h => by
    unfold Db.putStage
    split <;> exact h
  quota _ _ h := h.edit fun h => h
  addVideo _ _ _ _ _ h := h.edit fun h => h

theorem reconcile_sameChannels (platform : PollPlatform) (request : ReconciliationRequest)
    (w : PollWorld) :
    SameChannels w.state.db.durable (reconcile platform request w).2.state.db.durable
      ∧ (reconcile platform request w).2.state.remote = w.state.remote := by
  have served : Served (Copies w.state.remote (SameChannels w.state.db.durable)) :=
    served_copies lasting_sameChannels
  have result := reconcile_of_wp platform request (w := w)
    (K := Copies w.state.remote (SameChannels w.state.db.durable))
    (L := Copies w.state.remote (SameChannels w.state.db.durable))
    (D := Copies w.state.remote (SameChannels w.state.db.durable))
    (B := Copies w.state.remote (SameChannels w.state.db.durable))
    (fun u hu => ?_) (fun _ h => h) (fun _ h => h.commit)
    fun _ h => ⟨h.durable, h.durable, h.durable, h.remote⟩
  · revert result
    cases reconcile platform request w with
    | mk r v => cases r <;> exact fun h => ⟨h.durable, h.remote⟩
  · refine wp_reconcileMissingUploads served served (fun _ h => h) (fun _ h => h) ?_
      (fun v hv => ?_) ?_
    · exact Kept.ite (fun _ => kept_processRecovered closed_sameChannels.toStored served.toUpdated)
        fun _ => kept_pipelineUpdate served.toUpdated
    · refine Kept.forM (fun k _ => ?_) v hv
      refine kept_reconcileTurn closed_sameChannels.toTended (fun _ h => by rw [h.remote])
        (fun _ _ _ _ _ h => h.edit fun h => h) (fun _ _ _ db _ _ added h => ?_)
        (fun _ _ h => h.note _) (fun _ r _ h => h.edit (sameChannels_setChannel · r))
        fun _ _ _ h => h.note _
      refine (h.edit (g := fun _ => db) fun h => ?_).flush
      intro k
      rw [(within_addStages added).2.2]
      exact h k
    · rw [hu]
      exact ⟨fun _ => rfl, fun _ => rfl, fun _ => rfl, rfl⟩

end channels

/-! A run that adds nothing. -/

/-- The rows are those of `base`, or for uploads of a channel of `bad`. -/
structure Limited (base : Db) (remote : Int → Playlist) (bad : Int → Prop) (db : Db) : Prop where
  video : ∀ id, (db.videos.get id).isSome →
    (base.videos.get id).isSome ∨ ∃ c, bad c ∧ id ∈ ids (remote c)
  stage : ∀ k, (db.stages.get k).isSome →
    (base.stages.get k).isSome ∨ ∃ c, bad c ∧ k.2.1 ∈ ids (remote c)

/-- Every channel that is polled and not of `bad` remembers its newest upload. -/
def UpToDate (base : Db) (userId : Int) (remote : Int → Playlist) (bad : Int → Prop) (db : Db) : Prop :=
  ∀ k ∈ base.monitored userId, ¬ bad k.2 →
    ∀ r, db.userChannels.get k = some r → r.lastSeenVideoId = newestId (remote k.2)

section rerun

variable {platform : PollPlatform} {config : PollConfig} {remote : Int → Playlist} {base : Db}
  {userId maxPages : Int} {bad : Int → Prop} {C : Db → Prop}

theorem lasting_limited (channels : ∀ a b : Db, b.userChannels = a.userChannels → C a → C b) :
    Lasting fun db => Limited base remote bad db ∧ C db where
  video db v old found h := by
    refine ⟨⟨fun id hid => h.1.video id ?_, h.1.stage⟩, channels db _ rfl h.2⟩
    rw [Db.setVideo, Table.get_alter] at hid
    split at hid
    · rwa [Option.isSome_map] at hid
    · exact hid
  update db row h := by
    refine ⟨⟨h.1.video, fun k hk => h.1.stage k ?_⟩, channels db _ rfl h.2⟩
    rw [Db.setStage, Table.get_alter] at hk
    split at hk
    · rwa [Option.isSome_map] at hk
    · exact hk
  quota db q h := ⟨⟨h.1.video, h.1.stage⟩, channels db _ rfl h.2⟩
  delivery db d h := ⟨⟨h.1.video, h.1.stage⟩, channels db _ rfl h.2⟩

theorem Reaches.marker_not_mem {marker : String} {items : List PlaylistItem} {newer : List String}
    (h : Reaches marker items newer) : marker ∉ newer := by
  obtain ⟨before, item, after, -, -, fresh, rfl⟩ := h
  intro hm
  obtain ⟨x, hx, named⟩ := List.mem_filterMap.mp (List.mem_filter.mp hm).1
  exact fresh x hx named

/-- The turn of a channel whose marker is the newest upload adds nothing. -/
theorem kept_upToDateTurn {J : Facts → Prop} (t : Tended J) {k : Int × Int}
    (playlist : ∀ f, J f → f.remote = remote)
    (report : ∀ f e, J f → J (f.note (.channelError e)))
    (newest : ∀ f r, J f → f.db.current.userChannels.get k = some r →
      r.lastSeenVideoId = newestId (remote k.2)) :
    Kept J (reconcileTurn platform config userId maxPages k) := by
  intro w start
  refine wp_turn start (fun f e _ => report f e) fun row found own known => ?_
  subst own
  obtain ⟨-, valid⟩ := not_or.mp known
  have head : some (row.lastSeenVideoId.getD "") = newestId (remote row.channel.id) := by
    rw [← show row.lastSeenVideoId = newestId (remote row.channel.id) from
      newest _ row start found]
    cases hl : row.lastSeenVideoId with
    | none => exact absurd (by rw [hl]; rfl) valid
    | some id => rfl
  unfold reconcileChannel
  rw [wp_bind]
  refine wp_mono (wp_fetchUploadsSinceMarker t.request t.count
    (congrFun (playlist _ start) row.channel.id) start) (fun r u hu => ?_) fun _ h => h
  obtain ⟨uploads, marked⟩ := r
  obtain ⟨hu, reached⟩ := hu
  cases marked with
  | false => exact hu
  | true =>
    obtain ⟨newer, reaches, same⟩ := reached rfl
    obtain rfl : newer = [] := by
      have first := head.trans (window_newest (p := remote row.channel.id) valid reaches)
      cases newer with
      | nil => rfl
      | cons id newer =>
        have own : row.lastSeenVideoId.getD "" = id := Option.some.inj first
        exact absurd (own ▸ List.mem_cons_self ..) reaches.marker_not_mem
    obtain rfl : uploads = [] := List.map_eq_nil_iff.mp same
    exact hu

theorem limited_addStages {rows : List StageRow} {db db' : Db}
    (mine : ∀ row ∈ rows, ∃ c, bad c ∧ row.videoId ∈ ids (remote c))
    (added : addStages rows db = some db') (h : Limited base remote bad db) :
    Limited base remote bad db' := by
  induction rows generalizing db with
  | nil =>
    cases added
    exact h
  | cons row rows ih =>
    simp only [addStages, Option.bind_eq_bind, Option.bind_eq_some_iff] at added
    obtain ⟨stages, inserted, added⟩ := added
    refine ih (fun row hr => mine row (List.mem_cons_of_mem _ hr)) added ⟨h.video, fun key hk => ?_⟩
    change (stages.get key).isSome at hk
    rw [Table.get_insert inserted] at hk
    split at hk
    · next here =>
      subst here
      exact .inr (mine row (List.mem_cons_self ..))
    · exact h.stage key hk

/-- The turn of a channel of `bad` adds rows for its uploads. -/
theorem kept_badTurn {k : Int × Int} (hbad : bad k.2) :
    Kept (Copies remote fun db => Limited base remote bad db ∧ UpToDate base userId remote bad db)
      (reconcileTurn platform config userId maxPages k) := by
  have lasting : Lasting fun db => Limited base remote bad db ∧ UpToDate base userId remote bad db :=
    lasting_limited fun a b same h k hk good r hr => h k hk good r (same ▸ hr)
  refine kept_reconcileTurn (tended_copies lasting) (p := remote k.2) (fun _ h => by rw [h.remote])
    (fun f v videos inserted mine h => h.edit fun h => ⟨⟨fun id hid => ?_, h.1.stage⟩, h.2⟩)
    (fun f id rows db mine own added h => (h.edit (g := fun _ => db) fun h => ?_).flush)
    (fun _ _ h => h.note _) (fun f r own h => h.edit fun h => ⟨⟨h.1.video, h.1.stage⟩, ?_⟩)
    fun _ _ _ h => h.note _
  · change (videos.get id).isSome at hid
    rw [Table.get_insert inserted] at hid
    split at hid
    · next here =>
      subst here
      exact .inr ⟨k.2, hbad, mine⟩
    · exact h.1.video id hid
  · refine ⟨limited_addStages (fun row hr => ?_) added h.1, fun k' hk' good r hr => ?_⟩
    · exact ⟨k.2, hbad, by rw [(own row hr).2]; exact mine⟩
    · rw [(within_addStages added).2.2] at hr
      exact h.2 k' hk' good r hr
  · intro k' hk' good r' hr'
    rw [Db.setChannel, Table.get_alter, if_neg] at hr'
    · exact h.2 k' hk' good r' hr'
    · rintro rfl
      exact good (own ▸ hbad)

/-- A run that leaves the drain out, on rows where every channel but those of
`bad` is up to date. -/
theorem reconcile_limited (platform : PollPlatform) {request : ReconciliationRequest}
    (light : request.process = false)
    {w : PollWorld}
    (upToDate : UpToDate w.state.db.durable request.userId w.state.remote bad w.state.db.durable) :
    Limited w.state.db.durable w.state.remote bad
      (reconcile platform request w).2.state.db.durable := by
  let known (db : Db) : Prop := Limited w.state.db.durable w.state.remote bad db
    ∧ db.userChannels = w.state.db.durable.userChannels
  let later (db : Db) : Prop := Limited w.state.db.durable w.state.remote bad db
    ∧ UpToDate w.state.db.durable request.userId w.state.remote bad db
  have weaken : ∀ f, Copies w.state.remote known f → Copies w.state.remote later f := by
    intro f h
    have one : ∀ db, known db → later db :=
      fun db h => ⟨h.1, fun k hk good r hr => upToDate k hk good r (h.2 ▸ hr)⟩
    exact ⟨one _ h.durable, one _ h.flushed, one _ h.current, h.remote⟩
  have servedKnown : Served (Copies w.state.remote known) :=
    served_copies (lasting_limited fun a b same h => same.trans h)
  have lasting : Lasting later :=
    lasting_limited fun a b same h k hk good r hr => h k hk good r (same ▸ hr)
  have result := reconcile_of_wp platform request (w := w)
    (K := Copies w.state.remote later) (L := Copies w.state.remote later)
    (D := Copies w.state.remote later) (B := Copies w.state.remote later)
    (fun u hu => ?_) (fun _ h => h) (fun _ h => h.commit)
    fun _ h => ⟨h.durable, h.durable, h.durable, h.remote⟩
  · revert result
    cases reconcile platform request w with
    | mk r v => cases r <;> exact fun h => h.durable.1
  · refine wp_reconcileMissingUploads servedKnown (served_copies lasting) weaken (fun _ h => h) ?_
      (fun v hv => ?_) ?_
    · rw [light]
      exact kept_pipelineUpdate (served_copies lasting).toUpdated
    · have listed : v.state.db.flushed.monitored request.userId
          = w.state.db.durable.monitored request.userId := by
        unfold Db.monitored
        rw [show v.state.db.flushed.userChannels = _ from hv.flushed.2]
      rw [listed]
      refine Kept.forM (fun k hk => ?_) v (weaken _ hv)
      by_cases hbad : bad k.2
      · exact kept_badTurn hbad
      · exact kept_upToDateTurn (tended_copies lasting) (fun _ h => h.remote)
          (fun _ _ h => h.note _) fun f r h found => h.current.2 k hk hbad r found
    · rw [hu]
      have start : known w.state.db.durable := ⟨⟨fun _ h => .inl h, fun _ h => .inl h⟩, rfl⟩
      exact ⟨start, start, start, rfl⟩

end rerun

/-- **Reconciliation recovers the whole window or moves nothing.** For every
channel of the user, whatever the playlists, the quota, the page limit, the
database and the exceptions: the channel is as it was, or it was not reported,
its marker was found, it remembers the newest upload, and every upload that is
newer than the marker has its rows. Run again without the drain, after a run
that returned, it adds rows only for uploads of the channels that were
reported. -/
theorem reconciliation_recovers (platform : PollPlatform) (request : ReconciliationRequest) (db : Db)
    (remote : Int → Playlist) (service : request.config.pipelineService = true) :
    let w := (reconcile platform request (startPolling db remote)).2
    (∀ row, Untouched row db → row.userId = request.userId →
      Untouched row w.state.db.durable
      ∨ (¬ Reported row.channel.id w.trace
        ∧ Recovered request.config request.maxPages (remote row.channel.id) row w.state.db.durable))
    ∧ ∀ again : ReconciliationRequest, again.userId = request.userId → again.process = false →
      (reconcile platform request (startPolling db remote)).1.isSome →
      let w' := (reconcile platform again w).2
      (∀ id, (w'.state.db.durable.videos.get id).isSome → (w.state.db.durable.videos.get id).isSome
        ∨ ∃ c, Reported c w.trace ∧ id ∈ ids (remote c))
      ∧ ∀ k, (w'.state.db.durable.stages.get k).isSome → (w.state.db.durable.stages.get k).isSome
        ∨ ∃ c, Reported c w.trace ∧ k.2.1 ∈ ids (remote c) := by
  intro w
  have each : ∀ row, Untouched row db → row.userId = request.userId → _ :=
    fun row known mine => reconcile_after platform (w := startPolling db remote) service mine known
      (by rintro ⟨_, none, -⟩; cases none)
  obtain ⟨same, playlists⟩ :=
    reconcile_sameChannels platform request (startPolling db remote)
  subst w
  revert each same playlists
  cases reconcile platform request (startPolling db remote) with
  | mk result v =>
    intro each same playlists
    refine ⟨fun row known mine => ?_, fun again user light returned => ?_⟩
    · have outcome := each row known mine
      cases result with
      | none => exact outcome
      | some summary =>
        obtain ⟨untouched | moved, committed⟩ := outcome
        · exact .inl untouched.1.durable
        · refine .inr ⟨moved.2.2, ?_⟩
          have recovered := moved.2.1
          change Recovered _ _ _ _ v.state.db.current at recovered
          rwa [← committed] at recovered
    · obtain ⟨summary, rfl⟩ := Option.isSome_iff_exists.mp returned
      have limited : Limited v.state.db.durable v.state.remote (Reported · v.trace) _ :=
        reconcile_limited platform light (w := v) fun k hk good r hr => by
          obtain ⟨r', hr', listed⟩ := Table.mem_select.mp hk
          obtain rfl := Option.some.inj (hr'.symm.trans hr)
          simp only [Bool.and_eq_true, decide_eq_true_eq] at listed
          have was := same k
          simp only [hr, Option.map_some, listed.2] at was
          obtain ⟨row, known, monitored⟩ := Option.map_eq_some_iff.mp was.symm
          obtain rfl : row.key = k := Table.key_of_get known
          have own : row.userId = r'.userId :=
            (congrArg Prod.fst (Table.key_of_get hr)).symm
          obtain ⟨untouched | moved, committed⟩ :=
            each row known (own.trans (listed.1.trans user))
          · rcases untouched.2.2 with reported | idle
            · exact absurd reported good
            · cases monitored.symm.trans idle
          · obtain ⟨row', marker, newer, here, -, -, -, newest, -⟩ := moved.2.1
            change v.state.db.current.userChannels.get row.key = some row' at here
            rw [← committed, hr] at here
            obtain rfl := Option.some.inj here
            rw [playlists]
            exact newest
      rw [show v.state.remote = remote from playlists] at limited
      exact ⟨limited.video, limited.stage⟩

namespace Sample

/-- A reconciliation of the channel with a new upload, its paging answered so. -/
def reconciliation (paging : List PollReply) : ReconciliationRequest where
  config := { config with pipelineService := true }
  userId := 1
  maxPages := 1
  process := false
  replies := [.now 1, .done false, .pipeline [] none, .done false] ++ paging
    ++ [.done true, .pipeline [] none, .done false, .done true, .committed]

def recovery : ReconciliationRequest :=
  reconciliation [.answered, .done true, .duration none, .done true]

def failure : ReconciliationRequest := reconciliation [.raised false "connection reset"]

end Sample

open Sample in
theorem reconciliation_recovers_upload :
    Recovered recovery.config 1 (remote 1) channel
      (reconcile platform recovery (startPolling db remote)).2.state.db.durable := by
  rcases (reconciliation_recovers platform recovery db remote rfl).1 channel (by decide +kernel) rfl
    with untouched | ⟨-, recovered⟩
  · exact absurd untouched (by decide +kernel)
  · exact recovered

open Sample in
/-- After a run whose paging failed, a second run adds the rows. -/
theorem reconciliation_adds_later :
    ¬ ∀ (request again : ReconciliationRequest) (id : String),
      again.userId = request.userId → again.process = false →
      let w := (reconcile platform request (startPolling db remote)).2
      ((reconcile platform again w).2.state.db.durable.videos.get id).isSome →
      (w.state.db.durable.videos.get id).isSome := by
  intro h
  have added := h failure recovery "new" rfl rfl (by decide +kernel)
  exact absurd added (by decide +kernel)

end YTPipe.Polling
