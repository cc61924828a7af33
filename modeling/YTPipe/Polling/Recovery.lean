import YTPipe.Polling.Paging
import YTPipe.Polling.Runs

/-!
# The whole window or nothing

After a channel's turn in a reconciliation its marker is as it was, or every
upload that is newer than the marker has its rows and the marker is the newest.
-/

namespace YTPipe.Polling

open Proc

/-! Rows. -/

/-- `b` has the videos and the stages of `a`. -/
structure Db.Within (a b : Db) : Prop where
  video : ∀ id v, a.videos.get id = some v →
    ∃ v', b.videos.get id = some v' ∧ ∀ short, v.isShort = some short → v'.isShort = some short
  stage : ∀ k, (a.stages.get k).isSome → (b.stages.get k).isSome

theorem Db.Within.of_eq {a b : Db} (videos : b.videos = a.videos) (stages : b.stages = a.stages) :
    Db.Within a b :=
  ⟨fun _ v h => ⟨v, videos ▸ h, fun _ hs => hs⟩, fun _ h => stages ▸ h⟩

theorem Db.Within.refl (a : Db) : Db.Within a a := .of_eq rfl rfl

theorem Db.Within.trans {a b c : Db} (h : Db.Within a b) (h' : Db.Within b c) : Db.Within a c where
  video id v hv := by
    obtain ⟨v', hv', short⟩ := h.video id v hv
    obtain ⟨v'', hv'', short'⟩ := h'.video id v' hv'
    exact ⟨v'', hv'', fun s hs => short' s (short s hs)⟩
  stage k hk := h'.stage k (h.stage k hk)

theorem within_setVideo {db : Db} {v old : Video} (found : db.videos.get v.youtubeVideoId = some old)
    (short : ∀ s, old.isShort = some s → v.isShort = some s) : Db.Within db (db.setVideo v) where
  video id u hu := by
    rw [Db.setVideo, Table.get_alter, hu]
    split
    · next here =>
      subst here
      obtain rfl := Option.some.inj (found.symm.trans hu)
      exact ⟨_, rfl, short⟩
    · exact ⟨u, rfl, fun _ hs => hs⟩
  stage _ hk := hk

theorem within_addVideo {db : Db} {v : Video} {videos : Table String Video Video.youtubeVideoId}
    (inserted : db.videos.insert v = some videos) : Db.Within db { db with videos := videos } where
  video id u hu := by
    refine ⟨u, ?_, fun _ hs => hs⟩
    change videos.get id = some u
    rw [Table.get_insert inserted, if_neg]
    · exact hu
    · rintro rfl
      cases (Table.absent_of_insert inserted).symm.trans hu
  stage _ hk := hk

theorem within_setStage (db : Db) (row : StageRow) : Db.Within db (db.setStage row) where
  video _ v hv := ⟨v, hv, fun _ hs => hs⟩
  stage k hk := by
    rw [Db.setStage, Table.get_alter]
    split
    · rwa [Option.isSome_map]
    · exact hk

theorem within_addStage {db : Db} {row : StageRow}
    {stages : Table (Int × String × StageName) StageRow StageRow.key}
    (inserted : db.stages.insert row = some stages) : Db.Within db { db with stages := stages } where
  video _ v hv := ⟨v, hv, fun _ hs => hs⟩
  stage k hk := by
    change (stages.get k).isSome
    rw [Table.get_insert inserted]
    split
    · rfl
    · exact hk

theorem within_putStage (db : Db) (row : StageRow) : Db.Within db (db.putStage row) := by
  unfold Db.putStage
  split
  · next inserted => exact within_addStage inserted
  · exact within_setStage db row

theorem within_addStages {rows : List StageRow} {db db' : Db} (h : addStages rows db = some db') :
    Db.Within db db' ∧ (∀ row ∈ rows, (db'.stages.get row.key).isSome)
      ∧ db'.userChannels = db.userChannels := by
  induction rows generalizing db with
  | nil =>
    cases h
    exact ⟨.refl _, nofun, rfl⟩
  | cons row rows ih =>
    simp only [addStages, Option.bind_eq_bind, Option.bind_eq_some_iff] at h
    obtain ⟨stages, inserted, h⟩ := h
    obtain ⟨within, all, same⟩ := ih h
    refine ⟨(within_addStage inserted).trans within, fun r hr => ?_, same⟩
    rcases List.mem_cons.mp hr with rfl | hr
    · refine within.stage _ ?_
      change (stages.get r.key).isSome
      rw [Table.get_insert inserted, if_pos rfl]
      rfl
    · exact all r hr

/-- An upload has its row and, unless it is a Short while Shorts are disabled,
its stages. -/
def Db.recovered (config : PollConfig) (userId : Int) (db : Db) (id : String) : Prop :=
  ∃ v, db.videos.get id = some v
    ∧ ((config.shortsProcessingEnabled = false ∧ v.isShort = some true)
      ∨ ∀ name ∈ stageNames, (db.stages.get (userId, id, name)).isSome)

theorem Db.Within.recovered {config : PollConfig} {userId : Int} {a b : Db} {id : String}
    (h : Db.Within a b) (ha : a.recovered config userId id) : b.recovered config userId id := by
  obtain ⟨v, hv, rest⟩ := ha
  obtain ⟨v', hv', short⟩ := h.video id v hv
  exact ⟨v', hv', rest.imp (fun ⟨off, hs⟩ => ⟨off, short _ hs⟩)
    fun all name hn => h.stage _ (all name hn)⟩

/-- `P` holds of every copy of the rows, and what a query sees is in memory. -/
structure Held (remote : Int → Playlist) (P : Db → Prop) (f : Facts) : Prop where
  loaded : Db.Within f.db.flushed f.db.current
  durable : P f.db.durable
  flushed : P f.db.flushed
  current : P f.db.current
  remote : f.remote = remote

/-- Where rows are added and the channel is not written, `P` stays. -/
def Stays (key : Int × Int) (P : Db → Prop) : Prop :=
  ∀ a b, Db.Within a b → b.userChannels.get key = a.userChannels.get key → P a → P b

section held

variable {config : PollConfig} {key : Int × Int} {remote : Int → Playlist} {P : Db → Prop} {f : Facts}

theorem Held.edit {g : Db → Db} (h : Held remote P f) (stays : Stays key P)
    (within : Db.Within f.db.current (g f.db.current))
    (same : (g f.db.current).userChannels.get key = f.db.current.userChannels.get key) :
    Held remote P (f.edit g) :=
  ⟨h.loaded.trans within, h.durable, h.flushed, stays _ _ within same h.current, h.remote⟩

theorem Held.note (h : Held remote P f) (e : PollEvent) : Held remote P (f.note e) :=
  ⟨h.loaded, h.durable, h.flushed, h.current, h.remote⟩

/-- A property of the copies, of the rows in memory and of the events that are
no report. -/
def Standing (remote : Int → Playlist) (P Q : Db → Prop) (T : List PollEvent → Prop) (f : Facts) :
    Prop := Held remote P f ∧ Q f.db.current ∧ T f.trace

/-- The events that are no report change nothing. -/
def Heedless (T : List PollEvent → Prop) : Prop :=
  ∀ e t, (∀ error, e ≠ .channelError error) → T t → T (e :: t)

variable {Q : Db → Prop} {T : List PollEvent → Prop}

theorem Standing.edit {g : Db → Db} (h : Standing remote P Q T f) (stays : Stays key P)
    (stays' : Stays key Q) (within : Db.Within f.db.current (g f.db.current))
    (same : (g f.db.current).userChannels.get key = f.db.current.userChannels.get key) :
    Standing remote P Q T (f.edit g) :=
  ⟨h.1.edit stays within same, stays' _ _ within same h.2.1, h.2.2⟩

theorem Standing.note {e : PollEvent} (h : Standing remote P Q T f) (heedless : Heedless T)
    (quiet : ∀ error, e ≠ .channelError error) : Standing remote P Q T (f.note e) :=
  ⟨h.1.note e, h.2.1, heedless e _ quiet h.2.2⟩

theorem closed_standing (stays : Stays key P) (stays' : Stays key Q) (heedless : Heedless T) :
    Closed (Standing remote P Q T) where
  flush f h := ⟨⟨.refl _, h.1.durable, h.1.current, h.1.current, h.1.remote⟩, h.2⟩
  commit f h := Standing.note (f := { f with db := f.db.commit })
    ⟨⟨.refl _, h.1.current, h.1.current, h.1.current, h.1.remote⟩, h.2⟩ heedless nofun
  stage f row h := by
    refine h.edit stays stays' (within_putStage _ row) ?_
    unfold Db.putStage
    split <;> rfl
  quota f q h := h.edit stays stays' (.of_eq rfl rfl) rfl
  request f q h := h.note heedless nofun
  count _ _ h := ⟨⟨h.1.loaded, h.1.durable, h.1.flushed, h.1.current, h.1.remote⟩, h.2⟩
  video f v old found short h := h.edit stays stays' (within_setVideo found short) rfl
  addVideo f v videos inserted _ h := h.edit stays stays' (within_addVideo inserted) rfl

end held

/-! The turn of a channel. -/

section turn

variable {platform : PollPlatform} {config : PollConfig} {userId channelId maxPages : Int}
  {key : Int × Int} {remote : Int → Playlist} {P Q : Db → Prop} {T : List PollEvent → Prop}
  {upload : LatestUpload} {id : String}

theorem stays_recovered (id : String) : Stays key fun db => db.recovered config userId id :=
  fun _ _ within _ h => within.recovered h

theorem stays_present (id : String) : Stays key fun db => (db.videos.get id).isSome := by
  intro a b within _ h
  obtain ⟨v, hv⟩ := Option.isSome_iff_exists.mp h
  obtain ⟨v', hv', -⟩ := within.video id v hv
  rw [hv']
  rfl

theorem Stays.and {R : Db → Prop} (h : Stays key P) (h' : Stays key R) :
    Stays key fun db => P db ∧ R db :=
  fun a b within same hp => ⟨h a b within same hp.1, h' a b within same hp.2⟩

/-- The video is there, for a query as well. -/
theorem wp_getOrCreateVideo (stays : Stays key P) (stays' : Stays key Q) (heedless : Heedless T)
    (named : upload.videoId = some id) {w : PollWorld}
    (start : Standing remote P Q T (facts w)) :
    wp (getOrCreateVideo channelId upload)
      (fun a u => a = id ∧ Standing remote P (fun db => Q db ∧ (db.videos.get id).isSome) T (facts u))
      (fun u => Standing remote P Q T (facts u)) w := by
  have closed : Closed (Standing remote P Q T) := closed_standing stays stays' heedless
  unfold getOrCreateVideo
  simp only [named, Option.getD_some]
  by_cases empty : id = ""
  · rw [if_pos empty]
    exact start
  · rw [if_neg empty, wp_bind, wp_visible]
    cases found : w.state.db.flushed.videos.get id with
    | none =>
      rw [wp_bind]
      refine wp_mono (wp_addAndFlush start fun f db added hf => ?_) (fun _ u hu => ⟨rfl, hu⟩)
        fun _ h => h
      simp only [Option.bind_eq_bind, Option.bind_eq_some_iff, Option.pure_def,
        Option.some.injEq] at added
      obtain ⟨videos, inserted, rfl⟩ := added
      have kept := closed.flush _ (closed.addVideo f _ videos inserted rfl hf)
      refine ⟨kept.1, ⟨kept.2.1, ?_⟩, kept.2.2⟩
      change (videos.get id).isSome
      rw [Table.get_insert inserted, if_pos rfl]
      rfl
    | some v =>
      obtain ⟨v', hv', -⟩ := start.1.loaded.video id v found
      have known : w.state.db.current.videos.get id = some v' := hv'
      have present : Standing remote P (fun db => Q db ∧ (db.videos.get id).isSome) T (facts w) := by
        refine ⟨start.1, ⟨start.2.1, ?_⟩, start.2.2⟩
        rw [hv']
        rfl
      simp only [wp_bind, wp_inMemory, known]
      have closed' : Closed (Standing remote P (fun db => Q db ∧ (db.videos.get id).isSome) T) :=
        closed_standing stays (stays'.and (stays_present id)) heedless
      exact wp_mono (kept_setVideo closed'.toSaved present known rfl fun _ hb => hb)
        (fun _ u hu => ⟨rfl, hu⟩) fun _ h => ⟨h.1, h.2.1.1, h.2.2⟩

/-- The stages of a video are there once those a query did not find are added. -/
theorem stages_of_missing {seen db db' : Db} (within : Db.Within seen db)
    (added : addStages (missingStages seen userId id) db = some db') :
    ∀ name ∈ stageNames, (db'.stages.get (userId, id, name)).isSome := by
  intro name hn
  obtain ⟨grown, all, -⟩ := within_addStages added
  by_cases found : (seen.stages.get (userId, id, name)).isSome
  · exact grown.stage _ (within.stage _ found)
  · refine all ⟨userId, id, name, .pending⟩ (List.mem_filter.mpr ⟨List.mem_map_of_mem hn, ?_⟩)
    simpa [StageRow.key] using found

theorem wp_createStagesForVideo (stays : Stays key P) (stays' : Stays key Q) (heedless : Heedless T)
    {w : PollWorld} (process : w.state.db.current.shouldProcess config id)
    (start : Standing remote P (fun db => Q db ∧ (db.videos.get id).isSome) T (facts w)) :
    wp (createStagesForVideo config userId id)
      (fun _ u => Standing remote P (fun db => Q db ∧ db.recovered config userId id) T (facts u))
      (fun u => Standing remote P Q T (facts u)) w := by
  have present : Stays key fun db => Q db ∧ (db.videos.get id).isSome := stays'.and (stays_present id)
  unfold createStagesForVideo
  rw [wp_bind, wp_inMemory, if_pos process, wp_bind, wp_visible, wp_bind]
  let here (f : Facts) : Prop := Standing remote P
    (fun db => Q db ∧ (db.videos.get id).isSome) T f ∧ f.db.flushed = w.state.db.flushed
  refine wp_mono (wp_addAndFlush (J := here) (K := Standing remote P
    (fun db => Q db ∧ db.recovered config userId id) T) ⟨start, rfl⟩ fun f db added hf => ?_)
    (fun _ u hu => ?_) fun _ h => ⟨h.1.1, h.1.2.1.1, h.1.2.2⟩
  · obtain ⟨hf, same⟩ := hf
    obtain ⟨grown, -, channels⟩ := within_addStages added
    have kept := (closed_standing stays present heedless).flush _
      (hf.edit (g := fun _ => db) stays present grown (by rw [channels]))
    obtain ⟨v, hv⟩ := Option.isSome_iff_exists.mp kept.2.1.2
    refine ⟨kept.1, ⟨kept.2.1.1, v, hv, .inr ?_⟩, kept.2.2⟩
    exact stages_of_missing (same ▸ hf.1.loaded) added
  · refine wp_mono (Kept.forM (fun row _ => kept_emit fun s t hs => ?_) u hu) (fun _ _ h => h)
      fun _ h => ⟨h.1, h.2.1.1, h.2.2⟩
    exact Standing.note (f := ⟨s.db, s.remote, s.quota, t⟩) hs heedless nofun

/-- A turn of the loop over the uploads. -/
theorem wp_recoverUpload (service : config.pipelineService = true) (stays : Stays key P)
    (stays' : Stays key Q) (heedless : Heedless T) (named : upload.videoId = some id)
    {w : PollWorld} (start : Standing remote P Q T (facts w)) :
    wp (recoverUpload platform config userId channelId upload)
      (fun _ u => Standing remote P (fun db => Q db ∧ db.recovered config userId id) T (facts u))
      (fun u => Standing remote P Q T (facts u)) w := by
  unfold recoverUpload
  rw [wp_bind]
  refine wp_mono (wp_getOrCreateVideo stays stays' heedless named start) (fun a u hu => ?_)
    fun _ h => h
  obtain ⟨rfl, hu⟩ := hu
  have closed : Closed (Standing remote P (fun db => Q db ∧ (db.videos.get a).isSome) T) :=
    closed_standing stays (stays'.and (stays_present a)) heedless
  rw [wp_bind]
  refine wp_mono (kept_attemptDetectAndMarkShort closed.toTended a u hu) (fun _ u hu => ?_)
    fun _ h => ⟨h.1, h.2.1.1, h.2.2⟩
  rw [wp_bind, wp_inMemory, wp_when]
  by_cases process : u.state.db.current.shouldProcess config a
  · rw [if_pos ⟨service, process⟩]
    exact wp_createStagesForVideo stays stays' heedless process hu
  · rw [if_neg fun h => process h.2]
    obtain ⟨v, hv⟩ := Option.isSome_iff_exists.mp hu.2.1.2
    refine ⟨hu.1, ⟨hu.2.1.1, v, hv, .inl ?_⟩, hu.2.2⟩
    have known : u.state.db.current.videos.get a = some v := hv
    simpa [Db.shouldProcess, shouldProcessVideo, known] using process

theorem wp_recoverUploads (service : config.pipelineService = true) (stays : Stays key P)
    (stays' : Stays key Q) (heedless : Heedless T) {uploads : List LatestUpload}
    (named : ∀ u ∈ uploads, ∃ id, u.videoId = some id) {w : PollWorld}
    (start : Standing remote P Q T (facts w)) :
    wp (uploads.forM (recoverUpload platform config userId channelId))
      (fun _ u => Standing remote P (fun db => Q db
        ∧ ∀ id, some id ∈ uploads.map (·.videoId) → db.recovered config userId id) T (facts u))
      (fun u => Standing remote P Q T (facts u)) w := by
  induction uploads generalizing Q w with
  | nil => exact ⟨start.1, ⟨start.2.1, nofun⟩, start.2.2⟩
  | cons upload uploads ih =>
    obtain ⟨id, hid⟩ := named upload (List.mem_cons_self ..)
    change wp (recoverUpload platform config userId channelId upload >>= fun _ =>
      uploads.forM (recoverUpload platform config userId channelId)) _ _ w
    rw [wp_bind]
    refine wp_mono (wp_recoverUpload service stays stays' heedless hid start) (fun _ u hu => ?_)
      fun _ h => h
    refine wp_mono (ih (stays'.and (stays_recovered id))
      (fun u hu => named u (List.mem_cons_of_mem _ hu)) hu) (fun _ v hv => ?_)
      fun _ h => ⟨h.1, h.2.1.1, h.2.2⟩
    obtain ⟨held, ⟨⟨hq, first⟩, rest⟩, log⟩ := hv
    refine ⟨held, ⟨hq, fun id' hid' => ?_⟩, log⟩
    rcases List.mem_cons.mp hid' with same | hid'
    · obtain rfl := Option.some.inj (same.trans hid)
      exact first
    · exact rest id' hid'

/-- The channel's row is as it was. -/
def Untouched (row : UserChannel) (db : Db) : Prop := db.userChannels.get row.key = some row

instance (row : UserChannel) (db : Db) : Decidable (Untouched row db) :=
  inferInstanceAs (Decidable (_ = _))

/-- The marker was found, it is the newest upload now, and every upload before
it has its rows. -/
def Recovered (config : PollConfig) (maxPages : Int) (p : Playlist) (row : UserChannel) (db : Db) :
    Prop :=
  ∃ row' marker newer, db.userChannels.get row.key = some row' ∧ row'.isMonitored = row.isMonitored
    ∧ row.lastSeenVideoId = some marker ∧ Reaches marker (window maxPages p) newer
    ∧ row'.lastSeenVideoId = newestId p ∧ ∀ id ∈ newer, db.recovered config row.userId id

variable {row : UserChannel}

theorem stays_untouched : Stays row.key (Untouched row) := fun _ _ _ same h => same.trans h

theorem stays_channel : Stays row.key (Recovered config maxPages (remote row.channel.id) row) := by
  rintro a b within same ⟨row', marker, newer, here, rest, old, reaches, newest, all⟩
  exact ⟨row', marker, newer, same.trans here, rest, old, reaches, newest,
    fun id hid => within.recovered (all id hid)⟩

/-- The copies after a turn without a report. -/
def Moved (config : PollConfig) (maxPages : Int) (remote : Int → Playlist) (row : UserChannel)
    (T : List PollEvent → Prop) : Facts → Prop :=
  Standing remote
    (fun db => Untouched row db ∨ Recovered config maxPages (remote row.channel.id) row db)
    (Recovered config maxPages (remote row.channel.id) row) T

theorem window_newest {p : Playlist} {marker : String} {newer : List String} (valid : marker ≠ "")
    (h : Reaches marker (window maxPages p) newer) : newestId p = (newer ++ [marker]).head? := by
  have whole : p.flatten = window maxPages p ++ (p.drop (pageLimit maxPages)).flatten := by
    rw [window, ← List.flatten_append, List.take_append_drop]
  rw [newestId, whole]
  exact h.newest valid

theorem wp_reconcileChannel (service : config.pipelineService = true) (heedless : Heedless T)
    {marker : String} (valid : marker ≠ "") (old : row.lastSeenVideoId = some marker)
    {w : PollWorld} (start : Standing remote (Untouched row) (Untouched row) T (facts w)) :
    wp (reconcileChannel platform config row.userId maxPages row marker)
      (fun found u => if found then Moved config maxPages remote row T (facts u)
        else Standing remote (Untouched row) (Untouched row) T (facts u))
      (fun u => Standing remote (Untouched row) (Untouched row) T (facts u)) w := by
  have closed : Closed (Standing remote (Untouched row) (Untouched row) T) :=
    closed_standing stays_untouched stays_untouched heedless
  unfold reconcileChannel
  rw [wp_bind]
  refine wp_mono (wp_fetchUploadsSinceMarker closed.request closed.count
    (congrFun start.1.remote row.channel.id) start) (fun r u hu => ?_) fun _ h => h
  obtain ⟨uploads, found⟩ := r
  obtain ⟨hu, reached⟩ := hu
  cases found with
  | false => exact hu
  | true =>
    obtain ⟨newer, reaches, same⟩ := reached rfl
    simp only [if_true]
    have named : ∀ u ∈ uploads.reverse, ∃ id, u.videoId = some id := by
      intro u hu
      have : u.videoId ∈ uploads.map (·.videoId) := List.mem_map_of_mem (List.mem_reverse.mp hu)
      rw [same] at this
      obtain ⟨id, -, hid⟩ := List.mem_map.mp this
      exact ⟨id, hid.symm⟩
    rw [wp_bind]
    refine wp_mono (wp_recoverUploads service stays_untouched stays_untouched heedless named hu)
      (fun _ v hv => ?_) fun _ h => h
    obtain ⟨held, ⟨current, all⟩, log⟩ := hv
    have all : ∀ id ∈ newer, v.state.db.current.recovered config row.userId id := by
      intro id hid
      refine all id ?_
      rw [List.map_reverse, List.mem_reverse, same]
      exact List.mem_map_of_mem hid
    have newest := window_newest (p := remote row.channel.id) valid reaches
    rw [wp_bind, wp_when]
    by_cases none : uploads = []
    · rw [if_neg fun h => h none]
      obtain rfl : newer = [] := by simpa [none] using same.symm
      refine ⟨⟨held.loaded, .inl held.durable, .inl held.flushed, .inl held.current, held.remote⟩,
        ?_, log⟩
      exact ⟨row, marker, [], current, rfl, old, reaches, old.trans newest.symm, all⟩
    · rw [if_pos none]
      have head : uploads.head?.bind (·.videoId) = newestId (remote row.channel.id) := by
        rw [newest]
        cases uploads with
        | nil => exact absurd rfl none
        | cons u uploads =>
          cases newer with
          | nil => cases same
          | cons id newer => exact (List.cons.inj same).1
      have moved : Recovered config maxPages (remote row.channel.id) row
          (v.state.db.current.setChannel { row with
            lastSeenVideoId := uploads.head?.bind (·.videoId) }) := by
        refine ⟨{ row with lastSeenVideoId := uploads.head?.bind (·.videoId) }, marker, newer, ?_,
          rfl, old, reaches, head, fun id hid => (Db.Within.of_eq rfl rfl).recovered (all id hid)⟩
        have found : v.state.db.current.userChannels.get row.key = some row := current
        rw [Db.setChannel, Table.get_alter, found]
        exact if_pos rfl
      exact ⟨⟨held.loaded.trans (.of_eq rfl rfl), .inl held.durable, .inl held.flushed, .inr moved,
        held.remote⟩, moved, log⟩

end turn

/-! A run. -/

/-- A channel is reported. -/
def Reported (channelId : Int) (trace : List PollEvent) : Prop :=
  ∃ error, .channelError error ∈ trace ∧ error.channelId = channelId

def Unreported (channelId : Int) (trace : List PollEvent) : Prop := ¬ Reported channelId trace

section run

variable {platform : PollPlatform} {config : PollConfig} {maxPages : Int} {key : Int × Int}
  {remote : Int → Playlist} {P Q : Db → Prop} {T : List PollEvent → Prop} {row : UserChannel}
  {channelId : Int} {trace : List PollEvent}

theorem Reported.later (h : Reported channelId trace) (e : PollEvent) :
    Reported channelId (e :: trace) := by
  obtain ⟨error, he, own⟩ := h
  exact ⟨error, List.mem_cons_of_mem _ he, own⟩

theorem Unreported.later (h : Unreported channelId trace) {e : PollEvent}
    (other : ∀ error, e = .channelError error → error.channelId ≠ channelId) :
    Unreported channelId (e :: trace) := by
  rintro ⟨error, he, own⟩
  rcases List.mem_cons.mp he with he | he
  · exact other error he.symm own
  · exact h ⟨error, he, own⟩

theorem heedless_reported : Heedless (Reported channelId) := fun e _ _ h => h.later e

theorem heedless_unreported : Heedless (Unreported channelId) :=
  fun _ _ quiet h => h.later fun error same => absurd same (quiet error)

theorem Heedless.or {T' : List PollEvent → Prop} (h : Heedless T) (h' : Heedless T') :
    Heedless fun t => T t ∨ T' t := fun e t quiet => Or.imp (h e t quiet) (h' e t quiet)

theorem heedless_const (p : Prop) : Heedless fun _ => p := fun _ _ _ h => h

theorem served_standing (stays : Stays key P) (stays' : Stays key Q) (heedless : Heedless T) :
    Served (Standing remote P Q T) where
  flush := (closed_standing stays stays' heedless).flush
  commit := (closed_standing stays stays' heedless).commit
  update _ row h := h.edit stays stays' (within_setStage _ row) rfl
  count := (closed_standing stays stays' heedless).count
  quota := (closed_standing stays stays' heedless).quota
  delivery _ _ h := h.edit stays stays' (.of_eq rfl rfl) rfl
  skipped _ _ h := h.note heedless nofun

theorem Served.or {J J' : Facts → Prop} (s : Served J) (s' : Served J') :
    Served fun f => J f ∨ J' f where
  flush f := Or.imp (s.flush f) (s'.flush f)
  commit f := Or.imp (s.commit f) (s'.commit f)
  update f row := Or.imp (s.update f row) (s'.update f row)
  count f q := Or.imp (s.count f q) (s'.count f q)
  quota f q := Or.imp (s.quota f q) (s'.quota f q)
  delivery f d := Or.imp (s.delivery f d) (s'.delivery f d)
  skipped f k := Or.imp (s.skipped f k) (s'.skipped f k)

theorem Kept.or {α : Type} {J J' : Facts → Prop} {p : PollProc α} (h : Kept J p) (h' : Kept J' p) :
    Kept (fun f => J f ∨ J' f) p := by
  intro w hw
  rcases hw with hw | hw
  · exact wp_mono (h w hw) (fun _ _ h => .inl h) fun _ h => .inl h
  · exact wp_mono (h' w hw) (fun _ _ h => .inr h) fun _ h => .inr h

/-- The turn of another channel. -/
theorem standing_otherTurn {k : Int × Int} {userId : Int} (stays : Stays row.key P)
    (stays' : Stays row.key Q) (heedless : Heedless T)
    (report : ∀ error t, error.channelId ≠ row.channel.id → T t → T (.channelError error :: t))
    (apart : k ≠ row.key) (other : k.2 ≠ row.channel.id) :
    Kept (Standing remote P Q T) (reconcileTurn platform config userId maxPages k) := by
  have closed : Closed (Standing remote P Q T) := closed_standing stays stays' heedless
  refine kept_reconcileTurn closed.toTended (p := remote k.2) (fun f h => by rw [h.1.remote])
    (fun f v videos inserted _ h => ?_) (fun f id rows db _ _ added h => ?_)
    (fun f key h => h.note heedless nofun) (fun f r own h => ?_) fun f e own h => ?_
  · exact h.edit stays stays' (within_addVideo inserted) rfl
  · obtain ⟨grown, -, channels⟩ := within_addStages added
    exact closed.flush _ (h.edit stays stays' grown (by rw [channels]))
  · refine h.edit stays stays' (.of_eq rfl rfl) ?_
    rw [Db.setChannel, Table.get_alter, if_neg]
    rw [own]
    exact fun same => apart same.symm
  · exact ⟨h.1.note _, h.2.1, report e _ (own ▸ other) h.2.2⟩

/-- Before the channel's turn. -/
def Before (remote : Int → Playlist) (row : UserChannel) : Facts → Prop :=
  Standing remote (Untouched row) (Untouched row) (Unreported row.channel.id)

/-- After it: a channel that is reported, or had no turn, is as it was. -/
def After (config : PollConfig) (maxPages : Int) (remote : Int → Playlist) (row : UserChannel)
    (f : Facts) : Prop :=
  Standing remote (Untouched row) (Untouched row)
      (fun t => Reported row.channel.id t ∨ row.isMonitored = false) f
    ∨ Moved config maxPages remote row (Unreported row.channel.id) f

theorem stays_either : Stays row.key fun db =>
    Untouched row db ∨ Recovered config maxPages (remote row.channel.id) row db :=
  fun a b within same => Or.imp (stays_untouched a b within same) (stays_channel a b within same)

theorem closed_after : Closed (After config maxPages remote row) :=
  (closed_standing stays_untouched stays_untouched (heedless_reported.or (heedless_const _))).or
    (closed_standing stays_either stays_channel heedless_unreported)

theorem served_after : Served (After config maxPages remote row) :=
  (served_standing stays_untouched stays_untouched (heedless_reported.or (heedless_const _))).or
    (served_standing stays_either stays_channel heedless_unreported)

/-- The channel's own turn. -/
theorem wp_reconcileTurn (service : config.pipelineService = true) {lost : PollWorld → Prop}
    {w : PollWorld} (start : Before remote row (facts w)) :
    wp (reconcileTurn platform config row.userId maxPages row.key)
      (fun _ u => After config maxPages remote row (facts u)) lost w := by
  have failed : ∀ code message u, Before remote row (facts u) →
      wp (recordError (reconciliationError row.channel code message))
        (fun _ u => After config maxPages remote row (facts u)) lost u := by
    intro code message u hu
    refine .inl ⟨hu.1.note _, hu.2.1, .inl ⟨_, List.mem_cons_self .., rfl⟩⟩
  have found : w.state.db.current.userChannels.get row.key = some row := start.2.1
  unfold reconcileTurn
  rw [wp_bind, wp_inMemory]
  simp only [found]
  by_cases missing : row.baselineEstablishedAt.isNone ∨ row.lastSeenVideoId.getD "" = ""
  · rw [if_pos missing]
    exact failed _ _ w start
  · rw [if_neg missing, wp_bind, wp_attempt]
    obtain ⟨-, valid⟩ := not_or.mp missing
    have old : row.lastSeenVideoId = some (row.lastSeenVideoId.getD "") := by
      cases hl : row.lastSeenVideoId with
      | none => exact absurd (by rw [hl]; rfl) valid
      | some id => rfl
    refine wp_mono (wp_reconcileChannel service heedless_unreported valid old start)
      (fun result u hu => ?_) fun u hu => failed _ _ u hu
    cases result with
    | true => exact .inr hu
    | false => exact failed _ _ u hu

/-- Where a run is lost. -/
def Left (config : PollConfig) (maxPages : Int) (remote : Int → Playlist) (row : UserChannel)
    (f : Facts) : Prop :=
  Standing remote (Untouched row) (Untouched row) (fun _ => True) f
    ∨ Moved config maxPages remote row (Unreported row.channel.id) f

theorem After.left {f : Facts} (h : After config maxPages remote row f) :
    Left config maxPages remote row f := h.imp (fun h => ⟨h.1, h.2.1, trivial⟩) id

theorem Before.left {f : Facts} (h : Before remote row f) : Left config maxPages remote row f :=
  .inl ⟨h.1, h.2.1, trivial⟩

theorem reconcileMissingUploads_after (service : config.pipelineService = true) {process : Bool}
    {w : PollWorld} (start : Before remote row (facts w)) :
    wp (reconcileMissingUploads platform config row.userId maxPages process)
      (fun _ u => After config maxPages remote row (facts u))
      (fun u => Left config maxPages remote row (facts u)) w := by
  have before : Served (Before remote row) :=
    served_standing stays_untouched stays_untouched heedless_unreported
  refine wp_reconcileMissingUploads before served_after (fun _ h => h.left) (fun _ h => h.left)
    ?_ (fun w start => ?_) start
  · exact Kept.ite (fun _ => kept_processRecovered closed_after.toStored served_after.toUpdated)
      fun _ => kept_pipelineUpdate served_after.toUpdated
  · have seen : w.state.db.flushed.userChannels.get row.key = some row := start.1.flushed
    have apart : ∀ k ∈ w.state.db.flushed.monitored row.userId, k ≠ row.key →
        k.2 ≠ row.channel.id := by
      intro k hk other same
      obtain ⟨r, hr, listed⟩ := Table.mem_select.mp hk
      simp only [Bool.and_eq_true, decide_eq_true_eq] at listed
      refine other (Prod.ext ?_ same)
      rw [← Table.key_of_get hr]
      exact listed.1
    have report : ∀ error t, error.channelId ≠ row.channel.id → Reported row.channel.id t
        ∨ row.isMonitored = false → Reported row.channel.id (.channelError error :: t)
        ∨ row.isMonitored = false := fun error t _ => Or.imp (·.later _) id
    have unreported : ∀ error t, error.channelId ≠ row.channel.id → Unreported row.channel.id t →
        Unreported row.channel.id (.channelError error :: t) := by
      intro error t other h
      exact h.later fun error' same => by cases same; exact other
    have others : ∀ k ∈ w.state.db.flushed.monitored row.userId, k ≠ row.key →
        Kept (Before remote row) (reconcileTurn platform config row.userId maxPages k) :=
      fun k hk other => standing_otherTurn stays_untouched stays_untouched heedless_unreported
        unreported other (apart k hk other)
    by_cases mine : row.key ∈ w.state.db.flushed.monitored row.userId
    · refine wp_forM_once (fun u => Before remote row (facts u))
        (fun u => After config maxPages remote row (facts u)) mine Table.select_nodup
        (fun k hk other u hu => ?_) (fun u hu => wp_reconcileTurn service hu)
        (fun k hk other u hu => ?_) start
      · exact wp_mono (others k hk other u hu) (fun _ _ h => h) fun _ h => h.left
      · refine wp_mono (Kept.or ?_ ?_ u hu) (fun _ _ h => h) fun _ h => After.left h
        · exact standing_otherTurn stays_untouched stays_untouched
            (heedless_reported.or (heedless_const _)) report other (apart k hk other)
        · exact standing_otherTurn stays_either stays_channel heedless_unreported unreported other
            (apart k hk other)
    · have idle : row.isMonitored = false := by
        cases monitored : row.isMonitored with
        | false => rfl
        | true => exact absurd (Table.mem_select.mpr ⟨row, seen, by simp [monitored]⟩) mine
      have loop : Kept (Before remote row) ((w.state.db.flushed.monitored row.userId).forM
          fun k => reconcileTurn platform config row.userId maxPages k) :=
        Kept.forM fun k hk => others k hk fun same => mine (same ▸ hk)
      exact wp_mono (loop w start) (fun _ _ h => .inl ⟨h.1, h.2.1, .inr idle⟩) fun _ h => h.left

end run

/-! Requests. -/

structure ReconciliationRequest where
  config : PollConfig
  userId : Int
  maxPages : Int
  process : Bool
  replies : List PollReply

def reconcile (platform : PollPlatform) (request : ReconciliationRequest) (w : PollWorld) :
    Option ReconciliationSummary × PollWorld :=
  match (reconcileRoute platform request.config request.userId request.maxPages request.process).run
      { w with replies := request.replies } with
  | (some summary, v) => (summary, v)
  | (none, v) => (none, abandon v)

section requests

variable {platform : PollPlatform} {request : ReconciliationRequest} {remote : Int → Playlist}
  {row : UserChannel}

/-- The rule of requests: `D` where a summary is returned, `L` where the run is
lost and rolled back. -/
theorem reconcile_of_wp (platform : PollPlatform) (request : ReconciliationRequest)
    {K L D B : Facts → Prop} {w : PollWorld}
    (run : ∀ u : PollWorld,
      facts u = ⟨w.state.opened.db, w.state.remote, w.state.quota, .started :: w.trace⟩ →
      wp (reconcileMissingUploads platform request.config request.userId request.maxPages
        request.process) (fun _ u => K (facts u)) (fun u => L (facts u)) u)
    (late : ∀ f, K f → L f) (committed : ∀ f, K f → D f.commit) (back : ∀ f, L f → B f.rollback) :
    match reconcile platform request w with
    | (some _, v) => D (facts v)
    | (none, v) => B (facts v) := by
  have route : wp (reconcileRoute platform request.config request.userId request.maxPages
      request.process) (fun r u => if r.isSome then D (facts u) else B (facts u))
      (fun _ => False) { w with replies := request.replies } := by
    unfold reconcileRoute
    rw [wp_bind, wp_openSession, wp_bind, wp_attempt, wp_bind]
    refine wp_mono (run _ rfl) (fun summary u hu => ?_) fun u hu => back (facts u) hu
    rw [wp_bind]
    exact wp_mono (wp_commit hu committed) (fun _ _ h => h) fun u hu => back (facts u) (late _ hu)
  revert route
  unfold wp reconcile Proc.run
  cases reconcileRoute platform request.config request.userId request.maxPages request.process
    { w with replies := request.replies } with
  | mk r v =>
    cases r with
    | none => exact False.elim
    | some r => cases r <;> exact id

/-- A request that returns has had every turn. -/
theorem reconcile_after (platform : PollPlatform) (service : request.config.pipelineService = true)
    (mine : row.userId = request.userId) {w : PollWorld} (known : Untouched row w.state.db.durable)
    (quiet : Unreported row.channel.id w.trace) :
    match reconcile platform request w with
    | (some _, v) => After request.config request.maxPages w.state.remote row (facts v)
        ∧ v.state.db.durable = v.state.db.current
    | (none, v) => Untouched row v.state.db.durable ∨ (Unreported row.channel.id v.trace
        ∧ Recovered request.config request.maxPages (w.state.remote row.channel.id) row
          v.state.db.durable) := by
  refine reconcile_of_wp platform request (K := After request.config request.maxPages w.state.remote row)
    (L := Left request.config request.maxPages w.state.remote row) (D := fun f =>
      After request.config request.maxPages w.state.remote row f ∧ f.db.durable = f.db.current)
    (B := fun f => Untouched row f.db.durable ∨ (Unreported row.channel.id f.trace
        ∧ Recovered request.config request.maxPages (w.state.remote row.channel.id) row
          f.db.durable))
    (fun u hu => ?_) (fun _ h => h.left) (fun f h => ⟨closed_after.commit f h, rfl⟩) (fun f h => ?_)
  · rw [← mine]
    refine reconcileMissingUploads_after service ?_
    rw [hu]
    refine ⟨⟨.refl _, known, known, known, rfl⟩, known, ?_⟩
    exact quiet.later fun error same => by cases same
  · rcases h with h | h
    · exact .inl h.1.durable
    · refine h.1.durable.imp id fun recovered => ⟨?_, recovered⟩
      exact h.2.2.later fun error same => by cases same

end requests

end YTPipe.Polling
