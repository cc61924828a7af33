import YTPipe.Polling.Reconciliation
import YTPipe.Polling.Session

/-!
# Paging back to the marker

What is found of a playlist before the marker, and what the parts of a
reconciliation keep.
-/

namespace YTPipe.Polling

open Proc

/-! Paging. -/

/-- The video ids of items, without those that are missing or empty. -/
def validIds (items : List PlaylistItem) : List String :=
  (items.filterMap (·.videoId)).filter (· ≠ "")

def newestId (p : Playlist) : Option String := (validIds p.flatten).head?

/-- What is paged of a playlist. -/
def window (maxPages : Int) (p : Playlist) : List PlaylistItem :=
  (p.take (pageLimit maxPages)).flatten

/-- The marker is among the items, with these uploads before it. -/
def Reaches (marker : String) (items : List PlaylistItem) (newer : List String) : Prop :=
  ∃ before item after, items = before ++ item :: after ∧ item.videoId = some marker
    ∧ (∀ x ∈ before, x.videoId ≠ some marker) ∧ validIds before = newer

section paging

variable {platform : PollPlatform} {config : PollConfig} {marker : String}
  {items more : List PlaylistItem} {newer : List String} {uploads u : List LatestUpload}

theorem validIds_append (items more : List PlaylistItem) :
    validIds (items ++ more) = validIds items ++ validIds more := by
  simp only [validIds, List.filterMap_append, List.filter_append]

theorem validIds_cons_skip {item : PlaylistItem} (h : item.videoId.getD "" = "") :
    validIds (item :: items) = validIds items := by
  obtain ⟨videoId, title, published⟩ := item
  cases videoId with
  | none => rfl
  | some id =>
    obtain rfl : id = "" := h
    simp [validIds]

theorem validIds_cons {item : PlaylistItem} {id : String} (named : item.videoId = some id)
    (h : id ≠ "") : validIds (item :: items) = id :: validIds items := by
  simp [validIds, named, h]

theorem Reaches.extend (h : Reaches marker items newer) : Reaches marker (items ++ more) newer := by
  obtain ⟨before, item, after, rfl, found, fresh, same⟩ := h
  exact ⟨before, item, after ++ more, by rw [List.append_assoc, List.cons_append], found, fresh, same⟩

theorem Reaches.later (h : Reaches marker items newer) (none : ∀ x ∈ more, x.videoId ≠ some marker) :
    Reaches marker (more ++ items) (validIds more ++ newer) := by
  obtain ⟨before, item, after, rfl, found, fresh, rfl⟩ := h
  refine ⟨more ++ before, item, after, by rw [List.append_assoc], found, fun x hx => ?_,
    validIds_append more before⟩
  rcases List.mem_append.mp hx with hx | hx
  · exact none x hx
  · exact fresh x hx

/-- The newest upload is the first before the marker, or the marker. -/
theorem Reaches.newest (h : Reaches marker items newer) (valid : marker ≠ "") :
    (validIds (items ++ more)).head? = (newer ++ [marker]).head? := by
  obtain ⟨before, item, after, rfl, found, -, rfl⟩ := h
  rw [List.append_assoc, List.cons_append, validIds_append, validIds_cons found valid]
  cases validIds before <;> rfl

/-- A page with the marker. -/
theorem scanPage_found (h : scanPage platform marker items uploads = .ok (u, true)) :
    ∃ newer, Reaches marker items newer
      ∧ u.map (·.videoId) = uploads.map (·.videoId) ++ newer.map some := by
  induction items generalizing uploads with
  | nil => cases h
  | cons item items ih =>
    unfold scanPage at h
    split at h
    · next found =>
      cases h
      exact ⟨[], ⟨[], item, items, rfl, found, nofun, rfl⟩, by simp⟩
    · next other =>
      have alone : ∀ x ∈ [item], x.videoId ≠ some marker := by
        intro x hx
        rwa [List.mem_singleton.mp hx]
      split at h
      · next missing =>
        obtain ⟨newer, reaches, same⟩ := ih h
        have := reaches.later alone
        rw [validIds_cons_skip missing] at this
        exact ⟨newer, this, same⟩
      · next valid =>
        split at h
        · cases h
        · obtain ⟨newer, reaches, same⟩ := ih h
          obtain ⟨id, named⟩ : ∃ id, item.videoId = some id := by
            cases hv : item.videoId with
            | none => exact absurd (by rw [hv]; rfl) valid
            | some id => exact ⟨id, rfl⟩
          rw [named, Option.getD_some] at valid
          have := reaches.later alone
          rw [validIds_cons named valid] at this
          exact ⟨id :: newer, this, by simp [same, named]⟩

/-- A page without the marker. -/
theorem scanPage_rest (h : scanPage platform marker items uploads = .ok (u, false)) :
    (∀ x ∈ items, x.videoId ≠ some marker)
      ∧ u.map (·.videoId) = uploads.map (·.videoId) ++ (validIds items).map some := by
  induction items generalizing uploads with
  | nil =>
    cases h
    exact ⟨nofun, by simp [validIds]⟩
  | cons item items ih =>
    unfold scanPage at h
    split at h
    · cases h
    · next other =>
      split at h
      · next missing =>
        obtain ⟨rest, same⟩ := ih h
        refine ⟨fun x hx => ?_, by rw [validIds_cons_skip missing, same]⟩
        rcases List.mem_cons.mp hx with rfl | hx
        · exact other
        · exact rest x hx
      · next valid =>
        split at h
        · cases h
        · obtain ⟨rest, same⟩ := ih h
          obtain ⟨id, named⟩ : ∃ id, item.videoId = some id := by
            cases hv : item.videoId with
            | none => exact absurd (by rw [hv]; rfl) valid
            | some id => exact ⟨id, rfl⟩
          rw [named, Option.getD_some] at valid
          refine ⟨fun x hx => ?_, by simp [validIds_cons named valid, same, named]⟩
          rcases List.mem_cons.mp hx with rfl | hx
          · exact other
          · exact rest x hx

/-- Where the marker is found, the uploads are the ones before it. -/
theorem wp_fetchPages {J : Facts → Prop} (request : ∀ f q, J f → J (f.note (.request q)))
    (count : ∀ f q, J f → J (f.count q)) (n : Nat) {pages : Playlist} {uploads : List LatestUpload}
    {w : PollWorld} (start : J (facts w)) :
    wp (fetchPages platform config marker n pages uploads)
      (fun r v => J (facts v) ∧ (r.2 = true → ∃ newer, Reaches marker (pages.take n).flatten newer
        ∧ r.1.map (·.videoId) = uploads.map (·.videoId) ++ newer.map some))
      (fun v => J (facts v)) w := by
  induction n generalizing pages uploads w with
  | zero => exact ⟨start, nofun⟩
  | succ n ih =>
    unfold fetchPages
    rw [wp_bind]
    refine wp_mono (kept_read (J := J) w start) (fun s w start => ?_) fun _ h => h
    split
    · exact start
    · rw [wp_bind]
      refine wp_mono (kept_setQuota (J := J) count _ w start) (fun _ w start => ?_) fun _ h => h
      rw [wp_bind]
      refine wp_mono (kept_request request w start) (fun answer w start => ?_) fun _ h => h
      have pages_split : (pages.take (n + 1)).flatten
          = pages.headD [] ++ (pages.tail.take n).flatten := by
        cases pages <;> simp
      rw [pages_split]
      cases answer with
      | error e => exact start
      | ok =>
        simp only []
        split
        · exact start
        · next found =>
          obtain ⟨newer, reaches, same⟩ := scanPage_found found
          exact ⟨start, fun _ => ⟨newer, reaches.extend, same⟩⟩
        · next u rest =>
          obtain ⟨none, same⟩ := scanPage_rest rest
          split
          · exact ⟨start, nofun⟩
          · refine wp_mono (ih start) (fun r v hv => ⟨hv.1, fun found => ?_⟩) fun _ h => h
            obtain ⟨newer, reaches, same'⟩ := hv.2 found
            exact ⟨_, reaches.later none, by simp [same', same]⟩

/-- Of a usable playlist the uploads before the marker are read, where it is found. -/
theorem wp_fetchUploadsSinceMarker {J : Facts → Prop}
    (request : ∀ f q, J f → J (f.note (.request q))) (count : ∀ f q, J f → J (f.count q))
    {channel : Channel} {maxPages : Int} {p : Playlist} {w : PollWorld}
    (playlist : w.state.remote channel.id = p) (start : J (facts w)) :
    wp (fetchUploadsSinceMarker platform config channel marker maxPages)
      (fun r v => J (facts v) ∧ (r.2 = true → ∃ newer,
        Reaches marker (p.take (pageLimit maxPages)).flatten newer
          ∧ r.1.map (·.videoId) = newer.map some))
      (fun v => J (facts v)) w := by
  unfold fetchUploadsSinceMarker
  split
  · exact start
  · rw [wp_bind, wp_read, playlist]
    exact wp_fetchPages request count _ start

end paging

/-! A reconciliation. -/

section parts

variable {platform : PollPlatform} {config : PollConfig} {J : Facts → Prop}

theorem kept_recordError {error : ChannelError}
    (report : ∀ f, J f → J (f.note (.channelError error))) : Kept J (recordError error) :=
  Kept.bind (kept_setTally _) fun _ => kept_emit fun s t hs => report ⟨s.db, s.remote, s.quota, t⟩ hs

theorem mem_ids_of_reaches {p : Playlist} {marker : String} {maxPages : Int} {newer : List String}
    (h : Reaches marker (window maxPages p) newer) : ∀ id ∈ newer, id ∈ ids p := by
  obtain ⟨before, item, after, split, -, -, rfl⟩ := h
  intro id hid
  obtain ⟨x, hx, named⟩ := List.mem_filterMap.mp (List.mem_filter.mp hid).1
  refine List.mem_filterMap.mpr ⟨x, ?_, named⟩
  have inside : x ∈ window maxPages p := split ▸ List.mem_append_left _ hx
  obtain ⟨page, hp, hx⟩ := List.mem_flatten.mp inside
  exact List.mem_flatten.mpr ⟨page, List.mem_of_mem_take hp, hx⟩

/-- A turn tries its channel, where it has a baseline, and reports what fails. -/
theorem wp_turn {k : Int × Int} {userId maxPages : Int} {w : PollWorld} (start : J (facts w))
    (report : ∀ f e, e.channelId = k.2 → J f → J (f.note (.channelError e)))
    (try_ : ∀ row, w.state.db.current.userChannels.get k = some row → row.key = k →
      ¬ (row.baselineEstablishedAt.isNone ∨ row.lastSeenVideoId.getD "" = "") →
      wp (reconcileChannel platform config userId maxPages row (row.lastSeenVideoId.getD ""))
        (fun _ v => J (facts v)) (fun v => J (facts v))
        { w with state := { w.state with exception := .other "" } }) :
    wp (reconcileTurn platform config userId maxPages k) (fun _ v => J (facts v))
      (fun v => J (facts v)) w := by
  unfold reconcileTurn
  rw [wp_bind, wp_inMemory]
  cases found : w.state.db.current.userChannels.get k with
  | none => exact start
  | some row =>
    have own : row.key = k := Table.key_of_get found
    have failed (code message : String) :
        Kept J (recordError (reconciliationError row.channel code message)) :=
      kept_recordError fun f hf => report f _ (congrArg Prod.snd own) hf
    dsimp only
    split
    · exact failed _ _ w start
    · next usable =>
      rw [wp_bind, wp_attempt]
      refine wp_mono (try_ row found own usable) (fun reached v hv => ?_) fun v hv => failed _ _ v hv
      cases reached with
      | true => exact hv
      | false => exact failed _ _ v hv

/-- A channel's try recovers the uploads before the marker, and moves it. -/
theorem wp_channel {row : UserChannel} {userId maxPages : Int} {marker : String}
    {w : PollWorld} (write : ∀ f r, r.key = row.key → J f → J (f.edit (·.setChannel r)))
    (recover : wp (fetchUploadsSinceMarker platform config row.channel marker maxPages)
      (fun r v => J (facts v) ∧ (r.2 = true →
        wp (r.1.reverse.forM (recoverUpload platform config userId row.channel.id))
          (fun _ u => J (facts u)) (fun u => J (facts u)) v)) (fun v => J (facts v)) w) :
    wp (reconcileChannel platform config userId maxPages row marker) (fun _ v => J (facts v))
      (fun v => J (facts v)) w := by
  unfold reconcileChannel
  rw [wp_bind]
  refine wp_mono recover (fun r v hv => ?_) fun _ h => h
  obtain ⟨uploads, marked⟩ := r
  cases marked with
  | false => exact hv.1
  | true =>
    simp only [if_true]
    have moved : Kept J (do
        Proc.when (uploads ≠ []) do
          setChannel { row with lastSeenVideoId := uploads.head?.bind (·.videoId) }
          setTally fun t => { t with videosDiscovered := t.videosDiscovered + uploads.length }
        setTally fun t => { t with channelsProcessed := t.channelsProcessed + 1 }
        return true) := by
      refine Kept.bind (Kept.when fun _ => ?_) fun _ => Kept.bind (kept_setTally _) fun _ =>
        Kept.pure _
      exact Kept.bind (kept_edit fun f hf => write f _ rfl hf) fun _ => kept_setTally _
    rw [wp_bind]
    exact wp_mono (hv.2 rfl) (fun _ u hu => moved u hu) fun _ h => h

/-- A turn keeps what its writes keep: the rows it adds are for uploads of the
channel. -/
theorem kept_reconcileTurn (t : Tended J) {k : Int × Int} {p : Playlist} {userId maxPages : Int}
    (playlist : ∀ f, J f → f.remote k.2 = p)
    (addVideo : ∀ f v videos, f.db.current.videos.insert v = some videos →
      v.youtubeVideoId ∈ ids p → J f → J (f.edit fun db => { db with videos := videos }))
    (addRows : ∀ f id rows db, id ∈ ids p → (∀ row ∈ rows, row.userId = userId ∧ row.videoId = id) →
      addStages rows f.db.current = some db → J f → J (f.edit fun _ => db).flush)
    (staged : ∀ f key, J f → J (f.note (.staged key)))
    (write : ∀ f r, r.key = k → J f → J (f.edit (·.setChannel r)))
    (report : ∀ f e, e.channelId = k.2 → J f → J (f.note (.channelError e))) :
    Kept J (reconcileTurn platform config userId maxPages k) := by
  intro w start
  refine wp_turn start report fun row found own _ => ?_
  subst own
  refine wp_channel write ?_
  refine wp_mono (wp_fetchUploadsSinceMarker t.request t.count
    (playlist _ start : w.state.remote row.channel.id = p) start)
    (fun r u hu => ⟨hu.1, fun marked => ?_⟩) fun _ h => h
  obtain ⟨hu, reached⟩ := hu
  obtain ⟨newer, reaches, same⟩ := reached marked
  refine Kept.forM (fun upload hupload => ?_) u hu
  have listed : upload.videoId ∈ newer.map some := by
    rw [← same]
    exact List.mem_map_of_mem (List.mem_reverse.mp hupload)
  obtain ⟨id, hid, named⟩ := List.mem_map.mp listed
  have mine : id ∈ ids p := mem_ids_of_reaches reaches id hid
  have own : upload.videoId.getD "" = id := by
    rw [← named]
    rfl
  unfold recoverUpload
  intro w start
  rw [wp_bind]
  refine wp_mono (wp_and (kept_getOrCreateVideo t.toSaved (fun f v videos inserted _ same hf =>
    addVideo f v videos inserted (by rw [same, own]; exact mine) hf) w start)
    getOrCreateVideo_id) (fun a v hv => ?_) fun _ h => h.1
  obtain ⟨hv, rfl⟩ := hv
  rw [own]
  refine Kept.bind (kept_attemptDetectAndMarkShort t id) (fun _ => ?_) v hv
  refine Kept.bind kept_inMemory fun db => Kept.when fun _ => ?_
  exact kept_createStagesForVideo (fun f rows db own added hf =>
    addRows f id rows db mine own added hf) fun f name hf => staged f _ hf

/-- What an update of the stages keeps. -/
structure Updated (J : Facts → Prop) : Prop where
  flush : ∀ f, J f → J f.flush
  commit : ∀ f, J f → J f.commit
  update : ∀ f row, J f → J (f.edit (·.setStage row))

/-- What the rest of a reconciliation keeps. -/
structure Served (J : Facts → Prop) : Prop extends Updated J where
  count : ∀ f q, J f → J (f.count q)
  quota : ∀ f q, J f → J (f.edit fun db => { db with quota := q })
  delivery : ∀ f d, J f → J (f.edit (·.setDelivery d))
  skipped : ∀ f k, J f → J (f.note (.skipped k))

theorem kept_pipelineUpdate (s : Updated J) : Kept J (pipelineUpdate config) := by
  unfold pipelineUpdate
  refine Kept.ite (fun _ => ?_) fun _ => Kept.pure _
  refine Kept.bind (kept_call _) fun answer => ?_
  obtain ⟨effects, raises⟩ := answer
  refine Kept.bind (Kept.forM fun effect _ => ?_) fun _ => ?_
  · cases effect with
    | flush => exact kept_flushSession s.flush
    | commit => exact kept_commitSession s.commit
    | stage row => exact kept_edit fun f => s.update f row
  · cases raises with
    | some message => exact kept_raise _
    | none => exact Kept.pure _

theorem kept_processRecovered (c : Stored J) (s : Updated J) : Kept J (processRecovered config) := by
  unfold processRecovered
  refine Kept.bind (kept_commit s.commit) fun _ => ?_
  refine Kept.bind (kept_attempt ?_) fun result => ?_
  · refine Kept.bind (kept_pipelineWork c) fun _ => ?_
    exact Kept.bind (kept_pipelineWork c) fun _ => kept_pipelineUpdate s
  · cases result with
    | ok => exact Kept.pure _
    | error e =>
      refine Kept.bind (kept_mayFlush s.flush) fun _ => ?_
      exact Kept.bind (kept_commit s.commit) fun _ => kept_raise _

/-- The run rule: `J` up to the channel loop, `J'` after it, `L` where the run
is lost. -/
theorem wp_reconcileMissingUploads {J' L : Facts → Prop} (s : Served J) (s' : Served J')
    (early : ∀ f, J f → L f) (late : ∀ f, J' f → L f) {userId maxPages : Int} {process : Bool}
    (finish : Kept J' (finishPipeline config process))
    (loop : ∀ w : PollWorld, J (facts w) → wp ((w.state.db.flushed.monitored userId).forM
        fun key => reconcileTurn platform config userId maxPages key)
      (fun _ v => J' (facts v)) (fun v => L (facts v)) w)
    {w : PollWorld} (start : J (facts w)) :
    wp (reconcileMissingUploads platform config userId maxPages process)
      (fun _ u => J' (facts u)) (fun u => L (facts u)) w := by
  have first : ∀ {α : Type} {p : PollProc α} {post : α → PollWorld → Prop} {u : PollWorld},
      Kept J p → J (facts u) → (∀ a x, J (facts x) → post a x) →
      wp p post (fun x => L (facts x)) u :=
    fun hp hu next => wp_mono (hp _ hu) next fun _ h => early _ h
  unfold reconcileMissingUploads
  rw [wp_bind]
  refine first kept_utcNow start fun now w start => ?_
  rw [wp_bind]
  refine first (kept_mayFlush s.flush) start fun _ w start => ?_
  rw [wp_bind]
  refine first kept_inMemory start fun db w start => ?_
  rw [wp_bind]
  refine first (kept_setQuota s.count _) start fun _ w start => ?_
  rw [wp_bind]
  refine first (kept_pipelineUpdate s.toUpdated) start fun _ w start => ?_
  rw [wp_bind]
  refine first (kept_skipDisabledShortDeliveries s.delivery s.skipped userId) start
    fun _ w start => ?_
  rw [wp_bind]
  refine first (kept_mayFlush s.flush) start fun _ w start => ?_
  rw [wp_bind, wp_visible, wp_bind]
  refine wp_mono (loop w start) (fun _ u hu => ?_) fun _ h => h
  have rest : Kept J' (do
      flush
      writeQuotaState
      finishPipeline config process
      mayFlush
      flush
      let t := (← Proc.read).tally
      return ReconciliationSummary.mk t.channelsProcessed t.channelsFailed t.videosDiscovered
        t.channelErrors) := by
    refine Kept.bind (kept_flush s'.flush) fun _ => Kept.bind ?_ fun _ => Kept.bind finish fun _ => ?_
    · exact Kept.bind kept_read fun s => kept_edit fun f => s'.quota f _
    · refine Kept.bind (kept_mayFlush s'.flush) fun _ => Kept.bind (kept_flush s'.flush) fun _ => ?_
      exact Kept.bind kept_read fun _ => Kept.pure _
  exact wp_mono (rest u hu) (fun _ _ h => h) fun _ h => late _ h

end parts

end YTPipe.Polling
