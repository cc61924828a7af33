import YTPipe.Polling.Poll

/-!
# What the parts of a poll keep

A property of the facts that is closed under flushes, commits, stage writes and
the writing of videos holds after the parts of a run that do nothing else.
-/

namespace YTPipe.Polling

open Proc

/-- What flushes and writes to the videos that are there keep. -/
structure Saved (J : Facts → Prop) : Prop where
  flush : ∀ f, J f → J f.flush
  video : ∀ f v old, f.db.current.videos.get v.youtubeVideoId = some old →
    (∀ short, old.isShort = some short → v.isShort = some short) → J f → J (f.edit (·.setVideo v))

/-- What requests keep as well, with the count of their units. -/
structure Tended (J : Facts → Prop) : Prop extends Saved J where
  request : ∀ f q, J f → J (f.note (.request q))
  count : ∀ f q, J f → J (f.count q)

/-- What flushes, commits and writes to stages and videos keep. -/
structure Stored (J : Facts → Prop) : Prop extends Saved J where
  commit : ∀ f, J f → J f.commit
  stage : ∀ f row, J f → J (f.edit (·.putStage row))
  addVideo : ∀ f v videos, f.db.current.videos.insert v = some videos → v.isShort = none →
    J f → J (f.edit fun db => { db with videos := videos })

/-- What all work on the session keeps that writes no channel and no delivery. -/
structure Closed (J : Facts → Prop) : Prop extends Tended J, Stored J where
  quota : ∀ f q, J f → J (f.edit fun db => { db with quota := q })

variable {platform : PollPlatform} {config : PollConfig} {J : Facts → Prop}

theorem kept_request {β : Type} {view : PollReply → Option β}
    (h : ∀ f q, J f → J (f.note (.request q))) : Kept J (request view) := by
  unfold request
  refine Kept.bind (kept_emit fun s t hs => ?_) fun _ => kept_ask _
  exact h ⟨s.db, s.remote, s.quota, t⟩ s.quota hs

theorem kept_pipelineEffect (c : Stored J) (effect : PipelineEffect) :
    Kept J (pipelineEffect effect) := by
  cases effect with
  | flush => exact kept_flushSession c.flush
  | commit => exact kept_commitSession c.commit
  | stage row => exact kept_edit fun f => c.stage f row

theorem kept_pipelineWork (c : Stored J) : Kept J (pipelineWork config) := by
  unfold pipelineWork
  refine Kept.ite (fun _ => ?_) fun _ => Kept.pure _
  refine Kept.bind (kept_call _) fun answer => ?_
  obtain ⟨effects, raises⟩ := answer
  refine Kept.bind (Kept.forM fun effect _ => kept_pipelineEffect c effect) fun _ => ?_
  cases raises with
  | some message => exact kept_raise _
  | none => exact Kept.pure _

theorem kept_writeQuotaState (c : Closed J) : Kept J writeQuotaState := by
  unfold writeQuotaState
  exact Kept.bind kept_read fun s => kept_edit fun f => c.quota f _

theorem kept_fetchLatestUpload (h : ∀ f q, J f → J (f.note (.request q))) (channel : Channel) :
    Kept J (fetchLatestUpload platform channel) := by
  unfold fetchLatestUpload
  refine Kept.ite (fun _ => kept_raise _) fun _ => ?_
  refine Kept.bind (kept_request h) fun answer => ?_
  cases answer with
  | error e =>
    obtain ⟨unusable, message⟩ := e
    cases unusable <;> exact kept_raise _
  | ok =>
    refine Kept.bind kept_read fun s => ?_
    split
    · exact Kept.pure _
    · split
      · exact kept_raise _
      · exact Kept.pure _

/-- A lookup counts its unit, and then asks. -/
theorem wp_lookupDuration (h : ∀ f q, J f → J (f.note (.request q))) {w : PollWorld}
    (counted : J ((facts w).count (countUnit w.state.quota))) :
    wp (fetchVideoDurationSeconds platform) (fun _ v => J (facts v)) (fun v => J (facts v)) w := by
  unfold fetchVideoDurationSeconds
  rw [wp_bind]
  refine Kept.bind (kept_request h) (fun answer => ?_) _ counted
  split
  · exact kept_raise _
  · exact Kept.pure _
  · exact Kept.pure _
  · split
    · exact kept_raise _
    · exact Kept.pure _

theorem kept_fetchVideoDurationSeconds (h : ∀ f q, J f → J (f.note (.request q)))
    (count : ∀ f q, J f → J (f.count q)) : Kept J (fetchVideoDurationSeconds platform) :=
  fun _ hw => wp_lookupDuration h (count _ _ hw)

/-- Rows are added and flushed, or the call raises. -/
theorem wp_addAndFlush {K : Facts → Prop} {add : Db → Option Db} {w : PollWorld}
    (start : J (facts w))
    (added : ∀ f db, add f.db.current = some db → J f → K (f.edit fun _ => db).flush) :
    wp (addAndFlush add) (fun _ u => K (facts u)) (fun u => J (facts u)) w := by
  unfold addAndFlush
  rw [wp_bind]
  refine wp_mono (kept_call (J := J) viewDone w start) (fun _ u hu => ?_) fun _ h => h
  rw [wp_bind, wp_inMemory]
  cases result : add u.state.db.current with
  | none => exact hu
  | some db => exact added (facts u) db result hu

theorem kept_addAndFlush {add : Db → Option Db}
    (h : ∀ f db, add f.db.current = some db → J f → J (f.edit fun _ => db).flush) :
    Kept J (addAndFlush add) := fun _ hw => wp_addAndFlush hw h

/-- Writes a video that is in memory. -/
theorem kept_setVideo (c : Saved J) {v old : Video} {id : String} {w : PollWorld}
    (hw : J (facts w)) (found : w.state.db.current.videos.get id = some old)
    (same : v.youtubeVideoId = old.youtubeVideoId)
    (short : ∀ b, old.isShort = some b → v.isShort = some b) :
    wp (setVideo v) (fun _ u => J (facts u)) (fun u => J (facts u)) w := by
  refine c.video (facts w) v old ?_ short hw
  rw [same, Table.key_of_get found]
  exact found

theorem kept_getOrCreateVideo (c : Saved J) {channelId : Int} {latest : LatestUpload}
    (add : ∀ f v videos, f.db.current.videos.insert v = some videos → v.isShort = none →
      v.youtubeVideoId = latest.videoId.getD "" → J f →
      J (f.edit fun db => { db with videos := videos })) :
    Kept J (getOrCreateVideo channelId latest) := by
  unfold getOrCreateVideo
  refine Kept.ite (fun _ => kept_raise _) fun _ => ?_
  refine Kept.bind kept_visible fun db => ?_
  cases db.videos.get (latest.videoId.getD "") with
  | none =>
    refine Kept.bind (kept_addAndFlush fun f db added hf => ?_) fun _ => Kept.pure _
    simp only [Option.bind_eq_bind, Option.bind_eq_some_iff, Option.pure_def,
      Option.some.injEq] at added
    obtain ⟨videos, inserted, rfl⟩ := added
    exact c.flush _ (add f _ videos inserted rfl rfl hf)
  | some old =>
    intro w hw
    rw [wp_bind, wp_inMemory]
    cases found : w.state.db.current.videos.get (latest.videoId.getD "") with
    | none => exact hw
    | some video =>
      simp only [wp_bind]
      exact kept_setVideo c hw found rfl fun _ hb => hb

theorem getOrCreateVideo_id {channelId : Int} {latest : LatestUpload} {w : PollWorld} :
    wp (getOrCreateVideo channelId latest) (fun id _ => id = latest.videoId.getD "") (fun _ => True)
      w := by
  unfold getOrCreateVideo
  by_cases empty : latest.videoId.getD "" = ""
  · rw [if_pos empty]
    exact trivial
  · rw [if_neg empty, wp_bind]
    refine wp_mono (kept_visible (J := fun _ => True) w trivial) (fun db u _ => ?_) fun _ _ => trivial
    cases db.videos.get (latest.videoId.getD "") with
    | none =>
      rw [wp_bind]
      exact wp_mono (kept_addAndFlush (J := fun _ => True) (fun _ _ _ _ => trivial) u trivial)
        (fun _ _ _ => rfl) fun _ _ => trivial
    | some old =>
      rw [wp_bind, wp_inMemory]
      cases u.state.db.current.videos.get (latest.videoId.getD "") <;> exact rfl

/-- A video whose duration has to be asked for. -/
def Db.unclassified (db : Db) (id : String) : Prop :=
  match db.videos.get id with
  | none => False
  | some video => video.isShort = none ∧
      ¬ (video.title.getD [] ≠ [] ∧ titleIndicatesShort (video.title.getD [])) ∧
      video.youtubeVideoId ≠ ""

instance (db : Db) (id : String) : Decidable (db.unclassified id) := by
  unfold Db.unclassified
  split <;> infer_instance

/-- The check of a video asks for a duration only where it has to. -/
theorem wp_detectAndMarkShort (c : Saved J) {id : String} {w : PollWorld} (hw : J (facts w))
    (lookup : w.state.db.current.unclassified id → ∀ u, facts u = facts w →
      wp (fetchVideoDurationSeconds platform) (fun _ v => J (facts v)) (fun v => J (facts v)) u) :
    wp (attemptDetectAndMarkShort platform id) (fun _ v => J (facts v)) (fun v => J (facts v)) w := by
  unfold attemptDetectAndMarkShort
  rw [wp_bind, wp_inMemory]
  unfold Db.unclassified at lookup
  cases found : w.state.db.current.videos.get id with
  | none => exact hw
  | some video =>
    rw [found] at lookup
    simp only [] at lookup ⊢
    by_cases known : video.isShort.isSome
    · rw [if_pos known]
      exact hw
    · rw [if_neg known]
      have unknown : ∀ b, video.isShort = some b → ∀ b', b' = some b := by
        intro b hb
        rw [hb] at known
        exact absurd rfl known
      by_cases title : video.title.getD [] ≠ [] ∧ titleIndicatesShort (video.title.getD [])
      · rw [if_pos title, wp_bind]
        refine wp_mono (kept_setVideo c hw found rfl fun b hb => unknown b hb _)
          (fun _ u hu => kept_flush c.flush u hu) fun _ hu => hu
      · rw [if_neg title]
        by_cases empty : video.youtubeVideoId = ""
        · rw [if_pos empty]
          exact hw
        · rw [if_neg empty, wp_bind, wp_attempt]
          have asked := lookup ⟨Option.not_isSome_iff_eq_none.mp known, title, empty⟩
            { w with state := { w.state with exception := .other "" } } rfl
          have same : Kept (fun f => f.db = w.state.db)
              (fetchVideoDurationSeconds platform) :=
            kept_fetchVideoDurationSeconds (fun _ _ h => h) fun _ _ h => h
          refine wp_mono (wp_and asked (same _ rfl)) (fun duration u hu => ?_) fun _ hu => hu.1
          obtain ⟨hu, same⟩ := hu
          cases duration with
          | none => exact hu
          | some seconds =>
            have found : u.state.db.current.videos.get id = some video := by
              change (facts u).db.current.videos.get id = some video
              rw [same, found]
            simp only [wp_bind]
            refine wp_mono (kept_setVideo c hu found rfl fun b hb => unknown b hb _)
              (fun _ u hu => kept_flush c.flush u hu) fun _ hu => hu

theorem kept_attemptDetectAndMarkShort (c : Tended J) (id : String) :
    Kept J (attemptDetectAndMarkShort platform id) := by
  intro w hw
  refine wp_detectAndMarkShort c.toSaved hw fun _ u same => ?_
  have held : J (facts u) := same.symm ▸ hw
  exact kept_fetchVideoDurationSeconds c.request c.count u held

theorem Stored.addUpload (c : Stored J) {latest : LatestUpload} : ∀ f v videos,
    f.db.current.videos.insert v = some videos → v.isShort = none →
    v.youtubeVideoId = latest.videoId.getD "" → J f →
    J (f.edit fun db => { db with videos := videos }) :=
  fun f v videos inserted short _ => c.addVideo f v videos inserted short

theorem kept_skipDisabledShortDeliveries (delivery : ∀ f d, J f → J (f.edit (·.setDelivery d)))
    (skipped : ∀ f k, J f → J (f.note (.skipped k))) (userId : Int) :
    Kept J (skipDisabledShortDeliveries config userId) := by
  unfold skipDisabledShortDeliveries
  refine Kept.ite (fun _ => Kept.pure _) fun _ => ?_
  refine Kept.bind kept_visible fun db => Kept.forM fun k _ => ?_
  unfold skipTurn
  refine Kept.bind kept_inMemory fun db => ?_
  cases db.deliveries.get k with
  | none => exact Kept.pure _
  | some d =>
    refine Kept.bind (kept_edit fun f => delivery f _) fun _ => kept_emit fun s t hs => ?_
    exact skipped ⟨s.db, s.remote, s.quota, t⟩ d.key hs

theorem Closed.or {J' : Facts → Prop} (c : Closed J) (c' : Closed J') :
    Closed fun f => J f ∨ J' f where
  flush f := Or.imp (c.flush f) (c'.flush f)
  request f q := Or.imp (c.request f q) (c'.request f q)
  count f q := Or.imp (c.count f q) (c'.count f q)
  video f v old found short := Or.imp (c.video f v old found short) (c'.video f v old found short)
  commit f := Or.imp (c.commit f) (c'.commit f)
  stage f row := Or.imp (c.stage f row) (c'.stage f row)
  quota f q := Or.imp (c.quota f q) (c'.quota f q)
  addVideo f v videos inserted short :=
    Or.imp (c.addVideo f v videos inserted short) (c'.addVideo f v videos inserted short)

theorem missingStages_key {db : Db} {userId : Int} {id : String} {row : StageRow}
    (h : row ∈ missingStages db userId id) : row.userId = userId ∧ row.videoId = id := by
  obtain ⟨name, -, rfl⟩ := List.mem_map.mp (List.mem_filter.mp h).1
  exact ⟨rfl, rfl⟩

theorem kept_createStagesForVideo {userId : Int} {id : String}
    (add : ∀ f rows db, (∀ row ∈ rows, row.userId = userId ∧ row.videoId = id) →
      addStages rows f.db.current = some db → J f → J (f.edit fun _ => db).flush)
    (note : ∀ f name, J f → J (f.note (.staged (userId, id, name)))) :
    Kept J (createStagesForVideo config userId id) := by
  unfold createStagesForVideo
  refine Kept.bind kept_inMemory fun db => Kept.ite (fun _ => ?_) fun _ => Kept.pure _
  refine Kept.bind kept_visible fun seen => ?_
  refine Kept.bind (kept_addAndFlush fun f db added hf =>
    add f _ db (fun _ => missingStages_key) added hf) fun _ => ?_
  refine Kept.forM fun row hrow => kept_emit fun s t hs => ?_
  obtain ⟨rfl, rfl⟩ := missingStages_key hrow
  exact note ⟨s.db, s.remote, s.quota, t⟩ row.stage hs

end YTPipe.Polling
