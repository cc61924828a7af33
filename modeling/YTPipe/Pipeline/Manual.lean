import YTPipe.Pipeline.Operations
import YTPipe.Pipeline.Summary

/-!
# Manual summaries stay manual

A video that only a command asked for has no telegram and no fallback stage. The
queries for pending work pass over its other stages, and what creates the two
stages is never reached.
-/

namespace YTPipe.Pipeline

open Broker Proc

/-! The query for pending rows, over all rows of the store. -/

/-- The row of a user's video. -/
def tableRow (table : List PipelineStage) (userId videoId : Int) (n : StageName) :
    Option PipelineStage :=
  table.find? fun r => r.userId = userId ∧ r.videoId = videoId ∧ r.stage = n

/-- `_automatic_stage_intent_filter`. -/
def automaticStageIntentFilter (table : List PipelineStage) (userId : Int) (r : PipelineStage) :
    Prop :=
  r.stage ∉ [StageName.transcript, .summary] ∨
    ∃ automatic ∈ table, automatic.videoId = r.videoId ∧ automatic.userId = userId ∧
      automatic.stage ∈ [StageName.telegram, .fallbackTelegram]

instance (table : List PipelineStage) (userId : Int) (r : PipelineStage) :
    Decidable (automaticStageIntentFilter table userId r) :=
  inferInstanceAs (Decidable (_ ∨ _))

/-- The rows of all videos that the queries for pending work select. -/
def pendingQuery (table : List PipelineStage) (userId : Int) (now : Time) : List PipelineStage :=
  table.filter fun r => r.userId = userId ∧ r.status.isOpen ∧
    automaticStageIntentFilter table userId r ∧ summaryDue now r.stage r

theorem tableRow_ne_none {table : List PipelineStage} {r : PipelineStage} (h : r ∈ table) :
    tableRow table r.userId r.videoId r.stage ≠ none := by
  intro absent
  have := List.find?_eq_none.mp absent r h
  simp at this

/-- Of the rows of one video, the filter over the store lets through those that the
filter over the video's session does. -/
theorem automaticStageIntentFilter_iff {table : List PipelineStage} {userId videoId : Int}
    {s : PipelineSession} {r : PipelineStage}
    (view : ∀ n, tableRow table userId videoId n = s.flushedRows n) (mine : r.videoId = videoId) :
    automaticStageIntentFilter table userId r ↔ automaticIntent s r.stage := by
  have there (n : StageName) : (∃ a ∈ table, a.videoId = r.videoId ∧ a.userId = userId ∧
      a.stage = n) ↔ (s.flushedRows n).isSome = true := by
    rw [← view, tableRow, List.find?_isSome, mine]
    simp only [decide_eq_true_eq]
    exact exists_congr fun a => and_congr_right fun _ => by tauto
  have either : (∃ a ∈ table, a.videoId = r.videoId ∧ a.userId = userId ∧
      a.stage ∈ [StageName.telegram, .fallbackTelegram])
      ↔ (s.flushedRows .telegram).isSome = true ∨ (s.flushedRows .fallbackTelegram).isSome = true := by
    rw [← there, ← there]
    simp only [List.mem_cons, List.not_mem_nil, or_false, and_or_left, exists_or]
  have content : r.stage ∉ [StageName.transcript, .summary]
      ↔ r.stage = .telegram ∨ r.stage = .fallbackTelegram := by
    cases r.stage <;> decide
  unfold automaticStageIntentFilter automaticIntent
  rw [either, content, or_assoc]

/-! The session. -/

/-- Neither of the two stages is there. -/
def Absent (s : PipelineSession) : Prop :=
  (s.slot .telegram).row = none ∧ (s.slot .fallbackTelegram).row = none

/-- What a command or an operator starts, the drains, and what goes on around
them: all but the two calls that a detection ends in. -/
def Call.Manual : Call → Prop
  | createStages => False
  | processNew => False
  | _ => True

def Activity.Manual : Activity → Prop
  | .call c => c.Manual
  | .finalize => True

/-- The calls that look for pending work. -/
def Call.Automatic : Call → Prop
  | processPending _ => True
  | processNext => True
  | drain => True
  | throttled _ => True
  | _ => False

def Activity.Automatic : Activity → Prop
  | .call c => c.Automatic
  | .finalize => False

/-- A notification or a fallback. -/
def PipelineEvent.message : PipelineEvent → Bool
  | .notify _ => true
  | .fallback _ _ _ => true
  | _ => false

/-- Work on a stage: a fetch, a summary or a message, or the turn of a row. -/
def PipelineEvent.work : PipelineEvent → Bool
  | .stage _ => true
  | .fetch _ => true
  | .notify _ => true
  | .fallback _ _ _ => true
  | .dependency _ _ => true
  | _ => false

section session

variable {platform : Platform} {s : PipelineSession} {n : StageName}

theorem Absent.setRow {f : PipelineStage → PipelineStage} (h : Absent s) :
    Absent (s.setRow n f) := by
  have kept (m : StageName) (row : (s.slot m).row = none) : ((s.setRow n f).slot m).row = none := by
    by_cases same : m = n
    · subst same
      simp [PipelineSession.setRow, PipelineSession.setSlot, Slot.modify, row]
    · simpa [PipelineSession.setRow, PipelineSession.setSlot, same] using row
  exact ⟨kept _ h.1, kept _ h.2⟩

theorem Absent.flush (h : Absent s) : Absent (s.flush platform) := by
  constructor
  · simp [PipelineSession.flush, Slot.flush, h.1]
  · simp [PipelineSession.flush, Slot.flush, h.2]

theorem Absent.commit (h : Absent s) : Absent (s.commit platform) := by
  constructor
  · simp [PipelineSession.commit, Slot.commit, h.1]
  · simp [PipelineSession.commit, Slot.commit, h.2]

theorem Absent.rollback (h : Absent s) : Absent s.rollback := by
  constructor
  · simp [PipelineSession.rollback, Slot.rollback, h.1]
  · simp [PipelineSession.rollback, Slot.rollback, h.2]

theorem Absent.reached (h : Absent s) (reach : Reach) : Absent (s.reached platform reach) := by
  cases reach with
  | untouched => exact h
  | flushed => exact h.flush
  | committed => exact h.commit

theorem Absent.absorb (h : Absent s) (inner : StageSession) : Absent (s.absorb platform inner) :=
  ⟨(h.reached inner.reach).1, (h.reached inner.reach).2⟩

theorem Absent.rows (h : Absent s) (hn : n ∈ [StageName.telegram, .fallbackTelegram]) :
    s.rows n = none ∧ s.flushedRows n = none ∧ s.durableRows n = none := by
  have row : (s.slot n).row = none := by
    rcases List.mem_pair.mp hn with rfl | rfl
    · exact h.1
    · exact h.2
  simp [PipelineSession.rows, PipelineSession.flushedRows, PipelineSession.durableRows,
    Slot.current, Slot.flushed, Slot.durable, row]

theorem Absent.openRows (h : Absent s) : StageName.fallbackTelegram ∉ openRows s := by
  have := (h.rows (n := .fallbackTelegram) (by decide)).2.1
  simp [Pipeline.openRows, this]

/-- The filter lets through the rows of the two stages alone. -/
theorem Absent.intent (h : Absent s) :
    automaticIntent s n ↔ n ∈ [StageName.telegram, .fallbackTelegram] := by
  have telegram := (h.rows (n := .telegram) (by decide)).2.1
  have fallback := (h.rows (n := .fallbackTelegram) (by decide)).2.1
  simp [automaticIntent, telegram, fallback]

/-- The queries of the calls return no row of the video. -/
theorem Absent.pendingRows (h : Absent s) (now : Time) : pendingRows now s = [] := by
  have none : ((Pipeline.openRows s).filter fun n => automaticIntent s n
      ∧ (s.flushedRows n).any (fun r => decide (summaryDue now n r)) = true) = [] := by
    rw [List.filter_eq_nil_iff]
    intro n _
    simp only [decide_eq_true_eq, not_and, h.intent]
    intro named
    simp [(h.rows named).2.1]
  rw [Pipeline.pendingRows, none]
  rfl

/-- Whatever else is in the store, the query returns no row of the video. -/
theorem Absent.pendingQuery {table : List PipelineStage} {userId videoId : Int} (h : Absent s)
    (view : ∀ n, tableRow table userId videoId n = s.flushedRows n) (now : Time) :
    ∀ r ∈ pendingQuery table userId now, r.videoId ≠ videoId := by
  intro r hr same
  simp only [Pipeline.pendingQuery, List.mem_filter, decide_eq_true_eq] at hr
  obtain ⟨stored, mine, _, intended, _⟩ := hr
  have named := h.intent.mp ((automaticStageIntentFilter_iff view same).mp intended)
  have row := tableRow_ne_none stored
  rw [mine, same, view] at row
  exact row (h.rows named).2.1

end session

/-! The calls that look for pending work. -/

section automatic

variable {platform : Platform} {service : PipelineService} {I L : PipelineWorld → Prop}
  {w : PipelineWorld}

/-- A page without rows of the video. -/
theorem selectPending_none (still : Still platform I L) (absent : ∀ w, I w → Absent w.state)
    (maxStageCount : Option Int) (h : I w) :
    wp (selectPending maxStageCount) (fun page v => page.1 = [] ∧ I v) L w := by
  unfold selectPending
  rw [wp_bind]
  apply wp_utcNow (still.lost w h)
  intro now rest
  have held := still.reply w rest h
  rw [wp_bind, wp_read, wp_bind]
  apply wp_ask _ (still.lost _ held)
  rintro ⟨kept, more⟩ rest
  have empty := (absent w h).pendingRows now
  cases maxStageCount with
  | none => exact ⟨empty, still.reply _ rest held⟩
  | some m =>
    refine ⟨?_, still.reply _ rest held⟩
    change (pendingRows now w.state).take _ = []
    rw [empty, List.take_nil]

/-- What the calls do, apart from the withdrawal of Shorts, where the two stages
are not there. -/
structure Passive (platform : Platform) (service : PipelineService) (I L : PipelineWorld → Prop) :
    Prop where
  still : Still platform I L
  absent : ∀ w, I w → Absent w.state
  shorts : ∀ w, I w → wp (skipDisabledShortStagesForUser platform service) (fun _ => I) L w

namespace Passive

theorem processPending (passive : Passive platform service I L) (maxStageCount : Option Int)
    (h : I w) : wp (processPendingStages platform service maxStageCount) (fun _ => I) L w := by
  unfold processPendingStages
  rw [wp_bind]
  refine wp_mono (passive.shorts w h) (fun _ v h => ?_) fun _ h => h
  rw [wp_bind]
  refine wp_mono (selectPending_none passive.still passive.absent maxStageCount h)
    (fun page v page_none => ?_) fun _ h => h
  obtain ⟨selected, more⟩ := page
  obtain ⟨none, h⟩ := page_none
  subst none
  dsimp only
  split
  · exact h
  rw [wp_bind]
  have retried : wp (retryFallback platform service) (fun _ => I) L v := by
    unfold retryFallback
    rw [wp_bind, wp_read, wp_bind]
    refine wp_mono (passive.still.others h) (fun _ u hu => ?_) fun _ h => h
    rw [wp_bind, wp_when, if_neg (passive.absent v h).openRows]
    exact passive.still.others hu
  refine wp_mono retried (fun _ v h => ?_) fun _ h => h
  rw [wp_bind]
  have worked : wp (workPending platform service []) (fun _ => I) L v := passive.still.flush v h
  refine wp_mono worked (fun _ v h => ?_) fun _ h => h
  rw [wp_bind]
  refine wp_mono (passive.still.others h) (fun _ v h => ?_) fun _ h => h
  rw [wp_bind, wp_when, if_neg (by simp), wp_bind]
  refine wp_mono (passive.still.others h) (fun _ v h => ?_) fun _ h => h
  rw [wp_bind]
  exact wp_mono (passive.still.persist h) (fun _ _ h => h) fun _ h => h

theorem processNext (passive : Passive platform service I L) (h : I w) :
    wp (processNextPendingVideo platform service) (fun _ => I) L w := by
  unfold processNextPendingVideo
  rw [wp_bind]
  refine wp_mono (passive.shorts w h) (fun _ v h => ?_) fun _ h => h
  rw [wp_bind]
  refine wp_mono (selectPending_none passive.still passive.absent none h)
    (fun page v page_none => ?_) fun _ h => h
  obtain ⟨selected, more⟩ := page
  obtain ⟨none, h⟩ := page_none
  subst none
  simp only [wp_bind]
  apply wp_ask _ (passive.still.lost v h)
  intro mine rest
  rw [if_neg (by simp), wp_bind]
  exact wp_mono (passive.still.others (passive.still.reply v rest h)) (fun _ _ h => h) fun _ h => h

theorem drain (passive : Passive platform service I L) (h : I w) :
    wp (drainPendingVideos platform service) (fun _ => I) L w := by
  unfold drainPendingVideos
  rw [wp_bind]
  refine wp_mono (passive.shorts w h) (fun _ v h => ?_) fun _ h => h
  rw [wp_bind]
  refine wp_mono (selectPending_none passive.still passive.absent none h)
    (fun page v page_none => ?_) fun _ h => h
  obtain ⟨selected, more⟩ := page
  obtain ⟨none, h⟩ := page_none
  subst none
  simp only [wp_bind]
  exact wp_mono (passive.still.others h) (fun _ _ h => h) fun _ h => h

theorem batch (passive : Passive platform service I L) (h : I w) :
    wp (processBatch platform service) (fun _ => I) L w := by
  unfold processBatch
  rw [wp_bind]
  refine wp_mono (passive.processPending _ h) (fun worked v h => ?_) fun _ h => h
  rw [wp_bind]
  exact wp_mono (passive.still.save h) (fun _ _ h => h) fun _ h => h

theorem batches (passive : Passive platform service I L) (rounds : Nat) (h : I w) :
    wp (processBatches platform service rounds) (fun _ => I) L w := by
  induction rounds generalizing w with
  | zero => exact h
  | succ n ih =>
    unfold processBatches
    rw [wp_bind]
    refine wp_mono (passive.still.selectPending _ h) (fun page v h => ?_) fun _ h => h
    dsimp only
    split
    · rw [wp_bind, wp_pure, wp_bind]
      exact wp_mono (ih h) (fun _ _ h => h) fun _ h => h
    · rw [wp_bind]
      refine wp_mono (passive.batch h) (fun worked v h => ?_) fun _ h => h
      rw [wp_bind]
      exact wp_mono (ih h) (fun _ _ h => h) fun _ h => h

theorem throttled (passive : Passive platform service I L) (rounds : Nat) (h : I w) :
    wp (processPendingStagesWithThrottling platform service rounds) (fun _ => I) L w := by
  unfold processPendingStagesWithThrottling
  split
  · exact passive.processPending none h
  rw [wp_bind]
  refine wp_mono (passive.still.selectPending _ h) (fun page v h => ?_) fun _ h => h
  dsimp only
  split
  · exact h
  rw [wp_bind]
  refine wp_mono (passive.batch h) (fun worked v h => ?_) fun _ h => h
  rw [wp_bind]
  exact wp_mono (passive.batches rounds h) (fun _ _ h => h) fun _ h => h

/-- Every one of them. -/
theorem keeps (passive : Passive platform service I L) {call : Call} (automatic : call.Automatic)
    (h : I w) : wp (call.proc platform service) (fun _ => I) L w := by
  cases call with
  | processPending m => exact passive.processPending m h
  | processNext => exact passive.processNext h
  | drain => exact passive.drain h
  | throttled rounds => exact passive.throttled rounds h
  | _ => exact automatic.elim

end Passive

end automatic

/-! The rows of the two content stages. -/

/-- A copy of a row: in memory, written or durable. -/
def PipelineSession.Copy (s : PipelineSession) (n : StageName) (r : PipelineStage) : Prop :=
  s.rows n = some r ∨ s.flushedRows n = some r ∨ s.durableRows n = some r

/-- A stage that is given up because its video is a Short. -/
def withdrawn (r : PipelineStage) : PipelineStage :=
  { skipRow r with lastError := some shortProcessingDisabledError }

/-- The row is one of the copies, with the plan of one of them; or such a row
withdrawn while Shorts are not processed. -/
def Rests (service : PipelineService) (copies : PipelineStage → Prop) (r' : PipelineStage) : Prop :=
  ∃ r c, copies r ∧ copies c ∧ (r' = planColumn.set c.brokerChunkPlan r ∨
    service.shortsProcessingEnabled = false ∧
      r' = planColumn.set c.brokerChunkPlan (withdrawn r))

/-- Nothing was done for the content stages since `w`. -/
structure Rested (service : PipelineService) (w v : PipelineWorld) : Prop where
  rows : ∀ n r', v.state.Copy n r' → Rests service (w.state.Copy n) r'
  quiet : ∃ es, v.trace = es ++ w.trace ∧ ∀ e ∈ es, e.work = false

section rests

variable {platform : Platform} {service : PipelineService} {s : PipelineSession} {n : StageName}
  {r r' : PipelineStage} {copies : PipelineStage → Prop} {w v : PipelineWorld}

theorem skipRow_ended (ended : r.status = .completed ∨ r.status = .failed) : skipRow r = r :=
  if_pos ended

theorem skipRow_going (going : ¬ (r.status = .completed ∨ r.status = .failed)) :
    skipRow r = { r with status := .skipped, lastError := none } :=
  if_neg going

theorem withdrawn_plan (plan : Option ChunkPlan) (r : PipelineStage) :
    withdrawn (planColumn.set plan r) = planColumn.set plan (withdrawn r) := by
  have same : (planColumn.set plan r).status = r.status := rfl
  unfold withdrawn
  by_cases ended : r.status = .completed ∨ r.status = .failed
  · rw [skipRow_ended ended, skipRow_ended (same ▸ ended)]
    rfl
  · rw [skipRow_going ended, skipRow_going (same ▸ ended)]
    rfl

theorem withdrawn_twice (r : PipelineStage) : withdrawn (withdrawn r) = withdrawn r := by
  by_cases ended : r.status = .completed ∨ r.status = .failed
  · have again : (withdrawn r).status = .completed ∨ (withdrawn r).status = .failed := by
      rw [withdrawn, skipRow_ended ended]
      exact ended
    rw [withdrawn, skipRow_ended again, withdrawn, skipRow_ended ended]
  · have skipped : (withdrawn r).status = .skipped := by rw [withdrawn, skipRow_going ended]
    have again : ¬ ((withdrawn r).status = .completed ∨ (withdrawn r).status = .failed) := by
      rw [skipped]
      decide
    rw [withdrawn, skipRow_going again, withdrawn, skipRow_going ended]

theorem Rests.refl (service : PipelineService) (h : copies r) : Rests service copies r :=
  ⟨r, r, h, h, .inl (planColumn.set_get r).symm⟩

theorem Rests.plan (h : Rests service copies r) :
    ∃ c, copies c ∧ r.brokerChunkPlan = c.brokerChunkPlan := by
  obtain ⟨_, c, _, hc, rfl | ⟨_, rfl⟩⟩ := h
  · exact ⟨c, hc, rfl⟩
  · exact ⟨c, hc, rfl⟩

theorem Rests.setPlan (h : Rests service copies r) (h' : Rests service copies r') :
    Rests service copies (planColumn.set r'.brokerChunkPlan r) := by
  obtain ⟨c, hc, same⟩ := h'.plan
  rw [same]
  obtain ⟨row, _, hrow, _, rfl | ⟨disabled, rfl⟩⟩ := h
  · exact ⟨row, c, hrow, hc, .inl (planColumn.set_set ..)⟩
  · exact ⟨row, c, hrow, hc, .inr ⟨disabled, planColumn.set_set ..⟩⟩

theorem Rests.withdraw (h : Rests service copies r)
    (disabled : service.shortsProcessingEnabled = false) : Rests service copies (withdrawn r) := by
  obtain ⟨row, c, hrow, hc, rfl | ⟨_, rfl⟩⟩ := h
  · exact ⟨row, c, hrow, hc, .inr ⟨disabled, withdrawn_plan _ row⟩⟩
  · refine ⟨row, c, hrow, hc, .inr ⟨disabled, ?_⟩⟩
    rw [withdrawn_plan, withdrawn_twice]

/-- A row in memory is written as it is, or with the plan written before. -/
theorem written_copy (h : (s.slot n).row.map (·.written planColumn platform.flushRule) = some r') :
    ∃ r c, s.Copy n r ∧ s.Copy n c ∧ r' = planColumn.set c.brokerChunkPlan r := by
  obtain ⟨i, hi, rfl⟩ := Option.map_eq_some_iff.mp h
  have current : s.Copy n i.current := .inl (congrArg (Option.map _) hi)
  have flushed : s.Copy n i.flushed := .inr (.inl (congrArg (Option.map _) hi))
  unfold Instance.written
  split
  · exact ⟨_, _, current, current, (planColumn.set_get _).symm⟩
  · exact ⟨_, _, current, flushed, rfl⟩

theorem copy_flush (h : (s.flush platform).Copy n r') :
    ∃ r c, s.Copy n r ∧ s.Copy n c ∧ r' = planColumn.set c.brokerChunkPlan r := by
  rcases h with h | h | h
  · rw [PipelineSession.rows_flush] at h
    exact ⟨r', r', .inl h, .inl h, (planColumn.set_get r').symm⟩
  · rw [PipelineSession.flushedRows_flush] at h
    exact written_copy h
  · rw [PipelineSession.durableRows_flush] at h
    exact ⟨r', r', .inr (.inr h), .inr (.inr h), (planColumn.set_get r').symm⟩

theorem copy_commit (h : (s.commit platform).Copy n r') :
    ∃ r c, s.Copy n r ∧ s.Copy n c ∧ r' = planColumn.set c.brokerChunkPlan r := by
  apply written_copy
  rcases h with h | h | h
  · rw [PipelineSession.rows_commit] at h
    exact h
  · rw [PipelineSession.flushedRows_commit] at h
    exact h
  · rw [PipelineSession.durableRows_commit] at h
    exact h

theorem copy_rollback (h : s.rollback.Copy n r') : s.Copy n r' := by
  rcases h with h | h | h
  · exact .inr (.inr (congrFun s.rows_rollback n ▸ h))
  · exact .inr (.inr (congrFun s.flushedRows_rollback n ▸ h))
  · exact .inr (.inr (congrFun s.durableRows_rollback n ▸ h))

namespace Rested

theorem emit (h : Rested service w v) {e : PipelineEvent} (idle : e.work = false) :
    Rested service w { v with trace := e :: v.trace } := by
  obtain ⟨es, trace, quiet⟩ := h.quiet
  refine ⟨h.rows, e :: es, congrArg _ trace, ?_⟩
  intro e' he'
  rcases List.mem_cons.mp he' with rfl | he'
  · exact idle
  · exact quiet e' he'

/-- The session goes to one whose rows were copies, with plans of copies. -/
theorem carry (h : Rested service w v) {s : PipelineSession}
    (same : ∀ n r', s.Copy n r' → ∃ r c, v.state.Copy n r ∧ v.state.Copy n c ∧
      r' = planColumn.set c.brokerChunkPlan r) : Rested service w { v with state := s } := by
  refine ⟨?_, h.quiet⟩
  intro n r' hr'
  obtain ⟨r, c, hr, hc, rfl⟩ := same n r' hr'
  exact (h.rows n r hr).setPlan (h.rows n c hc)

theorem undo (h : Rested service w v) : Rested service w (undo v) :=
  (h.carry (s := v.state.rollback) fun _ r' hr' =>
    ⟨r', r', copy_rollback hr', copy_rollback hr', (planColumn.set_get r').symm⟩).emit rfl

/-- A row is withdrawn. -/
theorem withdraw (h : Rested service w v) (disabled : service.shortsProcessingEnabled = false)
    {s : PipelineSession}
    (rows : ∀ m, s.rows m = if m = n then (v.state.rows m).map withdrawn else v.state.rows m)
    (flushed : s.flushedRows = v.state.flushedRows)
    (durable : s.durableRows = v.state.durableRows) : Rested service w { v with state := s } := by
  refine ⟨fun m r' hr' => ?_, h.quiet⟩
  rcases hr' with hr' | hr' | hr'
  · have hr' := (rows m).symm.trans hr'
    split at hr'
    · obtain ⟨row, hrow, rfl⟩ := Option.map_eq_some_iff.mp hr'
      exact (h.rows m row (.inl hrow)).withdraw disabled
    · exact h.rows m r' (.inl hr')
  · exact h.rows m r' (.inr (.inl (flushed ▸ hr')))
  · exact h.rows m r' (.inr (.inr (durable ▸ hr')))

end Rested

/-- In the middle of a call that looks for pending work. -/
def Passing (service : PipelineService) (w v : PipelineWorld) : Prop :=
  Absent v.state ∧ Rested service w v

theorem still_passing : Still platform (Passing service w) (Passing service w) where
  lost _ h := h
  raised _ h := ⟨h.1, h.2.emit rfl⟩
  reply _ _ h := ⟨h.1, h.2.rows, h.2.quiet⟩
  flush _ h := ⟨h.1.flush, h.2.carry fun _ _ => copy_flush⟩
  commit _ h := ⟨h.1.commit, (h.2.carry fun _ _ => copy_commit).emit rfl⟩

theorem passing_skip (disabled : service.shortsProcessingEnabled = false) (n : StageName)
    (video : Video) (h : Passing service w v) :
    wp (skipDisabledShort service n video) (fun _ => Passing service w) (Passing service w) v := by
  have skipped : Passing service w { v with state := (v.state.setRow n skipRow).setRow n fun r =>
      { r with lastError := some shortProcessingDisabledError } } := by
    refine ⟨h.1.setRow.setRow, h.2.withdraw disabled (n := n) (fun m => ?_) ?_ ?_⟩
    · rw [PipelineSession.rows_setRow, PipelineSession.rows_setRow]
      split
      · rw [Option.map_map]
        rfl
      · rfl
    · rw [PipelineSession.flushedRows_setRow, PipelineSession.flushedRows_setRow]
    · rw [PipelineSession.durableRows_setRow, PipelineSession.durableRows_setRow]
  unfold skipDisabledShort
  rw [wp_bind]
  apply wp_skipStage
  · intro past
    refine ⟨h.1.setRow, h.2.withdraw disabled (n := n) (fun m => ?_) ?_ ?_⟩
    · rw [PipelineSession.rows_setRow]
      split
      · next same =>
        subst same
        cases row : v.state.rows m with
        | none => rfl
        | some r => simp only [Option.map_some, withdrawn, skipRow, if_pos (past r row)]
      · rfl
    · exact PipelineSession.flushedRows_setRow ..
    · exact PipelineSession.durableRows_setRow ..
  · exact fun _ _ _ => skipped
  · exact fun _ _ _ => ⟨skipped.1, skipped.2.emit rfl⟩

/-- The withdrawal of the user's Shorts. -/
theorem passing_shorts (h : Passing service w v) :
    wp (skipDisabledShortStagesForUser platform service) (fun _ => Passing service w)
      (Passing service w) v := by
  have still : Still platform (Passing service w) (Passing service w) := still_passing
  unfold skipDisabledShortStagesForUser
  rw [wp_when]
  split
  · next disabled =>
    rw [wp_bind, wp_read, wp_bind, wp_when]
    split
    · exact wp_mono (wp_forM (fun n _ u hu => passing_skip disabled n _ hu) h)
        (fun _ u hu => still.flush u hu) fun _ h => h
    · exact still.flush v h
  · exact h

theorem passive_passing : Passive platform service (Passing service w) (Passing service w) :=
  ⟨still_passing, fun _ h => h.1, fun _ h => passing_shorts h⟩

/-- A call that looks for pending work leaves the content stages alone. -/
theorem operate_rested {op : Operation} (automatic : op.activity.Automatic)
    (absent : Absent w.state) : Rested op.service w (operate platform op w) := by
  apply recover_of_wp
  have start : Passing op.service w { w with replies := op.replies } :=
    ⟨absent, fun _ _ h => .refl op.service h, [], rfl, fun _ h => absurd h List.not_mem_nil⟩
  have kept : wp (op.activity.proc platform op.service) (fun _ => Passing op.service w)
      (Passing op.service w) { w with replies := op.replies } := by
    apply op.activity.keeps
    · intro call same
      rw [same] at automatic
      exact passive_passing.keeps automatic start
    · intro same
      rw [same] at automatic
      exact automatic.elim
  exact wp_mono kept (fun _ _ h => h.2) fun _ h => ⟨h.2, h.2.undo⟩

end rests

/-! What every manual call keeps. -/

section manual

variable {platform : Platform} {service : PipelineService} {w v : PipelineWorld}

/-- The two stages are not there, and no message was sent. -/
structure Private (w : PipelineWorld) : Prop where
  absent : Absent w.state
  unsent : ∀ e ∈ w.trace, e.message = false

theorem Private.emit (h : Private w) {e : PipelineEvent} (plain : e.message = false) :
    Private { w with trace := e :: w.trace } := by
  refine ⟨h.absent, ?_⟩
  intro e' he'
  rcases List.mem_cons.mp he' with rfl | he'
  · exact plain
  · exact h.unsent e' he'

theorem Private.setRow (h : Private w) (n : StageName) (f : PipelineStage → PipelineStage) :
    Private { w with state := w.state.setRow n f } := ⟨h.absent.setRow, h.unsent⟩

theorem still_private : Still platform Private Private where
  lost _ h := h
  raised _ h := h.emit rfl
  reply _ _ h := ⟨h.absent, h.unsent⟩
  flush _ h := ⟨h.absent.flush, h.unsent⟩
  commit w h :=
    have held : Private { w with state := w.state.commit platform } := ⟨h.absent.commit, h.unsent⟩
    held.emit rfl

theorem private_undo (h : Private w) : Private (undo w) :=
  (⟨h.absent.rollback, h.unsent⟩ : Private { w with state := w.state.rollback }).emit rfl

theorem private_takeUp (h : Private w) (inner : StageWorld) : Private (takeUp platform inner w) := by
  refine ⟨h.absent.absorb inner.state, ?_⟩
  intro e he
  rcases List.mem_append.mp he with he | he
  · obtain ⟨_, _, rfl⟩ := List.mem_map.mp he
    rfl
  · rcases List.mem_append.mp he with he | he
    · cases reach : inner.state.reach <;> rw [reach] at he <;> simp only [commits] at he
      · exact absurd he List.not_mem_nil
      · exact absurd he List.not_mem_nil
      · rw [List.mem_singleton.mp he]
        rfl
    · exact h.unsent e he

theorem private_onSummary (p : StageProc Unit) (h : Private w) :
    wp (onSummary platform p) (fun _ => Private) Private w := by
  apply wp_onSummary h h
  intro stage answers rest _
  have held : Private { w with replies := rest } := ⟨h.absent, h.unsent⟩
  exact wp_anywhere (fun _ v => private_takeUp held v) fun v => private_takeUp held v

theorem private_skip {n : StageName} {video : Video} (h : Private w) :
    wp (skipStage service n video) (fun _ => Private) Private w := by
  apply wp_skipStage
  · exact fun _ => h
  · exact fun _ _ _ => h.setRow _ _
  · exact fun _ _ _ => (h.setRow _ _).emit rfl

theorem private_shorts (h : Private w) :
    wp (skipDisabledShortStagesForUser platform service) (fun _ => Private) Private w := by
  have still : Still platform Private Private := still_private
  unfold skipDisabledShortStagesForUser
  rw [wp_when]
  split
  · rw [wp_bind, wp_read, wp_bind, wp_when]
    split
    · refine wp_mono (wp_forM (fun n _ u hu => ?_) h) (fun _ u hu => still.flush u hu) fun _ h => h
      unfold skipDisabledShort
      rw [wp_bind]
      exact wp_mono (private_skip hu) (fun _ x hx => hx.setRow _ _) fun _ h => h
    · exact still.flush w h
  · exact h

theorem private_transcript (h : Private w) :
    wp (attemptTranscriptStage service) (fun _ => Private) Private w := by
  have started (attemptedAt : Time) (rest : List PipelineReply) : Private { w with
      state := w.state.setRow .transcript (startAttempt attemptedAt), replies := rest } :=
    ⟨h.absent.setRow, h.unsent⟩
  have fetch (attemptedAt : Time) (rest : List PipelineReply) (outcome : Option FetchOutcome) :=
    (started attemptedAt rest).emit (e := .fetch outcome) rfl
  apply wp_attemptTranscriptStage h h
  · exact fun _ _ _ => h.setRow _ _
  · exact fun _ _ _ => h.setRow _ _
  · exact fun _ attemptedAt rest _ _ => fetch attemptedAt rest none
  · intro _ attemptedAt outcome text rest _ _ _
    have fetched := fetch attemptedAt rest (some outcome)
    exact ⟨fetched.absent.setRow, fetched.unsent⟩
  · exact fun _ attemptedAt outcome rest _ _ _ =>
      (fetch attemptedAt rest (some outcome)).setRow _ _

/-- A content stage is created, not one of the two. -/
theorem private_createContentStage {n : StageName} (content : n ∈ [StageName.transcript, .summary])
    (h : Private w) : wp (createContentStage platform n) (fun _ => Private) Private w := by
  have still : Still platform Private Private := still_private
  unfold createContentStage
  rw [wp_bind]
  apply wp_createStage h
  · exact fun _ => still.flush w h
  intro _ id rest
  have other (m : StageName) (hm : m ∈ [StageName.telegram, .fallbackTelegram]) : m ≠ n := by
    rintro rfl
    revert hm content
    cases m <;> decide
  refine still.flush _ ⟨⟨?_, ?_⟩, h.unsent⟩
  · exact (congrArg Slot.row (if_neg (other .telegram (by decide)))).trans h.absent.1
  · exact (congrArg Slot.row (if_neg (other .fallbackTelegram (by decide)))).trans h.absent.2

theorem private_content (h : Private w) :
    wp (processContentStages platform service) (fun _ => Private) Private w := by
  have still : Still platform Private Private := still_private
  unfold processContentStages createContentStagesForVideo
  rw [wp_bind, wp_videoRow, wp_when]
  split
  · rw [wp_bind, wp_bind, wp_videoRow, wp_when, if_pos ‹_›]
    refine wp_mono (wp_forM (fun n hn v (hv : Private v) => private_createContentStage hn hv) h)
      (fun _ v h => ?_) fun _ h => h
    rw [wp_bind, wp_rows, wp_when]
    split
    · rw [wp_bind]
      refine wp_mono (private_transcript h) (fun _ v h => ?_) fun _ h => h
      rw [wp_bind]
      refine wp_mono ?_ (fun _ v h => still.flush v h) fun _ h => h
      unfold advanceContent
      rw [wp_bind, wp_rows, wp_bind, wp_videoRow]
      split
      · rw [wp_bind]
        exact wp_mono (private_onSummary _ h) (fun _ v h => still.persist h) fun _ h => h
      · rw [wp_when]
        split
        · exact private_skip h
        · exact h
    · exact h
  · exact h

/-- Every manual call. -/
theorem private_call {call : Call} (manual : call.Manual) (h : Private w) :
    wp (call.proc platform service) (fun _ => Private) Private w := by
  have still : Still platform Private Private := still_private
  have passive : Passive platform service Private Private :=
    ⟨still, fun _ h => h.absent, fun _ h => private_shorts h⟩
  cases call with
  | createStages => exact manual.elim
  | processNew => exact manual.elim
  | processContent =>
    exact (wp_bind _ _ ▸ wp_mono (private_content h) (fun _ _ h => h) fun _ h => h)
  | processPending m => exact passive.processPending m h
  | processNext => exact passive.processNext h
  | drain => exact passive.drain h
  | throttled rounds => exact passive.throttled rounds h
  | skipShorts =>
    exact (wp_bind _ _ ▸ wp_mono (private_shorts h) (fun _ _ h => h) fun _ h => h)
  | reconcile =>
    have reconciled : wp (reconcileQuarantinedSummaries platform service) (fun _ => Private)
        Private w := wp_reconcileAll still (fun _ _ _ _ _ _ => private_onSummary _) h
    exact (wp_bind _ _ ▸ wp_mono reconciled (fun _ _ h => h) fun _ h => h)
  | request audit =>
    exact (wp_bind _ _ ▸ wp_mono (private_onSummary _ h) (fun _ _ h => h) fun _ h => h)
  | recovery =>
    refine (wp_bind _ _ ▸ wp_mono (?_ : wp _ (fun _ => Private) Private w) (fun _ _ h => h) fun _ h => h)
    unfold attemptSummaryRecovery
    rw [wp_bind, wp_read]
    split
    · exact h
    rw [wp_bind]
    apply wp_ask _ h
    intro mine rest
    have h := still.reply w rest h
    split
    · rw [wp_bind]
      exact wp_mono (private_onSummary _ h) (fun _ v h => still.flush v h) fun _ h => h
    · rw [wp_bind]
      exact wp_mono (still.others h) (fun _ v h => still.flush v h) fun _ h => h
  | commit => exact (wp_bind _ _ ▸ wp_mono (still.save h) (fun _ _ h => h) fun _ h => h)
  | rollback => exact private_undo h
  | video v => exact ⟨h.absent, h.unsent⟩

/-- Every manual call, and the finalization of an incident. -/
theorem private_activity {activity : Activity} (manual : activity.Manual) (h : Private w) :
    wp (activity.proc platform service) (fun _ => Private) Private w := by
  apply activity.keeps
  · rintro call rfl
    exact private_call manual h
  · exact fun _ => wp_finalizeSummaryCircuit still_private (fun _ h => h.setRow _ _)
      (fun _ h => private_onSummary _ h) h

theorem private_run {ops : List Operation} (manual : ∀ op ∈ ops, op.activity.Manual)
    (h : Private w) : Private (runOperations platform ops w) := by
  apply runOperations_keeps _ h
  intro earlier op later split held
  have start : Private { runOperations platform earlier w with replies := op.replies } :=
    ⟨held.absent, held.unsent⟩
  have mine : op ∈ ops := split ▸ List.mem_append_right _ (List.mem_cons_self ..)
  exact wp_mono (private_activity (manual op mine) start) (fun _ _ h => h)
    fun _ h => ⟨h, private_undo h⟩

/-- A manual video never gets one of the two stages and nothing is sent for it; a
call that looks for pending work does nothing for its other stages but withdraw
those of a Short that is no longer processed, and no query for pending rows
returns one of them, whatever else is in the store. -/
theorem manual_stays_manual (platform : Platform) (userId : Int) (rows : Rows) (video : Video)
    (undetected : rows .telegram = none ∧ rows .fallbackTelegram = none) (ops : List Operation)
    (manual : ∀ op ∈ ops, op.activity.Manual) :
    let w := runOperations platform ops (openVideo userId rows video)
    (∀ n ∈ [StageName.telegram, .fallbackTelegram],
      w.state.rows n = none ∧ w.state.flushedRows n = none ∧ w.state.durableRows n = none)
      ∧ (∀ e ∈ w.trace, e.message = false)
      ∧ (∀ op, op.activity.Automatic → Rested op.service w (operate platform op w))
      ∧ ∀ table videoId now, (∀ n, tableRow table userId videoId n = w.state.flushedRows n) →
          ∀ r ∈ pendingQuery table userId now, r.videoId ≠ videoId := by
  intro w
  have start : Private (openVideo userId rows video) := by
    refine ⟨⟨?_, ?_⟩, fun _ h => absurd h List.not_mem_nil⟩
    · simp only [openVideo, undetected.1]
      rfl
    · simp only [openVideo, undetected.2]
      rfl
  have stays : Private w := private_run manual start
  exact ⟨fun n hn => stays.absent.rows hn, stays.unsent,
    fun op automatic => operate_rested automatic stays.absent,
    fun _ _ now view => stays.absent.pendingQuery view now⟩

/-- A command asks for a summary and the server is down; a drain goes over the
pending work, and the finalization of the incident tries the summary again. -/
def Sample.manualOps : List Operation :=
  [⟨Sample.service .direct, .call .processContent, [.inserted 1, .inserted 2, .now 0,
      .fetched (.text (some ['a', 'b'])), .stage [.now 0, .summarized (.raised none none)]]⟩,
    ⟨Sample.service .direct, .call .commit, [.committed]⟩,
    ⟨Sample.service .direct, .call .drain, [.now 1, .page 0 true, Sample.idle]⟩,
    ⟨Sample.service .direct, .finalize, [.first true, .stage [.now (seconds 100),
      .summarized (.raised none none)]]⟩]

theorem manual_stays_manual_probed :
    let w := runOperations (YTPipe.Sample.platform .assigned) Sample.manualOps Sample.fresh
    (w.state.rows .summary).map (·.attemptCount) = some 2 ∧ ∀ e ∈ w.trace, e.message = false :=
  ⟨by decide +kernel, (manual_stays_manual _ 1 (fun _ => none) Sample.video ⟨rfl, rfl⟩
    Sample.manualOps (by
      intro op hop
      simp only [Sample.manualOps, List.mem_cons, List.not_mem_nil, or_false] at hop
      rcases hop with rfl | rfl | rfl | rfl <;> trivial)).2.1⟩

end manual

end YTPipe.Pipeline
