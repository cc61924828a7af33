import YTPipe.Pipeline.Rules

/-!
# What the orchestration keeps

An invariant that each turn on a stage keeps is kept by every call of the
service. A call of `process_pending_stages` may begin in fewer states than it
goes on in, and what tells the user of a failure may leave more.
-/

namespace YTPipe.Pipeline

open Broker Proc

variable {platform : Platform} {service : PipelineService} {I I' J L : PipelineWorld → Prop}

/-- The session is written, and answers come, without harm to `I`; wherever the
process is lost, `L` holds. -/
structure Still (platform : Platform) (I L : PipelineWorld → Prop) : Prop where
  lost : ∀ w, I w → L w
  raised : ∀ w, I w → L { w with trace := .raised :: w.trace }
  reply : ∀ w rest, I w → I { w with replies := rest }
  flush : ∀ w, I w → I { w with state := w.state.flush platform }
  commit : ∀ w, I w →
    I { w with state := w.state.commit platform, trace := .committed :: w.trace }

namespace Still

variable {w : PipelineWorld}

/-- More that is kept, while `I` is. -/
theorem and {K : PipelineWorld → Prop} (still : Still platform I L)
    (reply : ∀ w rest, K w → K { w with replies := rest })
    (flush : ∀ w, K w → K { w with state := w.state.flush platform })
    (commit : ∀ w, K w →
      K { w with state := w.state.commit platform, trace := .committed :: w.trace }) :
    Still platform (fun w => I w ∧ K w) L where
  lost w h := still.lost w h.1
  raised w h := still.raised w h.1
  reply w rest h := ⟨still.reply w rest h.1, reply w rest h.2⟩
  flush w h := ⟨still.flush w h.1, flush w h.2⟩
  commit w h := ⟨still.commit w h.1, commit w h.2⟩

theorem gone (still : Still platform I L) (reach : Reach) (h : I w) : I (gone platform reach w) := by
  cases reach with
  | untouched => exact h
  | flushed => exact still.flush w h
  | committed => exact still.commit w h

theorem others (still : Still platform I L) (h : I w) :
    wp (others platform) (fun _ => I) L w := by
  apply wp_others (still.lost w h)
  intro reach rest
  have held := still.gone reach (still.reply w rest h)
  exact ⟨still.raised _ held, held⟩

theorem save (still : Still platform I L) (h : I w) :
    wp (Pipeline.commit platform) (fun _ => I) L w := by
  unfold Pipeline.commit
  rw [wp_bind]
  apply wp_ask _ (still.lost w h)
  intro _ rest
  rw [wp_goTo]
  exact still.gone .committed (still.reply w rest h)

theorem persist (still : Still platform I L) (h : I w) :
    wp (persistSummaryPauseState platform service) (fun _ => I) L w := by
  unfold persistSummaryPauseState
  rw [wp_when]
  split
  · exact still.flush w h
  · exact h

theorem selectPending (still : Still platform I L) (maxStageCount : Option Int) (h : I w) :
    wp (selectPending maxStageCount) (fun _ => I) L w := by
  unfold Pipeline.selectPending
  rw [wp_bind]
  apply wp_utcNow (still.lost w h)
  intro now rest
  have held := still.reply w rest h
  rw [wp_bind, wp_read, wp_bind]
  apply wp_ask _ (still.lost _ held)
  rintro ⟨kept, more⟩ rest
  cases maxStageCount with
  | none => exact still.reply _ rest held
  | some m => exact still.reply _ rest held

end Still

theorem wp_retryFallback {w : PipelineWorld} (still' : Still platform I' L)
    (still : Still platform I L) (weaken : ∀ w, I' w → I w)
    (fallback : ∀ w, I' w → wp (attemptSingleFallback service) (fun _ => I) L w) (h : I' w) :
    wp (retryFallback platform service) (fun _ => I) L w := by
  unfold retryFallback
  rw [wp_bind, wp_read, wp_bind]
  refine wp_mono (still'.others h) (fun _ v h => ?_) (fun _ h => h)
  rw [wp_bind, wp_when]
  split
  · exact wp_mono (fallback v h) (fun _ v h => still.others h) (fun _ h => h)
  · exact still.others (weaken v h)

/-- What each turn on the video does to an invariant. -/
structure Turns (platform : Platform) (service : PipelineService)
    (I I' J L : PipelineWorld → Prop) : Prop where
  still : Still platform I L
  still' : Still platform I' L
  stillJ : Still platform J L
  weaken : ∀ w, I' w → I w
  kept : ∀ w, J w → I w
  create : ∀ w n, n ∈ workStages → I w → wp (createStage n) (fun _ => I) L w
  transcript : ∀ w, I w → wp (attemptTranscriptStage service) (fun _ => I) L w
  summary : ∀ w, I w → wp (advanceSummary platform service) (fun _ => I) L w
  telegram : ∀ w, I w → wp (advanceTelegram service) (fun _ => I) L w
  pending : ∀ w n, I w → wp (pendingTurn platform service n) (fun _ => I) L w
  retry : ∀ w, I' w → wp (retryFallback platform service) (fun _ => I) L w
  tell : ∀ w, I w → wp (tellFailure platform service) (fun _ => J) L w
  short : ∀ w, ¬ service.shouldProcess w.state.video.current → I w →
    wp (skipDisabledShortStages platform service) (fun _ => J) L w
  shorts : ∀ w, I w → wp (skipDisabledShortStagesForUser platform service) (fun _ => I) L w

namespace Turns

variable {w : PipelineWorld}

theorem createStages (turns : Turns platform service I I' J L) (h : I w) :
    wp (createStagesForVideo platform service) (fun _ => I) L w := by
  unfold createStagesForVideo
  rw [wp_bind, wp_videoRow, wp_when]
  split
  · rw [wp_bind]
    refine wp_mono (wp_forM (fun n hn v hv => turns.create v n hn hv) h) (fun _ v hv => ?_)
      (fun _ hv => hv)
    exact turns.still.flush v hv
  · exact h

theorem processNew (turns : Turns platform service I I' J L) (h : I w) :
    wp (processNewVideoStages platform service) (fun _ => J) L w := by
  unfold processNewVideoStages
  rw [wp_bind, wp_videoRow]
  split
  · exact turns.short w ‹_› h
  rw [wp_bind]
  refine wp_mono (turns.createStages h) (fun _ v h => ?_) (fun _ h => h)
  rw [wp_bind]
  refine wp_mono (turns.transcript v h) (fun _ v h => ?_) (fun _ h => h)
  rw [wp_bind]
  refine wp_mono (turns.summary v h) (fun _ v h => ?_) (fun _ h => h)
  rw [wp_bind]
  refine wp_mono (turns.telegram v h) (fun _ v h => ?_) (fun _ h => h)
  rw [wp_bind, wp_flush, wp_bind]
  refine wp_mono (turns.tell _ (turns.still.flush v h)) (fun _ v h => ?_) (fun _ h => h)
  exact turns.stillJ.persist h

theorem workPending (turns : Turns platform service I I' J L) (selected : List StageName)
    (h : I w) : wp (workPending platform service selected) (fun _ => I) L w := by
  unfold Pipeline.workPending
  rw [wp_bind]
  refine wp_mono (wp_forM (fun n _ v hv => ?_) h) (fun _ v hv => turns.still.flush v hv)
    (fun _ hv => hv)
  rw [wp_bind]
  exact wp_mono (turns.pending v n hv) (fun _ v h => turns.still.others h) (fun _ h => h)

/-- Where it worked on a row other than the fallback, the failure was told. -/
theorem processPending (turns : Turns platform service I I' J L) (maxStageCount : Option Int)
    (enter : wp (skipDisabledShortStagesForUser platform service) (fun _ => I') L w) :
    wp (processPendingStages platform service maxStageCount)
      (fun worked v => I v ∧ (worked = true → J v)) L w := by
  unfold processPendingStages
  rw [wp_bind]
  refine wp_mono enter (fun _ v h => ?_) (fun _ h => h)
  rw [wp_bind]
  refine wp_mono (turns.still'.selectPending maxStageCount h) (fun page v h => ?_) (fun _ h => h)
  obtain ⟨selected, more⟩ := page
  simp only
  split
  · exact ⟨turns.weaken v h, fun worked => absurd worked Bool.false_ne_true⟩
  rw [wp_bind]
  refine wp_mono (turns.retry v h) (fun _ v h => ?_) (fun _ h => h)
  rw [wp_bind]
  refine wp_mono (turns.workPending selected h) (fun _ v h => ?_) (fun _ h => h)
  rw [wp_bind]
  refine wp_mono (turns.still.others h) (fun _ v h => ?_) (fun _ h => h)
  rw [wp_bind, wp_when]
  split
  · refine wp_mono (turns.tell v h) (fun _ v h => ?_) (fun _ h => h)
    rw [wp_bind]
    refine wp_mono (turns.stillJ.others h) (fun _ v h => ?_) (fun _ h => h)
    rw [wp_bind]
    exact wp_mono (turns.stillJ.persist h) (fun _ v h => ⟨turns.kept v h, fun _ => h⟩) fun _ h => h
  · next idle =>
    rw [wp_bind]
    refine wp_mono (turns.still.others h) (fun _ v h => ?_) (fun _ h => h)
    rw [wp_bind]
    exact wp_mono (turns.still.persist h) (fun _ v h => ⟨h, fun worked => absurd worked idle⟩)
      fun _ h => h

theorem processNext (turns : Turns platform service I I' J L) (h : I w) :
    wp (processNextPendingVideo platform service) (fun worked v => I v ∧ (worked = true → J v))
      L w := by
  unfold processNextPendingVideo
  rw [wp_bind]
  refine wp_mono (turns.shorts w h) (fun _ v h => ?_) (fun _ h => h)
  rw [wp_bind]
  refine wp_mono (turns.still.selectPending none h) (fun page v h => ?_) (fun _ h => h)
  obtain ⟨selected, more⟩ := page
  simp only [wp_bind]
  apply wp_ask _ (turns.still.lost v h)
  intro mine rest
  have h := turns.still.reply v rest h
  split
  · rw [wp_bind]
    exact wp_mono (turns.processNew h) (fun _ v h => ⟨turns.kept v h, fun _ => h⟩) fun _ h => h
  · rw [wp_bind]
    exact wp_mono (turns.still.others h)
      (fun _ v h => ⟨h, fun worked => absurd worked Bool.false_ne_true⟩) fun _ h => h

theorem drain (turns : Turns platform service I I' J L) (h : I w) :
    wp (drainPendingVideos platform service) (fun worked v => I v ∧ (worked = true → J v)) L w := by
  unfold drainPendingVideos
  rw [wp_bind]
  refine wp_mono (turns.shorts w h) (fun _ v h => ?_) (fun _ h => h)
  rw [wp_bind]
  refine wp_mono (turns.still.selectPending none h) (fun page v h => ?_) (fun _ h => h)
  obtain ⟨selected, more⟩ := page
  simp only [wp_bind]
  refine wp_mono (turns.still.others h) (fun _ v h => ?_) (fun _ h => h)
  split
  · exact ⟨h, fun worked => absurd worked Bool.false_ne_true⟩
  · rw [wp_bind]
    refine wp_mono (turns.processNew h) (fun _ v h => ?_) (fun _ h => h)
    rw [wp_bind]
    refine wp_mono (turns.stillJ.save h) (fun _ v h => ?_) (fun _ h => h)
    rw [wp_bind]
    exact wp_mono (turns.stillJ.others h) (fun _ v h => ⟨turns.kept v h, fun _ => h⟩) fun _ h => h

end Turns

/-- What the other calls do to an invariant, but for a reconciliation. -/
structure Calls (platform : Platform) (service : PipelineService) (I I' L : PipelineWorld → Prop) :
    Prop extends Turns platform service I I' I L where
  enter : ∀ w, I w → wp (skipDisabledShortStagesForUser platform service) (fun _ => I') L w
  content : ∀ w, I w → wp (advanceContent platform service) (fun _ => I) L w
  attempt : ∀ w, I w → wp (attemptSummary platform service) (fun _ => I) L w
  request : ∀ w audit, I w →
    wp (onSummary platform (requestReconciliation platform audit)) (fun _ => I) L w
  video : ∀ w v, I w → I { w with state := { w.state with video := w.state.video.modify v } }

namespace Calls

variable {w : PipelineWorld}

theorem processContent (calls : Calls platform service I I' L) (h : I w) :
    wp (processContentStages platform service) (fun _ => I) L w := by
  unfold processContentStages createContentStagesForVideo
  rw [wp_bind, wp_videoRow, wp_when]
  split
  · rw [wp_bind, wp_bind, wp_videoRow, wp_when, if_pos ‹_›]
    refine wp_mono (wp_forM (fun n hn v (hv : I v) => ?_) h) (fun _ v h => ?_) (fun _ h => h)
    · unfold createContentStage
      rw [wp_bind]
      refine wp_mono (calls.create v n ?_ hv) (fun _ v h => calls.still.flush v h) (fun _ h => h)
      revert n
      decide
    rw [wp_bind, wp_rows, wp_when]
    split
    · rw [wp_bind]
      refine wp_mono (calls.transcript v h) (fun _ v h => ?_) (fun _ h => h)
      rw [wp_bind]
      exact wp_mono (calls.content v h) (fun _ v h => calls.still.flush v h) (fun _ h => h)
    · exact h
  · exact h

theorem recovery (calls : Calls platform service I I' L) (h : I w) :
    wp (attemptSummaryRecovery platform service) (fun _ => I) L w := by
  unfold attemptSummaryRecovery
  rw [wp_bind, wp_read]
  split
  · exact h
  rw [wp_bind]
  apply wp_ask _ (calls.still.lost w h)
  intro mine rest
  have h := calls.still.reply w rest h
  split
  · rw [wp_bind]
    exact wp_mono (calls.attempt _ h) (fun _ v h => calls.still.flush v h) (fun _ h => h)
  · rw [wp_bind]
    exact wp_mono (calls.still.others h) (fun _ v h => calls.still.flush v h) (fun _ h => h)

theorem batch (calls : Calls platform service I I' L) (h : I w) :
    wp (processBatch platform service) (fun _ => I) L w := by
  unfold processBatch
  rw [wp_bind]
  refine wp_mono (calls.processPending _ (calls.enter w h)) (fun worked v h => ?_) (fun _ h => h)
  rw [wp_bind]
  exact wp_mono (calls.still.save h.1) (fun _ _ h => h) (fun _ h => h)

theorem batches (calls : Calls platform service I I' L) (rounds : Nat) (h : I w) :
    wp (processBatches platform service rounds) (fun _ => I) L w := by
  induction rounds generalizing w with
  | zero => exact h
  | succ n ih =>
    unfold processBatches
    rw [wp_bind]
    refine wp_mono (calls.still.selectPending _ h) (fun page v h => ?_) (fun _ h => h)
    simp only
    split
    · rw [wp_bind, wp_pure, wp_bind]
      exact wp_mono (ih h) (fun _ _ h => h) (fun _ h => h)
    · rw [wp_bind]
      refine wp_mono (calls.batch h) (fun worked v h => ?_) (fun _ h => h)
      rw [wp_bind]
      exact wp_mono (ih h) (fun _ _ h => h) (fun _ h => h)

theorem throttled (calls : Calls platform service I I' L) (rounds : Nat) (h : I w) :
    wp (processPendingStagesWithThrottling platform service rounds) (fun _ => I) L w := by
  unfold processPendingStagesWithThrottling
  split
  · exact wp_mono (calls.processPending none (calls.enter w h)) (fun _ _ h => h.1) (fun _ h => h)
  rw [wp_bind]
  refine wp_mono (calls.still.selectPending _ h) (fun page v h => ?_) (fun _ h => h)
  simp only
  split
  · exact h
  rw [wp_bind]
  refine wp_mono (calls.batch h) (fun worked v h => ?_) (fun _ h => h)
  rw [wp_bind]
  exact wp_mono (calls.batches rounds h) (fun _ _ h => h) (fun _ h => h)

/-- Every call keeps the invariant, wherever it is lost. -/
theorem keeps (calls : Calls platform service I I' L) (call : Call) (h : I w)
    (resolve : call = .reconcile →
      wp (reconcileQuarantinedSummaries platform service) (fun _ => I) L w)
    (undone : call = .rollback → I (undo w)) :
    wp (call.proc platform service) (fun _ => I) L w := by
  cases call with
  | createStages =>
    exact (wp_bind _ _ ▸ wp_mono (calls.createStages h) (fun _ _ h => h) fun _ h => h)
  | processContent =>
    exact (wp_bind _ _ ▸ wp_mono (calls.processContent h) (fun _ _ h => h) fun _ h => h)
  | processNew =>
    exact (wp_bind _ _ ▸ wp_mono (calls.processNew h) (fun _ _ h => h) fun _ h => h)
  | processPending m =>
    exact wp_mono (calls.processPending m (calls.enter w h)) (fun _ _ h => h.1) fun _ h => h
  | processNext => exact wp_mono (calls.processNext h) (fun _ _ h => h.1) fun _ h => h
  | drain => exact wp_mono (calls.drain h) (fun _ _ h => h.1) fun _ h => h
  | throttled rounds => exact calls.throttled rounds h
  | skipShorts =>
    exact (wp_bind _ _ ▸ wp_mono (calls.shorts w h) (fun _ _ h => h) fun _ h => h)
  | reconcile =>
    exact (wp_bind _ _ ▸ wp_mono (resolve rfl) (fun _ _ h => h) fun _ h => h)
  | request audit =>
    exact (wp_bind _ _ ▸ wp_mono (calls.request w audit h) (fun _ _ h => h) fun _ h => h)
  | recovery =>
    exact (wp_bind _ _ ▸ wp_mono (calls.recovery h) (fun _ _ h => h) fun _ h => h)
  | commit => exact (wp_bind _ _ ▸ wp_mono (calls.still.save h) (fun _ _ h => h) fun _ h => h)
  | rollback => exact undone rfl
  | video v => exact calls.video w _ h

end Calls

/-- The stage a stage depends on. -/
def upstream : StageName → Option StageName
  | .summary => some .transcript
  | .telegram => some .summary
  | _ => none

/-- The stage before it ended without a result, or nothing is to be sent. -/
def Justified (n : StageName) (m : Moment) : Prop :=
  (∃ u r, upstream n = some u ∧ m.rows u = some r ∧ (r.status = .failed ∨ r.status = .skipped))
    ∨ m.service.telegramService = false ∨ m.service.refuses m.video

/-- What each step of a turn does to an invariant: `overlook` is the turn of a
pending row whose upstream stage is not completed. -/
structure Steps (platform : Platform) (service : PipelineService) (I L : PipelineWorld → Prop) :
    Prop where
  still : Still platform I L
  create : ∀ w n, I w → wp (createStage n) (fun _ => I) L w
  transcript : ∀ w, I w → wp (attemptTranscriptStage service) (fun _ => I) L w
  attempt : ∀ w, I w → wp (attemptSummary platform service) (fun _ => I) L w
  deliver : ∀ w, I w → wp (attemptTelegramStage service) (fun _ => I) L w
  skip : ∀ w n video, Justified n ⟨service, w.state.rows, video⟩ → I w →
    wp (skipStage service n video) (fun _ => I) L w
  overlook : ∀ w n u, upstream n = some u → ¬ canProceed (w.state.rows u) → I w →
    wp (skipStage service n w.state.video.current) (fun _ => I) L
      { w with trace := .dependency n ⟨service, w.state.rows, w.state.video.current⟩ :: w.trace }
  note : ∀ w n u, upstream n = some u → canProceed (w.state.rows u) → I w →
    I { w with trace := .dependency n ⟨service, w.state.rows, w.state.video.current⟩ :: w.trace }
  explain : ∀ w n, I w → I { w with
    state := w.state.setRow n fun r => { r with lastError := some shortProcessingDisabledError } }
  single : ∀ w, (w.state.rows .fallbackTelegram).any (fun r => decide r.status.isOpen) = true →
    I w → wp (attemptSingleFallback service) (fun _ => I) L w
  request : ∀ w audit, I w →
    wp (onSummary platform (requestReconciliation platform audit)) (fun _ => I) L w
  video : ∀ w v, I w → I { w with state := { w.state with video := w.state.video.modify v } }

theorem refuses_of_not_shouldProcess {video : Video} (h : ¬ service.shouldProcess video) :
    service.refuses video := by
  obtain ⟨disabled, short⟩ := not_or.mp h
  exact ⟨Bool.eq_false_iff.mpr disabled, Decidable.not_not.mp short⟩

namespace Steps

variable {w : PipelineWorld}

theorem skipWhen (steps : Steps platform service I L) {c : Prop} [Decidable c] {n : StageName}
    {video : Video} (just : c → Justified n ⟨service, w.state.rows, video⟩) (h : I w) :
    wp (Proc.when c (skipStage service n video)) (fun _ => I) L w := by
  rw [wp_when]
  split
  · exact steps.skip w n video (just ‹_›) h
  · exact h

/-- A summary is skipped after a transcript that failed. -/
theorem justified_summary {rows : Rows} {video : Video}
    (h : (rows .transcript).any (·.status = .failed) = true) :
    Justified .summary ⟨service, rows, video⟩ := by
  obtain ⟨r, hr, failed⟩ := (Option.any_eq_true _ _).mp h
  exact .inl ⟨.transcript, r, rfl, hr, .inl (of_decide_eq_true failed)⟩

theorem summary (steps : Steps platform service I L) (h : I w) :
    wp (advanceSummary platform service) (fun _ => I) L w := by
  unfold advanceSummary
  rw [wp_bind, wp_rows, wp_bind, wp_videoRow]
  split
  · exact steps.attempt w h
  · exact steps.skipWhen justified_summary h

theorem telegram (steps : Steps platform service I L) (h : I w) :
    wp (advanceTelegram service) (fun _ => I) L w := by
  unfold advanceTelegram
  rw [wp_bind, wp_rows, wp_bind, wp_videoRow]
  split
  · exact steps.deliver w h
  · refine steps.skipWhen (fun past => ?_) h
    obtain ⟨r, hr, ended⟩ := (Option.any_eq_true _ _).mp past
    exact .inl ⟨.summary, r, rfl, hr, of_decide_eq_true ended⟩

theorem content (steps : Steps platform service I L) (h : I w) :
    wp (advanceContent platform service) (fun _ => I) L w := by
  unfold advanceContent
  rw [wp_bind, wp_rows, wp_bind, wp_videoRow]
  split
  · rw [wp_bind]
    exact wp_mono (steps.attempt w h) (fun _ v h => steps.still.persist h) (fun _ h => h)
  · exact steps.skipWhen justified_summary h

theorem pending (steps : Steps platform service I L) (n : StageName) (h : I w) :
    wp (pendingTurn platform service n) (fun _ => I) L w := by
  cases n with
  | transcript => exact steps.transcript w h
  | fallbackTelegram => exact h
  | summary =>
    unfold pendingTurn
    rw [wp_bind, wp_rows, wp_bind, wp_videoRow, wp_bind, wp_emit]
    split
    · exact steps.overlook w .summary .transcript rfl ‹_› h
    · exact steps.attempt _ (steps.note w .summary .transcript rfl (Decidable.not_not.mp ‹_›) h)
  | telegram =>
    unfold pendingTurn
    rw [wp_bind, wp_rows, wp_bind, wp_videoRow, wp_bind, wp_emit]
    split
    · exact steps.overlook w .telegram .summary rfl ‹_› h
    · exact steps.deliver _ (steps.note w .telegram .summary rfl (Decidable.not_not.mp ‹_›) h)

theorem tell (steps : Steps platform service I L) (h : I w) :
    wp (tellFailure platform service) (fun _ => I) L w := by
  unfold tellFailure attemptFallbackTelegram
  rw [wp_bind, wp_rows, wp_when]
  split
  · rw [wp_bind, wp_videoRow]
    split
    · exact h
    rw [wp_bind]
    refine wp_mono (?_ : wp _ (fun _ => I) L _) (fun _ v h => ?_) (fun _ h => h)
    · unfold getOrCreateFallbackStage
      rw [wp_bind, wp_read]
      split
      · exact h
      · rw [wp_bind]
        exact wp_mono (steps.create w _ h) (fun _ v h => steps.still.flush v h) (fun _ h => h)
    · rw [wp_bind, wp_rows, wp_when]
      split
      · exact steps.single v ‹_› h
      · exact h
  · exact h

theorem skipShort (steps : Steps platform service I L) (n : StageName) {video : Video}
    (refused : service.refuses video) (h : I w) :
    wp (skipDisabledShort service n video) (fun _ => I) L w := by
  unfold skipDisabledShort
  rw [wp_bind]
  exact wp_mono (steps.skip w n video (.inr (.inr refused)) h) (fun _ v h => steps.explain v n h)
    (fun _ h => h)

theorem short (steps : Steps platform service I L)
    (refused : service.refuses w.state.video.current) (h : I w) :
    wp (skipDisabledShortStages platform service) (fun _ => I) L w := by
  unfold skipDisabledShortStages
  rw [wp_when]
  split
  · rw [wp_bind, wp_read, wp_bind]
    exact wp_mono (wp_forM (fun n _ v (hv : I v) => steps.skipShort n refused hv) h)
      (fun _ v h => steps.still.flush v h) (fun _ h => h)
  · exact h

theorem shortRows (steps : Steps platform service I L) {names : List StageName} {video : Video}
    (disabled : service.shortsProcessingEnabled = false) (h : I w) :
    wp (Proc.when (video.isShort = some true)
      (names.forM fun n => skipDisabledShort service n video)) (fun _ => I) L w := by
  rw [wp_when]
  split
  · next short =>
    exact wp_forM (fun n _ v (hv : I v) => steps.skipShort n ⟨disabled, short⟩ hv) h
  · exact h

theorem shorts (steps : Steps platform service I L) (h : I w) :
    wp (skipDisabledShortStagesForUser platform service) (fun _ => I) L w := by
  unfold skipDisabledShortStagesForUser
  rw [wp_when]
  split
  · next disabled =>
    rw [wp_bind, wp_read, wp_bind]
    exact wp_mono (steps.shortRows disabled h) (fun _ v h => steps.still.flush v h) (fun _ h => h)
  · exact h

/-- The steps make up the calls, with what holds where the fallback is retried. -/
theorem calls (steps : Steps platform service I L) (still' : Still platform I' L)
    (weaken : ∀ w, I' w → I w)
    (enter : ∀ w, I w → wp (skipDisabledShortStagesForUser platform service) (fun _ => I') L w)
    (retry : ∀ w, I' w → wp (retryFallback platform service) (fun _ => I) L w) :
    Calls platform service I I' L where
  still := steps.still
  still' := still'
  stillJ := steps.still
  weaken := weaken
  kept _ h := h
  create w n _ := steps.create w n
  transcript := steps.transcript
  summary _ := steps.summary
  telegram _ := steps.telegram
  pending _ n := steps.pending n
  retry := retry
  tell _ := steps.tell
  short _ kept := steps.short (refuses_of_not_shouldProcess kept)
  shorts _ := steps.shorts
  enter := enter
  content _ := steps.content
  attempt := steps.attempt
  request := steps.request
  video := steps.video

end Steps

/-- What the turn of the summary keeps, its reconciliation keeps. -/
theorem wp_reconcileAll {w : PipelineWorld} (still : Still platform I L)
    (reconcile : ∀ broker reach v, service.summaries.summarizationService = some (.broker broker) →
      w.replies = .others reach false :: v.replies → v.state = w.state.reached platform reach →
      I v → wp (onSummary platform (reconcileStage platform broker)) (fun _ => I) L v)
    (h : I w) : wp (reconcileQuarantinedSummaries platform service) (fun _ => I) L w := by
  unfold reconcileQuarantinedSummaries
  split
  · next broker wired =>
    rw [wp_bind]
    apply wp_others_reply (still.lost w h)
    · exact fun reach rest => still.raised _ (still.gone reach (still.reply w rest h))
    intro reach rest asked
    have gone := still.gone reach (still.reply w rest h)
    rw [wp_bind]
    refine wp_mono (reconcile broker reach _ wired asked rfl gone) (fun _ v h => ?_) (fun _ h => h)
    rw [wp_bind]
    exact wp_mono (still.others h) (fun _ v h => still.flush v h) (fun _ h => h)
  · exact h

/-- What every call does to an invariant that a reconciliation and a rollback keep
as well. -/
structure FreeCalls (platform : Platform) (service : PipelineService)
    (I L : PipelineWorld → Prop) : Prop extends Calls platform service I I L where
  reconcile : ∀ w broker, I w →
    wp (onSummary platform (reconcileStage platform broker)) (fun _ => I) L w
  undone : ∀ w, I w → I (undo w)

theorem FreeCalls.keeps {w : PipelineWorld} (calls : FreeCalls platform service I L) (call : Call)
    (h : I w) : wp (call.proc platform service) (fun _ => I) L w :=
  calls.toCalls.keeps call h
    (fun _ => wp_reconcileAll calls.still (fun broker _ v _ _ _ => calls.reconcile v broker) h)
    fun _ => calls.undone w h

/-- Steps that keep an invariant wherever the fallback, a reconciliation and a rollback
come. -/
structure FreeSteps (platform : Platform) (service : PipelineService)
    (I L : PipelineWorld → Prop) : Prop extends Steps platform service I L where
  told : ∀ w, I w → wp (attemptSingleFallback service) (fun _ => I) L w
  reconcile : ∀ w broker, I w →
    wp (onSummary platform (reconcileStage platform broker)) (fun _ => I) L w
  undone : ∀ w, I w → I (undo w)

/-- The steps make up every call, when a fallback may be told of wherever it stands. -/
theorem Steps.freely (steps : Steps platform service I L)
    (told : ∀ w, I w → wp (attemptSingleFallback service) (fun _ => I) L w) :
    Calls platform service I I L :=
  steps.calls steps.still (fun _ h => h) (fun _ => steps.shorts) fun _ =>
    wp_retryFallback steps.still steps.still (fun _ h => h) told

theorem FreeSteps.calls (steps : FreeSteps platform service I L) :
    FreeCalls platform service I L where
  toCalls := steps.toSteps.freely steps.told
  reconcile := steps.reconcile
  undone := steps.undone

/-- An invariant every call keeps, and a loss with the rollback after it, holds
after any run. -/
theorem run_keeps {ops : List PipelineOp} {w : PipelineWorld}
    (calls : ∀ op ∈ ops, FreeCalls platform op.service I I) (h : I w) :
    I (runPipeline platform ops w) := by
  apply runPipeline_induction _ _ h
  intro op hop v hv
  have held := (calls op hop).still.reply v op.replies hv
  apply perform_of_wp
  exact wp_mono ((calls op hop).keeps op.call held) (fun _ _ h => h)
    fun u hu => ⟨hu, (calls op hop).undone u hu⟩

end YTPipe.Pipeline
