import YTPipe.Pipeline.Summary
import YTPipe.Pipeline.Board

/-!
# No failure stays untold

A stage that failed is told of, or will be, as long as the fallback is used up
neither while the video still has work to do nor for a quarantine that is resolved.
-/

namespace YTPipe.Pipeline

open Broker Proc Ledger

section rows

variable {platform : Platform} {s : PipelineSession} {n : StageName} {r : PipelineStage}

theorem board_ext {b b' : Board} (status : ∀ n, b.status n = b'.status n)
    (quarantined : b.quarantined = b'.quarantined) : b = b' := by
  obtain ⟨s, q⟩ := b
  obtain ⟨s', q'⟩ := b'
  cases funext status
  cases quarantined
  rfl

/-- The board of rows that differ in other columns only. -/
theorem board_congr {rows rows' : Rows} (status : ∀ n, (rows' n).map (·.status)
      = (rows n).map (·.status))
    (quarantined : (rows' .summary).map (·.quarantinedAt) = (rows .summary).map (·.quarantinedAt)) :
    board rows' = board rows := by
  apply board_ext status
  have any (r : Option PipelineStage) : r.any (·.quarantinedAt.isSome)
      = (r.map (·.quarantinedAt)).any (·.isSome) := by
    cases r <;> rfl
  change (rows' .summary).any _ = (rows .summary).any _
  rw [any, any, quarantined]

theorem board_commit : board (s.commit platform).rows = board s.rows := by
  have column {α : Type} (f : PipelineStage → α) (free : ∀ r d, f (planColumn.set d r) = f r)
      (n : StageName) : ((s.commit platform).rows n).map f = (s.rows n).map f := by
    rw [PipelineSession.rows_commit]
    simp only [PipelineSession.rows, Slot.current, Option.map_map]
    congr 1
    funext i
    obtain ⟨d, hd⟩ := Instance.written_eq_set planColumn platform.flushRule i
    simp only [Function.comp_apply, hd, free]
  exact board_congr (column _ fun _ _ => rfl) (column _ (fun _ _ => rfl) _)

/-- The board after a row takes another value. -/
theorem board_setRow {f : PipelineStage → PipelineStage} (row : s.rows n = some r) :
    board (s.setRow n f).rows = { (board s.rows).put n (f r).status with
      quarantined := if n = .summary then (f r).quarantinedAt.isSome
        else (board s.rows).quarantined } := by
  apply board_ext
  · intro m
    simp only [board, Board.put, PipelineSession.rows_setRow]
    by_cases same : m = n
    · subst same
      simp [row]
    · simp [same]
  · simp only [board, PipelineSession.rows_setRow]
    by_cases summary : StageName.summary = n
    · subst summary
      simp [row]
    · rw [if_neg summary, if_neg fun h => summary h.symm]

theorem board_status (row : s.rows n = some r) : (board s.rows).status n = some r.status := by
  simp [board, row]

theorem board_quarantined (row : s.rows .summary = some r) :
    (board s.rows).quarantined = r.quarantinedAt.isSome := by
  simp [board, row]

/-- Columns the board does not show. -/
theorem board_same {f : PipelineStage → PipelineStage}
    (status : ∀ r, (f r).status = r.status)
    (quarantine : ∀ r, (f r).quarantinedAt = r.quarantinedAt) :
    board (s.setRow n f).rows = board s.rows := by
  apply board_congr
  · intro m
    rw [PipelineSession.rows_setRow]
    split
    · rw [Option.map_map]
      exact congrFun (congrArg _ (funext status)) _
    · rfl
  · rw [PipelineSession.rows_setRow]
    split
    · rw [Option.map_map]
      exact congrFun (congrArg _ (funext quarantine)) _
    · rfl

theorem board_start (attemptedAt : Time) :
    board (s.setRow n (startAttempt attemptedAt)).rows = board s.rows :=
  board_same (fun _ => rfl) fun _ => rfl

theorem canProceed_iff {rows : Rows} :
    canProceed (rows n) ↔ (board rows).status n = some .completed := by
  simp only [canProceed, board]
  cases rows n with
  | none => simp
  | some r => simp

theorem shouldTriggerFallback_board {rows : Rows} :
    shouldTriggerFallback rows = true ↔ (board rows).Troubled := by
  rw [shouldTriggerFallback_iff]
  simp only [Troubled, Board.Troubled, board, Option.map_eq_some_iff, Option.any_eq_true]

end rows

/-- What there is to tell is told, in memory and durably, and a quarantine that is
written is in memory. -/
structure Alert (w : PipelineWorld) : Prop where
  current : (board w.state.rows).Sane w.trace
  durable : (board w.state.durableRows).Sane w.trace
  calm : ∀ i, (w.state.slot .summary).row = some i → Calm i

section steps

variable {platform : Platform} {service : PipelineService} {w : PipelineWorld} {n : StageName}

theorem Alert.emit (h : Alert w) (e : PipelineEvent) :
    Alert { w with trace := e :: w.trace } :=
  ⟨h.current.cons e, h.durable.cons e, h.calm⟩

theorem Alert.replies (h : Alert w) (rest : List PipelineReply) :
    Alert { w with replies := rest } := ⟨h.current, h.durable, h.calm⟩

theorem alert_still : Still platform Alert Alert where
  lost _ h := h
  raised _ h := h.emit _
  reply _ rest h := h.replies rest
  flush w h := by
    refine ⟨?_, ?_, fun i hi => ?_⟩
    · rw [PipelineSession.rows_flush]
      exact h.current
    · rw [PipelineSession.durableRows_flush]
      exact h.durable
    · obtain ⟨i', _, rfl⟩ := Option.map_eq_some_iff.mp hi
      exact calm_flush i' _
  commit w h := by
    have current : (board (w.state.commit platform).rows).Sane w.trace := by
      rw [board_commit]
      exact h.current
    refine Alert.emit (w := { w with state := w.state.commit platform }) ⟨current, ?_, ?_⟩ _
    · rw [PipelineSession.durableRows_commit_eq]
      exact current
    · intro i hi
      obtain ⟨i', _, rfl⟩ := Option.map_eq_some_iff.mp hi
      exact fun quiet => quiet

theorem Alert.undo (h : Alert w) : Alert (undo w) := by
  refine Alert.emit (w := { w with state := w.state.rollback }) ⟨?_, ?_, fun i hi => ?_⟩ _
  · rw [PipelineSession.rows_rollback]
    exact h.durable
  · rw [PipelineSession.durableRows_rollback]
    exact h.durable
  · simp only [PipelineSession.rollback, Slot.rollback] at hi
    split at hi
    · obtain ⟨i', _, rfl⟩ := Option.map_eq_some_iff.mp hi
      exact fun quiet => quiet
    · cases hi

/-- A row changes, and the board with it. -/
theorem Alert.setRow (h : Alert w) {f : PipelineStage → PipelineStage}
    (sane : (board (w.state.setRow n f).rows).Sane w.trace)
    (kept : ∀ r, (f r).quarantinedAt = r.quarantinedAt) :
    Alert { w with state := w.state.setRow n f } := by
  refine ⟨sane, ?_, fun i hi => ?_⟩
  · rw [PipelineSession.durableRows_setRow]
    exact h.durable
  · simp only [PipelineSession.setRow, PipelineSession.setSlot] at hi
    split at hi
    · next summary =>
      obtain ⟨i', hi', rfl⟩ := Option.map_eq_some_iff.mp hi
      exact fun quiet => h.calm i' (summary ▸ hi') ((kept _).symm.trans quiet)
    · exact h.calm i hi

/-- Columns change that the board does not show. -/
theorem Alert.aside (h : Alert w) {f : PipelineStage → PipelineStage}
    (status : ∀ r, (f r).status = r.status)
    (kept : ∀ r, (f r).quarantinedAt = r.quarantinedAt) :
    Alert { w with state := w.state.setRow n f } := by
  refine h.setRow ?_ kept
  rw [board_same status kept]
  exact h.current

/-- A stage other than the summary is attempted. -/
theorem Alert.attempt (h : Alert w) (ready : (board w.state.rows).Ready n) (other : n ≠ .summary)
    {f : PipelineStage → PipelineStage} (kept : ∀ r, (f r).quarantinedAt = r.quarantinedAt) :
    Alert { w with state := w.state.setRow n f } := by
  refine h.setRow ?_ kept
  obtain ⟨_, s, hs, _⟩ := ready.isOpen
  obtain ⟨r, row, _⟩ := Option.map_eq_some_iff.mp hs
  rw [board_setRow row]
  exact h.current.attempt ready _ _ (fun other => if_neg other) fun summary => absurd summary other

theorem alert_create (n : StageName) (h : Alert w) :
    wp (createStage n) (fun _ v => Alert v ∧ (board v.state.rows).status n ≠ none
      ∧ ((board w.state.rows).Troubled → (board v.state.rows).Troubled)) Alert w := by
  apply wp_createStage h
  · intro there
    refine ⟨h, ?_, id⟩
    obtain ⟨i, hi⟩ := Option.isSome_iff_exists.mp there
    simp [board, PipelineSession.rows, Slot.current, hi]
  intro unloaded id rest
  have missing : w.state.rows n = none := by
    simp [PipelineSession.rows, Slot.current, unloaded]
  have added : board (w.state.setSlot n (.added (PipelineStage.new id w.state.video.current.id
      w.state.userId n))).rows = (board w.state.rows).put n .pending := by
    apply board_ext
    · intro m
      simp only [board, Board.put, PipelineSession.rows_added]
      split <;> rfl
    · simp only [board, Board.put, PipelineSession.rows_added]
      split
      · next summary =>
        rw [summary, missing]
        rfl
      · rfl
  refine ⟨⟨?_, ?_, fun i hi => ?_⟩, ?_, fun troubled => ?_⟩
  · change (board (w.state.setSlot n _).rows).Sane w.trace
    rw [added]
    apply h.current.create
    · simp [board, missing]
    · rintro rfl
      simp [board, missing]
  · have same : (w.state.setSlot n (.added (PipelineStage.new id w.state.video.current.id
        w.state.userId n))).durableRows = w.state.durableRows := by
      funext m
      rw [PipelineSession.durableRows_added]
      split
      · next same =>
        subst same
        simp [PipelineSession.durableRows, Slot.durable, unloaded]
      · rfl
    exact same ▸ h.durable
  · simp only [PipelineSession.setSlot] at hi
    split at hi
    · cases hi
      exact fun quiet => quiet
    · exact h.calm i hi
  · change (board (w.state.setSlot n _).rows).status n ≠ none
    rw [added]
    simp [Board.put]
  · change (board (w.state.setSlot n _).rows).Troubled
    rw [added]
    refine troubled.put fun _ failed => ?_
    simp [board, missing] at failed

theorem alert_transcript (h : Alert w) :
    wp (attemptTranscriptStage service) (fun _ => Alert) Alert w := by
  have ready {r : PipelineStage} (row : w.state.rows .transcript = some r)
      (isOpen : r.status.isOpen) : (board w.state.rows).Ready .transcript :=
    ⟨r.status, board_status row, isOpen⟩
  have started (attemptedAt : Time) (rest : List PipelineReply) := (h.replies rest).aside
    (n := .transcript) (f := startAttempt attemptedAt) (fun _ => rfl) fun _ => rfl
  have ready' {r : PipelineStage} (attemptedAt : Time) (row : w.state.rows .transcript = some r)
      (isOpen : r.status.isOpen) :
      (board (w.state.setRow .transcript (startAttempt attemptedAt)).rows).Ready .transcript := by
    rw [board_start]
    exact ready row isOpen
  apply wp_attemptTranscriptStage h h
  · exact fun _ row isOpen => h.attempt (ready row isOpen) nofun fun _ => rfl
  · exact fun _ row isOpen => h.attempt (ready row isOpen) nofun fun _ => rfl
  · exact fun _ attemptedAt rest _ _ => (started attemptedAt rest).emit _
  · intro _ attemptedAt outcome text rest row isOpen _
    have fetched := (started attemptedAt rest).emit (.fetch (some outcome))
    have kept : Alert { w with
        state := { w.state.setRow .transcript (startAttempt attemptedAt) with
          video := w.state.video.modify fun v => { v with transcript := some text } }
        replies := rest
        trace := .fetch (some outcome) :: w.trace } :=
      ⟨fetched.current, fetched.durable, fetched.calm⟩
    exact kept.attempt (ready' attemptedAt row isOpen) nofun fun _ => rfl
  · intro _ attemptedAt outcome rest row isOpen _
    have fetched := (started attemptedAt rest).emit (.fetch (some outcome))
    refine fetched.attempt (ready' attemptedAt row isOpen) nofun fun r => ?_
    unfold unfetchedRow
    split <;> rfl

/-- Telegram is there, and Shorts are processed. -/
structure Serves (service : PipelineService) : Prop where
  telegram : service.telegramService = true
  shorts : service.shortsProcessingEnabled = true

theorem Serves.accepts (serves : Serves service) (video : Video) : ¬ service.refuses video :=
  fun refused => absurd (serves.shorts.symm.trans refused.1) (by decide)

theorem alert_deliver (serves : Serves service)
    (proceeds : canProceed (w.state.rows .summary)) (h : Alert w) :
    wp (attemptTelegramStage service) (fun _ => Alert) Alert w := by
  have ready {r : PipelineStage} (row : w.state.rows .telegram = some r)
      (isOpen : r.status.isOpen) : (board w.state.rows).Ready .telegram :=
    ⟨canProceed_iff.mp proceeds, r.status, board_status row, isOpen⟩
  have started (attemptedAt : Time) (rest : List PipelineReply) := (h.replies rest).aside
    (n := .telegram) (f := startAttempt attemptedAt) (fun _ => rfl) fun _ => rfl
  apply wp_attemptTelegramStage h h
  · exact fun _ _ _ refused => absurd refused (serves.accepts _)
  · exact fun _ _ _ absent => absurd (serves.telegram.symm.trans absent) (by decide)
  · exact fun _ row isOpen => h.attempt (ready row isOpen) nofun fun _ => rfl
  · exact fun _ attemptedAt rest _ _ => (started attemptedAt rest).emit _
  · intro _ attemptedAt outcome rest row isOpen
    have ready : (board (w.state.setRow .telegram (startAttempt attemptedAt)).rows).Ready
        .telegram := by
      rw [board_start]
      exact ready row isOpen
    have sent := (started attemptedAt rest).emit (.notify (some outcome))
    refine sent.attempt ready nofun fun r => ?_
    unfold deliveredRow
    split <;> rfl

theorem alert_skip (named : n = .summary ∨ n = .telegram) (video : Video) (h : Alert w) :
    wp (skipStage service n video) (fun _ => Alert) Alert w := by
  have skipped {r : PipelineStage} (row : w.state.rows n = some r)
      (going : ¬ (r.status = .completed ∨ r.status = .failed)) :
      Alert { w with state := w.state.setRow n skipRow } := by
    refine h.setRow ?_ fun r => ?_
    · have status : (skipRow r).status = .skipped := by rw [skipRow, if_neg going]
      have quarantined : (if n = .summary then (skipRow r).quarantinedAt.isSome
          else (board w.state.rows).quarantined) = (board w.state.rows).quarantined := by
        split
        · next summary =>
          subst summary
          rw [board_quarantined row, skipRow, if_neg going]
        · rfl
      have skipped := h.current.skip named (board_status row) (not_or.mp going)
      rw [board_setRow row, status, quarantined]
      exact skipped
    · unfold skipRow
      split <;> rfl
  apply wp_skipStage
  · exact fun _ => h
  · intro r row already
    refine skipped row fun past => ?_
    rcases past with past | past <;> exact absurd (already.symm.trans past) (by decide)
  · intro r row isOpen
    refine (skipped row fun past => ?_).emit _
    rcases past with past | past
    · exact completed_not_open (past ▸ isOpen)
    · exact failed_not_open (past ▸ isOpen)

/-- What the message about the rows tells. -/
theorem tells_of_failed {rows : Rows} {message : String}
    (failed : (board rows).status n = some .failed) :
    PipelineEvent.tells n (.fallback rows message (some .sent)) = true :=
  decide_eq_true failed

/-- The fallback message is sent, or is not. -/
theorem Alert.told (h : Alert w) {rows : Rows} {r : PipelineStage} (message : String)
    (row : w.state.rows .fallbackTelegram = some r) (outcome : DeliveryOutcome)
    (same : board rows = board w.state.rows)
    (due : (board w.state.rows).Troubled ∨ (board w.state.rows).Finished) :
    Alert { w with
      state := w.state.setRow .fallbackTelegram (toldRow outcome)
      trace := .fallback rows message (some outcome) :: w.trace } := by
  refine (h.emit (.fallback rows message (some outcome))).setRow ?_ fun r => ?_
  · rw [board_setRow row, if_neg nofun]
    unfold toldRow
    split
    · refine h.current.tell due fun n _ failed => ?_
      exact tells_of_failed (same ▸ failed)
    · exact h.current.postpone.cons _
    · exact h.current.reject rfl
    · exact h.current.postpone.cons _
  · unfold toldRow
    split <;> rfl

/-- The fallback is there. -/
def Present (w : PipelineWorld) : Prop := (board w.state.rows).status .fallbackTelegram ≠ none

theorem present_setRow {s : PipelineSession} {f : PipelineStage → PipelineStage} {m : StageName} :
    ((board (s.setRow n f).rows).status m ≠ none) ↔ (board s.rows).status m ≠ none := by
  simp only [board, PipelineSession.rows_setRow]
  split <;> simp

theorem alert_send (message : String) (h : Alert w) {r : PipelineStage}
    (row : w.state.rows .fallbackTelegram = some r)
    (due : (board w.state.rows).Troubled ∨ (board w.state.rows).Finished) :
    wp (sendFallback message) (fun _ v => Alert v ∧ (Present w → Present v)) Alert w := by
  have started (attemptedAt : Time) (rest : List PipelineReply) := (h.replies rest).aside
    (n := .fallbackTelegram) (f := startAttempt attemptedAt) (fun _ => rfl) fun _ => rfl
  have told (attemptedAt : Time) (rest : List PipelineReply) (outcome : DeliveryOutcome) :=
    (started attemptedAt rest).told message (own_row row (startAttempt attemptedAt)) outcome rfl
      (by
        change (board (w.state.setRow _ _).rows).Troubled ∨ _
        rw [board_start]
        exact due)
  have stays (attemptedAt : Time) (outcome : DeliveryOutcome) : Present w → Present { w with
      state := (w.state.setRow .fallbackTelegram (startAttempt attemptedAt)).setRow
        .fallbackTelegram (toldRow outcome) } :=
    fun there => present_setRow.mpr (present_setRow.mpr there)
  apply wp_sendFallback h
  · exact fun attemptedAt rest => (started attemptedAt rest).emit _
  · exact fun attemptedAt outcome rest => ⟨told attemptedAt rest outcome, stays attemptedAt outcome⟩
  · intro attemptedAt outcome rest
    exact ⟨(told attemptedAt rest outcome).aside (n := .summary) (fun _ => rfl) fun _ => rfl,
      fun there => present_setRow.mpr (stays attemptedAt outcome there)⟩

/-- The fallback is open only while there is something to tell or nothing left to do. -/
def Due (w : PipelineWorld) : Prop :=
  ∀ s, (board w.state.rows).status .fallbackTelegram = some s → s.isOpen →
    (board w.state.rows).Troubled ∨ (board w.state.rows).Finished

theorem buildFallbackReason_of_troubled {rows : Rows} (reference : String)
    (troubled : (board rows).Troubled) : (buildFallbackReason rows reference).isSome = true := by
  rw [← shouldTriggerFallback_board, shouldTriggerFallback, List.any_eq_true] at troubled
  rw [buildFallbackReason, List.findSome?_isSome_iff]
  obtain ⟨n, hn, failed⟩ := troubled
  refine ⟨n, hn, ?_⟩
  obtain ⟨r, hr, trouble⟩ := (Option.any_eq_true _ _).mp failed
  rw [hr]
  rcases Bool.or_eq_true _ _ |>.mp trouble with failed | quarantined
  · simp [of_decide_eq_true failed]
  · obtain ⟨_, quarantined⟩ := Bool.and_eq_true _ _ |>.mp quarantined
    simp [Option.isSome_iff_ne_none.mp quarantined]

theorem alert_single (serves : Serves service) (h : Alert w) (due : Due w) :
    wp (attemptSingleFallback service) (fun _ v => Alert v ∧ (Present w → Present v)) Alert w := by
  apply wp_attemptSingleFallback ⟨h, id⟩
  · exact fun _ _ refused => absurd refused (serves.accepts _)
  · intro r row isOpen silent
    have calm : ¬ (board w.state.rows).Troubled := by
      intro troubled
      have reasoned := buildFallbackReason_of_troubled (videoUrl w.state.video.current) troubled
      rw [silent] at reasoned
      cases reasoned
    refine ⟨h.setRow ?_ fun _ => rfl, present_setRow.mpr⟩
    rw [board_setRow row, if_neg nofun]
    exact h.current.close calm ((due r.status (board_status row) isOpen).resolve_left calm)
  · exact fun r _ row isOpen _ => alert_send _ h row (due r.status (board_status row) isOpen)

/-- After a failure the fallback is there. -/
def Told (w : PipelineWorld) : Prop := (board w.state.rows).Troubled → Present w

theorem alert_tell (serves : Serves service) (h : Alert w) :
    wp (tellFailure platform service) (fun _ v => Alert v ∧ Told v) Alert w := by
  unfold tellFailure attemptFallbackTelegram
  rw [wp_bind, wp_rows, wp_when]
  split
  · next troubled =>
    rw [wp_bind, wp_videoRow, if_neg fun away =>
      away.elim (serves.accepts _) (fun absent => absent serves.telegram), wp_bind]
    have due {v : PipelineWorld} (troubled : (board v.state.rows).Troubled) : Due v :=
      fun _ _ _ => .inl troubled
    refine wp_mono (?_ : wp _ (fun _ v => Alert v ∧ Present v ∧ (board v.state.rows).Troubled)
      Alert _) (fun _ v hv => ?_) fun _ h => h
    · have troubled := shouldTriggerFallback_board.mp troubled
      unfold getOrCreateFallbackStage
      rw [wp_bind, wp_read]
      split
      · next there =>
        refine ⟨h, ?_, troubled⟩
        obtain ⟨i, hi⟩ := Option.isSome_iff_exists.mp there
        simp [Present, board, PipelineSession.rows, Slot.current, hi]
      · next absent =>
        rw [wp_bind]
        refine wp_mono (alert_create .fallbackTelegram h) (fun _ v hv => ?_) fun _ h => h
        rw [wp_flush]
        have kept : board (v.state.flush platform).rows = board v.state.rows := by
          rw [PipelineSession.rows_flush]
        refine ⟨alert_still.flush v hv.1, ?_, ?_⟩
        · change (board (v.state.flush platform).rows).status .fallbackTelegram ≠ none
          rw [kept]
          exact hv.2.1
        · change (board (v.state.flush platform).rows).Troubled
          rw [kept]
          exact hv.2.2 troubled
    · obtain ⟨h, there, troubled⟩ := hv
      rw [wp_bind, wp_rows, wp_when]
      split
      · exact wp_mono (alert_single serves h (due troubled))
          (fun _ u hu => ⟨hu.1, fun _ => hu.2 there⟩) fun _ h => h
      · exact ⟨h, fun _ => there⟩
  · next quiet =>
    exact ⟨h, fun troubled => absurd (shouldTriggerFallback_board.mpr troubled) quiet⟩

/-! The summary. -/

/-- A quarantined row is neither completed nor failed. -/
def Kempt (r : PipelineStage) : Prop :=
  r.quarantinedAt.isSome = true → r.status ≠ .completed ∧ r.status ≠ .failed

theorem kempt_of_live {r : PipelineStage} (live : Live r) : Kempt r := by
  intro quarantined
  rw [live.1] at quarantined
  cases quarantined

theorem kempt_of_quiet {r : PipelineStage} (quiet : r.quarantinedAt = none) : Kempt r := by
  intro quarantined
  rw [quiet] at quarantined
  cases quarantined

theorem applyOutcomeRow_quarantinedAt {outcome : SummaryFailureOutcome} {attemptedAt : Time}
    {taskId : Option String} {confirmed : Bool} {r : PipelineStage}
    (held : outcome.disposition ≠ .quarantine) :
    (applyOutcomeRow outcome attemptedAt taskId confirmed r).quarantinedAt = r.quarantinedAt := by
  unfold applyOutcomeRow
  cases disposition : outcome.disposition with
  | quarantine => exact absurd disposition held
  | terminal =>
    dsimp only
    split <;> split <;> rfl
  | retry =>
    dsimp only
    split <;> split <;> rfl

theorem applyOutcomeRow_kempt {outcome : SummaryFailureOutcome} {attemptedAt : Time}
    {taskId : Option String} {confirmed : Bool} {r : PipelineStage} (live : Live r) :
    Kempt (applyOutcomeRow outcome attemptedAt taskId confirmed r) := by
  by_cases held : outcome.disposition = .quarantine
  · intro _
    unfold applyOutcomeRow
    rw [held]
    exact ⟨nofun, nofun⟩
  · apply kempt_of_quiet
    rw [applyOutcomeRow_quarantinedAt held, live.1]

theorem kempt_course : Course platform (fun _ => False) (fun _ _ => True) (fun _ _ => True)
    (fun _ _ => True)    (fun r _ => Kempt r) (fun r _ => Kempt r) := by
  have underway : Underway (fun _ => False) (fun r _ => Kempt r) fun _ _ => True :=
    ⟨fun _ _ live _ => kempt_of_live live, sturdy_free fun _ _ _ _ => trivial⟩
  have settles : Settles (fun _ _ => True) fun r _ => Kempt r := by
    intro outcome attemptedAt taskId confirmed r l live _ _
    unfold settledRow
    split
    · exact applyOutcomeRow_kempt (r := r) live
    · exact applyOutcomeRow_kempt live
  exact {
    earlier := fun _ _ h => h
    resting := underway
    beginning := underway
    posting := underway
    past_ever := fun _ _ h => h
    past_sturdy := sturdy_free fun _ _ _ h => h
    raised := fun _ _ _ h => h
    start := fun _ _ _ _ _ => trivial
    prepare := fun _ _ _ _ => trivial
    accept := fun _ _ _ _ _ => trivial
    correlate_begun := fun _ _ _ _ _ => trivial
    correlate_posted := fun _ _ _ _ _ => trivial
    post := fun _ _ _ _ _ => trivial
    sleep := fun _ _ _ _ => trivial
    get := fun _ _ _ _ _ _ _ _ => trivial
    settle_begun := settles
    settle_posted := settles
    finish := fun _ _ _ => kempt_of_quiet rfl
    finishPlan := fun _ _ _ _ _ _ => kempt_of_quiet rfl
    piece := fun _ _ _ _ _ _ _ _ _ => trivial
    refuse := fun _ _ r _ live _ => kempt_of_quiet live.1
    stop := underway.ever
    build := fun _ _ _ _ _ _ _ _ => trivial
    call := fun _ _ _ _ _ => trivial
    directFail := fun _ _ _ _ live _ => kempt_of_quiet live.1
    directDone := fun _ _ _ => kempt_of_quiet rfl
    directEmpty := fun _ _ live _ => kempt_of_quiet live.1
    present := fun _ _ live _ => kempt_of_quiet live.1
    fail := fun _ _ _ _ _ live _ => kempt_of_quiet live.1 }

/-- What the summary's work leaves is taken up. -/
theorem Alert.takeUp (h : Alert w) {stage : StageInstance} {inner : StageWorld}
    (allowed : PipelineStage → Prop) (row : (w.state.slot .summary).row = some stage)
    (sane : ∀ r, allowed r → Board.Sane { (board w.state.rows).put .summary r.status with
      quarantined := r.quarantinedAt.isSome } w.trace)
    (current : allowed inner.state.stage.current)
    (reached : Reached allowed (summarySession stage w.state) inner.state)
    (calm : Calm stage → Calm inner.state.stage) : Alert (takeUp platform inner w) := by
  have taken : Alert { w with state := w.state.absorb platform inner.state } := by
    have put {rows : Rows} {r : PipelineStage}
        (others : ∀ n, n ≠ .summary → (rows n).map (·.status) = (board w.state.rows).status n)
        (own : rows .summary = some r) : board rows
          = { (board w.state.rows).put .summary r.status with
            quarantined := r.quarantinedAt.isSome } := by
      apply board_ext
      · intro n
        simp only [Board.put]
        split
        · next summary => simp [board, summary, own]
        · next other => exact others n other
      · simp [board, own]
    have saved (n : StageName) : ((w.state.commit platform).rows n).map (·.status)
        = (board w.state.rows).status n :=
      congrFun (congrArg Board.status (@board_commit platform w.state)) n
    refine ⟨?_, ?_, fun i hi => ?_⟩
    · have same : board (w.state.absorb platform inner.state).rows = _ :=
        put (r := inner.state.stage.current) (fun n other => ?_) rfl
      · rw [same]
        exact sane _ current
      · rcases @PipelineSession.rows_absorb platform _ inner.state n other with same | same
        · rw [same]
          rfl
        · rw [same]
          exact saved n
    · rcases @PipelineSession.durableRows_absorb platform _ _ _ _ row reached with
        same | ⟨_, d, kept, rows⟩
      · rw [same]
        exact h.durable
      · have same : board (w.state.absorb platform inner.state).durableRows = _ :=
          put (r := d) (fun n other => ?_) (by rw [rows, if_pos rfl])
        · rw [same]
          exact sane d kept
        · rw [rows n, if_neg other]
          exact saved n
    · cases hi
      exact calm (h.calm stage row)
  have seen (es : List PipelineEvent) : Alert { w with
      state := w.state.absorb platform inner.state, trace := es ++ w.trace } := by
    induction es with
    | nil => exact taken
    | cons e es ih => exact ih.emit e
  unfold Pipeline.takeUp
  rw [← List.append_assoc]
  exact seen _

/-- The board shows a row like the one that is there no different. -/
theorem board_alike {rows : Rows} {r r' : PipelineStage} (row : rows .summary = some r')
    (alike : Alike r r') : { (board rows).put .summary r.status with
      quarantined := r.quarantinedAt.isSome } = board rows := by
  apply board_ext
  · intro n
    simp only [Board.put]
    split
    · next summary => simp [board, summary, row, alike.1]
    · rfl
  · simp [board, row, alike.2]

theorem rows_of_slot {s : PipelineSession} {stage : StageInstance}
    (row : (s.slot .summary).row = some stage) : s.rows .summary = some stage.current := by
  simp [PipelineSession.rows, Slot.current, row]

theorem Alert.idle (h : Alert w) {stage : StageInstance} {inner : StageWorld}
    (row : (w.state.slot .summary).row = some stage)
    (state : inner.state = summarySession stage w.state) : Alert (Pipeline.takeUp platform inner w) := by
  refine h.takeUp (fun r => Alike r stage.current) row (fun r alike => ?_) ?_ ?_ ?_
  · rw [board_alike (rows_of_slot row) alike]
    exact h.current
  · rw [state]
    exact ⟨rfl, rfl⟩
  · rw [state]
    exact reached_start rfl
  · rw [state]
    exact id

theorem alert_summary (proceeds : canProceed (w.state.rows .transcript)) (h : Alert w) :
    wp (attemptSummary platform service) (fun _ => Alert) Alert w := by
  unfold attemptSummary
  apply wp_onSummary h h
  intro stage answers rest row
  rw [wp_bind]
  have h := h.replies rest
  have own := rows_of_slot row
  have sane (live : Live stage.current) (r : PipelineStage) (kempt : Sometime (fun r _ => Kempt r) r) :
      Board.Sane { (board w.state.rows).put .summary r.status with
        quarantined := r.quarantinedAt.isSome } w.trace := by
    obtain ⟨_, kempt⟩ := kempt
    have quiet : (board w.state.rows).quarantined = false := by
      rw [board_quarantined own, live.1]
      rfl
    have ready : (board w.state.rows).Ready .summary :=
      ⟨canProceed_iff.mp proceeds, quiet, _, board_status own, live.2⟩
    exact h.current.attempt ready r.status _ (fun other => absurd rfl other) fun _ => kempt
  have drifts (v : StageWorld) (state : v.state = summarySession stage w.state) :
      Alert (takeUp platform v { w with replies := rest }) := h.idle row state
  refine wp_mono (kempt_course.wp_attemptSummaryStage (fun _ => trivial) False.elim (reached_start rfl)
    (fun v state _ => drifts v state) fun v live adrift => ?_) (fun _ v out => ?_) fun _ hv => hv
  · exact h.takeUp _ row (sane live) ⟨v.trace, adrift.row⟩ adrift.reached adrift.calm
  · rcases out with ⟨state, _⟩ | ⟨live, ended⟩
    · exact h.idle row state
    · exact h.takeUp _ row (sane live) ⟨v.trace, ended.row⟩ ended.reached ended.calm

/-- The summary is listed for reconciliation, now or later. -/
def Listed (r : PipelineStage) : Prop :=
  r.stage = .summary ∧ r.quarantinedAt.isSome ∧ r.brokerTaskId.isSome
    ∧ r.reconciliationStatus = some .getEligible

instance (r : PipelineStage) : Decidable (Listed r) :=
  inferInstanceAs (Decidable (_ ∧ _ ∧ _ ∧ _))

/-- A quarantine that the fallback was used up for may be resolved. -/
def Resolvable (s : PipelineSession) : Prop :=
  (board s.rows).Spent ∧ ((s.rows .summary).any (fun r => decide (Listed r)) = true
    ∨ (s.flushedRows .summary).any (fun r => decide (Listed r)) = true)

instance (s : PipelineSession) : Decidable (Resolvable s) := by
  unfold Resolvable Board.Spent
  infer_instance

/-- The rows of a quarantine that is looked at: unchanged, or resolved while the
fallback is left. -/
def Resolved (open? : Prop) (r' r : PipelineStage) : Prop := Alike r r' ∨ open? ∧ Kempt r

theorem resolved_reconciliation {open? : Prop} {r' : PipelineStage} :
    ReconcileCourse platform (fun _ => False) (fun r _ => open? ∧ Kempt r)
      (fun r _ => Resolved open? r' r) (fun r _ => Resolved open? r' r) where
  earlier _ _ h := h
  distrust _ _ _ h := h.elim
  past_ever _ _ h := h
  past_sturdy := sturdy_free fun _ _ _ h => h
  stays _ _ h := .inr h
  get _ _ _ _ _ _ h := h
  invalid _ _ h := .inr ⟨h.1, kempt_of_quiet rfl⟩
  still _ _ _ _ h := .inr h
  fails _ _ _ h := .inr ⟨h.1, kempt_of_quiet rfl⟩
  postpone _ _ _ h := .inr h
  part _ _ _ _ _ _ h _ _ _ := .inr ⟨h.1, kempt_of_quiet rfl⟩
  final _ _ _ _ h _ := .inr ⟨h.1, kempt_of_quiet rfl⟩

/-- A quarantine is resolved only when the fallback was not used up for it. -/
theorem alert_resolve (broker : BrokerService) (h : Alert w)
    (thrifty : Resolvable w.state → ∀ now answers rest stage,
      w.replies = .stage (.now now :: answers) :: rest → (w.state.slot .summary).row = some stage →
        reconcilable now stage.flushed → settles platform broker
          (w.state.video.current.transcript.getD []) stage.current answers = false) :
    wp (onSummary platform (reconcileStage platform broker)) (fun _ => Alert) Alert w := by
  apply wp_onSummary_reply h h
  intro stage answers rest row asked
  have h := h.replies rest
  have own := rows_of_slot row
  by_cases resolvable : Resolvable w.state
  · have sane (r : PipelineStage) (alike : Sometime (fun r _ => Alike r stage.current) r) :
        Board.Sane { (board w.state.rows).put .summary r.status with
          quarantined := r.quarantinedAt.isSome } w.trace := by
      obtain ⟨_, alike⟩ := alike
      rw [board_alike own alike]
      exact h.current
    apply wp_unsettledStage
    · intro now later clock listed
      exact thrifty resolvable now later rest stage
        (asked.trans (congrArg (.stage · :: rest) clock)) row listed
    · exact reached_start rfl
    · exact fun v state => h.idle row state
    · exact fun v ended => h.takeUp _ row sane ⟨v.trace, ended.row⟩ ended.reached ended.calm
  let open? : Prop := ¬ (board w.state.rows).Spent ∧ (board w.state.rows).quarantined = true
  have kempt : Kempt stage.current := by
    intro quarantined
    obtain ⟨incomplete, unfailed⟩ := h.current.sound ((board_quarantined own).trans quarantined)
    rw [board_status own] at incomplete unfailed
    exact ⟨fun completed => incomplete (congrArg some completed),
      fun failed => unfailed (congrArg some failed)⟩
  have sane (r : PipelineStage) (resolved : Sometime (fun r _ => Resolved open? stage.current r) r) :
      Board.Sane { (board w.state.rows).put .summary r.status with
        quarantined := r.quarantinedAt.isSome } w.trace := by
    obtain ⟨_, alike | ⟨⟨unspent, quarantined⟩, kempt⟩⟩ := resolved
    · rw [board_alike own alike]
      exact h.current
    · exact h.current.resolve quarantined unspent kempt
  apply (@resolved_reconciliation platform open? stage.current).wp_reconcileStage
  · intro now _ _ due
    have quarantined : stage.current.quarantinedAt.isSome = true := by
      refine Option.isSome_iff_ne_none.mpr fun quiet => ?_
      have written := h.calm stage row quiet
      have held := due.2.1
      rw [show (summarySession stage w.state).stage = stage from rfl] at held
      rw [written] at held
      cases held
    refine ⟨⟨fun spent => resolvable ⟨spent, .inr ?_⟩, ?_⟩, kempt⟩
    · have flushed : w.state.flushedRows .summary = some stage.flushed := by
        simp [PipelineSession.flushedRows, Slot.flushed, row]
      rw [flushed]
      exact decide_eq_true ⟨due.1, due.2.1, due.2.2.1, due.2.2.2.1⟩
    · exact (board_quarantined own).trans quarantined
  · exact .inl ⟨rfl, rfl⟩
  · exact False.elim
  · exact reached_start rfl
  · exact fun v state _ => h.idle row state
  · exact fun v ended => h.takeUp _ row sane ⟨v.trace, ended.row⟩ ended.reached ended.calm

theorem alert_request (audit : String) (h : Alert w) :
    wp (onSummary platform (requestReconciliation platform audit)) (fun _ => Alert) Alert w := by
  apply wp_onSummary h h
  intro stage answers rest row
  have h := h.replies rest
  have sane (r : PipelineStage) (alike : Sometime (fun r _ => Alike r stage.current) r) :
      Board.Sane { (board w.state.rows).put .summary r.status with
        quarantined := r.quarantinedAt.isSome } w.trace := by
    obtain ⟨_, alike⟩ := alike
    rw [board_alike (rows_of_slot row) alike]
    exact h.current
  apply wp_requestReconciliation fun r (_ : List Event) (alike : Alike r stage.current) => alike
  · exact sturdy_free fun _ _ _ alike => alike
  · exact fun _ _ _ alike _ _ => alike
  · exact ⟨rfl, rfl⟩
  · exact False.elim
  · exact reached_start rfl
  · exact fun v adrift => h.takeUp _ row sane ⟨v.trace, adrift.row⟩ adrift.reached adrift.calm
  · exact fun v ended => h.takeUp _ row sane ⟨v.trace, ended.row⟩ ended.reached ended.calm

/-! The calls. -/

theorem due_of_board {v : PipelineWorld} (h : Due w)
    (same : board v.state.rows = board w.state.rows) : Due v := by
  unfold Due
  rw [same]
  exact h

theorem told_of_board {v : PipelineWorld} (h : Told w)
    (same : board v.state.rows = board w.state.rows) : Told v := by
  unfold Told Present
  rw [same]
  exact h

theorem alert_due : Still platform (fun w => Alert w ∧ Due w) Alert :=
  alert_still.and (fun _ _ h => h)
    (fun w h => due_of_board h (congrArg board (PipelineSession.rows_flush w.state)))
    fun _ h => due_of_board h board_commit

/-- No Short is skipped while Shorts are processed. -/
theorem Serves.enter (serves : Serves service) {I L : PipelineWorld → Prop} (h : I w) :
    wp (skipDisabledShortStagesForUser platform service) (fun _ => I) L w := by
  unfold skipDisabledShortStagesForUser
  rw [wp_when, if_neg (by rw [serves.shorts]; decide)]
  exact h

theorem alert_turns (serves : Serves service) : Turns platform service Alert
    (fun w => Alert w ∧ Due w) (fun w => Alert w ∧ Told w) Alert where
  still := alert_still
  still' := alert_due
  stillJ := alert_still.and (fun _ _ h => h)
    (fun w h => told_of_board h (congrArg board (PipelineSession.rows_flush w.state)))
    fun _ h => told_of_board h board_commit
  weaken _ h := h.1
  kept _ h := h.1
  create _ n _ h := wp_mono (alert_create n h) (fun _ _ h => h.1) fun _ h => h
  transcript _ := alert_transcript
  summary w h := by
    unfold advanceSummary
    rw [wp_bind, wp_rows, wp_bind, wp_videoRow]
    split
    · exact alert_summary ‹_› h
    · rw [wp_when]
      split
      · exact alert_skip (.inl rfl) _ h
      · exact h
  telegram w h := by
    unfold advanceTelegram
    rw [wp_bind, wp_rows, wp_bind, wp_videoRow]
    split
    · exact alert_deliver serves ‹_› h
    · rw [wp_when]
      split
      · exact alert_skip (.inr rfl) _ h
      · exact h
  pending w n h := by
    cases n with
    | transcript => exact alert_transcript h
    | fallbackTelegram => exact h
    | summary =>
      unfold pendingTurn
      rw [wp_bind, wp_rows, wp_bind, wp_videoRow, wp_bind, wp_emit]
      split
      · exact alert_skip (.inl rfl) _ (h.emit _)
      · exact alert_summary (Decidable.not_not.mp ‹_›) (h.emit _)
    | telegram =>
      unfold pendingTurn
      rw [wp_bind, wp_rows, wp_bind, wp_videoRow, wp_bind, wp_emit]
      split
      · exact alert_skip (.inr rfl) _ (h.emit _)
      · exact alert_deliver serves (Decidable.not_not.mp ‹_›) (h.emit _)
  retry _ := wp_retryFallback (alert_due : Still platform _ _) alert_still (fun _ h => h.1)
    fun _ h => wp_mono (alert_single serves h.1 h.2) (fun _ _ h => h.1) fun _ h => h
  tell _ := alert_tell serves
  short w kept h := absurd (.inl serves.shorts) kept
  shorts _ h := serves.enter h

/-- A row that is written is listed as it is in memory. -/
theorem listed_written {s : PipelineSession}
    (h : ((s.slot .summary).row.map (·.written planColumn platform.flushRule)).any
      (fun r => decide (Listed r)) = true) :
    (s.rows .summary).any (fun r => decide (Listed r)) = true := by
  obtain ⟨r, hr, listed⟩ := (Option.any_eq_true _ _).mp h
  obtain ⟨i, hi, rfl⟩ := Option.map_eq_some_iff.mp hr
  obtain ⟨d, hd⟩ := Instance.written_eq_set planColumn platform.flushRule i
  refine (Option.any_eq_true _ _).mpr ⟨i.current, rows_of_slot hi, ?_⟩
  rw [hd] at listed
  exact listed

theorem resolvable_of_flush {s : PipelineSession} (h : Resolvable (s.flush platform)) :
    Resolvable s := by
  obtain ⟨spent, listed⟩ := h
  rw [PipelineSession.rows_flush] at spent listed
  refine ⟨spent, .inl ?_⟩
  rcases listed with listed | listed
  · exact listed
  · rw [PipelineSession.flushedRows_flush] at listed
    exact listed_written listed

theorem resolvable_of_commit {s : PipelineSession} (h : Resolvable (s.commit platform)) :
    Resolvable s := by
  obtain ⟨spent, listed⟩ := h
  rw [board_commit] at spent
  rw [PipelineSession.rows_commit, PipelineSession.flushedRows_commit, or_self] at listed
  exact ⟨spent, .inl (listed_written listed)⟩

theorem resolvable_of_reached {s : PipelineSession} {reach : Reach}
    (h : Resolvable (s.reached platform reach)) : Resolvable s := by
  cases reach with
  | untouched => exact h
  | flushed => exact resolvable_of_flush h
  | committed => exact resolvable_of_commit h

theorem alert_reconcile (h : Alert w) (thrifty : Resolvable w.state →
      settlesSummary platform service w.replies w.state = false) :
    wp (reconcileQuarantinedSummaries platform service) (fun _ => Alert) Alert w := by
  refine wp_reconcileAll alert_still (fun broker reach v wired asked same held => ?_) h
  apply alert_resolve broker held
  intro resolvable now answers rest stage clock row listed
  rw [same] at resolvable row ⊢
  refine Bool.eq_false_iff.mpr fun settled => ?_
  refine Bool.eq_false_iff.mp (thrifty (resolvable_of_reached resolvable)) (settlesSummary_iff.mpr ?_)
  refine ⟨broker, reach, now, answers, rest, stage, wired, ?_, row, listed, settled⟩
  exact asked.trans (congrArg (.others reach false :: ·) clock)

end steps

/-- The calls that work on a video that was detected, and the operator's. -/
def Call.automatic : Call → Bool
  | .processContent => false
  | .throttled _ => false
  | .recovery => false
  | _ => true

/-- The fallback is about to be used up without a word while the video still has
work to do, or a quarantine it was used up for to be resolved. -/
def Wasteful (platform : Platform) (op : PipelineOp) (s : PipelineSession) : Prop :=
  match op.call with
  | .processPending _ => (board s.rows).status .fallbackTelegram ∈ [some .pending, some .pendingRetry]
      ∧ ¬ (board s.rows).Troubled ∧ ¬ (board s.rows).Finished
  | .reconcile => Resolvable s ∧ settlesSummary platform op.service op.replies s = true
  | _ => False

instance (platform : Platform) (op : PipelineOp) (s : PipelineSession) :
    Decidable (Wasteful platform op s) := by
  unfold Wasteful
  split <;> infer_instance

section run

variable {platform : Platform} {w : PipelineWorld} {op : PipelineOp}

theorem alert_call (serves : Serves op.service) (automatic : op.call.automatic = true)
    (thrifty : ¬ Wasteful platform op w.state) (answers : w.replies = op.replies) (h : Alert w) :
    wp (op.proc platform) (fun worked v => Alert v ∧ (worked = true → Told v)) Alert w := by
  have turns : Turns platform op.service _ _ _ _ := alert_turns serves
  obtain ⟨service, call, replies⟩ := op
  unfold PipelineOp.proc
  cases call with
  | createStages =>
    exact (wp_bind _ _ ▸ wp_mono (turns.createStages h) (fun _ _ h => ⟨h, nofun⟩) fun _ h => h)
  | processContent => cases automatic
  | processNew =>
    exact (wp_bind _ _ ▸ wp_mono (turns.processNew h) (fun _ _ h => ⟨h.1, fun _ => h.2⟩) fun _ h => h)
  | processPending m =>
    have due : Due w := by
      intro s hs isOpen
      by_cases troubled : (board w.state.rows).Troubled
      · exact .inl troubled
      · refine .inr (Decidable.not_not.mp fun unfinished => thrifty ⟨?_, troubled, unfinished⟩)
        rw [hs]
        rcases isOpen with rfl | rfl <;> decide
    exact wp_mono (turns.processPending m (serves.enter ⟨h, due⟩))
      (fun _ _ h => ⟨h.1, fun worked => (h.2 worked).2⟩)
      fun _ h => h
  | processNext =>
    exact wp_mono (turns.processNext h) (fun _ _ h => ⟨h.1, fun worked => (h.2 worked).2⟩) fun _ h => h
  | drain =>
    exact wp_mono (turns.drain h) (fun _ _ h => ⟨h.1, fun worked => (h.2 worked).2⟩) fun _ h => h
  | throttled rounds => cases automatic
  | skipShorts =>
    exact (wp_bind _ _ ▸ wp_mono (turns.shorts w h) (fun _ _ h => ⟨h, nofun⟩) fun _ h => h)
  | reconcile =>
    have unsettled : Resolvable w.state → settlesSummary platform service w.replies w.state = false := by
      rw [answers]
      exact fun resolvable => Bool.eq_false_iff.mpr fun settled => thrifty ⟨resolvable, settled⟩
    exact (wp_bind _ _ ▸ wp_mono (alert_reconcile h unsettled) (fun _ _ h => ⟨h, nofun⟩) fun _ h => h)
  | request audit =>
    exact (wp_bind _ _ ▸ wp_mono (alert_request audit h) (fun _ _ h => ⟨h, nofun⟩) fun _ h => h)
  | recovery => cases automatic
  | commit =>
    exact (wp_bind _ _ ▸ wp_mono (alert_still.save h) (fun _ _ h => ⟨h, nofun⟩) fun _ h => h)
  | rollback => exact ⟨h.undo, nofun⟩
  | video v => exact ⟨⟨h.current, h.durable, h.calm⟩, nofun⟩

theorem perform_alert (serves : Serves op.service) (automatic : op.call.automatic = true)
    (thrifty : ¬ Wasteful platform op w.state) (h : Alert w) :
    Alert (perform platform op w) ∧ (Works platform op w → Told (perform platform op w)) := by
  have done : wp (op.proc platform) (fun worked v => Alert v ∧ (worked = true → Told v)) Alert
      { w with replies := op.replies } :=
    alert_call serves automatic thrifty rfl (h.replies op.replies)
  constructor
  · apply perform_of_wp
    exact wp_mono done (fun _ _ h => h.1) fun _ h => ⟨h, h.undo⟩
  · revert done
    unfold Works wp perform Proc.run
    cases op.proc platform { w with replies := op.replies } with
    | mk r v =>
      cases r with
      | none => exact nofun
      | some worked =>
        intro done works
        exact done.2 (Option.some.inj works)

end run

/-- The steps of a run that come upon nothing `bad`. -/
def Spares (platform : Platform) (bad : PipelineOp → PipelineSession → Prop) :
    List PipelineOp → PipelineWorld → Prop
  | [], _ => True
  | op :: ops, w => ¬ bad op w.state ∧ Spares platform bad ops (perform platform op w)

theorem spares_append {platform : Platform} {bad : PipelineOp → PipelineSession → Prop}
    {before after : List PipelineOp} {w : PipelineWorld} :
    Spares platform bad (before ++ after) w
      ↔ Spares platform bad before w ∧ Spares platform bad after (runPipeline platform before w) := by
  induction before generalizing w with
  | nil => exact (true_and _).symm ▸ Iff.rfl
  | cons op before ih =>
    simp only [List.cons_append, Spares, ih, and_assoc]
    exact Iff.rfl

/-- Each stage that failed is told of in a message, or the fallback is still to be
sent, or Telegram rejected it for good. -/
def Noticed (w : PipelineWorld) : Prop :=
  ∀ n ∈ workStages, (board w.state.rows).status n = some .failed →
    w.trace.any (PipelineEvent.tells n) = true
      ∨ (∃ s, (board w.state.rows).status .fallbackTelegram = some s ∧ s.isOpen)
      ∨ (board w.state.rows).status .fallbackTelegram = some .failed
        ∧ w.trace.any PipelineEvent.rejects = true

theorem noticed_of_alert {w : PipelineWorld} (h : Alert w) (told : Told w) : Noticed w := by
  intro n hn failed
  have there := told (.inl ⟨n, hn, failed⟩)
  obtain ⟨s, hs⟩ := Option.ne_none_iff_exists'.mp there
  cases s with
  | pending => exact .inr (.inl ⟨_, hs, .inl rfl⟩)
  | pendingRetry => exact .inr (.inl ⟨_, hs, .inr rfl⟩)
  | completed => exact .inl (h.current.told n hn hs failed)
  | failed => exact .inr (.inr ⟨hs, h.current.rejected hs⟩)
  | skipped => exact absurd hs h.current.unskipped

theorem alert_start (userId : Int) (video : Video) :
    Alert (openVideo userId (fun _ => none) video) := by
  obtain ⟨current, _, durable⟩ := openVideo_rows userId (fun _ => none) video
  have blank (n : StageName) (s : Status) : (board fun _ => none).status n ≠ some s := by
    change none ≠ some s
    exact nofun
  have quiet : (board fun _ => none).quarantined ≠ true := by decide
  have sane : (board fun _ => none).Sane [] := by
    refine ⟨⟨fun held => absurd held quiet, ?_, fun failed => absurd failed (blank _ _)⟩,
      fun spent => absurd spent (blank _ _), fun _ _ spent => absurd spent (blank _ _),
      fun failed => absurd failed (blank _ _), blank _ _⟩
    rintro (completed | failed | held)
    · exact absurd completed (blank _ _)
    · exact absurd failed (blank _ _)
    · exact absurd held quiet
  refine ⟨?_, ?_, fun i hi => ?_⟩
  · rw [current]
    exact sane
  · rw [durable]
    exact sane
  · cases hi

theorem run_alert {platform : Platform} {ops : List PipelineOp} {w : PipelineWorld}
    (serves : ∀ op ∈ ops, Serves op.service) (automatic : ∀ op ∈ ops, op.call.automatic = true)
    (thrifty : Spares platform (Wasteful platform) ops w) (h : Alert w) :
    Alert (runPipeline platform ops w) := by
  induction ops generalizing w with
  | nil => exact h
  | cons op ops ih =>
    have first : Alert (perform platform op w) := (perform_alert (serves op (List.mem_cons_self ..))
      (automatic op (List.mem_cons_self ..)) thrifty.1 h).1
    exact ih (fun o ho => serves o (List.mem_cons_of_mem _ ho))
      (fun o ho => automatic o (List.mem_cons_of_mem _ ho)) thrifty.2 first

/-- No failure stays untold after a call that worked on the video, in any run in
which the fallback is not used up without a message while there is work to do, nor
a quarantine resolved that it was used up for. -/
theorem failures_noticed (platform : Platform) (userId : Int) (video : Video)
    (before : List PipelineOp) (op : PipelineOp)
    (serves : ∀ o ∈ before ++ [op], Serves o.service)
    (automatic : ∀ o ∈ before ++ [op], o.call.automatic = true)
    (thrifty : Spares platform (Wasteful platform) (before ++ [op])
      (openVideo userId (fun _ => none) video))
    (works : Works platform op
      (runPipeline platform before (openVideo userId (fun _ => none) video))) :
    Noticed (runPipeline platform (before ++ [op]) (openVideo userId (fun _ => none) video)) := by
  obtain ⟨earlier, last, _⟩ := spares_append.mp thrifty
  have alert := run_alert (fun o ho => serves o (List.mem_append_left _ ho))
    (fun o ho => automatic o (List.mem_append_left _ ho)) earlier (alert_start userId video)
  have member : op ∈ before ++ [op] := List.mem_append_right _ (List.mem_singleton.mpr rfl)
  obtain ⟨alert, told⟩ := perform_alert (serves op member)
    (automatic op member) last alert
  rw [runPipeline_append]
  exact noticed_of_alert alert (told works)

/-- The transcript is unavailable, and the user is told. -/
def Sample.toldOp : PipelineOp :=
  ⟨Sample.service .direct, .processNew, [.inserted 1, .inserted 2, .inserted 3, .now 0,
    .fetched (.result none "unavailable"), .inserted 4, .now 0, .delivery .sent]⟩

theorem failures_noticed_transcript :
    Works (YTPipe.Sample.platform .assigned) Sample.toldOp Sample.fresh
      ∧ Noticed (runPipeline (YTPipe.Sample.platform .assigned) [Sample.toldOp] Sample.fresh) := by
  have works : Works (YTPipe.Sample.platform .assigned) Sample.toldOp Sample.fresh := by
    unfold Works
    decide +kernel
  have own {P : PipelineOp → Prop} (h : P Sample.toldOp) : ∀ o ∈ [] ++ [Sample.toldOp], P o :=
    fun o ho => List.mem_singleton.mp ho ▸ h
  exact ⟨works, failures_noticed (YTPipe.Sample.platform .assigned) 1 Sample.video [] Sample.toldOp
    (own ⟨rfl, rfl⟩) (own (P := fun o => o.call.automatic = true) rfl) ⟨id, trivial⟩ works⟩

def Sample.brokered : PipelineService :=
  { Sample.service .direct with summaries := YTPipe.Sample.config 4096 }

/-- The broker's result is late, and the user is told of the quarantine; the operator
has the task looked up, and it failed. -/
def Sample.lateOps : List PipelineOp :=
  [⟨Sample.brokered, .processNew, [.inserted 1, .inserted 2, .inserted 3, .now 0,
      .fetched (.text (some ['a', 'b'])), .stage [.now 0, .committed, .clock 0, .clock 0,
        YTPipe.Sample.created "t", .clock 0, .committed, .clock 0, .clock 300, .committed],
      .inserted 4, .now 0, .delivery .sent]⟩,
    ⟨Sample.brokered, .commit, [.committed]⟩,
    ⟨Sample.brokered, .request "late", [.stage [.now 1, .committed]]⟩,
    ⟨Sample.brokered, .reconcile, [Sample.idle, .stage [.now 2,
      YTPipe.Sample.failed "client_invalid"], Sample.idle]⟩,
    ⟨Sample.brokered, .commit, [.committed]⟩]

def Sample.silentOp : PipelineOp := ⟨Sample.brokered, .processNew, [.stage []]⟩

theorem failure_unnoticed :
    (∀ o ∈ Sample.lateOps ++ [Sample.silentOp], Serves o.service ∧ o.call.automatic = true)
      ∧ Works (YTPipe.Sample.platform .assigned) Sample.silentOp
        (runPipeline (YTPipe.Sample.platform .assigned) Sample.lateOps Sample.fresh)
      ∧ ¬ Noticed (runPipeline (YTPipe.Sample.platform .assigned)
        (Sample.lateOps ++ [Sample.silentOp]) Sample.fresh) := by
  have facts :
      (board (runPipeline (YTPipe.Sample.platform .assigned) (Sample.lateOps ++ [Sample.silentOp])
        Sample.fresh).state.rows).status .summary = some .failed
      ∧ (board (runPipeline (YTPipe.Sample.platform .assigned) (Sample.lateOps ++ [Sample.silentOp])
        Sample.fresh).state.rows).status .fallbackTelegram = some .completed
      ∧ (runPipeline (YTPipe.Sample.platform .assigned) (Sample.lateOps ++ [Sample.silentOp])
        Sample.fresh).trace.any (PipelineEvent.tells .summary) = false
      ∧ ((Sample.silentOp.proc (YTPipe.Sample.platform .assigned)).run
        { runPipeline (YTPipe.Sample.platform .assigned) Sample.lateOps Sample.fresh with
          replies := Sample.silentOp.replies }).1 = some true := by
    decide +kernel
  obtain ⟨failed, spent, untold, works⟩ := facts
  have serving : ∀ o ∈ Sample.lateOps ++ [Sample.silentOp], o.service.telegramService = true
      ∧ o.service.shortsProcessingEnabled = true ∧ o.call.automatic = true := by decide
  refine ⟨?_, works, fun noticed => ?_⟩
  · intro o ho
    obtain ⟨telegram, shorts, automatic⟩ := serving o ho
    exact ⟨⟨telegram, shorts⟩, automatic⟩
  · rcases noticed .summary (by decide) failed with told | ⟨s, hs, isOpen⟩ | ⟨rejected, _⟩
    · exact absurd (told.symm.trans untold) (by decide)
    · cases hs.symm.trans spent
      exact completed_not_open isOpen
    · exact absurd (spent.symm.trans rejected) (by decide)

end YTPipe.Pipeline
