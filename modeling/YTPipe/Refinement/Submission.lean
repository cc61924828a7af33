import YTPipe.LedgerRows
import YTPipe.LedgerProgress
import YTPipe.StageRun

/-!
# The stage refines its ledger

Every copy of the stage row, the durable one, the flushed one and the one in
memory, is on a path of the ledger, whatever operation ran and wherever its
process was lost.
-/

namespace YTPipe.Ledger

open Broker Proc

variable (t : Terms) (m : State → Prop)

/-- Each copy of the row is on a path from `m`, the one in memory ahead of the
others; a row whose task may be read is the same in all of them, with the plan that
was loaded. -/
structure Holds (w : StageWorld) : Prop where
  named : w.state.stage.Named
  faithful : t.lax ∨ w.state.stage.Faithful planColumn t.platform.flushRule
  durable : From t m ⟨cardOf w.state.stage.durable, w.trace⟩
  flushed : From t m ⟨cardOf w.state.stage.flushed, w.trace⟩
  current : From t m ⟨cardOf w.state.stage.current, w.trace⟩
  agreed : phaseOf w.state.stage.flushed = .eligible ∨ phaseOf w.state.stage.current = .eligible →
    cardOf w.state.stage.current = cardOf w.state.stage.flushed ∧
      cardOf w.state.stage.flushed = cardOf w.state.stage.durable ∧
      w.state.stage.present = w.state.stage.loaded
  ahead : t.lax ∨ Follows (cardOf w.state.stage.durable) (cardOf w.state.stage.flushed) ∧
    Follows (cardOf w.state.stage.flushed) (cardOf w.state.stage.current)

/-- The row `r` was just committed. -/
structure Saved (r : PipelineStage) (w : StageWorld) : Prop where
  named : w.state.stage.Named
  faithful : t.lax ∨ w.state.stage.Faithful planColumn t.platform.flushRule
  durable : w.state.stage.durable = r
  flushed : w.state.stage.flushed = r
  current : w.state.stage.current = r
  level : w.state.stage.present = w.state.stage.loaded
  path : From t m ⟨cardOf r, w.trace⟩

variable {t m}

theorem Saved.holds {r : PipelineStage} {w : StageWorld} (h : Saved t m r w) : Holds t m w where
  named := h.named
  faithful := h.faithful
  durable := h.durable ▸ h.path
  flushed := h.flushed ▸ h.path
  current := h.current ▸ h.path
  agreed _ := by rw [h.durable, h.flushed, h.current]; exact ⟨rfl, rfl, h.level⟩
  ahead := by rw [h.durable, h.flushed, h.current]; exact .inr ⟨.refl _, .refl _⟩

/-- A session that is rolled back is at its durable row. -/
theorem Holds.rollback {w : StageWorld} (h : Holds t m w) :
    Holds t m { w with state := w.state.rollback } where
  named := ⟨Nat.lt_succ_self _, Nat.lt_succ_self _⟩
  faithful := .inr Instance.faithful_rollback
  durable := h.durable
  flushed := h.durable
  current := h.durable
  agreed _ := ⟨rfl, rfl, rfl⟩
  ahead := .inr ⟨.refl _, .refl _⟩

theorem Holds.lost {before : Nat} {w : StageWorld} (h : Holds t m w) :
    Holds t m (recover before (none, w)) :=
  recover_lost h h.rollback

theorem Holds.replies {w : StageWorld} (h : Holds t m w) (rest : List Reply) :
    Holds t m { w with replies := rest } :=
  ⟨h.named, h.faithful, h.durable, h.flushed, h.current, h.agreed, h.ahead⟩

theorem Saved.replies {r : PipelineStage} {w : StageWorld} (h : Saved t m r w)
    (rest : List Reply) : Saved t m r { w with replies := rest } :=
  ⟨h.named, h.faithful, h.durable, h.flushed, h.current, h.level, h.path⟩

/-- What is in memory is not eligible only where what was flushed is not. -/
theorem Holds.flushed_ineligible {w : StageWorld} (h : Holds t m w)
    (hc : phaseOf w.state.stage.current ≠ .eligible) :
    phaseOf w.state.stage.flushed ≠ .eligible := by
  intro hf
  have same := (h.agreed (.inl hf)).1
  exact hc ((congrArg Card.phase same).trans hf)

variable (t m)

/-- A session whose row in memory is being changed; its card was `c`. -/
structure Editing (c : Card) (w : StageWorld) : Prop where
  named : w.state.stage.Named
  faithful : t.lax ∨ w.state.stage.Faithful planColumn t.platform.flushRule
  durable : From t m ⟨cardOf w.state.stage.durable, w.trace⟩
  flushed : From t m ⟨cardOf w.state.stage.flushed, w.trace⟩
  origin : From t m ⟨c, w.trace⟩
  calm : phaseOf w.state.stage.flushed ≠ .eligible
  ahead : t.lax ∨ Follows (cardOf w.state.stage.durable) (cardOf w.state.stage.flushed) ∧
    Follows (cardOf w.state.stage.flushed) c

variable {t m} {c : Card}

theorem Holds.editing {w : StageWorld} (h : Holds t m w)
    (hc : phaseOf w.state.stage.current ≠ .eligible) :
    Editing t m (cardOf w.state.stage.current) w :=
  ⟨h.named, h.faithful, h.durable, h.flushed, h.current, h.flushed_ineligible hc, h.ahead⟩

theorem Saved.editing {r : PipelineStage} {w : StageWorld} (h : Saved t m r w)
    (hc : phaseOf r ≠ .eligible) : Editing t m (cardOf r) w := by
  have editing := h.holds.editing (h.current ▸ hc)
  rwa [h.current] at editing

theorem Editing.holds {w : StageWorld} (h : Editing t m c w)
    (path : Path t ⟨c, w.trace⟩ ⟨cardOf w.state.stage.current, w.trace⟩)
    (calm : phaseOf w.state.stage.current ≠ .eligible) : Holds t m w where
  named := h.named
  faithful := h.faithful
  durable := h.durable
  flushed := h.flushed
  current := h.origin.append path
  agreed he := by
    rcases he with he | he
    · exact absurd he h.calm
    · exact absurd he calm
  ahead := by
    by_cases lax : t.lax
    · exact .inl lax
    · have forward := path_follows t lax path
      exact h.ahead.imp_right fun ⟨first, second⟩ => ⟨first, second.trans forward⟩

theorem Editing.modify {w : StageWorld} (h : Editing t m c w) (f : PipelineStage → PipelineStage) :
    Editing t m c (withState w { w.state with stage := w.state.stage.modify f }) :=
  ⟨h.named, h.faithful.imp_right Instance.faithful_modify, h.durable, h.flushed, h.origin, h.calm,
    h.ahead⟩

theorem Editing.assign {w : StageWorld} (h : Editing t m c w) (plan : Option ChunkPlan) :
    Editing t m c (withState w { w.state with stage := w.state.stage.assign planColumn plan }) :=
  ⟨⟨Nat.lt_succ_self _, Nat.lt_succ_of_lt h.named.2⟩,
    h.faithful.imp_right Instance.faithful_assign, h.durable, h.flushed, h.origin, h.calm, h.ahead⟩

theorem Editing.assignMutated {w : StageWorld} (h : Editing t m c w) {object : Nat}
    (plan : Option ChunkPlan) (old : object < w.state.stage.fresh)
    (other : t.lax ∨ t.platform.flushRule = .assigned ∨ w.state.stage.loaded ≠ object) :
    Editing t m c (withState w { w.state with
      stage := w.state.stage.assignMutated planColumn object plan }) := by
  refine ⟨⟨old, h.named.2⟩, ?_, h.durable, h.flushed, h.origin, h.calm, h.ahead⟩
  rcases other with hl | hr | ho
  · exact .inl hl
  · exact .inr (.inl hr)
  · exact h.faithful.imp_right fun f => Instance.faithful_assignMutated f ho

theorem Editing.expire {w : StageWorld} (h : Editing t m c w) :
    Editing t m c (withState w { w.state with stage := w.state.stage.expire planColumn }) :=
  ⟨⟨Nat.lt_succ_self _, Nat.lt_succ_self _⟩, .inr Instance.faithful_expire, h.durable, h.flushed,
    h.origin, h.calm, h.ahead⟩

theorem Editing.video {w : StageWorld} (h : Editing t m c w) (v : VideoInstance) :
    Editing t m c (withState w { w.state with video := v }) :=
  ⟨h.named, h.faithful, h.durable, h.flushed, h.origin, h.calm, h.ahead⟩

/-- A change of what is in memory. -/
theorem Holds.modify {w : StageWorld} (h : Holds t m w)
    (hc : phaseOf w.state.stage.current ≠ .eligible) {f : PipelineStage → PipelineStage}
    (path : Path t ⟨cardOf w.state.stage.current, w.trace⟩
      ⟨cardOf (f w.state.stage.current), w.trace⟩)
    (calm : phaseOf (f w.state.stage.current) ≠ .eligible) :
    Holds t m (withState w { w.state with stage := w.state.stage.modify f }) :=
  ((h.editing hc).modify f).holds path calm

/-- An event that leaves every card alone. -/
theorem Holds.note {w : StageWorld} (h : Holds t m w) {e : Event} (quiet : Quiet t e) :
    Holds t m { w with trace := e :: w.trace } :=
  ⟨h.named, h.faithful, h.durable.tail (.note quiet), h.flushed.tail (.note quiet),
    h.current.tail (.note quiet), h.agreed, h.ahead⟩

theorem Saved.note {r : PipelineStage} {w : StageWorld} (h : Saved t m r w) {e : Event}
    (quiet : Quiet t e) : Saved t m r { w with trace := e :: w.trace } :=
  ⟨h.named, h.faithful, h.durable, h.flushed, h.current, h.level, h.path.tail (.note quiet)⟩

/-- What a flush writes is on the path of what is in memory. -/
theorem path_written {i : StageInstance} {l : List Event}
    (faithful : t.lax ∨ i.Faithful planColumn t.platform.flushRule)
    (path : From t m ⟨cardOf i.current, l⟩) :
    From t m ⟨cardOf (i.written planColumn t.platform.flushRule), l⟩ := by
  rcases faithful with hl | hf
  · obtain ⟨d, hd⟩ := Instance.written_eq_set planColumn t.platform.flushRule i
    rw [hd, cardOf_setPlan]
    exact path.tail (.drift d hl)
  · rw [Instance.written_of_faithful hf]
    exact path

theorem phaseOf_written (i : StageInstance) (rule : FlushRule) :
    phaseOf (i.written planColumn rule) = phaseOf i.current := by
  obtain ⟨d, hd⟩ := Instance.written_eq_set planColumn rule i
  rw [hd, phaseOf_setPlan]

/-- A row without a document is written as it is. -/
theorem written_none_column (i : VideoInstance) (rule : FlushRule) :
    ((i.flush (Column.none Video) rule).commit (Column.none Video) rule).current = i.current := by
  rw [Instance.commit_current, Instance.written_flush]
  unfold Instance.written
  split <;> rfl

/-- What a flush writes is what is in memory, ahead of what was durable. -/
theorem Holds.ahead_written {w : StageWorld} (h : Holds t m w) :
    t.lax ∨ Follows (cardOf w.state.stage.durable)
        (cardOf (w.state.stage.written planColumn t.platform.flushRule)) ∧
      Follows (cardOf (w.state.stage.written planColumn t.platform.flushRule))
        (cardOf w.state.stage.current) := by
  rcases h.faithful with lax | faithful
  · exact .inl lax
  · rw [Instance.written_of_faithful faithful]
    exact h.ahead.imp_right fun ⟨first, second⟩ => ⟨first.trans second, .refl _⟩

theorem Holds.flush {w : StageWorld} (h : Holds t m w)
    (hc : phaseOf w.state.stage.current ≠ .eligible) :
    Holds t m (withState w (w.state.flush t.platform)) where
  named := ⟨h.named.1, h.named.1⟩
  faithful := h.faithful.imp_right Instance.faithful_flush
  durable := h.durable
  flushed := path_written h.faithful h.current
  current := h.current
  agreed he := by
    rcases he with he | he
    · exact absurd ((phaseOf_written _ _).symm.trans he) hc
    · exact absurd he hc
  ahead := h.ahead_written

/-- What a commit writes of the row `r`: the row, or where plans may be written
back, the row with another plan. -/
def Written (t : Terms) (r r' : PipelineStage) : Prop :=
  r' = r ∨ t.lax ∧ ∃ d, r' = planColumn.set d r

/-- `session.flush(); session.commit()`. -/
theorem wp_save {w : StageWorld} {post : Unit → StageWorld → Prop} {lost : StageWorld → Prop}
    (h : Holds t m w) (hc : phaseOf w.state.stage.current ≠ .eligible)
    (hl : ∀ v, Holds t m v → lost v)
    (go : ∀ v r, Saved t m r v → Written t w.state.stage.current r → v.trace = w.trace →
      w.state.stage.fresh ≤ v.state.stage.loaded → v.state.video.current = w.state.video.current →
      post () v) :
    wp (flush t.platform) (fun _ => wp (commit t.platform) post lost) lost w := by
  rw [wp_flush]
  have flushed := h.flush hc
  apply wp_commit (hl _ flushed)
  intro rest
  have durable : ((w.state.stage.flush planColumn t.platform.flushRule).commit planColumn
      t.platform.flushRule).durable = w.state.stage.written planColumn t.platform.flushRule :=
    Instance.written_flush
  have path := path_written h.faithful h.current
  apply go _ (w.state.stage.written planColumn t.platform.flushRule)
  · refine ⟨⟨Nat.lt_succ_self _, Nat.lt_succ_self _⟩, .inr Instance.faithful_commit, durable,
      durable, durable, rfl, path⟩
  · rcases h.faithful with lax | faithful
    · obtain ⟨d, hd⟩ := Instance.written_eq_set planColumn
        t.platform.flushRule w.state.stage
      exact .inr ⟨lax, d, hd⟩
    · exact .inl (Instance.written_of_faithful faithful)
  · rfl
  · exact Nat.le_refl _
  · exact written_none_column w.state.video t.platform.flushRule

/-- `_apply_outcome`, once the row in memory is the one to settle. -/
theorem wp_settle {w : StageWorld} {outcome : SummaryFailureOutcome} {attemptedAt : Time}
    {taskId : Option String} {confirmed : Bool} {post : BrokerSubmissionOutcome → StageWorld → Prop}
    {lost : StageWorld → Prop} (h : Editing t m c w)
    (path : Path t ⟨c, w.trace⟩ ⟨cardOf (settledRow outcome attemptedAt taskId confirmed
      w.state.stage.current), w.trace⟩)
    (calm : phaseOf (settledRow outcome attemptedAt taskId confirmed w.state.stage.current)
      ≠ .eligible)
    (hl : ∀ v, Holds t m v → lost v) (go : ∀ v, Holds t m v → post outcome.submission v) :
    wp (do
      setStage (applyOutcomeRow outcome attemptedAt taskId confirmed)
      Proc.when (outcome.disposition = .terminal) (assignPlan none)
      flush t.platform
      commit t.platform
      return outcome.submission) post lost w := by
  rw [wp_bind, wp_setStage, wp_bind, wp_when]
  split
  · next hd =>
    rw [settledRow, if_pos hd] at path calm
    have held := ((h.modify (applyOutcomeRow outcome attemptedAt taskId confirmed)).assign
      none).holds path calm
    simp only [wp_assignPlan, wp_bind]
    refine wp_save held calm hl fun v r saved _ _ _ _ => ?_
    exact go v saved.holds
  · next hd =>
    rw [settledRow, if_neg hd] at path calm
    have held := (h.modify (applyOutcomeRow outcome attemptedAt taskId confirmed)).holds path calm
    simp only [wp_bind]
    refine wp_save held calm hl fun v r saved _ _ _ _ => ?_
    exact go v saved.holds

theorem wp_applyOutcome {w : StageWorld} {outcome : SummaryFailureOutcome} {attemptedAt : Time}
    {taskId : Option String} {confirmed : Bool} {post : BrokerSubmissionOutcome → StageWorld → Prop}
    {lost : StageWorld → Prop} (h : Editing t m c w)
    (still : confirmed = true ∧ taskId.getD "" ≠ "" →
      w.state.stage.flushed = w.state.stage.current ∧ w.state.stage.current.brokerTaskId = taskId)
    (path : Path t ⟨c, w.trace⟩ ⟨cardOf (settledRow outcome attemptedAt taskId confirmed
      w.state.stage.current), w.trace⟩)
    (calm : phaseOf (settledRow outcome attemptedAt taskId confirmed w.state.stage.current)
      ≠ .eligible)
    (hl : ∀ v, Holds t m v → lost v) (go : ∀ v, Holds t m v → post outcome.submission v) :
    wp (applyOutcome t.platform outcome attemptedAt taskId confirmed) post lost w := by
  simp only [applyOutcome]
  rw [wp_bind, wp_when]
  by_cases serialized : confirmed = true ∧ taskId.getD "" ≠ ""
  · obtain ⟨same, task⟩ := still serialized
    have current : (w.state.stage.expire planColumn).current = w.state.stage.current := same
    rw [if_pos serialized, wp_populateExisting, wp_bind, wp_stageRow]
    rw [if_neg (by rw [withState_state, current]; exact fun hn => hn.2 task)]
    exact wp_settle h.expire (current ▸ path) (current ▸ calm) hl go
  · rw [if_neg serialized, wp_bind, wp_stageRow, if_neg (fun hn => serialized hn.1)]
    exact wp_settle h path calm hl go

/-- A task that may be running is held. -/
theorem path_held {r : PipelineStage} {l : List Event} {outcome : SummaryFailureOutcome}
    (attemptedAt : Time) (taskId : Option String) (confirmed : Bool)
    (phase : phaseOf r = .prepared ∨ phaseOf r = .accepted)
    (hd : outcome.disposition = .quarantine)
    (unsafeClass : outcome.failureClass ∉ safeTerminalClasses) :
    Path t ⟨cardOf r, l⟩ ⟨cardOf (settledRow outcome attemptedAt taskId confirmed r), l⟩ ∧
      phaseOf (settledRow outcome attemptedAt taskId confirmed r) = .held := by
  have card := cardOf_quarantined (r := r) attemptedAt taskId confirmed hd unsafeClass
  constructor
  · rw [card]
    exact .single (.hold phase)
  · exact congrArg Card.phase card

theorem path_ended {r : PipelineStage} {l : List Event} {outcome : SummaryFailureOutcome}
    (attemptedAt : Time) (taskId : Option String) (confirmed : Bool)
    (hd : outcome.disposition = .terminal) (hq : r.quarantinedAt = none) :
    Path t ⟨cardOf r, l⟩ ⟨cardOf (settledRow outcome attemptedAt taskId confirmed r), l⟩ ∧
      phaseOf (settledRow outcome attemptedAt taskId confirmed r) = .closed := by
  obtain ⟨closed, unplanned⟩ := settledRow_terminal attemptedAt taskId confirmed hd hq
  exact ⟨.single (.close _ closed (.inl unplanned)), closed⟩

/-- `_quarantine` of a task that may be running. -/
theorem wp_quarantine {w : StageWorld} {attemptedAt : Time} {code : String}
    {key taskId : Option String} {post : BrokerSubmissionOutcome → StageWorld → Prop}
    {lost : StageWorld → Prop} (h : Holds t m w)
    (phase : phaseOf w.state.stage.current = .prepared ∨ phaseOf w.state.stage.current = .accepted)
    (keep : keepCorrelation taskId key w.state.stage.current = w.state.stage.current)
    (hl : ∀ v, Holds t m v → lost v)
    (go : ∀ v o, Holds t m v → o.disposition ≠ SubmissionDisposition.completed → post o v) :
    wp (quarantine t.platform attemptedAt code (some "indeterminate") key taskId) post lost w := by
  have hc : phaseOf w.state.stage.current ≠ .eligible := by
    rcases phase with h | h <;> simp [h]
  simp only [quarantine]
  rw [wp_bind, wp_setStage, wp_bind, wp_stageRow]
  have row : (w.state.stage.modify (keepCorrelation taskId key)).current
      = w.state.stage.current := keep
  simp only [withState_state, row]
  have quarantined : (classifySummaryFailure .broker code w.state.stage.current.attemptCount
      w.state.stage.current.maxAttempts attemptedAt (some "indeterminate")).disposition
      = .quarantine := classify_indeterminate
  obtain ⟨path, held⟩ := path_held (t := t) (l := w.trace) attemptedAt taskId false phase
    quarantined (classify_quarantine quarantined)
  apply wp_applyOutcome ((h.editing hc).modify _)
  · rintro ⟨⟨⟩, _⟩
  · rw [withState_state, row]
    exact path
  · rw [withState_state, row, held]
    nofun
  · exact hl
  · intro v hv
    refine go v _ hv ?_
    rw [SummaryFailureOutcome.submission, quarantined]
    nofun

/-- What a submission that failed is classified as. -/
structure Refused (e : BrokerError) : Prop where
  unconfirmed : e.code ≠ "broker_task_failed"
  settled : ∀ attempts maxAttempts now,
    (classifySummaryFailure .broker (orElse (firstOf e.brokerCode (some e.code))
      "broker_protocol_error") attempts maxAttempts now e.failureClass).disposition ≠ .retry
  named : ∀ task, e.taskId = some task → e.code = "broker_protocol_error" ∧ isTaskId task = true

theorem refused_unaccepted {e : BrokerError} (h : Unaccepted e) : Refused e := by
  refine ⟨h.unclassified.unconfirmed, fun attempts maxAttempts now hd => ?_, h.named⟩
  have code : orElse (firstOf e.brokerCode (some e.code)) "broker_protocol_error" = e.code := by
    have : e.code ≠ "" := by
      intro he
      exact absurd (he ▸ h.unclassified.settled) (by decide)
    simp [firstOf, h.unclassified.brokerCode, orElse, this]
  rw [code] at hd
  rcases (classify_retry hd).2 with ⟨c, _, hc, _⟩ | ⟨_, hn⟩
  · exact absurd (h.unclassified.failureClass.symm.trans hc) (by simp)
  · exact hn h.unclassified.settled

theorem refused_expired :
    Refused ⟨"broker_timeout", some "indeterminate", none, none, none⟩ := by
  refine ⟨by decide, fun attempts maxAttempts now hd => ?_, fun _ h => (nomatch h)⟩
  rw [classify_indeterminate] at hd
  cases hd

variable (t) in
/-- The last request is the POST whose answer names `task`. -/
def Created (r : PipelineStage) (key task : String) (w : StageWorld) : Prop :=
  ∃ p l, w.trace = .post p :: l ∧ postCreated t.platform p = some task ∧ p.key = key
    ∧ (t.lax ∨ nextSlot r.brokerChunkPlan = some (postSlot p))

/-- `_classify` of a submission that failed. -/
theorem wp_classify_refused {w : StageWorld} {r : PipelineStage} {e : BrokerError} {key : String}
    {attemptedAt : Time} {post : BrokerSubmissionOutcome → StageWorld → Prop}
    {lost : StageWorld → Prop} (h : Saved t m r w) (phase : phaseOf r = .prepared)
    (hq : r.quarantinedAt = none) (hk : r.brokerIdempotencyKey = some (truncate 128 key))
    (nonempty : key ≠ "") (refused : Refused e)
    (created : ∀ task, e.taskId = some task → Created t r key task w)
    (hl : ∀ v, Holds t m v → lost v)
    (go : ∀ v o, Holds t m v → o.disposition ≠ SubmissionDisposition.completed → post o v) :
    wp (classify t.platform (.broker e) attemptedAt (some key) none) post lost w := by
  have hc : phaseOf r ≠ .eligible := by simp [phase]
  have task : firstOf none (Raised.taskId (.broker e)) = e.taskId := rfl
  have kept : firstOf (some key) (Raised.idempotencyKey (.broker e)) = some key := by
    simp [firstOf, nonempty]
  have confirmed : decide (Raised.code (.broker e) = some "broker_task_failed") = false := by
    simp [Raised.code, refused.unconfirmed]
  simp only [classify, task, kept, confirmed]
  rw [wp_bind, wp_setStage, wp_bind, wp_stageRow]
  have editing := (h.editing hc).modify (keepCorrelation e.taskId (some key))
  have row : (w.state.stage.modify (keepCorrelation e.taskId (some key))).current
      = keepCorrelation e.taskId (some key) r := by rw [Instance.modify_current, h.current]
  simp only [withState_state, row]
  cases ht : e.taskId with
  | none =>
    have same : keepCorrelation none (some key) r = r :=
      keepCorrelation_self (.inl rfl) (.inr hk.symm)
    rw [ht] at editing row
    rw [same] at row
    simp only [same, Option.getD_none, ne_eq, not_true_eq_false, false_and, if_false]
    generalize ho : classifySummaryFailure .broker _ r.attemptCount r.maxAttempts attemptedAt _
      = outcome
    have settled : outcome.disposition ≠ .retry := by
      rw [← ho]
      exact refused.settled _ _ _
    have path : Path t ⟨cardOf r, w.trace⟩
          ⟨cardOf (settledRow outcome attemptedAt none false r), w.trace⟩ ∧
        phaseOf (settledRow outcome attemptedAt none false r) ≠ .eligible := by
      cases hd : outcome.disposition with
      | retry => exact absurd hd settled
      | quarantine =>
        have unsafeClass : outcome.failureClass ∉ safeTerminalClasses := by
          rw [← ho] at hd ⊢
          exact classify_quarantine hd
        obtain ⟨hp, held⟩ := path_held attemptedAt none false (.inl phase) hd unsafeClass
        exact ⟨hp, by simp [held]⟩
      | terminal =>
        obtain ⟨hp, closed⟩ := path_ended attemptedAt none false hd hq
        exact ⟨hp, by simp [closed]⟩
    apply wp_applyOutcome editing
    · rintro ⟨⟨⟩, _⟩
    · rw [withState_state, row]
      exact path.1
    · rw [withState_state, row]
      exact path.2
    · exact hl
    · exact fun v hv => go v _ hv (disposition_ne_completed _)
  | some task =>
    obtain ⟨code, isTask⟩ := refused.named task ht
    obtain ⟨named, short⟩ := isTaskId_length isTask
    obtain ⟨p, l, trace, hp, hkey, slot⟩ := created task ht
    have stored := keepCorrelation_task named short hk
    rw [ht] at editing row
    rw [stored] at row
    have held : cardOf (settledRow protocolQuarantine attemptedAt (some task) false
        { r with brokerTaskId := some task }) =
        { cardOf r with phase := .held, task := some task } := by
      rw [cardOf_quarantined attemptedAt (some task) false rfl (by decide)]
      rfl
    have phaseHeld : phaseOf (settledRow protocolQuarantine attemptedAt (some task) false
        { r with brokerTaskId := some task }) = .held := congrArg Card.phase held
    simp only [Option.getD_some, Raised.code, code, ne_eq, named, not_false_eq_true, and_self,
      if_true]
    apply wp_applyOutcome editing
    · rintro ⟨⟨⟩, _⟩
    · rw [withState_state, row, held, withState_trace, trace]
      refine .single (.holdCreated p task phase ?_ hp slot)
      rw [hkey]
      exact hk
    · rw [withState_state, row, phaseHeld]
      nofun
    · exact hl
    · exact fun v hv => go v _ hv (disposition_ne_completed _)

/-- The outcome of an error read from a task's result is a step of the ledger. -/
theorem path_settled {r : PipelineStage} {l : List Event} {g : Get} {task : String}
    {outcome : HttpOutcome} {e : BrokerError} {code : String} {attemptedAt : Time}
    (basic : Basic t ⟨cardOf r, .get g :: l⟩) (phase : phaseOf r = .accepted)
    (stored : r.brokerTaskId = some task) (named : task ≠ "") (read : g.taskId = task)
    (answer : g.outcome = some outcome) (he : Unclassified e ∨ Classified outcome e)
    (hcode : e.failureClass = none → code = e.code) {o : SummaryFailureOutcome}
    (ho : o = classifySummaryFailure .broker code r.attemptCount r.maxAttempts attemptedAt
      e.failureClass) :
    Path t ⟨cardOf r, .get g :: l⟩
        ⟨cardOf (settledRow o attemptedAt (some task) (e.code = "broker_task_failed") r),
          .get g :: l⟩ ∧
      phaseOf (settledRow o attemptedAt (some task) (e.code = "broker_task_failed") r)
        ≠ .eligible := by
  obtain ⟨live, _⟩ := live_of_accepted phase
  cases hd : o.disposition with
  | quarantine =>
    have unsafeClass : o.failureClass ∉ safeTerminalClasses := by
      rw [ho] at hd ⊢
      exact classify_quarantine hd
    obtain ⟨hp, held⟩ := path_held attemptedAt (some task) (e.code = "broker_task_failed")
      (.inr phase) hd unsafeClass
    exact ⟨hp, by simp [held]⟩
  | terminal =>
    obtain ⟨hp, closed⟩ := path_ended attemptedAt (some task) (e.code = "broker_task_failed") hd
      live.1
    exact ⟨hp, by simp [closed]⟩
  | retry =>
    have retried := classify_retry (ho ▸ hd)
    obtain ⟨left, ⟨c, hc, hclass, hsame⟩ | ⟨hnone, unknown⟩⟩ := retried
    · -- a transient class is only given to a task that failed
      have failed : e.code = "broker_task_failed" ∧ failedTransient outcome = true := by
        rcases he with hu | hu
        · exact absurd (hu.failureClass.symm.trans hclass) (by simp)
        · exact hu.transient c hc hclass
      have paid := basic.paid (.inr (.inl phase))
      have budget := (basic.budget (by simp [cardOf, phase])).1
      simp only [cardOf] at paid budget
      have safeClass : o.failureClass ∈ safeTerminalClasses := by
        rw [ho, hsame]
        exact hc
      have card := cardOf_retried attemptedAt hd live safeClass named stored (by omega) (by omega)
      have sure : decide (e.code = "broker_task_failed") = true := by simp [failed.1]
      rw [sure, card]
      refine ⟨.single (.retry g phase ?_ ⟨outcome, answer, failed.2⟩), ?_⟩
      · rw [read]
        exact stored
      · rw [show phaseOf _ = _ from congrArg Card.phase card]
        intro eligible
        cases eligible
    · rcases he with hu | hu
      · exact absurd (hcode hnone ▸ hu.settled) unknown
      · obtain ⟨c, _, hc, _⟩ := hu.classes
        exact absurd (hnone.symm.trans hc) (by simp)

/-- `_classify` of an error of a poll. -/
theorem wp_classify_polled (hb : ∀ s, m s → Basic t s) {w : StageWorld} {r : PipelineStage}
    {e : BrokerError}
    {key task : String} {g : Get} {l : List Event} {outcome : HttpOutcome} {attemptedAt : Time}
    {post : BrokerSubmissionOutcome → StageWorld → Prop} {lost : StageWorld → Prop}
    (h : Saved t m r w) (phase : phaseOf r = .accepted) (stored : r.brokerTaskId = some task)
    (isTask : isTaskId task = true) (hk : r.brokerIdempotencyKey = some (truncate 128 key))
    (nonempty : key ≠ "") (trace : w.trace = .get g :: l) (read : g.taskId = task)
    (answer : g.outcome = some outcome) (he : Unclassified e ∨ Classified outcome e)
    (hl : ∀ v, Holds t m v → lost v)
    (go : ∀ v o, Holds t m v → o.disposition ≠ SubmissionDisposition.completed → post o v) :
    wp (classify t.platform (.broker e) attemptedAt (some key) (some task)) post lost w := by
  have hc : phaseOf r ≠ .eligible := by simp [phase]
  obtain ⟨named, short⟩ := isTaskId_length isTask
  have known : firstOf (some task) (Raised.taskId (.broker e)) = some task := by
    simp [firstOf, named]
  have kept : firstOf (some key) (Raised.idempotencyKey (.broker e)) = some key := by
    simp [firstOf, nonempty]
  have same : keepCorrelation (some task) (some key) r = r :=
    keepCorrelation_self (.inr (by simp [short, stored])) (.inr hk.symm)
  have confirmed : decide (Raised.code (.broker e) = some "broker_task_failed")
      = decide (e.code = "broker_task_failed") := by simp [Raised.code]
  simp only [classify, known, kept, confirmed]
  rw [wp_bind, wp_setStage, wp_bind, wp_stageRow]
  have editing := (h.editing hc).modify (keepCorrelation (some task) (some key))
  have row : (w.state.stage.modify (keepCorrelation (some task) (some key))).current = r := by
    rw [Instance.modify_current, h.current, same]
  simp only [withState_state, row]
  have path : From t m ⟨cardOf r, .get g :: l⟩ := trace ▸ h.path
  have settled (o : SummaryFailureOutcome)
      (ho : Path t ⟨cardOf r, .get g :: l⟩ ⟨cardOf (settledRow o attemptedAt (some task)
          (e.code = "broker_task_failed") r), .get g :: l⟩ ∧
        phaseOf (settledRow o attemptedAt (some task) (e.code = "broker_task_failed") r)
          ≠ .eligible) :
      wp (applyOutcome t.platform o attemptedAt (some task) (e.code = "broker_task_failed"))
        post lost (withState w { w.state with
          stage := w.state.stage.modify (keepCorrelation (some task) (some key)) }) := by
    apply wp_applyOutcome editing
    · rintro _
      rw [withState_state, row]
      exact ⟨h.flushed, stored⟩
    · rw [withState_state, row, withState_trace, trace]
      exact ho.1
    · rw [withState_state, row]
      exact ho.2
    · exact hl
    · exact fun v hv => go v _ hv (disposition_ne_completed _)
  split
  · have quarantined : protocolQuarantine.disposition = .quarantine := rfl
    obtain ⟨hp, held⟩ := path_held attemptedAt (some task) (e.code = "broker_task_failed")
      (.inr phase) quarantined (by decide)
    exact settled _ ⟨hp, by simp [held]⟩
  · refine settled _ (path_settled (from_basic path hb) phase stored named read answer he ?_ rfl)
    intro hnone
    rcases he with hu | hu
    · have : e.code ≠ "" := by
        intro hcode
        exact absurd (hcode ▸ hu.settled) (by decide)
      simp [firstOf, Raised.brokerCode, Raised.code, hu.brokerCode, orElse, this]
    · obtain ⟨c, _, hclass, _⟩ := hu.classes
      exact absurd (hnone.symm.trans hclass) (by simp)

/-- A read of a committed row's task by an attempt. -/
theorem Saved.get {r : PipelineStage} {w : StageWorld} (h : Saved t m r w) {g : Get}
    (phase : phaseOf r = .accepted) (reader : g.reader = .attempt)
    (task : r.brokerTaskId = some g.taskId) (row : g.durable = r) :
    Saved t m r { w with trace := .get g :: w.trace } :=
  ⟨h.named, h.faithful, h.durable, h.flushed, h.current, h.level,
    h.path.tail (.read g (.inl ⟨phase, reader⟩) task (congrArg cardOf row))⟩

/-- An accepted task being polled: its row is committed, and the session has not
moved since. -/
structure Polled (t : Terms) (m : State → Prop) (r : PipelineStage) (accepted : AcceptedTask)
    (key : String) (s : StageSession) (w : StageWorld) : Prop where
  saved : Saved t m r w
  still : w.state = s
  phase : phaseOf r = .accepted
  task : r.brokerTaskId = some accepted.taskId
  isTask : isTaskId accepted.taskId = true
  stored : r.brokerIdempotencyKey = some (truncate 128 key)
  nonempty : key ≠ ""
  same : accepted.idempotencyKey = key

/-- The poll has just read the summary. -/
structure Answered (t : Terms) (m : State → Prop) (r : PipelineStage) (kind : Option String)
    (summary : Text) (s : StageSession) (g : Get) (w : StageWorld) : Prop where
  saved : Saved t m r w
  still : w.state = s
  phase : phaseOf r = .accepted
  task : r.brokerTaskId = some g.taskId
  head : ∃ l, w.trace = .get g :: l
  kind : g.operationKind = kind
  output : getOutput g = some summary

variable {service : BrokerService} {submission : Submission} {attemptedAt : Time}
  {post : BrokerSubmissionOutcome → StageWorld → Prop} {lost : StageWorld → Prop}

/-- The deadline of a poll. -/
theorem wp_pollExpired {r : PipelineStage} {accepted : AcceptedTask} {key : String}
    {s : StageSession} {w : StageWorld} {inv : StageWorld → Prop}
    (h : Polled t m r accepted key s w) (hl : ∀ v, Holds t m v → lost v)
    (go : ∀ v o, Holds t m v → o.disposition ≠ SubmissionDisposition.completed → post o v) :
    wp (do
      return some (← quarantine t.platform attemptedAt "broker_timeout" (some "indeterminate")
        (some key) (some accepted.taskId)))
      (fun o v => o.elim (inv v) (fun a => post a v)) lost w := by
  obtain ⟨named, short⟩ := isTaskId_length h.isTask
  have phase : phaseOf w.state.stage.current = .accepted := by rw [h.saved.current, h.phase]
  rw [wp_bind]
  apply wp_quarantine h.saved.holds (.inr phase)
  · rw [h.saved.current]
    exact keepCorrelation_self (.inr (by simp [short, h.task])) (.inr h.stored.symm)
  · exact hl
  · exact go

theorem wp_pollRound (hb : ∀ s, m s → Basic t s) {r : PipelineStage} {accepted : AcceptedTask}
    {key : String}
    {s : StageSession} {w : StageWorld} {deadline : Rat} (h : Polled t m r accepted key s w)
    (done : ∀ v g summary, Answered t m r submission.polledKind summary s g v →
      wp (complete t.platform summary submission.finalizeStage submission.onCompleted) post lost v)
    (hl : ∀ v, Holds t m v → lost v)
    (go : ∀ v o, Holds t m v → o.disposition ≠ SubmissionDisposition.completed → post o v) :
    wp (pollRound t.platform service submission attemptedAt deadline accepted key)
      (fun o v => o.elim (Polled t m r accepted key s v) (fun a => post a v)) lost w := by
  have kept : orElse (some accepted.idempotencyKey) key = key := by
    simp [orElse, h.same]
  simp only [pollRound, kept]
  rw [wp_bind]
  apply wp_clock (hl _ h.saved.holds)
  intro now rest
  have ticked : Polled t m r accepted key s { w with replies := rest } :=
    ⟨h.saved.replies rest, h.still, h.phase, h.task, h.isTask, h.stored, h.nonempty, h.same⟩
  split
  · exact wp_pollExpired ticked hl go
  · rw [wp_bind, wp_sleep, wp_bind]
    have slept : Polled t m r accepted key s
        { w with replies := rest, trace := .slept (min 1 (deadline - now)) :: w.trace } :=
      ⟨ticked.saved.note trivial, h.still, h.phase, h.task, h.isTask, h.stored, h.nonempty, h.same⟩
    apply wp_clock (hl _ slept.saved.holds)
    intro now' rest'
    have woken : Polled t m r accepted key s
        { w with replies := rest', trace := .slept (min 1 (deadline - now)) :: w.trace } :=
      ⟨slept.saved.replies rest', h.still, h.phase, h.task, h.isTask, h.stored, h.nonempty, h.same⟩
    split
    · exact wp_pollExpired woken hl go
    · rw [wp_bind]
      have asked (rest : List Reply) (outcome : Option HttpOutcome) :=
        (woken.saved.replies rest).get (g := ⟨w.state.stage.durable, w.state.stage.current, .attempt,
          service.profile, accepted.taskId, submission.polledKind, outcome⟩) h.phase rfl h.task
          h.saved.durable
      apply wp_request
      · exact hl _ (asked rest' none).holds
      · intro outcome rest''
        have saved := asked rest'' (some outcome)
        split
        · next e he =>
          rw [wp_bind]
          exact wp_classify_polled hb saved h.phase h.task h.isTask h.stored h.nonempty rfl rfl rfl
            (pollTask_fails _ _ _ _ _ e he) hl go
        · exact ⟨saved, h.still, h.phase, h.task, h.isTask, h.stored, h.nonempty, h.same⟩
        · next summary hs =>
          rw [wp_bind]
          exact done _ _ summary ⟨saved, h.still, h.phase, h.task, ⟨_, rfl⟩, rfl, pollTask_output hs⟩

/-- A row prepared for an operation, as it was before on the card `c`. -/
structure Prepared (t : Terms) (m : State → Prop) (c : Card) (operation : SummaryOperation) (key : String)
    (r : PipelineStage) (w : StageWorld) : Prop where
  saved : Saved t m r w
  opened : From t m ⟨c, w.trace⟩
  phase : c.phase = .opened
  card : cardOf r = { c with phase := .prepared, key := some (truncate 128 key) }
  paid : c.epoch + 1 ≤ c.attempts
  key : brokerIdempotencyKey t.platform ⟨c.stageId, c.epoch⟩ operation = some key
  slot : t.lax ∨ nextSlot c.plan = some (operation.kind, operation.ordinal)
    ∧ Prompted c.plan operation

theorem Prepared.replies {c : Card} {operation : SummaryOperation} {key : String}
    {r : PipelineStage} {w : StageWorld} (h : Prepared t m c operation key r w)
    (rest : List Reply) : Prepared t m c operation key r { w with replies := rest } :=
  ⟨h.saved.replies rest, h.opened, h.phase, h.card, h.paid, h.key, h.slot⟩

/-- What a submission leaves: the row as it was, and the answer to the POST if
it was made. -/
def Submitted (t : Terms) (m : State → Prop) (r : PipelineStage) (key : String) (s : StageSession)
    (result : Except Raised AcceptedTask) (w : StageWorld) : Prop :=
  Saved t m r w ∧ w.state = s ∧
    match result with
    | .error .other => True
    | .error (.broker e) => Refused e ∧ ∀ task, e.taskId = some task → Created t r key task w
    | .ok accepted => isTaskId accepted.taskId = true ∧ accepted.idempotencyKey = key
        ∧ Created t r key accepted.taskId w

theorem submitted_local {r : PipelineStage} {key : String} {s : StageSession} {w : StageWorld}
    (h : Saved t m r w) (hs : w.state = s) {code : String} (settled : code ∈ settledCodes)
    (unconfirmed : code ≠ "broker_task_failed") (named : Option String) :
    Submitted t m r key s (.error (.broker (brokerError code none named))) w :=
  ⟨h, hs, refused_unaccepted (unaccepted_of_none
    (unclassified_brokerError settled unconfirmed none named) rfl), fun _ ht => (nomatch ht)⟩

/-- The answer to the POST that is the last event. -/
theorem submitted_answer {r : PipelineStage} {key baseUrl : String} {s : StageSession}
    {w : StageWorld} {p : Post} {l : List Event} {response : Response} (h : Saved t m r w)
    (hs : w.state = s) (trace : w.trace = .post p :: l)
    (answer : p.outcome = some (.response response)) (url : p.baseUrl = baseUrl) (hk : p.key = key)
    (slot : t.lax ∨ nextSlot r.brokerChunkPlan = some (postSlot p)) :
    Submitted t m r key s (readAccepted t.platform baseUrl key response) w := by
  have created : postCreated t.platform p
      = createdTask t.platform baseUrl key (.response response) := by
    simp [postCreated, answer, url, hk]
  refine ⟨h, hs, ?_⟩
  cases hr : readAccepted t.platform baseUrl key response with
  | ok accepted =>
    obtain ⟨isTask, same⟩ := readAccepted_ok hr
    refine ⟨isTask, same, p, l, trace, ?_, hk, slot⟩
    rw [created]
    simp [createdTask, hr]
  | error raised =>
    cases raised with
    | other => trivial
    | broker e =>
      rcases readAccepted_fails t.platform baseUrl key response _ hr with ho | ⟨_, ho, hu⟩
      · cases ho
      · cases ho
        refine ⟨refused_unaccepted hu, fun task ht => ⟨p, l, trace, ?_, hk, slot⟩⟩
        rw [created]
        simp [createdTask, hr, ht]

theorem wp_postTask {c : Card} {operation : SummaryOperation} {key : String} {r : PipelineStage}
    {w : StageWorld} {timeout : Option Rat} {post : Except Raised AcceptedTask → StageWorld → Prop}
    (h : Prepared t m c operation key r w) (hl : ∀ v, Holds t m v → lost v)
    (go : ∀ result v, Submitted t m r key w.state result v → post result v) :
    wp (postTask t.platform service operation key timeout) post lost w := by
  simp only [postTask]
  rw [wp_bind]
  apply wp_clock (hl _ h.saved.holds)
  intro start rest
  rw [wp_bind]
  apply wp_clock (hl _ (h.replies rest).saved.holds)
  intro now rest
  have ready := h.replies rest
  split
  · exact go _ _ (submitted_local ready.saved rfl (by decide) (by decide) _)
  · rw [wp_bind]
    have slot : t.lax ∨ nextSlot r.brokerChunkPlan = some (operation.kind, operation.ordinal) := by
      rw [show r.brokerChunkPlan = c.plan from congrArg Card.plan h.card]
      exact h.slot.imp_right And.left
    have posted (rest : List Reply) (outcome : Option HttpOutcome) : Saved t m r
        { w with
          replies := rest
          trace := .post ⟨w.state.stage.durable, w.state.stage.current, operation, key,
            service.baseUrl, outcome⟩ :: w.trace } := by
      refine ⟨h.saved.named, h.saved.faithful, h.saved.durable, h.saved.flushed, h.saved.current,
        h.saved.level, ?_⟩
      have row : cardOf w.state.stage.durable
          = { c with phase := .prepared, key := some (truncate 128 key) } := by
        rw [h.saved.durable, h.card]
      rw [h.card]
      exact h.opened.tail (.submit ⟨w.state.stage.durable, w.state.stage.current, operation, key,
        service.baseUrl, outcome⟩ h.phase h.paid h.slot row h.key)
    apply wp_request
    · exact hl _ (posted rest none).holds
    · intro outcome rest
      cases outcome with
      | httpError => exact go _ _ (submitted_local (posted rest _) rfl (by decide) (by decide) _)
      | valueError => exact go _ _ (submitted_local (posted rest _) rfl (by decide) (by decide) _)
      | otherError => exact go _ _ ⟨posted rest _, rfl, trivial⟩
      | response response =>
        simp only
        rw [wp_bind]
        apply wp_clock (hl _ (posted rest _).holds)
        intro later rest
        split
        · exact go _ _ (submitted_local (posted rest _) rfl (by decide) (by decide) _)
        · exact go _ _ (submitted_answer (posted rest _) rfl rfl rfl rfl rfl slot)

theorem wp_submitTask {c : Card} {operation : SummaryOperation} {key : String} {r : PipelineStage}
    {w : StageWorld} {timeout : Option Rat} {post : Except Raised AcceptedTask → StageWorld → Prop}
    (h : Prepared t m c operation key r w) (hl : ∀ v, Holds t m v → lost v)
    (go : ∀ result v, Submitted t m r key w.state result v → result ≠ .error .other →
      post result v) :
    wp (submitTask t.platform service ⟨c.stageId, c.epoch⟩ operation timeout) post lost w := by
  simp only [submitTask]
  split
  · refine go _ _ (submitted_local h.saved rfl (by decide) (by decide) _) ?_
    nofun
  · rw [h.key, wp_bind]
    apply wp_postTask h hl
    intro result v submitted
    match result, submitted with
    | .ok _, submitted => exact go _ v submitted nofun
    | .error (.broker _), submitted => exact go _ v submitted nofun
    | .error .other, submitted =>
      -- a POST without an answer that could be read is indeterminate
      exact go _ v (submitted_local submitted.1 submitted.2.1 (by decide) (by decide) _) nofun

theorem wp_trySubmit {c : Card} {key : String} {r : PipelineStage} {w : StageWorld}
    {post : Except Raised AcceptedTask → StageWorld → Prop}
    (h : Prepared t m c submission.operation key r w) (hl : ∀ v, Holds t m v → lost v)
    (go : ∀ result v, Submitted t m r key w.state result v → result ≠ .error .other →
      post result v) :
    wp (trySubmit t.platform service ⟨c.stageId, c.epoch⟩ submission) post lost w := by
  unfold trySubmit
  split
  · exact wp_submitTask h hl go
  · rw [wp_bind]
    apply wp_clock (hl _ h.saved.holds)
    intro now rest
    have ready := h.replies rest
    simp only
    split
    · exact go _ _ ⟨ready.saved, rfl, refused_expired, fun _ ht => (nomatch ht)⟩ nofun
    · exact wp_submitTask ready hl go

/-- The part of `attempt` from the POST on. -/
theorem wp_submitPrepared (hb : ∀ s, m s → Basic t s) {c : Card} {key : String} {r : PipelineStage}
    {w : StageWorld} (h : Prepared t m c submission.operation key r w) (live : Live r)
    (nonempty : key ≠ "")
    (done : ∀ v g summary r' s, Answered t m r' submission.polledKind summary s g v →
      r'.id = r.id → r'.brokerSubmissionEpoch = r.brokerSubmissionEpoch →
      (t.lax ∨ r'.brokerChunkPlan = r.brokerChunkPlan) →
      w.state.stage.loaded ≤ s.stage.loaded → s.video.current = w.state.video.current →
      wp (complete t.platform summary submission.finalizeStage submission.onCompleted) post lost v)
    (hl : ∀ v, Holds t m v → lost v)
    (go : ∀ v o, Holds t m v → o.disposition ≠ SubmissionDisposition.completed → post o v) :
    wp (submitPrepared t.platform service ⟨c.stageId, c.epoch⟩ submission attemptedAt key)
      post lost w := by
  have phase : phaseOf r = .prepared := congrArg Card.phase h.card
  have hk : r.brokerIdempotencyKey = some (truncate 128 key) := congrArg Card.key h.card
  simp only [submitPrepared]
  rw [wp_bind]
  apply wp_trySubmit h hl
  intro result v submitted wrapped
  match result, submitted with
  | .error .other, _ => exact absurd rfl wrapped
  | .error (.broker e), ⟨saved, _, refused, created⟩ =>
    exact wp_classify_refused saved phase live.1 hk nonempty refused created hl go
  | .ok accepted, ⟨saved, still, isTask, same, p, l, trace, hp, hkey, slot⟩ =>
    obtain ⟨named, short⟩ := isTaskId_length isTask
    have card := cardOf_acceptRow live short same hk
    have accepted_path : Path t ⟨cardOf r, v.trace⟩ ⟨cardOf (acceptRow accepted key r), v.trace⟩ := by
      rw [card, trace]
      exact .single (.accept p accepted.taskId phase (hkey ▸ hk) hp slot)
    have calm : phaseOf (acceptRow accepted key r) = .accepted := congrArg Card.phase card
    have before : phaseOf v.state.stage.current ≠ .eligible := by simp [saved.current, phase]
    simp only
    rw [wp_bind, wp_setStage, wp_bind]
    have held : Holds t m (withState v { v.state with
        stage := v.state.stage.modify (acceptRow accepted key) }) := by
      apply saved.holds.modify before
      · rw [saved.current]
        exact accepted_path
      · rw [saved.current, calm]
        nofun
    simp only [wp_bind]
    apply wp_save held
    · rw [withState_state, Instance.modify_current, saved.current, calm]
      nofun
    · exact hl
    · intro u r' committed written trace' names video
      rw [withState_state, Instance.modify_current, saved.current] at written
      have facts : phaseOf r' = .accepted ∧ r'.brokerTaskId = some accepted.taskId
          ∧ r'.brokerIdempotencyKey = some (truncate 128 key) ∧ r'.id = r.id
          ∧ r'.brokerSubmissionEpoch = r.brokerSubmissionEpoch
          ∧ (t.lax ∨ r'.brokerChunkPlan = r.brokerChunkPlan) := by
        have kept : orElse (some accepted.idempotencyKey) key = key := by simp [orElse, same]
        rcases written with rfl | ⟨lax, d, rfl⟩
        · exact ⟨calm, by simp [acceptRow, short], by simp [acceptRow, kept], rfl, rfl, .inr rfl⟩
        · exact ⟨calm, by simp [acceptRow, short, planColumn],
            by simp [acceptRow, kept, planColumn], rfl, rfl, .inl lax⟩
      obtain ⟨accPhase, accTask, accKey, id, epoch, plan⟩ := facts
      apply wp_pollDeadline (hl _ committed.holds)
      intro deadline rest
      have start : Polled t m r' accepted key u.state { u with replies := rest } :=
        ⟨committed.replies rest, rfl, accPhase, accTask, isTask, accKey, nonempty, same⟩
      apply wp_loop (Polled t m r' accepted key u.state)
      · intro v' polled
        refine wp_pollRound hb polled (fun x g summary answered => ?_) hl go
        refine done x g summary r' u.state answered id epoch plan ?_ ?_
        · have fresh : v.state.stage.loaded ≤ v.state.stage.fresh := Nat.le_of_lt saved.named.2
          rw [← still]
          exact Nat.le_trans fresh names
        · rw [video, withState_state, still]
      · exact fun v' polled => hl _ polled.saved.holds
      · exact start

/-- The correlation of a row on a path is cut already. -/
theorem keepCorrelation_stored {r : PipelineStage} {l : List Event} (basic : Basic t ⟨cardOf r, l⟩)
    (live : phaseOf r ≠ .closed) :
    keepCorrelation r.brokerTaskId r.brokerIdempotencyKey r = r := by
  apply keepCorrelation_self
  · cases ht : r.brokerTaskId with
    | none => exact .inl rfl
    | some task =>
      obtain ⟨p, _, created, _⟩ := basic.current live task ht
      obtain ⟨outcome, _, created⟩ := Option.bind_eq_some_iff.mp created
      have short := (isTaskId_length (createdTask_isTaskId created)).2
      exact .inr (by simp [short])
  · cases hk : r.brokerIdempotencyKey with
    | none => exact .inl rfl
    | some key => exact .inr (by simp [basic.short live key hk])

theorem wp_attempt (hb : ∀ s, m s → Basic t s) (digest : ∀ bytes, (t.platform.sha256 bytes).length = 64)
    {w : StageWorld} (h : Holds t m w) (live : Live w.state.stage.current)
    (paid : w.state.stage.current.brokerSubmissionEpoch + 1 ≤ w.state.stage.current.attemptCount)
    (slot : phaseOf w.state.stage.current = .opened → t.lax ∨
      nextSlot w.state.stage.current.brokerChunkPlan
        = some (submission.operation.kind, submission.operation.ordinal)
      ∧ Prompted w.state.stage.current.brokerChunkPlan submission.operation)
    (done : ∀ v g summary r s, Answered t m r submission.polledKind summary s g v →
      r.id = w.state.stage.current.id →
      r.brokerSubmissionEpoch = w.state.stage.current.brokerSubmissionEpoch →
      (t.lax ∨ r.brokerChunkPlan = w.state.stage.current.brokerChunkPlan) →
      w.state.stage.fresh ≤ s.stage.loaded → s.video.current = w.state.video.current →
      wp (complete t.platform summary submission.finalizeStage submission.onCompleted) post lost v)
    (hl : ∀ v, Holds t m v → lost v)
    (go : ∀ v o, Holds t m v → o.disposition ≠ SubmissionDisposition.completed → post o v) :
    wp (attempt t.platform service
      ⟨w.state.stage.current.id, w.state.stage.current.brokerSubmissionEpoch⟩ submission attemptedAt)
      post lost w := by
  have basic := from_basic h.current hb
  obtain ⟨ineligible, unclosed⟩ := live_phase live
  have stored := keepCorrelation_stored basic unclosed
  simp only [attempt]
  rw [wp_bind, wp_stageRow]
  split
  · next residue =>
    have phase : phaseOf w.state.stage.current = .prepared := by
      rw [phaseOf_live live, if_pos residue]
    refine wp_quarantine h (.inl phase) ?_ hl go
    have bare : w.state.stage.current.brokerTaskId = none := basic.bare phase
    rw [bare] at stored
    exact stored
  next unprepared =>
  split
  · next residue =>
    have phase : phaseOf w.state.stage.current = .accepted := by
      rw [phaseOf_live live, if_neg unprepared, if_pos residue]
    exact wp_quarantine h (.inr phase) stored hl go
  next unaccepted =>
  have phase : phaseOf w.state.stage.current = .opened := by
    rw [phaseOf_live live, if_neg unprepared, if_neg unaccepted]
  split
  · rw [wp_raise]
    exact hl _ (h.note trivial)
  · next key hkey =>
    have nonempty : key ≠ "" := by
      rintro rfl
      obtain ⟨_, bytes, _, hb⟩ := brokerIdempotencyKey_eq_some hkey
      have := digest bytes
      rw [← hb] at this
      exact absurd this (by decide)
    have card := cardOf_prepareRow live key
    have prepared : phaseOf (prepareRow key w.state.stage.current) = .prepared :=
      congrArg Card.phase card
    rw [wp_bind, wp_setStage, wp_bind]
    have held : Holds t m (withState w { w.state with
        stage := w.state.stage.modify (prepareRow key) }) := by
      apply h.modify ineligible
      · rw [card]
        exact .single (.prepare key phase paid)
      · rw [prepared]
        nofun
    simp only [wp_bind]
    apply wp_save held
    · rw [withState_state, Instance.modify_current, prepared]
      nofun
    · exact hl
    · intro v r committed written trace names video
      rw [withState_state, Instance.modify_current] at written
      have names' : w.state.stage.fresh ≤ v.state.stage.loaded := names
      have ready : ∃ c, Prepared t m c submission.operation key r v ∧ Live r
          ∧ c.stageId = w.state.stage.current.id
          ∧ c.epoch = w.state.stage.current.brokerSubmissionEpoch
          ∧ r.id = w.state.stage.current.id
          ∧ r.brokerSubmissionEpoch = w.state.stage.current.brokerSubmissionEpoch
          ∧ (t.lax ∨ r.brokerChunkPlan = w.state.stage.current.brokerChunkPlan) := by
        have opened : From t m ⟨cardOf w.state.stage.current, v.trace⟩ := trace ▸ h.current
        rcases written with rfl | ⟨lax, d, rfl⟩
        · exact ⟨cardOf w.state.stage.current,
            ⟨committed, opened, phase, card, paid, hkey, slot phase⟩, live, rfl, rfl, rfl, rfl,
            .inr rfl⟩
        · exact ⟨{ cardOf w.state.stage.current with plan := d },
            ⟨committed, opened.tail (.drift d lax), phase, by rw [cardOf_setPlan, card], paid, hkey,
              .inl lax⟩, live, rfl, rfl, rfl, rfl, .inl lax⟩
      obtain ⟨c, prep, live', hid, hepoch, rid, repoch, rplan⟩ := ready
      rw [← hid, ← hepoch]
      apply wp_submitPrepared hb prep live' nonempty ?_ hl go
      intro v' g summary r' s answered id epoch plan loaded sameVideo
      refine done v' g summary r' s answered (id.trans rid) (epoch.trans repoch) ?_
        (Nat.le_trans names' loaded) (sameVideo.trans video)
      rcases plan with lax | plan
      · exact .inl lax
      · exact rplan.imp_right plan.trans

end YTPipe.Ledger
