import YTPipe.Dispositions
import YTPipe.LedgerRows

/-!
# A worker and the stored row

Several processes may have read the end of one task, each with the stage as it
stood when it was loaded. What the coordinator of such a worker leaves in the
database, where the row has gone on meanwhile.
-/

namespace YTPipe.Epochs

open Broker Proc Ledger

/-- What every worker of a task reads as its result. -/
structure TaskResult where
  reading : Reading
  sound : reading.Sound
  /-- A task that was cancelled or has expired is in no safe class. -/
  ended : ∀ code failureClass brokerCode, reading = .ended code failureClass brokerCode →
    code = "broker_task_failed" ∨ failureClass ∉ safeTerminalClasses

/-- The broker confirms that the task has failed. -/
def TaskResult.Failed (result : TaskResult) (failureClass : String) : Prop :=
  ∃ brokerCode, result.reading = .ended "broker_task_failed" failureClass brokerCode

section results

variable {profile : BrokerRequestProfile} {task : String} {key : Option String} {e : BrokerError}

theorem reading_ended {r : Response} {code failureClass brokerCode : String}
    (h : r.reading profile = .ended code failureClass brokerCode) :
    code = "broker_task_failed" ∨ failureClass ∉ safeTerminalClasses := by
  unfold Response.reading at h
  split at h
  · split at h <;> cases h
  · split at h
    · cases h
    · cases h
    · split at h
      · cases h
      · cases h
      · split at h <;> cases h
    · next state _ _ ends =>
      have unsafe_ : "terminal" ∉ safeTerminalClasses := by decide
      cases state with
      | failed =>
        obtain ⟨_, _, _, _, error⟩ := terminalTaskError_named ends
        rw [error] at h
        cases h
        exact .inl rfl
      | pending => cases h; exact .inr unsafe_
      | succeeded => cases h; exact .inr unsafe_
      | cancelled => cases h; exact .inr unsafe_
      | expired => cases h; exact .inr unsafe_

/-- Whatever the operation was, a poll answers with such a result. -/
theorem pollTask_result (profile : BrokerRequestProfile) (task key : String)
    (operationKind : Option String) (r : Response) : ∃ result : TaskResult,
      pollTask profile task key operationKind (.response r)
        = result.reading.answer (some task) (some key) := by
  have whole := pollTask_reading profile task key r
  have plain : ∃ result : TaskResult, pollTask profile task key none (.response r)
      = result.reading.answer (some task) (some key) :=
    ⟨⟨r.reading profile, reading_sound profile r, fun _ _ _ => reading_ended⟩, whole⟩
  unfold pollTask at plain ⊢
  cases polled : pollResult task key (.response r) with
  | error raised =>
    rw [polled] at plain
    cases raised <;> exact plain
  | ok result =>
    rw [polled] at plain
    cases result with
    | none => exact plain
    | some result =>
      dsimp only
      cases valid : validatedResult profile result (operationKind = some partialKind) with
      | ok output => exact ⟨⟨.summary output, trivial, fun _ _ _ h => by cases h⟩, rfl⟩
      | error e =>
        obtain ⟨same, code⟩ := validatedResult_error valid
        refine ⟨⟨.unusable e.code, code, fun _ _ _ h => by cases h⟩, ?_⟩
        exact congrArg Except.error same

theorem rejection_ne_failed {code : String} (h : code ∈ Reading.rejections) :
    code ≠ "broker_task_failed" := by
  rintro rfl
  exact absurd h (by decide)

/-- The code of an error tells whether it confirms the failure of the task. -/
theorem TaskResult.confirmed_iff {result : TaskResult}
    (h : result.reading.answer (some task) key = .error e) :
    e.code = "broker_task_failed" ↔ ∃ failureClass, result.Failed failureClass := by
  obtain ⟨reading, sound, ended⟩ := result
  have other (ne : e.code ≠ "broker_task_failed") (no : ∀ failureClass brokerCode,
      reading ≠ .ended "broker_task_failed" failureClass brokerCode) :
      e.code = "broker_task_failed" ↔ ∃ failureClass, TaskResult.Failed ⟨reading, sound, ended⟩
        failureClass :=
    ⟨fun yes => absurd yes ne, fun ⟨c, b, yes⟩ => absurd yes (no c b)⟩
  cases reading with
  | pending => cases h
  | summary output => cases h
  | refused code =>
    cases h
    exact other (rejection_ne_failed sound) (by simp)
  | garbled =>
    cases h
    exact other (by simp [brokerError]) (by simp)
  | unreadable =>
    cases h
    exact other (by simp [brokerError]) (by simp)
  | unusable code =>
    cases h
    exact other (rejection_ne_failed sound) (by simp)
  | ended code failureClass brokerCode =>
    cases h
    constructor
    · rintro rfl
      exact ⟨failureClass, brokerCode, rfl⟩
    · rintro ⟨_, _, same⟩
      cases same
      rfl

/-- What confirms no failure is settled. -/
theorem TaskResult.settled {result : TaskResult}
    (h : result.reading.answer (some task) key = .error e)
    (unconfirmed : e.code ≠ "broker_task_failed") : result.reading.Settled := by
  obtain ⟨reading, sound, ended⟩ := result
  cases reading with
  | pending => cases h
  | ended code failureClass brokerCode =>
    cases h
    exact (ended _ _ _ rfl).resolve_left unconfirmed
  | _ => trivial

/-- The policy keeps the class it is given. -/
theorem classify_class {failureClass : String} (named : failureClass ≠ "") (code : String)
    (attempts maxAttempts : Int) (now : Time) :
    (classifySummaryFailure .broker code attempts maxAttempts now (some failureClass)).failureClass
      = failureClass := by
  have kept (default : String) : orElse (some failureClass) default = failureClass := if_neg named
  simp only [classifySummaryFailure, if_true, kept]
  split
  · rfl
  · split
    · split <;> rfl
    · split <;> rfl

/-- The outcome of a confirmed failure is of its class; only a safe one is retried, while
attempts are left. -/
theorem TaskResult.outcome {result : TaskResult} {failureClass : String}
    (h : result.reading.answer (some task) key = .error e) (failed : result.Failed failureClass)
    (attemptedAt : Time) (r : PipelineStage) :
    (pollOutcome e attemptedAt r).failureClass = failureClass
      ∧ ((pollOutcome e attemptedAt r).disposition = .retry →
        failureClass ∈ safeTerminalClasses ∧ r.attemptCount < max 1 r.maxAttempts) := by
  obtain ⟨brokerCode, failed⟩ := failed
  have sound := result.sound
  rw [failed] at h sound
  cases h
  have plain : "broker_task_failed" ≠ "broker_protocol_error" := by decide
  simp only [pollOutcome, if_neg plain]
  constructor
  · exact classify_class sound.2.1 ..
  · intro retry
    obtain ⟨left, ⟨c, safe, same, _⟩ | ⟨none, _⟩⟩ := classify_retry retry
    · cases same
      exact ⟨safe, left⟩
    · cases none

end results

/-- What a flush leaves of a column: the stored value where the one in memory is
still the loaded one. -/
def flushed {α : Type} [DecidableEq α] (loaded mine stored : α) : α :=
  if mine = loaded then stored else mine

/-- The row after a flush of `mine`, which was loaded as `loaded`. -/
def merge (loaded mine stored : PipelineStage) : PipelineStage where
  id := flushed loaded.id mine.id stored.id
  videoId := flushed loaded.videoId mine.videoId stored.videoId
  userId := flushed loaded.userId mine.userId stored.userId
  stage := flushed loaded.stage mine.stage stored.stage
  status := flushed loaded.status mine.status stored.status
  attemptCount := flushed loaded.attemptCount mine.attemptCount stored.attemptCount
  maxAttempts := flushed loaded.maxAttempts mine.maxAttempts stored.maxAttempts
  brokerSubmissionEpoch :=
    flushed loaded.brokerSubmissionEpoch mine.brokerSubmissionEpoch stored.brokerSubmissionEpoch
  brokerSubmissionHistory :=
    flushed loaded.brokerSubmissionHistory mine.brokerSubmissionHistory
      stored.brokerSubmissionHistory
  brokerChunkPlan := flushed loaded.brokerChunkPlan mine.brokerChunkPlan stored.brokerChunkPlan
  lastAttemptAt := flushed loaded.lastAttemptAt mine.lastAttemptAt stored.lastAttemptAt
  nextAttemptAt := flushed loaded.nextAttemptAt mine.nextAttemptAt stored.nextAttemptAt
  failureClass := flushed loaded.failureClass mine.failureClass stored.failureClass
  failureCode := flushed loaded.failureCode mine.failureCode stored.failureCode
  lastError := flushed loaded.lastError mine.lastError stored.lastError
  quarantinedAt := flushed loaded.quarantinedAt mine.quarantinedAt stored.quarantinedAt
  reconciliationStatus :=
    flushed loaded.reconciliationStatus mine.reconciliationStatus stored.reconciliationStatus
  nextReconcileAt := flushed loaded.nextReconcileAt mine.nextReconcileAt stored.nextReconcileAt
  reconciliationAlertedAt :=
    flushed loaded.reconciliationAlertedAt mine.reconciliationAlertedAt
      stored.reconciliationAlertedAt
  reconciliationReason :=
    flushed loaded.reconciliationReason mine.reconciliationReason stored.reconciliationReason
  brokerTaskId := flushed loaded.brokerTaskId mine.brokerTaskId stored.brokerTaskId
  brokerIdempotencyKey :=
    flushed loaded.brokerIdempotencyKey mine.brokerIdempotencyKey stored.brokerIdempotencyKey

/-- A flush of a row that was loaded as it is stored stores the row. -/
theorem merge_stored (mine stored : PipelineStage) : merge stored mine stored = mine := by
  have column {α : Type} [DecidableEq α] (m s : α) : flushed s m s = m := by
    unfold flushed
    split
    · next same => exact same.symm
    · rfl
  simp only [merge, column]

/-- What `_classify` leaves of the stored row, by a worker that loaded the stage as
`loaded` and polled the task. -/
def applied (e : BrokerError) (attemptedAt : Time) (task : String) (key : Option String)
    (loaded stored : PipelineStage) : PipelineStage :=
  let mine := keepCorrelation (some task) (firstOf key e.idempotencyKey) loaded
  let outcome := pollOutcome e attemptedAt mine
  if e.code = "broker_task_failed" then
    -- the locking query loads the row anew and drops what was assigned before it
    if stored.brokerTaskId = some task then settledRow outcome attemptedAt (some task) true stored
    else stored
  else merge loaded (settledRow outcome attemptedAt (some task) false mine) stored

/-- What an attempt leaves of a submission that was begun before it. -/
def residueRow (attemptedAt : Time) (key task : Option String) (r : PipelineStage) :
    PipelineStage :=
  let r := keepCorrelation task key r
  settledRow (classifySummaryFailure .broker "broker_timeout" r.attemptCount r.maxAttempts
    attemptedAt (some "indeterminate")) attemptedAt task false r

/-! The coordinator of a worker does just that. -/

/-- A session that has loaded the row as `loaded`; a query for the row finds it as
`stored`. -/
structure Sees (loaded stored : PipelineStage) (s : StageSession) : Prop where
  durable : s.stage.durable = stored
  flushed : s.stage.flushed = stored
  current : s.stage.current = loaded
  document : s.stage.loadedValue = loaded.brokerChunkPlan

/-- What a flush leaves of the plan is what the column's own flush does. -/
theorem merge_written {i : StageInstance} {rule : FlushRule} {loaded stored : PipelineStage}
    (document : i.loadedValue = loaded.brokerChunkPlan) (flushed : i.flushed = stored) :
    merge loaded (i.written planColumn rule) stored = merge loaded i.current stored := by
  unfold Instance.written
  split
  · rfl
  · next kept =>
    -- the plan in memory is the loaded one, and the stored one stays
    have same : i.current.brokerChunkPlan = loaded.brokerChunkPlan :=
      (Decidable.not_not.mp (not_or.mp kept).2).trans document
    have column : Epochs.flushed loaded.brokerChunkPlan stored.brokerChunkPlan
        stored.brokerChunkPlan = Epochs.flushed loaded.brokerChunkPlan i.current.brokerChunkPlan
          stored.brokerChunkPlan := by
      rw [same]
      simp [Epochs.flushed]
    rw [flushed]
    simp only [merge, planColumn, column]

section coordinator

variable {platform : Platform} {lost : StageWorld → Prop} {w : StageWorld} {rest : List Reply}

/-- The columns and the plan are committed together, the plan as the flush rule has it. -/
def Committed (platform : Platform) (w : StageWorld) (r : PipelineStage) (u : StageWorld) : Prop :=
  ∃ i : StageInstance, i.current = r ∧ i.flushed = w.state.stage.flushed
    ∧ i.loadedValue = w.state.stage.loadedValue
    ∧ u.state.stage.durable = i.written planColumn platform.flushRule

theorem Committed.durable {r : PipelineStage} {u : StageWorld} (h : Committed platform w r u)
    (faithful : w.state.stage.Faithful planColumn platform.flushRule) :
    u.state.stage.durable = r := by
  obtain ⟨i, current, flushed, document, durable⟩ := h
  have own : i.Faithful planColumn platform.flushRule := by
    unfold Instance.Faithful
    rw [flushed, document]
    exact faithful
  rw [durable, Instance.written_of_faithful own, current]

theorem wp_flush_commit {post : Unit → StageWorld → Prop} (commits : w.replies = .committed :: rest)
    (go : ∀ u, u.state.stage.durable = w.state.stage.written planColumn platform.flushRule →
      post () u) :
    wp (flush platform) (fun _ => wp (commit platform) post lost) lost w := by
  rw [wp_flush]
  refine (wp_commit_cons (w := withState w (w.state.flush platform)) commits).mpr (go _ ?_)
  exact Instance.written_flush

theorem wp_settle {α : Type} {a : α} {outcome : SummaryFailureOutcome} {attemptedAt : Time}
    {task : Option String} {confirmed : Bool} (commits : w.replies = .committed :: rest) :
    wp (do
      setStage (applyOutcomeRow outcome attemptedAt task confirmed)
      Proc.when (outcome.disposition = .terminal) (assignPlan none)
      flush platform
      commit platform
      return a)
      (fun _ => Committed platform w
        (settledRow outcome attemptedAt task confirmed w.state.stage.current)) lost w := by
  simp only [wp_bind, wp_setStage, wp_when]
  split
  · next terminal =>
    simp only [wp_assignPlan]
    refine wp_flush_commit commits fun u durable => ?_
    rw [settledRow, if_pos terminal]
    refine ⟨_, ?_, ?_, ?_, durable⟩ <;> rfl
  · next going =>
    refine wp_flush_commit commits fun u durable => ?_
    rw [settledRow, if_neg going]
    refine ⟨_, ?_, ?_, ?_, durable⟩ <;> rfl

/-- What is not confirmed is settled without a lock, on what is in memory. -/
theorem wp_applyOutcome_plain {outcome : SummaryFailureOutcome} {attemptedAt : Time}
    {task : Option String} (commits : w.replies = .committed :: rest) :
    wp (applyOutcome platform outcome attemptedAt task false) (fun _ => Committed platform w
      (settledRow outcome attemptedAt task false w.state.stage.current)) lost w := by
  simp only [applyOutcome, wp_bind, wp_when]
  rw [if_neg (by simp), wp_stageRow, if_neg (by simp)]
  exact wp_settle commits

/-- What is confirmed is settled on the stored row, and only while it holds the task. -/
theorem wp_applyOutcome_confirmed {outcome : SummaryFailureOutcome} {attemptedAt : Time}
    {task : String} (named : task ≠ "") (commits : w.replies = .committed :: rest) :
    wp (applyOutcome platform outcome attemptedAt (some task) true) (fun _ u =>
      u.state.stage.durable = if w.state.stage.flushed.brokerTaskId = some task
        then settledRow outcome attemptedAt (some task) true w.state.stage.flushed
        else w.state.stage.durable) lost w := by
  simp only [applyOutcome, wp_bind, wp_when]
  rw [if_pos (by simp [named]), wp_populateExisting, wp_stageRow]
  by_cases current : w.state.stage.flushed.brokerTaskId = some task
  · rw [if_neg fun h => h.2 current, if_pos current]
    exact wp_mono (wp_settle (w := withState w _) commits)
      (fun _ _ committed => committed.durable Instance.faithful_expire) fun _ h => h
  · rw [if_pos ⟨by simp [named], current⟩, if_neg current]
    exact rfl

/-- An attempt that finds a submission already begun quarantines the stage. -/
theorem wp_quarantine_residue {attemptedAt : Time} {key task : Option String}
    (faithful : w.state.stage.Faithful planColumn platform.flushRule)
    (commits : w.replies = .committed :: rest) :
    wp (quarantine platform attemptedAt "broker_timeout" (some "indeterminate") key task)
      (fun _ u => u.state.stage.durable
        = residueRow attemptedAt key task w.state.stage.current) lost w := by
  rw [quarantine, wp_bind, wp_setStage, wp_bind, wp_stageRow]
  exact wp_mono (wp_applyOutcome_plain (w := withState w _) commits)
    (fun _ _ committed => committed.durable (Instance.faithful_modify faithful)) fun _ h => h

variable {e : BrokerError} {attemptedAt : Time} {task : String} {key : Option String}
  {loaded stored : PipelineStage}

/-- A confirmed failure is settled on the stored row, whatever the worker had loaded
and assigned. -/
theorem wp_classify_confirmed (named : task ≠ "") (confirmed : e.code = "broker_task_failed")
    (sees : Sees loaded stored w.state) (commits : w.replies = .committed :: rest) :
    wp (classify platform (.broker e) attemptedAt key (some task)) (fun _ u =>
      u.state.stage.durable = applied e attemptedAt task key loaded stored) lost w := by
  rw [classify_polled named, decide_eq_true confirmed, wp_bind, wp_setStage, wp_bind, wp_stageRow]
  refine wp_mono (wp_applyOutcome_confirmed (w := withState w _) named commits)
    (fun _ u durable => ?_) fun _ h => h
  rw [durable]
  simp only [applied, if_pos confirmed, withState_state, Instance.modify_current,
    Instance.modify_flushed, Instance.modify_durable, sees.flushed, sees.durable, sees.current]

/-- What else is read of a task is written over the stored row, as far as it differs from
the loaded copy. -/
theorem wp_classify_unconfirmed (named : task ≠ "") (unconfirmed : e.code ≠ "broker_task_failed")
    (sees : Sees loaded stored w.state) (commits : w.replies = .committed :: rest) :
    wp (classify platform (.broker e) attemptedAt key (some task)) (fun _ u =>
      merge loaded u.state.stage.durable stored = applied e attemptedAt task key loaded stored)
      lost w := by
  rw [classify_polled named, decide_eq_false unconfirmed, wp_bind, wp_setStage, wp_bind,
    wp_stageRow]
  refine wp_mono (wp_applyOutcome_plain (w := withState w _) commits) (fun _ u committed => ?_)
    fun _ h => h
  obtain ⟨i, current, flushed, document, durable⟩ := committed
  rw [durable, merge_written (document.trans sees.document) (flushed.trans sees.flushed), current]
  simp only [applied, if_neg unconfirmed, withState_state, Instance.modify_current, sees.current]

end coordinator

/-! The columns of a settled row. -/

section columns

variable {outcome : SummaryFailureOutcome} {attemptedAt : Time} {task : Option String}
  {confirmed : Bool} {r : PipelineStage}

/-- Whether settling `r` opens a new epoch. -/
abbrev Opens (outcome : SummaryFailureOutcome) (task : Option String) (confirmed : Bool)
    (r : PipelineStage) : Prop :=
  canAdvanceSubmissionEpoch .broker confirmed task r.brokerTaskId (some outcome.failureClass)
    r.attemptCount r.maxAttempts r.brokerSubmissionEpoch = true

/-- The columns of `r'` after `r` is settled. -/
structure Settles (outcome : SummaryFailureOutcome) (attemptedAt : Time) (task : Option String)
    (confirmed : Bool) (r r' : PipelineStage) : Prop where
  attempts : r'.attemptCount = r.attemptCount
  limit : r'.maxAttempts = r.maxAttempts
  status : r'.status = if outcome.disposition = .terminal then .failed else .pendingRetry
  quarantinedAt : r'.quarantinedAt
    = if outcome.disposition = .quarantine then some attemptedAt else r.quarantinedAt
  opens : Opens outcome task confirmed r → r'.brokerSubmissionEpoch = r.brokerSubmissionEpoch + 1
    ∧ r'.brokerTaskId = none ∧ r'.brokerIdempotencyKey = none
  stays : ¬ Opens outcome task confirmed r →
    r'.brokerSubmissionEpoch = r.brokerSubmissionEpoch ∧ r'.brokerTaskId = r.brokerTaskId

theorem noted_columns {c : Prop} [Decidable c] {noted : PipelineStage} (h : (if c then
      recordHistory outcome attemptedAt (noteFailure outcome r) else noteFailure outcome r) = noted) :
    noted.attemptCount = r.attemptCount ∧ noted.maxAttempts = r.maxAttempts
      ∧ noted.brokerSubmissionEpoch = r.brokerSubmissionEpoch
      ∧ noted.brokerTaskId = r.brokerTaskId ∧ noted.quarantinedAt = r.quarantinedAt := by
  subst h
  split <;> exact ⟨rfl, rfl, rfl, rfl, rfl⟩

theorem opened_columns {c : Prop} [Decidable c] {noted opened : PipelineStage}
    (h : (if c then advanceEpoch noted else noted) = opened) :
    opened.attemptCount = noted.attemptCount ∧ opened.maxAttempts = noted.maxAttempts
      ∧ opened.quarantinedAt = noted.quarantinedAt
      ∧ (c → opened.brokerSubmissionEpoch = noted.brokerSubmissionEpoch + 1
        ∧ opened.brokerTaskId = none ∧ opened.brokerIdempotencyKey = none)
      ∧ (¬ c → opened.brokerSubmissionEpoch = noted.brokerSubmissionEpoch
        ∧ opened.brokerTaskId = noted.brokerTaskId) := by
  subst h
  split
  · next yes => exact ⟨rfl, rfl, rfl, fun _ => ⟨rfl, rfl, rfl⟩, fun no => absurd yes no⟩
  · next no => exact ⟨rfl, rfl, rfl, fun yes => absurd yes no, fun _ => ⟨rfl, rfl⟩⟩

theorem settledRow_settles : Settles outcome attemptedAt task confirmed r
    (settledRow outcome attemptedAt task confirmed r) := by
  simp only [settledRow, applyOutcomeRow]
  generalize hn : (if confirmed = true ∧ task.getD "" ≠ ""
      ∧ outcome.failureClass ∈ safeTerminalClasses then
    recordHistory outcome attemptedAt (noteFailure outcome r) else noteFailure outcome r) = noted
  obtain ⟨attempts, limit, epoch, holds, quarantined⟩ := noted_columns hn
  rw [attempts, limit, epoch, holds]
  generalize ho : (if Opens outcome task confirmed r then advanceEpoch noted else noted) = opened
  obtain ⟨attempts', limit', quarantined', opens, stays⟩ := opened_columns ho
  rw [attempts] at attempts'
  rw [limit] at limit'
  rw [quarantined] at quarantined'
  rw [epoch] at opens stays
  rw [holds] at stays
  cases hd : outcome.disposition <;>
    exact ⟨attempts', limit', by simp [hd, planColumn], by simp [hd, planColumn, quarantined'],
      opens, stays⟩

end columns

end YTPipe.Epochs
