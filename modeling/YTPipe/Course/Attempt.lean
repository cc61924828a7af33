import YTPipe.Course.States

/-!
# An attempt keeps to its course
-/

namespace YTPipe

open Broker Proc Ledger

variable {platform : Platform} {trusted : List Event → Prop}
  {rest begun posted past P ever : RowState} {before : StageSession} {p : PlanRead} {w : StageWorld}
  {lost : StageWorld → Prop}

/-- `session.flush(); session.commit()`, of a row that names a task. -/
theorem wp_save_task {post : Unit → StageWorld → Prop} {task : Option String}
    (state : Underway trusted ever P) (h : In platform trusted P ever before p w)
    (named : w.state.stage.current.brokerTaskId = task) (hl : ∀ v, Adrift ever before v → lost v)
    (go : ∀ v, Held platform trusted P ever before p v → v.state.stage.current.brokerTaskId = task →
      post () v) :
    wp (flush platform) (fun _ => wp (commit platform) post lost) lost w := by
  have row := state.sturdy.written h.faithful h.row
  have live := written_live platform.flushRule h.live
  have flushed : In platform trusted P ever before p (withState w (w.state.flush platform)) :=
    ⟨h.row, h.live, h.plan, fun trust => (h.owned trust).flush,
      h.reached.flush ⟨_, state.ever _ _ live row⟩, fun _ => calm_flush _ _, h.going⟩
  rw [wp_flush]
  apply wp_commit (hl _ (flushed.adrift state))
  intro answers
  have again : ((w.state.stage.flush planColumn platform.flushRule).commit planColumn
      platform.flushRule).current = w.state.stage.written planColumn platform.flushRule :=
    Instance.written_flush
  apply go
  · refine ⟨⟨?_, ?_, ?_, fun trust => (h.owned trust).flush.commit, ?_, fun _ quiet => quiet,
      fun _ => ?_⟩, rfl, rfl, fun trust => (h.owned trust).object⟩
    · exact again ▸ row
    · exact again ▸ live
    · intro trust
      have same : w.state.stage.written planColumn platform.flushRule = w.state.stage.current :=
        Instance.written_of_faithful (h.faithful trust)
      exact (congrArg PipelineStage.brokerChunkPlan (again.trans same)).trans (h.plan trust)
    · apply Reached.commit
      have twice : (w.state.stage.flush planColumn platform.flushRule).written planColumn
          platform.flushRule = w.state.stage.written planColumn platform.flushRule :=
        Instance.written_flush
      exact twice ▸ ⟨_, state.ever _ _ live row⟩
    · exact (again ▸ live).2
  · obtain ⟨d, written⟩ := Instance.written_eq_set planColumn platform.flushRule w.state.stage
    have same : (planColumn.set d w.state.stage.current).brokerTaskId = task := named
    exact (congrArg PipelineStage.brokerTaskId (again.trans written)).trans same

/-- `session.flush(); session.commit()`. -/
theorem wp_save_in {post : Unit → StageWorld → Prop} (state : Underway trusted ever P)
    (h : In platform trusted P ever before p w) (hl : ∀ v, Adrift ever before v → lost v)
    (go : ∀ v, Held platform trusted P ever before p v → post () v) :
    wp (flush platform) (fun _ => wp (commit platform) post lost) lost w :=
  wp_save_task state h rfl hl fun v held _ => go v held

/-- `session.flush(); session.commit()` at the end. -/
theorem wp_save_ended {post : Unit → StageWorld → Prop} (sturdy : Sturdy trusted past)
    (ends : ∀ r l, past r l → ever r l) (h : Ended platform trusted past ever before w)
    (hl : ∀ v, Adrift ever before v → lost v)
    (go : ∀ v, Ended platform trusted past ever before v → post () v) :
    wp (flush platform) (fun _ => wp (commit platform) post lost) lost w := by
  rw [wp_flush]
  have flushed := h.flush sturdy ends
  apply wp_commit (hl _ (flushed.adrift ends))
  intro answers
  exact go _ ((flushed.commit sturdy ends).replies answers)

/-- A retry is given only while attempts are left. -/
theorem classified_retry {exc : Raised} {taskId : Option String} {code : String} {r : PipelineStage}
    {attemptedAt : Time}
    (retried : (if taskId.getD "" ≠ "" ∧ exc.code = some "broker_protocol_error" then
        protocolQuarantine
      else classifySummaryFailure .broker code r.attemptCount r.maxAttempts attemptedAt
        exc.failureClass).disposition = .retry) :
    r.attemptCount < max 1 r.maxAttempts := by
  split at retried
  · cases retried
  · exact (classify_retry retried).1

namespace BrokerCourse

variable (course : BrokerCourse platform trusted rest begun posted past ever)
include course

section settle

variable {outcome : SummaryFailureOutcome} {attemptedAt : Time} {taskId : Option String}
  {confirmed : Bool} {post : BrokerSubmissionOutcome → StageWorld → Prop}

/-- The end of `_apply_outcome`. -/
theorem wp_settle (settles : Settles P past) (h : In platform trusted P ever before p w)
    (tries : outcome.disposition = .retry →
      w.state.stage.current.attemptCount < max 1 w.state.stage.current.maxAttempts)
    (hl : ∀ v, Adrift ever before v → lost v)
    (go : ∀ v, Ended platform trusted past ever before v → post outcome.submission v) :
    wp (do
      setStage (applyOutcomeRow outcome attemptedAt taskId confirmed)
      Proc.when (outcome.disposition = .terminal) (assignPlan none)
      flush platform
      commit platform
      return outcome.submission) post lost w := by
  have settled := settles outcome attemptedAt taskId confirmed _ _ h.live h.row tries
  rw [wp_bind, wp_setStage, wp_bind, wp_when]
  split
  · next terminal =>
    rw [settledRow, if_pos terminal] at settled
    simp only [wp_assignPlan, wp_bind]
    refine wp_save_ended course.past_sturdy course.past_ever ?_ hl fun v ended => go v ended
    exact h.ended settled rfl rfl rfl fun trust => (((h.owned trust).modify _).assign none).start
  · next open? =>
    rw [settledRow, if_neg open?] at settled
    simp only [wp_bind]
    refine wp_save_ended course.past_sturdy course.past_ever ?_ hl fun v ended => go v ended
    exact h.ended settled rfl rfl rfl fun trust => ((h.owned trust).modify _).start

/-- `_apply_outcome` of what is not a confirmed end of the task. -/
theorem wp_applyUnconfirmed (settles : Settles P past) (h : In platform trusted P ever before p w)
    (tries : outcome.disposition = .retry →
      w.state.stage.current.attemptCount < max 1 w.state.stage.current.maxAttempts)
    (hl : ∀ v, Adrift ever before v → lost v)
    (go : ∀ v, Ended platform trusted past ever before v → post outcome.submission v) :
    wp (applyOutcome platform outcome attemptedAt taskId false) post lost w := by
  have plain : ¬ (false = true ∧ taskId.getD "" ≠ "") := nofun
  simp only [applyOutcome]
  rw [wp_bind, wp_when, if_neg plain, wp_bind, wp_stageRow, if_neg fun hn => plain hn.1]
  exact course.wp_settle settles h tries hl go

/-- `_apply_outcome` of the task the committed row holds. -/
theorem wp_applyCommitted (settles : Settles P past) (h : Held platform trusted P ever before p w)
    {f : PipelineStage → PipelineStage} (row : P (f w.state.stage.current) w.trace)
    (live : Live (f w.state.stage.current))
    (same : (f w.state.stage.current).brokerChunkPlan = w.state.stage.current.brokerChunkPlan)
    (attempts : (f w.state.stage.current).attemptCount = w.state.stage.current.attemptCount
      ∧ (f w.state.stage.current).maxAttempts = w.state.stage.current.maxAttempts)
    (task : w.state.stage.current.brokerTaskId = taskId)
    (tries : outcome.disposition = .retry →
      w.state.stage.current.attemptCount < max 1 w.state.stage.current.maxAttempts)
    (hl : ∀ v, Adrift ever before v → lost v)
    (go : ∀ v, Ended platform trusted past ever before v → post outcome.submission v) :
    wp (applyOutcome platform outcome attemptedAt taskId confirmed) post lost
      (withState w { w.state with stage := w.state.stage.modify f }) := by
  simp only [applyOutcome]
  rw [wp_bind, wp_when]
  split
  · next serialized =>
    -- the row is read again as it was committed
    have again : ((w.state.stage.modify f).expire planColumn).current = w.state.stage.current :=
      h.flushed
    have fresh : In platform trusted P ever before p (withState w { w.state with
        stage := (w.state.stage.modify f).expire planColumn }) := by
      refine ⟨?_, ?_, ?_, fun trust => ((h.owned trust).modify f).expire, h.reached,
        fun start _ => h.calm start h.live.1, h.going⟩
      · rw [withState_state, again]
        exact h.row
      · rw [withState_state, again]
        exact h.live
      · rw [withState_state, again]
        exact h.plan
    rw [wp_populateExisting, wp_bind, wp_stageRow]
    simp only [withState_state, again, task, ne_eq, not_true_eq_false, and_false, if_false]
    refine course.wp_settle settles fresh ?_ hl go
    rw [withState_state, again]
    exact tries
  · next plain =>
    rw [wp_bind, wp_stageRow, if_neg fun hn => plain hn.1]
    refine course.wp_settle settles (h.toIn.modify row live same) ?_ hl go
    rw [withState_state, Instance.modify_current, attempts.1, attempts.2]
    exact tries

/-- `_quarantine`. -/
theorem wp_quarantine {code : String} {cls key : Option String} (settles : Settles P past)
    (correlate : ∀ task key r l, P r l → P (keepCorrelation task key r) l)
    (h : In platform trusted P ever before p w) (hl : ∀ v, Adrift ever before v → lost v)
    (go : ∀ v o, o.disposition ≠ SubmissionDisposition.completed →
      Ended platform trusted past ever before v → post o v) :
    wp (quarantine platform attemptedAt code cls key taskId) post lost w := by
  simp only [quarantine]
  rw [wp_bind, wp_setStage, wp_bind, wp_stageRow]
  have kept : In platform trusted P ever before p (withState w { w.state with
      stage := w.state.stage.modify (keepCorrelation taskId key) }) :=
    h.modify (correlate taskId key _ _ h.row) h.live rfl
  apply course.wp_applyUnconfirmed settles kept
  · exact fun retried => (classify_retry retried).1
  · exact hl
  · exact fun v ended => go v _ (disposition_ne_completed _) ended

/-- `_classify` of what is not a confirmed end of the task. -/
theorem wp_classify_unconfirmed {exc : Raised} {key : Option String} (settles : Settles P past)
    (correlate : ∀ task key r l, P r l → P (keepCorrelation task key r) l)
    (unconfirmed : exc.code ≠ some "broker_task_failed") (h : In platform trusted P ever before p w)
    (hl : ∀ v, Adrift ever before v → lost v)
    (go : ∀ v o, o.disposition ≠ SubmissionDisposition.completed →
      Ended platform trusted past ever before v → post o v) :
    wp (classify platform exc attemptedAt key taskId) post lost w := by
  simp only [classify]
  rw [wp_bind, wp_setStage, wp_bind, wp_stageRow, decide_eq_false unconfirmed]
  apply course.wp_applyUnconfirmed settles
  · exact h.modify (correlate _ _ _ _ h.row) h.live rfl
  · exact classified_retry
  · exact hl
  · exact fun v ended => go v _ (disposition_ne_completed _) ended

/-- `_classify` of what came of the task the committed row holds. -/
theorem wp_classify_committed {exc : Raised} {key task : String}
    (h : Held platform trusted posted ever before p w)
    (stored : w.state.stage.current.brokerTaskId = some task) (named : task ≠ "")
    (hl : ∀ v, Adrift ever before v → lost v)
    (go : ∀ v o, o.disposition ≠ SubmissionDisposition.completed →
      Ended platform trusted past ever before v → post o v) :
    wp (classify platform exc attemptedAt (some key) (some task)) post lost w := by
  have kept : firstOf (some task) exc.taskId = some task := by simp [firstOf, named]
  simp only [classify, kept]
  rw [wp_bind, wp_setStage, wp_bind, wp_stageRow]
  apply course.wp_applyCommitted course.settle_posted h
  · exact course.correlate_posted _ _ _ _ h.row
  · exact h.live
  · rfl
  · exact ⟨rfl, rfl⟩
  · exact stored
  · exact classified_retry
  · exact hl
  · exact fun v ended => go v _ (disposition_ne_completed _) ended

end settle

section submission

variable {service : BrokerService} {context : SummaryGatewayContext} {submission : Submission}
  {attemptedAt : Time} {post : BrokerSubmissionOutcome → StageWorld → Prop}

theorem wp_pollExpired {accepted : AcceptedTask} {key : String}
    (h : Held platform trusted posted ever before p w)
    (hl : ∀ v, Adrift ever before v → lost v)
    (go : ∀ v o, o.disposition ≠ SubmissionDisposition.completed →
      Ended platform trusted past ever before v → post o v)
    {post' : Option BrokerSubmissionOutcome → StageWorld → Prop}
    (ends : ∀ o v, post o v → post' (some o) v) :
    wp (do return some (← quarantine platform attemptedAt "broker_timeout" (some "indeterminate")
      (some key) (some accepted.taskId))) post' lost w := by
  rw [wp_bind]
  apply course.wp_quarantine course.settle_posted course.correlate_posted h.toIn hl
  intro v o other ended
  exact ends _ _ (go v o other ended)

/-- A round of the polling loop. -/
theorem wp_pollRound {accepted : AcceptedTask} {key : String} {deadline : Rat}
    (h : Awaited platform trusted posted ever before p accepted w)
    (done : ∀ v summary, Held platform trusted posted ever before p v →
      wp (complete platform summary submission.finalizeStage submission.onCompleted) post lost v)
    (hl : ∀ v, Adrift ever before v → lost v)
    (go : ∀ v o, o.disposition ≠ SubmissionDisposition.completed →
      Ended platform trusted past ever before v → post o v) :
    wp (pollRound platform service submission attemptedAt deadline accepted key)
      (fun o v => o.elim (Awaited platform trusted posted ever before p accepted v) (fun o => post o v))
      lost w := by
  have stop {v : StageWorld} (held : In platform trusted posted ever before p v) : lost v :=
    hl v (held.adrift course.posting)
  simp only [pollRound]
  rw [wp_bind]
  apply wp_clock (stop h.toIn)
  intro now answers
  have h := h.replies answers
  split
  · exact course.wp_pollExpired h.toHeld hl go fun _ _ ended => ended
  rw [wp_bind, wp_sleep, wp_bind]
  have h := h.note (course.earlier _ _) (course.sleep (min 1 (deadline - now)) _ _ h.row)
  apply wp_clock (stop h.toIn)
  intro later answers
  have h := h.replies answers
  split
  · exact course.wp_pollExpired h.toHeld hl go fun _ _ ended => ended
  rw [wp_bind]
  have read (outcome : Option HttpOutcome) := h.note (course.earlier _ _) (course.get
    ⟨w.state.stage.durable,
    w.state.stage.current, .attempt, service.profile, accepted.taskId, submission.polledKind,
    outcome⟩ _ _ rfl h.durable rfl h.live h.row)
  apply wp_request
  · exact stop (read none).toIn
  intro outcome answers
  have h := (read (some outcome)).replies answers
  split
  · rw [wp_bind]
    exact course.wp_classify_committed h.toHeld h.task h.named hl go
  · exact h
  · next summary _ =>
    rw [wp_bind]
    exact done _ summary h.toHeld

/-- What a submission leaves: the row before or after the POST, and after it where
a task was accepted. -/
structure Submitted (platform : Platform) (trusted : List Event → Prop)
    (begun posted ever : RowState) (before : StageSession) (p : PlanRead)
    (result : Except Raised AcceptedTask) (w : StageWorld) : Prop where
  held : Held platform trusted begun ever before p w ∨ Held platform trusted posted ever before p w
  accepted : ∀ accepted, result = .ok accepted →
    Held platform trusted posted ever before p w ∧ isTaskId accepted.taskId = true
  refused : ∀ exc, result = .error exc → exc.code ≠ some "broker_task_failed"

omit course in
theorem submitted_local {code : String} {task key : Option String}
    (h : Held platform trusted begun ever before p w ∨ Held platform trusted posted ever before p w)
    (unconfirmed : code ≠ "broker_task_failed") :
    Submitted platform trusted begun posted ever before p
      (.error (.broker (brokerError code task key))) w where
  held := h
  accepted := nofun
  refused := by
    rintro exc ⟨⟩ same
    exact unconfirmed (Option.some.inj same)

omit course in
theorem submitted_answer {baseUrl key : String} {r : Response}
    (h : Held platform trusted posted ever before p w) :
    Submitted platform trusted begun posted ever before p (readAccepted platform baseUrl key r) w where
  held := .inr h
  accepted _ same := ⟨h, (readAccepted_ok same).1⟩
  refused exc same := by
    rcases readAccepted_fails platform baseUrl key r _ same with rfl | ⟨e, rfl, unaccepted⟩
    · nofun
    · exact fun confirmed => unaccepted.unclassified.unconfirmed (Option.some.inj confirmed)

theorem wp_postTask {operation : SummaryOperation} {key : String} {timeout : Option Rat}
    {post : Except Raised AcceptedTask → StageWorld → Prop}
    (h : Held platform trusted begun ever before p w) (hl : ∀ v, Adrift ever before v → lost v)
    (go : ∀ result v, Submitted platform trusted begun posted ever before p result v → post result v) :
    wp (postTask platform service operation key timeout) post lost w := by
  simp only [postTask]
  rw [wp_bind]
  apply wp_clock (hl _ (h.toIn.adrift course.beginning))
  intro start answers
  have h := h.replies answers
  rw [wp_bind]
  apply wp_clock (hl _ (h.toIn.adrift course.beginning))
  intro now answers
  have h := h.replies answers
  split
  · exact go _ _ (submitted_local (.inl h) (by decide))
  rw [wp_bind]
  have sent (outcome : Option HttpOutcome) : posted w.state.stage.current
      (.post ⟨w.state.stage.durable, w.state.stage.current, operation, key, service.baseUrl,
        outcome⟩ :: w.trace) := by
    have stored := h.durable
    have leaves := course.post ⟨w.state.stage.durable, w.state.stage.current, operation, key,
      service.baseUrl, outcome⟩ w.trace stored.symm (stored ▸ h.live) (stored ▸ h.row)
    exact stored ▸ leaves
  apply wp_request
  · exact hl _ ((h.note (course.earlier _ _) (sent none)).toIn.adrift course.posting)
  intro outcome answers
  have h := (h.note (course.earlier _ _) (sent (some outcome))).replies answers
  cases outcome with
  | httpError => exact go _ _ (submitted_local (.inr h) (by decide))
  | valueError => exact go _ _ (submitted_local (.inr h) (by decide))
  | otherError => exact go _ _ ⟨.inr h, nofun, by rintro exc ⟨⟩; nofun⟩
  | response r =>
    simp only
    rw [wp_bind]
    apply wp_clock (hl _ (h.toIn.adrift course.posting))
    intro later answers
    have h := h.replies answers
    split
    · exact go _ _ (submitted_local (.inr h) (by decide))
    · exact go _ _ (submitted_answer h)

theorem wp_submitTask {operation : SummaryOperation} {timeout : Option Rat}
    {post : Except Raised AcceptedTask → StageWorld → Prop}
    (h : Held platform trusted begun ever before p w) (hl : ∀ v, Adrift ever before v → lost v)
    (go : ∀ result v, Submitted platform trusted begun posted ever before p result v → post result v) :
    wp (submitTask platform service context operation timeout) post lost w := by
  simp only [submitTask]
  split
  · exact go _ _ (submitted_local (.inl h) (by decide))
  split
  · exact go _ _ ⟨.inl h, nofun, by rintro exc ⟨⟩; nofun⟩
  · rw [wp_bind]
    apply course.wp_postTask h hl
    intro result v submitted
    match result, submitted with
    | .ok _, submitted => exact go _ v submitted
    | .error (.broker _), submitted => exact go _ v submitted
    | .error .other, submitted => exact go _ v (submitted_local submitted.held (by decide))

theorem wp_trySubmit {post : Except Raised AcceptedTask → StageWorld → Prop}
    (h : Held platform trusted begun ever before p w) (hl : ∀ v, Adrift ever before v → lost v)
    (go : ∀ result v, Submitted platform trusted begun posted ever before p result v → post result v) :
    wp (trySubmit platform service context submission) post lost w := by
  unfold trySubmit
  split
  · exact course.wp_submitTask h hl go
  rw [wp_bind]
  apply wp_clock (hl _ (h.toIn.adrift course.beginning))
  intro now answers
  have h := h.replies answers
  simp only
  split
  · refine go _ _ ⟨.inl h, nofun, ?_⟩
    rintro exc ⟨⟩ same
    exact absurd (Option.some.inj same) (by decide)
  · exact course.wp_submitTask h hl go

/-- The part of `attempt` from the POST on. -/
theorem wp_submitPrepared {key : String} (h : Held platform trusted begun ever before p w)
    (done : ∀ v summary, Held platform trusted posted ever before p v →
      wp (complete platform summary submission.finalizeStage submission.onCompleted) post lost v)
    (hl : ∀ v, Adrift ever before v → lost v)
    (go : ∀ v o, o.disposition ≠ SubmissionDisposition.completed →
      Ended platform trusted past ever before v → post o v) :
    wp (submitPrepared platform service context submission attemptedAt key) post lost w := by
  simp only [submitPrepared]
  rw [wp_bind]
  apply course.wp_trySubmit h hl
  intro result v submitted
  cases result with
  | error exc =>
    have unconfirmed := submitted.refused exc rfl
    rcases submitted.held with held | held
    · exact course.wp_classify_unconfirmed course.settle_begun course.correlate_begun unconfirmed
        held.toIn hl go
    · exact course.wp_classify_unconfirmed course.settle_posted course.correlate_posted unconfirmed
        held.toIn hl go
  | ok accepted =>
    obtain ⟨held, isTask⟩ := submitted.accepted accepted rfl
    obtain ⟨named, short⟩ := isTaskId_length isTask
    simp only
    rw [wp_bind, wp_setStage, wp_bind]
    simp only [wp_bind]
    have taken : In platform trusted posted ever before p (withState v { v.state with
        stage := v.state.stage.modify (acceptRow accepted key) }) :=
      held.toIn.modify (course.accept accepted key _ _ held.row) held.live rfl
    have task : (acceptRow accepted key v.state.stage.current).brokerTaskId
        = some accepted.taskId := congrArg some short
    apply wp_save_task course.posting taken task hl
    intro u held task
    apply wp_pollDeadline (hl _ (held.toIn.adrift course.posting))
    intro deadline answers
    apply wp_loop (Awaited platform trusted posted ever before p accepted)
    · exact fun x polled => course.wp_pollRound polled done hl go
    · exact fun x polled => hl _ (polled.toIn.adrift course.posting)
    · exact ⟨held.replies answers, task, named⟩

/-- `attempt`. -/
theorem wp_attempt (h : In platform trusted begun ever before p w)
    (done : ∀ v summary, Held platform trusted posted ever before p v →
      wp (complete platform summary submission.finalizeStage submission.onCompleted) post lost v)
    (hl : ∀ v, Adrift ever before v → lost v)
    (go : ∀ v o, o.disposition ≠ SubmissionDisposition.completed →
      Ended platform trusted past ever before v → post o v) :
    wp (attempt platform service context submission attemptedAt) post lost w := by
  simp only [attempt]
  rw [wp_bind, wp_stageRow]
  split
  · exact course.wp_quarantine course.settle_begun course.correlate_begun h hl go
  split
  · exact course.wp_quarantine course.settle_begun course.correlate_begun h hl go
  split
  · exact hl _ ((h.adrift course.beginning).raise course.raised)
  next key _ =>
  rw [wp_bind, wp_setStage, wp_bind]
  simp only [wp_bind]
  have prepared : In platform trusted begun ever before p (withState w { w.state with
      stage := w.state.stage.modify (prepareRow key) }) :=
    h.modify (course.prepare key _ _ h.row) h.live rfl
  apply wp_save_in course.beginning prepared hl
  intro v held
  exact course.wp_submitPrepared held done hl go

end submission

end BrokerCourse

end YTPipe
