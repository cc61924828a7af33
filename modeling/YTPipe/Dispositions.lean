import YTPipe.Broker.Answers
import YTPipe.StageRun

/-!
# What becomes of a result

The coordinator polls a task inside an attempt, the reconciliation reads it for a
quarantined stage: what each leaves the stage as, for every response.
-/

namespace YTPipe

open Broker Proc

/-- How a stage stands: done, given up, kept for the operator or still open. -/
inductive Disposition
  | completed (summary : Option Text)
  | failed
  | quarantined
  | waiting
  deriving DecidableEq, Repr

def PipelineStage.disposition (summary : Option Text) (r : PipelineStage) : Disposition :=
  match r.status with
  | .completed => .completed summary
  | .failed => .failed
  | _ => if r.quarantinedAt.isSome then .quarantined else .waiting

def StageSession.disposition (s : StageSession) : Disposition :=
  s.stage.current.disposition s.video.current.summary

/-- What a stage becomes of a failure with this disposition. -/
def Broker.FailureDisposition.leaves : FailureDisposition → Disposition
  | .terminal => .failed
  | .retry => .waiting
  | .quarantine => .quarantined

/-- What a response says about a task. -/
inductive Reading
  | pending
  | summary (output : Text)
  /-- A problem the adapter has a code of its own for. -/
  | refused (code : String)
  /-- No answer of the protocol. -/
  | garbled
  /-- A result whose check raises. -/
  | unreadable
  /-- A valid result whose output is not accepted. -/
  | unusable (code : String)
  /-- The end of a task that failed, was cancelled or has expired. -/
  | ended (code failureClass brokerCode : String)
  deriving DecidableEq, Repr

def Broker.Response.reading (profile : BrokerRequestProfile) (r : Response) : Reading :=
  if r.statusCode ≠ 200 then
    if problemCode r = "broker_protocol_error" then .garbled else .refused (problemCode r)
  else
    match taskResultStatus r with
    | .error _ => .garbled
    | .ok .pending => .pending
    | .ok .succeeded =>
      match validatedInference r with
      | .error .other => .unreadable
      | .error (.broker _) => .garbled
      | .ok result =>
        match validatedResult profile result false with
        | .ok output => .summary output
        | .error e => .unusable e.code
    | .ok state =>
      let e := terminalTaskError r state none none
      .ended e.code (e.failureClass.getD "") (e.brokerCode.getD "")

namespace Reading

/-- What a call that polls the task returns or raises. -/
def answer (task key : Option String) : Reading → Except BrokerError (Option Text)
  | pending => .ok none
  | summary output => .ok (some output)
  | refused code => .error (brokerError code task key)
  | garbled => .error (brokerError "broker_protocol_error" task key)
  | unreadable => .error (brokerError "broker_task_indeterminate" task key)
  | unusable code => .error (brokerError code none none)
  | ended code failureClass brokerCode =>
    .error ⟨code, some failureClass, some brokerCode, task, key⟩

/-- The codes of an answer that is read but not accepted. -/
def rejections : List String :=
  ["broker_unauthorized", "broker_invalid_request", "broker_output_incomplete",
    "broker_output_invalid"]

/-- The codes and classes a reading comes with. -/
def Sound : Reading → Prop
  | refused code => code ∈ rejections
  | unusable code => code ∈ rejections
  | ended code failureClass brokerCode =>
    code ≠ "broker_protocol_error" ∧ failureClass ≠ "" ∧ brokerCode ≠ ""
  | _ => True

/-- The last word on a task that is not to be submitted anew. -/
def Settled : Reading → Prop
  | pending => False
  | ended _ failureClass _ => failureClass ∉ safeTerminalClasses
  | _ => True

/-- What both sides understand in the same way: a summary, what is no answer of the
protocol, and a failure the broker calls indeterminate or the policy knows. -/
def Agreed : Reading → Prop
  | summary _ => True
  | garbled => True
  | unreadable => True
  | ended _ failureClass brokerCode =>
    failureClass = "indeterminate" ∨ failureClass ∈ rejectedClasses
      ∨ brokerCode ∈ brokerTerminalCodes
  | _ => False

instance : (reading : Reading) → Decidable reading.Settled
  | pending => inferInstanceAs (Decidable False)
  | ended _ failureClass _ => inferInstanceAs (Decidable (failureClass ∉ safeTerminalClasses))
  | summary _ => inferInstanceAs (Decidable True)
  | refused _ => inferInstanceAs (Decidable True)
  | garbled => inferInstanceAs (Decidable True)
  | unreadable => inferInstanceAs (Decidable True)
  | unusable _ => inferInstanceAs (Decidable True)

instance : (reading : Reading) → Decidable reading.Agreed
  | ended _ failureClass brokerCode => inferInstanceAs (Decidable (failureClass = "indeterminate"
      ∨ failureClass ∈ rejectedClasses ∨ brokerCode ∈ brokerTerminalCodes))
  | pending => inferInstanceAs (Decidable False)
  | summary _ => inferInstanceAs (Decidable True)
  | refused _ => inferInstanceAs (Decidable False)
  | garbled => inferInstanceAs (Decidable True)
  | unreadable => inferInstanceAs (Decidable True)
  | unusable _ => inferInstanceAs (Decidable False)

/-- What the coordinator leaves the stage as. -/
def polled : Reading → Disposition
  | pending => .waiting
  | summary output => .completed (some output)
  | refused _ => .failed
  | garbled => .quarantined
  | unreadable => .quarantined
  | unusable _ => .failed
  | ended _ failureClass brokerCode =>
    if failureClass ≠ "indeterminate"
        ∧ (failureClass ∈ rejectedClasses ∨ brokerCode ∈ brokerTerminalCodes) then .failed
    else .quarantined

/-- What the reconciliation leaves it as. -/
def reconciled : Reading → Disposition
  | summary output => .completed (some output)
  | ended _ failureClass _ => if failureClass = "indeterminate" then .quarantined else .failed
  | _ => .quarantined

theorem polled_eq_reconciled_iff {reading : Reading} (settled : reading.Settled) :
    reading.polled = reading.reconciled ↔ reading.Agreed := by
  cases reading with
  | pending => exact settled.elim
  | summary => simp [polled, reconciled, Agreed]
  | refused => simp [polled, reconciled, Agreed]
  | garbled => simp [polled, reconciled, Agreed]
  | unreadable => simp [polled, reconciled, Agreed]
  | unusable => simp [polled, reconciled, Agreed]
  | ended code failureClass brokerCode =>
    simp only [polled, reconciled, Agreed]
    by_cases lost : failureClass = "indeterminate"
    · simp [lost]
    · by_cases known : failureClass ∈ rejectedClasses ∨ brokerCode ∈ brokerTerminalCodes
      · simp [lost, known]
      · simp [lost, known]

end Reading

/-! What the calls make of a response, by its reading. -/

section calls

variable {profile : BrokerRequestProfile} {r : Response}

theorem taskResultStatus_failed (h : taskResultStatus r = .ok .failed) :
    ∃ payload, r.body.bind Json.asDict = some payload
      ∧ validateClassifiedError (payload.getDict? "error") = .ok () := by
  unfold taskResultStatus at h
  obtain ⟨payload, hp, h⟩ := bind_eq_ok.mp h
  refine ⟨payload, ?_, ?_⟩
  · unfold jsonDict at hp
    split at hp
    · next found =>
      cases hp
      exact found
    · cases hp
  · obtain ⟨_, _, h⟩ := bind_eq_ok.mp h
    split at h
    case h_3 =>
      obtain ⟨_, _, h⟩ := bind_eq_ok.mp h
      obtain ⟨⟨⟩, hv, _⟩ := bind_eq_ok.mp h
      exact hv
    case h_6 => cases h
    all_goals
      obtain ⟨_, _, h⟩ := bind_eq_ok.mp h
      cases h

theorem classifiedError_named {value : Option Json.Dict}
    (h : validateClassifiedError value = .ok ()) :
    ∃ error failureClass brokerCode, value = some error
      ∧ error.getStr? "class" = some failureClass ∧ error.getStr? "code" = some brokerCode
      ∧ failureClass ≠ "" ∧ brokerCode ≠ "" := by
  unfold validateClassifiedError at h
  split at h
  · next error =>
    simp only [bind_eq_ok, raiseIf_eq_ok] at h
    obtain ⟨_, _, _, named, _⟩ := h
    simp only [List.any_cons, List.any_nil, Bool.or_eq_true, decide_eq_true_eq, not_or] at named
    obtain ⟨hclass, hcode, _⟩ := named
    cases classOf : error.getStr? "class" with
    | none => simp [classOf] at hclass
    | some failureClass =>
      cases codeOf : error.getStr? "code" with
      | none => simp [codeOf] at hcode
      | some brokerCode =>
        exact ⟨error, failureClass, brokerCode, rfl, classOf, codeOf,
          by simpa [classOf] using hclass, by simpa [codeOf] using hcode⟩
  · cases h

/-- The error of a task that has ended names a class and a code. -/
theorem terminalTaskError_named {state : TaskState} (h : taskResultStatus r = .ok state) :
    ∃ failureClass brokerCode, failureClass ≠ "" ∧ brokerCode ≠ "" ∧ ∀ task key,
      terminalTaskError r state task key
        = ⟨"broker_task_" ++ state.name, some failureClass, some brokerCode, task, key⟩ := by
  cases state with
  | failed =>
    obtain ⟨payload, body, valid⟩ := taskResultStatus_failed h
    obtain ⟨error, failureClass, brokerCode, value, classOf, codeOf, hc, hb⟩ :=
      classifiedError_named valid
    refine ⟨failureClass, brokerCode, hc, hb, fun task key => ?_⟩
    simp only [terminalTaskError, body, Option.bind_some, value, classOf, codeOf]
  | pending => exact ⟨"terminal", "task_pending", by decide, by decide, fun _ _ => rfl⟩
  | succeeded => exact ⟨"terminal", "task_succeeded", by decide, by decide, fun _ _ => rfl⟩
  | cancelled => exact ⟨"terminal", "task_cancelled", by decide, by decide, fun _ _ => rfl⟩
  | expired => exact ⟨"terminal", "task_expired", by decide, by decide, fun _ _ => rfl⟩

theorem validatedResult_error {result : BrokerResult} {fragment : Bool} {e : BrokerError}
    (h : validatedResult profile result fragment = .error e) :
    e = brokerError e.code none none ∧ e.code ∈ Reading.rejections := by
  unfold validatedResult at h
  split at h
  · split at h
    · cases h
      exact ⟨rfl, by decide⟩
    · cases h
      exact ⟨rfl, by decide⟩
  · simp only at h
    split at h
    · cases h
    · cases h
      exact ⟨rfl, by decide⟩

theorem problemCode_cases (r : Response) :
    problemCode r = "broker_protocol_error" ∨ problemCode r ∈ Reading.rejections := by
  unfold problemCode
  split
  · exact .inr (by decide)
  · exact .inr (by decide)
  · exact .inr (by decide)
  · exact .inl rfl

theorem reading_sound (profile : BrokerRequestProfile) (r : Response) :
    (r.reading profile).Sound := by
  unfold Response.reading
  split
  · split
    · trivial
    · next code => exact (problemCode_cases r).resolve_left code
  · split
    · trivial
    · trivial
    · split
      · trivial
      · trivial
      · split
        · trivial
        · next e he => exact (validatedResult_error he).2
    · next state notPending notSucceeded hs =>
      obtain ⟨failureClass, brokerCode, hc, hb, error⟩ := terminalTaskError_named hs
      simp only [error, Option.getD_some]
      refine ⟨?_, hc, hb⟩
      cases state <;> decide

/-- The reconciliation passes on an exception of the check. -/
theorem reconcile_reading (profile : BrokerRequestProfile) (task : String) (key : Option String)
    (r : Response) : reconcile profile task key none (.response r) =
      match r.reading profile with
      | .unreadable => .error .other
      | reading => (reading.answer (some task) key).mapError .broker := by
  simp only [reconcile, reconcileResult, getResult, readResult, Response.reading]
  by_cases refused : r.statusCode ≠ 200
  · simp only [if_pos refused]
    by_cases code : problemCode r = "broker_protocol_error"
    · rw [if_pos code, code]
      rfl
    · rw [if_neg code]
      rfl
  · simp only [if_neg refused]
    cases hs : taskResultStatus r with
    | error e =>
      have := taskResultStatus_fails r e hs
      subst this
      rfl
    | ok state =>
      have named := terminalTaskError_named hs
      cases state with
      | pending => rfl
      | succeeded =>
        cases hv : validatedInference r with
        | error raised => rcases validatedInference_fails r raised hv with rfl | rfl <;> rfl
        | ok result =>
          have plain : decide (none = some partialKind) = false := rfl
          simp only [plain]
          cases ho : validatedResult profile result false with
          | ok output => rfl
          | error e =>
            have same := (validatedResult_error ho).1
            rw [same]
            rfl
      | failed =>
        obtain ⟨failureClass, brokerCode, _, _, error⟩ := named
        simp only [error]
        rfl
      | cancelled => rfl
      | expired => rfl

/-- The poll of an attempt is a reconciliation that turns every other exception
into an indeterminate task. -/
theorem pollTask_eq (profile : BrokerRequestProfile) (task key : String)
    (operationKind : Option String) (outcome : HttpOutcome) :
    pollTask profile task key operationKind outcome =
      match reconcile profile task (some key) operationKind outcome with
      | .ok result => .ok result
      | .error (.broker e) => .error e
      | .error .other => .error (brokerError "broker_task_indeterminate" (some task) (some key)) := by
  simp only [pollTask, reconcile, pollResult, reconcileResult]
  cases getResult task (some key) outcome with
  | error raised => cases raised <;> rfl
  | ok result =>
    cases result with
    | none => rfl
    | some result =>
      simp only
      cases validatedResult profile result (operationKind = some partialKind) <;> rfl

theorem pollTask_reading (profile : BrokerRequestProfile) (task key : String) (r : Response) :
    pollTask profile task key none (.response r)
      = (r.reading profile).answer (some task) (some key) := by
  rw [pollTask_eq, reconcile_reading]
  cases r.reading profile <;> rfl

end calls

/-! What each side leaves the stage as. -/

section sides

variable {platform : Platform} {lost : StageWorld → Prop} {w : StageWorld} {rest : List Reply}

@[simp] theorem disposition_commit (s : StageSession) :
    (s.commit platform).disposition = s.disposition := by
  obtain ⟨plan, stage⟩ := Instance.written_eq_set planColumn platform.flushRule s.stage
  obtain ⟨_, video⟩ := Instance.written_eq_set (Column.none Video) platform.flushRule s.video
  change (s.stage.written planColumn platform.flushRule).disposition
    (s.video.written (Column.none Video) platform.flushRule).summary = _
  rw [stage, video]
  rfl

theorem applyOutcomeRow_leaves {outcome : SummaryFailureOutcome}
    (decided : outcome.disposition ≠ .retry) (attemptedAt : Time) (task : Option String)
    (confirmed : Bool) (summary : Option Text) (r : PipelineStage) :
    (applyOutcomeRow outcome attemptedAt task confirmed r).disposition summary
      = outcome.disposition.leaves := by
  unfold applyOutcomeRow
  cases hd : outcome.disposition with
  | retry => exact absurd hd decided
  | terminal => rfl
  | quarantine => rfl

theorem wp_commit_leaves {α : Type} {a : α} {d : Disposition} {u : StageWorld}
    (commits : u.replies = .committed :: rest) (row : u.state.disposition = d) :
    wp (commit platform) (fun _ => wp (pure a) (fun _ v => v.state.disposition = d) lost) lost u := by
  rw [wp_commit_cons commits, wp_pure]
  exact (disposition_commit u.state).trans row

theorem wp_applyOutcome_leaves {outcome : SummaryFailureOutcome} {attemptedAt : Time}
    {task : Option String} {confirmed : Bool}
    (holds : w.state.stage.flushed.brokerTaskId = task) (commits : w.replies = .committed :: rest)
    (decided : outcome.disposition ≠ .retry) :
    wp (applyOutcome platform outcome attemptedAt task confirmed)
      (fun _ u => u.state.disposition = outcome.disposition.leaves) lost w := by
  have leaves (s : StageSession) :
      wp (do
        setStage (applyOutcomeRow outcome attemptedAt task confirmed)
        Proc.when (outcome.disposition = .terminal) (assignPlan none)
        flush platform
        commit platform
        return outcome.submission)
        (fun _ u => u.state.disposition = outcome.disposition.leaves) lost { w with state := s } := by
    have row := applyOutcomeRow_leaves decided attemptedAt task confirmed
      s.video.current.summary s.stage.current
    simp only [wp_bind, wp_setStage, wp_when]
    split
    · simp only [wp_assignPlan, wp_flush]
      exact wp_commit_leaves commits row
    · simp only [wp_flush]
      exact wp_commit_leaves commits row
  simp only [applyOutcome, wp_bind, wp_when]
  split
  · simp only [wp_populateExisting, wp_stageRow]
    rw [if_neg fun h => h.2 holds]
    exact leaves _
  · next plain =>
    rw [wp_stageRow, if_neg fun h => plain h.1]
    exact leaves w.state

/-- What the policy makes of an error of a poll. -/
def pollOutcome (e : BrokerError) (attemptedAt : Time) (r : PipelineStage) :
    SummaryFailureOutcome :=
  if e.code = "broker_protocol_error" then protocolQuarantine
  else classifySummaryFailure .broker (orElse (firstOf e.brokerCode (some e.code))
    "broker_protocol_error") r.attemptCount r.maxAttempts attemptedAt e.failureClass

/-- `_classify` of an error of a poll. -/
theorem classify_polled {task : String} (named : task ≠ "") (e : BrokerError) (attemptedAt : Time)
    (key : Option String) : classify platform (.broker e) attemptedAt key (some task) = (do
      setStage (keepCorrelation (some task) (firstOf key e.idempotencyKey))
      let r ← stageRow
      applyOutcome platform (pollOutcome e attemptedAt r) attemptedAt (some task)
        (e.code = "broker_task_failed")) := by
  have kept : firstOf (some task) e.taskId = some task := by simp [firstOf, named]
  have outcome (r : PipelineStage) :
      (if (some task).getD "" ≠ "" ∧ (Raised.broker e).code = some "broker_protocol_error" then
          protocolQuarantine
        else classifySummaryFailure .broker
          (orElse (firstOf (Raised.broker e).brokerCode (Raised.broker e).code)
            "broker_protocol_error") r.attemptCount r.maxAttempts attemptedAt
          (Raised.broker e).failureClass)
        = pollOutcome e attemptedAt r := by
    simp [pollOutcome, named, Raised.code, Raised.brokerCode, Raised.failureClass]
  simp only [classify, Raised.taskId, kept, outcome]
  simp only [Raised.code, Option.some.injEq, Raised.idempotencyKey]

theorem wp_classify_leaves {e : BrokerError} {attemptedAt : Time} {task : String}
    {key : Option String} (named : task ≠ "")
    (holds : w.state.stage.flushed.brokerTaskId = some task)
    (commits : w.replies = .committed :: rest)
    (decided : (pollOutcome e attemptedAt w.state.stage.current).disposition ≠ .retry) :
    wp (classify platform (.broker e) attemptedAt key (some task)) (fun _ u =>
      u.state.disposition = (pollOutcome e attemptedAt w.state.stage.current).disposition.leaves)
      lost w := by
  rw [classify_polled named, wp_bind, wp_setStage, wp_bind, wp_stageRow]
  exact wp_applyOutcome_leaves holds commits decided

/-- A class that may not be submitted anew is given up where the policy knows it, or
the code that comes with it. -/
theorem classify_classed {failureClass code : String} (unsent : failureClass ∉ safeTerminalClasses)
    (attempts maxAttempts : Int) (now : Time) :
    (classifySummaryFailure .broker code attempts maxAttempts now (some failureClass)).disposition
      = if failureClass ≠ "indeterminate"
          ∧ (failureClass ∈ rejectedClasses ∨ code ∈ brokerTerminalCodes) then .terminal
        else .quarantine := by
  by_cases lost : failureClass = "indeterminate"
  · simp [classifySummaryFailure, lost]
  · by_cases known : failureClass ∈ rejectedClasses ∨ code ∈ brokerTerminalCodes
    · simp [classifySummaryFailure, lost, unsent, known]
    · simp [classifySummaryFailure, lost, unsent, known]

/-- The policy knows every error a settled reading ends in. -/
theorem pollOutcome_leaves {reading : Reading} (settled : reading.Settled) (sound : reading.Sound)
    {task key : Option String} {e : BrokerError} (h : reading.answer task key = .error e)
    (attemptedAt : Time) (r : PipelineStage) :
    (pollOutcome e attemptedAt r).disposition ≠ .retry
      ∧ (pollOutcome e attemptedAt r).disposition.leaves = reading.polled := by
  have rejected {code : String} (hc : code ∈ Reading.rejections) {task key : Option String} :
      (pollOutcome (brokerError code task key) attemptedAt r).disposition = .terminal := by
    simp only [Reading.rejections, List.mem_cons, List.not_mem_nil, or_false] at hc
    rcases hc with rfl | rfl | rfl | rfl <;> rfl
  cases reading with
  | pending => exact settled.elim
  | summary => cases h
  | refused code =>
    cases h
    rw [rejected sound]
    exact ⟨fun h => (by cases h), rfl⟩
  | garbled =>
    cases h
    exact ⟨fun h => (by cases h), rfl⟩
  | unreadable =>
    cases h
    exact ⟨fun h => (by cases h), rfl⟩
  | unusable code =>
    cases h
    rw [rejected sound]
    exact ⟨fun h => (by cases h), rfl⟩
  | ended code failureClass brokerCode =>
    cases h
    obtain ⟨plain, hc, hb⟩ := sound
    have named : orElse (firstOf (some brokerCode) (some code)) "broker_protocol_error"
        = brokerCode := by simp [firstOf, orElse, hb]
    have unsent : failureClass ∉ safeTerminalClasses := settled
    simp only [pollOutcome, if_neg plain, named, Reading.polled, classify_classed unsent]
    split
    · exact ⟨fun h => (by cases h), rfl⟩
    · exact ⟨fun h => (by cases h), rfl⟩

/-- The submission of the whole transcript. -/
def singleShot (service : BrokerService) (transcript : Text) : Submission where
  operation := trafficOperation service transcript
  planned := false
  finalizeStage := true
  onCompleted := fun _ => pure ()
  deadline := none
  timeoutSeconds := service.timeoutSeconds

/-- The coordinator is about to poll the task its stage holds: it reads `r` in time
and commits what it makes of it. -/
structure Polls (accepted : AcceptedTask) (deadline : Rat) (r : Response) (w : StageWorld) :
    Prop where
  named : accepted.taskId ≠ ""
  holds : w.state.stage.flushed.brokerTaskId = some accepted.taskId
  answers : ∃ start sent rest, 0 < deadline - start ∧ 0 < deadline - sent
    ∧ w.replies = .clock start :: .clock sent :: .http (.response r) :: .committed :: rest

/-- The reconciliation finds the stage quarantined and eligible, without a plan, and
reads `r` for its task. -/
structure Reads (task : String) (r : Response) (w : StageWorld) : Prop where
  holds : w.state.stage.current.brokerTaskId = some task
  single : w.state.stage.current.brokerChunkPlan = none
  going : w.state.stage.current.status.isOpen
  quarantined : w.state.stage.current.quarantinedAt.isSome = true
  answers : ∃ now noted rest, reconcilable now w.state.stage.flushed
    ∧ w.replies = .now now :: .http (.response r) :: .now noted :: rest

theorem answer_ok {reading : Reading} (settled : reading.Settled) {task key : Option String}
    {output : Option Text} (h : reading.answer task key = .ok output) :
    ∃ summary, output = some summary ∧ reading = .summary summary := by
  cases reading with
  | pending => exact settled.elim
  | summary output =>
    cases h
    exact ⟨output, rfl, rfl⟩
  | _ => cases h

/-- A completed stage stands with its summary. -/
theorem wp_complete_leaves {summary : Text} (commits : w.replies = .committed :: rest) :
    wp (complete platform summary true fun _ => pure ())
      (fun _ u => u.state.disposition = .completed (some summary)) lost w := by
  simp only [complete, Proc.when, if_true, wp_bind, wp_pure, wp_setVideo, wp_setStage, wp_flush]
  exact wp_commit_leaves commits rfl

/-- A round that reads a settled answer ends the loop. -/
theorem wp_pollRound_leaves {service : BrokerService} {transcript : Text} {attemptedAt : Time}
    {deadline : Rat} {accepted : AcceptedTask} {key : String} {r : Response}
    (polls : Polls accepted deadline r w) (settled : (r.reading service.profile).Settled) :
    wp (pollRound platform service (singleShot service transcript) attemptedAt deadline accepted key)
      (fun _ u => u.state.disposition = (r.reading service.profile).polled) lost w := by
  obtain ⟨start, sent, rest, early, timely, answers⟩ := polls.answers
  simp only [pollRound, wp_bind]
  rw [wp_clock_cons answers, if_neg (Rat.not_le.mpr early), wp_bind, wp_sleep, wp_bind]
  rw [wp_clock_cons rfl, if_neg (Rat.not_le.mpr timely), wp_bind]
  rw [wp_request_cons rfl]
  have plain : (singleShot service transcript).polledKind = none := rfl
  rw [plain, pollTask_reading]
  have sound := reading_sound service.profile r
  cases answer : (r.reading service.profile).answer (some accepted.taskId)
      (some (orElse (some accepted.idempotencyKey) key)) with
  | error e =>
    have decided := pollOutcome_leaves settled sound answer attemptedAt w.state.stage.current
    rw [wp_bind, ← decided.2]
    exact wp_classify_leaves polls.named polls.holds rfl decided.1
  | ok output =>
    obtain ⟨summary, rfl, reading⟩ := answer_ok settled answer
    rw [wp_bind, reading]
    exact wp_complete_leaves rfl

theorem disposition_quarantined {r : PipelineStage} (going : r.status.isOpen)
    (held : r.quarantinedAt.isSome = true) (summary : Option Text) :
    r.disposition summary = .quarantined := by
  unfold PipelineStage.disposition
  rcases going with status | status
  · simp only [status, held, if_true]
  · simp only [status, held, if_true]

/-- Whatever the reconciliation raises, by its class. -/
def raisedLeaves (exc : Raised) : Disposition :=
  if orElse exc.failureClass "indeterminate" = "indeterminate" then .quarantined else .failed

/-- An error of a reading leaves what its class says. -/
theorem raisedLeaves_answer {reading : Reading} (sound : reading.Sound) {task key : Option String}
    {e : BrokerError} (h : reading.answer task key = .error e) :
    raisedLeaves (.broker e) = reading.reconciled := by
  cases reading with
  | pending => cases h
  | summary => cases h
  | ended code failureClass brokerCode =>
    cases h
    have named : orElse (some failureClass) "indeterminate" = failureClass := if_neg sound.2.1
    simp only [raisedLeaves, Raised.failureClass, named, Reading.reconciled]
  | _ =>
    cases h
    rfl

/-- The turn of a row in the reconciliation that reads a settled answer. -/
theorem wp_reconcileRow_leaves {service : BrokerService} {r : Response} {task : String} {noted : Time}
    (holds : w.state.stage.current.brokerTaskId = some task)
    (single : w.state.stage.current.brokerChunkPlan = none)
    (going : w.state.stage.current.status.isOpen)
    (held : w.state.stage.current.quarantinedAt.isSome = true)
    (settled : (r.reading service.profile).Settled)
    (answers : w.replies = .http (.response r) :: .now noted :: rest) :
    wp (reconcileRow platform service)
      (fun _ u => u.state.disposition = (r.reading service.profile).reconciled) lost w := by
  have sound := reading_sound service.profile r
  have raised (exc : Raised) {u : StageWorld} (stage : u.state = w.state)
      (clock : u.replies = .now noted :: rest) :
      wp (if orElse exc.failureClass "indeterminate" = "indeterminate" then do
          let now ← utcNow
          setStage (stillIndeterminateRow exc now)
        else do
          setStage (reconcileFailedRow exc)
          assignPlan none) (fun _ u => u.state.disposition = raisedLeaves exc) lost u := by
    unfold raisedLeaves
    split
    · rw [wp_bind, wp_utcNow_cons clock, wp_setStage]
      exact disposition_quarantined (stage ▸ going) (stage ▸ held) _
    · rw [wp_bind, wp_setStage, wp_assignPlan]
      rfl
  simp only [reconcileRow, wp_bind]
  rw [wp_planObject, wp_stageRow, wp_videoRow]
  simp only [single, reconcileStep, Option.map_none, wp_bind]
  rw [wp_request_cons answers, holds, Option.getD_some, reconcile_reading]
  cases reading : r.reading service.profile with
  | pending => exact (reading ▸ settled : Reading.Settled .pending).elim
  | summary output => rfl
  | unreadable => exact raised .other rfl rfl
  | refused code => exact raised (.broker _) rfl rfl
  | garbled => exact raised (.broker _) rfl rfl
  | unusable code => exact raised (.broker _) rfl rfl
  | ended code failureClass brokerCode =>
    rw [reading] at sound
    rw [← raisedLeaves_answer sound rfl]
    exact raised (.broker _) rfl rfl

/-- `reconcile_quarantined_summaries`, for a stage it finds. -/
theorem wp_reconcileStage_leaves {service : BrokerService} {r : Response} {task : String}
    (reads : Reads task r w) (settled : (r.reading service.profile).Settled) :
    wp (reconcileStage platform service)
      (fun _ u => u.state.disposition = (r.reading service.profile).reconciled) lost w := by
  obtain ⟨now, noted, rest, due, answers⟩ := reads.answers
  unfold reconcileStage
  rw [wp_bind, wp_utcNow_cons answers, wp_bind, wp_read, wp_bind, wp_when, if_pos due]
  exact wp_reconcileRow_leaves reads.holds reads.single reads.going reads.quarantined settled rfl

end sides

/-- Polling and reconciliation leave a stage as the same just for the answers that are
agreed on. -/
theorem results_agree_iff (platform : Platform) (service : BrokerService) (transcript : Text)
    (attemptedAt : Time) (deadline : Rat) (accepted : AcceptedTask) (key : String) (r : Response)
    (w v : StageWorld) (polls : Polls accepted deadline r w) (reads : Reads accepted.taskId r v)
    (settled : (r.reading service.profile).Settled) :
    ((pollRound platform service (singleShot service transcript) attemptedAt deadline accepted
        key).run w).2.state.disposition
        = ((reconcileStage platform service).run v).2.state.disposition
      ↔ (r.reading service.profile).Agreed := by
  have polled := run_of_wp (p := pollRound platform service (singleShot service transcript)
    attemptedAt deadline accepted key) (wp_pollRound_leaves polls settled)
  have read := run_of_wp (p := reconcileStage platform service) (wp_reconcileStage_leaves reads settled)
  rw [polled, read]
  exact Reading.polled_eq_reconciled_iff settled

namespace Sample

def cancelled : Response := ⟨200, none, some (.obj [("status", .str "cancelled")])⟩

def rejected : Response := ⟨200, none, some (.obj [("status", .str "failed"), ("error", .obj
  [("class", .str "policy_rejected"), ("code", .str "busy"), ("message", .str "busy")])])⟩

def accepted : AcceptedTask := ⟨"t", "k"⟩

/-- The stage of an attempt whose task was accepted, about to be polled. -/
def polling (r : Response) : StageWorld :=
  { openSession { stage with
      attemptCount := 1
      reconciliationStatus := some .submissionAccepted
      brokerTaskId := some "t"
      brokerIdempotencyKey := some "k" } video with
    replies := [.clock 0, .clock 1, .http (.response r), .committed] }

/-- The same stage, quarantined and made eligible. -/
def eligible : PipelineStage :=
  { stage with
    attemptCount := 1
    status := .pendingRetry
    quarantinedAt := some 0
    reconciliationStatus := some .getEligible
    brokerTaskId := some "t"
    brokerIdempotencyKey := some "k" }

def reconciling (r : Response) : StageWorld :=
  { openSession eligible video with
    replies := [.now 1, .http (.response r), .now 1] }

theorem polls (r : Response) : Polls accepted 300 r (polling r) :=
  ⟨by decide, rfl, 0, 1, [], by decide +kernel, by decide +kernel, rfl⟩

theorem reads (r : Response) : Reads accepted.taskId r (reconciling r) :=
  ⟨rfl, rfl, .inr rfl, rfl, 1, 1, [], (by decide : reconcilable 1 eligible), rfl⟩

end Sample

theorem results_agree_rejected :
    ((pollRound (Sample.platform .assigned) Sample.service (singleShot Sample.service []) 0 300
        Sample.accepted "k").run (Sample.polling Sample.rejected)).2.state.disposition
      = ((reconcileStage (Sample.platform .assigned) Sample.service).run
          (Sample.reconciling Sample.rejected)).2.state.disposition :=
  (results_agree_iff _ _ _ _ _ _ _ _ _ _ (Sample.polls _) (Sample.reads _)
    (by decide +kernel)).mpr (by decide +kernel)

/-- The attempt keeps a cancelled task for the operator, the reconciliation gives it up. -/
theorem cancelled_disagrees :
    (Sample.cancelled.reading Sample.service.profile).Settled
      ∧ Polls Sample.accepted 300 Sample.cancelled (Sample.polling Sample.cancelled)
      ∧ Reads Sample.accepted.taskId Sample.cancelled (Sample.reconciling Sample.cancelled)
      ∧ ((pollRound (Sample.platform .assigned) Sample.service (singleShot Sample.service []) 0 300
          Sample.accepted "k").run (Sample.polling Sample.cancelled)).2.state.disposition
        ≠ ((reconcileStage (Sample.platform .assigned) Sample.service).run
            (Sample.reconciling Sample.cancelled)).2.state.disposition := by
  exact ⟨by decide +kernel, Sample.polls _, Sample.reads _, by decide +kernel⟩

end YTPipe
