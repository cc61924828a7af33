import YTPipe.Columns

/-!
# Broker facts in the columns of a stage

In every run, what the broker answers fits the columns it is written to, as long
as no failed result tells a class or a code that is too long for them.
-/

namespace YTPipe

open Broker Proc

/-- The rows of a session. -/
structure StageSession.Fits (s : StageSession) : Prop where
  current : YTPipe.Fits s.stage.current
  flushed : YTPipe.Fits s.stage.flushed
  durable : YTPipe.Fits s.stage.durable

/-- Every result that was read has facts that fit. -/
def Heard (l : List Event) : Prop :=
  ∀ g, Event.get g ∈ l → ∀ outcome, g.outcome = some outcome → OutcomeFactsFit outcome

/-- The rows fit, as far as what was read does. -/
def Kept (w : StageWorld) : Prop := Heard w.trace → w.state.Fits

/-- The rows fit, and nothing was done since the trace was `l`. -/
def Pinned (l : List Event) (w : StageWorld) : Prop := w.trace = l ∧ Kept w

/-- What this event reads. -/
def Event.heard : Event → Option HttpOutcome
  | .get g => g.outcome
  | _ => none

theorem heard_iff {l : List Event} :
    Heard l ↔ ∀ e ∈ l, ∀ outcome ∈ e.heard, OutcomeFactsFit outcome := by
  constructor
  · intro heard e he outcome told
    cases e with
    | get g => exact heard g he outcome told
    | _ => cases told
  · exact fun heard g hg outcome told => heard _ hg outcome told

instance (l : List Event) : Decidable (Heard l) := decidable_of_iff' _ heard_iff

section session

variable {platform : Platform} {s : StageSession} {l : List Event}

theorem written_fits (h : s.Fits) : Fits (s.stage.written planColumn platform.flushRule) := by
  obtain ⟨d, hd⟩ := Instance.written_eq_set planColumn platform.flushRule s.stage
  rw [hd]
  exact h.current.of_same rfl rfl rfl rfl

theorem StageSession.Fits.flush (h : s.Fits) : (s.flush platform).Fits :=
  ⟨h.current, written_fits h, h.durable⟩

theorem StageSession.Fits.commit (h : s.Fits) : (s.commit platform).Fits :=
  ⟨written_fits h, written_fits h, written_fits h⟩

theorem StageSession.Fits.rollback (h : s.Fits) : s.rollback.Fits :=
  ⟨h.durable, h.durable, h.durable⟩

theorem kept_of_pinned {α : Type} {p : StageProc α} (h : ∀ l, Keeps (Pinned l) p) : Keeps Kept p :=
  fun w kept => wp_mono (h w.trace w ⟨rfl, kept⟩) (fun _ _ pinned => pinned.2) fun _ pinned => pinned.2

/-- What only takes an answer. -/
theorem pinned_ask {β : Type} {view : Reply → Option β} : Keeps (Pinned l) (ask view) :=
  fun _ pinned => wp_ask view pinned fun _ _ => pinned

theorem pinned_edit {f : StageSession → StageSession} (h : Heard l → ∀ s, s.Fits → (f s).Fits) :
    Keeps (Pinned l) (Proc.modify f) :=
  fun _ pinned => ⟨pinned.1, fun heard => h (pinned.1 ▸ heard) _ (pinned.2 heard)⟩

theorem pinned_setStage {f : PipelineStage → PipelineStage} (h : Heard l → ∀ r, Fits r → Fits (f r)) :
    Keeps (Pinned l) (setStage f) :=
  pinned_edit fun heard _ fits => ⟨h heard _ fits.current, fits.flushed, fits.durable⟩

theorem pinned_assignPlan (plan : Option ChunkPlan) : Keeps (Pinned l) (assignPlan plan) :=
  pinned_edit fun _ _ fits => ⟨fits.current.of_same rfl rfl rfl rfl, fits.flushed, fits.durable⟩

theorem pinned_assignMutatedPlan (object : Nat) (plan : Option ChunkPlan) :
    Keeps (Pinned l) (assignMutatedPlan object plan) :=
  pinned_edit fun _ _ fits => ⟨fits.current.of_same rfl rfl rfl rfl, fits.flushed, fits.durable⟩

theorem pinned_setVideo (f : Video → Video) : Keeps (Pinned l) (setVideo f) :=
  pinned_edit fun _ _ fits => ⟨fits.current, fits.flushed, fits.durable⟩

theorem pinned_populateExisting : Keeps (Pinned l) populateExisting :=
  pinned_edit fun _ _ fits => ⟨fits.flushed, fits.flushed, fits.durable⟩

theorem pinned_setRecoveryTarget (target : Option String) :
    Keeps (Pinned l) (setRecoveryTarget target) :=
  pinned_edit fun _ _ fits => ⟨fits.current, fits.flushed, fits.durable⟩

theorem pinned_flush : Keeps (Pinned l) (flush platform) := pinned_edit fun _ _ fits => fits.flush

theorem pinned_commit : Keeps (Pinned l) (commit platform) := by
  apply Keeps.bind pinned_ask
  intro _
  exact pinned_edit fun _ _ fits => fits.commit

theorem pinned_save : Keeps (Pinned l) (do flush platform; commit platform) :=
  pinned_flush.bind fun _ => pinned_commit

theorem pinned_read : Keeps (Pinned l) (Proc.read : StageProc StageSession) := fun _ pinned => pinned

theorem pinned_stageRow : Keeps (Pinned l) stageRow := fun _ pinned => pinned

theorem pinned_videoRow : Keeps (Pinned l) videoRow := fun _ pinned => pinned

theorem pinned_planObject : Keeps (Pinned l) planObject := fun _ pinned => pinned

theorem pinned_syncFlush : Keeps (Pinned l) (syncFlush platform) := by
  apply Keeps.bind pinned_ask
  intro flushed
  exact Keeps.ite (fun _ => pinned_flush) fun _ => Keeps.pure ()

end session

section submission

variable {platform : Platform} {service : BrokerService} {l : List Event} {attemptedAt : Time}

theorem pinned_applyOutcome {outcome : SummaryFailureOutcome} (fits : Heard l → OutcomeFits outcome)
    (task : Option String) (confirmed : Bool) :
    Keeps (Pinned l) (applyOutcome platform outcome attemptedAt task confirmed) := by
  apply (Keeps.when fun _ => pinned_populateExisting).bind
  intro _
  apply pinned_stageRow.bind
  intro r
  apply Keeps.ite
  · exact fun _ => Keeps.pure _
  · intro _
    apply (pinned_setStage fun heard _ h => applyOutcomeRow_fits (fits heard) task confirmed h).bind
    intro _
    apply (Keeps.when fun _ => pinned_assignPlan none).bind
    intro _
    exact pinned_flush.bind fun _ => pinned_commit.bind fun _ => Keeps.pure _

theorem pinned_quarantine {code : String} {cls : Option String} (short : code.length ≤ 100)
    (class_ : Within 50 cls) (key task : Option String) :
    Keeps (Pinned l) (quarantine platform attemptedAt code cls key task) := by
  apply (pinned_setStage fun _ _ h => keepCorrelation_fits task key h).bind
  intro _
  apply pinned_stageRow.bind
  intro r
  exact pinned_applyOutcome (fun _ => classify_fits class_ short) task false

theorem pinned_classify {exc : Raised} (fits : Heard l → ErrorFits exc) (key task : Option String) :
    Keeps (Pinned l) (classify platform exc attemptedAt key task) := by
  apply (pinned_setStage fun _ _ h => keepCorrelation_fits _ _ h).bind
  intro _
  apply pinned_stageRow.bind
  intro r
  apply pinned_applyOutcome
  intro heard
  split
  · exact protocolQuarantine_fits
  · exact classify_fits (fits heard).failureClass (exc_code_fits (fits heard) (by decide))

theorem pinned_saveCompleted (object : Nat) (plan : ChunkPlan) (next : Int) (output : Text) :
    Keeps (Pinned l) (saveCompleted object plan next output) := by
  apply Keeps.bind (pinned_setStage fun _ r h => ?_)
  · intro _
    exact Keeps.ite (fun _ => pinned_assignPlan none) fun _ => pinned_assignMutatedPlan _ _
  · exact h.of_same rfl rfl rfl rfl

theorem pinned_complete {summary : Text} {finalize : Bool} {onCompleted : Text → StageProc Unit}
    (saves : ∀ output, Keeps (Pinned l) (onCompleted output)) :
    Keeps (Pinned l) (complete platform summary finalize onCompleted) := by
  apply (saves summary).bind
  intro _
  apply (Keeps.when fun _ => pinned_setVideo _).bind
  intro _
  apply (pinned_setStage fun _ _ h => completeRow_fits finalize h).bind
  intro _
  exact pinned_flush.bind fun _ => pinned_commit.bind fun _ => Keeps.pure _

theorem kept_request (record : StageSession → Option HttpOutcome → Event) :
    Keeps Kept (request record) := by
  intro w kept
  have noted (outcome : Option HttpOutcome) (heard : Heard (record w.state outcome :: w.trace)) :
      w.state.Fits := kept fun g hg => heard g (List.mem_cons_of_mem _ hg)
  exact wp_request record (noted none) fun outcome _ => noted (some outcome)

theorem kept_clock : Keeps Kept clock := kept_of_pinned fun _ => pinned_ask

/-- A result that is read counts from then on. -/
theorem kept_request_get {α : Type} {get : StageSession → Option HttpOutcome → Get}
    {f : HttpOutcome → StageProc α} (told : ∀ s outcome, (get s outcome).outcome = outcome)
    (rest : ∀ outcome l, (Heard l → OutcomeFactsFit outcome) → Keeps (Pinned l) (f outcome)) :
    Keeps Kept (request (fun s outcome => .get (get s outcome)) >>= f) := by
  intro w kept
  have noted (outcome : Option HttpOutcome) (heard : Heard (.get (get w.state outcome) :: w.trace)) :
      w.state.Fits := kept fun g hg => heard g (List.mem_cons_of_mem _ hg)
  rw [wp_bind]
  apply wp_request _ (noted none)
  intro outcome answers
  have fits (heard : Heard (.get (get w.state (some outcome)) :: w.trace)) :
      OutcomeFactsFit outcome := heard _ List.mem_cons_self outcome (told _ _)
  exact wp_mono (rest outcome _ fits _ ⟨rfl, noted (some outcome)⟩)
    (fun _ _ pinned => pinned.2) fun _ pinned => pinned.2

theorem kept_loop {α : Type} {body : StageProc (Option α)} (round : Keeps Kept body) :
    Keeps Kept (loop body) := by
  intro w kept
  apply wp_loop Kept
  · intro v hv
    exact wp_mono (round v hv) (fun o u hu => by cases o <;> exact hu) fun _ hu => hu
  · exact fun _ hv => hv
  · exact kept

variable {submission : Submission} {context : SummaryGatewayContext}

theorem kept_pollRound {deadline : Rat} {accepted : AcceptedTask} {key : String}
    (saves : ∀ l output, Keeps (Pinned l) (submission.onCompleted output)) :
    Keeps Kept (pollRound platform service submission attemptedAt deadline accepted key) := by
  have expire : Keeps Kept (do
      return some (← quarantine platform attemptedAt "broker_timeout" (some "indeterminate")
        (some (orElse (some accepted.idempotencyKey) key)) (some accepted.taskId))) :=
    kept_of_pinned fun l => (pinned_quarantine (by decide) (within_some (by decide)) _ _).bind
      fun _ => Keeps.pure _
  apply kept_clock.bind
  intro now
  apply Keeps.ite
  · exact fun _ => expire
  · intro _
    have slept (d : Rat) : Keeps Kept (sleep d) :=
      fun w kept heard => kept fun g hg => heard g (List.mem_cons_of_mem _ hg)
    apply (slept _).bind
    intro _
    apply kept_clock.bind
    intro later
    apply Keeps.ite
    · exact fun _ => expire
    · intro _
      apply kept_request_get fun _ _ => rfl
      intro outcome l fits
      split
      · next e he =>
        apply Keeps.bind _ fun _ => Keeps.pure _
        exact pinned_classify (fun heard => pollTask_fits (fits heard) e he) _ _
      · exact Keeps.pure _
      · exact (pinned_complete (saves l)).bind fun _ => Keeps.pure _

/-- A submission that keeps the rows and ends in errors that fit. -/
def Submits (p : StageProc (Except Raised AcceptedTask)) : Prop :=
  ∀ w, Kept w → wp p (fun result v => Kept v ∧ FailsWith ErrorFits result) Kept w

theorem Submits.fails {exc : Raised} (fits : ErrorFits exc) :
    Submits (pure (.error exc) : StageProc (Except Raised AcceptedTask)) :=
  fun _ kept => ⟨kept, failsWith_error fits⟩

theorem Submits.after {α : Type} {p : StageProc α} {f : α → StageProc (Except Raised AcceptedTask)}
    (first : Keeps Kept p) (rest : ∀ a, Submits (f a)) : Submits (p >>= f) := by
  intro w kept
  rw [wp_bind]
  exact wp_mono (first w kept) (fun a v hv => rest a v hv) fun _ hv => hv

theorem Submits.ite {c : Prop} [Decidable c] {p q : StageProc (Except Raised AcceptedTask)}
    (yes : c → Submits p) (no : ¬ c → Submits q) : Submits (if c then p else q) := by
  split
  · exact yes ‹_›
  · exact no ‹_›

theorem local_fits {code : String} (settled : code ∈ settledCodes)
    (unconfirmed : code ≠ "broker_task_failed") (task key : Option String) :
    ErrorFits (.broker (brokerError code task key)) :=
  unclassified_fits (unclassified_brokerError settled unconfirmed task key)

theorem postTask_submits (operation : SummaryOperation) (key : String) (timeout : Option Rat) :
    Submits (postTask platform service operation key timeout) := by
  apply Submits.after kept_clock
  intro start
  apply Submits.after kept_clock
  intro now
  apply Submits.ite
  · exact fun _ => .fails (local_fits (by decide) (by decide) _ _)
  · intro _
    apply Submits.after (kept_request _)
    intro outcome
    cases outcome with
    | httpError => exact .fails (local_fits (by decide) (by decide) _ _)
    | valueError => exact .fails (local_fits (by decide) (by decide) _ _)
    | otherError => exact .fails other_fits
    | response r =>
      apply Submits.after kept_clock
      intro later
      apply Submits.ite
      · exact fun _ => .fails (local_fits (by decide) (by decide) _ _)
      · exact fun _ w kept => ⟨kept, readAccepted_fits platform service.baseUrl key⟩

theorem submitTask_submits (operation : SummaryOperation) (timeout : Option Rat) :
    Submits (submitTask platform service context operation timeout) := by
  apply Submits.ite
  · exact fun _ => .fails (local_fits (by decide) (by decide) _ _)
  · intro _
    split
    · exact .fails other_fits
    · next key _ =>
      intro w kept
      rw [wp_bind]
      refine wp_mono (postTask_submits operation key timeout w kept) ?_ fun _ hv => hv
      rintro result v ⟨kept, fails⟩
      split
      · exact ⟨kept, failsWith_ok _⟩
      · next e => exact ⟨kept, failsWith_error (fails _ rfl)⟩
      · exact ⟨kept, failsWith_error (local_fits (by decide) (by decide) _ _)⟩

theorem trySubmit_submits : Submits (trySubmit platform service context submission) := by
  unfold trySubmit
  split
  · exact submitTask_submits _ _
  · apply Submits.after kept_clock
    intro now
    apply Submits.ite
    · exact fun _ => .fails ⟨within_some (by decide), within_none, within_some (by decide)⟩
    · exact fun _ => submitTask_submits _ _

theorem kept_pollDeadline : Keeps Kept (pollDeadline submission) := by
  unfold pollDeadline
  split
  · exact Keeps.pure _
  · exact kept_clock.bind fun _ => Keeps.pure _

theorem acceptRow_fits {accepted : AcceptedTask} {key : String} {r : PipelineStage} (h : Fits r) :
    Fits (acceptRow accepted key r) :=
  ⟨h.failureClass, h.failureCode, within_some (length_truncate _ _), within_some (length_truncate _ _)⟩

theorem prepareRow_fits {key : String} {r : PipelineStage} (h : Fits r) : Fits (prepareRow key r) :=
  ⟨h.failureClass, h.failureCode, h.brokerTaskId, within_some (length_truncate _ _)⟩

theorem kept_attempt (saves : ∀ l output, Keeps (Pinned l) (submission.onCompleted output)) :
    Keeps Kept (attempt platform service context submission attemptedAt) := by
  have held (key task : Option String) : Keeps Kept (quarantine platform attemptedAt "broker_timeout"
      (some "indeterminate") key task) :=
    kept_of_pinned fun _ => pinned_quarantine (by decide) (within_some (by decide)) key task
  have save : Keeps Kept (flush platform) ∧ Keeps Kept (commit platform) :=
    ⟨kept_of_pinned fun _ => pinned_flush, kept_of_pinned fun _ => pinned_commit⟩
  apply (kept_of_pinned fun _ => pinned_stageRow).bind
  intro r
  apply Keeps.ite
  · exact fun _ => held _ _
  intro _
  apply Keeps.ite
  · exact fun _ => held _ _
  intro _
  split
  · intro w kept heard
    exact kept fun g hg => heard g (List.mem_cons_of_mem _ hg)
  next key _ =>
  apply (kept_of_pinned fun _ => pinned_setStage fun _ _ h => prepareRow_fits h).bind
  intro _
  apply save.1.bind
  intro _
  apply save.2.bind
  intro _ w kept
  unfold submitPrepared
  rw [wp_bind]
  refine wp_mono (trySubmit_submits w kept) ?_ fun _ hv => hv
  rintro result v ⟨kept, fails⟩
  cases result with
  | error exc =>
    exact kept_of_pinned (fun _ => pinned_classify (fun _ => fails exc rfl) _ _) v kept
  | ok accepted =>
    have settle : Keeps Kept (setStage (acceptRow accepted key)) :=
      kept_of_pinned fun _ => pinned_setStage fun _ _ h => acceptRow_fits h
    refine Keeps.bind settle (fun _ => ?_) v kept
    apply save.1.bind
    intro _
    apply save.2.bind
    intro _
    apply kept_pollDeadline.bind
    intro deadline
    exact kept_loop (kept_pollRound saves)

end submission

section stage

variable {platform : Platform} {service : BrokerService} {context : SummaryGatewayContext}
  {attemptedAt : Time} {l : List Event}

theorem startAttempt_fits {r : PipelineStage} (h : Fits r) : Fits (startAttempt attemptedAt r) :=
  h.of_same rfl rfl rfl rfl

theorem kept_startAttempt : Keeps Kept (setStage (startAttempt attemptedAt)) :=
  kept_of_pinned fun _ => pinned_setStage fun _ _ h => startAttempt_fits h

theorem kept_setRecoveryTarget (target : Option String) : Keeps Kept (setRecoveryTarget target) :=
  kept_of_pinned fun _ => pinned_setRecoveryTarget target

theorem kept_syncFlush : Keeps Kept (syncFlush platform) := kept_of_pinned fun _ => pinned_syncFlush

theorem kept_recordLocalBrokerFailure {code : String} (short : code.length ≤ 100) :
    Keeps Kept (recordLocalBrokerFailure platform attemptedAt code) := by
  apply kept_of_pinned
  intro l
  apply (pinned_setStage fun _ _ _ => localFailureRow_fits short).bind
  intro _
  apply (pinned_assignPlan none).bind
  intro _
  exact pinned_save

theorem kept_raise {α : Type} (cause : Uncaught) : Keeps Kept (raise cause : StageProc α) :=
  fun _ kept heard => kept fun g hg => heard g (List.mem_cons_of_mem _ hg)

theorem kept_submitStep {deadline remaining : Rat} {object : Nat} {plan : ChunkPlan}
    {operation : SummaryOperation} :
    Keeps Kept (submitStep platform service context attemptedAt deadline remaining object plan
      operation) := by
  apply kept_startAttempt.bind
  intro _
  apply (kept_attempt fun _ output => pinned_saveCompleted object plan plan.nextStep output).bind
  intro outcome
  apply (kept_setRecoveryTarget _).bind
  intro _
  apply Keeps.ite
  · exact fun _ => Keeps.pure _
  · exact fun _ => Keeps.ite (fun _ => kept_syncFlush.bind fun _ => Keeps.pure _) fun _ => Keeps.pure _

theorem stepPrompt_error {plan : ChunkPlan} {step : PlanStep} {transcript : Text} {code : String}
    (h : stepPrompt plan step transcript = some (.error code)) : code.length ≤ 100 := by
  unfold stepPrompt at h
  split at h
  · split at h
    · cases h
      decide
    · cases h
  · simp only at h
    split at h
    · cases h
      decide
    · split at h
      · cases h
      · split at h
        · cases h
          decide
        · cases h

theorem kept_planRound {deadline : Rat} :
    Keeps Kept (planRound platform service context attemptedAt deadline) := by
  apply (kept_of_pinned fun _ => pinned_planObject).bind
  rintro ⟨object, plan⟩
  apply (kept_of_pinned fun _ => pinned_videoRow).bind
  intro video
  split
  · exact kept_raise _
  · dsimp only
    split
    · apply kept_clock.bind
      intro now
      apply Keeps.ite
      · exact fun _ => (kept_of_pinned fun _ => pinned_commit).bind fun _ => Keeps.pure _
      · intro _
        split
        · exact kept_raise _
        · next code h =>
          exact (kept_recordLocalBrokerFailure (stepPrompt_error h)).bind fun _ => Keeps.pure _
        · exact kept_submitStep
    · exact kept_raise _

theorem kept_runPlan {config : PipelineConfig} :
    Keeps Kept (runPlan platform config service context attemptedAt) := by
  apply kept_clock.bind
  intro now
  exact kept_loop kept_planRound

theorem kept_attemptSingleShot :
    Keeps Kept (attemptSingleShot platform service context attemptedAt) := by
  apply kept_startAttempt.bind
  intro _
  apply (kept_of_pinned fun _ => pinned_videoRow).bind
  intro video
  apply (kept_attempt fun _ _ => Keeps.pure ()).bind
  intro outcome
  apply (kept_setRecoveryTarget _).bind
  intro _
  exact Keeps.ite (fun _ => kept_syncFlush) fun _ => Keeps.pure ()

theorem kept_attemptBrokerSummaryStage {config : PipelineConfig} :
    Keeps Kept (attemptBrokerSummaryStage platform config service attemptedAt) := by
  apply (kept_of_pinned fun _ => pinned_stageRow).bind
  intro r
  apply Keeps.ite
  · exact fun _ => kept_attemptSingleShot
  intro _
  apply (kept_of_pinned fun _ => pinned_videoRow).bind
  intro video
  dsimp only
  split
  · split
    · exact kept_recordLocalBrokerFailure (by decide)
    · exact kept_runPlan
  · split
    · exact kept_recordLocalBrokerFailure (by decide)
    · exact kept_attemptSingleShot
    · apply (kept_of_pinned fun _ => pinned_assignPlan _).bind
      intro _
      apply (kept_of_pinned fun _ => pinned_flush).bind
      intro _
      apply (kept_of_pinned fun _ => pinned_commit).bind
      intro _
      exact kept_runPlan

/-- The codes of the direct gateway that wait to be answered fit. -/
def Short (replies : List Reply) : Prop :=
  ∀ code target, Reply.summarized (.raised (some code) target) ∈ replies → code.length ≤ 100

theorem Short.tail {r : Reply} {rest : List Reply} (h : Short (r :: rest)) : Short rest :=
  fun code target told => h code target (List.mem_cons_of_mem _ told)

/-- Where a session is that may still be answered by the direct gateway. -/
def Awaits (w : StageWorld) : Prop := Kept w ∧ Short w.replies

theorem awaits_utcNow : Keeps Awaits utcNow := by
  intro w ⟨kept, short⟩
  apply wp_ask_reply _ ⟨kept, short⟩
  intro now r rest replies _
  exact ⟨kept, (replies ▸ short : Short (r :: rest)).tail⟩

theorem directFailureRow_fits {code : Option String} {attempts maxAttempts : Int} {now : Time}
    {r : PipelineStage} (short : Within 100 code) (h : Fits r) :
    Fits (directFailureRow (classifySummaryFailure .direct (orElse code "direct_transport_error")
      attempts maxAttempts now none) r) := by
  have named := short.orElse (s := "direct_transport_error") (by decide)
  have fits : OutcomeFits (classifySummaryFailure .direct (orElse code "direct_transport_error")
      attempts maxAttempts now none) := by
    unfold classifySummaryFailure
    simp only [reduceCtorEq, if_false]
    have class_ : "transient".length ≤ 50 := by decide
    split
    · exact ⟨class_, named⟩
    · exact ⟨class_, named⟩
  exact (noteFailure_fits fits h).of_same rfl rfl rfl rfl

theorem kept_attemptDirectSummary {w : StageWorld} (h : Awaits w) :
    wp (attemptDirectSummary platform attemptedAt) (fun _ => Kept) Kept w := by
  obtain ⟨kept, short⟩ := h
  unfold attemptDirectSummary
  rw [wp_bind, wp_setStage, wp_bind, wp_emit, wp_bind]
  have asked : Kept (withState w
      { w.state with stage := w.state.stage.modify (startAttempt attemptedAt) }) :=
    kept_startAttempt w kept
  have noted {rest : List Reply} : Kept { withState w
      { w.state with stage := w.state.stage.modify (startAttempt attemptedAt) } with
        replies := rest
        trace := .summarize w.state.stage.durable (startAttempt attemptedAt w.state.stage.current)
          :: w.trace } :=
    fun heard => asked fun g hg => heard g (List.mem_cons_of_mem _ hg)
  apply wp_ask_reply _ noted
  intro outcome r rest replies view
  cases r with
  | summarized told =>
    cases view
    cases outcome with
    | raised code target =>
      have fits : Within 100 code := by
        intro c hc
        subst hc
        exact short c target (replies ▸ List.mem_cons_self)
      refine Keeps.bind (kept_of_pinned fun _ => pinned_stageRow) (fun r => ?_) _ noted
      apply (kept_of_pinned fun _ => pinned_setStage fun _ _ h => directFailureRow_fits fits h).bind
      intro _
      exact kept_setRecoveryTarget _
    | returned summary =>
      refine Keeps.ite (fun _ => ?_) (fun _ => ?_) _ noted
      · apply (kept_of_pinned fun _ => pinned_setVideo _).bind
        intro _
        apply Keeps.bind
        · exact kept_of_pinned fun _ => pinned_setStage fun _ _ h =>
            ⟨within_none, within_none, h.brokerTaskId, h.brokerIdempotencyKey⟩
        · exact fun _ => (kept_setRecoveryTarget _).bind fun _ => kept_syncFlush
      · exact kept_of_pinned fun _ => pinned_setStage fun _ _ h => h.of_same rfl rfl rfl rfl
  | clock => cases view
  | now => cases view
  | committed => cases view
  | http => cases view
  | syncFlush => cases view

theorem awaits_notYetDue (r : PipelineStage) : Keeps Awaits (notYetDue r) := by
  unfold notYetDue
  split
  · exact Keeps.pure _
  · exact awaits_utcNow.bind fun _ => Keeps.pure _

theorem kept_attemptSummaryStage {config : PipelineConfig} {w : StageWorld} (h : Awaits w) :
    wp (attemptSummaryStage platform config) (fun _ => Kept) Kept w := by
  unfold attemptSummaryStage
  rw [wp_bind, wp_stageRow]
  split
  · exact h.1
  rw [wp_bind]
  refine wp_mono (awaits_notYetDue _ w h) (fun early v h => ?_) fun _ h => h.1
  split
  · exact h.1
  rw [wp_bind, wp_videoRow]
  split
  · refine Keeps.bind (kept_of_pinned fun _ => ?_) (fun _ => Keeps.pure _) v h.1
    exact pinned_setStage fun _ _ h => h.of_same rfl rfl rfl rfl
  split
  · refine Keeps.bind (kept_of_pinned fun _ => ?_) (fun _ => Keeps.pure _) v h.1
    exact pinned_setStage fun _ _ h => ⟨within_some (by decide), within_some (by decide),
      h.brokerTaskId, h.brokerIdempotencyKey⟩
  · split
    · refine Keeps.bind (kept_of_pinned fun _ => ?_) (fun _ => Keeps.pure _) v h.1
      exact pinned_setStage fun _ _ h => ⟨within_some (by decide), within_some (by decide),
        h.brokerTaskId, h.brokerIdempotencyKey⟩
    · rw [wp_bind]
      refine wp_mono (awaits_utcNow v h) (fun attemptedAt u hu => ?_) fun _ h => h.1
      split
      · exact (kept_attemptBrokerSummaryStage.bind fun _ => Keeps.pure _) u hu.1
      · rw [wp_bind]
        exact wp_mono (kept_attemptDirectSummary hu) (fun _ _ h => h) fun _ h => h

theorem kept_reconcileRow : Keeps Kept (reconcileRow platform service) := by
  apply (kept_of_pinned fun _ => pinned_planObject).bind
  rintro ⟨object, plan⟩
  apply (kept_of_pinned fun _ => pinned_stageRow).bind
  intro r
  apply (kept_of_pinned fun _ => pinned_videoRow).bind
  intro video
  split
  · apply kept_of_pinned
    intro l
    apply Keeps.bind _ fun _ => pinned_assignPlan none
    exact pinned_setStage fun _ _ h => ⟨within_some (by decide), within_some (by decide),
      h.brokerTaskId, h.brokerIdempotencyKey⟩
  next planned _ =>
  apply kept_request_get fun _ _ => rfl
  intro outcome l fits
  split
  · next exc failed =>
    have told (heard : Heard l) : ErrorFits exc := reconcile_fits (fits heard) exc failed
    apply Keeps.ite
    · intro _
      apply pinned_ask.bind
      intro now
      exact pinned_setStage fun heard _ h => stillIndeterminateRow_fits (told heard) h
    · intro _
      apply Keeps.bind _ fun _ => pinned_assignPlan none
      exact pinned_setStage fun heard _ h => reconcileFailedRow_fits (told heard) h
  · apply pinned_ask.bind
    intro now
    exact pinned_setStage fun _ _ h => h.of_same rfl rfl rfl rfl
  · split
    · apply (pinned_assignMutatedPlan _ _).bind
      intro _
      exact pinned_setStage fun _ _ _ => ⟨within_none, within_none, within_none, within_none⟩
    · apply (pinned_setVideo _).bind
      intro _
      apply Keeps.bind _ fun _ => pinned_assignPlan none
      exact pinned_setStage fun _ _ h =>
        ⟨within_none, within_none, h.brokerTaskId, h.brokerIdempotencyKey⟩

theorem kept_reconcileStage : Keeps Kept (reconcileStage platform service) := by
  apply (kept_of_pinned fun _ => pinned_ask).bind
  intro now
  apply (kept_of_pinned fun _ => pinned_read).bind
  intro s
  exact (Keeps.when fun _ => kept_reconcileRow).bind fun _ => kept_of_pinned fun _ => pinned_flush

theorem kept_makeQuarantineGetEligible : Keeps Kept makeQuarantineGetEligible := by
  apply kept_of_pinned
  intro l
  apply pinned_stageRow.bind
  intro r
  apply Keeps.ite fun _ => Keeps.pure _
  intro _
  apply Keeps.ite fun _ => Keeps.pure _
  intro _
  apply pinned_ask.bind
  intro now
  apply Keeps.bind _ fun _ => Keeps.pure _
  exact pinned_setStage fun _ _ h => h.of_same rfl rfl rfl rfl

theorem kept_requestReconciliation {audit : String} :
    Keeps Kept (requestReconciliation platform audit) := by
  apply kept_makeQuarantineGetEligible.bind
  intro made
  apply Keeps.ite
  · intro _
    apply kept_of_pinned
    intro l
    apply Keeps.bind _ fun _ => pinned_save
    exact pinned_setStage fun _ _ h => h.of_same rfl rfl rfl rfl
  · exact fun _ => Keeps.pure ()

/-- Every operation. -/
theorem kept_op {op : StageOp} {w : StageWorld} (h : Kept w) (short : Short op.replies) :
    wp (op.proc platform) (fun _ => Kept) Kept { w with replies := op.replies } := by
  have start : Kept { w with replies := op.replies } := h
  cases op with
  | attempt config replies =>
    change wp (attemptSummaryStage platform config >>= fun _ => pure ()) _ _ _
    rw [wp_bind]
    exact wp_mono (kept_attemptSummaryStage ⟨start, short⟩) (fun _ _ h => h) fun _ h => h
  | reconcile service replies => exact kept_reconcileStage _ start
  | request audit replies => exact kept_requestReconciliation _ start
  | skip => exact kept_of_pinned (fun _ => pinned_setStage fun _ _ h => skipRow_fits h) _ start
  | commit replies => exact kept_of_pinned (fun _ => pinned_commit) _ start
  | rollback => exact kept_of_pinned (fun _ => pinned_edit fun _ _ h => h.rollback) _ start
  | reload =>
    refine kept_of_pinned (fun _ => ?_) _ start
    exact pinned_read.bind fun _ => Keeps.when fun _ => pinned_populateExisting
  | video v => exact kept_of_pinned (fun _ => pinned_setVideo _) _ start

theorem kept_perform {op : StageOp} {w : StageWorld} (h : Kept w) (short : Short op.replies) :
    Kept (perform platform op w) := by
  apply perform_of_wp
  apply wp_mono (kept_op h short) (fun _ _ kept => kept)
  intro v kept
  exact recover_lost kept fun heard => (kept heard).rollback

/-- Where the operations of a run come back or are lost. -/
theorem kept_runStage {ops : List StageOp} {w : StageWorld} (h : Kept w)
    (short : ∀ op ∈ ops, Short op.replies) : Kept (runStage platform ops w) :=
  runStage_induction platform (fun op mem _ kept => kept_perform kept (short op mem)) h

/-- A stored id or key is what it was before it was truncated. -/
theorem Within.unaltered {value : Option String} {s : String} (h : Within 128 value)
    (stored : value = some s) : truncate 128 s = s := by
  apply truncate_of_le
  exact h s stored

/-- The idempotency key is a digest. -/
theorem key_unaltered (sha : ∀ bytes, (platform.sha256 bytes).length = 64) {operation : SummaryOperation}
    {key : String} (h : brokerIdempotencyKey platform context operation = some key) :
    truncate 128 key = key := by
  obtain ⟨_, bytes, _, rfl⟩ := brokerIdempotencyKey_eq_some h
  apply truncate_of_le
  rw [sha bytes]
  decide

end stage

/-- In every run, wherever an operation comes back or is lost, everything the
stage holds of the broker fits its column, if every failed result that was read
tells a class and a code that do. No task id and no key is altered. -/
theorem broker_facts_fit {platform : Platform} (sha : ∀ bytes, (platform.sha256 bytes).length = 64)
    (ops : List StageOp) (op : StageOp) (w : StageWorld) (start : w.state.Fits)
    (direct : ∀ o ∈ op :: ops, Short o.replies) :
    let v := ((op.proc platform).run
      { runStage platform ops w with replies := op.replies }).2
    Heard v.trace → v.state.Fits ∧
      (∀ id, v.state.stage.current.brokerTaskId = some id → truncate 128 id = id) ∧
      (∀ key, v.state.stage.current.brokerIdempotencyKey = some key → truncate 128 key = key) ∧
      (∀ baseUrl key outcome task, createdTask platform baseUrl key outcome = some task →
        truncate 128 task = task) ∧
      ∀ context operation key, brokerIdempotencyKey platform context operation = some key →
        truncate 128 key = key := by
  intro v heard
  have before : Kept (runStage platform ops w) :=
    kept_runStage (fun _ => start) fun o mem => direct o (List.mem_cons_of_mem _ mem)
  have ended : Kept v := by
    have h : Proc.wp (op.proc platform) (fun _ => Kept) Kept
        { runStage platform ops w with replies := op.replies } :=
      kept_op before (direct op List.mem_cons_self)
    unfold Proc.wp at h
    split at h
    · next a u same =>
      have : v = u := congrArg Prod.snd same
      exact this ▸ h
    · next u same =>
      have : v = u := congrArg Prod.snd same
      exact this ▸ h
  have fits := ended heard
  refine ⟨fits, ?_, ?_, ?_, ?_⟩
  · exact fun _ stored => fits.current.brokerTaskId.unaltered stored
  · exact fun _ stored => fits.current.brokerIdempotencyKey.unaltered stored
  · exact fun _ _ _ _ created => (isTaskId_length (createdTask_isTaskId created)).2
  · exact fun _ _ _ named => key_unaltered sha named

/-- A quarantined stage, whose task is reconciled once. -/
def heldStage : PipelineStage :=
  { Sample.stage with
    status := .pendingRetry
    attemptCount := 1
    quarantinedAt := some 0
    reconciliationStatus := some .getEligible
    brokerTaskId := some "t" }

def reconcileFailed (cls : String) : StageOp :=
  .reconcile Sample.service [.now 0, Sample.failed cls]

def reconciledRun (cls : String) : StageWorld :=
  (((reconcileFailed cls).proc (Sample.platform .assigned)).run
    { openSession heldStage Sample.video with replies := (reconcileFailed cls).replies }).2

theorem broker_facts_fit_failed :
    (reconciledRun "backend_rejected").state.stage.flushed.failureClass = some "backend_rejected" ∧
      (reconciledRun "backend_rejected").state.Fits := by
  have row : Fits heldStage := ⟨within_none, within_none, within_some (by decide), within_none⟩
  have short : ∀ o ∈ [reconcileFailed "backend_rejected"], Short o.replies := by
    intro o mem code target told
    rw [List.mem_singleton] at mem
    subst mem
    simp [reconcileFailed, StageOp.replies, Sample.failed] at told
  have facts : (reconciledRun "backend_rejected").state.stage.flushed.failureClass
      = some "backend_rejected" ∧ Heard (reconciledRun "backend_rejected").trace := by
    decide +kernel
  have fits := broker_facts_fit Sample.sha256_length [] (reconcileFailed "backend_rejected")
    (openSession heldStage Sample.video) ⟨row, row, row⟩ short facts.2
  exact ⟨facts.1, fits.1⟩

/-- A class the broker's grammar allows. -/
def longClass : String := "rejected_by_the_backend_and_told_in_more_than_fifty_characters"

/-- It is written at its full length. -/
theorem long_class_kept : Fits heldStage ∧ isFailureClass longClass = true ∧
    (reconciledRun longClass).state.stage.flushed.failureClass = some longClass ∧
    ¬ (reconciledRun longClass).state.Fits := by
  have kept : isFailureClass longClass = true ∧
      (reconciledRun longClass).state.stage.flushed.failureClass = some longClass := by
    decide +kernel
  refine ⟨?_, kept.1, kept.2, ?_⟩
  · exact ⟨within_none, within_none, within_some (by decide), within_none⟩
  · intro fits
    have short := fits.flushed.failureClass longClass kept.2
    revert short
    decide

end YTPipe
