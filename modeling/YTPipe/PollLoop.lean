import YTPipe.Answered
import YTPipe.Dispositions

/-!
# How the polling of a task ends

The coordinator polls an accepted task until its deadline. However the clock runs and
whatever the broker answers, it reads the result a bounded number of times and leaves
the stage in a definite state.
-/

namespace YTPipe

open Broker Proc

/-- How an attempt leaves its stage. -/
inductive Ending
  | completed (summary : Option Text)
  | progressed (plan : Option ChunkPlan)
  | failed
  | retried (due : Time)
  | quarantined (task : String)
  deriving DecidableEq

/-- What a row says of the attempt that is over. -/
def PipelineStage.ending (summary : Option Text) (r : PipelineStage) : Option Ending :=
  match r.status with
  | .completed => some (.completed summary)
  | .failed => some .failed
  | .pendingRetry =>
    match r.quarantinedAt, r.nextAttemptAt with
    | some _, _ => r.brokerTaskId.map .quarantined
    | none, some due => some (.retried due)
    | none, none => some (.progressed r.brokerChunkPlan)
  | _ => none

/-- What the database says of it. -/
def StageSession.ending (s : StageSession) : Option Ending :=
  s.stage.durable.ending s.video.durable.summary

/-- What an attempt polls for: the whole transcript, or the next step of the plan that
is the object `object`. -/
inductive Work
  | transcript (text : Text)
  | step (object : Nat) (plan : ChunkPlan) (operation : SummaryOperation) (deadline remaining : Rat)

namespace Work

def submission (service : BrokerService) : Work → Submission
  | transcript text => singleShot service text
  | step object plan operation deadline remaining =>
    { operation := operation
      planned := true
      finalizeStage := operation.kind = finalKind
      onCompleted := saveCompleted object plan plan.nextStep
      deadline := some deadline
      timeoutSeconds := remaining }

/-- The plan's object is older than what the session loads next. -/
def Older (fresh : Nat) : Work → Prop
  | transcript _ => True
  | step object _ _ _ _ => object < fresh

/-- The plan once the step's output is recorded. -/
def recorded (output : Text) : Work → Option ChunkPlan
  | transcript _ => none
  | step _ plan _ _ _ => savedPlan plan output

/-- The plan's object is not the one that was loaded last. -/
def Apart (loaded : Nat) : Work → Prop
  | transcript _ => True
  | step object _ _ _ _ => loaded ≠ object

/-- What the outcome of an attempt says of the stage. -/
def ending (service : BrokerService) (task : String) (o : BrokerSubmissionOutcome) (work : Work) :
    Option Ending :=
  match o.disposition with
  | .completed =>
    if (work.submission service).finalizeStage then some (.completed o.summary)
    else some (.progressed (work.recorded (o.summary.getD [])))
  | .terminal => some .failed
  | .retry => o.retryAt.map .retried
  | .quarantine => some (.quarantined task)

end Work

/-- The stage is committed as the outcome says. -/
structure Definite (service : BrokerService) (work : Work) (task : String)
    (o : BrokerSubmissionOutcome) (s : StageSession) : Prop where
  flushed : s.stage.flushed = s.stage.durable
  current : s.stage.current = s.stage.durable
  ends : s.ending.isSome
  told : s.ending = work.ending service task o

section

variable (platform : Platform) (service : BrokerService)

/-- What `attempt` does once a task is accepted. -/
def pollAccepted (submission : Submission) (attemptedAt : Time) (accepted : AcceptedTask)
    (key : String) : StageProc BrokerSubmissionOutcome := do
  setStage (acceptRow accepted key)
  flush platform
  commit platform
  let deadline ← pollDeadline submission
  Proc.loop (pollRound platform service submission attemptedAt deadline accepted key)

end

/-! What the clock tells. -/

/-- How long the process has slept. -/
def asleep : List Event → Rat
  | [] => 0
  | .slept d :: l => d + asleep l
  | _ :: l => asleep l

/-- A process gets the answers it asks for, and between two readings of the clock it
has passed at least the time slept. -/
structure Attended {α : Type} (p : StageProc α) (w : StageWorld) (answers : Nat → Reply) : Prop where
  apt : Apt p w answers
  steady : ∀ i j t u, i < j → answers i = .clock t → answers j = .clock u →
    (p.upTo w answers j).1 = none →
    t + (asleep (p.upTo w answers j).2.trace - asleep (p.upTo w answers i).2.trace) ≤ u

/-- The results read, answered or not. -/
def reads (l : List Event) : Nat := l.countP (· matches .get _)

/-- A read waits for its answer. -/
def Waiting (l : List Event) : Prop := ∃ g, .get g ∈ l ∧ g.outcome = none

/-! What is written at the end. -/

section writers

variable {platform : Platform} {service : BrokerService} {work : Work} {task : String}
  {s : StageSession} {β : Type} {D : β → StageSession → Prop}

/-- A process that asks for one commit and nothing else, and leaves what `D` says. -/
def Saves (q : StageProc β) (D : β → StageSession → Prop) (s : StageSession) : Prop :=
  ∃ o s' stuck, D o s' ∧ ∀ replies trace, q ⟨s, replies, trace⟩ =
    match replies with
    | .committed :: rest => (some o, ⟨s', rest, trace⟩)
    | _ => (none, ⟨stuck, replies, trace⟩)

theorem saves_commit {o : β} (h : D o (s.commit platform)) :
    Saves (do commit platform; pure o) D s := by
  refine ⟨o, s.commit platform, s, h, fun replies trace => ?_⟩
  match replies with
  | [] => rfl
  | r :: rest => cases r <;> rfl

theorem saves_save {o : β} (h : D o ((s.flush platform).commit platform)) :
    Saves (do flush platform; commit platform; pure o) D s := saves_commit h

theorem saves_setStage {f : PipelineStage → PipelineStage} {k : Unit → StageProc β} :
    Saves (setStage f >>= k) D s ↔ Saves (k ()) D { s with stage := s.stage.modify f } := Iff.rfl

theorem saves_setVideo {f : Video → Video} {k : Unit → StageProc β} :
    Saves (setVideo f >>= k) D s ↔ Saves (k ()) D { s with video := s.video.modify f } := Iff.rfl

theorem saves_assignPlan {plan : Option ChunkPlan} {k : Unit → StageProc β} :
    Saves (assignPlan plan >>= k) D s
      ↔ Saves (k ()) D { s with stage := s.stage.assign planColumn plan } := Iff.rfl

theorem saves_assignMutatedPlan {object : Nat} {plan : Option ChunkPlan} {k : Unit → StageProc β} :
    Saves (assignMutatedPlan object plan >>= k) D s
      ↔ Saves (k ()) D { s with stage := s.stage.assignMutated planColumn object plan } := Iff.rfl

theorem saves_populateExisting {k : Unit → StageProc β} :
    Saves (populateExisting >>= k) D s
      ↔ Saves (k ()) D { s with stage := s.stage.expire planColumn } := Iff.rfl

theorem saves_stageRow {k : PipelineStage → StageProc β} :
    Saves (stageRow >>= k) D s ↔ Saves (k s.stage.current) D s := Iff.rfl

/-- The row holds the task, and is not quarantined. -/
structure Holding (task : String) (r : PipelineStage) : Prop where
  task : r.brokerTaskId = some task
  quiet : r.quarantinedAt = none

/-- An outcome of the policy. -/
structure Broker.SummaryFailureOutcome.Ruled (outcome : SummaryFailureOutcome) : Prop where
  timed : outcome.disposition = .retry → outcome.retryAt.isSome
  kept : outcome.disposition = .quarantine → outcome.failureClass ∉ safeTerminalClasses

theorem protocolQuarantine_ruled : protocolQuarantine.Ruled := ⟨nofun, fun _ => by decide⟩

theorem classify_ruled (code : String) (attempts maxAttempts : Int) (now : Time)
    (failureClass : Option String) :
    (classifySummaryFailure .broker code attempts maxAttempts now failureClass).Ruled := by
  simp only [classifySummaryFailure, if_true]
  split
  · next lost =>
    have named : orElse failureClass "indeterminate" = "indeterminate" := by
      rcases lost with rfl | ⟨rfl, _⟩ <;> rfl
    refine ⟨fun h => (by cases h), fun _ => ?_⟩
    change orElse failureClass "indeterminate" ∉ safeTerminalClasses
    rw [named]
    decide
  · split
    · split
      · exact ⟨fun h => (by cases h), fun h => by cases h⟩
      · exact ⟨fun _ => rfl, fun h => by cases h⟩
    · next unsafe_ =>
      split
      · exact ⟨fun h => (by cases h), fun h => by cases h⟩
      · cases failureClass with
        | none =>
          simp only
          split
          · exact ⟨fun h => (by cases h), fun h => by cases h⟩
          · exact ⟨fun _ => rfl, fun h => by cases h⟩
        | some c => exact ⟨fun h => (by cases h), fun _ safe => unsafe_ ⟨c, rfl, safe⟩⟩

theorem pollOutcome_ruled (e : BrokerError) (attemptedAt : Time) (r : PipelineStage) :
    (pollOutcome e attemptedAt r).Ruled := by
  unfold pollOutcome
  split
  · exact protocolQuarantine_ruled
  · exact classify_ruled ..

section columns

variable {c : Prop} [Decidable c] {outcome : SummaryFailureOutcome} {attemptedAt : Time}
  {r : PipelineStage}

theorem recordHistory_columns : (if c then recordHistory outcome attemptedAt r else r).quarantinedAt
      = r.quarantinedAt
    ∧ (if c then recordHistory outcome attemptedAt r else r).nextAttemptAt = r.nextAttemptAt
    ∧ (if c then recordHistory outcome attemptedAt r else r).brokerTaskId = r.brokerTaskId := by
  split <;> exact ⟨rfl, rfl, rfl⟩

theorem advanceEpoch_columns : (if c then advanceEpoch r else r).quarantinedAt = r.quarantinedAt
    ∧ (if c then advanceEpoch r else r).nextAttemptAt = r.nextAttemptAt := by
  split <;> exact ⟨rfl, rfl⟩

end columns

/-- Only a failure that is safe to submit anew gives the task up. -/
theorem canAdvance_unsafe {failureClass : String} (h : failureClass ∉ safeTerminalClasses)
    (confirmed : Bool) (taskId current : Option String) (attempts maxAttempts epoch : Int) :
    canAdvanceSubmissionEpoch .broker confirmed taskId current (some failureClass) attempts
      maxAttempts epoch = false := by
  have absent : safeTerminalClasses.contains ((some failureClass).getD "") = false :=
    Bool.eq_false_iff.mpr fun found => h (List.contains_iff_mem.mp found)
  simp only [canAdvanceSubmissionEpoch, absent, Bool.and_false, Bool.false_and]

/-- What a row says once the outcome is applied, whatever becomes of its plan. -/
theorem applyOutcomeRow_ending (service : BrokerService) (work : Work)
    {outcome : SummaryFailureOutcome} (ruled : outcome.Ruled)
    {r : PipelineStage} (holding : Holding task r) (attemptedAt : Time) (confirmed : Bool)
    (plan : Option ChunkPlan) (summary : Option Text) :
    ((planColumn.set plan (applyOutcomeRow outcome attemptedAt (some task) confirmed r)).ending
        summary).isSome
      ∧ (planColumn.set plan (applyOutcomeRow outcome attemptedAt (some task) confirmed r)).ending
          summary = work.ending service task outcome.submission := by
  cases hd : outcome.disposition with
  | terminal =>
    simp only [applyOutcomeRow, hd, PipelineStage.ending, planColumn, Work.ending,
      SummaryFailureOutcome.submission, FailureDisposition.submission, Option.isSome_some, and_self]
  | retry =>
    obtain ⟨due, hdue⟩ := Option.isSome_iff_exists.mp (ruled.timed hd)
    simp only [applyOutcomeRow, hd, PipelineStage.ending, planColumn, Work.ending,
      SummaryFailureOutcome.submission, FailureDisposition.submission, advanceEpoch_columns,
      recordHistory_columns, noteFailure, holding.quiet, hdue, Option.map_some, Option.isSome_some,
      and_self]
  | quarantine =>
    simp only [applyOutcomeRow, hd, PipelineStage.ending, planColumn, Work.ending,
      SummaryFailureOutcome.submission, FailureDisposition.submission,
      canAdvance_unsafe (ruled.kept hd), Bool.false_eq_true, if_false, recordHistory_columns,
      noteFailure, holding.task, Option.map_some, Option.isSome_some, and_self]

theorem video_written (i : VideoInstance) (rule : FlushRule) :
    i.written (Column.none Video) rule = i.current := by
  obtain ⟨_, written⟩ := Instance.written_eq_set (Column.none Video) rule i
  exact written

/-- A session that is flushed and committed stands as its row says. -/
theorem definite_commit {o : BrokerSubmissionOutcome}
    (ends : ((s.stage.written planColumn platform.flushRule).ending s.video.current.summary).isSome)
    (told : (s.stage.written planColumn platform.flushRule).ending s.video.current.summary
      = work.ending service task o) :
    Definite service work task o ((s.flush platform).commit platform) := by
  have row : ((s.flush platform).commit platform).stage.durable
      = s.stage.written planColumn platform.flushRule := Instance.written_flush
  have video : ((s.flush platform).commit platform).video.durable = s.video.current :=
    video_written _ _
  have ending : ((s.flush platform).commit platform).ending
      = (s.stage.written planColumn platform.flushRule).ending s.video.current.summary := by
    unfold StageSession.ending
    rw [row, video]
  exact ⟨rfl, rfl, ending ▸ ends, ending.trans told⟩

/-- `_apply_outcome` commits what the policy rules for a task the row holds. -/
theorem saves_outcome {outcome : SummaryFailureOutcome} (ruled : outcome.Ruled)
    (current : Holding task s.stage.current) (flushed : Holding task s.stage.flushed)
    (attemptedAt : Time) (confirmed : Bool) :
    Saves (applyOutcome platform outcome attemptedAt (some task) confirmed)
      (Definite service work task) s := by
  have settles (i : StageInstance) (holding : Holding task i.current) :
      Saves (do
        setStage (applyOutcomeRow outcome attemptedAt (some task) confirmed)
        Proc.when (outcome.disposition = .terminal) (assignPlan none)
        flush platform
        commit platform
        pure outcome.submission) (Definite service work task) { s with stage := i } := by
    have ending (u : StageSession) (plan : Option ChunkPlan) (row : u.stage.current
        = planColumn.set plan (applyOutcomeRow outcome attemptedAt (some task) confirmed i.current)) :
        Definite service work task outcome.submission ((u.flush platform).commit platform) := by
      obtain ⟨d, written⟩ := Instance.written_eq_set planColumn platform.flushRule u.stage
      rw [row, planColumn.set_set] at written
      have states := applyOutcomeRow_ending service work ruled holding attemptedAt confirmed d
        u.video.current.summary
      rw [← written] at states
      exact definite_commit states.1 states.2
    rw [saves_setStage]
    by_cases terminal : outcome.disposition = .terminal
    · rw [Proc.when, if_pos terminal, saves_assignPlan]
      exact saves_save (ending _ none rfl)
    · rw [Proc.when, if_neg terminal, pure_bind]
      exact saves_save (ending _ _ (planColumn.set_get _).symm)
  simp only [applyOutcome]
  by_cases serialized : confirmed = true ∧ (some task).getD "" ≠ ""
  · have same : (s.stage.expire planColumn).current.brokerTaskId = some task := flushed.task
    simp only [Proc.when, if_pos serialized]
    rw [saves_populateExisting, saves_stageRow, if_neg fun other => other.2 same]
    exact settles _ flushed
  · simp only [Proc.when, if_neg serialized]
    rw [pure_bind, saves_stageRow, if_neg fun other => serialized other.1]
    exact settles s.stage current

/-- The stage of an accepted task, between two rounds. -/
structure Polled (platform : Platform) (work : Work) (task : String) (s : StageSession) : Prop where
  holding : Holding task s.stage.current
  saved : s.stage.flushed = s.stage.current
  faithful : s.stage.Faithful planColumn platform.flushRule
  apart : work.Apart s.stage.loaded

theorem Holding.correlate {r : PipelineStage} (h : Holding task r) (isTask : isTaskId task = true)
    (key : Option String) : Holding task (keepCorrelation (some task) key r) where
  task := by
    obtain ⟨named, short⟩ := isTaskId_length isTask
    simp only [keepCorrelation, Option.getD_some, if_neg named, Option.map_some, short]
  quiet := h.quiet

theorem saves_quarantine (polled : Polled platform work task s) (isTask : isTaskId task = true)
    (attemptedAt : Time) (code : String) (failureClass key : Option String) :
    Saves (quarantine platform attemptedAt code failureClass key (some task))
      (Definite service work task) s := by
  unfold quarantine
  rw [saves_setStage, saves_stageRow]
  apply saves_outcome (classify_ruled ..)
  · exact polled.holding.correlate isTask key
  · exact polled.saved ▸ polled.holding

theorem saves_classify (polled : Polled platform work task s) (isTask : isTaskId task = true)
    (e : BrokerError) (attemptedAt : Time) (key : Option String) :
    Saves (classify platform (.broker e) attemptedAt key (some task))
      (Definite service work task) s := by
  rw [classify_polled (isTaskId_length isTask).1, saves_setStage, saves_stageRow]
  apply saves_outcome (pollOutcome_ruled ..)
  · exact polled.holding.correlate isTask _
  · exact polled.saved ▸ polled.holding

/-- A stage done, or a step of it, is committed as such. -/
theorem definite_complete {r : PipelineStage} {summary : Text}
    (faithful : s.stage.Faithful planColumn platform.flushRule)
    (row : s.stage.current = completeRow (work.submission service).finalizeStage r)
    (video : (work.submission service).finalizeStage = true →
      s.video.current.summary = some summary)
    (plan : (work.submission service).finalizeStage = false →
      r.brokerChunkPlan = work.recorded summary) :
    Definite service work task ⟨.completed, some summary, none, none, none, none⟩
      ((s.flush platform).commit platform) := by
  have written := (Instance.written_of_faithful faithful).trans row
  have states : (completeRow (work.submission service).finalizeStage r).ending s.video.current.summary
      = work.ending service task ⟨.completed, some summary, none, none, none, none⟩ := by
    cases final : (work.submission service).finalizeStage with
    | true =>
      simp only [completeRow, PipelineStage.ending, Work.ending, final, if_true, video final]
    | false =>
      simp only [completeRow, PipelineStage.ending, Work.ending, final, Bool.false_eq_true, if_false,
        plan final, Option.getD_some]
  apply definite_commit
  · rw [written, states]
    unfold Work.ending
    simp only
    split <;> rfl
  · rw [written, states]

/-- `_complete` commits the summary, or the plan with the step recorded. -/
theorem saves_complete (polled : Polled platform work task s) (summary : Text) :
    Saves (complete platform summary (work.submission service).finalizeStage
      (work.submission service).onCompleted) (Definite service work task) s := by
  have finishes (i : StageInstance) (faithful : i.Faithful planColumn platform.flushRule)
      (plan : (work.submission service).finalizeStage = false →
        i.current.brokerChunkPlan = work.recorded summary) :
      Saves (do
        Proc.when (work.submission service).finalizeStage
          (setVideo fun v => { v with summary := some summary })
        setStage (completeRow (work.submission service).finalizeStage)
        flush platform
        commit platform
        pure ⟨.completed, some summary, none, none, none, none⟩) (Definite service work task)
        { s with stage := i } := by
    cases final : (work.submission service).finalizeStage with
    | true =>
      rw [Proc.when, if_pos rfl, saves_setVideo, saves_setStage]
      apply saves_save
      exact definite_complete (r := i.current) faithful (congrArg (completeRow · _) final).symm
        (fun _ => rfl) (fun open_ => absurd (final.symm.trans open_) (by decide))
    | false =>
      rw [Proc.when, if_neg Bool.false_ne_true, pure_bind, saves_setStage]
      apply saves_save
      exact definite_complete (r := i.current) faithful (congrArg (completeRow · _) final).symm
        (fun done => absurd (final.symm.trans done) (by decide)) (fun _ => plan final)
  cases work with
  | transcript text =>
    exact finishes s.stage polled.faithful fun h => by cases h
  | step object plan operation deadline remaining =>
    unfold complete
    simp only [Work.submission, saveCompleted, completeStep_length, bind_assoc]
    rw [saves_setStage]
    split
    · next last =>
      rw [saves_assignPlan]
      exact finishes _ (Instance.faithful_assign (Instance.faithful_modify polled.faithful))
        fun _ => (if_pos last).symm
    · next more =>
      rw [saves_assignMutatedPlan]
      exact finishes _ (Instance.faithful_assignMutated (Instance.faithful_modify polled.faithful)
        polled.apart) fun _ => (if_neg more).symm

end writers

/-! How the rounds go on. -/

section rounds

variable {platform : Platform} {service : BrokerService} {α : Type} {p : StageProc α}
  {w : StageWorld} {answers : Nat → Reply} {now deadline : Rat}

/-- A process that is attended from the time `now` on. -/
structure Timed (now : Rat) (p : StageProc α) (w : StageWorld) (answers : Nat → Reply) : Prop
    extends Attended p w answers where
  onward : ∀ j u, answers j = .clock u → (p.upTo w answers j).1 = none →
    now + (asleep (p.upTo w answers j).2.trace - asleep w.trace) ≤ u

theorem Attended.timed (h : Attended p w answers) (first : answers 0 = .clock now)
    (still : (p.upTo w answers 0).2.trace = w.trace) : Timed now p w answers where
  toAttended := h
  onward j u reading asked := by
    cases j with
    | zero =>
      cases first.symm.trans reading
      rw [still]
      grind
    | succ j =>
      have steady := h.steady 0 (j + 1) now u (Nat.succ_pos j) first reading asked
      rwa [still] at steady

theorem Attended.ask {β : Type} {view : Reply → Option β} {f : β → StageProc α}
    (h : Attended (Proc.ask view >>= f) w answers) :
    ∃ b, view (answers 0) = some b ∧ Attended (f b) w (later answers) := by
  obtain ⟨b, hv, apt⟩ := h.apt.ask
  refine ⟨b, hv, apt, fun i j t u before early late asked => ?_⟩
  rw [← upTo_ask_succ hv] at asked
  rw [← upTo_ask_succ hv, ← upTo_ask_succ hv]
  exact h.steady (i + 1) (j + 1) t u (Nat.succ_lt_succ before) early late asked

theorem Attended.commit {f : Unit → StageProc α} (h : Attended (commit platform >>= f) w answers) :
    answers 0 = .committed
      ∧ Attended (f ()) { w with state := w.state.commit platform } (later answers) := by
  unfold YTPipe.commit at h
  rw [bind_assoc] at h
  obtain ⟨_, first, attended⟩ := h.ask
  refine ⟨?_, attended.apt, attended.steady⟩
  split at first
  · assumption
  · cases first

/-- A reading of the clock is one the process goes on from. -/
theorem Attended.clock {f : Rat → StageProc α} (h : Attended (clock >>= f) w answers) :
    ∃ t, answers 0 = .clock t ∧ Timed t (f t) w (later answers) := by
  obtain ⟨t, first, attended⟩ := h.ask
  have reading : answers 0 = .clock t := by
    split at first
    · next same =>
      cases first
      exact same
    · cases first
  refine ⟨t, reading, attended, fun j u late asked => ?_⟩
  have steady := h.steady 0 (j + 1) t u (Nat.succ_pos j) reading late
  unfold YTPipe.clock at steady
  rw [upTo_ask_succ first] at steady
  exact steady asked

theorem Timed.clock {f : Rat → StageProc α} (h : Timed now (clock >>= f) w answers) :
    ∃ t, answers 0 = .clock t ∧ now ≤ t ∧ Timed t (f t) w (later answers) := by
  obtain ⟨t, reading, timed⟩ := h.toAttended.clock
  refine ⟨t, reading, ?_, timed⟩
  have passed := h.onward 0 t reading rfl
  have still : ((YTPipe.clock >>= f).upTo w answers 0).2.trace = w.trace := rfl
  rw [still] at passed
  grind

/-- Asleep, the process lets time pass. -/
theorem Timed.sleep {d : Rat} {f : Unit → StageProc α}
    (h : Timed now (YTPipe.sleep d >>= f) w answers) :
    Timed (now + d) (f ()) { w with trace := .slept d :: w.trace } answers where
  apt := h.apt
  steady := h.steady
  onward j u reading asked := by
    have passed := h.onward j u reading asked
    change now + (asleep ((f ()).upTo { w with trace := .slept d :: w.trace } answers j).2.trace
      - asleep w.trace) ≤ u at passed
    have slept : asleep (.slept d :: w.trace) = d + asleep w.trace := rfl
    simp only [slept]
    grind

theorem Timed.request {record : StageSession → Option HttpOutcome → Event}
    {f : HttpOutcome → StageProc α} (awake : ∀ s o l, asleep (record s o :: l) = asleep l)
    (h : Timed now (YTPipe.request record >>= f) w answers) :
    ∃ outcome, answers 0 = .http outcome ∧ Timed now (f outcome)
      { w with trace := record w.state (some outcome) :: w.trace } (later answers) := by
  obtain ⟨outcome, hv, apt⟩ := h.apt.exchange
  have succ (n : Nat) : (YTPipe.request record >>= f).upTo w answers (n + 1) = (f outcome).upTo
      { w with trace := record w.state (some outcome) :: w.trace } (later answers) n :=
    upTo_exchange_succ hv n
  refine ⟨outcome, ?_, ⟨apt, fun i j t u before early late asked => ?_⟩, fun j u reading asked => ?_⟩
  · cases reply : answers 0 <;> rw [reply] at hv <;> cases hv
    rfl
  · have steady := h.steady (i + 1) (j + 1) t u (Nat.succ_lt_succ before) early late
    rw [succ, succ] at steady
    exact steady asked
  · have passed := h.onward (j + 1) u reading
    rw [succ] at passed
    rw [awake]
    exact passed asked

/-- The process reads few results, each after the clock told a time before the deadline,
and comes back, with what `D` says. -/
structure Ends (deadline : Rat) (few : Nat) (D : α → StageSession → Prop) (p : StageProc α)
    (w : StageWorld) (answers : Nat → Reply) : Prop where
  few : ∀ n, reads (p.upTo w answers n).2.trace ≤ reads w.trace + few
  timely : ∀ n, Waiting (p.upTo w answers n).2.trace →
    ∃ m u, n = m + 1 ∧ answers m = .clock u ∧ u < deadline
  back : ∃ n, (p.upTo w answers n).1.isSome
  done : ∀ n o v, p.upTo w answers n = (some o, v) → D o v.state

variable {few : Nat} {D : α → StageSession → Prop}

/-- A process that asks for a commit and nothing else ends with it. -/
theorem Saves.ends (saves : Saves p D w.state) (apt : Apt p w answers) (calm : ¬ Waiting w.trace) :
    Ends deadline few D p w answers := by
  obtain ⟨o, s, stuck, done, runs⟩ := saves
  have given (n : Nat) : p.upTo w answers n = _ := runs ((List.range n).map answers) w.trace
  have still (n : Nat) : (p.upTo w answers n).2.trace = w.trace := by
    rw [given]
    split <;> rfl
  have first : answers 0 = .committed := by
    have asked := apt 1
    rw [given 1, List.range_one, List.map_singleton] at asked
    cases reply : answers 0 with
    | committed => rfl
    | _ =>
      rw [reply] at asked
      cases asked rfl
  refine ⟨fun n => ?_, fun n waits => ?_, ⟨1, ?_⟩, fun n a v ran => ?_⟩
  · rw [still]
    exact Nat.le_add_right _ _
  · rw [still] at waits
    exact absurd waits calm
  · rw [given 1, List.range_one, List.map_singleton, first]
    rfl
  · rw [given] at ran
    split at ran
    · cases ran
      exact done
    · cases ran

/-- A question before a process that ends. -/
theorem Ends.ask {β : Type} {view : Reply → Option β} {f : β → StageProc α} {b : β}
    (hv : view (answers 0) = some b) (calm : ¬ Waiting w.trace)
    (h : Ends deadline few D (f b) w (later answers)) :
    Ends deadline few D (Proc.ask view >>= f) w answers where
  few n := by
    cases n with
    | zero => exact Nat.le_add_right _ _
    | succ n =>
      rw [upTo_ask_succ hv]
      exact h.few n
  timely n waits := by
    cases n with
    | zero => exact absurd waits calm
    | succ n =>
      rw [upTo_ask_succ hv] at waits
      obtain ⟨m, u, rfl, reading, early⟩ := h.timely n waits
      exact ⟨m + 1, u, rfl, reading, early⟩
  back := by
    obtain ⟨n, back⟩ := h.back
    exact ⟨n + 1, by rwa [upTo_ask_succ hv]⟩
  done n o v ran := by
    cases n with
    | zero => cases ran
    | succ n =>
      rw [upTo_ask_succ hv] at ran
      exact h.done n o v ran

theorem Ends.clock {f : Rat → StageProc α} {t : Rat} (reading : answers 0 = .clock t)
    (calm : ¬ Waiting w.trace) (h : Ends deadline few D (f t) w (later answers)) :
    Ends deadline few D (clock >>= f) w answers :=
  Ends.ask (by rw [reading]) calm h

theorem Ends.commit {f : Unit → StageProc α} (reply : answers 0 = .committed)
    (calm : ¬ Waiting w.trace)
    (h : Ends deadline few D (f ()) { w with state := w.state.commit platform } (later answers)) :
    Ends deadline few D (commit platform >>= f) w answers := by
  unfold YTPipe.commit
  rw [bind_assoc]
  exact Ends.ask (b := ()) (by rw [reply]) calm ⟨h.few, h.timely, h.back, h.done⟩

theorem reads_slept (d : Rat) (l : List Event) : reads (.slept d :: l) = reads l :=
  List.countP_cons_of_neg Bool.false_ne_true

theorem reads_get (g : Get) (l : List Event) : reads (.get g :: l) = reads l + 1 :=
  List.countP_cons_of_pos rfl

theorem Ends.sleep {d : Rat} {f : Unit → StageProc α}
    (h : Ends deadline few D (f ()) { w with trace := .slept d :: w.trace } answers) :
    Ends deadline few D (YTPipe.sleep d >>= f) w answers where
  few n := by
    have few := h.few n
    rw [reads_slept] at few
    exact few
  timely := h.timely
  back := h.back
  done := h.done

/-- A result is read right after the clock was, and the process goes on to its end. -/
theorem Ends.read {get : StageSession → Option HttpOutcome → Get} {f : Rat → StageProc α}
    {g : HttpOutcome → StageProc α} {u : Rat} {outcome : HttpOutcome}
    (told : ∀ s o, (get s o).outcome = o) (reading : answers 0 = .clock u) (early : u < deadline)
    (asks : f u = (request fun s o => .get (get s o)) >>= g)
    (response : answers 1 = .http outcome) (calm : ¬ Waiting w.trace)
    (h : ¬ Waiting (.get (get w.state (some outcome)) :: w.trace) → Ends deadline few D (g outcome)
      { w with trace := .get (get w.state (some outcome)) :: w.trace } (later (later answers))) :
    Ends deadline (few + 1) D (YTPipe.clock >>= f) w answers := by
  have answered : ¬ Waiting (.get (get w.state (some outcome)) :: w.trace) := by
    rintro ⟨g, hg, waits⟩
    rcases List.mem_cons.mp hg with same | before
    · cases same
      cases (told _ _).symm.trans waits
    · exact calm ⟨g, before, waits⟩
  have h := h answered
  have next (n : Nat) : (YTPipe.clock >>= f).upTo w answers (n + 1) = ((request fun s o =>
      .get (get s o)) >>= g).upTo w (later answers) n := by
    rw [← asks]
    exact upTo_ask_succ (by rw [reading]) n
  have third (n : Nat) : (YTPipe.clock >>= f).upTo w answers (n + 2) = (g outcome).upTo
      { w with trace := .get (get w.state (some outcome)) :: w.trace } (later (later answers)) n := by
    rw [next]
    exact upTo_exchange_succ (by rw [later, response]; rfl) n
  refine ⟨fun n => ?_, fun n waits => ?_, ?_, fun n o v ran => ?_⟩
  · match n with
    | 0 => exact Nat.le_add_right _ _
    | 1 =>
      rw [next]
      change reads (.get (get w.state none) :: w.trace) ≤ _
      rw [reads_get]
      omega
    | n + 2 =>
      rw [third]
      have few := h.few n
      rw [reads_get] at few
      omega
  · match n with
    | 0 => exact absurd waits calm
    | 1 => exact ⟨0, u, rfl, reading, early⟩
    | n + 2 =>
      rw [third] at waits
      obtain ⟨m, t, rfl, told, early⟩ := h.timely n waits
      exact ⟨m + 2, t, rfl, told, early⟩
  · obtain ⟨n, back⟩ := h.back
    exact ⟨n + 2, by rwa [third]⟩
  · match n with
    | 0 => cases ran
    | 1 =>
      rw [next] at ran
      cases ran
    | n + 2 =>
      rw [third] at ran
      exact h.done n o v ran

theorem pollRound_takes (submission : Submission) (attemptedAt : Time) (deadline : Rat)
    (accepted : AcceptedTask) (key : String) :
    Takes (pollRound platform service submission attemptedAt deadline accepted key) := by
  have gone {q : StageProc BrokerSubmissionOutcome} {w v : StageWorld} :
      wp (q >>= fun o => pure (some o))
        (fun r u => r = none → u.replies.length < w.replies.length) (fun _ => True) v := by
    rw [wp_bind]
    exact wp_anywhere (fun _ _ => nofun) fun _ => trivial
  intro w
  simp only [pollRound]
  rw [wp_bind]
  apply wp_ask_reply _ trivial
  intro t r rest hr _
  split
  · exact gone
  rw [wp_bind, wp_sleep, wp_bind]
  apply wp_ask_reply _ trivial
  intro u r' rest' hr' _
  split
  · exact gone
  rw [wp_bind]
  apply wp_request_reply _ trivial
  intro outcome rest'' hr''
  split
  · exact gone
  · intro _
    simp only at hr' hr''
    simp only [hr, hr', hr'', List.length_cons]
    omega
  · exact gone

section loop

variable {work : Work} {accepted : AcceptedTask} {key : String} {attemptedAt : Time}

/-- The result a round of the loop asks for. -/
def asked (service : BrokerService) (submission : Submission) (accepted : AcceptedTask)
    (s : StageSession) (outcome : Option HttpOutcome) : Get :=
  ⟨s.stage.durable, s.stage.current, .attempt, service.profile, accepted.taskId,
    submission.polledKind, outcome⟩

/-- A round that is not over goes on as the loop. -/
theorem loop_round (platform : Platform) (service : BrokerService) (submission : Submission)
    (attemptedAt : Time) (deadline : Rat) (accepted : AcceptedTask) (key : String) :
    Proc.loop (pollRound platform service submission attemptedAt deadline accepted key)
      = YTPipe.clock >>= fun t =>
        if deadline - t ≤ 0 then
          quarantine platform attemptedAt "broker_timeout" (some "indeterminate")
            (some (orElse (some accepted.idempotencyKey) key)) (some accepted.taskId)
        else YTPipe.sleep (min 1 (deadline - t)) >>= fun _ => YTPipe.clock >>= fun u =>
          if deadline - u ≤ 0 then
            quarantine platform attemptedAt "broker_timeout" (some "indeterminate")
              (some (orElse (some accepted.idempotencyKey) key)) (some accepted.taskId)
          else (request fun s o => .get (asked service submission accepted s o)) >>= fun outcome =>
            match pollTask service.profile accepted.taskId
                (orElse (some accepted.idempotencyKey) key) submission.polledKind outcome with
            | .error e => classify platform (.broker e) attemptedAt
                (some (orElse (some accepted.idempotencyKey) key)) (some accepted.taskId)
            | .ok none =>
              Proc.loop (pollRound platform service submission attemptedAt deadline accepted key)
            | .ok (some summary) =>
              complete platform summary submission.finalizeStage submission.onCompleted := by
  refine (loop_eq (pollRound_takes submission attemptedAt deadline accepted key)).trans ?_
  conv => lhs; arg 1; unfold pollRound
  simp only [bind_assoc]
  refine congrArg _ (funext fun t => ?_)
  split
  · simp only [bind_assoc, pure_bind, bind_pure]
  simp only [bind_assoc]
  refine congrArg _ (funext fun _ => congrArg _ (funext fun u => ?_))
  split
  · simp only [bind_assoc, pure_bind, bind_pure]
  simp only [bind_assoc]
  refine congrArg _ (funext fun outcome => ?_)
  cases pollTask service.profile accepted.taskId (orElse (some accepted.idempotencyKey) key)
    submission.polledKind outcome with
  | error e => simp only [bind_assoc, pure_bind, bind_pure]
  | ok result =>
    cases result with
    | none => rfl
    | some summary => simp only [bind_assoc, pure_bind, bind_pure]

/-- The loop ends, and reads at most as many results as there are whole seconds left. -/
theorem loop_ends (isTask : isTaskId accepted.taskId = true)
    (polled : Polled platform work accepted.taskId w.state) (calm : ¬ Waiting w.trace)
    (timed : Timed now (Proc.loop (pollRound platform service (work.submission service) attemptedAt
      deadline accepted key)) w answers) (left : deadline - now ≤ few) :
    Ends deadline few (Definite service work accepted.taskId) (Proc.loop (pollRound platform service
      (work.submission service) attemptedAt deadline accepted key)) w answers := by
  induction few generalizing w answers now with
  | zero =>
    rw [loop_round] at timed ⊢
    obtain ⟨t, first, since, timed⟩ := timed.clock
    have past : deadline - t ≤ 0 := by grind
    rw [if_pos past] at timed
    apply Ends.clock first calm
    rw [if_pos past]
    exact Saves.ends (saves_quarantine polled isTask ..) timed.apt calm
  | succ few ih =>
    rw [loop_round] at timed ⊢
    obtain ⟨t, first, since, timed⟩ := timed.clock
    by_cases past : deadline - t ≤ 0
    · rw [if_pos past] at timed
      apply Ends.clock first calm
      rw [if_pos past]
      exact Saves.ends (saves_quarantine polled isTask ..) timed.apt calm
    rw [if_neg past] at timed
    apply Ends.clock first calm
    rw [if_neg past]
    have timed := timed.sleep
    have calm : ¬ Waiting (.slept (min 1 (deadline - t)) :: w.trace) := by
      rintro ⟨g, hg, waits⟩
      rcases List.mem_cons.mp hg with same | before
      · cases same
      · exact calm ⟨g, before, waits⟩
    apply Ends.sleep
    obtain ⟨u, second, passed, timed⟩ := timed.clock
    by_cases late : deadline - u ≤ 0
    · rw [if_pos late] at timed
      apply Ends.clock second calm
      rw [if_pos late]
      exact Saves.ends (saves_quarantine polled isTask ..) timed.apt calm
    rw [if_neg late] at timed
    obtain ⟨outcome, response, timed⟩ := timed.request fun _ _ _ => rfl
    apply Ends.read (fun _ _ => rfl) second (by grind) (if_neg late) response calm
    intro calm
    split
    · next e heq =>
      simp only [heq] at timed
      exact Saves.ends (saves_classify polled isTask ..) timed.apt calm
    · next heq =>
      simp only [heq] at timed
      exact ih polled calm timed (by grind)
    · next summary heq =>
      simp only [heq] at timed
      exact Saves.ends (saves_complete polled summary) timed.apt calm

/-- The session once the accepted task is flushed. -/
def accepting (platform : Platform) (accepted : AcceptedTask) (key : String) (s : StageSession) :
    StageSession :=
  ({ s with stage := s.stage.modify (acceptRow accepted key) } : StageSession).flush platform

/-- The row of an accepted task is committed before it is polled. -/
theorem accepted_polled (platform : Platform) (key : String) {s : StageSession}
    (isTask : isTaskId accepted.taskId = true)
    (quiet : s.stage.current.quarantinedAt = none) (older : work.Older s.stage.fresh) :
    Polled platform work accepted.taskId ((accepting platform accepted key s).commit platform) := by
  have row : ((accepting platform accepted key s).commit platform).stage.current
      = (s.stage.modify (acceptRow accepted key)).written planColumn platform.flushRule :=
    Instance.written_flush
  obtain ⟨d, written⟩ := Instance.written_eq_set planColumn platform.flushRule
    (s.stage.modify (acceptRow accepted key))
  refine ⟨⟨?_, ?_⟩, rfl, .inr rfl, ?_⟩
  · rw [row, written]
    exact congrArg some (isTaskId_length isTask).2
  · rw [row, written]
    exact quiet
  · cases work with
    | transcript => trivial
    | step object => exact Nat.ne_of_gt older

theorem le_seconds (time : Rat) : time ≤ time.ceil.toNat := by
  have whole : (time.ceil : Rat) ≤ (time.ceil.toNat : Int) :=
    Rat.intCast_le_intCast.mpr (Int.self_le_toNat _)
  exact Rat.le_trans Rat.le_ceil whole

theorem calm_nil : ¬ Waiting [] := fun ⟨_, hg, _⟩ => List.not_mem_nil hg

end loop

end rounds

/-- However the clock runs and whatever the broker answers, the polling of an accepted
task reads at most as many results as its time has seconds, none at its deadline or
later, and commits the stage in one definite state before it comes back. -/
theorem pollAccepted_ends (platform : Platform) (service : BrokerService) (work : Work)
    (attemptedAt : Time) (accepted : AcceptedTask) (key : String) (s : StageSession)
    (answers : Nat → Reply) (isTask : isTaskId accepted.taskId = true)
    (quiet : s.stage.current.quarantinedAt = none) (older : work.Older s.stage.fresh)
    (attended : Attended (pollAccepted platform service (work.submission service) attemptedAt
      accepted key) ⟨s, [], []⟩ answers) :
    ∃ began deadline, answers 1 = .clock began
      ∧ deadline = (work.submission service).deadline.getD
          (began + (work.submission service).timeoutSeconds)
      ∧ Ends deadline (deadline - began).ceil.toNat (Definite service work accepted.taskId)
          (pollAccepted platform service (work.submission service) attemptedAt accepted key)
          ⟨s, [], []⟩ answers := by
  have saved : Attended (commit platform >>= fun _ => pollDeadline (work.submission service) >>=
      fun deadline => Proc.loop (pollRound platform service (work.submission service) attemptedAt
        deadline accepted key))
      ⟨accepting platform accepted key s, [], []⟩ answers := ⟨attended.apt, attended.steady⟩
  obtain ⟨reply, attended⟩ := saved.commit
  have polled := accepted_polled platform key isTask quiet older
  have ends {began deadline : Rat}
      (h : Ends deadline (deadline - began).ceil.toNat (Definite service work accepted.taskId)
        (pollDeadline (work.submission service) >>= fun deadline => Proc.loop (pollRound platform
          service (work.submission service) attemptedAt deadline accepted key))
        ⟨(accepting platform accepted key s).commit platform, [], []⟩ (later answers)) :
      Ends deadline (deadline - began).ceil.toNat (Definite service work accepted.taskId)
        (pollAccepted platform service (work.submission service) attemptedAt accepted key)
        ⟨s, [], []⟩ answers := by
    have all : Ends deadline (deadline - began).ceil.toNat (Definite service work accepted.taskId)
        (commit platform >>= fun _ => pollDeadline (work.submission service) >>= fun deadline =>
          Proc.loop (pollRound platform service (work.submission service) attemptedAt deadline
            accepted key)) ⟨accepting platform accepted key s, [], []⟩ answers :=
      Ends.commit reply calm_nil h
    exact ⟨all.few, all.timely, all.back, all.done⟩
  cases given : (work.submission service).deadline with
  | none =>
    simp only [pollDeadline, given, bind_assoc, pure_bind] at attended ends
    obtain ⟨began, reading, timed⟩ := attended.clock
    have loop := loop_ends isTask polled calm_nil timed (le_seconds _)
    exact ⟨began, _, reading, rfl, ends (Ends.clock reading calm_nil loop)⟩
  | some deadline =>
    simp only [pollDeadline, given, pure_bind] at attended ends
    have round := loop_round platform service (work.submission service) attemptedAt deadline accepted
      key
    obtain ⟨began, reading, _⟩ := (round ▸ attended).clock
    have timed := attended.timed reading (by rw [round]; rfl)
    exact ⟨began, _, reading, rfl, ends (loop_ends isTask polled calm_nil timed (le_seconds _))⟩

namespace Sample

/-- A clock of whole seconds and a task that is rejected at once. -/
def prompt : Nat → Reply
  | 0 => .committed
  | 1 => .clock 0
  | 2 => .clock 0
  | 3 => .clock 1
  | 4 => .http (.response rejected)
  | _ => .committed

def begun : StageSession := (openSession { stage with attemptCount := 1 } video).state

def whole : Work := .transcript ['a', 'b']

/-- The whole transcript is polled. -/
def pollWhole : StageProc BrokerSubmissionOutcome :=
  pollAccepted (platform .assigned) service (whole.submission service) 0 accepted "k"

theorem pollWhole_back (rest : List Reply) :
    wp pollWhole (fun _ _ => True) (fun _ => False) ⟨begun, .committed :: .clock 0 :: .clock 0
      :: .clock 1 :: .http (.response rejected) :: .committed :: rest, []⟩ := by
  have reading : rejected.reading service.profile
      = .ended "broker_task_failed" "policy_rejected" "busy" := by decide +kernel
  unfold pollWhole pollAccepted
  rw [wp_bind, wp_setStage, wp_bind, wp_flush, wp_bind, wp_commit_cons rfl]
  simp only [pollDeadline, whole, Work.submission, singleShot]
  rw [wp_bind, wp_bind, wp_clock_cons rfl, wp_pure, loop_round]
  rw [wp_bind, wp_clock_cons rfl, if_neg (by decide +kernel), wp_bind, wp_sleep]
  rw [wp_bind, wp_clock_cons rfl, if_neg (by decide +kernel), wp_bind, wp_request_cons rfl]
  simp only [Submission.polledKind, Bool.false_eq_true, if_false, pollTask_reading, reading]
  refine wp_mono (wp_classify_leaves ?_ rfl rfl ?_) (fun _ _ _ => trivial) fun _ => id
  · decide
  · have settled : (Reading.ended "broker_task_failed" "policy_rejected" "busy").Settled := by decide
    exact (pollOutcome_leaves settled ⟨by decide, by decide, by decide⟩ rfl _ _).1

theorem attended : Attended pollWhole ⟨begun, [], []⟩ prompt where
  apt n lost := by
    match n with
    | 0 => rfl
    | 1 => rfl
    | 2 => rfl
    | 3 => exact List.isEmpty_iff.mp (by decide +kernel)
    | 4 => exact List.isEmpty_iff.mp (by decide +kernel)
    | 5 => exact List.isEmpty_iff.mp (by decide +kernel)
    | n + 6 =>
      have given : (List.range (n + 6)).map prompt = .committed :: .clock 0 :: .clock 0 :: .clock 1
          :: .http (.response rejected) :: .committed
          :: (List.range n).map (later (later (later (later (later (later prompt)))))) := by
        simp only [answers_succ]
        rfl
      unfold upTo at lost
      rw [given] at lost
      exact absurd lost (back_of_wp (pollWhole_back _))
  steady i j t u before early late _ := by
    match i, j with
    | 0, _ => cases early
    | 1, 2 => cases early; cases late; decide +kernel
    | 1, 3 => cases early; cases late; decide +kernel
    | 2, 3 => cases early; cases late; decide +kernel
    | _, 0 => cases late
    | 1, 1 => omega
    | 2, 1 => omega
    | 2, 2 => omega
    | 3, 1 => omega
    | 3, 2 => omega
    | 3, 3 => omega
    | 4, _ => cases early
    | i + 5, _ => cases early
    | _, 4 => cases late
    | _, j + 5 => cases late

end Sample

theorem pollAccepted_ends_prompt : ∃ began deadline, Sample.prompt 1 = .clock began
    ∧ deadline = (Sample.whole.submission Sample.service).deadline.getD
        (began + (Sample.whole.submission Sample.service).timeoutSeconds)
    ∧ Ends deadline (deadline - began).ceil.toNat (Definite Sample.service Sample.whole "t")
        Sample.pollWhole ⟨Sample.begun, [], []⟩ Sample.prompt :=
  pollAccepted_ends (Sample.platform .assigned) Sample.service Sample.whole 0 Sample.accepted "k"
    Sample.begun Sample.prompt (by decide +kernel) rfl trivial Sample.attended

end YTPipe
