import YTPipe.Process
import YTPipe.Stage
import YTPipe.Broker.Idempotency
import YTPipe.Broker.Gateway

/-!
# One stage in a session

The state a stage is worked on in, what its surroundings answer and what it
does to them.
-/

namespace YTPipe

open Broker

/-- What a call of the direct route gives back. -/
inductive SummarizeOutcome
  | returned (summary : Option Text)
  | raised (code : Option String) (recoveryTarget : Option String)

/-- An answer of the surroundings. `syncFlush` tells whether a call that keeps
the user's sync state flushed the session. -/
inductive Reply
  | clock (t : Rat)
  | now (t : Time)
  | committed
  | http (outcome : HttpOutcome)
  | summarized (outcome : SummarizeOutcome)
  | syncFlush (flushed : Bool)

/-- Who reads a task's result. -/
inductive Reader
  | attempt
  | reconciliation
  deriving DecidableEq, Repr

/-- A POST of an operation, with the stage row as it stood durable and in memory. -/
structure Post where
  durable : PipelineStage
  current : PipelineStage
  operation : SummaryOperation
  key : String
  baseUrl : String
  outcome : Option HttpOutcome

/-- A GET of a task's result. -/
structure Get where
  durable : PipelineStage
  current : PipelineStage
  reader : Reader
  profile : BrokerRequestProfile
  taskId : String
  operationKind : Option String
  outcome : Option HttpOutcome

/-- An exception nothing in the pipeline catches: a plan that is not valid, or
a key that cannot be computed. -/
inductive Uncaught
  | chunkPlan
  | idempotencyKey
  deriving DecidableEq, Repr

inductive Event
  | post (p : Post)
  | get (g : Get)
  | summarize (durable current : PipelineStage)
  | slept (seconds : Rat)
  | raised (cause : Uncaught)

/-- How much of the session a stage's work has written. -/
inductive Reach
  | untouched
  | flushed
  | committed
  deriving DecidableEq, Repr

def Reach.max : Reach → Reach → Reach
  | .committed, _ => .committed
  | _, .committed => .committed
  | .flushed, _ => .flushed
  | _, .flushed => .flushed
  | .untouched, .untouched => .untouched

/-- A stage row and its video in a session, with the attribute of the service
that its work sets. -/
structure StageSession where
  stage : StageInstance
  video : VideoInstance
  recoveryTarget : Option String
  reach : Reach

abbrev StageWorld := World Reply Event StageSession

abbrev StageProc := Proc Reply Event StageSession

namespace StageSession

def row (s : StageSession) : PipelineStage := s.stage.current

variable (platform : Platform)

def flush (s : StageSession) : StageSession :=
  { s with
    stage := s.stage.flush planColumn platform.flushRule
    video := s.video.flush (Column.none Video) platform.flushRule
    reach := s.reach.max .flushed }

def commit (s : StageSession) : StageSession :=
  { s with
    stage := s.stage.commit planColumn platform.flushRule
    video := s.video.commit (Column.none Video) platform.flushRule
    reach := .committed }

def rollback (s : StageSession) : StageSession :=
  { s with
    stage := s.stage.rollback planColumn
    video := s.video.rollback (Column.none Video) }

end StageSession

section operations

variable (platform : Platform)

def clock : StageProc Rat :=
  Proc.ask fun r => match r with
    | .clock t => some t
    | _ => none

def utcNow : StageProc Time :=
  Proc.ask fun r => match r with
    | .now t => some t
    | _ => none

def flush : StageProc Unit := Proc.modify (·.flush platform)

/-- `session.commit()`: the process may die before or after it. -/
def commit : StageProc Unit := do
  Proc.ask fun r => match r with
    | .committed => some ()
    | _ => none
  Proc.modify (·.commit platform)

/-- A call that flushes where the user's sync state says so. -/
def syncFlush : StageProc Unit := do
  let flushed ← Proc.ask fun r => match r with
    | .syncFlush b => some b
    | _ => none
  if flushed then flush platform else pure ()

def stageRow : StageProc PipelineStage := do
  return (← Proc.read).stage.current

def videoRow : StageProc Video := do
  return (← Proc.read).video.current

/-- Assigns columns of the stage other than its plan. -/
def setStage (f : PipelineStage → PipelineStage) : StageProc Unit :=
  Proc.modify fun s => { s with stage := s.stage.modify f }

def setVideo (f : Video → Video) : StageProc Unit :=
  Proc.modify fun s => { s with video := s.video.modify f }

def assignPlan (plan : Option ChunkPlan) : StageProc Unit :=
  Proc.modify fun s => { s with stage := s.stage.assign planColumn plan }

/-- The plan object the stage holds. -/
def planObject : StageProc (Nat × Option ChunkPlan) := do
  let s ← Proc.read
  return (s.stage.present, s.stage.current.brokerChunkPlan)

/-- Changes the plan object in place and assigns it to the stage. -/
def assignMutatedPlan (object : Nat) (plan : Option ChunkPlan) : StageProc Unit :=
  Proc.modify fun s => { s with stage := s.stage.assignMutated planColumn object plan }

/-- A locking query with `populate_existing`. -/
def populateExisting : StageProc Unit :=
  Proc.modify fun s => { s with stage := s.stage.expire planColumn }

def setRecoveryTarget (target : Option String) : StageProc Unit :=
  Proc.modify fun s => { s with recoveryTarget := target }

def raise {α : Type} (cause : Uncaught) : StageProc α := do
  Proc.emit fun _ => .raised cause
  Proc.lose

def sleep (duration : Rat) : StageProc Unit := Proc.emit fun _ => .slept duration

def viewHttp : Reply → Option HttpOutcome
  | .http outcome => some outcome
  | _ => none

def request (record : StageSession → Option HttpOutcome → Event) : StageProc HttpOutcome :=
  Proc.exchange viewHttp record

end operations

/-- The world with another session state. -/
def withState (w : StageWorld) (s : StageSession) : StageWorld := { w with state := s }

@[simp] theorem withState_state (w : StageWorld) (s : StageSession) : (withState w s).state = s := rfl
@[simp] theorem withState_trace (w : StageWorld) (s : StageSession) :
    (withState w s).trace = w.trace := rfl

section rules

open Proc

variable {platform : Platform} {lost : StageWorld → Prop} {w : StageWorld}

theorem wp_clock {post : Rat → StageWorld → Prop} (stop : lost w)
    (go : ∀ t rest, post t { w with replies := rest }) : wp clock post lost w :=
  wp_ask _ stop go

theorem wp_clock_cons {post : Rat → StageWorld → Prop} {t : Rat} {rest : List Reply}
    (hr : w.replies = .clock t :: rest) :
    wp clock post lost w ↔ post t { w with replies := rest } :=
  wp_ask_cons hr rfl

theorem wp_utcNow_reply {post : Time → StageWorld → Prop} (stop : lost w)
    (go : ∀ t rest, w.replies = .now t :: rest → post t { w with replies := rest }) :
    wp utcNow post lost w := by
  apply wp_ask_reply _ stop
  intro t r rest hr hv
  cases r <;> cases hv
  exact go t rest hr

theorem wp_utcNow_cons {post : Time → StageWorld → Prop} {now : Time} {rest : List Reply}
    (hr : w.replies = .now now :: rest) :
    wp utcNow post lost w ↔ post now { w with replies := rest } :=
  wp_ask_cons hr rfl

theorem wp_utcNow {post : Time → StageWorld → Prop} (stop : lost w)
    (go : ∀ t rest, post t { w with replies := rest }) : wp utcNow post lost w :=
  wp_ask _ stop go

variable {post : Unit → StageWorld → Prop}

@[simp] theorem wp_flush : wp (flush platform) post lost w ↔
    post () (withState w (w.state.flush platform)) := Iff.rfl

theorem wp_commit (stop : lost w)
    (go : ∀ rest, post () { w with replies := rest, state := w.state.commit platform }) :
    wp (commit platform) post lost w := by
  unfold commit
  rw [wp_bind]
  apply wp_ask _ stop
  intro _ rest
  exact go rest

theorem wp_commit_cons {rest : List Reply} (hr : w.replies = .committed :: rest) :
    wp (commit platform) post lost w ↔
      post () { w with replies := rest, state := w.state.commit platform } := by
  unfold commit
  rw [wp_bind]
  exact wp_ask_cons hr rfl

/-- A commit is lost only where it is not answered. -/
theorem wp_commit_answered (stop : (∀ rest, w.replies ≠ .committed :: rest) → lost w)
    (go : ∀ rest, post () { w with replies := rest, state := w.state.commit platform }) :
    wp (commit platform) post lost w := by
  by_cases commits : ∃ rest, w.replies = .committed :: rest
  · obtain ⟨rest, commits⟩ := commits
    exact (wp_commit_cons commits).mpr (go rest)
  · exact wp_commit (stop fun rest answer => commits ⟨rest, answer⟩) go

theorem wp_syncFlush (stop : lost w)
    (go : ∀ rest s, s = w.state ∨ s = w.state.flush platform →
      post () { w with replies := rest, state := s }) : wp (syncFlush platform) post lost w := by
  unfold syncFlush
  rw [wp_bind]
  apply wp_ask _ stop
  intro flushed rest
  cases flushed with
  | true => exact go rest _ (.inr rfl)
  | false => exact go rest _ (.inl rfl)

@[simp] theorem wp_setStage (f : PipelineStage → PipelineStage) : wp (setStage f) post lost w ↔
    post () (withState w { w.state with stage := w.state.stage.modify f }) := Iff.rfl

@[simp] theorem wp_setVideo (f : Video → Video) : wp (setVideo f) post lost w ↔
    post () (withState w { w.state with video := w.state.video.modify f }) := Iff.rfl

@[simp] theorem wp_assignPlan (plan : Option ChunkPlan) : wp (assignPlan plan) post lost w ↔
    post () (withState w { w.state with stage := w.state.stage.assign planColumn plan }) := Iff.rfl

@[simp] theorem wp_assignMutatedPlan (object : Nat) (plan : Option ChunkPlan) :
    wp (assignMutatedPlan object plan) post lost w ↔ post ()
      (withState w { w.state with
        stage := w.state.stage.assignMutated planColumn object plan }) := Iff.rfl

@[simp] theorem wp_populateExisting : wp populateExisting post lost w ↔
    post () (withState w { w.state with stage := w.state.stage.expire planColumn }) := Iff.rfl

@[simp] theorem wp_setRecoveryTarget (target : Option String) :
    wp (setRecoveryTarget target) post lost w ↔
      post () (withState w { w.state with recoveryTarget := target }) := Iff.rfl

@[simp] theorem wp_sleep (duration : Rat) : wp (sleep duration) post lost w ↔
    post () { w with trace := .slept duration :: w.trace } := Iff.rfl

@[simp] theorem wp_raise {α : Type} {post : α → StageWorld → Prop} (cause : Uncaught) :
    wp (raise cause) post lost w ↔ lost { w with trace := .raised cause :: w.trace } := Iff.rfl

@[simp] theorem wp_stageRow {post : PipelineStage → StageWorld → Prop} :
    wp stageRow post lost w ↔ post w.state.stage.current w := Iff.rfl

@[simp] theorem wp_videoRow {post : Video → StageWorld → Prop} :
    wp videoRow post lost w ↔ post w.state.video.current w := Iff.rfl

@[simp] theorem wp_planObject {post : Nat × Option ChunkPlan → StageWorld → Prop} :
    wp planObject post lost w ↔
      post (w.state.stage.present, w.state.stage.current.brokerChunkPlan) w := Iff.rfl

theorem wp_request_reply {post : HttpOutcome → StageWorld → Prop}
    (record : StageSession → Option HttpOutcome → Event)
    (stop : lost { w with trace := record w.state none :: w.trace })
    (go : ∀ outcome rest, w.replies = .http outcome :: rest → post outcome { w with
      replies := rest, trace := record w.state (some outcome) :: w.trace }) :
    wp (request record) post lost w := by
  apply wp_exchange_reply viewHttp record stop
  intro outcome r rest hr hv
  cases r <;> cases hv
  exact go outcome rest hr

theorem wp_request_cons {post : HttpOutcome → StageWorld → Prop}
    {record : StageSession → Option HttpOutcome → Event} {outcome : HttpOutcome}
    {rest : List Reply} (hr : w.replies = .http outcome :: rest) :
    wp (request record) post lost w ↔ post outcome { w with
      replies := rest, trace := record w.state (some outcome) :: w.trace } :=
  wp_exchange_cons hr rfl

theorem wp_request {post : HttpOutcome → StageWorld → Prop}
    (record : StageSession → Option HttpOutcome → Event)
    (stop : lost { w with trace := record w.state none :: w.trace })
    (go : ∀ outcome rest, post outcome { w with
      replies := rest, trace := record w.state (some outcome) :: w.trace }) :
    wp (request record) post lost w :=
  wp_exchange viewHttp record stop go

end rules

end YTPipe
