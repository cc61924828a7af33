import YTPipe.StageRun
import YTPipe.Pipeline.Notice

/-!
# A video in a session

The stages of one user's video, each a row that may not be there yet, with the
video and the attribute of the service its summary sets. The user's other videos
share the session: what they do to it is part of what the surroundings answer.
-/

namespace YTPipe.Pipeline

open Broker

/-- A row of the session; `stored` tells whether the store has it durably. -/
structure Slot where
  stored : Bool
  row : Option StageInstance

namespace Slot

def empty : Slot := ⟨false, none⟩

/-- A row that was added and written, not yet committed. -/
def added (r : PipelineStage) : Slot := ⟨false, some (Instance.load planColumn r)⟩

/-- A row of the store, just loaded. -/
def loaded (r : PipelineStage) : Slot := ⟨true, some (Instance.load planColumn r)⟩

def current (s : Slot) : Option PipelineStage := s.row.map (·.current)

def flushed (s : Slot) : Option PipelineStage := s.row.map (·.flushed)

def durable (s : Slot) : Option PipelineStage := if s.stored then s.row.map (·.durable) else none

def modify (f : PipelineStage → PipelineStage) (s : Slot) : Slot :=
  { s with row := s.row.map (·.modify f) }

variable (rule : FlushRule)

def flush (s : Slot) : Slot := { s with row := s.row.map (·.flush planColumn rule) }

def commit (s : Slot) : Slot := ⟨s.row.isSome, s.row.map (·.commit planColumn rule)⟩

/-- A row that was added since the last commit is gone. -/
def rollback (s : Slot) : Slot :=
  { s with row := if s.stored then s.row.map (·.rollback planColumn) else none }

section lemmas

variable {rule} (s : Slot)

theorem durable_commit : (s.commit rule).durable = s.row.map (·.written planColumn rule) := by
  obtain ⟨stored, row⟩ := s
  cases row <;> rfl

theorem current_rollback : s.rollback.current = s.durable := by
  obtain ⟨stored, row⟩ := s
  cases stored <;> cases row <;> rfl

theorem flushed_rollback : s.rollback.flushed = s.durable := by
  obtain ⟨stored, row⟩ := s
  cases stored <;> cases row <;> rfl

theorem durable_rollback : s.rollback.durable = s.durable := by
  obtain ⟨stored, row⟩ := s
  cases stored <;> cases row <;> rfl

end lemmas

end Slot

structure PipelineSession where
  userId : Int
  slot : StageName → Slot
  video : VideoInstance
  recoveryTarget : Option String

namespace PipelineSession

variable (platform : Platform)

/-- The rows in memory. -/
def rows (s : PipelineSession) : Rows := fun n => (s.slot n).current

def flushedRows (s : PipelineSession) : Rows := fun n => (s.slot n).flushed

def durableRows (s : PipelineSession) : Rows := fun n => (s.slot n).durable

def setSlot (n : StageName) (x : Slot) (s : PipelineSession) : PipelineSession :=
  { s with slot := fun m => if m = n then x else s.slot m }

def setRow (n : StageName) (f : PipelineStage → PipelineStage) (s : PipelineSession) :
    PipelineSession := s.setSlot n ((s.slot n).modify f)

def flush (s : PipelineSession) : PipelineSession :=
  { s with
    slot := fun n => (s.slot n).flush platform.flushRule
    video := s.video.flush (Column.none Video) platform.flushRule }

def commit (s : PipelineSession) : PipelineSession :=
  { s with
    slot := fun n => (s.slot n).commit platform.flushRule
    video := s.video.commit (Column.none Video) platform.flushRule }

def rollback (s : PipelineSession) : PipelineSession :=
  { s with
    slot := fun n => (s.slot n).rollback
    video := s.video.rollback (Column.none Video) }

/-- The session after work that wrote it as far as `reach`. -/
def reached (reach : Reach) (s : PipelineSession) : PipelineSession :=
  match reach with
  | .untouched => s
  | .flushed => s.flush platform
  | .committed => s.commit platform

/-- The summary as its own session leaves it; the other rows went as far as it did. -/
def absorb (inner : StageSession) (s : PipelineSession) : PipelineSession :=
  let s := s.reached platform inner.reach
  { s.setSlot .summary ⟨(s.slot .summary).stored, some inner.stage⟩ with
    video := inner.video
    recoveryTarget := inner.recoveryTarget }

section lemmas

variable {platform} (s : PipelineSession) (n m : StageName) (f : PipelineStage → PipelineStage)

theorem rows_setRow : (s.setRow n f).rows m = if m = n then (s.rows m).map f else s.rows m := by
  by_cases h : m = n
  · subst h
    simp only [rows, setRow, setSlot, if_true, Slot.current, Slot.modify, Option.map_map]
    rfl
  · simp only [rows, setRow, setSlot, if_neg h]

@[simp] theorem rows_setRow_self : (s.setRow n f).rows n = (s.rows n).map f := by
  rw [rows_setRow, if_pos rfl]

theorem rows_setRow_of_ne (h : m ≠ n) : (s.setRow n f).rows m = s.rows m := by
  rw [rows_setRow, if_neg h]

@[simp] theorem durableRows_setRow : (s.setRow n f).durableRows = s.durableRows := by
  funext m
  by_cases h : m = n
  · subst h
    simp only [durableRows, setRow, setSlot, if_true, Slot.durable, Slot.modify, Option.map_map]
    rfl
  · simp only [durableRows, setRow, setSlot, if_neg h]

@[simp] theorem flushedRows_setRow : (s.setRow n f).flushedRows = s.flushedRows := by
  funext m
  by_cases h : m = n
  · subst h
    simp only [flushedRows, setRow, setSlot, if_true, Slot.flushed, Slot.modify, Option.map_map]
    rfl
  · simp only [flushedRows, setRow, setSlot, if_neg h]

@[simp] theorem rows_flush : (s.flush platform).rows = s.rows := by
  funext m
  simp only [rows, flush, Slot.current, Slot.flush, Option.map_map]
  rfl

@[simp] theorem durableRows_flush : (s.flush platform).durableRows = s.durableRows := by
  funext m
  simp only [durableRows, flush, Slot.durable, Slot.flush, Option.map_map]
  rfl

theorem flushedRows_flush : (s.flush platform).flushedRows n
    = (s.slot n).row.map (·.written planColumn platform.flushRule) := by
  simp only [flushedRows, flush, Slot.flushed, Slot.flush, Option.map_map]
  rfl

theorem rows_commit : (s.commit platform).rows n
    = (s.slot n).row.map (·.written planColumn platform.flushRule) := by
  simp only [rows, commit, Slot.current, Slot.commit, Option.map_map]
  rfl

theorem flushedRows_commit : (s.commit platform).flushedRows n
    = (s.slot n).row.map (·.written planColumn platform.flushRule) := by
  simp only [flushedRows, commit, Slot.flushed, Slot.commit, Option.map_map]
  rfl

theorem durableRows_commit : (s.commit platform).durableRows n
    = (s.slot n).row.map (·.written planColumn platform.flushRule) :=
  (s.slot n).durable_commit

@[simp] theorem rows_rollback : s.rollback.rows = s.durableRows :=
  funext fun m => (s.slot m).current_rollback

@[simp] theorem flushedRows_rollback : s.rollback.flushedRows = s.durableRows :=
  funext fun m => (s.slot m).flushed_rollback

@[simp] theorem durableRows_rollback : s.rollback.durableRows = s.durableRows :=
  funext fun m => (s.slot m).durable_rollback

/-- What does not look at the plan holds of a row after a commit, of what was in memory. -/
theorem commit_row {P : PipelineStage → Prop} (free : ∀ r d, P r → P (planColumn.set d r))
    (h : ∀ r, s.rows n = some r → P r) : ∀ r, (s.commit platform).rows n = some r → P r := by
  intro r hr
  rw [rows_commit, Option.map_eq_some_iff] at hr
  obtain ⟨i, hi, rfl⟩ := hr
  obtain ⟨d, hd⟩ := Instance.written_eq_set planColumn platform.flushRule i
  rw [hd]
  exact free _ d (h _ (by simp [rows, Slot.current, hi]))

theorem commit_row_some {P : PipelineStage → Prop} (free : ∀ r d, P r → P (planColumn.set d r))
    (h : ∃ r, s.rows n = some r ∧ P r) : ∃ r, (s.commit platform).rows n = some r ∧ P r := by
  obtain ⟨r, hr, hp⟩ := h
  obtain ⟨i, hi, rfl⟩ := Option.map_eq_some_iff.mp hr
  obtain ⟨d, hd⟩ := Instance.written_eq_set planColumn platform.flushRule i
  refine ⟨i.written planColumn platform.flushRule, ?_, hd ▸ free _ d hp⟩
  rw [rows_commit, hi, Option.map_some]

/-- After a commit the store has what is in memory. -/
theorem durableRows_commit_eq : (s.commit platform).durableRows = (s.commit platform).rows := by
  funext n
  rw [durableRows_commit, rows_commit]

theorem rows_added (r : PipelineStage) :
    (s.setSlot n (.added r)).rows m = if m = n then some r else s.rows m := by
  by_cases h : m = n <;> simp [rows, setSlot, h, Slot.added, Slot.current, Instance.load]

theorem durableRows_added (r : PipelineStage) :
    (s.setSlot n (.added r)).durableRows m = if m = n then none else s.durableRows m := by
  by_cases h : m = n <;> simp [durableRows, setSlot, h, Slot.added, Slot.durable]

variable (inner : StageSession)

theorem rows_absorb_of_ne (h : n ≠ .summary) :
    (s.absorb platform inner).rows n = (s.reached platform inner.reach).rows n := by
  simp only [rows, absorb, setSlot, if_neg h]

theorem durableRows_absorb_of_ne (h : n ≠ .summary) :
    (s.absorb platform inner).durableRows n = (s.reached platform inner.reach).durableRows n := by
  simp only [durableRows, absorb, setSlot, if_neg h]

end lemmas

end PipelineSession

/-- What a transcript provider gives. -/
inductive FetchOutcome
  /-- `fetch_transcript_result` of the repository's own service. -/
  | result (text : Option Text) (outcome : String)
  /-- `fetch_transcript` of any other. -/
  | text (text : Option Text)
  | raised

/-- How a message to Telegram ended. -/
inductive DeliveryOutcome
  | sent
  /-- `TelegramDeliveryAttemptError`. -/
  | refused (message : String) (retryable : Bool)
  | raised (message : String)
  deriving DecidableEq

inductive PipelineReply
  | now (t : Time)
  | committed
  | fetched (outcome : FetchOutcome)
  | delivery (outcome : DeliveryOutcome)
  /-- The answers of the summary's own session. -/
  | stage (replies : List Reply)
  /-- The work on other videos, and whether it raised. -/
  | others (reach : Reach) (raised : Bool)
  /-- How many of the video's rows a limited query returns, and whether it
  returns rows of other videos. -/
  | page (kept : Nat) (others : Bool)
  /-- Whether the query's first row is one of the video. -/
  | first (mine : Bool)
  /-- The number of a new row. -/
  | inserted (id : Int)

structure PipelineService where
  summaries : PipelineConfig
  transcriptService : Bool
  telegramService : Bool
  shortsProcessingEnabled : Bool
  startupBatchSize : Int
  summaryPaused : Bool

/-- `_should_process_video`. -/
def PipelineService.shouldProcess (service : PipelineService) (video : Video) : Prop :=
  service.shortsProcessingEnabled = true ∨ video.isShort ≠ some true

instance (service : PipelineService) (video : Video) : Decidable (service.shouldProcess video) :=
  inferInstanceAs (Decidable (_ ∨ _))

/-- What a step found: the service, the rows in memory and the video it looked at. -/
structure Moment where
  service : PipelineService
  rows : Rows
  video : Video

inductive PipelineEvent
  /-- Something the summary's own session did. -/
  | stage (e : Event)
  | fetch (outcome : Option FetchOutcome)
  /-- A call of `send_video_notification`. -/
  | notify (outcome : Option DeliveryOutcome)
  /-- A call of `send_message` with a fallback message. -/
  | fallback (rows : Rows) (message : String) (outcome : Option DeliveryOutcome)
  /-- A stage changes to skipped. -/
  | skip (n : StageName) (moment : Moment)
  /-- `process_pending_stages` looks at what a stage depends on. -/
  | dependency (n : StageName) (moment : Moment)
  | committed
  | rolledBack
  /-- The work on another video raised. -/
  | raised

abbrev PipelineWorld := World PipelineReply PipelineEvent PipelineSession

abbrev PipelineProc := Proc PipelineReply PipelineEvent PipelineSession

section operations

variable (platform : Platform)

def utcNow : PipelineProc Time :=
  Proc.ask fun r => match r with
    | .now t => some t
    | _ => none

def rows : PipelineProc Rows := do
  return (← Proc.read).rows

def videoRow : PipelineProc Video := do
  return (← Proc.read).video.current

def setRow (n : StageName) (f : PipelineStage → PipelineStage) : PipelineProc Unit :=
  Proc.modify (·.setRow n f)

def setVideo (f : Video → Video) : PipelineProc Unit :=
  Proc.modify fun s => { s with video := s.video.modify f }

def flush : PipelineProc Unit := Proc.modify (·.flush platform)

/-- What a commit leaves on the trace. -/
def commits : Reach → List PipelineEvent
  | .committed => [.committed]
  | _ => []

/-- The session goes as far as `reach`. -/
def goTo (reach : Reach) : PipelineProc Unit := do
  Proc.modify (·.reached platform reach)
  Proc.when (reach = .committed) (Proc.emit fun _ => .committed)

/-- `session.commit()`: the process may die before or after it. -/
def commit : PipelineProc Unit := do
  Proc.ask fun r => match r with
    | .committed => some ()
    | _ => none
  goTo platform .committed

def raise : PipelineProc Unit := do
  Proc.emit fun _ => .raised
  Proc.lose

/-- The session's work on other videos. -/
def others : PipelineProc Unit := do
  let (reach, raised) ← Proc.ask fun r => match r with
    | .others reach raised => some (reach, raised)
    | _ => none
  goTo platform reach
  Proc.when raised raise

def fetch : PipelineProc FetchOutcome :=
  Proc.exchange (fun r => match r with
    | .fetched outcome => some outcome
    | _ => none) fun _ outcome => .fetch outcome

def viewDelivery : PipelineReply → Option DeliveryOutcome
  | .delivery outcome => some outcome
  | _ => none

def viewStage : PipelineReply → Option (List Reply)
  | .stage replies => some replies
  | _ => none

/-- Takes up what the summary's session did. The other rows stand still while it
runs, so a commit of it stands on the trace before its events. -/
def takeUp (inner : StageWorld) (w : PipelineWorld) : PipelineWorld where
  state := w.state.absorb platform inner.state
  replies := w.replies
  trace := inner.trace.map .stage ++ (commits inner.state.reach ++ w.trace)

/-- Work on the summary, where there is one. -/
def onSummary (p : StageProc Unit) : PipelineProc Unit := do
  match ((← Proc.read).slot .summary).row with
  | none => pure ()
  | some stage =>
    Proc.nest viewStage (fun s => ⟨stage, s.video, s.recoveryTarget, .untouched⟩) (takeUp platform) p

end operations

end YTPipe.Pipeline
