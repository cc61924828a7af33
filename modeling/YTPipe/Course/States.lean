import YTPipe.LedgerRows

/-!
# The course of an attempt

An attempt of a summary stage takes its row through the same states whatever is
asked about it: at rest, begun, requested, over. What holds of the row in each, and
is passed on by each thing the attempt writes, holds wherever the attempt ends.
-/

namespace YTPipe

open Broker Proc Ledger

/-- The row `save_completed` leaves. -/
def savedRow (plan : ChunkPlan) (output : Text) (r : PipelineStage) : PipelineStage :=
  planColumn.set
    (if plan.nextStep + 1 ≥ plan.steps.length then none
      else some (plan.completeStep plan.nextStep output))
    { r with attemptCount := max 0 (r.attemptCount - 1) }

/-- The columns a summary of the direct route leaves. -/
def directDoneRow (r : PipelineStage) : PipelineStage :=
  { r with
    status := .completed
    lastError := none
    failureClass := none
    failureCode := none
    nextAttemptAt := none
    quarantinedAt := none }

/-- The columns an empty summary of the direct route leaves. -/
def directEmptyRow (r : PipelineStage) : PipelineStage :=
  { r with
    lastError := some (r.lastError.getD "Summary generation failed.")
    status := if r.attemptCount ≥ r.maxAttempts then .failed else .pendingRetry }

/-- What holds of a row and of what was done, in a state of an attempt. -/
abbrev RowState := PipelineStage → List Event → Prop

/-- A flush, which may write another plan than the one in memory unless flushes are
trusted, keeps `P`. -/
def Sturdy (trusted : List Event → Prop) (P : RowState) : Prop :=
  ∀ d r l, P r l → trusted l ∨ P (planColumn.set d r) l

/-- A state of an attempt under way: a row in it may be left as it is. -/
structure Underway (trusted : List Event → Prop) (ever P : RowState) : Prop where
  ever : ∀ r l, Live r → P r l → ever r l
  sturdy : Sturdy trusted P

/-- What passes on, where the stage is settled by an outcome. -/
def Settles (P past : RowState) : Prop :=
  ∀ outcome attemptedAt taskId confirmed r l, Live r → P r l →
    (outcome.disposition = .retry → r.attemptCount < max 1 r.maxAttempts) →
    past (settledRow outcome attemptedAt taskId confirmed r) l

/-- The row holds the plan `p`, as far as flushes are trusted. -/
def Planned (trusted : List Event → Prop) (p : Option ChunkPlan) (r : PipelineStage)
    (l : List Event) : Prop :=
  trusted l → r.brokerChunkPlan = p

/-- The states of an attempt, and what leads from one to the next short of the direct
route; `trusted` tells of what was done whether flushes still write what was assigned. -/
structure BrokerCourse (platform : Platform) (trusted : List Event → Prop)
    (rest begun posted past ever : RowState) : Prop where
  earlier : ∀ e l, trusted (e :: l) → trusted l
  resting : Underway trusted ever rest
  beginning : Underway trusted ever begun
  posting : Underway trusted ever posted
  past_ever : ∀ r l, past r l → ever r l
  raised : ∀ cause r l, ever r l → ever r (.raised cause :: l)
  past_sturdy : Sturdy trusted past
  start : ∀ attemptedAt r l, Live r → rest r l → begun (startAttempt attemptedAt r) l
  prepare : ∀ key r l, begun r l → begun (prepareRow key r) l
  accept : ∀ accepted key r l, posted r l → posted (acceptRow accepted key r) l
  correlate_begun : ∀ task key r l, begun r l → begun (keepCorrelation task key r) l
  correlate_posted : ∀ task key r l, posted r l → posted (keepCorrelation task key r) l
  post : ∀ (p : Post) l, p.current = p.durable → Live p.durable → begun p.durable l →
    posted p.durable (.post p :: l)
  sleep : ∀ d r l, posted r l → posted r (.slept d :: l)
  get : ∀ (g : Get) r l, g.reader = .attempt → g.durable = r → g.current = r → Live r → posted r l →
    posted r (.get g :: l)
  settle_begun : Settles begun past
  settle_posted : Settles posted past
  finish : ∀ r l, posted r l → past (completeRow true r) l
  finishPlan : ∀ plan output r l, posted r l → Planned trusted (some plan) r l →
    past (completeRow true (savedRow plan output r)) l
  piece : ∀ plan step output r l, posted r l → Planned trusted (some plan) r l →
    plan.steps[plan.nextStep.toNat]? = some step → operationKind step ≠ finalKind →
    rest (completeRow false (savedRow plan output r)) l
  refuse : ∀ attemptedAt code r l, Live r → rest r l →
    past (planColumn.set none (localFailureRow attemptedAt code r)) l
  stop : ∀ r l, Live r → rest r l → past r l
  build : ∀ plan transcript config r l, rest r l → r.brokerChunkPlan = none →
    buildPlan platform transcript config = .ok (some plan) → rest (planColumn.set (some plan) r) l
  present : ∀ r l, Live r → rest r l → past { r with status := .completed } l
  fail : ∀ error cls code r l, Live r → rest r l →
    past { r with
      status := .failed, lastError := error, failureClass := cls, failureCode := code } l

/-- The states of an attempt on the direct route. -/
structure DirectCourse (trusted : List Event → Prop) (rest begun called past ever : RowState) :
    Prop where
  earlier : ∀ e l, trusted (e :: l) → trusted l
  calling : Underway trusted ever called
  past_ever : ∀ r l, past r l → ever r l
  past_sturdy : Sturdy trusted past
  start : ∀ attemptedAt r l, Live r → rest r l → begun (startAttempt attemptedAt r) l
  call : ∀ d r l, Live r → begun r l → called r (.summarize d r :: l)
  fail : ∀ code now r l, Live r → called r l → past (directFailureRow
    (classifySummaryFailure .direct code r.attemptCount r.maxAttempts now none) r) l
  done : ∀ r l, called r l → past (directDoneRow r) l
  empty : ∀ r l, Live r → called r l → past (directEmptyRow r) l

/-- The states of an attempt on either route. -/
structure Course (platform : Platform) (trusted : List Event → Prop)
    (rest begun posted past ever : RowState) : Prop
    extends BrokerCourse platform trusted rest begun posted past ever where
  call : ∀ d r l, Live r → begun r l → posted r (.summarize d r :: l)
  directFail : ∀ code now r l, Live r → posted r l → past (directFailureRow
    (classifySummaryFailure .direct code r.attemptCount r.maxAttempts now none) r) l
  directDone : ∀ r l, posted r l → past (directDoneRow r) l
  directEmpty : ∀ r l, Live r → posted r l → past (directEmptyRow r) l

theorem Course.direct {platform : Platform} {trusted : List Event → Prop}
    {rest begun posted past ever : RowState}
    (course : Course platform trusted rest begun posted past ever) :
    DirectCourse trusted rest begun posted past ever where
  earlier := course.earlier
  calling := course.posting
  past_ever := course.past_ever
  past_sturdy := course.past_sturdy
  start := course.start
  call := course.call
  fail := course.directFail
  done := course.directDone
  empty := course.directEmpty

/-- The row was in the state `ever` at some time. -/
def Sometime (ever : RowState) (r : PipelineStage) : Prop := ∃ l, ever r l

/-- What the session has written since `before` is `ever`. -/
def Reached (ever : PipelineStage → Prop) (before s : StageSession) : Prop :=
  match s.reach with
  | .untouched => s.stage.flushed = before.stage.flushed ∧ s.stage.durable = before.stage.durable
  | .flushed => ever s.stage.flushed ∧ s.stage.durable = before.stage.durable
  | .committed => ever s.stage.flushed ∧ ever s.stage.durable

/-- A quarantine that is written is in memory. -/
def Calm (i : StageInstance) : Prop :=
  i.current.quarantinedAt = none → i.flushed.quarantinedAt = none

/-- What has ended durably has ended so wherever the session has it. -/
def Settled (i : StageInstance) : Prop :=
  ¬ i.durable.status.isOpen →
    i.flushed.status = i.durable.status ∧ i.current.status = i.durable.status

/-- The row's task may be asked for. -/
def Eligible (r : PipelineStage) : Prop :=
  r.quarantinedAt.isSome ∧ r.reconciliationStatus = some .getEligible

/-- What is written eligible is so in memory, with the same task. -/
def Firm (i : StageInstance) : Prop :=
  Eligible i.flushed → Eligible i.current ∧ i.current.brokerTaskId = i.flushed.brokerTaskId

/-- A flush writes the row in memory, and an object that is read after the next commit
is none of those up to `object`. -/
structure Owned (platform : Platform) (object : Nat) (i : StageInstance) : Prop where
  faithful : i.Faithful planColumn platform.flushRule
  present : i.present < i.fresh
  object : object < i.fresh

/-- The attempt may be lost here. -/
structure Adrift (ever : RowState) (before : StageSession) (w : StageWorld) : Prop where
  row : ever w.state.stage.current w.trace
  reached : Reached (Sometime ever) before w.state
  calm : Calm before.stage → Calm w.state.stage
  settled : before.stage.durable.status.isOpen → Settled w.state.stage
  firm : Calm before.stage → Firm before.stage → Firm w.state.stage

/-- The attempt has ended, its row `past`. -/
structure Ended (platform : Platform) (trusted : List Event → Prop) (past ever : RowState)
    (before : StageSession) (w : StageWorld) : Prop where
  row : past w.state.stage.current w.trace
  owned : trusted w.trace → Owned platform 0 w.state.stage
  reached : Reached (Sometime ever) before w.state
  calm : Calm before.stage → Calm w.state.stage
  settled : before.stage.durable.status.isOpen → Settled w.state.stage
  firm : Calm before.stage → Firm before.stage → Firm w.state.stage

/-- A plan that was read, and the object it was read from. -/
structure PlanRead where
  plan : Option ChunkPlan
  object : Nat

/-- The attempt is in the state `P`, with the plan that was read. -/
structure In (platform : Platform) (trusted : List Event → Prop) (P ever : RowState)
    (before : StageSession) (p : PlanRead) (w : StageWorld) : Prop where
  row : P w.state.stage.current w.trace
  live : Live w.state.stage.current
  plan : Planned trusted p.plan w.state.stage.current w.trace
  owned : trusted w.trace → Owned platform p.object w.state.stage
  reached : Reached (Sometime ever) before w.state
  calm : Calm before.stage → Calm w.state.stage
  going : before.stage.durable.status.isOpen → w.state.stage.durable.status.isOpen

/-- The attempt is in the state `P`, and its row is committed. -/
structure Held (platform : Platform) (trusted : List Event → Prop) (P ever : RowState)
    (before : StageSession) (p : PlanRead) (w : StageWorld) : Prop
    extends In platform trusted P ever before p w where
  flushed : w.state.stage.flushed = w.state.stage.current
  durable : w.state.stage.durable = w.state.stage.current
  renewed : trusted w.trace → p.object < w.state.stage.loaded

/-- The task is accepted, and its result is asked for. -/
structure Awaited (platform : Platform) (trusted : List Event → Prop) (posted ever : RowState)
    (before : StageSession) (p : PlanRead) (accepted : AcceptedTask) (w : StageWorld) : Prop
    extends Held platform trusted posted ever before p w where
  task : w.state.stage.current.brokerTaskId = some accepted.taskId
  named : accepted.taskId ≠ ""

section session

variable {platform : Platform} {trusted : List Event → Prop} {P Q past ever : RowState}
  {before : StageSession} {p : PlanRead} {object : Nat} {i : StageInstance} {w : StageWorld}

namespace Owned

theorem modify (h : Owned platform object i) (f : PipelineStage → PipelineStage) :
    Owned platform object (i.modify f) :=
  ⟨Instance.faithful_modify h.faithful, h.present, h.object⟩

/-- Only the row in memory is another. -/
theorem only (h : Owned platform object i) {i' : StageInstance}
    (same : i' = { i with current := i'.current }) : Owned platform object i' :=
  same ▸ h.modify fun _ => i'.current

theorem assign (h : Owned platform object i) (d : Option ChunkPlan) :
    Owned platform object (i.assign planColumn d) :=
  ⟨Instance.faithful_assign h.faithful, Nat.lt_succ_self _, Nat.lt_succ_of_lt h.object⟩

/-- An object that is older than the loaded one is changed in place. -/
theorem assignMutated (h : Owned platform object i) (older : object < i.loaded)
    (d : Option ChunkPlan) : Owned platform object (i.assignMutated planColumn object d) :=
  ⟨Instance.faithful_assignMutated h.faithful (Nat.ne_of_gt older), h.object, h.object⟩

theorem expire (h : Owned platform object i) : Owned platform object (i.expire planColumn) :=
  ⟨Instance.faithful_expire, Nat.lt_succ_self _, Nat.lt_succ_of_lt h.object⟩

theorem flush (h : Owned platform object i) :
    Owned platform object (i.flush planColumn platform.flushRule) :=
  ⟨Instance.faithful_flush h.faithful, h.present, h.object⟩

theorem commit (h : Owned platform object i) :
    Owned platform object (i.commit planColumn platform.flushRule) :=
  ⟨Instance.faithful_commit, Nat.lt_succ_self _, Nat.lt_succ_of_lt h.object⟩

theorem read (h : Owned platform object i) : Owned platform i.present i :=
  ⟨h.faithful, h.present, h.present⟩

theorem start (h : Owned platform object i) : Owned platform 0 i :=
  ⟨h.faithful, h.present, Nat.zero_lt_of_lt h.object⟩

end Owned

/-- A state that does not look at the plan trusts no flush. -/
theorem sturdy_free (free : ∀ d r l, P r l → P (planColumn.set d r) l) :
    Sturdy (fun _ => False) P := fun d r l h => .inr (free d r l h)

/-- What a flush writes is `P`, where flushes are trusted or `P` does not look at the plan. -/
theorem Sturdy.written (h : Sturdy trusted P) {l : List Event}
    (faithful : trusted l → i.Faithful planColumn platform.flushRule) (hp : P i.current l) :
    P (i.written planColumn platform.flushRule) l := by
  obtain ⟨d, hd⟩ := Instance.written_eq_set planColumn platform.flushRule i
  rcases h d _ l hp with trust | free
  · rw [Instance.written_of_faithful (faithful trust)]
    exact hp
  · rw [hd]
    exact free

theorem written_quarantine (i : StageInstance) (rule : FlushRule) :
    (i.written planColumn rule).quarantinedAt = i.current.quarantinedAt := by
  obtain ⟨d, hd⟩ := Instance.written_eq_set planColumn rule i
  rw [hd]
  rfl

theorem written_live {i : StageInstance} (rule : FlushRule) (h : Live i.current) :
    Live (i.written planColumn rule) := by
  obtain ⟨d, hd⟩ := Instance.written_eq_set planColumn rule i
  rw [hd]
  exact h

theorem calm_flush (i : StageInstance) (rule : FlushRule) : Calm (i.flush planColumn rule) := by
  intro quiet
  rw [Instance.flush_flushed, written_quarantine]
  exact quiet

theorem Reached.flush {s : StageSession} {ever : PipelineStage → Prop} (h : Reached ever before s)
    (row : ever (s.stage.written planColumn platform.flushRule)) :
    Reached ever before (s.flush platform) := by
  unfold Reached at h
  unfold Reached StageSession.flush
  cases hr : s.reach with
  | untouched =>
    rw [hr] at h
    exact ⟨row, h.2⟩
  | flushed =>
    rw [hr] at h
    exact ⟨row, h.2⟩
  | committed =>
    rw [hr] at h
    exact ⟨row, h.2⟩

theorem Reached.commit {s : StageSession} {ever : PipelineStage → Prop}
    (row : ever (s.stage.written planColumn platform.flushRule)) :
    Reached ever before (s.commit platform) := ⟨row, row⟩

theorem Reached.mono {s : StageSession} {ever ever' : PipelineStage → Prop}
    (h : Reached ever before s) (weaker : ∀ r, ever r → ever' r) : Reached ever' before s := by
  unfold Reached at h ⊢
  split at h
  · exact h
  · exact ⟨weaker _ h.1, h.2⟩
  · exact ⟨weaker _ h.1, weaker _ h.2⟩

theorem reached_start {s : StageSession} {ever : PipelineStage → Prop}
    (fresh : s.reach = .untouched) : Reached ever s s := by
  unfold Reached
  rw [fresh]
  exact ⟨rfl, rfl⟩

theorem firm_of_quiet {i : StageInstance} (quiet : i.flushed.quarantinedAt = none) : Firm i := by
  rintro ⟨held, _⟩
  rw [quiet] at held
  cases held

theorem firm_of_written {i : StageInstance} {d : Option ChunkPlan}
    (written : i.flushed = planColumn.set d i.current) : Firm i := by
  unfold Firm
  rw [written]
  exact fun eligible => ⟨eligible, rfl⟩

theorem firm_flush (i : StageInstance) (rule : FlushRule) : Firm (i.flush planColumn rule) := by
  obtain ⟨d, written⟩ := Instance.written_eq_set planColumn rule i
  exact firm_of_written (d := d) written

theorem settled_of_open {i : StageInstance} (going : i.durable.status.isOpen) : Settled i :=
  fun ended => absurd going ended

theorem settled_commit (i : StageInstance) (rule : FlushRule) :
    Settled (i.commit planColumn rule) := fun _ => ⟨rfl, rfl⟩

theorem settled_flush {i : StageInstance} (rule : FlushRule) (h : Settled i) :
    Settled (i.flush planColumn rule) := by
  intro ended
  obtain ⟨d, written⟩ := Instance.written_eq_set planColumn rule i
  have kept := (h ended).2
  refine ⟨?_, kept⟩
  rw [Instance.flush_flushed, written]
  exact kept

theorem In.faithful (h : In platform trusted P ever before p w) :
    trusted w.trace → w.state.stage.Faithful planColumn platform.flushRule :=
  fun trust => (h.owned trust).faithful

theorem Ended.faithful (h : Ended platform trusted past ever before w) :
    trusted w.trace → w.state.stage.Faithful planColumn platform.flushRule :=
  fun trust => (h.owned trust).faithful

theorem In.adrift (state : Underway trusted ever P) (h : In platform trusted P ever before p w) :
    Adrift ever before w :=
  ⟨state.ever _ _ h.live h.row, h.reached, h.calm, fun going => settled_of_open (h.going going),
    fun calm _ => firm_of_quiet (h.calm calm h.live.1)⟩

/-- Nothing catches what was raised. -/
theorem Adrift.raise (h : Adrift ever before w) {cause : Uncaught}
    (raised : ∀ cause r l, ever r l → ever r (.raised cause :: l)) :
    Adrift ever before { w with trace := .raised cause :: w.trace } :=
  ⟨raised cause _ _ h.row, h.reached, h.calm, h.settled, h.firm⟩

/-- Columns of the row in memory change. -/
theorem In.modify (h : In platform trusted P ever before p w) {f : PipelineStage → PipelineStage}
    (row : Q (f w.state.stage.current) w.trace) (live : Live (f w.state.stage.current))
    (same : (f w.state.stage.current).brokerChunkPlan = w.state.stage.current.brokerChunkPlan) :
    In platform trusted Q ever before p
      (withState w { w.state with stage := w.state.stage.modify f }) where
  row := row
  live := live
  plan trust := same.trans (h.plan trust)
  owned trust := (h.owned trust).modify f
  reached := h.reached
  calm start _ := h.calm start h.live.1
  going := h.going

theorem In.note (h : In platform trusted P ever before p w) {e : Event}
    (earlier : trusted (e :: w.trace) → trusted w.trace)
    (row : Q w.state.stage.current (e :: w.trace)) :
    In platform trusted Q ever before p { w with trace := e :: w.trace } :=
  ⟨row, h.live, fun trust => h.plan (earlier trust), fun trust => h.owned (earlier trust),
    h.reached, h.calm, h.going⟩

theorem In.replies (h : In platform trusted P ever before p w) (rest : List Reply) :
    In platform trusted P ever before p { w with replies := rest } :=
  ⟨h.row, h.live, h.plan, h.owned, h.reached, h.calm, h.going⟩

theorem Held.note (h : Held platform trusted P ever before p w) {e : Event}
    (earlier : trusted (e :: w.trace) → trusted w.trace)
    (row : Q w.state.stage.current (e :: w.trace)) :
    Held platform trusted Q ever before p { w with trace := e :: w.trace } :=
  ⟨h.toIn.note earlier row, h.flushed, h.durable, fun trust => h.renewed (earlier trust)⟩

theorem Held.replies (h : Held platform trusted P ever before p w) (rest : List Reply) :
    Held platform trusted P ever before p { w with replies := rest } :=
  ⟨h.toIn.replies rest, h.flushed, h.durable, h.renewed⟩

theorem Awaited.replies {accepted : AcceptedTask} (h : Awaited platform trusted P ever before p accepted w)
    (rest : List Reply) : Awaited platform trusted P ever before p accepted { w with replies := rest } :=
  ⟨h.toHeld.replies rest, h.task, h.named⟩

theorem Awaited.note {accepted : AcceptedTask} (h : Awaited platform trusted P ever before p accepted w)
    {e : Event} (earlier : trusted (e :: w.trace) → trusted w.trace)
    (row : Q w.state.stage.current (e :: w.trace)) :
    Awaited platform trusted Q ever before p accepted { w with trace := e :: w.trace } :=
  ⟨h.toHeld.note earlier row, h.task, h.named⟩

/-- The row changes for the last time. -/
theorem In.ended (h : In platform trusted P ever before p w) {v : StageWorld}
    (row : past v.state.stage.current v.trace)
    (flushed : v.state.stage.flushed = w.state.stage.flushed)
    (durable : v.state.stage.durable = w.state.stage.durable)
    (reach : v.state.reach = w.state.reach)
    (owned : trusted v.trace → Owned platform 0 v.state.stage) :
    Ended platform trusted past ever before v where
  row := row
  owned := owned
  reached := by
    have reached := h.reached
    unfold Reached at reached ⊢
    rw [flushed, durable, reach]
    exact reached
  calm start _ := flushed ▸ h.calm start h.live.1
  settled going := settled_of_open (durable ▸ h.going going)
  firm start _ := firm_of_quiet (flushed ▸ h.calm start h.live.1)

/-- Columns of the row change for the last time. -/
theorem In.last (h : In platform trusted P ever before p w) {s : StageSession}
    (row : past s.stage.current w.trace)
    (stage : s.stage = { w.state.stage with current := s.stage.current })
    (reach : s.reach = w.state.reach) :
    Ended platform trusted past ever before (withState w s) := by
  refine h.ended row ?_ ?_ reach fun trust => (h.owned trust).start.only stage
  all_goals rw [withState_state, stage]

theorem Ended.adrift (ends : ∀ r l, past r l → ever r l) (h : Ended platform trusted past ever before w) :
    Adrift ever before w := ⟨ends _ _ h.row, h.reached, h.calm, h.settled, h.firm⟩

theorem Ended.replies (h : Ended platform trusted past ever before w) (rest : List Reply) :
    Ended platform trusted past ever before { w with replies := rest } :=
  ⟨h.row, h.owned, h.reached, h.calm, h.settled, h.firm⟩

theorem Ended.weaken {past' : RowState} (h : Ended platform trusted past ever before w)
    (weaker : ∀ r l, past r l → past' r l) : Ended platform trusted past' ever before w :=
  ⟨weaker _ _ h.row, h.owned, h.reached, h.calm, h.settled, h.firm⟩

theorem Ended.session (h : Ended platform trusted past ever before w) {s : StageSession}
    (stage : s.stage = w.state.stage) (reach : s.reach = w.state.reach) :
    Ended platform trusted past ever before (withState w s) where
  row := by rw [withState_state, stage]; exact h.row
  owned := by rw [withState_state, stage]; exact h.owned
  reached := by
    have reached := h.reached
    unfold Reached at reached ⊢
    simp only [withState_state, stage, reach]
    exact reached
  calm := by rw [withState_state, stage]; exact h.calm
  settled := by rw [withState_state, stage]; exact h.settled
  firm := by rw [withState_state, stage]; exact h.firm

theorem Ended.flush (sturdy : Sturdy trusted past) (ends : ∀ r l, past r l → ever r l)
    (h : Ended platform trusted past ever before w) :
    Ended platform trusted past ever before (withState w (w.state.flush platform)) where
  row := h.row
  owned trust := (h.owned trust).flush
  reached := h.reached.flush ⟨_, ends _ _ (sturdy.written h.faithful h.row)⟩
  calm _ := calm_flush _ _
  settled going := settled_flush _ (h.settled going)
  firm _ _ := firm_flush _ _

theorem Ended.commit (sturdy : Sturdy trusted past) (ends : ∀ r l, past r l → ever r l)
    (h : Ended platform trusted past ever before w) :
    Ended platform trusted past ever before (withState w (w.state.commit platform)) where
  row := sturdy.written h.faithful h.row
  owned trust := (h.owned trust).commit
  reached := .commit ⟨_, ends _ _ (sturdy.written h.faithful h.row)⟩
  calm _ quiet := quiet
  settled _ := settled_commit _ _
  firm _ _ eligible := ⟨eligible, rfl⟩

end session

end YTPipe
