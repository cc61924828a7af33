import YTPipe.Pipeline.Failures
import YTPipe.Pipeline.Operations
import YTPipe.Pipeline.Summary

/-!
# Stages that have ended

A stage that is completed, failed or skipped stays so, unless a reconciliation
takes up a summary that ended while its quarantine was left on the row.
-/

namespace YTPipe.Pipeline

open Broker Proc

/-- What has ended durably has ended so in the session. -/
def Slot.Settled (x : Slot) : Prop := ∀ i, x.row = some i → YTPipe.Settled i

/-- What a step may do to a slot whose row has ended. -/
structure Slot.Keeps (x y : Slot) : Prop where
  settled : x.Settled → y.Settled
  durable : x.Settled → ∀ s, ¬ s.isOpen → x.durable.map (·.status) = some s →
    y.durable.map (·.status) = some s
  current : ∀ s, ¬ s.isOpen → x.current.map (·.status) = some s → y.current.map (·.status) = some s

namespace Slot

variable {rule : FlushRule} {x y z : Slot} {i i' : StageInstance}

theorem Keeps.refl (x : Slot) : x.Keeps x := ⟨id, fun _ _ _ h => h, fun _ _ h => h⟩

theorem written_status (i : StageInstance) : (i.written planColumn rule).status = i.current.status := by
  obtain ⟨d, written⟩ := Instance.written_eq_set planColumn rule i
  rw [written]
  rfl

theorem durable_some {s : Status} (h : x.durable.map (·.status) = some s) :
    ∃ i, x.stored = true ∧ x.row = some i ∧ i.durable.status = s := by
  unfold Slot.durable at h
  split at h
  · obtain ⟨r, hr, rfl⟩ := Option.map_eq_some_iff.mp h
    obtain ⟨i, hi, rfl⟩ := Option.map_eq_some_iff.mp hr
    exact ⟨i, ‹_›, hi, rfl⟩
  · cases h

/-- The row in memory changes, and one that has ended keeps its status. -/
theorem keeps_modify {f : PipelineStage → PipelineStage}
    (kept : ∀ r, x.current = some r → ¬ r.status.isOpen → (f r).status = r.status) :
    x.Keeps (x.modify f) := by
  have same (i : StageInstance) (row : x.row = some i) (ended : ¬ i.current.status.isOpen) :
      (f i.current).status = i.current.status :=
    kept i.current (by simp [Slot.current, row]) ended
  refine ⟨fun settled i' hi' => ?_, fun _ s _ h => ?_, fun s ended h => ?_⟩
  · obtain ⟨i, hi, rfl⟩ := Option.map_eq_some_iff.mp hi'
    intro ended
    obtain ⟨flushed, current⟩ := settled i hi ended
    refine ⟨flushed, (same i hi fun going => ended ?_).trans current⟩
    exact current ▸ going
  · obtain ⟨i, stored, hi, rfl⟩ := durable_some h
    simp [Slot.durable, Slot.modify, stored, hi]
  · obtain ⟨r, hr, rfl⟩ := Option.map_eq_some_iff.mp h
    obtain ⟨i, hi, rfl⟩ := Option.map_eq_some_iff.mp hr
    simp only [Slot.current, Slot.modify, hi, Option.map_some, Instance.modify_current]
    exact congrArg some (same i hi ended)

theorem keeps_flush (x : Slot) : x.Keeps (x.flush rule) := by
  refine ⟨fun settled i' hi' => ?_, fun _ s _ h => ?_, fun s _ h => ?_⟩
  · obtain ⟨i, hi, rfl⟩ := Option.map_eq_some_iff.mp hi'
    exact settled_flush rule (settled i hi)
  · obtain ⟨i, stored, hi, rfl⟩ := durable_some h
    simp [Slot.durable, Slot.flush, stored, hi]
  · obtain ⟨r, hr, rfl⟩ := Option.map_eq_some_iff.mp h
    obtain ⟨i, hi, rfl⟩ := Option.map_eq_some_iff.mp hr
    simp [Slot.current, Slot.flush, hi]

theorem keeps_commit (x : Slot) : x.Keeps (x.commit rule) := by
  refine ⟨fun settled i' hi' => ?_, fun settled s ended h => ?_, fun s _ h => ?_⟩
  · obtain ⟨i, hi, rfl⟩ := Option.map_eq_some_iff.mp hi'
    exact settled_commit i rule
  · obtain ⟨i, _, hi, rfl⟩ := durable_some h
    rw [durable_commit, hi]
    exact congrArg some ((written_status i).trans (settled i hi ended).2)
  · obtain ⟨r, hr, rfl⟩ := Option.map_eq_some_iff.mp h
    obtain ⟨i, hi, rfl⟩ := Option.map_eq_some_iff.mp hr
    simp only [Slot.current, Slot.commit, hi, Option.map_some]
    exact congrArg some (written_status i)

theorem keeps_added (absent : x.row = none) (r : PipelineStage) : x.Keeps (.added r) := by
  refine ⟨fun _ i hi => ?_, fun _ s _ h => ?_, fun s _ h => ?_⟩
  · cases hi
    exact fun _ => ⟨rfl, rfl⟩
  · obtain ⟨i, _, hi, _⟩ := durable_some h
    rw [absent] at hi
    cases hi
  · simp [Slot.current, absent] at h

/-- The row is left to work that began while it was open, or kept its status. -/
theorem keeps_inner {stored : Bool} (row : x.row = some i)
    (saved : x.stored = true → stored = true) (settled : YTPipe.Settled i → YTPipe.Settled i')
    (durable : YTPipe.Settled i → ¬ i.durable.status.isOpen → i'.durable.status = i.durable.status)
    (current : ¬ i.current.status.isOpen → i'.current.status = i.current.status) :
    x.Keeps ⟨stored, some i'⟩ := by
  refine ⟨fun held j hj => ?_, fun held s ended h => ?_, fun s ended h => ?_⟩
  · cases hj
    exact settled (held i row)
  · obtain ⟨j, hs, hj, rfl⟩ := durable_some h
    obtain rfl : i = j := Option.some.inj (row.symm.trans hj)
    simp only [Slot.durable, saved hs, if_true, Option.map_some]
    exact congrArg some (durable (held i row) ended)
  · rw [Slot.current, row] at h
    obtain rfl := Option.some.inj h
    exact congrArg some (current ended)

end Slot

/-- What has ended in `b` has ended so in `w`: durably, and in memory unless the
session was rolled back. -/
structure Stays (b w : PipelineWorld) : Prop where
  settled : ∀ n, (w.state.slot n).Settled
  durable : ∀ n s, ¬ s.isOpen → (b.state.durableRows n).map (·.status) = some s →
    (w.state.durableRows n).map (·.status) = some s
  current : ∃ l, w.trace = l ++ b.trace ∧ (.rolledBack ∈ l ∨ ∀ n s, ¬ s.isOpen →
    (b.state.rows n).map (·.status) = some s → (w.state.rows n).map (·.status) = some s)

namespace Stays

variable {platform : Platform} {service : PipelineService} {b w : PipelineWorld}

theorem refl (settled : ∀ n, (w.state.slot n).Settled) : Stays w w :=
  ⟨settled, fun _ _ _ h => h, [], rfl, .inr fun _ _ _ h => h⟩

theorem step (h : Stays b w) {v : PipelineWorld}
    (slots : ∀ n, (w.state.slot n).Keeps (v.state.slot n)) (later : ∃ l, v.trace = l ++ w.trace) :
    Stays b v := by
  obtain ⟨l, trace, current⟩ := h.current
  obtain ⟨l', later⟩ := later
  refine ⟨fun n => (slots n).settled (h.settled n), fun n s ended hs => ?_, l' ++ l, ?_, ?_⟩
  · exact (slots n).durable (h.settled n) s ended (h.durable n s ended hs)
  · rw [later, trace, List.append_assoc]
  · rcases current with undone | current
    · exact .inl (List.mem_append_right _ undone)
    · exact .inr fun n s ended hs => (slots n).current s ended (current n s ended hs)

theorem emits (h : Stays b w) (es : List PipelineEvent) :
    Stays b { w with trace := es ++ w.trace } :=
  h.step (fun _ => .refl _) ⟨es, rfl⟩

theorem emit (h : Stays b w) (e : PipelineEvent) : Stays b { w with trace := e :: w.trace } :=
  h.emits [e]

theorem replies (h : Stays b w) (rest : List PipelineReply) : Stays b { w with replies := rest } :=
  h.step (fun _ => .refl _) ⟨[], rfl⟩

theorem session (h : Stays b w) {s : PipelineSession} (slots : ∀ n, (w.state.slot n).Keeps (s.slot n)) :
    Stays b { w with state := s } :=
  h.step slots ⟨[], rfl⟩

theorem setRow (h : Stays b w) {n : StageName} {f : PipelineStage → PipelineStage}
    (kept : ∀ r, w.state.rows n = some r → ¬ r.status.isOpen → (f r).status = r.status) :
    Stays b { w with state := w.state.setRow n f } := by
  refine h.session fun m => ?_
  by_cases same : m = n
  · subst same
    simp only [PipelineSession.setRow, PipelineSession.setSlot, if_true]
    exact Slot.keeps_modify kept
  · simp only [PipelineSession.setRow, PipelineSession.setSlot, if_neg same]
    exact .refl _

/-- An open row changes. -/
theorem turn (h : Stays b w) {n : StageName} {r : PipelineStage} (row : w.state.rows n = some r)
    (isOpen : r.status.isOpen) (f : PipelineStage → PipelineStage) :
    Stays b { w with state := w.state.setRow n f } := by
  refine h.setRow fun r' hr' ended => ?_
  obtain rfl : r = r' := Option.some.inj (row.symm.trans hr')
  exact absurd isOpen ended

/-- The row changes in other columns. -/
theorem edit (h : Stays b w) {n : StageName} {f : PipelineStage → PipelineStage}
    (same : ∀ r, (f r).status = r.status) : Stays b { w with state := w.state.setRow n f } :=
  h.setRow fun r _ _ => same r

theorem undo (h : Stays b w) : Stays b (undo w) := by
  obtain ⟨l, trace, _⟩ := h.current
  refine ⟨fun n i' hi' => ?_, fun n s ended hs => ?_, .rolledBack :: l, ?_, ?_⟩
  · simp only [Pipeline.undo, PipelineSession.rollback, Slot.rollback] at hi'
    split at hi'
    · obtain ⟨i, _, rfl⟩ := Option.map_eq_some_iff.mp hi'
      exact fun _ => ⟨rfl, rfl⟩
    · cases hi'
  · simp only [Pipeline.undo, PipelineSession.durableRows_rollback]
    exact h.durable n s ended hs
  · exact congrArg (.rolledBack :: ·) trace
  · exact .inl (List.mem_cons_self ..)

end Stays

section steps

variable {platform : Platform} {service : PipelineService} {b w : PipelineWorld}

theorem stays_still : Still platform (Stays b) (Stays b) where
  lost _ h := h
  raised _ h := h.emit _
  reply _ rest h := h.replies rest
  flush w h := h.session fun n => (w.state.slot n).keeps_flush
  commit w h := (h.session (s := w.state.commit platform)
    fun n => (w.state.slot n).keeps_commit).emit _

theorem stays_create (n : StageName) (h : Stays b w) :
    wp (createStage n) (fun _ => Stays b) (Stays b) w := by
  apply wp_createStage h
  · exact fun _ => h
  intro absent id rest
  refine (h.replies rest).session fun m => ?_
  by_cases same : m = n
  · subst same
    simp only [PipelineSession.setSlot, if_true]
    exact Slot.keeps_added absent _
  · simp only [PipelineSession.setSlot, if_neg same]
    exact .refl _

theorem stays_transcript (h : Stays b w) :
    wp (attemptTranscriptStage service) (fun _ => Stays b) (Stays b) w := by
  have started {r : PipelineStage} (attemptedAt : Time) (rest : List PipelineReply)
      (row : w.state.rows .transcript = some r) (isOpen : r.status.isOpen) :=
    (h.replies rest).turn row isOpen (startAttempt attemptedAt)
  apply wp_attemptTranscriptStage h h
  · exact fun r row isOpen => h.turn row isOpen _
  · exact fun r row isOpen => h.turn row isOpen _
  · exact fun r attemptedAt rest row isOpen => (started attemptedAt rest row isOpen).emit _
  · intro r attemptedAt outcome text rest row isOpen _
    have fetched := (started attemptedAt rest row isOpen).emit (.fetch (some outcome))
    have kept := fetched.session (s := { w.state.setRow .transcript (startAttempt attemptedAt) with
      video := w.state.video.modify fun v => { v with transcript := some text } })
      fun n => .refl _
    exact kept.turn (own_row row (startAttempt attemptedAt)) isOpen fetchedRow
  · intro r attemptedAt outcome rest row isOpen _
    have fetched := (started attemptedAt rest row isOpen).emit (.fetch (some outcome))
    exact fetched.turn (own_row row (startAttempt attemptedAt)) isOpen (unfetchedRow outcome)

theorem stays_deliver (h : Stays b w) :
    wp (attemptTelegramStage service) (fun _ => Stays b) (Stays b) w := by
  have started {r : PipelineStage} (attemptedAt : Time) (rest : List PipelineReply)
      (row : w.state.rows .telegram = some r) (isOpen : r.status.isOpen) :=
    (h.replies rest).turn row isOpen (startAttempt attemptedAt)
  apply wp_attemptTelegramStage h h
  · exact fun r row isOpen _ => (h.turn row isOpen _).emit _
  · exact fun r row isOpen _ => (h.turn row isOpen _).emit _
  · exact fun r row isOpen => h.turn row isOpen _
  · exact fun r attemptedAt rest row isOpen => (started attemptedAt rest row isOpen).emit _
  · intro r attemptedAt outcome rest row isOpen
    have sent := (started attemptedAt rest row isOpen).emit (.notify (some outcome))
    exact sent.turn (own_row row (startAttempt attemptedAt)) isOpen (deliveredRow outcome)

theorem stays_skip (n : StageName) (video : Video) (h : Stays b w) :
    wp (skipStage service n video) (fun _ => Stays b) (Stays b) w := by
  apply wp_skipStage
  · exact fun _ => h
  · intro r row skipped
    refine h.setRow fun r' row' _ => ?_
    obtain rfl : r = r' := Option.some.inj (row.symm.trans row')
    simp [skipRow, skipped]
  · exact fun r row isOpen => (h.turn row isOpen _).emit _

/-- The fallback is attempted: it is open, or not refused. -/
theorem stays_single (h : Stays b w)
    (ready : ¬ service.refuses w.state.video.current
      ∨ (w.state.rows .fallbackTelegram).any (fun r => decide r.status.isOpen) = true) :
    wp (attemptSingleFallback service) (fun _ => Stays b) (Stays b) w := by
  apply wp_attemptSingleFallback h
  · intro _ _ refused
    obtain ⟨r, row, isOpen⟩ := (Option.any_eq_true _ _).mp (ready.resolve_left fun free => free refused)
    exact h.turn row (of_decide_eq_true isOpen) _
  · exact fun r row isOpen _ => h.turn row isOpen _
  · intro r reason row isOpen _
    have started (attemptedAt : Time) (rest : List PipelineReply) :=
      (h.replies rest).turn row isOpen (startAttempt attemptedAt)
    have told (attemptedAt : Time) (rest : List PipelineReply) (outcome : DeliveryOutcome) :=
      ((started attemptedAt rest).emit (.fallback
        (w.state.setRow .fallbackTelegram (startAttempt attemptedAt)).rows
        (fallbackMessage w.state.rows w.state.video.current reason) (some outcome))).turn
          (own_row row (startAttempt attemptedAt)) isOpen (toldRow outcome)
    apply wp_sendFallback h
    · exact fun attemptedAt rest => (started attemptedAt rest).emit _
    · exact fun attemptedAt outcome rest => told attemptedAt rest outcome
    · exact fun attemptedAt outcome rest => (told attemptedAt rest outcome).edit fun _ => rfl

end steps

section summary

variable {platform : Platform} {service : PipelineService} {b w : PipelineWorld}

theorem keeps_reached (s : PipelineSession) (reach : Reach) (n : StageName) :
    (s.slot n).Keeps ((s.reached platform reach).slot n) := by
  cases reach with
  | untouched => exact .refl _
  | flushed => exact Slot.keeps_flush _
  | committed => exact Slot.keeps_commit _

/-- What the summary's work leaves is taken up. -/
theorem Stays.takeUp (h : Stays b w) {stage : StageInstance} {inner : StageWorld}
    (row : (w.state.slot .summary).row = some stage)
    (settled : YTPipe.Settled stage → YTPipe.Settled inner.state.stage)
    (durable : YTPipe.Settled stage → ¬ stage.durable.status.isOpen →
      inner.state.stage.durable.status = stage.durable.status)
    (current : ¬ stage.current.status.isOpen →
      inner.state.stage.current.status = stage.current.status) :
    Stays b (takeUp platform inner w) := by
  refine h.step (fun n => ?_) ⟨inner.trace.map .stage ++ commits inner.state.reach, ?_⟩
  · by_cases summary : n = .summary
    · subst summary
      refine Slot.keeps_inner row ?_ settled durable current
      cases inner.state.reach with
      | untouched => exact id
      | flushed => exact id
      | committed => exact fun _ => by simp [PipelineSession.reached, PipelineSession.commit,
          Slot.commit, row]
    · have same : ((Pipeline.takeUp platform inner w).state.slot n)
          = (w.state.reached platform inner.state.reach).slot n := if_neg summary
      rw [same]
      exact keeps_reached w.state _ n
  · exact (List.append_assoc ..).symm

/-- The summary's row is as it was. -/
theorem Stays.idle (h : Stays b w) {stage : StageInstance} {inner : StageWorld}
    (row : (w.state.slot .summary).row = some stage)
    (state : inner.state = summarySession stage w.state) :
    Stays b (Pipeline.takeUp platform inner w) := by
  refine h.takeUp row ?_ ?_ ?_
  all_goals rw [state]
  · exact id
  · exact fun _ _ => rfl
  · exact fun _ => rfl

/-- The work began while the row was open. -/
theorem Stays.worked (h : Stays b w) {stage : StageInstance} {inner : StageWorld}
    (row : (w.state.slot .summary).row = some stage) (isOpen : stage.current.status.isOpen)
    (settled : stage.durable.status.isOpen → YTPipe.Settled inner.state.stage) :
    Stays b (Pipeline.takeUp platform inner w) := by
  have going (held : YTPipe.Settled stage) : stage.durable.status.isOpen :=
    Decidable.not_not.mp fun ended => ended ((held ended).2 ▸ isOpen)
  refine h.takeUp row (fun held => settled (going held)) (fun held ended => ?_) fun ended => ?_
  · exact absurd (going held) ended
  · exact absurd isOpen ended

/-- Any state of an attempt. -/
theorem any_course : Course platform (fun _ => False) (fun _ _ => True) (fun _ _ => True)
    (fun _ _ => True) (fun _ _ => True) (fun _ _ => True) := by
  have underway : Underway (fun _ => False) (fun _ _ => True) fun _ _ => True :=
    ⟨fun _ _ _ _ => trivial, sturdy_free fun _ _ _ _ => trivial⟩
  exact {
    earlier := fun _ _ h => h
    resting := underway
    beginning := underway
    posting := underway
    past_ever := fun _ _ h => h
    past_sturdy := underway.sturdy
    raised := fun _ _ _ h => h
    start := fun _ _ _ _ _ => trivial
    prepare := fun _ _ _ _ => trivial
    accept := fun _ _ _ _ _ => trivial
    correlate_begun := fun _ _ _ _ _ => trivial
    correlate_posted := fun _ _ _ _ _ => trivial
    post := fun _ _ _ _ _ => trivial
    sleep := fun _ _ _ _ => trivial
    get := fun _ _ _ _ _ _ _ _ => trivial
    settle_begun := fun _ _ _ _ _ _ _ _ _ => trivial
    settle_posted := fun _ _ _ _ _ _ _ _ _ => trivial
    finish := fun _ _ _ => trivial
    finishPlan := fun _ _ _ _ _ _ => trivial
    piece := fun _ _ _ _ _ _ _ _ _ => trivial
    refuse := fun _ _ _ _ _ _ => trivial
    stop := underway.ever
    build := fun _ _ _ _ _ _ _ _ => trivial
    call := fun _ _ _ _ _ => trivial
    directFail := fun _ _ _ _ _ _ => trivial
    directDone := fun _ _ _ => trivial
    directEmpty := fun _ _ _ _ => trivial
    present := fun _ _ _ _ => trivial
    fail := fun _ _ _ _ _ _ _ => trivial }

theorem stays_attempt (h : Stays b w) :
    wp (attemptSummary platform service) (fun _ => Stays b) (Stays b) w := by
  unfold attemptSummary
  apply wp_onSummary h h
  intro stage answers rest row
  rw [wp_bind]
  have h := h.replies rest
  refine wp_mono (any_course.wp_attemptSummaryStage (fun _ => trivial) False.elim (reached_start rfl)
    (fun v state _ => h.idle row state) fun v live adrift => ?_) (fun _ v out => ?_) fun _ hv => hv
  · exact h.worked row live.2 adrift.settled
  · rcases out with ⟨state, _⟩ | ⟨live, ended⟩
    · exact h.idle row state
    · exact h.worked row live.2 ended.settled

/-- Work that leaves the status. -/
theorem settled_of_reached {s : Status} {before after : StageSession}
    (current : before.stage.current.status = s) (own : after.stage.current.status = s)
    (reached : Reached (Sometime fun r _ => r.status = s) before after)
    (settled : YTPipe.Settled before.stage) (ended : ¬ before.stage.durable.status.isOpen) :
    after.stage.durable.status = before.stage.durable.status ∧ YTPipe.Settled after.stage := by
  obtain ⟨flushed, same⟩ := settled ended
  have was : before.stage.durable.status = s := same.symm.trans current
  unfold Reached at reached
  cases reach : after.reach with
  | untouched =>
    rw [reach] at reached
    obtain ⟨hf, hd⟩ := reached
    refine ⟨congrArg (·.status) hd, fun _ => ⟨?_, ?_⟩⟩
    · rw [hf, hd]
      exact flushed
    · rw [hd, own, was]
  | flushed =>
    rw [reach] at reached
    obtain ⟨⟨_, hf⟩, hd⟩ := reached
    refine ⟨congrArg (·.status) hd, fun _ => ⟨?_, ?_⟩⟩
    · rw [hf, hd, was]
    · rw [hd, own, was]
  | committed =>
    rw [reach] at reached
    obtain ⟨⟨_, hf⟩, ⟨_, hd⟩⟩ := reached
    exact ⟨hd.trans was.symm, fun _ => ⟨hf.trans hd.symm, own.trans hd.symm⟩⟩

/-- Work that left the row in its status. -/
theorem Stays.same (h : Stays b w) {stage : StageInstance} {inner : StageWorld}
    (row : (w.state.slot .summary).row = some stage)
    (own : inner.state.stage.current.status = stage.current.status)
    (reached : Reached (Sometime fun r _ => r.status = stage.current.status)
      (summarySession stage w.state) inner.state)
    (settled : stage.durable.status.isOpen → YTPipe.Settled inner.state.stage) :
    Stays b (Pipeline.takeUp platform inner w) := by
  have past := @settled_of_reached stage.current.status (summarySession stage w.state) inner.state
    rfl own reached
  refine h.takeUp row (fun held => ?_) (fun held ended => (past held ended).1) fun _ => own
  by_cases going : stage.durable.status.isOpen
  · exact settled going
  · exact (past held going).2

theorem stays_request (audit : String) (h : Stays b w) :
    wp (onSummary platform (requestReconciliation platform audit)) (fun _ => Stays b)
      (Stays b) w := by
  apply wp_onSummary h h
  intro stage answers rest row
  have h := h.replies rest
  apply wp_requestReconciliation
    fun r (_ : List Event) (same : r.status = stage.current.status) => same
  · exact sturdy_free fun _ _ _ same => same
  · exact fun _ _ _ same _ _ => same
  · rfl
  · exact False.elim
  · exact reached_start rfl
  · exact fun v adrift => h.same row adrift.row adrift.reached adrift.settled
  · exact fun v ended => h.same row ended.row ended.reached ended.settled

theorem open_reconciliation : ReconcileCourse platform (fun _ => False)
    (fun r _ => r.status.isOpen) (fun _ _ => True) (fun _ _ => True) where
  earlier _ _ h := h
  distrust _ _ _ h := h.elim
  past_ever _ _ h := h
  past_sturdy := sturdy_free fun _ _ _ h => h
  stays _ _ _ := trivial
  get _ _ _ _ _ _ h := h
  invalid _ _ _ := trivial
  still _ _ _ _ _ := trivial
  fails _ _ _ _ := trivial
  postpone _ _ _ _ := trivial
  part _ _ _ _ _ _ _ _ _ _ := trivial
  final _ _ _ _ _ _ := trivial

end summary

section runs

variable {platform : Platform} {service : PipelineService} {b w : PipelineWorld}

/-- A reconciliation would take up a summary that has ended. -/
def Revives (platform : Platform) (op : Operation) (w : PipelineWorld) : Prop :=
  op.activity = .call .reconcile ∧ ∃ broker reach now answers rest stage,
    op.service.summaries.summarizationService = some (.broker broker)
      ∧ op.replies = .others reach false :: .stage (.now now :: answers) :: rest
      ∧ ((w.state.reached platform reach).slot .summary).row = some stage
      ∧ reconcilable now stage.flushed ∧ ¬ stage.current.status.isOpen

/-- A reconciliation comes to an end with the task of a summary that has ended. -/
def Overturns (platform : Platform) (op : Operation) (s : PipelineSession) : Prop :=
  op.activity = .call .reconcile ∧ settlesSummary platform op.service op.replies s = true
    ∧ (s.rows .summary).any (fun r => decide (¬ r.status.isOpen)) = true

instance (op : Operation) (s : PipelineSession) : Decidable (Overturns platform op s) :=
  inferInstanceAs (Decidable (_ ∧ _ ∧ _))

theorem status_reached (s : PipelineSession) (reach : Reach) (n : StageName) :
    ((s.reached platform reach).rows n).map (·.status) = (s.rows n).map (·.status) := by
  cases reach with
  | untouched => rfl
  | flushed => exact congrArg (Option.map _) (congrFun (PipelineSession.rows_flush s) n)
  | committed => exact congrFun (congrArg Board.status board_commit) n

/-- The summary that a reconciliation comes upon has ended. -/
theorem ended_reached {s : PipelineSession} {reach : Reach} {stage : StageInstance}
    (row : ((s.reached platform reach).slot .summary).row = some stage) :
    (s.rows .summary).any (fun r => decide (¬ r.status.isOpen)) = true
      ↔ ¬ stage.current.status.isOpen := by
  have same := @status_reached platform s reach .summary
  rw [rows_of_slot row] at same
  obtain ⟨r, hr, status⟩ := Option.map_eq_some_iff.mp same.symm
  change r.status = stage.current.status at status
  rw [hr, Option.any_some, decide_eq_true_iff, status]

/-- What overturns a summary revives it. -/
theorem Overturns.revives {op : Operation} (h : Overturns platform op w.state) :
    Revives platform op w := by
  obtain ⟨call, settled, past⟩ := h
  obtain ⟨broker, reach, now, answers, rest, stage, wired, asked, row, listed, _⟩ :=
    settlesSummary_iff.mp settled
  exact ⟨call, broker, reach, now, answers, rest, stage, wired, asked, row, listed,
    (ended_reached row).mp past⟩

theorem stays_resolve {broker : BrokerService} (h : Stays b w)
    (going : ∀ now answers rest stage, w.replies = .stage (.now now :: answers) :: rest →
      (w.state.slot .summary).row = some stage → reconcilable now stage.flushed →
      settles platform broker (w.state.video.current.transcript.getD []) stage.current answers = true →
      stage.current.status.isOpen) :
    wp (onSummary platform (reconcileStage platform broker)) (fun _ => Stays b) (Stays b) w := by
  apply wp_onSummary_reply h h
  intro stage answers rest row asked
  have h := h.replies rest
  by_cases isOpen : stage.current.status.isOpen
  · apply open_reconciliation.wp_reconcileStage
    · exact fun _ _ _ _ => isOpen
    · exact trivial
    · exact False.elim
    · exact reached_start rfl
    · exact fun v state _ => h.idle row state
    · exact fun v ended => h.worked row isOpen ended.settled
  · apply wp_unsettledStage
    · intro now later clock listed
      refine Bool.eq_false_iff.mpr fun settled => isOpen ?_
      exact going now later rest stage (asked.trans (congrArg (.stage · :: rest) clock)) row listed
        settled
    · exact reached_start rfl
    · exact fun v state => h.idle row state
    · intro v ended
      refine h.same row ended.row.1 (ended.reached.mono ?_) ended.settled
      rintro r ⟨l, alike⟩
      exact ⟨l, alike.1⟩

theorem stays_reconcile {op : Operation} (h : Stays b { w with replies := op.replies })
    (call : op.activity = .call .reconcile) (unturned : ¬ Overturns platform op w.state) :
    wp (reconcileQuarantinedSummaries platform op.service) (fun _ => Stays b) (Stays b)
      { w with replies := op.replies } := by
  refine wp_reconcileAll stays_still (fun broker reach v wired asked same held => ?_) h
  apply stays_resolve held
  intro now answers rest stage clock row listed settled
  rw [same] at row settled
  refine Decidable.not_not.mp fun ended => unturned ⟨call, settlesSummary_iff.mpr ?_, ?_⟩
  · refine ⟨broker, reach, now, answers, rest, stage, wired, ?_, row, listed, settled⟩
    exact asked.trans (congrArg (.others reach false :: ·) clock)
  · exact (ended_reached row).mpr ended

theorem stays_steps (platform : Platform) (service : PipelineService) (b : PipelineWorld) :
    Steps platform service (Stays b) (Stays b) where
  still := stays_still
  create _ n := stays_create n
  transcript _ := stays_transcript
  attempt _ := stays_attempt
  deliver _ := stays_deliver
  skip _ n video _ := stays_skip n video
  overlook w n _ _ _ h := stays_skip n w.state.video.current (h.emit _)
  note _ _ _ _ _ h := h.emit _
  explain _ _ h := h.edit fun _ => rfl
  single _ isOpen h := stays_single h (.inr isOpen)
  request _ := stays_request
  video _ _ h := h.session fun _ => .refl _

/-- A fallback that is open as written is open in memory. -/
def Abreast (w : PipelineWorld) : Prop :=
  ∀ i, (w.state.slot .fallbackTelegram).row = some i → i.flushed.status.isOpen →
    i.current.status.isOpen

theorem abreast_flush (s : PipelineSession) (i : StageInstance)
    (row : ((s.flush platform).slot .fallbackTelegram).row = some i) (isOpen : i.flushed.status.isOpen) :
    i.current.status.isOpen := by
  obtain ⟨j, _, rfl⟩ := Option.map_eq_some_iff.mp row
  rw [Instance.flush_flushed, Slot.written_status] at isOpen
  exact isOpen

theorem abreast_commit (s : PipelineSession) (i : StageInstance)
    (row : ((s.commit platform).slot .fallbackTelegram).row = some i)
    (isOpen : i.flushed.status.isOpen) : i.current.status.isOpen := by
  obtain ⟨j, _, rfl⟩ := Option.map_eq_some_iff.mp row
  exact isOpen

/-- The fallback is retried after its rows were written, or is not refused. -/
def Retriable (b : PipelineWorld) (service : PipelineService) (w : PipelineWorld) : Prop :=
  Stays b w ∧ (service.shortsProcessingEnabled = false → Abreast w)

theorem retriable_still : Still platform (Retriable b service) (Stays b) :=
  stays_still.and (fun _ _ h => h) (fun w _ _ => abreast_flush w.state)
    fun w _ _ => abreast_commit w.state

theorem retriable_enter (h : Stays b w) :
    wp (skipDisabledShortStagesForUser platform service) (fun _ => Retriable b service)
      (Stays b) w := by
  unfold skipDisabledShortStagesForUser
  rw [wp_when]
  split
  · next disabled =>
    rw [wp_bind, wp_read, wp_bind]
    refine wp_mono ((stays_steps platform service b).shortRows disabled h) (fun _ v h => ?_)
      (fun _ h => h)
    exact ⟨stays_still.flush v h, fun _ => abreast_flush v.state⟩
  · next enabled => exact ⟨h, fun off => absurd off enabled⟩

theorem stays_retry (h : Retriable b service w) :
    wp (retryFallback platform service) (fun _ => Stays b) (Stays b) w := by
  by_cases disabled : service.shortsProcessingEnabled = false
  · unfold retryFallback
    rw [wp_bind, wp_read, wp_bind]
    by_cases listed : StageName.fallbackTelegram ∈ openRows w.state
    · have isOpen : (w.state.rows .fallbackTelegram).any (fun r => decide r.status.isOpen) = true := by
        obtain ⟨r, hr, open?⟩ := (Option.any_eq_true _ _).mp (List.mem_filter.mp listed).2
        obtain ⟨i, hi, rfl⟩ := Option.map_eq_some_iff.mp hr
        refine (Option.any_eq_true _ _).mpr
          ⟨i.current, by simp [PipelineSession.rows, Slot.current, hi], ?_⟩
        exact decide_eq_true (h.2 disabled i hi (of_decide_eq_true open?))
      have still : Still platform (fun v => Stays b v
          ∧ (v.state.rows .fallbackTelegram).any (fun r => decide r.status.isOpen) = true)
          (Stays b) := by
        refine stays_still.and (fun _ _ h => h) (fun v h => ?_) fun v h => ?_
        · rw [PipelineSession.rows_flush]
          exact h
        · obtain ⟨r, hr, open?⟩ := (Option.any_eq_true _ _).mp h
          exact (Option.any_eq_true _ _).mpr (PipelineSession.commit_row_some v.state .fallbackTelegram
            (P := fun r => decide r.status.isOpen = true) (fun _ _ h => h) ⟨r, hr, open?⟩)
      refine wp_mono (still.others ⟨h.1, isOpen⟩) (fun _ v h => ?_) (fun _ h => h)
      rw [wp_bind, wp_when, if_pos listed]
      exact wp_mono (stays_single h.1 (.inr h.2)) (fun _ v h => stays_still.others h) (fun _ h => h)
    · refine wp_mono (stays_still.others h.1) (fun _ v h => ?_) (fun _ h => h)
      rw [wp_bind, wp_when, if_neg listed]
      exact stays_still.others h
  · exact wp_retryFallback stays_still stays_still (fun _ h => h)
      (fun _ h => stays_single h (.inl fun refused => disabled refused.1)) h.1

theorem stays_calls (platform : Platform) (service : PipelineService) (b : PipelineWorld) :
    Calls platform service (Stays b) (Retriable b service) (Stays b) :=
  (stays_steps platform service b).calls retriable_still (fun _ h => h.1)
    (fun _ => retriable_enter) fun _ => stays_retry

/-- An operation that overturns nothing. -/
theorem stays_operation {op : Operation} (unturned : ¬ Overturns platform op w.state)
    (h : Stays b w) :
    wp (op.activity.proc platform op.service) (fun _ => Stays b) (Stays b)
      { w with replies := op.replies } := by
  have held := h.replies op.replies
  apply op.activity.keeps
  · intro call same
    refine (stays_calls platform op.service b).keeps call held (fun reconciles => ?_)
      fun _ => held.undo
    exact stays_reconcile held (same.trans (congrArg _ reconciles)) unturned
  · exact fun _ => wp_finalizeSummaryCircuit stays_still (fun _ h => h.edit fun _ => rfl)
      (fun _ => stays_attempt) held

theorem stays_run {ops : List Operation} (unturned : ∀ earlier op later,
      ops = earlier ++ op :: later →
        ¬ Overturns platform op (runOperations platform earlier w).state)
    (h : Stays b w) : Stays b (runOperations platform ops w) := by
  refine runOperations_keeps (fun earlier op later split held => ?_) h
  exact wp_mono (stays_operation (unturned earlier op later split) held) (fun _ _ h => h)
    fun _ h => ⟨h, h.undo⟩

/-- What has ended after some of a run stays to its end. -/
theorem stays_between {userId : Int} {rows : Rows} {video : Video} {before after : List Operation}
    (unturned : ∀ earlier op later, before ++ after = earlier ++ op :: later →
      ¬ Overturns platform op (runOperations platform earlier (openVideo userId rows video)).state) :
    Stays (runOperations platform before (openVideo userId rows video))
      (runOperations platform (before ++ after) (openVideo userId rows video)) := by
  have fresh : ∀ n, ((openVideo userId rows video).state.slot n).Settled := by
    intro n i hi
    simp only [openVideo] at hi
    cases hr : rows n with
    | none =>
      rw [hr] at hi
      cases hi
    | some r =>
      rw [hr] at hi
      cases hi
      exact fun _ => ⟨rfl, rfl⟩
  have first : Stays (openVideo userId rows video)
      (runOperations platform before (openVideo userId rows video)) := by
    refine stays_run (fun earlier op later split => ?_) (Stays.refl fresh)
    exact unturned earlier op (later ++ after)
      (by rw [split, List.append_assoc, List.cons_append])
  rw [runOperations_append]
  refine stays_run (fun earlier op later split => ?_) (Stays.refl first.settled)
  have calm := unturned (before ++ earlier) op later (by rw [split, List.append_assoc])
  rwa [runOperations_append] at calm

/-- The stages that have ended in `b` have the same status in `w`: durably, and in
memory unless the session was rolled back in between. -/
def EndedStay (b w : PipelineWorld) : Prop :=
  ∀ n s, s = .completed ∨ s = .failed ∨ s = .skipped →
    ((b.state.durableRows n).map (·.status) = some s →
        (w.state.durableRows n).map (·.status) = some s)
      ∧ ((b.state.rows n).map (·.status) = some s →
        (w.state.rows n).map (·.status) = some s
          ∨ ∃ l, w.trace = l ++ b.trace ∧ .rolledBack ∈ l)

theorem Stays.ended (h : Stays b w) : EndedStay b w := by
  intro n s past
  have ended : ¬ s.isOpen := by
    rcases past with rfl | rfl | rfl <;> decide
  refine ⟨h.durable n s ended, fun was => ?_⟩
  obtain ⟨l, trace, undone | current⟩ := h.current
  · exact .inr ⟨l, trace, undone⟩
  · exact .inl (current n s ended was)

/-- Whatever is done to a video's stages, one that is completed, failed or skipped
stays so, in every run in which no reconciliation takes up a summary that has ended. -/
theorem ended_stay (platform : Platform) (userId : Int) (rows : Rows) (video : Video)
    (before after : List Operation)
    (unrevived : ∀ earlier op later, before ++ after = earlier ++ op :: later →
      ¬ Revives platform op (runOperations platform earlier (openVideo userId rows video))) :
    EndedStay (runOperations platform before (openVideo userId rows video))
      (runOperations platform (before ++ after) (openVideo userId rows video)) := by
  refine (stays_between fun earlier op later split overturns => ?_).ended
  exact unrevived earlier op later split overturns.revives

/-- The transcript is unavailable, and the user is told. -/
def Sample.endedOps : List Operation :=
  [⟨Sample.service .direct, .call .processNew, [.inserted 1, .inserted 2, .inserted 3, .now 0,
      .fetched (.result none "unavailable"), .inserted 4, .now 0, .delivery .sent]⟩,
    ⟨Sample.service .direct, .call .commit, [.committed]⟩]

/-- The service comes back to the video. -/
def Sample.laterOps : List Operation :=
  [⟨Sample.service .direct, .call .processNew, []⟩,
    ⟨Sample.service .direct, .finalize, [.first true, Sample.idle]⟩,
    ⟨Sample.service .direct, .call .rollback, []⟩]

theorem ended_stay_unavailable :
    ((runOperations (YTPipe.Sample.platform .assigned) Sample.endedOps
        Sample.fresh).state.durableRows .transcript).map (·.status) = some .failed
      ∧ EndedStay (runOperations (YTPipe.Sample.platform .assigned) Sample.endedOps Sample.fresh)
        (runOperations (YTPipe.Sample.platform .assigned) (Sample.endedOps ++ Sample.laterOps)
          Sample.fresh) := by
  refine ⟨by decide +kernel, ended_stay _ 1 (fun _ => none) Sample.video Sample.endedOps
    Sample.laterOps fun earlier op later split revives => ?_⟩
  have member : op ∈ Sample.endedOps ++ Sample.laterOps :=
    split ▸ List.mem_append_right _ (List.mem_cons_self ..)
  have direct : op.service = Sample.service .direct := by
    simp only [Sample.endedOps, Sample.laterOps, List.cons_append, List.nil_append,
      List.mem_cons, List.not_mem_nil, or_false] at member
    rcases member with rfl | rfl | rfl | rfl | rfl <;> rfl
  obtain ⟨_, _, _, _, _, _, _, brokered, _⟩ := revives
  rw [direct] at brokered
  cases brokered

/-- The summary of a video that turns out to be a Short is skipped in quarantine. -/
def Sample.skippedOps : List Operation :=
  [⟨Sample.brokered, .call .processNew, [.inserted 1, .inserted 2, .inserted 3, .now 0,
      .fetched (.text (some ['a', 'b'])), .stage [.now 0, .committed, .clock 0, .clock 0,
        YTPipe.Sample.created "t", .clock 0, .committed, .clock 0, .clock 300, .committed],
      .inserted 4, .now 0, .delivery .sent]⟩,
    ⟨Sample.brokered, .call (.video { Sample.video with
      transcript := some ['a', 'b'], isShort := some true }), []⟩,
    ⟨Sample.brokered, .call .commit, [.committed]⟩,
    ⟨{ Sample.brokered with shortsProcessingEnabled := false }, .call .skipShorts, [Sample.idle]⟩,
    ⟨Sample.brokered, .call .commit, [.committed]⟩]

/-- No stage that is completed, failed or skipped gets another status, in every run in
which no reconciliation comes to an end with the task of a summary that has ended. -/
theorem terminal_absorbing (platform : Platform) (userId : Int) (rows : Rows) (video : Video)
    (before after : List Operation)
    (unturned : Shuns platform (Overturns platform) (before ++ after)
      (openVideo userId rows video)) :
    EndedStay (runOperations platform before (openVideo userId rows video))
      (runOperations platform (before ++ after) (openVideo userId rows video)) :=
  (stays_between (shuns_iff.mp unturned)).ended

/-- The operator has its task looked up, which is not done. -/
def Sample.unansweredOps : List Operation :=
  [⟨Sample.brokered, .call (.request "late"), [.stage [.now 1, .committed]]⟩,
    ⟨Sample.brokered, .call .reconcile, [Sample.idle, .stage [.now 2,
      YTPipe.Sample.unfinished], Sample.idle]⟩,
    ⟨Sample.brokered, .call .commit, [.committed]⟩]

theorem terminal_absorbing_skipped :
    ((runOperations (YTPipe.Sample.platform .assigned) Sample.skippedOps
        Sample.fresh).state.durableRows .summary).map (·.status) = some .skipped
      ∧ EndedStay (runOperations (YTPipe.Sample.platform .assigned) Sample.skippedOps Sample.fresh)
        (runOperations (YTPipe.Sample.platform .assigned)
          (Sample.skippedOps ++ Sample.unansweredOps) Sample.fresh) := by
  have facts : ((runOperations (YTPipe.Sample.platform .assigned) Sample.skippedOps
        Sample.fresh).state.durableRows .summary).map (·.status) = some .skipped
      ∧ Shuns (YTPipe.Sample.platform .assigned) (Overturns (YTPipe.Sample.platform .assigned))
        (Sample.skippedOps ++ Sample.unansweredOps) Sample.fresh := by
    decide +kernel
  exact ⟨facts.1, terminal_absorbing _ 1 (fun _ => none) Sample.video Sample.skippedOps
    Sample.unansweredOps facts.2⟩

/-- The task turns out to be done. -/
def Sample.revivedOps : List Operation :=
  [⟨Sample.brokered, .call (.request "late"), [.stage [.now 1, .committed]]⟩,
    ⟨Sample.brokered, .call .reconcile, [Sample.idle, .stage [.now 2,
      YTPipe.Sample.succeeded "RESUMEN\na\nPUNTOS CLAVE\n• a"], Sample.idle]⟩,
    ⟨Sample.brokered, .call .commit, [.committed]⟩]

/-- A reconciliation completes a summary that was skipped in quarantine. -/
theorem skipped_completed :
    ((runOperations (YTPipe.Sample.platform .assigned) Sample.skippedOps
        Sample.fresh).state.durableRows .summary).map (·.status) = some .skipped
      ∧ ((runOperations (YTPipe.Sample.platform .assigned) (Sample.skippedOps ++ Sample.revivedOps)
        Sample.fresh).state.durableRows .summary).map (·.status) = some .completed := by
  decide +kernel

end runs

end YTPipe.Pipeline
