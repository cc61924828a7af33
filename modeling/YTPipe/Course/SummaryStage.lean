import YTPipe.Course.Attempt

/-!
# The summary stage keeps to its course
-/

namespace YTPipe

open Broker Proc Ledger

variable {platform : Platform} {trusted : List Event → Prop}
  {rest begun posted past P ever : RowState} {before : StageSession} {p : PlanRead} {w : StageWorld}
  {lost : StageWorld → Prop} {attemptedAt : Time}

/-- `s'` is the session `s` with the row `r` in memory. -/
structure Edits (r : PipelineStage) (s s' : StageSession) : Prop where
  current : s'.stage.current = r
  flushed : s'.stage.flushed = s.stage.flushed
  durable : s'.stage.durable = s.stage.durable
  reach : s'.reach = s.reach

theorem completeStep_next (plan : ChunkPlan) (output : Text) :
    (plan.completeStep plan.nextStep output).nextStep = plan.nextStep + 1
      ∧ (plan.completeStep plan.nextStep output).steps.length = plan.steps.length := by
  simp [ChunkPlan.completeStep]

/-- `save_completed`. -/
theorem wp_saveCompleted_edits {object : Nat} {plan : ChunkPlan} {output : Text}
    {post : Unit → StageWorld → Prop}
    (go : ∀ v, Edits (savedRow plan output w.state.stage.current) w.state v.state →
      (Owned platform object w.state.stage → object < w.state.stage.loaded →
        Owned platform object v.state.stage) →
      v.trace = w.trace → post () v) :
    wp (saveCompleted object plan plan.nextStep output) post lost w := by
  obtain ⟨next, length⟩ := completeStep_next plan output
  simp only [saveCompleted, next, length]
  rw [wp_bind, wp_setStage]
  split
  · next last =>
    rw [wp_assignPlan]
    exact go _ ⟨by rw [savedRow, if_pos last]; rfl, rfl, rfl, rfl⟩
      (fun owned _ => (owned.modify _).assign none) rfl
  · next more =>
    rw [wp_assignMutatedPlan]
    exact go _ ⟨by rw [savedRow, if_neg more]; rfl, rfl, rfl, rfl⟩
      (fun owned older => (owned.modify _).assignMutated older _) rfl

theorem Edits.setStage {r : PipelineStage} {s s' : StageSession} (h : Edits r s s')
    (f : PipelineStage → PipelineStage) :
    Edits (f r) s { s' with stage := s'.stage.modify f } where
  current := congrArg f h.current
  flushed := h.flushed
  durable := h.durable
  reach := h.reach

theorem Reached.edits {r : PipelineStage} {s s' : StageSession}
    {ever : PipelineStage → Prop} (h : Reached ever before s)
    (edits : Edits r s s') : Reached ever before s' := by
  unfold Reached at h ⊢
  rw [edits.flushed, edits.durable, edits.reach]
  exact h

theorem In.edits (h : In platform trusted P ever before p w) {r : PipelineStage} {v : StageWorld}
    (edits : Edits r w.state v.state) (trace : v.trace = w.trace) {Q : RowState}
    (row : Q r w.trace) (live : Live r)
    (owned : trusted w.trace → Owned platform p.object v.state.stage) :
    In platform trusted Q ever before ⟨r.brokerChunkPlan, p.object⟩ v where
  row := by rw [edits.current, trace]; exact row
  live := by rw [edits.current]; exact live
  plan _ := congrArg PipelineStage.brokerChunkPlan edits.current
  owned := by rw [trace]; exact owned
  reached := h.reached.edits edits
  calm := by
    unfold Calm
    rw [edits.flushed]
    exact fun start _ => h.calm start h.live.1
  going := by
    rw [edits.durable]
    exact h.going

theorem edits_self (s : StageSession) : Edits s.stage.current s s := ⟨rfl, rfl, rfl, rfl⟩

theorem completeRow_live {r : PipelineStage} : Live (completeRow false r) := ⟨rfl, .inr rfl⟩

/-- The recovery target is noted at the end. -/
theorem wp_noted {post : Unit → StageWorld → Prop} {target : Option String}
    (h : Ended platform trusted past ever before w)
    (go : ∀ v, Ended platform trusted past ever before v → post () v) :
    wp (setRecoveryTarget target) post lost w := go _ (h.session rfl rfl)

/-- What the service keeps for the user may flush the session. -/
theorem wp_synced {post : Unit → StageWorld → Prop} (sturdy : Sturdy trusted past)
    (ends : ∀ r l, past r l → ever r l) (h : Ended platform trusted past ever before w)
    (hl : ∀ v, Adrift ever before v → lost v)
    (go : ∀ v, Ended platform trusted past ever before v → post () v) :
    wp (syncFlush platform) post lost w := by
  apply wp_syncFlush (hl _ (h.adrift ends))
  rintro answers s (rfl | rfl)
  · exact go _ (h.replies answers)
  · exact go _ ((h.flush sturdy ends).replies answers)

namespace BrokerCourse

variable (course : BrokerCourse platform trusted rest begun posted past ever)
include course

/-- `_record_local_broker_failure`. -/
theorem wp_recordLocalBrokerFailure {code : String} {post : Unit → StageWorld → Prop}
    (h : In platform trusted rest ever before p w) (hl : ∀ v, Adrift ever before v → lost v)
    (go : ∀ v, Ended platform trusted past ever before v → post () v) :
    wp (recordLocalBrokerFailure platform attemptedAt code) post lost w := by
  unfold recordLocalBrokerFailure
  rw [wp_bind, wp_setStage, wp_bind, wp_assignPlan, wp_bind]
  refine wp_save_ended course.past_sturdy course.past_ever ?_ hl go
  exact h.ended (course.refuse attemptedAt code _ _ h.live h.row) rfl rfl rfl fun trust =>
    (((h.owned trust).modify _).assign none).start

section complete

variable {summary : Text} {post : BrokerSubmissionOutcome → StageWorld → Prop}

/-- The end of `_complete` of a stage. -/
theorem wp_finish {r : PipelineStage} {v : StageWorld} (h : In platform trusted posted ever before p w)
    (edits : Edits r w.state v.state) (trace : v.trace = w.trace)
    (row : past (completeRow true r) w.trace)
    (owned : trusted w.trace → Owned platform p.object v.state.stage)
    (hl : ∀ v, Adrift ever before v → lost v)
    (go : ∀ v o, Ended platform trusted past ever before v → post o v) :
    wp (do
      setVideo fun v => { v with summary := some summary }
      setStage (completeRow true)
      flush platform
      commit platform
      return ⟨.completed, some summary, none, none, none, none⟩) post lost v := by
  rw [wp_bind, wp_setVideo, wp_bind, wp_setStage, wp_bind]
  simp only [wp_bind]
  refine wp_save_ended course.past_sturdy course.past_ever ?_ hl fun v ended => go v _ ended
  apply h.ended
  · simp only [withState_state, withState_trace, Instance.modify_current, edits.current, trace]
    exact row
  · exact edits.flushed
  · exact edits.durable
  · exact edits.reach
  · intro trust
    exact ((owned (trace ▸ trust)).modify _).start

/-- The stage is completed by its only operation. -/
theorem wp_complete_single (h : In platform trusted posted ever before p w)
    (hl : ∀ v, Adrift ever before v → lost v)
    (go : ∀ v o, Ended platform trusted past ever before v → post o v) :
    wp (complete platform summary true (fun _ => pure ())) post lost w := by
  simp only [complete, Proc.when, if_true]
  rw [wp_bind, wp_pure]
  exact course.wp_finish h (edits_self w.state) rfl (course.finish _ _ h.row) h.owned hl go

variable {object : Nat} {plan : ChunkPlan}

/-- The stage is completed by the final operation of its plan. -/
theorem wp_complete_final (h : Held platform trusted posted ever before ⟨some plan, object⟩ w)
    (hl : ∀ v, Adrift ever before v → lost v)
    (go : ∀ v o, Ended platform trusted past ever before v → post o v) :
    wp (complete platform summary true (saveCompleted object plan plan.nextStep)) post lost w := by
  simp only [complete, Proc.when, if_true]
  rw [wp_bind]
  apply wp_saveCompleted_edits
  intro v edits owned trace
  exact course.wp_finish h.toIn edits trace (course.finishPlan plan summary _ _ h.row h.plan)
    (fun trust => owned (h.owned trust) (h.renewed trust)) hl go

/-- A partial step of the plan is done. -/
theorem wp_complete_piece {step : PlanStep}
    (h : Held platform trusted posted ever before ⟨some plan, object⟩ w)
    (next : plan.steps[plan.nextStep.toNat]? = some step) (partly : operationKind step ≠ finalKind)
    (hl : ∀ v, Adrift ever before v → lost v)
    (go : ∀ v o q, In platform trusted rest ever before q v →
      o.disposition = SubmissionDisposition.completed →
      post o v) :
    wp (complete platform summary false (saveCompleted object plan plan.nextStep)) post lost w := by
  simp only [complete, Proc.when, Bool.false_eq_true, if_false]
  rw [wp_bind]
  apply wp_saveCompleted_edits
  intro v edits owned trace
  rw [wp_bind, wp_pure, wp_bind, wp_setStage, wp_bind]
  simp only [wp_bind]
  have saved := h.toIn.edits (v := withState v { v.state with
      stage := v.state.stage.modify (completeRow false) }) (edits.setStage (completeRow false)) trace
    (course.piece plan step summary _ _ h.row h.plan next partly) completeRow_live
    (fun trust => (owned (h.owned trust) (h.renewed trust)).modify _)
  exact wp_save_in course.resting saved hl fun u held => go u _ _ held.toIn rfl

end complete

section plan

variable {service : BrokerService} {context : SummaryGatewayContext} {deadline remaining : Rat}

/-- The submission of a plan's next operation ends the attempt or goes on to the
step after it. -/
theorem wp_submitStep {object : Nat} {plan : ChunkPlan} {step : PlanStep}
    {operation : SummaryOperation}
    (h : In platform trusted rest ever before ⟨some plan, object⟩ w)
    (next : plan.steps[plan.nextStep.toNat]? = some step)
    (kind : operation.kind = operationKind step) (hl : ∀ v, Adrift ever before v → lost v) :
    wp (submitStep platform service context attemptedAt deadline remaining object plan operation)
      (fun o v => o.elim (∃ q, In platform trusted rest ever before q v)
        (fun _ => Ended platform trusted past ever before v))
      lost w := by
  have begin : In platform trusted begun ever before ⟨some plan, object⟩ (withState w { w.state with
      stage := w.state.stage.modify (startAttempt attemptedAt) }) :=
    h.modify (course.start attemptedAt _ _ h.live h.row) h.live rfl
  simp only [submitStep]
  rw [wp_bind, wp_setStage, wp_bind]
  apply course.wp_attempt begin
  · intro v summary held
    by_cases last : operation.kind = finalKind
    · rw [decide_eq_true last]
      apply course.wp_complete_final held hl
      intro u o ended
      rw [wp_bind]
      apply wp_noted ended
      intro u ended
      split
      · exact ended
      · rw [wp_bind]
        exact wp_synced course.past_sturdy course.past_ever ended hl fun _ ended => ended
    · rw [decide_eq_false last]
      apply course.wp_complete_piece held next (kind ▸ last) hl
      intro u o q resting completed
      rw [wp_bind, wp_setRecoveryTarget, if_neg fun other => other completed, if_neg last]
      exact ⟨q, resting.row, resting.live, resting.plan, resting.owned, resting.reached,
        resting.calm, resting.going⟩
  · exact hl
  · intro v o other ended
    rw [wp_bind]
    apply wp_noted ended
    intro u ended
    rw [if_pos other]
    exact ended

/-- A round of the plan's loop. -/
theorem wp_planRound (h : In platform trusted rest ever before p w)
    (hl : ∀ v, Adrift ever before v → lost v) :
    wp (planRound platform service context attemptedAt deadline)
      (fun o v => o.elim (∃ q, In platform trusted rest ever before q v)
        (fun _ => Ended platform trusted past ever before v))
      lost w := by
  have adrift {v : StageWorld} (resting : In platform trusted rest ever before p v) : lost v :=
    hl v (resting.adrift course.resting)
  have astray : lost { w with trace := .raised .chunkPlan :: w.trace } :=
    hl _ ((h.adrift course.resting).raise course.raised)
  simp only [planRound]
  rw [wp_bind, wp_planObject, wp_bind, wp_videoRow]
  split
  · exact astray
  next plan hplan =>
  split
  · next step _ next =>
    rw [wp_bind]
    apply wp_clock (adrift h)
    intro now answers
    have h := h.replies answers
    split
    · rw [wp_bind]
      apply wp_commit (adrift h)
      intro answers
      have stopped : Ended platform trusted past ever before { w with replies := answers } :=
        h.ended (course.stop _ _ h.live h.row) rfl rfl rfl fun trust => (h.owned trust).start
      exact (stopped.commit course.past_sturdy course.past_ever)
    · split
      · exact hl _ ((h.adrift course.resting).raise course.raised)
      · rw [wp_bind]
        exact course.wp_recordLocalBrokerFailure h hl fun _ ended => ended
      · next kind prompt hprompt =>
        have planned : In platform trusted rest ever before ⟨some plan, w.state.stage.present⟩
            { w with replies := answers } :=
          ⟨h.row, h.live, fun _ => hplan, fun trust => (h.owned trust).read, h.reached, h.calm,
            h.going⟩
        exact course.wp_submitStep planned next (stepPrompt_ok hprompt).1 hl
  · exact astray

theorem wp_runPlan {config : PipelineConfig} {post : Unit → StageWorld → Prop}
    (h : In platform trusted rest ever before p w) (hl : ∀ v, Adrift ever before v → lost v)
    (go : ∀ v, Ended platform trusted past ever before v → post () v) :
    wp (runPlan platform config service context attemptedAt) post lost w := by
  unfold runPlan
  rw [wp_bind]
  apply wp_clock (hl _ (h.adrift course.resting))
  intro now answers
  apply wp_loop fun v => ∃ q, In platform trusted rest ever before q v
  · rintro v ⟨q, resting⟩
    refine wp_mono (course.wp_planRound resting hl) (fun o u hu => ?_) (fun _ hu => hu)
    cases o with
    | none => exact hu
    | some o => exact go u hu
  · rintro v ⟨q, resting⟩
    exact hl _ (resting.adrift course.resting)
  · exact ⟨p, h.replies answers⟩

/-- The coordinator's attempt of the whole transcript. -/
theorem wp_attemptSingleShot {post : Unit → StageWorld → Prop}
    (h : In platform trusted rest ever before p w) (hl : ∀ v, Adrift ever before v → lost v)
    (go : ∀ v, Ended platform trusted past ever before v → post () v) :
    wp (attemptSingleShot platform service context attemptedAt) post lost w := by
  have begin : In platform trusted begun ever before p (withState w { w.state with
      stage := w.state.stage.modify (startAttempt attemptedAt) }) :=
    h.modify (course.start attemptedAt _ _ h.live h.row) h.live rfl
  have ending {v : StageWorld} {o : BrokerSubmissionOutcome}
      (ended : Ended platform trusted past ever before v) :
      wp (do
        setRecoveryTarget (some "none")
        if o.disposition = .completed then syncFlush platform else pure ()) post lost v := by
    rw [wp_bind]
    apply wp_noted ended
    intro u ended
    split
    · exact wp_synced course.past_sturdy course.past_ever ended hl go
    · exact go u ended
  simp only [attemptSingleShot]
  rw [wp_bind, wp_setStage, wp_bind, wp_videoRow, wp_bind]
  apply course.wp_attempt begin
  · exact fun v summary held => course.wp_complete_single held.toIn hl fun u o ended => ending ended
  · exact hl
  · exact fun v o _ ended => ending ended

/-- `_attempt_broker_summary_stage`. -/
theorem wp_attemptBrokerSummaryStage {config : PipelineConfig} {post : Unit → StageWorld → Prop}
    (h : In platform trusted rest ever before p w) (hl : ∀ v, Adrift ever before v → lost v)
    (go : ∀ v, Ended platform trusted past ever before v → post () v) :
    wp (attemptBrokerSummaryStage platform config service attemptedAt) post lost w := by
  simp only [attemptBrokerSummaryStage]
  rw [wp_bind, wp_stageRow]
  split
  · exact course.wp_attemptSingleShot h hl go
  rw [wp_bind, wp_videoRow]
  split
  · next plan _ =>
    split
    · exact course.wp_recordLocalBrokerFailure h hl go
    · exact course.wp_runPlan h hl go
  · next unplanned =>
    split
    · exact course.wp_recordLocalBrokerFailure h hl go
    · exact course.wp_attemptSingleShot h hl go
    · next plan built =>
      have planned : In platform trusted rest ever before ⟨some plan, p.object⟩
          (withState w { w.state with stage := w.state.stage.assign planColumn (some plan) }) :=
        ⟨course.build plan _ _ _ _ h.row unplanned built, h.live, fun _ => rfl,
          fun trust => (h.owned trust).assign _, h.reached, h.calm, h.going⟩
      rw [wp_bind, wp_assignPlan, wp_bind]
      simp only [wp_bind]
      exact wp_save_in course.resting planned hl fun v held => course.wp_runPlan held.toIn hl go

end plan

/-- `_attempt_summary_stage`: a row that is not live stays as it is, and a live one
stays or takes its course. -/
theorem wp_attemptSummaryStage {config : PipelineConfig}
    (direct : ∀ v attemptedAt, config.summarizationService = some .direct →
      Live w.state.stage.current →
      In platform trusted rest ever w.state ⟨w.state.stage.current.brokerChunkPlan, 0⟩ v →
      wp (attemptDirectSummary platform attemptedAt)
        (fun _ => Ended platform trusted past ever w.state) lost v)
    (resting : Live w.state.stage.current → rest w.state.stage.current w.trace)
    (owned : trusted w.trace → Owned platform 0 w.state.stage)
    (start : Reached (Sometime ever) w.state w.state)
    (drifts : ∀ v, v.state = w.state → v.trace = w.trace → lost v)
    (hl : ∀ v, Live w.state.stage.current → Adrift ever w.state v → lost v) :
    wp (attemptSummaryStage platform config)
      (fun _ v => v.state = w.state ∧ v.trace = w.trace
        ∨ Live w.state.stage.current ∧ Ended platform trusted past ever w.state v) lost w := by
  unfold attemptSummaryStage
  rw [wp_bind, wp_stageRow]
  split
  · exact .inl ⟨rfl, rfl⟩
  next shut =>
  have live : Live w.state.stage.current := by
    obtain ⟨opened, held⟩ := not_or.mp shut
    exact ⟨Option.not_isSome_iff_eq_none.mp held, Decidable.not_not.mp opened⟩
  have hl := fun v => hl v live
  rw [wp_bind]
  apply wp_notYetDue (drifts w rfl rfl)
  intro late answers
  have h : In platform trusted rest ever w.state ⟨w.state.stage.current.brokerChunkPlan, 0⟩
      { w with replies := answers } :=
    ⟨resting live, live, fun _ => rfl, owned, start, id, id⟩
  split
  · exact .inl ⟨rfl, rfl⟩
  rw [wp_bind, wp_videoRow]
  split
  · rw [wp_bind, wp_setStage]
    exact .inr ⟨live, h.last (course.present _ _ h.live h.row) rfl rfl⟩
  split
  · rw [wp_bind, wp_setStage]
    exact .inr ⟨live, h.last (course.fail _ _ _ _ _ h.live h.row) rfl rfl⟩
  next route =>
  split
  · rw [wp_bind, wp_setStage]
    exact .inr ⟨live, h.last (course.fail _ _ _ _ _ h.live h.row) rfl rfl⟩
  rw [wp_bind]
  apply wp_utcNow (hl _ (h.adrift course.resting))
  intro attemptedAt answers
  have h := h.replies answers
  split
  · rw [wp_bind]
    exact course.wp_attemptBrokerSummaryStage h hl fun v ended => .inr ⟨live, ended⟩
  · rw [wp_bind]
    exact wp_mono (direct _ attemptedAt route live h) (fun _ _ ended => .inr ⟨live, ended⟩)
      fun _ lost => lost

end BrokerCourse

/-- The rest of `_attempt_summary_stage` on the direct route. -/
theorem DirectCourse.wp_attemptDirectSummary {called : RowState}
    (course : DirectCourse trusted rest begun called past ever)
    {post : Unit → StageWorld → Prop} (h : In platform trusted rest ever before p w)
    (hl : ∀ v, Adrift ever before v → lost v)
    (go : ∀ v, Ended platform trusted past ever before v → post () v) :
    wp (attemptDirectSummary platform attemptedAt) post lost w := by
  have begin : In platform trusted begun ever before p (withState w { w.state with
      stage := w.state.stage.modify (startAttempt attemptedAt) }) :=
    h.modify (course.start attemptedAt _ _ h.live h.row) h.live rfl
  have called := begin.note (course.earlier _ _)
    (course.call w.state.stage.durable _ _ begin.live begin.row)
  simp only [attemptDirectSummary]
  rw [wp_bind, wp_setStage, wp_bind, wp_emit, wp_bind]
  apply wp_ask _ (hl _ (called.adrift course.calling))
  intro outcome answers
  have h := called.replies answers
  split
  · next code target =>
    rw [wp_bind, wp_stageRow, wp_bind, wp_setStage, wp_setRecoveryTarget]
    apply go
    exact h.last (course.fail _ _ _ _ h.live h.row) rfl rfl
  · split
    · rw [wp_bind, wp_setVideo, wp_bind, wp_setStage, wp_bind, wp_setRecoveryTarget]
      refine wp_synced course.past_sturdy course.past_ever ?_ hl go
      exact h.last (course.done _ _ h.row) rfl rfl
    · rw [wp_setStage]
      apply go
      exact h.last (course.empty _ _ h.live h.row) rfl rfl

/-- `_attempt_summary_stage`, on either route. -/
theorem Course.wp_attemptSummaryStage (course : Course platform trusted rest begun posted past ever)
    {config : PipelineConfig}
    (resting : Live w.state.stage.current → rest w.state.stage.current w.trace)
    (owned : trusted w.trace → Owned platform 0 w.state.stage)
    (start : Reached (Sometime ever) w.state w.state)
    (drifts : ∀ v, v.state = w.state → v.trace = w.trace → lost v)
    (hl : ∀ v, Live w.state.stage.current → Adrift ever w.state v → lost v) :
    wp (attemptSummaryStage platform config)
      (fun _ v => v.state = w.state ∧ v.trace = w.trace
        ∨ Live w.state.stage.current ∧ Ended platform trusted past ever w.state v) lost w :=
  course.toBrokerCourse.wp_attemptSummaryStage
    (fun _ _ _ live h => course.direct.wp_attemptDirectSummary h (fun v => hl v live)
      fun _ ended => ended)
    resting owned start drifts hl

end YTPipe
