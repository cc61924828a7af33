import YTPipe.Refinement.Submission

/-!
# An attempt of the stage refines its ledger
-/

namespace YTPipe.Ledger

open Broker Proc

variable {t : Terms} {m : State → Prop} {attemptedAt : Time}

theorem Holds.session {w : StageWorld} (h : Holds t m w) {s : StageSession}
    (hs : s.stage = w.state.stage) : Holds t m (withState w s) :=
  ⟨hs ▸ h.named, hs ▸ h.faithful, hs ▸ h.durable, hs ▸ h.flushed, hs ▸ h.current, hs ▸ h.agreed,
    hs ▸ h.ahead⟩

theorem Holds.commit {w : StageWorld} (h : Holds t m w) :
    Holds t m (withState w (w.state.commit t.platform)) where
  named := ⟨Nat.lt_succ_self _, Nat.lt_succ_self _⟩
  faithful := .inr Instance.faithful_commit
  durable := path_written h.faithful h.current
  flushed := path_written h.faithful h.current
  current := path_written h.faithful h.current
  agreed _ := ⟨rfl, rfl, rfl⟩
  ahead := .inr ⟨.refl _, .refl _⟩

/-- What a commit at the end of a step leaves. -/
theorem wp_save_end {w : StageWorld} {post : Unit → StageWorld → Prop} {lost : StageWorld → Prop}
    (h : Holds t m w) (hc : phaseOf w.state.stage.current ≠ .eligible)
    (hl : ∀ v, Holds t m v → lost v) (go : ∀ v, Holds t m v → post () v) :
    wp (do flush t.platform; commit t.platform) post lost w := by
  rw [wp_bind]
  exact wp_save h hc hl fun v r saved _ _ _ _ => go v saved.holds

/-- The service's own refusals end the stage. -/
theorem localFailureRow_failed (attemptedAt : Time) (code : String) (r : PipelineStage) :
    (localFailureRow attemptedAt code r).status = .failed := by
  have rejected : (if code = "backend_context_exceeded" then "backend_rejected" else "internal")
      ∈ rejectedClasses := by
    split <;> decide
  have terminal : (classifySummaryFailure .broker code (startAttempt attemptedAt r).attemptCount
      (startAttempt attemptedAt r).maxAttempts attemptedAt
      (some (if code = "backend_context_exceeded" then "backend_rejected" else "internal"))
      ).disposition = .terminal := classify_rejected rejected
  exact if_pos terminal

theorem localFailureRow_closed {r : PipelineStage} (attemptedAt : Time) (code : String)
    (live : Live r) :
    phaseOf (planColumn.set none (localFailureRow attemptedAt code r)) = .closed := by
  rw [phaseOf_setPlan]
  apply phaseOf_closed
  · exact live.1
  · rw [localFailureRow_failed]
    decide

/-- `_record_local_broker_failure`. -/
theorem wp_recordLocalBrokerFailure {w : StageWorld} {post : Unit → StageWorld → Prop}
    {lost : StageWorld → Prop} (h : Holds t m w) (live : Live w.state.stage.current) (code : String)
    (hl : ∀ v, Holds t m v → lost v) (go : ∀ v, Holds t m v → post () v) :
    wp (recordLocalBrokerFailure t.platform attemptedAt code) post lost w := by
  have closed := localFailureRow_closed attemptedAt code live
  have editing := (h.editing (live_phase live).1).modify (localFailureRow attemptedAt code)
  unfold recordLocalBrokerFailure
  rw [wp_bind, wp_setStage, wp_bind, wp_assignPlan]
  apply wp_save_end ((editing.assign none).holds ?_ ?_) ?_ hl go
  · exact .single (.close _ closed (.inl rfl))
  · exact fun he => by cases closed.symm.trans he
  · exact fun he => by cases closed.symm.trans he

/-- `save_completed`, on an object that is not the loaded one. -/
theorem wp_saveCompleted {w : StageWorld} {c : Card} {object : Nat} {plan : ChunkPlan}
    {output : Text} {post : Unit → StageWorld → Prop} {lost : StageWorld → Prop}
    (h : Editing t m c w) (old : object < w.state.stage.loaded)
    (go : ∀ v, Editing t m c v → v.trace = w.trace → v.state.video = w.state.video →
      v.state.stage.current = planColumn.set (savedPlan plan output)
        { w.state.stage.current with attemptCount := max 0 (w.state.stage.current.attemptCount - 1) } →
      post () v) :
    wp (saveCompleted object plan plan.nextStep output) post lost w := by
  have counted := h.modify fun r => { r with attemptCount := max 0 (r.attemptCount - 1) }
  simp only [saveCompleted, completeStep_length]
  rw [wp_bind, wp_setStage]
  by_cases last : plan.nextStep + 1 ≥ plan.steps.length
  · have next : (plan.completeStep plan.nextStep output).nextStep ≥ plan.steps.length := last
    rw [if_pos next, wp_assignPlan]
    apply go _ (counted.assign none) rfl rfl
    rw [savedPlan, if_pos last]
    rfl
  · have next : ¬ (plan.completeStep plan.nextStep output).nextStep ≥ plan.steps.length := last
    rw [if_neg next, wp_assignMutatedPlan]
    apply go _ (counted.assignMutated _ (Nat.lt_trans old h.named.2) (.inr (.inr ?_))) rfl rfl
    · rw [savedPlan, if_neg last]
      rfl
    · exact Nat.ne_of_gt old

variable {post : BrokerSubmissionOutcome → StageWorld → Prop} {lost : StageWorld → Prop}

/-- The end of `_complete` of a stage. -/
theorem wp_finish {w : StageWorld} {c : Card} {summary : Text} (h : Editing t m c w)
    (path : Path t ⟨c, w.trace⟩ ⟨cardOf (completeRow true w.state.stage.current), w.trace⟩)
    (hl : ∀ v, Holds t m v → lost v)
    (go : ∀ v o, Holds t m v → phaseOf v.state.stage.current ≠ .eligible → post o v) :
    wp (do
      setVideo fun v => { v with summary := some summary }
      setStage (completeRow true)
      flush t.platform
      commit t.platform
      return ⟨.completed, some summary, none, none, none, none⟩) post lost w := by
  have calm : phaseOf (completeRow true w.state.stage.current) ≠ .eligible := by
    rw [phaseOf_completeRow_final]
    nofun
  have editing := (h.video
    (w.state.video.modify fun v => { v with summary := some summary })).modify (completeRow true)
  have held := editing.holds path calm
  rw [wp_bind, wp_setVideo, wp_bind, wp_setStage, wp_bind]
  simp only [wp_bind]
  apply wp_save held calm hl
  intro v r saved written _ _ _
  apply go v _ saved.holds
  rw [saved.current]
  rcases written with rfl | ⟨_, d, rfl⟩
  · exact calm
  · exact calm

/-- The stage is completed by its only operation. -/
theorem wp_complete_single {w : StageWorld} {r : PipelineStage} {kind : Option String}
    {summary : Text} {s : StageSession} {g : Get} (h : Answered t m r kind summary s g w)
    (hl : ∀ v, Holds t m v → lost v)
    (go : ∀ v o, Holds t m v → phaseOf v.state.stage.current ≠ .eligible → post o v) :
    wp (complete t.platform summary true (fun _ => pure ())) post lost w := by
  have before : phaseOf r ≠ .eligible := by simp [h.phase]
  simp only [complete, Proc.when, if_true]
  rw [wp_bind, wp_pure]
  apply wp_finish (h.saved.editing before) ?_ hl go
  rw [h.saved.current]
  exact .single (.close _ (phaseOf_completeRow_final r) (.inr rfl))

/-- The stage is completed by the final operation of its plan. -/
theorem wp_complete_final {w : StageWorld} {r : PipelineStage} {kind : Option String}
    {summary : Text} {s : StageSession} {g : Get} {object : Nat} {plan : ChunkPlan}
    (h : Answered t m r kind summary s g w) (old : object < s.stage.loaded)
    (last : t.lax ∨ plan.nextStep + 1 = plan.steps.length) (hl : ∀ v, Holds t m v → lost v)
    (go : ∀ v o, Holds t m v → phaseOf v.state.stage.current ≠ .eligible → post o v) :
    wp (complete t.platform summary true (saveCompleted object plan plan.nextStep)) post lost w := by
  have before : phaseOf r ≠ .eligible := by simp [h.phase]
  simp only [complete, Proc.when, if_true]
  rw [wp_bind]
  apply wp_saveCompleted (h.saved.editing before) (h.still ▸ old)
  intro v editing trace video row
  apply wp_finish editing ?_ hl go
  have closed := phaseOf_completeRow_final v.state.stage.current
  have unplanned : Path t ⟨cardOf r, v.trace⟩
      ⟨{ cardOf (completeRow true v.state.stage.current) with plan := none }, v.trace⟩ :=
    .single (.close _ closed (.inl rfl))
  rcases last with lax | last
  · exact unplanned.tail (.drift _ lax)
  · have gone : (completeRow true v.state.stage.current).brokerChunkPlan = none := by
      simp [completeRow, row, planColumn, savedPlan, last]
    have same : { cardOf (completeRow true v.state.stage.current) with plan := none }
        = cardOf (completeRow true v.state.stage.current) := by
      rw [← gone]
      rfl
    exact same ▸ unplanned

/-- The output of a partial step has text. -/
theorem Answered.ne_nil {w : StageWorld} {r : PipelineStage} {summary : Text} {s : StageSession}
    {g : Get} (h : Answered t m r (some partialKind) summary s g w) : summary ≠ [] := by
  have output : g.outcome.bind (validatedOutput g.profile (some partialKind)) = some summary := by
    rw [← h.kind]
    exact h.output
  obtain ⟨answer, _, valid⟩ := Option.bind_eq_some_iff.mp output
  exact validatedOutput_ne_nil valid

/-- What a partial step that was saved leaves. -/
structure Advanced (t : Terms) (m : State → Prop) (r : PipelineStage) (plan : ChunkPlan) (summary : Text)
    (s : StageSession) (w : StageWorld) : Prop where
  holds : Holds t m w
  phase : phaseOf w.state.stage.current = .opened
  id : w.state.stage.current.id = r.id
  epoch : w.state.stage.current.brokerSubmissionEpoch = r.brokerSubmissionEpoch
  plan : t.lax ∨ w.state.stage.current.brokerChunkPlan
    = some (plan.completeStep plan.nextStep summary)
  video : w.state.video.current = s.video.current

/-- A partial step of the plan is done. -/
theorem wp_complete_partial {w : StageWorld} {r : PipelineStage} {summary : Text}
    {s : StageSession} {g : Get} {object : Nat} {plan : ChunkPlan}
    (h : Answered t m r (some partialKind) summary s g w) (old : object < s.stage.loaded)
    (step : t.lax ∨ r.brokerChunkPlan = some plan ∧ plan.nextStep + 1 < plan.steps.length
      ∧ nextSlot (some plan) = some (partialKind, plan.nextStep))
    (hl : ∀ v, Holds t m v → lost v)
    (go : ∀ v o, Advanced t m r plan summary s v → o.disposition = SubmissionDisposition.completed →
      post o v) :
    wp (complete t.platform summary false (saveCompleted object plan plan.nextStep)) post lost w := by
  have before : phaseOf r ≠ .eligible := by simp [h.phase]
  obtain ⟨l, head⟩ := h.head
  simp only [complete, Proc.when, Bool.false_eq_true, if_false]
  rw [wp_bind]
  apply wp_saveCompleted (h.saved.editing before) (h.still ▸ old)
  intro v editing trace video row
  rw [h.saved.current] at row
  rw [wp_bind, wp_pure, wp_bind, wp_setStage, wp_bind]
  have card : cardOf (completeRow false v.state.stage.current) =
      { cardOf r with
        phase := .opened, key := none, task := none,
        attempts := max 0 (r.attemptCount - 1), plan := savedPlan plan summary } := by
    rw [cardOf_completePiece, row]
    rfl
  have calm : phaseOf (completeRow false v.state.stage.current) = .opened := congrArg Card.phase card
  have advances : t.lax ∨ Advances r.brokerChunkPlan (savedPlan plan summary) g := by
    refine step.imp_right fun ⟨hplan, more, slot⟩ => ?_
    refine ⟨plan, summary, hplan, hplan ▸ slot, more, h.kind, h.output, h.ne_nil, ?_⟩
    rw [savedPlan, if_neg (by omega)]
  have path : Path t ⟨cardOf r, v.trace⟩
      ⟨cardOf (completeRow false v.state.stage.current), v.trace⟩ := by
    rw [card, trace, head]
    exact .single (.stepDone g _ (.inl h.phase) h.task advances)
  have held := (editing.modify (completeRow false)).holds path
    (fun he => by cases calm.symm.trans he)
  simp only [wp_bind]
  apply wp_save held (fun he => by cases calm.symm.trans he) hl
  intro u r' saved written _ _ sameVideo
  have current : u.state.stage.current = r' := saved.current
  have film : u.state.video.current = s.video.current :=
    sameVideo.trans (by rw [withState_state, video, h.still])
  have planned : t.lax ∨ (completeRow false v.state.stage.current).brokerChunkPlan
      = some (plan.completeStep plan.nextStep summary) := by
    refine step.imp_right fun ⟨_, more, _⟩ => ?_
    rw [show (completeRow false v.state.stage.current).brokerChunkPlan = savedPlan plan summary
      from congrArg Card.plan card, savedPlan, if_neg (by omega)]
  have id : (completeRow false v.state.stage.current).id = r.id := congrArg Card.stageId card
  have epoch : (completeRow false v.state.stage.current).brokerSubmissionEpoch
      = r.brokerSubmissionEpoch := congrArg Card.epoch card
  apply go
  · rcases written with rfl | ⟨lax, d, rfl⟩
    · exact ⟨saved.holds, current ▸ calm, current ▸ id, current ▸ epoch, current ▸ planned, film⟩
    · exact ⟨saved.holds, current ▸ calm, current ▸ id, current ▸ epoch, .inl lax, film⟩
  · rfl

/-- The prompt of an accepted plan's step can be measured. -/
theorem stepPrompt_isSome {platform : Platform} {plan : ChunkPlan} {transcript : Text}
    (accepted : PlanAccepted platform plan transcript) (step : PlanStep) (text : Text) :
    stepPrompt plan step text ≠ none := by
  unfold stepPrompt
  split
  · split <;> exact Option.some_ne_none _
  · simp only
    split
    · exact Option.some_ne_none _
    · have valid : (configFromPlan plan).validate = .ok () := accepted.config
      simp only [estimatedRequestTokens, valid]
      split
      · next he => cases he
      · split <;> exact Option.some_ne_none _

/-- A round of the plan's loop may begin. -/
structure Ready (t : Terms) (m : State → Prop) (context : SummaryGatewayContext) (transcript : Text)
    (w : StageWorld) : Prop where
  holds : Holds t m w
  phase : phaseOf w.state.stage.current = .opened
  context : context
    = ⟨w.state.stage.current.id, w.state.stage.current.brokerSubmissionEpoch⟩
  text : w.state.video.current.transcript.getD [] = transcript
  plan : t.lax ∨ ∃ plan, w.state.stage.current.brokerChunkPlan = some plan
    ∧ PlanAccepted t.platform plan transcript

theorem Ready.replies {context : SummaryGatewayContext} {transcript : Text} {w : StageWorld}
    (h : Ready t m context transcript w) (rest : List Reply) :
    Ready t m context transcript { w with replies := rest } :=
  ⟨h.holds.replies rest, h.phase, h.context, h.text, h.plan⟩

/-- The operation of a plan's next step. -/
structure Next (t : Terms) (plan : ChunkPlan) (operation : SummaryOperation) : Prop where
  slot : nextSlot (some plan) = some (operation.kind, operation.ordinal)
  prompted : Prompted (some plan) operation
  kinds : t.lax ∧ (operation.kind = finalKind ∨ operation.kind = partialKind)
    ∨ operation.kind = finalKind ∧ plan.nextStep + 1 = plan.steps.length
    ∨ operation.kind = partialKind ∧ plan.nextStep + 1 < plan.steps.length
      ∧ nextSlot (some plan) = some (partialKind, plan.nextStep)

theorem operationKind_cases (step : PlanStep) :
    operationKind step = finalKind ∨ operationKind step = partialKind := by
  unfold operationKind
  split
  · exact .inr rfl
  · exact .inl rfl

/-- A plan kept on an exact path ends in its final step. -/
theorem next_step (hb : ∀ s, m s → Basic t s) (hx : t.lax ∨ ∀ s, m s → Exact t s)
    {w : StageWorld} (h : Holds t m w)
    {service : BrokerService} {plan : ChunkPlan} {step : PlanStep} {transcript : Text}
    {kind prompt : String} (hplan : w.state.stage.current.brokerChunkPlan = some plan)
    (hstep : plan.steps[plan.nextStep.toNat]? = some step)
    (hprompt : stepPrompt plan step transcript = some (.ok (kind, prompt))) :
    Next t plan (operationFor service kind step.ordinal prompt) := by
  obtain ⟨rfl, hfinal⟩ := stepPrompt_ok hprompt
  refine ⟨by simp [nextSlot, hstep, operationFor], ?_, ?_⟩
  · rintro hk p ⟨⟩
    exact hfinal hk
  · by_cases lax : t.lax
    · exact .inl ⟨lax, operationKind_cases step⟩
    · right
      have shape := (from_exact t lax h.current hb (hx.resolve_left lax)).shape plan hplan
      have next := shape.next
      by_cases last : plan.nextStep.toNat + 1 = plan.steps.length
      · exact .inl ⟨(shape.final _ step hstep last).1, by omega⟩
      · obtain ⟨hk, ho⟩ := shape.pieces _ step hstep (by omega)
        refine .inr ⟨hk, by omega, ?_⟩
        simp only [nextSlot, hstep, Option.map_some, hk, ho]
        congr
        omega

section step

variable {service : BrokerService} {transcript : Text} {deadline remaining : Rat}
  {plan : ChunkPlan} {operation : SummaryOperation} {w : StageWorld} {lost : StageWorld → Prop}

/-- The submission of a plan's next operation ends the attempt or goes on to the
step after it. -/
theorem wp_submitStep (hb : ∀ s, m s → Basic t s)
    (digest : ∀ bytes, (t.platform.sha256 bytes).length = 64)
    {context : SummaryGatewayContext} (h : Ready t m context transcript w)
    (hplan : w.state.stage.current.brokerChunkPlan = some plan)
    (accepted : PlanAccepted t.platform plan transcript) (next : Next t plan operation)
    (hl : ∀ v, Holds t m v → lost v) :
    wp (submitStep t.platform service context attemptedAt deadline remaining w.state.stage.present
        plan operation)
      (fun o v => o.elim (Ready t m context transcript v) (fun _ => Holds t m v)) lost w := by
  have live := live_of_opened h.phase
  have paid : w.state.stage.current.brokerSubmissionEpoch + 1
      ≤ w.state.stage.current.attemptCount + 1 := by
    have budget := (from_basic h.holds.current hb).budget (by simp [cardOf, h.phase])
    exact Int.add_le_add_right budget.2 1
  have counted : Holds t m (withState w { w.state with
      stage := w.state.stage.modify (startAttempt attemptedAt) }) := by
    apply h.holds.modify (live_phase live).1
    · exact .single (.count _ (Int.le_of_lt (Int.lt_succ _)))
    · exact (live_phase (r := startAttempt attemptedAt w.state.stage.current) live).1
  have old : w.state.stage.present < w.state.stage.fresh := h.holds.named.1
  have ended {v : StageWorld} (held : Holds t m v) :
      Holds t m (withState v { v.state with recoveryTarget := some "none" }) := held.session rfl
  rw [h.context]
  simp only [submitStep]
  rw [wp_bind, wp_setStage, wp_bind]
  apply wp_attempt hb digest counted live paid
  · intro _
    exact .inr (hplan ▸ ⟨next.slot, next.prompted⟩)
  · intro v g summary r s answered id epoch same names video
    by_cases last : operation.kind = finalKind
    · have ends : t.lax ∨ plan.nextStep + 1 = plan.steps.length := by
        rcases next.kinds with ⟨lax, _⟩ | ⟨_, ends⟩ | ⟨hp, _⟩
        · exact .inl lax
        · exact .inr ends
        · rw [last] at hp
          exact absurd hp (by decide)
      rw [decide_eq_true last]
      apply wp_complete_final answered (Nat.lt_of_lt_of_le old names) ends hl
      intro u o held calm
      rw [wp_bind, wp_setRecoveryTarget]
      split
      · exact ended held
      · rw [wp_bind]
        apply wp_syncFlush (hl _ (ended held))
        rintro rest s (rfl | rfl)
        · exact (ended held).replies rest
        · exact ((ended held).flush calm).replies rest
    · have piece : operation.kind = partialKind := by
        rcases next.kinds with ⟨_, hf | hp⟩ | ⟨hf, _⟩ | ⟨hp, _⟩
        · exact absurd hf last
        · exact hp
        · exact absurd hf last
        · exact hp
      have step : t.lax ∨ r.brokerChunkPlan = some plan
          ∧ plan.nextStep + 1 < plan.steps.length
          ∧ nextSlot (some plan) = some (partialKind, plan.nextStep) := by
        rcases next.kinds with ⟨lax, _⟩ | ⟨hf, _⟩ | ⟨_, more, slot⟩
        · exact .inl lax
        · exact absurd hf last
        · exact same.imp_right fun hp => ⟨hp.trans hplan, more, slot⟩
      have polled : Answered t m r (some partialKind) summary s g v :=
        ⟨answered.saved, answered.still, answered.phase, answered.task, answered.head,
          answered.kind.trans (congrArg some piece), answered.output⟩
      rw [decide_eq_false last]
      apply wp_complete_partial polled (Nat.lt_of_lt_of_le old names) step hl
      intro u o adv completed
      rw [wp_bind, wp_setRecoveryTarget, if_neg (fun hn => hn completed), if_neg last]
      refine ⟨ended adv.holds, adv.phase, ?_, ?_, ?_⟩
      · rw [withState_state, adv.id, adv.epoch, id, epoch]
        rfl
      · rw [withState_state, adv.video, video]
        exact h.text
      · rcases step with lax | ⟨_, more, _⟩
        · exact .inl lax
        · exact adv.plan.imp_right fun hp => ⟨_, hp, accepted.completeStep polled.ne_nil more⟩
  · exact hl
  · intro v o held failed
    rw [wp_bind, wp_setRecoveryTarget, if_pos failed]
    exact ended held

/-- One round of the plan's loop goes on to the next step or ends the attempt. -/
theorem wp_planRound (hb : ∀ s, m s → Basic t s) (hx : t.lax ∨ ∀ s, m s → Exact t s)
    (digest : ∀ bytes, (t.platform.sha256 bytes).length = 64) {context : SummaryGatewayContext}
    (h : Ready t m context transcript w) (hl : ∀ v, Holds t m v → lost v) :
    wp (planRound t.platform service context attemptedAt deadline)
      (fun o v => o.elim (Ready t m context transcript v) (fun _ => Holds t m v)) lost w := by
  have raised (lax : t.lax) : lost { w with trace := .raised .chunkPlan :: w.trace } :=
    hl _ (h.holds.note lax)
  simp only [planRound]
  rw [wp_bind, wp_planObject, wp_bind, wp_videoRow, h.text]
  cases hplan : w.state.stage.current.brokerChunkPlan with
  | none =>
    rcases h.plan with lax | ⟨plan, hp, _⟩
    · exact raised lax
    · cases hplan.symm.trans hp
  | some plan =>
    split
    · next hnone => cases hnone
    next plan' hsome =>
    cases hsome
    split
    · next step hvalid hstep =>
      have valid := validatePlan_eq_ok.mp hvalid
      rw [wp_bind]
      apply wp_clock (hl _ h.holds)
      intro now rest
      have ready := h.replies rest
      split
      · rw [wp_bind]
        apply wp_commit (hl _ ready.holds)
        intro rest
        exact (ready.holds.replies rest).commit
      · split
        · next hnone => exact absurd hnone (stepPrompt_isSome valid step transcript)
        · next code _ =>
          rw [wp_bind]
          exact wp_recordLocalBrokerFailure ready.holds (live_of_opened h.phase) code hl
            fun v hv => hv
        · next kind prompt hprompt =>
          exact wp_submitStep hb digest ready hplan valid
            (next_step hb hx h.holds hplan hstep hprompt) hl
    · next hno =>
      rcases h.plan with lax | ⟨plan', hp, accepted⟩
      · exact raised lax
      · cases hplan.symm.trans hp
        have progress := accepted.progress
        have inside : plan.nextStep.toNat < plan.steps.length := by omega
        exact absurd (List.getElem?_eq_getElem inside)
          (hno _ (validatePlan_eq_ok.mpr accepted))

end step

section attempt

variable {service : BrokerService} {config : PipelineConfig} {transcript : Text} {w : StageWorld}
  {lost : StageWorld → Prop}

/-- The coordinator's attempt of the whole transcript. -/
theorem wp_attemptSingleShot (hb : ∀ s, m s → Basic t s)
    (digest : ∀ bytes, (t.platform.sha256 bytes).length = 64) (h : Holds t m w)
    (live : Live w.state.stage.current)
    (unplanned : phaseOf w.state.stage.current = .opened →
      w.state.stage.current.brokerChunkPlan = none) (hl : ∀ v, Holds t m v → lost v) :
    wp (attemptSingleShot t.platform service
      ⟨w.state.stage.current.id, w.state.stage.current.brokerSubmissionEpoch⟩ attemptedAt)
      (fun _ => Holds t m) lost w := by
  have paid : w.state.stage.current.brokerSubmissionEpoch + 1
      ≤ w.state.stage.current.attemptCount + 1 := by
    have budget := (from_basic h.current hb).budget (live_phase live).2
    exact Int.add_le_add_right budget.2 1
  have counted : Holds t m (withState w { w.state with
      stage := w.state.stage.modify (startAttempt attemptedAt) }) := by
    apply h.modify (live_phase live).1
    · exact .single (.count _ (Int.le_of_lt (Int.lt_succ _)))
    · exact (live_phase (r := startAttempt attemptedAt w.state.stage.current) live).1
  have ended {v : StageWorld} (held : Holds t m v) :
      Holds t m (withState v { v.state with recoveryTarget := some "none" }) := held.session rfl
  simp only [attemptSingleShot]
  rw [wp_bind, wp_setStage, wp_bind, wp_videoRow, wp_bind]
  apply wp_attempt hb digest counted live paid
  · intro phase
    refine .inr ⟨?_, fun _ p hp => ?_⟩
    · change nextSlot w.state.stage.current.brokerChunkPlan = some ("traffic", 0)
      rw [unplanned phase]
      rfl
    · cases (unplanned phase).symm.trans hp
  · intro v g summary r s answered _ _ _ _ _
    apply wp_complete_single answered hl
    intro u o held calm
    rw [wp_bind, wp_setRecoveryTarget]
    split
    · apply wp_syncFlush (hl _ (ended held))
      rintro rest s (rfl | rfl)
      · exact (ended held).replies rest
      · exact ((ended held).flush calm).replies rest
    · exact ended held
  · exact hl
  · intro v o held failed
    rw [wp_bind, wp_setRecoveryTarget, if_neg failed]
    exact ended held

theorem wp_runPlan (hb : ∀ s, m s → Basic t s) (hx : t.lax ∨ ∀ s, m s → Exact t s)
    (digest : ∀ bytes, (t.platform.sha256 bytes).length = 64) {context : SummaryGatewayContext}
    (h : Ready t m context transcript w) (hl : ∀ v, Holds t m v → lost v) :
    wp (runPlan t.platform config service context attemptedAt) (fun _ => Holds t m) lost w := by
  unfold runPlan
  rw [wp_bind]
  apply wp_clock (hl _ h.holds)
  intro now rest
  apply wp_loop (Ready t m context transcript)
  · exact fun v ready => wp_planRound hb hx digest ready hl
  · exact fun v ready => hl _ ready.holds
  · exact h.replies rest

theorem wp_attemptBrokerSummaryStage (hb : ∀ s, m s → Basic t s) (hx : t.lax ∨ ∀ s, m s → Exact t s)
    (digest : ∀ bytes, (t.platform.sha256 bytes).length = 64) (h : Holds t m w)
    (live : Live w.state.stage.current) (hl : ∀ v, Holds t m v → lost v) :
    wp (attemptBrokerSummaryStage t.platform config service attemptedAt) (fun _ => Holds t m) lost
      w := by
  simp only [attemptBrokerSummaryStage]
  rw [wp_bind, wp_stageRow]
  split
  · next residue =>
    apply wp_attemptSingleShot hb digest h live ?_ hl
    intro phase
    rw [phaseOf_live live] at phase
    rcases residue with hr | hr <;> simp [hr] at phase
  next fresh =>
  obtain ⟨unprepared, unaccepted⟩ := not_or.mp fresh
  have phase : phaseOf w.state.stage.current = .opened := by
    rw [phaseOf_live live, if_neg unprepared, if_neg unaccepted]
  rw [wp_bind, wp_videoRow]
  split
  · next plan hplan =>
    split
    · exact wp_recordLocalBrokerFailure h live _ hl fun v hv => hv
    · next hvalid =>
      exact wp_runPlan hb hx digest
        ⟨h, phase, rfl, rfl, .inr ⟨plan, hplan, validatePlan_eq_ok.mp hvalid⟩⟩ hl
  · next unplanned =>
    split
    · exact wp_recordLocalBrokerFailure h live _ hl fun v hv => hv
    · exact wp_attemptSingleShot hb digest h live (fun _ => unplanned) hl
    · next plan hbuild =>
      rw [wp_bind, wp_assignPlan]
      have held := ((h.editing (live_phase live).1).assign (some plan)).holds
        (.single (.build plan phase unplanned (buildPlan_built digest hbuild)))
        (fun he => by cases phase.symm.trans he)
      simp only [wp_bind]
      apply wp_save held (fun he => by cases phase.symm.trans he) hl
      intro v r saved written _ _ video
      have current : v.state.stage.current = r := saved.current
      have film : v.state.video.current = w.state.video.current := video
      apply wp_runPlan hb hx digest ?_ hl
      · exact (w.state.video.current.transcript.getD [])
      · rcases written with rfl | ⟨lax, d, rfl⟩
        · exact ⟨saved.holds, current ▸ phase, by rw [current]; rfl, by rw [film],
            .inr ⟨plan, by rw [current]; rfl, buildPlan_accepted digest hbuild⟩⟩
        · exact ⟨saved.holds, current ▸ phase, by rw [current]; rfl, by rw [film], .inl lax⟩

/-- A stage that is ended without a call keeps its plan. -/
theorem Holds.ended {v : StageWorld} (h : Holds t m v) (live : Live v.state.stage.current)
    {f : PipelineStage → PipelineStage} {status : Status}
    (ended : (f v.state.stage.current).status = status) (final : ¬ status.isOpen)
    (quarantine : (f v.state.stage.current).quarantinedAt = v.state.stage.current.quarantinedAt)
    (plan : (f v.state.stage.current).brokerChunkPlan = v.state.stage.current.brokerChunkPlan) :
    Holds t m (withState v { v.state with stage := v.state.stage.modify f }) := by
  have closed := phaseOf_closed (quarantine.trans live.1) (ended ▸ final)
  apply h.modify (live_phase live).1 (.single (.close _ closed (.inr plan)))
  rw [closed]
  nofun

/-- `_attempt_summary_stage` with the broker, or with no service. -/
theorem wp_attemptSummaryStage (hb : ∀ s, m s → Basic t s) (hx : t.lax ∨ ∀ s, m s → Exact t s)
    (digest : ∀ bytes, (t.platform.sha256 bytes).length = 64)
    (route : config.summarizationService ≠ some .direct) (h : Holds t m w)
    (hl : ∀ v, Holds t m v → lost v) :
    wp (attemptSummaryStage t.platform config) (fun _ => Holds t m) lost w := by
  simp only [attemptSummaryStage]
  rw [wp_bind, wp_stageRow]
  split
  · exact h
  next hopen =>
  have live : Live w.state.stage.current := by
    obtain ⟨hs, hq⟩ := not_or.mp hopen
    exact ⟨by simpa using hq, Decidable.not_not.mp hs⟩
  rw [wp_bind]
  apply wp_notYetDue (hl _ h)
  intro early rest
  have h := h.replies rest
  split
  · exact h
  rw [wp_bind, wp_videoRow]
  split
  · rw [wp_bind, wp_setStage]
    exact h.ended live rfl completed_not_open rfl rfl
  split
  · rw [wp_bind, wp_setStage]
    exact h.ended live rfl failed_not_open rfl rfl
  · next service hservice =>
    split
    · rw [wp_bind, wp_setStage]
      exact h.ended live rfl failed_not_open rfl rfl
    rw [wp_bind]
    apply wp_utcNow (hl _ h)
    intro attemptedAt rest
    split
    · rw [wp_bind]
      refine wp_mono (wp_attemptBrokerSummaryStage hb hx digest (h.replies rest) live hl)
        (fun _ v hv => ?_) (fun _ hv => hv)
      exact hv
    · exact absurd hservice route

end attempt

end YTPipe.Ledger
