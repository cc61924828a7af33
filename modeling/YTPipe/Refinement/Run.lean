import YTPipe.Refinement.SummaryStage

/-!
# Runs of the stage refine its ledger
-/

namespace YTPipe.Ledger

open Broker Proc

variable (t : Terms) (m : State → Prop)

/-- A session about to be flushed. -/
structure Turned (w : StageWorld) : Prop where
  named : w.state.stage.Named
  faithful : t.lax ∨ w.state.stage.Faithful planColumn t.platform.flushRule
  durable : From t m ⟨cardOf w.state.stage.durable, w.trace⟩
  current : From t m ⟨cardOf w.state.stage.current, w.trace⟩
  agreed : phaseOf w.state.stage.current = .eligible →
    cardOf w.state.stage.current = cardOf w.state.stage.flushed ∧
      cardOf w.state.stage.flushed = cardOf w.state.stage.durable
  ahead : t.lax ∨ Follows (cardOf w.state.stage.durable) (cardOf w.state.stage.current)

variable {t m}

theorem Holds.turned {w : StageWorld} (h : Holds t m w) : Turned t m w :=
  ⟨h.named, h.faithful, h.durable, h.current,
    fun he => ⟨(h.agreed (.inr he)).1, (h.agreed (.inr he)).2.1⟩,
    h.ahead.imp_right fun ⟨first, second⟩ => first.trans second⟩

theorem Turned.flush {w : StageWorld} (h : Turned t m w) :
    Holds t m (withState w (w.state.flush t.platform)) where
  named := ⟨h.named.1, h.named.1⟩
  faithful := h.faithful.imp_right Instance.faithful_flush
  durable := h.durable
  flushed := path_written h.faithful h.current
  current := h.current
  agreed he := by
    have eligible : phaseOf w.state.stage.current = .eligible := by
      rcases he with he | he
      · exact (phaseOf_written _ _).symm.trans he
      · exact he
    obtain ⟨same, durable⟩ := h.agreed eligible
    have written : cardOf (w.state.stage.written planColumn t.platform.flushRule)
        = cardOf w.state.stage.current := by
      unfold Instance.written
      split
      · rfl
      · change { cardOf w.state.stage.current with
          plan := w.state.stage.flushed.brokerChunkPlan } = _
        have plan : w.state.stage.flushed.brokerChunkPlan
            = w.state.stage.current.brokerChunkPlan := (congrArg Card.plan same).symm
        rw [plan]
        rfl
    exact ⟨written.symm, written.trans (same.trans durable), rfl⟩
  ahead := by
    rcases h.faithful with lax | faithful
    · exact .inl lax
    · refine h.ahead.imp_right fun forward => ?_
      change Follows _ (cardOf (w.state.stage.written planColumn t.platform.flushRule)) ∧
        Follows (cardOf (w.state.stage.written planColumn t.platform.flushRule)) _
      rw [Instance.written_of_faithful faithful]
      exact ⟨forward, .refl _⟩

/-- A row that was chosen for reconciliation is eligible in every copy. -/
theorem Holds.chosen {w : StageWorld} (h : Holds t m w) {now : Time}
    (hr : reconcilable now w.state.stage.flushed) :
    phaseOf w.state.stage.current = .eligible ∧
      cardOf w.state.stage.current = cardOf w.state.stage.flushed ∧
      cardOf w.state.stage.flushed = cardOf w.state.stage.durable ∧
      w.state.stage.present = w.state.stage.loaded := by
  have eligible : phaseOf w.state.stage.flushed = .eligible :=
    phaseOf_eligible_iff.mpr ⟨hr.2.1, hr.2.2.2.1⟩
  have agreed := h.agreed (.inl eligible)
  exact ⟨(congrArg Card.phase agreed.1).trans eligible, agreed⟩

/-- A read of an eligible row's task by a reconciliation. -/
theorem Holds.get {w : StageWorld} (h : Holds t m w) {g : Get}
    (eligible : phaseOf w.state.stage.current = .eligible)
    (agreed : cardOf w.state.stage.current = cardOf w.state.stage.flushed ∧
      cardOf w.state.stage.flushed = cardOf w.state.stage.durable ∧
      w.state.stage.present = w.state.stage.loaded)
    (reader : g.reader = .reconciliation)
    (task : w.state.stage.current.brokerTaskId = some g.taskId)
    (row : g.durable = w.state.stage.durable) :
    Holds t m { w with trace := .get g :: w.trace } := by
  have current := h.current.tail (.read g (.inr ⟨eligible, reader⟩) task
    ((congrArg cardOf row).trans (agreed.1.trans agreed.2.1).symm))
  refine ⟨h.named, h.faithful, ?_, ?_, current, fun _ => agreed, h.ahead⟩
  · rw [agreed.1, agreed.2.1] at current
    exact current
  · rw [agreed.1] at current
    exact current

/-- What a reconciliation may write of an eligible row without touching its card. -/
theorem Holds.keep {w : StageWorld} (h : Holds t m w) {f : PipelineStage → PipelineStage}
    (same : cardOf (f w.state.stage.current) = cardOf w.state.stage.current) :
    Turned t m (withState w { w.state with stage := w.state.stage.modify f }) where
  named := h.named
  faithful := h.faithful.imp_right Instance.faithful_modify
  durable := h.durable
  current := by
    rw [withState_state, Instance.modify_current, same]
    exact h.current
  agreed he := by
    have eligible : phaseOf w.state.stage.current = .eligible :=
      (congrArg Card.phase same).symm.trans he
    obtain ⟨hf, hd, _⟩ := h.agreed (.inr eligible)
    exact ⟨same.trans hf, hd⟩
  ahead := by
    rw [withState_state, Instance.modify_current, same]
    exact h.turned.ahead

theorem card_kept {r : PipelineStage} (eligible : phaseOf r = .eligible) {exc : Raised} {now : Time} :
    cardOf (stillIndeterminateRow exc now r) = cardOf r := by
  obtain ⟨hq, hr⟩ := phaseOf_eligible_iff.mp eligible
  simp [cardOf, stillIndeterminateRow, phaseOf, hq, hr]

/-- A reconciliation that ends the stage. -/
theorem Holds.close {w : StageWorld} (h : Holds t m w) {s : StageSession} {r : PipelineStage}
    (hs : s.stage = (w.state.stage.modify fun _ => r).assign planColumn none)
    (closed : phaseOf r = .closed) : Turned t m (withState w s) where
  named := by
    rw [withState_state, hs]
    exact ⟨Nat.lt_succ_self _, Nat.lt_succ_of_lt h.named.2⟩
  faithful := by
    rw [withState_state, hs]
    exact h.faithful.imp_right fun f => f
  durable := by
    rw [withState_state, hs]
    exact h.durable
  current := by
    rw [withState_state, hs]
    exact h.current.tail (.close _ closed (.inl rfl))
  agreed he := by
    rw [withState_state, hs] at he
    cases closed.symm.trans he
  ahead := by
    by_cases lax : t.lax
    · exact .inl lax
    · have ends : Step t ⟨cardOf w.state.stage.current, w.trace⟩
          ⟨{ cardOf r with plan := none }, w.trace⟩ := .close _ closed (.inl rfl)
      rw [withState_state, hs]
      exact h.turned.ahead.imp_right fun forward => forward.trans (step_follows t lax ends)

/-- An answer of the broker by which a reconciliation stores `summary`, the output of
the next step of `plan`, a partial one. -/
def YieldsPartial (platform : Platform) (service : BrokerService) (s : StageSession)
    (outcome : HttpOutcome) (plan : ChunkPlan) (summary : Text) : Prop :=
  ∃ start stop ordinal status output,
    s.stage.current.brokerChunkPlan = some plan ∧
    validatePlan platform plan (s.video.current.transcript.getD []) = .ok () ∧
    plan.steps[plan.nextStep.toNat]? = some ⟨.piece start stop, ordinal, status, output⟩ ∧
    reconcile service.profile (s.stage.current.brokerTaskId.getD "None")
      s.stage.current.brokerIdempotencyKey (some partialKind) outcome = .ok (some summary)

/-- The operation is a reconciliation that stores `summary`, the output of the next
step of `plan`, a partial one. -/
def CompletesStep (platform : Platform) (op : StageOp) (w : StageWorld) (plan : ChunkPlan)
    (summary : Text) : Prop :=
  ∃ service now outcome rest, op = .reconcile service (.now now :: .http outcome :: rest)
    ∧ reconcilable now w.state.stage.flushed
    ∧ YieldsPartial platform service w.state outcome plan summary

/-- The operation is a reconciliation that stores the output of a partial step. -/
def CompletesPartial (platform : Platform) (op : StageOp) (w : StageWorld) : Prop :=
  ∃ plan summary, CompletesStep platform op w plan summary

theorem reconcileStep_ok {platform : Platform} {plan? : Option ChunkPlan} {transcript : Text}
    {plan : ChunkPlan} {step : PlanStep}
    (h : reconcileStep platform plan? transcript = .ok (some (plan, step))) :
    plan? = some plan ∧ validatePlan platform plan transcript = .ok ()
      ∧ plan.steps[plan.nextStep.toNat]? = some step := by
  unfold reconcileStep at h
  split at h
  · cases h
  · split at h
    · next hv hs =>
      cases h
      exact ⟨rfl, hv, hs⟩
    · cases h
    · cases h

theorem cardOf_reconciledPartialRow (r : PipelineStage) : cardOf (reconciledPartialRow r) =
    { cardOf r with
      phase := .opened, key := none, task := none, attempts := max 0 (r.attemptCount - 1) } := by
  simp [cardOf, phaseOf, reconciledPartialRow, Status.isOpen]

/-- A partial step reconciled is a step done. -/
theorem turned_partial (hb : ∀ s, m s → Basic t s) (hx : t.lax ∨ ∀ s, m s → Exact t s)
    {w : StageWorld} (h : Holds t m w)
    {g : Get} {l : List Event} {plan : ChunkPlan} {start stop ordinal : Int} {status : StepStatus}
    {output : Option Text} {summary : Text}
    (safe : t.lax ∨ t.platform.flushRule = .assigned)
    (eligible : phaseOf w.state.stage.current = .eligible) (trace : w.trace = .get g :: l)
    (task : w.state.stage.current.brokerTaskId = some g.taskId)
    (hplan : w.state.stage.current.brokerChunkPlan = some plan)
    (hstep : plan.steps[plan.nextStep.toNat]? = some ⟨.piece start stop, ordinal, status, output⟩)
    (kind : g.operationKind = some partialKind) (out : getOutput g = some summary) :
    Turned t m (withState w { w.state with
      stage := (w.state.stage.assignMutated planColumn w.state.stage.present
        (some (plan.completeStep plan.nextStep summary))).modify reconciledPartialRow }) := by
  have advances : t.lax ∨ Advances w.state.stage.current.brokerChunkPlan
      (some (plan.completeStep plan.nextStep summary)) g := by
    by_cases lax : t.lax
    · exact .inl lax
    · right
      have shape := (from_exact t lax h.current hb (hx.resolve_left lax)).shape plan hplan
      have next := shape.next
      have more : plan.nextStep.toNat + 1 < plan.steps.length := by
        refine Decidable.byContradiction fun last => ?_
        have final := (shape.final _ _ hstep (by omega)).1
        exact absurd final (by simp [operationKind, partialKind, finalKind])
      have ho : ordinal = plan.nextStep := by
        have : ordinal = ((plan.nextStep.toNat : Nat) : Int) := (shape.pieces _ _ hstep more).2
        omega
      have filled : summary ≠ [] := by
        obtain ⟨answer, _, valid⟩ := Option.bind_eq_some_iff.mp out
        rw [kind] at valid
        exact validatedOutput_ne_nil valid
      refine ⟨plan, summary, hplan, ?_, by omega, kind, out, filled, rfl⟩
      rw [hplan, ← ho]
      simp [nextSlot, hstep, operationKind]
  have card : cardOf (reconciledPartialRow (planColumn.set
      (some (plan.completeStep plan.nextStep summary)) w.state.stage.current)) =
      { cardOf w.state.stage.current with
        phase := .opened, key := none, task := none,
        attempts := max 0 (w.state.stage.current.attemptCount - 1),
        plan := some (plan.completeStep plan.nextStep summary) } := by
    rw [cardOf_reconciledPartialRow]
    rfl
  have done : Step t ⟨cardOf w.state.stage.current, .get g :: l⟩
      ⟨cardOf (reconciledPartialRow (planColumn.set
        (some (plan.completeStep plan.nextStep summary)) w.state.stage.current)), .get g :: l⟩ := by
    rw [card]
    exact .stepDone g _ (.inr eligible) task advances
  refine ⟨h.named, ?_, h.durable, ?_, fun he => ?_, ?_⟩
  · exact safe.imp_right .inl
  · change From t m ⟨cardOf (reconciledPartialRow (planColumn.set
      (some (plan.completeStep plan.nextStep summary)) w.state.stage.current)), w.trace⟩
    rw [trace]
    exact (trace ▸ h.current).tail done
  · cases (congrArg Card.phase card).symm.trans he
  · by_cases lax : t.lax
    · exact .inl lax
    · exact h.turned.ahead.imp_right fun forward => forward.trans (step_follows t lax done)

/-- The turn of an eligible row. -/
theorem wp_reconcileRow (hb : ∀ s, m s → Basic t s) (hx : t.lax ∨ ∀ s, m s → Exact t s)
    {service : BrokerService}
    {now : Time} {w : StageWorld} {lost : StageWorld → Prop} (h : Holds t m w)
    (chosen : reconcilable now w.state.stage.flushed)
    (safe : t.lax ∨ t.platform.flushRule = .assigned ∨ ∀ outcome rest,
      w.replies = .http outcome :: rest →
        ∀ plan summary, ¬ YieldsPartial t.platform service w.state outcome plan summary)
    (hl : ∀ v, Holds t m v → lost v) :
    wp (reconcileRow t.platform service) (fun _ => Turned t m) lost w := by
  obtain ⟨eligible, agreed⟩ := h.chosen chosen
  have known : ∃ task, w.state.stage.current.brokerTaskId = some task := by
    have same : w.state.stage.current.brokerTaskId = w.state.stage.flushed.brokerTaskId :=
      congrArg Card.task agreed.1
    rw [same]
    exact Option.isSome_iff_exists.mp chosen.2.2.1
  obtain ⟨task, htask⟩ := known
  simp only [reconcileRow]
  rw [wp_bind, wp_planObject, wp_bind, wp_stageRow, wp_bind, wp_videoRow]
  split
  · rw [wp_bind, wp_setStage, wp_assignPlan]
    exact h.close rfl (phaseOf_closed rfl failed_not_open)
  next planned hplanned =>
  rw [wp_bind]
  have read (rest : List Reply) (outcome : Option HttpOutcome) :=
    (h.replies rest).get (g := ⟨w.state.stage.durable, w.state.stage.current, .reconciliation,
      service.profile, w.state.stage.current.brokerTaskId.getD "None",
      planned.map (fun p => operationKind p.2), outcome⟩) eligible agreed rfl
      (by rw [htask]; rfl) rfl
  apply wp_request_reply
  · exact hl _ (read w.replies none)
  intro outcome rest hreply
  have held := read rest (some outcome)
  split
  · next exc _ =>
    split
    · rw [wp_bind]
      apply wp_utcNow (hl _ held)
      intro now' rest'
      rw [wp_setStage]
      exact (held.replies rest').keep (card_kept eligible)
    · rw [wp_bind, wp_setStage, wp_assignPlan]
      exact held.close rfl (phaseOf_closed rfl failed_not_open)
  · rw [wp_bind]
    apply wp_utcNow (hl _ held)
    intro now' rest'
    rw [wp_setStage]
    exact (held.replies rest').keep rfl
  · next summary hsummary =>
    split
    · next plan start stop ordinal status output =>
      obtain ⟨hplan, hvalid, hstep⟩ := reconcileStep_ok hplanned
      have yields : YieldsPartial t.platform service w.state outcome plan summary :=
        ⟨start, stop, ordinal, status, output, hplan, hvalid, hstep, hsummary⟩
      have safe' : t.lax ∨ t.platform.flushRule = .assigned := by
        rcases safe with lax | assigned | avoided
        · exact .inl lax
        · exact .inr assigned
        · exact absurd yields (avoided outcome rest hreply plan summary)
      rw [wp_bind, wp_assignMutatedPlan, wp_setStage]
      exact turned_partial hb hx held safe' eligible rfl (by rw [htask]; rfl) hplan hstep rfl
        (reconcile_output hsummary)
    · rw [wp_bind, wp_setVideo, wp_bind, wp_setStage, wp_assignPlan]
      exact held.close rfl (phaseOf_closed rfl completed_not_open)

theorem Holds.of_durable {w : StageWorld}
    (path : From t m ⟨cardOf w.state.stage.durable, w.trace⟩) :
    Holds t m { w with state := w.state.rollback } :=
  ⟨⟨Nat.lt_succ_self _, Nat.lt_succ_self _⟩, .inr Instance.faithful_rollback, path, path, path,
    fun _ => ⟨rfl, rfl, rfl⟩, .inr ⟨.refl _, .refl _⟩⟩

/-- A change that leaves the card as it is. -/
theorem Holds.same {w : StageWorld} (h : Holds t m w) {f : PipelineStage → PipelineStage}
    (same : cardOf (f w.state.stage.current) = cardOf w.state.stage.current) :
    Holds t m (withState w { w.state with stage := w.state.stage.modify f }) := by
  have turned := h.keep same
  refine ⟨turned.named, turned.faithful, turned.durable, h.flushed, turned.current, fun he => ?_, ?_⟩
  · have agreed := h.agreed (he.imp_right fun he => (congrArg Card.phase same).symm.trans he)
    exact ⟨same.trans agreed.1, agreed.2⟩
  · rw [withState_state, Instance.modify_current, same]
    exact h.ahead

theorem Holds.skip {w : StageWorld} (h : Holds t m w) :
    Holds t m (withState w { w.state with stage := w.state.stage.modify skipRow }) := by
  cases hq : w.state.stage.current.quarantinedAt with
  | some moment =>
    apply h.same
    unfold skipRow
    split
    · rfl
    · simp [cardOf, phaseOf, hq]
  | none =>
    have closed : phaseOf (skipRow w.state.stage.current) = .closed := by
      unfold skipRow
      split
      · next hs =>
        apply phaseOf_closed hq
        rcases hs with hs | hs <;> rw [hs]
        · exact completed_not_open
        · exact failed_not_open
      · exact phaseOf_closed hq skipped_not_open
    have kept : (skipRow w.state.stage.current).brokerChunkPlan
        = w.state.stage.current.brokerChunkPlan := by
      unfold skipRow
      split <;> rfl
    have before : phaseOf w.state.stage.current ≠ .eligible := by
      intro he
      have quarantined := (phaseOf_eligible_iff.mp he).1
      simp [hq] at quarantined
    apply h.modify before (.single (.close _ closed (.inr kept)))
    rw [closed]
    decide

/-- What an operator's request writes. -/
def eligibleRow (now : Time) (audit : String) (r : PipelineStage) : PipelineStage :=
  { r with
    reconciliationStatus := some .getEligible
    nextReconcileAt := some now
    reconciliationReason := some audit }

/-- `request_quarantine_reconciliation`. -/
theorem wp_requestReconciliation {audit : String} {w : StageWorld} (h : Holds t m w) :
    wp (requestReconciliation t.platform audit) (fun _ => Holds t m)
      (fun v => Holds t m (recover w.trace.length (none, v))) w := by
  have untold {v : StageWorld} (hd : v.state.stage.durable = w.state.stage.durable)
      (ht : v.trace = w.trace) : Holds t m (recover w.trace.length (none, v)) := by
    rw [recover_untold (Nat.le_of_eq (congrArg List.length ht))]
    apply Holds.of_durable
    rw [hd, ht]
    exact h.durable
  simp only [requestReconciliation, makeQuarantineGetEligible]
  rw [wp_bind, wp_bind, wp_stageRow]
  split
  · exact h
  next held =>
  split
  · exact h
  next waiting =>
  obtain ⟨quarantined, known⟩ := not_or.mp held
  have hq : w.state.stage.current.quarantinedAt.isSome = true := by
    simpa [Option.isSome_iff_ne_none] using quarantined
  have phase : phaseOf w.state.stage.current = .held := by
    simp [phaseOf, hq, Decidable.not_not.mp waiting]
  have task : w.state.stage.current.brokerTaskId.isSome := by
    cases ht : w.state.stage.current.brokerTaskId with
    | none => simp [ht] at known
    | some task => rfl
  rw [wp_bind]
  refine wp_utcNow (untold rfl rfl) fun now rest => ?_
  rw [wp_bind, wp_setStage, wp_pure, if_pos rfl, wp_bind, wp_setStage, wp_bind, wp_flush]
  refine wp_commit (untold rfl rfl) fun rest' => ?_
  have card : cardOf (eligibleRow now audit w.state.stage.current)
      = { cardOf w.state.stage.current with phase := .eligible } := by
    simp [cardOf, phaseOf, eligibleRow, hq]
  have allowed : From t m
      ⟨cardOf (w.state.stage.modify (eligibleRow now audit)).current, w.trace⟩ := by
    rw [Instance.modify_current, card]
    exact h.current.tail (.allow phase task)
  have path := path_written (i := w.state.stage.modify (eligibleRow now audit)) h.faithful allowed
  rw [← Instance.written_flush] at path
  exact ⟨⟨Nat.lt_succ_self _, Nat.lt_succ_self _⟩, .inr Instance.faithful_commit, path, path, path,
    fun _ => ⟨rfl, rfl, rfl⟩, .inr ⟨.refl _, .refl _⟩⟩

theorem wp_reconcileStage (hb : ∀ s, m s → Basic t s) (hx : t.lax ∨ ∀ s, m s → Exact t s)
    {service : BrokerService}
    {w : StageWorld} {lost : StageWorld → Prop} (h : Holds t m w)
    (safe : t.lax ∨ t.platform.flushRule = .assigned
      ∨ ¬ CompletesPartial t.platform (.reconcile service w.replies) w)
    (hl : ∀ v, Holds t m v → lost v) :
    wp (reconcileStage t.platform service) (fun _ => Holds t m) lost w := by
  unfold reconcileStage
  rw [wp_bind]
  apply wp_utcNow_reply (hl _ h)
  intro now rest hreply
  have held := h.replies rest
  rw [wp_bind, wp_read, wp_bind, wp_when]
  split
  · next chosen =>
    refine wp_mono (wp_reconcileRow hb hx held chosen ?_ hl) (fun _ v turned => ?_) (fun _ hv => hv)
    · refine safe.imp_right (Or.imp_right fun avoided outcome rest' ho plan summary yields =>
        avoided ⟨plan, summary, ?_⟩)
      have all : w.replies = .now now :: .http outcome :: rest' := hreply.trans (congrArg _ ho)
      exact ⟨service, now, outcome, rest', by rw [all], chosen, yields⟩
    · exact turned.flush
  · exact held.turned.flush

/-- One operation of the stage is some steps of its ledger. -/
theorem perform_holds (hb : ∀ s, m s → Basic t s) (hx : t.lax ∨ ∀ s, m s → Exact t s)
    (digest : ∀ bytes, (t.platform.sha256 bytes).length = 64) {op : StageOp} {w : StageWorld}
    (route : op.brokered)
    (safe : t.lax ∨ t.platform.flushRule = .assigned ∨ ¬ CompletesPartial t.platform op w)
    (h : Holds t m w) : Holds t m (perform t.platform op w) := by
  apply perform_of_wp
  have start := h.replies op.replies
  cases op with
  | attempt config replies =>
    unfold StageOp.proc
    rw [wp_bind]
    exact wp_attemptSummaryStage hb hx digest route start fun v hv => hv.lost
  | reconcile service replies => exact wp_reconcileStage hb hx start safe fun v hv => hv.lost
  | request audit replies => exact wp_requestReconciliation start
  | skip => exact start.skip
  | commit replies => exact wp_commit start.lost fun rest => (start.replies rest).commit
  | rollback => exact start.rollback
  | reload =>
    unfold StageOp.proc
    rw [wp_bind, wp_read, wp_when]
    split
    · exact ⟨⟨Nat.lt_succ_self _, Nat.lt_succ_self _⟩, .inr Instance.faithful_expire, start.durable,
        start.flushed, start.flushed,
        fun he => ⟨rfl, (start.agreed (.inl (or_self_iff.mp he))).2.1, rfl⟩,
        start.ahead.imp_right fun ⟨first, _⟩ => ⟨first, .refl _⟩⟩
    · exact start
  | video v => exact start.session rfl

/-- A run of the stage is a path of its ledger. -/
theorem run_holds (hb : ∀ s, m s → Basic t s) (hx : t.lax ∨ ∀ s, m s → Exact t s)
    (digest : ∀ bytes, (t.platform.sha256 bytes).length = 64) {ops : List StageOp} {w : StageWorld}
    (route : ∀ op ∈ ops, op.brokered)
    (safe : t.lax ∨ t.platform.flushRule = .assigned
      ∨ Avoids t.platform (CompletesPartial t.platform) ops w)
    (h : Holds t m w) : Holds t m (runStage t.platform ops w) := by
  rcases safe with lax | assigned | avoids
  · exact runStage_induction t.platform
      (fun op ho v hv => perform_holds hb hx digest (route op ho) (.inl lax) hv) h
  · exact runStage_induction t.platform
      (fun op ho v hv => perform_holds hb hx digest (route op ho) (.inr (.inl assigned)) hv) h
  · exact runStage_avoids t.platform avoids
      (fun op ho v hn hv => perform_holds hb hx digest (route op ho) (.inr (.inr hn)) hv) h

/-- A session that was just opened is at the start of its ledger. -/
theorem openSession_holds (stage : PipelineStage) (video : Video) :
    Holds t (· = ⟨cardOf stage, []⟩) (openSession stage video) :=
  ⟨⟨Nat.one_pos, Nat.one_pos⟩, .inr (.inr rfl), .start rfl, .start rfl, .start rfl,
    fun _ => ⟨rfl, rfl, rfl⟩, .inr ⟨.refl _, .refl _⟩⟩

end YTPipe.Ledger
