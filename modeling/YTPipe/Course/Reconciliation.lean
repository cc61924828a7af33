import YTPipe.Course.SummaryStage
import YTPipe.StageRun

/-!
# Reconciliation keeps to its course
-/

namespace YTPipe

open Broker Proc Ledger

variable {platform : Platform} {trusted : List Event → Prop} {P past ever : RowState}
  {before : StageSession} {w : StageWorld} {lost : StageWorld → Prop}

/-- A reconciliation read the output of a partial step. -/
def Get.CompletesPartial (g : Get) : Prop :=
  g.reader = .reconciliation ∧ g.operationKind = some partialKind
    ∧ ∃ outcome output, g.outcome = some outcome
      ∧ reconcile g.profile g.taskId g.current.brokerIdempotencyKey g.operationKind outcome
        = .ok (some output)

/-- What leads from a row that is reconciled to one that was. -/
structure ReconcileCourse (platform : Platform) (trusted : List Event → Prop)
    (P past ever : RowState) : Prop where
  earlier : ∀ g l, trusted (.get g :: l) → trusted l
  distrust : ∀ (g : Get) l, g.CompletesPartial → trusted (.get g :: l) →
    platform.flushRule = .assigned
  past_ever : ∀ r l, past r l → ever r l
  past_sturdy : Sturdy trusted past
  stays : ∀ r l, P r l → past r l
  get : ∀ (g : Get) r l, g.reader = .reconciliation → g.current = r →
    g.taskId = r.brokerTaskId.getD "None" → P r l → P r (.get g :: l)
  invalid : ∀ r l, P r l → past (planColumn.set none (invalidPlanRow r)) l
  still : ∀ exc now r l, P r l → past (stillIndeterminateRow exc now r) l
  fails : ∀ exc r l, P r l → past (planColumn.set none (reconcileFailedRow exc r)) l
  postpone : ∀ t r l, P r l → past { r with nextReconcileAt := t } l
  part : ∀ (g : Get) plan step output r l, P r (.get g :: l) → r.brokerChunkPlan = some plan →
    plan.steps[plan.nextStep.toNat]? = some step → operationKind step ≠ finalKind →
    past (reconciledPartialRow
      (planColumn.set (some (plan.completeStep plan.nextStep output)) r)) (.get g :: l)
  final : ∀ (g : Get) planned r l, P r (.get g :: l) →
    (planned = true ↔ r.brokerChunkPlan.isSome = true) →
    past (planColumn.set none (reconciledRow planned r)) (.get g :: l)

theorem reconcileStep_some {plan : Option ChunkPlan} {transcript : Text} {step : PlanStep}
    {found : ChunkPlan}
    (h : reconcileStep platform plan transcript = .ok (some (found, step))) :
    plan = some found ∧ found.steps[found.nextStep.toNat]? = some step := by
  unfold reconcileStep at h
  split at h
  · cases h
  · split at h
    · next next =>
      cases h
      exact ⟨rfl, next⟩
    · cases h
    · cases h

theorem reconcileStep_none {plan : Option ChunkPlan} {transcript : Text}
    (h : reconcileStep platform plan transcript = .ok none) : plan = none := by
  unfold reconcileStep at h
  split at h
  · rfl
  · split at h <;> cases h

/-- A row that was worked on, after the flush. -/
theorem ended_flush {r : PipelineStage} {v : StageWorld} (sturdy : Sturdy trusted past)
    (past_ever : ∀ r l, past r l → ever r l) (start : Reached (Sometime ever) w.state w.state)
    (row : past r v.trace) (owned : trusted v.trace → Owned platform 0 v.state.stage)
    (edits : Edits r w.state v.state) :
    Ended platform trusted past ever w.state (withState v (v.state.flush platform)) := by
  refine ⟨?_, fun trust => (owned trust).flush, ?_, fun _ => calm_flush _ _, fun going => ?_,
    fun _ _ => firm_flush _ _⟩
  · change past v.state.stage.current v.trace
    exact edits.current.symm ▸ row
  · refine (start.edits edits).flush ⟨_, past_ever _ v.trace ?_⟩
    exact sturdy.written (fun trust => (owned trust).faithful) (edits.current.symm ▸ row)
  · exact settled_of_open (edits.durable.symm ▸ going)

namespace ReconcileCourse

variable (course : ReconcileCourse platform trusted P past ever)
include course

/-- The turn of a row. -/
theorem wp_reconcileRow {service : BrokerService} {post : Unit → StageWorld → Prop}
    (row : P w.state.stage.current w.trace)
    (owned : trusted w.trace → Owned platform 0 w.state.stage)
    (hl : ∀ v, v.state = w.state → P w.state.stage.current v.trace → lost v)
    (go : ∀ v r, past r v.trace → (trusted v.trace → Owned platform 0 v.state.stage) →
      Edits r w.state v.state → post () v) :
    wp (reconcileRow platform service) post lost w := by
  simp only [reconcileRow]
  rw [wp_bind, wp_planObject, wp_bind, wp_stageRow, wp_bind, wp_videoRow]
  split
  · rw [wp_bind, wp_setStage, wp_assignPlan]
    exact go _ _ (course.invalid _ _ row) (fun trust => ((owned trust).modify _).assign none)
      ⟨rfl, rfl, rfl, rfl⟩
  next planned found =>
  rw [wp_bind]
  have asked (outcome : Option HttpOutcome) := course.get ⟨w.state.stage.durable,
    w.state.stage.current, .reconciliation, service.profile,
    w.state.stage.current.brokerTaskId.getD "None", planned.map (fun p => operationKind p.2),
    outcome⟩ _ _ rfl rfl rfl row
  apply wp_request
  · exact hl _ rfl (asked none)
  intro outcome answers
  have asked := asked (some outcome)
  have owned (g : Get) (trust : trusted (.get g :: w.trace)) :
      Owned platform 0 w.state.stage := owned (course.earlier g _ trust)
  split
  · next exc _ =>
    split
    · rw [wp_bind]
      apply wp_utcNow
      · exact hl _ rfl asked
      intro now answers
      rw [wp_setStage]
      exact go _ _ (course.still exc now _ _ asked) (fun trust => (owned _ trust).only rfl)
        ⟨rfl, rfl, rfl, rfl⟩
    · rw [wp_bind, wp_setStage, wp_assignPlan]
      exact go _ _ (course.fails exc _ _ asked)
        (fun trust => ((owned _ trust).modify _).assign none) ⟨rfl, rfl, rfl, rfl⟩
  · rw [wp_bind]
    apply wp_utcNow
    · exact hl _ rfl asked
    intro now answers
    rw [wp_setStage]
    exact go _ _ (course.postpone _ _ _ asked) (fun trust => (owned _ trust).only rfl)
      ⟨rfl, rfl, rfl, rfl⟩
  · next summary read =>
    split
    · next plan start stop ordinal status output =>
      obtain ⟨stored, next⟩ := reconcileStep_some found
      rw [wp_bind, wp_assignMutatedPlan, wp_setStage]
      refine go _ _ (course.part _ _ _ summary _ _ asked stored next ?_) (fun trust => ?_)
        ⟨rfl, rfl, rfl, rfl⟩
      · exact (by decide : partialKind ≠ finalKind)
      · have assigned := course.distrust _ _ ⟨rfl, rfl, outcome, summary, rfl, read⟩ trust
        exact ⟨.inl assigned, (owned _ trust).present, (owned _ trust).object⟩
    · rw [wp_bind, wp_setVideo, wp_bind, wp_setStage, wp_assignPlan]
      refine go _ _ (course.final _ planned.isSome _ _ asked ?_)
        (fun trust => ((owned _ trust).modify _).assign none) ⟨rfl, rfl, rfl, rfl⟩
      cases planned with
      | none => simpa using reconcileStep_none found
      | some p =>
        have stored : w.state.stage.current.brokerChunkPlan = some p.1 := (reconcileStep_some found).1
        simp [stored]

/-- `reconcile_quarantined_summaries`, for the row of a stage. -/
theorem wp_reconcileStage {service : BrokerService} {post : Unit → StageWorld → Prop}
    (due : ∀ now rest, w.replies = .now now :: rest → reconcilable now w.state.stage.flushed →
      P w.state.stage.current w.trace)
    (row : past w.state.stage.current w.trace)
    (owned : trusted w.trace → Owned platform 0 w.state.stage)
    (start : Reached (Sometime ever) w.state w.state)
    (hl : ∀ v, v.state = w.state → past w.state.stage.current v.trace → lost v)
    (go : ∀ v, Ended platform trusted past ever w.state v → post () v) :
    wp (reconcileStage platform service) post lost w := by
  unfold reconcileStage
  rw [wp_bind]
  apply wp_utcNow_reply (hl _ rfl row)
  intro now answers clock
  have written {v : StageWorld} {r : PipelineStage} (row : past r v.trace)
      (owned : trusted v.trace → Owned platform 0 v.state.stage) (edits : Edits r w.state v.state) :=
    ended_flush course.past_sturdy course.past_ever start row owned edits
  rw [wp_bind, wp_read, wp_bind, wp_when]
  split
  · next listed =>
    apply course.wp_reconcileRow (w := { w with replies := answers }) (due now answers clock listed)
    · exact owned
    · exact fun v same row => hl v same (course.stays _ _ row)
    · intro v r row owned edits
      rw [wp_flush]
      exact go _ (written row owned edits)
  · rw [wp_flush]
    exact go _ (written (v := { w with replies := answers }) row owned (edits_self w.state))

end ReconcileCourse

/-- A turn comes to an end with the row's task: its plan is refused, or what is read of
the task is a result or a definite failure. -/
def settles (platform : Platform) (service : BrokerService) (transcript : Text)
    (r : PipelineStage) (answers : List Reply) : Bool :=
  match reconcileStep platform r.brokerChunkPlan transcript, answers with
  | .error _, _ => true
  | .ok planned, .http outcome :: _ =>
    match reconcile service.profile (r.brokerTaskId.getD "None") r.brokerIdempotencyKey
      (planned.map fun p => operationKind p.2) outcome with
    | .error exc => orElse exc.failureClass "indeterminate" != "indeterminate"
    | .ok summary => summary.isSome
  | .ok _, _ => false

/-- Rows of one status, both in quarantine or neither. -/
def Alike (r r' : PipelineStage) : Prop :=
  r.status = r'.status ∧ r.quarantinedAt.isSome = r'.quarantinedAt.isSome

/-- A turn that settles nothing only puts the row's next turn off. -/
theorem wp_unsettledRow {service : BrokerService} {post : Unit → StageWorld → Prop}
    (unsettled : settles platform service (w.state.video.current.transcript.getD [])
      w.state.stage.current w.replies = false)
    (hl : ∀ v, v.state = w.state → lost v)
    (go : ∀ v, Alike v.state.stage.current w.state.stage.current →
      Edits v.state.stage.current w.state v.state → post () v) :
    wp (reconcileRow platform service) post lost w := by
  simp only [reconcileRow]
  rw [wp_bind, wp_planObject, wp_bind, wp_stageRow, wp_bind, wp_videoRow]
  unfold settles at unsettled
  split
  · next refused =>
    rw [refused] at unsettled
    cases unsettled
  next planned found =>
  rw [found] at unsettled
  rw [wp_bind]
  apply wp_request_reply
  · exact hl _ rfl
  intro outcome rest answer
  simp only [answer] at unsettled
  split
  · next exc failure =>
    simp only [failure, bne_eq_false_iff_eq] at unsettled
    rw [if_pos unsettled, wp_bind]
    apply wp_utcNow
    · exact hl _ rfl
    intro now answers
    rw [wp_setStage]
    exact go _ ⟨rfl, rfl⟩ ⟨rfl, rfl, rfl, rfl⟩
  · rw [wp_bind]
    apply wp_utcNow
    · exact hl _ rfl
    intro now answers
    rw [wp_setStage]
    exact go _ ⟨rfl, rfl⟩ ⟨rfl, rfl, rfl, rfl⟩
  · next summary read =>
    rw [read] at unsettled
    cases unsettled

/-- A reconciliation that settles nothing leaves the row in its status and in quarantine. -/
theorem wp_unsettledStage {service : BrokerService} {post : Unit → StageWorld → Prop}
    (unsettled : ∀ now rest, w.replies = .now now :: rest → reconcilable now w.state.stage.flushed →
      settles platform service (w.state.video.current.transcript.getD []) w.state.stage.current
        rest = false)
    (start : Reached (Sometime fun r _ => Alike r w.state.stage.current) w.state w.state)
    (hl : ∀ v, v.state = w.state → lost v)
    (go : ∀ v, Ended platform (fun _ => False) (fun r _ => Alike r w.state.stage.current)
      (fun r _ => Alike r w.state.stage.current) w.state v → post () v) :
    wp (reconcileStage platform service) post lost w := by
  have written {v : StageWorld} (alike : Alike v.state.stage.current w.state.stage.current)
      (edits : Edits v.state.stage.current w.state v.state) :=
    @ended_flush platform (fun _ => False) (fun r _ => Alike r w.state.stage.current) _ w _ v
      (sturdy_free fun _ _ _ h => h) (fun _ _ h => h) start alike False.elim edits
  unfold reconcileStage
  rw [wp_bind]
  apply wp_utcNow_reply (hl _ rfl)
  intro now answers clock
  rw [wp_bind, wp_read, wp_bind, wp_when]
  split
  · next listed =>
    apply wp_unsettledRow (w := { w with replies := answers }) (unsettled now answers clock listed)
    · exact hl
    · intro v alike edits
      rw [wp_flush]
      exact go _ (written alike edits)
  · rw [wp_flush]
    exact go _ (written (v := { w with replies := answers }) ⟨rfl, rfl⟩ (edits_self w.state))

/-- `request_quarantine_reconciliation` and the commit of its route, on a row it may
make eligible. -/
theorem wp_requestReconciliation {audit : String} {post : Unit → StageWorld → Prop}
    (past_ever : ∀ r l, past r l → ever r l) (sturdy : Sturdy trusted past)
    (eligible : ∀ now r l, past r l → r.quarantinedAt.isSome = true → r.brokerTaskId.getD "" ≠ "" →
      past { r with
        reconciliationStatus := some .getEligible
        nextReconcileAt := some now
        reconciliationReason := some audit } l)
    (row : past w.state.stage.current w.trace)
    (owned : trusted w.trace → Owned platform 0 w.state.stage)
    (start : Reached (Sometime ever) w.state w.state) (hl : ∀ v, Adrift ever w.state v → lost v)
    (go : ∀ v, Ended platform trusted past ever w.state v → post () v) :
    wp (requestReconciliation platform audit) post lost w := by
  have before : Ended platform trusted past ever w.state w :=
    ⟨row, owned, start, id, settled_of_open, fun _ => id⟩
  unfold requestReconciliation makeQuarantineGetEligible
  rw [wp_bind, wp_bind, wp_stageRow]
  split
  · exact go w before
  next held =>
  split
  · exact go w before
  next awaiting =>
  obtain ⟨held, tasked⟩ := not_or.mp held
  have quarantined : w.state.stage.current.quarantinedAt.isSome = true :=
    Option.isSome_iff_ne_none.mpr fun none => held (Option.isNone_iff_eq_none.mpr none)
  rw [wp_bind]
  apply wp_utcNow (hl _ (before.adrift past_ever))
  intro now answers
  rw [wp_bind, wp_setStage, wp_pure]
  simp only [if_true]
  rw [wp_bind, wp_setStage, wp_bind]
  refine wp_save_ended sturdy past_ever ⟨?_, ?_, ?_, ?_, ?_, ?_⟩ hl go
  · exact eligible now w.state.stage.current w.trace row quarantined tasked
  · exact fun trust => (owned trust).only rfl
  · exact start.edits ⟨rfl, rfl, rfl, rfl⟩
  · exact fun calm quiet => calm quiet
  · exact fun going => settled_of_open going
  · intro _ firm eligible
    obtain ⟨⟨_, same⟩, _⟩ := firm eligible
    exact absurd (same.symm.trans (Decidable.not_not.mp awaiting)) (by decide)

end YTPipe
