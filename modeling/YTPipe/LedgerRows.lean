import YTPipe.Broker.Answers

/-!
# Rows and cards

What each function on the stage row does to its card.
-/

namespace YTPipe.Ledger

open Broker

/-- A stage that is open and not in quarantine. -/
def Live (r : PipelineStage) : Prop := r.quarantinedAt = none ∧ r.status.isOpen

section phases

variable {r : PipelineStage}

theorem phaseOf_live (h : Live r) : phaseOf r =
    if r.reconciliationStatus = some .submissionPrepared then .prepared
    else if r.reconciliationStatus = some .submissionAccepted then .accepted else .opened := by
  simp [phaseOf, h.1, h.2]

theorem live_of_opened (h : phaseOf r = .opened) : Live r := by
  unfold phaseOf at h
  split at h
  · split at h <;> cases h
  · next hq =>
    split at h
    · cases h
    · next hs => exact ⟨by simpa using hq, by simpa using hs⟩

theorem live_of_accepted (h : phaseOf r = .accepted) :
    Live r ∧ r.reconciliationStatus = some .submissionAccepted := by
  unfold phaseOf at h
  split at h
  · split at h <;> cases h
  · next hq =>
    split at h
    · cases h
    · next hs =>
      split at h
      · cases h
      · split at h
        · next ha => exact ⟨⟨by simpa using hq, by simpa using hs⟩, ha⟩
        · cases h

theorem phaseOf_prepared (h : phaseOf r = .prepared) :
    r.reconciliationStatus = some .submissionPrepared := by
  unfold phaseOf at h
  split at h
  · split at h <;> cases h
  · split at h
    · cases h
    · split at h
      · assumption
      · split at h <;> cases h

theorem phaseOf_eligible_iff :
    phaseOf r = .eligible ↔ r.quarantinedAt.isSome ∧ r.reconciliationStatus = some .getEligible := by
  unfold phaseOf
  split
  · next hq => split <;> simp_all
  · next hq =>
    have : ¬ (r.quarantinedAt.isSome = true) := hq
    repeat' split
    all_goals simp_all

theorem phaseOf_closed (hq : r.quarantinedAt = none) (hs : ¬ r.status.isOpen) :
    phaseOf r = .closed := by
  simp [phaseOf, hq, hs]

theorem live_phase (h : Live r) : phaseOf r ≠ .eligible ∧ phaseOf r ≠ .closed := by
  rw [phaseOf_live h]
  repeat' split
  all_goals exact ⟨nofun, nofun⟩

theorem cardOf_setPlan (d : Option ChunkPlan) :
    cardOf (planColumn.set d r) = { cardOf r with plan := d } := rfl

theorem phaseOf_setPlan (d : Option ChunkPlan) : phaseOf (planColumn.set d r) = phaseOf r := rfl

end phases

section rows

variable {r : PipelineStage}

theorem cardOf_prepareRow (h : Live r) (key : String) : cardOf (prepareRow key r) =
    { cardOf r with phase := .prepared, key := some (truncate 128 key) } := by
  simp [cardOf, phaseOf, prepareRow, h.1, h.2]

theorem cardOf_acceptRow (h : Live r) {accepted : AcceptedTask} {key : String}
    (task : truncate 128 accepted.taskId = accepted.taskId) (same : accepted.idempotencyKey = key)
    (written : r.brokerIdempotencyKey = some (truncate 128 key)) :
    cardOf (acceptRow accepted key r) =
      { cardOf r with phase := .accepted, task := some accepted.taskId } := by
  have hk : orElse (some key) key = key := by
    unfold orElse
    simp
  simp [cardOf, phaseOf, acceptRow, h.1, h.2, task, same, hk, written]

/-- Correlation that is stored already, or missing, changes nothing. -/
theorem keepCorrelation_self {task key : Option String}
    (ht : task.getD "" = "" ∨ task.map (truncate 128) = r.brokerTaskId)
    (hk : key.getD "" = "" ∨ key.map (truncate 128) = r.brokerIdempotencyKey) :
    keepCorrelation task key r = r := by
  have hkey : (if key.getD "" = "" then r.brokerIdempotencyKey else key.map (truncate 128))
      = r.brokerIdempotencyKey := by
    split
    · rfl
    · exact hk.resolve_left ‹_›
  have htask : (if task.getD "" = "" then r.brokerTaskId else task.map (truncate 128))
      = r.brokerTaskId := by
    split
    · rfl
    · exact ht.resolve_left ‹_›
  unfold keepCorrelation
  rw [htask, hkey]

/-- A task named only now is stored. -/
theorem keepCorrelation_task {task key : String} (named : task ≠ "")
    (short : truncate 128 task = task)
    (hk : r.brokerIdempotencyKey = some (truncate 128 key)) :
    keepCorrelation (some task) (some key) r = { r with brokerTaskId := some task } := by
  have hkey : (if key = "" then r.brokerIdempotencyKey else some (truncate 128 key))
      = r.brokerIdempotencyKey := by
    split
    · rfl
    · exact hk.symm
  simp only [keepCorrelation, Option.getD_some, if_neg named, Option.map_some, short, hkey]

/-- The columns an outcome leaves, with the plan. -/
def settledRow (outcome : SummaryFailureOutcome) (attemptedAt : Time) (taskId : Option String)
    (terminalConfirmed : Bool) (r : PipelineStage) : PipelineStage :=
  let r' := applyOutcomeRow outcome attemptedAt taskId terminalConfirmed r
  if outcome.disposition = .terminal then planColumn.set none r' else r'

theorem cardOf_quarantined {outcome : SummaryFailureOutcome} (attemptedAt : Time)
    (taskId : Option String) (terminalConfirmed : Bool) (hd : outcome.disposition = .quarantine)
    (unsafeClass : outcome.failureClass ∉ safeTerminalClasses) :
    cardOf (settledRow outcome attemptedAt taskId terminalConfirmed r) =
      { cardOf r with phase := .held } := by
  simp [settledRow, applyOutcomeRow, canAdvanceSubmissionEpoch, unsafeClass, hd, cardOf, phaseOf,
    noteFailure]

/-- What ends for good fails. -/
theorem settledRow_failed {outcome : SummaryFailureOutcome} (attemptedAt : Time)
    (taskId : Option String) (terminalConfirmed : Bool) (hd : outcome.disposition = .terminal)
    (hq : r.quarantinedAt = none) :
    (settledRow outcome attemptedAt taskId terminalConfirmed r).status = .failed
      ∧ (settledRow outcome attemptedAt taskId terminalConfirmed r).quarantinedAt = none := by
  simp only [settledRow, if_pos hd]
  constructor
  · change (applyOutcomeRow outcome attemptedAt taskId terminalConfirmed r).status = .failed
    simp only [applyOutcomeRow, hd]
  · change (applyOutcomeRow outcome attemptedAt taskId terminalConfirmed r).quarantinedAt = none
    simp only [applyOutcomeRow, hd]
    split <;> split <;> exact hq

theorem settledRow_terminal {outcome : SummaryFailureOutcome} (attemptedAt : Time)
    (taskId : Option String) (terminalConfirmed : Bool) (hd : outcome.disposition = .terminal)
    (hq : r.quarantinedAt = none) :
    phaseOf (settledRow outcome attemptedAt taskId terminalConfirmed r) = .closed ∧
      (settledRow outcome attemptedAt taskId terminalConfirmed r).brokerChunkPlan = none := by
  obtain ⟨failed, quiet⟩ := settledRow_failed attemptedAt taskId terminalConfirmed hd hq
  constructor
  · apply phaseOf_closed quiet
    rw [failed]
    decide
  · simp [settledRow, hd, planColumn]

/-- A task that failed in a transient class, with attempts left, opens a new epoch. -/
theorem cardOf_retried {outcome : SummaryFailureOutcome} (attemptedAt : Time) {task : String}
    (hd : outcome.disposition = .retry) (h : Live r)
    (safeClass : outcome.failureClass ∈ safeTerminalClasses) (named : task ≠ "")
    (stored : r.brokerTaskId = some task) (attempts : r.attemptCount < r.maxAttempts)
    (epoch : r.brokerSubmissionEpoch < r.maxAttempts) :
    cardOf (settledRow outcome attemptedAt (some task) true r) =
      { cardOf r with
        phase := .opened, key := none, task := none, epoch := r.brokerSubmissionEpoch + 1 } := by
  simp [settledRow, applyOutcomeRow, hd, safeClass, named, recordHistory, noteFailure, stored,
    canAdvanceSubmissionEpoch, attempts, epoch, advanceEpoch, cardOf, phaseOf, h.1, Status.isOpen]

theorem cardOf_completePiece : cardOf (completeRow false r) =
    { cardOf r with phase := .opened, key := none, task := none } := by
  simp [cardOf, phaseOf, completeRow, Status.isOpen]

theorem phaseOf_completeRow_final (r : PipelineStage) : phaseOf (completeRow true r) = .closed := by
  simp [phaseOf, completeRow, Status.isOpen]

end rows

/-- The steps of a split are its pieces in order, and the final one. -/
theorem planSteps_getElem (ranges : List (Nat × Nat)) (index i : Nat) {s : PlanStep}
    (h : (planSteps index ranges)[i]? = some s) :
    (i < ranges.length → operationKind s = partialKind ∧ s.ordinal = (index + i : Nat)) ∧
      (i = ranges.length → operationKind s = finalKind ∧ s.ordinal = 0) := by
  induction ranges generalizing index i with
  | nil =>
    cases i with
    | zero =>
      cases h
      exact ⟨nofun, fun _ => ⟨rfl, rfl⟩⟩
    | succ i => cases h
  | cons range ranges ih =>
    cases i with
    | zero =>
      cases h
      exact ⟨fun _ => ⟨rfl, rfl⟩, nofun⟩
    | succ i =>
      obtain ⟨piece, final⟩ := ih (index + 1) i h
      simp only [List.length_cons, Nat.add_lt_add_iff_right, Nat.add_right_cancel_iff]
      rw [show index + (i + 1) = index + 1 + i by omega]
      exact ⟨piece, final⟩

theorem stepPrompt_ok {plan : ChunkPlan} {step : PlanStep} {transcript : Text} {kind prompt : String}
    (h : stepPrompt plan step transcript = some (.ok (kind, prompt))) :
    kind = operationKind step ∧
      (kind = finalKind → prompt = finalPrompt (plan.steps.dropLast.map (·.output.getD []))) := by
  unfold stepPrompt at h
  unfold operationKind
  split at h
  · split at h
    · cases h
    · cases h
      exact ⟨rfl, fun hk => absurd hk (by decide)⟩
  · simp only at h
    split at h
    · cases h
    · split at h
      · cases h
      · split at h
        · cases h
        · cases h
          exact ⟨rfl, fun _ => rfl⟩

/-- A plan the planner gives is a plan just made. -/
theorem buildPlan_built {platform : Platform} {text : Text} {config : BrokerChunkConfig}
    {plan : ChunkPlan} (digest : ∀ bytes, (platform.sha256 bytes).length = 64)
    (h : buildPlan platform text config = .ok (some plan)) : Built plan := by
  have pieces := (buildPlan_accepted digest h).pieces
  simp only [buildPlan, bind_eq_ok] at h
  obtain ⟨_, _, tokens, _, h⟩ := h
  split at h
  · cases h
  simp only [bind_eq_ok] at h
  obtain ⟨_, _, ranges, _, _, _, h⟩ := h
  cases h
  have count := planSteps_length 0 ranges
  have many : 2 ≤ (planSteps 0 ranges).length := by
    have := List.length_pos_iff.mpr pieces
    simp only [List.length_dropLast] at this
    omega
  refine ⟨rfl, planSteps_pending 0 ranges, many, fun i s hs hi => ?_, fun i s hs hi => ?_⟩
  · have := (planSteps_getElem ranges 0 i hs).1 (by simp only [count] at hi; omega)
    simpa using this
  · exact (planSteps_getElem ranges 0 i hs).2 (by simp only [count] at hi; omega)

end YTPipe.Ledger
