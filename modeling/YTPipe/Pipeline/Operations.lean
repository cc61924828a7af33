import YTPipe.Pipeline.Turns
import YTPipe.Polling.Incidents

/-!
# Operations on a video's stages

The calls of the service, and the poller's finalization of its summary circuit,
which may try a summary again once the inference server was restarted.
-/

namespace YTPipe.Pipeline

open Broker Proc

/-- The summary `_finalize_direct_incident` may find. -/
def probeable (s : PipelineSession) : Prop :=
  (s.flushedRows .summary).any (fun r => Polling.isDirectCode r.failureCode
    && (decide (r.status = .pendingRetry) || decide (r.status = .failed))) = true

instance (s : PipelineSession) : Decidable (probeable s) := inferInstanceAs (Decidable (_ = true))

section

variable (platform : Platform) (service : PipelineService)

/-- The probe of `_finalize_direct_incident`. -/
def probeSummary : PipelineProc Unit := do
  setRow .summary fun r => { r with nextAttemptAt := none }
  attemptSummary platform service

/-- `_finalize_direct_incident`; the answer tells whether the failure it finds is the
video's and the restart succeeded. -/
def finalizeDirectIncident : PipelineProc Unit := do
  let s ← Proc.read
  let mine ← Proc.ask fun r => match r with
    | .first mine => some mine
    | _ => none
  if probeable s ∧ mine then probeSummary platform service
  else others platform

/-- `_finalize_summary_circuit`, as far as the session goes. -/
def finalizeSummaryCircuit : PipelineProc Unit :=
  match service.summaries.summarizationService with
  | some .direct => do
    finalizeDirectIncident platform service
    flush platform
  | _ => flush platform

inductive Activity
  | call (call : Call)
  | finalize
  deriving DecidableEq

def Activity.proc : Activity → PipelineProc Bool
  | call c => c.proc platform service
  | finalize => do
    finalizeSummaryCircuit platform service
    return false

end

/-- Something done to a video's stages, with what it is answered. -/
structure Operation where
  service : PipelineService
  activity : Activity
  replies : List PipelineReply

section

variable (platform : Platform)

def operate (op : Operation) (w : PipelineWorld) : PipelineWorld :=
  recover w.trace.length
    ((op.activity.proc platform op.service).run { w with replies := op.replies })

def runOperations (ops : List Operation) (w : PipelineWorld) : PipelineWorld :=
  ops.foldl (fun w op => operate platform op w) w

/-- The operations come back, and none takes anything back. -/
def Completed : List Operation → PipelineWorld → Prop
  | [], _ => True
  | op :: ops, w =>
    op.activity ≠ .call .rollback
      ∧ ((op.activity.proc platform op.service).run { w with replies := op.replies }).1.isSome = true
      ∧ Completed ops (operate platform op w)

instance decidableCompleted : (ops : List Operation) → (w : PipelineWorld) →
    Decidable (Completed platform ops w)
  | [], _ => isTrue trivial
  | op :: ops, w =>
    have := decidableCompleted ops (operate platform op w)
    inferInstanceAs (Decidable (_ ∧ _ ∧ _))

/-- No operation comes upon a state that is `bad` for it. -/
def Shuns (bad : Operation → PipelineSession → Prop) : List Operation → PipelineWorld → Prop
  | [], _ => True
  | op :: ops, w => ¬ bad op w.state ∧ Shuns bad ops (operate platform op w)

instance decidableShuns {bad : Operation → PipelineSession → Prop}
    [∀ op s, Decidable (bad op s)] : (ops : List Operation) → (w : PipelineWorld) →
      Decidable (Shuns platform bad ops w)
  | [], _ => isTrue trivial
  | op :: ops, w =>
    have : Decidable (Shuns platform bad ops (operate platform op w)) := decidableShuns ops _
    inferInstanceAs (Decidable (_ ∧ _))

end

variable {platform : Platform} {service : PipelineService} {I I' L : PipelineWorld → Prop}
  {w : PipelineWorld}

theorem shuns_iff {bad : Operation → PipelineSession → Prop} {ops : List Operation} :
    Shuns platform bad ops w ↔ ∀ earlier op later,
      ops = earlier ++ op :: later → ¬ bad op (runOperations platform earlier w).state := by
  induction ops generalizing w with
  | nil => simp [Shuns]
  | cons op ops ih =>
    constructor
    · rintro ⟨first, others⟩ earlier next later split
      cases earlier with
      | nil =>
        obtain ⟨rfl, rfl⟩ := List.cons.inj split
        exact first
      | cons op' earlier =>
        obtain ⟨rfl, rest⟩ := List.cons.inj split
        exact ih.mp others earlier next later rest
    · intro all
      refine ⟨all [] op ops rfl, ih.mpr fun earlier next later split => ?_⟩
      exact all (op :: earlier) next later (congrArg (op :: ·) split)

/-- The probe keeps what its first write and an attempt keep. -/
theorem wp_finalizeSummaryCircuit (still : Still platform I L)
    (hasten : ∀ w, I w → I { w with
      state := w.state.setRow .summary fun r => { r with nextAttemptAt := none } })
    (attempt : ∀ w, I w → wp (attemptSummary platform service) (fun _ => I) L w) (h : I w) :
    wp (finalizeSummaryCircuit platform service) (fun _ => I) L w := by
  have probe : wp (finalizeDirectIncident platform service) (fun _ => I) L w := by
    unfold finalizeDirectIncident
    rw [wp_bind, wp_read, wp_bind]
    apply wp_ask _ (still.lost w h)
    intro mine rest
    have h := still.reply w rest h
    split
    · unfold probeSummary
      rw [wp_bind, wp_setRow]
      exact attempt _ (hasten _ h)
    · exact still.others h
  unfold finalizeSummaryCircuit
  split
  · rw [wp_bind]
    exact wp_mono probe (fun _ v h => still.flush v h) (fun _ h => h)
  · exact still.flush w h

theorem runOperations_append (ops ops' : List Operation) (w : PipelineWorld) :
    runOperations platform (ops ++ ops') w
      = runOperations platform ops' (runOperations platform ops w) :=
  List.foldl_append

/-- What every operation of a run keeps in the state it comes to, with the rollback
after a loss, holds after the run. -/
theorem runOperations_keeps {ops : List Operation}
    (step : ∀ earlier op later, ops = earlier ++ op :: later → I (runOperations platform earlier w) →
      wp (op.activity.proc platform op.service) (fun _ => I) (fun v => I v ∧ I (undo v))
        { runOperations platform earlier w with replies := op.replies })
    (h : I w) : I (runOperations platform ops w) := by
  induction ops generalizing w with
  | nil => exact h
  | cons op ops ih =>
    apply ih (w := operate platform op w)
    · intro earlier next later split held
      exact step (op :: earlier) next later (congrArg (op :: ·) split) held
    · exact recover_of_wp (step [] op ops rfl h)

/-- What comes back is as the process left it. -/
theorem recover_of_some {P : PipelineWorld → Prop} {p : PipelineProc Bool} {before : Nat}
    (comes : (p.run w).1.isSome = true) (h : wp p (fun _ => P) (fun _ => True) w) :
    P (recover before (p.run w)) := by
  revert h comes
  unfold wp Proc.run
  cases p w with
  | mk r v =>
    cases r with
    | none => exact fun comes => by cases comes
    | some a => exact fun _ h => h

/-- What every operation keeps that comes back holds after a run of such operations. -/
theorem runOperations_completed {ops : List Operation} (completed : Completed platform ops w)
    (step : ∀ op ∈ ops, op.activity ≠ .call .rollback → ∀ w, I w →
      wp (op.activity.proc platform op.service) (fun _ => I) (fun _ => True)
        { w with replies := op.replies })
    (h : I w) : I (runOperations platform ops w) := by
  induction ops generalizing w with
  | nil => exact h
  | cons op ops ih =>
    obtain ⟨forward, comes, completed⟩ := completed
    apply ih completed fun o ho => step o (List.mem_cons_of_mem _ ho)
    exact recover_of_some comes (step op (List.mem_cons_self ..) forward w h)

/-- What the calls and the finalization keep. -/
theorem Activity.keeps (activity : Activity) (calls : ∀ call, activity = .call call →
      wp (call.proc platform service) (fun _ => I) L w)
    (finalize : activity = .finalize →
      wp (finalizeSummaryCircuit platform service) (fun _ => I) L w) :
    wp (activity.proc platform service) (fun _ => I) L w := by
  cases activity with
  | call call => exact calls call rfl
  | finalize => exact (wp_bind _ _ ▸ wp_mono (finalize rfl) (fun _ _ h => h) fun _ h => h)

end YTPipe.Pipeline
