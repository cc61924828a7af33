import YTPipe.SummaryStage

/-!
# Runs of one summary stage

Any sequence of attempts, reconciliations, operator transitions, commits and
crashes. What a process is answered is part of the operation that starts it.
-/

namespace YTPipe

open Broker

/-- Something that happens to a summary stage. -/
inductive StageOp
  | attempt (config : PipelineConfig) (replies : List Reply)
  | reconcile (service : BrokerService) (replies : List Reply)
  /-- The operator's request with the text of its audit record. -/
  | request (audit : String) (replies : List Reply)
  | skip
  | commit (replies : List Reply)
  | rollback
  /-- The session drops a row it has nothing to write for, and loads it again. -/
  | reload
  /-- Other work on the video. -/
  | video (v : Video)

section

variable (platform : Platform)

/-- `reconcile_quarantined_summaries`, for the row of this stage. -/
def reconcileStage (service : BrokerService) : StageProc Unit := do
  let now ← utcNow
  let s ← Proc.read
  Proc.when (reconcilable now s.stage.flushed) (reconcileRow platform service)
  flush platform

/-- `request_quarantine_reconciliation` and the commit of its route. -/
def requestReconciliation (audit : String) : StageProc Unit := do
  if ← makeQuarantineGetEligible then
    setStage fun r => { r with reconciliationReason := some audit }
    flush platform
    commit platform
  else pure ()

/-- Nothing of the stage waits to be written. -/
def StageSession.clean (s : StageSession) : Prop :=
  { s.stage.current with brokerChunkPlan := none } = { s.stage.flushed with brokerChunkPlan := none }

instance (s : StageSession) : Decidable s.clean := inferInstanceAs (Decidable (_ = _))

/-- The stage is not attempted on the direct route. -/
def StageOp.brokered : StageOp → Prop
  | attempt config _ => config.summarizationService ≠ some .direct
  | _ => True

def StageOp.replies : StageOp → List Reply
  | attempt _ replies => replies
  | reconcile _ replies => replies
  | request _ replies => replies
  | commit replies => replies
  | skip => []
  | rollback => []
  | reload => []
  | video _ => []

def StageOp.proc : StageOp → StageProc Unit
  | attempt config _ => do
    let _ ← attemptSummaryStage platform config
  | reconcile service _ => reconcileStage platform service
  | request audit _ => requestReconciliation platform audit
  | skip => setStage skipRow
  | commit _ => YTPipe.commit platform
  | rollback => Proc.modify StageSession.rollback
  | reload => do
    let s ← Proc.read
    Proc.when s.clean populateExisting
  | video v => setVideo fun _ => v

/-- A process that was lost leaves its session to be rolled back; an exception,
an event after the first `before`, leaves it as it is. -/
def recover (before : Nat) (r : Option Unit × StageWorld) : StageWorld :=
  match r.1, r.2.trace with
  | some (), _ => r.2
  | none, .raised _ :: earlier =>
    if before ≤ earlier.length then r.2 else { r.2 with state := r.2.state.rollback }
  | none, _ => { r.2 with state := r.2.state.rollback }

def perform (op : StageOp) (w : StageWorld) : StageWorld :=
  recover w.trace.length ((op.proc platform).run { w with replies := op.replies })

def runStage (ops : List StageOp) (w : StageWorld) : StageWorld :=
  ops.foldl (fun w op => perform platform op w) w

/-- A session that has just loaded a stage and its video. -/
def openSession (stage : PipelineStage) (video : Video) : StageWorld where
  state :=
    { stage := Instance.load planColumn stage
      video := Instance.load (Column.none Video) video
      recoveryTarget := none
      reach := .untouched }
  replies := []
  trace := []

theorem recover_lost {P : StageWorld → Prop} {before : Nat} {w : StageWorld} (kept : P w)
    (back : P { w with state := w.state.rollback }) : P (recover before (none, w)) := by
  unfold recover
  split
  · cases ‹none = some ()›
  · split
    · exact kept
    · exact back
  · exact back

theorem recover_untold {before : Nat} {w : StageWorld} (h : w.trace.length ≤ before) :
    recover before (none, w) = { w with state := w.state.rollback } := by
  unfold recover
  split
  · cases ‹none = some ()›
  · next heq =>
    simp only at heq
    rw [heq, List.length_cons] at h
    rw [if_neg (by omega)]
  · rfl

/-- What holds wherever an operation comes back or is lost holds after it. -/
theorem perform_of_wp {P : StageWorld → Prop} {op : StageOp} {w : StageWorld}
    (h : Proc.wp (op.proc platform) (fun _ => P) (fun v => P (recover w.trace.length (none, v)))
      { w with replies := op.replies }) : P (perform platform op w) := by
  revert h
  unfold Proc.wp perform Proc.run
  cases op.proc platform { w with replies := op.replies } with
  | mk r v =>
    cases r with
    | none => exact id
    | some u => exact fun h => h

/-- Everything a run keeps, when each operation keeps it. -/
theorem runStage_induction {P : StageWorld → Prop} {ops : List StageOp} {w : StageWorld}
    (step : ∀ op ∈ ops, ∀ v, P v → P (perform platform op v)) (start : P w) :
    P (runStage platform ops w) := by
  induction ops generalizing w with
  | nil => exact start
  | cons op ops ih =>
    exact ih (fun o ho => step o (List.mem_cons_of_mem _ ho))
      (step op (List.mem_cons_self ..) w start)

/-- No operation of the run is `bad` where it starts. -/
def Avoids (bad : StageOp → StageWorld → Prop) : List StageOp → StageWorld → Prop
  | [], _ => True
  | op :: ops, w => ¬ bad op w ∧ Avoids bad ops (perform platform op w)

/-- Everything a run keeps, when each operation that is not `bad` keeps it. -/
theorem runStage_avoids {P : StageWorld → Prop} {bad : StageOp → StageWorld → Prop}
    {ops : List StageOp} {w : StageWorld} (avoids : Avoids platform bad ops w)
    (step : ∀ op ∈ ops, ∀ v, ¬ bad op v → P v → P (perform platform op v)) (start : P w) :
    P (runStage platform ops w) := by
  induction ops generalizing w with
  | nil => exact start
  | cons op ops ih =>
    exact ih avoids.2 (fun o ho => step o (List.mem_cons_of_mem _ ho))
      (step op (List.mem_cons_self ..) w avoids.1 start)

theorem Avoids.before {bad : StageOp → StageWorld → Prop} {before after : List StageOp}
    {w : StageWorld} (h : Avoids platform bad (before ++ after) w) :
    Avoids platform bad before w := by
  induction before generalizing w with
  | nil => trivial
  | cons op before ih => exact ⟨h.1, ih h.2⟩

theorem Avoids.next {bad : StageOp → StageWorld → Prop} {before after : List StageOp} {op : StageOp}
    {w : StageWorld} (h : Avoids platform bad (before ++ op :: after) w) :
    ¬ bad op (runStage platform before w) := by
  induction before generalizing w with
  | nil => exact h.1
  | cons first before ih => exact ih h.2

theorem runStage_append (ops ops' : List StageOp) (w : StageWorld) :
    runStage platform (ops ++ ops') w = runStage platform ops' (runStage platform ops w) :=
  List.foldl_append

end

/-! A stage of a two-character video, its broker and its answers. -/

namespace Sample

/-- The digests of the keys of stage 7 and of its plan's snapshot. -/
def sha256 (bytes : Framing.Bytes) : String :=
  match bytes.length, bytes.getLast? with
  | 42, _ => "f4ea2b790c47ece35e3bcd984e4ec12dc75a541e56a1f7304ee9adb28d5ca80b"
  | 123, _ => "4db23de71f8ad99bdfd953b2b965f08fa9f7ee30c8d06516f6913c4eadb13788"
  | 50, some 0x30 => "281907b402a57cc61789a02d32f0dbbb8cec2bc0aa73815734900b52df2c13b6"
  | 50, _ => "4231b5c58121e72de3a1bf34a6ef46e365233d09949b79057c9dd29701ef0bc8"
  | 48, _ => "f68d761a24906cacf0cf856ae170cf76297774d187332d4f62f6054d1c56024b"
  | _, _ => "23877ac9216deab2d2a2e576a18957acf662b7fe362c73a73e30cf1fd4acd8ea"

theorem sha256_length (bytes : Framing.Bytes) : (sha256 bytes).length = 64 := by
  unfold sha256
  split <;> decide

def platform (rule : FlushRule) : Platform where
  sha256 := sha256
  floatRepr _ := "1.0"
  urlparse s := some ⟨"", "", s, "", "", ""⟩
  urljoin _ location := some location
  unquote s := s
  awareDatetime s := s = "2026-01-01T00:00:00+00:00"
  flushRule := rule

def service : BrokerService := ⟨y01Profile, "", 300⟩

/-- `config` with the broker: the transcript is split or not by `context` tokens. -/
def config (context : Int) : PipelineConfig where
  summarizationService := some (.broker service)
  brokerChunkConfig := ⟨true, context, 1000, 0, 6, 1, 1347⟩
  brokerPlanDeadlineSeconds := 300

def stage : PipelineStage := newSummary 7 1 1 3

def video : Video := ⟨1, none, "y", none, none, none, some ['a', 'b'], none⟩

def created (task : String) : Reply :=
  .http (.response ⟨201, some ("/v1/tasks/" ++ task), some (.obj
    [("id", .str task), ("workload", .str "w"), ("capability", .str "c"),
      ("status", .str "queued"), ("created_at", .str "2026-01-01T00:00:00Z"),
      ("updated_at", .str "2026-01-01T00:00:00Z")])⟩)

def succeeded (content : String) : Reply :=
  .http (.response ⟨200, none, some (.obj [("status", .str "succeeded"), ("result", .obj
    [("content", .str content), ("finish_reason", .str "stop"), ("usage", .obj
      [("prompt_tokens", .int 1), ("completion_tokens", .int 1), ("total_tokens", .int 2)])])])⟩)

def unfinished : Reply :=
  .http (.response ⟨200, none, some (.obj [("status", .str "pending")])⟩)

def failed (failureClass : String) : Reply :=
  .http (.response ⟨200, none, some (.obj [("status", .str "failed"), ("error", .obj
    [("class", .str failureClass), ("code", .str "busy"), ("message", .str "busy")])])⟩)

end Sample

end YTPipe
