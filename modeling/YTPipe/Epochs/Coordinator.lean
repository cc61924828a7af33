import YTPipe.Epochs.Runs
import YTPipe.PollLoop

/-!
# The steps are what the coordinator commits

Each step of the store is a commit of the coordinator: of an attempt that makes its key
durable or quarantines the residue of a crash, of an attempt whose task was created, and
of a worker that has read the result of a task.
-/

namespace YTPipe.Epochs

open Broker Proc

/-- Once what the process assigned to the copy it has loaded is written over the stored
row and makes it `r`, the process goes on as `next`, or comes back where there is none. -/
def Leaves {α : Type} (p : StageProc α) (next : Option (StageProc α))
    (copy stored r : PipelineStage) (w : StageWorld) : Prop :=
  ∀ (post : α → StageWorld → Prop) (lost : StageWorld → Prop),
    (∀ v, merge copy v.state.stage.durable stored = r →
      next.elim (∀ a, post a v) fun q => wp q post lost v) → wp p post lost w

/-- What the coordinator commits in the states of the store. -/
structure Simulated (platform : Platform) (results : String → TaskResult) (s : Store) : Prop where
  attempt : ∀ service context (submission : Submission) key attemptedAt (w : StageWorld) rest,
    Due s.row → brokerIdempotencyKey platform context submission.operation = some key →
    Sees s.row s.row w.state → w.replies = .committed :: rest →
    Leaves (do
        setStage (startAttempt attemptedAt)
        attempt platform service context submission attemptedAt)
      (if Begun s.row then none
        else some (submitPrepared platform service context submission attemptedAt key))
      s.row s.row (step results s (.attempt key attemptedAt)).row w
  accept : ∀ service (submission : Submission) attemptedAt accepted key (w : StageWorld) rest,
    key ∈ s.sending → isTaskId accepted.taskId = true → accepted.taskId ∉ s.issued →
    Sees s.row s.row w.state → w.replies = .committed :: rest →
    Leaves (pollAccepted platform service submission attemptedAt accepted key)
      (some do
        let deadline ← pollDeadline submission
        Proc.loop (pollRound platform service submission attemptedAt deadline accepted key))
      s.row s.row (step results s (.accept accepted key)).row w
  /-- A poll of a task is answered with a result. -/
  answered : ∀ profile task key operationKind response, ∃ result : TaskResult,
    pollTask profile task key operationKind (.response response)
      = result.reading.answer (some task) (some key)
  apply : ∀ task loaded key attemptedAt e (w : StageWorld) rest, (task, loaded) ∈ s.held →
    (results task).reading.answer (some task) (some key) = .error e →
    Sees loaded s.row w.state → w.replies = .committed :: rest →
    Leaves (classify platform (.broker e) attemptedAt (some key) (some task)) none
      -- the locking query loads the stored row anew
      (if e.code = "broker_task_failed" then s.row else loaded) s.row
      (step results s (.apply task loaded key attemptedAt)).row w

section

variable {platform : Platform} {service : BrokerService} {context : SummaryGatewayContext}
  {submission : Submission} {attemptedAt : Time} {key : String} {results : String → TaskResult}
  {s : Store} {w : StageWorld} {rest : List Reply}

theorem Sees.faithful {r : PipelineStage} (sees : Sees r r w.state) :
    w.state.stage.Faithful planColumn platform.flushRule := by
  refine .inr (sees.document.trans ?_)
  rw [sees.flushed]
  rfl

/-- The process comes back with the row committed. -/
theorem Leaves.ends {α : Type} {p : StageProc α} {copy stored r : PipelineStage}
    (h : ∀ lost, wp p (fun _ v => merge copy v.state.stage.durable stored = r) lost w) :
    Leaves p none copy stored r w := by
  intro post lost go
  exact wp_mono (h lost) (fun a v row => go v row a) fun _ h => h

/-- Columns assigned to the stored row are committed with those assigned before. -/
theorem leaves_commit {α : Type} {q : StageProc α} {f : PipelineStage → PipelineStage}
    (stored : PipelineStage) (faithful : w.state.stage.Faithful planColumn platform.flushRule)
    (commits : w.replies = .committed :: rest) :
    Leaves (do
        setStage f
        flush platform
        commit platform
        q) (some q) stored stored (f w.state.stage.current) w := by
  intro post lost go
  simp only [wp_bind, wp_setStage]
  refine wp_flush_commit (w := withState w _) commits fun u durable => go u ?_
  rw [merge_stored, durable]
  exact Instance.written_of_faithful (Instance.faithful_modify faithful)

/-- The residue of a crash is quarantined. -/
theorem leaves_residue {key task : Option String} (stored : PipelineStage)
    (faithful : w.state.stage.Faithful planColumn platform.flushRule)
    (commits : w.replies = .committed :: rest) :
    Leaves (quarantine platform attemptedAt "broker_timeout" (some "indeterminate") key task) none
      stored stored (residueRow attemptedAt key task w.state.stage.current) w := by
  refine .ends fun lost => ?_
  refine wp_mono (wp_quarantine_residue faithful commits) (fun _ v durable => ?_) fun _ h => h
  rw [merge_stored, durable]

theorem attempt_simulated (due : Due s.row)
    (made : brokerIdempotencyKey platform context submission.operation = some key)
    (sees : Sees s.row s.row w.state) (commits : w.replies = .committed :: rest) :
    Leaves (do
        setStage (startAttempt attemptedAt)
        attempt platform service context submission attemptedAt)
      (if Begun s.row then none
        else some (submitPrepared platform service context submission attemptedAt key))
      s.row s.row (step results s (.attempt key attemptedAt)).row w := by
  have row : (step results s (.attempt key attemptedAt)).row = attemptRow key attemptedAt s.row := by
    simp only [step, if_pos due]
  let started := withState w { w.state with stage := w.state.stage.modify (startAttempt attemptedAt) }
  have faithful : started.state.stage.Faithful planColumn platform.flushRule :=
    Instance.faithful_modify sees.faithful
  have current : started.state.stage.current = startAttempt attemptedAt s.row :=
    congrArg (startAttempt attemptedAt) sees.current
  have commits : started.replies = .committed :: rest := commits
  rw [row, attemptRow, ← current]
  intro post lost go
  rw [wp_bind, wp_setStage]
  change wp (attempt platform service context submission attemptedAt) post lost started
  have marked : started.state.stage.current.reconciliationStatus = s.row.reconciliationStatus := by
    rw [current]
    rfl
  rw [attempt, wp_bind, wp_stageRow]
  simp only [marked] at go ⊢
  by_cases prepared : s.row.reconciliationStatus = some .submissionPrepared
  · have begun : Begun s.row := .inl prepared
    simp only [if_pos prepared, if_pos begun] at go ⊢
    exact leaves_residue s.row faithful commits post lost go
  by_cases accepted : s.row.reconciliationStatus = some .submissionAccepted
  · have begun : Begun s.row := .inr accepted
    simp only [if_neg prepared, if_pos accepted, if_pos begun] at go ⊢
    exact leaves_residue s.row faithful commits post lost go
  · have ready : ¬ Begun s.row := not_or.mpr ⟨prepared, accepted⟩
    simp only [if_neg prepared, if_neg accepted, if_neg ready, made] at go ⊢
    exact leaves_commit s.row faithful commits post lost go

theorem accept_simulated {accepted : AcceptedTask} (sending : key ∈ s.sending)
    (named : isTaskId accepted.taskId = true) (fresh : accepted.taskId ∉ s.issued)
    (sees : Sees s.row s.row w.state) (commits : w.replies = .committed :: rest) :
    Leaves (pollAccepted platform service submission attemptedAt accepted key)
      (some do
        let deadline ← pollDeadline submission
        Proc.loop (pollRound platform service submission attemptedAt deadline accepted key))
      s.row s.row (step results s (.accept accepted key)).row w := by
  have row : (step results s (.accept accepted key)).row = acceptRow accepted key s.row := by
    simp only [step, if_pos (And.intro sending (And.intro named fresh))]
  rw [row, ← sees.current]
  exact leaves_commit w.state.stage.current sees.faithful commits

theorem apply_simulated (h : Inv results s) {task : String} {loaded : PipelineStage}
    {e : BrokerError} (mem : (task, loaded) ∈ s.held)
    (answer : (results task).reading.answer (some task) (some key) = .error e)
    (sees : Sees loaded s.row w.state) (commits : w.replies = .committed :: rest) :
    Leaves (classify platform (.broker e) attemptedAt (some key) (some task)) none
      (if e.code = "broker_task_failed" then s.row else loaded) s.row
      (step results s (.apply task loaded key attemptedAt)).row w := by
  have named := (isTaskId_length (h.named task (h.loaded task loaded mem).1)).1
  have row : (step results s (.apply task loaded key attemptedAt)).row
      = applied e attemptedAt task (some key) loaded s.row := by
    simp only [step, if_pos mem, answer]
  rw [row]
  refine .ends fun lost => ?_
  by_cases confirmed : e.code = "broker_task_failed"
  · rw [if_pos confirmed]
    refine wp_mono (wp_classify_confirmed named confirmed sees commits) (fun _ v durable => ?_)
      fun _ h => h
    rw [merge_stored, durable]
  · rw [if_neg confirmed]
    exact wp_classify_unconfirmed named confirmed sees commits

end

/-- In every reachable state of the store, whatever the coordinator commits in a session
is the row of a step. -/
theorem coordinator_simulated (platform : Platform) (results : String → TaskResult)
    {r : PipelineStage} (unsent : Unsent r) (actions : List Action) :
    Simulated platform results (run results (.start r) actions) where
  attempt _ _ _ _ _ _ _ due made sees commits := attempt_simulated due made sees commits
  accept _ _ _ _ _ _ _ sending named fresh sees commits :=
    accept_simulated sending named fresh sees commits
  answered := pollTask_result
  apply _ _ _ _ _ _ _ mem answer sees commits :=
    apply_simulated (inv_run (inv_start unsent) actions) mem answer sees commits

end YTPipe.Epochs
