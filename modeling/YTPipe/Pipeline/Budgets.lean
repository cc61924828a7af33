import YTPipe.Pipeline.Meters

/-!
# Retry budgets

However a video's stages are worked on, each has its attempts and no more: so many
fetches of its transcript, so many notifications, and for its summary so many
requests, with one more for each step of its plan.
-/

namespace YTPipe.Pipeline

open Broker Proc Ledger

section runs

variable {platform : Platform} {userId : Int} {rows : Rows} {video : Video} {ops : List Operation}

/-- The stages that were not attempted yet. -/
abbrev Fresh (rows : Rows) (n : StageName) : Prop := ∀ r, rows n = some r → Unworked r

theorem within_start (platform : Platform) (userId : Int) (rows : Rows) (video : Video) :
    Within platform (Fresh rows) (openVideo userId rows video) := by
  obtain ⟨current, _, _⟩ := openVideo_rows userId rows video
  have loaded (i : StageInstance) (hi : ((openVideo userId rows video).state.slot .summary).row
      = some i) : ∃ r, i = Instance.load planColumn r := by
    simp only [openVideo] at hi
    cases hr : rows .summary with
    | none =>
      rw [hr] at hi
      cases hi
    | some r =>
      rw [hr] at hi
      cases hi
      exact ⟨r, rfl⟩
  constructor
  · intro n _ fresh r hr
    rw [current] at hr
    have unspent := (fresh r hr).unspent
    have room := (fresh r hr).room
    refine ⟨?_, by omega, fun _ => by omega⟩
    change ((0 : Nat) : Int) ≤ _
    omega
  · intro trusted r hr
    rw [current] at hr
    exact (trusted.1 r hr).account
  · intro fresh _ r hr
    rw [current] at hr
    exact (fresh r hr).settlement
  · intro _ i hi
    obtain ⟨r, rfl⟩ := loaded i hi
    exact owned_load r
  · intro i hi
    obtain ⟨r, rfl⟩ := loaded i hi
    exact secure_load r
  · exact fun _ _ => rfl
  · exact fun _ => rfl

theorem run_within (completed : Completed platform ops (openVideo userId rows video)) :
    Within platform (Fresh rows) (runOperations platform ops (openVideo userId rows video)) :=
  runOperations_completed completed
    (fun op _ forward _ h => within_operation op.activity forward (h.replies op.replies))
    (within_start platform userId rows video)

/-- In a run whose operations come back, a transcript is fetched and a notification is
sent no more often than the stage has attempts, and a stage that used them up is over. -/
theorem attempts_bounded (platform : Platform) (userId : Int) (rows : Rows) (video : Video)
    (ops : List Operation) (completed : Completed platform ops (openVideo userId rows video))
    (n : StageName) (metered : n = .transcript ∨ n = .telegram)
    (fresh : ∀ r, rows n = some r → Unworked r) (r : PipelineStage)
    (row : (runOperations platform ops (openVideo userId rows video)).state.rows n = some r) :
    (spent n (runOperations platform ops (openVideo userId rows video)).trace : Int)
        ≤ r.attemptCount
      ∧ r.attemptCount ≤ r.maxAttempts
      ∧ (r.attemptCount = r.maxAttempts → ¬ r.status.isOpen) := by
  have meter := (run_within completed).meter n metered fresh r row
  refine ⟨meter.counted, meter.bounded, fun used isOpen => ?_⟩
  have left := meter.left fun resolved => resolved.not_open isOpen
  omega

/-- The transcript's provider is down three times, and the user is told. -/
def Sample.exhaustedOps : List Operation :=
  [⟨Sample.service .direct, .call .processNew, [.inserted 1, .inserted 2, .inserted 3, .now 0,
      .fetched (.result none "retryable")]⟩,
    ⟨Sample.service .direct, .call .processNew, [.now 1, .fetched .raised]⟩,
    ⟨Sample.service .direct, .call .processNew, [.now 2, .fetched (.result none "retryable"),
      .inserted 4, .now 2, .delivery .sent]⟩]

theorem attempts_bounded_exhausted :
    spent .transcript (runOperations (YTPipe.Sample.platform .assigned) Sample.exhaustedOps
        Sample.fresh).trace = 3
      ∧ ∃ r, (runOperations (YTPipe.Sample.platform .assigned) Sample.exhaustedOps
          Sample.fresh).state.rows .transcript = some r
        ∧ (spent .transcript (runOperations (YTPipe.Sample.platform .assigned) Sample.exhaustedOps
          Sample.fresh).trace : Int) ≤ r.attemptCount
        ∧ r.attemptCount ≤ r.maxAttempts
        ∧ (r.attemptCount = r.maxAttempts → ¬ r.status.isOpen) := by
  have facts : spent .transcript (runOperations (YTPipe.Sample.platform .assigned)
        Sample.exhaustedOps Sample.fresh).trace = 3
      ∧ ((runOperations (YTPipe.Sample.platform .assigned) Sample.exhaustedOps
        Sample.fresh).state.rows .transcript).isSome = true
      ∧ Completed (YTPipe.Sample.platform .assigned) Sample.exhaustedOps Sample.fresh := by
    decide +kernel
  obtain ⟨fetched, present, completed⟩ := facts
  obtain ⟨r, row⟩ := Option.isSome_iff_exists.mp present
  exact ⟨fetched, r, row, attempts_bounded _ 1 (fun _ => none) Sample.video Sample.exhaustedOps
    completed .transcript (.inl rfl) (fun _ absent => (by cases absent)) r row⟩

/-- In such a run, as long as no reconciliation completes a partial step (which a flush
may lose), a summary without a plan asks the inference no more often than it has attempts,
on either route, and one with a plan once more for each of its steps; and a summary that
used its attempts up is resolved or in quarantine. -/
theorem requests_bounded (platform : Platform) (userId : Int) (rows : Rows) (video : Video)
    (ops : List Operation) (completed : Completed platform ops (openVideo userId rows video))
    (fresh : ∀ r, rows .summary = some r → Unworked r)
    (kept : platform.flushRule = .assigned ∨ ∀ g,
      .get g ∈ stageEvents (runOperations platform ops (openVideo userId rows video)).trace →
        ¬ g.CompletesPartial)
    (r : PipelineStage)
    (row : (runOperations platform ops (openVideo userId rows video)).state.rows .summary = some r) :
    let events := stageEvents (runOperations platform ops (openVideo userId rows video)).trace
    (bareRequests events : Int) ≤ r.maxAttempts
      ∧ (∀ plan, PlannedRequest plan events →
        (requests events : Int) ≤ plan.steps.length + r.maxAttempts)
      ∧ (r.maxAttempts ≤ r.attemptCount →
        r.status = .completed ∨ r.status = .failed ∨ r.quarantinedAt.isSome = true) := by
  have account := (run_within completed).account ⟨fresh, kept⟩ r row
  refine ⟨account.bare, account.planned, fun used => ?_⟩
  by_cases done : Over r
  · exact done.1.imp_right .inl
  · by_cases held : r.quarantinedAt.isSome = true
    · exact .inr (.inr held)
    · have left := account.left (Option.not_isSome_iff_eq_none.mp held) done
      omega

def Sample.planned : PipelineService :=
  { Sample.service .direct with summaries := YTPipe.Sample.config 2048 }

/-- The first step of the summary's plan is done, and the task of the second one fails. -/
def Sample.plannedOps : List Operation :=
  [⟨Sample.planned, .call .processNew, [.inserted 1, .inserted 2, .inserted 3, .now 0,
      .fetched (.text (some ['a', 'b'])), .stage [.now 0, .committed, .clock 0, .clock 0,
        .committed, .clock 0, .clock 0, .clock 0, YTPipe.Sample.created "t", .clock 0, .committed,
        .clock 0, .clock 1, YTPipe.Sample.succeeded "• a", .committed, .clock 300, .committed]]⟩,
    ⟨Sample.planned, .call .processNew, [.stage [.now (seconds 400), .clock 400, .clock 400,
      .committed, .clock 400, .clock 400, .clock 400, YTPipe.Sample.created "u", .clock 400,
      .committed, .clock 400, .clock 401, YTPipe.Sample.failed "backend_error", .committed],
      .inserted 4, .now (seconds 400), .delivery .sent]⟩]

def Sample.attempted : Event → Bool
  | .get g => g.reader = .attempt
  | _ => true

theorem requests_bounded_planned :
    let w := runOperations (YTPipe.Sample.platform .changed) Sample.plannedOps Sample.fresh
    requests (stageEvents w.trace) = 2 ∧ ∃ r, w.state.rows .summary = some r
      ∧ (bareRequests (stageEvents w.trace) : Int) ≤ r.maxAttempts
      ∧ (∀ plan, PlannedRequest plan (stageEvents w.trace) →
        (requests (stageEvents w.trace) : Int) ≤ plan.steps.length + r.maxAttempts)
      ∧ (r.maxAttempts ≤ r.attemptCount →
        r.status = .completed ∨ r.status = .failed ∨ r.quarantinedAt.isSome = true) := by
  have facts : requests (stageEvents (runOperations (YTPipe.Sample.platform .changed)
        Sample.plannedOps Sample.fresh).trace) = 2
      ∧ ((runOperations (YTPipe.Sample.platform .changed) Sample.plannedOps
        Sample.fresh).state.rows .summary).isSome = true
      ∧ (stageEvents (runOperations (YTPipe.Sample.platform .changed) Sample.plannedOps
        Sample.fresh).trace).all Sample.attempted = true
      ∧ Completed (YTPipe.Sample.platform .changed) Sample.plannedOps Sample.fresh := by
    decide +kernel
  obtain ⟨asked, present, attempted, completed⟩ := facts
  obtain ⟨r, row⟩ := Option.isSome_iff_exists.mp present
  have unreconciled (g : Get) (hg : .get g ∈ stageEvents (runOperations
      (YTPipe.Sample.platform .changed) Sample.plannedOps Sample.fresh).trace) :
      ¬ g.CompletesPartial := by
    rintro ⟨reconciles, _⟩
    have attempts : decide (g.reader = .attempt) = true := List.all_eq_true.mp attempted _ hg
    rw [reconciles] at attempts
    exact absurd attempts (by decide)
  exact ⟨asked, r, row, requests_bounded _ 1 (fun _ => none) Sample.video Sample.plannedOps
    completed (fun _ absent => (by cases absent)) (.inr unreconciled) r row⟩

/-! The budgets of the stages, one by one. -/

def posts (l : List Event) : Nat := l.countP fun e => e.requester.isSome && e.asksBroker

/-- The calls of the direct route. -/
def calls (l : List Event) : Nat := l.countP fun e => e.requester.isSome && !e.asksBroker

end runs

end YTPipe.Pipeline
