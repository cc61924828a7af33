import YTPipe.Epochs.Worker
import YTPipe.SummaryStage

/-!
# One epoch for one task

Any number of workers read the results of the tasks of a stage and settle them on the
row, each with a copy loaded at some time since its task was recorded, while later
attempts record new tasks. Of all of them one at most opens a new epoch for a task.
-/

namespace YTPipe.Epochs

open Broker

/-- A stage that an attempt takes up. -/
def Due (r : PipelineStage) : Prop := r.status.isOpen ∧ r.quarantinedAt = none

/-- The markers of a submission that was begun. -/
def Begun (r : PipelineStage) : Prop :=
  r.reconciliationStatus = some .submissionPrepared
    ∨ r.reconciliationStatus = some .submissionAccepted

instance (r : PipelineStage) : Decidable (Due r) := inferInstanceAs (Decidable (_ ∧ _))

instance (r : PipelineStage) : Decidable (Begun r) := inferInstanceAs (Decidable (_ ∨ _))

/-- What an attempt commits first: a submission that was begun is quarantined, else
the key is made durable before the POST. -/
def attemptRow (key : String) (attemptedAt : Time) (r : PipelineStage) : PipelineStage :=
  let r := startAttempt attemptedAt r
  if r.reconciliationStatus = some .submissionPrepared then
    residueRow attemptedAt r.brokerIdempotencyKey none r
  else if r.reconciliationStatus = some .submissionAccepted then
    residueRow attemptedAt r.brokerIdempotencyKey r.brokerTaskId r
  else prepareRow key r

/-- The committed row, the tasks that were ever recorded in it, the keys of the
attempts whose POST is under way, and the copies that the workers of a task hold. -/
structure Store where
  row : PipelineStage
  issued : List String
  sending : List String
  held : List (String × PipelineStage)

/-- No task was recorded yet. -/
def Store.start (r : PipelineStage) : Store := ⟨r, [], [], []⟩

inductive Action
  | attempt (key : String) (attemptedAt : Time)
  /-- The POST of an attempt has created a task. -/
  | accept (accepted : AcceptedTask) (key : String)
  /-- A worker of the task loads the row. -/
  | load (task : String)
  /-- A worker of the task has read its result. -/
  | apply (task : String) (loaded : PipelineStage) (key : String) (attemptedAt : Time)

section system

variable (results : String → TaskResult)

/-- An action that cannot happen leaves everything as it is. -/
def step (s : Store) : Action → Store
  | .attempt key attemptedAt =>
    if Due s.row then
      { s with
        row := attemptRow key attemptedAt s.row
        sending := if Begun s.row then s.sending else key :: s.sending }
    else s
  | .accept accepted key =>
    if key ∈ s.sending ∧ isTaskId accepted.taskId = true ∧ accepted.taskId ∉ s.issued then
      { s with
        row := acceptRow accepted key s.row
        issued := accepted.taskId :: s.issued
        sending := s.sending.erase key }
    else s
  | .load task => if task ∈ s.issued then { s with held := (task, s.row) :: s.held } else s
  | .apply task loaded key attemptedAt =>
    if (task, loaded) ∈ s.held then
      match (results task).reading.answer (some task) (some key) with
      | .error e => { s with row := applied e attemptedAt task (some key) loaded s.row }
      | .ok _ => s
    else s

def run (s : Store) (actions : List Action) : Store := actions.foldl (step results) s

end system

/-! What holds throughout. -/

/-- A worker that read `reading` has been at the row. -/
def Marked (reading : Reading) (r : PipelineStage) : Prop :=
  if reading.polled = .failed then r.status = .failed else r.quarantinedAt.isSome = true

/-- The result confirms the failure of its task. -/
def TaskResult.Confirmed (result : TaskResult) : Prop := ∃ failureClass, result.Failed failureClass

structure Inv (results : String → TaskResult) (s : Store) : Prop where
  bounded : 0 ≤ s.row.brokerSubmissionEpoch ∧ s.row.brokerSubmissionEpoch ≤ s.row.maxAttempts
  counted : s.row.brokerSubmissionEpoch ≤ s.row.attemptCount
  started : s.sending ≠ [] ∨ s.row.brokerTaskId ≠ none →
    s.row.brokerSubmissionEpoch < s.row.attemptCount
  ready : Due s.row → ¬ Begun s.row → s.row.brokerTaskId = none ∧ s.sending = []
  sends : s.sending ≠ [] → s.row.brokerTaskId = none ∧ s.sending.length = 1 ∧ s.row.status.isOpen
  recorded : ∀ t, s.row.brokerTaskId = some t → t ∈ s.issued
  named : ∀ t ∈ s.issued, isTaskId t = true
  loaded : ∀ t c, (t, c) ∈ s.held → t ∈ s.issued ∧ c.maxAttempts = s.row.maxAttempts
    ∧ (s.row.brokerTaskId = some t → s.row.quarantinedAt = none →
        s.row.attemptCount ≤ c.attemptCount)
  -- a result that confirms no failure is the last word: no attempt follows it
  lasting : ∀ t ∈ s.issued, ¬ (results t).Confirmed → s.row.brokerTaskId = some t
    ∧ ∀ c, (t, c) ∈ s.held → Marked (results t).reading c → Marked (results t).reading s.row

variable {results : String → TaskResult} {s : Store}

theorem Inv.idle (h : Inv results s) {t : String} (holds : s.row.brokerTaskId = some t) :
    s.sending = [] := by
  by_contra sending
  cases (h.sends sending).1.symm.trans holds

/-- A row without a task owes nothing to a result. -/
theorem Inv.free (h : Inv results s) (none : s.row.brokerTaskId = none) {t : String}
    (there : t ∈ s.issued) : (results t).Confirmed := by
  by_contra unconfirmed
  cases (h.lasting t there unconfirmed).1.symm.trans none

/-! The steps of an attempt. -/

section attempt

variable {key : String} {attemptedAt : Time} {r : PipelineStage}

theorem keepCorrelation_stored {task key : Option String}
    (stored : ∀ t, r.brokerTaskId = some t → isTaskId t = true)
    (own : task = none ∨ task = r.brokerTaskId) :
    (keepCorrelation task key r).brokerTaskId = r.brokerTaskId := by
  unfold keepCorrelation
  dsimp only
  split
  · rfl
  · next given =>
    cases task with
    | none => exact absurd rfl given
    | some t =>
      have own := own.resolve_left (Option.some_ne_none t)
      rw [← own, Option.map_some, (isTaskId_length (stored t own.symm)).2]

/-- An attempt that finds a submission begun counts, and quarantines the stage. -/
theorem attemptRow_begun (begun : Begun r)
    (stored : ∀ t, r.brokerTaskId = some t → isTaskId t = true) :
    (attemptRow key attemptedAt r).attemptCount = r.attemptCount + 1
      ∧ (attemptRow key attemptedAt r).maxAttempts = r.maxAttempts
      ∧ (attemptRow key attemptedAt r).brokerSubmissionEpoch = r.brokerSubmissionEpoch
      ∧ (attemptRow key attemptedAt r).brokerTaskId = r.brokerTaskId
      ∧ (attemptRow key attemptedAt r).status = .pendingRetry
      ∧ (attemptRow key attemptedAt r).quarantinedAt = some attemptedAt := by
  have residue (task : Option String) (own : task = none ∨ task = r.brokerTaskId) :
      let r' := residueRow attemptedAt r.brokerIdempotencyKey task (startAttempt attemptedAt r)
      r'.attemptCount = r.attemptCount + 1 ∧ r'.maxAttempts = r.maxAttempts
        ∧ r'.brokerSubmissionEpoch = r.brokerSubmissionEpoch ∧ r'.brokerTaskId = r.brokerTaskId
        ∧ r'.status = .pendingRetry ∧ r'.quarantinedAt = some attemptedAt := by
    have settles := @settledRow_settles (classifySummaryFailure .broker "broker_timeout"
      (r.attemptCount + 1) r.maxAttempts attemptedAt (some "indeterminate")) attemptedAt task false
      (keepCorrelation task r.brokerIdempotencyKey (startAttempt attemptedAt r))
    obtain ⟨epoch, holds⟩ := settles.stays (by simp [canAdvanceSubmissionEpoch])
    exact ⟨settles.attempts, settles.limit, epoch,
      holds.trans (keepCorrelation_stored (r := startAttempt attemptedAt r) stored own),
      settles.status, settles.quarantinedAt⟩
  unfold attemptRow
  dsimp only
  split
  · exact residue none (.inl rfl)
  · next unprepared =>
      split
      · exact residue _ (.inr rfl)
      · next unaccepted => exact absurd (begun.resolve_left unprepared) unaccepted

theorem attemptRow_ready (ready : ¬ Begun r) :
    attemptRow key attemptedAt r = prepareRow key (startAttempt attemptedAt r) := by
  obtain ⟨unprepared, unaccepted⟩ := not_or.mp ready
  exact (if_neg unprepared).trans (if_neg unaccepted)

theorem inv_attempt (h : Inv results s) : Inv results (step results s (.attempt key attemptedAt)) := by
  by_cases due : Due s.row
  case neg =>
    simp only [step, if_neg due]
    exact h
  simp only [step, if_pos due]
  have counted := h.counted
  have started := h.started
  by_cases begun : Begun s.row
  · rw [if_pos begun]
    obtain ⟨attempts, limit, epoch, holds, status, quarantined⟩ :=
      @attemptRow_begun key attemptedAt s.row begun fun t ht => h.named t (h.recorded t ht)
    constructor
    case bounded =>
      rw [epoch, limit]
      exact h.bounded
    case counted =>
      rw [epoch, attempts]
      omega
    case started =>
      rw [epoch, attempts]
      intro _
      omega
    case ready =>
      intro due' _
      cases due'.2.symm.trans quarantined
    case sends =>
      intro sending
      rw [holds, status]
      exact ⟨(h.sends sending).1, (h.sends sending).2.1, .inr rfl⟩
    case recorded =>
      rw [holds]
      exact h.recorded
    case named => exact h.named
    case loaded =>
      intro t c mem
      rw [limit, quarantined]
      exact ⟨(h.loaded t c mem).1, (h.loaded t c mem).2.1, fun _ open_ => by cases open_⟩
    case lasting =>
      intro t there unconfirmed
      obtain ⟨own, marked⟩ := h.lasting t there unconfirmed
      rw [holds]
      refine ⟨own, fun c mem before => ?_⟩
      have before := marked c mem before
      unfold Marked at before ⊢
      split at before
      · exact absurd due.1 (before ▸ failed_not_open)
      · next lasting =>
        rw [if_neg lasting, quarantined]
        rfl
  · rw [if_neg begun, attemptRow_ready begun]
    obtain ⟨free, idle⟩ := h.ready due begun
    constructor
    case bounded => exact h.bounded
    case counted => exact Int.le_add_one counted
    case started => exact fun _ => Int.lt_add_one_of_le counted
    case ready => exact fun _ ready => absurd (.inl rfl) ready
    case sends => exact fun _ => ⟨free, by rw [idle]; rfl, due.1⟩
    case recorded => exact h.recorded
    case named => exact h.named
    case loaded =>
      intro t c mem
      exact ⟨(h.loaded t c mem).1, (h.loaded t c mem).2.1, fun own => by cases free.symm.trans own⟩
    case lasting =>
      intro t there unconfirmed
      exact absurd (h.free free there) unconfirmed

theorem inv_accept {accepted : AcceptedTask} (h : Inv results s) :
    Inv results (step results s (.accept accepted key)) := by
  by_cases able : key ∈ s.sending ∧ isTaskId accepted.taskId = true ∧ accepted.taskId ∉ s.issued
  case neg =>
    simp only [step, if_neg able]
    exact h
  simp only [step, if_pos able]
  obtain ⟨sending, named, fresh⟩ := able
  have busy : s.sending ≠ [] := List.ne_nil_of_mem sending
  obtain ⟨free, single, _⟩ := h.sends busy
  have idle : s.sending.erase key = [] := by
    rw [← List.length_eq_zero_iff, List.length_erase_of_mem sending, single]
  have holds : (acceptRow accepted key s.row).brokerTaskId = some accepted.taskId :=
    congrArg some (isTaskId_length named).2
  constructor
  case bounded => exact h.bounded
  case counted => exact h.counted
  case started => exact fun _ => h.started (.inl busy)
  case ready => exact fun _ ready => absurd (.inr rfl) ready
  case sends => exact fun sending => absurd idle sending
  case recorded =>
    intro t own
    cases own.symm.trans holds
    exact List.mem_cons_self
  case named =>
    intro t there
    rcases List.mem_cons.mp there with rfl | there
    · exact named
    · exact h.named t there
  case loaded =>
    intro t c mem
    obtain ⟨there, limit, _⟩ := h.loaded t c mem
    refine ⟨List.mem_cons_of_mem _ there, limit, fun own => ?_⟩
    cases own.symm.trans holds
    exact absurd there fresh
  case lasting =>
    intro t there unconfirmed
    rcases List.mem_cons.mp there with rfl | there
    · exact ⟨holds, fun c mem => absurd (h.loaded _ c mem).1 fresh⟩
    · exact absurd (h.free free there) unconfirmed

end attempt

theorem inv_load {task : String} (h : Inv results s) :
    Inv results (step results s (.load task)) := by
  by_cases there : task ∈ s.issued
  case neg =>
    simp only [step, if_neg there]
    exact h
  simp only [step, if_pos there]
  refine { h with loaded := ?_, lasting := ?_ }
  · intro t c mem
    rcases List.mem_cons.mp mem with same | mem
    · cases same
      exact ⟨there, rfl, fun _ _ => Int.le_refl _⟩
    · exact h.loaded t c mem
  · intro t issued unconfirmed
    obtain ⟨own, marked⟩ := h.lasting t issued unconfirmed
    refine ⟨own, fun c mem => ?_⟩
    rcases List.mem_cons.mp mem with same | mem
    · cases same
      exact id
    · exact marked c mem

/-! The steps of a worker. -/

section apply

variable {task key : String} {attemptedAt : Time} {loaded : PipelineStage} {e : BrokerError}

theorem opens_iff {outcome : SummaryFailureOutcome} {r : PipelineStage} (named : task ≠ "")
    (own : r.brokerTaskId = some task) : Opens outcome (some task) true r ↔
      outcome.failureClass ∈ safeTerminalClasses ∧ r.attemptCount < r.maxAttempts
        ∧ r.brokerSubmissionEpoch < r.maxAttempts := by
  simp [Opens, canAdvanceSubmissionEpoch, own, named, and_assoc]

/-- A confirmed failure that is settled on the row of its task. -/
theorem inv_settle {outcome : SummaryFailureOutcome} {r' : PipelineStage} (h : Inv results s)
    (own : s.row.brokerTaskId = some task) (confirmed : (results task).Confirmed)
    (settles : Settles outcome attemptedAt (some task) true s.row r')
    (kept : ¬ Opens outcome (some task) true s.row → outcome.disposition = .retry →
      s.row.quarantinedAt ≠ none) : Inv results { s with row := r' } := by
  have named := (isTaskId_length (h.named task (h.recorded task own))).1
  have started := h.started (.inr (by simp [own]))
  have bounded := h.bounded
  have idle := h.idle own
  have only {t : String} (there : t ∈ s.issued) (unconfirmed : ¬ (results t).Confirmed) : False := by
    cases own.symm.trans (h.lasting t there unconfirmed).1
    exact unconfirmed confirmed
  by_cases opens : Opens outcome (some task) true s.row
  · obtain ⟨epoch, free, _⟩ := settles.opens opens
    obtain ⟨_, attempts, room⟩ := (opens_iff named own).mp opens
    constructor
    case bounded =>
      rw [epoch, settles.limit]
      omega
    case counted =>
      rw [epoch, settles.attempts]
      omega
    case started =>
      rintro (sending | holding)
      · exact absurd idle sending
      · exact absurd free holding
    case ready => exact fun _ _ => ⟨free, idle⟩
    case sends => exact fun sending => absurd idle sending
    case recorded =>
      intro t holds
      cases free.symm.trans holds
    case named => exact h.named
    case loaded =>
      intro t c mem
      refine ⟨(h.loaded t c mem).1, (h.loaded t c mem).2.1.trans settles.limit.symm, fun holds => ?_⟩
      cases free.symm.trans holds
    case lasting => exact fun t there unconfirmed => (only there unconfirmed).elim
  · obtain ⟨epoch, same⟩ := settles.stays opens
    constructor
    case bounded =>
      rw [epoch, settles.limit]
      exact bounded
    case counted =>
      rw [epoch, settles.attempts]
      omega
    case started =>
      rw [epoch, settles.attempts]
      exact fun _ => started
    case ready =>
      intro due _
      exfalso
      cases hd : outcome.disposition with
      | terminal =>
        have failed := settles.status
        rw [hd, if_pos rfl] at failed
        exact failed_not_open (failed ▸ due.1)
      | quarantine =>
        have quarantined := settles.quarantinedAt
        rw [hd, if_pos rfl] at quarantined
        cases due.2.symm.trans quarantined
      | retry =>
        have same := settles.quarantinedAt
        rw [hd, if_neg (by decide)] at same
        exact kept opens hd (same.symm.trans due.2)
    case sends => exact fun sending => absurd idle sending
    case recorded =>
      rw [same]
      exact h.recorded
    case named => exact h.named
    case loaded =>
      intro t c mem
      obtain ⟨there, limit, recent⟩ := h.loaded t c mem
      rw [settles.limit, settles.attempts, same]
      refine ⟨there, limit, fun holds open_ => recent holds ?_⟩
      have before := settles.quarantinedAt
      rw [open_] at before
      split at before
      · cases before
      · exact before.symm
    case lasting => exact fun t there unconfirmed => (only there unconfirmed).elim

theorem Marked.not_due {reading : Reading} {r : PipelineStage} (h : Marked reading r) : ¬ Due r := by
  rintro ⟨going, open_⟩
  unfold Marked at h
  split at h
  · exact failed_not_open (h ▸ going)
  · rw [open_] at h
    cases h

/-- Whatever the worker had loaded, its mark is on the row after it. -/
theorem marked_merge {outcome : SummaryFailureOutcome} {task : Option String} {reading : Reading}
    {mine mine' stored : PipelineStage} (before : Marked reading loaded → Marked reading stored)
    (settles : Settles outcome attemptedAt task false mine mine')
    (decided : outcome.disposition ≠ .retry) (leaves : outcome.disposition.leaves = reading.polled) :
    Marked reading (merge loaded mine' stored) := by
  have status := settles.status
  have quarantined := settles.quarantinedAt
  unfold Marked at before ⊢
  cases hd : outcome.disposition with
  | retry => exact absurd hd decided
  | terminal =>
    rw [hd] at leaves status
    rw [if_pos rfl] at status
    have failed : reading.polled = .failed := leaves.symm
    simp only [if_pos failed] at before ⊢
    simp only [merge, flushed, status]
    split
    · next same => exact before same.symm
    · rfl
  | quarantine =>
    rw [hd] at leaves quarantined
    rw [if_pos rfl] at quarantined
    have other : reading.polled ≠ .failed := leaves ▸ (by decide)
    simp only [if_neg other] at before ⊢
    simp only [merge, flushed, quarantined]
    split
    · next same => exact before (same ▸ rfl)
    · rfl

/-- A flush without a lock keeps the counters and the task of the row. -/
theorem merge_same {outcome : SummaryFailureOutcome} {mine mine' stored : PipelineStage}
    (own : stored.brokerTaskId = some task) (held : mine = { loaded with
      brokerTaskId := some task, brokerIdempotencyKey := mine.brokerIdempotencyKey })
    (settles : Settles outcome attemptedAt (some task) false mine mine') :
    (merge loaded mine' stored).attemptCount = stored.attemptCount
      ∧ (merge loaded mine' stored).maxAttempts = stored.maxAttempts
      ∧ (merge loaded mine' stored).brokerSubmissionEpoch = stored.brokerSubmissionEpoch
      ∧ (merge loaded mine' stored).brokerTaskId = stored.brokerTaskId := by
  obtain ⟨epoch, same⟩ := settles.stays (by simp [Opens, canAdvanceSubmissionEpoch])
  have attempts : mine'.attemptCount = loaded.attemptCount := by rw [settles.attempts, held]
  have limit : mine'.maxAttempts = loaded.maxAttempts := by rw [settles.limit, held]
  have epoch : mine'.brokerSubmissionEpoch = loaded.brokerSubmissionEpoch := by rw [epoch, held]
  have same : mine'.brokerTaskId = some task := by rw [same, held]
  refine ⟨if_pos attempts, if_pos limit, if_pos epoch, ?_⟩
  simp only [merge, flushed, same]
  split
  · rfl
  · exact own.symm

/-- A row that a result was written to without a lock. -/
theorem inv_merge {outcome : SummaryFailureOutcome} {mine mine' : PipelineStage}
    (h : Inv results s) (mem : (task, loaded) ∈ s.held) (unconfirmed : ¬ (results task).Confirmed)
    (held : mine = { loaded with
      brokerTaskId := some task, brokerIdempotencyKey := mine.brokerIdempotencyKey })
    (settles : Settles outcome attemptedAt (some task) false mine mine')
    (decided : outcome.disposition ≠ .retry)
    (leaves : outcome.disposition.leaves = (results task).reading.polled) :
    Inv results { s with row := merge loaded mine' s.row } := by
  obtain ⟨own, marked⟩ := h.lasting task (h.loaded task loaded mem).1 unconfirmed
  obtain ⟨attempts, limit, epoch, same⟩ := merge_same own held settles
  have idle := h.idle own
  have quarantined : (merge loaded mine' s.row).quarantinedAt = none →
      s.row.quarantinedAt = none := by
    have mine := settles.quarantinedAt
    rw [held] at mine
    simp only [merge, flushed]
    split
    · exact id
    · next written =>
      intro open_
      rw [open_] at mine
      split at mine
      · cases mine
      · exact absurd (open_.trans mine) written
  have now := marked_merge (marked loaded mem) settles decided leaves
  have started := h.started (.inr (by simp [own]))
  have bounded := h.bounded
  constructor
  case bounded =>
    rw [epoch, limit]
    exact bounded
  case counted =>
    rw [epoch, attempts]
    omega
  case started =>
    rw [epoch, attempts]
    exact fun _ => started
  case ready => exact fun due => absurd due (Marked.not_due now)
  case sends => exact fun sending => absurd idle sending
  case recorded =>
    rw [same]
    exact h.recorded
  case named => exact h.named
  case loaded =>
    intro t c there
    obtain ⟨issued, bound, recent⟩ := h.loaded t c there
    rw [limit, attempts, same]
    exact ⟨issued, bound, fun holds open_ => recent holds (quarantined open_)⟩
  case lasting =>
    intro t issued unconfirmed
    cases own.symm.trans (h.lasting t issued unconfirmed).1
    exact ⟨same.trans own, fun _ _ _ => now⟩

/-- What a worker leaves of the store: everything as it was, the row of its task
settled, or its result written over what it had loaded. -/
inductive Applied (results : String → TaskResult) (s : Store) (task : String)
    (loaded : PipelineStage) (attemptedAt : Time) : Store → Prop
  | idle : Applied results s task loaded attemptedAt s
  | settled {outcome : SummaryFailureOutcome} {r' : PipelineStage}
      (failed : (results task).Failed outcome.failureClass)
      (own : s.row.brokerTaskId = some task)
      (settles : Settles outcome attemptedAt (some task) true s.row r')
      (kept : ¬ Opens outcome (some task) true s.row → outcome.disposition = .retry →
        s.row.quarantinedAt ≠ none) :
      Applied results s task loaded attemptedAt { s with row := r' }
  | merged {outcome : SummaryFailureOutcome} {mine mine' : PipelineStage}
      (mem : (task, loaded) ∈ s.held) (unconfirmed : ¬ (results task).Confirmed)
      (held : mine = { loaded with
        brokerTaskId := some task, brokerIdempotencyKey := mine.brokerIdempotencyKey })
      (settles : Settles outcome attemptedAt (some task) false mine mine')
      (decided : outcome.disposition ≠ .retry)
      (leaves : outcome.disposition.leaves = (results task).reading.polled) :
      Applied results s task loaded attemptedAt { s with row := merge loaded mine' s.row }

theorem step_applied (h : Inv results s) : Applied results s task loaded attemptedAt
    (step results s (.apply task loaded key attemptedAt)) := by
  by_cases mem : (task, loaded) ∈ s.held
  case neg =>
    simp only [step, if_neg mem]
    exact .idle
  simp only [step, if_pos mem]
  obtain ⟨there, limit, recent⟩ := h.loaded task loaded mem
  obtain ⟨named, short⟩ := isTaskId_length (h.named task there)
  cases answer : (results task).reading.answer (some task) (some key) with
  | ok output => exact .idle
  | error e =>
    have code := TaskResult.confirmed_iff answer
    simp only [applied]
    by_cases failed : e.code = "broker_task_failed"
    · rw [if_pos failed]
      split
      · next own =>
        obtain ⟨failureClass, confirmed⟩ := code.mp failed
        obtain ⟨same, left⟩ := TaskResult.outcome answer confirmed attemptedAt
          (keepCorrelation (some task) (firstOf (some key) e.idempotencyKey) loaded)
        refine .settled (same ▸ confirmed) own settledRow_settles fun closed retry open_ => ?_
        -- a copy loaded since the task was recorded counts the same attempts
        obtain ⟨safe, left⟩ := left retry
        have started := h.started (.inr (by simp [own]))
        have bounded := h.bounded
        have recent := recent own open_
        change loaded.attemptCount < max 1 loaded.maxAttempts at left
        rw [opens_iff named own, same] at closed
        exact closed ⟨safe, by omega, by omega⟩
      · exact .idle
    · rw [if_neg failed]
      obtain ⟨decided, leaves⟩ := pollOutcome_leaves (TaskResult.settled answer failed)
        (results task).sound answer attemptedAt
        (keepCorrelation (some task) (firstOf (some key) e.idempotencyKey) loaded)
      refine .merged mem (fun confirmed => failed (code.mpr confirmed)) ?_ settledRow_settles
        decided leaves
      simp [keepCorrelation, named, short]

theorem inv_apply (h : Inv results s) :
    Inv results (step results s (.apply task loaded key attemptedAt)) := by
  have after := @step_applied results s task key attemptedAt loaded h
  generalize step results s (.apply task loaded key attemptedAt) = s' at after ⊢
  cases after with
  | idle => exact h
  | settled failed own settles kept => exact inv_settle h own ⟨_, failed⟩ settles kept
  | merged mem unconfirmed held settles decided leaves =>
    exact inv_merge h mem unconfirmed held settles decided leaves

end apply

theorem inv_step (h : Inv results s) (action : Action) : Inv results (step results s action) := by
  cases action with
  | attempt key attemptedAt => exact inv_attempt h
  | accept accepted key => exact inv_accept h
  | load task => exact inv_load h
  | apply task loaded key attemptedAt => exact inv_apply h

theorem inv_run (h : Inv results s) (actions : List Action) : Inv results (run results s actions) := by
  induction actions generalizing s with
  | nil => exact h
  | cons action actions ih => exact ih (inv_step h action)

/-! The epoch along a run. -/

/-- The result of the task opens the next epoch and gives up the task and its key. -/
structure Advances (result : TaskResult) (task : String) (r r' : PipelineStage) : Prop where
  failed : ∃ failureClass, result.Failed failureClass ∧ failureClass ∈ safeTerminalClasses
  current : r.brokerTaskId = some task
  next : r'.brokerSubmissionEpoch = r.brokerSubmissionEpoch + 1
  cleared : r'.brokerTaskId = none ∧ r'.brokerIdempotencyKey = none

/-- A worker whose task the row does not hold any more changes nothing. -/
theorem apply_other (h : Inv results s) {task key : String} {loaded : PipelineStage}
    {attemptedAt : Time} (other : s.row.brokerTaskId ≠ some task) :
    step results s (.apply task loaded key attemptedAt) = s := by
  have after := @step_applied results s task key attemptedAt loaded h
  generalize step results s (.apply task loaded key attemptedAt) = s' at after ⊢
  cases after with
  | idle => rfl
  | settled failed own settles kept => exact absurd own other
  | merged mem unconfirmed held settles decided leaves =>
    exact absurd (h.lasting task (h.loaded task loaded mem).1 unconfirmed).1 other

/-- A worker opens the next epoch, or leaves the epoch and the task as they are. -/
theorem apply_row (h : Inv results s) {task key : String} {loaded : PipelineStage}
    {attemptedAt : Time} {s' : Store}
    (after : step results s (.apply task loaded key attemptedAt) = s') :
    s'.issued = s.issued ∧ (Advances (results task) task s.row s'.row
      ∨ s'.row.brokerSubmissionEpoch = s.row.brokerSubmissionEpoch
        ∧ s'.row.brokerTaskId = s.row.brokerTaskId) := by
  have applied := @step_applied results s task key attemptedAt loaded h
  rw [after] at applied
  cases applied with
  | idle => exact ⟨rfl, .inr ⟨rfl, rfl⟩⟩
  | @settled outcome r' failed own settles kept =>
    refine ⟨rfl, ?_⟩
    have named := (isTaskId_length (h.named task (h.recorded task own))).1
    by_cases opens : Opens outcome (some task) true s.row
    · obtain ⟨next, free, keyless⟩ := settles.opens opens
      exact .inl ⟨⟨_, failed, ((opens_iff named own).mp opens).1⟩, own, next, free, keyless⟩
    · exact .inr (settles.stays opens)
  | merged mem unconfirmed held settles decided leaves =>
    have own := (h.lasting task (h.loaded task loaded mem).1 unconfirmed).1
    obtain ⟨_, _, epoch, same⟩ := merge_same own held settles
    exact ⟨rfl, .inr ⟨epoch, same⟩⟩

theorem epoch_step (h : Inv results s) {action : Action}
    (changes : (step results s action).row.brokerSubmissionEpoch ≠ s.row.brokerSubmissionEpoch) :
    ∃ task loaded key attemptedAt, action = .apply task loaded key attemptedAt
      ∧ Advances (results task) task s.row (step results s action).row := by
  cases action with
  | apply task loaded key attemptedAt =>
    refine ⟨task, loaded, key, attemptedAt, rfl, ?_⟩
    exact (apply_row h rfl).2.resolve_right fun same => changes same.1
  | attempt key attemptedAt =>
    by_cases due : Due s.row
    · by_cases begun : Begun s.row
      · have same := (@attemptRow_begun key attemptedAt s.row begun
          fun t ht => h.named t (h.recorded t ht)).2.2.1
        exact absurd (by simp only [step, if_pos due, same]) changes
      · have same : (attemptRow key attemptedAt s.row).brokerSubmissionEpoch
            = s.row.brokerSubmissionEpoch := by
          rw [attemptRow_ready begun]
          rfl
        exact absurd (by simp only [step, if_pos due, same]) changes
    · exact absurd (by simp only [step, if_neg due]) changes
  | accept accepted key =>
    exfalso
    apply changes
    unfold step
    dsimp only
    split <;> rfl
  | load task =>
    exfalso
    apply changes
    unfold step
    dsimp only
    split <;> rfl

/-- The task was recorded, and the row does not hold it any more. -/
def Past (task : String) (s : Store) : Prop := task ∈ s.issued ∧ s.row.brokerTaskId ≠ some task

theorem past_step {task : String} (h : Inv results s) (past : Past task s) (action : Action) :
    Past task (step results s action) := by
  obtain ⟨there, other⟩ := past
  cases action with
  | attempt key attemptedAt =>
    by_cases due : Due s.row
    · simp only [step, if_pos due]
      refine ⟨there, ?_⟩
      by_cases begun : Begun s.row
      · have same := (@attemptRow_begun key attemptedAt s.row begun
          fun t ht => h.named t (h.recorded t ht)).2.2.2.1
        rw [same]
        exact other
      · rw [attemptRow_ready begun]
        exact other
    · simp only [step, if_neg due]
      exact ⟨there, other⟩
  | accept accepted key =>
    by_cases able : key ∈ s.sending ∧ isTaskId accepted.taskId = true ∧ accepted.taskId ∉ s.issued
    · simp only [step, if_pos able]
      refine ⟨List.mem_cons_of_mem _ there, fun holds => able.2.2 ?_⟩
      have same := (isTaskId_length able.2.1).2
      rw [← same, Option.some.inj holds]
      exact there
    · simp only [step, if_neg able]
      exact ⟨there, other⟩
  | load loading =>
    unfold step
    dsimp only
    split <;> exact ⟨there, other⟩
  | apply task' loaded key attemptedAt =>
    obtain ⟨issued, advances | ⟨_, same⟩⟩ := apply_row h rfl
    · refine ⟨issued ▸ there, fun holds => ?_⟩
      cases advances.cleared.1.symm.trans holds
    · exact ⟨issued ▸ there, same ▸ other⟩

theorem past_run {task : String} (h : Inv results s) (past : Past task s) (actions : List Action) :
    Past task (run results s actions) := by
  induction actions generalizing s with
  | nil => exact past
  | cons action actions ih => exact ih (inv_step h action) (past_step h past action)

/-- A stage with no task yet, whose epoch counts some of its attempts. -/
structure Unsent (r : PipelineStage) : Prop where
  free : r.brokerTaskId = none
  bounded : 0 ≤ r.brokerSubmissionEpoch ∧ r.brokerSubmissionEpoch ≤ r.maxAttempts
  counted : r.brokerSubmissionEpoch ≤ r.attemptCount

theorem inv_start {r : PipelineStage} (unsent : Unsent r) : Inv results (.start r) where
  bounded := unsent.bounded
  counted := unsent.counted
  started busy := by
    rcases busy with sending | holding
    · exact absurd rfl sending
    · exact absurd unsent.free holding
  ready _ _ := ⟨unsent.free, rfl⟩
  sends sending := absurd rfl sending
  recorded t holds := by cases unsent.free.symm.trans holds
  named t there := absurd there List.not_mem_nil
  loaded t c mem := absurd mem List.not_mem_nil
  lasting t there := absurd there List.not_mem_nil

/-- The epoch of the row, and what moves it. -/
structure EpochSafe (results : String → TaskResult) (s : Store) : Prop where
  bounded : 0 ≤ s.row.brokerSubmissionEpoch ∧ s.row.brokerSubmissionEpoch ≤ s.row.maxAttempts
  moves : ∀ action,
    (step results s action).row.brokerSubmissionEpoch ≠ s.row.brokerSubmissionEpoch →
      ∃ task loaded key attemptedAt, action = .apply task loaded key attemptedAt
        ∧ Advances (results task) task s.row (step results s action).row
  others : ∀ task loaded key attemptedAt, s.row.brokerTaskId ≠ some task →
    (step results s (.apply task loaded key attemptedAt)).row = s.row
  once : ∀ task loaded key attemptedAt,
    (step results s (.apply task loaded key attemptedAt)).row.brokerSubmissionEpoch
      ≠ s.row.brokerSubmissionEpoch →
    ∀ later loaded' key' attemptedAt',
      let s' := run results (step results s (.apply task loaded key attemptedAt)) later
      (step results s' (.apply task loaded' key' attemptedAt')).row.brokerSubmissionEpoch
        = s'.row.brokerSubmissionEpoch

/-- Whatever the workers of all tasks do in whatever order, each task opens one epoch at
most. -/
theorem epoch_once (results : String → TaskResult) {r : PipelineStage} (unsent : Unsent r)
    (actions : List Action) : EpochSafe results (run results (.start r) actions) := by
  have h : Inv results (run results (.start r) actions) := inv_run (inv_start unsent) actions
  generalize run results (.start r) actions = s at h ⊢
  constructor
  case bounded => exact h.bounded
  case moves => exact fun action changes => epoch_step h changes
  case others =>
    intro task loaded key attemptedAt other
    rw [apply_other h other]
  case once =>
    intro task loaded key attemptedAt changes later loaded' key' attemptedAt'
    obtain ⟨issued, advances | ⟨same, _⟩⟩ := apply_row h
      (rfl : step results s (.apply task loaded key attemptedAt) = _)
    · have past : Past task (step results s (.apply task loaded key attemptedAt)) := by
        refine ⟨issued ▸ h.recorded task advances.current, fun holds => ?_⟩
        cases advances.cleared.1.symm.trans holds
      have past := past_run (inv_step h _) past later
      dsimp only
      rw [apply_other (inv_run (inv_step h _) later) past.2]
    · exact absurd same changes

/-- The broker reports a failure of the back end that may be tried again. -/
def unlucky : TaskResult where
  reading := .ended "broker_task_failed" "transient_safe" "backend_error"
  sound := ⟨by decide, by decide, by decide⟩
  ended _ _ _ h := by
    cases h
    exact .inl rfl

/-- Two workers read the failure of the first task of a new stage. -/
def raced : List Action :=
  let loaded := acceptRow ⟨"task", "key"⟩ "key" (attemptRow "key" 0 (newSummary 1 1 1 3))
  [.attempt "key" 0, .accept ⟨"task", "key"⟩ "key", .load "task", .apply "task" loaded "key" 30,
    .apply "task" loaded "key" 31]

theorem epoch_once_raced :
    EpochSafe (fun _ => unlucky) (run (fun _ => unlucky) (.start (newSummary 1 1 1 3)) raced) :=
  epoch_once _ ⟨rfl, by decide, by decide⟩ _

example : (run (fun _ => unlucky) (.start (newSummary 1 1 1 3)) raced).row.brokerSubmissionEpoch
    = 1 := by
  decide +kernel

end YTPipe.Epochs
