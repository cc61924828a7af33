import YTPipe.Broker.Keys
import YTPipe.Refinement.Run

/-!
# The requests of a stage

What is durable before each request, and which requests are never made twice.
-/

namespace YTPipe

open Broker Ledger

namespace Ledger

variable {t : Terms}

theorem WriteAhead.tail {later l : List Event} (h : WriteAhead t (later ++ l)) : WriteAhead t l := by
  induction later with
  | nil => exact h
  | cons e later ih =>
    apply ih
    cases e with
    | post _ => exact h.2
    | get _ => exact h.2
    | summarize _ _ => exact h
    | slept _ => exact h
    | raised _ => exact h

/-- The card of a stage just created. -/
theorem newSummary_unstarted (id videoId userId maxAttempts : Int) :
    Unstarted (cardOf (newSummary id videoId userId maxAttempts)) :=
  ⟨rfl, rfl, rfl, Int.le_refl 0, Int.le_refl 0⟩

theorem newSummary_exact (id videoId userId maxAttempts : Int) :
    Exact t ⟨cardOf (newSummary id videoId userId maxAttempts), []⟩ :=
  unstarted_exact t (fun _ h => (nomatch h))

end Ledger

/-- A run of a summary stage from its creation, with any limit of attempts. -/
def summaryRun (platform : Platform) (stage : PipelineStage) (video : Video) (ops : List StageOp) :
    StageWorld :=
  runStage platform ops (openSession stage video)

/-- What the keys that were posted are the digests of. -/
def postedBytes : List Event → List Framing.Bytes
  | [] => []
  | .post p :: log => (keyBytes (postContext p) p.operation).toList ++ postedBytes log
  | _ :: log => postedBytes log

theorem mem_postedBytes {log : List Event} {p : Post} {bytes : Framing.Bytes}
    (hp : Event.post p ∈ log) (hb : keyBytes (postContext p) p.operation = some bytes) :
    bytes ∈ postedBytes log := by
  induction log with
  | nil => cases hp
  | cons e log ih =>
    rcases List.mem_cons.mp hp with rfl | earlier
    · simp [postedBytes, hb]
    · cases e with
      | post q => exact List.mem_append_right _ (ih earlier)
      | get _ => exact ih earlier
      | summarize _ _ => exact ih earlier
      | slept _ => exact ih earlier
      | raised _ => exact ih earlier

theorem exists_post (log : List Event) (h : 1 ≤ (postedBytes log).length) :
    ∃ later p earlier, log = later ++ .post p :: earlier ∧
      (postedBytes log).length ≤ 1 + (postedBytes earlier).length := by
  induction log with
  | nil => simp [postedBytes] at h
  | cons e log ih =>
    cases e with
    | post p =>
      refine ⟨[], p, log, rfl, ?_⟩
      simp only [postedBytes, List.length_append]
      have : (keyBytes (postContext p) p.operation).toList.length ≤ 1 := by
        cases keyBytes (postContext p) p.operation <;> simp
      omega
    | get g =>
      obtain ⟨later, p, earlier, rfl, hle⟩ := ih h
      exact ⟨.get g :: later, p, earlier, rfl, hle⟩
    | summarize r r' =>
      obtain ⟨later, p, earlier, rfl, hle⟩ := ih h
      exact ⟨.summarize r r' :: later, p, earlier, rfl, hle⟩
    | slept d =>
      obtain ⟨later, p, earlier, rfl, hle⟩ := ih h
      exact ⟨.slept d :: later, p, earlier, rfl, hle⟩
    | raised c =>
      obtain ⟨later, p, earlier, rfl, hle⟩ := ih h
      exact ⟨.raised c :: later, p, earlier, rfl, hle⟩

/-- SHA-256 does not collide on the keys that are posted. -/
def CollisionFree (platform : Platform) (log : List Event) : Prop :=
  ∀ x ∈ postedBytes log, ∀ y ∈ postedBytes log, platform.sha256 x = platform.sha256 y → x = y

instance (platform : Platform) (log : List Event) : Decidable (CollisionFree platform log) :=
  inferInstanceAs (Decidable (∀ x ∈ postedBytes log, ∀ y ∈ postedBytes log,
    platform.sha256 x = platform.sha256 y → x = y))

theorem post_bytes {platform : Platform} {p : Post}
    (h : brokerIdempotencyKey platform (postContext p) p.operation = some p.key) :
    ∃ bytes, keyBytes (postContext p) p.operation = some bytes ∧ p.key = platform.sha256 bytes :=
  (brokerIdempotencyKey_eq_some h).2

/-- Two requests with one key are for one operation of one epoch. -/
theorem same_key {platform : Platform} {log : List Event} (free : CollisionFree platform log)
    {p q : Post} (hp : Event.post p ∈ log) (hq : Event.post q ∈ log)
    (hkp : brokerIdempotencyKey platform (postContext p) p.operation = some p.key)
    (hkq : brokerIdempotencyKey platform (postContext q) q.operation = some q.key)
    (same : p.key = q.key) : postContext p = postContext q ∧ postSlot p = postSlot q := by
  obtain ⟨bytes, hb, hs⟩ := post_bytes hkp
  obtain ⟨bytes', hb', hs'⟩ := post_bytes hkq
  have equal : bytes = bytes' :=
    free _ (mem_postedBytes hp hb) _ (mem_postedBytes hq hb') (hs.symm.trans (same.trans hs'))
  subst equal
  obtain ⟨context, kind, ordinal⟩ := keyBytes_injective hb hb'
  exact ⟨context, Prod.ext kind ordinal⟩

/-- A later request has a key of its own. It is for the same operation only once
the first request's task was read to have failed in a transient class, and the
epoch was advanced. -/
theorem no_duplicate_work (platform : Platform) (durable : platform.flushRule = .assigned)
    (digest : ∀ bytes, (platform.sha256 bytes).length = 64) (id videoId userId maxAttempts : Int)
    (video : Video) (ops : List StageOp) (route : ∀ op ∈ ops, op.brokered)
    (free : CollisionFree platform
      (summaryRun platform (newSummary id videoId userId maxAttempts) video ops).trace)
    (p q : Post) (later between earlier : List Event)
    (log : (summaryRun platform (newSummary id videoId userId maxAttempts) video ops).trace
      = later ++ .post q :: between ++ .post p :: earlier) :
    p.key ≠ q.key ∧
      ((p.operation.kind, p.operation.ordinal) = (q.operation.kind, q.operation.ordinal) →
        p.durable.brokerSubmissionEpoch < q.durable.brokerSubmissionEpoch ∧
        ∃ g, Event.get g ∈ between ∧ postCreated platform p = some g.taskId
          ∧ getFailedTransient g) := by
  have basic := (newSummary_unstarted id videoId userId maxAttempts).basic ⟨platform, False⟩
  have exact₀ : Exact ⟨platform, False⟩ _ := newSummary_exact id videoId userId maxAttempts
  have path := (run_holds (starts basic) (.inr (starts exact₀))
    digest route (.inr (.inl durable))
    (openSession_holds (newSummary id videoId userId maxAttempts) video)).durable
  have known := (from_basic path (starts basic)).writeAhead
  have distinct := (from_exact _ not_false path (starts basic)
    (starts exact₀)).distinct
  have spent (same : postSlot p = postSlot q) := distinct_posts _ distinct log same
  have hq : Event.post q ∈ (summaryRun platform (newSummary id videoId userId maxAttempts) video
      ops).trace := by simp [log]
  have hp : Event.post p ∈ (summaryRun platform (newSummary id videoId userId maxAttempts) video
      ops).trace := by simp [log]
  have keyed : WriteAhead ⟨platform, False⟩ (later ++ .post q :: between ++ .post p :: earlier) :=
    log ▸ known
  have keyp := keyed.tail.1.2.2
  rw [List.append_assoc] at keyed
  have keyq := keyed.tail.1.2.2
  constructor
  · intro same
    obtain ⟨context, slot⟩ := same_key free hp hq keyp keyq same
    have advanced := (spent slot).1
    rw [show postEpoch p = postEpoch q from congrArg (·.brokerSubmissionEpoch) context] at advanced
    exact absurd advanced (Int.lt_irrefl _)
  · exact spent

/-- The task of the first request fails in a transient class, and the second
attempt's request gets no answer. -/
def retriedRun : StageWorld :=
  summaryRun (Sample.platform .assigned) Sample.stage Sample.video
    [.attempt (Sample.config 4096) [.now 0, .committed, .clock 0, .clock 0, Sample.created "t",
      .clock 0, .committed, .clock 0, .clock 0, .clock 1, Sample.failed "transient_safe",
      .committed],
    .attempt (Sample.config 4096) [.now 60000000, .now 60000000, .committed, .clock 0, .clock 0,
      .http .httpError, .committed]]

theorem no_duplicate_work_retried : ∃ p q later between earlier,
    retriedRun.trace = later ++ .post q :: between ++ .post p :: earlier ∧ p.key ≠ q.key ∧
      ((p.operation.kind, p.operation.ordinal) = (q.operation.kind, q.operation.ordinal) →
        p.durable.brokerSubmissionEpoch < q.durable.brokerSubmissionEpoch ∧
        ∃ g, Event.get g ∈ between ∧ postCreated (Sample.platform .assigned) p = some g.taskId
          ∧ getFailedTransient g) := by
  have facts : CollisionFree (Sample.platform .assigned) retriedRun.trace ∧
      (postedBytes retriedRun.trace).length = 2 := by decide +kernel
  obtain ⟨later, q, rest, hlog, hle⟩ := exists_post retriedRun.trace (by omega)
  obtain ⟨between, p, earlier, rfl, _⟩ := exists_post rest (by omega)
  have log : retriedRun.trace = later ++ .post q :: between ++ .post p :: earlier := by
    rw [hlog, List.append_assoc, List.cons_append]
  refine ⟨p, q, later, between, earlier, log, ?_⟩
  exact no_duplicate_work (Sample.platform .assigned) rfl Sample.sha256_length 7 1 1 3 Sample.video _
    (by simp [StageOp.brokered, Sample.config]) facts.1 p q later between earlier log

/-- At each request the durable row is written ahead: before a POST its key, and
before a GET the task it reads and the key of the POST that created it. -/
theorem write_ahead (platform : Platform) (digest : ∀ bytes, (platform.sha256 bytes).length = 64)
    (id videoId userId maxAttempts : Int) (video : Video) (ops : List StageOp)
    (route : ∀ op ∈ ops, op.brokered) (e : Event) (later earlier : List Event)
    (log : (summaryRun platform (newSummary id videoId userId maxAttempts) video ops).trace
      = later ++ e :: earlier) :
    (∀ p, e = .post p → p.durable.reconciliationStatus = some .submissionPrepared ∧
      p.durable.brokerIdempotencyKey = some p.key) ∧
    (∀ g, e = .get g → g.durable.brokerTaskId = some g.taskId ∧
      (g.reader = .attempt ∧ g.durable.reconciliationStatus = some .submissionAccepted ∨
        g.reader = .reconciliation ∧ g.durable.reconciliationStatus = some .getEligible) ∧
      ∃ p, Event.post p ∈ earlier ∧ postCreated platform p = some g.taskId ∧
        g.durable.brokerIdempotencyKey = some p.key) := by
  have basic := (newSummary_unstarted id videoId userId maxAttempts).basic ⟨platform, True⟩
  have path := (run_holds (starts basic) (.inl trivial) digest route (.inl trivial)
    (openSession_holds (newSummary id videoId userId maxAttempts) video)).durable
  have known : WriteAhead ⟨platform, True⟩ (later ++ e :: earlier) :=
    log ▸ (from_basic path (starts basic)).writeAhead
  have keyed (p : Post) (hp : Event.post p ∈ e :: earlier) : truncate 128 p.key = p.key := by
    obtain ⟨l, l', hl⟩ := List.append_of_mem hp
    have := known.tail
    rw [hl] at this
    obtain ⟨bytes, _, hkey⟩ := post_bytes this.tail.1.2.2
    apply truncate_of_le
    rw [hkey, digest]
    decide
  constructor
  · rintro p rfl
    obtain ⟨phase, key, _⟩ := known.tail.1
    rw [keyed p (List.mem_cons_self ..)] at key
    exact ⟨phaseOf_prepared phase, key⟩
  · rintro g rfl
    obtain ⟨task, phase, p, hp, created, key⟩ := known.tail.1
    rw [keyed p (List.mem_cons_of_mem _ hp)] at key
    refine ⟨task, ?_, p, hp, created, key⟩
    rcases phase with ⟨accepted, reader⟩ | ⟨eligible, reader⟩
    · exact .inl ⟨reader, (live_of_accepted accepted).2⟩
    · exact .inr ⟨reader, (phaseOf_eligible_iff.mp eligible).2⟩

def Event.reads : Event → Bool
  | .get _ => true
  | _ => false

/-- The request of an attempt is answered, and its result is read. -/
def answeredOps : List StageOp :=
  [.attempt (Sample.config 4096) [.now 0, .committed, .clock 0, .clock 0, Sample.created "t",
    .clock 0, .committed, .clock 0, .clock 0, .clock 1,
    Sample.succeeded "RESUMEN\na\nPUNTOS CLAVE\n• a", .committed]]

def answeredRun : StageWorld :=
  summaryRun (Sample.platform .changed) Sample.stage Sample.video answeredOps

theorem write_ahead_answered : ∃ p g later earlier,
    answeredRun.trace = later ++ .get g :: earlier ∧
      g.durable.brokerTaskId = some g.taskId ∧ Event.post p ∈ earlier ∧
      g.durable.brokerIdempotencyKey = some p.key ∧
      p.durable.reconciliationStatus = some .submissionPrepared ∧
      p.durable.brokerIdempotencyKey = some p.key := by
  have read : answeredRun.trace.any Event.reads = true := by decide +kernel
  have ahead := write_ahead (Sample.platform .changed) Sample.sha256_length 7 1 1 3 Sample.video
    answeredOps (by simp [answeredOps, StageOp.brokered, Sample.config])
  obtain ⟨e, there, reads⟩ := List.any_eq_true.mp read
  cases e with
  | get g =>
    obtain ⟨earlier, later, log⟩ := List.append_of_mem there
    obtain ⟨task, _, p, posted, _, key⟩ := (ahead _ _ _ log).2 g rfl
    obtain ⟨before, between, split⟩ := List.append_of_mem posted
    have log' : answeredRun.trace = (earlier ++ .get g :: before) ++ .post p :: between := by
      rw [log, split, List.append_assoc, List.cons_append]
    have prepared := (ahead _ _ _ log').1 p rfl
    exact ⟨p, g, earlier, later, log, task, posted, key, prepared⟩
  | post p => cases reads
  | summarize durable current => cases reads
  | slept duration => cases reads
  | raised cause => cases reads

end YTPipe
