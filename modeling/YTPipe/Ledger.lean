import YTPipe.SummaryStage
import YTPipe.Broker.PlanValidity
import Mathlib.Logic.Relation

/-!
# The submission ledger

What a summary stage promises about the broker, with the columns, the sessions
and the HTTP bodies left out: a card that says where the stage stands with its
present task, and the log of what was posted and read. A step is what one commit,
or one request, may do to them.
-/

namespace YTPipe.Ledger

open Broker

inductive Phase
  /-- An operation may be submitted. -/
  | opened
  /-- A key is written; a POST with it may have been made. -/
  | prepared
  /-- The task is known and may be polled. -/
  | accepted
  /-- Nobody but the operator may go on. -/
  | held
  /-- The operator lets the task's result be read. -/
  | eligible
  /-- Nothing is submitted any more. -/
  | closed
  deriving DecidableEq, Repr

structure Card where
  stageId : Int
  phase : Phase
  key : Option String
  task : Option String
  epoch : Int
  attempts : Int
  plan : Option ChunkPlan

def phaseOf (r : PipelineStage) : Phase :=
  if r.quarantinedAt.isSome then
    if r.reconciliationStatus = some .getEligible then .eligible else .held
  else if ¬ r.status.isOpen then .closed
  else if r.reconciliationStatus = some .submissionPrepared then .prepared
  else if r.reconciliationStatus = some .submissionAccepted then .accepted
  else .opened

/-- The card of a stage row. -/
def cardOf (r : PipelineStage) : Card where
  stageId := r.id
  phase := phaseOf r
  key := r.brokerIdempotencyKey
  task := r.brokerTaskId
  epoch := r.brokerSubmissionEpoch
  attempts := r.attemptCount
  plan := r.brokerChunkPlan

/-- The operation a request is for. -/
abbrev Slot := String × Int

def postSlot (p : Post) : Slot := (p.operation.kind, p.operation.ordinal)

def postEpoch (p : Post) : Int := p.durable.brokerSubmissionEpoch

/-- What the key of a request is computed from, the operation apart. -/
def postContext (p : Post) : SummaryGatewayContext := ⟨p.durable.id, postEpoch p⟩

/-- The task the answer to a POST names. -/
def postCreated (platform : Platform) (p : Post) : Option String :=
  p.outcome.bind (createdTask platform p.baseUrl p.key)

/-- The answer says that the task failed, in a class that lets it be submitted anew. -/
def failedTransient (outcome : HttpOutcome) : Bool :=
  match outcome with
  | .response r =>
    match taskResultStatus r with
    | .ok .failed => r.statusCode = 200 && safeTerminalClasses.contains
      (((((r.body.bind Json.asDict).bind (·.getDict? "error")).bind (·.getStr? "class"))).getD "")
    | _ => false
  | _ => false

/-- The validated summary in an answer. -/
def validatedOutput (profile : BrokerRequestProfile) (operationKind : Option String)
    (outcome : HttpOutcome) : Option Text :=
  match getResult "" none outcome with
  | .ok (some result) => (validatedResult profile result (operationKind = some partialKind)).toOption
  | _ => none

def getOutput (g : Get) : Option Text := g.outcome.bind (validatedOutput g.profile g.operationKind)

def getFailedTransient (g : Get) : Prop := ∃ o, g.outcome = some o ∧ failedTransient o = true

/-- The operation that comes next. -/
def nextSlot : Option ChunkPlan → Option Slot
  | none => some ("traffic", 0)
  | some plan => (plan.steps[plan.nextStep.toNat]?).map fun s => (operationKind s, s.ordinal)

/-- What a run of the ledger takes for granted: the platform, and whether the
plan column may be written back as it was. -/
structure Terms where
  platform : Platform
  lax : Prop

structure State where
  card : Card
  log : List Event

/-- A plan just made: nothing is done, and the final step is the last. -/
structure Built (plan : ChunkPlan) : Prop where
  start : plan.nextStep = 0
  fresh : ∀ s ∈ plan.steps, s.status = .pending ∧ s.output = none
  many : 2 ≤ plan.steps.length
  pieces : ∀ i s, plan.steps[i]? = some s → i + 1 < plan.steps.length →
    operationKind s = partialKind ∧ s.ordinal = i
  final : ∀ i s, plan.steps[i]? = some s → i + 1 = plan.steps.length →
    operationKind s = finalKind ∧ s.ordinal = 0

/-- The plan `after` is `before` with its next step, a partial one, done by the read `g`. -/
def Advances (before after : Option ChunkPlan) (g : Get) : Prop :=
  ∃ plan output, before = some plan ∧ nextSlot before = some (partialKind, plan.nextStep)
    ∧ plan.nextStep + 1 < plan.steps.length ∧ g.operationKind = some partialKind
    ∧ getOutput g = some output ∧ output ≠ []
    ∧ after = some (plan.completeStep plan.nextStep output)

/-- The prompt of a final operation is made of the outputs the plan holds. -/
def Prompted (plan : Option ChunkPlan) (operation : SummaryOperation) : Prop :=
  operation.kind = finalKind → ∀ p, plan = some p →
    operation.userPrompt = finalPrompt (p.steps.dropLast.map (·.output.getD []))

variable (t : Terms)

/-- Events that leave the card alone. -/
def Quiet : Event → Prop
  | .slept _ => True
  | .raised .idempotencyKey => True
  | .raised .chunkPlan => t.lax
  | _ => False

inductive Step : State → State → Prop
  | note {c l e} (quiet : Quiet t e) : Step ⟨c, l⟩ ⟨c, e :: l⟩
  | count {c l} (n : Int) (more : c.attempts ≤ n) : Step ⟨c, l⟩ ⟨{ c with attempts := n }, l⟩
  | build {c l} (plan : ChunkPlan) (phase : c.phase = .opened) (unplanned : c.plan = none)
      (built : Built plan) : Step ⟨c, l⟩ ⟨{ c with plan := some plan }, l⟩
  | prepare {c l} (key : String) (phase : c.phase = .opened) (paid : c.epoch + 1 ≤ c.attempts) :
      Step ⟨c, l⟩ ⟨{ c with phase := .prepared, key := some (truncate 128 key) }, l⟩
  | submit {c l} (p : Post) (phase : c.phase = .opened) (paid : c.epoch + 1 ≤ c.attempts)
      (slot : t.lax ∨ nextSlot c.plan = some (postSlot p) ∧ Prompted c.plan p.operation)
      (row : cardOf p.durable =
        { c with phase := .prepared, key := some (truncate 128 p.key) })
      (key : brokerIdempotencyKey t.platform ⟨c.stageId, c.epoch⟩ p.operation = some p.key) :
      Step ⟨c, l⟩ ⟨{ c with phase := .prepared, key := some (truncate 128 p.key) }, .post p :: l⟩
  | accept {c l} (p : Post) (task : String) (phase : c.phase = .prepared)
      (key : c.key = some (truncate 128 p.key)) (created : postCreated t.platform p = some task)
      (slot : t.lax ∨ nextSlot c.plan = some (postSlot p)) :
      Step ⟨c, .post p :: l⟩ ⟨{ c with phase := .accepted, task := some task }, .post p :: l⟩
  | read {c l} (g : Get)
      (phase : c.phase = .accepted ∧ g.reader = .attempt
        ∨ c.phase = .eligible ∧ g.reader = .reconciliation)
      (task : c.task = some g.taskId) (row : cardOf g.durable = c) :
      Step ⟨c, l⟩ ⟨c, .get g :: l⟩
  | hold {c l} (phase : c.phase = .prepared ∨ c.phase = .accepted) :
      Step ⟨c, l⟩ ⟨{ c with phase := .held }, l⟩
  | holdCreated {c l} (p : Post) (task : String) (phase : c.phase = .prepared)
      (key : c.key = some (truncate 128 p.key)) (created : postCreated t.platform p = some task)
      (slot : t.lax ∨ nextSlot c.plan = some (postSlot p)) :
      Step ⟨c, .post p :: l⟩ ⟨{ c with phase := .held, task := some task }, .post p :: l⟩
  | retry {c l} (g : Get) (phase : c.phase = .accepted) (task : c.task = some g.taskId)
      (failed : getFailedTransient g) :
      Step ⟨c, .get g :: l⟩
        ⟨{ c with phase := .opened, key := none, task := none, epoch := c.epoch + 1 }, .get g :: l⟩
  | stepDone {c l} (g : Get) (plan : Option ChunkPlan)
      (phase : c.phase = .accepted ∨ c.phase = .eligible) (task : c.task = some g.taskId)
      (advances : t.lax ∨ Advances c.plan plan g) :
      Step ⟨c, .get g :: l⟩
        ⟨{ c with
            phase := .opened
            key := none
            task := none
            attempts := max 0 (c.attempts - 1)
            plan := plan }, .get g :: l⟩
  | close {c l} (c' : Card) (phase : c'.phase = .closed)
      (plan : c'.plan = none ∨ c'.plan = c.plan) : Step ⟨c, l⟩ ⟨c', l⟩
  | allow {c l} (phase : c.phase = .held) (task : c.task.isSome) :
      Step ⟨c, l⟩ ⟨{ c with phase := .eligible }, l⟩
  | drift {c l} (plan : Option ChunkPlan) (lax : t.lax) : Step ⟨c, l⟩ ⟨{ c with plan := plan }, l⟩

/-- Any number of steps. -/
abbrev Path : State → State → Prop := Relation.ReflTransGen (Step t)

def Phase.inFlight (p : Phase) : Prop :=
  p = .prepared ∨ p = .accepted ∨ p = .held ∨ p = .eligible

/-- The POST `p` is in the log, and nothing was posted after it. -/
def LastPost (p : Post) (log : List Event) : Prop :=
  ∃ later earlier, log = later ++ .post p :: earlier ∧ ∀ q, Event.post q ∉ later

theorem LastPost.cons {p : Post} {log : List Event} {e : Event} (h : LastPost p log)
    (he : ∀ q, e ≠ .post q) : LastPost p (e :: log) := by
  obtain ⟨later, earlier, rfl, hn⟩ := h
  refine ⟨e :: later, earlier, rfl, fun q hq => ?_⟩
  rcases List.mem_cons.mp hq with h | h
  · exact he q h.symm
  · exact hn q h

theorem LastPost.head (p : Post) (log : List Event) : LastPost p (.post p :: log) :=
  ⟨[], log, rfl, by simp⟩

theorem LastPost.mem {p : Post} {log : List Event} (h : LastPost p log) : Event.post p ∈ log := by
  obtain ⟨later, earlier, rfl, _⟩ := h
  simp

/-- The present task is the one the last POST created, of the operation that comes next. -/
def Current (s : State) : Prop :=
  ∀ task, s.card.task = some task → ∃ p, LastPost p s.log ∧ postCreated t.platform p = some task
    ∧ s.card.key = some (truncate 128 p.key) ∧ (t.lax ∨ nextSlot s.card.plan = some (postSlot p))

/-- What the log says of its requests: the key was durable before each POST, the
task and its key before each GET. -/
def WriteAhead : List Event → Prop
  | [] => True
  | .post p :: l => (phaseOf p.durable = .prepared
      ∧ p.durable.brokerIdempotencyKey = some (truncate 128 p.key)
      ∧ brokerIdempotencyKey t.platform (postContext p) p.operation = some p.key) ∧ WriteAhead l
  | .get g :: l => (g.durable.brokerTaskId = some g.taskId
      ∧ (phaseOf g.durable = .accepted ∧ g.reader = .attempt
        ∨ phaseOf g.durable = .eligible ∧ g.reader = .reconciliation)
      ∧ ∃ p, Event.post p ∈ l ∧ postCreated t.platform p = some g.taskId
        ∧ g.durable.brokerIdempotencyKey = some (truncate 128 p.key)) ∧ WriteAhead l
  | _ :: l => WriteAhead l

/-- What holds on every path, whether or not plans are written as assigned. -/
structure Basic (s : State) : Prop where
  budget : s.card.phase ≠ .closed → 0 ≤ s.card.epoch ∧ s.card.epoch ≤ s.card.attempts
  paid : s.card.phase.inFlight → s.card.epoch + 1 ≤ s.card.attempts
  clear : s.card.phase = .opened → s.card.key = none ∧ s.card.task = none
  bare : s.card.phase = .prepared → s.card.task = none
  short : s.card.phase ≠ .closed → ∀ k, s.card.key = some k → truncate 128 k = k
  current : s.card.phase ≠ .closed → Current t s
  writeAhead : WriteAhead t s.log

theorem quiet_writeAhead {e : Event} {l : List Event} (h : Quiet t e)
    (hl : WriteAhead t l) : WriteAhead t (e :: l) := by
  cases e with
  | post p => exact absurd h id
  | get g => exact absurd h id
  | summarize _ _ => exact absurd h id
  | slept _ => exact hl
  | raised _ => exact hl

theorem quiet_not_post {e : Event} (h : Quiet t e) (q : Post) : e ≠ .post q := by
  rintro rfl
  exact h

theorem Current.cons {s : State} (h : Current t s) {e : Event} (he : ∀ q, e ≠ .post q) :
    Current t ⟨s.card, e :: s.log⟩ := by
  intro task ht
  obtain ⟨p, hl, hc, hk, hs⟩ := h task ht
  exact ⟨p, hl.cons he, hc, hk, hs⟩

theorem current_of_no_task {s : State} (h : s.card.task = none) : Current t s :=
  fun task ht => absurd (h.symm.trans ht) (by simp)

/-- The key a step writes is cut already. -/
theorem short_key (key : String) :
    ∀ k, some (truncate 128 key) = some k → truncate 128 k = k := by
  rintro k ⟨⟩
  exact truncate_truncate 128 key

theorem short_none : ∀ k, (none : Option String) = some k → truncate 128 k = k :=
  fun _ h => (nomatch h)

/-- One step keeps what holds on every path. -/
theorem step_basic {s s' : State} (h : Step t s s') (inv : Basic t s) : Basic t s' := by
  cases h with
  | note quiet =>
    exact ⟨inv.budget, inv.paid, inv.clear, inv.bare, inv.short,
      fun hc => (inv.current hc).cons t (quiet_not_post t quiet),
      quiet_writeAhead t quiet inv.writeAhead⟩
  | count n more =>
    refine ⟨fun hc => ?_, fun hf => ?_, inv.clear, inv.bare, inv.short,
      fun hc => inv.current hc, inv.writeAhead⟩
    · obtain ⟨lo, hi⟩ := inv.budget hc
      exact ⟨lo, Int.le_trans hi more⟩
    · exact Int.le_trans (inv.paid hf) more
  | build plan phase unplanned built =>
    exact ⟨inv.budget, inv.paid, inv.clear, inv.bare, inv.short,
      fun _ => current_of_no_task t (inv.clear phase).2, inv.writeAhead⟩
  | prepare key phase paid =>
    exact ⟨fun _ => inv.budget (by simp [phase]), fun _ => paid, (nomatch ·),
      fun _ => (inv.clear phase).2, fun _ => short_key key,
      fun _ => current_of_no_task t (inv.clear phase).2, inv.writeAhead⟩
  | submit p phase paid slot row key =>
    have context : postContext p = ⟨_, _⟩ :=
      congrArg₂ SummaryGatewayContext.mk (congrArg Card.stageId row) (congrArg Card.epoch row)
    exact ⟨fun _ => inv.budget (by simp [phase]), fun _ => paid, (nomatch ·),
      fun _ => (inv.clear phase).2, fun _ => short_key p.key,
      fun _ => current_of_no_task t (inv.clear phase).2,
      ⟨congrArg Card.phase row, congrArg Card.key row, context ▸ key⟩, inv.writeAhead⟩
  | accept p task phase key created slot =>
    refine ⟨fun _ => inv.budget (by simp [phase]), fun _ => inv.paid (.inl phase), (nomatch ·),
      (nomatch ·), fun _ => inv.short (by simp [phase]), fun _ k hk => ?_, inv.writeAhead⟩
    cases hk
    exact ⟨p, .head p _, created, key, slot⟩
  | @read c l g phase task row =>
    have live : c.phase ≠ .closed := by
      rcases phase with ⟨h, _⟩ | ⟨h, _⟩ <;> simp [h]
    obtain ⟨p, hl, hc, hk, _⟩ := inv.current live g.taskId task
    refine ⟨inv.budget, inv.paid, inv.clear, inv.bare, inv.short,
      fun hc => (inv.current hc).cons t (fun q => nofun), ⟨?_, ?_, p, hl.mem, hc, ?_⟩,
      inv.writeAhead⟩
    · exact (congrArg Card.task row).trans task
    · rw [show phaseOf g.durable = c.phase from congrArg Card.phase row]
      exact phase
    · exact (congrArg Card.key row).trans hk
  | @hold c l phase =>
    have live : c.phase ≠ .closed := by
      rcases phase with h | h <;> simp [h]
    have flying : c.phase.inFlight := by
      rcases phase with h | h <;> simp [h, Phase.inFlight]
    exact ⟨fun _ => inv.budget live, fun _ => inv.paid flying, (nomatch ·), (nomatch ·),
      fun _ => inv.short live, fun _ => inv.current live, inv.writeAhead⟩
  | holdCreated p task phase key created slot =>
    refine ⟨fun _ => inv.budget (by simp [phase]), fun _ => inv.paid (.inl phase), (nomatch ·),
      (nomatch ·), fun _ => inv.short (by simp [phase]), fun _ k hk => ?_, inv.writeAhead⟩
    cases hk
    exact ⟨p, .head p _, created, key, slot⟩
  | @retry c l g phase task failed =>
    have paid := inv.paid (.inr (.inl phase))
    have budget := inv.budget (by simp [phase])
    refine ⟨fun _ => ⟨?_, paid⟩, fun h => by simp [Phase.inFlight] at h, fun _ => ⟨rfl, rfl⟩,
      fun _ => rfl, fun _ => short_none, fun _ => current_of_no_task t rfl, inv.writeAhead⟩
    simp only at budget ⊢
    omega
  | @stepDone c l g plan phase task advances =>
    have paid : c.epoch + 1 ≤ c.attempts := by
      rcases phase with h | h <;> exact inv.paid (by simp [Phase.inFlight, h])
    have budget : 0 ≤ c.epoch ∧ c.epoch ≤ c.attempts := by
      rcases phase with h | h <;> exact inv.budget (by simp [h])
    refine ⟨fun _ => ⟨budget.1, ?_⟩, fun h => by simp [Phase.inFlight] at h, fun _ => ⟨rfl, rfl⟩,
      fun _ => rfl, fun _ => short_none, fun _ => current_of_no_task t rfl, inv.writeAhead⟩
    simp only
    omega
  | close c' phase plan =>
    exact ⟨(absurd phase ·), fun h => by simp [Phase.inFlight, phase] at h, fun h => by simp [phase] at h,
      fun h => by simp [phase] at h, (absurd phase ·), (absurd phase ·), inv.writeAhead⟩
  | allow phase task =>
    exact ⟨fun _ => inv.budget (by simp [phase]),
      fun _ => inv.paid (by simp [Phase.inFlight, phase]), (nomatch ·), (nomatch ·),
      fun _ => inv.short (by simp [phase]), fun _ => inv.current (by simp [phase]), inv.writeAhead⟩
  | drift plan lax =>
    refine ⟨inv.budget, inv.paid, inv.clear, inv.bare, inv.short, fun hc k hk => ?_, inv.writeAhead⟩
    obtain ⟨p, hl, hcr, hkey, _⟩ := inv.current hc k hk
    exact ⟨p, hl, hcr, hkey, .inl lax⟩

/-- The stage has not been worked on: nothing is submitted or promised. -/
structure Unstarted (c : Card) : Prop where
  phase : c.phase = .opened
  key : c.key = none
  task : c.task = none
  budget : 0 ≤ c.epoch ∧ c.epoch ≤ c.attempts

theorem Unstarted.basic {c : Card} (h : Unstarted c) : Basic t ⟨c, []⟩ where
  budget _ := h.budget
  paid hf := by simp [Phase.inFlight, h.phase] at hf
  clear _ := ⟨h.key, h.task⟩
  bare hp := by cases h.phase.symm.trans hp
  short _ k hk := by cases h.key.symm.trans hk
  current _ := current_of_no_task t h.task
  writeAhead := trivial

theorem path_basic {s s' : State} (h : Path t s s') (inv : Basic t s) : Basic t s' := by
  induction h with
  | refl => exact inv
  | tail _ step ih => exact step_basic t step ih

/-- Reachable from one of the states `m`. -/
def From (m : State → Prop) (s : State) : Prop := ∃ s₀, m s₀ ∧ Path t s₀ s

section

variable {t} {m : State → Prop} {s s' : State}

theorem From.start (h : m s) : From t m s := ⟨s, h, .refl⟩

theorem From.append (h : From t m s) (path : Path t s s') : From t m s' := by
  obtain ⟨s₀, start, before⟩ := h
  exact ⟨s₀, start, before.trans path⟩

theorem From.tail (h : From t m s) (step : Step t s s') : From t m s' := h.append (.single step)

/-- What holds of the only start holds of every start. -/
theorem starts {P : State → Prop} (h : P s) : ∀ s', s' = s → P s' := by
  rintro _ rfl
  exact h

theorem from_basic (h : From t m s) (inv : ∀ s, m s → Basic t s) : Basic t s := by
  obtain ⟨s₀, start, path⟩ := h
  exact path_basic t path (inv s₀ start)

end

/-- A plan and what it grew into: the steps that are done stay as they are. -/
structure Grown (p q : ChunkPlan) : Prop where
  further : p = q ∨ p.nextStep < q.nextStep
  kept : ∀ k : Nat, (k : Int) < p.nextStep → q.steps[k]? = p.steps[k]?

theorem Grown.refl (p : ChunkPlan) : Grown p p := ⟨.inl rfl, fun _ _ => rfl⟩

theorem Grown.next {p q : ChunkPlan} (h : Grown p q) : p.nextStep ≤ q.nextStep := by
  rcases h.further with rfl | more
  · exact Int.le_refl _
  · exact Int.le_of_lt more

theorem Grown.trans {p q r : ChunkPlan} (h : Grown p q) (h' : Grown q r) : Grown p r := by
  constructor
  · rcases h.further with rfl | more
    · exact h'.further
    · exact .inr (Int.lt_of_lt_of_le more h'.next)
  · intro k hk
    rw [h'.kept k (Int.lt_of_lt_of_le hk h.next), h.kept k hk]

theorem grown_completeStep (plan : ChunkPlan) (output : Text) :
    Grown plan (plan.completeStep plan.nextStep output) := by
  constructor
  · exact .inr (Int.lt_succ _)
  · intro k hk
    have other : plan.nextStep.toNat ≠ k := by omega
    simp [ChunkPlan.completeStep, other]

/-- What a card may become: what is closed stays closed, and a plan grows until
the stage is closed without it. -/
structure Follows (c c' : Card) : Prop where
  closed : c.phase = .closed → c'.phase = .closed ∧ (c.plan = none → c'.plan = none)
  plan : ∀ p, c.plan = some p →
    c'.phase = .closed ∧ c'.plan = none ∨ ∃ q, c'.plan = some q ∧ Grown p q

theorem Follows.same {c c' : Card} (closed : c.phase = .closed → c'.phase = .closed)
    (plan : c'.plan = c.plan) : Follows c c' := by
  constructor
  · exact fun h => ⟨closed h, plan.trans⟩
  · exact fun p hp => .inr ⟨p, plan.trans hp, .refl p⟩

theorem Follows.refl (c : Card) : Follows c c := .same id rfl

theorem Follows.trans {a b c : Card} (h : Follows a b) (h' : Follows b c) : Follows a c := by
  constructor
  · intro ha
    obtain ⟨hb, unplanned⟩ := h.closed ha
    exact ⟨(h'.closed hb).1, fun hn => (h'.closed hb).2 (unplanned hn)⟩
  · intro p hp
    rcases h.plan p hp with ⟨hb, hn⟩ | ⟨q, hq, grown⟩
    · exact .inl ⟨(h'.closed hb).1, (h'.closed hb).2 hn⟩
    · rcases h'.plan q hq with gone | ⟨r, hr, grown'⟩
      · exact .inl gone
      · exact .inr ⟨r, hr, grown.trans grown'⟩

/-- With plans written as assigned, each step is forward. -/
theorem step_follows {s s' : State} (strict : ¬ t.lax) (h : Step t s s') :
    Follows s.card s'.card := by
  cases h with
  | note quiet => exact .refl _
  | count n more => exact .same id rfl
  | build plan phase unplanned built =>
    constructor
    · exact fun hc => by cases phase.symm.trans hc
    · exact fun p hp => by cases unplanned.symm.trans hp
  | prepare key phase paid => exact .same (fun hc => by cases phase.symm.trans hc) rfl
  | submit p phase paid slot row key => exact .same (fun hc => by cases phase.symm.trans hc) rfl
  | accept p task phase key created slot =>
    exact .same (fun hc => by cases phase.symm.trans hc) rfl
  | read g phase task row => exact .refl _
  | hold phase =>
    refine .same (fun hc => ?_) rfl
    rcases phase with h | h <;> cases h.symm.trans hc
  | holdCreated p task phase key created slot =>
    exact .same (fun hc => by cases phase.symm.trans hc) rfl
  | retry g phase task failed => exact .same (fun hc => by cases phase.symm.trans hc) rfl
  | stepDone g plan phase task advances =>
    constructor
    · intro hc
      rcases phase with h | h <;> cases h.symm.trans hc
    · intro p hp
      obtain ⟨pl, output, hpl, _, _, _, _, _, rfl⟩ := advances.resolve_left strict
      obtain rfl : pl = p := Option.some.inj (hpl.symm.trans hp)
      exact .inr ⟨_, rfl, grown_completeStep pl output⟩
  | close c' phase plan =>
    constructor
    · refine fun _ => ⟨phase, fun hn => ?_⟩
      rcases plan with h | h
      · exact h
      · exact h.trans hn
    · intro p hp
      rcases plan with h | h
      · exact .inl ⟨phase, h⟩
      · exact .inr ⟨p, h.trans hp, .refl p⟩
  | allow phase task => exact .same (fun hc => by cases phase.symm.trans hc) rfl
  | drift plan lax => exact absurd lax strict

theorem path_follows {s s' : State} (strict : ¬ t.lax) (h : Path t s s') :
    Follows s.card s'.card := by
  induction h with
  | refl => exact .refl _
  | tail _ step ih => exact ih.trans (step_follows t strict step)

end YTPipe.Ledger
