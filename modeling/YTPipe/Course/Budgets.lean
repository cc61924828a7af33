import YTPipe.Course.Reconciliation
import YTPipe.LedgerProgress
import YTPipe.Refinement.SummaryStage

/-!
# What a summary costs

An attempt is counted before its request goes out, and the step of a plan that is
done gives its attempt back. So the requests for a summary never run ahead of the
steps done and the attempts counted, and these never pass their maximum.
-/

namespace YTPipe

open Broker Proc Ledger

/-- The row a request of the inference is made for. -/
def Event.requester : Event → Option PipelineStage
  | .post p => some p.durable
  | .summarize _ r => some r
  | _ => none

def requests (l : List Event) : Nat := l.countP (·.requester.isSome)

/-- The requests made for the row without a plan. -/
def bareRequests (l : List Event) : Nat :=
  l.countP fun e => e.requester.any (·.brokerChunkPlan.isNone)

/-- A request was made for the row with the plan `p`. -/
def PlannedRequest (p : ChunkPlan) (l : List Event) : Prop :=
  ∃ e ∈ l, ∃ r, e.requester = some r ∧ r.brokerChunkPlan = some p

/-- How far the row's plan is done. -/
def progress (r : PipelineStage) : Int := r.brokerChunkPlan.elim 0 (·.nextStep)

/-- The requests in `l` are paid for by the steps done and the attempts counted, and
`slack` is left. -/
structure Paid (slack : Int) (r : PipelineStage) (l : List Event) : Prop where
  covered : (requests l : Int) + slack ≤ progress r + r.attemptCount
  bounded : r.attemptCount ≤ r.maxAttempts
  room : 1 ≤ r.maxAttempts
  bare : (bareRequests l : Int) ≤ r.maxAttempts
  own : ∀ p, PlannedRequest p l →
    ∃ q, r.brokerChunkPlan = some q ∧ q.steps.length = p.steps.length
  shape : ∀ p, r.brokerChunkPlan = some p → Shape p

/-- The requests are within the budget of the row. -/
structure Limited (r : PipelineStage) (l : List Event) : Prop where
  bare : (bareRequests l : Int) ≤ r.maxAttempts
  planned : ∀ p, PlannedRequest p l → (requests l : Int) ≤ p.steps.length + r.maxAttempts

def Status.isResolved (s : Status) : Prop := s = .completed ∨ s = .failed

/-- The row is completed or failed, and not in quarantine. -/
def Over (r : PipelineStage) : Prop := r.status.isResolved ∧ r.quarantinedAt = none

/-- The account of a row that is at rest: one that is neither over nor in quarantine has
an attempt left. -/
structure Account (r : PipelineStage) (l : List Event) : Prop extends Limited r l where
  paid : r.status.isOpen ∨ r.quarantinedAt.isSome = true → Paid 0 r l
  left : r.quarantinedAt = none → ¬ Over r → r.attemptCount < r.maxAttempts

/-- The columns an account looks at. -/
structure SameAccount (r r' : PipelineStage) : Prop where
  attemptCount : r'.attemptCount = r.attemptCount
  maxAttempts : r'.maxAttempts = r.maxAttempts
  plan : r'.brokerChunkPlan = r.brokerChunkPlan

section accounts

variable {slack : Int} {r r' : PipelineStage} {l : List Event} {e : Event} {plan : ChunkPlan}

theorem bareRequests_le (l : List Event) : bareRequests l ≤ requests l := by
  apply List.countP_mono_left
  intro e _ bare
  cases hr : e.requester with
  | none =>
    rw [hr] at bare
    cases bare
  | some r => rfl

theorem Paid.same (h : Paid slack r l) (same : SameAccount r r') : Paid slack r' l where
  covered := by
    unfold progress
    rw [same.plan, same.attemptCount]
    exact h.covered
  bounded := by
    rw [same.attemptCount, same.maxAttempts]
    exact h.bounded
  room := same.maxAttempts ▸ h.room
  bare := same.maxAttempts ▸ h.bare
  own := same.plan ▸ h.own
  shape := same.plan ▸ h.shape

theorem Paid.weaken (h : Paid slack r l) (left : 0 ≤ slack) : Paid 0 r l := by
  have covered := h.covered
  exact { h with covered := by omega }

/-- An event that asks nothing costs nothing. -/
theorem Paid.note (h : Paid slack r l) (silent : e.requester = none) : Paid slack r (e :: l) where
  covered := by
    have same : requests (e :: l) = requests l := by simp [requests, silent]
    rw [same]
    exact h.covered
  bounded := h.bounded
  room := h.room
  bare := by
    have same : bareRequests (e :: l) = bareRequests l := by
      simp [bareRequests, silent]
    rw [same]
    exact h.bare
  own := by
    rintro p ⟨e', he', r', asks, planned⟩
    rcases List.mem_cons.mp he' with rfl | he'
    · rw [silent] at asks
      cases asks
    · exact h.own p ⟨e', he', r', asks, planned⟩
  shape := h.shape

/-- A request is paid for by the attempt that was counted for it. -/
theorem Paid.request (h : Paid 1 r l) (asks : e.requester = some r) : Paid 0 r (e :: l) where
  covered := by
    have more : requests (e :: l) = requests l + 1 := by simp [requests, asks]
    have covered := h.covered
    rw [more]
    omega
  bounded := h.bounded
  room := h.room
  bare := by
    cases hp : r.brokerChunkPlan with
    | some p =>
      have same : bareRequests (e :: l) = bareRequests l := by
        simp [bareRequests, asks, hp]
      rw [same]
      exact h.bare
    | none =>
      have more : bareRequests (e :: l) = bareRequests l + 1 := by
        simp [bareRequests, asks, hp]
      have covered := h.covered
      have start : progress r = 0 := by rw [progress, hp, Option.elim_none]
      have fewer := bareRequests_le l
      have bounded := h.bounded
      rw [more]
      omega
  own := by
    rintro p ⟨e', he', r', asks', planned⟩
    rcases List.mem_cons.mp he' with rfl | he'
    · obtain rfl : r = r' := Option.some.inj (asks.symm.trans asks')
      exact ⟨p, planned, rfl⟩
    · exact h.own p ⟨e', he', r', asks', planned⟩
  shape := h.shape

theorem Paid.limited (h : Paid slack r l) (left : 0 ≤ slack) : Limited r l where
  bare := h.bare
  planned := by
    intro p asked
    obtain ⟨q, stored, length⟩ := h.own p asked
    have next := (h.shape q stored).next.2
    have covered := h.covered
    have bounded := h.bounded
    rw [progress, stored, Option.elim_some] at covered
    omega

theorem Status.isResolved.not_open {s : Status} (h : s.isResolved) : ¬ s.isOpen := by
  rcases h with rfl | rfl
  · exact completed_not_open
  · exact failed_not_open

/-- The account of a row that is over. -/
theorem Limited.ended (h : Limited r l) (budget : r'.maxAttempts = r.maxAttempts) (done : Over r') :
    Account r' l where
  bare := budget ▸ h.bare
  planned := budget ▸ h.planned
  paid going := by
    rcases going with isOpen | held
    · exact absurd isOpen done.1.not_open
    · rw [done.2] at held
      cases held
  left _ other := absurd done other

/-- The account of a row that waits in quarantine or has an attempt left. -/
theorem Paid.account (h : Paid 0 r l)
    (left : r.quarantinedAt = none → r.attemptCount < r.maxAttempts) : Account r l :=
  ⟨h.limited (le_refl 0), fun _ => h, fun quiet _ => left quiet⟩

theorem Paid.held (h : Paid 0 r l) (same : SameAccount r r')
    (held : r'.quarantinedAt.isSome = true) : Account r' l :=
  (h.same same).account fun quiet => by
    rw [quiet] at held
    cases held

theorem Account.same (h : Account r l) (same : SameAccount r r') (status : r'.status = r.status)
    (held : r'.quarantinedAt = r.quarantinedAt) : Account r' l where
  bare := same.maxAttempts ▸ h.bare
  planned := same.maxAttempts ▸ h.planned
  paid going := by
    rw [status, held] at going
    exact (h.paid going).same same
  left quiet unfinished := by
    rw [same.attemptCount, same.maxAttempts]
    unfold Over at unfinished
    rw [status, held] at unfinished
    exact h.left (held.symm.trans quiet) unfinished

/-- A partial step that is done gives its attempt back. -/
theorem Paid.step (h : Paid 0 r l) (stored : r.brokerChunkPlan = some plan) {step : PlanStep}
    (next : plan.steps[plan.nextStep.toNat]? = some step) (partly : operationKind step ≠ finalKind) :
    plan.nextStep + 1 < plan.steps.length ∧ ∀ output r',
      r'.brokerChunkPlan = some (plan.completeStep plan.nextStep output) →
      r'.attemptCount = max 0 (r.attemptCount - 1) → r'.maxAttempts = r.maxAttempts →
      Paid 0 r' l ∧ r'.attemptCount < r'.maxAttempts := by
  have shape := h.shape plan stored
  have inside := shape.next
  have more : plan.nextStep + 1 < plan.steps.length := by
    by_contra last
    exact partly (shape.final _ _ next (by omega)).1
  refine ⟨more, fun output r' stored' count budget => ?_⟩
  obtain ⟨further, length⟩ := completeStep_next plan output
  have covered := h.covered
  have bounded := h.bounded
  have room := h.room
  rw [progress, stored, Option.elim_some] at covered
  refine ⟨⟨?_, ?_, ?_, ?_, ?_, ?_⟩, ?_⟩
  · rw [progress, stored', Option.elim_some, further, count]
    omega
  · omega
  · omega
  · exact budget ▸ h.bare
  · intro p asked
    obtain ⟨q, stored₀, same⟩ := h.own p asked
    obtain rfl : plan = q := Option.some.inj (stored.symm.trans stored₀)
    exact ⟨_, stored', length.trans same⟩
  · intro p hp
    obtain rfl := Option.some.inj (stored'.symm.trans hp)
    exact completeStep_shape shape output more
  · omega

/-- A row that was not attempted yet; a plan it holds has a step to do. -/
structure Unworked (r : PipelineStage) : Prop where
  unspent : r.attemptCount = 0
  room : 1 ≤ r.maxAttempts
  shape : ∀ p, r.brokerChunkPlan = some p → Shape p

/-- A row that was not attempted yet is worth its attempts. -/
theorem Unworked.paid (h : Unworked r) : Paid 0 r [] where
  covered := by
    have ahead : 0 ≤ progress r := by
      unfold progress
      cases stored : r.brokerChunkPlan with
      | none => exact le_refl 0
      | some p => exact (h.shape p stored).next.1
    rw [h.unspent]
    change ((0 : Nat) : Int) + 0 ≤ _
    omega
  bounded := by
    rw [h.unspent]
    exact Int.le_of_lt h.room
  room := h.room
  bare := Int.le_of_lt h.room
  own p asked := by
    obtain ⟨e, he, _⟩ := asked
    cases he
  shape := h.shape

theorem Unworked.account (h : Unworked r) : Account r [] :=
  h.paid.account fun _ => by
    have room := h.room
    rw [h.unspent]
    omega

theorem unworked_new (id videoId userId : Int) (n : StageName) :
    Unworked (PipelineStage.new id videoId userId n) where
  unspent := rfl
  room := (by decide : (1 : Int) ≤ 3)
  shape _ planned := by cases planned

end accounts

section courses

variable {platform : Platform} {r : PipelineStage} {l : List Event}

/-- A plan the planner gives starts with its first step. -/
theorem buildPlan_shape {text : Text} {config : BrokerChunkConfig} {plan : ChunkPlan}
    (h : buildPlan platform text config = .ok (some plan)) : Shape plan ∧ plan.nextStep = 0 := by
  simp only [buildPlan, bind_eq_ok] at h
  obtain ⟨_, _, tokens, _, h⟩ := h
  split at h
  · cases h
  simp only [bind_eq_ok] at h
  obtain ⟨_, _, ranges, _, _, _, h⟩ := h
  cases h
  have count := planSteps_length 0 ranges
  refine ⟨⟨⟨le_refl 0, ?_⟩, fun i s hs hi => ?_, fun i s hs hi => ?_⟩, rfl⟩
  · simp only [count]
    omega
  · have piece := (planSteps_getElem ranges 0 i hs).1 (by simp only [count] at hi; omega)
    simpa using piece
  · exact (planSteps_getElem ranges 0 i hs).2 (by simp only [count] at hi; omega)

/-- The direct route retries only with an attempt left. -/
theorem classify_direct {code : String} {attempts maxAttempts : Int} {now : Time} :
    (classifySummaryFailure .direct code attempts maxAttempts now none).disposition = .terminal
      ∨ attempts < max 1 maxAttempts := by
  by_cases spent : attempts ≥ max 1 maxAttempts
  · left
    simp [classifySummaryFailure, spent]
  · exact .inr (Int.not_le.mp spent)

theorem applyOutcomeRow_account (outcome : SummaryFailureOutcome) (attemptedAt : Time)
    (taskId : Option String) (confirmed : Bool) (r : PipelineStage) :
    SameAccount r (applyOutcomeRow outcome attemptedAt taskId confirmed r) := by
  unfold applyOutcomeRow
  refine ⟨?_, ?_, ?_⟩
  all_goals
    cases outcome.disposition <;> simp only <;> split <;> split <;> rfl

/-- What an outcome leaves is closed, in quarantine, or has an attempt left. -/
theorem settled_account {slack : Int} (left : 0 ≤ slack) (o : List Event) :
    Settles (fun r l => Paid slack r (l ++ o)) fun r l => Account r (l ++ o) := by
  intro outcome attemptedAt taskId confirmed r l live h retries
  have same := applyOutcomeRow_account outcome attemptedAt taskId confirmed r
  cases disposition : outcome.disposition with
  | terminal =>
    have failed := settledRow_failed attemptedAt taskId confirmed disposition live.1
    refine (h.limited left).ended ?_ ⟨.inr failed.1, failed.2⟩
    simp only [settledRow, if_pos disposition]
    exact same.maxAttempts
  | quarantine =>
    have kept : settledRow outcome attemptedAt taskId confirmed r
        = applyOutcomeRow outcome attemptedAt taskId confirmed r := by
      simp [settledRow, disposition]
    rw [kept]
    apply (h.weaken left).held same
    simp [applyOutcomeRow, disposition]
  | retry =>
    have kept : settledRow outcome attemptedAt taskId confirmed r
        = applyOutcomeRow outcome attemptedAt taskId confirmed r := by
      simp [settledRow, disposition]
    rw [kept]
    refine ((h.weaken left).same same).account fun _ => ?_
    have few := retries disposition
    have room := h.room
    rw [same.attemptCount, same.maxAttempts]
    omega

variable {trusted : List Event → Prop}

/-- An attempt keeps the account, as long as flushes are trusted. -/
theorem account_course (earlier : ∀ e l, trusted (e :: l) → trusted l) (o : List Event) :
    Course platform trusted
      (fun r l => trusted l → Paid 0 r (l ++ o) ∧ r.attemptCount < r.maxAttempts)
      (fun r l => trusted l → Paid 1 r (l ++ o)) (fun r l => trusted l → Paid 0 r (l ++ o))
      (fun r l => trusted l → Account r (l ++ o)) fun _ _ => True := by
  have sturdy {P : RowState} : Sturdy trusted fun r l => trusted l → P r l := by
    intro d r l h
    by_cases trust : trusted l
    · exact .inl trust
    · exact .inr fun other => absurd other trust
  exact {
    earlier := earlier
    resting := ⟨fun _ _ _ _ => trivial, sturdy⟩
    beginning := ⟨fun _ _ _ _ => trivial, sturdy⟩
    posting := ⟨fun _ _ _ _ => trivial, sturdy⟩
    past_ever := fun _ _ _ => trivial
    raised := fun _ _ _ h => h
    past_sturdy := sturdy
    start := by
      intro attemptedAt r l _ h trust
      obtain ⟨h, left⟩ := h trust
      have covered := h.covered
      refine { h with covered := ?_, bounded := ?_ }
      · change _ ≤ progress r + (r.attemptCount + 1)
        omega
      · change r.attemptCount + 1 ≤ r.maxAttempts
        omega
    prepare := fun _ _ _ h trust => (h trust).same ⟨rfl, rfl, rfl⟩
    accept := fun _ _ _ _ h trust => (h trust).same ⟨rfl, rfl, rfl⟩
    correlate_begun := fun _ _ _ _ h trust => (h trust).same ⟨rfl, rfl, rfl⟩
    correlate_posted := fun _ _ _ _ h trust => (h trust).same ⟨rfl, rfl, rfl⟩
    post := fun _ _ _ _ h trust => (h (earlier _ _ trust)).request rfl
    sleep := fun _ _ _ h trust => (h (earlier _ _ trust)).note rfl
    get := fun _ _ _ _ _ _ _ h trust => (h (earlier _ _ trust)).note rfl
    settle_begun := fun _ _ _ _ _ _ live h retries trust =>
      settled_account (by decide) o _ _ _ _ _ _ live (h trust) retries
    settle_posted := fun _ _ _ _ _ _ live h retries trust =>
      settled_account (by decide) o _ _ _ _ _ _ live (h trust) retries
    finish := fun r l h trust =>
      ((h trust).limited (le_refl 0)).ended rfl ⟨.inl rfl, rfl⟩
    finishPlan := fun plan output r l h _ trust =>
      ((h trust).limited (le_refl 0)).ended rfl ⟨.inl rfl, rfl⟩
    piece := by
      intro plan step output r l h planned next partly trust
      obtain ⟨more, done⟩ := (h trust).step (planned trust) next partly
      refine done output _ ?_ rfl rfl
      change (savedRow plan output r).brokerChunkPlan = _
      rw [savedRow, if_neg (Int.not_le.mpr more)]
      rfl
    refuse := fun attemptedAt code r l live h trust =>
      ((h trust).1.limited (le_refl 0)).ended rfl
        ⟨.inr (localFailureRow_failed attemptedAt code r), live.1⟩
    stop := fun _ _ _ h trust => (h trust).1.account fun _ => (h trust).2
    build := by
      intro plan transcript config r l h unplanned built trust
      obtain ⟨h, left⟩ := h trust
      obtain ⟨shape, first⟩ := buildPlan_shape built
      have covered := h.covered
      rw [progress, unplanned, Option.elim_none] at covered
      refine ⟨⟨?_, h.bounded, h.room, h.bare, fun p asked => ?_, fun p hp => ?_⟩, left⟩
      · change _ ≤ plan.nextStep + r.attemptCount
        omega
      · obtain ⟨q, stored, _⟩ := h.own p asked
        rw [unplanned] at stored
        cases stored
      · obtain rfl : plan = p := Option.some.inj hp
        exact shape
    present := fun r l live h trust =>
      ((h trust).1.limited (le_refl 0)).ended rfl ⟨.inl rfl, live.1⟩
    fail := fun _ _ _ r l live h trust =>
      ((h trust).1.limited (le_refl 0)).ended rfl ⟨.inr rfl, live.1⟩
    call := fun _ _ _ _ h trust => (h (earlier _ _ trust)).request rfl
    directFail := by
      intro code now r l live h trust
      have h := h trust
      rcases @classify_direct code r.attemptCount r.maxAttempts now with ended | few
      · refine (h.limited (le_refl 0)).ended rfl ⟨.inr ?_, live.1⟩
        rw [directFailureRow, if_pos ended]
      · have same : SameAccount r (directFailureRow (classifySummaryFailure .direct code
            r.attemptCount r.maxAttempts now none) r) := ⟨rfl, rfl, rfl⟩
        refine (h.same same).account fun _ => ?_
        have room := h.room
        change r.attemptCount < r.maxAttempts
        omega
    directDone := fun r l h trust =>
      ((h trust).limited (le_refl 0)).ended rfl ⟨.inl rfl, rfl⟩
    directEmpty := by
      intro r l live h trust
      have h := h trust
      by_cases spent : r.attemptCount ≥ r.maxAttempts
      · refine (h.limited (le_refl 0)).ended rfl ⟨.inr ?_, live.1⟩
        rw [directEmptyRow, if_pos spent]
      · have same : SameAccount r (directEmptyRow r) := ⟨rfl, rfl, rfl⟩
        exact (h.same same).account fun _ => Int.not_le.mp spent }

/-- A reconciliation keeps the account of a row in quarantine, as long as flushes are trusted. -/
theorem account_reconciliation (earlier : ∀ g l, trusted (.get g :: l) → trusted l)
    (distrust : ∀ (g : Get) l, g.CompletesPartial → trusted (.get g :: l) →
      platform.flushRule = .assigned) (o : List Event) :
    ReconcileCourse platform trusted
      (fun r l => trusted l → Paid 0 r (l ++ o) ∧ r.quarantinedAt.isSome = true)
      (fun r l => trusted l → Account r (l ++ o)) fun _ _ => True where
  earlier := earlier
  distrust := distrust
  past_ever _ _ _ := trivial
  past_sturdy := by
    intro d r l h
    by_cases trust : trusted l
    · exact .inl trust
    · exact .inr fun other => absurd other trust
  stays _ _ h trust := (h trust).1.held ⟨rfl, rfl, rfl⟩ (h trust).2
  get g l _ _ _ _ h trust := ⟨(h (earlier _ _ trust)).1.note rfl, (h (earlier _ _ trust)).2⟩
  invalid _ _ h trust := ((h trust).1.limited (le_refl 0)).ended rfl ⟨.inr rfl, rfl⟩
  still _ _ _ _ h trust := (h trust).1.held ⟨rfl, rfl, rfl⟩ (h trust).2
  fails _ _ _ h trust := ((h trust).1.limited (le_refl 0)).ended rfl ⟨.inr rfl, rfl⟩
  postpone _ _ _ h trust := (h trust).1.held ⟨rfl, rfl, rfl⟩ (h trust).2
  part := by
    intro g plan step output r l h stored next partly trust
    obtain ⟨_, done⟩ := (h trust).1.step stored next partly
    obtain ⟨paid, left⟩ := done output (reconciledPartialRow
      (planColumn.set (some (plan.completeStep plan.nextStep output)) r)) rfl rfl rfl
    exact paid.account fun _ => left
  final _ _ _ _ h _ trust := ((h trust).1.limited (le_refl 0)).ended rfl ⟨.inl rfl, rfl⟩

/-- A row just read is the unit of work's own. -/
theorem owned_load (r : PipelineStage) : Owned platform 0 (Instance.load planColumn r) :=
  ⟨.inr rfl, Nat.zero_lt_one, Nat.zero_lt_one⟩

end courses

/-! On the direct route every call is an attempt of its own, and none is given back. -/

/-- What is asked of the broker. -/
def Event.asksBroker : Event → Bool
  | .post _ => true
  | .get _ => true
  | _ => false

/-- The stage was on the direct route only. -/
def Direct (l : List Event) : Prop := ∀ e ∈ l, e.asksBroker = false

/-- The calls of the direct route in `l` were counted, and `slack` is left. -/
structure Tally (slack : Int) (r : PipelineStage) (l : List Event) : Prop where
  counted : (requests l : Int) + slack ≤ r.attemptCount
  bounded : r.attemptCount ≤ r.maxAttempts
  room : 1 ≤ r.maxAttempts

/-- The tally of a row at rest: one that is neither over nor in quarantine has an attempt
left. -/
structure Settlement (r : PipelineStage) (l : List Event) : Prop extends Tally 0 r l where
  left : r.quarantinedAt = none → ¬ Over r → r.attemptCount < r.maxAttempts

section tallies

variable {slack : Int} {r r' : PipelineStage} {l : List Event} {e : Event}

theorem direct_tail (h : Direct (e :: l)) : Direct l :=
  fun e' he' => h e' (List.mem_cons_of_mem e he')

theorem not_direct (asks : e.asksBroker = true) : ¬ Direct (e :: l) := by
  intro direct
  rw [direct e List.mem_cons_self] at asks
  cases asks

theorem Tally.row (h : Tally slack r l) (left : 0 ≤ slack)
    (count : r'.attemptCount = r.attemptCount) (budget : r'.maxAttempts = r.maxAttempts) :
    Tally 0 r' l := by
  have counted := h.counted
  have bounded := h.bounded
  have room := h.room
  exact ⟨by omega, by omega, by omega⟩

theorem Tally.ended (h : Tally slack r l) (left : 0 ≤ slack)
    (count : r'.attemptCount = r.attemptCount) (budget : r'.maxAttempts = r.maxAttempts)
    (done : Over r') : Settlement r' l :=
  ⟨h.row left count budget, fun _ other => absurd done other⟩

theorem Settlement.same (h : Settlement r l) (count : r'.attemptCount = r.attemptCount)
    (budget : r'.maxAttempts = r.maxAttempts) (status : r'.status = r.status)
    (held : r'.quarantinedAt = r.quarantinedAt) : Settlement r' l := by
  refine ⟨h.toTally.row (le_refl 0) count budget, fun quiet other => ?_⟩
  unfold Over at other
  rw [status, held] at other
  rw [count, budget]
  exact h.left (held.symm.trans quiet) other

theorem Unworked.settlement (h : Unworked r) : Settlement r [] := by
  have room := h.room
  refine ⟨⟨?_, ?_, room⟩, fun _ _ => ?_⟩
  all_goals rw [h.unspent]
  · exact le_refl 0
  all_goals omega

/-- An attempt that was begun is settled. -/
theorem settled_tally (o : List Event) :
    Settles (fun r l => Direct (l ++ o) → Tally 1 r (l ++ o))
      fun r l => Direct (l ++ o) → Settlement r (l ++ o) := by
  intro outcome attemptedAt taskId confirmed r l live h retries direct
  have h := h direct
  obtain ⟨count, budget, _⟩ := applyOutcomeRow_account outcome attemptedAt taskId confirmed r
  have kept : (settledRow outcome attemptedAt taskId confirmed r).attemptCount = r.attemptCount
      ∧ (settledRow outcome attemptedAt taskId confirmed r).maxAttempts = r.maxAttempts := by
    unfold settledRow
    split
    · exact ⟨count, budget⟩
    · exact ⟨count, budget⟩
  obtain ⟨count, budget⟩ := kept
  refine ⟨h.row (by decide) count budget, fun quiet other => ?_⟩
  cases disposition : outcome.disposition with
  | terminal =>
    have failed := settledRow_failed attemptedAt taskId confirmed disposition live.1
    exact absurd ⟨.inr failed.1, failed.2⟩ other
  | quarantine => simp [settledRow, disposition, applyOutcomeRow] at quiet
  | retry =>
    have few := retries disposition
    have room := h.room
    omega

/-- An attempt of the direct route is tallied. -/
theorem tally_direct (o : List Event) : DirectCourse (fun _ => False)
    (fun r l => Direct (l ++ o) → Tally 0 r (l ++ o) ∧ r.attemptCount < r.maxAttempts)
    (fun r l => Direct (l ++ o) → Tally 1 r (l ++ o))
    (fun r l => Direct (l ++ o) → Tally 0 r (l ++ o))
    (fun r l => Direct (l ++ o) → Settlement r (l ++ o)) fun _ _ => True where
  earlier _ _ h := h
  calling := ⟨fun _ _ _ _ => trivial, sturdy_free fun _ _ _ h direct =>
    (h direct).row (le_refl 0) rfl rfl⟩
  past_ever _ _ _ := trivial
  past_sturdy := sturdy_free fun _ _ _ h direct => (h direct).same rfl rfl rfl rfl
  start attemptedAt r l _ h direct := by
    obtain ⟨h, left⟩ := h direct
    have counted := h.counted
    refine ⟨?_, ?_, h.room⟩
    · change _ ≤ r.attemptCount + 1
      omega
    · change r.attemptCount + 1 ≤ r.maxAttempts
      omega
  call d r l _ h direct := by
    have h := h (direct_tail direct)
    have more : requests (.summarize d r :: (l ++ o)) = requests (l ++ o) + 1 := by
      simp [requests, Event.requester]
    have counted := h.counted
    refine ⟨?_, h.bounded, h.room⟩
    rw [List.cons_append, more]
    omega
  fail code now r l live h direct := by
    have h := h direct
    rcases @classify_direct code r.attemptCount r.maxAttempts now with ended | few
    · refine h.ended (le_refl 0) rfl rfl ⟨.inr ?_, live.1⟩
      rw [directFailureRow, if_pos ended]
    · refine ⟨h.row (le_refl 0) rfl rfl, fun _ _ => ?_⟩
      have room := h.room
      change r.attemptCount < r.maxAttempts
      omega
  done r l h direct := (h direct).ended (le_refl 0) rfl rfl ⟨.inl rfl, rfl⟩
  empty r l live h direct := by
    by_cases spent : r.attemptCount ≥ r.maxAttempts
    · refine (h direct).ended (le_refl 0) rfl rfl ⟨.inr ?_, live.1⟩
      rw [directEmptyRow, if_pos spent]
    · exact ⟨(h direct).row (le_refl 0) rfl rfl, fun _ _ => Int.not_le.mp spent⟩

/-- An attempt of the broker's route ends the tally with its POST. -/
theorem tally_course (platform : Platform) (o : List Event) : BrokerCourse platform (fun _ => False)
    (fun r l => Direct (l ++ o) → Tally 0 r (l ++ o) ∧ r.attemptCount < r.maxAttempts)
    (fun r l => Direct (l ++ o) → Tally 1 r (l ++ o)) (fun _ l => ¬ Direct (l ++ o))
    (fun r l => Direct (l ++ o) → Settlement r (l ++ o)) fun _ _ => True where
  earlier _ _ h := h
  resting := ⟨fun _ _ _ _ => trivial, sturdy_free fun _ _ _ h direct =>
    ⟨(h direct).1.row (le_refl 0) rfl rfl, (h direct).2⟩⟩
  beginning := ⟨fun _ _ _ _ => trivial, sturdy_free fun _ _ _ h direct =>
    ⟨(h direct).counted, (h direct).bounded, (h direct).room⟩⟩
  posting := ⟨fun _ _ _ _ => trivial, sturdy_free fun _ _ _ h => h⟩
  past_ever _ _ _ := trivial
  raised _ _ _ h := h
  past_sturdy := (tally_direct o).past_sturdy
  start := (tally_direct o).start
  prepare _ _ _ h direct := ⟨(h direct).counted, (h direct).bounded, (h direct).room⟩
  accept _ _ _ _ h := h
  correlate_begun _ _ _ _ h direct := ⟨(h direct).counted, (h direct).bounded, (h direct).room⟩
  correlate_posted _ _ _ _ h := h
  post _ _ _ _ _ := not_direct rfl
  sleep _ _ _ h direct := h (direct_tail direct)
  get _ _ _ _ _ _ _ _ := not_direct rfl
  settle_begun := settled_tally o
  settle_posted _ _ _ _ _ _ _ h _ direct := absurd direct h
  finish _ _ h direct := absurd direct h
  finishPlan _ _ _ _ h _ direct := absurd direct h
  piece _ _ _ _ _ h _ _ _ direct := absurd direct h
  refuse attemptedAt code r l live h direct := by
    obtain ⟨h, left⟩ := h direct
    have counted := h.counted
    refine ⟨⟨?_, ?_, h.room⟩,
      fun _ other => absurd ⟨.inr (localFailureRow_failed attemptedAt code r), live.1⟩ other⟩
    · change _ ≤ r.attemptCount + 1
      omega
    · change r.attemptCount + 1 ≤ r.maxAttempts
      omega
  stop _ _ _ h direct := ⟨(h direct).1, fun _ _ => (h direct).2⟩
  build _ _ _ _ _ h _ _ direct := ⟨(h direct).1.row (le_refl 0) rfl rfl, (h direct).2⟩
  present _ _ live h direct := (h direct).1.ended (le_refl 0) rfl rfl ⟨.inl rfl, live.1⟩
  fail _ _ _ _ _ live h direct := (h direct).1.ended (le_refl 0) rfl rfl ⟨.inr rfl, live.1⟩

/-- An attempt is tallied, as long as the tally goes on. -/
theorem wp_tally_attempt {platform : Platform} {w : StageWorld} {config : PipelineConfig}
    (o : List Event) (own : Prop) (unspent : w.trace = [])
    (start : Reached (Sometime fun _ _ => True) w.state w.state)
    (resting : Live w.state.stage.current → own → Direct o →
      Tally 0 w.state.stage.current o
        ∧ w.state.stage.current.attemptCount < w.state.stage.current.maxAttempts) :
    wp (attemptSummaryStage platform config)
      (fun _ v => v.state = w.state ∧ v.trace = w.trace
        ∨ (own → Direct (v.trace ++ o) → Settlement v.state.stage.current (v.trace ++ o)))
      (fun _ => True) w := by
  by_cases counts : own
  · refine wp_mono ((tally_course platform o).wp_attemptSummaryStage
      (fun v attemptedAt _ _ h => ?_) ?_ False.elim start (fun _ _ _ => trivial)
      fun _ _ _ => trivial) (fun _ v out => ?_) fun _ hv => hv
    · exact (tally_direct o).wp_attemptDirectSummary h (fun _ _ => trivial) fun _ ended => ended
    · rw [unspent]
      exact fun live => resting live counts
    · refine out.imp_right ?_
      rintro ⟨_, ended⟩ _
      exact ended.row
  · exact wp_anywhere (fun _ _ => .inr fun other => absurd other counts) fun _ => trivial

/-- A reconciliation ends the tally with its GET. -/
theorem tally_reconciliation (platform : Platform) (o : List Event) :
    ReconcileCourse platform (fun _ => False)
      (fun r l => Direct (l ++ o) → Settlement r (l ++ o) ∧ r.quarantinedAt.isSome = true)
      (fun r l => Direct (l ++ o) → Settlement r (l ++ o)) fun _ _ => True where
  earlier _ _ h := h
  distrust _ _ _ h := h.elim
  past_ever _ _ _ := trivial
  past_sturdy := (tally_direct o).past_sturdy
  stays _ _ h direct := (h direct).1
  get _ _ _ _ _ _ _ direct := absurd direct (not_direct rfl)
  invalid _ _ h direct := (h direct).1.ended (le_refl 0) rfl rfl ⟨.inr rfl, rfl⟩
  still _ _ _ _ h direct := (h direct).1.same rfl rfl rfl rfl
  fails _ _ _ h direct := (h direct).1.ended (le_refl 0) rfl rfl ⟨.inr rfl, rfl⟩
  postpone _ _ _ h direct := (h direct).1.same rfl rfl rfl rfl
  part _ _ _ _ _ _ _ _ _ _ direct := absurd direct (not_direct rfl)
  final _ _ _ _ _ _ direct := absurd direct (not_direct rfl)

theorem wp_tally_reconcile {platform : Platform} {w : StageWorld} {broker : BrokerService}
    (o : List Event) (own : Prop) (unspent : w.trace = [])
    (start : Reached (Sometime fun _ _ => True) w.state w.state)
    (row : own → Direct o → Settlement w.state.stage.current o)
    (held : ∀ now, reconcilable now w.state.stage.flushed →
      w.state.stage.current.quarantinedAt.isSome = true) :
    wp (reconcileStage platform broker)
      (fun _ v => own → Direct (v.trace ++ o) → Settlement v.state.stage.current (v.trace ++ o))
      (fun _ => True) w := by
  by_cases counts : own
  · apply (tally_reconciliation platform o).wp_reconcileStage
    · rw [unspent]
      exact fun now _ _ due direct => ⟨row counts direct, held now due⟩
    · rw [unspent]
      exact row counts
    · exact False.elim
    · exact start
    · exact fun _ _ _ => trivial
    · exact fun v ended _ => ended.row
  · exact wp_anywhere (fun _ _ other => absurd other counts) fun _ => trivial

end tallies

end YTPipe
