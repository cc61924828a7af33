import YTPipe.Requests

/-!
# The plan of a stage

How the plan of a chunked stage is executed, and how a reconciliation loses the
progress of a step where a plan changed in place is not written back.
-/

namespace YTPipe

open Broker Ledger Proc

namespace Ledger

variable {t : Terms} {text : Text}

/-- The stage is at a plan of `text`, and what was posted was due by it. -/
structure Sound (t : Terms) (text : Text) (s : State) : Prop where
  accepted : ∀ plan, s.card.plan = some plan → PlanAccepted t.platform plan text
  ended : s.card.plan = none → s.card.phase = .closed
  posts : ∀ p, Event.post p ∈ s.log → ∃ plan, p.durable.brokerChunkPlan = some plan ∧
    PlanAccepted t.platform plan text ∧ Shape plan ∧ nextSlot (some plan) = some (postSlot p) ∧
    Prompted (some plan) p.operation
  unraised : Event.raised .chunkPlan ∉ s.log

theorem Sound.card {s : State} (h : Sound t text s) (c : Card) (plan : c.plan = s.card.plan)
    (closed : s.card.phase = .closed → c.phase = .closed) : Sound t text ⟨c, s.log⟩ where
  accepted pl hp := h.accepted pl (plan ▸ hp)
  ended hn := closed (h.ended (plan ▸ hn))
  posts := h.posts
  unraised := h.unraised

theorem Sound.cons {s : State} (h : Sound t text s) {e : Event} (he : ∀ q, e ≠ .post q)
    (calm : e ≠ .raised .chunkPlan) : Sound t text ⟨s.card, e :: s.log⟩ where
  accepted := h.accepted
  ended := h.ended
  posts p hp := by
    rcases List.mem_cons.mp hp with hp | hp
    · exact absurd hp.symm (he p)
    · exact h.posts p hp
  unraised hr := by
    rcases List.mem_cons.mp hr with hr | hr
    · exact calm hr.symm
    · exact h.unraised hr

/-- A plan that is there cannot be built again: its stage is open only with it. -/
theorem Sound.planned {c : Card} {l : List Event} (h : Sound t text ⟨c, l⟩)
    (phase : c.phase ≠ .closed) : ∃ plan, c.plan = some plan := by
  cases hp : c.plan with
  | none => exact absurd (h.ended hp) phase
  | some plan => exact ⟨plan, rfl⟩

theorem step_sound {s s' : State} (strict : ¬ t.lax) (h : Step t s s') (exact : Exact t s)
    (inv : Sound t text s) : Sound t text s' := by
  cases h with
  | note quiet =>
    apply inv.cons (quiet_not_post t quiet)
    rintro rfl
    exact strict quiet
  | count n more => exact inv.card _ rfl id
  | @build c l plan phase unplanned built =>
    have closed := inv.ended unplanned
    cases phase.symm.trans closed
  | prepare key phase paid => exact inv.card _ rfl fun hc => by cases phase.symm.trans hc
  | @submit c l p phase paid slot row key =>
    obtain ⟨plan, hplan⟩ := inv.planned (by simp [phase])
    obtain ⟨next, prompted⟩ := slot.resolve_left strict
    rw [hplan] at next prompted
    have stored : p.durable.brokerChunkPlan = some plan := (congrArg Card.plan row).trans hplan
    refine ⟨inv.accepted, fun hn => ?_, fun q hq => ?_, fun hr => ?_⟩
    · cases hplan.symm.trans hn
    · rcases List.mem_cons.mp hq with hq | hq
      · cases hq
        exact ⟨plan, stored, inv.accepted plan hplan, exact.shape plan hplan, next, prompted⟩
      · exact inv.posts q hq
    · rcases List.mem_cons.mp hr with hr | hr
      · cases hr
      · exact inv.unraised hr
  | accept p task phase key created slot =>
    exact inv.card _ rfl fun hc => by cases phase.symm.trans hc
  | read g phase task row => exact inv.cons (fun q => nofun) nofun
  | hold phase =>
    refine inv.card _ rfl fun hc => ?_
    rcases phase with h | h <;> cases h.symm.trans hc
  | holdCreated p task phase key created slot =>
    exact inv.card _ rfl fun hc => by cases phase.symm.trans hc
  | retry g phase task failed => exact inv.card _ rfl fun hc => by cases phase.symm.trans hc
  | stepDone g plan phase task advances =>
    obtain ⟨pl, output, hpl, _, more, _, _, filled, rfl⟩ := advances.resolve_left strict
    refine ⟨fun pl' hp => ?_, fun hn => (nomatch hn), inv.posts, inv.unraised⟩
    cases hp
    exact (inv.accepted pl hpl).completeStep filled more
  | close c' phase plan =>
    refine ⟨fun pl hp => ?_, fun _ => phase, inv.posts, inv.unraised⟩
    rcases plan with h | h
    · cases h.symm.trans hp
    · exact inv.accepted pl (h.symm.trans hp)
  | allow phase task => exact inv.card _ rfl fun hc => by cases phase.symm.trans hc
  | drift plan lax => exact absurd lax strict

theorem path_sound {s s' : State} (strict : ¬ t.lax) (h : Path t s s') (basic : Basic t s)
    (exact : Exact t s) (inv : Sound t text s) : Sound t text s' := by
  induction h with
  | refl => exact inv
  | tail path step ih => exact step_sound strict step (path_exact t strict path basic exact) ih

/-- Since the card was `c₀` and the log `l₀`, the card and every request followed. -/
structure Tracked (c₀ : Card) (l₀ : List Event) (s : State) : Prop where
  card : Follows c₀ s.card
  log : ∃ later, s.log = later ++ l₀ ∧ ∀ p, Event.post p ∈ later → Follows c₀ (cardOf p.durable)

theorem Tracked.cons {c₀ c : Card} {l₀ l : List Event} (h : Tracked c₀ l₀ ⟨c, l⟩) {e : Event}
    (he : ∀ q, e ≠ .post q) : Tracked c₀ l₀ ⟨c, e :: l⟩ := by
  obtain ⟨forward, later, hl, posts⟩ := h
  have hl : l = later ++ l₀ := hl
  refine ⟨forward, e :: later, by rw [hl]; rfl, fun p hp => ?_⟩
  rcases List.mem_cons.mp hp with hp | hp
  · exact absurd hp.symm (he p)
  · exact posts p hp

theorem step_tracked {s s' : State} {c₀ : Card} {l₀ : List Event} (strict : ¬ t.lax)
    (h : Step t s s') (inv : Tracked c₀ l₀ s) : Tracked c₀ l₀ s' := by
  have forward := inv.card.trans (step_follows t strict h)
  cases h with
  | note quiet => exact inv.cons (quiet_not_post t quiet)
  | read g phase task row => exact inv.cons fun q => nofun
  | @submit c l p phase paid slot row key =>
    obtain ⟨later, hl, posts⟩ := inv.log
    have hl : l = later ++ l₀ := hl
    refine ⟨forward, .post p :: later, by rw [hl]; rfl, fun q hq => ?_⟩
    rcases List.mem_cons.mp hq with hq | hq
    · cases hq
      rw [row]
      exact forward
    · exact posts q hq
  | count n more => exact ⟨forward, inv.log⟩
  | build plan phase unplanned built => exact ⟨forward, inv.log⟩
  | prepare key phase paid => exact ⟨forward, inv.log⟩
  | accept p task phase key created slot => exact ⟨forward, inv.log⟩
  | hold phase => exact ⟨forward, inv.log⟩
  | holdCreated p task phase key created slot => exact ⟨forward, inv.log⟩
  | retry g phase task failed => exact ⟨forward, inv.log⟩
  | stepDone g plan phase task advances => exact ⟨forward, inv.log⟩
  | close c' phase plan => exact ⟨forward, inv.log⟩
  | allow phase task => exact ⟨forward, inv.log⟩
  | drift plan lax => exact absurd lax strict

theorem path_tracked {s s' : State} {c₀ : Card} {l₀ : List Event} (strict : ¬ t.lax)
    (h : Path t s s') (inv : Tracked c₀ l₀ s) : Tracked c₀ l₀ s' := by
  induction h with
  | refl => exact inv
  | tail _ step ih => exact step_tracked strict step ih

/-- The states of a session's copies of its row. -/
def copies (w : StageWorld) (s : State) : Prop :=
  s.log = w.trace ∧ (s.card = cardOf w.state.stage.durable ∨ s.card = cardOf w.state.stage.flushed
    ∨ s.card = cardOf w.state.stage.current)

section copies

variable {m : State → Prop} {w : StageWorld}

theorem Holds.from_copies (h : Holds t m w) {s : State} (hs : copies w s) : From t m s := by
  obtain ⟨c, l⟩ := s
  obtain ⟨hl, hc⟩ := hs
  simp only at hl hc
  subst hl
  rcases hc with rfl | rfl | rfl
  · exact h.durable
  · exact h.flushed
  · exact h.current

/-- A run goes on from the copies it has come to. -/
theorem Holds.rebase (h : Holds t m w) : Holds t (copies w) w :=
  ⟨h.named, h.faithful, .start ⟨rfl, .inl rfl⟩, .start ⟨rfl, .inr (.inl rfl)⟩,
    .start ⟨rfl, .inr (.inr rfl)⟩, h.agreed, h.ahead⟩

/-- Every copy is ahead of the durable one. -/
theorem Holds.tracked (strict : ¬ t.lax) (h : Holds t m w) {s : State} (hs : copies w s) :
    Tracked (cardOf w.state.stage.durable) w.trace s := by
  obtain ⟨first, second⟩ := h.ahead.resolve_left strict
  obtain ⟨hl, hc⟩ := hs
  refine ⟨?_, [], hl, fun p hp => (nomatch hp)⟩
  rcases hc with hc | hc | hc
  · rw [hc]
    exact .refl _
  · rw [hc]
    exact first
  · rw [hc]
    exact first.trans second

/-- What follows a state of the run, on to the durable row of a later one. -/
theorem run_tracked (strict : ¬ t.lax) (hb : ∀ s, m s → Basic t s) (hx : ∀ s, m s → Exact t s)
    (digest : ∀ bytes, (t.platform.sha256 bytes).length = 64) {ops : List StageOp}
    (route : ∀ op ∈ ops, op.brokered) (durable : t.platform.flushRule = .assigned)
    (h : Holds t m w) :
    Tracked (cardOf w.state.stage.durable) w.trace
      ⟨cardOf (runStage t.platform ops w).state.stage.durable,
        (runStage t.platform ops w).trace⟩ := by
  have basic (s : State) (hs : copies w s) : Basic t s := from_basic (h.from_copies hs) hb
  have exact (s : State) (hs : copies w s) : Exact t s :=
    from_exact t strict (h.from_copies hs) hb hx
  obtain ⟨s, start, path⟩ :=
    (run_holds basic (.inr exact) digest route (.inr (.inl durable)) h.rebase).durable
  exact path_tracked strict path (h.tracked strict start)

end copies

end Ledger

namespace Broker

/-- A step that is done has an output. -/
theorem checkSteps_output {length : Nat} {capacity overlap r : Int} {count : Nat}
    (steps : List PlanStep) (index : Nat) (previousEnd : Int)
    (h : checkSteps length capacity overlap count index previousEnd steps = .ok r) :
    ∀ step ∈ steps, step.status = .completed → ∃ output, step.output = some output := by
  induction steps generalizing index previousEnd with
  | nil => simp
  | cons step steps ih =>
    simp only [checkSteps, bind_eq_ok, raiseIf_eq_ok] at h
    obtain ⟨reached, _, _, filled, _, _, rest⟩ := h
    intro s hs done
    rcases List.mem_cons.mp hs with rfl | hs
    · cases ho : s.output with
      | some output => exact ⟨output, rfl⟩
      | none => exact absurd ⟨done, by simp [ho]⟩ filled
    · exact ih _ _ rest s hs done

variable {platform : Platform} {plan : ChunkPlan} {transcript : Text}

theorem PlanAccepted.output (h : PlanAccepted platform plan transcript) {step : PlanStep}
    (hs : step ∈ plan.steps) (done : step.status = .completed) :
    ∃ output, step.output = some output := by
  obtain ⟨_, _, check⟩ := h.covered
  exact checkSteps_output _ _ _ check step hs done

/-- The next step of an accepted plan is the number of the steps that are done. -/
theorem PlanAccepted.count (h : PlanAccepted platform plan transcript) :
    plan.nextStep = plan.steps.countP (fun step => step.status = .completed) := by
  have progress := h.progress
  have done : (plan.steps.take plan.nextStep.toNat).countP (fun step => step.status = .completed)
      = (plan.steps.take plan.nextStep.toNat).length := by
    apply List.countP_eq_length.mpr
    intro step hs
    exact decide_eq_true (h.done step hs)
  have due : (plan.steps.drop plan.nextStep.toNat).countP (fun step => step.status = .completed)
      = 0 := by
    apply List.countP_eq_zero.mpr
    intro step hs
    simpa using h.due step hs
  have split : (plan.steps.take plan.nextStep.toNat ++ plan.steps.drop plan.nextStep.toNat).countP
      (fun step => step.status = .completed) = _ := List.countP_append
  rw [List.take_append_drop, done, due, List.length_take] at split
  omega

/-- A step of an accepted plan is done when it is before the next one. -/
theorem PlanAccepted.done_iff (h : PlanAccepted platform plan transcript) {k : Nat}
    {step : PlanStep} (hs : plan.steps[k]? = some step) :
    step.status = .completed ↔ (k : Int) < plan.nextStep := by
  obtain ⟨hk, rfl⟩ := List.getElem?_eq_some_iff.mp hs
  have progress := h.progress
  constructor
  · intro done
    refine Decidable.byContradiction fun hn => h.due _ ?_ done
    rw [List.mem_drop_iff_getElem]
    refine ⟨k - plan.nextStep.toNat, by omega, ?_⟩
    congr 1
    omega
  · intro hlt
    apply h.done
    rw [List.mem_take_iff_getElem]
    exact ⟨k, by omega, rfl⟩

end Broker

/-- The prompt of a final operation, and the plan that was durable when it was posted. -/
structure FinalPrompt (p : Post) (plan : ChunkPlan) (outputs : List Text) : Prop where
  durable : p.durable.brokerChunkPlan = some plan
  all : outputs.length + 1 = plan.steps.length
  each : ∀ (k : Nat) output, outputs[k]? = some output → ∃ step, plan.steps[k]? = some step ∧
    step.ordinal = k ∧ step.status = .completed ∧ step.output = some output
  prompt : p.operation.userPrompt = finalPrompt outputs

theorem final_posted {platform : Platform} {text : Text} {p : Post} {plan : ChunkPlan}
    (stored : p.durable.brokerChunkPlan = some plan) (accepted : PlanAccepted platform plan text)
    (shape : Shape plan) (next : nextSlot (some plan) = some (postSlot p))
    (prompted : Prompted (some plan) p.operation) (final : p.operation.kind = finalKind) :
    FinalPrompt p plan (plan.steps.dropLast.map (·.output.getD [])) := by
  have progress := accepted.progress
  -- only the last step is a final one
  have last : plan.nextStep.toNat + 1 = plan.steps.length := by
    obtain ⟨step, hstep, hslot⟩ := Option.map_eq_some_iff.mp next
    refine Decidable.byContradiction fun more => ?_
    have piece := (shape.pieces _ step hstep (by omega)).1
    have kind : operationKind step = finalKind := (congrArg Prod.fst hslot).trans final
    exact absurd (piece.symm.trans kind) (by decide)
  refine ⟨stored, ?_, fun k output hk => ?_, prompted final plan rfl⟩
  · rw [List.length_map, List.length_dropLast]
    omega
  · obtain ⟨step, hstep, rfl⟩ := (List.getElem?_map.symm.trans hk |> Option.map_eq_some_iff.mp)
    obtain ⟨inside, same⟩ := List.getElem?_eq_some_iff.mp hstep
    rw [List.length_dropLast] at inside
    have at_k : plan.steps[k]? = some step := by
      rw [← same, List.getElem_dropLast]
      exact List.getElem?_eq_getElem (by omega)
    have done : step.status = .completed := (accepted.done_iff at_k).mpr (by omega)
    obtain ⟨output, ho⟩ := accepted.output (List.mem_of_getElem? at_k) done
    refine ⟨step, at_k, (shape.pieces k step at_k (by omega)).2, done, ?_⟩
    rw [ho]
    rfl

/-- From a plan of the transcript on, with plans written as assigned: the plan is
accepted wherever it is stored, so the loop that executes it raises nothing; it
only grows, a step that is done is not posted again, and the final operation is
posted with the outputs of all steps. -/
theorem plan_execution (platform : Platform) (assigned : platform.flushRule = .assigned)
    (digest : ∀ bytes, (platform.sha256 bytes).length = 64) (stage : PipelineStage) (video : Video)
    (chunking : BrokerChunkConfig) (plan₀ : ChunkPlan)
    (built : buildPlan platform (video.transcript.getD []) chunking = .ok (some plan₀))
    (stored : stage.brokerChunkPlan = some plan₀) (unstarted : Unstarted (cardOf stage))
    (ops ops' : List StageOp) (route : ∀ op ∈ ops ++ ops', op.brokered) :
    let w := runStage platform ops (openSession stage video)
    let w' := runStage platform ops' w
    (∀ r ∈ [w.state.stage.durable, w.state.stage.flushed, w.state.stage.current],
      ∀ plan, r.brokerChunkPlan = some plan →
        validatePlan platform plan (video.transcript.getD []) = .ok ()) ∧
    Event.raised .chunkPlan ∉ w.trace ∧
    (∀ plan, w.state.stage.durable.brokerChunkPlan = some plan →
      plan.nextStep = plan.steps.countP (fun step => step.status = .completed) ∧
      (∀ plan', w'.state.stage.durable.brokerChunkPlan = some plan' →
        plan.nextStep ≤ plan'.nextStep ∧ (plan' ≠ plan → plan.nextStep < plan'.nextStep) ∧
        ∀ k : Nat, (k : Int) < plan.nextStep → plan'.steps[k]? = plan.steps[k]?) ∧
      ∃ later, w'.trace = later ++ w.trace ∧ ∀ p, Event.post p ∈ later →
        ∀ (k : Nat) step, plan.steps[k]? = some step → step.status = .completed →
          (p.operation.kind, p.operation.ordinal) ≠ (partialKind, (k : Int))) ∧
    ∀ p, Event.post p ∈ w.trace → p.operation.kind = finalKind →
      ∃ plan outputs, FinalPrompt p plan outputs := by
  intro w w'
  have routed (op : StageOp) (h : op ∈ ops) : op.brokered := route op (List.mem_append_left _ h)
  have routed' (op : StageOp) (h : op ∈ ops') : op.brokered := route op (List.mem_append_right _ h)
  have accepted₀ := buildPlan_accepted digest built
  have basic₀ : Basic ⟨platform, False⟩ ⟨cardOf stage, []⟩ := unstarted.basic _
  have exact₀ : Exact ⟨platform, False⟩ ⟨cardOf stage, []⟩ := by
    apply unstarted_exact
    intro plan hp
    cases stored.symm.trans hp
    exact buildPlan_built digest built
  have sound₀ : Sound ⟨platform, False⟩ (video.transcript.getD []) ⟨cardOf stage, []⟩ := by
    refine ⟨fun plan hp => ?_, fun hn => ?_, fun p hp => (nomatch hp), fun hr => (nomatch hr)⟩
    · cases stored.symm.trans hp
      exact accepted₀
    · cases stored.symm.trans hn
  have holds : Holds ⟨platform, False⟩ (· = ⟨cardOf stage, []⟩) w :=
    run_holds (starts basic₀) (.inr (starts exact₀)) digest routed (.inr (.inl assigned))
      (openSession_holds stage video)
  have holds' : Holds ⟨platform, False⟩ (· = ⟨cardOf stage, []⟩) w' :=
    run_holds (starts basic₀) (.inr (starts exact₀)) digest routed' (.inr (.inl assigned)) holds
  have sound {v : StageWorld} (hv : Holds ⟨platform, False⟩ (· = ⟨cardOf stage, []⟩) v) (s : State)
      (h : copies v s) : Sound ⟨platform, False⟩ (video.transcript.getD []) s := by
    obtain ⟨_, rfl, path⟩ := hv.from_copies h
    exact path_sound not_false path basic₀ exact₀ sound₀
  have durable := sound holds ⟨cardOf w.state.stage.durable, w.trace⟩ ⟨rfl, .inl rfl⟩
  have durable' := sound holds' ⟨cardOf w'.state.stage.durable, w'.trace⟩ ⟨rfl, .inl rfl⟩
  have tracked : Tracked (cardOf w.state.stage.durable) w.trace
      ⟨cardOf w'.state.stage.durable, w'.trace⟩ :=
    run_tracked not_false (starts basic₀) (starts exact₀) digest routed' assigned holds
  refine ⟨fun r hr plan hp => ?_, durable.unraised, fun plan hp => ⟨?_, fun plan' hp' => ?_, ?_⟩,
    fun p hp final => ?_⟩
  · have place : copies w ⟨cardOf r, w.trace⟩ := by
      simp only [List.mem_cons, List.not_mem_nil, or_false] at hr
      refine ⟨rfl, ?_⟩
      rcases hr with rfl | rfl | rfl
      · exact .inl rfl
      · exact .inr (.inl rfl)
      · exact .inr (.inr rfl)
    exact validatePlan_eq_ok.mpr ((sound holds _ place).accepted plan hp)
  · exact (durable.accepted plan hp).count
  · rcases tracked.card.plan plan hp with ⟨_, gone⟩ | ⟨q, hq, grown⟩
    · cases gone.symm.trans hp'
    · obtain rfl : q = plan' := Option.some.inj (hq.symm.trans hp')
      exact ⟨grown.next, fun other => grown.further.resolve_left (Ne.symm other), grown.kept⟩
  · obtain ⟨later, hl, posts⟩ := tracked.log
    refine ⟨later, hl, fun p hp' k step hstep done slot => ?_⟩
    have before := ((durable.accepted plan hp).done_iff hstep).mp done
    -- the plan at the request had passed the step
    obtain ⟨q, hq, _, shape, next, _⟩ := durable'.posts p (hl ▸ List.mem_append_left _ hp')
    have passed : plan.nextStep ≤ q.nextStep := by
      rcases (posts p hp').plan plan hp with ⟨_, gone⟩ | ⟨r, hr, grown⟩
      · cases hq.symm.trans gone
      · obtain rfl : r = q := Option.some.inj (hr.symm.trans hq)
        exact grown.next
    rcases shape_nextSlot shape next with at_next | at_final
    · have : (k : Int) = q.nextStep := congrArg Prod.snd (slot.symm.trans at_next)
      omega
    · have kind : partialKind = finalKind := congrArg Prod.fst (slot.symm.trans at_final)
      exact absurd kind (by decide)
  · obtain ⟨plan, hplan, accepted, shape, next, prompted⟩ := durable.posts p hp
    exact ⟨plan, _, final_posted hplan accepted shape next prompted final⟩

/-- The plan of the sample video in steps of one character. -/
def Sample.plan : ChunkPlan where
  version := 1
  fingerprint := "23877ac9216deab2d2a2e576a18957acf662b7fe362c73a73e30cf1fd4acd8ea"
  config := ⟨2048, 1000, 0, 6, 1, 1347⟩
  nextStep := 0
  steps := [⟨.piece 0 1, 0, .pending, none⟩, ⟨.piece 1 2, 1, .pending, none⟩,
    ⟨.final, 0, .pending, none⟩]

/-- The first step of the plan is done, and the deadline ends the attempt. -/
def resumedOps : List StageOp :=
  [.attempt (Sample.config 2048) [.now 0, .clock 0, .clock 0, .committed, .clock 0, .clock 0,
    .clock 0, Sample.created "t", .clock 0, .committed, .clock 0, .clock 1,
    Sample.succeeded "• a", .committed, .clock 300, .committed]]

theorem plan_execution_resumed : ∃ plan, (runStage (Sample.platform .assigned) resumedOps
      (openSession { Sample.stage with brokerChunkPlan := some Sample.plan } Sample.video)
      ).state.stage.durable.brokerChunkPlan = some plan ∧
    plan.steps.countP (fun step => step.status = .completed) = 1 ∧
    validatePlan (Sample.platform .assigned) plan ['a', 'b'] = .ok () := by
  have facts : buildPlan (Sample.platform .assigned) ['a', 'b']
        (Sample.config 2048).brokerChunkConfig = .ok (some Sample.plan) ∧
      (runStage (Sample.platform .assigned) resumedOps
        (openSession { Sample.stage with brokerChunkPlan := some Sample.plan } Sample.video)
        ).state.stage.durable.brokerChunkPlan.map (·.nextStep) = some 1 := by decide +kernel
  obtain ⟨built, next⟩ := facts
  obtain ⟨plan, hplan, one⟩ := Option.map_eq_some_iff.mp next
  have run := plan_execution (Sample.platform .assigned) rfl Sample.sha256_length
    { Sample.stage with brokerChunkPlan := some Sample.plan } Sample.video _ Sample.plan built rfl
    ⟨rfl, rfl, rfl, by decide⟩ resumedOps [] (by simp [resumedOps, StageOp.brokered, Sample.config])
  refine ⟨plan, hplan, ?_, run.1 _ (List.mem_cons_self ..) plan hplan⟩
  have count := (run.2.2.1 plan hplan).1
  omega

/-- The progress of a run of a stage: a step that was reconciled is durable after
the next commit, and each durable output is of a task of its own step. -/
structure ChunkProgress (platform : Platform) (ops : List StageOp) (w₀ : StageWorld) : Prop where
  durable : ∀ before op rest after plan summary,
    ops = before ++ op :: .commit (.committed :: rest) :: after →
    CompletesStep platform op (runStage platform before w₀) plan summary →
    (runStage platform (before ++ [op, .commit (.committed :: rest)])
      w₀).state.stage.durable.brokerChunkPlan = some (plan.completeStep plan.nextStep summary)
  attributed : ∀ before after, ops = before ++ after → ∀ plan,
    (runStage platform before w₀).state.stage.durable.brokerChunkPlan = some plan →
    Attributed ⟨platform, False⟩ plan (runStage platform before w₀).trace

/-- Where no reconciliation completes a partial step, progress is durable and is
attributed to its step. -/
theorem chunk_progress (platform : Platform)
    (digest : ∀ bytes, (platform.sha256 bytes).length = 64) (id videoId userId maxAttempts : Int)
    (video : Video) (ops : List StageOp) (route : ∀ op ∈ ops, op.brokered)
    (avoids : Avoids platform (CompletesPartial platform) ops
      (openSession (newSummary id videoId userId maxAttempts) video)) :
    ChunkProgress platform ops (openSession (newSummary id videoId userId maxAttempts) video) := by
  have basic := (newSummary_unstarted id videoId userId maxAttempts).basic ⟨platform, False⟩
  have exact₀ : Exact ⟨platform, False⟩ _ := newSummary_exact id videoId userId maxAttempts
  constructor
  · rintro before op rest after plan summary rfl completes
    exact absurd ⟨plan, summary, completes⟩ avoids.next
  · rintro before after rfl plan hplan
    have routed (op : StageOp) (h : op ∈ before) : op.brokered :=
      route op (List.mem_append_left _ h)
    have holds := run_holds (t := ⟨platform, False⟩) (starts basic) (.inr (starts exact₀)) digest
      routed (.inr (.inr avoids.before))
      (openSession_holds (newSummary id videoId userId maxAttempts) video)
    exact (from_exact _ not_false holds.durable (starts basic) (starts exact₀)).attributed plan hplan

/-- A step reconciled in a session that holds the plan it loaded is lost: the commit
that follows writes the plan as it was. -/
theorem reconciled_loaded {platform : Platform} (changed : platform.flushRule = .changed)
    {op : StageOp} {w : StageWorld} {plan : ChunkPlan} {summary : Text} (rest : List Reply)
    (loaded : w.state.stage.present = w.state.stage.loaded)
    (h : CompletesStep platform op w plan summary) :
    (perform platform (.commit (.committed :: rest)) (perform platform op
      w)).state.stage.durable.brokerChunkPlan = w.state.stage.flushed.brokerChunkPlan := by
  obtain ⟨service, now, outcome, later, rfl, chosen, start, stop, ordinal, status, output, hplan,
    valid, hstep, hsummary⟩ := h
  have turned : (perform platform (.reconcile service (.now now :: .http outcome :: later))
      w).state.stage = ((w.state.stage.assignMutated planColumn w.state.stage.loaded
        (some (plan.completeStep plan.nextStep summary))).modify reconciledPartialRow).flush
          planColumn platform.flushRule := by
    have planned : reconcileStep platform w.state.stage.current.brokerChunkPlan
        (w.state.video.current.transcript.getD [])
        = .ok (some (plan, ⟨.piece start stop, ordinal, status, output⟩)) := by
      simp only [reconcileStep, hplan, valid, hstep]
    apply perform_of_wp platform (P := fun v => v.state.stage = _)
    simp only [StageOp.proc, StageOp.replies, reconcileStage]
    rw [wp_bind, wp_utcNow_cons rfl, wp_bind, wp_read, wp_bind, wp_when, if_pos chosen]
    simp only [reconcileRow]
    rw [wp_bind, wp_planObject, wp_bind, wp_stageRow, wp_bind, wp_videoRow]
    simp only [planned]
    rw [wp_bind, wp_request_cons rfl]
    simp only [Option.map_some, operationKind, hsummary]
    rw [wp_bind, wp_assignMutatedPlan, wp_setStage, wp_flush, loaded]
    rfl
  have committed (v : StageWorld) : (perform platform (.commit (.committed :: rest))
      v).state.stage.durable = v.state.stage.written planColumn platform.flushRule := by
    apply perform_of_wp platform (P := fun u => u.state.stage.durable = _)
    exact (wp_commit_cons rfl).mpr rfl
  rw [committed, turned, Instance.written_flush,
    Instance.written_assignMutated_loaded (f := reconciledPartialRow) changed fun _ => rfl]
  rfl

/-- Where a plan changed in place is not written, every step that is reconciled is lost
with the next commit, in every run. -/
theorem reconciled_step_lost {platform : Platform} (changed : platform.flushRule = .changed)
    (digest : ∀ bytes, (platform.sha256 bytes).length = 64) {id videoId userId maxAttempts : Int}
    {video : Video} {ops : List StageOp} (route : ∀ op ∈ ops, op.brokered) {op : StageOp}
    {plan : ChunkPlan} {summary : Text} (rest : List Reply)
    (h : CompletesStep platform op (runStage platform ops
      (openSession (newSummary id videoId userId maxAttempts) video)) plan summary) :
    (runStage platform (ops ++ [op, .commit (.committed :: rest)])
      (openSession (newSummary id videoId userId maxAttempts) video)
      ).state.stage.durable.brokerChunkPlan = some plan := by
  have basic := (newSummary_unstarted id videoId userId maxAttempts).basic ⟨platform, True⟩
  have holds := run_holds (t := ⟨platform, True⟩) (starts basic) (.inl trivial) digest route
    (.inl trivial) (openSession_holds (newSummary id videoId userId maxAttempts) video)
  have chosen := h
  obtain ⟨_, _, _, _, _, chosen, _, _, _, _, _, stored, _⟩ := chosen
  obtain ⟨_, same, _, loaded⟩ := holds.chosen chosen
  rw [runStage_append]
  refine (reconciled_loaded changed rest loaded h).trans ?_
  exact (congrArg Card.plan same).symm.trans stored

/-- A chunked stage is quarantined on its first step. -/
def quarantinedOps : List StageOp :=
  [.attempt (Sample.config 2048) [.now 0, .committed, .clock 0, .clock 0, .committed, .clock 0,
    .clock 0, .clock 0, Sample.created "t", .clock 0, .committed, .clock 300, .committed],
    .request "audit" [.now 0, .committed]]

def quarantinedRun : StageWorld :=
  runStage (Sample.platform .changed) quarantinedOps (openSession Sample.stage Sample.video)

/-- The first step is done, the task of the second one is late, and a reconciliation finds
it at work. -/
def recordedOps : List StageOp :=
  [.attempt (Sample.config 2048) [.now 0, .committed, .clock 0, .clock 0, .committed, .clock 0,
      .clock 0, .clock 0, Sample.created "t", .clock 0, .committed, .clock 0, .clock 1,
      Sample.succeeded "• a", .committed, .clock 300, .committed],
    .attempt (Sample.config 2048) [.now (seconds 400), .clock 400, .clock 400, .committed,
      .clock 400, .clock 400, .clock 400, Sample.created "u", .clock 400, .committed, .clock 800,
      .committed],
    .request "audit" [.now (seconds 900), .committed],
    .reconcile Sample.service [.now (seconds 900), Sample.unfinished, .now (seconds 900)],
    .commit [.committed]]

theorem chunk_progress_recorded :
    (runStage (Sample.platform .changed) recordedOps
        (openSession Sample.stage Sample.video)).state.stage.durable.brokerChunkPlan.map (·.nextStep)
      = some 1
    ∧ ChunkProgress (Sample.platform .changed) recordedOps
      (openSession Sample.stage Sample.video) := by
  have recorded : (runStage (Sample.platform .changed) recordedOps
      (openSession Sample.stage Sample.video)).state.stage.durable.brokerChunkPlan.map (·.nextStep)
        = some 1 := by
    decide +kernel
  refine ⟨recorded, ?_⟩
  apply chunk_progress (Sample.platform .changed) Sample.sha256_length 7 1 1 3 Sample.video
    recordedOps
  · simp [recordedOps, StageOp.brokered, Sample.config]
  · refine ⟨?_, ?_, ?_, ?_, ?_, trivial⟩
    · rintro ⟨_, _, _, _, _, _, h, _⟩
      cases h
    · rintro ⟨_, _, _, _, _, _, h, _⟩
      cases h
    · rintro ⟨_, _, _, _, _, _, h, _⟩
      cases h
    · -- the answer is that of a task at work
      have unread (task : String) (key : Option String) : reconcile Sample.service.profile task key
          (some partialKind) (.response ⟨200, none, some (.obj [("status", .str "pending")])⟩)
            = .ok none := rfl
      rintro ⟨_, _, _, _, _, _, h, _, _, _, _, _, _, _, _, _, read⟩
      cases h
      rw [unread] at read
      cases read
    · rintro ⟨_, _, _, _, _, _, h, _⟩
      cases h

/-- The step is reconciled and committed, and the durable plan has not moved. -/
theorem chunk_progress_lost : ¬ ChunkProgress (Sample.platform .changed)
    (quarantinedOps ++ [.reconcile Sample.service [.now 0, Sample.succeeded "• a"],
      .commit [.committed]]) (openSession Sample.stage Sample.video) := by
  have facts : reconcilable 0 quarantinedRun.state.stage.flushed ∧
      quarantinedRun.state.stage.current.brokerChunkPlan = some Sample.plan ∧
      validatePlan (Sample.platform .changed) Sample.plan
        (quarantinedRun.state.video.current.transcript.getD []) = .ok () := by
    decide +kernel
  obtain ⟨chosen, hplan, valid⟩ := facts
  have completes : CompletesStep (Sample.platform .changed)
      (.reconcile Sample.service [.now 0, Sample.succeeded "• a"]) quarantinedRun Sample.plan
        ['•', ' ', 'a'] :=
    ⟨Sample.service, 0, _, [], rfl, chosen, 0, 1, 0, .pending, none, hplan, valid, rfl, rfl⟩
  have kept := reconciled_step_lost rfl Sample.sha256_length
    (by simp [quarantinedOps, StageOp.brokered, Sample.config]) [] completes
  intro progress
  have moved := progress.durable quarantinedOps _ [] [] Sample.plan ['•', ' ', 'a'] rfl completes
  exact absurd (kept.symm.trans moved) (by decide)

end YTPipe
