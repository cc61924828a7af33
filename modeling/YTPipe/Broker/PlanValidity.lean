import YTPipe.Broker.Chunking

namespace YTPipe.Broker

/-- What `validatePlan` accepts. -/
structure PlanAccepted (platform : Platform) (plan : ChunkPlan) (transcript : Text) : Prop where
  version : plan.version = planVersion
  fingerprintLength : plan.fingerprint.length = 64
  snapshot : plan.fingerprint = fingerprint platform transcript plan.config
  config : plan.config.active.validate = .ok ()
  progress : 0 ≤ plan.nextStep ∧ plan.nextStep < plan.steps.length
  pieces : plan.steps.dropLast ≠ []
  bounded : plan.steps.dropLast.length ≤ plan.config.maxChunks
  covered : ∃ capacity, chunkCapacity plan.config.active = .ok capacity ∧
    checkSteps transcript.length (min plan.config.chunkChars capacity)
      (effectiveOverlap plan.config.active (min plan.config.chunkChars capacity))
      plan.steps.length 0 0 plan.steps = .ok transcript.length
  last : plan.steps.getLast?.map (·.status) = some .pending
  done : ∀ step ∈ plan.steps.take plan.nextStep.toNat, step.status = .completed
  due : ∀ step ∈ plan.steps.drop plan.nextStep.toNat, step.status ≠ .completed

theorem mapError_eq_ok {ε δ α : Type} {x : Except ε α} {f : ε → δ} {a : α} :
    x.mapError f = .ok a ↔ x = .ok a := by
  cases x with
  | error e => constructor <;> (intro h; cases h)
  | ok b => constructor <;> (intro h; cases h; rfl)

theorem validatePlan_eq_ok {platform : Platform} {plan : ChunkPlan} {transcript : Text} :
    validatePlan platform plan transcript = .ok () ↔ PlanAccepted platform plan transcript := by
  simp only [validatePlan, bind_eq_ok, raiseIf_eq_ok, mapError_eq_ok, exists_const,
    Decidable.not_not, not_or, ne_eq, Int.not_lt, gt_iff_lt]
  constructor
  · rintro ⟨v, fl, fp, ⟨⟩, cfg, pr, ⟨pc, bd⟩, cap, hcap, r, hr, ⟨rfl, last⟩, dn, du⟩
    refine ⟨v, fl, fp, cfg, pr, pc, bd, ⟨cap, hcap, hr⟩, last, fun s hs => ?_, fun s hs hc => ?_⟩
    · exact Decidable.byContradiction fun hc => dn ⟨s, hs, hc⟩
    · exact du ⟨s, hs, hc⟩
  · intro h
    obtain ⟨cap, hcap, hr⟩ := h.covered
    refine ⟨h.version, h.fingerprintLength, h.snapshot, (), h.config, h.progress,
      ⟨h.pieces, h.bounded⟩, cap, hcap, _, hr, ⟨rfl, h.last⟩, ?_, ?_⟩
    · rintro ⟨s, hs, hc⟩
      exact hc (h.done s hs)
    · rintro ⟨s, hs, hc⟩
      exact h.due s hs hc

theorem lastBreak_bounds (text : Text) (floor target : Nat) (h : 0 ≤ lastBreak text floor target) :
    floor ≤ lastBreak text floor target ∧ lastBreak text floor target < target := by
  have para := Text.rfind_bounds text ['\n', '\n'] floor target
  have line := Text.rfind_bounds text ['\n'] floor target
  have stop := Text.rfind_bounds text ['.', ' '] floor target
  have ask := Text.rfind_bounds text ['?', ' '] floor target
  have call := Text.rfind_bounds text ['!', ' '] floor target
  simp only [lastBreak, List.length_cons, List.length_nil] at *
  omega

theorem findBoundary_bounds (text : Text) (start target : Nat) (hs : start < target)
    (ht : target ≤ text.length) :
    start < findBoundary text start target ∧ findBoundary text start target ≤ target ∧
      (findBoundary text start target < text.length → target < text.length ∧
        start + (target - start) / 2 < findBoundary text start target) := by
  unfold findBoundary
  split
  · omega
  · have hb := lastBreak_bounds text (start + max 1 ((target - start) / 2)) target
    simp only
    split
    · next h =>
      have hb := hb h
      omega
    · omega

/-- A chunk is not empty, fits the capacity, and passes the middle of it unless
it ends the text. -/
theorem chunkEnd_bounds (text : Text) {capacity start : Nat} (hc : 1 ≤ capacity)
    (hs : start < text.length) :
    start < chunkEnd text capacity start ∧ chunkEnd text capacity start ≤ text.length ∧
      chunkEnd text capacity start ≤ start + capacity ∧
      (chunkEnd text capacity start < text.length →
        start + capacity / 2 < chunkEnd text capacity start) := by
  have hb := findBoundary_bounds text start (min text.length (start + capacity)) (by omega)
    (by omega)
  unfold chunkEnd
  simp only
  split
  · omega
  · refine ⟨by omega, by omega, by omega, fun h => ?_⟩
    obtain ⟨ht, hp⟩ := hb.2.2 h
    have : min text.length (start + capacity) - start = capacity := by omega
    omega

theorem planSteps_length (index : Nat) (ranges : List (Nat × Nat)) :
    (planSteps index ranges).length = ranges.length + 1 := by
  induction ranges generalizing index with
  | nil => rfl
  | cons r rs ih => simp [planSteps, ih]

theorem planSteps_pending (index : Nat) (ranges : List (Nat × Nat)) :
    ∀ step ∈ planSteps index ranges, step.status = .pending ∧ step.output = none := by
  induction ranges generalizing index with
  | nil => simp [planSteps]
  | cons r rs ih =>
    intro step hs
    rcases List.mem_cons.mp hs with rfl | hs
    · exact ⟨rfl, rfl⟩
    · exact ih _ step hs

/-- The steps of a split pass the checks. The induction is on the fuel; the
start of each chunk is within the overlap of the end before it. -/
theorem checkSteps_splitFrom (text : Text) (capacity overlap : Nat) (hc : 1 ≤ capacity)
    (ho : overlap ≤ capacity / 2) (count fuel start index previousEnd : Nat)
    (hf : text.length ≤ start + fuel) (hs : start < text.length)
    (first : index = 0 → start = 0)
    (follows : 0 < index →
      start ≤ previousEnd ∧ previousEnd ≤ start + overlap ∧ previousEnd < text.length)
    (hcount : count = index + (splitFrom text capacity overlap fuel start).length + 1) :
    checkSteps text.length capacity overlap count index previousEnd
      (planSteps index (splitFrom text capacity overlap fuel start)) = .ok text.length := by
  induction fuel generalizing start index previousEnd with
  | zero => omega
  | succ fuel ih =>
    obtain ⟨lo, hi, fits, passes⟩ := chunkEnd_bounds text hc hs
    have reach (rest : List PlanStep) :
        checkSteps text.length capacity overlap count index previousEnd
          (⟨.piece start (chunkEnd text capacity start), index, .pending, none⟩ :: rest) =
        checkSteps text.length capacity overlap count (index + 1)
          (chunkEnd text capacity start) rest := by
      have ok : stepReach text.length capacity overlap count index previousEnd
          ⟨.piece start (chunkEnd text capacity start), index, .pending, none⟩ =
          .ok (chunkEnd text capacity start : Int) := by
        simp only [stepReach]
        rw [if_neg]
        omega
      simp [checkSteps, ok, bind, Except.bind, raiseIf]
    simp only [splitFrom, if_pos hs] at hcount ⊢
    by_cases hend : chunkEnd text capacity start ≥ text.length
    · simp only [if_pos hend, planSteps, List.length_cons, List.length_nil] at hcount ⊢
      rw [reach]
      have : chunkEnd text capacity start = text.length := by omega
      simp [checkSteps, stepReach, bind, Except.bind, raiseIf, this, hcount]
    · simp only [if_neg hend, planSteps, List.length_cons] at hcount ⊢
      rw [reach]
      exact ih _ _ _ (by omega) (by omega) (by omega) (by omega) (by omega)

theorem validate_eq_ok {config : BrokerChunkConfig} (h : config.validate = .ok ()) :
    1 ≤ config.chunkChars ∧ 0 ≤ config.overlapChars ∧ 1 ≤ config.maxChunks := by
  simp only [BrokerChunkConfig.validate] at h
  repeat' split at h
  all_goals first | omega | cases h

theorem chunkCapacity_pos {config : BrokerChunkConfig} {capacity : Int}
    (h : chunkCapacity config = .ok capacity) :
    1 ≤ capacity ∧ config.maxTokens + estimatedPromptOverheadTokens < config.contextTokens := by
  simp only [chunkCapacity] at h
  split at h
  · cases h
  · cases h; omega

/-- The transcript a plan is built for is not empty. -/
theorem buildPlan_nonempty {platform : Platform} {text : Text} {config : BrokerChunkConfig}
    {plan : ChunkPlan} (h : buildPlan platform text config = .ok (some plan)) : text ≠ [] := by
  rintro rfl
  simp only [buildPlan, bind_eq_ok, estimatedRequestTokens] at h
  obtain ⟨_, _, tokens, ⟨_, _, ht⟩, h⟩ := h
  split at h
  · cases h
  · next hover =>
    simp only [bind_eq_ok, splitTranscript] at h
    obtain ⟨_, _, _, ⟨_, _, capacity, hcap, _⟩, _⟩ := h
    have := chunkCapacity_pos hcap
    cases ht
    have zero : (((([] : Text).length : Nat) : Rat) / config.charsPerToken).ceil = 0 := by
      rw [Rat.div_def, List.length_nil, show ((0 : Nat) : Rat) = 0 from rfl, Rat.zero_mul]
      exact Rat.ceil_intCast 0
    rw [zero] at hover
    omega

/-- The planner's plans are accepted by the validator. -/
theorem buildPlan_accepted {platform : Platform} {text : Text} {config : BrokerChunkConfig}
    {plan : ChunkPlan} (digest : ∀ bytes, (platform.sha256 bytes).length = 64)
    (h : buildPlan platform text config = .ok (some plan)) : PlanAccepted platform plan text := by
  have hne := buildPlan_nonempty h
  simp only [buildPlan, bind_eq_ok] at h
  obtain ⟨_, hcfg, tokens, ht, h⟩ := h
  split at h
  · cases h
  simp only [bind_eq_ok, raiseIf_eq_ok, splitTranscript] at h
  obtain ⟨_, henabled, ranges, ⟨_, _, capacity, hcap, hsplit⟩, _, hmax, hplan⟩ := h
  cases hplan
  obtain ⟨hchunk, hover, _⟩ := validate_eq_ok hcfg
  obtain ⟨hpos, _⟩ := chunkCapacity_pos hcap
  have active : (PlanConfig.ofConfig config).active = config := by
    cases config
    simpa [PlanConfig.ofConfig, PlanConfig.active] using henabled
  have hlen : 0 < text.length := List.length_pos_iff.mpr hne
  have hcov := checkSteps_splitFrom text (min config.chunkChars capacity).toNat
    (effectiveOverlap config (min config.chunkChars capacity)).toNat (by omega)
    (by simp only [effectiveOverlap]; omega)
    (ranges.length + 1) text.length 0 0 0 (by omega) hlen (by omega) (by omega)
    (by cases hsplit; omega)
  have hr : splitFrom text (min config.chunkChars capacity).toNat
      (effectiveOverlap config (min config.chunkChars capacity)).toNat text.length 0 = ranges :=
    Except.ok.inj hsplit
  have hranges : ranges ≠ [] := by
    rintro rfl
    rw [hr] at hcov
    simp [planSteps, checkSteps, stepReach, bind, Except.bind, raiseIf] at hcov
    omega
  have pend := planSteps_pending 0 ranges
  have count := planSteps_length 0 ranges
  have last : ∃ step, (planSteps 0 ranges).getLast? = some step := by
    rw [← Option.isSome_iff_exists, List.getLast?_isSome]
    exact List.ne_nil_of_length_pos (by omega)
  refine
    { version := rfl
      fingerprintLength := digest _
      snapshot := rfl
      config := by rw [active]; exact hcfg
      progress := ⟨by simp, by simp only [count]; omega⟩
      pieces := ?_
      bounded := by simpa [List.length_dropLast, count, PlanConfig.ofConfig] using hmax
      covered := ⟨capacity, by rw [active]; exact hcap, ?_⟩
      last := ?_
      done := by simp
      due := fun step hs => ?_ }
  · refine List.ne_nil_of_length_pos ?_
    simpa [List.length_dropLast, count] using List.length_pos_iff.mpr hranges
  · have hc : ((min config.chunkChars capacity).toNat : Int) = min config.chunkChars capacity := by
      omega
    have ho : ((effectiveOverlap config (min config.chunkChars capacity)).toNat : Int) =
        effectiveOverlap config (min config.chunkChars capacity) := by
      simp only [effectiveOverlap]; omega
    rw [hr, hc, ho] at hcov
    rw [active, count]
    exact hcov
  · obtain ⟨step, hs⟩ := last
    simp only [hs, Option.map_some, (pend step (List.mem_of_getLast? hs)).1]
  · rw [(pend step (List.mem_of_mem_drop hs)).1]
    exact StepStatus.noConfusion

theorem stepReach_eq_of_kind {length : Nat} {capacity overlap previousEnd : Int} {count index : Nat}
    {a b : PlanStep} (hk : a.kind = b.kind) (ho : a.ordinal = b.ordinal) :
    stepReach length capacity overlap count index previousEnd a =
      stepReach length capacity overlap count index previousEnd b := by
  simp only [stepReach, hk, ho]

/-- Marking any step done with an output keeps the checks of the steps. -/
theorem checkSteps_modify {length : Nat} {capacity overlap r : Int} {count : Nat} {output : Text}
    (hout : output ≠ []) (steps : List PlanStep) (k index : Nat) (previousEnd : Int)
    (h : checkSteps length capacity overlap count index previousEnd steps = .ok r) :
    checkSteps length capacity overlap count index previousEnd
      (steps.modify k (fun step => { step with status := .completed, output := some output }))
      = .ok r := by
  induction steps generalizing k index previousEnd with
  | nil => simpa using h
  | cons step steps ih =>
    simp only [checkSteps, bind_eq_ok, raiseIf_eq_ok] at h
    obtain ⟨reached, hreach, _, ho, _, hp, htail⟩ := h
    cases k with
    | zero =>
      have hreach' := (stepReach_eq_of_kind (b := step)
        (a := { step with status := .completed, output := some output }) rfl rfl).trans hreach
      simp only [List.modify_zero_cons, checkSteps, bind_eq_ok, raiseIf_eq_ok]
      exact ⟨reached, hreach', (), by simpa using hout, (), by simp, htail⟩
    | succ k =>
      simp only [List.modify_succ_cons, checkSteps, bind_eq_ok, raiseIf_eq_ok]
      exact ⟨reached, hreach, (), ho, (), hp, ih _ _ _ htail⟩

/-- A plan stays accepted when its next step, not the last one, is done. -/
theorem PlanAccepted.completeStep {platform : Platform} {plan : ChunkPlan} {transcript : Text}
    {output : Text} (h : PlanAccepted platform plan transcript) (hout : output ≠ [])
    (more : plan.nextStep + 1 < plan.steps.length) :
    PlanAccepted platform (plan.completeStep plan.nextStep output) transcript := by
  obtain ⟨k, hk⟩ : ∃ k : Nat, plan.nextStep = k := ⟨plan.nextStep.toNat, by have := h.progress; omega⟩
  have hlen : (plan.completeStep plan.nextStep output).steps.length = plan.steps.length := by
    simp [ChunkPlan.completeStep]
  have hnext : (plan.completeStep plan.nextStep output).nextStep = k + 1 := by
    simp [ChunkPlan.completeStep, hk]
  have hdrop : (plan.completeStep plan.nextStep output).steps.dropLast.length =
      plan.steps.dropLast.length := by
    simp [hlen]
  obtain ⟨capacity, hcap, hcheck⟩ := h.covered
  refine
    { version := h.version
      fingerprintLength := h.fingerprintLength
      snapshot := h.snapshot
      config := h.config
      progress := by rw [hlen, hnext]; omega
      pieces := ?_
      bounded := by rw [hdrop]; exact h.bounded
      covered := ⟨capacity, hcap, ?_⟩
      last := ?_
      done := ?_
      due := ?_ }
  · exact List.ne_nil_of_length_pos (hdrop ▸ List.length_pos_iff.mpr h.pieces)
  · rw [hlen]
    exact checkSteps_modify hout plan.steps _ 0 0 hcheck
  · have hne : ¬ plan.nextStep.toNat = plan.steps.length - 1 := by omega
    rw [← h.last]
    simp [List.getLast?_eq_getElem?, ChunkPlan.completeStep, hne]
  · intro step hs
    rw [hnext, List.mem_take_iff_getElem] at hs
    obtain ⟨i, hi, rfl⟩ := hs
    simp only [ChunkPlan.completeStep, List.getElem_modify, hk, Int.toNat_natCast]
    split
    · rfl
    · refine h.done _ ?_
      rw [List.mem_take_iff_getElem]
      exact ⟨i, by rw [hlen] at hi; omega, rfl⟩
  · intro step hs
    rw [hnext, List.mem_drop_iff_getElem] at hs
    obtain ⟨i, hi, rfl⟩ := hs
    simp only [ChunkPlan.completeStep, List.getElem_modify, hk, Int.toNat_natCast]
    rw [if_neg (by omega)]
    refine h.due _ ?_
    rw [List.mem_drop_iff_getElem]
    exact ⟨i + 1, by rw [hlen] at hi; omega, by simp only [hk]; congr 1; omega⟩

end YTPipe.Broker
