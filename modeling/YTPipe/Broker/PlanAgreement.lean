import Mathlib.Algebra.Order.Field.Basic
import Mathlib.Algebra.Order.Ring.Rat
import YTPipe.Broker.PlanSoundness
import YTPipe.JsonRoundTrip

/-!
# The planner and the validator

What `split_transcript` gives, and that the validator takes the plan made of
it, also when the plan was written as JSON and read back.
-/

namespace YTPipe

/-- The texts of floats, where `read` is `float`. -/
def Platform.floatText (platform : Platform) (read : Text → Rat) : FloatText :=
  ⟨fun q => (platform.floatRepr q).toList, read⟩

namespace Broker

/-- The loop of `split_transcript` ends from `start` on with the chunks. -/
inductive Splits (text : Text) (capacity overlap : Nat) : Nat → List (Nat × Nat) → Prop
  | done {start : Nat} (past : text.length ≤ start) : Splits text capacity overlap start []
  | last {start : Nat} (before : start < text.length)
      (stop : text.length ≤ chunkEnd text capacity start) :
      Splits text capacity overlap start [(start, chunkEnd text capacity start)]
  | next {start : Nat} {chunks : List (Nat × Nat)} (before : start < text.length)
      (stop : chunkEnd text capacity start < text.length)
      (rest : Splits text capacity overlap
        (max (start + 1) (chunkEnd text capacity start - overlap)) chunks) :
      Splits text capacity overlap start ((start, chunkEnd text capacity start) :: chunks)

theorem splits_splitFrom (text : Text) (capacity overlap : Nat) {fuel start : Nat}
    (enough : text.length ≤ start + fuel) :
    Splits text capacity overlap start (splitFrom text capacity overlap fuel start) := by
  induction fuel generalizing start with
  | zero => exact .done enough
  | succ fuel ih =>
    unfold splitFrom
    split
    · next before =>
      simp only
      split
      · next stop => exact .last before stop
      · next stop => exact .next before (by omega) (ih (by omega))
    · next past => exact .done (by omega)

/-- The ranges as the plan holds them. -/
def castRanges (ranges : List (Nat × Nat)) : List (Int × Int) :=
  ranges.map fun r => ((r.1 : Int), (r.2 : Int))

theorem planSteps_kinds (index : Nat) (ranges : List (Nat × Nat)) :
    (planSteps index ranges).map (·.kind) = pieceKinds (castRanges ranges) ++ [.final] := by
  induction ranges generalizing index with
  | nil => rfl
  | cons r ranges ih =>
    obtain ⟨start, stop⟩ := r
    rw [planSteps, List.map_cons, ih]
    rfl

theorem planSteps_plain (index : Nat) (ranges : List (Nat × Nat)) :
    ∀ step ∈ planSteps index ranges, Plain step := by
  intro step hs
  obtain ⟨pending, none⟩ := planSteps_pending index ranges step hs
  refine ⟨fun final => ?_, fun full => ?_, fun absent => absent.2 none⟩
  · induction ranges generalizing index with
    | nil =>
      rw [List.mem_singleton.mp hs]
    | cons r ranges ih =>
      rcases List.mem_cons.mp hs with rfl | hs
      · cases final
      · exact ih (index + 1) hs
  · cases pending.symm.trans full.1

/-- What a reader of the pieces joins: each piece without what the ones before
it reached. -/
def rejoin : Int → List ((Int × Int) × Text) → Text
  | _, [] => []
  | reached, ((start, stop), piece) :: pieces =>
    piece.drop (reached - start).toNat ++ rejoin stop pieces

/-- The pieces of the ranges. -/
def cut (text : Text) (ranges : List (Int × Int)) : List ((Int × Int) × Text) :=
  ranges.map fun r => (r, text.slice r.1.toNat r.2.toNat)

theorem slice_drop (text : Text) {start stop reached : Nat} (from_start : start ≤ reached)
    (to_stop : reached ≤ stop) :
    (text.slice start stop).drop (reached - start) = text.slice reached stop := by
  simp only [Text.slice, List.drop_take, List.drop_drop]
  congr 1
  · omega
  · congr 1
    omega

theorem take_append_slice (text : Text) {reached stop : Nat} (h : reached ≤ stop) :
    text.take reached ++ text.slice reached stop = text.take stop := by
  obtain ⟨n, rfl⟩ := Nat.exists_eq_add_of_le h
  rw [List.take_add, Text.slice, Nat.add_sub_cancel_left]

/-- The pieces of ranges that follow one another give the text they reach. -/
theorem rejoin_cut {length : Nat} {overlap reached : Int} (text : Text)
    {ranges : List (Int × Int)} (fits : ∀ r ∈ ranges, 0 ≤ r.1 ∧ r.1 < r.2 ∧ r.2 ≤ length)
    (chain : ranges.IsChain fun r s => s.1 ≤ r.2 ∧ r.2 - s.1 ≤ overlap ∧ r.2 < s.2)
    (first : ∀ r ∈ ranges.head?, r.1 ≤ reached ∧ reached ≤ r.2) :
    text.take reached.toNat ++ rejoin reached (cut text ranges)
      = text.take ((ranges.getLast?.map (·.2)).getD reached).toNat := by
  induction ranges generalizing reached with
  | nil => simp [cut, rejoin]
  | cons r ranges ih =>
    obtain ⟨start, stop⟩ := r
    obtain ⟨lower, order, upper⟩ := fits _ (List.mem_cons_self ..)
    obtain ⟨near, far⟩ := first _ rfl
    simp only at lower order upper near far
    have rest := @ih stop (fun s hs => fits s (List.mem_cons_of_mem _ hs))
      (List.isChain_cons.mp chain).2 (by
        intro s hs
        have := (List.isChain_cons.mp chain).1 s hs
        simp only at this
        omega)
    have ends : ((((start, stop) :: ranges).getLast?.map (·.2)).getD reached)
        = (ranges.getLast?.map (·.2)).getD stop := by
      cases ranges with
      | nil => rfl
      | cons s ranges => rw [List.getLast?_cons_cons, List.getLast?_cons]; rfl
    rw [ends, ← rest, ← take_append_slice text (show reached.toNat ≤ stop.toNat by omega),
      List.append_assoc]
    congr 1
    simp only [cut, List.map_cons, rejoin]
    rw [show (reached - start).toNat = reached.toNat - start.toNat by omega,
      slice_drop text (by omega) (by omega)]

/-- The characters that a piece may have. -/
def pieceLimit (config : BrokerChunkConfig) : Int :=
  min config.chunkChars (((config.contextTokens - config.maxTokens - estimatedPromptOverheadTokens :
    Int) : Rat) * config.charsPerToken).floor

/-- The ranges of the plan of a text. -/
structure Planned (config : BrokerChunkConfig) (text : Text) (ranges : List (Int × Int)) :
    Prop where
  covers : Covers text.length (pieceLimit config)
    (min config.overlapChars (pieceLimit config / 2)) ranges
  budget : ∀ r ∈ ranges, ∃ tokens, estimatedRequestTokens (r.2 - r.1).toNat config = .ok tokens
    ∧ tokens ≤ config.contextTokens
  joined : rejoin 0 (cut text ranges) = text

theorem charsPerToken_of_valid {config : BrokerChunkConfig} (h : config.validate = .ok ()) :
    1 ≤ config.charsPerToken := by
  by_cases ratio : 1 ≤ config.charsPerToken ∧ config.charsPerToken ≤ 8
  · exact ratio.1
  · simp only [BrokerChunkConfig.validate, ratio, not_false_eq_true, if_true] at h
    repeat' split at h
    all_goals cases h

/-- The least capacity is never what counts. -/
theorem chunkCapacity_eq_floor {config : BrokerChunkConfig} {capacity : Int}
    (valid : config.validate = .ok ()) (h : chunkCapacity config = .ok capacity) :
    min config.chunkChars capacity = pieceLimit config := by
  simp only [chunkCapacity] at h
  split at h
  · cases h
  · next some =>
    cases h
    have ratio := charsPerToken_of_valid valid
    have whole : 1 ≤ (((config.contextTokens - config.maxTokens - estimatedPromptOverheadTokens :
        Int) : Rat) * config.charsPerToken).floor := by
      rw [Rat.le_floor_iff]
      exact one_le_mul_of_one_le_of_one_le (by exact_mod_cast Int.not_le.mp some) ratio
    simp only [pieceLimit, Int.max_eq_right whole]

theorem estimatedRequestTokens_le {config : BrokerChunkConfig} (valid : config.validate = .ok ())
    {characters : Nat} (fits : (characters : Int) ≤ pieceLimit config) :
    ∃ tokens, estimatedRequestTokens characters config = .ok tokens
      ∧ tokens ≤ config.contextTokens := by
  refine ⟨_, by simp only [estimatedRequestTokens, bind_eq_ok]; exact ⟨(), valid, rfl⟩, ?_⟩
  have ratio := charsPerToken_of_valid valid
  have few : ((characters : Rat) / config.charsPerToken).ceil
      ≤ config.contextTokens - config.maxTokens - estimatedPromptOverheadTokens := by
    rw [Rat.ceil_le_iff, div_le_iff₀ (lt_of_lt_of_le zero_lt_one ratio)]
    exact_mod_cast Rat.le_floor_iff.mp (Int.le_min.mp fits).2
  omega

/-- What a plan that was built is made of. -/
theorem buildPlan_eq_some {platform : Platform} {text : Text} {config : BrokerChunkConfig}
    {plan : ChunkPlan} (h : buildPlan platform text config = .ok (some plan)) :
    config.validate = .ok () ∧ plan.config.active = config ∧ plan.config = .ofConfig config
      ∧ ∃ ranges, splitTranscript text config = .ok ranges ∧ plan.steps = planSteps 0 ranges := by
  simp only [buildPlan, bind_eq_ok] at h
  obtain ⟨_, valid, tokens, _, h⟩ := h
  split at h
  · cases h
  simp only [bind_eq_ok, raiseIf_eq_ok] at h
  obtain ⟨_, enabled, ranges, hranges, _, _, hplan⟩ := h
  cases hplan
  refine ⟨valid, ?_, rfl, ranges, hranges, rfl⟩
  cases config
  simpa [PlanConfig.ofConfig, PlanConfig.active] using enabled

theorem pieceKinds_injective {ranges ranges' : List (Int × Int)}
    (h : pieceKinds ranges = pieceKinds ranges') : ranges = ranges' := by
  refine List.map_injective_iff.mpr ?_ h
  rintro ⟨start, stop⟩ ⟨start', stop'⟩ same
  cases same
  rfl

/-- The ranges of a plan that was built. -/
theorem buildPlan_planned {platform : Platform} {text : Text} {config : BrokerChunkConfig}
    {plan : ChunkPlan} (digest : ∀ bytes, (platform.sha256 bytes).length = 64)
    (h : buildPlan platform text config = .ok (some plan)) :
    ∃ ranges, splitTranscript text config = .ok ranges
      ∧ plan.steps.map (·.kind) = pieceKinds (castRanges ranges) ++ [.final]
      ∧ Planned config text (castRanges ranges) := by
  obtain ⟨valid, active, snapshot, chunks, split, steps⟩ := buildPlan_eq_some h
  have kinds := planSteps_kinds 0 chunks
  rw [← steps] at kinds
  obtain ⟨ranges, capacity, same, _, _, hcapacity, cover⟩ :=
    (buildPlan_accepted digest h).covers (by rw [← List.getLast?_map, kinds, List.getLast?_concat])
  rw [active] at hcapacity cover
  have size : plan.config.chunkChars = config.chunkChars := by rw [snapshot]; rfl
  rw [size, chunkCapacity_eq_floor valid hcapacity] at cover
  obtain rfl := pieceKinds_injective (List.append_cancel_right (same.symm.trans kinds))
  refine ⟨chunks, split, kinds, cover, ?_, ?_⟩
  · intro r hr
    obtain ⟨lower, order, upper, short⟩ := cover.fits r hr
    exact estimatedRequestTokens_le valid (by omega)
  · have first : ∀ r ∈ (castRanges chunks).head?, r.1 ≤ 0 ∧ 0 ≤ r.2 := by
      intro r hr
      have start := cover.starts
      rw [Option.mem_def.mp hr] at start
      have := cover.fits r (List.mem_of_mem_head? hr)
      have : r.1 = 0 := Option.some.inj start
      omega
    have whole := rejoin_cut text (fun r hr => ⟨(cover.fits r hr).1, (cover.fits r hr).2.1,
      (cover.fits r hr).2.2.1⟩) cover.follows first
    rw [cover.ends] at whole
    simpa using whole

/-- The ratio is the only float of a plan. -/
theorem floats_planJson (plan : ChunkPlan) :
    Json.floats (planJson plan) = [plan.config.charsPerToken] := by
  have output (text : Option Text) : Json.floats (outputJson text) = [] := by
    cases text <;> rfl
  have status (status : StepStatus) : Json.floats (statusJson status) = [] := by
    cases status <;> rfl
  have none (steps : List PlanStep) : Json.floatsItems (steps.map stepJson) = [] := by
    induction steps with
    | nil => rfl
    | cons step steps ih =>
      rw [List.map_cons, Json.floatsItems, ih, List.append_nil]
      cases kind : step.kind with
      | piece start stop => simp [stepJson, kind, Json.floats, Json.floatsMembers,
          Json.floatsMember, output, status]
      | final => simp [stepJson, kind, Json.floats, Json.floatsMembers, Json.floatsMember, output,
          status]
  simp [planJson, configJson, Json.floats, Json.floatsMembers, Json.floatsMember, none]

/-- Splitting ends, and the plan that is built passes the validator as it is and
after it was written and read. -/
theorem planner_and_validator (platform : Platform) (read : Text → Rat) (text : Text)
    (config : BrokerChunkConfig) (valid : config.validate = .ok ())
    (digest : ∀ bytes, (platform.sha256 bytes).length = 64)
    (kept : (platform.floatText read).Keeps config.charsPerToken) :
    ((∃ error, chunkCapacity config = .error error ∧ splitTranscript text config = .error error)
      ∨ ∃ capacity chunks, chunkCapacity config = .ok capacity
        ∧ splitTranscript text config = .ok chunks
        ∧ Splits text (min config.chunkChars capacity).toNat
          (effectiveOverlap config (min config.chunkChars capacity)).toNat 0 chunks)
    ∧ ∀ plan, buildPlan platform text config = .ok (some plan) →
      validatePlanJson platform (planJson plan) text = .ok ()
      ∧ (∃ value, Json.loads (platform.floatText read)
          (Json.dumps (platform.floatText read) (planJson plan)) = some value
        ∧ validatePlanJson platform value text = .ok ())
      ∧ ∃ ranges, splitTranscript text config = .ok ranges
        ∧ plan.steps.map (·.kind) = pieceKinds (castRanges ranges) ++ [.final]
        ∧ Planned config text (castRanges ranges) := by
  constructor
  · cases hcapacity : chunkCapacity config with
    | error error =>
      left
      refine ⟨error, rfl, ?_⟩
      simp [splitTranscript, valid, hcapacity, bind, Except.bind]
    | ok capacity =>
      right
      refine ⟨capacity, _, rfl, ?_, splits_splitFrom text _ _ (Nat.zero_add _).ge⟩
      simp only [splitTranscript, bind_eq_ok]
      exact ⟨(), valid, capacity, hcapacity, rfl⟩
  · intro plan built
    obtain ⟨_, _, snapshot, chunks, _, steps⟩ := buildPlan_eq_some built
    have plain : ∀ step ∈ plan.steps, Plain step := steps ▸ planSteps_plain 0 chunks
    have accepted : validatePlanJson platform (planJson plan) text = .ok () :=
      validatePlanJson_eq_ok.mpr ⟨plan, readPlan_planJson plain, buildPlan_accepted digest built⟩
    refine ⟨accepted, ⟨planJson plan, Json.loads_dumps ?_, accepted⟩,
      buildPlan_planned digest built⟩
    intro q hq
    rw [floats_planJson, List.mem_singleton, snapshot] at hq
    exact hq ▸ kept

theorem planner_and_validator_pieces : ∃ plan,
    buildPlan (Sample.platform .assigned) ['a', 'b'] (Sample.config 2048).brokerChunkConfig
      = .ok (some plan)
    ∧ (∃ value, Json.loads ((Sample.platform .assigned).floatText fun _ => 1)
        (Json.dumps ((Sample.platform .assigned).floatText fun _ => 1) (planJson plan)) = some value
      ∧ validatePlanJson (Sample.platform .assigned) value ['a', 'b'] = .ok ()) := by
  have kept : ((Sample.platform .assigned).floatText fun _ => 1).Keeps 1 := by
    refine ⟨⟨['1'], ['.', '0'], [], rfl, ?_, ?_, .inl rfl, by simp⟩, rfl⟩
    · exact .inl (.inr ⟨'1', [], rfl, by decide, rfl, fun _ hc => absurd hc List.not_mem_nil⟩)
    · exact .inr ⟨['0'], rfl, by simp, by simp [Json.IsDigits]⟩
  have built : buildPlan (Sample.platform .assigned) ['a', 'b']
      (Sample.config 2048).brokerChunkConfig = .ok (some (Sample.chunkPlan
        [⟨.piece 0 1, 0, .pending, none⟩, ⟨.piece 1 2, 1, .pending, none⟩,
          ⟨.final, 0, .pending, none⟩])) := by
    decide +kernel
  have agree := planner_and_validator (Sample.platform .assigned) (fun _ => 1) ['a', 'b']
    (Sample.config 2048).brokerChunkConfig (by decide +kernel) Sample.sha256_length kept
  exact ⟨_, built, (agree.2 _ built).2.1⟩

end Broker

end YTPipe
