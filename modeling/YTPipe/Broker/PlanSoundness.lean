import Mathlib.Data.List.Chain
import YTPipe.Broker.PlanJson
import YTPipe.StageRun

/-!
# What an accepted plan looks like

The validator's checks taken together, for the plan a value stands for.
-/

namespace YTPipe.Broker

open Json (Dict)

/-- The ranges cover `length` characters from the first on: each within the
capacity, and each with the one before it within the overlap. -/
structure Covers (length : Nat) (capacity overlap : Int) (ranges : List (Int × Int)) : Prop where
  starts : ranges.head?.map (·.1) = some 0
  ends : ranges.getLast?.map (·.2) = some (length : Int)
  fits : ∀ r ∈ ranges, 0 ≤ r.1 ∧ r.1 < r.2 ∧ r.2 ≤ length ∧ r.2 - r.1 ≤ capacity
  follows : ranges.IsChain fun r s => s.1 ≤ r.2 ∧ r.2 - s.1 ≤ overlap ∧ r.2 < s.2

/-- The kinds of partial steps for the ranges. -/
def pieceKinds (ranges : List (Int × Int)) : List StepKind := ranges.map fun r => .piece r.1 r.2

/-- The plan after its next steps gave the outputs. -/
def ChunkPlan.after (plan : ChunkPlan) : List Text → ChunkPlan
  | [] => plan
  | output :: outputs => (plan.completeStep plan.nextStep output).after outputs

/-- The plan has a next step, the final one just where it is the last, and a prompt
to submit for it. Only a final prompt too long for the model's context is not
submitted: no check of a plan can know how long the outputs will be. -/
structure Submittable (transcript : Text) (plan : ChunkPlan) : Prop where
  step : ∃ step, plan.steps[plan.nextStep.toNat]? = some step
    ∧ (step.kind = .final ↔ plan.nextStep + 1 = plan.steps.length)
    ∧ ((∃ submission, stepPrompt plan step transcript = some (.ok submission))
      ∨ (step.kind = .final ∧
          stepPrompt plan step transcript = some (.error "backend_context_exceeded")))

/-- A plan of partial steps and one final step, done as far as its counter says. -/
structure SoundPlan (transcript : Text) (plan : ChunkPlan) : Prop where
  shape : ∃ ranges capacity, plan.steps.map (·.kind) = pieceKinds ranges ++ [.final]
    ∧ 1 ≤ ranges.length ∧ ranges.length ≤ plan.config.maxChunks
    ∧ chunkCapacity plan.config.active = .ok capacity
    ∧ Covers transcript.length (min plan.config.chunkChars capacity)
      (effectiveOverlap plan.config.active (min plan.config.chunkChars capacity)) ranges
  progress : 0 ≤ plan.nextStep ∧ plan.nextStep < plan.steps.length
  done : ∀ (i : Nat) (step : PlanStep), plan.steps[i]? = some step → i < plan.nextStep →
    step.status = .completed ∧ ∃ output, step.output = some output ∧ output ≠ []
  due : ∀ (i : Nat) (step : PlanStep), plan.steps[i]? = some step → plan.nextStep ≤ i →
    step.status = .pending ∧ step.output = none
  runs : ∀ outputs : List Text, (∀ output ∈ outputs, output ≠ []) →
    plan.nextStep + outputs.length < plan.steps.length →
      (plan.after outputs).nextStep = plan.nextStep + outputs.length
        ∧ (plan.after outputs).steps.length = plan.steps.length
        ∧ Submittable transcript (plan.after outputs)

section steps

variable {length count index : Nat} {capacity overlap previousEnd last : Int}

/-- Only the last step may be the final one. -/
theorem checkSteps_dropLast {steps : List PlanStep} (hcount : count = index + steps.length)
    (h : checkSteps length capacity overlap count index previousEnd steps = .ok last) :
    ∀ step ∈ steps.dropLast, step.kind ≠ .final := by
  induction steps generalizing index previousEnd with
  | nil => exact fun _ hs => absurd hs List.not_mem_nil
  | cons step steps ih =>
    simp only [checkSteps, bind_eq_ok, raiseIf_eq_ok] at h
    obtain ⟨reached, hreach, _, _, _, _, hrest⟩ := h
    have rest := ih (by rw [hcount, List.length_cons]; omega) hrest
    cases steps with
    | nil => exact fun _ hs => absurd hs List.not_mem_nil
    | cons next steps =>
      intro s hs
      rcases List.mem_cons.mp hs with rfl | hs
      · intro final
        simp only [stepReach, final] at hreach
        split at hreach
        · cases hreach
        · next place =>
          have := Decidable.not_not.mp (not_or.mp place).1
          simp only [List.length_cons] at hcount
          omega
      · exact rest s hs

/-- What the checks of partial steps and a final step say of the ranges. -/
theorem checkSteps_covers {ranges : List (Int × Int)} {steps : List PlanStep}
    (kinds : steps.map (·.kind) = pieceKinds ranges ++ [.final])
    (h : checkSteps length capacity overlap count index previousEnd steps = .ok last) :
    (∀ r ∈ ranges, 0 ≤ r.1 ∧ r.1 < r.2 ∧ r.2 ≤ length ∧ r.2 - r.1 ≤ capacity)
      ∧ (ranges.IsChain fun r s => s.1 ≤ r.2 ∧ r.2 - s.1 ≤ overlap ∧ r.2 < s.2)
      ∧ (∀ r ∈ ranges.head?, (index = 0 → r.1 = 0)
        ∧ (0 < index → r.1 ≤ previousEnd ∧ previousEnd - r.1 ≤ overlap ∧ previousEnd < r.2))
      ∧ last = (ranges.getLast?.map (·.2)).getD previousEnd := by
  induction ranges generalizing steps index previousEnd with
  | nil =>
    obtain ⟨step, rfl, final⟩ : ∃ step, steps = [step] ∧ step.kind = .final := by
      cases steps with
      | nil => cases kinds
      | cons step steps =>
        obtain ⟨kind, none⟩ := List.cons.inj kinds
        exact ⟨step, by rw [List.map_eq_nil_iff.mp none], kind⟩
    simp only [checkSteps, bind_eq_ok, raiseIf_eq_ok, stepReach, final] at h
    obtain ⟨reached, hreach, _, _, _, _, hlast⟩ := h
    split at hreach
    · cases hreach
    · cases hreach
      cases hlast
      exact ⟨fun _ hr => absurd hr List.not_mem_nil, .nil, fun _ hr => (by cases hr), rfl⟩
  | cons r ranges ih =>
    cases steps with
    | nil => cases kinds
    | cons step steps =>
      obtain ⟨kind, rest⟩ := List.cons.inj kinds
      simp only [checkSteps, bind_eq_ok, raiseIf_eq_ok, stepReach, kind] at h
      obtain ⟨reached, hreach, _, _, _, _, hrest⟩ := h
      split at hreach
      · cases hreach
      next place =>
      cases hreach
      obtain ⟨fits, chain, first, hlast⟩ := ih rest hrest
      simp only [not_or, not_and, Decidable.not_not] at place
      obtain ⟨_, inside, short, start, near, further⟩ := place
      refine ⟨?_, ?_, ?_, ?_⟩
      · intro s hs
        rcases List.mem_cons.mp hs with rfl | hs
        · omega
        · exact fits s hs
      · cases ranges with
        | nil => exact .singleton _
        | cons s ranges =>
          exact .cons_cons ((first s rfl).2 (Nat.succ_pos _)) chain
      · intro s hs
        cases hs
        refine ⟨start, fun later => ?_⟩
        have := near later
        have := further later
        omega
      · rw [hlast]
        cases ranges with
        | nil => rfl
        | cons s ranges =>
          rw [List.getLast?_cons_cons, List.getLast?_cons]
          rfl

end steps

theorem checkSteps_outputs {length count index : Nat} {capacity overlap previousEnd last : Int}
    {steps : List PlanStep}
    (h : checkSteps length capacity overlap count index previousEnd steps = .ok last) :
    ∀ step ∈ steps, ¬ (step.status = .completed ∧ step.output.getD [] = [])
      ∧ ¬ (step.status = .pending ∧ step.output ≠ none) := by
  induction steps generalizing index previousEnd with
  | nil => exact fun _ hs => absurd hs List.not_mem_nil
  | cons step steps ih =>
    simp only [checkSteps, bind_eq_ok, raiseIf_eq_ok] at h
    obtain ⟨reached, _, _, full, _, absent, hrest⟩ := h
    intro s hs
    rcases List.mem_cons.mp hs with rfl | hs
    · exact ⟨full, absent⟩
    · exact ih hrest s hs

/-- Steps that are all partial have ranges. -/
theorem pieces_of_partial {steps : List PlanStep} (h : ∀ step ∈ steps, step.kind ≠ .final) :
    ∃ ranges, steps.map (·.kind) = pieceKinds ranges := by
  induction steps with
  | nil => exact ⟨[], rfl⟩
  | cons step steps ih =>
    obtain ⟨ranges, hranges⟩ := ih fun s hs => h s (List.mem_cons_of_mem _ hs)
    cases kind : step.kind with
    | final => exact absurd kind (h step (List.mem_cons_self ..))
    | piece start stop =>
      refine ⟨(start, stop) :: ranges, ?_⟩
      rw [List.map_cons, kind, hranges]
      rfl

/-- The final step is the one after the ranges. -/
theorem kind_eq_final {ranges : List (Int × Int)} {steps : List PlanStep}
    (kinds : steps.map (·.kind) = pieceKinds ranges ++ [.final]) {i : Nat} (inside : i < steps.length) :
    steps[i].kind = .final ↔ i + 1 = steps.length := by
  have total : steps.length = ranges.length + 1 := by
    have := congrArg List.length kinds
    simpa [pieceKinds] using this
  have bound : i < (pieceKinds ranges ++ [StepKind.final]).length := by
    simp [pieceKinds]
    omega
  have place : steps[i].kind = (pieceKinds ranges ++ [.final])[i] := by
    rw [List.getElem_of_eq kinds.symm, List.getElem_map]
  rw [place, List.getElem_append]
  split
  · next before =>
    simp only [pieceKinds, List.length_map] at before
    constructor
    · intro final
      simp [pieceKinds] at final
    · omega
  · next after =>
    simp only [pieceKinds, List.length_map] at after
    constructor
    · omega
    · simp

namespace PlanAccepted

variable {platform : Platform} {plan : ChunkPlan} {transcript : Text}

theorem shape (h : PlanAccepted platform plan transcript)
    (final : plan.steps.getLast?.map (·.kind) = some .final) :
    ∃ ranges, plan.steps.map (·.kind) = pieceKinds ranges ++ [.final]
      ∧ ranges.length = plan.steps.dropLast.length := by
  obtain ⟨capacity, _, hcheck⟩ := h.covered
  obtain ⟨ranges, hranges⟩ :=
    pieces_of_partial (checkSteps_dropLast (Nat.zero_add _).symm hcheck)
  obtain ⟨last, hlast, kind⟩ := Option.map_eq_some_iff.mp final
  refine ⟨ranges, ?_, ?_⟩
  · have split : plan.steps = plan.steps.dropLast ++ [last] := by
      have some := List.getLast?_eq_some_iff.mp hlast
      obtain ⟨front, hfront⟩ := some
      rw [hfront, List.dropLast_concat]
    rw [split, List.map_append, List.map_singleton, kind, hranges]
  · have count := congrArg List.length hranges
    simpa [pieceKinds] using count.symm

theorem output_of_done (h : PlanAccepted platform plan transcript) {i : Nat} {step : PlanStep}
    (hi : plan.steps[i]? = some step) (before : i < plan.nextStep) :
    step.status = .completed ∧ ∃ output, step.output = some output ∧ output ≠ [] := by
  obtain ⟨capacity, _, hcheck⟩ := h.covered
  obtain ⟨full, _⟩ := checkSteps_outputs hcheck step (List.mem_of_getElem? hi)
  have inside : step ∈ plan.steps.take plan.nextStep.toNat := by
    rw [List.mem_take_iff_getElem]
    obtain ⟨hlt, rfl⟩ := List.getElem?_eq_some_iff.mp hi
    exact ⟨i, by omega, rfl⟩
  have completed := h.done step inside
  refine ⟨completed, ?_⟩
  cases output : step.output with
  | none => exact absurd ⟨completed, by rw [output]; rfl⟩ full
  | some text =>
    refine ⟨text, rfl, fun empty => full ⟨completed, ?_⟩⟩
    rw [output]
    exact empty

theorem output_of_due (h : PlanAccepted platform plan transcript) {i : Nat} {step : PlanStep}
    (hi : plan.steps[i]? = some step) (after : plan.nextStep ≤ i) :
    step.status = .pending ∧ step.output = none := by
  obtain ⟨capacity, _, hcheck⟩ := h.covered
  obtain ⟨_, absent⟩ := checkSteps_outputs hcheck step (List.mem_of_getElem? hi)
  have inside : step ∈ plan.steps.drop plan.nextStep.toNat := by
    rw [List.mem_drop_iff_getElem]
    obtain ⟨hlt, rfl⟩ := List.getElem?_eq_some_iff.mp hi
    have := h.progress
    exact ⟨i - plan.nextStep.toNat, by omega, by congr 1; omega⟩
  have pending : step.status = .pending := by
    cases status : step.status with
    | pending => rfl
    | completed => exact absurd status (h.due step inside)
  exact ⟨pending, Decidable.not_not.mp fun output => absent ⟨pending, output⟩⟩

/-- The ranges of an accepted plan that ends with the final step. -/
theorem covers (h : PlanAccepted platform plan transcript)
    (final : plan.steps.getLast?.map (·.kind) = some .final) :
    ∃ ranges capacity, plan.steps.map (·.kind) = pieceKinds ranges ++ [.final]
      ∧ 1 ≤ ranges.length ∧ ranges.length ≤ plan.config.maxChunks
      ∧ chunkCapacity plan.config.active = .ok capacity
      ∧ Covers transcript.length (min plan.config.chunkChars capacity)
        (effectiveOverlap plan.config.active (min plan.config.chunkChars capacity)) ranges := by
  obtain ⟨capacity, hcapacity, hcheck⟩ := h.covered
  obtain ⟨ranges, kinds, count⟩ := h.shape final
  obtain ⟨fits, chain, first, hlast⟩ := checkSteps_covers kinds hcheck
  have some : 1 ≤ ranges.length := count ▸ List.length_pos_iff.mpr h.pieces
  refine ⟨ranges, capacity, kinds, some, count ▸ h.bounded, hcapacity, ?_, ?_, fits, chain⟩
  · cases ranges with
    | nil => cases some
    | cons r ranges => exact congrArg Option.some ((first r rfl).1 rfl)
  · cases ranges with
    | nil => cases some
    | cons r ranges =>
      rw [List.getLast?_cons] at hlast ⊢
      exact congrArg Option.some hlast.symm

/-- The next step is a range of the transcript, or it is the final one and the
outputs it joins are there. -/
theorem submittable (h : PlanAccepted platform plan transcript)
    (final : plan.steps.getLast?.map (·.kind) = some .final) : Submittable transcript plan := by
  obtain ⟨ranges, capacity, kinds, _, _, _, cover⟩ := h.covers final
  obtain ⟨lo, hi⟩ := h.progress
  have inside : plan.nextStep.toNat < plan.steps.length := by omega
  have place := kind_eq_final kinds inside
  constructor
  refine ⟨_, List.getElem?_eq_getElem inside, by rw [place]; omega, ?_⟩
  unfold stepPrompt
  cases kind : (plan.steps[plan.nextStep.toNat]).kind with
  | piece start stop =>
    have own : StepKind.piece start stop ∈ pieceKinds ranges := by
      have among : StepKind.piece start stop ∈ plan.steps.map (·.kind) :=
        List.mem_map.mpr ⟨_, List.getElem_mem inside, kind⟩
      rw [kinds] at among
      exact (List.mem_append.mp among).resolve_right (by simp)
    obtain ⟨r, hr, same⟩ := List.mem_map.mp own
    obtain ⟨rfl, rfl⟩ := StepKind.piece.inj same
    obtain ⟨lower, order, upper, _⟩ := cover.fits r hr
    exact .inl ⟨_, if_neg (not_not.mpr ⟨lower, order, upper⟩)⟩
  | final =>
    have full : (plan.steps.dropLast.map (·.output.getD [])).all (!·.isEmpty) := by
      rw [List.all_map, List.all_eq_true]
      intro step hstep
      obtain ⟨i, hi, rfl⟩ := List.getElem_of_mem hstep
      rw [List.length_dropLast] at hi
      have last := place.mp kind
      obtain ⟨_, output, houtput, filled⟩ := h.output_of_done
        (List.getElem?_eq_getElem (show i < plan.steps.length by omega)) (by omega)
      simp [houtput, filled]
    obtain ⟨tokens, htokens⟩ : ∃ tokens, estimatedRequestTokens
        (finalPrompt (plan.steps.dropLast.map (·.output.getD []))).length (configFromPlan plan)
        = .ok tokens := by
      simp only [estimatedRequestTokens, bind_eq_ok]
      exact ⟨_, (), h.config, rfl⟩
    simp only [full, htokens, not_true, if_false]
    split
    · exact .inr ⟨trivial, rfl⟩
    · exact .inl ⟨_, rfl⟩

theorem completeStep_kinds (plan : ChunkPlan) (index : Int) (output : Text) :
    (plan.completeStep index output).steps.map (·.kind) = plan.steps.map (·.kind) := by
  apply List.ext_getElem
  · simp [ChunkPlan.completeStep]
  · intro i _ _
    simp only [ChunkPlan.completeStep, List.getElem_map, List.getElem_modify]
    split <;> rfl

theorem after (outputs : List Text) (filled : ∀ output ∈ outputs, output ≠ [])
    (h : PlanAccepted platform plan transcript)
    (final : plan.steps.getLast?.map (·.kind) = some .final)
    (room : plan.nextStep + outputs.length < plan.steps.length) :
    PlanAccepted platform (plan.after outputs) transcript
      ∧ (plan.after outputs).steps.getLast?.map (·.kind) = some .final
      ∧ (plan.after outputs).nextStep = plan.nextStep + outputs.length
      ∧ (plan.after outputs).steps.length = plan.steps.length := by
  induction outputs generalizing plan with
  | nil => exact ⟨h, final, (Int.add_zero _).symm, rfl⟩
  | cons output outputs ih =>
    rw [List.length_cons] at room
    have kinds := completeStep_kinds plan plan.nextStep output
    have count := completeStep_length plan plan.nextStep output
    have next : (plan.completeStep plan.nextStep output).nextStep = plan.nextStep + 1 := rfl
    obtain ⟨accepted, ends, reached, total⟩ := ih
      (fun o ho => filled o (List.mem_cons_of_mem _ ho))
      (h.completeStep (filled output (List.mem_cons_self ..)) (by omega))
      (by rw [← List.getLast?_map, kinds, List.getLast?_map, final])
      (by rw [count, next]; omega)
    refine ⟨accepted, ends, ?_, total.trans count⟩
    rw [ChunkPlan.after, reached, next, List.length_cons]
    omega

/-- An accepted plan whose last step is the final one is sound. -/
theorem sound (h : PlanAccepted platform plan transcript)
    (final : plan.steps.getLast?.map (·.kind) = some .final) : SoundPlan transcript plan where
  shape := h.covers final
  progress := h.progress
  done _ _ := h.output_of_done
  due _ _ := h.output_of_due
  runs outputs filled room := by
    obtain ⟨accepted, ends, next, count⟩ := h.after outputs filled final room
    exact ⟨next, count, accepted.submittable ends⟩

end PlanAccepted

/-- The value's last step is a final one. -/
def endsWithFinal (value : Json) : Bool :=
  let steps := (value.asDict.bind (·.get? "steps")).bind Json.asArr
  ((steps.bind List.getLast?).bind Json.asDict).bind (·.getStr? "kind") == some "final"

theorem readStep_final {step : Json} {s : PlanStep} (h : readStep step = some s) :
    s.kind = .final ↔ (step.asDict.bind (·.getStr? "kind")) = some "final" := by
  simp only [readStep, Option.bind_eq_bind, Option.bind_eq_some_iff, toOption_eq_some] at h
  obtain ⟨d, hd, _, _, _, _, h⟩ := h
  simp only [hd, Option.bind_some, Dict.getStr?]
  split at h
  · next kind =>
    obtain ⟨_, _, _, _, _, _, _, _, h⟩ := by simpa only [Option.bind_eq_some_iff] using h
    cases h
    simp [kind, Json.asStr]
  · next kind =>
    obtain ⟨_, _, h⟩ := Option.bind_eq_some_iff.mp h
    cases h
    simp [kind, Json.asStr]
  · cases h

theorem mapM_getLast? {α β : Type} {f : α → Option β} {xs : List α} {ys : List β}
    (h : xs.mapM f = some ys) : ys.getLast? = xs.getLast?.bind f := by
  induction xs generalizing ys with
  | nil =>
    cases h
    rfl
  | cons x xs ih =>
    simp only [List.mapM_cons, Option.bind_eq_bind, Option.bind_eq_some_iff] at h
    obtain ⟨y, hy, ys, hys, h⟩ := h
    cases h
    have rest := ih hys
    cases xs with
    | nil =>
      cases hys
      exact hy.symm
    | cons x' xs =>
      cases ys with
      | nil => exact absurd (mapM_length hys) nofun
      | cons y' ys => rw [List.getLast?_cons_cons, List.getLast?_cons_cons, rest]

theorem endsWithFinal_iff {value : Json} {plan : ChunkPlan} (h : readPlan value = some plan) :
    endsWithFinal value = true ↔ plan.steps.getLast?.map (·.kind) = some .final := by
  obtain ⟨d, c, steps, hd, _, _, _, _, _, _, hsteps, hread, _⟩ := readPlan_eq_some.mp h
  simp only [endsWithFinal, hd, Option.bind_some, hsteps, beq_iff_eq]
  have last := mapM_getLast? hread
  cases hlast : steps.getLast? with
  | none =>
    rw [hlast] at last
    simp [last]
  | some step =>
    rw [hlast] at last
    cases hstep : readStep step with
    | none =>
      have some := last.trans hstep
      rw [List.getLast?_eq_none_iff] at some
      have count := mapM_length hread
      rw [some, eq_comm, List.length_nil, List.length_eq_zero_iff] at count
      rw [count] at hlast
      cases hlast
    | some s =>
      rw [last.trans hstep, Option.bind_some, ← readStep_final hstep]
      simp

/-- An accepted value stands for a sound plan just where its last step is a final one. -/
theorem validatePlanJson_sound (platform : Platform) (value : Json) (transcript : Text)
    (accepted : validatePlanJson platform value transcript = .ok ()) :
    (∃ plan, readPlan value = some plan ∧ SoundPlan transcript plan)
      ↔ endsWithFinal value = true := by
  obtain ⟨plan, hplan, h⟩ := validatePlanJson_eq_ok.mp accepted
  rw [endsWithFinal_iff hplan]
  constructor
  · rintro ⟨plan', hplan', sound⟩
    cases hplan.symm.trans hplan'
    obtain ⟨ranges, capacity, kinds, _⟩ := sound.shape
    rw [← List.getLast?_map, kinds, List.getLast?_concat]
  · exact fun final => ⟨plan, hplan, h.sound final⟩

/-- A plan for the two characters of the sample video. -/
def Sample.chunkPlan (steps : List PlanStep) : ChunkPlan :=
  ⟨1, "23877ac9216deab2d2a2e576a18957acf662b7fe362c73a73e30cf1fd4acd8ea",
    ⟨2048, 1000, 0, 6, 1, 1347⟩, 0, steps⟩

theorem validatePlanJson_sound_final : ∃ plan, readPlan (planJson (Sample.chunkPlan
    [⟨.piece 0 1, 0, .pending, none⟩, ⟨.piece 1 2, 1, .pending, none⟩,
      ⟨.final, 0, .pending, none⟩])) = some plan ∧ SoundPlan ['a', 'b'] plan :=
  (validatePlanJson_sound (Sample.platform .assigned) _ _ (by decide +kernel)).mpr
    (by decide +kernel)

/-- A plan of partial steps alone. -/
def Sample.endless : ChunkPlan :=
  Sample.chunkPlan [⟨.piece 0 1, 0, .pending, none⟩, ⟨.piece 1 2, 1, .pending, none⟩]

theorem validatePlanJson_endless :
    validatePlanJson (Sample.platform .assigned) (planJson Sample.endless) ['a', 'b'] = .ok ()
      ∧ ¬ ∃ plan, readPlan (planJson Sample.endless) = some plan ∧ SoundPlan ['a', 'b'] plan := by
  constructor
  · decide +kernel
  · rintro ⟨plan, hplan, sound⟩
    have known : readPlan (planJson Sample.endless) = some Sample.endless := by decide +kernel
    cases known.symm.trans hplan
    obtain ⟨ranges, capacity, kinds, _⟩ := sound.shape
    have last := congrArg List.getLast? kinds
    rw [List.getLast?_concat] at last
    cases last

end YTPipe.Broker
