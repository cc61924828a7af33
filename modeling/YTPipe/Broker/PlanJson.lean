import Mathlib.Data.Option.Basic
import YTPipe.Broker.PlanValidity
import YTPipe.Json

/-!
# Plans as JSON

`validate_plan` on any value, and the values that are plans.
-/

namespace YTPipe

namespace Json

/-- `type(value) is int`. -/
def asInt : Json → Option Int
  | int n => some n
  | _ => none

/-- `type(value) is float`. -/
def asFloat : Json → Option Rat
  | float q => some q
  | _ => none

def asArr : Json → Option (List Json)
  | arr items => some items
  | _ => none

/-- The number a value is equal to, where it is an integer. -/
def number : Json → Option Int
  | int n => some n
  | float q => if q.den = 1 then some q.num else none
  | bool b => some (if b then 1 else 0)
  | _ => none

namespace Dict

def getInt? (d : Dict) (name : String) : Option Int := (d.get? name).bind asInt

end Dict

end Json

namespace Broker

open Json (Dict)

/-- A value that has to be there. -/
def need {ε α : Type} (found : Option α) (error : ε) : Except ε α :=
  match found with
  | some a => .ok a
  | none => .error error

@[simp] theorem need_eq_ok {ε α : Type} {found : Option α} {error : ε} {a : α} :
    need found error = .ok a ↔ found = some a := by
  cases found <;> simp [need]

def planKeys : List String := ["version", "fingerprint", "config", "next_step", "steps"]

def configKeys : List String :=
  ["context_tokens", "chunk_chars", "overlap_chars", "max_chunks", "chars_per_token", "max_tokens"]

def pieceKeys : List String := ["kind", "ordinal", "start", "end", "status", "output"]

def finalKeys : List String := ["kind", "ordinal", "status", "output"]

/-- The configuration, where its values have the right types. -/
def readConfig (config : Dict) : Option PlanConfig := do
  let contextTokens ← config.getInt? "context_tokens"
  let chunkChars ← config.getInt? "chunk_chars"
  let overlapChars ← config.getInt? "overlap_chars"
  let maxChunks ← config.getInt? "max_chunks"
  let charsPerToken ← (config.get? "chars_per_token").bind Json.asFloat
  let maxTokens ← config.getInt? "max_tokens"
  return ⟨contextTokens, chunkChars, overlapChars, maxChunks, charsPerToken, maxTokens⟩

/-- `step.get("status") not in {"pending", "completed"}`; a list or an object
cannot be looked up. -/
def stepStatus (step : Dict) : Except ChunkPlanError StepStatus :=
  match step.get? "status" with
  | some (.str "pending") => .ok .pending
  | some (.str "completed") => .ok .completed
  | some value =>
    .error (if value.unhashable then "TypeError" else "broker chunk plan step is invalid")
  | none => .error "broker chunk plan step is invalid"

/-- The output of a step of the status. -/
def stepOutput (status : StepStatus) (step : Dict) : Except ChunkPlanError (Option Text) :=
  match status, (step.get? "output").getD .null with
  | .completed, .str output =>
    if output = "" then .error "broker chunk plan output is invalid" else .ok (some output.toList)
  | .completed, _ => .error "broker chunk plan output is invalid"
  | .pending, .null => .ok none
  | .pending, _ => .error "broker chunk plan pending output is invalid"

/-- The checks of a step's kind and place. -/
def validateKind (length : Nat) (capacity overlap : Int) (count index : Nat) (previousEnd : Int)
    (step : Dict) : Except ChunkPlanError Int :=
  match step.get? "kind" with
  | some (.str "partial") => do
    raiseIf (step.keysAre pieceKeys = false) "broker chunk plan partial schema is invalid"
    let ordinal ← need (step.getInt? "ordinal") "broker chunk plan partial is invalid"
    let start ← need (step.getInt? "start") "broker chunk plan partial is invalid"
    let stop ← need (step.getInt? "end") "broker chunk plan partial is invalid"
    stepReach length capacity overlap count index previousEnd
      ⟨.piece start stop, ordinal, .pending, none⟩
  | some (.str "final") => do
    raiseIf (step.keysAre finalKeys = false) "broker chunk plan final schema is invalid"
    raiseIf (index + 1 ≠ count ∨ (step.get? "ordinal").bind Json.number ≠ some 0)
      "broker chunk plan final is invalid"
    return previousEnd
  | _ => .error "broker chunk plan kind is invalid"

/-- The turn of a step in the loop. -/
def validateStep (length : Nat) (capacity overlap : Int) (count index : Nat) (previousEnd : Int)
    (step : Json) : Except ChunkPlanError (Int × StepStatus) := do
  let step ← need step.asDict "broker chunk plan step is invalid"
  let status ← stepStatus step
  let reached ← validateKind length capacity overlap count index previousEnd step
  let _ ← stepOutput status step
  return (reached, status)

/-- The loop over the steps from `index` on; the result is the end of the last
range and the status of each step. -/
def validateSteps (length : Nat) (capacity overlap : Int) (count : Nat) :
    Nat → Int → List Json → Except ChunkPlanError (Int × List StepStatus)
  | _, previousEnd, [] => .ok (previousEnd, [])
  | index, previousEnd, step :: steps => do
    let (reached, status) ← validateStep length capacity overlap count index previousEnd step
    let (last, rest) ← validateSteps length capacity overlap count (index + 1) reached steps
    return (last, status :: rest)

/-- `validate_plan`. -/
def validatePlanJson (platform : Platform) (plan : Json) (transcript : Text) :
    Except ChunkPlanError Unit := do
  let plan ← need plan.asDict "broker chunk plan version is invalid"
  raiseIf (plan.keysAre planKeys = false) "broker chunk plan version is invalid"
  raiseIf (plan.getInt? "version" ≠ some planVersion) "broker chunk plan version is invalid"
  let digest ← need (plan.getStr? "fingerprint") "broker chunk plan fingerprint is invalid"
  raiseIf (digest.length ≠ 64) "broker chunk plan fingerprint is invalid"
  let config ← need (plan.getDict? "config") "broker chunk plan configuration is invalid"
  raiseIf (config.keysAre configKeys = false) "broker chunk plan configuration is invalid"
  let config ← need (readConfig config) "broker chunk plan configuration is invalid"
  raiseIf (digest ≠ fingerprint platform transcript config)
    "broker chunk plan configuration is invalid"
  config.active.validate.mapError (fun _ => "broker chunk plan configuration is invalid")
  let steps ← need ((plan.get? "steps").bind Json.asArr) "broker chunk plan state is invalid"
  let nextStep ← need (plan.getInt? "next_step") "broker chunk plan state is invalid"
  raiseIf (¬ (0 ≤ nextStep ∧ nextStep < steps.length)) "broker chunk plan state is invalid"
  raiseIf (steps.dropLast.isEmpty = true ∨ steps.dropLast.length > config.maxChunks)
    "broker chunk plan exceeds configured maximum"
  let capacity := min config.chunkChars (← chunkCapacity config.active)
  let overlap := effectiveOverlap config.active capacity
  let (reached, statuses) ← validateSteps transcript.length capacity overlap steps.length 0 0 steps
  raiseIf (reached ≠ transcript.length ∨ statuses.getLast? ≠ some .pending)
    "broker chunk plan coverage is invalid"
  raiseIf (∃ status ∈ statuses.take nextStep.toNat, status ≠ .completed)
    "broker chunk plan progress is invalid"
  raiseIf (∃ status ∈ statuses.drop nextStep.toNat, status = .completed)
    "broker chunk plan progress is invalid"

/-- The step a value stands for. -/
def readStep (step : Json) : Option PlanStep := do
  let step ← step.asDict
  let status ← (stepStatus step).toOption
  let output ← (stepOutput status step).toOption
  match step.get? "kind" with
  | some (.str "partial") => do
    guard (step.keysAre pieceKeys = true)
    let ordinal ← step.getInt? "ordinal"
    let start ← step.getInt? "start"
    let stop ← step.getInt? "end"
    return ⟨.piece start stop, ordinal, status, output⟩
  | some (.str "final") => do
    guard (step.keysAre finalKeys = true ∧ (step.get? "ordinal").bind Json.number = some 0)
    return ⟨.final, 0, status, output⟩
  | _ => none

/-- The plan a value stands for. -/
def readPlan (plan : Json) : Option ChunkPlan := do
  let plan ← plan.asDict
  guard (plan.keysAre planKeys = true)
  let version ← plan.getInt? "version"
  let digest ← plan.getStr? "fingerprint"
  let config ← plan.getDict? "config"
  guard (config.keysAre configKeys = true)
  let config ← readConfig config
  let steps ← (plan.get? "steps").bind Json.asArr
  let steps ← steps.mapM readStep
  let nextStep ← plan.getInt? "next_step"
  return ⟨version, digest, config, nextStep, steps⟩

theorem toOption_eq_some {ε α : Type} {x : Except ε α} {a : α} :
    x.toOption = some a ↔ x = .ok a := by
  cases x <;> simp [Except.toOption]

theorem guard_eq_some {p : Prop} [Decidable p] {u : Unit} :
    (guard p : Option Unit) = some u ↔ p := by
  unfold guard
  split <;> simp_all

theorem stepOutput_ok {status : StepStatus} {step : Dict} {output : Option Text}
    (h : stepOutput status step = .ok output) :
    ¬ (status = .completed ∧ output.getD [] = []) ∧ ¬ (status = .pending ∧ output ≠ none) := by
  unfold stepOutput at h
  split at h
  · next text _ =>
    split at h
    · cases h
    · next nonempty =>
      cases h
      refine ⟨fun empty => nonempty ?_, nofun⟩
      exact String.toList_eq_nil_iff.mp empty.2
  · cases h
  · cases h
    exact ⟨nofun, fun absent => absent.2 rfl⟩
  · cases h

theorem readStep_output {step : Json} {s : PlanStep} (h : readStep step = some s) :
    ¬ (s.status = .completed ∧ s.output.getD [] = []) ∧ ¬ (s.status = .pending ∧ s.output ≠ none) := by
  simp only [readStep, Option.bind_eq_bind, Option.bind_eq_some_iff, toOption_eq_some] at h
  obtain ⟨d, _, status, _, output, hout, h⟩ := h
  have sound := stepOutput_ok hout
  split at h
  · simp only [Option.bind_eq_some_iff] at h
    obtain ⟨_, _, ordinal, _, start, _, stop, _, h⟩ := h
    cases h
    exact sound
  · obtain ⟨_, _, h⟩ := Option.bind_eq_some_iff.mp h
    cases h
    exact sound
  · cases h

section steps

variable {length count index : Nat} {capacity overlap previousEnd : Int}

/-- A step passes the checks just where it stands for a step that is in its place. -/
theorem validateStep_eq_ok {step : Json} {reached : Int} {status : StepStatus} :
    validateStep length capacity overlap count index previousEnd step = .ok (reached, status)
      ↔ ∃ s, readStep step = some s ∧ s.status = status
        ∧ stepReach length capacity overlap count index previousEnd s = .ok reached := by
  constructor
  · intro h
    simp only [validateStep, bind_eq_ok, need_eq_ok] at h
    obtain ⟨d, hd, st, hst, r, hr, out, hout, h⟩ := h
    cases h
    unfold validateKind at hr
    split at hr
    · next kind =>
      simp only [bind_eq_ok, raiseIf_eq_ok, need_eq_ok] at hr
      obtain ⟨_, keys, ordinal, ho, start, hs, stop, he, hr⟩ := hr
      refine ⟨⟨.piece start stop, ordinal, status, out⟩, ?_, rfl, ?_⟩
      · simp [readStep, hd, hst, hout, kind, keys, ho, hs, he, Except.toOption, guard]
      · exact (stepReach_eq_of_kind rfl rfl).trans hr
    · next kind =>
      simp only [bind_eq_ok, raiseIf_eq_ok] at hr
      obtain ⟨_, keys, _, place, hr⟩ := hr
      cases hr
      have keys := Bool.not_eq_false _ ▸ keys
      obtain ⟨last, zero⟩ := not_or.mp place
      have zero := Decidable.not_not.mp zero
      refine ⟨⟨.final, 0, status, out⟩, ?_, rfl, ?_⟩
      · simp [readStep, hd, hst, hout, kind, keys, zero, Except.toOption, guard]
      · exact if_neg fun away => away.elim last fun other => other rfl
    · cases hr
  · rintro ⟨s, hs, rfl, hr⟩
    simp only [readStep, Option.bind_eq_bind, Option.bind_eq_some_iff, toOption_eq_some] at hs
    obtain ⟨d, hd, st, hst, out, hout, hs⟩ := hs
    simp only [validateStep, bind_eq_ok, need_eq_ok]
    split at hs
    · next kind =>
      simp only [Option.bind_eq_some_iff, guard_eq_some, exists_const] at hs
      obtain ⟨keys, ordinal, ho, start, hstart, stop, hstop, hs⟩ := hs
      cases hs
      refine ⟨d, hd, st, hst, reached, ?_, out, hout, rfl⟩
      simp only [validateKind, kind, bind_eq_ok, raiseIf_eq_ok, need_eq_ok]
      exact ⟨(), by simp [keys], ordinal, ho, start, hstart, stop, hstop,
        (stepReach_eq_of_kind rfl rfl).trans hr⟩
    · next kind =>
      obtain ⟨_, keep, hs⟩ := Option.bind_eq_some_iff.mp hs
      obtain ⟨keys, zero⟩ := guard_eq_some.mp keep
      cases hs
      refine ⟨d, hd, st, hst, reached, ?_, out, hout, rfl⟩
      simp only [validateKind, kind, bind_eq_ok, raiseIf_eq_ok]
      simp only [stepReach] at hr
      split at hr
      · cases hr
      · next place =>
        cases hr
        obtain ⟨last, _⟩ := not_or.mp place
        exact ⟨(), by simp [keys], (), fun away => away.elim last fun other =>
          other (Option.bind_eq_some_iff.mpr zero), rfl⟩
    · cases hs

/-- The loop passes just where the values stand for steps that pass it. -/
theorem validateSteps_eq_ok {steps : List Json} {last : Int} {statuses : List StepStatus} :
    validateSteps length capacity overlap count index previousEnd steps = .ok (last, statuses)
      ↔ ∃ plan, steps.mapM readStep = some plan ∧ plan.map (·.status) = statuses
        ∧ checkSteps length capacity overlap count index previousEnd plan = .ok last := by
  induction steps generalizing index previousEnd last statuses with
  | nil =>
    constructor
    · intro h
      cases h
      exact ⟨[], rfl, rfl, rfl⟩
    · rintro ⟨plan, hplan, rfl, h⟩
      cases hplan
      cases h
      rfl
  | cons step steps ih =>
    simp only [validateSteps, bind_eq_ok]
    constructor
    · rintro ⟨⟨reached, status⟩, hstep, ⟨last', rest⟩, hrest, h⟩
      cases h
      obtain ⟨s, hs, hstatus, hreach⟩ := validateStep_eq_ok.mp hstep
      obtain ⟨plan, hplan, hstatuses, hcheck⟩ := ih.mp hrest
      refine ⟨s :: plan, ?_, by rw [List.map_cons, hstatus, hstatuses], ?_⟩
      · simp [List.mapM_cons, hs, hplan]
      · simp only [checkSteps, bind_eq_ok, raiseIf_eq_ok]
        obtain ⟨full, absent⟩ := readStep_output hs
        exact ⟨reached, hreach, (), full, (), absent, hcheck⟩
    · rintro ⟨plan, hplan, hstatuses, hcheck⟩
      simp only [List.mapM_cons, Option.bind_eq_bind, Option.bind_eq_some_iff] at hplan
      obtain ⟨s, hs, plan, hplan, h⟩ := hplan
      cases h
      simp only [checkSteps, bind_eq_ok, raiseIf_eq_ok] at hcheck
      obtain ⟨reached, hreach, _, _, _, _, hcheck⟩ := hcheck
      refine ⟨(reached, s.status), validateStep_eq_ok.mpr ⟨s, hs, rfl, hreach⟩,
        (last, plan.map (·.status)), ih.mpr ⟨plan, hplan, rfl, hcheck⟩, ?_⟩
      rw [← hstatuses]
      rfl

end steps

theorem mapM_length {α β : Type} {f : α → Option β} {xs : List α} {ys : List β}
    (h : xs.mapM f = some ys) : ys.length = xs.length := by
  induction xs generalizing ys with
  | nil =>
    cases h
    rfl
  | cons x xs ih =>
    simp only [List.mapM_cons, Option.bind_eq_bind, Option.bind_eq_some_iff] at h
    obtain ⟨y, _, ys, hys, h⟩ := h
    cases h
    rw [List.length_cons, List.length_cons, ih hys]

/-- What a value that stands for a plan is made of. -/
theorem readPlan_eq_some {value : Json} {plan : ChunkPlan} : readPlan value = some plan
    ↔ ∃ d c steps, value.asDict = some d ∧ d.keysAre planKeys = true
      ∧ d.getInt? "version" = some plan.version ∧ d.getStr? "fingerprint" = some plan.fingerprint
      ∧ d.getDict? "config" = some c ∧ c.keysAre configKeys = true
      ∧ readConfig c = some plan.config ∧ (d.get? "steps").bind Json.asArr = some steps
      ∧ steps.mapM readStep = some plan.steps ∧ d.getInt? "next_step" = some plan.nextStep := by
  unfold readPlan
  constructor
  · intro h
    obtain ⟨d, hd, h⟩ := Option.bind_eq_some_iff.mp h
    obtain ⟨_, keys, h⟩ := Option.bind_eq_some_iff.mp h
    obtain ⟨version, hversion, h⟩ := Option.bind_eq_some_iff.mp h
    obtain ⟨digest, hdigest, h⟩ := Option.bind_eq_some_iff.mp h
    obtain ⟨c, hc, h⟩ := Option.bind_eq_some_iff.mp h
    obtain ⟨_, configKeys, h⟩ := Option.bind_eq_some_iff.mp h
    obtain ⟨config, hconfig, h⟩ := Option.bind_eq_some_iff.mp h
    obtain ⟨steps, hsteps, h⟩ := Option.bind_eq_some_iff.mp h
    obtain ⟨read, hread, h⟩ := Option.bind_eq_some_iff.mp h
    obtain ⟨next, hnext, h⟩ := Option.bind_eq_some_iff.mp h
    cases h
    exact ⟨d, c, steps, hd, guard_eq_some.mp keys, hversion, hdigest, hc,
      guard_eq_some.mp configKeys, hconfig, hsteps, hread, hnext⟩
  · rintro ⟨d, c, steps, hd, keys, hversion, hdigest, hc, configKeys, hconfig, hsteps, hread,
      hnext⟩
    refine Option.bind_eq_some_iff.mpr ⟨d, hd, ?_⟩
    refine Option.bind_eq_some_iff.mpr ⟨(), guard_eq_some.mpr keys, ?_⟩
    refine Option.bind_eq_some_iff.mpr ⟨_, hversion, ?_⟩
    refine Option.bind_eq_some_iff.mpr ⟨_, hdigest, ?_⟩
    refine Option.bind_eq_some_iff.mpr ⟨c, hc, ?_⟩
    refine Option.bind_eq_some_iff.mpr ⟨(), guard_eq_some.mpr configKeys, ?_⟩
    refine Option.bind_eq_some_iff.mpr ⟨_, hconfig, ?_⟩
    refine Option.bind_eq_some_iff.mpr ⟨steps, hsteps, ?_⟩
    refine Option.bind_eq_some_iff.mpr ⟨_, hread, ?_⟩
    exact Option.bind_eq_some_iff.mpr ⟨_, hnext, rfl⟩

/-- A value is accepted just where it stands for a plan that is. -/
theorem validatePlanJson_eq_ok {platform : Platform} {value : Json} {transcript : Text} :
    validatePlanJson platform value transcript = .ok ()
      ↔ ∃ plan, readPlan value = some plan ∧ PlanAccepted platform plan transcript := by
  simp only [validatePlanJson, bind_eq_ok, need_eq_ok, raiseIf_eq_ok, mapError_eq_ok]
  constructor
  · rintro ⟨d, hd, _, keys, _, version, digest, hdigest, _, length, c, hc, _, configKeys, config,
      hconfig, _, snapshot, _, valid, steps, hsteps, next, hnext, _, progress, _, pieces,
      capacity, hcapacity, ⟨last, statuses⟩, hcheck, _, coverage, _, done, due⟩
    obtain ⟨plan, hplan, hstatuses, hcheck⟩ := validateSteps_eq_ok.mp hcheck
    have count := mapM_length hplan
    obtain ⟨reach, ends⟩ := not_or.mp coverage
    obtain ⟨some, few⟩ := not_or.mp pieces
    refine ⟨⟨planVersion, digest, config, next, plan⟩, readPlan_eq_some.mpr
      ⟨d, c, steps, hd, Bool.not_eq_false _ ▸ keys, Decidable.not_not.mp version, hdigest, hc,
        Bool.not_eq_false _ ▸ configKeys, hconfig, hsteps, hplan, hnext⟩,
      { version := rfl
        fingerprintLength := Decidable.not_not.mp length
        snapshot := Decidable.not_not.mp snapshot
        config := valid
        progress := count.symm ▸ Decidable.not_not.mp progress
        pieces := ?_
        bounded := ?_
        covered := ⟨capacity, hcapacity, ?_⟩
        last := ?_
        done := ?_
        due := ?_ }⟩
    · refine List.ne_nil_of_length_pos ?_
      have : 0 < steps.dropLast.length :=
        List.length_pos_iff.mpr fun none => some (List.isEmpty_iff.mpr none)
      simpa [List.length_dropLast, count] using this
    · simpa [List.length_dropLast, count] using few
    · rw [count]
      exact hcheck.trans (congrArg Except.ok (Decidable.not_not.mp reach))
    · rw [← List.getLast?_map, hstatuses]
      exact Decidable.not_not.mp ends
    · intro step hs
      refine Decidable.byContradiction fun other => done ⟨step.status, ?_, other⟩
      rw [← hstatuses, ← List.map_take]
      exact List.mem_map_of_mem hs
    · intro step hs completed
      refine due ⟨step.status, ?_, completed⟩
      rw [← hstatuses, ← List.map_drop]
      exact List.mem_map_of_mem hs
  · rintro ⟨plan, hplan, accepted⟩
    obtain ⟨d, c, steps, hd, keys, hversion, hdigest, hc, configKeys, hconfig, hsteps, hread,
      hnext⟩ := readPlan_eq_some.mp hplan
    have count := mapM_length hread
    obtain ⟨capacity, hcapacity, hcheck⟩ := accepted.covered
    refine ⟨d, hd, (), by simp [keys], (), ?_, _, hdigest, (), ?_, c, hc, (), by simp [configKeys],
      _, hconfig, (), ?_, (), accepted.config, steps, hsteps, _, hnext, (), ?_, (), ?_, capacity,
      hcapacity, ((transcript.length : Int), plan.steps.map (·.status)), ?_, (), ?_, (), ?_, ?_⟩
    · rw [hversion, accepted.version]
      exact not_not_intro rfl
    · exact not_not_intro accepted.fingerprintLength
    · exact not_not_intro accepted.snapshot
    · exact not_not_intro (count ▸ accepted.progress)
    · have some := List.length_pos_iff.mpr accepted.pieces
      have few := accepted.bounded
      rw [List.length_dropLast, count, ← List.length_dropLast] at some few
      rintro (none | many)
      · exact absurd (List.isEmpty_iff.mp none) (List.length_pos_iff.mp some)
      · omega
    · exact validateSteps_eq_ok.mpr ⟨plan.steps, hread, rfl, count ▸ hcheck⟩
    · rw [List.getLast?_map, accepted.last]
      simp
    · rintro ⟨status, hs, other⟩
      rw [← List.map_take] at hs
      obtain ⟨step, hstep, rfl⟩ := List.mem_map.mp hs
      exact other (accepted.done step hstep)
    · rintro ⟨status, hs, completed⟩
      rw [← List.map_drop] at hs
      obtain ⟨step, hstep, rfl⟩ := List.mem_map.mp hs
      exact accepted.due step hstep completed

/-- The object of a configuration snapshot. -/
def configJson (config : PlanConfig) : Json :=
  .obj [("context_tokens", .int config.contextTokens), ("chunk_chars", .int config.chunkChars),
    ("overlap_chars", .int config.overlapChars), ("max_chunks", .int config.maxChunks),
    ("chars_per_token", .float config.charsPerToken), ("max_tokens", .int config.maxTokens)]

def statusJson : StepStatus → Json
  | .pending => .str "pending"
  | .completed => .str "completed"

def outputJson : Option Text → Json
  | none => .null
  | some output => .str (String.ofList output)

def stepJson (step : PlanStep) : Json :=
  match step.kind with
  | .piece start stop =>
    .obj [("kind", .str "partial"), ("ordinal", .int step.ordinal), ("start", .int start),
      ("end", .int stop), ("status", statusJson step.status), ("output", outputJson step.output)]
  | .final =>
    .obj [("kind", .str "final"), ("ordinal", .int step.ordinal),
      ("status", statusJson step.status), ("output", outputJson step.output)]

/-- The object of a plan. -/
def planJson (plan : ChunkPlan) : Json :=
  .obj [("version", .int plan.version), ("fingerprint", .str plan.fingerprint),
    ("config", configJson plan.config), ("next_step", .int plan.nextStep),
    ("steps", .arr (plan.steps.map stepJson))]

/-- The step can stand in a plan: its output is there just where it is done. -/
structure Plain (step : PlanStep) : Prop where
  final : step.kind = .final → step.ordinal = 0
  full : ¬ (step.status = .completed ∧ step.output.getD [] = [])
  absent : ¬ (step.status = .pending ∧ step.output ≠ none)

theorem stepOutput_outputJson {step : PlanStep} (plain : Plain step) {d : Dict}
    (h : d.get? "output" = some (outputJson step.output)) :
    stepOutput step.status d = .ok step.output := by
  unfold stepOutput
  rw [h, Option.getD_some]
  cases status : step.status with
  | pending =>
    cases output : step.output with
    | none => rfl
    | some text => exact absurd ⟨status, by simp [output]⟩ plain.absent
  | completed =>
    cases output : step.output with
    | none => exact absurd ⟨status, by simp [output]⟩ plain.full
    | some text =>
      have nonempty : String.ofList text ≠ "" := by
        intro empty
        refine plain.full ⟨status, ?_⟩
        rw [output, Option.getD_some, ← String.toList_ofList (l := text), empty]
        rfl
      simp [outputJson, nonempty]

theorem readStep_stepJson {step : PlanStep} (plain : Plain step) :
    readStep (stepJson step) = some step := by
  have status (d : Dict) (h : d.get? "status" = some (statusJson step.status)) :
      stepStatus d = .ok step.status := by
    unfold stepStatus
    rw [h]
    cases step.status <;> rfl
  unfold readStep stepJson
  cases kind : step.kind with
  | piece start stop =>
    refine Option.bind_eq_some_iff.mpr ⟨_, rfl, ?_⟩
    refine Option.bind_eq_some_iff.mpr ⟨_, toOption_eq_some.mpr (status _ rfl), ?_⟩
    refine Option.bind_eq_some_iff.mpr
      ⟨_, toOption_eq_some.mpr (stepOutput_outputJson plain rfl), ?_⟩
    have whole : PlanStep.mk (.piece start stop) step.ordinal step.status step.output = step := by
      rw [← kind]
    exact Eq.trans rfl (congrArg some whole)
  | final =>
    refine Option.bind_eq_some_iff.mpr ⟨_, rfl, ?_⟩
    refine Option.bind_eq_some_iff.mpr ⟨_, toOption_eq_some.mpr (status _ rfl), ?_⟩
    refine Option.bind_eq_some_iff.mpr
      ⟨_, toOption_eq_some.mpr (stepOutput_outputJson plain rfl), ?_⟩
    have whole : PlanStep.mk .final 0 step.status step.output = step := by
      rw [← kind, ← plain.final kind]
    rw [plain.final kind]
    exact Eq.trans rfl (congrArg some whole)

theorem mapM_map_eq_some {α β : Type} {f : α → Option β} {g : β → α} {ys : List β}
    (h : ∀ y ∈ ys, f (g y) = some y) : (ys.map g).mapM f = some ys := by
  induction ys with
  | nil => rfl
  | cons y ys ih =>
    rw [List.map_cons, List.mapM_cons, h y (List.mem_cons_self ..),
      ih fun z hz => h z (List.mem_cons_of_mem _ hz)]
    rfl

theorem readPlan_planJson {plan : ChunkPlan} (plain : ∀ step ∈ plan.steps, Plain step) :
    readPlan (planJson plan) = some plan := by
  have steps : (plan.steps.map stepJson).mapM readStep = some plan.steps :=
    mapM_map_eq_some fun step hs => readStep_stepJson (plain step hs)
  exact readPlan_eq_some.mpr ⟨_, _, _, rfl, rfl, rfl, rfl, rfl, rfl, rfl, rfl, steps, rfl⟩

end Broker

end YTPipe
