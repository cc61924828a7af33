import YTPipe.Platform
import YTPipe.Text

/-!
# Chunk plans

`broker_chunking.py`. The configured ratio of characters to tokens is a
rational number and the arithmetic on it is exact.
-/

namespace YTPipe.Broker

def planVersion : Int := 1

def estimatedPromptOverheadTokens : Int := 700

/-- A `BrokerChunkPlanError` with its text. -/
abbrev ChunkPlanError := String

structure BrokerChunkConfig where
  enabled : Bool
  contextTokens : Int
  chunkChars : Int
  overlapChars : Int
  maxChunks : Int
  charsPerToken : Rat
  maxTokens : Int
  deriving DecidableEq, Repr

namespace BrokerChunkConfig

def validate (config : BrokerChunkConfig) : Except ChunkPlanError Unit :=
  if config.contextTokens < 2048 then .error "broker chunk context is too small"
  else if config.chunkChars < 1 then .error "broker chunk size must be positive"
  else if config.overlapChars < 0 ∨ config.overlapChars ≥ config.chunkChars then
    .error "broker chunk overlap must be smaller than chunk size"
  else if config.maxChunks < 1 then .error "broker chunk maximum must be positive"
  else if ¬ (1 ≤ config.charsPerToken ∧ config.charsPerToken ≤ 8) then
    .error "broker chars per token must be between 1 and 8"
  else if config.maxTokens < 0 then .error "broker max tokens must not be negative"
  else .ok ()

end BrokerChunkConfig

def estimatedRequestTokens (characters : Nat) (config : BrokerChunkConfig) :
    Except ChunkPlanError Int := do
  config.validate
  return ((characters : Rat) / config.charsPerToken).ceil + estimatedPromptOverheadTokens
    + config.maxTokens

def chunkCapacity (config : BrokerChunkConfig) : Except ChunkPlanError Int :=
  let available := config.contextTokens - config.maxTokens - estimatedPromptOverheadTokens
  if available ≤ 0 then .error "broker context leaves no transcript budget"
  else .ok (max 1 ((available : Rat) * config.charsPerToken).floor)

/-- Forward progress stays bounded where a small context makes the configured
overlap larger than the capacity of a chunk. -/
def effectiveOverlap (config : BrokerChunkConfig) (capacity : Int) : Int :=
  min config.overlapChars (capacity / 2)

/-- The last paragraph, line or sentence break that starts in the range. -/
def lastBreak (text : Text) (floor target : Nat) : Int :=
  max (text.rfind ['\n', '\n'] floor target)
    (max (text.rfind ['\n'] floor target)
      (max (text.rfind ['.', ' '] floor target)
        (max (text.rfind ['?', ' '] floor target) (text.rfind ['!', ' '] floor target))))

def findBoundary (text : Text) (start target : Nat) : Nat :=
  if target ≥ text.length then text.length
  else
    let boundary := lastBreak text (start + max 1 ((target - start) / 2)) target
    if boundary ≥ 0 then boundary.toNat + 1 else target

/-- The end of the chunk that starts at `start`. -/
def chunkEnd (text : Text) (capacity start : Nat) : Nat :=
  let stop := findBoundary text start (min text.length (start + capacity))
  if stop ≤ start then min text.length (start + capacity) else stop

/-- The chunks from `start` on. Each starts after the one before it, so `fuel`
is enough when it is the number of characters left. -/
def splitFrom (text : Text) (capacity overlap : Nat) : Nat → Nat → List (Nat × Nat)
  | 0, _ => []
  | fuel + 1, start =>
    if start < text.length then
      let stop := chunkEnd text capacity start
      if stop ≥ text.length then [(start, stop)]
      else (start, stop) :: splitFrom text capacity overlap fuel (max (start + 1) (stop - overlap))
    else []

def splitTranscript (text : Text) (config : BrokerChunkConfig) :
    Except ChunkPlanError (List (Nat × Nat)) := do
  config.validate
  let capacity := min config.chunkChars (← chunkCapacity config)
  let overlap := effectiveOverlap config capacity
  return splitFrom text capacity.toNat overlap.toNat text.length 0

/-- The configuration a plan was made with. -/
structure PlanConfig where
  contextTokens : Int
  chunkChars : Int
  overlapChars : Int
  maxChunks : Int
  charsPerToken : Rat
  maxTokens : Int
  deriving DecidableEq, Repr

/-- `"partial"`, with the characters it covers, or `"final"`. -/
inductive StepKind
  | piece (start stop : Int)
  | final
  deriving DecidableEq, Repr

inductive StepStatus
  | pending
  | completed
  deriving DecidableEq, Repr

structure PlanStep where
  kind : StepKind
  ordinal : Int
  status : StepStatus
  output : Option Text
  deriving DecidableEq, Repr

/-- The value of `broker_chunk_plan`. -/
structure ChunkPlan where
  version : Int
  fingerprint : String
  config : PlanConfig
  nextStep : Int
  steps : List PlanStep
  deriving DecidableEq, Repr

def PlanConfig.ofConfig (config : BrokerChunkConfig) : PlanConfig where
  contextTokens := config.contextTokens
  chunkChars := config.chunkChars
  overlapChars := config.overlapChars
  maxChunks := config.maxChunks
  charsPerToken := config.charsPerToken
  maxTokens := config.maxTokens

def PlanConfig.active (config : PlanConfig) : BrokerChunkConfig where
  enabled := true
  contextTokens := config.contextTokens
  chunkChars := config.chunkChars
  overlapChars := config.overlapChars
  maxChunks := config.maxChunks
  charsPerToken := config.charsPerToken
  maxTokens := config.maxTokens

def configFromPlan (plan : ChunkPlan) : BrokerChunkConfig := plan.config.active

/-- A JSON string with `ensure_ascii=False`. -/
def jsonString (text : Text) : Text :=
  let escape (c : Char) : Text :=
    match c with
    | '"' => ['\\', '"']
    | '\\' => ['\\', '\\']
    | '\n' => ['\\', 'n']
    | '\r' => ['\\', 'r']
    | '\t' => ['\\', 't']
    | c =>
      if c.toNat = 8 then ['\\', 'b']
      else if c.toNat = 12 then ['\\', 'f']
      else if c.toNat < 32 then
        ['\\', 'u', '0', '0', Nat.digitChar (c.toNat / 16), Nat.digitChar (c.toNat % 16)]
      else [c]
  '"' :: text.flatMap escape ++ ['"']

/-- The canonical JSON of a plan's version, configuration and transcript. -/
def canonicalPlan (platform : Platform) (transcript : Text) (config : PlanConfig) : String :=
  String.ofList
    ("\x7b\"config\":\x7b\"chars_per_token\":".toList ++ (platform.floatRepr config.charsPerToken).toList
      ++ ",\"chunk_chars\":".toList ++ (toString config.chunkChars).toList
      ++ ",\"context_tokens\":".toList ++ (toString config.contextTokens).toList
      ++ ",\"max_chunks\":".toList ++ (toString config.maxChunks).toList
      ++ ",\"max_tokens\":".toList ++ (toString config.maxTokens).toList
      ++ ",\"overlap_chars\":".toList ++ (toString config.overlapChars).toList
      ++ "\x7d,\"transcript\":".toList ++ jsonString transcript
      ++ ",\"version\":".toList ++ (toString planVersion).toList ++ "\x7d".toList)

def fingerprint (platform : Platform) (transcript : Text) (config : PlanConfig) : String :=
  platform.sha256 (encode (canonicalPlan platform transcript config))

/-- The steps for the given ranges, the first of them numbered `index`. -/
def planSteps (index : Nat) : List (Nat × Nat) → List PlanStep
  | [] => [⟨.final, 0, .pending, none⟩]
  | (start, stop) :: ranges =>
    ⟨.piece start stop, index, .pending, none⟩ :: planSteps (index + 1) ranges

/-- A plan, or `none` when the current single shot fits. -/
def buildPlan (platform : Platform) (text : Text) (config : BrokerChunkConfig) :
    Except ChunkPlanError (Option ChunkPlan) := do
  config.validate
  if (← estimatedRequestTokens text.length config) ≤ config.contextTokens then return none
  else
    raiseIf (config.enabled = false) "broker chunking is disabled"
    let ranges ← splitTranscript text config
    raiseIf (ranges.length > config.maxChunks) "broker chunk plan exceeds configured maximum"
    let snapshot := PlanConfig.ofConfig config
    return some {
      version := planVersion
      fingerprint := fingerprint platform text snapshot
      config := snapshot
      nextStep := 0
      steps := planSteps 0 ranges }

/-- The place of the end of the ranges after one step, of kind and place checked. -/
def stepReach (length : Nat) (capacity overlap : Int) (count index : Nat) (previousEnd : Int)
    (step : PlanStep) : Except ChunkPlanError Int :=
  match step.kind with
  | .piece start stop =>
    if step.ordinal ≠ index
        ∨ ¬ (0 ≤ start ∧ start < stop ∧ stop ≤ length)
        ∨ stop - start > capacity
        ∨ (index = 0 ∧ start ≠ 0)
        ∨ (index > 0 ∧ ¬ (0 ≤ previousEnd - start ∧ previousEnd - start ≤ overlap))
        ∨ (index > 0 ∧ stop ≤ previousEnd) then
      .error "broker chunk plan partial is invalid"
    else .ok stop
  | .final =>
    if index + 1 ≠ count ∨ step.ordinal ≠ 0 then .error "broker chunk plan final is invalid"
    else .ok previousEnd

/-- The checks of the steps from `index` on; the result is the end of the last range. -/
def checkSteps (length : Nat) (capacity overlap : Int) (count : Nat) :
    Nat → Int → List PlanStep → Except ChunkPlanError Int
  | _, previousEnd, [] => .ok previousEnd
  | index, previousEnd, step :: steps => do
    let reached ← stepReach length capacity overlap count index previousEnd step
    raiseIf (step.status = .completed ∧ step.output.getD [] = [])
      "broker chunk plan output is invalid"
    raiseIf (step.status = .pending ∧ step.output ≠ none)
      "broker chunk plan pending output is invalid"
    checkSteps length capacity overlap count (index + 1) reached steps

/-- `validate_plan` on a value that has the fields and types of a plan. -/
def validatePlan (platform : Platform) (plan : ChunkPlan) (transcript : Text) :
    Except ChunkPlanError Unit := do
  raiseIf (plan.version ≠ planVersion) "broker chunk plan version is invalid"
  raiseIf (plan.fingerprint.length ≠ 64) "broker chunk plan fingerprint is invalid"
  raiseIf (plan.fingerprint ≠ fingerprint platform transcript plan.config)
    "broker chunk plan configuration is invalid"
  plan.config.active.validate.mapError (fun _ => "broker chunk plan configuration is invalid")
  raiseIf (¬ (0 ≤ plan.nextStep ∧ plan.nextStep < plan.steps.length))
    "broker chunk plan state is invalid"
  raiseIf (plan.steps.dropLast = [] ∨ plan.steps.dropLast.length > plan.config.maxChunks)
    "broker chunk plan exceeds configured maximum"
  let capacity := min plan.config.chunkChars (← chunkCapacity plan.config.active)
  let overlap := effectiveOverlap plan.config.active capacity
  let reached ← checkSteps transcript.length capacity overlap plan.steps.length 0 0 plan.steps
  raiseIf (reached ≠ transcript.length ∨ plan.steps.getLast?.map (·.status) ≠ some .pending)
    "broker chunk plan coverage is invalid"
  raiseIf (∃ step ∈ plan.steps.take plan.nextStep.toNat, step.status ≠ .completed)
    "broker chunk plan progress is invalid"
  raiseIf (∃ step ∈ plan.steps.drop plan.nextStep.toNat, step.status = .completed)
    "broker chunk plan progress is invalid"

/-- The plan object once the step `index` is marked done in place. -/
def ChunkPlan.completeStep (plan : ChunkPlan) (index : Int) (output : Text) : ChunkPlan :=
  { plan with
    nextStep := index + 1
    steps := plan.steps.modify index.toNat
      (fun step => { step with status := .completed, output := some output }) }

theorem completeStep_length (plan : ChunkPlan) (index : Int) (output : Text) :
    (plan.completeStep index output).steps.length = plan.steps.length :=
  List.length_modify ..

end YTPipe.Broker
