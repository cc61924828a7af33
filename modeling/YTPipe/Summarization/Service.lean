import YTPipe.Strings
import YTPipe.Broker.Gateway
import YTPipe.Broker.Idempotency
import YTPipe.Broker.Prompts

/-!
# Summaries on the legacy routes

`SummarizationService` of `summarization.py`, `summarization_planner.py` and
`BrokerSummarizationGateway.summarize`, each against a server that answers by
everything it was asked so far.
-/

namespace YTPipe.Summarization

open Broker

def directTranscriptCharacterLimit : Nat := 30000

def transcriptChunkCharacterLimit : Nat := 24000

/-- Where the first chunk of a text longer than `limit` ends: at the last blank
that leaves something before it. -/
def chunkLength (limit : Nat) (remaining : Text) : Nat :=
  let splitAt := remaining.rfind [' '] 0 limit
  if splitAt ≤ 0 then limit else splitAt.toNat

/-- The chunks of what remains. Each takes a character at least, so `fuel` is
enough when it is the number of characters left. -/
def splitRemaining (limit : Nat) : Nat → Text → List Text
  | 0, _ => []
  | fuel + 1, remaining =>
    if remaining.length > limit then
      let splitAt := chunkLength limit remaining
      remaining.take splitAt
        :: splitRemaining limit fuel (Text.lstrip Text.isSpace (remaining.drop splitAt))
    else if remaining.isEmpty then []
    else [remaining]

def splitText (limit : Nat) (transcript : Text) : List Text :=
  let remaining := Text.strip transcript
  splitRemaining limit remaining.length remaining

def partialSeparator : Text := "\n\n---\n\n".toList

/-- `f"{FINAL_SUMMARY_INSTRUCTIONS}\n\nTRANSCRIPCION:\n\n{transcript}"`. -/
def directPrompt (transcript : Text) : Text :=
  finalSummaryInstructions.toList ++ "\n\nTRANSCRIPCION:\n\n".toList ++ transcript

/-- `f"{PARTIAL_SUMMARY_INSTRUCTIONS}\n\nFRAGMENTO:\n\n{chunk}"`. -/
def fragmentPrompt (chunk : Text) : Text :=
  partialSummaryInstructions.toList ++ "\n\nFRAGMENTO:\n\n".toList ++ chunk

def partialsMarker : Text := "RESUMENES PARCIALES:\n\n".toList

/-- The final prompt up to its marker. -/
def aggregateHead : Text :=
  ("Integra los siguientes resumenes parciales en un unico resumen completo, sin repetir ideas y "
    ++ "conservando los hechos importantes.\n\n" ++ finalSummaryInstructions ++ "\n\n").toList

def aggregatePrompt (partials : List Text) : Text :=
  aggregateHead ++ partialsMarker ++ Text.join partialSeparator partials

/-- A computation that asks a server: it is given what was asked before it, and
leaves what was asked after it, whether or not it raised. -/
abbrev Talk (α ε β : Type) := ExceptT ε (StateM (List α)) β

def ask {α ε γ : Type} (server : List α → γ) (question : α) : Talk α ε γ := do
  modify (· ++ [question])
  return server (← get)

/-- The payload of a chat completion. -/
structure ChatRequest where
  model : String
  systemPrompt : String
  userPrompt : Text
  temperature : Rat
  maxTokens : Int
  stop : List String
  deriving DecidableEq, Repr

/-- How `httpx.post` ended. The detail is what `_extract_error_detail` makes of
a response that is no success. -/
inductive DirectAnswer
  | response (statusCode : Int) (body : Option Json) (detail : Option String)
  | timeout
  | transportError
  | otherError

structure SummarizationRequestError where
  message : String
  code : String
  failureClass : String
  deriving DecidableEq, Repr

inductive DirectRaised
  | request (error : SummarizationRequestError)
  | other
  deriving DecidableEq, Repr

def transient (message code : String) : DirectRaised := .request ⟨message, code, "transient"⟩

def invalidEnvelope : DirectRaised :=
  transient "Summarization server returned an invalid response envelope." "direct_invalid_response"

def emptyContent : DirectRaised :=
  transient "Summarization server returned empty content." "direct_empty_response"

/-- The content of the first choice. -/
def readChoice (choice : Json.Dict) : Except DirectRaised Text :=
  if ¬ choice.hasKey "message" then .error emptyContent
  else
    match (choice.getDict? "message").bind (·.getStr? "content") with
    | none => .error invalidEnvelope
    | some content =>
      let summary := Text.strip content.toList
      if summary.isEmpty then .error emptyContent else .ok summary

def readCompletion (data : Json.Dict) : Except DirectRaised Text :=
  if data.hasKey "error" then
    .error (transient "Summarization server returned an error." "direct_provider_error")
  else
    match data.get? "choices" with
    | some (.arr (.obj choice :: _)) => readChoice choice
    | _ => .error invalidEnvelope

def readAnswer : DirectAnswer → Except DirectRaised Text
  | .timeout => .error (transient "Summarization request timed out." "direct_timeout")
  | .transportError => .error (transient "Summarization network error." "direct_transport_error")
  | .otherError => .error .other
  | .response statusCode body detail =>
    if statusCode ≠ 200 then
      let message := "Summarization server returned HTTP " ++ toString statusCode
      let message := match detail with
        | some detail => message ++ ": " ++ detail
        | none => message
      .error (transient (message ++ ".") "direct_http_error")
    else
      match body with
      | none =>
        .error (transient "Summarization server returned invalid JSON." "direct_invalid_response")
      | some (.obj data) => readCompletion data
      | some _ => .error invalidEnvelope

structure SummarizationService where
  maxTokens : Int

namespace SummarizationService

variable (service : SummarizationService) (server : List ChatRequest → DirectAnswer)

def splitTranscript : Text → List Text := splitText transcriptChunkCharacterLimit

def requestSummary (prompt : Text) : Talk ChatRequest DirectRaised Text := do
  let answer ← ask server {
    model := "gpt-3.5-turbo"
    systemPrompt := summarizationSystemPrompt
    userPrompt := prompt
    temperature := 7 / 10
    maxTokens := service.maxTokens
    stop := [] }
  match readAnswer answer with
  | .ok summary => return summary
  | .error raised => throw raised

def summarize (transcript : Text) : Talk ChatRequest DirectRaised Text := do
  if transcript.length ≤ directTranscriptCharacterLimit then
    service.requestSummary server (directPrompt transcript)
  else
    let partialSummaries ← (splitTranscript transcript).mapM fun chunk =>
      service.requestSummary server (fragmentPrompt chunk)
    service.requestSummary server (aggregatePrompt partialSummaries)

end SummarizationService

namespace Planner

def splitTranscript : Text → List Text := splitText transcriptChunkCharacterLimit

/-- The operation of one prompt. -/
def operation (kind : String) (ordinal : Int) (maxTokens : Int) (prompt : Text) :
    SummaryOperation where
  kind := kind
  ordinal := ordinal
  systemPrompt := summarizationSystemPrompt
  userPrompt := String.ofList prompt
  maxTokens := maxTokens
  stop := []

/-- The final prompt is completed by the gateway after partial results exist. -/
def planOperations (transcript : Text) (maxTokens : Int) : List SummaryOperation :=
  if transcript.length ≤ directTranscriptCharacterLimit then
    [operation "direct-final" 0 maxTokens (directPrompt transcript)]
  else
    let chunks := splitTranscript transcript
    chunks.mapIdx (fun i chunk => operation "partial" i maxTokens (fragmentPrompt chunk))
      ++ [operation "aggregate-final" chunks.length maxTokens
        (aggregatePrompt (chunks.map fun _ => []))]

end Planner

/-- A submission with its key. -/
structure Submission where
  operation : SummaryOperation
  key : String
  deriving DecidableEq, Repr

def Submission.userPrompt (s : Submission) : Text := s.operation.userPrompt.toList

structure BrokerSummarizationGateway where
  maxTokens : Int

namespace BrokerSummarizationGateway

variable (platform : Platform) (gateway : BrokerSummarizationGateway)
  (server : List Submission → Except Raised BrokerResult)

/-- `_submit_with_key`. The server answers with what `_submit_result_with_key`
returns or raises. -/
def submitWithKey (operation : SummaryOperation) (key : String) :
    Talk Submission Raised Text := do
  match ← ask server ⟨operation, key⟩ with
  | .error raised => throw raised
  | .ok result =>
    match validateBrokerOutput result.content with
    | some output => return output
    | none => throw (.broker (brokerError "broker_output_invalid" none none))

def submit (context : SummaryGatewayContext) (operation : SummaryOperation) :
    Talk Submission Raised Text :=
  match idempotencyKey platform context operation with
  | none => throw .other
  | some key => submitWithKey server operation key

def summarize (transcript : Text) (context : Option SummaryGatewayContext) :
    Talk Submission Raised Text :=
  match context with
  | none => throw (.broker (brokerError "broker_context_missing" none none))
  | some context => do
    let operations := Planner.planOperations transcript gateway.maxTokens
    let partials ← (if operations.length > 1 then operations.dropLast else operations).mapM
      (submit platform server context)
    if operations.length = 1 then
      match partials with
      | first :: _ => return first
      | [] => throw .other
    else
      match operations.getLast? with
      | none => throw .other
      | some final =>
        -- a text without the marker cannot be unpacked into two
        match Text.splitOnce partialsMarker final.userPrompt.toList with
        | none => throw .other
        | some (front, _) =>
          submit platform server context
            { final with
              userPrompt :=
                String.ofList (front ++ partialsMarker ++ Text.join partialSeparator partials) }

end BrokerSummarizationGateway

end YTPipe.Summarization
