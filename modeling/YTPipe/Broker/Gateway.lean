import YTPipe.Json
import YTPipe.Platform
import YTPipe.Broker.Output

/-!
# Reading the broker's answers

The parts of `broker_gateway.py` and `broker_traffic.py` that look at one
response, and `broker_errors.py`.
-/

namespace YTPipe.Broker

open Json (Dict)

structure Response where
  statusCode : Int
  location : Option String
  /-- `response.json()`, `none` where it raises. -/
  body : Option Json

/-- `BrokerSummarizationError`. -/
structure BrokerError where
  code : String
  failureClass : Option String
  brokerCode : Option String
  taskId : Option String
  idempotencyKey : Option String
  deriving DecidableEq, Repr

/-- What a call raises: an error of the broker adapter or any other exception. -/
inductive Raised
  | broker (error : BrokerError)
  | other
  deriving DecidableEq, Repr

def brokerError (code : String) (taskId idempotencyKey : Option String) : BrokerError :=
  ⟨code, none, none, taskId, idempotencyKey⟩

def protocolError : BrokerError := brokerError "broker_protocol_error" none none

def BrokerError.correlate (e : BrokerError) (taskId idempotencyKey : Option String) : BrokerError :=
  { e with taskId := taskId, idempotencyKey := idempotencyKey }

structure BrokerResult where
  content : Text
  finishReason : String
  deriving DecidableEq, Repr

structure AcceptedTask where
  taskId : String
  idempotencyKey : String
  deriving DecidableEq, Repr

/-- `re.fullmatch("[first][rest]{0,most}", s)`. -/
def wordOf (first rest : Char → Bool) (most : Nat) (s : String) : Bool :=
  match s.toList with
  | [] => false
  | c :: cs => first c && cs.all rest && cs.length ≤ most

def isLower (c : Char) : Bool := ('a' ≤ c && c ≤ 'z') || ('0' ≤ c && c ≤ '9')

def isAlnum (c : Char) : Bool := isLower c || ('A' ≤ c && c ≤ 'Z')

def isTaskId : String → Bool :=
  wordOf isAlnum (fun c => isAlnum c || c == '.' || c == '_' || c == '-') 127

def isFailureClass : String → Bool :=
  wordOf isLower (fun c => isLower c || c == '_' || c == '.' || c == '-') 63

/-- A workload or capability name of at most 64 characters. -/
def isSlug (s : String) : Bool :=
  let inner (c : Char) := isLower c || c == '.' || c == '_' || c == '-'
  s.toList.all inner && (s.toList.head?.map isLower).getD false
    && (s.toList.getLast?.map isLower).getD false && s.toList.length ≤ 64

def jsonDict (response : Response) : Except BrokerError Dict :=
  match response.body.bind Json.asDict with
  | some payload => .ok payload
  | none => .error protocolError

def validUsage (value : Option Dict) : Bool :=
  match value with
  | some usage =>
    let names := ["prompt_tokens", "completion_tokens", "total_tokens"]
    usage.keysAre names && names.all usage.isCount
  | none => false

/-- `text.replace("Z", "+00:00")`. -/
def replaceZ (s : String) : String :=
  String.ofList (s.toList.flatMap (fun c => if c = 'Z' then "+00:00".toList else [c]))

def isDatetime (platform : Platform) (s : String) : Bool := platform.awareDatetime (replaceZ s)

/-- The task envelope of an accepted submission. -/
def validateTask (platform : Platform) (payload : Dict) (taskId : String) :
    Except BrokerError Unit := do
  let required := ["id", "workload", "capability", "status", "created_at", "updated_at"]
  raiseIf (¬ payload.keysWithin ("attempts" :: required) ∨ ¬ required.all payload.hasKey)
    protocolError
  raiseIf (payload.getStr? "id" ≠ some taskId) protocolError
  raiseIf (required.any (fun name => (payload.getStr? name).isNone)) protocolError
  raiseIf (¬ isSlug ((payload.getStr? "workload").getD "")) protocolError
  raiseIf (¬ isSlug ((payload.getStr? "capability").getD "")) protocolError
  raiseIf ((payload.getStr? "status").getD "" ∉
    ["queued", "running", "succeeded", "failed", "cancelled"]) protocolError
  raiseIf (["created_at", "updated_at"].any
    (fun name => !isDatetime platform ((payload.getStr? name).getD ""))) protocolError
  raiseIf (payload.hasKey "attempts" ∧ ¬ payload.isCount "attempts") protocolError

inductive TaskState
  | pending
  | succeeded
  | failed
  | cancelled
  | expired
  deriving DecidableEq, Repr

def TaskState.name : TaskState → String
  | pending => "pending"
  | succeeded => "succeeded"
  | failed => "failed"
  | cancelled => "cancelled"
  | expired => "expired"

/-- Well-formed classes that are not known yet are kept. -/
def validateClassifiedError (value : Option Dict) : Except BrokerError Unit :=
  match value with
  | some error => do
    raiseIf (¬ error.keysAre ["class", "code", "message"]) protocolError
    raiseIf (["class", "code", "message"].any
      (fun name => (error.getStr? name).getD "" = "")) protocolError
    raiseIf (¬ isFailureClass ((error.getStr? "class").getD "")) protocolError
  | none => .error protocolError

/-- The state in the body of a task's result, the body checked. -/
def taskResultStatus (response : Response) : Except BrokerError TaskState := do
  let payload ← jsonDict response
  raiseIf (¬ payload.keysWithin ["status", "result", "error"]) protocolError
  match payload.getStr? "status" with
  | some "succeeded" =>
    raiseIf (¬ payload.keysAre ["status", "result"]) protocolError
    return .succeeded
  | some "pending" =>
    raiseIf (¬ payload.keysAre ["status"]) protocolError
    return .pending
  | some "failed" =>
    raiseIf (¬ payload.keysAre ["status", "error"]) protocolError
    validateClassifiedError (payload.getDict? "error")
    return .failed
  | some "cancelled" =>
    raiseIf (¬ payload.keysAre ["status"]) protocolError
    return .cancelled
  | some "expired" =>
    raiseIf (¬ payload.keysAre ["status"]) protocolError
    return .expired
  | _ => .error protocolError

/-- `BrokerSummarizationGateway._validated_result`. A finish reason that is a
list or an object raises a `TypeError`. -/
def validatedInference (response : Response) : Except Raised BrokerResult := do
  let invalid : Raised := .broker protocolError
  let payload ← (jsonDict response).mapError .broker
  raiseIf (¬ payload.keysAre ["status", "result"] ∨ payload.getStr? "status" ≠ some "succeeded")
    invalid
  match payload.getDict? "result" with
  | none => .error invalid
  | some result =>
    raiseIf (¬ result.keysAre ["content", "finish_reason", "usage"]) invalid
    match result.getStr? "content" with
    | none => .error invalid
    | some content =>
      raiseIf (((result.get? "finish_reason").map Json.unhashable).getD false) .other
      let reason := (result.getStr? "finish_reason").getD ""
      raiseIf (reason ∉ ["stop", "length", "content_filter", "unknown"]) invalid
      raiseIf (¬ validUsage (result.getDict? "usage")) invalid
      return ⟨content.toList, reason⟩

def terminalTaskError (response : Response) (state : TaskState)
    (taskId idempotencyKey : Option String) : BrokerError :=
  let code := "broker_task_" ++ state.name
  let unclassified : BrokerError :=
    ⟨code, some "terminal", some ("task_" ++ state.name), taskId, idempotencyKey⟩
  match state, (response.body.bind Json.asDict).bind (·.getDict? "error") with
  | .failed, some error =>
    match error.getStr? "class", error.getStr? "code" with
    | some failureClass, some brokerCode =>
      ⟨code, some failureClass, some brokerCode, taskId, idempotencyKey⟩
    | _, _ => unclassified
  | _, _ => unclassified

def problemCode (response : Response) : String :=
  match (response.body.bind Json.asDict).bind (·.getStr? "code") with
  | some "unauthorized" => "broker_unauthorized"
  | some "invalid_request" => "broker_invalid_request"
  | some "unprocessable" => "broker_invalid_request"
  | _ => "broker_protocol_error"

/-- The handler that adds the task and the key to an error of the adapter. -/
def Raised.correlate (raised : Raised) (taskId idempotencyKey : Option String) : Raised :=
  match raised with
  | .broker e => .broker (e.correlate taskId idempotencyKey)
  | .other => .other

/-- What `poll_result` and `reconcile_result` make of a response: `none` while
the task is pending. -/
def readResult (taskId : String) (idempotencyKey : Option String) (response : Response) :
    Except Raised (Option BrokerResult) :=
  if response.statusCode ≠ 200 then
    .error (.broker (brokerError (problemCode response) (some taskId) idempotencyKey))
  else
    match taskResultStatus response with
    | .error e => .error (.broker (e.correlate (some taskId) idempotencyKey))
    | .ok .pending => .ok none
    | .ok .succeeded =>
      match validatedInference response with
      | .error raised => .error (raised.correlate (some taskId) idempotencyKey)
      | .ok result => .ok (some result)
    | .ok state =>
      .error (.broker (terminalTaskError response state (some taskId) idempotencyKey))

/-- How a request ended. -/
inductive HttpOutcome
  | response (r : Response)
  | httpError
  | valueError
  | otherError

/-- One GET of a task's result; only transport errors are caught here. -/
def getResult (taskId : String) (key : Option String) :
    HttpOutcome → Except Raised (Option BrokerResult)
  | .response r => readResult taskId key r
  | .httpError => .error (.broker (brokerError "broker_transport_error" (some taskId) key))
  | .valueError => .error .other
  | .otherError => .error .other

def pollResult (taskId key : String) : HttpOutcome → Except Raised (Option BrokerResult) :=
  getResult taskId (some key)

def reconcileResult (taskId : String) (key : Option String) :
    HttpOutcome → Except Raised (Option BrokerResult) :=
  getResult taskId key

/-- The request profile of `broker_profile.py`, as far as it is used. -/
structure BrokerRequestProfile where
  maxTokens : Int
  maxRequestContentBytes : Nat
  acceptedFinishReason : String
  deriving DecidableEq, Repr

/-- `load_y01_profile()`. -/
def y01Profile : BrokerRequestProfile := ⟨2048, 131072, "stop"⟩

def partialKind : String := "traffic_partial"

def finalKind : String := "traffic_final"

/-- `BrokerTrafficSummarizationService._validated_result`. -/
def validatedResult (profile : BrokerRequestProfile) (result : BrokerResult) (fragment : Bool) :
    Except BrokerError Text :=
  if result.finishReason ≠ profile.acceptedFinishReason then
    if result.finishReason = "length" then .error (brokerError "broker_output_incomplete" none none)
    else .error (brokerError "broker_output_invalid" none none)
  else
    let validator := if fragment then validateBrokerPartialOutput else validateBrokerOutput
    match validator result.content with
    | some summary => .ok summary
    | none => .error (brokerError "broker_output_invalid" none none)

/-- What `poll_task` returns or raises. -/
def pollTask (profile : BrokerRequestProfile) (taskId key : String) (operationKind : Option String)
    (outcome : HttpOutcome) : Except BrokerError (Option Text) :=
  match pollResult taskId key outcome with
  | .error (.broker e) => .error e
  | .error .other => .error (brokerError "broker_task_indeterminate" (some taskId) (some key))
  | .ok none => .ok none
  | .ok (some result) =>
    (validatedResult profile result (operationKind = some partialKind)).map some

/-- What `reconcile` returns or raises. -/
def reconcile (profile : BrokerRequestProfile) (taskId : String) (key operationKind : Option String)
    (outcome : HttpOutcome) : Except Raised (Option Text) :=
  match reconcileResult taskId key outcome with
  | .error e => .error e
  | .ok none => .ok none
  | .ok (some result) =>
    ((validatedResult profile result (operationKind = some partialKind)).map some).mapError .broker

/-- The task in a `Location` header. -/
def locationId (platform : Platform) (baseUrl : String) (response : Response)
    (key : Option String) : Except Raised String :=
  let invalid : Raised := .broker (brokerError "broker_location_invalid" none key)
  let orRaise (url : Option ParsedUrl) : Except Raised ParsedUrl :=
    match url with
    | some u => .ok u
    | none => .error .other
  do
    let location := response.location.getD ""
    raiseIf (location = "") invalid
    let parsed ← orRaise (platform.urlparse location)
    let base ← orRaise (platform.urlparse baseUrl)
    raiseIf ((parsed.scheme ≠ "" ∨ parsed.netloc ≠ "")
      ∧ (parsed.scheme, parsed.netloc) ≠ (base.scheme, base.netloc)) invalid
    raiseIf (parsed.query ≠ "" ∨ parsed.fragment ≠ "" ∨ parsed.params ≠ "") invalid
    let decodedPath := platform.unquote parsed.path
    raiseIf (decodedPath ≠ parsed.path ∨ '\\' ∈ decodedPath.toList) invalid
    let joined ← match platform.urljoin (baseUrl ++ "/") location with
      | some url => .ok url
      | none => .error Raised.other
    let resolved ← orRaise (platform.urlparse joined)
    match (Text.splitOn '/' resolved.path.toList).map String.ofList with
    | ["", "v1", "tasks", taskId] =>
      raiseIf (taskId = "" ∨ ¬ isTaskId taskId) invalid
      return taskId
    | _ => .error invalid

/-- `_submit_task_response` on its response, without `Prefer`. -/
def readAccepted (platform : Platform) (baseUrl key : String) (response : Response) :
    Except Raised AcceptedTask := do
  if response.statusCode = 200 then
    -- a terminal answer to an asynchronous submission: keep the correlation
    let taskId ← locationId platform baseUrl response (some key)
    .error (.broker (brokerError "broker_protocol_error" (some taskId) (some key)))
  else if response.statusCode ≠ 201 ∧ response.statusCode ≠ 202 then
    .error (.broker (brokerError (problemCode response) none (some key)))
  else
    let taskId ← locationId platform baseUrl response (some key)
    match jsonDict response >>= fun payload => validateTask platform payload taskId with
    | .error e => .error (.broker (e.correlate (some taskId) (some key)))
    | .ok () => return ⟨taskId, key⟩

/-- The task that the answer to a POST names. -/
def createdTask (platform : Platform) (baseUrl key : String) (outcome : HttpOutcome) :
    Option String :=
  match outcome with
  | .response r =>
    match readAccepted platform baseUrl key r with
    | .ok accepted => some accepted.taskId
    | .error (.broker e) => e.taskId
    | .error .other => none
  | _ => none

end YTPipe.Broker
