import Mathlib.Algebra.Group.Int.Defs
import YTPipe.Platform

/-!
# What a failed summary is

`summary_failure_policy.py`, with the safe texts of `telegram_failure_notice.py`
and the rule of `broker_safe_retry.py`.
-/

namespace YTPipe.Broker

inductive Route
  | direct
  | broker
  deriving DecidableEq, Repr

inductive FailureDisposition
  | terminal
  | retry
  | quarantine
  deriving DecidableEq, Repr

inductive RecoveryOwner
  | ytpipe
  | broker
  | operator
  deriving DecidableEq, Repr

structure SummaryFailureOutcome where
  route : Route
  failureClass : String
  failureCode : String
  disposition : FailureDisposition
  retryAt : Option Time
  recoveryOwner : RecoveryOwner
  recoveryAction : String
  displayReason : String
  deriving DecidableEq, Repr

def brokerQuarantineCodes : List String :=
  ["broker_timeout", "broker_transport_error", "broker_task_indeterminate",
    "broker_location_invalid"]

def brokerTerminalCodes : List String :=
  ["broker_output_invalid", "broker_output_incomplete", "broker_task_failed",
    "broker_task_cancelled", "broker_task_expired", "broker_invalid_request",
    "broker_input_too_large", "broker_protocol_error", "broker_chunk_plan_invalid",
    "broker_location_invalid", "broker_unauthorized"]

def safeTerminalClasses : List String := ["transient_safe", "transient_unsent"]

def rejectedClasses : List String :=
  ["client_invalid", "policy_rejected", "backend_rejected", "output_invalid", "internal"]

def displayReasons : List (String × String) :=
  [("no_transcript", "No se encontró una transcripción utilizable."),
    ("direct_timeout", "El servicio directo agotó el tiempo de espera."),
    ("direct_transport_error", "El servicio directo no está disponible temporalmente."),
    ("direct_http_error", "El servicio directo devolvió un error temporal."),
    ("direct_provider_error", "El servicio directo informó un error temporal."),
    ("direct_invalid_response", "El servicio directo devolvió una respuesta inválida."),
    ("direct_empty_response", "El servicio directo devolvió una respuesta vacía."),
    ("broker_timeout",
      "El broker no confirmó el resultado dentro del plazo; requiere reconciliación."),
    ("broker_transport_error", "No se pudo contactar al broker de forma segura."),
    ("broker_task_indeterminate",
      "El resultado del broker es indeterminado y requiere resolución operativa."),
    ("broker_output_incomplete",
      "El modelo alcanzó el límite de tokens de salida antes de completar el resumen."),
    ("broker_output_invalid", "El broker devolvió una salida inválida."),
    ("broker_input_too_large", "La entrada supera el límite aceptado por el broker."),
    ("broker_protocol_error", "El broker devolvió una respuesta incompatible."),
    ("broker_chunk_plan_invalid",
      "El plan de resumen del broker no es válido y requiere revisión operativa."),
    ("backend_error", "El backend de inferencia no pudo completar la solicitud."),
    ("backend_context_exceeded", "El transcript excede el límite de contexto del modelo.")]

def fallbackReason : String := "El resumen no pudo generarse por un error controlado."

def displayReason (code : String) : String := (displayReasons.lookup code).getD fallbackReason

/-- `value or default` of an optional string: empty counts as missing. -/
def orElse (value : Option String) (default : String) : String :=
  match value with
  | some s => if s = "" then default else s
  | none => default

/-- A stable user-safe reason for a persisted stage code. -/
def formatSummaryFailureCode (code : Option String) : String :=
  displayReason (orElse code "summary_failure")

def baseDelaySeconds : Int := 30

/-- The wait before the next attempt, the attempts counted from one. -/
def retryDelay (attemptCount : Int) : Time :=
  seconds (max 1 baseDelaySeconds * 2 ^ (min (attemptCount - 1) 5).toNat)

/-- A deterministic, route-aware disposition that parses no text. -/
def classifySummaryFailure (route : Route) (code : String) (attemptCount maxAttempts : Int)
    (now : Time) (brokerFailureClass : Option String) : SummaryFailureOutcome :=
  let quarantine : SummaryFailureOutcome :=
    ⟨route, orElse brokerFailureClass "indeterminate", code, .quarantine, none, .operator,
      "broker_resolve", displayReason code⟩
  -- the classes of a transient failure, and the direct route, go on to the attempts
  let attempts : SummaryFailureOutcome :=
    let failureClass := if route = .broker then orElse brokerFailureClass "transient" else "transient"
    if attemptCount ≥ max 1 maxAttempts then
      ⟨route, failureClass, code, .terminal, none, .ytpipe, "none", displayReason code⟩
    else
      ⟨route, failureClass, code, .retry, some (now + retryDelay attemptCount), .ytpipe, "retry",
        displayReason code⟩
  if route = .broker then
    if brokerFailureClass = some "indeterminate"
        ∨ (brokerFailureClass = none ∧ code ∈ brokerQuarantineCodes) then quarantine
    else if (∃ c, brokerFailureClass = some c ∧ c ∈ safeTerminalClasses) then attempts
    else if (∃ c, brokerFailureClass = some c ∧ c ∈ rejectedClasses) ∨ code ∈ brokerTerminalCodes then
      ⟨route, orElse brokerFailureClass "permanent", code, .terminal, none, .broker, "none",
        displayReason code⟩
    else match brokerFailureClass with
      | some c =>
        ⟨route, c, code, .quarantine, none, .operator, "broker_resolve", displayReason code⟩
      | none => attempts
  else attempts

/-- Whether a confirmed end of a task may open a new submission generation. -/
def canAdvanceSubmissionEpoch (route : Route) (terminalConfirmed : Bool)
    (taskId currentTaskId failureClass : Option String) (attemptCount maxAttempts currentEpoch : Int) :
    Bool :=
  route = .broker && terminalConfirmed && (taskId.getD "" ≠ "") && taskId = currentTaskId
    && safeTerminalClasses.contains (failureClass.getD "") && attemptCount < maxAttempts
    && currentEpoch < maxAttempts

end YTPipe.Broker
