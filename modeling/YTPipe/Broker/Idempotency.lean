import YTPipe.Platform
import YTPipe.Text

/-!
# Idempotency keys

`summarization_gateway.py` and `broker_idempotency.py`.
-/

namespace YTPipe.Broker

open Framing (Bytes)

def contractVersion : String := "ytpipe-summary-v1"

def epochKeyVersion : String := "ytpipe-broker-epoch-v1"

structure SummaryGatewayContext where
  stageId : Int
  brokerSubmissionEpoch : Int
  deriving DecidableEq, Repr

structure SummaryOperation where
  kind : String
  ordinal : Int
  systemPrompt : String
  userPrompt : String
  maxTokens : Int
  stop : List String
  deriving DecidableEq, Repr

/-- The fields of the legacy key at epoch zero, of the tagged key thereafter. -/
def keyFields (context : SummaryGatewayContext) (operation : SummaryOperation) : List String :=
  if context.brokerSubmissionEpoch = 0 then
    [contractVersion, toString context.stageId, operation.kind, toString operation.ordinal]
  else
    ["version", epochKeyVersion, "stage_id", toString context.stageId,
      "operation_kind", operation.kind, "operation_ordinal", toString operation.ordinal,
      "epoch", toString context.brokerSubmissionEpoch]

/-- The bytes a key is the digest of; `none` where a length overflows its four bytes. -/
def keyBytes (context : SummaryGatewayContext) (operation : SummaryOperation) : Option Bytes :=
  Framing.frames ((keyFields context operation).map encode)

/-- `idempotency_key`: the key of epoch zero. -/
def idempotencyKey (platform : Platform) (context : SummaryGatewayContext)
    (operation : SummaryOperation) : Option String :=
  (keyBytes { context with brokerSubmissionEpoch := 0 } operation).map platform.sha256

/-- The legacy key for epoch zero and a tagged key thereafter; `none` is an
exception, of a negative epoch or of a field too long. -/
def brokerIdempotencyKey (platform : Platform) (context : SummaryGatewayContext)
    (operation : SummaryOperation) : Option String :=
  if context.brokerSubmissionEpoch = 0 then idempotencyKey platform context operation
  else if context.brokerSubmissionEpoch < 0 then none
  else (keyBytes context operation).map platform.sha256

theorem brokerIdempotencyKey_eq_some {platform : Platform} {context : SummaryGatewayContext}
    {operation : SummaryOperation} {key : String}
    (h : brokerIdempotencyKey platform context operation = some key) :
    0 ≤ context.brokerSubmissionEpoch ∧
      ∃ bytes, keyBytes context operation = some bytes ∧ key = platform.sha256 bytes := by
  unfold brokerIdempotencyKey at h
  split at h
  · next he =>
    obtain ⟨bytes, hb, hk⟩ := Option.map_eq_some_iff.mp h
    have hc : { context with brokerSubmissionEpoch := 0 } = context := by
      cases context; simpa using he.symm
    exact ⟨by omega, bytes, hc ▸ hb, hk.symm⟩
  · split at h
    · cases h
    · obtain ⟨bytes, hb, hk⟩ := Option.map_eq_some_iff.mp h
      exact ⟨by omega, bytes, hb, hk.symm⟩

end YTPipe.Broker
