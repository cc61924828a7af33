import Mathlib
import YTPipe.StageRun

/-!
# Keys tell requests apart

Two key encodings share one digest: four bare fields, and five named ones.
-/

namespace YTPipe.Broker

/-- The fields of a key tell its stage, epoch and operation. -/
theorem keyFields_injective {c c' : SummaryGatewayContext} {o o' : SummaryOperation}
    (h : keyFields c o = keyFields c' o') : c = c' ∧ o.kind = o'.kind ∧ o.ordinal = o'.ordinal := by
  obtain ⟨id, epoch⟩ := c
  obtain ⟨id', epoch'⟩ := c'
  simp only [keyFields] at h
  split at h <;> split at h
  · next he he' =>
    simp only [List.cons.injEq, and_true, true_and] at h
    obtain ⟨hid, hkind, hord⟩ := h
    have hid := Int.repr_injective hid
    have hord := Int.repr_injective hord
    subst he he' hid
    exact ⟨rfl, hkind, hord⟩
  · simp at h
  · simp at h
  · simp only [List.cons.injEq, and_true, true_and] at h
    obtain ⟨hid, hkind, hord, hepoch⟩ := h
    have hid := Int.repr_injective hid
    have hord := Int.repr_injective hord
    have hepoch := Int.repr_injective hepoch
    subst hid hepoch
    exact ⟨rfl, hkind, hord⟩

theorem keyBytes_injective {c c' : SummaryGatewayContext} {o o' : SummaryOperation}
    {bytes : Framing.Bytes} (h : keyBytes c o = some bytes) (h' : keyBytes c' o' = some bytes) :
    c = c' ∧ o.kind = o'.kind ∧ o.ordinal = o'.ordinal := by
  have same := Framing.frames_injective h h'
  exact keyFields_injective (List.map_injective_iff.mpr (fun _ _ => encode_injective) same)

/-- Each field of the key fits the four bytes of its length. -/
def Short (context : SummaryGatewayContext) (operation : SummaryOperation) : Prop :=
  ∀ field ∈ keyFields context operation, (encode field).length < 2 ^ 32

instance (context : SummaryGatewayContext) (operation : SummaryOperation) :
    Decidable (Short context operation) :=
  inferInstanceAs (Decidable (∀ field ∈ keyFields context operation, _))

theorem keyBytes_of_short {context : SummaryGatewayContext} {operation : SummaryOperation}
    (short : Short context operation) : ∃ bytes, keyBytes context operation = some bytes := by
  apply Framing.frames_of_short
  intro field hfield
  obtain ⟨text, htext, rfl⟩ := List.mem_map.mp hfield
  exact short text htext

theorem brokerIdempotencyKey_of_short {platform : Platform} {context : SummaryGatewayContext}
    {operation : SummaryOperation} (short : Short context operation)
    (epoch : 0 ≤ context.brokerSubmissionEpoch) : ∃ bytes, keyBytes context operation = some bytes
      ∧ brokerIdempotencyKey platform context operation = some (platform.sha256 bytes) := by
  obtain ⟨bytes, hbytes⟩ := keyBytes_of_short short
  refine ⟨bytes, hbytes, ?_⟩
  unfold brokerIdempotencyKey
  split
  · next legacy =>
    have same : { context with brokerSubmissionEpoch := 0 } = context := by
      rw [← legacy]
    rw [idempotencyKey, same, hbytes]
    rfl
  · rw [if_neg (by omega), hbytes]
    rfl

/-- The digest does not collide on what two requests' keys are made of. -/
def KeysCollisionFree (platform : Platform) (context context' : SummaryGatewayContext)
    (operation operation' : SummaryOperation) : Prop :=
  ∀ bytes bytes', keyBytes context operation = some bytes →
    keyBytes context' operation' = some bytes' →
      platform.sha256 bytes = platform.sha256 bytes' → bytes = bytes'

/-- Every request has a key, and two requests have the same key just where they
are of one stage, operation and epoch; so a legacy key is never a tagged one. -/
theorem brokerIdempotencyKey_injective (platform : Platform)
    (context context' : SummaryGatewayContext) (operation operation' : SummaryOperation)
    (collisionFree : KeysCollisionFree platform context context' operation operation')
    (epoch : 0 ≤ context.brokerSubmissionEpoch) (epoch' : 0 ≤ context'.brokerSubmissionEpoch)
    (short : Short context operation) (short' : Short context' operation') :
    ∃ key key', brokerIdempotencyKey platform context operation = some key
      ∧ brokerIdempotencyKey platform context' operation' = some key'
      ∧ (key = key' ↔ context.stageId = context'.stageId ∧ operation.kind = operation'.kind
        ∧ operation.ordinal = operation'.ordinal
        ∧ context.brokerSubmissionEpoch = context'.brokerSubmissionEpoch)
      ∧ (context.brokerSubmissionEpoch = 0 → 1 ≤ context'.brokerSubmissionEpoch → key ≠ key') := by
  obtain ⟨bytes, hbytes, key⟩ := @brokerIdempotencyKey_of_short platform _ _ short epoch
  obtain ⟨bytes', hbytes', key'⟩ := @brokerIdempotencyKey_of_short platform _ _ short' epoch'
  have tells (same : platform.sha256 bytes = platform.sha256 bytes') : context = context'
      ∧ operation.kind = operation'.kind ∧ operation.ordinal = operation'.ordinal := by
    obtain rfl := collisionFree _ _ hbytes hbytes' same
    exact keyBytes_injective hbytes hbytes'
  refine ⟨_, _, key, key', ⟨fun same => ?_, ?_⟩, fun legacy tagged same => ?_⟩
  · obtain ⟨rfl, kind, ordinal⟩ := tells same
    exact ⟨rfl, kind, ordinal, rfl⟩
  · rintro ⟨stage, kind, ordinal, epoch⟩
    have fields : keyFields context operation = keyFields context' operation' := by
      unfold keyFields
      rw [stage, kind, ordinal, epoch]
    unfold keyBytes at hbytes hbytes'
    rw [fields, hbytes'] at hbytes
    rw [Option.some.inj hbytes]
  · obtain ⟨rfl, _⟩ := tells same
    omega

/-- The whole transcript's operation. -/
def Sample.operation : SummaryOperation := ⟨"traffic", 0, "", "", 0, []⟩

theorem brokerIdempotencyKey_injective_epochs :
    brokerIdempotencyKey (Sample.platform .assigned) ⟨7, 0⟩ Sample.operation
      ≠ brokerIdempotencyKey (Sample.platform .assigned) ⟨7, 1⟩ Sample.operation := by
  have short : Short ⟨7, 0⟩ Sample.operation ∧ Short ⟨7, 1⟩ Sample.operation := by
    decide +kernel
  have free : KeysCollisionFree (Sample.platform .assigned) ⟨7, 0⟩ ⟨7, 1⟩ Sample.operation
      Sample.operation := by
    have apart : (keyBytes ⟨7, 0⟩ Sample.operation).map (Sample.platform .assigned).sha256
        ≠ (keyBytes ⟨7, 1⟩ Sample.operation).map (Sample.platform .assigned).sha256 := by
      decide +kernel
    intro bytes bytes' h h' same
    rw [h, h'] at apart
    exact absurd (congrArg some same) apart
  obtain ⟨key, key', hkey, hkey', _, tagged⟩ := brokerIdempotencyKey_injective
    (Sample.platform .assigned) ⟨7, 0⟩ ⟨7, 1⟩ Sample.operation Sample.operation free (by decide)
    (by decide) short.1 short.2
  rw [hkey, hkey']
  intro same
  exact tagged rfl (by decide) (Option.some.inj same)

end YTPipe.Broker
