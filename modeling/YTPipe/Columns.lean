import YTPipe.StageRun
import YTPipe.LedgerRows

/-!
# What fits a column

The widths `models/pipeline_stage.py` declares for what a stage keeps of the
broker, and which answers of the broker stay within them.
-/

namespace YTPipe

open Broker Proc

/-- A text, where there is one, of at most `n` characters. -/
def Within (n : Nat) (value : Option String) : Prop := ∀ s, value = some s → s.length ≤ n

/-- The row's broker columns are within `String(50)`, `String(100)` and `String(128)`. -/
structure Fits (r : PipelineStage) : Prop where
  failureClass : Within 50 r.failureClass
  failureCode : Within 100 r.failureCode
  brokerTaskId : Within 128 r.brokerTaskId
  brokerIdempotencyKey : Within 128 r.brokerIdempotencyKey

/-- The outcome of the failure policy fits. -/
structure OutcomeFits (outcome : SummaryFailureOutcome) : Prop where
  failureClass : outcome.failureClass.length ≤ 50
  failureCode : outcome.failureCode.length ≤ 100

/-- What an exception carries fits. -/
structure ErrorFits (exc : Raised) : Prop where
  failureClass : Within 50 exc.failureClass
  brokerCode : Within 100 exc.brokerCode
  code : Within 100 exc.code

/-- A failed result whose class and code fit. -/
def FactsFit (response : Response) : Prop :=
  response.statusCode = 200 → (taskResultStatus response).toOption = some .failed →
    ∀ error, (response.body.bind Json.asDict).bind (·.getDict? "error") = some error →
      Within 50 (error.getStr? "class") ∧ Within 100 (error.getStr? "code")

instance (n : Nat) (value : Option String) : Decidable (Within n value) :=
  inferInstanceAs (Decidable (∀ s ∈ value, s.length ≤ n))

instance (response : Response) : Decidable (FactsFit response) :=
  inferInstanceAs (Decidable (response.statusCode = 200 →
    (taskResultStatus response).toOption = some .failed →
      ∀ error ∈ (response.body.bind Json.asDict).bind (·.getDict? "error"),
        Within 50 (error.getStr? "class") ∧ Within 100 (error.getStr? "code")))

section texts

variable {n : Nat} {value other : Option String} {s : String}

theorem within_none : Within n none := by
  intro s hs
  cases hs

theorem within_some (h : s.length ≤ n) : Within n (some s) := by
  intro t ht
  cases ht
  exact h

theorem length_truncate (n : Nat) (s : String) : (truncate n s).length ≤ n := by
  rw [truncate, ← String.length_toList, String.toList_ofList, List.length_take]
  omega

theorem within_truncate (n : Nat) (value : Option String) : Within n (value.map (truncate n)) := by
  intro s hs
  obtain ⟨t, _, rfl⟩ := Option.map_eq_some_iff.mp hs
  exact length_truncate n t

theorem Within.orElse (h : Within n value) (hs : s.length ≤ n) : (orElse value s).length ≤ n := by
  cases value with
  | none => exact hs
  | some t =>
    change (if t = "" then s else t).length ≤ n
    split
    · exact hs
    · exact h t rfl

theorem Within.firstOf (h : Within n value) (h' : Within n other) :
    Within n (firstOf value other) := by
  unfold Broker.firstOf
  split
  · exact h'
  · exact h

end texts

section policy

variable {code : String} {cls : Option String} {attempts maxAttempts : Int} {now : Time}

theorem classify_fits (class_ : Within 50 cls) (code_ : code.length ≤ 100) :
    OutcomeFits (classifySummaryFailure .broker code attempts maxAttempts now cls) := by
  unfold classifySummaryFailure
  simp only [if_true]
  split
  · exact ⟨class_.orElse (by decide), code_⟩
  · split
    · split
      · exact ⟨class_.orElse (by decide), code_⟩
      · exact ⟨class_.orElse (by decide), code_⟩
    · split
      · exact ⟨class_.orElse (by decide), code_⟩
      · split
        · exact ⟨class_ _ rfl, code_⟩
        · split
          · exact ⟨(by decide : (orElse none "transient").length ≤ 50), code_⟩
          · exact ⟨(by decide : (orElse none "transient").length ≤ 50), code_⟩

theorem protocolQuarantine_fits : OutcomeFits protocolQuarantine := ⟨by decide, by decide⟩

end policy

section errors

variable {e : BrokerError} {response : Response} {task : String} {key : Option String}

theorem settled_length : ∀ code ∈ settledCodes, code.length ≤ 100 := by decide

theorem unclassified_fits (h : Unclassified e) : ErrorFits (.broker e) where
  failureClass := by
    rw [Raised.failureClass, h.failureClass]
    exact within_none
  brokerCode := by
    rw [Raised.brokerCode, h.brokerCode]
    exact within_none
  code := within_some (settled_length _ h.settled)

theorem other_fits : ErrorFits .other := ⟨within_none, within_none, within_none⟩

/-- The end of a task, as it is told, fits where its facts do. -/
theorem terminalTaskError_fits {state : TaskState} (fits : FactsFit response)
    (ok : response.statusCode = 200) (h : taskResultStatus response = .ok state) :
    ErrorFits (.broker (terminalTaskError response state (some task) key)) := by
  have named : ("broker_task_" ++ state.name).length ≤ 100 := by cases state <;> decide
  have unclassified : ErrorFits (.broker ⟨"broker_task_" ++ state.name, some "terminal",
      some ("task_" ++ state.name), some task, key⟩) := by
    refine ⟨within_some (by decide), within_some ?_, within_some named⟩
    cases state <;> decide
  unfold terminalTaskError
  split
  · next error herror =>
    have failed : (taskResultStatus response).toOption = some .failed := by
      rw [h]
      rfl
    obtain ⟨class_, code⟩ := fits ok failed error herror
    split
    · next failureClass brokerCode hclass hcode =>
      exact ⟨within_some (class_ _ hclass), within_some (code _ hcode), within_some named⟩
    · exact unclassified
  · exact unclassified

theorem readResult_fits (fits : FactsFit response) :
    FailsWith ErrorFits (readResult task key response) := by
  unfold readResult
  split
  · exact failsWith_error (unclassified_fits (unclassified_problemCode response _ _))
  · next ok =>
    have ok : response.statusCode = 200 := Decidable.not_not.mp ok
    split
    · next e he =>
      rw [taskResultStatus_fails response e he]
      exact failsWith_error (unclassified_fits (unclassified_protocolError.correlate _ _))
    · exact failsWith_ok _
    · split
      · next raised hr =>
        rcases validatedInference_fails response raised hr with rfl | rfl
        · exact failsWith_error other_fits
        · exact failsWith_error (unclassified_fits (unclassified_protocolError.correlate _ _))
      · exact failsWith_ok _
    · next state _ _ hs => exact failsWith_error (terminalTaskError_fits fits ok hs)

/-- A request whose answer, if it is a failed result, has facts that fit. -/
def OutcomeFactsFit (outcome : HttpOutcome) : Prop := ∀ r, outcome = .response r → FactsFit r

instance (outcome : HttpOutcome) : Decidable (OutcomeFactsFit outcome) :=
  match outcome with
  | .response r => decidable_of_iff (FactsFit r)
    ⟨fun h _ same => HttpOutcome.response.inj same ▸ h, fun h => h r rfl⟩
  | .httpError => isTrue (nofun)
  | .valueError => isTrue (nofun)
  | .otherError => isTrue (nofun)

variable {outcome : HttpOutcome} {profile : BrokerRequestProfile} {kind : Option String}

theorem getResult_fits (fits : OutcomeFactsFit outcome) :
    FailsWith ErrorFits (getResult task key outcome) := by
  cases outcome with
  | response r => exact readResult_fits (fits r rfl)
  | httpError =>
    exact failsWith_error (unclassified_fits (unclassified_brokerError (by decide) (by decide) _ _))
  | valueError => exact failsWith_error other_fits
  | otherError => exact failsWith_error other_fits

theorem pollTask_fits {key : String} (fits : OutcomeFactsFit outcome) :
    FailsWith (fun e => ErrorFits (.broker e)) (pollTask profile task key kind outcome) := by
  unfold pollTask
  split
  · next e he => exact failsWith_error (getResult_fits fits _ he)
  · exact failsWith_error (unclassified_fits (unclassified_brokerError (by decide) (by decide) _ _))
  · exact failsWith_ok _
  · next result _ =>
    cases h : validatedResult profile result (kind = some partialKind) with
    | ok output => exact failsWith_ok _
    | error e => exact failsWith_error (unclassified_fits (validatedResult_fails _ _ _ e h))

theorem reconcile_fits (fits : OutcomeFactsFit outcome) :
    FailsWith ErrorFits (reconcile profile task key kind outcome) := by
  unfold reconcile
  split
  · next e he => exact failsWith_error (getResult_fits fits _ he)
  · exact failsWith_ok _
  · next result _ =>
    cases h : validatedResult profile result (kind = some partialKind) with
    | ok output => exact failsWith_ok _
    | error e => exact failsWith_error (unclassified_fits (validatedResult_fails _ _ _ e h))

theorem readAccepted_fits (platform : Platform) (baseUrl key : String) :
    FailsWith ErrorFits (readAccepted platform baseUrl key response) := by
  intro raised h
  rcases readAccepted_fails platform baseUrl key response raised h with rfl | ⟨e, rfl, unaccepted⟩
  · exact other_fits
  · exact unclassified_fits unaccepted.unclassified

end errors

section rows

variable {r : PipelineStage} {outcome : SummaryFailureOutcome} {attemptedAt : Time}

theorem keepCorrelation_fits (task key : Option String) (h : Fits r) :
    Fits (keepCorrelation task key r) := by
  refine ⟨h.failureClass, h.failureCode, ?_, ?_⟩
  · unfold keepCorrelation
    simp only
    split
    · exact h.brokerTaskId
    · exact within_truncate 128 task
  · unfold keepCorrelation
    simp only
    split
    · exact h.brokerIdempotencyKey
    · exact within_truncate 128 key

theorem noteFailure_fits (fits : OutcomeFits outcome) (h : Fits r) : Fits (noteFailure outcome r) :=
  ⟨within_some fits.failureClass, within_some fits.failureCode, h.brokerTaskId,
    h.brokerIdempotencyKey⟩

theorem recordHistory_fits (h : Fits r) : Fits (recordHistory outcome attemptedAt r) :=
  ⟨h.failureClass, h.failureCode, h.brokerTaskId, h.brokerIdempotencyKey⟩

theorem advanceEpoch_fits (h : Fits r) : Fits (advanceEpoch r) :=
  ⟨h.failureClass, h.failureCode, within_none, within_none⟩

theorem Fits.ite {c : Prop} [Decidable c] {r' : PipelineStage} (h : Fits r) (h' : Fits r') :
    Fits (if c then r else r') := by
  split
  · exact h
  · exact h'

theorem applyOutcomeRow_fits (fits : OutcomeFits outcome) (task : Option String) (confirmed : Bool)
    (h : Fits r) : Fits (applyOutcomeRow outcome attemptedAt task confirmed r) := by
  have noted := noteFailure_fits fits h
  unfold applyOutcomeRow
  simp only
  generalize hrow : (if confirmed = true ∧ task.getD "" ≠ "" ∧
    outcome.failureClass ∈ safeTerminalClasses then _ else noteFailure outcome r) = row
  have recorded : Fits row := hrow ▸ (recordHistory_fits noted).ite noted
  generalize hrow : (if canAdvanceSubmissionEpoch .broker confirmed task row.brokerTaskId
    (some outcome.failureClass) row.attemptCount row.maxAttempts row.brokerSubmissionEpoch = true
      then _ else row) = row'
  have advanced : Fits row' := hrow ▸ (advanceEpoch_fits recorded).ite recorded
  split
  · exact ⟨advanced.failureClass, advanced.failureCode, advanced.brokerTaskId,
      advanced.brokerIdempotencyKey⟩
  · exact ⟨advanced.failureClass, advanced.failureCode, advanced.brokerTaskId,
      advanced.brokerIdempotencyKey⟩
  · exact ⟨advanced.failureClass, advanced.failureCode, advanced.brokerTaskId,
      advanced.brokerIdempotencyKey⟩

theorem completeRow_fits (finalize : Bool) (h : Fits r) : Fits (completeRow finalize r) := by
  refine ⟨within_none, within_none, ?_, ?_⟩
  · cases finalize with
    | true => exact h.brokerTaskId
    | false => exact within_none
  · cases finalize with
    | true => exact h.brokerIdempotencyKey
    | false => exact within_none

theorem localFailureRow_fits {code : String} (short : code.length ≤ 100) :
    Fits (localFailureRow attemptedAt code r) := by
  have fits : OutcomeFits (classifySummaryFailure .broker code (startAttempt attemptedAt r).attemptCount
      (startAttempt attemptedAt r).maxAttempts attemptedAt
      (some (if code = "backend_context_exceeded" then "backend_rejected" else "internal"))) := by
    apply classify_fits _ short
    apply within_some
    split <;> decide
  exact ⟨within_some fits.failureClass, within_some fits.failureCode, within_none, within_none⟩

theorem exc_code_fits {exc : Raised} {fallback : String} (fits : ErrorFits exc)
    (short : fallback.length ≤ 100) :
    (orElse (firstOf exc.brokerCode exc.code) fallback).length ≤ 100 :=
  (fits.brokerCode.firstOf fits.code).orElse short

theorem stillIndeterminateRow_fits {exc : Raised} {now : Time} (fits : ErrorFits exc) (h : Fits r) :
    Fits (stillIndeterminateRow exc now r) :=
  ⟨within_some (by decide), within_some (exc_code_fits fits (by decide)), h.brokerTaskId,
    h.brokerIdempotencyKey⟩

theorem reconcileFailedRow_fits {exc : Raised} (fits : ErrorFits exc) (h : Fits r) :
    Fits (reconcileFailedRow exc r) :=
  ⟨within_some (fits.failureClass.orElse (by decide)),
    within_some (exc_code_fits fits (by decide)), h.brokerTaskId, h.brokerIdempotencyKey⟩

theorem skipRow_fits (h : Fits r) : Fits (skipRow r) := by
  unfold skipRow
  split
  · exact h
  · exact ⟨h.failureClass, h.failureCode, h.brokerTaskId, h.brokerIdempotencyKey⟩

/-- Other columns do not matter. -/
theorem Fits.of_same {r' : PipelineStage} (h : Fits r) (failureClass : r'.failureClass = r.failureClass)
    (failureCode : r'.failureCode = r.failureCode) (task : r'.brokerTaskId = r.brokerTaskId)
    (key : r'.brokerIdempotencyKey = r.brokerIdempotencyKey) : Fits r' :=
  ⟨failureClass ▸ h.failureClass, failureCode ▸ h.failureCode, task ▸ h.brokerTaskId,
    key ▸ h.brokerIdempotencyKey⟩

end rows

end YTPipe
