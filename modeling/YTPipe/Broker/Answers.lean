import YTPipe.Ledger

/-!
# What can be read from an answer

Which errors a submission and a poll end in, and what the failure policy makes
of them.
-/

namespace YTPipe.Broker

open Ledger

/-- The codes an error without a class may have. -/
def settledCodes : List String := brokerQuarantineCodes ++ brokerTerminalCodes

/-- An error of the adapter itself: no class, and a code the failure policy knows. -/
structure Unclassified (e : BrokerError) : Prop where
  failureClass : e.failureClass = none
  brokerCode : e.brokerCode = none
  settled : e.code ∈ settledCodes
  unconfirmed : e.code ≠ "broker_task_failed"

theorem Unclassified.correlate {e : BrokerError} (h : Unclassified e) (task key : Option String) :
    Unclassified (e.correlate task key) :=
  ⟨h.failureClass, h.brokerCode, h.settled, h.unconfirmed⟩

theorem unclassified_brokerError {code : String} (settled : code ∈ settledCodes)
    (unconfirmed : code ≠ "broker_task_failed") (task key : Option String) :
    Unclassified (brokerError code task key) :=
  ⟨rfl, rfl, settled, unconfirmed⟩

theorem unclassified_protocolError : Unclassified protocolError :=
  unclassified_brokerError (by decide) (by decide) none none

theorem unclassified_problemCode (r : Response) (task key : Option String) :
    Unclassified (brokerError (problemCode r) task key) := by
  unfold problemCode
  split <;> exact unclassified_brokerError (by decide) (by decide) task key

theorem jsonDict_fails (r : Response) : FailsWith (· = protocolError) (jsonDict r) := by
  unfold jsonDict
  split
  · exact failsWith_ok _
  · exact failsWith_error rfl

theorem validateTask_fails (platform : Platform) (payload : Json.Dict) (task : String) :
    FailsWith (· = protocolError) (validateTask platform payload task) := by
  unfold validateTask
  iterate 7 refine failsWith_bind (failsWith_raiseIf rfl) fun _ => ?_
  exact failsWith_raiseIf rfl

theorem validateClassifiedError_fails (value : Option Json.Dict) :
    FailsWith (· = protocolError) (validateClassifiedError value) := by
  unfold validateClassifiedError
  split
  · iterate 2 refine failsWith_bind (failsWith_raiseIf rfl) fun _ => ?_
    exact failsWith_raiseIf rfl
  · exact failsWith_error rfl

theorem taskResultStatus_fails (r : Response) :
    FailsWith (· = protocolError) (taskResultStatus r) := by
  unfold taskResultStatus
  refine failsWith_bind (jsonDict_fails r) fun payload => ?_
  refine failsWith_bind (failsWith_raiseIf rfl) fun _ => ?_
  split
  case h_3 =>
    refine failsWith_bind (failsWith_raiseIf rfl) fun _ => ?_
    exact failsWith_bind (validateClassifiedError_fails _) fun _ => failsWith_ok _
  case h_6 => exact failsWith_error rfl
  all_goals exact failsWith_bind (failsWith_raiseIf rfl) fun _ => failsWith_ok _

theorem validatedInference_fails (r : Response) :
    FailsWith (fun raised => raised = .other ∨ raised = .broker protocolError)
      (validatedInference r) := by
  unfold validatedInference
  refine failsWith_bind (failsWith_mapError (jsonDict_fails r) fun e he => .inr (he ▸ rfl)) fun _ => ?_
  refine failsWith_bind (failsWith_raiseIf (.inr rfl)) fun _ => ?_
  split
  · exact failsWith_error (.inr rfl)
  · refine failsWith_bind (failsWith_raiseIf (.inr rfl)) fun _ => ?_
    split
    · exact failsWith_error (.inr rfl)
    · refine failsWith_bind (failsWith_raiseIf (.inl rfl)) fun _ => ?_
      refine failsWith_bind (failsWith_raiseIf (.inr rfl)) fun _ => ?_
      exact failsWith_bind (failsWith_raiseIf (.inr rfl)) fun _ => failsWith_ok _

theorem validatedResult_fails (profile : BrokerRequestProfile) (result : BrokerResult)
    (fragment : Bool) : FailsWith Unclassified (validatedResult profile result fragment) := by
  unfold validatedResult
  split
  · split <;> exact failsWith_error (unclassified_brokerError (by decide) (by decide) none none)
  · simp only
    split
    · exact failsWith_ok _
    · exact failsWith_error (unclassified_brokerError (by decide) (by decide) none none)

/-- An error that carries the class the broker gave, or `terminal`. -/
structure Classified (outcome : HttpOutcome) (e : BrokerError) : Prop where
  classes : ∃ c b, e.failureClass = some c ∧ e.brokerCode = some b
  transient : ∀ c ∈ safeTerminalClasses, e.failureClass = some c →
    e.code = "broker_task_failed" ∧ failedTransient outcome = true

theorem terminalTaskError_classified {r : Response} {state : TaskState} (ok : r.statusCode = 200)
    (h : taskResultStatus r = .ok state) (task key : Option String) :
    Classified (.response r) (terminalTaskError r state task key) := by
  have unclassified : Classified (.response r)
      ⟨"broker_task_" ++ state.name, some "terminal", some ("task_" ++ state.name), task, key⟩ := by
    refine ⟨⟨_, _, rfl, rfl⟩, ?_⟩
    rintro c hc ⟨⟩
    exact absurd hc (by decide)
  unfold terminalTaskError
  split
  · next error herror =>
    split
    · next failureClass brokerCode hclass hcode =>
      refine ⟨⟨failureClass, brokerCode, rfl, rfl⟩, ?_⟩
      rintro c hc ⟨⟩
      constructor
      · rfl
      · simp only [failedTransient, h, herror, hclass, ok, Option.bind_some, Option.getD_some,
          decide_true, Bool.true_and, List.contains_eq_mem, decide_eq_true_eq]
        exact hc
    · exact unclassified
  · exact unclassified

/-- An error of a response carries a class only where the task has ended. -/
theorem readResult_fails (task : String) (key : Option String) (r : Response) :
    FailsWith (fun raised => raised = .other ∨ ∃ e, raised = .broker e ∧
      (Unclassified e ∨ Classified (.response r) e)) (readResult task key r) := by
  unfold readResult
  split
  · exact failsWith_error (.inr ⟨_, rfl, .inl (unclassified_problemCode r _ _)⟩)
  · next ok =>
    have ok : r.statusCode = 200 := Decidable.not_not.mp ok
    split
    · next e he =>
      have := taskResultStatus_fails r e he
      subst this
      exact failsWith_error (.inr ⟨_, rfl, .inl (unclassified_protocolError.correlate _ _)⟩)
    · exact failsWith_ok _
    · split
      · next raised hr =>
        rcases validatedInference_fails r raised hr with rfl | rfl
        · exact failsWith_error (.inl rfl)
        · exact failsWith_error (.inr ⟨_, rfl, .inl (unclassified_protocolError.correlate _ _)⟩)
      · exact failsWith_ok _
    · next state _ _ hs =>
      exact failsWith_error (.inr ⟨_, rfl, .inr (terminalTaskError_classified ok hs _ _)⟩)

theorem getResult_fails (task : String) (key : Option String) (outcome : HttpOutcome) :
    FailsWith (fun raised => raised = .other ∨ ∃ e, raised = .broker e ∧
      (Unclassified e ∨ Classified outcome e)) (getResult task key outcome) := by
  cases outcome with
  | response r => exact readResult_fails task key r
  | httpError =>
    exact failsWith_error
      (.inr ⟨_, rfl, .inl (unclassified_brokerError (by decide) (by decide) _ _)⟩)
  | valueError => exact failsWith_error (.inl rfl)
  | otherError => exact failsWith_error (.inl rfl)

theorem pollTask_fails (profile : BrokerRequestProfile) (task key : String)
    (operationKind : Option String) (outcome : HttpOutcome) :
    FailsWith (fun e => Unclassified e ∨ Classified outcome e)
      (pollTask profile task key operationKind outcome) := by
  unfold pollTask
  split
  · next e he =>
    rcases getResult_fails task (some key) outcome _ he with h | ⟨_, h, hc⟩
    · cases h
    · cases h
      exact failsWith_error hc
  · exact failsWith_error (.inl (unclassified_brokerError (by decide) (by decide) _ _))
  · exact failsWith_ok _
  · next result _ =>
    cases h : validatedResult profile result (operationKind = some partialKind) with
    | ok output => exact failsWith_ok _
    | error e => exact failsWith_error (.inl (validatedResult_fails _ _ _ e h))

/-- The task and the key go into the errors only. -/
theorem getResult_ok_iff {task : String} {key : Option String} (task' : String)
    (key' : Option String) {outcome : HttpOutcome} {result : Option BrokerResult} :
    getResult task key outcome = .ok result ↔ getResult task' key' outcome = .ok result := by
  cases outcome with
  | response r =>
    change readResult task key r = _ ↔ readResult task' key' r = _
    unfold readResult
    split
    · simp
    · split
      · simp
      · rfl
      · split <;> simp
      · simp
  | httpError => simp [getResult]
  | valueError => simp [getResult]
  | otherError => simp [getResult]

theorem validatedOutput_of_result {profile : BrokerRequestProfile} {task : String}
    {key operationKind : Option String} {outcome : HttpOutcome} {result : BrokerResult}
    {output : Text} (h : getResult task key outcome = .ok (some result))
    (hv : validatedResult profile result (operationKind = some partialKind) = .ok output) :
    validatedOutput profile operationKind outcome = some output := by
  have h := (getResult_ok_iff "" none).mp h
  simp only [validatedOutput, h, hv, Except.toOption]

theorem pollTask_output {profile : BrokerRequestProfile} {task key : String}
    {operationKind : Option String} {outcome : HttpOutcome} {output : Text}
    (h : pollTask profile task key operationKind outcome = .ok (some output)) :
    validatedOutput profile operationKind outcome = some output := by
  unfold pollTask at h
  split at h
  · cases h
  · cases h
  · cases h
  · next result hr =>
    cases hv : validatedResult profile result (operationKind = some partialKind) with
    | error e => simp [hv, Except.map] at h
    | ok o =>
      simp only [hv, Except.map, Except.ok.injEq, Option.some.injEq] at h
      subst h
      exact validatedOutput_of_result hr hv

theorem reconcile_output {profile : BrokerRequestProfile} {task : String}
    {key operationKind : Option String} {outcome : HttpOutcome} {output : Text}
    (h : reconcile profile task key operationKind outcome = .ok (some output)) :
    validatedOutput profile operationKind outcome = some output := by
  unfold reconcile at h
  split at h
  · cases h
  · cases h
  · next result hr =>
    cases hv : validatedResult profile result (operationKind = some partialKind) with
    | error e =>
      rw [hv] at h
      cases h
    | ok o =>
      rw [hv] at h
      cases h
      exact validatedOutput_of_result hr hv

/-- The output of a partial operation has text. -/
theorem validatedOutput_ne_nil {profile : BrokerRequestProfile} {outcome : HttpOutcome}
    {output : Text} (h : validatedOutput profile (some partialKind) outcome = some output) :
    output ≠ [] := by
  unfold validatedOutput at h
  split at h
  · next result _ =>
    unfold validatedResult at h
    split at h
    · split at h <;> simp [Except.toOption] at h
    · simp only [decide_true, if_true] at h
      split at h
      · next hv =>
        cases h
        exact validateBrokerPartialOutput_ne_nil hv
      · simp [Except.toOption] at h
  · cases h

/-- The checks of the path of a resolved `Location`. -/
theorem locationId_isTaskId {platform : Platform} {baseUrl : String} {r : Response}
    {key : Option String} {task : String} (h : locationId platform baseUrl r key = .ok task) :
    isTaskId task = true := by
  simp only [locationId, bind_eq_ok] at h
  obtain ⟨_, _, _, _, _, _, _, _, _, _, _, _, h⟩ := h
  split at h
  · obtain ⟨joined, _, h⟩ := bind_eq_ok.mp h
    obtain ⟨resolved, _, h⟩ := bind_eq_ok.mp h
    split at h
    · simp only [bind_eq_ok, raiseIf_eq_ok, not_or, Decidable.not_not] at h
      obtain ⟨_, ⟨_, ht⟩, h⟩ := h
      cases h
      exact ht
    · cases h
  · obtain ⟨joined, hj, _⟩ := bind_eq_ok.mp h
    cases hj

/-- A submission that failed: a task is named only where the answer to the POST
could not be read. -/
structure Unaccepted (e : BrokerError) : Prop where
  unclassified : Unclassified e
  named : ∀ task, e.taskId = some task → e.code = "broker_protocol_error" ∧ isTaskId task = true

theorem unaccepted_of_none {e : BrokerError} (h : Unclassified e) (none : e.taskId = none) :
    Unaccepted e :=
  ⟨h, fun task ht => absurd (none.symm.trans ht) (by simp)⟩

/-- A text that is no URL raises what no caller catches. -/
theorem failsWith_url {E : Raised → Prop} (other : E .other) (url : Option ParsedUrl) :
    FailsWith E (match url with
      | some u => .ok u
      | none => .error .other) := by
  cases url with
  | some u => exact failsWith_ok u
  | none => exact failsWith_error other

/-- The part of `locationId` from the joined URL on. -/
theorem failsWith_joined {E : Raised → Prop} {platform : Platform} {key : Option String}
    (other : E .other) (invalid : E (.broker (brokerError "broker_location_invalid" none key)))
    {joined : Except Raised String} (hj : FailsWith E joined) :
    FailsWith E (joined >>= fun j => (match platform.urlparse j with
        | some u => Except.ok u
        | none => Except.error Raised.other) >>= fun resolved =>
      match (Text.splitOn '/' resolved.path.toList).map String.ofList with
      | ["", "v1", "tasks", taskId] => do
        raiseIf (taskId = "" ∨ ¬ isTaskId taskId)
          (.broker (brokerError "broker_location_invalid" none key))
        return taskId
      | _ => .error (.broker (brokerError "broker_location_invalid" none key))) := by
  refine failsWith_bind hj fun _ => failsWith_bind (failsWith_url other _) fun _ => ?_
  split
  · exact failsWith_bind (failsWith_raiseIf invalid) fun _ => failsWith_ok _
  · exact failsWith_error invalid

theorem locationId_fails (platform : Platform) (baseUrl : String) (r : Response)
    (key : Option String) :
    FailsWith (fun raised => raised = .other ∨ ∃ e, raised = .broker e ∧ Unaccepted e)
      (locationId platform baseUrl r key) := by
  have invalid : Unaccepted (brokerError "broker_location_invalid" none key) :=
    unaccepted_of_none (unclassified_brokerError (by decide) (by decide) _ _) rfl
  unfold locationId
  refine failsWith_bind (failsWith_raiseIf (.inr ⟨_, rfl, invalid⟩)) fun _ => ?_
  refine failsWith_bind (failsWith_url (.inl rfl) _) fun _ => ?_
  refine failsWith_bind (failsWith_url (.inl rfl) _) fun _ => ?_
  iterate 3 refine failsWith_bind (failsWith_raiseIf (.inr ⟨_, rfl, invalid⟩)) fun _ => ?_
  split
  · exact failsWith_joined (.inl rfl) (.inr ⟨_, rfl, invalid⟩) (failsWith_ok _)
  · exact failsWith_joined (.inl rfl) (.inr ⟨_, rfl, invalid⟩) (failsWith_error (.inl rfl))

theorem readAccepted_fails (platform : Platform) (baseUrl key : String) (r : Response) :
    FailsWith (fun raised => raised = .other ∨ ∃ e, raised = .broker e ∧ Unaccepted e)
      (readAccepted platform baseUrl key r) := by
  unfold readAccepted
  split
  · rintro raised h
    cases hl : locationId platform baseUrl r (some key) with
    | error x =>
      rw [hl] at h
      cases h
      exact locationId_fails platform baseUrl r (some key) _ hl
    | ok task =>
      rw [hl] at h
      cases h
      refine .inr ⟨_, rfl, unclassified_brokerError (by decide) (by decide) _ _, ?_⟩
      rintro t ⟨⟩
      exact ⟨rfl, locationId_isTaskId hl⟩
  · split
    · exact failsWith_error (.inr ⟨_, rfl, unaccepted_of_none (unclassified_problemCode r _ _) rfl⟩)
    · rintro raised h
      cases hl : locationId platform baseUrl r (some key) with
      | error x =>
        rw [hl] at h
        cases h
        exact locationId_fails platform baseUrl r (some key) _ hl
      | ok task =>
        have located (f : String → Except Raised AcceptedTask) : Except.ok task >>= f = f task := rfl
        rw [hl, located] at h
        split at h
        · next e he =>
          have fails := failsWith_bind (jsonDict_fails r)
            fun payload => validateTask_fails platform payload task
          have := fails e he
          subst this
          cases h
          refine .inr ⟨_, rfl, unclassified_protocolError.correlate _ _, ?_⟩
          rintro t ⟨⟩
          exact ⟨rfl, locationId_isTaskId hl⟩
        · cases h

theorem readAccepted_ok {platform : Platform} {baseUrl key : String} {r : Response}
    {accepted : AcceptedTask} (h : readAccepted platform baseUrl key r = .ok accepted) :
    isTaskId accepted.taskId = true ∧ accepted.idempotencyKey = key := by
  unfold readAccepted at h
  split at h
  · obtain ⟨_, _, h⟩ := bind_eq_ok.mp h
    cases h
  · split at h
    · cases h
    · obtain ⟨task, hl, h⟩ := bind_eq_ok.mp h
      split at h
      · cases h
      · cases h
        exact ⟨locationId_isTaskId hl, rfl⟩

theorem isTaskId_length {s : String} (h : isTaskId s = true) : s ≠ "" ∧ truncate 128 s = s := by
  unfold isTaskId wordOf at h
  split at h
  · cases h
  · next c cs hs =>
    simp only [Bool.and_eq_true, decide_eq_true_eq] at h
    constructor
    · rintro rfl
      cases hs
    · apply truncate_of_le
      rw [← String.length_toList, hs, List.length_cons]
      omega

/-- A task the answer to a POST names is a task id. -/
theorem createdTask_isTaskId {platform : Platform} {baseUrl key : String} {outcome : HttpOutcome}
    {task : String} (h : createdTask platform baseUrl key outcome = some task) :
    isTaskId task = true := by
  cases outcome with
  | response r =>
    simp only [createdTask] at h
    split at h
    · next accepted ha =>
      cases h
      exact (readAccepted_ok ha).1
    · next e he =>
      rcases readAccepted_fails platform baseUrl key r _ he with hr | ⟨_, hr, hu⟩
      · cases hr
      · cases hr
        exact (hu.named task h).2
    · cases h
  | httpError => cases h
  | valueError => cases h
  | otherError => cases h

section policy

variable {code : String} {attempts maxAttempts : Int} {now : Time} {cls : Option String}

/-- Only a transient class, or an unknown code without a class, is retried. -/
theorem classify_retry
    (h : (classifySummaryFailure .broker code attempts maxAttempts now cls).disposition = .retry) :
    attempts < max 1 maxAttempts ∧
      ((∃ c ∈ safeTerminalClasses, cls = some c ∧
          (classifySummaryFailure .broker code attempts maxAttempts now cls).failureClass = c)
        ∨ cls = none ∧ code ∉ settledCodes) := by
  simp only [classifySummaryFailure, if_true] at h ⊢
  split at h
  · cases h
  next hq =>
  rw [if_neg hq]
  split at h
  · next hs =>
    obtain ⟨c, rfl, hc⟩ := hs
    rw [if_pos ⟨c, rfl, hc⟩]
    have named : orElse (some c) "transient" = c := by
      have : c ≠ "" := by rintro rfl; exact absurd hc (by decide)
      simp [orElse, this]
    split at h
    · cases h
    · next hm =>
      rw [if_neg hm]
      exact ⟨by omega, .inl ⟨c, hc, rfl, named⟩⟩
  · split at h
    · cases h
    · next ht =>
      obtain ⟨_, ht⟩ := not_or.mp ht
      cases cls with
      | some c => cases h
      | none =>
        simp only at h
        split at h
        · cases h
        · refine ⟨by omega, .inr ⟨rfl, fun hm => ?_⟩⟩
          rcases List.mem_append.mp hm with hm | hm
          · exact hq (.inr ⟨rfl, hm⟩)
          · exact ht (.inr hm)

/-- What is quarantined is in no class that may be submitted anew. -/
theorem classify_quarantine
    (h : (classifySummaryFailure .broker code attempts maxAttempts now cls).disposition
      = .quarantine) :
    (classifySummaryFailure .broker code attempts maxAttempts now cls).failureClass
      ∉ safeTerminalClasses := by
  simp only [classifySummaryFailure, if_true] at h ⊢
  split at h
  · next hq =>
    rw [if_pos hq]
    rcases hq with rfl | ⟨rfl, _⟩ <;>
    · change "indeterminate" ∉ safeTerminalClasses
      decide
  next hq =>
  rw [if_neg hq]
  split at h
  · split at h <;> cases h
  · next hs =>
    rw [if_neg hs]
    split at h
    · cases h
    · next ht =>
      rw [if_neg ht]
      cases cls with
      | some c => exact fun hc => hs ⟨c, rfl, hc⟩
      | none =>
        simp only at h
        split at h <;> cases h

theorem classify_indeterminate :
    (classifySummaryFailure .broker code attempts maxAttempts now (some "indeterminate")).disposition
      = .quarantine := by
  simp [classifySummaryFailure]

/-- What the service refuses by itself ends the stage. -/
theorem classify_rejected {c : String} (hc : c ∈ rejectedClasses) :
    (classifySummaryFailure .broker code attempts maxAttempts now (some c)).disposition
      = .terminal := by
  have known : c ≠ "indeterminate" ∧ c ∉ safeTerminalClasses := by
    simp only [rejectedClasses, List.mem_cons, List.not_mem_nil, or_false] at hc
    rcases hc with rfl | rfl | rfl | rfl | rfl <;> decide
  simp [classifySummaryFailure, known.1, known.2, hc]

end policy

end YTPipe.Broker
