import YTPipe.Broker.FailurePolicy
import YTPipe.Stage

/-!
# Incidents of the inference backend

`_finalize_summary_circuit` of `services/polling.py`, which ends a poll and a
reconciliation: the incident of the direct route, the one of the broker's
backend, and the restarts of the inference server they ask for.
-/

namespace YTPipe.Polling

open Broker

/-- A summary stage with its `updated_at`. -/
structure DatedStage where
  stage : PipelineStage
  updatedAt : Time

/-- `LlamaRestartResult`. -/
structure LlamaRestartResult where
  attempted : Bool
  succeeded : Bool
  reason : String

structure LlamaRecoveryService where
  enabled : Bool
  /-- `max(0, cooldown_seconds)`. -/
  cooldownSeconds : Nat

/-- What the circuit takes from the wiring. -/
structure CircuitConfig where
  /-- The route of the pipeline's gateway, where there is a pipeline. -/
  route : Option Route
  llamaRecoveryService : Option LlamaRecoveryService
  brokerBackendErrorThreshold : Int
  brokerBackendErrorWindowSeconds : Int

/-- An incident record in the metadata. -/
structure Incident where
  startedAt : Option Time
  failureCode : Option String
  lastError : Option String
  failureCount : Option Nat
  lastFailureAt : Option Time
  restartAttemptedAt : Option Time
  restartSucceeded : Option Bool
  probeAttemptedAt : Option Time
  probeSucceeded : Option Bool
  alertSent : Bool
  deriving DecidableEq

/-- `{}`. -/
def Incident.blank : Incident := ⟨none, none, none, none, none, none, none, none, none, false⟩

/-- The row of the process "summarization", as far as the circuit goes. -/
structure CircuitState where
  directIncident : Option Incident
  brokerBackendIncident : Option Incident
  lastSuccessAt : Option Time
  lastErrorAt : Option Time
  lastErrorMessage : Option String
  deriving DecidableEq

/-- How the probe after a restart goes. -/
inductive Probe
  /-- The stage's video is gone, or there is no gateway. -/
  | missing
  | ended (status : Status)
  | raised

/-- What a finalization meets. -/
structure CircuitAnswers where
  /-- The user's summary stages. -/
  stages : List DatedStage
  /-- What `restart` gives, should it be called. -/
  restart : LlamaRestartResult
  probe : Probe
  /-- An alert is sent, or there is nobody to send it to. -/
  alertDelivered : Bool
  /-- The run's transaction commits. -/
  commits : Bool

/-- The stage that comes first by `updated_at.desc()`. -/
def latest : List DatedStage → Option DatedStage
  | [] => none
  | s :: rest =>
    match latest rest with
    | none => some s
    | some t => if s.updatedAt < t.updatedAt then some t else some s

def isFailing (s : DatedStage) : Bool := s.stage.status = .pendingRetry || s.stage.status = .failed

/-- `failure_code LIKE 'direct_%'`; the underscore stands for any character. -/
def isDirectCode (code : Option String) : Bool :=
  code.any fun c => "direct".toList.isPrefixOf c.toList && decide (7 ≤ c.length)

def directFailure (stages : List DatedStage) : Option DatedStage :=
  latest (stages.filter fun s => isDirectCode s.stage.failureCode && isFailing s)

/-- `_restart_allowed`. -/
def restartAllowed (service : Option LlamaRecoveryService) (incident : Incident) (now : Time) :
    Bool :=
  match service with
  | none => false
  | some service =>
    if service.enabled = false then false
    else incident.restartAttemptedAt.all fun t => decide (now - t ≥ seconds service.cooldownSeconds)

/-- A finalization's state, and whether it has called `restart` and come to its end. -/
structure Finalized where
  state : CircuitState
  restarted : Bool
  finished : Bool

def notConfigured : String := "Reinicio automático de llama.cpp no configurado."

def awaitsCooldown : String := "El reinicio de llama.cpp espera el cooldown configurado."

/-- `_finalize_direct_incident`. -/
def finalizeDirectIncident (config : CircuitConfig) (state : CircuitState)
    (answers : CircuitAnswers) (now : Time) : Finalized :=
  match directFailure answers.stages with
  | none =>
    ⟨{ state with
      directIncident := none
      lastSuccessAt := some now
      lastErrorAt := none
      lastErrorMessage := none }, false, true⟩
  | some failing =>
    let incident := state.directIncident.getD .blank
    let incident :=
      { incident with
        startedAt := incident.startedAt.or (some now)
        failureCode := failing.stage.failureCode
        lastError := failing.stage.lastError }
    let restarts := restartAllowed config.llamaRecoveryService incident now
    let incident :=
      if restarts then
        let incident :=
          { incident with
            restartAttemptedAt := some now
            restartSucceeded := some answers.restart.succeeded }
        match answers.probe with
        | .ended status =>
          if answers.restart.succeeded then
            { incident with
              probeAttemptedAt := some now
              probeSucceeded := some (status = .completed) }
          else incident
        | _ => incident
      else incident
    let incident :=
      { incident with alertSent := incident.alertSent || answers.alertDelivered }
    let finished := match answers.probe with
      | .raised => !(restarts && answers.restart.succeeded)
      | _ => true
    ⟨{ state with
      directIncident := some incident
      lastErrorAt := some now
      lastErrorMessage := failing.stage.lastError }, restarts, finished⟩

/-- The backend errors in the window that no success follows, newest first by
their count and the newest's time. -/
def recentErrors (config : CircuitConfig) (stages : List DatedStage) (now : Time) :
    List DatedStage :=
  let cutoff := now - seconds (max 60 config.brokerBackendErrorWindowSeconds)
  let successes := stages.filter fun s =>
    s.stage.status = .completed && decide (s.updatedAt ≥ cutoff)
  stages.filter fun s =>
    s.stage.failureCode = some "backend_error" && isFailing s && decide (s.updatedAt ≥ cutoff)
      && (latest successes).all fun success => decide (s.updatedAt > success.updatedAt)

/-- `_finalize_broker_backend_incident`. -/
def finalizeBrokerBackendIncident (config : CircuitConfig) (state : CircuitState)
    (answers : CircuitAnswers) (now : Time) : Finalized :=
  let threshold := max 1 config.brokerBackendErrorThreshold
  let errors := recentErrors config answers.stages now
  match latest errors with
  | none =>
    ⟨{ state with
      brokerBackendIncident := none
      lastSuccessAt := some now
      lastErrorAt := none
      lastErrorMessage := none }, false, true⟩
  | some newest =>
    -- the query is limited to the threshold
    let failureCount := min errors.length threshold.toNat
    let incident := state.brokerBackendIncident.getD .blank
    let incident :=
      { incident with
        startedAt := incident.startedAt.or (some now)
        failureCode := some "backend_error"
        failureCount := some failureCount
        lastFailureAt := some newest.updatedAt }
    if (failureCount : Int) < threshold then
      ⟨{ state with
        brokerBackendIncident := some incident
        lastErrorAt := some now
        lastErrorMessage := some ("El backend de inferencia falló " ++ toString failureCount
          ++ " veces. Se espera el umbral configurado.") }, false, true⟩
    else
      let restarts := restartAllowed config.llamaRecoveryService incident now
      let restartMessage :=
        if restarts then answers.restart.reason
        else if incident.restartAttemptedAt.isSome then awaitsCooldown
        else notConfigured
      let incident :=
        if restarts then
          { incident with
            restartAttemptedAt := some now
            restartSucceeded := some answers.restart.succeeded }
        else incident
      let incident :=
        { incident with alertSent := incident.alertSent || answers.alertDelivered }
      ⟨{ state with
        brokerBackendIncident := some incident
        lastErrorAt := some now
        lastErrorMessage := some ("El backend de inferencia falló " ++ toString failureCount
          ++ " veces. " ++ restartMessage) }, restarts, true⟩

/-- `_finalize_summary_circuit`. -/
def finalizeSummaryCircuit (config : CircuitConfig) (state : CircuitState)
    (answers : CircuitAnswers) (now : Time) : Finalized :=
  match config.route with
  | none => ⟨state, false, true⟩
  | some .direct => finalizeDirectIncident config state answers now
  | some .broker =>
    finalizeBrokerBackendIncident config { state with directIncident := none } answers now

/-- A run of `run_poll` or `reconcile_missing_uploads` that comes to the
finalization, with the time it began. -/
structure CircuitRun where
  config : CircuitConfig
  answers : CircuitAnswers
  now : Time

/-- The durable state and the times of the runs that restarted the server,
newest first. -/
structure Circuit where
  state : CircuitState
  restarts : List Time

namespace Circuit

/-- A run; one that raises or does not commit leaves the state as it was. -/
def step (c : Circuit) (run : CircuitRun) : Circuit :=
  let finalized := finalizeSummaryCircuit run.config c.state run.answers run.now
  { state := if finalized.finished && run.answers.commits then finalized.state else c.state
    restarts := if finalized.restarted then run.now :: c.restarts else c.restarts }

def run (c : Circuit) (runs : List CircuitRun) : Circuit := runs.foldl step c

end Circuit

/-- The last restart an incident remembers. -/
def stamp (incident : Option Incident) : Option Time := incident.bind (·.restartAttemptedAt)

/-- The last restart is over by the cooldown. -/
def Cooled (cooldown : Nat) (incident : Option Incident) (now : Time) : Prop :=
  ∀ t, stamp incident = some t → t + seconds cooldown ≤ now

def Probe.raises : Probe → Bool
  | .raised => true
  | _ => false

/-- A run that forgets no restart before its cooldown is over, and asks for none
while the other route's incident still waits. -/
def CircuitRun.Careful (cooldown : Nat) (state : CircuitState) (run : CircuitRun) : Prop :=
  match run.config.route with
  | none => True
  | some .direct =>
    if (directFailure run.answers.stages).isNone then
      run.answers.commits = true → Cooled cooldown state.directIncident run.now
    else Cooled cooldown state.directIncident run.now →
      Cooled cooldown state.brokerBackendIncident run.now ∧ run.answers.commits = true
        ∧ (run.answers.restart.succeeded && run.answers.probe.raises) = false
  | some .broker =>
    (run.answers.commits = true → Cooled cooldown state.directIncident run.now
      ∧ (recentErrors run.config run.answers.stages run.now = [] →
        Cooled cooldown state.brokerBackendIncident run.now))
    ∧ (max 1 run.config.brokerBackendErrorThreshold
        ≤ (recentErrors run.config run.answers.stages run.now).length →
      Cooled cooldown state.brokerBackendIncident run.now → run.answers.commits = true)

/-- Runs that are careful where they come. -/
def Circuit.Careful (cooldown : Nat) (c : Circuit) : List CircuitRun → Prop
  | [] => True
  | run :: rest => run.Careful cooldown c.state ∧ (c.step run).Careful cooldown rest

section restarts

variable {cooldown : Nat}

theorem cooldown_over (d t now : Int) : now - t ≥ d ↔ t + d ≤ now := by omega

/-- `_restart_allowed`, of a record whose other entries are set. -/
theorem restartAllowed_iff {incident : Option Incident} {updated : Incident} {now : Time}
    (keeps : updated.restartAttemptedAt = (incident.getD .blank).restartAttemptedAt) :
    restartAllowed (some ⟨true, cooldown⟩) updated now = true ↔ Cooled cooldown incident now := by
  have same : updated.restartAttemptedAt = stamp incident := by
    rw [keeps]
    cases incident <;> rfl
  simp only [restartAllowed, Bool.true_eq_false, if_false, same, Option.all_eq_true,
    decide_eq_true_eq, Cooled]
  exact forall₂_congr fun t _ => cooldown_over _ _ _

/-- What a finalization makes of the restarts that the incidents remember. -/
inductive Finalizes (cooldown : Nat) (state : CircuitState) (run : CircuitRun) : Finalized → Prop
  | absent (route : run.config.route = none) : Finalizes cooldown state run ⟨state, false, true⟩
  | directEnded {after : CircuitState} (route : run.config.route = some .direct)
      (calm : (directFailure run.answers.stages).isNone = true)
      (direct : stamp after.directIncident = none)
      (broker : after.brokerBackendIncident = state.brokerBackendIncident) :
      Finalizes cooldown state run ⟨after, false, true⟩
  | directWaits {after : CircuitState} {finished : Bool}
      (route : run.config.route = some .direct)
      (direct : stamp after.directIncident = stamp state.directIncident)
      (broker : after.brokerBackendIncident = state.brokerBackendIncident) :
      Finalizes cooldown state run ⟨after, false, finished⟩
  | directRestarts {after : CircuitState} {finished : Bool}
      (route : run.config.route = some .direct)
      (failing : (directFailure run.answers.stages).isNone = false)
      (cooled : Cooled cooldown state.directIncident run.now)
      (direct : stamp after.directIncident = some run.now)
      (broker : after.brokerBackendIncident = state.brokerBackendIncident)
      (ends : (run.answers.restart.succeeded && run.answers.probe.raises) = false →
        finished = true) :
      Finalizes cooldown state run ⟨after, true, finished⟩
  | brokerEnded {after : CircuitState} (route : run.config.route = some .broker)
      (calm : recentErrors run.config run.answers.stages run.now = [])
      (direct : after.directIncident = none) (broker : stamp after.brokerBackendIncident = none) :
      Finalizes cooldown state run ⟨after, false, true⟩
  | brokerWaits {after : CircuitState} (route : run.config.route = some .broker)
      (direct : after.directIncident = none)
      (broker : stamp after.brokerBackendIncident = stamp state.brokerBackendIncident) :
      Finalizes cooldown state run ⟨after, false, true⟩
  | brokerRestarts {after : CircuitState} (route : run.config.route = some .broker)
      (failing : max 1 run.config.brokerBackendErrorThreshold
        ≤ (recentErrors run.config run.answers.stages run.now).length)
      (cooled : Cooled cooldown state.brokerBackendIncident run.now)
      (direct : after.directIncident = none)
      (broker : stamp after.brokerBackendIncident = some run.now) :
      Finalizes cooldown state run ⟨after, true, true⟩

variable {state : CircuitState} {run : CircuitRun}

theorem latest_eq_none {stages : List DatedStage} : latest stages = none ↔ stages = [] := by
  cases stages with
  | nil => exact iff_of_true rfl rfl
  | cons s rest =>
    constructor
    · intro h
      simp only [latest] at h
      split at h
      · cases h
      · split at h <;> cases h
    · intro h
      cases h

theorem finalizeDirectIncident_finalizes (route : run.config.route = some .direct)
    (service : run.config.llamaRecoveryService = some ⟨true, cooldown⟩) :
    Finalizes cooldown state run
      (finalizeDirectIncident run.config state run.answers run.now) := by
  unfold finalizeDirectIncident
  split
  · next calm => exact .directEnded route (by rw [calm]; rfl) rfl rfl
  · next failing found =>
    rw [service]
    simp only
    generalize hrestarts : restartAllowed _ _ run.now = restarts
    cases restarts with
    | false =>
      simp only [Bool.false_eq_true, if_false, Bool.false_and, Bool.not_false]
      refine .directWaits route ?_ rfl
      cases state.directIncident <;> rfl
    | true =>
      have cooled : Cooled cooldown state.directIncident run.now :=
        (restartAllowed_iff rfl).mp hrestarts
      have failed : (directFailure run.answers.stages).isNone = false := by
        rw [found]
        rfl
      cases hprobe : run.answers.probe with
      | missing => exact .directRestarts route failed cooled rfl rfl fun _ => rfl
      | raised =>
        refine .directRestarts route failed cooled rfl rfl ?_
        intro ends
        rw [hprobe] at ends
        simpa [Probe.raises] using ends
      | ended status =>
        refine .directRestarts route failed cooled ?_ rfl fun _ => rfl
        simp only [if_true]
        split <;> rfl

theorem finalizeBrokerBackendIncident_finalizes (route : run.config.route = some .broker)
    (service : run.config.llamaRecoveryService = some ⟨true, cooldown⟩) :
    Finalizes cooldown state run (finalizeBrokerBackendIncident run.config
      { state with directIncident := none } run.answers run.now) := by
  unfold finalizeBrokerBackendIncident
  simp only
  split
  · next calm => exact .brokerEnded route (latest_eq_none.mp calm) rfl rfl
  · next newest _ =>
    split
    · refine .brokerWaits route rfl ?_
      cases state.brokerBackendIncident <;> rfl
    · next reached =>
      rw [service]
      generalize hrestarts : restartAllowed _ _ run.now = restarts
      cases restarts with
      | false =>
        refine .brokerWaits route rfl ?_
        cases state.brokerBackendIncident <;> rfl
      | true => exact .brokerRestarts route (by omega) ((restartAllowed_iff rfl).mp hrestarts) rfl rfl

theorem finalizeSummaryCircuit_finalizes
    (service : run.config.llamaRecoveryService = some ⟨true, cooldown⟩) :
    Finalizes cooldown state run
      (finalizeSummaryCircuit run.config state run.answers run.now) := by
  unfold finalizeSummaryCircuit
  split
  · next route => exact .absent route
  · next route => exact finalizeDirectIncident_finalizes route service
  · next route => exact finalizeBrokerBackendIncident_finalizes route service

/-- Every restart is over by the cooldown, or an incident remembers one that is
not earlier. -/
structure Remembered (cooldown : Nat) (c : Circuit) (last : Time) : Prop where
  apart : c.restarts.Pairwise fun later earlier => earlier + seconds cooldown ≤ later
  known : ∀ t ∈ c.restarts, t + seconds cooldown ≤ last
    ∨ (∃ u, stamp c.state.directIncident = some u ∧ t ≤ u)
    ∨ ∃ u, stamp c.state.brokerBackendIncident = some u ∧ t ≤ u

/-- A restart that an incident still remembers is over once the incident's is. -/
theorem Remembered.over {c : Circuit} {last now : Time} (h : Remembered cooldown c last)
    (later : last ≤ now) (direct : Cooled cooldown c.state.directIncident now)
    (broker : Cooled cooldown c.state.brokerBackendIncident now) :
    ∀ t ∈ c.restarts, t + seconds cooldown ≤ now := by
  intro t ht
  rcases h.known t ht with done | ⟨u, hu, le⟩ | ⟨u, hu, le⟩
  · exact Int.le_trans done later
  · exact Int.le_trans (Int.add_le_add_right le _) (direct u hu)
  · exact Int.le_trans (Int.add_le_add_right le _) (broker u hu)

/-- Incidents that forget only what is over keep the restarts in mind. -/
theorem Remembered.keeps {c : Circuit} {last now : Time} (h : Remembered cooldown c last)
    (later : last ≤ now) {after : CircuitState}
    (direct : stamp after.directIncident = stamp c.state.directIncident
      ∨ Cooled cooldown c.state.directIncident now)
    (broker : stamp after.brokerBackendIncident = stamp c.state.brokerBackendIncident
      ∨ Cooled cooldown c.state.brokerBackendIncident now) :
    Remembered cooldown ⟨after, c.restarts⟩ now := by
  refine ⟨h.apart, ?_⟩
  intro t ht
  rcases h.known t ht with done | ⟨u, hu, le⟩ | ⟨u, hu, le⟩
  · exact .inl (Int.le_trans done later)
  · rcases direct with same | cooled
    · exact .inr (.inl ⟨u, same.trans hu, le⟩)
    · exact .inl (Int.le_trans (Int.add_le_add_right le _) (cooled u hu))
  · rcases broker with same | cooled
    · exact .inr (.inr ⟨u, same.trans hu, le⟩)
    · exact .inl (Int.le_trans (Int.add_le_add_right le _) (cooled u hu))

/-- A restart once all earlier ones are over. -/
theorem Remembered.restart {c : Circuit} {now : Time} {after : CircuitState}
    (h : c.restarts.Pairwise fun later earlier => earlier + seconds cooldown ≤ later)
    (over_ : ∀ t ∈ c.restarts, t + seconds cooldown ≤ now)
    (kept : stamp after.directIncident = some now ∨ stamp after.brokerBackendIncident = some now) :
    Remembered cooldown ⟨after, now :: c.restarts⟩ now := by
  refine ⟨List.pairwise_cons.mpr ⟨over_, h⟩, ?_⟩
  intro t ht
  rcases List.mem_cons.mp ht with rfl | old
  · exact .inr (kept.imp (fun hu => ⟨t, hu, Int.le_refl _⟩) fun hu => ⟨t, hu, Int.le_refl _⟩)
  · exact .inl (over_ t old)

/-- One careful run. -/
theorem Remembered.step {c : Circuit} {last : Time} (h : Remembered cooldown c last)
    (later : last ≤ run.now) (careful : run.Careful cooldown c.state)
    (service : run.config.llamaRecoveryService = some ⟨true, cooldown⟩) :
    Remembered cooldown (c.step run) run.now := by
  have finalizes : Finalizes cooldown c.state run
      (finalizeSummaryCircuit run.config c.state run.answers run.now) :=
    finalizeSummaryCircuit_finalizes service
  unfold Circuit.step
  generalize finalizeSummaryCircuit run.config c.state run.answers run.now = finalized
    at finalizes ⊢
  have unchanged : Remembered cooldown ⟨c.state, c.restarts⟩ run.now :=
    h.keeps later (.inl rfl) (.inl rfl)
  unfold CircuitRun.Careful at careful
  cases finalizes with
  | absent => simpa using unchanged
  | directEnded route calm direct broker =>
    rw [route] at careful
    simp only [calm, if_true] at careful
    simp only [Bool.true_and, Bool.false_eq_true, if_false]
    split
    · next commits => exact h.keeps later (.inr (careful commits)) (.inl (broker ▸ rfl))
    · exact unchanged
  | directWaits route direct broker =>
    simp only [Bool.false_eq_true, if_false]
    split
    · exact h.keeps later (.inl direct) (.inl (broker ▸ rfl))
    · exact unchanged
  | directRestarts route failing cooled direct broker ends =>
    rw [route] at careful
    simp only [failing, Bool.false_eq_true, if_false] at careful
    obtain ⟨other, commits, whole⟩ := careful cooled
    simp only [ends whole, commits, Bool.and_self, if_true]
    exact .restart h.apart (h.over later cooled other) (.inl direct)
  | brokerEnded route calm direct broker =>
    rw [route] at careful
    simp only [Bool.true_and, Bool.false_eq_true, if_false]
    split
    · next commits =>
      exact h.keeps later (.inr (careful.1 commits).1) (.inr ((careful.1 commits).2 calm))
    · exact unchanged
  | brokerWaits route direct broker =>
    rw [route] at careful
    simp only [Bool.true_and, Bool.false_eq_true, if_false]
    split
    · next commits => exact h.keeps later (.inr (careful.1 commits).1) (.inl broker)
    · exact unchanged
  | brokerRestarts route failing cooled direct broker =>
    rw [route] at careful
    have commits := careful.2 failing cooled
    simp only [commits, Bool.and_self, if_true]
    exact .restart h.apart (h.over later (careful.1 commits).1 cooled) (.inr broker)

/-- Careful runs. -/
theorem Remembered.runs_apart {c : Circuit} {last : Time} (h : Remembered cooldown c last)
    {runs : List CircuitRun}
    (service : ∀ run ∈ runs, run.config.llamaRecoveryService = some ⟨true, cooldown⟩)
    (ordered : (last :: runs.map (·.now)).Pairwise (· ≤ ·)) (careful : c.Careful cooldown runs) :
    (c.run runs).restarts.Pairwise fun later earlier => earlier + seconds cooldown ≤ later := by
  induction runs generalizing c last with
  | nil => exact h.apart
  | cons run rest ih =>
    rw [List.map_cons, List.pairwise_cons] at ordered
    have stepped := h.step (ordered.1 run.now List.mem_cons_self) careful.1
      (service run List.mem_cons_self)
    exact ih stepped (fun r hr => service r (List.mem_cons_of_mem _ hr)) ordered.2 careful.2

/-- Where no run forgets a restart before its cooldown is over, any two restarts
are the cooldown apart. -/
theorem restarts_apart (state : CircuitState) (runs : List CircuitRun)
    (service : ∀ run ∈ runs, run.config.llamaRecoveryService = some ⟨true, cooldown⟩)
    (ordered : (runs.map (·.now)).Pairwise (· ≤ ·))
    (careful : Circuit.Careful cooldown ⟨state, []⟩ runs) :
    (Circuit.run ⟨state, []⟩ runs).restarts.Pairwise
      fun later earlier => earlier + seconds cooldown ≤ later := by
  cases runs with
  | nil => exact List.Pairwise.nil
  | cons run rest =>
    have fresh : Remembered cooldown ⟨state, []⟩ run.now :=
      ⟨List.Pairwise.nil, fun t ht => by cases ht⟩
    refine fresh.runs_apart service ?_ careful
    rw [List.map_cons] at ordered ⊢
    refine List.pairwise_cons.mpr ⟨?_, ordered⟩
    intro now later
    rcases List.mem_cons.mp later with rfl | later
    · exact Int.le_refl _
    · exact (List.pairwise_cons.mp ordered).1 now later

end restarts

section forgotten

/-- A run on the direct route that finds a stage failing, or none. -/
def directRun (failing : Bool) (now : Time) : CircuitRun where
  config := ⟨some .direct, some ⟨true, 300⟩, 2, 10800⟩
  answers :=
    { stages :=
        if failing then
          [⟨{ PipelineStage.new 1 1 1 .summary with
              status := .pendingRetry
              failureCode := some "direct_timeout" }, now⟩]
        else []
      restart := ⟨true, true, "llama-server.service restart requested."⟩
      probe := .ended .pendingRetry
      alertDelivered := true
      commits := true }
  now := now

def noIncident : CircuitState := ⟨none, none, none, none, none⟩

theorem restarts_apart_two :
    (Circuit.run ⟨noIncident, []⟩ [directRun true 0, directRun true (seconds 300)]).restarts.Pairwise
      fun later earlier => earlier + seconds 300 ≤ later := by
  apply restarts_apart
  · intro run hrun
    rcases List.mem_cons.mp hrun with rfl | hrun
    · rfl
    · rw [List.mem_singleton.mp hrun]
      rfl
  · decide
  · refine ⟨?_, ?_, trivial⟩
    · intro _
      refine ⟨?_, rfl, rfl⟩
      intro t ht
      cases ht
    · intro _
      refine ⟨?_, rfl, rfl⟩
      intro t ht
      cases ht

/-- The end of an incident takes the time of its restart along. -/
theorem restart_forgotten :
    ¬ ∀ (state : CircuitState) (runs : List CircuitRun),
      (∀ run ∈ runs, run.config.llamaRecoveryService = some ⟨true, 300⟩) →
      (runs.map (·.now)).Pairwise (· ≤ ·) →
      (Circuit.run ⟨state, []⟩ runs).restarts.Pairwise
        fun later earlier => earlier + seconds 300 ≤ later := by
  intro apart
  have restarts := apart noIncident
    [directRun true 0, directRun false (seconds 60), directRun true (seconds 120)]
  have twice : (Circuit.run ⟨noIncident, []⟩ [directRun true 0, directRun false (seconds 60),
      directRun true (seconds 120)]).restarts = [seconds 120, 0] := by decide +kernel
  rw [twice] at restarts
  have early := restarts (by
    intro run hrun
    simp only [List.mem_cons, List.not_mem_nil, or_false] at hrun
    rcases hrun with rfl | rfl | rfl <;> rfl) (by decide)
  exact absurd early (by decide)

end forgotten

end YTPipe.Polling
