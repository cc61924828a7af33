import YTPipe.Polling.Poll
import YTPipe.SignIn.Accounts
import YTPipe.Telegram.Worker

/-!
# Signing in again

What is kept of it that Google no longer takes the stored credentials, in the row of the
polls that `run_poll`, its route in `api/routes/polling.py` and the Telegram worker write
one after the other; and when the operator is told.
-/

namespace YTPipe.SignIn

/-- `GOOGLE_REAUTH_REQUIRED_DETAILS`. -/
def googleReauthRequiredDetails : List String :=
  ["Stored Google credentials can no longer be refreshed. Manual re-auth is required.",
    "Stored Google credentials are not valid. Manual re-auth is required."]

/-- `_is_google_reauth_required`. -/
def isGoogleReauthRequired : Failure → Bool
  | .http status detail => decide (status = 401 ∧ detail ∈ googleReauthRequiredDetails)
  | _ => false

/-- `GOOGLE_REAUTH_ALERT_INTERVAL`. -/
def googleReauthAlertInterval : Int := seconds 86400

/-- The `state_metadata` of the process "polling". A time that cannot be read is none. -/
structure PollingMetadata where
  lastRun : Option Polling.PollRunSummary
  googleReauthRequired : Bool
  googleReauthLastError : Option String
  googleReauthDetectedAt : Option Time
  googleReauthAlertSentAt : Option Time
  googleReauthAlertError : Option String
  deriving DecidableEq, Repr

structure PollingState where
  metadata : PollingMetadata
  lastSuccessAt : Option Time
  lastErrorAt : Option Time
  lastErrorMessage : Option String
  deriving DecidableEq, Repr

/-- The row when it is created. -/
def PollingState.new : PollingState := ⟨⟨none, false, none, none, none, none⟩, none, none, none⟩

/-- `_should_send_google_reauth_alert`. -/
def shouldSendGoogleReauthAlert (metadata : PollingMetadata) (now : Time) : Bool :=
  metadata.googleReauthAlertSentAt.all fun t => decide (now - t ≥ googleReauthAlertInterval)

/-- What becomes of an alert. -/
inductive AlertOutcome
  | disabled
  | sent
  | raised (text : String)
  deriving DecidableEq, Repr

/-- `_record_google_reauth_failure`. -/
def recordGoogleReauthFailure (detail : String) (now : Time) (outcome : AlertOutcome)
    (state : PollingState) : PollingState :=
  let metadata := { state.metadata with
    googleReauthRequired := true
    googleReauthLastError := some detail
    googleReauthDetectedAt := some now }
  let metadata :=
    if shouldSendGoogleReauthAlert metadata now then
      match outcome with
      | .disabled =>
        { metadata with googleReauthAlertError := some "Telegram notifications are disabled." }
      | .sent =>
        { metadata with
          googleReauthAlertSentAt := some now
          googleReauthAlertError := none }
      | .raised text => { metadata with googleReauthAlertError := some text }
    else metadata
  { state with metadata, lastErrorAt := some now, lastErrorMessage := some detail }

/-- `_record_google_reauth_pause` of the Telegram worker. -/
def recordGoogleReauthPause (error : String) (detectedAt now : Time) (state : PollingState) :
    PollingState :=
  { state with
    metadata := { state.metadata with
      googleReauthRequired := true
      googleReauthLastError := some (Telegram.sanitizeError error)
      googleReauthDetectedAt := some detectedAt }
    lastErrorAt := some now
    lastErrorMessage := some (Telegram.sanitizeError error) }

/-- `_write_polling_state`, which writes the whole document. -/
def writePollingState (summary : Polling.PollRunSummary) (now : Time) (state : PollingState) :
    PollingState :=
  let failed := summary.runOutcome ∈ ["failed", "partial_success"]
  { metadata := { PollingState.new.metadata with lastRun := some summary }
    lastSuccessAt :=
      if summary.runOutcome ∈ ["success", "partial_success"] then some now else state.lastSuccessAt
    lastErrorAt := if failed then some now else none
    lastErrorMessage :=
      if failed then
        if summary.channelsFailed ≠ 0 then
          some (toString summary.channelsFailed ++ " channel(s) failed during polling run.")
        else some "Polling run completed with a non-success outcome."
      else none }

/-- `record_polling_error`. -/
def recordPollingError (message : String) (now : Time) (state : PollingState) : PollingState :=
  { state with lastErrorAt := some now, lastErrorMessage := some message }

/-- What is done about the row, under the execution lock. -/
inductive Occurrence
  /-- A poll comes to its end, or finds the quota used up, and commits. -/
  | finished (summary : Polling.PollRunSummary) (now : Time)
  /-- A poll raises and is rolled back; what the route writes then may be lost. -/
  | raised (failure : Failure) (text : String) (now : Time) (outcome : AlertOutcome)
    (commits : Bool)
  /-- A Telegram command finds that Google must be asked again. -/
  | paused (error : String) (detectedAt now : Time) (commits : Bool)
  deriving DecidableEq, Repr

/-- The exception handlers of the route `run_poll`. -/
def handleRaised (failure : Failure) (text : String) (now : Time) (outcome : AlertOutcome)
    (state : PollingState) : PollingState :=
  match failure with
  | .http _ detail =>
    if isGoogleReauthRequired failure then recordGoogleReauthFailure detail now outcome state
    else state
  | _ => recordPollingError text now state

def PollingState.step (state : PollingState) : Occurrence → PollingState
  | .finished summary now => writePollingState summary now state
  | .raised failure text now outcome commits =>
    if commits then handleRaised failure text now outcome state else state
  | .paused error detectedAt now commits =>
    if commits then recordGoogleReauthPause error detectedAt now state else state

def PollingState.after (past : List Occurrence) : PollingState := past.foldl step new

/-- The message that an occurrence hands to Telegram, where it is not disabled. -/
def PollingState.alerts (state : PollingState) : Occurrence → Option (Time × AlertOutcome)
  | .raised failure _ now outcome _ =>
    if isGoogleReauthRequired failure && shouldSendGoogleReauthAlert state.metadata now then
      some (now, outcome)
    else none
  | _ => none

/-! What a poll raises. -/

/-- Whatever is answered, by whomever. -/
def anyAnswer : Prog.Law Command Answer Unit where
  answer _ _ s := some s
  inv _ := True
  rely _ _ := True

/-- An answer 401 is one that counts as a refusal. -/
def Names {α : Type} (p : Attempt α) : Prop :=
  p.run.Keeps anyAnswer (fun result _ => ∀ status detail, result = .error (.http status detail) →
    isGoogleReauthRequired (.http status detail) = true) ()

section names

variable {α β : Type}

theorem names_pure (a : α) : Names (pure a) := fun _ _ other => (by cases other)

theorem names_throw {failure : Failure} (named : ∀ status detail, failure = .http status detail →
    isGoogleReauthRequired (.http status detail) = true) : Names (throw failure : Attempt α) := by
  rintro status detail ⟨⟩
  exact named status detail rfl

theorem names_bind {p : Attempt β} {f : β → Attempt α} (first : Names p) (rest : ∀ b, Names (f b)) :
    Names (p >>= f) := by
  unfold Names
  rw [ExceptT.run_bind]
  apply Prog.keeps_bind
  refine Prog.keeps_mono (fun result _ kept => ?_) first
  cases result with
  | ok b => exact rest b
  | error failure =>
    rintro status detail ⟨⟩
    exact kept status detail rfl

theorem keeps_any (p : Program α) : p.Keeps anyAnswer (fun _ _ => True) () := by
  induction p with
  | done a => trivial
  | call c next ih => exact fun _ _ _ r _ _ => ⟨trivial, ih r⟩

theorem names_lift (p : Program α) : Names (ExceptT.lift p) := by
  apply Prog.keeps_bind
  exact Prog.keeps_mono (fun a _ _ status detail other => (by cases other)) (keeps_any p)

theorem names_statement (p : Program (Except String α)) : Names (statement p) := by
  apply Prog.keeps_bind
  refine Prog.keeps_mono (fun result _ _ => ?_) (keeps_any p)
  cases result with
  | ok a => exact fun _ _ other => (by cases other)
  | error text => exact fun _ _ other => (by cases other)

theorem names_refreshExpired (account : OauthAccount) (credentials : Credentials) :
    Names (refreshExpired account credentials) := by
  apply names_bind (names_lift _)
  intro expired
  split
  · apply names_bind (names_lift _)
    intro answer
    cases answer with
    | error failure =>
      cases failure with
      | refreshError =>
        apply names_throw
        rintro status detail ⟨⟩
        decide
      | other text => exact names_throw fun _ _ other => (by cases other)
    | ok renewed =>
      refine names_bind ?_ fun _ => names_pure renewed
      unfold flush
      dsimp only
      split
      · exact names_pure ()
      · exact names_statement _
  · exact names_pure credentials

/-- Whatever Google and the database answer, a refusal of the stored credentials is one
that the route of the polls knows. -/
theorem names_ensureValidCredentials (settings : Settings) (account : OauthAccount) :
    Names (ensureValidCredentials settings account) := by
  refine names_bind ?_ fun _ => names_bind (names_refreshExpired account _) fun credentials =>
    names_bind (names_lift _) fun expired => ?_
  · unfold ensureGoogleOauthIsConfigured
    split
    · exact names_throw fun _ _ other => (by cases other)
    split
    · exact names_throw fun _ _ other => (by cases other)
    · exact names_pure ()
  · split
    · apply names_throw
      rintro status detail ⟨⟩
      decide
    · exact names_pure credentials

end names

/-! What the row remembers. -/

def Occurrence.isFinished : Occurrence → Bool
  | .finished _ _ => true
  | _ => false

def Occurrence.commits : Occurrence → Bool
  | .finished _ _ => true
  | .raised _ _ _ _ commits => commits
  | .paused _ _ _ commits => commits

/-- Something has happened, and no poll has come to its end since. -/
def Since (happened : PollingState → Occurrence → Prop) (past : List Occurrence) : Prop :=
  ∃ earlier o later, past = earlier ++ o :: later ∧ happened (.after earlier) o
    ∧ ∀ p ∈ later, p.isFinished = false

/-- It was recorded that the operator must sign in again. -/
def Refused (_ : PollingState) (o : Occurrence) : Prop :=
  o.commits = true ∧ match o with
    | .raised failure _ _ _ _ => isGoogleReauthRequired failure = true
    | .paused .. => True
    | .finished .. => False

/-- The operator was told, and it was recorded. -/
def Told (t : Time) (state : PollingState) (o : Occurrence) : Prop :=
  o.commits = true ∧ state.alerts o = some (t, .sent)

theorem after_concat (past : List Occurrence) (o : Occurrence) :
    PollingState.after (past ++ [o]) = (PollingState.after past).step o := by
  unfold PollingState.after
  rw [List.foldl_append]
  rfl

section since

variable {happened : PollingState → Occurrence → Prop}

theorem not_since_nil : ¬ Since happened [] := by
  rintro ⟨earlier, o, later, split, -⟩
  cases earlier <;> cases split

theorem since_concat (past : List Occurrence) (o : Occurrence) : Since happened (past ++ [o])
    ↔ happened (.after past) o ∨ o.isFinished = false ∧ Since happened past := by
  constructor
  · rintro ⟨earlier, p, later, split, there, calm⟩
    cases later using List.reverseRecOn with
    | nil =>
      obtain ⟨rfl, last⟩ := List.append_inj' split rfl
      cases last
      exact .inl there
    | append_singleton later q =>
      have split : past ++ [o] = (earlier ++ p :: later) ++ [q] := by
        rw [split, List.append_assoc, List.cons_append]
      obtain ⟨rfl, last⟩ := List.append_inj' split rfl
      cases last
      exact .inr ⟨calm o (List.mem_append_right _ (List.mem_singleton.mpr rfl)),
        earlier, p, later, rfl, there, fun r mem => calm r (List.mem_append_left _ mem)⟩
  · rintro (there | ⟨open_, earlier, p, later, rfl, there, calm⟩)
    · exact ⟨past, o, [], rfl, there, fun p mem => absurd mem List.not_mem_nil⟩
    · refine ⟨earlier, p, later ++ [o], by rw [List.append_assoc, List.cons_append], there, ?_⟩
      intro r mem
      rcases List.mem_append.mp mem with early | last
      · exact calm r early
      · rw [List.mem_singleton.mp last]
        exact open_

end since

section steps

variable {state : PollingState} {o : Occurrence} {t : Time}

/-- When the operator was last told, as far as the row knows. -/
def PollingState.sentAt (state : PollingState) : Option Time := state.metadata.googleReauthAlertSentAt

theorem shouldSend_iff {now : Time} : shouldSendGoogleReauthAlert state.metadata now = true
    ↔ ∀ t, state.sentAt = some t → t + googleReauthAlertInterval ≤ now := by
  unfold shouldSendGoogleReauthAlert PollingState.sentAt
  rw [Option.all_eq_true]
  have elapsed (d t now : Int) : now - t ≥ d ↔ t + d ≤ now := by omega
  refine forall₂_congr fun t _ => ?_
  rw [decide_eq_true_eq]
  exact elapsed _ _ _

theorem alerts_eq_some {outcome : AlertOutcome} (alerts : state.alerts o = some (t, outcome)) :
    ∃ failure text commits, o = .raised failure text t outcome commits
      ∧ isGoogleReauthRequired failure = true
      ∧ ∀ last, state.sentAt = some last → last + googleReauthAlertInterval ≤ t := by
  unfold PollingState.alerts at alerts
  split at alerts
  · next failure text now outcome' commits =>
    split at alerts
    · next due =>
      cases alerts
      rw [Bool.and_eq_true] at due
      exact ⟨failure, text, commits, rfl, due.1, shouldSend_iff.mp due.2⟩
    · cases alerts
  · cases alerts

theorem sentAt_finished (finished : o.isFinished = true) : (state.step o).sentAt = none := by
  cases o with
  | finished => rfl
  | raised => cases finished
  | paused => cases finished

theorem sentAt_record (detail : String) (now : Time) (outcome : AlertOutcome) :
    (recordGoogleReauthFailure detail now outcome state).sentAt
      = if shouldSendGoogleReauthAlert state.metadata now = true ∧ outcome = .sent then some now
        else state.sentAt := by
  have same : shouldSendGoogleReauthAlert { state.metadata with
      googleReauthRequired := true
      googleReauthLastError := some detail
      googleReauthDetectedAt := some now } now = shouldSendGoogleReauthAlert state.metadata now := rfl
  unfold recordGoogleReauthFailure PollingState.sentAt
  simp only [same]
  cases due : shouldSendGoogleReauthAlert state.metadata now with
  | false => simp
  | true => cases outcome <;> simp

theorem sentAt_raised (failure : Failure) (text : String) (now : Time) (outcome : AlertOutcome) :
    (handleRaised failure text now outcome state).sentAt
      = if state.alerts (.raised failure text now outcome true) = some (now, .sent) then some now
        else state.sentAt := by
  have alerts : state.alerts (.raised failure text now outcome true) = some (now, .sent)
      ↔ isGoogleReauthRequired failure = true
        ∧ shouldSendGoogleReauthAlert state.metadata now = true ∧ outcome = .sent := by
    simp [PollingState.alerts, and_assoc]
  cases failure with
  | http status detail =>
    simp only [handleRaised]
    split
    · next required =>
      rw [sentAt_record]
      refine if_congr ?_ rfl rfl
      rw [alerts]
      exact (and_iff_right required).symm
    · next other =>
      rw [if_neg fun told => other (alerts.mp told).1]
  | _ => exact (if_neg fun told => absurd (alerts.mp told).1 Bool.false_ne_true).symm

theorem sentAt_step (open_ : o.isFinished = false) : (state.step o).sentAt = state.sentAt
    ∨ ∃ now, Told now state o ∧ (state.step o).sentAt = some now := by
  cases o with
  | finished => cases open_
  | paused error detectedAt now commits => cases commits <;> exact .inl rfl
  | raised failure text now outcome commits =>
    cases commits with
    | false => exact .inl rfl
    | true =>
      have kept : (handleRaised failure text now outcome state).sentAt = _ :=
        sentAt_raised failure text now outcome
      split at kept
      · next told => exact .inr ⟨now, ⟨rfl, told⟩, kept⟩
      · exact .inl kept

theorem Told.sentAt (told : Told t state o) : (state.step o).sentAt = some t := by
  obtain ⟨commits, alerts⟩ := told
  obtain ⟨failure, text, committed, rfl, -, -⟩ := alerts_eq_some alerts
  obtain rfl : committed = true := commits
  exact (sentAt_raised failure text t .sent).trans (if_pos alerts)

theorem Told.later (told : Told t state o) {last : Time} (before : state.sentAt = some last) :
    last + googleReauthAlertInterval ≤ t := by
  obtain ⟨_, _, _, -, -, apart⟩ := alerts_eq_some told.2
  exact apart last before

theorem required_step : (state.step o).metadata.googleReauthRequired = true
    ↔ Refused state o ∨ o.isFinished = false ∧ state.metadata.googleReauthRequired = true := by
  cases o with
  | finished summary now =>
    simp [PollingState.step, writePollingState, PollingState.new, Refused, Occurrence.isFinished]
  | paused error detectedAt now commits =>
    cases commits <;> simp [PollingState.step, recordGoogleReauthPause, Refused, Occurrence.commits,
      Occurrence.isFinished]
  | raised failure text now outcome commits =>
    cases commits with
    | false => simp [PollingState.step, Refused, Occurrence.commits, Occurrence.isFinished]
    | true =>
      cases failure with
      | http status detail =>
        by_cases required : isGoogleReauthRequired (.http status detail) = true
        · have set : (recordGoogleReauthFailure detail now outcome state).metadata.googleReauthRequired
              = true := by
            unfold recordGoogleReauthFailure
            dsimp only
            split
            · cases outcome <;> rfl
            · rfl
          simp [PollingState.step, handleRaised, required, set, Refused, Occurrence.commits]
        · simp [PollingState.step, handleRaised, required, Refused, Occurrence.commits,
            Occurrence.isFinished]
      | _ =>
        simp [PollingState.step, handleRaised, recordPollingError, isGoogleReauthRequired, Refused,
          Occurrence.commits, Occurrence.isFinished]

end steps

/-! Runs. -/

/-- The time the row has is that of an alert. -/
theorem told_of_sentAt {past : List Occurrence} {t : Time}
    (sent : (PollingState.after past).sentAt = some t) : Since (Told t) past := by
  induction past using List.reverseRecOn with
  | nil => cases sent
  | append_singleton past o ih =>
    rw [after_concat] at sent
    rw [since_concat]
    cases finished : o.isFinished with
    | true =>
      rw [sentAt_finished finished] at sent
      cases sent
    | false =>
      rcases sentAt_step finished with same | ⟨now, told, written⟩
      · exact .inr ⟨rfl, ih (same ▸ sent)⟩
      · rw [written] at sent
        cases sent
        exact .inl told

/-- An alert that no poll has made obsolete is remembered, or a later one is. -/
theorem sentAt_of_told {past : List Occurrence} {t : Time} (since : Since (Told t) past) :
    ∃ last, (PollingState.after past).sentAt = some last ∧ t ≤ last := by
  induction past using List.reverseRecOn with
  | nil => exact absurd since not_since_nil
  | append_singleton past o ih =>
    rw [after_concat]
    rcases (since_concat past o).mp since with told | ⟨unfinished, since⟩
    · exact ⟨t, told.sentAt, Int.le_refl t⟩
    · obtain ⟨last, before, order⟩ := ih since
      rcases sentAt_step unfinished with same | ⟨now, told, written⟩
      · exact ⟨last, same.trans before, order⟩
      · have interval : (0 : Int) ≤ googleReauthAlertInterval := by decide
        have later := Int.le_trans (Int.le_add_of_nonneg_right interval) (told.later before)
        exact ⟨now, written, Int.le_trans order later⟩

/-- A refusal of the stored credentials is one that the route of the polls knows; the row
says that the operator must sign in again just when that was recorded after the last poll
that came to its end; and a poll that Google refuses turns to Telegram just when no alert
was sent and recorded in the last 24 hours since such a poll. -/
theorem reauth_on_record (past : List Occurrence) :
    (∀ settings account, Names (ensureValidCredentials settings account))
      ∧ ((PollingState.after past).metadata.googleReauthRequired = true ↔ Since Refused past)
      ∧ ∀ failure text now outcome commits,
        (PollingState.after past).alerts (.raised failure text now outcome commits)
            = some (now, outcome)
          ↔ isGoogleReauthRequired failure = true
            ∧ ∀ t, Since (Told t) past → t + googleReauthAlertInterval ≤ now := by
  refine ⟨names_ensureValidCredentials, ?_, ?_⟩
  · induction past using List.reverseRecOn with
    | nil => exact iff_of_false Bool.false_ne_true not_since_nil
    | append_singleton past o ih =>
      rw [after_concat, since_concat, required_step, ih]
  · intro failure text now outcome commits
    constructor
    · intro alerts
      obtain ⟨_, _, _, same, required, apart⟩ := alerts_eq_some alerts
      cases same
      refine ⟨required, fun t since => ?_⟩
      obtain ⟨last, sent, order⟩ := sentAt_of_told since
      exact Int.le_trans (Int.add_le_add_right order _) (apart last sent)
    · rintro ⟨required, apart⟩
      have due : shouldSendGoogleReauthAlert (PollingState.after past).metadata now = true :=
        shouldSend_iff.mpr fun t sent => apart t (told_of_sentAt sent)
      simp only [PollingState.alerts, required, due, Bool.and_self, if_true]

end YTPipe.SignIn
