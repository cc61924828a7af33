import YTPipe.Polling.Reconciliation

/-!
# Quota alerts

`_check_and_send_quota_alert` of `services/polling.py` and the `state_metadata`
the alerts already sent are kept in. The list of them belongs to the document
that was loaded and grows in place.
-/

namespace YTPipe.Polling

/-- `quota_alerts_sent`. -/
structure QuotaAlerts where
  day : Int
  thresholds : List Nat
  deriving DecidableEq, Repr

/-- The `state_metadata` of the quota process. -/
structure QuotaDocument extends QuotaMetadata where
  dailyQuotaBudget : Int
  lastRunEstimatedUnits : Int
  safetyStopActive : Bool
  safetyStopEnabled : Bool
  /-- `none` where it is missing or no object. -/
  quotaAlertsSent : Option QuotaAlerts
  deriving DecidableEq, Repr

/-- The column of one user's row; a new row has no document. -/
abbrev QuotaColumn := Option QuotaDocument

def quotaColumn : Column QuotaColumn QuotaColumn where
  get := id
  set d _ := d
  get_set _ _ := rfl
  set_get _ := rfl
  set_set _ _ _ := rfl

def quotaAlertThresholds : List Nat := [50, 75, 90]

/-- A unit of quota: of a lookup, or of a page of a reconciliation, which looks
at the budget again. -/
inductive Spent
  | lookup
  | page
  deriving DecidableEq, Repr

/-- One run, with what its surroundings do. -/
structure QuotaRun where
  /-- `run_poll`, else `reconcile_missing_uploads`. -/
  polls : Bool
  now : Time
  /-- The clock of the alert check. -/
  checkedAt : Time
  spent : List Spent
  /-- Whether other work of the run commits the session before the check. -/
  commits : Bool
  /-- Whether Telegram takes the message about a threshold. -/
  delivers : Nat → Bool

section

variable (config : PollConfig) (enabled : Bool) (percent : Int → Int → Int)

def Spent.count : QuotaContext → Spent → QuotaContext
  | q, lookup => countUnit q
  | q, page => spendUnit config q

/-- The context a run starts with. -/
def openingContext (column : QuotaColumn) (now : Time) : QuotaContext :=
  buildQuotaContext config ((column.map (·.toQuotaMetadata)).getD ⟨none, 0, none⟩) now

/-- The alerts of the context, and whether they are the loaded document's own. -/
def openingAlerts (column : QuotaColumn) (now : Time) : QuotaAlerts × Bool :=
  match column with
  | some ⟨metadata, _, _, _, _, some alerts⟩ =>
    if metadata.usageDay = some (utcDay now) then (alerts, true) else (⟨utcDay now, []⟩, false)
  | _ => (⟨utcDay now, []⟩, false)

/-- `_write_quota_state`. -/
def quotaDocument (q : QuotaContext) (alerts : QuotaAlerts) : QuotaDocument where
  usageDay := some q.usageDay
  estimatedUnitsUsedToday := q.estimatedUnitsUsedToday
  safetyStopTriggeredAt := q.safetyStopTriggeredAt
  dailyQuotaBudget := q.dailyQuotaBudget
  lastRunEstimatedUnits := q.lastRunEstimatedUnits
  safetyStopActive := q.safetyStopActive
  safetyStopEnabled := q.safetyStopEnabled
  quotaAlertsSent := some alerts

/-- The messages of a check: the threshold of each and whether it went out.
`percent` is `int((used_today / daily_budget) * 100)`. -/
def tryThreshold (usagePercent : Int) (delivers : Nat → Bool)
    (state : List Nat × List (Nat × Bool)) (threshold : Nat) : List Nat × List (Nat × Bool) :=
  let (thresholds, tries) := state
  if usagePercent ≥ threshold ∧ threshold ∉ thresholds then
    if delivers threshold then (thresholds ++ [threshold], tries ++ [(threshold, true)])
    else (thresholds, tries ++ [(threshold, false)])
  else (thresholds, tries)

/-- The alerts a check adds to: those of its day, or none. -/
def alertsOf (day : Int) (alerts : QuotaAlerts × Bool) : QuotaAlerts × Bool :=
  if alerts.1.day ≠ day then (⟨day, []⟩, false) else alerts

def checkAndSendQuotaAlert (q : QuotaContext) (alerts : QuotaAlerts × Bool) (run : QuotaRun) :
    (QuotaAlerts × Bool) × List (Nat × Bool) :=
  if q.dailyQuotaBudget ≤ 0 then (alerts, [])
  else if ¬ enabled then (alerts, [])
  else
    let usagePercent := percent q.estimatedUnitsUsedToday q.dailyQuotaBudget
    let opened := alertsOf (utcDay run.checkedAt) alerts
    let sending := quotaAlertThresholds.foldl (tryThreshold usagePercent run.delivers)
      (opened.1.thresholds, [])
    (({ opened.1 with thresholds := sending.1 }, opened.2), sending.2)

/-- The context when the channels are done with. -/
def spentContext (column : QuotaColumn) (run : QuotaRun) : QuotaContext :=
  run.spent.foldl (Spent.count config) (openingContext config column run.now)

/-- Whether a run is a poll that the safety stop ends at once. -/
def blockedPoll (column : QuotaColumn) (run : QuotaRun) : Bool :=
  run.polls && (openingContext config column run.now).quotaBlocked

/-- A committed run: what its row holds then, and the messages it tried to send. -/
def quotaRun (column : QuotaColumn) (run : QuotaRun) : QuotaColumn × List (Nat × Bool) :=
  let i := Instance.load quotaColumn column
  let object := i.loaded
  let alerts := openingAlerts column run.now
  if blockedPoll config column run then
    let written := quotaDocument (openingContext config column run.now) alerts.1
    (((i.assign quotaColumn (some written)).commit quotaColumn .changed).durable, [])
  else
    let q := spentContext config column run
    let i := if run.commits then i.commit quotaColumn .changed else i
    let checked := checkAndSendQuotaAlert enabled percent q alerts run
    let sent := checked.1.1
    -- what was appended stands in the loaded document, if that is still the row's
    let grown := column.map fun d => { d with quotaAlertsSent := some sent }
    let i := if checked.1.2 ∧ i.loaded = object then i.assignMutated quotaColumn object grown else i
    (((i.assign quotaColumn (some (quotaDocument q sent))).commit quotaColumn .changed).durable,
      checked.2)

/-- The row after some runs, and the thresholds they alerted. -/
def quotaRuns (column : QuotaColumn) : List QuotaRun → QuotaColumn × List Nat
  | [] => (column, [])
  | run :: runs =>
    let (column, tries) := quotaRun config enabled percent column run
    let (last, alerted) := quotaRuns column runs
    (last, (tries.filter (·.2)).map (·.1) ++ alerted)

/-! When a run loses what it sent. -/

/-- A threshold is reached with these units used. -/
def Reached (used : Int) (threshold : Nat) : Prop :=
  0 < max 0 config.dailyQuotaBudget ∧
    percent used (max 0 config.dailyQuotaBudget) ≥ threshold

/-- The thresholds a row has for a day. -/
def sentOn (day : Int) : QuotaColumn → List Nat
  | some ⟨metadata, _, _, _, _, some alerts⟩ =>
    if metadata.usageDay = some day ∧ alerts.day = day then alerts.thresholds else []
  | _ => []

def usedIn (column : QuotaColumn) : Int := (column.map (·.estimatedUnitsUsedToday)).getD 0

/-- A run that writes the document it loaded, but for a threshold it alerts:
it spends nothing, like the run before it, and nothing else commits. -/
def Overlooked (column : QuotaColumn) (run : QuotaRun) : Prop :=
  blockedPoll config column run = false ∧ run.commits = false ∧
  ∃ document alerts, column = some document ∧ document.quotaAlertsSent = some alerts ∧
    alerts.day = utcDay run.checkedAt ∧
    quotaDocument (spentContext config column run) alerts = document ∧
    ∃ t ∈ quotaAlertThresholds, Reached config percent document.estimatedUnitsUsedToday t ∧
      t ∉ alerts.thresholds ∧ run.delivers t = true

/-- A poll the safety stop ends before it looks at a threshold that is reached. -/
def Missed (day : Int) (column : QuotaColumn) (run : QuotaRun) : Prop :=
  blockedPoll config column run = true ∧
  ∃ t ∈ quotaAlertThresholds,
    Reached config percent (openingContext config column run.now).estimatedUnitsUsedToday t ∧
      t ∉ sentOn day column

end

/-- The thresholds of the messages that went out. -/
def delivered (tries : List (Nat × Bool)) : List Nat := (tries.filter (·.2)).map (·.1)

theorem mem_delivered {tries : List (Nat × Bool)} {t : Nat} :
    t ∈ delivered tries ↔ (t, true) ∈ tries := by
  simp [delivered]

/-! The check. -/

section

variable {config : PollConfig} {enabled : Bool} {percent : Int → Int → Int} {day : Int}

def QuotaAlerts.on (day : Int) (alerts : QuotaAlerts) : List Nat :=
  if alerts.day = day then alerts.thresholds else []

/-- What a check does to the thresholds sent before it. -/
structure Checked (reached : Nat → Prop) (delivers : Nat → Bool) (among before after : List Nat)
    (tries : List (Nat × Bool)) : Prop where
  sent : after = before ++ delivered tries
  once : (delivered tries).Nodup
  due : ∀ t ∈ delivered tries, t ∈ among ∧ reached t ∧ t ∉ before ∧ delivers t = true
  all : (∀ try_ ∈ tries, try_.2 = true) → ∀ t ∈ among, reached t → t ∈ after

section

variable {reached : Nat → Prop} {delivers : Nat → Bool} {rest before after : List Nat}
  {tries : List (Nat × Bool)} {t : Nat}

/-- What was seen to hold of the rest of the thresholds holds of one more among them. -/
theorem Checked.due_cons (checked : Checked reached delivers rest before after tries) :
    ∀ u ∈ delivered tries, u ∈ t :: rest ∧ reached u ∧ u ∉ before ∧ delivers u = true := by
  intro u mem
  obtain ⟨among, due⟩ := checked.due u mem
  exact ⟨List.mem_cons_of_mem _ among, due⟩

theorem Checked.cons_sent (checked : Checked reached delivers rest (before ++ [t]) after tries)
    (due : reached t) (new : t ∉ before) (out : delivers t = true) :
    Checked reached delivers (t :: rest) before after ((t, true) :: tries) where
  sent := by
    rw [checked.sent, List.append_assoc]
    rfl
  once := by
    refine List.nodup_cons.mpr ⟨fun again => ?_, checked.once⟩
    exact (checked.due t again).2.2.1 (List.mem_append_right _ List.mem_cons_self)
  due := by
    intro u mem
    rcases List.mem_cons.mp mem with rfl | later
    · exact ⟨List.mem_cons_self, due, new, out⟩
    · obtain ⟨among, reached, new, out⟩ := checked.due_cons u later
      exact ⟨among, reached, fun old => new (List.mem_append_left _ old), out⟩
  all := by
    intro went u mem reached
    rcases List.mem_cons.mp mem with rfl | later
    · rw [checked.sent]
      simp
    · exact checked.all (fun try_ h => went try_ (List.mem_cons_of_mem _ h)) u later reached

theorem Checked.cons_failed (checked : Checked reached delivers rest before after tries) :
    Checked reached delivers (t :: rest) before after ((t, false) :: tries) where
  sent := checked.sent
  once := checked.once
  due := checked.due_cons
  all went := absurd (went (t, false) List.mem_cons_self) Bool.false_ne_true

theorem Checked.cons_skipped (checked : Checked reached delivers rest before after tries)
    (old : reached t → t ∈ before) : Checked reached delivers (t :: rest) before after tries where
  sent := checked.sent
  once := checked.once
  due := checked.due_cons
  all := by
    intro went u mem reached
    rcases List.mem_cons.mp mem with rfl | later
    · rw [checked.sent]
      exact List.mem_append_left _ (old reached)
    · exact checked.all went u later reached

end

theorem checked_foldl (usagePercent : Int) (delivers : Nat → Bool) (among before : List Nat)
    (earlier : List (Nat × Bool)) :
    ∃ after tries, among.foldl (tryThreshold usagePercent delivers) (before, earlier)
        = (after, earlier ++ tries) ∧
      Checked (fun t => usagePercent ≥ t) delivers among before after tries := by
  induction among generalizing before earlier with
  | nil =>
    exact ⟨before, [], by simp, ⟨by simp [delivered], by simp [delivered], by simp [delivered],
      fun _ t mem => nomatch mem⟩⟩
  | cons t rest ih =>
    rw [List.foldl_cons]
    by_cases due : usagePercent ≥ t ∧ t ∉ before
    · cases out : delivers t with
      | true =>
        obtain ⟨after, tries, run, checked⟩ := ih (before ++ [t]) (earlier ++ [(t, true)])
        refine ⟨after, (t, true) :: tries, ?_, checked.cons_sent due.1 due.2 out⟩
        rw [tryThreshold, if_pos due, if_pos out, run, List.append_assoc]
        rfl
      | false =>
        obtain ⟨after, tries, run, checked⟩ := ih before (earlier ++ [(t, false)])
        refine ⟨after, (t, false) :: tries, ?_, checked.cons_failed⟩
        rw [tryThreshold, if_pos due, if_neg (by simp [out]), run, List.append_assoc]
        rfl
    · obtain ⟨after, tries, run, checked⟩ := ih before earlier
      refine ⟨after, tries, ?_, checked.cons_skipped fun reached => ?_⟩
      · rw [tryThreshold, if_neg due, run]
      · exact Classical.byContradiction fun new => due ⟨reached, new⟩

theorem checked_none {reached : Nat → Prop} (delivers : Nat → Bool) (among before : List Nat)
    (never : ∀ t, ¬ reached t) : Checked reached delivers among before before [] where
  sent := (List.append_nil before).symm
  once := List.nodup_nil
  due _ mem := nomatch mem
  all _ t _ reached := absurd reached (never t)

theorem alertsOf_day (alerts : QuotaAlerts × Bool) : (alertsOf day alerts).1.day = day := by
  unfold alertsOf
  split
  · rfl
  · next same => exact Decidable.not_not.mp same

theorem alertsOf_thresholds (alerts : QuotaAlerts × Bool) :
    (alertsOf day alerts).1.thresholds = alerts.1.on day := by
  unfold alertsOf QuotaAlerts.on
  by_cases same : alerts.1.day = day
  · rw [if_neg (fun other => other same), if_pos same]
  · rw [if_pos same, if_neg same]

theorem check_eq {q : QuotaContext} (percent : Int → Int → Int) (alerts : QuotaAlerts × Bool)
    {run : QuotaRun}
    (today : utcDay run.checkedAt = day) (budget : ¬ q.dailyQuotaBudget ≤ 0)
    (on : enabled = true) :
    ∃ thresholds tries, checkAndSendQuotaAlert enabled percent q alerts run
        = (({ (alertsOf day alerts).1 with thresholds := thresholds }, (alertsOf day alerts).2),
            tries) ∧
      Checked (fun t => percent q.estimatedUnitsUsedToday q.dailyQuotaBudget ≥ t) run.delivers
        quotaAlertThresholds (alerts.1.on day) thresholds tries := by
  obtain ⟨thresholds, tries, folded, checked⟩ := checked_foldl
    (percent q.estimatedUnitsUsedToday q.dailyQuotaBudget) run.delivers quotaAlertThresholds
    (alerts.1.on day) []
  refine ⟨thresholds, tries, ?_, checked⟩
  unfold checkAndSendQuotaAlert
  rw [if_neg budget, if_neg (not_not_intro on), today]
  simp only [alertsOf_thresholds, folded, List.nil_append]

/-- A check of the day keeps what was sent on it, and adds what it sends. -/
theorem check_checked {q : QuotaContext} {alerts : QuotaAlerts × Bool} {run : QuotaRun}
    (budget : q.dailyQuotaBudget = max 0 config.dailyQuotaBudget)
    (today : utcDay run.checkedAt = day) :
    Checked (fun t => enabled = true ∧ Reached config percent q.estimatedUnitsUsedToday t)
      run.delivers quotaAlertThresholds (alerts.1.on day)
      ((checkAndSendQuotaAlert enabled percent q alerts run).1.1.on day)
      (checkAndSendQuotaAlert enabled percent q alerts run).2 := by
  by_cases nothing : q.dailyQuotaBudget ≤ 0
  · have same : checkAndSendQuotaAlert enabled percent q alerts run = (alerts, []) := by
      rw [checkAndSendQuotaAlert, if_pos nothing]
    rw [same]
    refine checked_none _ _ _ fun t reached => ?_
    have some_ := reached.2.1
    rw [budget] at nothing
    omega
  · by_cases on : enabled = true
    · obtain ⟨thresholds, tries, same, checked⟩ := check_eq percent alerts today nothing on
      have reached_iff (t : Nat) :
          (enabled = true ∧ Reached config percent q.estimatedUnitsUsedToday t) ↔
            percent q.estimatedUnitsUsedToday q.dailyQuotaBudget ≥ t := by
        rw [budget] at nothing ⊢
        exact ⟨fun h => h.2.2, fun h => ⟨on, by omega, h⟩⟩
      have there : ({ (alertsOf day alerts).1 with thresholds := thresholds } : QuotaAlerts).on day
          = thresholds := if_pos (alertsOf_day alerts)
      rw [same]
      simp only [reached_iff, there]
      exact checked
    · have same : checkAndSendQuotaAlert enabled percent q alerts run = (alerts, []) := by
        rw [checkAndSendQuotaAlert, if_neg nothing, if_pos on]
      rw [same]
      exact checked_none _ _ _ fun t reached => on reached.1

/-- Alerts that are still the loaded document's own after a check are of its
day if it sent anything, and grew by what it sent. -/
theorem check_shared {q : QuotaContext} {alerts : QuotaAlerts × Bool} {run : QuotaRun}
    (today : utcDay run.checkedAt = day)
    (shared : (checkAndSendQuotaAlert enabled percent q alerts run).1.2 = true) :
    alerts.2 = true ∧
      (delivered (checkAndSendQuotaAlert enabled percent q alerts run).2 = [] →
        (checkAndSendQuotaAlert enabled percent q alerts run).1.1 = alerts.1) ∧
      ((checkAndSendQuotaAlert enabled percent q alerts run).2 ≠ [] → alerts.1.day = day) := by
  by_cases idle : q.dailyQuotaBudget ≤ 0 ∨ ¬ enabled = true
  · have same : checkAndSendQuotaAlert enabled percent q alerts run = (alerts, []) := by
      unfold checkAndSendQuotaAlert
      rcases idle with nothing | off
      · rw [if_pos nothing]
      · split
        · rfl
        · rfl
    rw [same] at shared ⊢
    exact ⟨shared, fun _ => rfl, fun some_ => absurd rfl some_⟩
  · obtain ⟨budget, on⟩ := not_or.mp idle
    obtain ⟨thresholds, tries, same, checked⟩ :=
      check_eq percent alerts today budget (Decidable.not_not.mp on)
    rw [same] at shared ⊢
    have ofDay : alerts.1.day = day := by
      apply Decidable.byContradiction
      intro other
      rw [alertsOf, if_pos other] at shared
      cases shared
    have own : alertsOf day alerts = alerts := if_neg fun other => other ofDay
    rw [own] at shared ⊢
    refine ⟨shared, fun none_ => ?_, fun _ => ofDay⟩
    have kept := checked.sent
    rw [none_, List.append_nil, QuotaAlerts.on, if_pos ofDay] at kept
    simp only [kept]

/-! One run. -/

variable {column : QuotaColumn} {run : QuotaRun}

theorem quotaRun_blocked (blocked : blockedPoll config column run = true) :
    quotaRun config enabled percent column run
      = (some (quotaDocument (openingContext config column run.now)
          (openingAlerts column run.now).1), []) := by
  simp only [quotaRun, blocked, if_true, Instance.load, Instance.assign, Instance.commit,
    Instance.flush, Instance.written, Instance.expire, quotaColumn]
  grind

/-- The row of a run is what it writes, unless the document it loaded has grown
into the same. -/
theorem quotaRun_written (free : blockedPoll config column run = false) :
    let q := spentContext config column run
    let checked := checkAndSendQuotaAlert enabled percent q (openingAlerts column run.now) run
    let document := some (quotaDocument q checked.1.1)
    quotaRun config enabled percent column run
      = (if (checked.1.2 = true ∧ run.commits = false) ∧
            document = column.map (fun d => { d with quotaAlertsSent := some checked.1.1 })
          then column else document, checked.2) := by
  intro q checked document
  simp only [quotaRun, free, Bool.false_eq_true, if_false]
  cases run.commits with
  | true =>
    -- the commit dropped the document that grows
    simp only [if_true, Instance.load, Instance.assign, Instance.commit,
      Instance.flush, Instance.written, Instance.expire, Instance.assignMutated, quotaColumn]
    grind
  | false =>
    by_cases shared : checked.1.2 = true
    · simp only [shared, q, checked, document, Instance.load, Instance.assign, Instance.commit,
        Instance.flush, Instance.written, Instance.expire, Instance.assignMutated, quotaColumn]
      grind
    · simp [shared, q, checked, document, Instance.load, Instance.assign, Instance.commit,
        Instance.flush, Instance.written, Instance.expire, quotaColumn]
      exact Eq.symm

theorem sentOn_document {q : QuotaContext} (alerts : QuotaAlerts) (today : q.usageDay = day) :
    sentOn day (some (quotaDocument q alerts)) = alerts.on day := by
  simp [sentOn, quotaDocument, QuotaAlerts.on, today]

theorem openingAlerts_on {now : Time} (today : utcDay now = day) :
    (openingAlerts column now).1.on day = sentOn day column := by
  unfold openingAlerts sentOn QuotaAlerts.on
  subst today
  split
  · next metadata _ _ _ _ alerts =>
    by_cases same : metadata.usageDay = some (utcDay now)
    · simp [same]
    · simp [same]
  · simp

theorem openingAlerts_shared {now : Time} (shared : (openingAlerts column now).2 = true) :
    ∃ document, column = some document ∧
      document.quotaAlertsSent = some (openingAlerts column now).1 := by
  unfold openingAlerts at shared ⊢
  split at shared
  · next document alerts =>
    split at shared
    · next today => exact ⟨_, rfl, by simp [today]⟩
    · cases shared
  · cases shared

theorem spentContext_fixed (column : QuotaColumn) (run : QuotaRun) :
    (spentContext config column run).usageDay = utcDay run.now ∧
      (spentContext config column run).dailyQuotaBudget = max 0 config.dailyQuotaBudget := by
  have kept : ∀ (spent : List Spent) (q : QuotaContext),
      (spent.foldl (Spent.count config) q).usageDay = q.usageDay ∧
        (spent.foldl (Spent.count config) q).dailyQuotaBudget = q.dailyQuotaBudget := by
    intro spent
    induction spent with
    | nil => exact fun q => ⟨rfl, rfl⟩
    | cons unit rest ih =>
      intro q
      obtain ⟨day, budget⟩ := ih (Spent.count config q unit)
      rw [List.foldl_cons, day, budget]
      cases unit with
      | lookup => exact ⟨rfl, rfl⟩
      | page => exact ⟨rfl, rfl⟩
  exact kept run.spent (openingContext config column run.now)

/-- A document that has what would be written, but for its alerts. -/
theorem quotaDocument_of_grown {q : QuotaContext} {document : QuotaDocument}
    {alerts sent : QuotaAlerts} (had : document.quotaAlertsSent = some alerts)
    (same : quotaDocument q sent = { document with quotaAlertsSent := some sent }) :
    quotaDocument q alerts = document := by
  have again : ({ quotaDocument q sent with quotaAlertsSent := some alerts } : QuotaDocument)
      = { document with quotaAlertsSent := some alerts } := by rw [same]
  rw [← had] at again
  have whole : ({ quotaDocument q sent with quotaAlertsSent := some alerts } : QuotaDocument)
      = quotaDocument q alerts := rfl
  rw [← whole, ← had]
  exact again

/-- A run that is not overlooked writes its document. -/
theorem quotaRun_writes (today : utcDay run.now = day ∧ utcDay run.checkedAt = day)
    (free : blockedPoll config column run = false)
    (sound : enabled = true → ¬ Overlooked config percent column run) :
    let q := spentContext config column run
    let checked := checkAndSendQuotaAlert enabled percent q (openingAlerts column run.now) run
    quotaRun config enabled percent column run
      = (some (quotaDocument q checked.1.1), checked.2) := by
  intro q checked
  rw [quotaRun_written free]
  split
  · next grown =>
    obtain ⟨⟨shared, alone⟩, same⟩ := grown
    obtain ⟨own, unsent, ofDay⟩ := check_shared today.2 shared
    obtain ⟨document, rfl, alerts⟩ := openingAlerts_shared own
    rw [Option.map_some, Option.some.injEq] at same
    have written := quotaDocument_of_grown alerts same
    by_cases none_ : delivered checked.2 = []
    · rw [unsent none_, written]
    · -- it went out over a document that already was what the run writes
      obtain ⟨t, mem⟩ := List.exists_mem_of_ne_nil _ none_
      obtain ⟨among, ⟨on, reached⟩, new, out⟩ :=
        (check_checked (spentContext_fixed _ run).2 today.2).due t mem
      have some_ : checked.2 ≠ [] := List.ne_nil_of_mem (mem_delivered.mp mem)
      rw [QuotaAlerts.on, if_pos (ofDay some_)] at new
      refine absurd ⟨free, alone, document, _, rfl, alerts, (ofDay some_).trans today.2.symm,
        written, t, among, ?_, new, out⟩ (sound on)
      rw [← written]
      exact reached
  · rfl

/-- One run tells each threshold of its day that is due and not yet told. -/
theorem quotaRun_checked (enabled : Bool) (today : utcDay run.now = day ∧ utcDay run.checkedAt = day)
    (watched : enabled = true →
      ¬ Overlooked config percent column run ∧ ¬ Missed config percent day column run) :
    Checked
      (fun t => enabled = true ∧
        Reached config percent (usedIn (quotaRun config enabled percent column run).1) t)
      run.delivers quotaAlertThresholds (sentOn day column)
      (sentOn day (quotaRun config enabled percent column run).1)
      (quotaRun config enabled percent column run).2 := by
  cases blocked : blockedPoll config column run with
  | true =>
    rw [quotaRun_blocked blocked]
    have kept : sentOn day (some (quotaDocument (openingContext config column run.now)
        (openingAlerts column run.now).1)) = sentOn day column := by
      rw [sentOn_document _ today.1, openingAlerts_on today.1]
    rw [kept]
    refine ⟨(List.append_nil _).symm, List.nodup_nil, fun _ mem => (nomatch mem), ?_⟩
    intro _ t among reached
    exact Classical.byContradiction fun new =>
      (watched reached.1).2 ⟨blocked, t, among, reached.2, new⟩
  | false =>
    obtain ⟨usage, budget⟩ : (spentContext config column run).usageDay = utcDay run.now ∧
        (spentContext config column run).dailyQuotaBudget = max 0 config.dailyQuotaBudget :=
      spentContext_fixed column run
    rw [quotaRun_writes today blocked fun on => (watched on).1, sentOn_document _ (usage.trans today.1),
      ← openingAlerts_on today.1]
    exact check_checked budget today.2

/-! Runs of one day. -/

variable {runs : List QuotaRun}

def OfDay (day : Int) (runs : List QuotaRun) : Prop :=
  ∀ run ∈ runs, utcDay run.now = day ∧ utcDay run.checkedAt = day

/-- No run is overlooked, and none misses a threshold that is reached. -/
def Watchful (config : PollConfig) (enabled : Bool) (percent : Int → Int → Int) (day : Int)
    (column : QuotaColumn) (runs : List QuotaRun) : Prop :=
  ∀ before run after, runs = before ++ run :: after → enabled = true →
    ¬ Overlooked config percent (quotaRuns config enabled percent column before).1 run ∧
      ¬ Missed config percent day (quotaRuns config enabled percent column before).1 run

theorem quotaRuns_cons (run : QuotaRun) (rest : List QuotaRun) :
    quotaRuns config enabled percent column (run :: rest)
      = ((quotaRuns config enabled percent (quotaRun config enabled percent column run).1 rest).1,
          delivered (quotaRun config enabled percent column run).2
            ++ (quotaRuns config enabled percent
                (quotaRun config enabled percent column run).1 rest).2) := rfl

/-- The row names what was told on its day, each threshold once. -/
theorem quotaRuns_told (today : OfDay day runs)
    (watchful : Watchful config enabled percent day column runs) :
    sentOn day (quotaRuns config enabled percent column runs).1
        = sentOn day column ++ (quotaRuns config enabled percent column runs).2 ∧
      (quotaRuns config enabled percent column runs).2.Nodup ∧
      ∀ t ∈ (quotaRuns config enabled percent column runs).2, t ∉ sentOn day column := by
  induction runs generalizing column with
  | nil => exact ⟨(List.append_nil _).symm, List.nodup_nil, fun _ mem => nomatch mem⟩
  | cons run rest ih =>
    have watched : enabled = true →
        ¬ Overlooked config percent column run ∧ ¬ Missed config percent day column run :=
      watchful [] run rest rfl
    have checked := quotaRun_checked enabled (today run List.mem_cons_self) watched
    obtain ⟨told, once, new⟩ := @ih (quotaRun config enabled percent column run).1
      (fun r mem => today r (List.mem_cons_of_mem _ mem))
      (fun before r after split => watchful (run :: before) r after (by rw [split]; rfl))
    rw [checked.sent] at told new
    rw [quotaRuns_cons]
    refine ⟨by rw [told, List.append_assoc], ?_, ?_⟩
    · refine List.nodup_append.mpr ⟨checked.once, once, ?_⟩
      rintro t now _ later rfl
      exact new t later (List.mem_append_right _ now)
    · intro t mem
      rcases List.mem_append.mp mem with now | later
      · exact (checked.due t now).2.2.1
      · exact fun old => new t later (List.mem_append_left _ old)

/-- Each threshold is told once on a day, and is told when a run whose messages
all go out ends with it reached. -/
theorem thresholds_told (day : Int) (today : OfDay day runs)
    (watchful : Watchful config enabled percent day column runs) :
    (quotaRuns config enabled percent column runs).2.Nodup ∧
      (∀ t ∈ (quotaRuns config enabled percent column runs).2, t ∉ sentOn day column) ∧
      ∀ before run after, runs = before ++ run :: after →
        let here := quotaRuns config enabled percent column before
        let there := quotaRun config enabled percent here.1 run
        enabled = true → (∀ try_ ∈ there.2, try_.2 = true) →
          ∀ t ∈ quotaAlertThresholds, Reached config percent (usedIn there.1) t →
            t ∈ sentOn day column ∨ t ∈ here.2 ∨ t ∈ delivered there.2 := by
  obtain ⟨_, once, new⟩ := quotaRuns_told today watchful
  refine ⟨once, new, ?_⟩
  rintro before run after rfl here there on out t among reached
  have checked := quotaRun_checked enabled (today run (by simp)) (watchful before run after rfl)
  have earlier : OfDay day before := fun r mem => today r (List.mem_append_left _ mem)
  obtain ⟨told, _⟩ := quotaRuns_told earlier fun front r back split =>
    watchful front r (back ++ run :: after) (by rw [split]; simp)
  have there_ := checked.all out t among ⟨on, reached⟩
  rw [checked.sent, told, List.append_assoc, List.mem_append, List.mem_append] at there_
  exact there_

end

/-! A day without uploads to look up. -/

namespace Sample

def quotaConfig : PollConfig := ⟨10, true, true, false, false⟩

def usagePercent (used budget : Int) : Int := used * 100 / budget

/-- A poll that spends some units; Telegram works or does not. -/
def poll (units : Nat) (works : Bool) : QuotaRun where
  polls := true
  now := 0
  checkedAt := 1
  spent := List.replicate units .lookup
  commits := false
  delivers _ := works

/-- The third run alerts over a document that is what it writes. -/
def idlePolls : List QuotaRun := [poll 6 false, poll 0 false, poll 0 true, poll 0 true]

end Sample

theorem told_twice : OfDay 0 Sample.idlePolls ∧
    (quotaRuns Sample.quotaConfig true Sample.usagePercent none Sample.idlePolls).2 = [50, 50] ∧
    ¬ (quotaRuns Sample.quotaConfig true Sample.usagePercent none Sample.idlePolls).2.Nodup := by
  unfold OfDay
  decide

/-- Two polls that look something up. -/
theorem thresholds_told_busy :
    (quotaRuns Sample.quotaConfig true Sample.usagePercent none
        [Sample.poll 6 true, Sample.poll 2 true]).2 = [50, 75] ∧
      (quotaRuns Sample.quotaConfig true Sample.usagePercent none
        [Sample.poll 6 true, Sample.poll 2 true]).2.Nodup := by
  refine ⟨by decide, (thresholds_told 0 ?_ ?_).1⟩
  · intro run mem
    simp only [List.mem_cons, List.not_mem_nil, or_false] at mem
    rcases mem with rfl | rfl
    · decide
    · decide
  · intro before run after split _
    match before, split with
    | [], split =>
      cases split
      exact ⟨fun ⟨_, _, _, _, found, _⟩ => (nomatch found),
        fun ⟨blocked, _⟩ => absurd blocked (by decide)⟩
    | [_], split =>
      cases split
      refine ⟨?_, fun ⟨blocked, _⟩ => absurd blocked (by decide)⟩
      rintro ⟨_, _, document, alerts, found, _, _, same, _⟩
      cases found
      have used : (8 : Int) = 6 := congrArg (fun d => d.estimatedUnitsUsedToday) same
      exact absurd used (by decide)
    | _ :: _ :: _ :: _, split => simp at split

end YTPipe.Polling
