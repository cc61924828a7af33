import YTPipe.Pipeline.Terminal

/-!
# Summaries in quarantine

While a summary is in quarantine nothing is asked of the inference: no call of the
direct route and no POST. Only a reconciliation reads the result of its task, and
only once it is eligible.
-/

namespace YTPipe

open Broker Ledger

/-- Nothing that is asked of the inference is asked for a row in quarantine, and a
reconciliation asks for the task of an eligible one. -/
def Apart : Event → Prop
  | .post p => p.durable.quarantinedAt = none ∧ p.current.quarantinedAt = none
  | .summarize _ r => r.quarantinedAt = none
  | .get g =>
    (g.reader = .attempt → g.durable.quarantinedAt = none ∧ g.current.quarantinedAt = none)
      ∧ (g.reader = .reconciliation →
        Eligible g.current ∧ g.current.brokerTaskId = some g.taskId ∧ g.taskId ≠ "")
  | _ => True

/-- An eligible row names its task. -/
def Named (r : PipelineStage) : Prop := Eligible r → ∃ task, r.brokerTaskId = some task ∧ task ≠ ""

def AllApart (l : List Event) : Prop := ∀ e ∈ l, Apart e

section courses

variable {platform : Platform} {r : PipelineStage} {l : List Event}

theorem AllApart.cons (h : AllApart l) {e : Event} (apart : Apart e) : AllApart (e :: l) := by
  intro e' he'
  rcases List.mem_cons.mp he' with rfl | he'
  · exact apart
  · exact h e' he'

theorem named_of_quiet (quiet : r.quarantinedAt = none) : Named r := by
  rintro ⟨held, _⟩
  rw [quiet] at held
  cases held

theorem applyOutcomeRow_named {outcome : SummaryFailureOutcome} {attemptedAt : Time}
    {taskId : Option String} {confirmed : Bool} :
    Named (applyOutcomeRow outcome attemptedAt taskId confirmed r) := by
  unfold applyOutcomeRow
  rintro ⟨_, eligible⟩
  cases disposition : outcome.disposition <;> rw [disposition] at eligible <;> cases eligible

theorem settledRow_named {outcome : SummaryFailureOutcome} {attemptedAt : Time}
    {taskId : Option String} {confirmed : Bool} :
    Named (settledRow outcome attemptedAt taskId confirmed r) := by
  have applied : Named (applyOutcomeRow outcome attemptedAt taskId confirmed r) :=
    applyOutcomeRow_named
  unfold settledRow
  split
  · exact applied
  · exact applied

/-- An attempt asks nothing for a row in quarantine. -/
theorem apart_course : Course platform (fun _ => False) (fun _ => AllApart) (fun _ => AllApart)
    (fun _ => AllApart) (fun r l => Named r ∧ AllApart l) (fun r l => Named r ∧ AllApart l) := by
  have underway : Underway (fun _ => False) (fun r l => Named r ∧ AllApart l) fun _ => AllApart :=
    ⟨fun _ _ live h => ⟨named_of_quiet live.1, h⟩, sturdy_free fun _ _ _ h => h⟩
  have settles : Settles (fun _ => AllApart) fun r l => Named r ∧ AllApart l :=
    fun _ _ _ _ _ _ _ h _ => ⟨settledRow_named, h⟩
  exact {
    earlier := fun _ _ h => h
    resting := underway
    beginning := underway
    posting := underway
    past_ever := fun _ _ h => h
    past_sturdy := sturdy_free fun _ _ _ h => h
    raised := fun _ _ _ h => ⟨h.1, h.2.cons trivial⟩
    start := fun _ _ _ _ h => h
    prepare := fun _ _ _ h => h
    accept := fun _ _ _ _ h => h
    correlate_begun := fun _ _ _ _ h => h
    correlate_posted := fun _ _ _ _ h => h
    post := fun p _ same live h => h.cons ⟨live.1, same ▸ live.1⟩
    sleep := fun _ _ _ h => h.cons trivial
    get := by
      intro g r l reader durable current live h
      refine h.cons ⟨fun _ => ⟨durable ▸ live.1, current ▸ live.1⟩, fun other => ?_⟩
      rw [reader] at other
      cases other
    settle_begun := settles
    settle_posted := settles
    finish := fun _ _ h => ⟨named_of_quiet rfl, h⟩
    finishPlan := fun _ _ _ _ h _ => ⟨named_of_quiet rfl, h⟩
    piece := fun _ _ _ _ _ h _ _ _ => h
    refuse := fun _ _ _ _ live h => ⟨named_of_quiet live.1, h⟩
    stop := underway.ever
    build := fun _ _ _ _ _ h _ _ => h
    call := fun _ _ _ live h => h.cons live.1
    directFail := fun _ _ _ _ live h => ⟨named_of_quiet live.1, h⟩
    directDone := fun _ _ h => ⟨named_of_quiet rfl, h⟩
    directEmpty := fun _ _ live h => ⟨named_of_quiet live.1, h⟩
    present := fun _ _ live h => ⟨named_of_quiet live.1, h⟩
    fail := fun _ _ _ _ _ live h => ⟨named_of_quiet live.1, h⟩ }

/-- The row is eligible, and names its task. -/
def Listed (r : PipelineStage) : Prop :=
  Eligible r ∧ ∃ task, r.brokerTaskId = some task ∧ task ≠ ""

theorem apart_reconciliation : ReconcileCourse platform (fun _ => False)
    (fun r l => Listed r ∧ AllApart l) (fun r l => Named r ∧ AllApart l)
    (fun r l => Named r ∧ AllApart l) where
  earlier _ _ h := h
  distrust _ _ _ h := h.elim
  past_ever _ _ h := h
  past_sturdy := sturdy_free fun _ _ _ h => h
  stays _ _ h := ⟨fun _ => h.1.2, h.2⟩
  get := by
    rintro g r l reader current asked ⟨⟨eligible, task, stored, named⟩, h⟩
    refine ⟨⟨eligible, task, stored, named⟩, h.cons ⟨fun other => ?_, fun _ => ?_⟩⟩
    · rw [reader] at other
      cases other
    · rw [stored, Option.getD_some] at asked
      rw [current, asked]
      exact ⟨eligible, stored, named⟩
  invalid _ _ h := ⟨named_of_quiet rfl, h.2⟩
  still _ _ _ _ h := ⟨fun _ => h.1.2, h.2⟩
  fails _ _ _ h := ⟨named_of_quiet rfl, h.2⟩
  postpone _ _ _ h := ⟨fun _ => h.1.2, h.2⟩
  part _ _ _ _ _ _ h _ _ _ := ⟨named_of_quiet rfl, h.2⟩
  final _ _ _ _ h _ := ⟨named_of_quiet rfl, h.2⟩

end courses

section residue

open Proc

variable {platform : Platform} {w : StageWorld}

/-- A submission was begun, and its end is not known. -/
def Begun (r : PipelineStage) : Prop :=
  r.reconciliationStatus = some .submissionPrepared
    ∨ r.reconciliationStatus = some .submissionAccepted

/-- The row is in quarantine since `t`, in memory and durably, and waits for the operator. -/
def HeldSince (t : Time) (i : StageInstance) : Prop :=
  ∀ r, r = i.current ∨ r = i.durable →
    r.quarantinedAt = some t ∧ r.reconciliationStatus = some .awaitingOperatorResolution

theorem heldSince_saved {t : Time} {i : StageInstance} {rule : FlushRule}
    (held : i.current.quarantinedAt = some t
      ∧ i.current.reconciliationStatus = some .awaitingOperatorResolution) :
    HeldSince t ((i.flush planColumn rule).commit planColumn rule) := by
  have written : ∃ d, ((i.flush planColumn rule).written planColumn rule) = planColumn.set d i.current :=
    Instance.written_eq_set planColumn rule (i.flush planColumn rule)
  obtain ⟨d, written⟩ := written
  rintro r (rfl | rfl)
  · rw [Instance.commit_current, written]
    exact held
  · rw [Instance.commit_durable, written]
    exact held

/-- The attempt was lost at its commit, with nothing asked. -/
def LostSaving (w v : StageWorld) : Prop :=
  v.trace = w.trace ∧ ∀ rest, w.replies ≠ .committed :: rest

/-- What is indeterminate is put in quarantine and committed. -/
theorem wp_quarantine_held {attemptedAt : Time} {code : String} {key task : Option String} :
    wp (quarantine platform attemptedAt code (some "indeterminate") key task)
      (fun outcome v => outcome.disposition ≠ .completed ∧ v.trace = w.trace
        ∧ HeldSince attemptedAt v.state.stage) (LostSaving w) w := by
  unfold quarantine
  rw [wp_bind, wp_setStage, wp_bind, wp_stageRow]
  unfold applyOutcome
  simp only [wp_bind, wp_when, wp_stageRow]
  rw [if_neg (by simp), if_neg (by simp), wp_bind, wp_setStage, wp_bind, wp_when,
    if_neg (by rw [classify_indeterminate]; decide), wp_bind, wp_flush, wp_bind]
  apply wp_commit_answered
  · exact fun unanswered => ⟨rfl, unanswered⟩
  intro rest
  rw [wp_pure]
  refine ⟨disposition_ne_completed _, rfl, heldSince_saved ?_⟩
  simp [applyOutcomeRow, classify_indeterminate]

theorem wp_attempt_held {service : BrokerService} {context : SummaryGatewayContext}
    {submission : Submission} {attemptedAt : Time} (begun : Begun w.state.stage.current) :
    wp (attempt platform service context submission attemptedAt)
      (fun outcome v => outcome.disposition ≠ .completed ∧ v.trace = w.trace
        ∧ HeldSince attemptedAt v.state.stage) (LostSaving w) w := by
  unfold attempt
  rw [wp_bind, wp_stageRow]
  by_cases prepared : w.state.stage.current.reconciliationStatus = some .submissionPrepared
  · rw [if_pos prepared]
    exact wp_quarantine_held
  · rw [if_neg prepared, if_pos (begun.resolve_left prepared)]
    exact wp_quarantine_held

/-- What is left of a submission is put in quarantine, and nothing is asked. -/
theorem wp_residue {config : PipelineConfig} {service : BrokerService} {attemptedAt : Time}
    (begun : Begun w.state.stage.current) :
    wp (attemptBrokerSummaryStage platform config service attemptedAt)
      (fun _ v => v.trace = w.trace ∧ HeldSince attemptedAt v.state.stage) (LostSaving w) w := by
  have found : w.state.stage.current.reconciliationStatus = some .submissionPrepared
    ∨ w.state.stage.current.reconciliationStatus = some .submissionAccepted := begun
  unfold attemptBrokerSummaryStage attemptSingleShot
  simp only [wp_bind, wp_stageRow, if_pos found, wp_setStage, wp_videoRow]
  refine wp_mono (wp_attempt_held (w := withState w _) begun) ?_ fun _ h => h
  rintro outcome v ⟨unfinished, same, held⟩
  rw [wp_setRecoveryTarget, if_neg unfinished]
  exact ⟨same, held⟩

end residue

end YTPipe

namespace YTPipe.Pipeline

open Broker Proc

/-- What is written of a quarantine is in memory. -/
structure Secure (i : StageInstance) : Prop where
  calm : Calm i
  firm : Firm i

/-- What holds of the summary's row in a session. -/
structure Held (i : StageInstance) : Prop extends Secure i where
  current : Named i.current
  durable : Named i.durable

/-- No row in quarantine was asked about, and none may be from here. -/
structure Isolated (w : PipelineWorld) : Prop where
  trace : ∀ e, .stage e ∈ w.trace → Apart e
  held : ∀ i, (w.state.slot .summary).row = some i → Held i

/-- The columns of a quarantine stay. -/
structure SameHold (r r' : PipelineStage) : Prop where
  quarantinedAt : r'.quarantinedAt = r.quarantinedAt
  reconciliationStatus : r'.reconciliationStatus = r.reconciliationStatus
  brokerTaskId : r'.brokerTaskId = r.brokerTaskId

section held

variable {i : StageInstance} {rule : FlushRule} {r r' : PipelineStage}

theorem SameHold.eligible (same : SameHold r r') : Eligible r' ↔ Eligible r := by
  unfold Eligible
  rw [same.quarantinedAt, same.reconciliationStatus]

theorem SameHold.named (same : SameHold r r') (h : Named r) : Named r' := by
  intro eligible
  rw [same.brokerTaskId]
  exact h (same.eligible.mp eligible)

theorem Secure.modify (h : Secure i) {f : PipelineStage → PipelineStage}
    (same : ∀ r, SameHold r (f r)) : Secure (i.modify f) where
  calm quiet := h.calm ((same i.current).quarantinedAt.symm.trans quiet)
  firm eligible := by
    obtain ⟨current, task⟩ := h.firm eligible
    exact ⟨(same i.current).eligible.mpr current, (same i.current).brokerTaskId.trans task⟩

theorem secure_load (r : PipelineStage) : Secure (Instance.load planColumn r) :=
  ⟨fun quiet => quiet, fun eligible => ⟨eligible, rfl⟩⟩

theorem secure_flush (i : StageInstance) : Secure (i.flush planColumn rule) :=
  ⟨calm_flush i rule, firm_flush i rule⟩

theorem secure_commit (i : StageInstance) : Secure (i.commit planColumn rule) :=
  ⟨fun quiet => quiet, fun eligible => ⟨eligible, rfl⟩⟩

theorem Held.modify (h : Held i) {f : PipelineStage → PipelineStage} (same : ∀ r, SameHold r (f r)) :
    Held (i.modify f) where
  toSecure := h.toSecure.modify same
  current := (same i.current).named h.current
  durable := h.durable

theorem written_named (rule : FlushRule) (h : Named i.current) :
    Named (i.written planColumn rule) := by
  obtain ⟨d, written⟩ := Instance.written_eq_set planColumn rule i
  rw [written]
  exact h

theorem Held.flush (h : Held i) : Held (i.flush planColumn rule) :=
  ⟨secure_flush i, h.current, h.durable⟩

theorem Held.commit (h : Held i) : Held (i.commit planColumn rule) where
  toSecure := secure_commit i
  current := written_named rule h.current
  durable := written_named rule h.current

theorem Held.rollback (h : Held i) : Held (i.rollback planColumn) where
  calm quiet := quiet
  firm eligible := ⟨eligible, rfl⟩
  current := h.durable
  durable := h.durable

theorem held_load (quiet : r.quarantinedAt = none) : Held (Instance.load planColumn r) where
  toSecure := secure_load r
  current := named_of_quiet quiet
  durable := named_of_quiet quiet

end held

namespace Isolated

variable {platform : Platform} {w : PipelineWorld}

theorem emit (h : Isolated w) {e : PipelineEvent} (apart : ∀ s, e = .stage s → Apart s) :
    Isolated { w with trace := e :: w.trace } where
  trace s hs := by
    rcases List.mem_cons.mp hs with same | hs
    · exact apart s same.symm
    · exact h.trace s hs
  held := h.held

theorem replies (h : Isolated w) (rest : List PipelineReply) :
    Isolated { w with replies := rest } := ⟨h.trace, h.held⟩

theorem session (h : Isolated w) {s : PipelineSession}
    (held : ∀ i, (s.slot .summary).row = some i → Held i) : Isolated { w with state := s } :=
  ⟨h.trace, held⟩

theorem setRow (h : Isolated w) {n : StageName} {f : PipelineStage → PipelineStage}
    (same : n = .summary → ∀ r, SameHold r (f r)) :
    Isolated { w with state := w.state.setRow n f } := by
  refine h.session fun i' hi' => ?_
  by_cases summary : n = .summary
  · subst summary
    simp only [PipelineSession.setRow, PipelineSession.setSlot, if_true] at hi'
    obtain ⟨i, hi, rfl⟩ := Option.map_eq_some_iff.mp hi'
    exact (h.held i hi).modify (same rfl)
  · simp only [PipelineSession.setRow, PipelineSession.setSlot, if_neg (Ne.symm summary)] at hi'
    exact h.held i' hi'

/-- Another row than the summary's changes. -/
theorem aside (h : Isolated w) {n : StageName} (other : n ≠ .summary)
    (f : PipelineStage → PipelineStage) : Isolated { w with state := w.state.setRow n f } :=
  h.setRow fun summary => absurd summary other

theorem flush (h : Isolated w) : Isolated { w with state := w.state.flush platform } := by
  refine h.session fun i' hi' => ?_
  obtain ⟨i, hi, rfl⟩ := Option.map_eq_some_iff.mp hi'
  exact (h.held i hi).flush

theorem commit (h : Isolated w) : Isolated { w with state := w.state.commit platform } := by
  refine h.session fun i' hi' => ?_
  obtain ⟨i, hi, rfl⟩ := Option.map_eq_some_iff.mp hi'
  exact (h.held i hi).commit

theorem undo (h : Isolated w) : Isolated (undo w) := by
  refine (h.session (s := w.state.rollback) fun i' hi' => ?_).emit fun _ other => (by cases other)
  simp only [PipelineSession.rollback, Slot.rollback] at hi'
  split at hi'
  · obtain ⟨i, hi, rfl⟩ := Option.map_eq_some_iff.mp hi'
    exact (h.held i hi).rollback
  · cases hi'

/-- What the summary's work leaves is taken up. -/
theorem takeUp (h : Isolated w) {inner : StageWorld} (apart : AllApart inner.trace)
    (held : Held inner.state.stage) : Isolated (takeUp platform inner w) where
  trace e he := by
    simp only [Pipeline.takeUp, List.mem_append] at he
    rcases he with he | he | he
    · obtain ⟨e', he', same⟩ := List.mem_map.mp he
      cases same
      exact apart e he'
    · cases mem_commits he
    · exact h.trace e he
  held i hi := by
    cases hi
    exact held

end Isolated

section steps

variable {platform : Platform} {service : PipelineService} {w : PipelineWorld}

/-- An event that asks nothing of the inference. -/
def PipelineEvent.silent : PipelineEvent → Bool
  | .stage _ => false
  | _ => true

theorem Isolated.note (h : Isolated w) {e : PipelineEvent} (silent : e.silent = true) :
    Isolated { w with trace := e :: w.trace } := by
  refine h.emit fun s same => ?_
  subst same
  cases silent

theorem isolated_still : Still platform Isolated Isolated where
  lost _ h := h
  raised _ h := h.note rfl
  reply _ rest h := h.replies rest
  flush _ h := h.flush
  commit w h := by
    have kept : Isolated { w with state := w.state.commit platform } := h.commit
    exact kept.note rfl

theorem isolated_create (n : StageName) (h : Isolated w) :
    wp (createStage n) (fun _ => Isolated) Isolated w := by
  apply wp_createStage h
  · exact fun _ => h
  intro _ id rest
  refine (h.replies rest).session fun i hi => ?_
  by_cases summary : n = .summary
  · subst summary
    simp only [PipelineSession.setSlot, if_true] at hi
    cases hi
    exact held_load rfl
  · simp only [PipelineSession.setSlot, if_neg (Ne.symm summary)] at hi
    exact h.held i hi

theorem isolated_transcript (h : Isolated w) :
    wp (attemptTranscriptStage service) (fun _ => Isolated) Isolated w := by
  have edit {v : PipelineWorld} (h : Isolated v) (f : PipelineStage → PipelineStage) :=
    h.aside (n := .transcript) (by decide) f
  have started (attemptedAt : Time) (rest : List PipelineReply) :=
    edit (h.replies rest) (startAttempt attemptedAt)
  apply wp_attemptTranscriptStage h h
  · exact fun _ _ _ => edit h _
  · exact fun _ _ _ => edit h _
  · exact fun _ attemptedAt rest _ _ => (started attemptedAt rest).note (e := .fetch none) rfl
  · intro _ attemptedAt outcome text rest _ _ _
    have fetched := (started attemptedAt rest).note (e := .fetch (some outcome)) rfl
    have kept := fetched.session (s := { w.state.setRow .transcript (startAttempt attemptedAt) with
      video := w.state.video.modify fun v => { v with transcript := some text } }) fetched.held
    exact edit kept fetchedRow
  · intro _ attemptedAt outcome rest _ _ _
    have fetched := (started attemptedAt rest).note (e := .fetch (some outcome)) rfl
    exact edit fetched (unfetchedRow outcome)

theorem skipRow_hold (r : PipelineStage) : SameHold r (skipRow r) := by
  unfold skipRow
  split
  · exact ⟨rfl, rfl, rfl⟩
  · exact ⟨rfl, rfl, rfl⟩

theorem isolated_skip (n : StageName) (video : Video) (h : Isolated w) :
    wp (skipStage service n video) (fun _ => Isolated) Isolated w := by
  have skipped : Isolated { w with state := w.state.setRow n skipRow } :=
    h.setRow fun _ => skipRow_hold
  apply wp_skipStage
  · exact fun _ => h
  · exact fun _ _ _ => skipped
  · exact fun _ _ _ => skipped.note rfl

theorem isolated_deliver (h : Isolated w) :
    wp (attemptTelegramStage service) (fun _ => Isolated) Isolated w := by
  have other : StageName.telegram ≠ .summary := by decide
  have started (attemptedAt : Time) (rest : List PipelineReply) :=
    (h.replies rest).aside other (startAttempt attemptedAt)
  apply wp_attemptTelegramStage h h
  · exact fun _ _ _ _ => (h.aside other _).note rfl
  · exact fun _ _ _ _ => (h.aside other _).note rfl
  · exact fun _ _ _ => h.aside other _
  · exact fun _ attemptedAt rest _ _ => (started attemptedAt rest).note (e := .notify none) rfl
  · intro _ attemptedAt outcome rest _ _
    have sent := (started attemptedAt rest).note (e := .notify (some outcome)) rfl
    exact sent.aside other (deliveredRow outcome)

theorem isolated_single (h : Isolated w) :
    wp (attemptSingleFallback service) (fun _ => Isolated) Isolated w := by
  have other : StageName.fallbackTelegram ≠ .summary := by decide
  apply wp_attemptSingleFallback h
  · exact fun _ _ _ => h.aside other _
  · exact fun _ _ _ _ => h.aside other _
  · intro _ reason _ _ _
    have sent (attemptedAt : Time) (rest : List PipelineReply) (outcome : Option DeliveryOutcome) :=
      ((h.replies rest).aside other (startAttempt attemptedAt)).note (e := .fallback
        (w.state.setRow .fallbackTelegram (startAttempt attemptedAt)).rows
        (fallbackMessage w.state.rows w.state.video.current reason) outcome) rfl
    have told (attemptedAt : Time) (rest : List PipelineReply) (outcome : DeliveryOutcome) :=
      (sent attemptedAt rest (some outcome)).aside other (toldRow outcome)
    apply wp_sendFallback h
    · exact fun attemptedAt rest => sent attemptedAt rest none
    · exact fun attemptedAt outcome rest => told attemptedAt rest outcome
    · exact fun attemptedAt outcome rest =>
        (told attemptedAt rest outcome).setRow fun _ _ => ⟨rfl, rfl, rfl⟩

/-- The session of the summary's work, where the row is as it was. -/
theorem Isolated.idle (h : Isolated w) {stage : StageInstance} {inner : StageWorld}
    (row : (w.state.slot .summary).row = some stage) (apart : AllApart inner.trace)
    (state : inner.state = summarySession stage w.state) :
    Isolated (Pipeline.takeUp platform inner w) := by
  refine h.takeUp apart ?_
  rw [state]
  exact h.held stage row

/-- The session of the summary's work, when what it wrote is named. -/
theorem Isolated.worked (h : Isolated w) {stage : StageInstance} {inner : StageWorld}
    (row : (w.state.slot .summary).row = some stage)
    (current : Named inner.state.stage.current ∧ AllApart inner.trace)
    (reached : Reached (Sometime fun r l => Named r ∧ AllApart l) (summarySession stage w.state)
      inner.state)
    (calm : Calm stage → Calm inner.state.stage)
    (firm : Calm stage → Firm stage → Firm inner.state.stage) :
    Isolated (Pipeline.takeUp platform inner w) := by
  have held := h.held stage row
  refine h.takeUp current.2 ⟨⟨calm held.calm, firm held.calm held.firm⟩, current.1, ?_⟩
  unfold Reached at reached
  cases reach : inner.state.reach with
  | untouched =>
    rw [reach] at reached
    exact reached.2 ▸ held.durable
  | flushed =>
    rw [reach] at reached
    exact reached.2 ▸ held.durable
  | committed =>
    rw [reach] at reached
    obtain ⟨_, _, named, _⟩ := reached
    exact named

theorem isolated_attempt (h : Isolated w) :
    wp (attemptSummary platform service) (fun _ => Isolated) Isolated w := by
  unfold attemptSummary
  apply wp_onSummary h h
  intro stage answers rest row
  rw [wp_bind]
  have h := h.replies rest
  have idle {v : StageWorld} (state : v.state = summarySession stage w.state) (trace : v.trace = []) :
      Isolated (takeUp platform v { w with replies := rest }) :=
    h.idle row (trace ▸ fun _ he => absurd he List.not_mem_nil) state
  refine wp_mono (apart_course.wp_attemptSummaryStage (fun _ _ he => absurd he List.not_mem_nil)
    False.elim (reached_start rfl) (fun v => idle) fun v _ adrift => ?_) (fun _ v out => ?_) fun _ hv => hv
  · exact h.worked row adrift.row adrift.reached adrift.calm adrift.firm
  · rcases out with ⟨state, trace⟩ | ⟨_, ended⟩
    · exact idle state trace
    · exact h.worked row ended.row ended.reached ended.calm ended.firm

theorem isolated_reconcile (broker : BrokerService) (h : Isolated w) :
    wp (onSummary platform (reconcileStage platform broker)) (fun _ => Isolated) Isolated w := by
  apply wp_onSummary h h
  intro stage answers rest row
  have h := h.replies rest
  have held := h.held stage row
  have nothing : AllApart [] := fun _ he => absurd he List.not_mem_nil
  apply apart_reconciliation.wp_reconcileStage
  · intro now _ _ due
    have eligible := (held.firm ⟨due.2.1, due.2.2.2.1⟩).1
    exact ⟨⟨eligible, held.current eligible⟩, nothing⟩
  · exact ⟨held.current, nothing⟩
  · exact False.elim
  · exact reached_start rfl
  · exact fun v state kept => h.idle row kept.2 state
  · exact fun v ended => h.worked row ended.row ended.reached ended.calm ended.firm

theorem isolated_request (audit : String) (h : Isolated w) :
    wp (onSummary platform (requestReconciliation platform audit)) (fun _ => Isolated)
      Isolated w := by
  apply wp_onSummary h h
  intro stage answers rest row
  have h := h.replies rest
  apply wp_requestReconciliation fun r l (kept : Named r ∧ AllApart l) => kept
  · exact sturdy_free fun _ _ _ kept => kept
  · rintro now r l ⟨_, apart⟩ _ tasked
    refine ⟨fun _ => ?_, apart⟩
    cases task : r.brokerTaskId with
    | none => exact absurd (congrArg (·.getD "") task) tasked
    | some t =>
      rw [task] at tasked
      exact ⟨t, rfl, tasked⟩
  · exact ⟨(h.held stage row).current, fun _ he => absurd he List.not_mem_nil⟩
  · exact False.elim
  · exact reached_start rfl
  · exact fun v adrift => h.worked row adrift.row adrift.reached adrift.calm adrift.firm
  · exact fun v ended => h.worked row ended.row ended.reached ended.calm ended.firm

theorem isolated_steps (platform : Platform) (service : PipelineService) :
    FreeSteps platform service Isolated Isolated where
  still := isolated_still
  create _ n := isolated_create n
  transcript _ := isolated_transcript
  attempt _ := isolated_attempt
  deliver _ := isolated_deliver
  skip _ n video _ := isolated_skip n video
  overlook w n _ _ _ h := isolated_skip n w.state.video.current (h.note rfl)
  note _ _ _ _ _ h := h.note rfl
  explain _ _ h := h.setRow fun _ _ => ⟨rfl, rfl, rfl⟩
  single _ _ := isolated_single
  told _ := isolated_single
  reconcile _ := isolated_reconcile
  request _ := isolated_request
  undone _ := Isolated.undo
  video _ _ h := h.session h.held

end steps

section runs

variable {platform : Platform} {userId : Int} {video : Video} {ops : List Operation}
  {w : PipelineWorld}

theorem isolated_run :
    Isolated (runOperations platform ops (openVideo userId (fun _ => none) video)) := by
  have start : Isolated (openVideo userId (fun _ => none) video) :=
    ⟨fun _ he => absurd he List.not_mem_nil, fun _ hi => by cases hi⟩
  refine runOperations_keeps (fun earlier op _ _ held => ?_) start
  have steps := isolated_steps platform op.service
  have held := held.replies op.replies
  refine wp_mono (op.activity.keeps (fun call _ => ?_) fun _ => ?_) (fun _ _ h => h)
    fun _ h => ⟨h, h.undo⟩
  · exact steps.calls.keeps call held
  · exact wp_finalizeSummaryCircuit isolated_still
      (fun _ h => h.setRow fun _ _ => ⟨rfl, rfl, rfl⟩) (fun _ => isolated_attempt) held

theorem Isolated.named (h : Isolated w) {r : PipelineStage}
    (row : w.state.rows .summary = some r ∨ w.state.durableRows .summary = some r) : Named r := by
  rcases row with row | row
  · obtain ⟨i, hi, rfl⟩ := Option.map_eq_some_iff.mp row
    exact (h.held i hi).current
  · simp only [PipelineSession.durableRows, Slot.durable] at row
    split at row
    · obtain ⟨i, hi, rfl⟩ := Option.map_eq_some_iff.mp row
      exact (h.held i hi).durable
    · cases row

end runs

/-- While a summary is in quarantine no POST and no call of the direct route is made for
it; its result is read by a reconciliation only, while it is eligible and under the task
it names; and one without a task is never eligible. -/
theorem quarantine_isolated (platform : Platform) (userId : Int) (video : Video)
    (ops : List Operation) :
    (∀ e, .stage e ∈ (runOperations platform ops (openVideo userId (fun _ => none) video)).trace →
        Apart e)
      ∧ ∀ r, (runOperations platform ops
            (openVideo userId (fun _ => none) video)).state.rows .summary = some r
          ∨ (runOperations platform ops
            (openVideo userId (fun _ => none) video)).state.durableRows .summary = some r →
        Eligible r → ∃ task, r.brokerTaskId = some task ∧ task ≠ "" :=
  ⟨isolated_run.trace, fun _ => isolated_run.named⟩

/-- In every run nothing is asked for a summary in quarantine but the result of the task
it names, by a reconciliation and once it is eligible, and one without a task never is;
and an attempt on the broker route that comes upon a submission begun before it, wherever
it starts, asks nothing and puts the summary in quarantine. -/
theorem quarantine_kept (platform : Platform) (userId : Int) (video : Video)
    (ops : List Operation) :
    let reached := runOperations platform ops (openVideo userId (fun _ => none) video)
    (∀ e, .stage e ∈ reached.trace → Apart e)
      ∧ (∀ r, reached.state.rows .summary = some r ∨ reached.state.durableRows .summary = some r →
        Eligible r → ∃ task, r.brokerTaskId = some task ∧ task ≠ "")
      ∧ ∀ (w : StageWorld) config service attemptedAt, Begun w.state.stage.current →
        wp (attemptBrokerSummaryStage platform config service attemptedAt)
          (fun _ v => v.trace = w.trace ∧ HeldSince attemptedAt v.state.stage) (LostSaving w) w :=
  ⟨isolated_run.trace, fun _ => isolated_run.named, fun _ _ _ _ begun => wp_residue begun⟩

end YTPipe.Pipeline
