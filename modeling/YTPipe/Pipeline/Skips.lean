import YTPipe.Pipeline.Summary

/-!
# Why stages are skipped

A stage that changes to skipped has a reason in what is before it, unless
`process_pending_stages` looks at a stage whose upstream stage still has work to do.
-/

namespace YTPipe.Pipeline

open Broker Proc Ledger

/-- The stage before it is not over. -/
def Waits (n : StageName) (m : Moment) : Prop :=
  ∃ u, upstream n = some u ∧ ∀ r, m.rows u = some r → r.status.isOpen

/-- An open stage is looked at whose upstream stage is not over, and nothing else
speaks for skipping it. -/
def Hasty (n : StageName) (m : Moment) : Prop :=
  (∃ r, m.rows n = some r ∧ r.status.isOpen) ∧ Waits n m ∧ m.service.telegramService = true
    ∧ ¬ m.service.refuses m.video

/-- Every skip on the trace is justified. -/
def Reasoned (l : List PipelineEvent) : Prop := ∀ n m, .skip n m ∈ l → Justified n m

/-- No dependency was looked at too early. -/
def Patient (l : List PipelineEvent) : Prop := ∀ n m, .dependency n m ∈ l → ¬ Hasty n m

/-- The row is not skipped, or `K`. -/
def Unskipped (K : Prop) (r : PipelineStage) : Prop := r.status = .skipped → K

/-- The stage was skipped to begin with, or its skip is on the trace. -/
def Known (early : StageName → Prop) (n : StageName) (l : List PipelineEvent) : Prop :=
  early n ∨ ∃ m, .skip n m ∈ l

/-- Each skipped row but the fallback has a known skip. -/
def Covered (early : StageName → Prop) (rows : Rows) (l : List PipelineEvent) : Prop :=
  ∀ n, n ≠ .fallbackTelegram → ∀ r, rows n = some r → Unskipped (Known early n l) r

structure Watched (early : StageName → Prop) (w : PipelineWorld) : Prop where
  reasoned : Reasoned w.trace ↔ Patient w.trace
  current : Covered early w.state.rows w.trace
  durable : Covered early w.state.durableRows w.trace

section trace

variable {l : List PipelineEvent} {n : StageName} {m : Moment} {early : StageName → Prop}

theorem reasoned_cons {e : PipelineEvent} (h : ∀ n m, e = .skip n m → Justified n m) :
    Reasoned (e :: l) ↔ Reasoned l := by
  constructor
  · exact fun all n m he => all n m (List.mem_cons_of_mem _ he)
  · intro all n m he
    rcases List.mem_cons.mp he with he | he
    · exact h n m he.symm
    · exact all n m he

theorem patient_cons {e : PipelineEvent} (h : ∀ n m, e = .dependency n m → ¬ Hasty n m) :
    Patient (e :: l) ↔ Patient l := by
  constructor
  · exact fun all n m he => all n m (List.mem_cons_of_mem _ he)
  · intro all n m he
    rcases List.mem_cons.mp he with he | he
    · exact h n m he.symm
    · exact all n m he

/-- An event that neither skips without a reason nor looks too early. -/
structure Fair (e : PipelineEvent) : Prop where
  justified : ∀ n m, e = .skip n m → Justified n m
  patient : ∀ n m, e = .dependency n m → ¬ Hasty n m

/-- An event that neither skips nor looks at a dependency. -/
def PipelineEvent.minor : PipelineEvent → Bool
  | .skip _ _ => false
  | .dependency _ _ => false
  | _ => true

theorem fair_of_minor {e : PipelineEvent} (h : e.minor = true) : Fair e where
  justified n m he := by
    subst he
    cases h
  patient n m he := by
    subst he
    cases h

theorem Known.cons (h : Known early n l) (e : PipelineEvent) : Known early n (e :: l) :=
  h.imp_right fun ⟨m, hm⟩ => ⟨m, List.mem_cons_of_mem _ hm⟩

theorem Covered.cons {rows : Rows} (h : Covered early rows l) (e : PipelineEvent) :
    Covered early rows (e :: l) :=
  fun n hn r hr skipped => (h n hn r hr skipped).cons e

end trace

section watched

variable {platform : Platform} {service : PipelineService} {early : StageName → Prop}
  {w : PipelineWorld}

theorem Watched.emit (h : Watched early w) {e : PipelineEvent} (fair : Fair e) :
    Watched early { w with trace := e :: w.trace } where
  reasoned := by
    rw [reasoned_cons fair.justified, patient_cons fair.patient]
    exact h.reasoned
  current := h.current.cons e
  durable := h.durable.cons e

theorem Watched.emits (h : Watched early w) {es : List PipelineEvent} (fair : ∀ e ∈ es, Fair e) :
    Watched early { w with trace := es ++ w.trace } := by
  induction es with
  | nil => exact h
  | cons e es ih =>
    exact (ih fun e he => fair e (List.mem_cons_of_mem _ he)).emit (fair e (List.mem_cons_self ..))

/-- The rows change, and those that are skipped now are known. -/
theorem Watched.session (h : Watched early w) {s : PipelineSession}
    (current : Covered early s.rows w.trace) (durable : Covered early s.durableRows w.trace) :
    Watched early { w with state := s } := ⟨h.reasoned, current, durable⟩

theorem Watched.setRow (h : Watched early w) {n : StageName} {f : PipelineStage → PipelineStage}
    (skips : n ≠ .fallbackTelegram → ∀ r, w.state.rows n = some r → (f r).status = .skipped →
      r.status = .skipped ∨ Known early n w.trace) :
    Watched early { w with state := w.state.setRow n f } := by
  refine h.session (fun m hm r hr skipped => ?_) ?_
  · rw [PipelineSession.rows_setRow] at hr
    split at hr
    · next same =>
      subst same
      obtain ⟨r', hr', rfl⟩ := Option.map_eq_some_iff.mp hr
      exact (skips hm r' hr' skipped).elim (h.current m hm r' hr') id
    · exact h.current m hm r hr skipped
  · rw [PipelineSession.durableRows_setRow]
    exact h.durable

theorem Covered.commit {s : PipelineSession} {l : List PipelineEvent}
    (h : Covered early s.rows l) : Covered early (s.commit platform).rows l := fun n hn =>
  PipelineSession.commit_row _ _ (P := Unskipped (Known early n l)) (fun _ _ h => h) (h n hn)

theorem watched_still : Still platform (Watched early) (Watched early) where
  lost _ h := h
  raised _ h := h.emit (fair_of_minor rfl)
  reply _ _ h := ⟨h.reasoned, h.current, h.durable⟩
  flush w h := by
    refine h.session ?_ ?_
    · rw [PipelineSession.rows_flush]
      exact h.current
    · rw [PipelineSession.durableRows_flush]
      exact h.durable
  commit w h := by
    have current : Covered early (w.state.commit platform).rows w.trace := h.current.commit
    refine (h.session (s := w.state.commit platform) current ?_).emit (fair_of_minor rfl)
    rw [PipelineSession.durableRows_commit_eq]
    exact current

theorem Watched.undo (h : Watched early w) : Watched early (undo w) := by
  refine (h.session (s := w.state.rollback) ?_ ?_).emit (fair_of_minor rfl)
  · rw [PipelineSession.rows_rollback]
    exact h.durable
  · rw [PipelineSession.durableRows_rollback]
    exact h.durable

/-- The row changes, to another status than skipped or to the one it had. -/
theorem Watched.edit (h : Watched early w) {n : StageName} {f : PipelineStage → PipelineStage}
    (kept : ∀ r, (f r).status = .skipped → r.status = .skipped) :
    Watched early { w with state := w.state.setRow n f } :=
  h.setRow fun _ r _ skipped => .inl (kept r skipped)

theorem Watched.turn (h : Watched early w) {n : StageName} {f : PipelineStage → PipelineStage}
    {s : Status} (other : s ≠ .skipped) (turns : ∀ r, (f r).status = s) :
    Watched early { w with state := w.state.setRow n f } :=
  h.edit fun r skipped => absurd ((turns r).symm.trans skipped) other

theorem Watched.replies (h : Watched early w) (rest : List PipelineReply) :
    Watched early { w with replies := rest } := ⟨h.reasoned, h.current, h.durable⟩

theorem retryStatus_ne_skipped (r : PipelineStage) : retryStatus r ≠ .skipped := by
  unfold retryStatus
  split <;> decide

theorem unfetchedRow_skipped {outcome : FetchOutcome} {r : PipelineStage} :
    (unfetchedRow outcome r).status ≠ .skipped := by
  unfold unfetchedRow
  split
  · exact (by decide : Status.failed ≠ .skipped)
  all_goals exact retryStatus_ne_skipped r

theorem deliveredRow_skipped {outcome : DeliveryOutcome} {r : PipelineStage} :
    (deliveredRow outcome r).status ≠ .skipped := by
  unfold deliveredRow
  split
  · exact (by decide : Status.completed ≠ .skipped)
  · exact retryStatus_ne_skipped r
  · exact (by decide : Status.failed ≠ .skipped)
  · exact retryStatus_ne_skipped r

theorem watched_create (n : StageName) (h : Watched early w) :
    wp (createStage n) (fun _ => Watched early) (Watched early) w := by
  apply wp_createStage h
  · exact fun _ => h
  intro _ id rest
  refine (h.replies rest).session (fun m hm r hr skipped => ?_)
    fun m hm r hr skipped => ?_
  · rw [PipelineSession.rows_added] at hr
    split at hr
    · cases hr
      cases skipped
    · exact h.current m hm r hr skipped
  · rw [PipelineSession.durableRows_added] at hr
    split at hr
    · cases hr
    · exact h.durable m hm r hr skipped

theorem watched_transcript (h : Watched early w) :
    wp (attemptTranscriptStage service) (fun _ => Watched early) (Watched early) w := by
  have started (attemptedAt : Time) (rest : List PipelineReply) := (h.replies rest).edit
    (n := .transcript) (f := startAttempt attemptedAt) fun _ skipped => skipped
  have fetch (attemptedAt : Time) (rest : List PipelineReply) (outcome : Option FetchOutcome) :=
    (started attemptedAt rest).emit (e := .fetch outcome) (fair_of_minor rfl)
  apply wp_attemptTranscriptStage h h
  · exact fun _ _ _ => h.turn (s := .completed) (by decide) fun _ => rfl
  · exact fun _ _ _ => h.turn (s := .failed) (by decide) fun _ => rfl
  · exact fun _ attemptedAt rest _ _ => fetch attemptedAt rest none
  · intro _ attemptedAt outcome text rest _ _ _
    have fetched := fetch attemptedAt rest (some outcome)
    have kept := fetched.session (s := { w.state.setRow .transcript (startAttempt attemptedAt) with
      video := w.state.video.modify fun v => { v with transcript := some text } })
      fetched.current fetched.durable
    exact kept.turn (n := .transcript) (f := fetchedRow) (s := .completed) (by decide) fun _ => rfl
  · intro _ attemptedAt outcome rest _ _ _
    exact (fetch attemptedAt rest (some outcome)).edit (n := .transcript) (f := unfetchedRow outcome)
      fun _ skipped => absurd skipped unfetchedRow_skipped

/-- A row that was skipped may be skipped again. -/
theorem Watched.again (h : Watched early w) {n : StageName} {r : PipelineStage}
    {f : PipelineStage → PipelineStage} (row : w.state.rows n = some r)
    (skipped : r.status = .skipped) : Watched early { w with state := w.state.setRow n f } := by
  refine h.setRow fun _ r' row' _ => .inl ?_
  obtain rfl : r = r' := Option.some.inj (row.symm.trans row')
  exact skipped

/-- The skip of an open row is on the trace before the row is changed. -/
theorem Watched.skipped (h : Watched early w) {n : StageName} {video : Video}
    (f : PipelineStage → PipelineStage) (fair : Fair (.skip n ⟨service, w.state.rows, video⟩)) :
    Watched early { w with
      state := w.state.setRow n f
      trace := .skip n ⟨service, w.state.rows, video⟩ :: w.trace } :=
  (h.emit fair).setRow fun _ _ _ _ => .inr (.inr ⟨_, List.mem_cons_self ..⟩)

theorem watched_deliver (h : Watched early w) :
    wp (attemptTelegramStage service) (fun _ => Watched early) (Watched early) w := by
  have excused {rows : Rows} {video : Video}
      (why : service.telegramService = false ∨ service.refuses video) :
      Fair (.skip .telegram ⟨service, rows, video⟩) := by
    refine ⟨fun n m he => ?_, fun n m he => nomatch he⟩
    cases he
    exact .inr why
  have notify (attemptedAt : Time) (rest : List PipelineReply) (outcome : Option DeliveryOutcome) :=
    ((h.replies rest).edit (n := .telegram) (f := startAttempt attemptedAt) fun _ skipped =>
      skipped).emit (e := .notify outcome) (fair_of_minor rfl)
  apply wp_attemptTelegramStage h h
  · exact fun _ _ _ refused => h.skipped _ (excused (.inr refused))
  · exact fun _ _ _ absent => h.skipped _ (excused (.inl absent))
  · exact fun _ _ _ => h.turn (s := .failed) (by decide) fun _ => rfl
  · exact fun _ attemptedAt rest _ _ => notify attemptedAt rest none
  · intro _ attemptedAt outcome rest _ _
    exact (notify attemptedAt rest (some outcome)).edit (n := .telegram) (f := deliveredRow outcome)
      fun _ skipped => absurd skipped deliveredRow_skipped

theorem watched_skip (n : StageName) (video : Video)
    (just : Justified n ⟨service, w.state.rows, video⟩) (h : Watched early w) :
    wp (skipStage service n video) (fun _ => Watched early) (Watched early) w := by
  apply wp_skipStage
  · exact fun _ => h
  · exact fun r row skipped => h.again row skipped
  · intro _ _ _
    refine h.skipped _ ⟨fun n m he => ?_, fun n m he => nomatch he⟩
    cases he
    exact just

/-- Of an open row whose upstream stage is not completed: it is looked at too early
just where skipping it is not justified. -/
theorem hasty_iff {n u : StageName} {m : Moment} {r : PipelineStage} (up : upstream n = some u)
    (stopped : ¬ canProceed (m.rows u)) (row : m.rows n = some r) (isOpen : r.status.isOpen) :
    Hasty n m ↔ ¬ Justified n m := by
  constructor
  · rintro ⟨_, ⟨u', hu', waits⟩, telegram, accepted⟩ (⟨u'', r', hu'', hr', past⟩ | absent | refused)
    · obtain rfl : u' = u'' := Option.some.inj (hu'.symm.trans hu'')
      rcases waits r' hr' with open' | open' <;> rcases past with past | past <;>
        exact absurd (open'.symm.trans past) (by decide)
    · exact absurd (telegram.symm.trans absent) (by decide)
    · exact accepted refused
  · intro unjustified
    refine ⟨⟨r, row, isOpen⟩, ⟨u, up, fun r' hr' => ?_⟩, ?_, fun refused => ?_⟩
    · have incomplete : r'.status ≠ .completed := fun completed =>
        stopped (by simp [canProceed, hr', completed])
      have unfailed : r'.status ≠ .failed := fun failed =>
        unjustified (.inl ⟨u, r', up, hr', .inl failed⟩)
      have unskipped : r'.status ≠ .skipped := fun skipped =>
        unjustified (.inl ⟨u, r', up, hr', .inr skipped⟩)
      unfold Status.isOpen
      cases hs : r'.status with
      | pending => exact .inl rfl
      | pendingRetry => exact .inr rfl
      | completed => exact absurd hs incomplete
      | failed => exact absurd hs unfailed
      | skipped => exact absurd hs unskipped
    · cases telegram : m.service.telegramService with
      | true => rfl
      | false => exact absurd (.inr (.inl telegram)) unjustified
    · exact unjustified (.inr (.inr refused))

/-- The look at such a row and its skip are both right or both wrong. -/
theorem overlooked_iff {n u : StageName} {m : Moment} {r : PipelineStage} {l : List PipelineEvent}
    (up : upstream n = some u) (stopped : ¬ canProceed (m.rows u)) (row : m.rows n = some r)
    (isOpen : r.status.isOpen) (h : Reasoned l ↔ Patient l) :
    Reasoned (.skip n m :: .dependency n m :: l) ↔ Patient (.skip n m :: .dependency n m :: l) := by
  have wrong := hasty_iff up stopped row isOpen
  have looked : PipelineEvent.dependency n m ∈ PipelineEvent.skip n m :: .dependency n m :: l :=
    List.mem_cons_of_mem _ (List.mem_cons_self ..)
  by_cases hasty : Hasty n m
  · constructor
    · intro reasoned
      exact absurd (reasoned n m (List.mem_cons_self ..)) (wrong.mp hasty)
    · intro patient
      exact absurd hasty (patient n m looked)
  · have just : Justified n m := Classical.not_not.mp fun unjustified => hasty (wrong.mpr unjustified)
    have skipping : Fair (.skip n m) := by
      refine ⟨fun n m he => ?_, fun n m he => nomatch he⟩
      cases he
      exact just
    have looking : Fair (.dependency n m) := by
      refine ⟨fun n m he => (nomatch he), fun n m he => ?_⟩
      cases he
      exact hasty
    rw [reasoned_cons skipping.justified, reasoned_cons looking.justified,
      patient_cons skipping.patient, patient_cons looking.patient]
    exact h

/-- The turn of a pending row whose upstream stage is not completed. -/
theorem watched_overlook {n u : StageName} (up : upstream n = some u)
    (stopped : ¬ canProceed (w.state.rows u)) (h : Watched early w) :
    wp (skipStage service n w.state.video.current) (fun _ => Watched early) (Watched early)
      { w with trace := .dependency n ⟨service, w.state.rows, w.state.video.current⟩ :: w.trace } := by
  have settled (shut : ∀ r, w.state.rows n = some r → ¬ r.status.isOpen) :
      Watched early { w with
        trace := .dependency n ⟨service, w.state.rows, w.state.video.current⟩ :: w.trace } := by
    refine h.emit ⟨fun _ _ he => (nomatch he), fun n' m he => ?_⟩
    cases he
    rintro ⟨⟨r, hr, isOpen⟩, _⟩
    exact shut r hr isOpen
  apply wp_skipStage
  · intro past
    refine settled fun r row isOpen => ?_
    rcases isOpen with isOpen | isOpen <;> rcases past r row with past | past <;>
      exact absurd (isOpen.symm.trans past) (by decide)
  · intro r row skipped
    refine (settled fun r' row' isOpen => ?_).again row skipped
    obtain rfl : r = r' := Option.some.inj (row.symm.trans row')
    exact skipped_not_open (skipped ▸ isOpen)
  · intro r row isOpen
    have noted : Watched early { w with
        trace := .skip n ⟨service, w.state.rows, w.state.video.current⟩ ::
          .dependency n ⟨service, w.state.rows, w.state.video.current⟩ :: w.trace } :=
      ⟨overlooked_iff up stopped row isOpen h.reasoned, (h.current.cons _).cons _,
        (h.durable.cons _).cons _⟩
    exact noted.setRow fun _ _ _ _ => .inr (.inr ⟨_, List.mem_cons_self ..⟩)

/-- The fallback may change in any way. -/
theorem Watched.aside (h : Watched early w) (f : PipelineStage → PipelineStage) :
    Watched early { w with state := w.state.setRow .fallbackTelegram f } :=
  h.setRow fun other => absurd rfl other

theorem watched_send (message : String) (h : Watched early w) :
    wp (sendFallback message) (fun _ => Watched early) (Watched early) w := by
  have sent (attemptedAt : Time) (rest : List PipelineReply) (outcome : Option DeliveryOutcome) :=
    ((h.replies rest).aside (startAttempt attemptedAt)).emit
      (e := .fallback (w.state.setRow .fallbackTelegram (startAttempt attemptedAt)).rows message
        outcome) (fair_of_minor rfl)
  have told (attemptedAt : Time) (rest : List PipelineReply) (outcome : DeliveryOutcome) :=
    (sent attemptedAt rest (some outcome)).aside (toldRow outcome)
  apply wp_sendFallback h
  · exact fun attemptedAt rest => sent attemptedAt rest none
  · exact fun attemptedAt outcome rest => told attemptedAt rest outcome
  · exact fun attemptedAt outcome rest =>
      (told attemptedAt rest outcome).edit (n := .summary) fun _ skipped => skipped

theorem watched_single (h : Watched early w) :
    wp (attemptSingleFallback service) (fun _ => Watched early) (Watched early) w := by
  apply wp_attemptSingleFallback h
  · exact fun _ _ _ => h.aside _
  · exact fun _ _ _ _ => h.aside _
  · exact fun _ _ _ _ _ => watched_send _ h

end watched

section summary

variable {platform : Platform} {service : PipelineService} {early : StageName → Prop}
  {w : PipelineWorld} {K : Prop}

theorem settledRow_skipped {outcome : SummaryFailureOutcome} {attemptedAt : Time}
    {taskId : Option String} {confirmed : Bool} {r : PipelineStage} :
    (settledRow outcome attemptedAt taskId confirmed r).status ≠ .skipped := by
  have applied : (applyOutcomeRow outcome attemptedAt taskId confirmed r).status ≠ .skipped := by
    unfold applyOutcomeRow
    cases outcome.disposition <;> exact (nomatch ·)
  unfold settledRow
  split <;> exact applied

theorem localFailureRow_skipped {attemptedAt : Time} {code : String} {r : PipelineStage} :
    (localFailureRow attemptedAt code r).status ≠ .skipped := by
  unfold localFailureRow
  dsimp only
  split <;> nofun

/-- No attempt leaves a summary skipped that was not. -/
theorem unskipped_course (K : Prop) : Course platform (fun _ => False) (fun _ _ => True)
    (fun _ _ => True) (fun _ _ => True) (fun r _ => Unskipped K r) (fun r _ => Unskipped K r) := by
  have underway : Underway (fun _ => False) (fun r _ => Unskipped K r) fun _ _ => True := by
    refine ⟨fun r _ live _ skipped => ?_, sturdy_free fun _ _ _ _ => trivial⟩
    exact absurd (skipped ▸ live.2) skipped_not_open
  exact {
    earlier := fun _ _ h => h
    resting := underway
    beginning := underway
    posting := underway
    past_ever := fun _ _ h => h
    past_sturdy := sturdy_free fun _ _ _ h => h
    raised := fun _ _ _ h => h
    start := fun _ _ _ _ _ => trivial
    prepare := fun _ _ _ _ => trivial
    accept := fun _ _ _ _ _ => trivial
    correlate_begun := fun _ _ _ _ _ => trivial
    correlate_posted := fun _ _ _ _ _ => trivial
    post := fun _ _ _ _ _ => trivial
    sleep := fun _ _ _ _ => trivial
    get := fun _ _ _ _ _ _ _ _ => trivial
    settle_begun := fun _ _ _ _ _ _ _ _ _ skipped => absurd skipped settledRow_skipped
    settle_posted := fun _ _ _ _ _ _ _ _ _ skipped => absurd skipped settledRow_skipped
    finish := fun _ _ _ skipped => nomatch skipped
    finishPlan := fun _ _ _ _ _ _ skipped => nomatch skipped
    piece := fun _ _ _ _ _ _ _ _ _ => trivial
    refuse := fun _ _ _ _ _ _ skipped => absurd skipped localFailureRow_skipped
    stop := underway.ever
    build := fun _ _ _ _ _ _ _ _ => trivial
    call := fun _ _ _ _ _ => trivial
    directFail := by
      intro code now r l live _ skipped
      unfold directFailureRow at skipped
      dsimp only at skipped
      split at skipped <;> cases skipped
    directDone := fun _ _ _ skipped => nomatch skipped
    directEmpty := by
      intro r l live _ skipped
      unfold directEmptyRow at skipped
      dsimp only at skipped
      split at skipped <;> cases skipped
    present := fun _ _ _ _ skipped => nomatch skipped
    fail := fun _ _ _ _ _ _ _ skipped => nomatch skipped }

theorem unskipped_reconciliation (K : Prop) : ReconcileCourse platform (fun _ => False)
    (fun r _ => Unskipped K r) (fun r _ => Unskipped K r) (fun r _ => Unskipped K r) where
  earlier _ _ h := h
  distrust _ _ _ h := h.elim
  past_ever _ _ h := h
  past_sturdy := sturdy_free fun _ _ _ h => h
  stays _ _ h := h
  get _ _ _ _ _ _ h := h
  invalid _ _ _ skipped := nomatch skipped
  still _ _ _ _ h := h
  fails _ _ _ _ skipped := nomatch skipped
  postpone _ _ _ h := h
  part _ _ _ _ _ _ _ _ _ _ skipped := nomatch skipped
  final _ _ _ _ _ _ skipped := nomatch skipped

/-- What the summary's work leaves unskipped is taken up. -/
theorem Watched.takeUp (h : Watched early w) {stage : StageInstance} {inner : StageWorld}
    (row : (w.state.slot .summary).row = some stage)
    (current : Unskipped (Known early .summary w.trace) inner.state.stage.current)
    (reached : Reached (Sometime fun r _ => Unskipped (Known early .summary w.trace) r)
      (summarySession stage w.state) inner.state) : Watched early (takeUp platform inner w) := by
  have saved : Covered early (w.state.commit platform).rows w.trace := h.current.commit
  have taken : Watched early { w with state := w.state.absorb platform inner.state } := by
    refine h.session (fun n hn r hr => ?_) ?_
    · by_cases summary : n = .summary
      · subst summary
        cases hr
        exact current
      · rcases @PipelineSession.rows_absorb platform _ inner.state n summary with same | same
        · exact h.current n hn r (same ▸ hr)
        · exact saved n hn r (same ▸ hr)
    · rcases @PipelineSession.durableRows_absorb platform _ _ _ _ row reached with
        same | ⟨_, d, ⟨_, kept⟩, rows⟩
      · rw [same]
        exact h.durable
      · intro n hn r hr
        rw [rows n] at hr
        split at hr
        · next summary =>
          cases hr
          exact summary ▸ kept
        · exact saved n hn r hr
  have events : ∀ e ∈ inner.trace.map .stage ++ commits inner.state.reach, Fair e := by
    intro e he
    rcases List.mem_append.mp he with he | he
    · obtain ⟨_, _, rfl⟩ := List.mem_map.mp he
      exact fair_of_minor rfl
    · cases hr : inner.state.reach <;> simp only [hr, commits, List.not_mem_nil,
        List.mem_singleton] at he
      subst he
      exact fair_of_minor rfl
  have seen := taken.emits events
  unfold Pipeline.takeUp
  rw [← List.append_assoc]
  exact seen

theorem watched_attempt (h : Watched early w) :
    wp (attemptSummary platform service) (fun _ => Watched early) (Watched early) w := by
  unfold attemptSummary
  apply wp_onSummary h h
  intro stage answers rest row
  rw [wp_bind]
  have h := h.replies rest
  have before : Unskipped (Known early .summary w.trace) stage.current :=
    h.current .summary nofun stage.current (by simp [PipelineSession.rows, Slot.current, row])
  have idle {v : StageWorld} (state : v.state = summarySession stage w.state) (trace : v.trace = []) :
      Watched early (takeUp platform v { w with replies := rest }) := by
    apply h.takeUp row
    · rw [state]
      exact before
    · rw [state]
      exact reached_start rfl
  refine wp_mono ((unskipped_course (Known early .summary w.trace)).wp_attemptSummaryStage
    (fun _ => trivial) False.elim (reached_start rfl) (fun v => idle) fun v _ adrift => ?_)
    (fun _ v out => ?_) fun _ hv => hv
  · exact h.takeUp row adrift.row adrift.reached
  · rcases out with ⟨state, trace⟩ | ⟨_, ended⟩
    · exact idle state trace
    · exact h.takeUp row ended.row ended.reached

theorem watched_reconcile (broker : BrokerService) (h : Watched early w) :
    wp (onSummary platform (reconcileStage platform broker)) (fun _ => Watched early)
      (Watched early) w := by
  apply wp_onSummary h h
  intro stage answers rest row
  have h := h.replies rest
  have before : Unskipped (Known early .summary w.trace) stage.current :=
    h.current .summary nofun stage.current (by simp [PipelineSession.rows, Slot.current, row])
  apply (unskipped_reconciliation (Known early .summary w.trace)).wp_reconcileStage
  · exact fun _ _ _ _ => before
  · exact before
  · exact False.elim
  · exact reached_start rfl
  · intro v state kept
    apply h.takeUp row
    · rw [state]
      exact kept
    · rw [state]
      exact reached_start rfl
  · exact fun v ended => h.takeUp row ended.row ended.reached

theorem watched_request (audit : String) (h : Watched early w) :
    wp (onSummary platform (requestReconciliation platform audit)) (fun _ => Watched early)
      (Watched early) w := by
  apply wp_onSummary h h
  intro stage answers rest row
  have h := h.replies rest
  have before : Unskipped (Known early .summary w.trace) stage.current :=
    h.current .summary nofun stage.current (by simp [PipelineSession.rows, Slot.current, row])
  apply wp_requestReconciliation
    fun r (_ : List Event) (kept : Unskipped (Known early .summary w.trace) r) => kept
  · exact sturdy_free fun _ _ _ kept => kept
  · exact fun _ _ _ kept _ _ => kept
  · exact before
  · exact False.elim
  · exact reached_start rfl
  · exact fun v adrift => h.takeUp row adrift.row adrift.reached
  · exact fun v ended => h.takeUp row ended.row ended.reached

/-- A look at a stage whose upstream stage is completed. -/
theorem fair_note {n u : StageName} {m : Moment} (up : upstream n = some u)
    (proceeds : canProceed (m.rows u)) : Fair (.dependency n m) := by
  refine ⟨fun n m he => (nomatch he), fun n m he => ?_⟩
  cases he
  rintro ⟨_, ⟨u', hu', waits⟩, _⟩
  obtain rfl : u = u' := Option.some.inj (up.symm.trans hu')
  obtain ⟨r, hr, completed⟩ := (Option.any_eq_true _ _).mp proceeds
  exact completed_not_open (of_decide_eq_true completed ▸ waits r hr)

theorem watched_steps (platform : Platform) (service : PipelineService) (early : StageName → Prop) :
    FreeSteps platform service (Watched early) (Watched early) where
  still := watched_still
  create _ n := watched_create n
  transcript _ := watched_transcript
  attempt _ := watched_attempt
  deliver _ := watched_deliver
  skip _ n video just := watched_skip n video just
  overlook _ _ _ := watched_overlook
  note _ _ _ up proceeds h := h.emit (fair_note up proceeds)
  explain _ _ h := h.edit fun _ skipped => skipped
  single _ _ := watched_single
  told _ := watched_single
  reconcile _ broker := watched_reconcile broker
  request _ audit := watched_request audit
  undone _ := Watched.undo
  video _ _ h := h.session h.current h.durable

end summary

/-- Every skip on the trace has its reason, and no summary or telegram stage is
skipped without one, in memory or durably. -/
def SkipsJustified (rows : Rows) (w : PipelineWorld) : Prop :=
  (∀ n m, .skip n m ∈ w.trace → Justified n m)
    ∧ ∀ n, n = .summary ∨ n = .telegram → ∀ r,
      w.state.rows n = some r ∨ w.state.durableRows n = some r → r.status = .skipped →
        (∃ r', rows n = some r' ∧ r'.status = .skipped) ∨ ∃ m, .skip n m ∈ w.trace

/-- Skips are justified in just the runs in which no turn of a pending row comes
upon an open stage whose upstream stage is not over. -/
theorem skips_justified_iff (platform : Platform) (userId : Int) (rows : Rows) (video : Video)
    (ops : List PipelineOp) :
    SkipsJustified rows (runPipeline platform ops (openVideo userId rows video))
      ↔ ∀ n m, .dependency n m ∈ (runPipeline platform ops (openVideo userId rows video)).trace →
        ¬ Hasty n m := by
  have start : Watched (fun n => ∃ r, rows n = some r ∧ r.status = .skipped)
      (openVideo userId rows video) := by
    obtain ⟨current, _, durable⟩ := openVideo_rows userId rows video
    refine ⟨⟨fun _ _ _ he => absurd he List.not_mem_nil, fun _ _ _ he => absurd he List.not_mem_nil⟩,
      ?_, ?_⟩
    · rw [current]
      exact fun n _ r hr skipped => .inl ⟨r, hr, skipped⟩
    · rw [durable]
      exact fun n _ r hr skipped => .inl ⟨r, hr, skipped⟩
  have watched : Watched _ (runPipeline platform ops (openVideo userId rows video)) :=
    run_keeps (fun op _ => (watched_steps platform op.service _).calls) start
  constructor
  · exact fun justified => watched.reasoned.mp justified.1
  · intro patient
    refine ⟨watched.reasoned.mpr patient, fun n named r hr skipped => ?_⟩
    have other : n ≠ .fallbackTelegram := by
      rcases named with rfl | rfl <;> decide
    rcases hr with hr | hr
    · exact watched.current n other r hr skipped
    · exact watched.durable n other r hr skipped

/-- A skip of a summary whose transcript still has work to do. -/
def PipelineEvent.rash : PipelineEvent → Bool
  | .skip .summary m =>
    (m.rows .transcript).any (fun r => decide r.status.isOpen) && m.service.telegramService
      && !decide (m.service.refuses m.video)
  | _ => false

theorem not_justified_of_rash {n : StageName} {m : Moment}
    (h : PipelineEvent.rash (.skip n m) = true) : ¬ Justified n m := by
  unfold PipelineEvent.rash at h
  split at h
  · next m' same =>
    cases same
    simp only [Bool.and_eq_true, Bool.not_eq_true', decide_eq_false_iff_not] at h
    obtain ⟨⟨waits, telegram⟩, accepted⟩ := h
    obtain ⟨r, hr, isOpen⟩ := (Option.any_eq_true _ _).mp waits
    rintro (⟨u, r', up, hr', past⟩ | absent | refused)
    · cases up
      obtain rfl : r = r' := Option.some.inj (hr.symm.trans hr')
      rcases of_decide_eq_true isOpen with isOpen | isOpen <;> rcases past with past | past <;>
        exact absurd (isOpen.symm.trans past) (by decide)
    · exact absurd (telegram.symm.trans absent) (by decide)
    · exact accepted refused
  · cases h

/-- The transcript's provider is down, twice. -/
def Sample.downOps : List PipelineOp :=
  [⟨Sample.service .direct, .processNew, [.inserted 1, .inserted 2, .inserted 3, .now 0,
      .fetched (.result none "retryable")]⟩,
    ⟨Sample.service .direct, .commit, [.committed]⟩,
    ⟨Sample.service .direct, .processPending none, [.now 1, .page 0 false, Sample.idle, Sample.idle,
      .now 1, .fetched (.result none "retryable"), Sample.idle, Sample.idle, Sample.idle,
      Sample.idle, Sample.idle]⟩]

theorem skips_unjustified : ¬ SkipsJustified (fun _ => none)
    (runPipeline (YTPipe.Sample.platform .assigned) Sample.downOps Sample.fresh) := by
  rintro ⟨justified, _⟩
  have rash : (runPipeline (YTPipe.Sample.platform .assigned) Sample.downOps
      Sample.fresh).trace.any PipelineEvent.rash = true := by decide +kernel
  obtain ⟨e, he, skips⟩ := List.any_eq_true.mp rash
  cases e with
  | skip n m => exact not_justified_of_rash skips (justified n m he)
  | _ => cases skips

end YTPipe.Pipeline
