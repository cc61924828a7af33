import YTPipe.Pipeline.Runs

/-!
# What a turn may come to

One rule for each turn of the service on a stage: what has to hold where the turn
leaves the row alone, where it changes it, and where its request is answered or is
not. What the orchestration is proved to keep rests on these.
-/

namespace YTPipe.Pipeline

open Broker Proc

section rules

variable {platform : Platform} {lost : PipelineWorld → Prop} {w : PipelineWorld}

@[simp] theorem wp_rows {post : Rows → PipelineWorld → Prop} :
    wp rows post lost w ↔ post w.state.rows w := Iff.rfl

@[simp] theorem wp_videoRow {post : Video → PipelineWorld → Prop} :
    wp videoRow post lost w ↔ post w.state.video.current w := Iff.rfl

variable {post : Unit → PipelineWorld → Prop}

@[simp] theorem wp_setRow (n : StageName) (f : PipelineStage → PipelineStage) :
    wp (setRow n f) post lost w ↔ post () { w with state := w.state.setRow n f } := Iff.rfl

@[simp] theorem wp_setVideo (f : Video → Video) : wp (setVideo f) post lost w ↔
    post () { w with state := { w.state with video := w.state.video.modify f } } := Iff.rfl

@[simp] theorem wp_flush : wp (flush platform) post lost w ↔
    post () { w with state := w.state.flush platform } := Iff.rfl

@[simp] theorem wp_raise : wp raise post lost w ↔
    lost { w with trace := .raised :: w.trace } := Iff.rfl

theorem wp_utcNow {post : Time → PipelineWorld → Prop} (stop : lost w)
    (go : ∀ t rest, post t { w with replies := rest }) : wp utcNow post lost w :=
  wp_ask _ stop go

/-- The session after `reach`, with what it leaves on the trace. -/
def gone (platform : Platform) (reach : Reach) (w : PipelineWorld) : PipelineWorld :=
  { w with state := w.state.reached platform reach, trace := commits reach ++ w.trace }

theorem wp_goTo (reach : Reach) :
    wp (goTo platform reach) post lost w ↔ post () (gone platform reach w) := by
  cases reach <;> exact Iff.rfl

theorem wp_others_reply (stop : lost w)
    (astray : ∀ reach rest, lost { gone platform reach { w with replies := rest } with
      trace := .raised :: (gone platform reach { w with replies := rest }).trace })
    (go : ∀ reach rest, w.replies = .others reach false :: rest →
      post () (gone platform reach { w with replies := rest })) :
    wp (others platform) post lost w := by
  unfold others
  rw [wp_bind]
  apply wp_ask_reply _ stop
  rintro ⟨reach, raised⟩ r rest hr hv
  simp only [wp_bind]
  rw [wp_goTo, wp_when]
  split
  · exact astray reach rest
  · next calm =>
    apply go reach rest
    cases r with
    | others reach' raised' =>
      obtain ⟨rfl, rfl⟩ := Prod.mk.inj (Option.some.inj hv)
      rw [hr, Bool.eq_false_iff.mpr calm]
    | _ => cases hv

theorem wp_others (stop : lost w) (go : ∀ reach rest,
    (lost { gone platform reach { w with replies := rest } with
      trace := .raised :: (gone platform reach { w with replies := rest }).trace })
      ∧ post () (gone platform reach { w with replies := rest })) :
    wp (others platform) post lost w :=
  wp_others_reply stop (fun reach rest => (go reach rest).1) fun reach rest _ => (go reach rest).2

end rules

section turns

variable {service : PipelineService} {lost : PipelineWorld → Prop} {w : PipelineWorld}
  {post : Unit → PipelineWorld → Prop} {n : StageName} {video : Video}

/-- The row after a change of its own. -/
theorem own_row {s : PipelineSession} {n : StageName} {r : PipelineStage}
    (row : s.rows n = some r) (f : PipelineStage → PipelineStage) :
    (s.setRow n f).rows n = some (f r) := by
  rw [PipelineSession.rows_setRow_self, row, Option.map_some]

theorem wp_createStage (stop : lost w) (there : (w.state.slot n).row.isSome → post () w)
    (added : (w.state.slot n).row = none → ∀ id rest, post () { w with
      state := w.state.setSlot n
        (.added (PipelineStage.new id w.state.video.current.id w.state.userId n))
      replies := rest }) :
    wp (createStage n) post lost w := by
  unfold createStage
  rw [wp_bind, wp_read]
  split
  · exact there ‹_›
  next absent =>
  rw [wp_bind]
  apply wp_ask _ stop
  intro id rest
  exact added (Option.not_isSome_iff_eq_none.mp absent) id rest

/-- An attempt is counted before its request is made. -/
theorem wp_attempting {α : Type} {view : PipelineReply → Option α}
    {event : PipelineSession → Option α → PipelineEvent} {next : Time → α → PipelineProc Unit}
    (stop : lost w)
    (unanswered : ∀ attemptedAt rest, lost { w with
      state := w.state.setRow n (startAttempt attemptedAt)
      replies := rest
      trace := event (w.state.setRow n (startAttempt attemptedAt)) none :: w.trace })
    (answered : ∀ attemptedAt a rest, wp (next attemptedAt a) post lost { w with
      state := w.state.setRow n (startAttempt attemptedAt)
      replies := rest
      trace := event (w.state.setRow n (startAttempt attemptedAt)) (some a) :: w.trace }) :
    wp (do
      let attemptedAt ← utcNow
      setRow n (startAttempt attemptedAt)
      let a ← Proc.exchange view event
      next attemptedAt a) post lost w := by
  rw [wp_bind]
  apply wp_utcNow stop
  intro attemptedAt rest
  rw [wp_bind, wp_setRow, wp_bind]
  apply wp_exchange
  · exact unanswered attemptedAt rest
  intro a rest
  exact answered attemptedAt a rest

/-- The rule holds of an open row; any other is left alone. -/
theorem wp_attemptTranscriptStage (stop : lost w) (idle : post () w)
    (stored : ∀ r, w.state.rows .transcript = some r → r.status.isOpen →
      post () { w with
        state := w.state.setRow .transcript fun r => { r with status := .completed } })
    (unserved : ∀ r, w.state.rows .transcript = some r → r.status.isOpen →
      post () { w with
        state := w.state.setRow .transcript fun r => { r with
          status := .failed, lastError := some "Transcript service not available." } })
    (unanswered : ∀ r attemptedAt rest, w.state.rows .transcript = some r → r.status.isOpen →
      lost { w with
        state := w.state.setRow .transcript (startAttempt attemptedAt)
        replies := rest
        trace := .fetch none :: w.trace })
    (fetched : ∀ r attemptedAt outcome text rest, w.state.rows .transcript = some r →
      r.status.isOpen → FetchOutcome.found outcome = some text →
      post () { w with
        state := { w.state.setRow .transcript (startAttempt attemptedAt) with
          video := w.state.video.modify fun v => { v with transcript := some text }
          }.setRow .transcript fetchedRow
        replies := rest
        trace := .fetch (some outcome) :: w.trace })
    (unfetched : ∀ r attemptedAt outcome rest, w.state.rows .transcript = some r →
      r.status.isOpen → FetchOutcome.found outcome = none →
      post () { w with
        state := (w.state.setRow .transcript (startAttempt attemptedAt)).setRow .transcript
          (unfetchedRow outcome)
        replies := rest
        trace := .fetch (some outcome) :: w.trace }) :
    wp (attemptTranscriptStage service) post lost w := by
  unfold attemptTranscriptStage
  rw [wp_bind, wp_rows]
  split
  · exact idle
  next r row =>
  rw [wp_bind, wp_videoRow]
  split
  · exact idle
  next ready =>
  have isOpen : r.status.isOpen := Decidable.not_not.mp ready
  split
  · exact stored r row isOpen
  split
  · exact unserved r row isOpen
  apply wp_attempting stop
  · intro attemptedAt rest
    exact unanswered r attemptedAt rest row isOpen
  intro attemptedAt outcome rest
  split
  · exact fetched r attemptedAt outcome _ rest row isOpen ‹_›
  · exact unfetched r attemptedAt outcome rest row isOpen ‹_›

/-- A change of a row that leaves it skipped, noted unless it was. -/
theorem wp_noteSkip {r : PipelineStage} {f : PipelineStage → PipelineStage}
    (again : r.status = .skipped → post () { w with state := w.state.setRow n f })
    (noted : r.status ≠ .skipped → post () { w with
      state := w.state.setRow n f
      trace := .skip n ⟨service, w.state.rows, video⟩ :: w.trace }) :
    wp (do
      noteSkip service n video r
      setRow n f) post lost w := by
  rw [wp_bind, noteSkip, wp_when]
  split
  · rw [wp_emit, wp_setRow]
    exact noted ‹_›
  · rw [wp_setRow]
    exact again (Decidable.not_not.mp ‹_›)

/-- A completed or failed row is left alone, a skipped one keeps its status, an open one
is skipped. -/
theorem wp_skipStage
    (past : (∀ r, w.state.rows n = some r → r.status = .completed ∨ r.status = .failed) →
      post () w)
    (again : ∀ r, w.state.rows n = some r → r.status = .skipped →
      post () { w with state := w.state.setRow n skipRow })
    (skipped : ∀ r, w.state.rows n = some r → r.status.isOpen →
      post () { w with
        state := w.state.setRow n skipRow
        trace := .skip n ⟨service, w.state.rows, video⟩ :: w.trace }) :
    wp (skipStage service n video) post lost w := by
  unfold skipStage
  rw [wp_bind, wp_rows]
  split
  · next missing => exact past fun r row => absurd (row.symm.trans missing) (Option.some_ne_none r)
  next r row =>
  split
  · next ended =>
    refine past fun r' row' => ?_
    obtain rfl : r = r' := Option.some.inj (row.symm.trans row')
    exact ended
  next going =>
  obtain ⟨incomplete, unfailed⟩ := not_or.mp going
  apply wp_noteSkip
  · exact again r row
  · intro unskipped
    apply skipped r row
    unfold Status.isOpen
    cases hs : r.status with
    | pending => exact .inl rfl
    | pendingRetry => exact .inr rfl
    | completed => exact absurd hs incomplete
    | failed => exact absurd hs unfailed
    | skipped => exact absurd hs unskipped

/-- The rule holds of an open row; any other is left alone. -/
theorem wp_attemptTelegramStage (stop : lost w) (idle : post () w)
    (refused : ∀ r, w.state.rows .telegram = some r → r.status.isOpen →
      service.refuses w.state.video.current → post () { w with
        state := w.state.setRow .telegram fun r => { r with
          status := .skipped, lastError := some shortProcessingDisabledError }
        trace := .skip .telegram ⟨service, w.state.rows, w.state.video.current⟩ :: w.trace })
    (unserved : ∀ r, w.state.rows .telegram = some r → r.status.isOpen →
      service.telegramService = false → post () { w with
        state := w.state.setRow .telegram fun r => { r with status := .skipped }
        trace := .skip .telegram ⟨service, w.state.rows, w.state.video.current⟩ :: w.trace })
    (bare : ∀ r, w.state.rows .telegram = some r → r.status.isOpen → post () { w with
      state := w.state.setRow .telegram fun r => { r with
        status := .failed, lastError := some "No summary available for Telegram delivery." } })
    (unanswered : ∀ r attemptedAt rest, w.state.rows .telegram = some r → r.status.isOpen →
      lost { w with
        state := w.state.setRow .telegram (startAttempt attemptedAt)
        replies := rest
        trace := .notify none :: w.trace })
    (answered : ∀ r attemptedAt outcome rest, w.state.rows .telegram = some r →
      r.status.isOpen → post () { w with
        state := (w.state.setRow .telegram (startAttempt attemptedAt)).setRow .telegram
          (deliveredRow outcome)
        replies := rest
        trace := .notify (some outcome) :: w.trace }) :
    wp (attemptTelegramStage service) post lost w := by
  unfold attemptTelegramStage
  rw [wp_bind, wp_rows]
  split
  · exact idle
  next r row =>
  rw [wp_bind, wp_videoRow]
  split
  · exact idle
  next ready =>
  have isOpen : r.status.isOpen := Decidable.not_not.mp ready
  have unskipped (skipped : r.status = .skipped) : False := skipped_not_open (skipped ▸ isOpen)
  split
  · apply wp_noteSkip
    · exact fun skipped => (unskipped skipped).elim
    · exact fun _ => refused r row isOpen ‹_›
  split
  · next absent =>
    apply wp_noteSkip
    · exact fun skipped => (unskipped skipped).elim
    · exact fun _ => unserved r row isOpen (Bool.eq_false_iff.mpr absent)
  split
  · exact bare r row isOpen
  apply wp_attempting stop
  · intro attemptedAt rest
    exact unanswered r attemptedAt rest row isOpen
  intro attemptedAt outcome rest
  exact answered r attemptedAt outcome rest row isOpen

/-- The message goes out, and what it told of a quarantine is noted on the summary. -/
theorem wp_sendFallback {message : String} (stop : lost w)
    (unanswered : ∀ attemptedAt rest, lost { w with
      state := w.state.setRow .fallbackTelegram (startAttempt attemptedAt)
      replies := rest
      trace := .fallback (w.state.setRow .fallbackTelegram (startAttempt attemptedAt)).rows message
        none :: w.trace })
    (told : ∀ attemptedAt outcome rest, post () { w with
      state := (w.state.setRow .fallbackTelegram (startAttempt attemptedAt)).setRow
        .fallbackTelegram (toldRow outcome)
      replies := rest
      trace := .fallback (w.state.setRow .fallbackTelegram (startAttempt attemptedAt)).rows message
        (some outcome) :: w.trace })
    (alerted : ∀ attemptedAt outcome rest, post () { w with
      state := ((w.state.setRow .fallbackTelegram (startAttempt attemptedAt)).setRow
        .fallbackTelegram (toldRow outcome)).setRow .summary fun r => { r with
          reconciliationAlertedAt := some attemptedAt }
      replies := rest
      trace := .fallback (w.state.setRow .fallbackTelegram (startAttempt attemptedAt)).rows message
        (some outcome) :: w.trace }) :
    wp (sendFallback message) post lost w := by
  unfold sendFallback
  apply wp_attempting stop
  · exact unanswered
  intro attemptedAt outcome rest
  rw [wp_bind, wp_setRow, noteAlert, wp_bind, wp_rows, wp_when]
  split
  · exact alerted attemptedAt outcome rest
  · exact told attemptedAt outcome rest

/-- A Short that is refused ends the fallback wherever it stands; the rest of the rule
holds of an open row. -/
theorem wp_attemptSingleFallback (idle : post () w)
    (refused : ∀ r, w.state.rows .fallbackTelegram = some r →
      service.refuses w.state.video.current → post () { w with
        state := w.state.setRow .fallbackTelegram fun r => { r with
          status := .skipped, lastError := some shortProcessingDisabledError } })
    (silent : ∀ r, w.state.rows .fallbackTelegram = some r → r.status.isOpen →
      buildFallbackReason w.state.rows (videoUrl w.state.video.current) = none →
      post () { w with
        state := w.state.setRow .fallbackTelegram fun r => { r with status := .completed } })
    (send : ∀ r reason, w.state.rows .fallbackTelegram = some r → r.status.isOpen →
      buildFallbackReason w.state.rows (videoUrl w.state.video.current) = some reason →
      wp (sendFallback (fallbackMessage w.state.rows w.state.video.current reason)) post lost w) :
    wp (attemptSingleFallback service) post lost w := by
  unfold attemptSingleFallback
  rw [wp_bind, wp_rows]
  split
  · exact idle
  next r row =>
  rw [wp_bind, wp_videoRow]
  split
  · exact refused r row ‹_›
  split
  · exact idle
  next ready =>
  have isOpen : r.status.isOpen := Decidable.not_not.mp (not_or.mp ready).2
  split
  · exact silent r row isOpen ‹_›
  · exact send r _ row isOpen ‹_›

end turns

end YTPipe.Pipeline
