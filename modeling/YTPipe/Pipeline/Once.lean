import YTPipe.Pipeline.Turns

/-!
# Notices are sent at most once
-/

namespace YTPipe.Pipeline

open Broker Proc

/-- A `send_video_notification` that returned. -/
def PipelineEvent.notified : PipelineEvent → Bool
  | .notify (some .sent) => true
  | _ => false

/-- A fallback `send_message` that returned. -/
def PipelineEvent.told : PipelineEvent → Bool
  | .fallback _ _ (some .sent) => true
  | _ => false

def PipelineEvent.sent (e : PipelineEvent) : Bool := e.notified || e.told

/-- The part of a trace since its last commit. -/
def unsaved : List PipelineEvent → List PipelineEvent
  | [] => []
  | .committed :: _ => []
  | e :: l => e :: unsaved l

/-- The part of a trace up to its last commit. -/
def saved : List PipelineEvent → List PipelineEvent
  | [] => []
  | .committed :: l => .committed :: l
  | _ :: l => saved l

/-- No crash and no rollback between a send that returned and the next commit. -/
def Unbroken : List PipelineEvent → Prop
  | [] => True
  | .rolledBack :: l => (∀ e ∈ unsaved l, e.sent = false) ∧ Unbroken l
  | _ :: l => Unbroken l

instance decidableUnbroken : (l : List PipelineEvent) → Decidable (Unbroken l)
  | [] => .isTrue trivial
  | .rolledBack :: l => haveI := decidableUnbroken l; inferInstanceAs (Decidable (_ ∧ _))
  | .stage _ :: l => decidableUnbroken l
  | .fetch _ :: l => decidableUnbroken l
  | .notify _ :: l => decidableUnbroken l
  | .fallback _ _ _ :: l => decidableUnbroken l
  | .skip _ _ :: l => decidableUnbroken l
  | .dependency _ _ :: l => decidableUnbroken l
  | .committed :: l => decidableUnbroken l
  | .raised :: l => decidableUnbroken l

theorem unsaved_append_saved (l : List PipelineEvent) : unsaved l ++ saved l = l := by
  induction l with
  | nil => rfl
  | cons e l ih =>
    cases e with
    | committed => rfl
    | _ => exact congrArg _ ih

/-- A stage nothing is done for any more. -/
def Closed (r : Option PipelineStage) : Prop := ∃ r', r = some r' ∧ ¬ r'.status.isOpen

/-- `it` happened at most once, for the stage `n`: after it the stage is closed,
and durably so after the commit that follows. -/
structure Once (it : PipelineEvent → Bool) (n : StageName) (s : PipelineSession)
    (l : List PipelineEvent) : Prop where
  once : l.countP it ≤ 1
  closed : 0 < l.countP it → Closed (s.rows n)
  saved : 0 < (saved l).countP it → Closed (s.durableRows n)

/-- Only the summary is ever quarantined. -/
def Unquarantined (rows : Rows) : Prop :=
  ∀ n ∈ workStages, n ≠ .summary → ∀ r, rows n = some r → r.quarantinedAt = none

structure Discreet (s : PipelineSession) (l : List PipelineEvent) : Prop where
  notified : Once PipelineEvent.notified .telegram s l
  told : Once PipelineEvent.told .fallbackTelegram s l
  current : Unquarantined s.rows
  durable : Unquarantined s.durableRows
  troubled : ∀ rows message outcome, .fallback rows message outcome ∈ l → Troubled rows

/-- Events that send nothing, save nothing and take nothing back. -/
def PipelineEvent.plain : PipelineEvent → Prop
  | .fallback _ _ _ => False
  | .notify _ => False
  | .committed => False
  | .rolledBack => False
  | _ => True

section once

variable {it : PipelineEvent → Bool} {n : StageName} {s : PipelineSession}
  {l : List PipelineEvent} {platform : Platform}

theorem saved_countP_le (l : List PipelineEvent) : (saved l).countP it ≤ l.countP it := by
  conv => rhs; rw [← unsaved_append_saved l, List.countP_append]
  exact Nat.le_add_left ..

theorem saved_cons {e : PipelineEvent} (h : e ≠ .committed) (l : List PipelineEvent) :
    saved (e :: l) = saved l := by
  cases e with
  | committed => exact absurd rfl h
  | _ => rfl

theorem Once.emit (h : Once it n s l) {e : PipelineEvent} (quiet : it e = false)
    (plain : e ≠ .committed) : Once it n s (e :: l) where
  once := by simpa [quiet] using h.once
  closed := by simpa [quiet] using h.closed
  saved := by
    rw [saved_cons plain]
    exact h.saved

theorem Once.same {s' : PipelineSession} (h : Once it n s l) (rows : s'.rows n = s.rows n)
    (durable : s'.durableRows n = s.durableRows n) : Once it n s' l :=
  ⟨h.once, by rw [rows]; exact h.closed, by rw [durable]; exact h.saved⟩

/-- Other rows may be worked on, and this one as long as it stays closed. -/
theorem Once.setRow (h : Once it n s l) {m : StageName} {f : PipelineStage → PipelineStage}
    (keeps : m = n → ∀ r, s.rows n = some r → ¬ r.status.isOpen → ¬ (f r).status.isOpen) :
    Once it n (s.setRow m f) l where
  once := h.once
  closed happened := by
    obtain ⟨r, hr, shut⟩ := h.closed happened
    by_cases same : n = m
    · refine ⟨f r, ?_, keeps same.symm r hr shut⟩
      simp only [PipelineSession.rows_setRow, if_pos same, hr, Option.map_some]
    · exact ⟨r, by simp only [PipelineSession.rows_setRow, if_neg same, hr], shut⟩
  saved happened := by
    simp only [PipelineSession.durableRows_setRow]
    exact h.saved happened

theorem Once.flush (h : Once it n s l) : Once it n (s.flush platform) l :=
  ⟨h.once, by simpa using h.closed, by simpa using h.saved⟩

theorem Once.commit (h : Once it n s l) (quiet : it .committed = false) :
    Once it n (s.commit platform) (.committed :: l) := by
  have closed : 0 < l.countP it → Closed ((s.commit platform).rows n) := fun happened =>
    PipelineSession.commit_row_some _ _ (fun _ _ h => h) (h.closed happened)
  refine ⟨by simpa [quiet] using h.once, by simpa [quiet] using closed, ?_⟩
  simp only [PipelineSession.durableRows_commit_eq]
  simpa [Pipeline.saved, quiet] using closed

/-- The row a call creates was missing, so nothing happened for it. -/
theorem Once.add (h : Once it n s l) {m : StageName} {r : PipelineStage}
    (missing : s.rows m = none) : Once it n (s.setSlot m (.added r)) l := by
  have other : 0 < l.countP it → n ≠ m := by
    rintro happened rfl
    obtain ⟨r', hr, _⟩ := h.closed happened
    exact absurd (missing.symm.trans hr) (by simp)
  refine ⟨h.once, fun happened => ?_, fun happened => ?_⟩
  · simp only [PipelineSession.rows_added, if_neg (other happened)]
    exact h.closed happened
  · have earlier := Nat.lt_of_lt_of_le happened (saved_countP_le _)
    simp only [PipelineSession.durableRows_added, if_neg (other earlier)]
    exact h.saved happened

/-- A rollback takes back only what was not saved. -/
theorem Once.rollback (h : Once it n s l) (quiet : it .rolledBack = false)
    (safe : ∀ e ∈ unsaved l, it e = false) : Once it n s.rollback (.rolledBack :: l) := by
  have kept : l.countP it = (Pipeline.saved l).countP it := by
    conv => lhs; rw [← unsaved_append_saved l, List.countP_append]
    rw [List.countP_eq_zero.mpr (fun e he => by simp [safe e he]), Nat.zero_add]
  refine ⟨by simpa [quiet] using h.once, ?_, ?_⟩
  · simp only [PipelineSession.rows_rollback, List.countP_cons, quiet]
    simpa [kept] using h.saved
  · simpa [Pipeline.saved] using h.saved

/-- The thing itself happens, and closes its stage. -/
theorem Once.happens (h : Once it n s l) {r : PipelineStage} (row : s.rows n = some r)
    (isOpen : r.status.isOpen) {e : PipelineEvent} (plain : e ≠ .committed)
    {s' : PipelineSession} (shut : it e = true → Closed (s'.rows n)) : Once it n s' (e :: l) := by
  have never : l.countP it = 0 := by
    apply Nat.eq_zero_of_not_pos
    intro happened
    obtain ⟨r', hr, closed⟩ := h.closed happened
    obtain rfl : r = r' := Option.some.inj (row.symm.trans hr)
    exact closed isOpen
  have before : (Pipeline.saved l).countP it = 0 :=
    Nat.eq_zero_of_le_zero (never ▸ saved_countP_le _)
  refine ⟨?_, fun happened => ?_, fun happened => ?_⟩
  · rw [List.countP_cons, never]
    split <;> omega
  · cases he : it e with
    | true => exact shut he
    | false => simp [he, never] at happened
  · rw [saved_cons plain, before] at happened
    exact absurd happened (Nat.lt_irrefl 0)

end once

section discreet

variable {s : PipelineSession} {l : List PipelineEvent} {platform : Platform}

/-- The summary may be anything. -/
theorem Discreet.same {s' : PipelineSession} (h : Discreet s l)
    (rows : ∀ n, n ≠ .summary → s'.rows n = s.rows n)
    (durable : ∀ n, n ≠ .summary → s'.durableRows n = s.durableRows n) : Discreet s' l where
  notified := h.notified.same (rows _ nofun) (durable _ nofun)
  told := h.told.same (rows _ nofun) (durable _ nofun)
  current n hn other r hr := h.current n hn other r (rows n other ▸ hr)
  durable n hn other r hr := h.durable n hn other r (durable n other ▸ hr)
  troubled := h.troubled

theorem Discreet.emit (h : Discreet s l) {e : PipelineEvent} (plain : e.plain) :
    Discreet s (e :: l) where
  notified := h.notified.emit (by cases e <;> first | rfl | cases plain) (by rintro rfl; cases plain)
  told := h.told.emit (by cases e <;> first | rfl | cases plain) (by rintro rfl; cases plain)
  current := h.current
  durable := h.durable
  troubled rows message outcome he := by
    rcases List.mem_cons.mp he with rfl | he
    · cases plain
    · exact h.troubled rows message outcome he

theorem Discreet.emits (h : Discreet s l) {es : List PipelineEvent} (plain : ∀ e ∈ es, e.plain) :
    Discreet s (es ++ l) := by
  induction es with
  | nil => exact h
  | cons e es ih =>
    exact (ih fun e he => plain e (List.mem_cons_of_mem _ he)).emit (plain e (List.mem_cons_self ..))

theorem Unquarantined.setRow (h : Unquarantined s.rows) (m : StageName)
    {f : PipelineStage → PipelineStage} (kept : ∀ r, (f r).quarantinedAt = r.quarantinedAt) :
    Unquarantined (s.setRow m f).rows := by
  intro n hn other r hr
  rw [PipelineSession.rows_setRow] at hr
  split at hr
  · obtain ⟨r', hr', rfl⟩ := Option.map_eq_some_iff.mp hr
    exact (kept r').trans (h n hn other r' hr')
  · exact h n hn other r hr

theorem Discreet.setRow (h : Discreet s l) {m : StageName} {f : PipelineStage → PipelineStage}
    (quarantine : ∀ r, (f r).quarantinedAt = r.quarantinedAt)
    (keeps : m = .telegram ∨ m = .fallbackTelegram → ∀ r, s.rows m = some r →
      ¬ r.status.isOpen → ¬ (f r).status.isOpen) : Discreet (s.setRow m f) l where
  notified := h.notified.setRow fun same r hr => keeps (.inl same) r (same ▸ hr)
  told := h.told.setRow fun same r hr => keeps (.inr same) r (same ▸ hr)
  current := h.current.setRow m quarantine
  durable := by simpa using h.durable
  troubled := h.troubled

theorem Discreet.flush (h : Discreet s l) : Discreet (s.flush platform) l where
  notified := h.notified.flush
  told := h.told.flush
  current := by simpa using h.current
  durable := by simpa using h.durable
  troubled := h.troubled

theorem Discreet.commit (h : Discreet s l) : Discreet (s.commit platform) (.committed :: l) := by
  have current : Unquarantined (s.commit platform).rows := fun n hn other =>
    PipelineSession.commit_row _ _ (fun _ _ h => h) (h.current n hn other)
  refine ⟨h.notified.commit rfl, h.told.commit rfl, current, ?_, ?_⟩
  · simpa only [PipelineSession.durableRows_commit_eq] using current
  · intro rows message outcome he
    exact h.troubled rows message outcome ((List.mem_cons.mp he).resolve_left nofun)

theorem Discreet.reached (h : Discreet s l) (reach : Reach) :
    Discreet (s.reached platform reach) (commits reach ++ l) := by
  cases reach with
  | untouched => exact h
  | flushed => exact h.flush
  | committed => exact h.commit

theorem Discreet.add (h : Discreet s l) {m : StageName} (id videoId userId : Int)
    (missing : s.rows m = none) :
    Discreet (s.setSlot m (.added (PipelineStage.new id videoId userId m))) l := by
  refine ⟨h.notified.add missing, h.told.add missing, ?_, ?_, h.troubled⟩
  · intro n hn other r hr
    rw [PipelineSession.rows_added] at hr
    split at hr
    · cases hr
      rfl
    · exact h.current n hn other r hr
  · intro n hn other r hr
    rw [PipelineSession.durableRows_added] at hr
    split at hr
    · cases hr
    · exact h.durable n hn other r hr

theorem Discreet.rollback (h : Discreet s l) (safe : ∀ e ∈ unsaved l, e.sent = false) :
    Discreet s.rollback (.rolledBack :: l) := by
  have quiet : ∀ e ∈ unsaved l, e.notified = false ∧ e.told = false := fun e he =>
    Bool.or_eq_false_iff.mp (safe e he)
  refine ⟨h.notified.rollback rfl fun e he => (quiet e he).1,
    h.told.rollback rfl fun e he => (quiet e he).2, ?_, ?_, ?_⟩
  · simpa using h.durable
  · simpa using h.durable
  · intro rows message outcome he
    exact h.troubled rows message outcome ((List.mem_cons.mp he).resolve_left nofun)

/-- Whatever the summary's session does. -/
theorem Discreet.absorb (h : Discreet s l) (inner : StageWorld) :
    Discreet (s.absorb platform inner.state)
      (inner.trace.map .stage ++ (commits inner.state.reach ++ l)) := by
  have plain : ∀ e ∈ inner.trace.map PipelineEvent.stage, e.plain := by
    simp [PipelineEvent.plain]
  have moved : Discreet (s.reached platform inner.state.reach) _ :=
    (h.reached inner.state.reach).emits plain
  refine moved.same (fun n hn => ?_) (fun n hn => ?_)
  · exact PipelineSession.rows_absorb_of_ne _ _ _ hn
  · exact PipelineSession.durableRows_absorb_of_ne _ _ _ hn

end discreet

section steps

variable {platform : Platform} {service : PipelineService} {w : PipelineWorld}

/-- The notices are discreet, as long as the trace is not broken. -/
def Promise (w : PipelineWorld) : Prop := Unbroken w.trace → Discreet w.state w.trace

theorem unbroken_cons {e : PipelineEvent} {l : List PipelineEvent} (h : e ≠ .rolledBack) :
    Unbroken (e :: l) ↔ Unbroken l := by
  cases e with
  | rolledBack => exact absurd rfl h
  | _ => exact Iff.rfl

theorem unbroken_append {es l : List PipelineEvent} (h : PipelineEvent.rolledBack ∉ es) :
    Unbroken (es ++ l) ↔ Unbroken l := by
  induction es with
  | nil => exact Iff.rfl
  | cons e es ih =>
    rw [List.cons_append, unbroken_cons fun he => h (he ▸ List.mem_cons_self ..)]
    exact ih fun he => h (List.mem_cons_of_mem _ he)

theorem Promise.emit (h : Promise w) {e : PipelineEvent} (plain : e.plain) :
    Promise { w with trace := e :: w.trace } := by
  intro unbroken
  refine (h ((unbroken_cons ?_).mp unbroken)).emit plain
  rintro rfl
  cases plain

theorem Promise.setRow (h : Promise w) {m : StageName} {f : PipelineStage → PipelineStage}
    (quarantine : ∀ r, (f r).quarantinedAt = r.quarantinedAt)
    (keeps : m = .telegram ∨ m = .fallbackTelegram → ∀ r, w.state.rows m = some r →
      ¬ r.status.isOpen → ¬ (f r).status.isOpen) :
    Promise { w with state := w.state.setRow m f } :=
  fun unbroken => (h unbroken).setRow quarantine keeps

theorem promise_still : Still platform Promise Promise where
  lost _ h := h
  raised _ h := h.emit trivial
  reply _ _ h := h
  flush _ h unbroken := (h unbroken).flush
  commit _ h unbroken := Discreet.commit (h unbroken)

theorem Promise.undo (h : Promise w) : Promise (undo w) :=
  fun unbroken => (h unbroken.2).rollback unbroken.1

theorem Promise.takeUp (h : Promise w) (inner : StageWorld) :
    Promise (takeUp platform inner w) := by
  intro unbroken
  refine (h ?_).absorb inner
  have quiet : PipelineEvent.rolledBack ∉ inner.trace.map .stage := by simp
  have saves : PipelineEvent.rolledBack ∉ commits inner.state.reach := by
    cases inner.state.reach <;> simp [commits]
  exact (unbroken_append saves).mp ((unbroken_append quiet).mp unbroken)

/-- Work on the summary leaves what has been sent alone. -/
theorem promise_onSummary (p : StageProc Unit) (h : Promise w) :
    wp (onSummary platform p) (fun _ => Promise) Promise w := by
  unfold onSummary
  rw [wp_bind, wp_read]
  split
  · exact h
  · apply wp_nest h
    intro answers rest
    exact wp_anywhere (fun _ v => Promise.takeUp (w := { w with replies := rest }) h v)
      fun v => Promise.takeUp (w := { w with replies := rest }) h v

theorem promise_create (n : StageName) (h : Promise w) :
    wp (createStage n) (fun _ => Promise) Promise w := by
  apply wp_createStage h
  · exact fun _ => h
  intro missing id rest unbroken
  refine (h unbroken).add id _ _ ?_
  simp only [PipelineSession.rows, Slot.current, missing, Option.map_none]

theorem promise_transcript (h : Promise w) :
    wp (attemptTranscriptStage service) (fun _ => Promise) Promise w := by
  have aside : ∀ {v : PipelineWorld} (f : PipelineStage → PipelineStage), Promise v →
      (∀ r, (f r).quarantinedAt = r.quarantinedAt) →
      Promise { v with state := v.state.setRow .transcript f } := fun f hv kept =>
    hv.setRow kept nofun
  have fetch (attemptedAt : Time) (outcome : Option FetchOutcome) :=
    (aside (startAttempt attemptedAt) h fun _ => rfl).emit (e := .fetch outcome) trivial
  apply wp_attemptTranscriptStage h h
  · exact fun _ _ _ => aside _ h fun _ => rfl
  · exact fun _ _ _ => aside _ h fun _ => rfl
  · exact fun _ attemptedAt _ _ _ => fetch attemptedAt none
  · intro _ attemptedAt outcome text rest _ _ _
    exact aside (v := { w with
      state := { w.state.setRow .transcript (startAttempt attemptedAt) with
        video := w.state.video.modify fun v => { v with transcript := some text } }
      trace := .fetch (some outcome) :: w.trace }) fetchedRow
      (fun unbroken => (fetch attemptedAt (some outcome) unbroken).same (fun _ _ => rfl)
        fun _ _ => rfl) fun _ => rfl
  · intro _ attemptedAt outcome rest _ _ _
    refine aside (unfetchedRow outcome) (fetch attemptedAt (some outcome)) fun r => ?_
    unfold unfetchedRow
    split <;> rfl

theorem promise_skip (n : StageName) (video : Video) (h : Promise w) :
    wp (skipStage service n video) (fun _ => Promise) Promise w := by
  have skipped : Promise { w with state := w.state.setRow n skipRow } := by
    refine h.setRow (fun r => ?_) fun _ r _ shut => ?_
    · unfold skipRow
      split <;> rfl
    · unfold skipRow
      split
      · exact shut
      · exact skipped_not_open
  apply wp_skipStage
  · exact fun _ => h
  · exact fun _ _ _ => skipped
  · exact fun _ _ _ => skipped.emit trivial

theorem deliveredRow_quarantine (outcome : DeliveryOutcome) (r : PipelineStage) :
    (deliveredRow outcome r).quarantinedAt = r.quarantinedAt := by
  unfold deliveredRow
  split <;> rfl

theorem toldRow_quarantine (outcome : DeliveryOutcome) (r : PipelineStage) :
    (toldRow outcome r).quarantinedAt = r.quarantinedAt := by
  unfold toldRow
  split <;> rfl

/-- A send, from an open stage to what its outcome leaves. -/
theorem Promise.notify (h : Promise w) {r : PipelineStage} (row : w.state.rows .telegram = some r)
    (isOpen : r.status.isOpen) (attemptedAt : Time) (outcome : DeliveryOutcome) :
    Promise { w with
      state := (w.state.setRow .telegram (startAttempt attemptedAt)).setRow .telegram
        (deliveredRow outcome)
      trace := .notify (some outcome) :: w.trace } := by
  intro unbroken
  have before := h ((unbroken_cons (e := .notify (some outcome)) nofun).mp unbroken)
  refine ⟨before.notified.happens row isOpen (e := .notify (some outcome)) nofun fun sent => ?_,
    ?_, ?_, ?_, ?_⟩
  · cases outcome with
    | sent => exact ⟨_, by simp only [PipelineSession.rows_setRow_self, row, Option.map_some]; rfl,
        completed_not_open⟩
    | refused _ _ => cases sent
    | raised _ => cases sent
  · have aside := before.told.setRow (m := .telegram) (f := startAttempt attemptedAt) nofun
    exact (aside.setRow (m := .telegram) nofun).emit (e := .notify (some outcome)) rfl nofun
  · have started := before.current.setRow .telegram (f := startAttempt attemptedAt) fun _ => rfl
    exact started.setRow .telegram (deliveredRow_quarantine outcome)
  · simpa using before.durable
  · intro rows message outcome he
    exact before.troubled rows message outcome ((List.mem_cons.mp he).resolve_left nofun)

/-- A send whose outcome is never known. -/
theorem Promise.unanswered (h : Promise w) :
    Promise { w with trace := .notify none :: w.trace } := by
  intro unbroken
  have before := h ((unbroken_cons (e := .notify none) nofun).mp unbroken)
  exact ⟨before.notified.emit (e := .notify none) rfl nofun,
    before.told.emit (e := .notify none) rfl nofun, before.current, before.durable,
    fun rows message outcome he =>
      before.troubled rows message outcome ((List.mem_cons.mp he).resolve_left nofun)⟩

theorem promise_deliver (h : Promise w) :
    wp (attemptTelegramStage service) (fun _ => Promise) Promise w := by
  have aside {r : PipelineStage} (f : PipelineStage → PipelineStage)
      (row : w.state.rows .telegram = some r) (isOpen : r.status.isOpen)
      (kept : ∀ r, (f r).quarantinedAt = r.quarantinedAt) :
      Promise { w with state := w.state.setRow .telegram f } := by
    refine h.setRow kept fun _ r' hr' shut => ?_
    obtain rfl : r = r' := Option.some.inj (row.symm.trans hr')
    exact absurd isOpen shut
  apply wp_attemptTelegramStage h h
  · intro _ row isOpen _
    have skipped := aside (fun r => { r with
      status := .skipped, lastError := some shortProcessingDisabledError }) row isOpen fun _ => rfl
    exact skipped.emit trivial
  · intro _ row isOpen _
    have skipped := aside (fun r => { r with status := .skipped }) row isOpen fun _ => rfl
    exact skipped.emit trivial
  · exact fun _ row isOpen => aside _ row isOpen fun _ => rfl
  · exact fun _ attemptedAt _ row isOpen =>
      (aside (startAttempt attemptedAt) row isOpen fun _ => rfl).unanswered
  · exact fun _ attemptedAt outcome _ row isOpen => h.notify row isOpen attemptedAt outcome

theorem work_ne_fallback {n : StageName} (h : n ∈ workStages) : n ≠ .fallbackTelegram := by
  rintro rfl
  revert h
  decide

/-- The fallback's own row is not what there is to tell. -/
theorem Troubled.setFallback {s : PipelineSession} (h : Troubled s.rows)
    (f : PipelineStage → PipelineStage) : Troubled (s.setRow .fallbackTelegram f).rows := by
  rcases h with ⟨n, hn, r, hr, failed⟩ | ⟨r, hr, held⟩
  · have apart := PipelineSession.rows_setRow_of_ne s .fallbackTelegram n f (work_ne_fallback hn)
    exact .inl ⟨n, hn, r, apart.trans hr, failed⟩
  · have apart := PipelineSession.rows_setRow_of_ne s .fallbackTelegram .summary f nofun
    exact .inr ⟨r, apart.trans hr, held⟩

/-- The fallback's message goes out, of a video with something to tell. -/
theorem Promise.tell (h : Promise w) {r : PipelineStage}
    (row : w.state.rows .fallbackTelegram = some r) (isOpen : r.status.isOpen) (message : String)
    (outcome : Option DeliveryOutcome) {rows : Rows} (troubled : Unbroken w.trace → Troubled rows)
    {f : PipelineStage → PipelineStage} (quarantine : ∀ r, (f r).quarantinedAt = r.quarantinedAt)
    (shut : outcome = some .sent → ¬ (f r).status.isOpen) :
    Promise { w with
      state := w.state.setRow .fallbackTelegram f
      trace := .fallback rows message outcome :: w.trace } := by
  intro unbroken
  have before := h ((unbroken_cons (e := .fallback rows message outcome) nofun).mp unbroken)
  refine ⟨?_, before.told.happens row isOpen (e := .fallback rows message outcome) nofun
    fun sent => ?_, ?_, ?_, ?_⟩
  · exact (before.notified.setRow (m := .fallbackTelegram) nofun).emit
      (e := .fallback rows message outcome) rfl nofun
  · have returned : outcome = some .sent := by
      match outcome, sent with
      | some .sent, _ => rfl
    exact ⟨f r, by simp only [PipelineSession.rows_setRow_self, row, Option.map_some],
      shut returned⟩
  · exact before.current.setRow .fallbackTelegram quarantine
  · simpa using before.durable
  · intro rows' text outcome' he
    rcases List.mem_cons.mp he with he | he
    · cases he
      exact troubled ((unbroken_cons (e := .fallback rows message outcome) nofun).mp unbroken)
    · exact before.troubled rows' text outcome' he

theorem promise_send (message : String) (h : Promise w) {r : PipelineStage}
    (row : w.state.rows .fallbackTelegram = some r) (isOpen : r.status.isOpen)
    (troubled : Unbroken w.trace → Troubled w.state.rows) :
    wp (sendFallback message) (fun _ => Promise) Promise w := by
  have troubled (attemptedAt : Time) : ∀ unbroken : Unbroken w.trace,
      Troubled (w.state.setRow .fallbackTelegram (startAttempt attemptedAt)).rows :=
    fun unbroken => (troubled unbroken).setFallback (startAttempt attemptedAt)
  have told (attemptedAt : Time) (outcome : DeliveryOutcome) : Promise { w with
      state := (w.state.setRow .fallbackTelegram (startAttempt attemptedAt)).setRow
        .fallbackTelegram (toldRow outcome)
      trace := .fallback (w.state.setRow .fallbackTelegram (startAttempt attemptedAt)).rows message
        (some outcome) :: w.trace } := by
    have started : Promise { w with
        state := w.state.setRow .fallbackTelegram (startAttempt attemptedAt) } :=
      h.setRow (fun _ => rfl) fun _ r' hr' shut => by
        obtain rfl : r = r' := Option.some.inj (row.symm.trans hr')
        exact absurd isOpen shut
    exact started.tell (own_row row (startAttempt attemptedAt)) isOpen message (some outcome)
      (troubled attemptedAt) (toldRow_quarantine outcome) fun sent => by
        cases sent
        exact completed_not_open
  apply wp_sendFallback h
  · exact fun attemptedAt _ => h.tell row isOpen message none (troubled attemptedAt)
      (f := startAttempt attemptedAt) (fun _ => rfl) nofun
  · exact fun attemptedAt outcome _ => told attemptedAt outcome
  · exact fun attemptedAt outcome _ =>
      (told attemptedAt outcome).setRow (m := .summary) (fun _ => rfl) nofun

theorem promise_single (h : Promise w) :
    wp (attemptSingleFallback service) (fun _ => Promise) Promise w := by
  apply wp_attemptSingleFallback h
  · exact fun _ _ _ => h.setRow (fun _ => rfl) fun _ _ _ _ => skipped_not_open
  · exact fun _ _ _ _ => h.setRow (fun _ => rfl) fun _ _ _ _ => completed_not_open
  · intro r reason row isOpen given
    refine promise_send _ h row isOpen fun unbroken => ?_
    have reasoned := buildFallbackReason_isSome (videoUrl w.state.video.current)
      (h unbroken).current
    rw [given] at reasoned
    exact reasoned.mp rfl

/-- Every step keeps the promise. -/
theorem promise_steps (platform : Platform) (service : PipelineService) :
    FreeSteps platform service Promise Promise where
  still := promise_still
  create _ n := promise_create n
  transcript _ := promise_transcript
  attempt _ := promise_onSummary _
  deliver _ := promise_deliver
  skip _ n video _ := promise_skip n video
  overlook w n _ _ _ h := promise_skip n w.state.video.current (h.emit trivial)
  note _ _ _ _ _ h := h.emit trivial
  explain _ _ h := h.setRow (fun _ => rfl) fun _ _ _ shut => shut
  single _ _ := promise_single
  told _ := promise_single
  reconcile _ _ := promise_onSummary _
  request _ _ := promise_onSummary _
  undone _ := Promise.undo
  video _ _ h unbroken := (h unbroken).same (fun _ _ => rfl) fun _ _ => rfl

end steps

theorem openVideo_discreet {userId : Int} {rows : Rows} {video : Video}
    (unquarantined : Unquarantined rows) : Discreet (openVideo userId rows video).state [] := by
  obtain ⟨current, _, durable⟩ := openVideo_rows userId rows video
  refine ⟨⟨Nat.zero_le _, nofun, nofun⟩, ⟨Nat.zero_le _, nofun, nofun⟩, ?_, ?_,
    fun _ _ _ he => absurd he List.not_mem_nil⟩
  · rw [current]
    exact unquarantined
  · rw [durable]
    exact unquarantined

/-- However a video's stages are worked on, and whatever Telegram answers, its
notification is sent at most once and so is its fallback message; and the
fallback goes out only for a stage that failed or a summary in quarantine. -/
theorem notices_at_most_once (platform : Platform) (userId : Int) (rows : Rows) (video : Video)
    (unquarantined : Unquarantined rows) (ops : List PipelineOp)
    (unbroken : Unbroken (runPipeline platform ops (openVideo userId rows video)).trace) :
    (runPipeline platform ops (openVideo userId rows video)).trace.countP PipelineEvent.notified ≤ 1
      ∧ (runPipeline platform ops (openVideo userId rows video)).trace.countP PipelineEvent.told ≤ 1
      ∧ ∀ stages message outcome, .fallback stages message outcome
          ∈ (runPipeline platform ops (openVideo userId rows video)).trace → Troubled stages := by
  have promise : Promise (runPipeline platform ops (openVideo userId rows video)) :=
    run_keeps (fun op _ => (promise_steps platform op.service).calls)
      fun _ => openVideo_discreet unquarantined
  have discreet := promise unbroken
  exact ⟨discreet.notified.once, discreet.told.once, discreet.troubled⟩

/-- The transcript is unavailable; the fallback is refused once, then lost with the
process, then sent. -/
def Sample.refusedOps : List PipelineOp :=
  [⟨Sample.service .direct, .processNew, [.inserted 1, .inserted 2, .inserted 3, .now 0,
      .fetched (.result none "unavailable"), .inserted 4, .now 0, .delivery (.refused "busy" true)]⟩,
    ⟨Sample.service .direct, .commit, [.committed]⟩,
    ⟨Sample.service .direct, .processPending none, [.now 1]⟩,
    ⟨Sample.service .direct, .processPending none, [.now 1, .page 0 false, Sample.idle, .now 1,
      .delivery .sent, Sample.idle, Sample.idle, Sample.idle, Sample.idle]⟩,
    ⟨Sample.service .direct, .commit, [.committed]⟩,
    ⟨Sample.service .direct, .processNew, []⟩]

theorem notices_at_most_once_refused :
    (runPipeline (YTPipe.Sample.platform .assigned) Sample.refusedOps Sample.fresh).trace.countP
        PipelineEvent.told = 1
      ∧ (runPipeline (YTPipe.Sample.platform .assigned) Sample.refusedOps Sample.fresh).trace.countP
        PipelineEvent.notified ≤ 1 :=
  ⟨by decide +kernel, (notices_at_most_once _ 1 (fun _ => none) Sample.video
    (fun _ _ _ _ h => nomatch h) Sample.refusedOps (by decide +kernel)).1⟩

end YTPipe.Pipeline
