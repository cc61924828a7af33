import YTPipe.Course.Budgets
import YTPipe.Pipeline.Isolation

/-!
# The attempts of a video's stages

What each stage costs is counted on its row: a fetch or a notification with each
attempt, and the requests for a summary in its account.
-/

namespace YTPipe.Pipeline

open Broker Proc Ledger

/-- What an event did to the summary's own session. -/
def PipelineEvent.inner : PipelineEvent → Option Event
  | .stage e => some e
  | _ => none

def stageEvents (trace : List PipelineEvent) : List Event := trace.filterMap PipelineEvent.inner

/-- A call an attempt of the stage makes. -/
def PipelineEvent.spends (n : StageName) : PipelineEvent → Bool
  | .fetch _ => n = .transcript
  | .notify _ => n = .telegram
  | _ => false

def spent (n : StageName) (trace : List PipelineEvent) : Nat := trace.countP (·.spends n)

/-- The stages whose attempts make a call each. -/
def Metered (n : StageName) : Prop := n = .transcript ∨ n = .telegram

/-- Each call was counted, and a row that is not resolved has an attempt left. -/
structure Meter (n : StageName) (r : PipelineStage) (trace : List PipelineEvent) : Prop where
  counted : (spent n trace : Int) ≤ r.attemptCount
  bounded : r.attemptCount ≤ r.maxAttempts
  left : ¬ r.status.isResolved → r.attemptCount < r.maxAttempts

/-- Each step of the summary's plan that was done was written, as far as the summary is
watched. -/
def Trusted (platform : Platform) (watched : StageName → Prop) (l : List Event) : Prop :=
  watched .summary ∧ (platform.flushRule = .assigned ∨ ∀ g, .get g ∈ l → ¬ g.CompletesPartial)

/-- The stages that are watched are within their budgets. -/
structure Within (platform : Platform) (watched : StageName → Prop) (w : PipelineWorld) :
    Prop where
  meter : ∀ n, Metered n → watched n → ∀ r, w.state.rows n = some r → Meter n r w.trace
  account : Trusted platform watched (stageEvents w.trace) → ∀ r,
    w.state.rows .summary = some r → Account r (stageEvents w.trace)
  tally : watched .summary → Direct (stageEvents w.trace) → ∀ r,
    w.state.rows .summary = some r → Settlement r (stageEvents w.trace)
  owned : Trusted platform watched (stageEvents w.trace) → ∀ i,
    (w.state.slot .summary).row = some i → Owned platform 0 i
  secure : ∀ i, (w.state.slot .summary).row = some i → Secure i
  unspent : ∀ n, w.state.rows n = none → spent n w.trace = 0
  unasked : w.state.rows .summary = none → stageEvents w.trace = []

section meters

variable {n : StageName} {r r' : PipelineStage} {l l' : List PipelineEvent} {e : PipelineEvent}

theorem Meter.row (h : Meter n r l) (count : r'.attemptCount = r.attemptCount)
    (budget : r'.maxAttempts = r.maxAttempts)
    (ends : r.status.isResolved → r'.status.isResolved) : Meter n r' l := by
  have counted := h.counted
  have bounded := h.bounded
  refine ⟨by omega, by omega, fun unresolved => ?_⟩
  have left := h.left fun resolved => unresolved (ends resolved)
  omega

theorem Meter.log (h : Meter n r l) (same : spent n l' = spent n l) : Meter n r l' :=
  ⟨same ▸ h.counted, h.bounded, h.left⟩

theorem spent_cons (idle : e.spends n = false) : spent n (e :: l) = spent n l := by
  simp [spent, idle]

theorem stageEvents_cons (outer : e.inner = none) : stageEvents (e :: l) = stageEvents l := by
  simp [stageEvents, outer]

theorem spent_append : spent n (l ++ l') = spent n l + spent n l' := List.countP_append

theorem stageEvents_append : stageEvents (l ++ l') = stageEvents l ++ stageEvents l' :=
  List.filterMap_append

/-- The events of the summary's own session cost the other stages nothing. -/
theorem spent_map (inner : List Event) : spent n (inner.map .stage) = 0 := by
  induction inner with
  | nil => rfl
  | cons e inner ih => exact ih

theorem stageEvents_map (inner : List Event) : stageEvents (inner.map .stage) = inner := by
  induction inner with
  | nil => rfl
  | cons e inner ih => exact congrArg (e :: ·) ih

end meters

namespace Trusted

variable {platform : Platform} {watched : StageName → Prop} {e : Event} {g : Get} {l : List Event}

theorem tail (h : Trusted platform watched (e :: l)) : Trusted platform watched l :=
  ⟨h.1, h.2.imp_right fun kept g hg => kept g (List.mem_cons_of_mem e hg)⟩

theorem assigned (h : Trusted platform watched (.get g :: l)) (completes : g.CompletesPartial) :
    platform.flushRule = .assigned :=
  h.2.resolve_right fun kept => kept g List.mem_cons_self completes

end Trusted

namespace Within

variable {platform : Platform} {watched : StageName → Prop} {w : PipelineWorld}

theorem replies (h : Within platform watched w) (rest : List PipelineReply) :
    Within platform watched { w with replies := rest } :=
  ⟨h.meter, h.account, h.tally, h.owned, h.secure, h.unspent, h.unasked⟩

/-- An event that costs nothing. -/
theorem note (h : Within platform watched w) {e : PipelineEvent}
    (idle : ∀ n, e.spends n = false) (outer : e.inner = none) :
    Within platform watched { w with trace := e :: w.trace } where
  meter n metered watched r hr := (h.meter n metered watched r hr).log (spent_cons (idle n))
  account := (stageEvents_cons (l := w.trace) outer).symm ▸ h.account
  tally := (stageEvents_cons (l := w.trace) outer).symm ▸ h.tally
  owned := (stageEvents_cons (l := w.trace) outer).symm ▸ h.owned
  secure := h.secure
  unspent n absent := (spent_cons (idle n)).trans (h.unspent n absent)
  unasked absent := (stageEvents_cons outer).trans (h.unasked absent)

/-- What a change of the summary's row keeps. -/
structure Keeps (r r' : PipelineStage) : Prop where
  hold : SameHold r r'
  account : ∀ l, Account r l → Account r' l
  tally : ∀ l, Settlement r l → Settlement r' l

theorem keeps_same {r r' : PipelineStage} (hold : SameHold r r') (same : SameAccount r r')
    (status : r'.status = r.status) : Keeps r r' where
  hold := hold
  account _ account := account.same same status hold.quarantinedAt
  tally _ tally := tally.same same.attemptCount same.maxAttempts status hold.quarantinedAt

/-- The row of one stage changes. -/
theorem setRow (h : Within platform watched w) {n : StageName} {f : PipelineStage → PipelineStage}
    (meter : Metered n → ∀ r, w.state.rows n = some r → Meter n r w.trace → Meter n (f r) w.trace)
    (summary : n = .summary → ∀ r, Keeps r (f r)) :
    Within platform watched { w with state := w.state.setRow n f } where
  meter m metered watched r' hr' := by
    rw [PipelineSession.rows_setRow] at hr'
    split at hr'
    · next same =>
      subst same
      obtain ⟨r, hr, rfl⟩ := Option.map_eq_some_iff.mp hr'
      exact meter metered r hr (h.meter m metered watched r hr)
    · exact h.meter m metered watched r' hr'
  account trusted r' hr' := by
    rw [PipelineSession.rows_setRow] at hr'
    split at hr'
    · next same =>
      obtain ⟨r, hr, rfl⟩ := Option.map_eq_some_iff.mp hr'
      exact (summary same.symm r).account _ (h.account trusted r hr)
    · exact h.account trusted r' hr'
  tally watched direct r' hr' := by
    rw [PipelineSession.rows_setRow] at hr'
    split at hr'
    · next same =>
      obtain ⟨r, hr, rfl⟩ := Option.map_eq_some_iff.mp hr'
      exact (summary same.symm r).tally _ (h.tally watched direct r hr)
    · exact h.tally watched direct r' hr'
  owned trusted i' hi' := by
    by_cases same : StageName.summary = n
    · subst same
      simp only [PipelineSession.setRow, PipelineSession.setSlot, if_true] at hi'
      obtain ⟨i, hi, rfl⟩ := Option.map_eq_some_iff.mp hi'
      exact (h.owned trusted i hi).modify f
    · simp only [PipelineSession.setRow, PipelineSession.setSlot, if_neg same] at hi'
      exact h.owned trusted i' hi'
  secure i' hi' := by
    by_cases same : StageName.summary = n
    · subst same
      simp only [PipelineSession.setRow, PipelineSession.setSlot, if_true] at hi'
      obtain ⟨i, hi, rfl⟩ := Option.map_eq_some_iff.mp hi'
      exact (h.secure i hi).modify fun r => (summary rfl r).hold
    · simp only [PipelineSession.setRow, PipelineSession.setSlot, if_neg same] at hi'
      exact h.secure i' hi'
  unspent m absent := by
    rw [PipelineSession.rows_setRow] at absent
    split at absent
    · exact h.unspent m (Option.map_eq_none_iff.mp absent)
    · exact h.unspent m absent
  unasked absent := by
    rw [PipelineSession.rows_setRow] at absent
    split at absent
    · exact h.unasked (Option.map_eq_none_iff.mp absent)
    · exact h.unasked absent

/-- A row that is not counted changes. -/
theorem aside (h : Within platform watched w) (f : PipelineStage → PipelineStage) :
    Within platform watched { w with state := w.state.setRow .fallbackTelegram f } := by
  refine h.setRow (fun metered => ?_) fun summary => absurd summary (by decide)
  rcases metered with other | other <;> exact absurd other (by decide)

/-- The row of a counted stage changes, its attempts apart. -/
theorem rest (h : Within platform watched w) {n : StageName} (metered : Metered n)
    {f : PipelineStage → PipelineStage}
    (row : ∀ r, w.state.rows n = some r → (f r).attemptCount = r.attemptCount
      ∧ (f r).maxAttempts = r.maxAttempts ∧ (r.status.isResolved → (f r).status.isResolved)) :
    Within platform watched { w with state := w.state.setRow n f } := by
  refine h.setRow (fun _ r hr counted => ?_) fun summary => ?_
  · obtain ⟨count, budget, ends⟩ := row r hr
    exact counted.row count budget ends
  · subst summary
    rcases metered with other | other <;> exact absurd other (by decide)

/-- An attempt of a counted stage, from the row it starts with to the one it leaves. -/
theorem attempt (h : Within platform watched w) {n : StageName} (metered : Metered n)
    {r r' : PipelineStage} {e : PipelineEvent} {v : PipelineWorld} (row : w.state.rows n = some r)
    (isOpen : r.status.isOpen) (own : v.state.rows n = some r')
    (others : ∀ m, m ≠ n → v.state.slot m = w.state.slot m) (trace : v.trace = e :: w.trace)
    (spends : ∀ m, m ≠ n → e.spends m = false) (outer : e.inner = none)
    (count : r'.attemptCount = r.attemptCount + 1) (budget : r'.maxAttempts = r.maxAttempts)
    (left : ¬ r'.status.isResolved → r'.attemptCount < r'.maxAttempts) :
    Within platform watched v := by
  have aside : StageName.summary ≠ n := by
    rintro rfl
    rcases metered with other | other <;> exact absurd other (by decide)
  have same (m : StageName) (other : m ≠ n) : v.state.rows m = w.state.rows m :=
    congrArg Slot.current (others m other)
  have events : stageEvents v.trace = stageEvents w.trace := by rw [trace, stageEvents_cons outer]
  constructor
  · intro m counted watched r₁ hr₁
    rw [trace]
    by_cases this : m = n
    · subst this
      obtain rfl := Option.some.inj (own.symm.trans hr₁)
      have before := h.meter m counted watched r row
      have few := before.left fun resolved => resolved.not_open isOpen
      have counted := before.counted
      have more : spent m (e :: w.trace) ≤ spent m w.trace + 1 := by
        unfold spent
        rw [List.countP_cons]
        split <;> omega
      exact ⟨by omega, by omega, left⟩
    · rw [same m this] at hr₁
      exact (h.meter m counted watched r₁ hr₁).log (spent_cons (spends m this))
  · rw [events, same _ aside]
    exact h.account
  · rw [events, same _ aside]
    exact h.tally
  · rw [events, others _ aside]
    exact h.owned
  · rw [others _ aside]
    exact h.secure
  · intro m absent
    by_cases this : m = n
    · subst this
      rw [own] at absent
      cases absent
    · rw [same m this] at absent
      rw [trace, spent_cons (spends m this)]
      exact h.unspent m absent
  · rw [events, same _ aside]
    exact h.unasked

/-- A row of the session after its work on the summary or elsewhere was written. -/
theorem reached_row {s : PipelineSession} {reach : Reach} {n : StageName} {r : PipelineStage}
    (h : (s.reached platform reach).rows n = some r) :
    ∃ r₀ d, s.rows n = some r₀ ∧ (r = r₀ ∨ r = planColumn.set d r₀) := by
  cases reach with
  | untouched => exact ⟨r, none, h, .inl rfl⟩
  | flushed =>
    simp only [PipelineSession.reached, PipelineSession.rows_flush] at h
    exact ⟨r, none, h, .inl rfl⟩
  | committed =>
    simp only [PipelineSession.reached, PipelineSession.rows_commit] at h
    obtain ⟨i, hi, rfl⟩ := Option.map_eq_some_iff.mp h
    obtain ⟨d, written⟩ := Instance.written_eq_set planColumn platform.flushRule i
    exact ⟨i.current, d, by simp [PipelineSession.rows, Slot.current, hi], .inr written⟩

/-- Where flushes are trusted, the summary's row is written as it is in memory. -/
theorem reached_summary (h : Within platform watched w) {reach : Reach} {r : PipelineStage}
    (trusted : Trusted platform watched (stageEvents w.trace))
    (row : (w.state.reached platform reach).rows .summary = some r) :
    w.state.rows .summary = some r := by
  cases reach with
  | untouched => exact row
  | flushed =>
    simp only [PipelineSession.reached, PipelineSession.rows_flush] at row
    exact row
  | committed =>
    simp only [PipelineSession.reached, PipelineSession.rows_commit] at row
    obtain ⟨i, hi, rfl⟩ := Option.map_eq_some_iff.mp row
    rw [Instance.written_of_faithful (h.owned trusted i hi).faithful]
    simp [PipelineSession.rows, Slot.current, hi]

theorem reached_absent {s : PipelineSession} {reach : Reach} {n : StageName}
    (h : (s.reached platform reach).rows n = none) : s.rows n = none := by
  cases reach with
  | untouched => exact h
  | flushed =>
    simp only [PipelineSession.reached, PipelineSession.rows_flush] at h
    exact h
  | committed =>
    simp only [PipelineSession.reached, PipelineSession.rows_commit, Option.map_eq_none_iff] at h
    simp [PipelineSession.rows, Slot.current, h]

/-- What is written changes no count. -/
theorem reached_meter {s : PipelineSession} {reach : Reach} {n : StageName} {r : PipelineStage}
    {trace : List PipelineEvent} (h : ∀ r, s.rows n = some r → Meter n r trace)
    (row : (s.reached platform reach).rows n = some r) : Meter n r trace := by
  obtain ⟨r₀, d, hr, rfl | rfl⟩ := reached_row row
  · exact h _ hr
  · exact (h r₀ hr).row rfl rfl id

theorem reached_tally {s : PipelineSession} {reach : Reach} {r : PipelineStage} {l : List Event}
    (h : ∀ r, s.rows .summary = some r → Settlement r l)
    (row : (s.reached platform reach).rows .summary = some r) : Settlement r l := by
  obtain ⟨r₀, d, hr, rfl | rfl⟩ := reached_row row
  · exact h _ hr
  · exact (h r₀ hr).same rfl rfl rfl rfl

theorem goes (h : Within platform watched w) (reach : Reach) :
    Within platform watched { w with state := w.state.reached platform reach } where
  meter n metered watched r row := reached_meter (h.meter n metered watched) row
  account trusted r row := h.account trusted r (h.reached_summary trusted row)
  tally watched direct _ row := reached_tally (h.tally watched direct) row
  owned trusted i' hi' := by
    cases reach with
    | untouched => exact h.owned trusted i' hi'
    | flushed =>
      obtain ⟨i, hi, rfl⟩ := Option.map_eq_some_iff.mp hi'
      exact (h.owned trusted i hi).flush
    | committed =>
      obtain ⟨i, hi, rfl⟩ := Option.map_eq_some_iff.mp hi'
      exact (h.owned trusted i hi).commit
  secure i' hi' := by
    cases reach with
    | untouched => exact h.secure i' hi'
    | flushed =>
      obtain ⟨i, _, rfl⟩ := Option.map_eq_some_iff.mp hi'
      exact secure_flush i
    | committed =>
      obtain ⟨i, _, rfl⟩ := Option.map_eq_some_iff.mp hi'
      exact secure_commit i
  unspent n absent := h.unspent n (reached_absent absent)
  unasked absent := h.unasked (reached_absent absent)

/-- What the summary's work leaves is taken up. -/
theorem takeUp (h : Within platform watched w) {inner : StageWorld}
    (account : Trusted platform watched (inner.trace ++ stageEvents w.trace) →
      Account inner.state.stage.current (inner.trace ++ stageEvents w.trace))
    (tally : watched .summary → Direct (inner.trace ++ stageEvents w.trace) →
      Settlement inner.state.stage.current (inner.trace ++ stageEvents w.trace))
    (owned : Trusted platform watched (inner.trace ++ stageEvents w.trace) →
      Owned platform 0 inner.state.stage)
    (secure : Secure inner.state.stage) :
    Within platform watched (takeUp platform inner w) := by
  have goes := h.goes inner.state.reach
  have rows (n : StageName) (other : n ≠ .summary) :
      (Pipeline.takeUp platform inner w).state.rows n
        = (w.state.reached platform inner.state.reach).rows n :=
    PipelineSession.rows_absorb_of_ne _ _ _ other
  have events : stageEvents (Pipeline.takeUp platform inner w).trace
      = inner.trace ++ stageEvents w.trace := by
    have none : stageEvents (commits inner.state.reach) = [] := by
      cases inner.state.reach <;> rfl
    rw [Pipeline.takeUp, stageEvents_append, stageEvents_append, stageEvents_map, none,
      List.nil_append]
  have costs (n : StageName) : spent n (Pipeline.takeUp platform inner w).trace
      = spent n w.trace := by
    have none : spent n (commits inner.state.reach) = 0 := by
      cases inner.state.reach <;> rfl
    rw [Pipeline.takeUp, spent_append, spent_append, spent_map, none, Nat.zero_add, Nat.zero_add]
  constructor
  · intro n metered watched r hr
    have other : n ≠ .summary := by
      rcases metered with rfl | rfl <;> decide
    rw [rows n other] at hr
    exact (goes.meter n metered watched r hr).log (costs n)
  · rw [events]
    intro trusted r hr
    cases hr
    exact account trusted
  · rw [events]
    intro watched direct r hr
    cases hr
    exact tally watched direct
  · rw [events]
    intro trusted i hi
    cases hi
    exact owned trusted
  · intro i hi
    cases hi
    exact secure
  · intro n absent
    rw [costs n]
    by_cases summary : n = .summary
    · subst summary
      cases absent
    · rw [rows n summary] at absent
      exact goes.unspent n absent
  · intro absent
    cases absent

/-- The summary's row is as it was. -/
theorem idle (h : Within platform watched w) {stage : StageInstance} {inner : StageWorld}
    (row : (w.state.slot .summary).row = some stage)
    (state : inner.state = summarySession stage w.state) (trace : inner.trace = []) :
    Within platform watched (Pipeline.takeUp platform inner w) := by
  have own : w.state.rows .summary = some stage.current := by
    simp [PipelineSession.rows, Slot.current, row]
  refine h.takeUp ?_ ?_ ?_ ?_
  all_goals rw [state]
  · rw [trace]
    exact fun trusted => h.account trusted _ own
  · rw [trace]
    exact fun watched direct => h.tally watched direct _ own
  · rw [trace]
    exact fun trusted => h.owned trusted stage row
  · exact h.secure stage row

end Within

section steps

variable {platform : Platform} {watched : StageName → Prop} {service : PipelineService}
  {w : PipelineWorld}

/-- A stage is retried only with an attempt left. -/
theorem retryStatus_left {r : PipelineStage} (unresolved : ¬ (retryStatus r).isResolved) :
    r.attemptCount < r.maxAttempts := by
  unfold retryStatus at unresolved
  split at unresolved
  · exact absurd (.inr rfl) unresolved
  · exact Int.not_le.mp ‹_›

theorem unfetchedRow_left (outcome : FetchOutcome) (r : PipelineStage) :
    (unfetchedRow outcome r).attemptCount = r.attemptCount
      ∧ (unfetchedRow outcome r).maxAttempts = r.maxAttempts
      ∧ (¬ (unfetchedRow outcome r).status.isResolved →
        (unfetchedRow outcome r).attemptCount < (unfetchedRow outcome r).maxAttempts) := by
  unfold unfetchedRow
  split
  · exact ⟨rfl, rfl, fun unresolved => absurd (.inr rfl) unresolved⟩
  all_goals exact ⟨rfl, rfl, retryStatus_left⟩

theorem deliveredRow_left (outcome : DeliveryOutcome) (r : PipelineStage) :
    (deliveredRow outcome r).attemptCount = r.attemptCount
      ∧ (deliveredRow outcome r).maxAttempts = r.maxAttempts
      ∧ (¬ (deliveredRow outcome r).status.isResolved →
        (deliveredRow outcome r).attemptCount < (deliveredRow outcome r).maxAttempts) := by
  unfold deliveredRow
  split
  · exact ⟨rfl, rfl, fun unresolved => absurd (.inl rfl) unresolved⟩
  · exact ⟨rfl, rfl, retryStatus_left⟩
  · exact ⟨rfl, rfl, fun unresolved => absurd (.inr rfl) unresolved⟩
  · exact ⟨rfl, rfl, retryStatus_left⟩

/-- A process that is lost leaves nothing to keep. -/
abbrev Anywhere : PipelineWorld → Prop := fun _ => True

theorem within_still : Still platform (Within platform watched) Anywhere where
  lost _ _ := trivial
  raised _ _ := trivial
  reply _ rest h := h.replies rest
  flush _ h := h.goes .flushed
  commit w h := by
    have goes := h.goes .committed
    exact goes.note (e := .committed) (fun _ => rfl) rfl

theorem within_create (n : StageName) (h : Within platform watched w) :
    wp (createStage n) (fun _ => Within platform watched) Anywhere w := by
  apply wp_createStage trivial
  · exact fun _ => h
  intro unloaded id rest
  have absent : w.state.rows n = none := by
    simp [PipelineSession.rows, Slot.current, unloaded]
  have h := h.replies rest
  constructor
  · intro m metered watched r hr
    rw [PipelineSession.rows_added] at hr
    split at hr
    · next same =>
      subst same
      cases hr
      have none := h.unspent m absent
      refine ⟨?_, (by decide : (0 : Int) ≤ 3), fun _ => (by decide : (0 : Int) < 3)⟩
      change spent m w.trace = 0 at none
      change ((spent m w.trace : Nat) : Int) ≤ 0
      omega
    · exact h.meter m metered watched r hr
  · intro trusted r hr
    rw [PipelineSession.rows_added] at hr
    split at hr
    · next same =>
      subst same
      cases hr
      rw [show stageEvents w.trace = [] from h.unasked absent]
      exact (unworked_new _ _ _ _).account
    · exact h.account trusted r hr
  · intro watched direct r hr
    rw [PipelineSession.rows_added] at hr
    split at hr
    · next same =>
      subst same
      cases hr
      rw [show stageEvents w.trace = [] from h.unasked absent]
      exact (unworked_new _ _ _ _).settlement
    · exact h.tally watched direct r hr
  · intro trusted i hi
    by_cases same : StageName.summary = n
    · subst same
      simp only [PipelineSession.setSlot, if_true] at hi
      cases hi
      exact owned_load _
    · simp only [PipelineSession.setSlot, if_neg same] at hi
      exact h.owned trusted i hi
  · intro i hi
    by_cases same : StageName.summary = n
    · subst same
      simp only [PipelineSession.setSlot, if_true] at hi
      cases hi
      exact secure_load _
    · simp only [PipelineSession.setSlot, if_neg same] at hi
      exact h.secure i hi
  · intro m gone
    rw [PipelineSession.rows_added] at gone
    split at gone
    · cases gone
    · exact h.unspent m gone
  · intro gone
    rw [PipelineSession.rows_added] at gone
    split at gone
    · cases gone
    · exact h.unasked gone

theorem within_transcript (h : Within platform watched w) :
    wp (attemptTranscriptStage service) (fun _ => Within platform watched) Anywhere w := by
  have metered : Metered .transcript := .inl rfl
  have spends (outcome : FetchOutcome) (m : StageName) (other : m ≠ .transcript) :
      (PipelineEvent.fetch (some outcome)).spends m = false := decide_eq_false other
  have started {r : PipelineStage} (attemptedAt : Time)
      (row : w.state.rows .transcript = some r) := own_row row (startAttempt attemptedAt)
  apply wp_attemptTranscriptStage trivial h
  · exact fun _ _ _ => h.rest metered fun _ _ => ⟨rfl, rfl, fun _ => .inl rfl⟩
  · exact fun _ _ _ => h.rest metered fun _ _ => ⟨rfl, rfl, fun _ => .inr rfl⟩
  · exact fun _ _ _ _ _ => trivial
  · intro r attemptedAt outcome text rest row isOpen _
    have own := own_row (started attemptedAt row) fetchedRow
    apply h.attempt metered row isOpen own (e := .fetch (some outcome)) _ rfl (spends outcome) rfl
    · rfl
    · rfl
    · exact fun unresolved => absurd (.inl rfl) unresolved
    · intro m other
      simp only [PipelineSession.setRow, PipelineSession.setSlot, if_neg other]
  · intro r attemptedAt outcome rest row isOpen _
    obtain ⟨count, budget, left⟩ := unfetchedRow_left outcome (startAttempt attemptedAt r)
    have own := own_row (started attemptedAt row) (unfetchedRow outcome)
    apply h.attempt metered row isOpen own
      (e := .fetch (some outcome)) _ rfl (spends outcome) rfl count budget left
    intro m other
    simp only [PipelineSession.setRow, PipelineSession.setSlot, if_neg other]

/-- A skip leaves the counts, and what is resolved. -/
theorem skipRow_left (r : PipelineStage) :
    (skipRow r).attemptCount = r.attemptCount ∧ (skipRow r).maxAttempts = r.maxAttempts
      ∧ (r.status.isResolved → (skipRow r).status.isResolved) := by
  unfold skipRow
  split
  · exact ⟨rfl, rfl, id⟩
  · next unresolved => exact ⟨rfl, rfl, fun resolved => absurd resolved unresolved⟩

theorem keeps_skipRow (r : PipelineStage) : Within.Keeps r (skipRow r) := by
  refine ⟨skipRow_hold r, fun l h => ?_, fun l h => ?_⟩
  all_goals
    unfold skipRow
    split
    · exact h
  · next unresolved =>
    refine ⟨⟨h.bare, h.planned⟩, fun going => ?_, fun quiet _ =>
      h.left quiet fun done => unresolved done.1⟩
    rcases going with isOpen | held
    · exact absurd isOpen skipped_not_open
    · exact (h.paid (.inr held)).same ⟨rfl, rfl, rfl⟩
  · next unresolved =>
    exact ⟨h.toTally.row (le_refl 0) rfl rfl, fun quiet _ =>
      h.left quiet fun done => unresolved done.1⟩

theorem within_skip (n : StageName) (video : Video) (h : Within platform watched w) :
    wp (skipStage service n video) (fun _ => Within platform watched) Anywhere w := by
  have skipped : Within platform watched { w with state := w.state.setRow n skipRow } := by
    refine h.setRow (fun _ r _ counted => ?_) fun _ => keeps_skipRow
    obtain ⟨count, budget, ends⟩ := skipRow_left r
    exact counted.row count budget ends
  apply wp_skipStage
  · exact fun _ => h
  · exact fun _ _ _ => skipped
  · exact fun _ _ _ => skipped.note (fun _ => rfl) rfl

theorem within_deliver (h : Within platform watched w) :
    wp (attemptTelegramStage service) (fun _ => Within platform watched) Anywhere w := by
  have metered : Metered .telegram := .inr rfl
  -- an open stage has no result a skip could take from it
  have unresolved {r : PipelineStage} {status : Status} (row : w.state.rows .telegram = some r)
      (isOpen : r.status.isOpen) (r' : PipelineStage) (row' : w.state.rows .telegram = some r') :
      r'.status.isResolved → status.isResolved := by
    obtain rfl : r = r' := Option.some.inj (row.symm.trans row')
    exact fun resolved => absurd isOpen resolved.not_open
  apply wp_attemptTelegramStage trivial h
  · intro r row isOpen _
    have skipped := h.rest metered (f := fun r => { r with
      status := .skipped, lastError := some shortProcessingDisabledError })
      fun r' row' => ⟨rfl, rfl, unresolved row isOpen r' row'⟩
    exact skipped.note (fun _ => rfl) rfl
  · intro r row isOpen _
    have skipped := h.rest metered (f := fun r => { r with status := .skipped })
      fun r' row' => ⟨rfl, rfl, unresolved row isOpen r' row'⟩
    exact skipped.note (fun _ => rfl) rfl
  · exact fun _ _ _ => h.rest metered fun _ _ => ⟨rfl, rfl, fun _ => .inr rfl⟩
  · exact fun _ _ _ _ _ => trivial
  · intro r attemptedAt outcome rest row isOpen
    have started := own_row row (startAttempt attemptedAt)
    obtain ⟨count, budget, left⟩ := deliveredRow_left outcome (startAttempt attemptedAt r)
    have own := own_row started (deliveredRow outcome)
    apply h.attempt metered row isOpen own (e := .notify (some outcome)) _ rfl
      (fun m other => decide_eq_false other) rfl count budget left
    intro m other
    simp only [PipelineSession.setRow, PipelineSession.setSlot, if_neg other]

/-- The alert is noted on the summary's row. -/
theorem Within.alert (h : Within platform watched w) {f : PipelineStage → PipelineStage}
    (hold : ∀ r, SameHold r (f r)) (same : ∀ r, SameAccount r (f r))
    (status : ∀ r, (f r).status = r.status) :
    Within platform watched { w with state := w.state.setRow .summary f } := by
  refine h.setRow (fun metered => ?_) fun _ r => Within.keeps_same (hold r) (same r) (status r)
  rcases metered with other | other <;> exact absurd other (by decide)

theorem within_single (h : Within platform watched w) :
    wp (attemptSingleFallback service) (fun _ => Within platform watched) Anywhere w := by
  apply wp_attemptSingleFallback h
  · exact fun _ _ _ => h.aside _
  · exact fun _ _ _ _ => h.aside _
  · intro _ reason _ _ _
    have told (attemptedAt : Time) (rest : List PipelineReply) (outcome : DeliveryOutcome) :=
      (((h.replies rest).aside (startAttempt attemptedAt)).note (e := .fallback
        (w.state.setRow .fallbackTelegram (startAttempt attemptedAt)).rows
        (fallbackMessage w.state.rows w.state.video.current reason) (some outcome)) (fun _ => rfl)
          rfl).aside (toldRow outcome)
    apply wp_sendFallback trivial
    · exact fun _ _ => trivial
    · exact fun attemptedAt outcome rest => told attemptedAt rest outcome
    · exact fun attemptedAt outcome rest => (told attemptedAt rest outcome).alert
        (fun _ => ⟨rfl, rfl, rfl⟩) (fun _ => ⟨rfl, rfl, rfl⟩) fun _ => rfl

/-- What is trusted of the summary's session, with what was done before it. -/
abbrev TrustedAfter (platform : Platform) (watched : StageName → Prop) (o l : List Event) : Prop :=
  Trusted platform watched (l ++ o)

/-- The account of the summary's session, with what was done before it. -/
abbrev AccountAfter (platform : Platform) (watched : StageName → Prop) (o : List Event) : RowState :=
  fun r l => TrustedAfter platform watched o l → Account r (l ++ o)

/-- The summary's work has ended, its account kept. -/
theorem Within.worked (h : Within platform watched w) {stage : StageInstance} {inner : StageWorld}
    (row : (w.state.slot .summary).row = some stage)
    {before : StageSession} (start : before.stage = stage)
    (account : Ended platform (TrustedAfter platform watched (stageEvents w.trace))
      (AccountAfter platform watched (stageEvents w.trace)) (fun _ _ => True) before inner)
    (tally : watched .summary → Direct (inner.trace ++ stageEvents w.trace) →
      Settlement inner.state.stage.current (inner.trace ++ stageEvents w.trace)) :
    Within platform watched (Pipeline.takeUp platform inner w) := by
  obtain ⟨quiet, written⟩ := h.secure stage row
  have calm := account.calm
  have firm := account.firm
  rw [start] at calm firm
  exact h.takeUp account.row tally account.owned ⟨calm quiet, firm quiet written⟩

section own

variable {stage : StageInstance}

/-- The account of the summary in its own session. -/
theorem Within.own (h : Within platform watched w) (row : (w.state.slot .summary).row = some stage)
    (trusted : Trusted platform watched (stageEvents w.trace)) :
    Account stage.current (stageEvents w.trace) :=
  h.account trusted _ (by simp [PipelineSession.rows, Slot.current, row])

theorem Within.ownTally (h : Within platform watched w)
    (row : (w.state.slot .summary).row = some stage) (own : watched .summary)
    (direct : Direct (stageEvents w.trace)) : Settlement stage.current (stageEvents w.trace) :=
  h.tally own direct _ (by simp [PipelineSession.rows, Slot.current, row])

end own

theorem within_attempt (h : Within platform watched w) :
    wp (attemptSummary platform service) (fun _ => Within platform watched) Anywhere w := by
  unfold attemptSummary
  apply wp_onSummary trivial h
  intro stage answers rest row
  rw [wp_bind]
  have h := h.replies rest
  have unresolved (live : Live stage.current) : ¬ Over stage.current :=
    fun done => done.1.not_open live.2
  have course := @account_course platform
    (TrustedAfter platform watched (stageEvents w.trace)) (fun _ _ => Trusted.tail)
    (stageEvents w.trace)
  refine wp_mono (wp_and (course.wp_attemptSummaryStage (fun live trusted => ?_)
    (fun trusted => h.owned trusted stage row) (reached_start rfl) (fun _ _ _ => trivial)
    fun _ _ _ => trivial) (wp_tally_attempt (stageEvents w.trace) (watched .summary) rfl
    (reached_start rfl) fun live own direct => ?_))
    (fun _ v => ?_) fun _ _ => trivial
  · have account := h.own row trusted
    exact ⟨account.paid (.inl live.2), account.left live.1 (unresolved live)⟩
  · have tally := h.ownTally row own direct
    exact ⟨tally.toTally, tally.left live.1 (unresolved live)⟩
  rintro ⟨⟨state, trace⟩ | ⟨_, ended⟩, tally⟩
  · exact h.idle row state trace
  rcases tally with ⟨state, trace⟩ | tally
  · exact h.idle row state trace
  · exact h.worked row rfl ended tally

theorem within_reconcile (broker : BrokerService) (h : Within platform watched w) :
    wp (onSummary platform (reconcileStage platform broker)) (fun _ => Within platform watched)
      Anywhere w := by
  apply wp_onSummary trivial h
  intro stage answers rest row
  have h := h.replies rest
  have held {now : Time} (due : reconcilable now stage.flushed) :
      stage.current.quarantinedAt.isSome = true :=
    ((h.secure stage row).firm ⟨due.2.1, due.2.2.2.1⟩).1.1
  have course := @account_reconciliation platform
    (TrustedAfter platform watched (stageEvents w.trace)) (fun _ _ => Trusted.tail)
    (fun _ _ completes trusted => Trusted.assigned trusted completes) (stageEvents w.trace)
  have account : wp (reconcileStage platform broker)
      (fun _ v => Ended platform (TrustedAfter platform watched (stageEvents w.trace))
        (AccountAfter platform watched (stageEvents w.trace)) (fun _ _ => True)
        (summarySession stage w.state) v)
      (fun _ => True) ⟨summarySession stage w.state, answers, []⟩ := by
    apply course.wp_reconcileStage
    · intro now _ _ due trusted
      exact ⟨(h.own row trusted).paid (.inr (held due)), held due⟩
    · exact h.own row
    · exact fun trusted => h.owned trusted stage row
    · exact reached_start rfl
    · exact fun _ _ _ => trivial
    · exact fun _ ended => ended
  refine wp_mono (wp_and account (wp_tally_reconcile (stageEvents w.trace) (watched .summary) rfl
    (reached_start rfl) (h.ownTally row) fun _ => held)) (fun _ v => ?_) fun _ _ => trivial
  rintro ⟨ended, tally⟩
  exact h.worked row rfl ended tally

theorem within_request (audit : String) (h : Within platform watched w) :
    wp (onSummary platform (requestReconciliation platform audit))
      (fun _ => Within platform watched) Anywhere w := by
  apply wp_onSummary trivial h
  intro stage answers rest row
  have h := h.replies rest
  let past : RowState := fun r l => AccountAfter platform watched (stageEvents w.trace) r l
    ∧ (watched .summary → Direct (l ++ stageEvents w.trace) →
      Settlement r (l ++ stageEvents w.trace))
  have sturdy : Sturdy (TrustedAfter platform watched (stageEvents w.trace)) past := by
    intro d r l kept
    by_cases trusted : TrustedAfter platform watched (stageEvents w.trace) l
    · exact .inl trusted
    · exact .inr ⟨fun other => absurd other trusted, fun own direct =>
        (kept.2 own direct).same rfl rfl rfl rfl⟩
  apply wp_requestReconciliation (fun _ _ _ => trivial) sturdy
  · exact fun _ _ _ kept _ _ => ⟨fun trusted => (kept.1 trusted).same ⟨rfl, rfl, rfl⟩ rfl rfl,
      fun own direct => (kept.2 own direct).same rfl rfl rfl rfl⟩
  · exact ⟨h.own row, h.ownTally row⟩
  · exact fun trusted => h.owned trusted stage row
  · exact reached_start rfl
  · exact fun _ _ => trivial
  · exact fun v ended => h.worked row rfl (ended.weaken fun _ _ kept => kept.1) ended.row.2

theorem within_steps (platform : Platform) (service : PipelineService) :
    Steps platform service (Within platform watched) Anywhere where
  still := within_still
  create _ n := within_create n
  transcript _ := within_transcript
  attempt _ := within_attempt
  deliver _ := within_deliver
  skip _ n video _ := within_skip n video
  overlook w n _ _ _ h := within_skip n w.state.video.current (h.note (fun _ => rfl) rfl)
  note _ _ _ _ _ h := h.note (fun _ => rfl) rfl
  explain _ _ h := h.setRow (fun _ _ _ counted => counted.row rfl rfl id) fun _ _ =>
    Within.keeps_same ⟨rfl, rfl, rfl⟩ ⟨rfl, rfl, rfl⟩ rfl
  single _ _ := within_single
  request _ := within_request
  video _ _ h := ⟨h.meter, h.account, h.tally, h.owned, h.secure, h.unspent, h.unasked⟩

theorem within_operation (activity : Activity) (forward : activity ≠ .call .rollback)
    (h : Within platform watched w) :
    wp (activity.proc platform service) (fun _ => Within platform watched) Anywhere w := by
  apply activity.keeps
  · intro call same
    refine ((within_steps platform service).freely fun _ => within_single).keeps call h (fun _ => ?_)
      fun undone => absurd (same.trans (congrArg _ undone)) forward
    exact wp_reconcileAll within_still (fun broker _ _ _ _ _ => within_reconcile broker) h
  · exact fun _ => wp_finalizeSummaryCircuit within_still
      (fun _ h => h.alert (fun _ => ⟨rfl, rfl, rfl⟩) (fun _ => ⟨rfl, rfl, rfl⟩) fun _ => rfl)
      (fun _ => within_attempt) h

end steps

end YTPipe.Pipeline
