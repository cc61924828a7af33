import YTPipe.Pipeline.Session

/-!
# The board of a video

What the fallback depends on: the status of each stage, and whether the summary is
in quarantine.
-/

namespace YTPipe.Pipeline

open Broker

structure Board where
  status : StageName → Option Status
  quarantined : Bool

def board (rows : Rows) : Board where
  status n := (rows n).map (·.status)
  quarantined := (rows .summary).any (·.quarantinedAt.isSome)

/-- A message about the failed stage. -/
def PipelineEvent.tells (n : StageName) : PipelineEvent → Bool
  | .fallback rows _ (some .sent) => decide ((board rows).status n = some .failed)
  | _ => false

/-- A message that Telegram rejects for good. -/
def PipelineEvent.rejects : PipelineEvent → Bool
  | .fallback _ _ (some (.refused _ false)) => true
  | _ => false

namespace Board

variable {b : Board} {n : StageName} {l : List PipelineEvent}

def put (n : StageName) (s : Status) (b : Board) : Board :=
  { b with status := fun m => if m = n then some s else b.status m }

/-- Something to tell the user of. -/
def Troubled (b : Board) : Prop :=
  (∃ n ∈ workStages, b.status n = some .failed) ∨ b.quarantined = true

/-- Nothing is left that may fail. -/
def Finished (b : Board) : Prop :=
  (∀ n ∈ workStages, ∃ s, b.status n = some s ∧ ¬ s.isOpen) ∧ b.quarantined = false

instance (b : Board) : Decidable b.Troubled := inferInstanceAs (Decidable (_ ∨ _))

instance (b : Board) : Decidable b.Finished :=
  decidable_of_iff ((∀ n ∈ workStages, (b.status n).any (fun s => decide ¬ s.isOpen) = true)
    ∧ b.quarantined = false) (by simp only [Option.any_eq_true, decide_eq_true_eq]; exact Iff.rfl)

/-- The fallback has been used up. -/
def Spent (b : Board) : Prop := b.status .fallbackTelegram = some .completed

instance (b : Board) : Decidable b.Spent := inferInstanceAs (Decidable (_ = _))

/-- The stage may be attempted. -/
def Ready (b : Board) : StageName → Prop
  | .transcript => ∃ s, b.status .transcript = some s ∧ s.isOpen
  | .summary => b.status .transcript = some .completed ∧ b.quarantined = false
      ∧ ∃ s, b.status .summary = some s ∧ s.isOpen
  | .telegram => b.status .summary = some .completed
      ∧ ∃ s, b.status .telegram = some s ∧ s.isOpen
  | .fallbackTelegram => False

/-- The stages come one after the other. -/
structure Chained (b : Board) : Prop where
  sound : b.quarantined = true →
    b.status .summary ≠ some .completed ∧ b.status .summary ≠ some .failed
  transcribed : b.status .summary = some .completed ∨ b.status .summary = some .failed
    ∨ b.quarantined = true → b.status .transcript = some .completed
  summarised : b.status .telegram = some .failed → b.status .summary = some .completed

/-- The fallback is used up only for what there is to tell, and ends only with a
message or its rejection. -/
structure Accounted (b : Board) (l : List PipelineEvent) : Prop where
  spent : b.Spent → b.Troubled ∨ b.Finished
  told : ∀ n ∈ workStages, b.Spent → b.status n = some .failed →
    l.any (PipelineEvent.tells n) = true
  rejected : b.status .fallbackTelegram = some .failed → l.any PipelineEvent.rejects = true
  unskipped : b.status .fallbackTelegram ≠ some .skipped

structure Sane (b : Board) (l : List PipelineEvent) : Prop extends Chained b, Accounted b l

theorem Accounted.cons (h : Accounted b l) (e : PipelineEvent) : Accounted b (e :: l) where
  spent := h.spent
  told n hn spent failed := by
    rw [List.any_cons, h.told n hn spent failed, Bool.or_true]
  rejected failed := by
    rw [List.any_cons, h.rejected failed, Bool.or_true]
  unskipped := h.unskipped

theorem Sane.cons (h : Sane b l) (e : PipelineEvent) : Sane b (e :: l) :=
  ⟨h.toChained, h.toAccounted.cons e⟩

theorem Ready.isOpen (ready : b.Ready n) :
    n ∈ workStages ∧ ∃ s, b.status n = some s ∧ s.isOpen := by
  cases n with
  | transcript => exact ⟨by decide, ready⟩
  | summary => exact ⟨by decide, ready.2.2⟩
  | telegram => exact ⟨by decide, ready.2⟩
  | fallbackTelegram => exact ready.elim

theorem isOpen_or {s : Status} (isOpen : s.isOpen) : s ≠ .completed ∧ s ≠ .failed ∧ s ≠ .skipped := by
  rcases isOpen with rfl | rfl <;> decide

/-- While a stage may be attempted nothing has failed. -/
theorem Chained.unfailed (h : Chained b) (ready : b.Ready n) {m : StageName}
    (hm : m ∈ workStages) : b.status m ≠ some .failed := by
  have := @isOpen_or
  obtain ⟨sound, transcribed, summarised⟩ := h
  cases m with
  | fallbackTelegram => exact absurd hm (by decide)
  | _ => cases n <;> simp only [Ready] at ready <;> grind

/-- While a stage may be attempted there is nothing to tell. -/
theorem Chained.calm (h : Chained b) (ready : b.Ready n) : ¬ b.Troubled ∧ ¬ b.Finished := by
  constructor
  · rintro (⟨m, hm, failed⟩ | quarantined)
    · exact h.unfailed ready hm failed
    · have fetched := h.transcribed (.inr (.inr quarantined))
      have unfinished := (h.sound quarantined).1
      cases n with
      | transcript =>
        obtain ⟨s, hs, isOpen⟩ := ready
        cases hs.symm.trans fetched
        exact completed_not_open isOpen
      | summary => exact absurd (quarantined.symm.trans ready.2.1) (by decide)
      | telegram => exact unfinished ready.1
      | fallbackTelegram => exact ready
  · intro finished
    obtain ⟨hn, s, hs, isOpen⟩ := ready.isOpen
    obtain ⟨s', hs', shut⟩ := finished.1 n hn
    cases hs.symm.trans hs'
    exact shut isOpen

/-- So the fallback is not used up. -/
theorem Sane.unspent (h : Sane b l) (ready : b.Ready n) : ¬ b.Spent := fun spent =>
  (h.spent spent).elim (h.toChained.calm ready).1 (h.toChained.calm ready).2

/-- A board with the same fallback, which is not used up. -/
theorem Accounted.unspent {b' : Board} (h : Accounted b l) (unspent : ¬ b.Spent)
    (same : b'.status .fallbackTelegram = b.status .fallbackTelegram) : Accounted b' l where
  spent spent := absurd (same.symm.trans spent) unspent
  told _ _ spent := absurd (same.symm.trans spent) unspent
  rejected failed := h.rejected (same.symm.trans failed)
  unskipped skipped := h.unskipped (same.symm.trans skipped)

/-- An attempt at a stage, whatever comes of it. -/
theorem Sane.attempt (h : Sane b l) (ready : b.Ready n) (s : Status) (q : Bool)
    (own : n ≠ .summary → q = b.quarantined)
    (sound : n = .summary → q = true → s ≠ .completed ∧ s ≠ .failed) :
    Sane { b.put n s with quarantined := q } l := by
  have work : StageName.fallbackTelegram ≠ n := by
    rintro rfl
    exact ready
  refine ⟨?_, h.toAccounted.unspent (h.unspent ready) (if_neg work)⟩
  have := @isOpen_or
  obtain ⟨⟨sound', transcribed, summarised⟩, _⟩ := h
  cases n <;> simp only [Ready] at ready <;> constructor <;> simp only [put] at * <;> grind

theorem failed_put {m : StageName} {s : Status} (other : s ≠ .failed)
    (failed : (b.put n s).status m = some .failed) : b.status m = some .failed := by
  unfold put at failed
  dsimp only at failed
  split at failed
  · exact absurd (Option.some.inj failed) other
  · exact failed

theorem Troubled.put (h : b.Troubled) {s : Status}
    (kept : n ∈ workStages → b.status n ≠ some .failed) : (b.put n s).Troubled := by
  rcases h with ⟨m, hm, failed⟩ | quarantined
  · refine .inl ⟨m, hm, (if_neg ?_).trans failed⟩
    rintro rfl
    exact kept hm failed
  · exact .inr quarantined

theorem Finished.put (h : b.Finished) {s : Status} (shut : n ∈ workStages → ¬ s.isOpen) :
    (b.put n s).Finished := by
  refine ⟨fun m hm => ?_, h.2⟩
  by_cases same : m = n
  · exact ⟨s, if_pos same, shut (same ▸ hm)⟩
  · obtain ⟨s', hs', shut'⟩ := h.1 m hm
    exact ⟨s', (if_neg same).trans hs', shut'⟩

/-- A stage that has not failed takes another status, and what was finished stays so. -/
theorem Accounted.put (h : Accounted b l) (work : n ≠ .fallbackTelegram) {s : Status}
    (kept : b.status n ≠ some .failed) (other : s ≠ .failed)
    (finished : b.Finished → ¬ s.isOpen) : Accounted (b.put n s) l := by
  have still : (b.put n s).status .fallbackTelegram = b.status .fallbackTelegram :=
    if_neg work.symm
  constructor
  · intro used
    rcases h.spent (still.symm.trans used) with troubled | past
    · exact .inl (troubled.put fun _ => kept)
    · exact .inr (past.put fun _ => finished past)
  · exact fun m hm used failed => h.told m hm (still.symm.trans used) (failed_put other failed)
  · exact fun failed => h.rejected (still.symm.trans failed)
  · exact fun skipped => h.unskipped (still.symm.trans skipped)

/-- A stage that is there now. -/
theorem Sane.create (h : Sane b l) (absent : b.status n = none)
    (quiet : n = .summary → b.quarantined = false) : Sane (b.put n .pending) l := by
  have ⟨⟨sound, transcribed, summarised⟩, _⟩ := h
  constructor
  · cases n <;> constructor <;> simp only [put] at * <;> grind
  by_cases fallback : n = .fallbackTelegram
  · subst fallback
    exact ⟨nofun, fun _ _ => nofun, nofun, nofun⟩
  have work : n ∈ workStages := by
    revert fallback
    cases n <;> decide
  apply h.toAccounted.put fallback
  · exact absent.symm ▸ nofun
  · decide
  · intro finished
    obtain ⟨s, hs, _⟩ := finished.1 n work
    cases absent.symm.trans hs

/-- A stage that is not to be attempted. -/
theorem Sane.skip (h : Sane b l) (named : n = .summary ∨ n = .telegram) {s : Status}
    (had : b.status n = some s) (going : s ≠ .completed ∧ s ≠ .failed) :
    Sane (b.put n .skipped) l := by
  have ⟨⟨sound, transcribed, summarised⟩, _⟩ := h
  constructor
  · rcases named with rfl | rfl <;> constructor <;> simp only [put] at * <;> grind
  apply h.toAccounted.put
  · rcases named with rfl | rfl <;> decide
  · rintro failed
    cases had.symm.trans failed
    exact going.2 rfl
  · decide
  · exact fun _ => skipped_not_open

/-- A quarantine is resolved, before the fallback was used up for it. -/
theorem Sane.resolve (h : Sane b l) (quarantined : b.quarantined = true) (unspent : ¬ b.Spent)
    {s : Status} {q : Bool} (sound : q = true → s ≠ .completed ∧ s ≠ .failed) :
    Sane { b.put .summary s with quarantined := q } l := by
  refine ⟨?_, h.toAccounted.unspent unspent rfl⟩
  obtain ⟨⟨sound', transcribed, summarised⟩, _⟩ := h
  constructor <;> simp only [put] at * <;> grind

section fallback

variable {e : PipelineEvent}

theorem Chained.fallback (h : Chained b) (s : Status) : Chained (b.put .fallbackTelegram s) where
  sound := h.sound
  transcribed := h.transcribed
  summarised := h.summarised

theorem work_fallback {m : StageName} (hm : m ∈ workStages) (s : Status) :
    (b.put .fallbackTelegram s).status m = b.status m := by
  refine if_neg ?_
  rintro rfl
  exact absurd hm (by decide)

/-- The user is told of all that has failed. -/
theorem Sane.tell (h : Sane b l) (due : b.Troubled ∨ b.Finished)
    (all : ∀ n ∈ workStages, b.status n = some .failed → e.tells n = true) :
    Sane (b.put .fallbackTelegram .completed) (e :: l) := by
  refine ⟨h.toChained.fallback _, fun _ => ?_, fun n hn _ failed => ?_, nofun, nofun⟩
  · rcases due with troubled | finished
    · exact .inl (troubled.put fun work => absurd work (by decide))
    · exact .inr (finished.put fun work => absurd work (by decide))
  · rw [List.any_cons, all n hn ((work_fallback hn _).symm.trans failed), Bool.true_or]

/-- There is nothing to tell, and will not be. -/
theorem Sane.close (h : Sane b l) (calm : ¬ b.Troubled) (finished : b.Finished) :
    Sane (b.put .fallbackTelegram .completed) l := by
  refine ⟨h.toChained.fallback _, fun _ => .inr (finished.put fun work => absurd work (by decide)),
    ?_, nofun, nofun⟩
  intro n hn _ failed
  exact absurd (.inl ⟨n, hn, (work_fallback hn _).symm.trans failed⟩) calm

theorem Sane.postpone (h : Sane b l) : Sane (b.put .fallbackTelegram .pendingRetry) l :=
  ⟨h.toChained.fallback _, nofun, fun _ _ => nofun, nofun, nofun⟩

theorem Sane.reject (h : Sane b l) (rejects : e.rejects = true) :
    Sane (b.put .fallbackTelegram .failed) (e :: l) := by
  refine ⟨h.toChained.fallback _, nofun, fun _ _ => nofun, fun _ => ?_, nofun⟩
  rw [List.any_cons, rejects, Bool.true_or]

end fallback

end Board

end YTPipe.Pipeline
