import YTPipe.Polling.Runs

/-!
# E-mail notifications

At most two sends for a delivery, in different runs, where no run is rolled
back; and with runs that may be rolled back, no second send after an accepted
one that a commit has followed.
-/

namespace YTPipe.Polling

/-- A send, with the number of its run and the delivery as it stood. -/
structure Send where
  run : Nat
  delivery : NotificationDelivery
  outcome : Option EmailOutcome

/-- The runs that have begun. -/
def runCount (trace : List PollEvent) : Nat := trace.countP (· matches .started)

/-- The sends of a delivery, oldest first. -/
def sendsOf (key : Int × String) : List PollEvent → List Send
  | [] => []
  | .email d outcome :: earlier =>
    if d.key = key then sendsOf key earlier ++ [⟨runCount earlier, d, outcome⟩]
    else sendsOf key earlier
  | _ :: earlier => sendsOf key earlier

variable {platform : PollPlatform} {key : Int × String} {trace : List PollEvent}

theorem account_runs (trace : List PollEvent) : (account key trace).runs = runCount trace := by
  induction trace with
  | nil => rfl
  | cons e earlier ih =>
    cases e with
    | started => simp [account, Account.record, runCount, ih] at ih ⊢
    | email d outcome =>
      have same : ((account key earlier).record key (.email d outcome)).runs
          = (account key earlier).runs := by
        cases outcome with
        | none => rfl
        | some o => simp only [Account.record]; split <;> rfl
      simpa [account, runCount, same] using ih
    | skipped key' =>
      have same : ((account key earlier).record key (.skipped key')).runs
          = (account key earlier).runs := by
        simp only [Account.record]
        split <;> rfl
      simpa [account, runCount, same] using ih
    | _ => simpa [account, Account.record, runCount] using ih

/-- The e-mail service returned or raised an `EmailDeliveryAttemptError`. -/
def PollEvent.answered : PollEvent → Bool
  | .email _ outcome => outcome.isSome
  | _ => true

/-- Where every send is answered and nothing is rolled back, the account has
every send. -/
theorem account_sends (answered : ∀ e ∈ trace, e.answered) (kept : .rolledBack ∉ trace) :
    (sends (account key trace).sent).map some
      = (sendsOf key trace).map fun s => s.outcome.map (.sent s.run) := by
  induction trace with
  | nil => rfl
  | cons e earlier ih =>
    have ih := ih (fun e h => answered e (List.mem_cons_of_mem _ h))
      fun h => kept (List.mem_cons_of_mem _ h)
    cases e with
    | email d outcome =>
      cases outcome with
      | none => cases answered _ (List.mem_cons_self ..)
      | some o =>
        simp only [account, Account.record, sendsOf]
        split
        · simp only [sends_append, List.map_append, ih, sends_sent, sends_nil, List.map_cons,
            List.map_nil, Option.map_some, account_runs]
        · exact ih
    | skipped key' =>
      simp only [account, Account.record, sendsOf]
      split
      · simpa using ih
      · exact ih
    | rolledBack => exact absurd (List.mem_cons_self ..) kept
    | _ => exact ih

theorem sendsOf_fair (fair : Fair key trace) : ∀ s ∈ sendsOf key trace, ¬ s.delivery.status.terminal := by
  induction trace with
  | nil =>
    intro s hs
    cases hs
  | cons e earlier ih =>
    cases e with
    | email d outcome =>
      simp only [Fair] at fair
      simp only [sendsOf]
      split
      · next own =>
        intro s hs
        rcases List.mem_append.mp hs with hs | hs
        · exact ih fair.2 s hs
        · rw [List.mem_singleton.mp hs]
          exact (fair.1 own).2
      · exact ih fair.2
    | _ => exact ih fair

theorem runsOf_sends (h : List Mark) : runsOf (sends h) = runsOf h := by
  induction h with
  | nil => rfl
  | cons m h ih =>
    cases m with
    | sent i o => exact congrArg (i :: ·) ih
    | skipped => exact ih

theorem lawful_isSome {d : Option NotificationDelivery} {h : List Mark} (hl : Lawful d h) :
    ∃ s, machine h = some s := by
  cases d with
  | none => exact ⟨.pending, by rw [show h = [] from hl]; rfl⟩
  | some d => exact ⟨_, hl.1⟩

theorem lawful_attempts {d : Option NotificationDelivery} {h : List Mark} (hl : Lawful d h) :
    (d.map (·.attemptCount)).getD 0 = (sends h).length := by
  cases d with
  | none => rw [show h = [] from hl]; rfl
  | some d => exact hl.2

/-- A delivery that is given up or delivered stays so, with the sends it had. -/
theorem settled_terminal {h : List Mark} {d : Option NotificationDelivery} {r : NotificationDelivery}
    {base : List Mark} (hr : Lawful (some r) base) (ht : r.status.terminal) (hp : base <+: h)
    (hd : Lawful d h) :
    ∃ r', d = some r' ∧ r'.status = r.status ∧ r'.attemptCount = r.attemptCount := by
  obtain ⟨h', rfl⟩ := hp
  cases d with
  | none =>
    have empty : base ++ h' = [] := hd
    have hm := hr.1
    rw [(List.append_eq_nil_iff.mp empty).1] at hm
    have pending : r.status = .pending := (Option.some.inj hm).symm
    exact absurd (pending ▸ ht) not_terminal_pending
  | some r' =>
    obtain ⟨none, same⟩ := machine_terminal hr.1 ht hd.1
    refine ⟨r', rfl, same, ?_⟩
    rw [hd.2, hr.2, sends_append, none, List.append_nil]

/-- **A delivery is sent at most twice.** In every sequence of polls none of
which is rolled back, with an e-mail service that answers every send: the
second send is in a later run and follows a failure that may pass, a delivery
that is delivered, failed or skipped is not sent again, and its attempts are
its sends. -/
theorem delivery_machine (platform : PollPlatform) (steps : List PollStep) (db : Db)
    (remote : Int → Playlist) (key : Int × String)
    (answered : ∀ e ∈ (runPolls platform steps (startPolling db.fresh remote)).trace, e.answered)
    (kept : .rolledBack ∉ (runPolls platform steps (startPolling db.fresh remote)).trace) :
    let w := runPolls platform steps (startPolling db.fresh remote)
    let sent := sendsOf key w.trace
    sent.length ≤ 2
      ∧ (∀ first second, sent = [first, second] →
        first.run < second.run ∧ ∃ text, first.outcome = some (.failed text true))
      ∧ (∀ s ∈ sent, ¬ s.delivery.status.terminal)
      ∧ (∀ before after, steps = before ++ after → ∀ row,
        (runPolls platform before (startPolling db.fresh remote)).state.db.durable.deliveries.get key
          = some row → row.status.terminal →
        ∃ row', w.state.db.durable.deliveries.get key = some row' ∧ row'.status = row.status
          ∧ row'.attemptCount = row.attemptCount)
      ∧ ((w.state.db.durable.deliveries.get key).map (·.attemptCount)).getD 0 = sent.length := by
  intro w sent
  have settled : Settled [] (view key (facts w)) := runPolls_settled startPolling_settled
  have marks : (sends (account key w.trace).sent).map some
      = sent.map fun s => s.outcome.map (.sent s.run) := account_sends answered kept
  have lawful : Lawful (w.state.db.durable.deliveries.get key) (account key w.trace).sent :=
    settled.kept ▸ settled.durable
  have count : (sends (account key w.trace).sent).length = sent.length := by
    simpa using congrArg List.length marks
  obtain ⟨status, hm⟩ := lawful_isSome lawful
  obtain ⟨bound, second⟩ := machine_sends hm
  refine ⟨count ▸ bound, ?_, sendsOf_fair settled.fair, ?_, count ▸ lawful_attempts lawful⟩
  · intro a b two
    rw [two] at marks
    obtain ⟨m, rest, hs, hm₁, marks⟩ := List.map_eq_cons_iff.mp marks
    obtain ⟨m', rest', rfl, hm₂, marks⟩ := List.map_eq_cons_iff.mp marks
    obtain ⟨i, text, rfl⟩ := second m m' rest' hs
    obtain ⟨o, ho, sent₁⟩ := Option.map_eq_some_iff.mp hm₁.symm
    obtain ⟨o', -, sent₂⟩ := Option.map_eq_some_iff.mp hm₂.symm
    cases sent₁
    subst sent₂
    have increasing := settled.ordered.increasing
    change (runsOf (account key w.trace).sent).Pairwise (· < ·) at increasing
    rw [← runsOf_sends, hs] at increasing
    refine ⟨?_, text, ho⟩
    exact (List.pairwise_cons.mp increasing).1 b.run (List.mem_cons_self ..)
  · intro before after split row durable terminal
    have earlier : Settled [] (view key (facts (runPolls platform before
      (startPolling db.fresh remote)))) := runPolls_settled startPolling_settled
    have later : Settled _ (view key (facts (runPolls platform after _))) :=
      runPolls_settled ({ earlier with base := List.prefix_refl _ } : Settled _ _)
    rw [← runPolls_append, ← split] at later
    have lawful' := earlier.durable
    change Lawful ((runPolls platform before (startPolling db.fresh
      remote)).state.db.durable.deliveries.get key) _ at lawful'
    rw [durable] at lawful'
    have grown := later.base
    rw [later.kept] at grown
    exact settled_terminal lawful' terminal grown lawful

theorem delivery_machine_retried :
    (sendsOf (1, "new") (runPolls Sample.platform Sample.retried
      (startPolling Sample.db.fresh Sample.remote)).trace).length = 2 ∧
    let w := runPolls Sample.platform Sample.retried (startPolling Sample.db.fresh Sample.remote)
    let sent := sendsOf (1, "new") w.trace
    sent.length ≤ 2
      ∧ (∀ first second, sent = [first, second] →
        first.run < second.run ∧ ∃ text, first.outcome = some (.failed text true))
      ∧ (∀ s ∈ sent, ¬ s.delivery.status.terminal)
      ∧ (∀ before after, Sample.retried = before ++ after → ∀ row,
        (runPolls Sample.platform before
          (startPolling Sample.db.fresh Sample.remote)).state.db.durable.deliveries.get (1, "new")
          = some row → row.status.terminal →
        ∃ row', w.state.db.durable.deliveries.get (1, "new") = some row'
          ∧ row'.status = row.status ∧ row'.attemptCount = row.attemptCount)
      ∧ ((w.state.db.durable.deliveries.get (1, "new")).map (·.attemptCount)).getD 0
        = sent.length :=
  ⟨by decide +kernel, delivery_machine Sample.platform Sample.retried Sample.db Sample.remote
    (1, "new") (by decide +kernel) (by decide +kernel)⟩

/-! Runs that are rolled back. -/

theorem account_kept_sent (trace : List PollEvent) :
    (account key trace).kept <+: (account key trace).sent := by
  induction trace with
  | nil => exact List.prefix_refl _
  | cons e earlier ih =>
    cases e with
    | email d outcome =>
      cases outcome with
      | none => exact ih
      | some o =>
        simp only [account, Account.record]
        split
        · exact ih.trans (List.prefix_append _ _)
        · exact ih
    | skipped key' =>
      simp only [account, Account.record]
      split
      · exact ih.trans (List.prefix_append _ _)
      · exact ih
    | committed => exact List.prefix_refl _
    | rolledBack => exact List.prefix_refl _
    | _ => exact ih

/-- What is committed is never lost. -/
theorem account_kept_mem {m : Mark} (later earlier : List PollEvent)
    (h : m ∈ (account key earlier).kept) : m ∈ (account key (later ++ earlier)).kept := by
  induction later with
  | nil => exact h
  | cons e later ih =>
    cases e with
    | email d outcome =>
      cases outcome with
      | none => exact ih
      | some o =>
        simp only [List.cons_append, account, Account.record]
        split <;> exact ih
    | skipped key' =>
      simp only [List.cons_append, account, Account.record]
      split <;> exact ih
    | committed => exact (account_kept_sent (later ++ earlier)).subset ih
    | _ => exact ih

/-- What was done for a delivery is lost only with a rollback that no commit
came before. -/
theorem account_mem {m : Mark} (later earlier : List PollEvent)
    (h : m ∈ (account key earlier).sent) :
    m ∈ (account key (later ++ earlier)).kept
      ∨ (m ∈ (account key (later ++ earlier)).sent ∧ .committed ∉ later)
      ∨ ∃ after before, later = after ++ .rolledBack :: before ∧ .committed ∉ before := by
  induction later with
  | nil => exact .inr (.inl ⟨h, List.not_mem_nil⟩)
  | cons e later ih =>
    rcases ih with ih | ⟨ih, none⟩ | ⟨after, before, rfl, none⟩
    · exact .inl (account_kept_mem [e] _ ih)
    · cases e with
      | committed => exact .inl ih
      | rolledBack => exact .inr (.inr ⟨[], later, rfl, none⟩)
      | email d outcome =>
        refine .inr (.inl ⟨?_, by simpa using none⟩)
        cases outcome with
        | none => exact ih
        | some o =>
          simp only [List.cons_append, account, Account.record]
          split
          · exact List.mem_append_left _ ih
          · exact ih
      | skipped key' =>
        refine .inr (.inl ⟨?_, by simpa using none⟩)
        simp only [List.cons_append, account, Account.record]
        split
        · exact List.mem_append_left _ ih
        · exact ih
      | _ => exact .inr (.inl ⟨ih, by simpa using none⟩)
    · exact .inr (.inr ⟨e :: after, before, rfl, none⟩)

theorem fair_split {newer older : List PollEvent} {d : NotificationDelivery}
    {o : Option EmailOutcome} (fair : Fair key (newer ++ .email d o :: older)) (own : d.key = key) :
    machine (account key older).sent = some d.status ∧ ¬ d.status.terminal := by
  induction newer with
  | nil => exact fair.1 own
  | cons e newer ih =>
    cases e with
    | email => exact ih fair.2
    | _ => exact ih fair

/-- The mark of an accepted send. -/
theorem accepted_mem {d : NotificationDelivery} (own : d.key = key) (older : List PollEvent) :
    .sent (account key older).runs .returned
      ∈ (account key (.email d (some .returned) :: older)).sent := by
  simp [account, Account.record, own]

/-- **An accepted e-mail is lost only with its run.** In every sequence of polls,
any of which may raise anywhere: a second send for a delivery that was accepted
comes after a rollback that no commit came before, and what a commit has
followed is durable as delivered. -/
theorem email_not_repeated (platform : PollPlatform) (steps : List PollStep) (db : Db)
    (remote : Int → Playlist) (key : Int × String) :
    let w := runPolls platform steps (startPolling db.fresh remote)
    (∀ newer mid older d o d',
      w.trace = newer ++ .email d o :: (mid ++ .email d' (some .returned) :: older) →
      d.key = key → d'.key = key →
      ∃ after before, mid = after ++ .rolledBack :: before ∧ .committed ∉ before)
    ∧ ∀ newer mid older d',
      w.trace = newer ++ .committed :: (mid ++ .email d' (some .returned) :: older) →
      d'.key = key → .rolledBack ∉ mid →
      ∃ row, w.state.db.durable.deliveries.get key = some row ∧ row.status = .delivered := by
  intro w
  have settled : Settled [] (view key (facts w)) := runPolls_settled startPolling_settled
  constructor
  · intro newer mid older d o d' split own own'
    have fair : Fair key w.trace := settled.fair
    rw [split] at fair
    obtain ⟨hm, open_⟩ := fair_split fair own
    have unsent : ∀ i, .sent i .returned ∉ (account key (mid ++ .email d' (some .returned)
        :: older)).sent := by
      intro i accepted
      exact open_ (.inl (machine_returned hm accepted))
    rcases account_mem mid _ (accepted_mem own' older) with kept | ⟨sent, -⟩ | lost
    · exact absurd ((account_kept_sent _).subset kept) (unsent _)
    · exact absurd sent (unsent _)
    · exact lost
  · intro newer mid older d' split own' whole
    have durable : Lawful (w.state.db.durable.deliveries.get key) (account key w.trace).kept :=
      settled.durable
    have kept : .sent (account key older).runs .returned ∈ (account key w.trace).kept := by
      rw [split]
      apply account_kept_mem
      rcases account_mem (.committed :: mid) _ (accepted_mem own' older) with kept | ⟨-, no⟩ | lost
      · exact kept
      · exact absurd (List.mem_cons_self ..) no
      · obtain ⟨after, before, same, -⟩ := lost
        have rolled : .rolledBack ∈ .committed :: mid := by simp [same]
        rcases List.mem_cons.mp rolled with no | no
        · cases no
        · exact absurd no whole
    cases row : w.state.db.durable.deliveries.get key with
    | none =>
      rw [row] at durable
      rw [show (account key w.trace).kept = [] from durable] at kept
      cases kept
    | some r =>
      rw [row] at durable
      exact ⟨r, rfl, machine_returned durable.1 kept⟩

/-- The trace of the two runs the first of which fails at its end. -/
def Sample.abortedTrace : List PollEvent :=
  (runPolls Sample.platform aborted (startPolling db.fresh remote)).trace

/-- A run that fails after its e-mail was accepted is rolled back with it, and
the next run sends the e-mail again. -/
theorem email_repeated_after_rollback :
    ¬ ∀ (steps : List PollStep) (db : Db) (remote : Int → Playlist) (newer mid older : List PollEvent)
      (d d' : NotificationDelivery) (o : Option EmailOutcome),
      (runPolls Sample.platform steps (startPolling db.fresh remote)).trace
        = newer ++ .email d o :: (mid ++ .email d' (some .returned) :: older) → d.key ≠ d'.key := by
  intro h
  exact h Sample.aborted Sample.db Sample.remote (Sample.abortedTrace.take 1)
    ((Sample.abortedTrace.drop 2).take 5) (Sample.abortedTrace.drop 8)
    (NotificationDelivery.new (1, "new")) (NotificationDelivery.new (1, "new")) (some .returned)
    (by decide +kernel) rfl

end YTPipe.Polling
