import YTPipe.Polling.Machine
import YTPipe.Polling.Session

/-!
# Runs and deliveries

Every copy of a delivery, the durable one, the one a query sees and the one in
memory, is where the delivery machine stands after a part of what was done for
it: `Recorded`. A run keeps it, whatever the surroundings answer and wherever
the run is lost.
-/

namespace YTPipe.Polling

open Proc

/-- What was done for a delivery: what is committed, and what is not rolled back. -/
structure Account where
  runs : Nat
  kept : List Mark
  sent : List Mark

def Account.record (key : Int × String) (a : Account) : PollEvent → Account
  | .started => { a with runs := a.runs + 1 }
  | .email d (some outcome) =>
    if d.key = key then { a with sent := a.sent ++ [.sent a.runs outcome] } else a
  | .skipped key' => if key' = key then { a with sent := a.sent ++ [.skipped] } else a
  | .committed => { a with kept := a.sent }
  | .rolledBack => { a with sent := a.kept }
  | _ => a

/-- The account of a delivery a trace gives. -/
def account (key : Int × String) : List PollEvent → Account
  | [] => ⟨0, [], []⟩
  | e :: earlier => (account key earlier).record key e

/-- Every send of a delivery was made where the machine allows one, whether or
not its answer came back. -/
def Fair (key : Int × String) : List PollEvent → Prop
  | [] => True
  | .email d _ :: earlier =>
    (d.key = key → machine (account key earlier).sent = some d.status ∧ ¬ d.status.terminal)
      ∧ Fair key earlier
  | _ :: earlier => Fair key earlier

def Db.short (db : Db) (id : String) : Option Bool := (db.videos.get id).bind (·.isShort)

/-- A delivery's copies, what is known of its video, its account, and whether
its sends were fair. -/
structure View where
  durable : Option NotificationDelivery
  flushed : Option NotificationDelivery
  current : Option NotificationDelivery
  shortDurable : Option Bool
  shortFlushed : Option Bool
  shortCurrent : Option Bool
  account : Account
  fair : Prop

def view (key : Int × String) (f : Facts) : View where
  durable := f.db.durable.deliveries.get key
  flushed := f.db.flushed.deliveries.get key
  current := f.db.current.deliveries.get key
  shortDurable := f.db.durable.short key.2
  shortFlushed := f.db.flushed.short key.2
  shortCurrent := f.db.current.short key.2
  account := account key f.trace
  fair := Fair key f.trace

namespace View

def flush (v : View) : View := { v with flushed := v.current, shortFlushed := v.shortCurrent }

def commit (v : View) : View :=
  { v with
    durable := v.current
    flushed := v.current
    shortDurable := v.shortCurrent
    shortFlushed := v.shortCurrent
    account := { v.account with kept := v.account.sent } }

def rollback (v : View) : View :=
  { v with
    flushed := v.durable
    current := v.durable
    shortFlushed := v.shortDurable
    shortCurrent := v.shortDurable
    account := { v.account with sent := v.account.kept } }

end View

/-- A copy is where the machine stands after a history. -/
def Lawful (d : Option NotificationDelivery) (h : List Mark) : Prop :=
  match d with
  | none => h = []
  | some d => machine h = some d.status ∧ d.attemptCount = (sends h).length

def runsOf (h : List Mark) : List Nat := h.filterMap Mark.run

/-- No two sends of a history are of one run. -/
structure Ordered (runs : Nat) (h : List Mark) : Prop where
  increasing : (runsOf h).Pairwise (· < ·)
  past : ∀ i ∈ runsOf h, i ≤ runs

/-- Every copy is where the machine stands, after a history that begins with
what was committed at the start. -/
structure Recorded (base : List Mark) (v : View) : Prop where
  durable : Lawful v.durable v.account.kept
  flushed : ∃ h, h <+: v.account.sent ∧ Lawful v.flushed h
  current : Lawful v.current v.account.sent
  base : base <+: v.account.kept
  kept : v.account.kept <+: v.account.sent
  ordered : Ordered v.account.runs v.account.sent
  short : ∀ b, v.shortFlushed = some b → v.shortCurrent = some b
  fair : v.fair

variable {base : List Mark} {config : PollConfig} {v : View}

/-- Before a run's sends: what a query sees differs from what is in memory by
deliveries of Shorts that were given up. -/
structure Waiting (base : List Mark) (config : PollConfig) (v : View) : Prop extends Recorded base v where
  pending : ∃ h n, Lawful v.flushed h ∧ v.account.sent = h ++ List.replicate n .skipped
    ∧ (0 < n → ¬ shouldProcessVideo config v.shortCurrent)
  earlier : ∀ i ∈ runsOf v.account.sent, i < v.account.runs

theorem ordered_prefix {runs : Nat} {h h' : List Mark} (ho : Ordered runs h) (hp : h' <+: h) :
    Ordered runs h' where
  increasing := ho.increasing.sublist (hp.sublist.filterMap _)
  past i hi := ho.past i ((hp.sublist.filterMap _).subset hi)

theorem Recorded.flush (h : Recorded base v) : Recorded base v.flush where
  durable := h.durable
  base := h.base
  flushed := ⟨_, List.prefix_refl _, h.current⟩
  current := h.current
  kept := h.kept
  ordered := h.ordered
  short _ hb := hb
  fair := h.fair

theorem Recorded.commit (h : Recorded base v) : Recorded base v.commit where
  durable := h.current
  base := h.base.trans h.kept
  flushed := ⟨_, List.prefix_refl _, h.current⟩
  current := h.current
  kept := List.prefix_refl _
  ordered := h.ordered
  short _ hb := hb
  fair := h.fair

theorem Recorded.rollback (h : Recorded base v) : Recorded base v.rollback where
  durable := h.durable
  base := h.base
  flushed := ⟨_, List.prefix_refl _, h.durable⟩
  current := h.durable
  kept := List.prefix_refl _
  ordered := ordered_prefix h.ordered h.kept
  short _ hb := hb
  fair := h.fair

theorem Waiting.flush (h : Waiting base config v) : Waiting base config v.flush where
  toRecorded := h.toRecorded.flush
  pending := ⟨_, 0, h.current, (List.append_nil _).symm, fun no => absurd no (by omega)⟩
  earlier := h.earlier

theorem Waiting.commit (h : Waiting base config v) : Waiting base config v.commit where
  toRecorded := h.toRecorded.commit
  pending := ⟨_, 0, h.current, (List.append_nil _).symm, fun no => absurd no (by omega)⟩
  earlier := h.earlier

/-! What a delivery's row and history look like after something is done for it. -/

theorem lawful_concat {d d' : NotificationDelivery} {h : List Mark} {m : Mark}
    (hl : Lawful (some d) h) (status : d.status.next m = some d'.status)
    (count : d'.attemptCount = d.attemptCount + (sends [m]).length) :
    Lawful (some d') (h ++ [m]) := by
  obtain ⟨hm, hc⟩ := hl
  constructor
  · rw [machine_concat, hm, Option.bind_some, status]
  · rw [count, hc, sends_append, List.length_append]
    omega

/-- A sent history is longer by a send of the present run. -/
theorem ordered_concat {runs : Nat} {h : List Mark} {outcome : EmailOutcome} (ho : Ordered runs h)
    (earlier : ∀ i ∈ runsOf h, i < runs) : Ordered runs (h ++ [.sent runs outcome]) := by
  have split : runsOf (h ++ [.sent runs outcome]) = runsOf h ++ [runs] := by
    simp [runsOf, Mark.run]
  constructor
  · rw [split, List.pairwise_append]
    refine ⟨ho.increasing, List.pairwise_singleton _ _, ?_⟩
    intro i hi j hj
    rw [List.mem_singleton] at hj
    exact hj ▸ earlier i hi
  · rw [split]
    intro i hi
    rcases List.mem_append.mp hi with hi | hi
    · exact ho.past i hi
    · exact Nat.le_of_eq (List.mem_singleton.mp hi)

theorem runsOf_skipped (h : List Mark) : runsOf (h ++ [.skipped]) = runsOf h := by
  simp [runsOf, Mark.run]

/-! The parts of a run. -/

section parts

variable {platform : PollPlatform} {key : Int × String}

/-- What is known of one delivery is kept by what leaves it alone. -/
abbrev Sees {α : Type} (P : View → Prop) (key : Int × String) (p : PollProc α) : Prop :=
  Kept (fun f => P (view key f)) p

theorem view_putStage (f : Facts) (row : StageRow) :
    view key (f.edit (·.putStage row)) = view key f := by
  obtain ⟨_, same⟩ := putStage_others f.db.current row
  simp only [view, Facts.edit, Instance.modify, Db.short, same]

theorem view_note {f : Facts} {e : PollEvent} (h : ∀ a : Account, a.record key e = a)
    (fair : Fair key (e :: f.trace) = Fair key f.trace) : view key (f.note e) = view key f := by
  simp only [view, Facts.note, account, h, fair]

theorem short_setVideo (db : Db) (v : Video) (id : String) :
    (db.setVideo v).short id = if id = v.youtubeVideoId ∧ (db.videos.get id).isSome
      then v.isShort else db.short id := by
  simp only [Db.short, Db.setVideo, Table.get_alter]
  by_cases here : id = v.youtubeVideoId
  · rw [if_pos here]
    cases db.videos.get id with
    | none => simp
    | some old => simp [here, Video.write]
  · simp [here]

/-- `P` does not care whether a Short is known to be one. -/
def View.Blind (P : View → Prop) : Prop :=
  ∀ v short, (∀ b, v.shortCurrent = some b → short = some b) → P v →
    P { v with shortCurrent := short }

theorem closed_sees {P : View → Prop} (flush : ∀ v, P v → P v.flush) (commit : ∀ v, P v → P v.commit)
    (blind : View.Blind P) : Closed fun f => P (view key f) where
  flush f := flush (view key f)
  commit f := commit (view key f)
  stage f row hf := by rw [view_putStage]; exact hf
  quota _ _ hf := hf
  request f q hf := by rw [view_note (fun _ => rfl) rfl]; exact hf
  count _ _ hf := hf
  video f v old found short hf := by
    have same : view key (f.edit (·.setVideo v))
        = { view key f with shortCurrent := (f.db.current.setVideo v).short key.2 } := rfl
    rw [same]
    refine blind _ _ (fun b hb => ?_) hf
    rw [short_setVideo]
    split
    · next here =>
      apply short
      change f.db.current.short key.2 = some b at hb
      rw [Db.short, here.1, found] at hb
      exact hb
    · exact hb
  addVideo f v videos inserted short hf := by
    have same : view key (f.edit fun db => { db with videos := videos }) = view key f := by
      have unknown : (videos.get key.2).bind (·.isShort) = f.db.current.short key.2 := by
        rw [Table.get_insert inserted]
        by_cases here : key.2 = v.youtubeVideoId
        · rw [if_pos here]
          have absent : f.db.current.videos.get v.youtubeVideoId = none := Table.absent_of_insert inserted
          simp [Db.short, here, absent, short]
        · rw [if_neg here]
          rfl
      simp only [view, Facts.edit, Instance.modify, Db.short] at unknown ⊢
      rw [unknown]
    rw [same]
    exact hf

theorem view_setDelivery_other {f : Facts} {d : NotificationDelivery} (apart : d.key ≠ key) :
    view key (f.edit (·.setDelivery d)) = view key f := by
  have same : (f.db.current.setDelivery d).deliveries.get key = f.db.current.deliveries.get key := by
    rw [Db.setDelivery, Table.get_alter, if_neg fun here => apart here.symm]
  simp only [view, Facts.edit, Instance.modify, same]
  rfl

theorem view_setDelivery {f : Facts} {d r : NotificationDelivery} (own : d.key = key)
    (found : f.db.current.deliveries.get key = some r) :
    view key (f.edit (·.setDelivery d)) = { view key f with current := some d } := by
  have written : (f.db.current.setDelivery d).deliveries.get key = some d := by
    rw [Db.setDelivery, Table.get_alter, if_pos own.symm, found]
    have same : r.key = d.key := (Table.key_of_get found).trans own.symm
    cases d
    cases r
    simp only [NotificationDelivery.key, Prod.mk.injEq] at same
    simp [NotificationDelivery.write, same]
  simp only [view, Facts.edit, Instance.modify, written]
  rfl

theorem account_other {d : NotificationDelivery} (apart : d.key ≠ key)
    (outcome : Option EmailOutcome) (a : Account) : a.record key (.email d outcome) = a := by
  cases outcome with
  | none => rfl
  | some o => exact if_neg apart

theorem fair_other {d : NotificationDelivery} {o : Option EmailOutcome} {t : List PollEvent}
    (apart : d.key ≠ key) : Fair key (.email d o :: t) = Fair key t :=
  propext ⟨fun h => h.2, fun h => ⟨fun same => absurd same apart, h⟩⟩

theorem sees_skipDelivery_other {P : View → Prop} {d : NotificationDelivery} (apart : d.key ≠ key) :
    Sees P key (skipDelivery d) := by
  unfold skipDelivery
  refine Kept.bind (kept_edit fun f hf => ?_) fun _ => kept_emit fun s t hs => ?_
  · rw [view_setDelivery_other (d := skippedDelivery d) apart]
    exact hf
  · have same : view key (Facts.note (.skipped d.key) ⟨s.db, s.remote, s.quota, t⟩)
        = view key ⟨s.db, s.remote, s.quota, t⟩ := view_note (fun a => if_neg apart) rfl
    exact same ▸ hs

/-- A send for another delivery leaves this one alone. -/
theorem sees_attemptDeliverySend_other {P : View → Prop} {key' : Int × String} (apart : key' ≠ key)
    (isRetry : Bool) : Sees P key (attemptDeliverySend config key' isRetry) := by
  unfold attemptDeliverySend
  refine Kept.bind kept_inMemory fun db => ?_
  cases found : db.deliveries.get key' with
  | none => exact Kept.pure _
  | some delivery =>
    have own : delivery.key = key' := Table.key_of_get found
    have apart : delivery.key ≠ key := own ▸ apart
    refine Kept.ite (fun _ => ?_) fun _ => sees_skipDelivery_other apart
    refine Kept.bind kept_utcNow fun attemptedAt => ?_
    refine Kept.bind (kept_exchange fun s t answer hs => ?_) fun outcome => kept_edit fun f hf => ?_
    · have same : view key (Facts.note (.email delivery answer) ⟨s.db, s.remote, s.quota, t⟩)
          = view key ⟨s.db, s.remote, s.quota, t⟩ :=
        view_note (fun a => account_other apart answer a) (fair_other apart)
      exact same ▸ hs
    · have same : (sentDelivery isRetry attemptedAt outcome delivery).key = delivery.key := by
        cases outcome <;> rfl
      rw [view_setDelivery_other (same ▸ apart)]
      exact hf

/-- A delivery that a send may be made for, or that is given up. -/
structure Ready (config : PollConfig) (isRetry : Bool) (v : View) : Prop where
  sendable : ∀ d, v.current = some d → shouldProcessVideo config v.shortCurrent →
    d.status = if isRetry then .pendingRetry else .pending
  fresh : shouldProcessVideo config v.shortCurrent →
    ∀ i ∈ runsOf v.account.sent, i < v.account.runs
  open_ : ∀ d, v.current = some d → ¬ shouldProcessVideo config v.shortCurrent →
    d.status ≠ .delivered ∧ d.status ≠ .failed

theorem next_sent {isRetry : Bool} {d : NotificationDelivery} {run : Nat} {at_ : Time}
    {outcome : EmailOutcome} (h : d.status = if isRetry then .pendingRetry else .pending) :
    d.status.next (.sent run outcome) = some (sentDelivery isRetry at_ outcome d).status := by
  rw [h]
  cases outcome with
  | returned => cases isRetry <;> rfl
  | failed text retryable => cases isRetry <;> cases retryable <;> rfl

theorem next_skipped {s : DeliveryStatus} (h : s ≠ .delivered ∧ s ≠ .failed) :
    s.next .skipped = some .skipped := by
  cases s with
  | delivered => exact absurd rfl h.1
  | failed => exact absurd rfl h.2
  | _ => rfl

/-- A history one mark longer, with the row the mark leads to. -/
theorem Recorded.extend {d d' : NotificationDelivery} {m : Mark} (h : Recorded base v)
    (found : v.current = some d) (status : d.status.next m = some d'.status)
    (count : d'.attemptCount = d.attemptCount + (sends [m]).length)
    (ordered : Ordered v.account.runs (v.account.sent ++ [m])) :
    Recorded base { v with
      current := some d'
      account := { v.account with sent := v.account.sent ++ [m] } } where
  durable := h.durable
  flushed := by
    obtain ⟨g, hg, hl⟩ := h.flushed
    exact ⟨g, hg.trans (List.prefix_append _ _), hl⟩
  current := lawful_concat (found ▸ h.current) status count
  base := h.base
  kept := h.kept.trans (List.prefix_append _ _)
  ordered := ordered
  short := h.short
  fair := h.fair

theorem Recorded.refair (h : Recorded base v) {fair : Prop} (hf : fair) :
    Recorded base { v with fair := fair } :=
  ⟨h.durable, h.flushed, h.current, h.base, h.kept, h.ordered, h.short, hf⟩

theorem Recorded.skip {d : NotificationDelivery} (h : Recorded base v) (found : v.current = some d)
    (open_ : d.status ≠ .delivered ∧ d.status ≠ .failed) :
    Recorded base { v with
      current := some (skippedDelivery d)
      account := { v.account with sent := v.account.sent ++ [.skipped] } } := by
  refine h.extend found (next_skipped open_) (by simp [skippedDelivery]) ?_
  exact ⟨by rw [runsOf_skipped]; exact h.ordered.increasing,
    by rw [runsOf_skipped]; exact h.ordered.past⟩

theorem view_note_skipped (f : Facts) : view key (f.note (.skipped key)) = { view key f with
    account := { (view key f).account with sent := (view key f).account.sent ++ [.skipped] } } := by
  simp only [view, Facts.note, account, Account.record, if_pos, Fair]

theorem view_note_email {f : Facts} {d : NotificationDelivery} {outcome : EmailOutcome}
    (own : d.key = key) : view key (f.note (.email d (some outcome))) = { view key f with
    account := { (view key f).account with
      sent := (view key f).account.sent ++ [.sent (view key f).account.runs outcome] }
    fair := Fair key (.email d (some outcome) :: f.trace) } := by
  simp only [view, Facts.note, account, Account.record, if_pos own]

/-- A send whose answer did not come back. -/
theorem view_note_unanswered {f : Facts} {d : NotificationDelivery} :
    view key (f.note (.email d none)) =
      { view key f with fair := Fair key (.email d none :: f.trace) } := rfl

/-- The turn of a delivery that is ready for it. -/
theorem send_recorded {isRetry : Bool} {w : PollWorld} (hr : Recorded base (view key (facts w)))
    (ready : Ready config isRetry (view key (facts w))) :
    wp (attemptDeliverySend config key isRetry)
      (fun _ u => Recorded base (view key (facts u)) ∧ (facts u).db.flushed = (facts w).db.flushed)
      (fun u => Recorded base (view key (facts u))) w := by
  unfold attemptDeliverySend
  rw [wp_bind]
  change wp (match w.state.db.current.deliveries.get key with
    | none => pure ()
    | some delivery => _) _ _ w
  cases found : w.state.db.current.deliveries.get key with
  | none => exact ⟨hr, rfl⟩
  | some delivery =>
    have own : delivery.key = key := Table.key_of_get found
    simp only []
    by_cases process : w.state.db.current.shouldProcess config key.2
    · have status := ready.sendable delivery found process
      have fair : machine (view key (facts w)).account.sent = some delivery.status
          ∧ ¬ delivery.status.terminal := by
        have current := hr.current
        rw [show (view key (facts w)).current = some delivery from found] at current
        refine ⟨current.1, ?_⟩
        rw [status]
        cases isRetry
        · exact not_terminal_pending
        · exact not_terminal_pendingRetry
      rw [if_pos process, wp_bind]
      have same : Kept (fun f => f = facts w) utcNow := kept_utcNow
      refine wp_mono (same w rfl) (fun attemptedAt u hu => ?_) fun u hu => hu ▸ hr
      rw [wp_bind]
      have there : u.state.db.current.deliveries.get key = some delivery :=
        (congrArg (fun f => f.db.current.deliveries.get key) hu).trans found
      refine wp_exchange viewEmail _ ?_ fun outcome rest => ?_
      · change Recorded base (view key (Facts.note (.email delivery none) (facts u)))
        rw [view_note_unanswered, hu]
        exact hr.refair ⟨fun _ => fair, hr.fair⟩
      · have sentKey : (sentDelivery isRetry attemptedAt outcome delivery).key = key := by
          cases outcome <;> exact own
        constructor
        · change Recorded base (view key (Facts.edit (·.setDelivery
            (sentDelivery isRetry attemptedAt outcome delivery))
            (Facts.note (.email delivery (some outcome)) (facts u))))
          rw [view_setDelivery (r := delivery) sentKey there, view_note_email own, hu]
          refine Recorded.refair (v := { view key (facts w) with
            current := some (sentDelivery isRetry attemptedAt outcome delivery)
            account := { (view key (facts w)).account with
              sent := (view key (facts w)).account.sent
                ++ [.sent (view key (facts w)).account.runs outcome] } })
            (hr.extend found (next_sent status) ?_ ?_) ⟨fun _ => fair, hr.fair⟩
          · cases outcome <;> rfl
          · exact ordered_concat hr.ordered (ready.fresh process)
        · exact congrArg (fun f => f.db.flushed) hu
    · rw [if_neg process]
      refine ⟨?_, rfl⟩
      change Recorded base (view key (Facts.note (.skipped delivery.key) (Facts.edit (·.setDelivery
        (skippedDelivery delivery)) (facts w))))
      rw [own, view_note_skipped, view_setDelivery (f := facts w) (d := skippedDelivery delivery) own
        found]
      exact hr.skip found (ready.open_ delivery found process)

/-! The phases of a run. -/

theorem lawful_status {d : NotificationDelivery} {s : DeliveryStatus} {h : List Mark}
    (hl : Lawful (some d) h) (hm : machine h = some s) : d.status = s :=
  Option.some.inj (hl.1.symm.trans hm)

/-- The row in memory of a delivery that a query finds open. -/
theorem Waiting.current_status {d r : NotificationDelivery} (h : Waiting base config v)
    (found : v.current = some d) (seen : v.flushed = some r) :
    d.status = r.status ∨ (d.status = .skipped ∧ ¬ shouldProcessVideo config v.shortCurrent) := by
  obtain ⟨g, n, hg, sent, short⟩ := h.pending
  rw [seen] at hg
  have current := h.current
  rw [found, sent] at current
  cases n with
  | zero =>
    rw [List.replicate_zero, List.append_nil] at current
    exact .inl (lawful_status current hg.1)
  | succ n =>
    have stepped := current.1
    rw [machine_append, hg.1, Option.bind_some, List.replicate_succ,
      DeliveryStatus.after] at stepped
    refine .inr ⟨?_, short (by omega)⟩
    obtain ⟨s, hs, stepped⟩ := Option.bind_eq_some_iff.mp stepped
    have skipped : s = .skipped := by
      cases hr : r.status <;> rw [hr] at hs <;> cases hs <;> rfl
    subst skipped
    exact (after_terminal (.inr (.inr rfl)) stepped).2

/-- A delivery that a sweep's query finds is ready for its send. -/
theorem Waiting.ready {r : NotificationDelivery} {isRetry : Bool} (h : Waiting base config v)
    (seen : v.flushed = some r) (status : r.status = if isRetry then .pendingRetry else .pending) :
    Ready config isRetry v where
  sendable d found process := by
    rcases h.current_status found seen with same | ⟨-, no⟩
    · rw [same, status]
    · exact absurd process no
  fresh _ := h.earlier
  open_ d found process := by
    rcases h.current_status found seen with same | ⟨same, -⟩
    · rw [same, status]
      cases isRetry <;> exact ⟨nofun, nofun⟩
    · rw [same]
      exact ⟨nofun, nofun⟩

/-- What a query sees of a delivery is as it was. -/
def Steady (P : View → Prop) (seen : Option NotificationDelivery) (v : View) : Prop :=
  P v ∧ v.flushed = seen

/-- The rows a sweep asks for. -/
theorem status_of_found {db : Db} {userId n : Int} {s : DeliveryStatus}
    (here : key ∈ db.deliveriesIn s n userId) :
    ∃ r, db.deliveries.get key = some r ∧ r.status = s := by
  obtain ⟨r, hr, found⟩ := Table.mem_select.mp here
  simp only [Bool.and_eq_true, decide_eq_true_eq] at found
  exact ⟨r, hr, found.1.2⟩

/-- A sweep, for one delivery: where a query finds it, it is ready. -/
theorem wp_sweepDeliveries {isRetry : Bool} {userId n : Int} {s : DeliveryStatus} {w : PollWorld}
    {P : View → Prop} (weaken : ∀ v, P v → Recorded base v)
    (ready : ∀ r v, r.status = s → v.flushed = some r → P v → Ready config isRetry v)
    (start : P (view key (facts w))) :
    wp (sweepDeliveries config s n isRetry userId)
      (fun _ u => P (view key (facts u)) ∨ (Recorded base (view key (facts u))
        ∧ ∃ r, (view key (facts u)).flushed = some r ∧ r.status = s))
      (fun u => Recorded base (view key (facts u))) w := by
  unfold sweepDeliveries
  rw [wp_bind]
  change wp ((w.state.db.flushed.deliveriesIn s n userId).forM
    fun key => attemptDeliverySend config key isRetry) _ _ w
  by_cases here : key ∈ w.state.db.flushed.deliveriesIn s n userId
  · obtain ⟨r, seen, status⟩ := status_of_found here
    have steady : Steady P (some r) (view key (facts w)) := ⟨start, seen⟩
    refine wp_mono (wp_forM_once (fun u => Steady P (some r) (view key (facts u)))
      (fun u => Steady (Recorded base) (some r) (view key (facts u))) here Table.select_nodup
      ?_ ?_ ?_ steady) (fun _ u hu => .inr ⟨hu.1, r, hu.2, status⟩) fun _ h => h
    · intro other _ apart u hu
      exact wp_mono (sees_attemptDeliverySend_other (P := Steady P (some r)) apart isRetry u hu)
        (fun _ _ h => h) fun _ h => weaken _ h.1
    · intro u hu
      refine wp_mono (send_recorded (weaken _ hu.1) (ready r _ status hu.2 hu.1))
        (fun _ x hx => ⟨hx.1, ?_⟩) fun _ h => h
      exact (congrArg (fun db => db.deliveries.get key) hx.2).trans hu.2
    · intro other _ apart u hu
      exact wp_mono (sees_attemptDeliverySend_other (P := Steady (Recorded base) (some r)) apart isRetry
        u hu) (fun _ _ h => h) fun _ h => h.1
  · have sweep : Sees P key ((w.state.db.flushed.deliveriesIn s n userId).forM
        fun key => attemptDeliverySend config key isRetry) := by
      refine Kept.forM fun other hother => sees_attemptDeliverySend_other ?_ isRetry
      intro same
      exact here (same ▸ hother)
    exact wp_mono (sweep w start) (fun _ _ h => .inl h) fun _ h => weaken _ h

theorem Waiting.skip {d : NotificationDelivery} (h : Waiting base config v) (found : v.current = some d)
    (open_ : d.status ≠ .delivered ∧ d.status ≠ .failed)
    (short : ¬ shouldProcessVideo config v.shortCurrent) :
    Waiting base config { v with
      current := some (skippedDelivery d)
      account := { v.account with sent := v.account.sent ++ [.skipped] } } where
  toRecorded := h.toRecorded.skip found open_
  pending := by
    obtain ⟨g, n, hg, sent, -⟩ := h.pending
    refine ⟨g, n + 1, hg, ?_, fun _ => short⟩
    change v.account.sent ++ [.skipped] = g ++ List.replicate (n + 1) .skipped
    rw [sent, List.append_assoc, List.replicate_succ']
  earlier := by
    intro i hi
    rw [runsOf_skipped] at hi
    exact h.earlier i hi

theorem closed_recorded : Closed fun f => Recorded base (view key f) := by
  refine closed_sees (fun _ h => h.flush) (fun _ h => h.commit) ?_
  intro v short known h
  exact ⟨h.durable, h.flushed, h.current, h.base, h.kept, h.ordered, fun b hb => known b (h.short b hb),
    h.fair⟩

theorem closed_waiting : Closed fun f => Waiting base config (view key f) := by
  refine closed_sees (fun _ h => h.flush) (fun _ h => h.commit) ?_
  intro v short known h
  obtain ⟨g, n, hg, sent, hn⟩ := h.pending
  refine ⟨⟨h.durable, h.flushed, h.current, h.base, h.kept, h.ordered, fun b hb => known b (h.short b hb),
    h.fair⟩, ⟨g, n, hg, sent, fun some process => hn some ?_⟩, h.earlier⟩
  rcases process with process | process
  · exact .inl process
  · exact .inr fun isShort => process (known true isShort)

theorem sees_skipTurn_other {P : View → Prop} {key' : Int × String} (apart : key' ≠ key) :
    Sees P key (skipTurn key') := by
  unfold skipTurn
  refine Kept.bind kept_inMemory fun db => ?_
  cases found : db.deliveries.get key' with
  | none => exact Kept.pure _
  | some delivery => exact sees_skipDelivery_other ((Table.key_of_get found).symm ▸ apart)

/-- An open delivery of a Short, as a query finds it. -/
def Found (base : List Mark) (config : PollConfig) (r : NotificationDelivery) (v : View) : Prop :=
  Waiting base config v ∧ v.flushed = some r ∧ v.shortFlushed = some true

theorem found_skipTurn {r : NotificationDelivery}
    (status : r.status = .pending ∨ r.status = .pendingRetry)
    (off : config.shortsProcessingEnabled = false) :
    Sees (Found base config r) key (skipTurn key) := by
  intro w hw
  obtain ⟨hw, seen, short⟩ := hw
  unfold skipTurn
  rw [wp_bind]
  change wp (match w.state.db.current.deliveries.get key with
    | none => pure ()
    | some delivery => _) _ _ w
  cases found : w.state.db.current.deliveries.get key with
  | none => exact ⟨hw, seen, short⟩
  | some delivery =>
    have own : delivery.key = key := Table.key_of_get found
    have no : ¬ shouldProcessVideo config (view key (facts w)).shortCurrent := by
      rintro (on | other)
      · rw [off] at on
        cases on
      · exact other (hw.short true short)
    have open_ : delivery.status ≠ .delivered ∧ delivery.status ≠ .failed := by
      rcases hw.current_status (d := delivery) found seen with same | ⟨same, -⟩
      · rw [same]
        rcases status with h | h <;> rw [h] <;> exact ⟨nofun, nofun⟩
      · rw [same]
        exact ⟨nofun, nofun⟩
    have after : view key (Facts.note (.skipped delivery.key) (Facts.edit (·.setDelivery
        (skippedDelivery delivery)) (facts w))) = { view key (facts w) with
      current := some (skippedDelivery delivery)
      account := { (view key (facts w)).account with
        sent := (view key (facts w)).account.sent ++ [.skipped] } } := by
      rw [own, view_note_skipped, view_setDelivery (f := facts w) (d := skippedDelivery delivery) own
        found]
    change Found base config r (view key (Facts.note (.skipped delivery.key) (Facts.edit (·.setDelivery
      (skippedDelivery delivery)) (facts w))))
    refine ⟨?_, seen, short⟩
    rw [after]
    exact hw.skip found open_ no

theorem waiting_skipDisabledShortDeliveries (userId : Int) :
    Sees (Waiting base config) key (skipDisabledShortDeliveries config userId) := by
  unfold skipDisabledShortDeliveries
  refine Kept.ite (fun _ => Kept.pure _) fun off => ?_
  have off : config.shortsProcessingEnabled = false := by simpa using off
  intro w hw
  rw [wp_bind]
  change wp (List.forM (w.state.db.flushed.deliveries.select _) skipTurn) _ _ w
  by_cases here : key ∈ w.state.db.flushed.deliveries.select (pendingShort w.state.db.flushed userId)
  · obtain ⟨r, hr, open_⟩ := Table.mem_select.mp here
    simp only [pendingShort, Bool.and_eq_true, Bool.or_eq_true, decide_eq_true_eq] at open_
    obtain ⟨⟨-, status⟩, short⟩ := open_
    have own : r.videoId = key.2 := congrArg Prod.snd (Table.key_of_get hr)
    rw [own] at short
    have sweep : Sees (Found base config r) key
        ((w.state.db.flushed.deliveries.select (pendingShort w.state.db.flushed userId)).forM
          skipTurn) := by
      refine Kept.forM fun other _ => ?_
      by_cases same : other = key
      · exact same ▸ found_skipTurn status off
      · exact sees_skipTurn_other (P := Found base config r) same
    exact wp_mono (sweep w ⟨hw, hr, short⟩) (fun _ _ h => h.1) fun _ h => h.1
  · have sweep : Sees (Waiting base config) key
        ((w.state.db.flushed.deliveries.select (pendingShort w.state.db.flushed userId)).forM
          skipTurn) := by
      refine Kept.forM fun other hother => sees_skipTurn_other (P := Waiting base config) ?_
      intro same
      exact here (same ▸ hother)
    exact sweep w hw

/-! The channel loop. -/

/-- A delivery as it is created. -/
theorem Recorded.create (h : Recorded base v) (absent : v.current = none) :
    Recorded base { v with current := some (NotificationDelivery.new key) } where
  durable := h.durable
  flushed := h.flushed
  current := by
    have empty : v.account.sent = [] := by
      have := h.current
      rwa [absent] at this
    rw [empty]
    exact ⟨rfl, rfl⟩
  base := h.base
  kept := h.kept
  ordered := h.ordered
  short := h.short
  fair := h.fair

theorem recorded_getOrCreateDelivery (key' : Int × String) :
    Sees (Recorded base) key (getOrCreateDelivery key') := by
  unfold getOrCreateDelivery
  refine Kept.bind kept_visible fun db => ?_
  cases db.deliveries.get key' with
  | some _ => exact Kept.pure _
  | none =>
    refine kept_addAndFlush fun f db added hf => ?_
    simp only [Option.bind_eq_bind, Option.bind_eq_some_iff, Option.pure_def,
      Option.some.injEq] at added
    obtain ⟨deliveries, inserted, rfl⟩ := added
    refine Recorded.flush (v := view key (f.edit fun _ => { f.db.current with
      deliveries := deliveries })) ?_
    by_cases same : key' = key
    · subst same
      have absent : (view key' f).current = none := Table.absent_of_insert inserted
      have now : view key' (f.edit fun _ => { f.db.current with deliveries := deliveries })
          = { view key' f with current := some (NotificationDelivery.new key') } := by
        have row : deliveries.get key' = some (NotificationDelivery.new key') := by
          rw [Table.get_insert inserted]
          exact if_pos rfl
        simp only [view, Facts.edit, Instance.modify, row]
        rfl
      rw [now]
      exact hf.create absent
    · have now : view key (f.edit fun _ => { f.db.current with deliveries := deliveries })
          = view key f := by
        have row : deliveries.get key = f.db.current.deliveries.get key := by
          rw [Table.get_insert inserted]
          exact if_neg fun here => same here.symm
        simp only [view, Facts.edit, Instance.modify, row]
        rfl
      rw [now]
      exact hf

/-- A pending delivery in memory is ready for its first send. -/
theorem Recorded.ready {d : NotificationDelivery} (h : Recorded base v) (found : v.current = some d)
    (pending : d.status = .pending) : Ready config false v where
  sendable d' found' _ := by
    cases found.symm.trans found'
    exact pending
  fresh _ i hi := by
    have current := h.current
    rw [found] at current
    rw [machine_pending (current.1.trans (congrArg some pending))] at hi
    cases hi
  open_ d' found' _ := by
    cases found.symm.trans found'
    rw [pending]
    exact ⟨nofun, nofun⟩

theorem recorded_attemptInitialDeliverySend (key' : Int × String) :
    Sees (Recorded base) key (attemptInitialDeliverySend config key') := by
  unfold attemptInitialDeliverySend
  intro w hw
  rw [wp_bind]
  change wp (match w.state.db.current.deliveries.get key' with
    | none => pure ()
    | some delivery => _) _ _ w
  cases found : w.state.db.current.deliveries.get key' with
  | none => exact hw
  | some delivery =>
    simp only []
    by_cases pending : delivery.status ≠ .pending
    · rw [if_pos pending]
      exact hw
    · rw [if_neg pending]
      by_cases same : key' = key
      · subst same
        have ready : Ready config false (view key' (facts w)) :=
          hw.ready found (Decidable.not_not.mp pending)
        exact wp_mono (send_recorded hw ready) (fun _ _ h => h.1) fun _ h => h
      · exact sees_attemptDeliverySend_other (P := Recorded base) same false w hw

theorem recorded_createStagesForVideo (userId : Int) (id : String) :
    Sees (Recorded base) key (createStagesForVideo config userId id) := by
  refine kept_createStagesForVideo (fun f rows db _ added hf => ?_) fun f name hf => ?_
  · refine Recorded.flush (v := view key (f.edit fun _ => db)) ?_
    have same : view key (f.edit fun _ => db) = view key f := by
      obtain ⟨_, rfl⟩ := addStages_others added
      rfl
    rw [same]
    exact hf
  · rw [view_note (fun _ => rfl) rfl]
    exact hf

theorem recorded_attemptNewVideoPush (userId : Int) (id : String) :
    Sees (Recorded base) key (attemptNewVideoPush config userId id) := by
  unfold attemptNewVideoPush
  refine Kept.when fun _ => ?_
  refine Kept.bind (kept_emit fun s t hs => ?_) fun _ => ?_
  · have same : view key (Facts.note (.push userId id) ⟨s.db, s.remote, s.quota, t⟩)
        = view key ⟨s.db, s.remote, s.quota, t⟩ := view_note (fun _ => rfl) rfl
    exact same ▸ hs
  · refine Kept.bind (kept_attempt (kept_mayFlush closed_recorded.flush)) fun _ => ?_
    exact Kept.pure _

theorem recorded_announceVideo (userId : Int) (id : String) :
    Sees (Recorded base) key (announceVideo config userId id) := by
  unfold announceVideo
  refine Kept.bind (Kept.when fun _ => recorded_createStagesForVideo _ _) fun _ => ?_
  refine Kept.bind (recorded_getOrCreateDelivery _) fun _ => ?_
  refine Kept.bind (recorded_attemptInitialDeliverySend _) fun _ => ?_
  exact recorded_attemptNewVideoPush _ _

theorem recorded_pollChannel (userId : Int) (now : Time) (row : UserChannel) :
    Sees (Recorded base) key (pollChannel platform config userId now row) := by
  have closed : Closed fun f => Recorded base (view key f) := closed_recorded
  unfold pollChannel
  refine Kept.bind (Kept.when fun _ => kept_setQuota closed.count _) fun _ => ?_
  refine Kept.bind (kept_fetchLatestUpload closed.request _) fun latest => ?_
  refine Kept.ite (fun _ => ?_) fun _ => Kept.ite (fun _ => kept_setTally _) fun _ => ?_
  · exact Kept.bind (kept_edit fun _ hf => hf) fun _ => kept_setTally _
  · refine Kept.bind (kept_getOrCreateVideo closed.toSaved closed.toStored.addUpload) fun id => ?_
    refine Kept.bind (kept_attemptDetectAndMarkShort closed.toTended id) fun _ => ?_
    refine Kept.bind kept_inMemory fun db => ?_
    refine Kept.bind (Kept.when fun _ => recorded_announceVideo _ _) fun _ => ?_
    exact Kept.bind (kept_edit fun _ hf => hf) fun _ => kept_setTally _

theorem recorded_pollChannelTurn (userId : Int) (now : Time) (row : Int × Int) :
    Sees (Recorded base) key (pollChannelTurn platform config userId now row) := by
  unfold pollChannelTurn
  refine Kept.bind kept_inMemory fun db => ?_
  cases db.userChannels.get row with
  | none => exact Kept.pure _
  | some row =>
    refine Kept.bind (kept_attempt (recorded_pollChannel userId now row)) fun result => ?_
    cases result with
    | ok => exact Kept.pure _
    | error e => exact kept_setTally _

/-! A whole run. -/

theorem waiting_skipDisabledShortWork (userId : Int) :
    Sees (Waiting base config) key (skipDisabledShortWork config userId) :=
  Kept.bind (kept_pipelineWork closed_waiting.toStored) fun _ => waiting_skipDisabledShortDeliveries userId

theorem wp_initialSweep {userId : Int} {w : PollWorld}
    (start : Waiting base config (view key (facts w))) :
    wp (processPendingInitialDeliveries config userId)
      (fun _ u => Waiting base config (view key (facts u)) ∨ (Recorded base (view key (facts u))
        ∧ ∃ r, (view key (facts u)).flushed = some r ∧ r.status = .pending))
      (fun u => Recorded base (view key (facts u))) w :=
  wp_sweepDeliveries (P := Waiting base config) (fun _ h => h.toRecorded)
    (fun _ _ status seen h => h.ready seen status) start

/-- The retry sweep does not find what the initial sweep has just sent. -/
theorem wp_retrySweep {userId : Int} {w : PollWorld}
    (start : Waiting base config (view key (facts w)) ∨ (Recorded base (view key (facts w))
      ∧ ∃ r, (view key (facts w)).flushed = some r ∧ r.status = .pending)) :
    wp (processPendingRetryDeliveries config userId) (fun _ u => Recorded base (view key (facts u)))
      (fun u => Recorded base (view key (facts u))) w := by
  rcases start with start | start
  · refine wp_mono (wp_sweepDeliveries (P := Waiting base config) (fun _ h => h.toRecorded)
      (fun _ _ status seen h => h.ready seen status) start) (fun _ u hu => ?_) fun _ h => h
    rcases hu with hu | hu
    · exact hu.toRecorded
    · exact hu.1
  · refine wp_mono (wp_sweepDeliveries (P := fun v => Recorded base v
      ∧ ∃ r, v.flushed = some r ∧ r.status = .pending) (fun _ h => h.1)
      (fun r' v status seen h => ?_) start) (fun _ u hu => ?_) fun _ h => h
    · obtain ⟨-, r, seen', pending⟩ := h
      cases seen.symm.trans seen'
      rw [pending] at status
      cases status
    · rcases hu with hu | hu <;> exact hu.1

/-- A run keeps the copies of a delivery where the machine stands. -/
theorem runPoll_recorded {userId : Int} {w : PollWorld}
    (start : Waiting base config (view key (facts w))) :
    wp (runPoll platform config userId) (fun _ u => Recorded base (view key (facts u)))
      (fun u => Recorded base (view key (facts u))) w := by
  have waiting : Closed fun f => Waiting base config (view key f) := closed_waiting
  have recorded : Closed fun f => Recorded base (view key f) := closed_recorded
  have weaken : ∀ {α : Type} {p : PollProc α} {post : α → PollWorld → Prop} {u : PollWorld},
      Sees (Waiting base config) key p → Waiting base config (view key (facts u)) →
      (∀ a x, Waiting base config (view key (facts x)) → post a x) →
      wp p post (fun x => Recorded base (view key (facts x))) u :=
    fun hp hu next => wp_mono (hp _ hu) next fun _ h => h.toRecorded
  unfold runPoll
  rw [wp_bind]
  refine weaken kept_utcNow start fun now w start => ?_
  rw [wp_bind]
  refine weaken (kept_mayFlush waiting.flush) start fun _ w start => ?_
  rw [wp_bind]
  refine weaken (waiting_skipDisabledShortWork userId) start fun _ w start => ?_
  rw [wp_bind]
  refine weaken kept_inMemory start fun db w start => ?_
  rw [wp_bind]
  refine weaken (kept_setQuota waiting.count _) start fun _ w start => ?_
  split
  · rw [wp_bind]
    refine weaken (kept_writeQuotaState waiting) start fun _ w start => ?_
    rw [wp_bind]
    exact weaken (kept_flush waiting.flush) start fun _ w start => start.toRecorded
  · rw [wp_bind]
    refine weaken (kept_mayFlush waiting.flush) start fun _ w start => ?_
    rw [wp_bind]
    refine weaken kept_visible start fun db w start => ?_
    rw [wp_bind]
    refine weaken (kept_pipelineWork waiting.toStored) start fun _ w start => ?_
    rw [wp_bind]
    refine weaken (kept_pipelineWork waiting.toStored) start fun _ w start => ?_
    rw [wp_bind]
    refine weaken (kept_pipelineWork waiting.toStored) start fun _ w start => ?_
    rw [wp_bind]
    refine wp_mono (wp_initialSweep start) (fun _ w start => ?_) fun _ h => h
    rw [wp_bind]
    refine wp_mono (wp_retrySweep start) (fun _ w start => ?_) fun _ h => h
    refine Kept.bind (J := fun f => Recorded base (view key f))
      (Kept.forM fun row _ => recorded_pollChannelTurn userId now row) (fun _ => ?_) w start
    refine Kept.bind (kept_flush recorded.flush) fun _ => ?_
    refine Kept.bind (kept_pipelineWork recorded.toStored) fun _ => ?_
    refine Kept.bind (kept_pipelineWork recorded.toStored) fun _ => ?_
    refine Kept.bind kept_read fun s => ?_
    refine Kept.bind (kept_writeQuotaState recorded) fun _ => ?_
    exact Kept.bind (kept_flush recorded.flush) fun _ => Kept.pure _

end parts

end YTPipe.Polling
