import YTPipe.Polling.Metadata

/-!
# What a day's calls spend

Reconciliations and metadata lookups of one user on one UTC day, and what they
spend of the day's units. A page and a lookup of metadata look at the budget; the
lookup of a recovered upload's duration counts its unit and does not.
-/

namespace YTPipe.Polling

open Proc

/-! Requests. -/

structure MetadataRequest where
  config : PollConfig
  youtubeVideoId : String
  payload : Json
  channelRow : Int
  /-- The worker commits what the call leaves, or rolls it back. -/
  commits : Bool
  replies : List PollReply

/-- A worker's call of `resolve_and_upsert`. -/
def resolveCall (platform : PollPlatform) (request : MetadataRequest) : PollProc Unit := do
  openSession
  let _ ← attempt (resolveAndUpsert platform request.config request.youtubeVideoId request.payload
    request.channelRow)
  if request.commits then commit else rollback

def resolve (platform : PollPlatform) (request : MetadataRequest) (w : PollWorld) : PollWorld :=
  match (resolveCall platform request).run { w with replies := request.replies } with
  | (some (), v) => v
  | (none, v) => abandon v

inductive QuotaOp
  | reconcile (request : ReconciliationRequest)
  | resolve (request : MetadataRequest)
  /-- The uploads playlists are now these. -/
  | youtube (remote : Int → Playlist)
  /-- Other work leaves these rows; the quota row is not its business. -/
  | elsewhere (db : Db)

namespace QuotaOp

def replies : QuotaOp → List PollReply
  | reconcile request => request.replies
  | resolve request => request.replies
  | youtube _ => []
  | elsewhere _ => []

/-- The safety stop is on, with this budget. -/
def Guarded (budget : Int) : QuotaOp → Prop
  | reconcile request =>
    request.config.safetyStopEnabled = true ∧ request.config.dailyQuotaBudget = budget
  | resolve request =>
    request.config.safetyStopEnabled = true ∧ request.config.dailyQuotaBudget = budget
  | youtube _ => True
  | elsewhere _ => True

end QuotaOp

section

variable (platform : PollPlatform)

def quotaStep (w : PollWorld) : QuotaOp → PollWorld
  | .reconcile request => (reconcile platform request w).2
  | .resolve request => resolve platform request w
  | .youtube remote => { w with state := { w.state with remote := remote } }
  | .elsewhere db => { w with state := { w.state with
      db := Instance.load (Column.none Db) { db with quota := w.state.db.durable.quota } } }

def runQuota (ops : List QuotaOp) (w : PollWorld) : PollWorld := ops.foldl (quotaStep platform) w

/-! The condition. -/

variable (config : PollConfig)

/-- The flag of a budget that is used up is set. -/
def QuotaContext.Fresh (budget : Int) (q : QuotaContext) : Prop :=
  q.quotaBlocked = false → q.estimatedUnitsUsedToday < budget

instance (budget : Int) (q : QuotaContext) : Decidable (q.Fresh budget) :=
  inferInstanceAs (Decidable (_ → _))

/-- The upload needs no lookup, or there is a unit left for it. -/
def FrugalUpload (channelId : Int) (upload : LatestUpload) : PollWorld → Prop :=
  wp (getOrCreateVideo channelId upload)
    (fun id w => w.state.db.current.unclassified id →
      w.state.quota.estimatedUnitsUsedToday < max 0 config.dailyQuotaBudget)
    (fun _ => True)

instance (channelId : Int) (upload : LatestUpload) (w : PollWorld) :
    Decidable (FrugalUpload config channelId upload w) :=
  inferInstanceAs (Decidable (wp (getOrCreateVideo channelId upload) (fun id v =>
    v.state.db.current.unclassified id → _) (fun _ => True) w))

/-- A channel whose playlist is asked for is looked at with the flag as it should
be, and so it is for each upload that is recovered. -/
def FrugalChannel (userId maxPages : Int) (key : Int × Int) (w : PollWorld) : Prop :=
  match w.state.db.current.userChannels.get key with
  | none => True
  | some row =>
    (row.baselineEstablishedAt.isNone ∨ row.lastSeenVideoId.getD "" = "" ∨ row.channel.unusable) ∨
    w.state.quota.Fresh (max 0 config.dailyQuotaBudget) ∧
    wp (fetchUploadsSinceMarker platform config row.channel (row.lastSeenVideoId.getD "") maxPages)
      (fun found v => found.2 = true →
        Along (FrugalUpload config row.channel.id)
          (recoverUpload platform config userId row.channel.id) found.1.reverse v)
      (fun _ => True) { w with state := { w.state with exception := .other "" } }

instance (userId maxPages : Int) (key : Int × Int) (w : PollWorld) :
    Decidable (FrugalChannel platform config userId maxPages key w) := by
  unfold FrugalChannel
  split <;> infer_instance

/-- `reconcile_missing_uploads` up to its channel loop. -/
def reconcileStart (userId : Int) : PollProc (List (Int × Int)) := do
  let now ← utcNow
  mayFlush
  let context := buildQuotaContext config (← inMemory).quota now
  setQuota fun _ => context
  pipelineUpdate config
  skipDisabledShortDeliveries config userId
  mayFlush
  return (← visible).monitored userId

/-- So it is for each channel of the call. -/
def QuotaOp.Frugal (w : PollWorld) : QuotaOp → Prop
  | reconcile request =>
    wp (do openSession; Proc.modify fun s => { s with exception := .other "" }
           reconcileStart request.config request.userId)
      (fun rows => Along (FrugalChannel platform request.config request.userId request.maxPages)
        (reconcileTurn platform request.config request.userId request.maxPages) rows)
      (fun _ => True) { w with replies := request.replies }
  | _ => True

instance (op : QuotaOp) (w : PollWorld) : Decidable (op.Frugal platform w) := by
  unfold QuotaOp.Frugal
  split <;> infer_instance

/-- No call of the run looks up a duration, or goes on to another channel, once
a lookup has used up the budget. -/
def Frugal : List QuotaOp → PollWorld → Prop
  | [], _ => True
  | op :: ops, w => op.Frugal platform w ∧ Frugal ops (quotaStep platform w op)

instance Frugal.decide : ∀ ops w, Decidable (Frugal platform ops w)
  | [], _ => isTrue trivial
  | op :: ops, w =>
    have := Frugal.decide ops (quotaStep platform w op)
    inferInstanceAs (Decidable (_ ∧ _))

end

/-! What is spent. -/

/-- The units recorded for a day. -/
def QuotaMetadata.usedOn (q : QuotaMetadata) (day : Int) : Int :=
  if q.usageDay = some day then q.estimatedUnitsUsedToday else 0

def PollEvent.asked : PollEvent → Option QuotaContext
  | .request q => some q
  | _ => none

/-- The copies of the quota row, the local count and the requests. -/
structure Spending where
  durable : QuotaMetadata
  flushed : QuotaMetadata
  current : QuotaMetadata
  context : QuotaContext
  requests : List QuotaContext

def spent (f : Facts) : Spending where
  durable := f.db.durable.quota
  flushed := f.db.flushed.quota
  current := f.db.current.quota
  context := f.quota
  requests := f.trace.filterMap PollEvent.asked

def spending (w : PollWorld) : Spending := spent (facts w)

/-- What flushes, commits and rollbacks keep. -/
structure Thrifty (J : Spending → Prop) : Prop where
  flush : ∀ s, J s → J { s with flushed := s.current }
  commit : ∀ s, J s → J { s with durable := s.current, flushed := s.current }
  rollback : ∀ s, J s → J { s with flushed := s.durable, current := s.durable }

abbrev Spares {α : Type} (J : Spending → Prop) (p : PollProc α) : Prop := Kept (fun f => J (spent f)) p

section thrifty

variable {J : Spending → Prop}

/-- Writes to other rows than the quota's spend nothing. -/
theorem Thrifty.stored (steady : Thrifty J) : Stored fun f => J (spent f) where
  flush f := steady.flush (spent f)
  commit f := steady.commit (spent f)
  video _ _ _ _ _ h := h
  addVideo _ _ _ _ _ h := h
  stage f row h := by
    have same : spent (f.edit (·.putStage row)) = spent f := by
      obtain ⟨_, others⟩ := putStage_others f.db.current row
      simp only [spent, Facts.edit, Instance.modify, others]
    rw [same]
    exact h

theorem Thrifty.updated (steady : Thrifty J) : Updated fun f => J (spent f) where
  flush := steady.stored.flush
  commit := steady.stored.commit
  update _ _ h := h

theorem Thrifty.back (steady : Thrifty J) : Spares J Polling.rollback :=
  kept_rollback fun f => steady.rollback (spent f)

end thrifty

/-! The day's budget. -/

section day

variable {platform : PollPlatform} {config : PollConfig} {budget most day : Int}

/-- No copy of the row has more than `most` of the day's units, and every
request was made with units left. -/
structure Bounded (budget most day : Int) (s : Spending) : Prop where
  durable : s.durable.usedOn day ≤ most
  flushed : s.flushed.usedOn day ≤ most
  current : s.current.usedOn day ≤ most
  requests : ∀ q ∈ s.requests, q.estimatedUnitsUsedToday ≤ budget

/-- A local count of the day. -/
structure Accounted (most day : Int) (q : QuotaContext) : Prop where
  today : q.usageDay = day
  used : q.estimatedUnitsUsedToday ≤ most

/-- In the middle of a call. -/
def Watched (budget most day : Int) (s : Spending) : Prop :=
  Bounded budget most day s ∧ Accounted most day s.context

theorem thrifty_bounded : Thrifty (Bounded budget most day) where
  flush _ h := ⟨h.durable, h.current, h.current, h.requests⟩
  commit _ h := ⟨h.current, h.current, h.current, h.requests⟩
  rollback _ h := ⟨h.durable, h.durable, h.durable, h.requests⟩

theorem thrifty_watched : Thrifty (Watched budget most day) where
  flush s h := ⟨thrifty_bounded.flush s h.1, h.2⟩
  commit s h := ⟨thrifty_bounded.commit s h.1, h.2⟩
  rollback s h := ⟨thrifty_bounded.rollback s h.1, h.2⟩

theorem watched_writeQuotaState : Spares (Watched budget most day) writeQuotaState := by
  intro w ⟨bounded, accounted⟩
  refine ⟨⟨bounded.durable, bounded.flushed, ?_, bounded.requests⟩, accounted⟩
  have today : some w.state.quota.usageDay = some day := congrArg some accounted.today
  change (if some w.state.quota.usageDay = some day then w.state.quota.estimatedUnitsUsedToday
    else 0) ≤ most
  rw [if_pos today]
  exact accounted.used

/-- A request with its unit counted, on a budget that is not used up. -/
theorem watched_request {β : Type} (view : PollReply → Option β) {w : PollWorld}
    (h : Watched budget most day (spending w))
    (left : w.state.quota.estimatedUnitsUsedToday ≤ budget) :
    wp (request view)
      (fun _ v => Watched budget most day (spending v) ∧ v.state.quota = w.state.quota)
      (fun v => Watched budget most day (spending v) ∧ v.state.quota = w.state.quota) w := by
  unfold request
  rw [wp_bind, wp_emit]
  have asked : Watched budget most day
      (spending { w with trace := .request w.state.quota :: w.trace }) ∧
      w.state.quota = w.state.quota := by
    refine ⟨⟨⟨h.1.durable, h.1.flushed, h.1.current, ?_⟩, h.2⟩, rfl⟩
    intro q hq
    rcases List.mem_cons.mp hq with rfl | hq
    · exact left
    · exact h.1.requests q hq
  exact wp_ask _ asked fun _ _ => asked

variable (enough : budget ≤ most)
include enough

/-- A unit is spent where there is one left. -/
theorem accounted_countUnit {q : QuotaContext} (h : Accounted most day q)
    (left : q.estimatedUnitsUsedToday < budget) :
    Accounted most day (countUnit q) ∧ (countUnit q).estimatedUnitsUsedToday ≤ budget :=
  have spent : q.estimatedUnitsUsedToday + 1 ≤ budget := Int.add_one_le_iff.mpr left
  ⟨⟨h.today, Int.le_trans spent enough⟩, spent⟩

theorem accounted_spendUnit (config : PollConfig) {q : QuotaContext} (h : Accounted most day q)
    (fresh : q.Fresh budget) (free : q.quotaBlocked = false) :
    Accounted most day (spendUnit config q) ∧
      (spendUnit config q).estimatedUnitsUsedToday ≤ budget := by
  obtain ⟨accounted, spent⟩ := accounted_countUnit enough h (fresh free)
  exact ⟨⟨accounted.today, accounted.used⟩, spent⟩

omit enough in
/-- Whoever looks at the budget sets the flag. -/
theorem fresh_of_blocked {used : Int} {q : QuotaContext} (safety : config.safetyStopEnabled = true)
    (total : max 0 config.dailyQuotaBudget = budget) (same : q.estimatedUnitsUsedToday = used)
    (looked : q.quotaBlocked
      = (config.safetyStopEnabled && decide (used ≥ max 0 config.dailyQuotaBudget))) :
    q.Fresh budget := by
  intro free
  rw [looked, safety, total, Bool.true_and] at free
  rw [same]
  exact Int.not_le.mp (of_decide_eq_false free)

section pages

variable (safety : config.safetyStopEnabled = true) (total : max 0 config.dailyQuotaBudget = budget)
include safety total

theorem watched_fetchPages (marker : String) (n : Nat) (pages : Playlist)
    (uploads : List LatestUpload) {w : PollWorld} (h : Watched budget most day (spending w))
    (fresh : w.state.quota.Fresh budget) :
    wp (fetchPages platform config marker n pages uploads)
      (fun _ v => Watched budget most day (spending v))
      (fun v => Watched budget most day (spending v)) w := by
  induction n generalizing pages uploads w with
  | zero => exact h
  | succ n ih =>
    unfold fetchPages
    rw [wp_bind, wp_read]
    by_cases blocked : w.state.quota.quotaBlocked = true
    · rw [if_pos blocked]
      exact h
    · rw [if_neg blocked, wp_bind]
      obtain ⟨accounted, left⟩ := accounted_spendUnit enough config h.2 fresh
        (Bool.eq_false_iff.mpr blocked)
      have again : (spendUnit config w.state.quota).Fresh budget :=
        fresh_of_blocked safety total rfl rfl
      change wp (request viewAnswered >>= _) _ _
        { w with state := { w.state with quota := spendUnit config w.state.quota } }
      rw [wp_bind]
      have spent : Watched budget most day (spending
          { w with state := { w.state with quota := spendUnit config w.state.quota } }) :=
        ⟨⟨h.1.durable, h.1.flushed, h.1.current, h.1.requests⟩, accounted⟩
      refine wp_mono (watched_request _ spent left) (fun answer v hv => ?_) fun _ hv => hv.1
      obtain ⟨hv, same⟩ := hv
      cases answer with
      | error e => exact hv
      | ok =>
        dsimp only
        split
        · exact hv
        · exact hv
        · split
          · exact hv
          · exact ih _ _ hv (same ▸ again)

theorem watched_fetchUploadsSinceMarker {channel : Channel} (marker : String) (maxPages : Int)
    {w : PollWorld} (h : Watched budget most day (spending w))
    (fresh : ¬ channel.unusable → w.state.quota.Fresh budget) :
    wp (fetchUploadsSinceMarker platform config channel marker maxPages)
      (fun _ v => Watched budget most day (spending v))
      (fun v => Watched budget most day (spending v)) w := by
  unfold fetchUploadsSinceMarker
  split
  · exact h
  · next usable =>
    rw [wp_bind, wp_read]
    exact watched_fetchPages enough safety total _ _ _ _ h (fresh usable)

end pages

/-- The lookup of a duration, with a unit for it. -/
theorem watched_fetchVideoDurationSeconds {w : PollWorld}
    (h : Watched budget most day (spending w))
    (left : w.state.quota.estimatedUnitsUsedToday < budget) :
    wp (fetchVideoDurationSeconds platform) (fun _ v => Watched budget most day (spending v))
      (fun v => Watched budget most day (spending v)) w := by
  unfold fetchVideoDurationSeconds
  rw [wp_bind]
  change wp (request viewDuration >>= _) _ _
    { w with state := { w.state with quota := countUnit w.state.quota } }
  rw [wp_bind]
  obtain ⟨accounted, within⟩ := accounted_countUnit enough h.2 left
  have spent : Watched budget most day (spending
      { w with state := { w.state with quota := countUnit w.state.quota } }) :=
    ⟨⟨h.1.durable, h.1.flushed, h.1.current, h.1.requests⟩, accounted⟩
  refine wp_mono (watched_request _ spent within) (fun answer v hv => ?_) fun _ hv => hv.1
  split
  · exact hv.1
  · exact hv.1
  · exact hv.1
  · split <;> exact hv.1

theorem watched_attemptDetectAndMarkShort {id : String} {w : PollWorld}
    (h : Watched budget most day (spending w))
    (left : w.state.db.current.unclassified id → w.state.quota.estimatedUnitsUsedToday < budget) :
    wp (attemptDetectAndMarkShort platform id) (fun _ v => Watched budget most day (spending v))
      (fun v => Watched budget most day (spending v)) w := by
  refine wp_detectAndMarkShort thrifty_watched.stored.toSaved h fun lookup u same => ?_
  have held : Watched budget most day (spending u) := by
    rw [spending, same]
    exact h
  have units : u.state.quota = w.state.quota := congrArg Facts.quota same
  exact watched_fetchVideoDurationSeconds enough held (units ▸ left lookup)

theorem watched_recoverUpload {userId channelId : Int} {upload : LatestUpload} {w : PollWorld}
    (total : max 0 config.dailyQuotaBudget = budget) (frugal : FrugalUpload config channelId upload w)
    (h : Watched budget most day (spending w)) :
    wp (recoverUpload platform config userId channelId upload)
      (fun _ v => Watched budget most day (spending v))
      (fun v => Watched budget most day (spending v)) w := by
  unfold recoverUpload
  rw [wp_bind]
  refine wp_mono (wp_and (kept_getOrCreateVideo thrifty_watched.stored.toSaved
    thrifty_watched.stored.addUpload w h) frugal)
    (fun id v hv => ?_) fun _ hv => hv.1
  rw [wp_bind]
  have left := hv.2
  rw [total] at left
  refine wp_mono (watched_attemptDetectAndMarkShort enough hv.1 left) (fun _ u hu => ?_)
    fun _ hu => hu
  have staged : Spares (Watched budget most day) (createStagesForVideo config userId id) := by
    refine kept_createStagesForVideo (fun f rows db _ added h => ?_) fun _ _ h => h
    obtain ⟨_, rfl⟩ := addStages_others added
    exact thrifty_watched.stored.flush _ h
  exact Keeps.bind kept_inMemory (fun db => Kept.when fun _ => staged) u hu

section channels

variable (safety : config.safetyStopEnabled = true) (total : max 0 config.dailyQuotaBudget = budget)
include safety total

theorem watched_reconcileTurn {userId maxPages : Int} {key : Int × Int} {w : PollWorld}
    (frugal : FrugalChannel platform config userId maxPages key w)
    (h : Watched budget most day (spending w)) :
    wp (reconcileTurn platform config userId maxPages key)
      (fun _ v => Watched budget most day (spending v))
      (fun v => Watched budget most day (spending v)) w := by
  refine wp_turn (J := fun f => Watched budget most day (spent f)) h (fun _ _ _ h => h)
    fun row found own usable => ?_
  refine wp_channel (J := fun f => Watched budget most day (spent f)) (fun _ _ _ h => h) ?_
  unfold FrugalChannel at frugal
  rw [found] at frugal
  dsimp only at frugal
  by_cases unusable : row.channel.unusable
  · unfold fetchUploadsSinceMarker
    rw [if_pos unusable]
    exact h
  obtain ⟨fresh, turns⟩ := frugal.resolve_left fun idle => by
    rcases idle with idle | idle | idle
    · exact usable (.inl idle)
    · exact usable (.inr idle)
    · exact unusable idle
  rw [total] at fresh
  refine wp_mono (wp_and (watched_fetchUploadsSinceMarker enough safety total
    (row.lastSeenVideoId.getD "") maxPages (w := { w with
      state := { w.state with exception := .other "" } }) h fun _ => fresh) turns)
    (fun pages v hv => ⟨hv.1, fun reached => ?_⟩) fun v hv => hv.1
  exact wp_forM_along (fun upload _ u frugal hu => watched_recoverUpload enough total frugal hu)
    (hv.2 reached) hv.1

omit enough safety total in
/-- The clock tells the day, and changes nothing. -/
theorem wp_today {J : Facts → Prop} {w : PollWorld} (h : J (facts w))
    (today : ∀ t, .now t ∈ w.replies → utcDay t = day) :
    wp utcNow (fun now v => utcDay now = day ∧ J (facts v)) (fun v => J (facts v)) w := by
  unfold utcNow call
  rw [wp_bind]
  apply wp_ask_reply _ h
  intro answer r rest replies view
  cases r with
  | now t =>
    cases view
    exact ⟨today t (replies ▸ List.mem_cons_self), h⟩
  | raised unusable message =>
    cases view
    exact h
  | done => cases view
  | committed => cases view
  | answered => cases view
  | duration => cases view
  | email => cases view
  | pipeline => cases view

omit enough safety total in
/-- A count that begins with what the row tells. -/
theorem accounted_buildQuotaContext (config : PollConfig) {existing : QuotaMetadata} {now : Time}
    (today : utcDay now = day) (recorded : existing.usedOn day ≤ most) :
    Accounted most day (buildQuotaContext config existing now) := by
  subst today
  exact ⟨rfl, recorded⟩

omit enough safety total in
theorem watched_reconcileStart {userId : Int} {w : PollWorld}
    (bounded : Bounded budget most day (spending w))
    (today : ∀ t, .now t ∈ w.replies → utcDay t = day) :
    wp (reconcileStart config userId) (fun _ v => Watched budget most day (spending v))
      (fun v => Bounded budget most day (spending v)) w := by
  unfold reconcileStart
  rw [wp_bind]
  refine wp_mono (wp_today (J := fun f => Bounded budget most day (spent f)) bounded today)
    (fun now v hv => ?_) fun _ hv => hv
  rw [wp_bind]
  refine wp_mono (kept_mayFlush thrifty_bounded.stored.flush v hv.2) (fun _ u hu => ?_) fun _ hu => hu
  rw [wp_bind, wp_inMemory]
  have accounted := accounted_buildQuotaContext config hv.1 hu.current
  have rest : Spares (Watched budget most day) (do
      pipelineUpdate config
      skipDisabledShortDeliveries config userId
      mayFlush
      return (← visible).monitored userId) := by
    apply (kept_pipelineUpdate thrifty_watched.updated).bind
    intro _
    apply (kept_skipDisabledShortDeliveries (fun _ _ h => h) (fun _ _ h => h) _).bind
    intro _
    apply (kept_mayFlush thrifty_watched.stored.flush).bind
    exact fun _ => kept_visible.bind fun _ => Keeps.pure _
  refine wp_mono (rest { u with state := { u.state with
    quota := buildQuotaContext config u.state.db.current.quota now } } ⟨?_, accounted⟩)
    (fun _ _ h => h) fun _ h => h.1
  exact ⟨hu.durable, hu.flushed, hu.current, hu.requests⟩

theorem watched_reconcileMissingUploads {userId maxPages : Int} {process : Bool} {w : PollWorld}
    (bounded : Bounded budget most day (spending w))
    (today : ∀ t, .now t ∈ w.replies → utcDay t = day)
    (frugal : wp (reconcileStart config userId)
      (fun rows => Along (FrugalChannel platform config userId maxPages)
        (reconcileTurn platform config userId maxPages) rows) (fun _ => True) w) :
    wp (reconcileMissingUploads platform config userId maxPages process)
      (fun _ v => Bounded budget most day (spending v))
      (fun v => Bounded budget most day (spending v)) w := by
  have start := wp_and (watched_reconcileStart bounded today) frugal
  have split : ∀ {post : ReconciliationSummary → PollWorld → Prop} {lost : PollWorld → Prop},
      wp (reconcileStart config userId) (fun rows => wp (do
        rows.forM fun key => reconcileTurn platform config userId maxPages key
        flush
        writeQuotaState
        finishPipeline config process
        mayFlush
        flush
        let t := (← Proc.read).tally
        return ⟨t.channelsProcessed, t.channelsFailed, t.videosDiscovered, t.channelErrors⟩)
          post lost) lost w →
      wp (reconcileMissingUploads platform config userId maxPages process) post lost w := by
    intro post lost h
    simp only [reconcileStart, wp_bind] at h
    simp only [reconcileMissingUploads, wp_bind]
    exact h
  apply split
  refine wp_mono start (fun rows v hv => ?_) fun v hv => hv.1
  rw [wp_bind]
  have watched : Watched budget most day (spending v) := hv.1
  refine wp_mono (wp_forM_along
    (fun key _ u frugal hu => watched_reconcileTurn enough safety total frugal hu) hv.2 watched)
    (fun _ u hu => ?_) fun u hu => hu.1
  have rest : Spares (Watched budget most day) (do
      flush
      writeQuotaState
      finishPipeline config process
      mayFlush
      flush
      let t := (← Proc.read).tally
      return (⟨t.channelsProcessed, t.channelsFailed, t.videosDiscovered, t.channelErrors⟩ :
        ReconciliationSummary)) := by
    apply (kept_flush thrifty_watched.stored.flush).bind
    intro _
    apply watched_writeQuotaState.bind
    intro _
    apply Keeps.bind
    · exact Keeps.ite (fun _ => kept_processRecovered thrifty_watched.stored thrifty_watched.updated)
        fun _ => kept_pipelineUpdate thrifty_watched.updated
    intro _
    apply (kept_mayFlush thrifty_watched.stored.flush).bind
    intro _
    apply (kept_flush thrifty_watched.stored.flush).bind
    exact fun _ => kept_read.bind fun _ => Keeps.pure _
  exact wp_mono (rest u hu) (fun _ _ h => h.1) fun _ h => h.1

omit enough safety total in
theorem bounded_upsertVideo (metadata : YouTubeVideoMetadata) (channelRow : Int) :
    Spares (Bounded budget most day) (upsertVideo metadata channelRow) := by
  apply kept_visible.bind
  intro db
  split
  · refine kept_addAndFlush fun f db added h => ?_
    obtain ⟨videos, _, same⟩ := Option.bind_eq_some_iff.mp added
    cases same
    exact thrifty_bounded.stored.flush _ h
  · apply kept_inMemory.bind
    intro db
    split
    · exact kept_flush thrifty_bounded.stored.flush
    · exact Kept.bind (kept_edit fun _ h => h) fun _ => kept_flush thrifty_bounded.stored.flush

theorem bounded_resolveAndUpsert {id : String} {payload : Json} {channelRow : Int} {w : PollWorld}
    (bounded : Bounded budget most day (spending w))
    (today : ∀ t, .now t ∈ w.replies → utcDay t = day) :
    wp (resolveAndUpsert platform config id payload channelRow)
      (fun _ v => Bounded budget most day (spending v))
      (fun v => Bounded budget most day (spending v)) w := by
  unfold resolveAndUpsert
  rw [wp_bind]
  refine wp_mono (wp_today (J := fun f => Bounded budget most day (spent f)) bounded today)
    (fun now v hv => ?_) fun _ hv => hv
  rw [wp_bind]
  refine wp_mono (kept_mayFlush thrifty_bounded.stored.flush v hv.2) (fun _ u hu => ?_) fun _ hu => hu
  rw [wp_bind, wp_inMemory]
  have accounted := accounted_buildQuotaContext config hv.1 hu.current
  have prepared : Accounted most day (prepareQuota config u.state.db.current.quota now) :=
    ⟨accounted.today, accounted.used⟩
  change wp (if (prepareQuota config u.state.db.current.quota now).quotaBlocked = true then _ else _)
    _ _ { u with state := { u.state with
      quota := prepareQuota config u.state.db.current.quota now } }
  have watched : Watched budget most day (spending { u with state := { u.state with
      quota := prepareQuota config u.state.db.current.quota now } }) :=
    ⟨⟨hu.durable, hu.flushed, hu.current, hu.requests⟩, prepared⟩
  split
  · exact watched.1
  · next free =>
    rw [wp_bind]
    have same : Spares (fun s => Watched budget most day s ∧
        s.context = prepareQuota config u.state.db.current.quota now) mayFlush :=
      kept_mayFlush fun f h => ⟨thrifty_watched.stored.flush f h.1, h.2⟩
    refine wp_mono (same _ ⟨watched, rfl⟩) (fun _ x hx => ?_) fun _ hx => hx.1.1
    obtain ⟨hx, context⟩ := hx
    have context : x.state.quota = prepareQuota config u.state.db.current.quota now := context
    have fresh : x.state.quota.Fresh budget := by
      rw [context]
      exact fresh_of_blocked safety total rfl rfl
    obtain ⟨accounted, left⟩ := accounted_spendUnit enough config hx.2 fresh
      ((congrArg QuotaContext.quotaBlocked context).trans (Bool.eq_false_iff.mpr free))
    rw [wp_bind]
    change wp (writeQuotaState >>= _) _ _
      { x with state := { x.state with quota := spendUnit config x.state.quota } }
    rw [wp_bind]
    have spent : Watched budget most day (spending
        { x with state := { x.state with quota := spendUnit config x.state.quota } }) :=
      ⟨⟨hx.1.durable, hx.1.flushed, hx.1.current, hx.1.requests⟩, accounted⟩
    have written := watched_writeQuotaState _ spent
    change wp (request viewAnswered >>= _) _ _ _
    rw [wp_bind]
    refine wp_mono (watched_request _ written left) (fun answer y hy => ?_)
      fun _ hy => hy.1.1
    have hy := hy.1.1
    cases answer with
    | error e => exact hy
    | ok =>
      dsimp only
      split
      · exact hy
      · refine Keeps.bind (kept_mayFlush thrifty_bounded.stored.flush) (fun _ => ?_) y hy
        exact bounded_upsertVideo _ _

end channels

/-! The calls. -/

omit enough in
theorem bounded_openSession : Spares (Bounded budget most day) openSession := by
  intro w h
  rw [wp_openSession]
  exact ⟨h.durable, h.durable, h.durable, h.requests⟩

omit enough in
theorem bounded_abandon {w : PollWorld} (h : Bounded budget most day (spending w)) :
    Bounded budget most day (spending (abandon w)) :=
  thrifty_bounded.rollback (spending w) h

theorem bounded_reconcile {request : ReconciliationRequest} {w : PollWorld}
    (safety : request.config.safetyStopEnabled = true)
    (total : max 0 request.config.dailyQuotaBudget = budget)
    (today : ∀ t, .now t ∈ request.replies → utcDay t = day)
    (frugal : (QuotaOp.reconcile request).Frugal platform w)
    (h : Bounded budget most day (spending w)) :
    Bounded budget most day (spending (reconcile platform request w).2) := by
  have route : wp (reconcileRoute platform request.config request.userId request.maxPages
      request.process) (fun _ v => Bounded budget most day (spending v))
      (fun v => Bounded budget most day (spending v)) { w with replies := request.replies } := by
    have opened := bounded_openSession { w with replies := request.replies } h
    unfold reconcileRoute
    rw [wp_bind, wp_openSession, wp_bind, wp_attempt, wp_bind]
    have back (v : PollWorld) (hv : Bounded budget most day (spending v)) :=
      (thrifty_bounded.back).bind (fun _ => Keeps.pure
        (none : Option ReconciliationSummary)) v hv
    refine wp_mono (watched_reconcileMissingUploads enough safety total (w := { w with
      state := { w.state.opened with exception := .other "" }
      replies := request.replies
      trace := .started :: w.trace }) opened today frugal) (fun summary v hv => ?_) back
    rw [wp_bind]
    exact wp_mono (kept_commit thrifty_bounded.stored.commit v hv) (fun _ _ h => h) back
  revert route
  unfold wp reconcile Proc.run
  cases reconcileRoute platform request.config request.userId request.maxPages request.process
    { w with replies := request.replies } with
  | mk r v =>
    cases r with
    | none => exact bounded_abandon
    | some r => exact id

theorem bounded_resolve {request : MetadataRequest} {w : PollWorld}
    (safety : request.config.safetyStopEnabled = true)
    (total : max 0 request.config.dailyQuotaBudget = budget)
    (today : ∀ t, .now t ∈ request.replies → utcDay t = day)
    (h : Bounded budget most day (spending w)) :
    Bounded budget most day (spending (resolve platform request w)) := by
  have call : wp (resolveCall platform request) (fun _ v => Bounded budget most day (spending v))
      (fun v => Bounded budget most day (spending v)) { w with replies := request.replies } := by
    have opened := bounded_openSession { w with replies := request.replies } h
    unfold resolveCall
    rw [wp_bind, wp_openSession, wp_bind, wp_attempt]
    have ends : Spares (Bounded budget most day)
        (if request.commits then commit else rollback) :=
      Keeps.ite (fun _ => kept_commit thrifty_bounded.stored.commit) fun _ => thrifty_bounded.back
    exact wp_mono (bounded_resolveAndUpsert enough safety total (w := { w with
      state := { w.state.opened with exception := .other "" }
      replies := request.replies
      trace := .started :: w.trace }) opened today) (fun _ v hv => ends v hv) fun v hv => ends v hv
  revert call
  unfold wp resolve Proc.run
  cases resolveCall platform request { w with replies := request.replies } with
  | mk r v =>
    cases r with
    | none => exact bounded_abandon
    | some r => exact id

theorem bounded_quotaStep {op : QuotaOp} {w : PollWorld} {b : Int} (guarded : op.Guarded b)
    (total : max 0 b = budget) (today : ∀ t, .now t ∈ op.replies → utcDay t = day)
    (frugal : op.Frugal platform w) (h : Bounded budget most day (spending w)) :
    Bounded budget most day (spending (quotaStep platform w op)) := by
  cases op with
  | reconcile request =>
    obtain ⟨safety, rfl⟩ := guarded
    exact bounded_reconcile enough safety total today frugal h
  | resolve request =>
    obtain ⟨safety, rfl⟩ := guarded
    exact bounded_resolve enough safety total today h
  | youtube remote => exact ⟨h.durable, h.flushed, h.current, h.requests⟩
  | elsewhere db => exact ⟨h.durable, h.durable, h.durable, h.requests⟩

theorem bounded_runQuota {ops : List QuotaOp} {w : PollWorld} {b : Int} (total : max 0 b = budget)
    (guarded : ∀ op ∈ ops, op.Guarded b)
    (today : ∀ op ∈ ops, ∀ t, .now t ∈ op.replies → utcDay t = day)
    (frugal : Frugal platform ops w) (h : Bounded budget most day (spending w)) :
    Bounded budget most day (spending (runQuota platform ops w)) := by
  induction ops generalizing w with
  | nil => exact h
  | cons op ops ih =>
    exact ih (fun o mem => guarded o (List.mem_cons_of_mem _ mem))
      (fun o mem => today o (List.mem_cons_of_mem _ mem)) frugal.2
      (bounded_quotaStep enough (guarded op List.mem_cons_self) total
        (today op List.mem_cons_self) frugal.1 h)

end day

end YTPipe.Polling
