import YTPipe.Polling.Rerun
import YTPipe.Polling.Spending

/-!
# The safety stop

A reconciliation that begins with a unit for every page it may ask for and every
upload it may look up never finds the budget used up. So no request is made past
the budget, in a run whose lookups of durations leave it alone.
-/

namespace YTPipe.Polling

open Proc

/-! Enough units. -/

/-- Whether a video is a Short is on record. -/
def Db.classified (db : Db) (id : String) : Prop := ((db.videos.get id).bind (·.isShort)).isSome

instance (db : Db) (id : String) : Decidable (db.classified id) :=
  inferInstanceAs (Decidable (_ = true))

/-- The lookups that these videos may need. -/
def lookupUnits (db : Db) (videos : List String) : Nat := videos.countP fun id => ¬ db.classified id

/-- The lookups that these uploads may need once they are recovered. -/
def recoveryUnits (db : Db) (uploads : List LatestUpload) : Nat :=
  lookupUnits db (uploads.map fun upload => upload.videoId.getD "")

/-- The units a channel's turn may spend, on pages and on lookups. -/
def turnUnits (db : Db) (maxPages : Int) (p : Playlist) : Nat :=
  min (pageLimit maxPages) (max 1 p.length) + lookupUnits db (validIds (window maxPages p))

/-- The units a reconciliation may spend on these channels. -/
def reconcileUnits (db : Db) (maxPages : Int) (remote : Int → Playlist) : List (Int × Int) → Nat
  | [] => 0
  | key :: keys => turnUnits db maxPages (remote key.2) + reconcileUnits db maxPages remote keys

/-- `units` more are within the budget, and what `base` has on record is in memory. -/
structure Affords (base : Db) (remote : Int → Playlist) (budget : Int) (units : Nat) (f : Facts) :
    Prop where
  within : Db.Within base f.db.current
  remote : f.remote = remote
  left : f.quota.estimatedUnitsUsedToday + units ≤ budget

section enough

variable {platform : PollPlatform} {config : PollConfig} {base : Db} {remote : Int → Playlist}
  {budget : Int} {units n : Nat} {f : Facts} {w : PollWorld} {userId maxPages : Int}

theorem Db.Within.classified {a b : Db} {id : String} (h : Db.Within a b) (known : a.classified id) :
    b.classified id := by
  obtain ⟨short, hs⟩ := Option.isSome_iff_exists.mp known
  obtain ⟨v, hv, own⟩ := Option.bind_eq_some_iff.mp hs
  obtain ⟨v', hv', kept⟩ := h.video id v hv
  unfold Db.classified
  rw [hv', Option.bind_some, kept short own]
  rfl

theorem Db.unclassified.unknown {db : Db} {id : String} (h : db.unclassified id) :
    ¬ db.classified id := by
  unfold Db.unclassified at h
  unfold Db.classified
  cases found : db.videos.get id with
  | none => simp
  | some v =>
    rw [found] at h
    simp [h.1]

namespace Affords

theorem fewer (h : Affords base remote budget units f) (fewer : n ≤ units) :
    Affords base remote budget n f :=
  ⟨h.within, h.remote, by have := h.left; omega⟩

theorem edit {g : Db → Db} (h : Affords base remote budget units f)
    (within : Db.Within f.db.current (g f.db.current)) :
    Affords base remote budget units (f.edit g) :=
  ⟨h.within.trans within, h.remote, h.left⟩

theorem note (h : Affords base remote budget units f) (e : PollEvent) :
    Affords base remote budget units (f.note e) := ⟨h.within, h.remote, h.left⟩

/-- One of the units is counted. -/
theorem count {q : QuotaContext} (h : Affords base remote budget (units + 1) f)
    (one : q.estimatedUnitsUsedToday = f.quota.estimatedUnitsUsedToday + 1) :
    Affords base remote budget units (f.count q) := by
  refine ⟨h.within, h.remote, ?_⟩
  change q.estimatedUnitsUsedToday + units ≤ budget
  have := h.left
  omega

end Affords

theorem saved_affords : Saved (Affords base remote budget units) where
  flush _ h := ⟨h.within, h.remote, h.left⟩
  video _ _ _ found short h := h.edit (within_setVideo found short)

/-- Each page takes a unit. -/
theorem affords_fetchPages {marker : String} {pages : Playlist} {uploads : List LatestUpload}
    (h : Affords base remote budget (min n (max 1 pages.length) + units) (facts w)) :
    wp (fetchPages platform config marker n pages uploads)
      (fun _ v => Affords base remote budget units (facts v))
      (fun v => Affords base remote budget units (facts v)) w := by
  induction n generalizing pages uploads w with
  | zero => exact h.fewer (Nat.le_add_left ..)
  | succ n ih =>
    unfold fetchPages
    rw [wp_bind, wp_read]
    split
    · exact h.fewer (Nat.le_add_left ..)
    · rw [wp_bind]
      have paid : Affords base remote budget (min n (pages.length - 1) + units)
          ((facts w).count (spendUnit config w.state.quota)) := by
        refine (h.fewer ?_).count rfl
        omega
      change wp (request viewAnswered >>= _) _ _
        { w with state := { w.state with quota := spendUnit config w.state.quota } }
      rw [wp_bind]
      refine wp_mono (kept_request (J := Affords base remote budget (min n (pages.length - 1) + units))
        (fun _ _ h => h.note _) _ paid) (fun answer v hv => ?_) fun v hv => hv.fewer (Nat.le_add_left ..)
      have rest := hv.fewer (Nat.le_add_left units _)
      cases answer with
      | error e => exact rest
      | ok =>
        dsimp only
        split
        · exact rest
        · exact rest
        · split
          · exact rest
          · next more =>
            apply ih
            refine hv.fewer ?_
            have : pages.tail.length ≠ 0 := fun none =>
              more (List.isEmpty_iff.mpr (List.eq_nil_of_length_eq_zero none))
            rw [List.length_tail] at this ⊢
            omega

/-- The uploads before the marker are among those of the window. -/
theorem lookupUnits_reaches {p : Playlist} {marker : String} {newer : List String}
    (h : Reaches marker (window maxPages p) newer) :
    lookupUnits base newer ≤ lookupUnits base (validIds (window maxPages p)) := by
  obtain ⟨before, item, after, split, -, -, rfl⟩ := h
  rw [split, validIds_append]
  unfold lookupUnits
  rw [List.countP_append]
  exact Nat.le_add_right ..

theorem affords_getOrCreateVideo {channelId : Int} {upload : LatestUpload}
    (h : Affords base remote budget units (facts w)) :
    wp (getOrCreateVideo channelId upload)
      (fun id v => Affords base remote budget units (facts v) ∧ id = upload.videoId.getD "")
      (fun v => Affords base remote budget units (facts v)) w := by
  have created : Kept (Affords base remote budget units) (getOrCreateVideo channelId upload) :=
    kept_getOrCreateVideo saved_affords fun _ _ _ inserted _ _ h => h.edit (within_addVideo inserted)
  exact wp_mono (wp_and (created w h) getOrCreateVideo_id) (fun _ _ h => h) fun _ h => h.1

/-- An upload that is looked up was counted. -/
theorem one_of_unclassified {db : Db} {upload : LatestUpload} (within : Db.Within base db)
    (lookup : db.unclassified (upload.videoId.getD "")) : recoveryUnits base [upload] = 1 := by
  have unknown : ¬ base.classified (upload.videoId.getD "") :=
    fun known => lookup.unknown (within.classified known)
  simp [recoveryUnits, lookupUnits, unknown]

theorem frugalUpload_of_units {channelId : Int} {upload : LatestUpload}
    (total : max 0 config.dailyQuotaBudget = budget)
    (h : Affords base remote budget (recoveryUnits base [upload] + units) (facts w)) :
    FrugalUpload config channelId upload w := by
  refine wp_mono (affords_getOrCreateVideo h) (fun id v hv lookup => ?_) fun _ _ => trivial
  obtain ⟨hv, rfl⟩ := hv
  have := hv.left
  rw [one_of_unclassified hv.within lookup] at this
  rw [total]
  change (facts v).quota.estimatedUnitsUsedToday < budget
  omega

theorem affords_recoverUpload {channelId : Int} {upload : LatestUpload}
    (h : Affords base remote budget (recoveryUnits base [upload] + units) (facts w)) :
    wp (recoverUpload platform config userId channelId upload)
      (fun _ v => Affords base remote budget units (facts v))
      (fun v => Affords base remote budget units (facts v)) w := by
  unfold recoverUpload
  rw [wp_bind]
  refine wp_mono (affords_getOrCreateVideo h) (fun id v hv => ?_)
    fun v hv => hv.fewer (Nat.le_add_left ..)
  obtain ⟨hv, rfl⟩ := hv
  rw [wp_bind]
  have checked : wp (attemptDetectAndMarkShort platform (upload.videoId.getD ""))
      (fun _ v => Affords base remote budget units (facts v))
      (fun v => Affords base remote budget units (facts v)) v := by
    refine wp_detectAndMarkShort saved_affords (hv.fewer (Nat.le_add_left units _))
      fun lookup u same => wp_lookupDuration (fun _ _ h => h.note _) (Affords.count ?_ rfl)
    rw [same, Nat.add_comm, ← one_of_unclassified hv.within lookup]
    exact hv
  refine wp_mono checked (fun _ u hu => ?_) fun _ hu => hu
  refine Kept.bind kept_inMemory (fun db => Kept.when fun _ => ?_) u hu
  refine kept_createStagesForVideo (fun f rows db _ added h => ?_) fun _ _ h => h.note _
  exact saved_affords.flush _ (h.edit (g := fun _ => db) (within_addStages added).1)

/-- Where the marker is found, there is a unit for each lookup that is left. -/
theorem affords_fetchUploads {channel : Channel} {marker : String}
    (h : Affords base remote budget (turnUnits base maxPages (remote channel.id) + units) (facts w)) :
    wp (fetchUploadsSinceMarker platform config channel marker maxPages)
      (fun r v => Affords base remote budget units (facts v) ∧ (r.2 = true →
        Affords base remote budget (recoveryUnits base r.1.reverse + units) (facts v)))
      (fun v => Affords base remote budget units (facts v)) w := by
  unfold fetchUploadsSinceMarker
  split
  · exact h.fewer (Nat.le_add_left ..)
  · rw [wp_bind, wp_read]
    have playlist : w.state.remote = remote := h.remote
    rw [playlist]
    rw [turnUnits, Nat.add_assoc] at h
    refine wp_mono (wp_and (affords_fetchPages h) (wp_fetchPages (J := fun _ => True)
      (fun _ _ _ => trivial) (fun _ _ _ => trivial) _ trivial)) (fun r v hv => ?_)
      fun v hv => hv.1.fewer (Nat.le_add_left ..)
    obtain ⟨hv, -, reached⟩ := hv
    refine ⟨hv.fewer (Nat.le_add_left ..), fun found => hv.fewer (Nat.add_le_add_right ?_ _)⟩
    obtain ⟨newer, reaches, same⟩ := reached found
    have listed : r.1.map (fun upload => upload.videoId.getD "") = newer := by
      have := congrArg (List.map fun id => id.getD "") same
      simpa [Function.comp_def] using this
    have order : recoveryUnits base r.1.reverse = lookupUnits base newer := by
      rw [← listed]
      unfold recoveryUnits lookupUnits
      rw [List.map_reverse, List.countP_reverse]
    rw [order]
    exact lookupUnits_reaches reaches

theorem recoveryUnits_cons (upload : LatestUpload) (rest : List LatestUpload) :
    recoveryUnits base (upload :: rest) = recoveryUnits base [upload] + recoveryUnits base rest := by
  unfold recoveryUnits lookupUnits
  rw [← List.countP_append]
  rfl

theorem affords_recoverUploads {channelId : Int} {uploads : List LatestUpload}
    (total : max 0 config.dailyQuotaBudget = budget)
    (h : Affords base remote budget (recoveryUnits base uploads + units) (facts w)) :
    Along (FrugalUpload config channelId) (recoverUpload platform config userId channelId) uploads w ∧
      wp (uploads.forM (recoverUpload platform config userId channelId))
        (fun _ v => Affords base remote budget units (facts v))
        (fun v => Affords base remote budget units (facts v)) w := by
  -- what is left covers the uploads still to come
  have paid (x : LatestUpload) (xs : List LatestUpload) (v : PollWorld)
      (hv : Affords base remote budget (recoveryUnits base (x :: xs) + units) (facts v)) :
      Affords base remote budget (recoveryUnits base [x] + (recoveryUnits base xs + units))
        (facts v) := by
    rw [← Nat.add_assoc, ← recoveryUnits_cons]
    exact hv
  constructor
  · refine along_of (I := fun xs v => Affords base remote budget
      (recoveryUnits base xs + units) (facts v)) (fun x xs v hv => ?_) h
    exact ⟨frugalUpload_of_units total (paid x xs v hv),
      wp_mono (affords_recoverUpload (paid x xs v hv)) (fun _ _ h => h) fun _ _ => trivial⟩
  · refine wp_mono (wp_forM_rest (I := fun xs v => Affords base remote budget
      (recoveryUnits base xs + units) (facts v)) (fun x xs v hv => ?_) h)
      (fun _ v hv => hv.fewer (Nat.le_add_left ..)) fun _ hv => hv
    exact wp_mono (affords_recoverUpload (paid x xs v hv)) (fun _ _ h => h)
      fun _ h => h.fewer (Nat.le_add_left ..)

/-- A channel's turn begins with a unit left, as do the lookups it leads to. -/
theorem frugalChannel_of_units {key : Int × Int} (total : max 0 config.dailyQuotaBudget = budget)
    (h : Affords base remote budget (turnUnits base maxPages (remote key.2) + units) (facts w)) :
    FrugalChannel platform config userId maxPages key w := by
  unfold FrugalChannel
  cases found : w.state.db.current.userChannels.get key with
  | none => exact trivial
  | some row =>
    have own : row.channel.id = key.2 := congrArg Prod.snd (Table.key_of_get found)
    refine .inr ⟨fun _ => ?_, ?_⟩
    · have left := h.left
      have page : 1 ≤ turnUnits base maxPages (remote key.2) := by
        unfold turnUnits pageLimit
        omega
      rw [total]
      change (facts w).quota.estimatedUnitsUsedToday < budget
      omega
    · rw [← own] at h
      refine wp_mono (affords_fetchUploads (w := { w with
        state := { w.state with exception := .other "" } }) h)
        (fun r v hv marked => ?_) fun _ _ => trivial
      exact (affords_recoverUploads total (hv.2 marked)).1

theorem affords_reconcileTurn {key : Int × Int} (total : max 0 config.dailyQuotaBudget = budget)
    (h : Affords base remote budget (turnUnits base maxPages (remote key.2) + units) (facts w)) :
    wp (reconcileTurn platform config userId maxPages key)
      (fun _ v => Affords base remote budget units (facts v))
      (fun v => Affords base remote budget units (facts v)) w := by
  refine wp_turn (h.fewer (Nat.le_add_left ..)) (fun _ _ _ h => h.note _) fun row _ own _ => ?_
  subst own
  refine wp_channel (fun _ _ _ h => h.edit (.of_eq rfl rfl)) ?_
  refine wp_mono (affords_fetchUploads h) (fun r v hv => ⟨hv.1, fun marked => ?_⟩) fun _ h => h
  exact (affords_recoverUploads total (hv.2 marked)).2

/-- What a call finds up to its channel loop. -/
structure Begun (base db : Db) : Prop where
  within : Db.Within base db
  channels : db.userChannels = base.userChannels
  quota : db.quota = base.quota

theorem updated_begun : Updated (Copies remote (Begun base)) where
  flush _ h := h.flush
  commit _ h := h.commit
  update _ row h := h.edit fun b => ⟨b.within.trans (within_setStage _ row), b.channels, b.quota⟩

/-- A reconciliation begins with the units that the day has left. -/
theorem affords_reconcileStart {day : Int} (start : Copies remote (Begun base) (facts w))
    (today : ∀ t, .now t ∈ w.replies → utcDay t = day)
    (left : base.quota.usedOn day + units ≤ budget) :
    wp (reconcileStart config userId)
      (fun rows v => rows = base.monitored userId ∧ Affords base remote budget units (facts v))
      (fun _ => True) w := by
  unfold reconcileStart
  rw [wp_bind]
  refine wp_mono (wp_today start today) (fun now v hv => ?_) fun _ _ => trivial
  obtain ⟨same, hv⟩ := hv
  rw [wp_bind]
  refine wp_mono (kept_mayFlush updated_begun.flush v hv) (fun _ u hu => ?_) fun _ _ => trivial
  rw [wp_bind, wp_inMemory]
  -- from here on the count is what the row tells of the day
  let J : Facts → Prop := fun f =>
    Copies remote (Begun base) f ∧ f.quota.estimatedUnitsUsedToday = base.quota.usedOn day
  have updated : Updated J :=
    ⟨fun f h => ⟨h.1.flush, h.2⟩, fun f h => ⟨h.1.commit, h.2⟩,
      fun f row h => ⟨updated_begun.update f row h.1, h.2⟩⟩
  have rest : wp (do
      pipelineUpdate config
      skipDisabledShortDeliveries config userId
      mayFlush
      return (← visible).monitored userId)
      (fun rows v => rows = base.monitored userId ∧ Affords base remote budget units (facts v))
      (fun _ => True)
      { u with state := { u.state with
        quota := buildQuotaContext config u.state.db.current.quota now } } := by
    have counted : J (facts { u with state := { u.state with
        quota := buildQuotaContext config u.state.db.current.quota now } }) := by
      refine ⟨⟨hu.durable, hu.flushed, hu.current, hu.remote⟩, ?_⟩
      change (if u.state.db.current.quota.usageDay = some (utcDay now) then _ else _) = _
      rw [same, show u.state.db.current.quota = base.quota from hu.current.quota]
      rfl
    rw [wp_bind]
    refine wp_mono (kept_pipelineUpdate updated _ counted) (fun _ x hx => ?_) fun _ _ => trivial
    rw [wp_bind]
    have delivered : ∀ f d, J f → J (f.edit (·.setDelivery d)) := fun f d h =>
      ⟨h.1.edit fun b => ⟨b.within.trans (.of_eq rfl rfl), b.channels, b.quota⟩, h.2⟩
    refine wp_mono (kept_skipDisabledShortDeliveries delivered (fun f k h => ⟨h.1.note _, h.2⟩) userId
      x hx) (fun _ y hy => ?_) fun _ _ => trivial
    rw [wp_bind]
    refine wp_mono (kept_mayFlush updated.flush y hy) (fun _ z hz => ?_) fun _ _ => trivial
    rw [wp_bind, wp_visible]
    refine ⟨?_, hz.1.current.within, hz.1.remote, ?_⟩
    · unfold Db.monitored
      rw [show z.state.db.flushed.userChannels = _ from hz.1.flushed.channels]
    · rw [hz.2]
      exact left
  exact rest

/-- A call that begins with units for all its pages and lookups never spends one
that is not there. -/
theorem frugal_of_units {request : ReconciliationRequest} {day : Int}
    (today : ∀ t, .now t ∈ request.replies → utcDay t = day)
    (left : w.state.db.durable.quota.usedOn day +
      reconcileUnits w.state.db.durable request.maxPages w.state.remote
        (w.state.db.durable.monitored request.userId) ≤ max 0 request.config.dailyQuotaBudget) :
    (QuotaOp.reconcile request).Frugal platform w := by
  change wp (openSession >>= fun _ => _) _ _ _
  rw [wp_bind, wp_openSession, wp_bind, wp_modify]
  have begun : Begun w.state.db.durable w.state.db.durable := ⟨.refl _, rfl, rfl⟩
  have opened : Copies w.state.remote (Begun w.state.db.durable)
      ⟨w.state.opened.db, w.state.remote, w.state.quota, .started :: w.trace⟩ :=
    ⟨begun, begun, begun, rfl⟩
  refine wp_mono (affords_reconcileStart opened today left) (fun rows v hv => ?_) fun _ _ => trivial
  obtain ⟨rfl, hv⟩ := hv
  refine along_of (I := fun keys v => Affords w.state.db.durable w.state.remote _
    (reconcileUnits w.state.db.durable request.maxPages w.state.remote keys) (facts v))
    (fun key keys v hv => ?_) hv
  rw [reconcileUnits] at hv
  exact ⟨frugalChannel_of_units rfl hv,
    wp_mono (affords_reconcileTurn rfl hv) (fun _ _ h => h) fun _ _ => trivial⟩

end enough

/-- With the safety stop on, no call of the day makes a request once the budget is
used up, and none records more than the budget, in a run in which the lookups of
durations leave the budget alone once it is. -/
theorem safety_stop (platform : PollPlatform) (budget day : Int) (ops : List QuotaOp) (db : Db)
    (remote : Int → Playlist) (guarded : ∀ op ∈ ops, op.Guarded budget)
    (today : ∀ op ∈ ops, ∀ t, .now t ∈ op.replies → utcDay t = day)
    (frugal : Frugal platform ops (startPolling db remote)) :
    let v := runQuota platform ops (startPolling db remote)
    (∀ q, .request q ∈ v.trace → q.estimatedUnitsUsedToday - 1 < max 0 budget) ∧
      v.state.db.durable.quota.usedOn day ≤ max (max 0 budget) (db.quota.usedOn day) := by
  intro v
  have before : Bounded (max 0 budget) (max (max 0 budget) (db.quota.usedOn day)) day
      (spending (startPolling db remote)) :=
    ⟨Int.le_max_right .., Int.le_max_right .., Int.le_max_right .., fun _ none => nomatch none⟩
  have after := bounded_runQuota (Int.le_max_left ..) rfl guarded today frugal before
  refine ⟨fun q asked => ?_, after.durable⟩
  have spent := after.requests q (List.mem_filterMap.mpr ⟨_, asked, rfl⟩)
  omega

/-- A call that recovers one upload without a Shorts title, and a lookup of metadata. -/
def spendingOps (budget : Int) : List QuotaOp :=
  [.reconcile ⟨⟨budget, true, true, false, false⟩, 1, 5, false, [.now 1, .done false, .done false,
      .answered, .done true, .duration none, .done true, .done false, .done true, .committed]⟩,
    .resolve ⟨⟨budget, true, true, false, false⟩, "v", .null, 1, true,
      [.now 2, .done false, .done false, .answered, .committed]⟩]

def spendingRun (budget : Int) : PollWorld :=
  runQuota Sample.platform (spendingOps budget) (startPolling Sample.db Sample.remote)

theorem spending_guarded (budget : Int) : ∀ op ∈ spendingOps budget, op.Guarded budget := by
  simp [spendingOps, QuotaOp.Guarded]

theorem spending_today (budget : Int) :
    ∀ op ∈ spendingOps budget, ∀ t, .now t ∈ op.replies → utcDay t = 0 := by
  intro op mem t told
  simp only [spendingOps, List.mem_cons, List.not_mem_nil, or_false] at mem
  rcases mem with rfl | rfl
  · have : t = 1 := by simpa [QuotaOp.replies] using told
    subst this
    decide
  · have : t = 2 := by simpa [QuotaOp.replies] using told
    subst this
    decide

theorem safety_stop_three : (spendingRun 3).state.db.durable.quota.usedOn 0 = 3 ∧
    ∀ q, .request q ∈ (spendingRun 3).trace → q.estimatedUnitsUsedToday - 1 < max 0 3 := by
  -- a page and two uploads
  have frugal : Frugal Sample.platform (spendingOps 3) (startPolling Sample.db Sample.remote) :=
    ⟨frugal_of_units (spending_today 3 _ List.mem_cons_self) (by decide), trivial, trivial⟩
  have held := safety_stop Sample.platform 3 0 (spendingOps 3) Sample.db Sample.remote
    (spending_guarded 3) (spending_today 3) frugal
  exact ⟨by decide +kernel, held.1⟩

/-- The duration of the upload is asked for although the page took the last unit. -/
theorem safety_stop_ignored : (spendingRun 1).state.db.durable.quota.usedOn 0 = 2 ∧
    ∃ q, .request q ∈ (spendingRun 1).trace ∧ ¬ q.estimatedUnitsUsedToday - 1 < max 0 1 := by
  refine ⟨by decide +kernel, ⟨0, 1, 2, 2, true, true, none, true⟩, ?_⟩
  decide +kernel

end YTPipe.Polling
