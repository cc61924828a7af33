import YTPipe.Polling.Deliveries

/-!
# Sequences of polls

Any sequence of poll requests, each in a session of its own, while YouTube's
playlists change. What a run is answered is part of the request.
-/

namespace YTPipe.Polling

open Proc

structure PollRequest where
  config : PollConfig
  userId : Int
  replies : List PollReply

inductive PollStep
  | poll (request : PollRequest)
  /-- The uploads playlists are now these. -/
  | youtube (remote : Int → Playlist)

/-- The session of a process that was lost is rolled back. -/
def abandon (w : PollWorld) : PollWorld :=
  { w with
    state := { w.state with db := w.state.db.rollback }
    trace := .rolledBack :: w.trace }

section

variable (platform : PollPlatform)

def poll (request : PollRequest) (w : PollWorld) : PollWorld :=
  match (runPollRoute platform request.config request.userId).run
      { w with replies := request.replies } with
  | (some _, v) => v
  | (none, v) => abandon v

def pollStep (w : PollWorld) : PollStep → PollWorld
  | .poll request => poll platform request w
  | .youtube remote => { w with state := { w.state with remote := remote } }

def runPolls (steps : List PollStep) (w : PollWorld) : PollWorld := steps.foldl (pollStep platform) w

/-- A database no poll has worked on yet, and the playlists. -/
def startPolling (db : Db) (remote : Int → Playlist) : PollWorld where
  state :=
    { db := Instance.load (Column.none Db) db
      quota := ⟨0, 0, 0, 0, false, false, none, false⟩
      tally := ⟨0, 0, 0, 0, 0, []⟩
      exception := .other ""
      remote := remote }
  replies := []
  trace := []

variable {platform}

/-- What holds wherever the route comes back, and after the rollback where it is
lost, holds after a request. -/
theorem poll_of_wp {P : PollWorld → Prop} {request : PollRequest} {w : PollWorld}
    (h : wp (runPollRoute platform request.config request.userId) (fun _ => P)
      (fun v => P (abandon v)) { w with replies := request.replies }) :
    P (poll platform request w) := by
  revert h
  unfold wp poll Proc.run
  cases runPollRoute platform request.config request.userId { w with replies := request.replies } with
  | mk r v => cases r <;> exact id

/-- Everything a sequence keeps, when each step keeps it. -/
theorem runPolls_induction {P : PollWorld → Prop} {steps : List PollStep} {w : PollWorld}
    (step : ∀ s ∈ steps, ∀ v, P v → P (pollStep platform v s)) (start : P w) :
    P (runPolls platform steps w) := by
  induction steps generalizing w with
  | nil => exact start
  | cons s steps ih =>
    exact ih (fun s' hs => step s' (List.mem_cons_of_mem _ hs)) (step s (List.mem_cons_self ..) w start)

theorem runPolls_append (steps steps' : List PollStep) (w : PollWorld) :
    runPolls platform (steps ++ steps') w = runPolls platform steps' (runPolls platform steps w) :=
  List.foldl_append

end

section deliveries

variable {platform : PollPlatform} {base : List Mark} {config : PollConfig} {key : Int × String}
  {v : View}

/-- Between the requests: nothing is pending. -/
structure Settled (base : List Mark) (v : View) : Prop where
  durable : Lawful v.durable v.account.kept
  base : base <+: v.account.kept
  kept : v.account.kept = v.account.sent
  ordered : Ordered v.account.runs v.account.sent
  fair : v.fair

theorem Recorded.settled_commit (h : Recorded base v) : Settled base v.commit :=
  ⟨h.current, h.base.trans h.kept, rfl, h.ordered, h.fair⟩

theorem Recorded.settled_rollback (h : Recorded base v) : Settled base v.rollback :=
  ⟨h.durable, h.base, rfl, ordered_prefix h.ordered h.kept, h.fair⟩

/-- A new session is not ahead of the store, and every send so far is of an
earlier run. -/
theorem Settled.waiting (h : Settled base v) : Waiting base config { v with
    flushed := v.durable
    current := v.durable
    shortFlushed := v.shortDurable
    shortCurrent := v.shortDurable
    account := { v.account with runs := v.account.runs + 1 } } where
  durable := h.durable
  flushed := ⟨_, List.prefix_refl _, h.kept ▸ h.durable⟩
  current := h.kept ▸ h.durable
  base := h.base
  kept := h.kept ▸ List.prefix_refl _
  ordered := ⟨h.ordered.increasing, fun i hi => Nat.le_succ_of_le (h.ordered.past i hi)⟩
  short _ hb := hb
  fair := h.fair
  pending := ⟨_, 0, h.durable, by
    change v.account.sent = v.account.kept ++ List.replicate 0 .skipped
    rw [← h.kept, List.replicate_zero, List.append_nil], fun no => absurd no (by omega)⟩
  earlier i hi := Nat.lt_succ_of_le (h.ordered.past i hi)

theorem wp_openSession {post : Unit → PollWorld → Prop} {lost : PollWorld → Prop} {w : PollWorld} :
    wp openSession post lost w ↔
      post () { w with state := w.state.opened, trace := .started :: w.trace } := Iff.rfl

theorem wp_rollback {post : Unit → PollWorld → Prop} {lost : PollWorld → Prop} {w : PollWorld} :
    wp rollback post lost w ↔ post () (abandon w) := Iff.rfl

theorem wp_commit_settled {w : PollWorld} (h : Recorded base (view key (facts w))) :
    wp commit (fun _ u => Settled base (view key (facts u)))
      (fun u => Recorded base (view key (facts u))) w :=
  wp_commit (J := fun f => Recorded base (view key f)) (K := fun f => Settled base (view key f)) h
    fun _ h => h.settled_commit

/-- A request leaves nothing pending, unless it is lost. -/
theorem runPollRoute_settled {userId : Int} {w : PollWorld} (start : Settled base (view key (facts w))) :
    wp (runPollRoute platform config userId) (fun _ u => Settled base (view key (facts u)))
      (fun u => Recorded base (view key (facts u))) w := by
  unfold runPollRoute
  rw [wp_bind, wp_openSession, wp_bind, wp_attempt, wp_bind]
  have fails : ∀ u : PollWorld, Recorded base (view key (facts u)) →
      wp (do rollback; flush; commit; return (none : Option PollRunSummary))
        (fun _ x => Settled base (view key (facts x)))
        (fun x => Recorded base (view key (facts x))) u := by
    intro u hu
    have back : Recorded base (view key (facts (abandon u))) := hu.rollback
    rw [wp_bind, wp_rollback, wp_bind]
    refine wp_mono (kept_flush (J := fun f => Recorded base (view key f)) (fun _ h => h.flush) _ back)
      (fun _ x hx => ?_) fun _ h => h
    rw [wp_bind]
    exact wp_mono (wp_commit_settled hx) (fun _ _ h => h) fun _ h => h
  refine wp_mono (runPoll_recorded (show Waiting base config _ from start.waiting))
    (fun summary u hu => ?_) fun u hu => ?_
  · rw [wp_bind]
    exact wp_mono (wp_commit_settled hu) (fun _ _ h => h) fun x hx => fails x hx
  · exact fails u hu

/-- What a request leaves behind of a delivery. -/
theorem poll_settled {request : PollRequest} {w : PollWorld} (start : Settled base (view key (facts w))) :
    Settled base (view key (facts (poll platform request w))) := by
  apply poll_of_wp (P := fun u => Settled base (view key (facts u)))
  exact wp_mono (runPollRoute_settled start) (fun _ _ h => h) fun _ h => h.settled_rollback

theorem runPolls_settled {steps : List PollStep} {w : PollWorld}
    (start : Settled base (view key (facts w))) :
    Settled base (view key (facts (runPolls platform steps w))) := by
  apply runPolls_induction (P := fun u => Settled base (view key (facts u))) _ start
  intro s _ v hv
  cases s with
  | poll request => exact poll_settled hv
  | youtube remote => exact hv

/-- A database without deliveries. -/
def Db.fresh (db : Db) : Db := { db with deliveries := .empty }

theorem startPolling_settled {db : Db} {remote : Int → Playlist} :
    Settled [] (view key (facts (startPolling db.fresh remote))) where
  durable := rfl
  base := List.prefix_refl _
  kept := rfl
  ordered := ⟨List.Pairwise.nil, nofun⟩
  fair := trivial

end deliveries

/-! A channel with a new upload. -/

namespace Sample

def platform : PollPlatform := ⟨fun _ => none, fun _ => none, some 4300⟩

def config : PollConfig := ⟨0, false, true, false, false⟩

/-- A monitored channel whose baseline is the upload `old`. -/
def channel : UserChannel := ⟨1, ⟨1, "UC", none, some "UU"⟩, true, some "old", some 0⟩

def db : Db where
  userChannels := ⟨[channel], by simp⟩
  videos := .empty
  deliveries := .empty
  stages := .empty
  quota := ⟨none, 0, none⟩

def remote (_ : Int) : Playlist := [[⟨some "new", none, none⟩, ⟨some "old", none, none⟩]]

/-- A run that detects the upload and sends, up to its end. -/
def detection (outcome : EmailOutcome) (rest : List PollReply) : PollStep :=
  .poll ⟨config, 1, [.now 1, .done false, .done false, .answered, .done true, .duration none,
    .done true, .now 2, .email outcome] ++ rest⟩

/-- A run that tries again, up to its end. -/
def retrial (outcome : EmailOutcome) (rest : List PollReply) : PollStep :=
  .poll ⟨config, 1, [.now 3, .done false, .done false, .now 4, .email outcome, .answered] ++ rest⟩

def ending : List PollReply := [.done true, .done true, .committed]

/-- A first send that fails in a way that may pass, and its retry. -/
def retried : List PollStep :=
  [detection (.failed "timeout" true) ending, retrial .returned ending]

/-- Two runs that detect the upload; the first one fails at its end. -/
def aborted : List PollStep :=
  [detection .returned [.raised false "database is locked", .done true, .committed],
    detection .returned ending]

end Sample

end YTPipe.Polling
