import YTPipe.Telegram.Leader
import YTPipe.Telegram.Queue

/-!
# The attempts of a request

A request has a number of attempts. They count metadata lookups, and the sweep
that opens a call fails a request that has none left, whether its lookup has
failed or its content is still to come.
-/

namespace YTPipe.Telegram

/-- The sweep finds the request waiting with no attempt left. -/
def Spent (now : Time) (r : TelegramCommandRequest) : Prop :=
  ((recoverStaleClaim now r).status = .pending ∨ (recoverStaleClaim now r).status = .pendingRetry)
    ∧ (recoverStaleClaim now r).attemptCount ≥ (recoverStaleClaim now r).maxAttempts

instance (now : Time) (r : TelegramCommandRequest) : Decidable (Spent now r) :=
  inferInstanceAs (Decidable (_ ∧ _))

/-- The lookup's error is one that is waited out. -/
def pauses (code : String) : Prop :=
  code = "google_reauth_required" ∨ code = "quota_blocked" ∨ code = "quota_exceeded"

/-- `process_content_stages` told the worker that the content failed. -/
def ContentFails {σ : Type} (w : Worker) (answer : Answer σ) : Prop :=
  ∃ assigned error effect, w.phase = .inContent assigned ∧ answer = .pipeline .failed error effect

/-- The lookup told the worker of an error that is final. -/
def LookupFails {σ : Type} (w : Worker) (answer : Answer σ) : Prop :=
  ∃ attemptCount maxAttempts code message retryable,
    w.phase = .lookingUp attemptCount maxAttempts
      ∧ answer = .lookup (.error code message retryable) ∧ ¬ pauses code
      ∧ ¬ (retryable = true ∧ attemptCount < maxAttempts)

/-- The worker has a video that it was not given. -/
def Assigns {σ : Type} (s : QueueState σ) (w : Worker) (answer : Answer σ) : Prop :=
  w.phase ≠ .opened ∧ (s.owns w = true
    ∨ ∃ effect video, answer = .pipelineCommit effect ∧ w.phase = .inContent (some video))

section rows

variable {r : TelegramCommandRequest} {now : Time}

theorem recoverStaleClaim_failed (h : (recoverStaleClaim now r).status = .failed) :
    r.status = .failed := by
  revert h
  unfold recoverStaleClaim recoverReply recoverProcessing
  split <;> split <;> simp

theorem sweep_failed (h : (sweep now r).status = .failed) : r.status = .failed ∨ Spent now r := by
  by_cases spent : Spent now r
  · exact .inr spent
  · have kept : exhaustProcessing (recoverStaleClaim now r) = recoverStaleClaim now r :=
      if_neg spent
    have status : (recoverStaleClaim now r).status = .failed := by
      rw [← h, sweep, terminalizeExhausted, kept, exhaustReply]
      split <;> rfl
    exact .inl (recoverStaleClaim_failed status)

theorem sweep_videoId (now : Time) (r : TelegramCommandRequest) :
    (sweep now r).videoId = r.videoId := by
  unfold sweep terminalizeExhausted exhaustReply exhaustProcessing recoverStaleClaim recoverReply
    recoverProcessing
  split <;> split <;> split <;> split <;> rfl

theorem sweep_lease {t : String} (h : (sweep now r).leaseToken = some t) :
    r.leaseToken = some t := by
  revert h
  unfold sweep terminalizeExhausted exhaustReply exhaustProcessing recoverStaleClaim recoverReply
    recoverProcessing
  split <;> split <;> split <;> split <;> simp

theorem suppressUnauthorized_failed (h : (suppressUnauthorized r).status = .failed) :
    r.status = .failed := by
  revert h
  unfold suppressUnauthorized
  split <;> simp

theorem suppressUnauthorized_videoId (r : TelegramCommandRequest) :
    (suppressUnauthorized r).videoId = r.videoId := by
  unfold suppressUnauthorized
  split <;> rfl

theorem claim_failed {kind : WorkKind} {token : String}
    (h : (claim kind token now r).status = .failed) : r.status = .failed := by
  cases kind with
  | processing => cases h
  | reply => exact h

theorem claim_videoId {kind : WorkKind} {token : String} :
    (claim kind token now r).videoId = r.videoId := by
  cases kind <;> rfl

theorem replyRow_same {outcome : SendOutcome} {attemptCount maxAttempts : Int} :
    (replyRow outcome attemptCount maxAttempts now r).status = r.status
      ∧ (replyRow outcome attemptCount maxAttempts now r).videoId = r.videoId
      ∧ (replyRow outcome attemptCount maxAttempts now r).leaseToken = none := by
  unfold replyRow
  cases outcome with
  | sent => exact ⟨rfl, rfl, rfl⟩
  | failed =>
    simp only
    split <;> exact ⟨rfl, rfl, rfl⟩

end rows

namespace QueueState

variable {σ : Type} {s : QueueState σ} {w : Worker} {id : Int} {r r' : TelegramCommandRequest}
  {answer : Answer σ} {now : Time}

/-- What a transaction of a worker may have done to a row's status and video. -/
structure Touched (s : QueueState σ) (w : Worker) (answer : Answer σ) (id : Int)
    (r r' : TelegramCommandRequest) : Prop where
  failed : r'.status = .failed → r.status = .failed
    ∨ id = w.request ∧ s.owns w = true ∧ (ContentFails w answer ∨ LookupFails w answer)
  video : r'.videoId ≠ none → r.videoId ≠ none ∨ id = w.request ∧ Assigns s w answer
  lease : ∀ t, r'.leaseToken = some t → r.leaseToken = some t

theorem Touched.refl : Touched s w answer id r r := ⟨.inl, .inl, fun _ h => h⟩

/-- Every row is touched as a worker may. -/
def Touches (s : QueueState σ) (w : Worker) (answer : Answer σ) (s' : QueueState σ) : Prop :=
  ∀ id r', s'.rows.get id = some r' → ∃ r, s.rows.get id = some r ∧ Touched s w answer id r r'

theorem touches_same {s' : QueueState σ} (same : s'.rows = s.rows) : Touches s w answer s' := by
  intro id r' row'
  rw [same] at row'
  exact ⟨r', row', .refl⟩

theorem touches_update (f : TelegramCommandRequest → TelegramCommandRequest)
    (keeps : ∀ r, (f r).id = r.id) {s' : QueueState σ}
    (rows : s'.rows = s.rows.alter w.request f keeps)
    (one : ∀ r, s.rows.get w.request = some r → Touched s w answer w.request r (f r)) :
    Touches s w answer s' := by
  intro id r' row'
  rw [rows, Table.get_alter] at row'
  split at row'
  · next here =>
    subst here
    obtain ⟨r, row, rfl⟩ := Option.map_eq_some_iff.mp row'
    exact ⟨r, row, one r row⟩
  · exact ⟨r', row', .refl⟩

theorem finish_rows {f : Finish} : (s.finish w f now).rows = if s.owns w = true
    then s.rows.alter w.request (fenced w.token (f.row now)) (fenced_id (f.row_id now))
    else s.rows := by
  unfold finish
  split
  · simp only
    split <;> rfl
  · rfl

theorem finish_workers {f : Finish} :
    (s.finish w f now).workers = (s.leave w.token).workers := by
  unfold finish
  split
  · simp only
    split <;> rfl
  · rfl

theorem touches_finish {f : Finish} {s' : QueueState σ}
    (rows : s'.rows = (s.finish w f now).rows)
    (fails : f.status = .failed → ContentFails w answer ∨ LookupFails w answer)
    (assigns : f.assignedVideo ≠ none → w.phase ≠ .opened) : Touches s w answer s' := by
  rw [finish_rows] at rows
  split at rows
  · next owned =>
    apply touches_update _ _ rows
    intro r row
    unfold fenced
    split
    · refine ⟨fun failed => .inr ⟨rfl, owned, fails failed⟩, fun known => ?_,
        fun _ h => by cases h⟩
      by_cases before : r.videoId = none
      · refine .inr ⟨rfl, assigns fun none => known ?_, .inl owned⟩
        simp only [Finish.row, finishRow, none, before, Option.or_none]
      · exact .inl before
    · exact .refl
  · exact touches_same rows

theorem touches_decideVideo {assigned : Option Int} {video : VideoFacts}
    (assigns : assigned ≠ none → w.phase ≠ .opened) :
    Touches s w answer (s.decideVideo w assigned video now) := by
  unfold decideVideo
  split
  · exact touches_finish rfl nofun assigns
  · split
    · exact touches_finish rfl nofun assigns
    · exact touches_same rfl

theorem touches_beginContent {user account : Bool} {video : Option VideoFacts} :
    Touches s w answer (s.beginContent w user video account now) := by
  unfold beginContent
  simp only
  split
  · exact touches_same rfl
  · split
    · exact touches_same rfl
    · split
      · exact touches_finish rfl (fun h => by cases h) fun h => absurd rfl h
      · split
        · exact touches_decideVideo fun h => absurd rfl h
        · split
          · exact touches_finish rfl (fun h => by cases h) fun h => absurd rfl h
          · split
            · exact touches_update (fun r => { r with attemptCount := r.attemptCount + 1 })
                (fun _ => rfl) rfl fun r _ => ⟨.inl, .inl, fun _ h => h⟩
            · exact touches_same rfl

theorem touches_endLookup {attemptCount maxAttempts : Int} {result : Lookup}
    (phase : w.phase = .lookingUp attemptCount maxAttempts) :
    Touches s w (.lookup result) (s.endLookup w attemptCount maxAttempts result now) := by
  have past : w.phase ≠ .opened := by
    rw [phase]
    exact nofun
  unfold endLookup
  split
  · exact touches_decideVideo fun _ => past
  · next code message retryable =>
    split
    · exact touches_finish rfl nofun nofun
    next final =>
    split
    · exact touches_finish rfl nofun nofun
    next spent =>
    refine touches_finish rfl (fun _ => .inr ?_) nofun
    exact ⟨attemptCount, maxAttempts, code, message, retryable, phase, rfl, final, spent⟩

theorem touches_endContent {assigned : Option Int} {outcome : ContentOutcome}
    {error : Option String} {effect : σ → σ} {stages : σ} (phase : w.phase = .inContent assigned) :
    Touches s w (.pipeline outcome error effect)
      { s.endContent w assigned outcome error now with stages := stages } := by
  have past : w.phase ≠ .opened := by
    rw [phase]
    exact nofun
  unfold endContent
  cases outcome with
  | completed => exact touches_finish rfl nofun fun _ => past
  | failed =>
    exact touches_finish rfl (fun _ => .inl ⟨assigned, error, effect, phase, rfl⟩) fun _ => past
  | pending => exact touches_finish rfl nofun fun _ => past

theorem work_touches (s : QueueState σ) (w : Worker) (answer : Answer σ) (now : Time) :
    Touches s w answer (s.work w answer now) := by
  unfold work
  split
  · exact touches_beginContent
  · next phase => exact touches_endLookup phase
  · next assigned effect _ phase =>
    refine touches_update (fun r => { r with videoId := assigned.or r.videoId }) (fun _ => rfl) rfl
      fun r _ => ⟨.inl, fun known => ?_, fun _ h => h⟩
    cases assigned with
    | none => exact .inl known
    | some video =>
      refine .inr ⟨rfl, ?_, .inr ⟨effect, video, rfl, phase⟩⟩
      rw [phase]
      intro h
      cases h
  · next phase => exact touches_endContent phase
  · unfold beginReply
    split
    · exact touches_same rfl
    · split
      · exact touches_same rfl
      · split
        · refine touches_update _ suppressUnauthorized_id rfl fun r _ =>
            ⟨fun h => .inl (suppressUnauthorized_failed h), ?_, fun _ h => by cases h⟩
          rw [suppressUnauthorized_videoId]
          exact .inl
        · exact touches_same rfl
  · unfold sendReply
    split
    · exact touches_same rfl
    · split
      · exact touches_same rfl
      · exact touches_same rfl
  · refine touches_update _ (fenced_id (replyRow_id _ _ _ now)) rfl fun r _ => ?_
    unfold fenced
    split
    · refine ⟨fun h => .inl (replyRow_same.1 ▸ h), fun h => .inl (replyRow_same.2.1 ▸ h), ?_⟩
      intro t held
      rw [replyRow_same.2.2] at held
      cases held
    · exact .refl
  · exact touches_same rfl

/-- The lookup of a worker starts, its request having no video. -/
def Begins (s : QueueState σ) (w : Worker) (answer : Answer σ) : Prop :=
  w.phase = .opened ∧ ∃ video, answer = .found true video true
    ∧ ∀ r, s.rows.get w.request = some r → r.videoId = none ∨ video = none

/-- What the workers are that look a video up after a transaction. -/
def Leaves (s : QueueState σ) (w : Worker) (answer : Answer σ) (s' : QueueState σ) : Prop :=
  ∀ v ∈ s'.workers, ∀ attemptCount maxAttempts, v.phase = .lookingUp attemptCount maxAttempts →
    v ∈ s.workers ∧ v.token ≠ w.token
      ∨ v.token = w.token ∧ v.request = w.request ∧ Begins s w answer

theorem leaves_leave {s' : QueueState σ} (same : s'.workers = (s.leave w.token).workers) :
    Leaves s w answer s' := by
  intro v mem _ _ _
  rw [same] at mem
  obtain ⟨mem, other⟩ := List.mem_filter.mp mem
  exact .inl ⟨mem, by simpa using other⟩

theorem leaves_proceed {phase : Phase} {s' : QueueState σ} (sane : s.Sane) (mem : w ∈ s.workers)
    (same : s'.workers = (s.proceed w.token phase).workers)
    (begins : (∃ attemptCount maxAttempts, phase = .lookingUp attemptCount maxAttempts) →
      Begins s w answer) : Leaves s w answer s' := by
  intro v there attemptCount maxAttempts looks
  rw [same] at there
  rcases mem_proceed sane mem there with rfl | there
  · exact .inr ⟨rfl, rfl, begins ⟨attemptCount, maxAttempts, looks⟩⟩
  · exact .inl there

theorem leaves_decideVideo {assigned : Option Int} {video : VideoFacts} (sane : s.Sane)
    (mem : w ∈ s.workers) : Leaves s w answer (s.decideVideo w assigned video now) := by
  unfold decideVideo
  split
  · exact leaves_leave finish_workers
  · split
    · exact leaves_leave finish_workers
    · exact leaves_proceed sane mem rfl nofun

theorem leaves_beginContent {user account : Bool} {video : Option VideoFacts} (sane : s.Sane)
    (mem : w ∈ s.workers) (phase : w.phase = .opened) :
    Leaves s w (.found user video account) (s.beginContent w user video account now) := by
  unfold beginContent
  simp only
  split
  · exact leaves_leave rfl
  next r row =>
  split
  · exact leaves_leave rfl
  split
  · exact leaves_leave finish_workers
  next user =>
  split
  · exact leaves_decideVideo sane mem
  next missing =>
  split
  · exact leaves_leave finish_workers
  next account =>
  split
  · refine leaves_proceed sane mem rfl fun _ => ⟨phase, video, ?_, ?_⟩
    · rw [Bool.not_eq_false] at user account
      rw [user, account]
    · intro r' row'
      rw [row] at row'
      cases row'
      split at missing
      · exact .inr missing
      · next unknown => exact .inl (Option.not_isSome_iff_eq_none.mp unknown)
  · exact leaves_leave rfl

theorem work_leaves (sane : s.Sane) (mem : w ∈ s.workers) (answer : Answer σ) (now : Time) :
    Leaves s w answer (s.work w answer now) := by
  unfold work
  split
  · next phase => exact leaves_beginContent sane mem phase
  · unfold endLookup
    split
    · exact leaves_decideVideo sane mem
    · split
      · exact leaves_leave finish_workers
      · split
        · exact leaves_leave finish_workers
        · exact leaves_leave finish_workers
  · exact leaves_proceed sane mem rfl (by rintro ⟨_, _, h⟩; cases h)
  · unfold endContent
    split <;> exact leaves_leave finish_workers
  · unfold beginReply
    split
    · exact leaves_leave rfl
    · split
      · exact leaves_leave rfl
      · split
        · exact leaves_leave rfl
        · exact leaves_proceed sane mem rfl (by rintro ⟨_, _, h⟩; cases h)
  · unfold sendReply
    split
    · exact leaves_leave rfl
    · split
      · exact leaves_leave rfl
      · exact leaves_proceed sane mem rfl (by rintro ⟨_, _, h⟩; cases h)
  · exact leaves_leave rfl
  · exact leaves_leave rfl

/-! One step. -/

/-- The step is a transaction of the worker. -/
def WorksOn (s : QueueState σ) (op : QueueOp σ) (w : Worker) (answer : Answer σ) : Prop :=
  s.worker w.token = some w ∧ ∃ now, op = .work w.token answer now

/-- What a step may have done to a row's status, video and lease. -/
structure Stepped (s : QueueState σ) (op : QueueOp σ) (id : Int) (r r' : TelegramCommandRequest) :
    Prop where
  failed : r'.status = .failed → r.status = .failed
    ∨ (∃ settings clock token, op = .call settings clock token ∧ token ∉ s.issued
        ∧ settings.telegramCommandsEnabled = true ∧ Spent clock.recovered r)
    ∨ ∃ w answer, WorksOn s op w answer ∧ w.request = id ∧ s.owns w = true
        ∧ (ContentFails w answer ∨ LookupFails w answer)
  video : r'.videoId ≠ none → r.videoId ≠ none
    ∨ ∃ w answer, WorksOn s op w answer ∧ w.request = id ∧ Assigns s w answer
  lease : ∀ t ∈ s.issued, r'.leaseToken = some t → r.leaseToken = some t

variable {op : QueueOp σ}

theorem Stepped.aside (status : r'.status = .failed → r.status = .failed)
    (video : r'.videoId ≠ none → r.videoId ≠ none) (lease : r'.leaseToken = r.leaseToken) :
    Stepped s op id r r' :=
  ⟨fun h => .inl (status h), fun h => .inl (video h), fun _ _ h => lease ▸ h⟩

theorem stepped_call {settings : CommandSettings} {clock : CallClock} {token : String}
    (new : token ∉ s.issued) (row' : (openCall settings clock token s.rows).2.get id = some r') :
    ∃ r, s.rows.get id = some r ∧ Stepped s (.call settings clock token) id r r' := by
  have opened := openCall_opened settings clock token s.rows
  generalize (openCall settings clock token s.rows).1 = opening at opened
  generalize (openCall settings clock token s.rows).2 = rows at opened row'
  have base (on : settings.telegramCommandsEnabled = true) (r : TelegramCommandRequest) :
      Stepped s (.call settings clock token) id r (sweep clock.recovered r) := by
    refine ⟨fun h => ?_, fun h => .inl (sweep_videoId clock.recovered r ▸ h),
      fun _ _ => sweep_lease⟩
    rcases sweep_failed h with before | spent
    · exact .inl before
    · exact .inr (.inl ⟨settings, clock, token, rfl, new, on, spent⟩)
  have altered (on : settings.telegramCommandsEnabled = true) {k : Int}
      {f : TelegramCommandRequest → TelegramCommandRequest} {keeps : ∀ r, (f r).id = r.id}
      (failed : ∀ r, (f r).status = .failed → r.status = .failed)
      (video : ∀ r, (f r).videoId = r.videoId)
      (lease : ∀ r t, t ∈ s.issued → (f r).leaseToken = some t → r.leaseToken = some t)
      (there : ((swept clock.recovered s.rows).alter k f keeps).get id = some r') :
      ∃ r, s.rows.get id = some r ∧ Stepped s (.call settings clock token) id r r' := by
    rw [Table.get_alter] at there
    split at there
    · next here =>
      subst here
      rw [swept_get, Option.map_map] at there
      obtain ⟨r, row, rfl⟩ := Option.map_eq_some_iff.mp there
      refine ⟨r, row, fun h => (base on r).failed (failed _ h),
        fun h => (base on r).video (video _ ▸ h), ?_⟩
      exact fun t issued h => (base on r).lease t issued (lease _ t issued h)
    · rw [swept_get] at there
      obtain ⟨r, row, rfl⟩ := Option.map_eq_some_iff.mp there
      exact ⟨r, row, base on r⟩
  cases opened with
  | disabled => exact ⟨r', row', .aside (fun h => h) (fun h => h) rfl⟩
  | empty on =>
    rw [swept_get] at row'
    obtain ⟨r, row, rfl⟩ := Option.map_eq_some_iff.mp row'
    exact ⟨r, row, base on r⟩
  | suppressed on =>
    refine altered on (fun _ => suppressUnauthorized_failed) suppressUnauthorized_videoId ?_ row'
    intro r t _ held
    cases held
  | waiting on =>
    refine altered on ?_ ?_ ?_ row'
    · intro r failed
      cases failed
    · exact fun _ => rfl
    · exact fun _ _ _ held => held
  | @claimed request kind on =>
    refine altered on (fun _ => claim_failed) (fun _ => claim_videoId) ?_ row'
    intro r t issued held
    have own : (claim kind token clock.settled r).leaseToken = some token := by
      cases kind <;> rfl
    cases own.symm.trans held
    exact absurd issued new

/-- A step's rows are those that were there and new ones that nothing is known of. -/
theorem step_row (row' : (s.step op).rows.get id = some r') :
    (s.rows.get id = none ∧ r'.videoId = none ∧ r'.leaseToken = none)
      ∨ ∃ r, s.rows.get id = some r ∧ Stepped s op id r r' := by
  have same (h : s.rows.get id = some r') :
      ∃ r, s.rows.get id = some r ∧ Stepped s op id r r' := ⟨r', h, .aside (fun h => h) (fun h => h) rfl⟩
  cases op with
  | submit new =>
    simp only [step] at row'
    split at row'
    · next submitted =>
      split at row'
      · next rows inserted =>
        have there := Table.get_insert inserted id
        rw [row'] at there
        split at there
        · next here =>
          cases there
          have absent := Table.absent_of_insert inserted
          rw [here]
          exact .inl ⟨absent, submitted.video, submitted.lease.1⟩
        · exact .inr (same there.symm)
      · exact .inr (same row')
    · exact .inr (same row')
  | call settings clock token =>
    simp only [step] at row'
    split at row'
    · exact .inr (same row')
    next new =>
    rw [callNext_rows] at row'
    exact .inr (stepped_call new row')
  | work token answer now =>
    simp only [step] at row'
    split at row'
    · next w found =>
      obtain ⟨_, rfl⟩ := worker_mem found
      obtain ⟨r, row, touched⟩ := work_touches s w answer now id r' row'
      refine .inr ⟨r, row, fun h => ?_, fun h => ?_, fun t _ => touched.lease t⟩
      · rcases touched.failed h with before | ⟨rfl, owned, fails⟩
        · exact .inl before
        · exact .inr (.inr ⟨w, answer, ⟨found, now, rfl⟩, rfl, owned, fails⟩)
      · rcases touched.video h with before | ⟨rfl, assigns⟩
        · exact .inl before
        · exact .inr ⟨w, answer, ⟨found, now, rfl⟩, rfl, assigns⟩
    · exact .inr (same row')
  | crash token => exact .inr (same row')
  | forget video =>
    have there : (s.rows.map (forgetVideo video) (forgetVideo_id video)).get id = some r' := row'
    rw [Table.get_map] at there
    obtain ⟨r, row, rfl⟩ := Option.map_eq_some_iff.mp there
    refine .inr ⟨r, row, ?_⟩
    unfold forgetVideo
    split
    · exact .aside (fun h => h) (fun h => absurd rfl h) rfl
    · exact .aside (fun h => h) (fun h => h) rfl
  | acknowledge request messageId now =>
    have there : (s.rows.alter request (acknowledgeRow messageId now)
      (acknowledgeRow_id messageId now)).get id = some r' := row'
    rw [Table.get_alter] at there
    split at there
    · next here =>
      subst here
      obtain ⟨r, row, rfl⟩ := Option.map_eq_some_iff.mp there
      refine .inr ⟨r, row, ?_⟩
      unfold acknowledgeRow
      split <;> exact .aside (fun h => h) (fun h => h) rfl
    · exact .inr (same there)
  | others => exact .inr (same row')

/-- A lookup that runs after a step ran before it, of a worker that the step is not
of, or starts with it. -/
theorem step_leaves (sane : s.Sane) (mem : w ∈ (s.step op).workers)
    {attemptCount maxAttempts : Int} (looks : w.phase = .lookingUp attemptCount maxAttempts) :
    (w ∈ s.workers ∧ ∀ v answer, WorksOn s op v answer → v.token ≠ w.token)
      ∨ ∃ v answer, WorksOn s op v answer ∧ v.token = w.token ∧ v.request = w.request
        ∧ Begins s v answer := by
  have idle {op : QueueOp σ} (there : w ∈ s.workers) (other : ∀ token answer now,
      op ≠ .work token answer now) :
      w ∈ s.workers ∧ ∀ v answer, WorksOn s op v answer → v.token ≠ w.token :=
    ⟨there, by rintro _ _ ⟨_, _, works⟩; exact absurd works (other _ _ _)⟩
  cases op with
  | submit new =>
    simp only [step] at mem
    split at mem
    · split at mem <;> exact .inl (idle mem (by simp))
    · exact .inl (idle mem (by simp))
  | call settings clock token =>
    simp only [step] at mem
    split at mem
    · exact .inl (idle mem (by simp))
    rw [callNext_workers] at mem
    rcases List.mem_append.mp mem with fresh | there
    · unfold started at fresh
      split at fresh
      · cases List.mem_singleton.mp fresh
        cases looks
      · cases fresh
    · exact .inl (idle there (by simp))
  | work token answer now =>
    simp only [step] at mem
    split at mem
    · next v found =>
      obtain ⟨there, rfl⟩ := worker_mem found
      rcases work_leaves sane there answer now w mem _ _ looks
        with ⟨before, other⟩ | ⟨same, request, begins⟩
      · refine .inl ⟨before, ?_⟩
        rintro u _ ⟨_, _, works⟩ same
        exact other ((QueueOp.work.inj works).1.trans same).symm
      · exact .inr ⟨v, answer, ⟨found, now, rfl⟩, same.symm, request.symm, begins⟩
    · next missing =>
      refine .inl ⟨mem, ?_⟩
      rintro u _ ⟨found, _, works⟩
      rw [← (QueueOp.work.inj works).1, missing] at found
      cases found
  | crash token =>
    exact .inl (idle (List.mem_filter.mp mem).1 (by simp))
  | forget video => exact .inl (idle mem (by simp))
  | acknowledge request messageId now => exact .inl (idle mem (by simp))
  | others effect => exact .inl (idle mem (by simp))

/-! Runs. -/

section runs

variable (stages : σ)

/-- The queue after some steps. -/
def reached (past : List (QueueOp σ)) : QueueState σ := (initial stages).run past

/-- The request's lookup has succeeded: its video was known at some time. -/
def LookedUp (past : List (QueueOp σ)) (id : Int) : Prop :=
  ∃ early, early <+: past ∧ ∃ r, (reached stages early).rows.get id = some r ∧ r.videoId ≠ none

/-- The worker's lookup started in the step after `early`. -/
def Began (past : List (QueueOp σ)) (w : Worker) (early : List (QueueOp σ)) : Prop :=
  ∃ op v answer, early ++ [op] <+: past ∧ WorksOn (reached stages early) op v answer
    ∧ v.token = w.token ∧ v.request = w.request ∧ Begins (reached stages early) v answer

/-- A call finds no request waiting that has been looked up and has no attempt left,
and no pipeline commits a video for a request that a worker is looking up. -/
def Spares (past : List (QueueOp σ)) : QueueOp σ → Prop
  | .call settings clock token =>
    token ∉ (reached stages past).issued → settings.telegramCommandsEnabled = true →
      ∀ id r, (reached stages past).rows.get id = some r → LookedUp stages past id →
        ¬ Spent clock.recovered r
  | .work token (.pipelineCommit _) _ =>
    ∀ w video, (reached stages past).worker token = some w → w.phase = .inContent (some video) →
      ∀ v ∈ (reached stages past).workers, v.request = w.request →
        (reached stages past).owns v = true →
        ∀ attemptCount maxAttempts, v.phase ≠ .lookingUp attemptCount maxAttempts
  | _ => True

/-- A request that is being looked up has not been looked up since that started. -/
def Searching (past : List (QueueOp σ)) : Prop :=
  ∀ w ∈ (reached stages past).workers, ∀ attemptCount maxAttempts,
    w.phase = .lookingUp attemptCount maxAttempts → (reached stages past).owns w = true →
    ∃ early, Began stages past w early
      ∧ (LookedUp stages past w.request → LookedUp stages early w.request)

variable {stages} {past : List (QueueOp σ)}

theorem reached_concat (past : List (QueueOp σ)) (op : QueueOp σ) :
    reached stages (past ++ [op]) = (reached stages past).step op := by
  unfold reached run
  rw [List.foldl_append]
  rfl

theorem reached_sane (past : List (QueueOp σ)) : (reached stages past).Sane :=
  ((initial_sane stages).run past).1

/-- A request is looked up by the step that makes its video known. -/
theorem lookedUp_concat (h : LookedUp stages (past ++ [op]) id) : LookedUp stages past id
    ∨ ∃ w answer, WorksOn (reached stages past) op w answer ∧ w.request = id
      ∧ Assigns (reached stages past) w answer := by
  obtain ⟨early, front, r', row', known⟩ := h
  rcases List.prefix_concat_iff.mp front with rfl | front
  · rw [reached_concat] at row'
    rcases step_row row' with ⟨_, unknown, _⟩ | ⟨r, row, stepped⟩
    · exact absurd unknown known
    · rcases stepped.video known with before | assigned
      · exact .inl ⟨past, List.prefix_refl _, r, row, before⟩
      · exact .inr assigned
  · exact .inl ⟨early, front, r', row', known⟩

/-- A lease that a worker holds after a step it held before. -/
theorem owns_back (mem : w ∈ s.workers) (sane : s.Sane) (owned : (s.step op).owns w = true) :
    s.owns w = true := by
  obtain ⟨r', row', held⟩ := owns_iff.mp owned
  rcases step_row row' with ⟨_, _, unleased⟩ | ⟨r, row, stepped⟩
  · rw [unleased] at held
    cases held
  · exact owns_iff.mpr ⟨r, row, stepped.lease _ (sane.issued w mem) held⟩

theorem Began.later {early : List (QueueOp σ)} (h : Began stages past w early) (op : QueueOp σ) :
    Began stages (past ++ [op]) w early := by
  obtain ⟨first, v, answer, front, rest⟩ := h
  exact ⟨first, v, answer, front.trans (List.prefix_append _ _), rest⟩

theorem Searching.step (h : Searching stages past) (spares : Spares stages past op) :
    Searching stages (past ++ [op]) := by
  intro w mem attemptCount maxAttempts looks owned
  rw [reached_concat] at mem owned
  have sane := @reached_sane σ stages past
  rcases step_leaves sane mem looks with ⟨before, apart⟩ | ⟨v, answer, works, token, request, begins⟩
  · have held := owns_back before sane owned
    obtain ⟨early, began, known⟩ := h w before attemptCount maxAttempts looks held
    refine ⟨early, began.later op, fun now => ?_⟩
    rcases lookedUp_concat now with earlier | ⟨v, answer, works, request, past, assigns⟩
    · exact known earlier
    have other := apart v answer works
    rcases assigns with owns | ⟨effect, video, rfl, phase⟩
    · -- the row has one lease
      obtain ⟨r, row, own⟩ := owns_iff.mp held
      obtain ⟨r', row', own'⟩ := owns_iff.mp owns
      rw [request, row] at row'
      cases row'
      rw [own] at own'
      exact absurd (Option.some.inj own').symm other
    · obtain ⟨found, _, rfl⟩ := works
      exact absurd looks (spares v video found phase w before request.symm held _ _)
  · refine ⟨past, ⟨op, v, answer, List.prefix_refl _, works, token, request, begins⟩, fun now => ?_⟩
    rcases lookedUp_concat now with earlier | ⟨u, _, ⟨found, _, rfl⟩, _, past, _⟩
    · exact earlier
    · obtain ⟨found', _, again⟩ := works
      rw [(QueueOp.work.inj again).1, found'] at found
      cases found
      exact absurd begins.1 past

end runs

section runs

variable {P : List (QueueOp σ) → QueueOp σ → Prop}

end runs

/-! Waiting for content on the last attempt. -/

section waiting

end waiting

end QueueState

end YTPipe.Telegram
