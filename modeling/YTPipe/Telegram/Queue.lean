import YTPipe.Telegram.Lifecycle

/-!
# Runs of the command queue

Calls, the transactions of their workers, crashes and everything else that
happens to the rows, in any order; a worker may go on after its lease is gone.
-/

namespace YTPipe.Telegram

/-- A worker that has still to send its reply. -/
def Worker.unsent (id : Int) (w : Worker) : Bool :=
  w.request = id && w.kind = .reply && match w.phase with
    | .opened => true
    | .replying => true
    | _ => false

/-- A reply to a request. -/
def QueueEvent.sends (id : Int) : QueueEvent → Bool
  | .sent request _ => request = id
  | _ => false

/-- What the holder of a lease relies on. -/
def Holds (w : Worker) (r : TelegramCommandRequest) : Prop :=
  match w.kind with
  | .processing => r.status = .processing ∧ ∀ a m, w.phase = .lookingUp a m → a ≤ r.maxAttempts
  | .reply => r.replyStatus = .sending

/-- Every row has moved. -/
structure Moved (fresh : Option String) (rows rows' : Requests) : Prop where
  row : ∀ id r, rows.get id = some r → ∃ r', rows'.get id = some r' ∧ Moves fresh r r'
  absent : ∀ id, rows.get id = none → rows'.get id = none

section moved

variable {fresh : Option String} {rows rows' rows'' : Requests}

theorem Moved.back (h : Moved fresh rows rows') {id : Int} {r' : TelegramCommandRequest}
    (row : rows'.get id = some r') : ∃ r, rows.get id = some r ∧ Moves fresh r r' := by
  cases before : rows.get id with
  | none =>
    rw [h.absent id before] at row
    cases row
  | some r =>
    obtain ⟨r'', after, moves⟩ := h.row id r before
    obtain rfl := Option.some.inj (row.symm.trans after)
    exact ⟨r, rfl, moves⟩

theorem Moved.replies (h : Moved fresh rows rows') (id : Int) :
    (rows.get id).elim 0 (·.replyAttemptCount) ≤ (rows'.get id).elim 0 (·.replyAttemptCount) := by
  cases row : rows.get id with
  | none =>
    exact Int.le_of_eq (by rw [h.absent id row])
  | some r =>
    obtain ⟨r', row', moves⟩ := h.row id r row
    rw [row']
    exact moves.advances.count

theorem Moved.trans (h : Moved none rows rows') (h' : Moved fresh rows' rows'') :
    Moved fresh rows rows'' := by
  constructor
  · intro id r row
    obtain ⟨r', row', moves⟩ := h.row id r row
    obtain ⟨r'', row'', moves'⟩ := h'.row id r' row'
    exact ⟨r'', row'', moves.trans moves'⟩
  · intro id none_
    exact h'.absent id (h.absent id none_)

variable (sound : ∀ id r, rows.get id = some r → Sound r)

include sound

theorem moved_refl : Moved fresh rows rows :=
  ⟨fun id r row => ⟨r, row, .refl (sound id r row)⟩, fun _ none_ => none_⟩

theorem moved_map {f : TelegramCommandRequest → TelegramCommandRequest} {keeps : ∀ r, (f r).id = r.id}
    (moves : ∀ r, Sound r → Moves fresh r (f r)) : Moved fresh rows (rows.map f keeps) := by
  constructor
  · intro id r row
    exact ⟨f r, by rw [Table.get_map, row, Option.map_some], moves r (sound id r row)⟩
  · intro id none_
    rw [Table.get_map, none_, Option.map_none]

theorem moved_alter {k : Int} {f : TelegramCommandRequest → TelegramCommandRequest}
    {keeps : ∀ r, (f r).id = r.id}
    (moves : ∀ r, rows.get k = some r → Sound r → Moves fresh r (f r)) :
    Moved fresh rows (rows.alter k f keeps) := by
  constructor
  · intro id r row
    rw [Table.get_alter]
    by_cases here : id = k
    · subst here
      rw [if_pos rfl, row, Option.map_some]
      exact ⟨f r, rfl, moves r row (sound id r row)⟩
    · rw [if_neg here]
      exact ⟨r, row, .refl (sound id r row)⟩
  · intro id none_
    rw [Table.get_alter, none_]
    split <;> rfl

theorem moved_swept (now : Time) : Moved none rows (swept now rows) :=
  moved_map sound fun _ h => sweep_moves now h

end moved

/-- What a lease relies on stays while the lease does. -/
theorem Moves.holds {fresh : Option String} {w : Worker} {r r' : TelegramCommandRequest}
    (moves : Moves fresh r r') (apart : fresh ≠ some w.token) (held : r'.leaseToken = some w.token)
    (before : r.leaseToken = some w.token → Holds w r) : Holds w r' := by
  rcases moves.lease _ held with new | ⟨earlier, status, reply⟩
  · exact absurd new apart
  · have holds := before earlier
    unfold Holds at holds ⊢
    cases kind : w.kind with
    | processing =>
      rw [kind] at holds
      exact ⟨status.trans holds.1, fun a m phase => moves.budget.symm ▸ holds.2 a m phase⟩
    | reply =>
      rw [kind] at holds
      exact reply.trans holds

/-- The rows went on, none was lost. -/
def Forward (rows rows' : Requests) : Prop :=
  ∀ id r, rows.get id = some r → ∃ r', rows'.get id = some r' ∧ Advances r r'

theorem Moved.forward {fresh : Option String} {rows rows' : Requests} (h : Moved fresh rows rows') :
    Forward rows rows' := by
  intro id r row
  obtain ⟨r', row', moves⟩ := h.row id r row
  exact ⟨r', row', moves.advances⟩

theorem Forward.refl (rows : Requests) : Forward rows rows := fun _ r row => ⟨r, row, .refl r⟩

theorem Forward.trans {rows rows' rows'' : Requests} (h : Forward rows rows')
    (h' : Forward rows' rows'') : Forward rows rows'' := by
  intro id r row
  obtain ⟨r', row', advances⟩ := h id r row
  obtain ⟨r'', row'', advances'⟩ := h' id r' row'
  exact ⟨r'', row'', advances.trans advances'⟩

/-- One of the workers had a reply to send and has none left. -/
theorem countP_map_spend {p : Worker → Bool} {g : Worker → Worker} {workers : List Worker} {w : Worker}
    (mem : w ∈ workers) (waiting : p w = true) (done : p (g w) = false)
    (fewer : ∀ v ∈ workers, p (g v) = true → p v = true) :
    (workers.map g).countP p + 1 ≤ workers.countP p := by
  induction workers with
  | nil => cases mem
  | cons first rest ih =>
    have others : ∀ v ∈ rest, p (g v) = true → p v = true :=
      fun v hv => fewer v (List.mem_cons_of_mem _ hv)
    have rest_le : (rest.map g).countP p ≤ rest.countP p := by
      rw [List.countP_map]
      exact List.countP_mono_left others
    rw [List.map_cons, List.countP_cons, List.countP_cons]
    rcases List.mem_cons.mp mem with rfl | later
    · simp only [waiting, done, if_true, Bool.false_eq_true, if_false]
      omega
    · have spent := ih later others
      by_cases next : p (g first) = true
      · rw [if_pos next, if_pos (fewer first List.mem_cons_self next)]
        omega
      · rw [if_neg next]
        omega

namespace QueueState

variable {σ : Type} {s s' : QueueState σ} {w : Worker}

/-- The replies sent for a request and those that live workers may still send. -/
def replies (s : QueueState σ) (id : Int) : Nat :=
  s.log.countP (QueueEvent.sends id) + s.workers.countP (Worker.unsent id)

/-- The invariant of the queue. -/
structure Sane (s : QueueState σ) : Prop where
  sound : ∀ id r, s.rows.get id = some r → Sound r
  held : ∀ w ∈ s.workers, ∀ r, s.rows.get w.request = some r → r.leaseToken = some w.token →
    Holds w r
  apart : (s.workers.map (·.token)).Nodup
  issued : ∀ w ∈ s.workers, w.token ∈ s.issued
  replies : ∀ id, (s.replies id : Int) ≤ (s.rows.get id).elim 0 (·.replyAttemptCount)

theorem owns_iff : s.owns w = true
    ↔ ∃ r, s.rows.get w.request = some r ∧ r.leaseToken = some w.token := by
  unfold owns
  cases s.rows.get w.request with
  | none => simp
  | some r => simp

theorem worker_mem {token : String} (h : s.worker token = some w) :
    w ∈ s.workers ∧ w.token = token := by
  unfold worker at h
  exact ⟨List.mem_of_find?_eq_some h, by simpa using List.find?_some h⟩

/-- Rows move. -/
theorem Sane.move (h : s.Sane) {rows : Requests} (moved : Moved none s.rows rows) :
    Sane { s with rows := rows } := by
  constructor
  · intro id r' row'
    obtain ⟨r, _, moves⟩ := moved.back row'
    exact moves.sound
  · intro w mem r' row' held
    obtain ⟨r, row, moves⟩ := moved.back row'
    exact moves.holds nofun held (h.held w mem r row)
  · exact h.apart
  · exact h.issued
  · intro id
    exact Int.le_trans (h.replies id) (moved.replies id)

/-- A worker comes back. -/
theorem Sane.leave (h : s.Sane) (token : String) : (s.leave token).Sane := by
  constructor
  · exact h.sound
  · intro w mem
    exact h.held w (List.mem_filter.mp mem).1
  · exact h.apart.sublist (List.filter_sublist.map _)
  · intro w mem
    exact h.issued w (List.mem_filter.mp mem).1
  · intro id
    have fewer : (s.leave token).workers.countP (Worker.unsent id)
        ≤ s.workers.countP (Worker.unsent id) := List.filter_sublist.countP_le
    have before := h.replies id
    unfold QueueState.replies at before ⊢
    change ((s.log.countP _ + _ : Nat) : Int) ≤ (s.rows.get id).elim 0 _
    omega

/-- Two workers do not share a token. -/
theorem Sane.eq_of_token (h : s.Sane) {v w : Worker} (hv : v ∈ s.workers) (hw : w ∈ s.workers)
    (same : v.token = w.token) : v = w := by
  have apart := h.apart
  revert hv hw apart
  generalize s.workers = workers
  intro hv hw apart
  induction workers with
  | nil => cases hv
  | cons first rest ih =>
    rw [List.map_cons, List.nodup_cons] at apart
    rcases List.mem_cons.mp hv with rfl | earlier
    · rcases List.mem_cons.mp hw with rfl | later
      · rfl
      · exact absurd (same ▸ List.mem_map_of_mem later) apart.1
    · rcases List.mem_cons.mp hw with rfl | later
      · exact absurd (same ▸ List.mem_map_of_mem earlier) apart.1
      · exact ih earlier later apart.2

/-- The workers after one of them goes on. -/
theorem mem_proceed (h : s.Sane) (mem : w ∈ s.workers) {phase : Phase} {v : Worker}
    (hv : v ∈ (s.proceed w.token phase).workers) :
    v = { w with phase := phase } ∨ v ∈ s.workers ∧ v.token ≠ w.token := by
  obtain ⟨u, hu, rfl⟩ := List.mem_map.mp hv
  by_cases same : u.token = w.token
  · rw [if_pos same, h.eq_of_token hu mem same]
    exact .inl rfl
  · rw [if_neg same]
    exact .inr ⟨hu, same⟩

theorem tokens_proceed (s : QueueState σ) (token : String) (phase : Phase) :
    (s.proceed token phase).workers.map (·.token) = s.workers.map (·.token) := by
  unfold proceed
  rw [List.map_map]
  apply List.map_congr_left
  intro v _
  simp only [Function.comp_apply]
  split <;> rfl

/-- A worker goes on and has no reply to send that it had not before. -/
theorem Sane.proceed (h : s.Sane) (mem : w ∈ s.workers) (phase : Phase)
    (holds : ∀ r, s.rows.get w.request = some r → r.leaseToken = some w.token →
      Holds { w with phase := phase } r)
    (unsent : ∀ id, Worker.unsent id { w with phase := phase } = true → w.unsent id = true) :
    (s.proceed w.token phase).Sane := by
  constructor
  · exact h.sound
  · intro v hv r row held
    rcases mem_proceed h mem hv with rfl | ⟨hv, _⟩
    · exact holds r row held
    · exact h.held v hv r row held
  · rw [tokens_proceed]
    exact h.apart
  · intro v hv
    rcases mem_proceed h mem hv with rfl | ⟨hv, _⟩
    · exact h.issued w mem
    · exact h.issued v hv
  · intro id
    have fewer : (s.proceed w.token phase).workers.countP (Worker.unsent id)
        ≤ s.workers.countP (Worker.unsent id) := by
      unfold QueueState.proceed
      rw [List.countP_map]
      apply List.countP_mono_left
      intro v hv
      simp only [Function.comp_apply]
      by_cases same : v.token = w.token
      · rw [if_pos same, h.eq_of_token hv mem same]
        exact unsent id
      · rw [if_neg same]
        exact fun h => h
    have before := h.replies id
    unfold QueueState.replies at before ⊢
    change ((s.log.countP _ + _ : Nat) : Int) ≤ (s.rows.get id).elim 0 _
    omega

/-- Something other than a reply is logged. -/
theorem Sane.log (h : s.Sane) (new : List QueueEvent)
    (quiet : ∀ id, new.countP (QueueEvent.sends id) = 0) : Sane { s with log := new ++ s.log } := by
  refine ⟨h.sound, h.held, h.apart, h.issued, ?_⟩
  intro id
  have before := h.replies id
  unfold QueueState.replies at before ⊢
  simp only [List.countP_append, quiet]
  change ((0 + s.log.countP _ + s.workers.countP _ : Nat) : Int) ≤ (s.rows.get id).elim 0 _
  omega

theorem Sane.stages (h : s.Sane) (stages : σ) : Sane { s with stages := stages } :=
  ⟨h.sound, h.held, h.apart, h.issued, h.replies⟩

section leased

variable {r : TelegramCommandRequest} (h : s.Sane) (mem : w ∈ s.workers)
  (row : s.rows.get w.request = some r) (held : r.leaseToken = some w.token)

include h mem row held

/-- What the lease of a request's work relies on. -/
theorem Sane.processing (kind : w.kind = .processing) :
    r.status = .processing ∧ ∀ a m, w.phase = .lookingUp a m → a ≤ r.maxAttempts := by
  have holds := h.held w mem r row held
  unfold Holds at holds
  rw [kind] at holds
  exact holds

/-- What the lease of a reply relies on. -/
theorem Sane.sending (kind : w.kind = .reply) : r.replyStatus = .sending := by
  have holds := h.held w mem r row held
  unfold Holds at holds
  rw [kind] at holds
  exact holds

end leased

/-- The reply goes out and its worker has none left. -/
theorem Sane.sent (h : s.Sane) (mem : w ∈ s.workers) (kind : w.kind = .reply)
    (phase : w.phase = .replying) (outcome : SendOutcome) (attemptCount maxAttempts : Int) :
    ((s.note (.sent w.request w.token)).proceed w.token
      (.replied outcome attemptCount maxAttempts)).Sane := by
  have done (id : Int) (v : Worker) :
      Worker.unsent id { v with phase := .replied outcome attemptCount maxAttempts } = false := by
    simp [Worker.unsent]
  have workers : ((s.note (.sent w.request w.token)).proceed w.token
      (.replied outcome attemptCount maxAttempts)).workers
        = (s.proceed w.token (.replied outcome attemptCount maxAttempts)).workers := rfl
  have gone := h.proceed mem (.replied outcome attemptCount maxAttempts)
    (fun r row held => by
      have sending := h.sending mem row held kind
      unfold Holds
      rw [kind]
      exact sending)
    (fun id unsent => absurd unsent (by simp [done id w]))
  refine ⟨gone.sound, gone.held, gone.apart, gone.issued, ?_⟩
  intro id
  by_cases here : id = w.request
  · subst here
    have spent : ((s.proceed w.token (.replied outcome attemptCount maxAttempts)).workers.countP
        (Worker.unsent w.request)) + 1 ≤ s.workers.countP (Worker.unsent w.request) := by
      apply countP_map_spend mem
      · simp [Worker.unsent, kind, phase]
      · rw [if_pos rfl]
        exact done _ w
      · intro v hv
        by_cases same : v.token = w.token
        · rw [if_pos same, done]
          intro h
          cases h
        · rw [if_neg same]
          exact fun h => h
    have one : (s.note (.sent w.request w.token)).log.countP (QueueEvent.sends w.request)
        = s.log.countP (QueueEvent.sends w.request) + 1 := by
      simp [QueueState.note, QueueEvent.sends]
    have before := h.replies w.request
    unfold QueueState.replies at before ⊢
    change (((s.note (.sent w.request w.token)).log.countP _ + _ : Nat) : Int)
      ≤ (s.rows.get w.request).elim 0 _
    rw [one, workers]
    omega
  · have none_ : (s.note (.sent w.request w.token)).log.countP (QueueEvent.sends id)
        = s.log.countP (QueueEvent.sends id) := by
      simp [QueueState.note, QueueEvent.sends, Ne.symm here]
    have before := gone.replies id
    unfold QueueState.replies at before ⊢
    change (((s.note (.sent w.request w.token)).log.countP _ + _ : Nat) : Int)
      ≤ (s.rows.get id).elim 0 _
    rw [none_]
    exact before

section worked

variable (h : s.Sane) (mem : w ∈ s.workers)

include h mem

theorem Sane.inContent (kind : w.kind = .processing) (assigned : Option Int) :
    (s.proceed w.token (.inContent assigned)).Sane := by
  apply h.proceed mem (.inContent assigned)
  · intro r row held
    have leased := h.processing mem row held kind
    unfold Holds
    rw [kind]
    exact ⟨leased.1, fun a m phase => by cases phase⟩
  · intro id unsent
    simp [Worker.unsent] at unsent

/-- A request is finished by its lease's holder. -/
theorem Sane.finish {f : Finish} (kind : w.kind = .processing) (owned : s.owns w = true)
    (finishes : w.Finishes f) (now : Time) :
    (s.finish w f now).Sane ∧ Forward s.rows (s.finish w f now).rows := by
  have moved : Moved none s.rows
      (s.rows.alter w.request (fenced w.token (f.row now)) (fenced_id (f.row_id now))) := by
    apply moved_alter h.sound
    intro r row sound
    unfold fenced
    split
    · next held =>
      have leased := h.processing mem row held kind
      apply finishRow_moves sound leased.1 finishes.status
      intro a assigned
      have attempts := sound.attempts
      rcases finishes.attempts with none_ | ⟨a', m, phase, given, _⟩
      · rw [none_] at assigned
        cases assigned
      · have most := leased.2 a' m phase
        rw [given] at assigned
        cases assigned
        omega
    · exact .refl sound
  have ended := (h.move moved).leave w.token
  unfold QueueState.finish
  rw [if_pos owned]
  simp only
  split
  · have noted := ended.log
      [.failed w.request ((s.rows.get w.request).any (·.videoId.isSome)) f.cause]
      fun id => by simp [QueueEvent.sends]
    exact ⟨noted, moved.forward⟩
  · exact ⟨ended, moved.forward⟩

/-- An attempt is counted on the row. -/
theorem Sane.counted {r : TelegramCommandRequest} (kind : w.kind = .processing)
    (row : s.rows.get w.request = some r) (below : r.attemptCount < r.maxAttempts) :
    ((s.update w.request (fun r => { r with attemptCount := r.attemptCount + 1 })
        fun _ => rfl).proceed w.token (.lookingUp (r.attemptCount + 1) r.maxAttempts)).Sane
      ∧ Forward s.rows (s.rows.alter w.request
        (fun r => { r with attemptCount := r.attemptCount + 1 }) fun _ => rfl) := by
  have moved : Moved none s.rows (s.rows.alter w.request
      (fun r => { r with attemptCount := r.attemptCount + 1 }) fun _ => rfl) := by
    apply moved_alter h.sound
    intro r' row' sound
    obtain rfl := Option.some.inj (row.symm.trans row')
    exact countAttempt_moves sound below
  have counted := h.move moved
  refine ⟨counted.proceed mem _ ?_ ?_, moved.forward⟩
  · intro r' row' held
    have leased := counted.processing mem row' held kind
    unfold Holds
    rw [kind]
    refine ⟨leased.1, ?_⟩
    intro a m phase
    cases phase
    obtain ⟨r₀, row₀, moves⟩ := moved.back row'
    obtain rfl := Option.some.inj (row.symm.trans row₀)
    rw [moves.budget]
    omega
  · intro id unsent
    simp [Worker.unsent] at unsent

/-- The video that was found is noted on the row. -/
theorem Sane.committed (kind : w.kind = .processing) (assigned : Option Int) :
    ((s.update w.request (fun r => { r with videoId := assigned.or r.videoId })
        fun _ => rfl).proceed w.token (.inContent none)).Sane
      ∧ Forward s.rows (s.rows.alter w.request
        (fun r => { r with videoId := assigned.or r.videoId }) fun _ => rfl) := by
  have moved : Moved none s.rows (s.rows.alter w.request
      (fun r => { r with videoId := assigned.or r.videoId }) fun _ => rfl) := by
    apply moved_alter h.sound
    intro r row sound
    exact .aside sound rfl rfl ⟨rfl, rfl⟩ ⟨rfl, rfl, rfl⟩
  exact ⟨(h.move moved).inContent mem kind none, moved.forward⟩

/-- A reply that may no longer be sent is suppressed. -/
theorem Sane.suppressed (kind : w.kind = .reply) (owned : s.owns w = true) :
    ((s.update w.request suppressUnauthorized suppressUnauthorized_id).leave w.token).Sane
      ∧ Forward s.rows (s.rows.alter w.request suppressUnauthorized suppressUnauthorized_id) := by
  obtain ⟨r, row, held⟩ := owns_iff.mp owned
  have sending := h.sending mem row held kind
  have moved : Moved none s.rows
      (s.rows.alter w.request suppressUnauthorized suppressUnauthorized_id) := by
    apply moved_alter h.sound
    intro r' row' sound
    obtain rfl := Option.some.inj (row.symm.trans row')
    exact suppressUnauthorized_moves sound (sending ▸ not_terminal_sending)
  exact ⟨(h.move moved).leave w.token, moved.forward⟩

/-- What became of the reply is noted on the row. -/
theorem Sane.endReply (kind : w.kind = .reply) (outcome : SendOutcome)
    (attemptCount maxAttempts : Int) (now : Time) :
    (s.endReply w outcome attemptCount maxAttempts now).Sane
      ∧ Forward s.rows (s.endReply w outcome attemptCount maxAttempts now).rows := by
  have moved : Moved none s.rows (s.rows.alter w.request
      (fenced w.token (replyRow outcome attemptCount maxAttempts now))
      (fenced_id (replyRow_id outcome attemptCount maxAttempts now))) := by
    apply moved_alter h.sound
    intro r row sound
    unfold fenced
    split
    · next held =>
      exact replyRow_moves sound (h.sending mem row held kind) outcome attemptCount maxAttempts
    · exact .refl sound
  exact ⟨(h.move moved).leave w.token, moved.forward⟩

/-- The lease's holder finishes, reads its video or counts an attempt. -/
theorem Sane.worked (worked : s.Worked w s') : s'.Sane ∧ Forward s.rows s'.rows := by
  cases worked with
  | left => exact ⟨h.leave w.token, .refl _⟩
  | finished now stages kind owned finishes =>
    obtain ⟨ended, forward⟩ := h.finish mem kind owned finishes now
    exact ⟨ended.stages stages, forward⟩
  | inContent assigned kind => exact ⟨h.inContent mem kind assigned, .refl _⟩
  | counted kind row owned below => exact h.counted mem kind row below
  | committed assigned stages kind =>
    obtain ⟨committed, forward⟩ := h.committed mem kind assigned
    exact ⟨committed.stages stages, forward⟩
  | suppressed kind row owned foreign => exact h.suppressed mem kind owned
  | replying kind phase =>
    refine ⟨h.proceed mem _ ?_ ?_, .refl _⟩
    · intro r row held
      have sending := h.sending mem row held kind
      unfold Holds
      rw [kind]
      exact sending
    · intro id unsent
      simpa [Worker.unsent, phase] using unsent
  | sent outcome kind phase row owned => exact ⟨h.sent mem kind phase outcome _ _, .refl _⟩
  | replied outcome attemptCount maxAttempts now kind phase =>
    exact h.endReply mem kind outcome attemptCount maxAttempts now

end worked

section call

variable (settings : CommandSettings) (clock : CallClock) (token : String)

theorem callNext_issued : (s.callNext settings clock token).issued
    = (started settings token (openCall settings clock token s.rows).1).map (·.token)
      ++ s.issued := by
  unfold callNext
  simp only
  split
  · next request kind opening =>
    rw [opening]
    cases kind <;> rfl
  · next other =>
    rw [show started settings token (openCall settings clock token s.rows).1 = [] by
      unfold started
      split
      · next opening => exact absurd opening (other _ _)
      · rfl]
    rfl

/-- What a call logs is no reply. -/
theorem calls_quiet (id : Int) (rows : Requests) (opening : Opening) :
    (startEvents opening ++ sweepEvents settings clock rows).countP (QueueEvent.sends id) = 0 := by
  rw [List.countP_eq_zero]
  intro e he
  rcases List.mem_append.mp he with he | he
  · unfold startEvents at he
    split at he
    · rw [List.mem_singleton.mp he]
      simp [QueueEvent.sends]
    · cases he
  · unfold sweepEvents exhaustedEvents at he
    split at he
    · cases he
    · obtain ⟨r, _, rfl⟩ := List.mem_map.mp he
      simp [QueueEvent.sends]

/-- A row that is claimed. -/
theorem claim_moves {rows : Requests} {now : Time} {request : TelegramCommandRequest}
    {kind : WorkKind} (sound : ∀ id r, rows.get id = some r → Sound r)
    (selected : selectCandidate clock.selected (swept now rows) = some (request, kind)) :
    Moves (some token) request (claim kind token clock.settled request) := by
  have row := selectCandidate_row selected
  have before := row
  rw [swept_get] at before
  obtain ⟨r, stored, rfl⟩ := Option.map_eq_some_iff.mp before
  have moves := sweep_moves now (sound _ r stored)
  cases kind with
  | processing =>
    exact claim_processing_moves moves.sound (processing_of_selected selected) token clock.settled
  | reply =>
    obtain ⟨settled, due⟩ := replying_of_selected selected
    exact claim_reply_moves moves.sound settled due
      (sweep_replies now (sound _ r stored) settled due) token clock.settled

/-- A call that claims nothing. -/
theorem Sane.unclaimed (h : s.Sane) {new : List QueueEvent} (moved : Moved none s.rows s'.rows)
    (workers : s'.workers = s.workers) (issued : s'.issued = s.issued) (log : s'.log = new ++ s.log)
    (quiet : ∀ id, new.countP (QueueEvent.sends id) = 0) : s'.Sane := by
  have moved' := (h.move moved).log new quiet
  refine ⟨moved'.sound, ?_, ?_, ?_, ?_⟩
  · rw [workers]
    exact moved'.held
  · rw [workers]
    exact moved'.apart
  · rw [workers, issued]
    exact moved'.issued
  · intro id
    unfold QueueState.replies
    rw [workers, log]
    exact moved'.replies id

section claimed

variable {request : TelegramCommandRequest} {kind : WorkKind}

/-- A new reply is counted on the row before its worker may send it. -/
theorem Sane.replies_claimed (h : s.Sane)
    (selected : selectCandidate clock.selected (swept clock.recovered s.rows)
      = some (request, kind))
    (moved : Moved (some token) s.rows s'.rows)
    (claimed : s'.rows.get request.id = some (claim kind token clock.settled request))
    (workers : s'.workers = ⟨request.id, token, kind, settings, .opened⟩ :: s.workers)
    (sends : ∀ id, s'.log.countP (QueueEvent.sends id) = s.log.countP (QueueEvent.sends id))
    (id : Int) : (s'.replies id : Int) ≤ (s'.rows.get id).elim 0 (·.replyAttemptCount) := by
  have before := h.replies id
  unfold QueueState.replies at before ⊢
  rw [sends, workers]
  change ((_ + List.countP _ (_ :: s.workers) : Nat) : Int) ≤ _
  rw [List.countP_cons]
  by_cases here : id = request.id
  · subst here
    obtain ⟨r, stored, moves⟩ :=
      (moved_swept h.sound clock.recovered).back (selectCandidate_row selected)
    have count := moves.advances.count
    rw [stored] at before
    rw [claimed]
    change (_ : Int) ≤ r.replyAttemptCount at before
    cases kind with
    | processing =>
      simp only [Worker.unsent]
      change _ ≤ request.replyAttemptCount
      simp
      omega
    | reply =>
      simp only [Worker.unsent]
      change _ ≤ request.replyAttemptCount + 1
      simp
      omega
  · have other : Worker.unsent id ⟨request.id, token, kind, settings, .opened⟩ = false := by
      simp [Worker.unsent, Ne.symm here]
    rw [other]
    exact Int.le_trans before (moved.replies id)

/-- A call that claims a row: its worker comes with a token of its own. -/
theorem Sane.claimed (h : s.Sane) (new : token ∉ s.issued)
    (selected : selectCandidate clock.selected (swept clock.recovered s.rows)
      = some (request, kind))
    (moved : Moved (some token) s.rows s'.rows)
    (claimed : s'.rows.get request.id = some (claim kind token clock.settled request))
    (workers : s'.workers = ⟨request.id, token, kind, settings, .opened⟩ :: s.workers)
    (issued : s'.issued = token :: s.issued)
    (sends : ∀ id, s'.log.countP (QueueEvent.sends id) = s.log.countP (QueueEvent.sends id)) :
    s'.Sane := by
  have fresh (v : Worker) (hv : v ∈ s.workers) : v.token ≠ token := by
    rintro rfl
    exact new (h.issued v hv)
  constructor
  · intro id r' row'
    obtain ⟨r, _, moves⟩ := moved.back row'
    exact moves.sound
  · intro v hv r' row' held
    rw [workers] at hv
    rcases List.mem_cons.mp hv with rfl | hv
    · obtain rfl := Option.some.inj (claimed.symm.trans row')
      unfold Holds
      cases kind with
      | processing => exact ⟨rfl, fun a m phase => by cases phase⟩
      | reply => rfl
    · obtain ⟨r, row, moves⟩ := moved.back row'
      exact moves.holds (fun same => fresh v hv (Option.some.inj same).symm) held
        (h.held v hv r row)
  · rw [workers]
    apply List.nodup_cons.mpr
    refine ⟨?_, h.apart⟩
    intro again
    obtain ⟨v, hv, same⟩ := List.mem_map.mp again
    exact fresh v hv same
  · intro v hv
    rw [workers] at hv
    rw [issued]
    rcases List.mem_cons.mp hv with rfl | hv
    · exact List.mem_cons_self
    · exact List.mem_cons_of_mem _ (h.issued v hv)
  · exact h.replies_claimed settings clock token selected moved claimed workers sends

end claimed

theorem Sane.call (h : s.Sane) (new : token ∉ s.issued) :
    (s.callNext settings clock token).Sane
      ∧ Forward s.rows (s.callNext settings clock token).rows := by
  have sweeps := moved_swept h.sound clock.recovered
  have sound : ∀ id r, (swept clock.recovered s.rows).get id = some r → Sound r := by
    intro id r row
    obtain ⟨_, _, moves⟩ := sweeps.back row
    exact moves.sound
  have rows := callNext_rows s settings clock token
  have log := callNext_log s settings clock token
  have workers := callNext_workers s settings clock token
  have issued := callNext_issued (s := s) settings clock token
  have quiet := fun id => calls_quiet settings clock id s.rows
  have opened := openCall_opened settings clock token s.rows
  generalize s.callNext settings clock token = after at rows log workers issued ⊢
  generalize (openCall settings clock token s.rows).1 = opening at opened log workers issued
  generalize (openCall settings clock token s.rows).2 = rows' at opened rows
  rw [← List.append_assoc] at log
  have idle (idle : started settings token opening = []) (moved : Moved none s.rows after.rows) :
      after.Sane ∧ Forward s.rows after.rows := by
    rw [idle] at workers issued
    exact ⟨h.unclaimed moved workers issued log fun id => quiet id opening, moved.forward⟩
  cases opened with
  | disabled =>
    apply idle rfl
    rw [rows]
    exact moved_refl h.sound
  | empty => exact idle rfl (rows ▸ sweeps)
  | @suppressed request kind on selected foreign =>
    apply idle rfl
    rw [rows]
    apply sweeps.trans
    apply moved_alter sound
    intro r row sound
    obtain rfl := Option.some.inj ((selectCandidate_row selected).symm.trans row)
    apply suppressUnauthorized_moves sound
    cases kind with
    | processing =>
      rw [(sound.unreplied (not_terminal_waiting (processing_of_selected selected))).1]
      decide
    | reply => exact not_terminal_due (replying_of_selected selected).2
  | @waiting request on selected authorized led =>
    apply idle rfl
    rw [rows]
    apply sweeps.trans
    apply moved_alter sound
    intro r row sound
    obtain rfl := Option.some.inj ((selectCandidate_row selected).symm.trans row)
    exact awaitLeader_moves sound (processing_of_selected selected) _
  | @claimed request kind on selected authorized first =>
    have row := selectCandidate_row selected
    have moved : Moved (some token) s.rows after.rows := by
      rw [rows]
      apply sweeps.trans
      apply moved_alter sound
      intro r row' _
      obtain rfl := Option.some.inj (row.symm.trans row')
      exact claim_moves clock token h.sound selected
    refine ⟨h.claimed settings clock token new selected moved ?_ workers issued fun id => ?_,
      moved.forward⟩
    · rw [rows, Table.get_alter, if_pos rfl, row, Option.map_some]
    · rw [log, List.countP_append, quiet id, Nat.zero_add]

end call

/-- A new row comes in. -/
theorem Sane.insert (h : s.Sane) {row : TelegramCommandRequest} {rows : Requests}
    (submitted : Submitted row) (inserted : s.rows.insert row = some rows) :
    Sane { s with rows := rows } ∧ Forward s.rows rows := by
  have absent := Table.absent_of_insert inserted
  have get := Table.get_insert inserted
  refine ⟨⟨?_, ?_, h.apart, h.issued, ?_⟩, ?_⟩
  · intro id r present
    by_cases new : id = row.id
    · rw [get, if_pos new] at present
      obtain rfl := Option.some.inj present
      exact submitted_sound submitted
    · rw [get, if_neg new] at present
      exact h.sound id r present
  · intro w mem r present held
    by_cases new : w.request = row.id
    · rw [get, if_pos new] at present
      obtain rfl := Option.some.inj present
      rw [submitted.lease.1] at held
      cases held
    · rw [get, if_neg new] at present
      exact h.held w mem r present held
  · intro id
    have before := h.replies id
    change _ ≤ (rows.get id).elim 0 _
    by_cases new : id = row.id
    · subst new
      rw [absent] at before
      rw [get, if_pos rfl]
      change _ ≤ row.replyAttemptCount
      rw [submitted.reply.2.1]
      exact before
    · rw [get, if_neg new]
      exact before
  · intro id r present
    refine ⟨r, ?_, .refl r⟩
    rw [get, if_neg ?_]
    · exact present
    · rintro rfl
      rw [absent] at present
      cases present

/-- Whatever happens to the queue. -/
theorem Sane.step (h : s.Sane) (op : QueueOp σ) :
    (s.step op).Sane ∧ Forward s.rows (s.step op).rows := by
  cases op with
  | submit row =>
    unfold QueueState.step
    simp only
    split
    · next submitted =>
      split
      · next inserted => exact h.insert submitted inserted
      · exact ⟨h, .refl _⟩
    · exact ⟨h, .refl _⟩
  | call settings clock token =>
    unfold QueueState.step
    simp only
    split
    · exact ⟨h, .refl _⟩
    · next new => exact h.call settings clock token new
  | work token answer now =>
    unfold QueueState.step
    simp only
    split
    · next w found => exact h.worked (worker_mem found).1 (work_worked s w answer now)
    · exact ⟨h, .refl _⟩
  | crash token => exact ⟨h.leave token, .refl _⟩
  | forget video =>
    have moved : Moved none s.rows (s.rows.map (forgetVideo video) (forgetVideo_id video)) := by
      apply moved_map h.sound
      intro r sound
      unfold forgetVideo
      split
      · exact .aside sound rfl rfl ⟨rfl, rfl⟩ ⟨rfl, rfl, rfl⟩
      · exact .refl sound
    exact ⟨h.move moved, moved.forward⟩
  | acknowledge request messageId now =>
    have moved : Moved none s.rows (s.rows.alter request (acknowledgeRow messageId now)
        (acknowledgeRow_id messageId now)) := by
      apply moved_alter h.sound
      intro r _ sound
      unfold acknowledgeRow
      split
      · exact .aside sound rfl rfl ⟨rfl, rfl⟩ ⟨rfl, rfl, rfl⟩
      · exact .refl sound
    exact ⟨h.move moved, moved.forward⟩
  | others effect => exact ⟨⟨h.sound, h.held, h.apart, h.issued, h.replies⟩, .refl _⟩

theorem Sane.run (h : s.Sane) (ops : List (QueueOp σ)) :
    (s.run ops).Sane ∧ Forward s.rows (s.run ops).rows := by
  induction ops generalizing s with
  | nil => exact ⟨h, .refl _⟩
  | cons op ops ih =>
    obtain ⟨sane, forward⟩ := h.step op
    obtain ⟨sane', forward'⟩ := ih sane
    exact ⟨sane', forward.trans forward'⟩

theorem initial_sane (stages : σ) : (initial stages).Sane := by
  constructor
  · intro id r present
    cases present
  · intro w mem
    cases mem
  · exact List.nodup_nil
  · intro w mem
    cases mem
  · intro id
    exact Int.le_refl _

/-- A worker whose lease is gone sends nothing and settles nothing. -/
theorem Worked.stale (worked : s.Worked w s') (stale : s.owns w = false) :
    s'.log = s.log ∧ ∀ id r, s.rows.get id = some r →
      ∃ r', s'.rows.get id = some r' ∧ SameFate r r' := by
  have same : ∀ id r, s.rows.get id = some r → ∃ r', s.rows.get id = some r' ∧ SameFate r r' :=
    fun id r row => ⟨r, row, ⟨rfl, rfl, rfl, rfl, rfl, rfl, rfl, rfl⟩⟩
  have altered (k : Int) (f : TelegramCommandRequest → TelegramCommandRequest)
      (keeps : ∀ r, (f r).id = r.id) (fate : ∀ r, s.rows.get k = some r → SameFate r (f r)) :
      ∀ id r, s.rows.get id = some r →
        ∃ r', (s.rows.alter k f keeps).get id = some r' ∧ SameFate r r' := by
    intro id r row
    rw [Table.get_alter]
    by_cases here : id = k
    · subst here
      rw [if_pos rfl, row, Option.map_some]
      exact ⟨f r, rfl, fate r row⟩
    · rw [if_neg here]
      exact same id r row
  cases worked with
  | left => exact ⟨rfl, same⟩
  | finished _ _ _ owned =>
    rw [stale] at owned
    cases owned
  | inContent => exact ⟨rfl, same⟩
  | counted _ _ owned =>
    rw [stale] at owned
    cases owned
  | committed assigned =>
    exact ⟨rfl, altered w.request (fun r => { r with videoId := assigned.or r.videoId })
      (fun _ => rfl) fun r _ => ⟨rfl, rfl, rfl, rfl, rfl, rfl, rfl, rfl⟩⟩
  | suppressed _ _ owned =>
    rw [stale] at owned
    cases owned
  | replying => exact ⟨rfl, same⟩
  | sent _ _ _ _ owned =>
    rw [stale] at owned
    cases owned
  | replied outcome attemptCount maxAttempts now =>
    refine ⟨rfl, altered w.request (fenced w.token (replyRow outcome attemptCount maxAttempts now))
      (fenced_id (replyRow_id outcome attemptCount maxAttempts now)) fun r row => ?_⟩
    have lost : ¬ r.leaseToken = some w.token := by
      intro held
      rw [owns_iff.mpr ⟨r, row, held⟩] at stale
      cases stale
    unfold fenced
    rw [if_neg lost]
    exact ⟨rfl, rfl, rfl, rfl, rfl, rfl, rfl, rfl⟩

/-- In every durable state of every run a row has a lease while it is processed or
replied to and at no other time, no reply is on its way before the request is
settled, and the attempts and the replies stay within their bounds; what is final
stays; and a worker without the row's lease sends nothing and settles nothing. -/
theorem queue_invariant (stages : σ) (ops : List (QueueOp σ)) :
    let s := (initial stages).run ops
    (∀ id r, s.rows.get id = some r →
      (r.leaseToken ≠ none ↔ r.status = .processing ∨ r.replyStatus = .sending)
        ∧ (r.replyStatus = .sending ∨ r.replyStatus = .sent → r.status.isTerminal)
        ∧ r.attemptCount ≤ r.maxAttempts
        ∧ (s.log.countP (QueueEvent.sends id) : Int) ≤ r.replyAttemptCount
        ∧ r.replyAttemptCount ≤ r.replyMaxAttempts)
      ∧ (∀ later id r, s.rows.get id = some r → ∃ r', (s.run later).rows.get id = some r'
        ∧ (r.status.isTerminal → r'.status = r.status)
        ∧ (r.replyStatus.isTerminal → r'.replyStatus = r.replyStatus))
      ∧ ∀ token w answer now, s.worker token = some w → s.owns w = false →
        (s.step (.work token answer now)).log = s.log
          ∧ ∀ id r, s.rows.get id = some r →
            ∃ r', (s.step (.work token answer now)).rows.get id = some r' ∧ SameFate r r' := by
  intro s
  have sane : s.Sane := ((initial_sane stages).run ops).1
  refine ⟨?_, ?_, ?_⟩
  · intro id r row
    have sound := sane.sound id r row
    have replies := sane.replies id
    rw [row] at replies
    unfold QueueState.replies at replies
    change (_ : Int) ≤ r.replyAttemptCount at replies
    exact ⟨sound.leased, sound.replied, sound.attempts.2, by omega, sound.replies.2⟩
  · intro later id r row
    obtain ⟨r', row', advances⟩ := (sane.run later).2 id r row
    exact ⟨r', row', advances.status, advances.reply⟩
  · intro token w answer now found stale
    have worked : s.step (.work token answer now) = s.work w answer now := by
      simp only [QueueState.step, found]
    rw [worked]
    exact (work_worked s w answer now).stale stale

end QueueState

end YTPipe.Telegram
