import YTPipe.Telegram.Opening
import YTPipe.Telegram.Worker

/-!
# A worker's transactions

Everything that one transaction of a worker may do.
-/

namespace YTPipe.Telegram

/-- What a worker may finish a request with. -/
structure Worker.Finishes (w : Worker) (f : Finish) : Prop where
  status : f.status = .pendingRetry ∨ f.status.isTerminal
  /-- A pause gives the attempt back. -/
  attempts : f.assignedAttempts = none ∨ ∃ a m, w.phase = .lookingUp a m
    ∧ f.assignedAttempts = some (max 0 (a - 1)) ∧ f.status = .pendingRetry
  cause : f.cause = .lookup ∨ f.cause = .content

namespace QueueState

variable {σ : Type} {s : QueueState σ} {w : Worker}

/-- What a transaction of a worker may make of the queue. -/
inductive Worked (s : QueueState σ) (w : Worker) : QueueState σ → Prop
  | left : Worked s w (s.leave w.token)
  | finished {f : Finish} (now : Time) (stages : σ) (kind : w.kind = .processing)
      (owned : s.owns w = true) (finishes : w.Finishes f) :
      Worked s w { s.finish w f now with stages := stages }
  | inContent (assigned : Option Int) (kind : w.kind = .processing) :
      Worked s w (s.proceed w.token (.inContent assigned))
  | counted {r : TelegramCommandRequest} (kind : w.kind = .processing)
      (row : s.rows.get w.request = some r) (owned : s.owns w = true)
      (below : r.attemptCount < r.maxAttempts) :
      Worked s w ((s.update w.request (fun r => { r with attemptCount := r.attemptCount + 1 })
        fun _ => rfl).proceed w.token (.lookingUp (r.attemptCount + 1) r.maxAttempts))
  | committed (assigned : Option Int) (stages : σ) (kind : w.kind = .processing) :
      Worked s w { (s.update w.request
          (fun r => { r with videoId := assigned.or r.videoId }) fun _ => rfl).proceed w.token
            (.inContent none) with stages := stages }
  | suppressed {r : TelegramCommandRequest} (kind : w.kind = .reply)
      (row : s.rows.get w.request = some r) (owned : s.owns w = true)
      (foreign : authorizedDestination w.settings r = false) :
      Worked s w ((s.update w.request suppressUnauthorized suppressUnauthorized_id).leave w.token)
  | replying (kind : w.kind = .reply) (phase : w.phase = .opened) :
      Worked s w (s.proceed w.token .replying)
  | sent {r : TelegramCommandRequest} (outcome : SendOutcome) (kind : w.kind = .reply)
      (phase : w.phase = .replying) (row : s.rows.get w.request = some r)
      (owned : s.owns w = true) :
      Worked s w ((s.note (.sent w.request w.token)).proceed w.token
        (.replied outcome r.replyAttemptCount r.replyMaxAttempts))
  | replied (outcome : SendOutcome) (attemptCount maxAttempts : Int) (now : Time)
      (kind : w.kind = .reply) (phase : w.phase = .replied outcome attemptCount maxAttempts) :
      Worked s w (s.endReply w outcome attemptCount maxAttempts now)

theorem finish_worked {f : Finish} (kind : w.kind = .processing) (finishes : w.Finishes f)
    (now : Time) : s.Worked w (s.finish w f now) := by
  by_cases owned : s.owns w = true
  · have unchanged : s.finish w f now = { s.finish w f now with stages := s.stages } := by
      unfold finish
      rw [if_pos owned]
      simp only
      split <;> rfl
    rw [unchanged]
    exact .finished now s.stages kind owned finishes
  · unfold finish
    rw [if_neg owned]
    exact .left

theorem decideVideo_worked (kind : w.kind = .processing) (assigned : Option Int)
    (video : VideoFacts) (now : Time) : s.Worked w (s.decideVideo w assigned video now) := by
  unfold decideVideo
  split
  · exact finish_worked kind ⟨.inr (.inr (.inr rfl)), .inl rfl, .inr rfl⟩ now
  · split
    · exact finish_worked kind ⟨.inr (.inl rfl), .inl rfl, .inr rfl⟩ now
    · exact .inContent assigned kind

theorem beginContent_worked (kind : w.kind = .processing) (user : Bool)
    (video : Option VideoFacts) (account : Bool) (now : Time) :
    s.Worked w (s.beginContent w user video account now) := by
  unfold beginContent
  simp only
  split
  · exact .left
  · next r row =>
    split
    · exact .left
    · next owned =>
      rw [Bool.not_eq_false] at owned
      split
      · exact finish_worked kind ⟨.inl rfl, .inl rfl, .inl rfl⟩ now
      · split
        · exact decideVideo_worked kind none _ now
        · split
          · exact finish_worked kind ⟨.inl rfl, .inl rfl, .inl rfl⟩ now
          · split
            · next below => exact .counted kind row owned below
            · exact .left

theorem endLookup_worked (kind : w.kind = .processing) {attemptCount maxAttempts : Int}
    (phase : w.phase = .lookingUp attemptCount maxAttempts) (result : Lookup) (now : Time) :
    s.Worked w (s.endLookup w attemptCount maxAttempts result now) := by
  unfold endLookup
  split
  · exact decideVideo_worked kind _ _ now
  · split
    · exact finish_worked kind
        ⟨.inl rfl, .inr ⟨attemptCount, maxAttempts, phase, rfl, rfl⟩, .inl rfl⟩ now
    · split
      · exact finish_worked kind ⟨.inl rfl, .inl rfl, .inl rfl⟩ now
      · exact finish_worked kind ⟨.inr (.inr (.inl rfl)), .inl rfl, .inl rfl⟩ now

theorem endContent_worked (kind : w.kind = .processing) (assigned : Option Int)
    (outcome : ContentOutcome) (error : Option String) (effect : σ → σ) (now : Time) :
    s.Worked w { s.endContent w assigned outcome error now with
      stages := if s.owns w then effect s.stages else s.stages } := by
  have finished {f : Finish} (finishes : w.Finishes f) :
      s.Worked w { s.finish w f now with
        stages := if s.owns w then effect s.stages else s.stages } := by
    by_cases owned : s.owns w = true
    · exact .finished now _ kind owned finishes
    · rw [if_neg owned]
      unfold finish
      rw [if_neg owned]
      exact .left
  unfold endContent
  cases outcome with
  | completed => exact finished ⟨.inr (.inl rfl), .inl rfl, .inr rfl⟩
  | failed => exact finished ⟨.inr (.inr (.inl rfl)), .inl rfl, .inr rfl⟩
  | pending => exact finished ⟨.inl rfl, .inl rfl, .inr rfl⟩

theorem beginReply_worked (kind : w.kind = .reply) (phase : w.phase = .opened) :
    s.Worked w (s.beginReply w) := by
  unfold beginReply
  split
  · exact .left
  · next r row =>
    split
    · exact .left
    · next owned =>
      rw [Bool.not_eq_false] at owned
      split
      · next foreign => exact .suppressed kind row owned foreign
      · exact .replying kind phase

theorem sendReply_worked (kind : w.kind = .reply) (phase : w.phase = .replying)
    (outcome : SendOutcome) : s.Worked w (s.sendReply w outcome) := by
  unfold sendReply
  split
  · exact .left
  · next r row =>
    split
    · exact .left
    · next owned =>
      rw [Bool.not_eq_false] at owned
      exact .sent outcome kind phase row owned

theorem work_worked (s : QueueState σ) (w : Worker) (answer : Answer σ) (now : Time) :
    s.Worked w (s.work w answer now) := by
  unfold work
  split
  · next kind _ => exact beginContent_worked kind _ _ _ now
  · next kind phase => exact endLookup_worked kind phase _ now
  · next assigned effect kind phase => exact .committed assigned _ kind
  · next kind _ => exact endContent_worked kind _ _ _ _ now
  · next kind phase => exact beginReply_worked kind phase
  · next kind phase => exact sendReply_worked kind phase _
  · next kind phase => exact .replied _ _ _ now kind phase
  · exact .left

/-- A worker's transaction starts no content work. -/
theorem Worked.log {s' : QueueState σ} (h : s.Worked w s') :
    ∃ new, s'.log = new ++ s.log ∧ ∀ id, QueueEvent.content id ∉ new := by
  cases h with
  | left => exact ⟨[], rfl, by simp⟩
  | @finished f now _ _ owned _ =>
    unfold finish
    rw [if_pos owned]
    simp only
    split
    · exact ⟨[_], rfl, by simp⟩
    · exact ⟨[], rfl, by simp⟩
  | inContent => exact ⟨[], rfl, by simp⟩
  | counted => exact ⟨[], rfl, by simp⟩
  | committed => exact ⟨[], rfl, by simp⟩
  | suppressed => exact ⟨[], rfl, by simp⟩
  | replying => exact ⟨[], rfl, by simp⟩
  | sent => exact ⟨[_], rfl, by simp⟩
  | replied => exact ⟨[], rfl, by simp⟩

/-- What a call logs as it starts the work on a request. -/
def startEvents : Opening → List QueueEvent
  | .claimed request .processing => [.content request]
  | _ => []

/-- What a call's sweep logs. -/
def sweepEvents (settings : CommandSettings) (clock : CallClock) (rows : Requests) :
    List QueueEvent :=
  if settings.telegramCommandsEnabled = false then [] else exhaustedEvents clock.recovered rows

/-- The worker a call brings about. -/
def started (settings : CommandSettings) (token : String) : Opening → List Worker
  | .claimed request kind => [⟨request, token, kind, settings, .opened⟩]
  | _ => []

section call

variable (s) (settings : CommandSettings) (clock : CallClock) (token : String)

theorem openCall_disabled (rows : Requests) :
    (openCall settings clock token rows).1 = .disabled ↔ settings.telegramCommandsEnabled = false := by
  unfold openCall
  split
  · next off => exact iff_of_true rfl off
  · next on =>
    refine iff_of_false ?_ on
    simp only
    split
    · simp
    · split
      · simp
      · split <;> simp

theorem callNext_rows :
    (s.callNext settings clock token).rows = (openCall settings clock token s.rows).2 := by
  unfold callNext
  simp only
  split
  · split <;> rfl
  · rfl

theorem callNext_stages : (s.callNext settings clock token).stages = s.stages := by
  unfold callNext
  simp only
  split
  · split <;> rfl
  · rfl

theorem callNext_log : (s.callNext settings clock token).log
    = startEvents (openCall settings clock token s.rows).1
      ++ (sweepEvents settings clock s.rows ++ s.log) := by
  unfold callNext sweepEvents
  simp only [openCall_disabled]
  split
  · next request kind opening =>
    rw [opening]
    cases kind <;> rfl
  · next other =>
    rw [show startEvents (openCall settings clock token s.rows).1 = [] by
      unfold startEvents
      split
      · next opening => exact absurd opening (other _ _)
      · rfl]
    rfl

theorem callNext_workers : (s.callNext settings clock token).workers
    = started settings token (openCall settings clock token s.rows).1 ++ s.workers := by
  unfold callNext
  simp only
  split
  · next request kind opening =>
    rw [opening]
    cases kind <;> rfl
  · next other =>
    rw [show started settings token (openCall settings clock token s.rows).1 = [] by
      unfold started
      split
      · next opening => exact absurd opening (other _ _)
      · rfl]
    rfl

end call

end QueueState

end YTPipe.Telegram
