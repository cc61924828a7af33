import YTPipe.Telegram.Transactions

/-!
# Requests for the same video

Of the unsettled requests for a video the one with the smallest id leads: no
content work starts for another, and one that is chosen meanwhile waits.
-/

namespace YTPipe.Telegram

theorem sweep_attempts (now : Time) (r : TelegramCommandRequest) :
    (sweep now r).attemptCount = r.attemptCount := by
  unfold sweep terminalizeExhausted exhaustReply exhaustProcessing recoverStaleClaim recoverReply
    recoverProcessing
  split <;> split <;> split <;> split <;> rfl

/-- What a claim changes is not what makes a request lead another. -/
theorem led_of_claimed {rows : Requests} {request : TelegramCommandRequest} {token : String}
    {now : Time}
    (led : Led (rows.alter request.id (claim .processing token now) (claim_id .processing token now))
      (claim .processing token now request)) : Led rows request := by
  obtain ⟨video, named, r, hr, older, same, unsettled⟩ := led
  obtain ⟨r₀, hr₀, rfl⟩ := List.mem_map.mp hr
  by_cases here : r₀.id = request.id
  · rw [if_pos here, claim_id] at older
    rw [claim_id] at older
    omega
  · rw [if_neg here] at older same unsettled
    exact ⟨video, named, r₀, hr₀, older, same, unsettled⟩

namespace QueueState

variable {σ : Type}

theorem sweepEvents_quiet {settings : CommandSettings} {clock : CallClock} {rows : Requests}
    {id : Int} : QueueEvent.content id ∉ sweepEvents settings clock rows := by
  intro started
  unfold sweepEvents exhaustedEvents at started
  split at started
  · cases started
  · obtain ⟨r, _, failed⟩ := List.mem_map.mp started
    cases failed

/-- A step starts content work only for a request that it has just claimed and
that no other leads. -/
theorem step_content (s : QueueState σ) (op : QueueOp σ) :
    ∃ new, (s.step op).log = new ++ s.log ∧ ∀ id, .content id ∈ new →
      ∃ request, (s.step op).rows.get id = some request ∧ request.status = .processing
        ∧ ¬ Led (s.step op).rows request := by
  have quiet {s' : QueueState σ} (same : s'.log = s.log) :
      ∃ new, s'.log = new ++ s.log ∧ ∀ id, .content id ∈ new →
        ∃ request, s'.rows.get id = some request ∧ request.status = .processing
          ∧ ¬ Led s'.rows request :=
    ⟨[], same, fun id h => by cases h⟩
  cases op with
  | submit row =>
    apply quiet
    simp only [step]
    split
    · split <;> rfl
    · rfl
  | call settings clock token =>
    simp only [step]
    split
    · exact quiet rfl
    · rw [callNext_log, callNext_rows]
      refine ⟨_, (List.append_assoc _ _ _).symm, ?_⟩
      intro id started
      rcases List.mem_append.mp started with claimed | swept_
      · have opened := openCall_opened settings clock token s.rows
        generalize (openCall settings clock token s.rows).1 = opening at opened claimed
        generalize (openCall settings clock token s.rows).2 = rows at opened
        cases opened with
        | disabled => cases claimed
        | empty => cases claimed
        | suppressed => cases claimed
        | waiting => cases claimed
        | @claimed request kind on selected authorized first =>
          cases kind with
          | reply => cases claimed
          | processing =>
            simp only [startEvents, List.mem_singleton, QueueEvent.content.injEq] at claimed
            subst claimed
            have row := selectCandidate_row selected
            refine ⟨claim .processing token clock.settled request, ?_, rfl, ?_⟩
            · rw [Table.get_alter, if_pos rfl, row, Option.map_some]
            · exact fun led => first rfl (led_of_claimed led)
      · exact absurd swept_ sweepEvents_quiet
  | work token answer now =>
    simp only [step]
    split
    · next w _ =>
      obtain ⟨new, log, calm⟩ := (work_worked s w answer now).log
      exact ⟨new, log, fun id h => absurd h (calm id)⟩
    · exact quiet rfl
  | crash token => exact quiet rfl
  | forget video => exact quiet rfl
  | acknowledge request messageId now => exact quiet rfl
  | others effect => exact quiet rfl

/-- What becomes of a request that a call chooses for content work while another
request leads it. -/
inductive Waits (settings : CommandSettings) (clock : CallClock) (after : Requests)
    (request leader : TelegramCommandRequest) : Prop
  | waits {r : TelegramCommandRequest} {due : Time}
      (authorized : authorizedDestination settings request = true)
      (row : after.get request.id = some r) (status : r.status = .pendingRetry)
      (next : r.nextAttemptAt = some due) (pause : clock.settled + seconds 30 ≤ due)
      (leads : ∀ t, leader.nextAttemptAt = some t → t ≤ due)
  /-- A request that is no longer authorised is turned away instead. -/
  | suppressed {r : TelegramCommandRequest}
      (foreign : authorizedDestination settings request = false)
      (row : after.get request.id = some r) (status : r.status = .rejected)
      (reply : r.replyStatus = .suppressed)

/-- A call that chooses a sibling of a leader starts no work. -/
theorem openCall_led {settings : CommandSettings} {clock : CallClock} {token : String}
    {rows : Requests} {request leader : TelegramCommandRequest}
    (on : settings.telegramCommandsEnabled = true)
    (selected : selectCandidate clock.selected (swept clock.recovered rows)
      = some (request, .processing))
    (leads : Leads (swept clock.recovered rows) request leader) :
    Waits settings clock (openCall settings clock token rows).2 request leader
      ∧ ((openCall settings clock token rows).2.get request.id).map (·.attemptCount)
        = (rows.get request.id).map (·.attemptCount)
      ∧ startEvents (openCall settings clock token rows).1 = [] := by
  have row := selectCandidate_row selected
  have before := row
  rw [swept_get] at before
  obtain ⟨r₀, hr₀, same⟩ := Option.map_eq_some_iff.mp before
  have attempts : request.attemptCount = r₀.attemptCount := by
    rw [← same]
    exact sweep_attempts _ _
  have opened := openCall_opened settings clock token rows
  generalize (openCall settings clock token rows).1 = opening at opened
  generalize (openCall settings clock token rows).2 = after at opened
  cases opened with
  | disabled off =>
    rw [off] at on
    cases on
  | empty _ idle =>
    rw [idle] at selected
    cases selected
  | suppressed _ selected' foreign =>
    rw [selected] at selected'
    cases selected'
    have open_ : ¬ request.status.isTerminal := by
      rcases processing_of_selected selected with h | h <;> rw [h] <;> decide
    have changed : ((swept clock.recovered rows).alter request.id suppressUnauthorized
        suppressUnauthorized_id).get request.id = some (suppressUnauthorized request) := by
      rw [Table.get_alter, if_pos rfl, row, Option.map_some]
    refine ⟨.suppressed foreign changed ?_ rfl, ?_, rfl⟩
    · simp only [suppressUnauthorized, open_, if_false]
    · rw [changed, hr₀, Option.map_some, Option.map_some, ← attempts]
      simp only [suppressUnauthorized, open_, if_false]
  | waiting _ selected' authorized =>
    rw [selected] at selected'
    cases selected'
    obtain ⟨pause, due⟩ := leaderRetryTime_ge clock.settled leads
    have altered (f : TelegramCommandRequest → TelegramCommandRequest) (keeps : ∀ r, (f r).id = r.id) :
        ((swept clock.recovered rows).alter request.id f keeps).get request.id
          = some (f request) := by
      rw [Table.get_alter, if_pos rfl, row, Option.map_some]
    have changed := altered
      (awaitLeader (leaderRetryTime clock.settled (swept clock.recovered rows) request))
      fun _ => rfl
    refine ⟨.waits authorized changed rfl rfl pause due, ?_, rfl⟩
    rw [changed, hr₀, Option.map_some, Option.map_some, ← attempts]
    rfl
  | claimed _ selected' authorized first =>
    rw [selected] at selected'
    cases selected'
    exact absurd leads.led (first rfl)

/-- Whatever came before: content work starts only for a request that no other
leads, and a call that chooses a led request has it wait, or turns it away where
it is no longer authorised, and touches neither attempts nor stages. -/
theorem leader_rule (s : QueueState σ) (ops : List (QueueOp σ)) :
    (∀ op, ∃ new, ((s.run ops).step op).log = new ++ (s.run ops).log ∧
      ∀ id, .content id ∈ new → ∃ request, ((s.run ops).step op).rows.get id = some request
        ∧ request.status = .processing ∧ ¬ Led ((s.run ops).step op).rows request)
    ∧ ∀ settings clock token request leader, token ∉ (s.run ops).issued →
      settings.telegramCommandsEnabled = true →
      selectCandidate clock.selected (swept clock.recovered (s.run ops).rows)
        = some (request, .processing) →
      Leads (swept clock.recovered (s.run ops).rows) request leader →
      let after := (s.run ops).step (.call settings clock token)
      Waits settings clock after.rows request leader
        ∧ (after.rows.get request.id).map (·.attemptCount)
          = ((s.run ops).rows.get request.id).map (·.attemptCount)
        ∧ after.stages = (s.run ops).stages
        ∧ ∀ id, .content id ∈ after.log → .content id ∈ (s.run ops).log := by
  constructor
  · exact step_content _
  · intro settings clock token request leader new on selected leads after
    have called : after = (s.run ops).callNext settings clock token := if_neg new
    obtain ⟨waits, attempts, idle⟩ := openCall_led on selected leads
    rw [called, callNext_rows, callNext_stages, callNext_log, idle]
    refine ⟨waits, attempts, rfl, ?_⟩
    intro id started
    rw [List.nil_append] at started
    exact (List.mem_append.mp started).resolve_left sweepEvents_quiet

section siblings

/-- A request for a video, as the intake leaves it. -/
def siblingRequest (id : Int) (createdAt : Time) (status : RequestStatus) (due : Option Time) :
    TelegramCommandRequest where
  id := id
  createdAt := createdAt
  telegramUpdateId := id
  telegramChatId := 7
  telegramUserId := 5
  telegramMessageId := id
  submittedUrl := some "https://youtu.be/dQw4w9WgXcQ"
  youtubeVideoId := some ⟨"dQw4w9WgXcQ", by decide⟩
  videoId := none
  status := status
  attemptCount := 0
  maxAttempts := 3
  nextAttemptAt := due
  processingStartedAt := none
  leaseExpiresAt := none
  leaseToken := none
  lastError := none
  acknowledgedAt := none
  acknowledgmentMessageId := none
  replyStatus := .pending
  replyAttemptCount := 0
  replyMaxAttempts := 3
  replyNextAttemptAt := none
  replyStartedAt := none
  replySentAt := none
  telegramReplyMessageId := none

def siblingLeader : TelegramCommandRequest :=
  siblingRequest 1 0 .pendingRetry (some (seconds 90))

def sibling : TelegramCommandRequest := siblingRequest 2 (seconds 1) .pending none

def siblings : QueueState Unit := ⟨⟨[siblingLeader, sibling], by decide⟩, [], [], (), []⟩

def siblingClock : CallClock := ⟨seconds 10, seconds 10, seconds 11⟩

def commandSettings (user : Int) : CommandSettings := ⟨true, some user, some 7, true⟩

theorem sibling_selected : selectCandidate siblingClock.selected
    (swept siblingClock.recovered siblings.rows) = some (sibling, .processing) := by
  decide +kernel

theorem siblingLeader_leads :
    Leads (swept siblingClock.recovered siblings.rows) sibling siblingLeader := by
  constructor
  · decide +kernel
  · decide
  · exact ⟨by decide, rfl⟩
  · exact .inr (.inr rfl)
  · decide +kernel

theorem leader_rule_siblings :
    Waits (commandSettings 5) siblingClock
      (siblings.step (.call (commandSettings 5) siblingClock "t")).rows sibling siblingLeader :=
  ((leader_rule siblings []).2 (commandSettings 5) siblingClock "t" sibling siblingLeader
    (by decide) rfl sibling_selected siblingLeader_leads).1

/-- A sibling whose sender is no longer the configured one does not wait: it is
rejected. -/
theorem foreign_sibling_rejected :
    ¬ ∀ (s : QueueState Unit) settings clock token request leader, token ∉ s.issued →
      settings.telegramCommandsEnabled = true →
      selectCandidate clock.selected (swept clock.recovered s.rows) = some (request, .processing) →
      Leads (swept clock.recovered s.rows) request leader →
      ((s.step (.call settings clock token)).rows.get request.id).map (·.status)
        = some .pendingRetry := by
  intro waits
  have waiting := waits siblings (commandSettings 6) siblingClock "t" sibling siblingLeader
    (by decide) rfl sibling_selected siblingLeader_leads
  have rejected : ((siblings.step (.call (commandSettings 6) siblingClock "t")).rows.get
      sibling.id).map (·.status) = some .rejected := by decide +kernel
  rw [rejected] at waiting
  cases waiting

end siblings

end QueueState

end YTPipe.Telegram
