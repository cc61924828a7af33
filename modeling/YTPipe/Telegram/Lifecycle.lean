import YTPipe.Telegram.Transactions

/-!
# The life of a request

Processing and reply share one lease on one row. What a durable row looks like,
what a row may become, and what the holder of a lease may rely on.
-/

namespace YTPipe.Telegram

/-- The reply statuses that are final. -/
def ReplyStatus.isTerminal (s : ReplyStatus) : Prop := s = .sent ∨ s = .failed ∨ s = .suppressed

instance (s : ReplyStatus) : Decidable s.isTerminal := inferInstanceAs (Decidable (_ ∨ _))

/-- A durable row. -/
structure Sound (r : TelegramCommandRequest) : Prop where
  leased : r.leaseToken ≠ none ↔ r.status = .processing ∨ r.replyStatus = .sending
  replied : r.replyStatus = .sending ∨ r.replyStatus = .sent → r.status.isTerminal
  attempts : 0 ≤ r.attemptCount ∧ r.attemptCount ≤ r.maxAttempts
  replies : 0 ≤ r.replyAttemptCount ∧ r.replyAttemptCount ≤ r.replyMaxAttempts
  /-- Nothing is replied before the request is settled. -/
  unreplied : ¬ r.status.isTerminal →
    r.replyStatus = .pending ∧ r.replyAttemptCount = 0 ∧ 0 < r.replyMaxAttempts

/-- What never goes back. -/
structure Advances (r r' : TelegramCommandRequest) : Prop where
  status : r.status.isTerminal → r'.status = r.status
  reply : r.replyStatus.isTerminal → r'.replyStatus = r.replyStatus
  count : r.replyAttemptCount ≤ r'.replyAttemptCount

/-- What a row may become. Its lease ends, stays with what it is for, or is the
one just handed out. -/
structure Moves (fresh : Option String) (r r' : TelegramCommandRequest) : Prop where
  sound : Sound r'
  advances : Advances r r'
  budget : r'.maxAttempts = r.maxAttempts
  lease : ∀ t, r'.leaseToken = some t → fresh = some t
    ∨ r.leaseToken = some t ∧ r'.status = r.status ∧ r'.replyStatus = r.replyStatus

/-- The columns that a worker without the lease leaves alone. -/
structure SameFate (r r' : TelegramCommandRequest) : Prop where
  status : r'.status = r.status
  replyStatus : r'.replyStatus = r.replyStatus
  replyAttemptCount : r'.replyAttemptCount = r.replyAttemptCount
  replyMaxAttempts : r'.replyMaxAttempts = r.replyMaxAttempts
  replyNextAttemptAt : r'.replyNextAttemptAt = r.replyNextAttemptAt
  replyStartedAt : r'.replyStartedAt = r.replyStartedAt
  replySentAt : r'.replySentAt = r.replySentAt
  telegramReplyMessageId : r'.telegramReplyMessageId = r.telegramReplyMessageId

section rows

variable {fresh : Option String} {r r' r'' : TelegramCommandRequest} {now : Time}

theorem Advances.refl (r : TelegramCommandRequest) : Advances r r :=
  ⟨fun _ => rfl, fun _ => rfl, Int.le_refl _⟩

theorem Advances.trans (h : Advances r r') (h' : Advances r' r'') : Advances r r'' := by
  constructor
  · intro terminal
    have kept := h.status terminal
    exact (h'.status (kept ▸ terminal)).trans kept
  · intro terminal
    have kept := h.reply terminal
    exact (h'.reply (kept ▸ terminal)).trans kept
  · exact Int.le_trans h.count h'.count

theorem Moves.trans (h : Moves none r r') (h' : Moves fresh r' r'') : Moves fresh r r'' := by
  constructor
  · exact h'.sound
  · exact h.advances.trans h'.advances
  · exact h'.budget.trans h.budget
  · intro t held
    rcases h'.lease t held with new | ⟨before, status, reply⟩
    · exact .inl new
    · rcases h.lease t before with new | ⟨first, status', reply'⟩
      · cases new
      · exact .inr ⟨first, status.trans status', reply.trans reply'⟩

/-- Other columns change. -/
theorem Moves.aside (h : Sound r) (status : r'.status = r.status)
    (lease : r'.leaseToken = r.leaseToken)
    (attempts : r'.attemptCount = r.attemptCount ∧ r'.maxAttempts = r.maxAttempts)
    (reply : r'.replyStatus = r.replyStatus ∧ r'.replyAttemptCount = r.replyAttemptCount
      ∧ r'.replyMaxAttempts = r.replyMaxAttempts) : Moves fresh r r' := by
  obtain ⟨attempts, budget⟩ := attempts
  obtain ⟨reply, replies, most⟩ := reply
  constructor
  · constructor
    · rw [lease, status, reply]
      exact h.leased
    · rw [status, reply]
      exact h.replied
    · rw [attempts, budget]
      exact h.attempts
    · rw [replies, most]
      exact h.replies
    · rw [status, reply, replies, most]
      exact h.unreplied
  · exact ⟨fun _ => status, fun _ => reply, Int.le_of_eq replies.symm⟩
  · exact budget
  · intro t held
    exact .inr ⟨lease ▸ held, status, reply⟩

theorem Moves.refl (h : Sound r) : Moves fresh r r :=
  .aside h rfl rfl ⟨rfl, rfl⟩ ⟨rfl, rfl, rfl⟩

theorem not_terminal_processing : ¬ RequestStatus.processing.isTerminal := by decide

theorem not_terminal_waiting (h : r.status = .pending ∨ r.status = .pendingRetry) :
    ¬ r.status.isTerminal := by
  rcases h with h | h <;> rw [h] <;> decide

theorem not_terminal_sending : ¬ ReplyStatus.sending.isTerminal := by decide

theorem not_terminal_due {s : ReplyStatus} (h : s.isDue) : ¬ s.isTerminal := by
  rcases h with h | h <;> rw [h] <;> decide

/-- A request that waits has no lease. -/
theorem Sound.unleased (h : Sound r) (waits : r.status = .pending ∨ r.status = .pendingRetry) :
    r.leaseToken = none := by
  have unreplied := (h.unreplied (not_terminal_waiting waits)).1
  have leased := h.leased
  rw [unreplied] at leased
  rcases waits with h | h <;> simpa [h] using leased

theorem recoverStaleClaim_moves (now : Time) (h : Sound r) :
    Moves none r (recoverStaleClaim now r) := by
  unfold recoverStaleClaim recoverReply recoverProcessing
  by_cases processing : r.status = .processing ∧ r.stale now = true
  · have unreplied := h.unreplied (processing.1 ▸ not_terminal_processing)
    rw [if_pos processing, if_neg (by simp [unreplied.1])]
    constructor
    · constructor
      · simp [unreplied.1]
      · simp [unreplied.1]
      · exact h.attempts
      · exact h.replies
      · exact fun _ => unreplied
    · refine ⟨fun terminal => ?_, fun _ => rfl, Int.le_refl _⟩
      exact absurd (processing.1 ▸ terminal) not_terminal_processing
    · rfl
    · intro t held
      cases held
  · rw [if_neg processing]
    by_cases sending : r.replyStatus = .sending ∧ r.stale now = true
    · have settled := h.replied (.inl sending.1)
      rw [if_pos sending]
      constructor
      · constructor
        · have apart : r.status ≠ .processing := by
            intro same
            exact not_terminal_processing (same ▸ settled)
          simp [apart]
        · intro _
          exact settled
        · exact h.attempts
        · exact h.replies
        · intro open_
          exact absurd settled open_
      · refine ⟨fun _ => rfl, fun terminal => ?_, Int.le_refl _⟩
        exact absurd (sending.1 ▸ terminal) not_terminal_sending
      · rfl
      · intro t held
        cases held
    · rw [if_neg sending]
      exact .refl h

theorem exhaustProcessing_moves (h : Sound r) : Moves none r (exhaustProcessing r) := by
  unfold exhaustProcessing
  split
  · next waits =>
    have waiting := not_terminal_waiting waits.1
    have unreplied := h.unreplied waiting
    have unleased := h.unleased waits.1
    constructor
    · constructor
      · simp [unleased, unreplied.1]
      · simp [unreplied.1]
      · exact h.attempts
      · exact h.replies
      · intro open_
        exact absurd (.inr (.inl rfl)) open_
    · exact ⟨fun terminal => absurd terminal waiting, fun _ => rfl, Int.le_refl _⟩
    · rfl
    · intro t held
      rw [show r.leaseToken = some t from held] at unleased
      cases unleased
  · exact .refl h

/-- The reply is given up, of a row that was settled before the sweep. -/
theorem failReply_moves (h : Sound r) (settled : r.status.isTerminal) (due : r.replyStatus.isDue) :
    Moves none r { r with replyStatus := .failed, replyNextAttemptAt := none } := by
  have processing : r.status ≠ .processing := by
    intro same
    exact not_terminal_processing (same ▸ settled)
  have sending : r.replyStatus ≠ .sending := by
    rcases due with h | h <;> rw [h] <;> decide
  have unleased : r.leaseToken = none := by
    have leased := h.leased
    simpa [processing, sending] using leased
  constructor
  · constructor
    · simp [unleased, processing]
    · intro _
      exact settled
    · exact h.attempts
    · exact h.replies
    · intro open_
      exact absurd settled open_
  · exact ⟨fun _ => rfl, fun terminal => absurd terminal (not_terminal_due due), Int.le_refl _⟩
  · rfl
  · intro t held
    rw [show r.leaseToken = some t from held] at unleased
    cases unleased

theorem terminalizeExhausted_moves (h : Sound r) : Moves none r (terminalizeExhausted r) := by
  unfold terminalizeExhausted exhaustReply
  split
  · next exhausted =>
    have unchanged : exhaustProcessing r = r := by
      unfold exhaustProcessing
      rw [if_neg]
      intro waits
      exact not_terminal_waiting waits.1 exhausted.1
    rw [unchanged]
    exact failReply_moves h exhausted.1 exhausted.2.1
  · exact exhaustProcessing_moves h

theorem sweep_moves (now : Time) (h : Sound r) : Moves none r (sweep now r) :=
  (recoverStaleClaim_moves now h).trans
    (terminalizeExhausted_moves (recoverStaleClaim_moves now h).sound)

/-- A reply that is due after the sweeps may be tried once more. -/
theorem sweep_replies (now : Time) (h : Sound r) (settled : (sweep now r).status.isTerminal)
    (due : (sweep now r).replyStatus.isDue) :
    (sweep now r).replyAttemptCount < (sweep now r).replyMaxAttempts := by
  have recovered := (recoverStaleClaim_moves now h).sound
  revert settled due
  unfold sweep
  generalize recoverStaleClaim now r = r at recovered
  unfold terminalizeExhausted exhaustReply
  split
  · intro _ due
    rcases due with h | h <;> cases h
  · next left =>
    unfold exhaustProcessing
    split
    · next waits =>
      intro _ _
      have unreplied := recovered.unreplied (not_terminal_waiting waits.1)
      change r.replyAttemptCount < r.replyMaxAttempts
      omega
    · intro settled due
      by_cases most : r.replyAttemptCount ≥ r.replyMaxAttempts
      · exact absurd ⟨settled, due, most⟩ left
      · omega

theorem suppressUnauthorized_moves (h : Sound r) (open_ : ¬ r.replyStatus.isTerminal) :
    Moves none r (suppressUnauthorized r) := by
  unfold suppressUnauthorized
  split
  · next settled =>
    have processing : r.status ≠ .processing := by
      intro same
      exact not_terminal_processing (same ▸ settled)
    constructor
    · constructor
      · simp [processing]
      · simp
      · exact h.attempts
      · exact h.replies
      · intro unsettled
        exact absurd settled unsettled
    · exact ⟨fun _ => rfl, fun terminal => absurd terminal open_, Int.le_refl _⟩
    · rfl
    · intro t held
      cases held
  · next unsettled =>
    constructor
    · constructor
      · simp
      · simp
      · exact h.attempts
      · exact h.replies
      · intro open_
        exact absurd (.inr (.inr rfl)) open_
    · exact ⟨fun terminal => absurd terminal unsettled, fun terminal => absurd terminal open_,
        Int.le_refl _⟩
    · rfl
    · intro t held
      cases held

theorem awaitLeader_moves (h : Sound r) (waits : r.status = .pending ∨ r.status = .pendingRetry)
    (due : Time) : Moves none r (awaitLeader due r) := by
  have waiting := not_terminal_waiting waits
  have unreplied := h.unreplied waiting
  have unleased := h.unleased waits
  constructor
  · constructor
    · simp [awaitLeader, unleased, unreplied.1]
    · simp [awaitLeader, unreplied.1]
    · exact h.attempts
    · exact h.replies
    · intro _
      exact unreplied
  · exact ⟨fun terminal => absurd terminal waiting, fun _ => rfl, Int.le_refl _⟩
  · rfl
  · intro t held
    rw [show r.leaseToken = some t from held] at unleased
    cases unleased

theorem claim_processing_moves (h : Sound r)
    (waits : r.status = .pending ∨ r.status = .pendingRetry) (token : String) (now : Time) :
    Moves (some token) r (claim .processing token now r) := by
  have waiting := not_terminal_waiting waits
  have unreplied := h.unreplied waiting
  constructor
  · constructor
    · simp [claim]
    · simp [claim, unreplied.1]
    · exact h.attempts
    · exact h.replies
    · intro _
      exact unreplied
  · exact ⟨fun terminal => absurd terminal waiting, fun _ => rfl, Int.le_refl _⟩
  · rfl
  · intro t held
    exact .inl held

theorem claim_reply_moves (h : Sound r) (settled : r.status.isTerminal) (due : r.replyStatus.isDue)
    (below : r.replyAttemptCount < r.replyMaxAttempts) (token : String) (now : Time) :
    Moves (some token) r (claim .reply token now r) := by
  have replies := h.replies
  constructor
  · constructor
    · simp [claim]
    · intro _
      exact settled
    · exact h.attempts
    · change 0 ≤ r.replyAttemptCount + 1 ∧ r.replyAttemptCount + 1 ≤ r.replyMaxAttempts
      omega
    · intro open_
      exact absurd settled open_
  · refine ⟨fun _ => rfl, fun terminal => ?_, ?_⟩
    · exact absurd terminal (not_terminal_due due)
    · change r.replyAttemptCount ≤ r.replyAttemptCount + 1
      omega
  · rfl
  · intro t held
    exact .inl held

/-- The holder of a processing lease finishes. -/
theorem finishRow_moves {f : Finish} (h : Sound r) (processing : r.status = .processing)
    (status : f.status = .pendingRetry ∨ f.status.isTerminal)
    (attempts : ∀ a, f.assignedAttempts = some a → 0 ≤ a ∧ a ≤ r.maxAttempts) :
    Moves none r (f.row now r) := by
  have open_ : ¬ r.status.isTerminal := processing ▸ not_terminal_processing
  have unreplied := h.unreplied open_
  have apart : f.status ≠ .processing := by
    rcases status with h | h
    · rw [h]
      decide
    · intro same
      exact not_terminal_processing (same ▸ h)
  constructor
  · constructor
    · simp [Finish.row, finishRow, unreplied.1, apart]
    · simp [Finish.row, finishRow, unreplied.1]
    · change 0 ≤ f.assignedAttempts.getD r.attemptCount
        ∧ f.assignedAttempts.getD r.attemptCount ≤ r.maxAttempts
      cases assigned : f.assignedAttempts with
      | none => exact h.attempts
      | some a => exact attempts a assigned
    · exact h.replies
    · intro _
      exact unreplied
  · exact ⟨fun terminal => absurd terminal open_, fun _ => rfl, Int.le_refl _⟩
  · rfl
  · intro t held
    cases held

/-- The holder of a processing lease counts a metadata attempt. -/
theorem countAttempt_moves (h : Sound r) (below : r.attemptCount < r.maxAttempts) :
    Moves none r { r with attemptCount := r.attemptCount + 1 } := by
  have attempts := h.attempts
  constructor
  · constructor
    · exact h.leased
    · exact h.replied
    · change 0 ≤ r.attemptCount + 1 ∧ r.attemptCount + 1 ≤ r.maxAttempts
      omega
    · exact h.replies
    · exact h.unreplied
  · exact ⟨fun _ => rfl, fun _ => rfl, Int.le_refl _⟩
  · rfl
  · intro t held
    exact .inr ⟨held, rfl, rfl⟩

/-- The holder of a reply lease records how the send ended. -/
theorem replyRow_moves (h : Sound r) (sending : r.replyStatus = .sending) (outcome : SendOutcome)
    (attemptCount maxAttempts : Int) :
    Moves none r (replyRow outcome attemptCount maxAttempts now r) := by
  have settled := h.replied (.inl sending)
  have processing : r.status ≠ .processing := by
    intro same
    exact not_terminal_processing (same ▸ settled)
  have moved (s : ReplyStatus) (apart : s ≠ .sending) (u : TelegramCommandRequest)
      (same : u.status = r.status ∧ u.leaseToken = none ∧ u.replyStatus = s
        ∧ u.attemptCount = r.attemptCount ∧ u.maxAttempts = r.maxAttempts
        ∧ u.replyAttemptCount = r.replyAttemptCount ∧ u.replyMaxAttempts = r.replyMaxAttempts) :
      Moves none r u := by
    obtain ⟨status, lease, reply, attempts, budget, replies, most⟩ := same
    constructor
    · constructor
      · simp [lease, status, reply, processing, apart]
      · intro _
        exact status ▸ settled
      · rw [attempts, budget]
        exact h.attempts
      · rw [replies, most]
        exact h.replies
      · intro open_
        exact absurd (status ▸ settled) open_
    · refine ⟨fun _ => status, fun terminal => ?_, Int.le_of_eq replies.symm⟩
      exact absurd (sending ▸ terminal) not_terminal_sending
    · exact budget
    · intro t held
      rw [lease] at held
      cases held
  unfold replyRow
  cases outcome with
  | sent => exact moved .sent (by decide) _ ⟨rfl, rfl, rfl, rfl, rfl, rfl, rfl⟩
  | failed =>
    simp only
    split
    · exact moved .failed (by decide) _ ⟨rfl, rfl, rfl, rfl, rfl, rfl, rfl⟩
    · exact moved .pendingRetry (by decide) _ ⟨rfl, rfl, rfl, rfl, rfl, rfl, rfl⟩

theorem submitted_sound (h : Submitted r) : Sound r := by
  obtain ⟨status, _, ⟨attempts, budget⟩, ⟨reply, replies, most⟩, lease, _⟩ := h
  constructor
  · rcases status with h | h <;> simp [lease, h, reply]
  · simp [reply]
  · omega
  · omega
  · intro _
    exact ⟨reply, replies, by omega⟩

end rows

end YTPipe.Telegram
