import YTPipe.Telegram.Requests

/-!
# The start of a call

What `process_next` may do before the work on a request, and the request for the
same video that another waits for.
-/

namespace YTPipe.Telegram

variable {rows : Requests} {request leader r : TelegramCommandRequest}

/-- There is an unsettled request with a smaller id for the same video. -/
def Led (rows : Requests) (request : TelegramCommandRequest) : Prop :=
  ∃ video, request.youtubeVideoId = some video ∧ ∃ r ∈ rows.rows,
    r.id < request.id ∧ r.youtubeVideoId = some video ∧ r.status.isUnsettled

/-- The request that another waits for. -/
structure Leads (rows : Requests) (request leader : TelegramCommandRequest) : Prop where
  row : leader ∈ rows.rows
  older : leader.id < request.id
  video : request.youtubeVideoId ≠ none ∧ leader.youtubeVideoId = request.youtubeVideoId
  unsettled : leader.status.isUnsettled
  least : ∀ r ∈ rows.rows, r.youtubeVideoId = request.youtubeVideoId → r.status.isUnsettled →
    leader.id ≤ r.id

section first

variable {before : TelegramCommandRequest → TelegramCommandRequest → Bool}
  {list : List TelegramCommandRequest}

theorem firstBy_mem (h : firstBy before list = some r) : r ∈ list := by
  induction list generalizing r with
  | nil => cases h
  | cons first rest ih =>
    simp only [firstBy] at h
    split at h
    · cases h
      exact List.mem_cons_self
    · next s found =>
      split at h
      · cases h
        exact List.mem_cons_of_mem _ (ih found)
      · cases h
        exact List.mem_cons_self

theorem firstBy_eq_none : firstBy before list = none ↔ list = [] := by
  cases list with
  | nil => exact iff_of_true rfl rfl
  | cons first rest =>
    constructor
    · intro h
      simp only [firstBy] at h
      split at h
      · cases h
      · split at h <;> cases h
    · intro h
      cases h

/-- The first by the id has the smallest id. -/
theorem firstBy_id_le (h : firstBy (fun r s => r.id < s.id) list = some r)
    {s : TelegramCommandRequest} (hs : s ∈ list) : r.id ≤ s.id := by
  induction list generalizing r with
  | nil => cases hs
  | cons first rest ih =>
    simp only [firstBy] at h
    split at h
    · next alone =>
      cases h
      rw [firstBy_eq_none.mp alone, List.mem_singleton] at hs
      exact Int.le_of_eq (congrArg TelegramCommandRequest.id hs.symm)
    · next t found =>
      have later : s = first ∨ t.id ≤ s.id := (List.mem_cons.mp hs).imp_right (ih found)
      split at h
      · next earlier =>
        cases h
        simp only [decide_eq_true_eq] at earlier
        rcases later with rfl | le
        · omega
        · exact le
      · next late =>
        cases h
        simp only [decide_eq_true_eq] at late
        rcases later with rfl | le
        · omega
        · omega

end first

theorem leads_iff : leads request r = true
    ↔ r.id < request.id ∧ r.youtubeVideoId = request.youtubeVideoId ∧ r.status.isUnsettled := by
  simp [leads, and_assoc]

/-- The row `_leader_retry_time` finds. -/
theorem olderLeader_leads (h : olderLeader rows request = some leader) :
    Leads rows request leader := by
  unfold olderLeader at h
  split at h
  · cases h
  · next named =>
    have found := List.mem_filter.mp (firstBy_mem h)
    obtain ⟨older, video, unsettled⟩ := leads_iff.mp found.2
    constructor
    · exact found.1
    · exact older
    · exact ⟨by simpa using named, video⟩
    · exact unsettled
    · intro s hs same open_
      by_cases smaller : s.id < request.id
      · exact firstBy_id_le h (List.mem_filter.mpr ⟨hs, leads_iff.mpr ⟨smaller, same, open_⟩⟩)
      · omega

theorem Leads.led (h : Leads rows request leader) : Led rows request := by
  obtain ⟨video, named⟩ := Option.ne_none_iff_exists'.mp h.video.1
  exact ⟨video, named, leader, h.row, h.older, h.video.2.trans named, h.unsettled⟩

/-- The leader is one row. -/
theorem Leads.unique {leader' : TelegramCommandRequest} (h : Leads rows request leader)
    (h' : Leads rows request leader') : leader = leader' := by
  have le := h.least leader' h'.row h'.video.2 h'.unsettled
  have ge := h'.least leader h.row h.video.2 h.unsettled
  have same := Table.get_of_mem h.row
  rw [show leader.id = leader'.id by omega, Table.get_of_mem h'.row] at same
  exact (Option.some.inj same).symm

theorem hasOlderContentLeader_iff : hasOlderContentLeader rows request = true ↔ Led rows request := by
  unfold hasOlderContentLeader
  constructor
  · intro h
    obtain ⟨leader, found⟩ := Option.isSome_iff_exists.mp h
    exact (olderLeader_leads found).led
  · rintro ⟨video, named, r, hr, older, same, unsettled⟩
    rw [Option.isSome_iff_ne_none]
    intro none_
    unfold olderLeader at none_
    rw [if_neg (by simp [named]), firstBy_eq_none, List.filter_eq_nil_iff] at none_
    exact none_ r hr (leads_iff.mpr ⟨older, same.trans named.symm, unsettled⟩)

/-- A sibling waits for half a minute at least, and for its leader. -/
theorem leaderRetryTime_ge (now : Time) (h : Leads rows request leader) :
    now + seconds 30 ≤ leaderRetryTime now rows request
      ∧ ∀ t, leader.nextAttemptAt = some t → t ≤ leaderRetryTime now rows request := by
  obtain ⟨found, hfound⟩ := Option.isSome_iff_exists.mp (hasOlderContentLeader_iff.mpr h.led)
  obtain rfl := h.unique (olderLeader_leads hfound)
  unfold leaderRetryTime
  rw [hfound, Option.bind_some]
  cases leader.nextAttemptAt with
  | none => exact ⟨Int.le_refl _, fun t ht => by cases ht⟩
  | some due =>
    constructor
    · exact Int.le_max_right _ _
    · intro t ht
      cases ht
      exact Int.le_max_left _ _

/-- The rows as the two sweeps of a call leave them. -/
def swept (now : Time) (rows : Requests) : Requests := rows.map (sweep now) (sweep_id now)

theorem swept_get {rows : Requests} {now : Time} {id : Int} :
    (swept now rows).get id = (rows.get id).map (sweep now) := Table.get_map

/-- The row a call chooses is there. -/
theorem selectCandidate_row {now : Time} {rows : Requests} {request : TelegramCommandRequest}
    {kind : WorkKind} (h : selectCandidate now rows = some (request, kind)) :
    rows.get request.id = some request := by
  unfold selectCandidate at h
  obtain ⟨r, found, pair⟩ := Option.map_eq_some_iff.mp h
  cases pair
  exact Table.get_of_mem (List.mem_filter.mp (firstBy_mem found)).1

theorem processing_of_selected {now : Time} {rows : Requests} {request : TelegramCommandRequest}
    (h : selectCandidate now rows = some (request, .processing)) :
    request.status = .pending ∨ request.status = .pendingRetry := by
  unfold selectCandidate at h
  obtain ⟨r, found, pair⟩ := Option.map_eq_some_iff.mp h
  rw [Prod.mk.injEq] at pair
  obtain ⟨rfl, kind⟩ := pair
  split at kind
  · next due =>
    simp only [processingDue, Bool.or_eq_true, decide_eq_true_eq, Bool.and_eq_true] at due
    exact due.imp_right (·.1)
  · cases kind

theorem replying_of_selected {now : Time} {rows : Requests} {request : TelegramCommandRequest}
    (h : selectCandidate now rows = some (request, .reply)) :
    request.status.isTerminal ∧ request.replyStatus.isDue := by
  unfold selectCandidate at h
  obtain ⟨r, found, pair⟩ := Option.map_eq_some_iff.mp h
  rw [Prod.mk.injEq] at pair
  obtain ⟨rfl, kind⟩ := pair
  have due := (List.mem_filter.mp (firstBy_mem found)).2
  split at kind
  · cases kind
  · next other =>
    simp only [other, replyDue, Bool.false_or, Bool.and_eq_true, decide_eq_true_eq] at due
    exact due.1

/-- How a call comes to the start of its work. -/
inductive Opened (settings : CommandSettings) (clock : CallClock) (token : String)
    (rows : Requests) : Opening → Requests → Prop
  | disabled (off : settings.telegramCommandsEnabled = false) :
    Opened settings clock token rows .disabled rows
  | empty (on : settings.telegramCommandsEnabled = true)
      (idle : selectCandidate clock.selected (swept clock.recovered rows) = none) :
      Opened settings clock token rows .empty (swept clock.recovered rows)
  | suppressed {request : TelegramCommandRequest} {kind : WorkKind}
      (on : settings.telegramCommandsEnabled = true)
      (selected : selectCandidate clock.selected (swept clock.recovered rows) = some (request, kind))
      (foreign : authorizedDestination settings request = false) :
      Opened settings clock token rows (.suppressed request.id)
        ((swept clock.recovered rows).alter request.id suppressUnauthorized suppressUnauthorized_id)
  | waiting {request : TelegramCommandRequest} (on : settings.telegramCommandsEnabled = true)
      (selected : selectCandidate clock.selected (swept clock.recovered rows)
        = some (request, .processing))
      (authorized : authorizedDestination settings request = true)
      (led : Led (swept clock.recovered rows) request) :
      Opened settings clock token rows (.waiting request.id)
        ((swept clock.recovered rows).alter request.id
          (awaitLeader (leaderRetryTime clock.settled (swept clock.recovered rows) request))
          fun _ => rfl)
  | claimed {request : TelegramCommandRequest} {kind : WorkKind}
      (on : settings.telegramCommandsEnabled = true)
      (selected : selectCandidate clock.selected (swept clock.recovered rows) = some (request, kind))
      (authorized : authorizedDestination settings request = true)
      (first : kind = .processing → ¬ Led (swept clock.recovered rows) request) :
      Opened settings clock token rows (.claimed request.id kind)
        ((swept clock.recovered rows).alter request.id (claim kind token clock.settled)
          (claim_id kind token clock.settled))

theorem openCall_opened (settings : CommandSettings) (clock : CallClock) (token : String)
    (rows : Requests) : Opened settings clock token rows
      (openCall settings clock token rows).1 (openCall settings clock token rows).2 := by
  unfold openCall
  split
  · next off => exact .disabled off
  · next on =>
    rw [Bool.not_eq_false] at on
    simp only
    split
    · next idle => exact .empty on idle
    · next request kind selected =>
      split
      · next foreign => exact .suppressed on selected foreign
      · next authorized =>
        rw [Bool.not_eq_false] at authorized
        split
        · next led =>
          obtain ⟨rfl, led⟩ := led
          exact .waiting on selected authorized (hasOlderContentLeader_iff.mp led)
        · next first =>
          apply Opened.claimed on selected authorized
          intro processing led
          exact first ⟨processing, hasOlderContentLeader_iff.mpr led⟩

end YTPipe.Telegram
