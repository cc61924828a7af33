import Mathlib.Data.List.Nodup
import YTPipe.Telegram.Intake

/-!
# From Telegram to the rows

Telegram's updates, the loop `_intake_loop` of the listener with its offset, and
the API's requests between their transactions, in any order. Updates arrive with
growing ids; Telegram forgets only what an offset has confirmed.
-/

namespace YTPipe.Telegram

/-- The transactions of a request to the API. -/
inductive Handler
  | received
  | inserting (verdict : Except YouTubeURLValidationError YoutubeVideoId)
  | conflicted
  | flushed (row : TelegramCommandRequest)
  | answered (answer : Except HttpError TelegramCommandIntakeResponse)
  /-- The API went down; an open transaction is rolled back. -/
  | gone

def IntakeOpening.handler : IntakeOpening → Handler
  | .answered answer => .answered answer
  | .inserting verdict => .inserting verdict

structure Flight where
  request : TelegramCommandIntakeRequest
  handler : Handler

/-- A batch in `process_update_batch`, with `next_offset`. -/
structure Batch where
  rest : List Update
  next : Option Int
  /-- The request about the first update whose answer is awaited. -/
  waiting : Option Nat

/-- A listener process. -/
structure Life where
  number : Nat
  offset : Option Int
  batch : Option Batch

structure IntakeWorld where
  arrived : List Update
  /-- The largest offset Telegram was asked with. -/
  confirmed : Option Int
  /-- The updates for which `handle_update` has returned true. -/
  handled : List Update
  rows : CommandRows
  flights : Nat → Option Flight
  life : Option Life
  lives : Nat

def IntakeWorld.start (rows : CommandRows) : IntakeWorld :=
  ⟨[], none, [], rows, fun _ => none, none, 0⟩

/-- `update_id < offset`. -/
def Below (offset : Option Int) (id : Int) : Prop := ∃ o, offset = some o ∧ id < o

/-- An offset that does not fall behind another. -/
def Reaches (offset offset' : Option Int) : Prop :=
  ∀ o, offset = some o → ∃ o', offset' = some o' ∧ o ≤ o'

def furthest : Option Int → Option Int → Option Int
  | none, b => b
  | a, none => a
  | some a, some b => some (max a b)

/-- What `getUpdates` may return: updates that have arrived, without a gap among
those that are not confirmed. -/
structure Delivered (w : IntakeWorld) (offset : Option Int) (updates : List Update) : Prop where
  arrived : ∀ u ∈ updates, u ∈ w.arrived
  inOrder : ∀ u ∈ updates, ∀ v ∈ w.arrived, v.updateId < u.updateId →
    ¬ Below (furthest w.confirmed offset) v.updateId → v ∈ updates

/-- `sorted(updates, key=...)`. -/
def sortUpdates (updates : List Update) : List Update :=
  updates.mergeSort fun u v => decide (u.updateId ≤ v.updateId)

def IntakeWorld.setFlight (w : IntakeWorld) (n : Nat) (flight : Flight) : IntakeWorld :=
  { w with flights := fun m => if m = n then some flight else w.flights m }

/-- The first update is done with. -/
def Life.passes (life : Life) (u : Update) (rest : List Update) : Life :=
  { life with batch := some ⟨rest, some (u.updateId + 1), none⟩ }

/-- `process_update_batch` returns. -/
def Life.returns (life : Life) (next : Option Int) : Life :=
  { life with offset := next, batch := none }

/-- What the listener does once it has heard of its request. -/
def IntakeWorld.hears (w : IntakeWorld) (life : Life) (u : Update) (rest : List Update)
    (next : Option Int) (handling : Handling) : IntakeWorld :=
  if handling.handled then
    { w with handled := w.handled ++ [u], life := some (life.passes u rest) }
  else { w with life := if handling.fatal then none else some (life.returns next) }

/-- `record_telegram_acknowledgment`. -/
def TelegramCommandRequest.acknowledge (now : Time) (messageId : Option Int)
    (r : TelegramCommandRequest) : TelegramCommandRequest :=
  if r.acknowledgedAt = none then
    { r with acknowledgedAt := some now, acknowledgmentMessageId := messageId }
  else r

theorem acknowledge_updateId {now : Time} {messageId : Option Int} (r : TelegramCommandRequest) :
    (r.acknowledge now messageId).telegramUpdateId = r.telegramUpdateId := by
  unfold TelegramCommandRequest.acknowledge
  split <;> rfl

/-- The columns a request is told apart by. -/
structure SameIdentity (r r' : TelegramCommandRequest) : Prop where
  id : r'.id = r.id
  update : r'.telegramUpdateId = r.telegramUpdateId
  chat : r'.telegramChatId = r.telegramChatId
  user : r'.telegramUserId = r.telegramUserId
  message : r'.telegramMessageId = r.telegramMessageId
  url : r'.submittedUrl = r.submittedUrl
  video : r'.youtubeVideoId = r.youtubeVideoId

inductive Actor
  | telegram
  | listener
  | api
  | queue
  deriving DecidableEq, Repr

section

variable (tables : StringTables) (settings : IntakeSettings) (config : ListenerConfig)

inductive IntakeStep : IntakeWorld → Actor → IntakeWorld → Prop
  | arrive (w : IntakeWorld) (u : Update) (later : ∀ v ∈ w.arrived, v.updateId < u.updateId) :
      IntakeStep w .telegram { w with arrived := w.arrived ++ [u] }
  | start (w : IntakeWorld) (stopped : w.life = none) :
      IntakeStep w .listener
        { w with life := some ⟨w.lives, none, none⟩, lives := w.lives + 1 }
  | crash (w : IntakeWorld) : IntakeStep w .listener { w with life := none }
  /-- `getUpdates` confirms what is below the offset, whether its answer arrives or not. -/
  | poll (w : IntakeWorld) (life : Life) (updates : List Update) (alive : w.life = some life)
      (idle : life.batch = none) (delivered : Delivered w life.offset updates) :
      IntakeStep w .listener
        { w with
          confirmed := furthest w.confirmed life.offset
          life := some { life with batch := some ⟨sortUpdates updates, life.offset, none⟩ } }
  | pollLost (w : IntakeWorld) (life : Life) (alive : w.life = some life)
      (idle : life.batch = none) :
      IntakeStep w .listener { w with confirmed := furthest w.confirmed life.offset }
  | skip (w : IntakeWorld) (life : Life) (u : Update) (rest : List Update) (next : Option Int)
      (alive : w.life = some life) (turn : life.batch = some ⟨u :: rest, next, none⟩)
      (old : Below next u.updateId) :
      IntakeStep w .listener { w with life := some { life with batch := some ⟨rest, next, none⟩ } }
  | ignore (w : IntakeWorld) (life : Life) (u : Update) (rest : List Update) (next : Option Int)
      (alive : w.life = some life) (turn : life.batch = some ⟨u :: rest, next, none⟩)
      (new : ¬ Below next u.updateId) (foreign : openUpdate tables config u = .handled) :
      IntakeStep w .listener
        { w with handled := w.handled ++ [u], life := some (life.passes u rest) }
  | submit (w : IntakeWorld) (life : Life) (u : Update) (rest : List Update) (next : Option Int)
      (request : TelegramCommandIntakeRequest) (n : Nat) (alive : w.life = some life)
      (turn : life.batch = some ⟨u :: rest, next, none⟩) (new : ¬ Below next u.updateId)
      (own : openUpdate tables config u = .submits request) (unused : w.flights n = none) :
      IntakeStep w .listener
        { w.setFlight n ⟨request, .received⟩ with
          life := some { life with batch := some ⟨u :: rest, next, some n⟩ } }
  | hear (w : IntakeWorld) (life : Life) (u : Update) (rest : List Update) (next : Option Int)
      (n : Nat) (request : TelegramCommandIntakeRequest)
      (answer : Except HttpError TelegramCommandIntakeResponse) (alive : w.life = some life)
      (turn : life.batch = some ⟨u :: rest, next, some n⟩)
      (flight : w.flights n = some ⟨request, .answered answer⟩) :
      IntakeStep w .listener
        (w.hears life u rest next (closeUpdate (submitCommand (.answered answer))))
  /-- The request times out, fails on its way or is refused before the route. -/
  | lose (w : IntakeWorld) (life : Life) (u : Update) (rest : List Update) (next : Option Int)
      (n : Nat) (error : LocalApiError) (alive : w.life = some life)
      (turn : life.batch = some ⟨u :: rest, next, some n⟩)
      (reason : error.statusCode ≠ some 409) :
      IntakeStep w .listener (w.hears life u rest next (closeUpdate (.error error)))
  | done (w : IntakeWorld) (life : Life) (next : Option Int) (alive : w.life = some life)
      (turn : life.batch = some ⟨[], next, none⟩) :
      IntakeStep w .listener { w with life := some (life.returns next) }
  /-- A request of somebody else, such as a second copy. -/
  | call (w : IntakeWorld) (request : TelegramCommandIntakeRequest) (n : Nat)
      (unused : w.flights n = none) :
      IntakeStep w .api (w.setFlight n ⟨request, .received⟩)
  | select (w : IntakeWorld) (n : Nat) (request : TelegramCommandIntakeRequest)
      (flight : w.flights n = some ⟨request, .received⟩) :
      IntakeStep w .api
        (w.setFlight n ⟨request, (openIntake tables settings request w.rows).handler⟩)
  /-- The insert waits while another transaction holds the key. -/
  | flush (w : IntakeWorld) (n : Nat) (request : TelegramCommandIntakeRequest)
      (verdict : Except YouTubeURLValidationError YoutubeVideoId) (id : Int) (now : Time)
      (flight : w.flights n = some ⟨request, .inserting verdict⟩)
      (free : w.rows.get request.telegramUpdateId = none)
      (unlocked : ∀ m other row, w.flights m = some ⟨other, .flushed row⟩ →
        row.telegramUpdateId ≠ request.telegramUpdateId) :
      IntakeStep w .api (w.setFlight n ⟨request, .flushed (newRequest id now request verdict)⟩)
  | conflict (w : IntakeWorld) (n : Nat) (request : TelegramCommandIntakeRequest)
      (verdict : Except YouTubeURLValidationError YoutubeVideoId) (existing : TelegramCommandRequest)
      (flight : w.flights n = some ⟨request, .inserting verdict⟩)
      (taken : w.rows.get request.telegramUpdateId = some existing) :
      IntakeStep w .api (w.setFlight n ⟨request, .conflicted⟩)
  | reread (w : IntakeWorld) (n : Nat) (request : TelegramCommandIntakeRequest)
      (flight : w.flights n = some ⟨request, .conflicted⟩) :
      IntakeStep w .api (w.setFlight n ⟨request, .answered (answerConflict request w.rows)⟩)
  | commit (w : IntakeWorld) (n : Nat) (request : TelegramCommandIntakeRequest)
      (row : TelegramCommandRequest) (rows : CommandRows)
      (flight : w.flights n = some ⟨request, .flushed row⟩) (inserted : w.rows.insert row = some rows) :
      IntakeStep w .api
        { w.setFlight n ⟨request, .answered (.ok (newResponse row))⟩ with rows := rows }
  | die (w : IntakeWorld) (n : Nat) (flight : Flight) (there : w.flights n = some flight) :
      IntakeStep w .api (w.setFlight n ⟨flight.request, .gone⟩)
  | acknowledge (w : IntakeWorld) (updateId : Int) (now : Time) (messageId : Option Int) :
      IntakeStep w .api
        { w with
          rows := w.rows.alter updateId (·.acknowledge now messageId) acknowledge_updateId }
  /-- A transaction of the queue. -/
  | work (w : IntakeWorld) (updateId : Int) (f : TelegramCommandRequest → TelegramCommandRequest)
      (same : ∀ r, SameIdentity r (f r)) :
      IntakeStep w .queue { w with rows := w.rows.alter updateId f fun r => (same r).update }

inductive IntakeRun (w : IntakeWorld) : IntakeWorld → Prop
  | refl : IntakeRun w w
  | step {w' w'' : IntakeWorld} {actor : Actor} (before : IntakeRun w w')
      (step : IntakeStep tables settings config w' actor w'') : IntakeRun w w''

end

/-! Offsets. -/

theorem Reaches.refl (offset : Option Int) : Reaches offset offset := fun o h => ⟨o, h, Int.le_refl o⟩

theorem Reaches.trans {a b c : Option Int} (h : Reaches a b) (h' : Reaches b c) : Reaches a c := by
  intro o at_
  obtain ⟨o', at', le⟩ := h o at_
  obtain ⟨o'', at'', le'⟩ := h' o' at'
  exact ⟨o'', at'', Int.le_trans le le'⟩

/-- An update that is not old moves the offset forward. -/
theorem reaches_next {next : Option Int} {id : Int} (new : ¬ Below next id) :
    Reaches next (some (id + 1)) := by
  rintro o rfl
  refine ⟨id + 1, rfl, ?_⟩
  have : ¬ id < o := fun less => new ⟨o, rfl, less⟩
  omega

theorem below_furthest {a b : Option Int} {id : Int} (h : Below (furthest a b) id) :
    Below a id ∨ Below b id := by
  obtain ⟨o, at_, less⟩ := h
  cases a with
  | none =>
    cases b with
    | none => cases at_
    | some b => exact .inr ⟨o, at_, less⟩
  | some a =>
    cases b with
    | none => exact .inl ⟨o, at_, less⟩
    | some b =>
      obtain rfl := Option.some.inj at_
      by_cases first : id < a
      · exact .inl ⟨a, rfl, first⟩
      · exact .inr ⟨b, rfl, by omega⟩

/-- An offset that has passed nothing but what was handled. -/
structure Covered (w : IntakeWorld) (offset : Option Int) : Prop where
  handled : ∀ u ∈ w.arrived, Below offset u.updateId → u ∈ w.handled
  /-- An offset follows an update that has arrived. -/
  anchored : ∀ o, offset = some o → ∃ v ∈ w.arrived, o ≤ v.updateId + 1

theorem covered_none (w : IntakeWorld) : Covered w none where
  handled _ _ below := by
    obtain ⟨o, impossible, _⟩ := below
    cases impossible
  anchored _ impossible := by cases impossible

theorem Covered.furthest {w : IntakeWorld} {a b : Option Int} (h : Covered w a) (h' : Covered w b) :
    Covered w (furthest a b) where
  handled u there below := (below_furthest below).elim (h.handled u there) (h'.handled u there)
  anchored o at_ := by
    cases a with
    | none => exact h'.anchored o at_
    | some a =>
      cases b with
      | none => exact h.anchored o at_
      | some b =>
        obtain rfl := Option.some.inj at_
        obtain ⟨u, there, le⟩ := h.anchored a rfl
        obtain ⟨v, there', le'⟩ := h'.anchored b rfl
        by_cases less : a ≤ b
        · exact ⟨v, there', by omega⟩
        · exact ⟨u, there, by omega⟩

theorem Covered.mono {w w' : IntakeWorld} {offset : Option Int} (h : Covered w offset)
    (arrived : w'.arrived = w.arrived) (handled : ∀ u ∈ w.handled, u ∈ w'.handled) :
    Covered w' offset where
  handled u there below := handled u (h.handled u (arrived ▸ there) below)
  anchored o at_ := arrived ▸ h.anchored o at_

/-- No offset has passed an update that arrives now. -/
theorem Covered.arrive {w : IntakeWorld} {offset : Option Int} {u : Update} (h : Covered w offset)
    (later : ∀ v ∈ w.arrived, v.updateId < u.updateId) :
    Covered { w with arrived := w.arrived ++ [u] } offset where
  handled v there below := by
    rcases List.mem_append.mp there with there | new
    · exact h.handled v there below
    · obtain rfl := List.mem_singleton.mp new
      obtain ⟨o, at_, less⟩ := below
      obtain ⟨x, arrived, le⟩ := h.anchored o at_
      have := later x arrived
      omega
  anchored o at_ := by
    obtain ⟨v, there, le⟩ := h.anchored o at_
    exact ⟨v, List.mem_append_left _ there, le⟩

/-! What holds in every state. -/

section

variable (tables : StringTables) (config : ListenerConfig)

/-- What the handling of a request guarantees. -/
def Handler.Honest (rows : CommandRows) (updateId : Int) : Handler → Prop
  | .flushed row => row.telegramUpdateId = updateId
  | .answered (.ok _) => ∃ r, rows.get updateId = some r
  | .answered (.error error) => error.status ≠ 409
  | _ => True

/-- A batch on its way. -/
structure Current (w : IntakeWorld) (offset : Option Int) (batch : Batch) : Prop where
  arrived : ∀ u ∈ batch.rest, u ∈ w.arrived
  sorted : batch.rest.Pairwise fun u v => u.updateId ≤ v.updateId
  /-- What stands before an update of the batch is handled or still to come. -/
  complete : ∀ v ∈ batch.rest, ∀ u ∈ w.arrived, u.updateId < v.updateId →
    u ∈ w.handled ∨ u ∈ batch.rest
  covered : Covered w batch.next
  ahead : Reaches offset batch.next
  waiting : ∀ n, batch.waiting = some n → ∃ u rest flight, batch.rest = u :: rest
    ∧ openUpdate tables config u = .submits flight.request ∧ ¬ Below batch.next u.updateId
    ∧ w.flights n = some flight

structure Vital (w : IntakeWorld) (life : Life) : Prop where
  covered : Covered w life.offset
  batch : ∀ batch, life.batch = some batch → Current tables config w life.offset batch
  numbered : life.number < w.lives

structure Accounted (w : IntakeWorld) : Prop where
  ordered : w.arrived.Pairwise fun u v => u.updateId < v.updateId
  stored : ∀ u ∈ w.handled, ∀ request, openUpdate tables config u = .submits request →
    ∃ r, w.rows.get u.updateId = some r
  confirmed : Covered w w.confirmed
  honest : ∀ n flight, w.flights n = some flight →
    flight.handler.Honest w.rows flight.request.telegramUpdateId
  vital : ∀ life, w.life = some life → Vital tables config w life

end

section

variable {tables : StringTables} {settings : IntakeSettings} {config : ListenerConfig}

/-- Nothing is forgotten on the way to another state. -/
structure Keeps (w w' : IntakeWorld) : Prop where
  arrived : w'.arrived = w.arrived
  handled : ∀ u ∈ w.handled, u ∈ w'.handled
  rows : ∀ k r, w.rows.get k = some r → ∃ r', w'.rows.get k = some r'
  flights : ∀ n flight, w.flights n = some flight →
    ∃ flight', w'.flights n = some flight' ∧ flight'.request = flight.request
  lives : w.lives ≤ w'.lives

theorem Current.mono {w w' : IntakeWorld} {offset : Option Int} {batch : Batch}
    (h : Current tables config w offset batch) (keeps : Keeps w w') :
    Current tables config w' offset batch where
  arrived u there := keeps.arrived ▸ h.arrived u there
  sorted := h.sorted
  complete v there u arrived less :=
    (h.complete v there u (keeps.arrived ▸ arrived) less).imp_left (keeps.handled u)
  covered := h.covered.mono keeps.arrived keeps.handled
  ahead := h.ahead
  waiting n waits := by
    obtain ⟨u, rest, flight, first, own, new, there⟩ := h.waiting n waits
    obtain ⟨flight', there', same⟩ := keeps.flights n flight there
    exact ⟨u, rest, flight', first, same ▸ own, new, there'⟩

theorem Vital.mono {w w' : IntakeWorld} {life : Life} (h : Vital tables config w life)
    (keeps : Keeps w w') : Vital tables config w' life where
  covered := h.covered.mono keeps.arrived keeps.handled
  batch batch there := (h.batch batch there).mono keeps
  numbered := Nat.lt_of_lt_of_le h.numbered keeps.lives

theorem Handler.Honest.mono {rows rows' : CommandRows} {updateId : Int} {handler : Handler}
    (h : handler.Honest rows updateId)
    (kept : ∀ k r, rows.get k = some r → ∃ r', rows'.get k = some r') :
    handler.Honest rows' updateId := by
  unfold Handler.Honest at h ⊢
  split
  · exact h
  · obtain ⟨r, there⟩ := h
    exact kept _ r there
  · exact h
  · trivial

/-- A step of the API or the queue. -/
theorem Accounted.api {w w' : IntakeWorld} (h : Accounted tables config w) (keeps : Keeps w w')
    (handled : w'.handled = w.handled) (confirmed : w'.confirmed = w.confirmed)
    (life : w'.life = w.life)
    (honest : ∀ n flight, w'.flights n = some flight →
      flight.handler.Honest w'.rows flight.request.telegramUpdateId) :
    Accounted tables config w' where
  ordered := keeps.arrived ▸ h.ordered
  stored u there request own := by
    obtain ⟨r, row⟩ := h.stored u (handled ▸ there) request own
    exact keeps.rows _ r row
  confirmed := confirmed ▸ h.confirmed.mono keeps.arrived keeps.handled
  honest := honest
  vital l alive := (h.vital l (life ▸ alive)).mono keeps

theorem setFlight_keeps {w : IntakeWorld} {n : Nat} {flight : Flight}
    (same : ∀ old, w.flights n = some old → flight.request = old.request) :
    Keeps w (w.setFlight n flight) where
  arrived := rfl
  handled _ there := there
  rows _ r row := ⟨r, row⟩
  flights m old there := by
    by_cases here : m = n
    · subst here
      exact ⟨flight, if_pos rfl, same old there⟩
    · exact ⟨old, (if_neg here).trans there, rfl⟩
  lives := Nat.le_refl _

theorem setFlight_honest {w : IntakeWorld} {n : Nat} {flight : Flight}
    (h : Accounted tables config w)
    (honest : flight.handler.Honest w.rows flight.request.telegramUpdateId) :
    ∀ m other, (w.setFlight n flight).flights m = some other →
      other.handler.Honest w.rows other.request.telegramUpdateId := by
  intro m other there
  by_cases here : m = n
  · rw [show (w.setFlight n flight).flights m = some flight from if_pos here] at there
    cases there
    exact honest
  · exact h.honest m other ((if_neg here).symm.trans there)

theorem Accounted.setFlight {w : IntakeWorld} {n : Nat} {flight : Flight}
    (h : Accounted tables config w)
    (same : ∀ old, w.flights n = some old → flight.request = old.request)
    (honest : flight.handler.Honest w.rows flight.request.telegramUpdateId) :
    Accounted tables config (w.setFlight n flight) :=
  h.api (setFlight_keeps same) rfl rfl rfl (setFlight_honest h honest)

/-- A step that changes rows and leaves the requests where they are. -/
theorem Accounted.setRows {w : IntakeWorld} {rows : CommandRows} (h : Accounted tables config w)
    (kept : ∀ k r, w.rows.get k = some r → ∃ r', rows.get k = some r') :
    Accounted tables config { w with rows := rows } :=
  h.api ⟨rfl, fun _ there => there, kept, fun _ flight there => ⟨flight, there, rfl⟩, Nat.le_refl _⟩
    rfl rfl rfl fun _ flight there => (h.honest _ flight there).mono kept

theorem authorize_status {request : TelegramCommandIntakeRequest} {error : HttpError}
    (h : authorizeRequest settings request = .error error) : error.status ≠ 409 := by
  unfold authorizeRequest at h
  split at h
  · split at h
    · cases h
      decide
    · cases h
  · cases h
    decide

theorem openIntake_honest {request : TelegramCommandIntakeRequest} {rows : CommandRows}
    (enabled : settings.telegramCommandsEnabled = true) :
    Handler.Honest rows request.telegramUpdateId
      (openIntake tables settings request rows).handler := by
  unfold openIntake
  split
  · exact (by decide : (422 : Nat) ≠ 409)
  rw [if_neg (by simp [enabled])]
  split
  · next existing found => exact ⟨existing, found⟩
  · cases authorized : authorizeRequest settings request with
    | error error => exact authorize_status authorized
    | ok =>
      dsimp only
      split
      · exact (by decide : (422 : Nat) ≠ 409)
      · trivial

theorem answerConflict_honest {request : TelegramCommandIntakeRequest} {rows : CommandRows} :
    Handler.Honest rows request.telegramUpdateId (.answered (answerConflict request rows)) := by
  unfold answerConflict
  split
  · next existing found => exact ⟨existing, found⟩
  · exact (by decide : (500 : Nat) ≠ 409)

theorem alter_kept {rows : CommandRows} {updateId : Int}
    {f : TelegramCommandRequest → TelegramCommandRequest}
    (keeps : ∀ r, (f r).telegramUpdateId = r.telegramUpdateId) :
    ∀ k r, rows.get k = some r → ∃ r', (rows.alter updateId f keeps).get k = some r' := by
  intro k r row
  rw [Table.get_alter, row]
  by_cases here : k = updateId
  · exact ⟨f r, if_pos here⟩
  · exact ⟨r, if_neg here⟩

theorem insert_kept {rows rows' : CommandRows} {row : TelegramCommandRequest}
    (inserted : rows.insert row = some rows') :
    ∀ k r, rows.get k = some r → rows'.get k = some r := by
  intro k r there
  rw [Table.get_insert inserted, if_neg]
  · exact there
  · rintro rfl
    rw [Table.absent_of_insert inserted] at there
    cases there

theorem Accounted.commit {w : IntakeWorld} {n : Nat} {request : TelegramCommandIntakeRequest}
    {row : TelegramCommandRequest} {rows : CommandRows} (h : Accounted tables config w)
    (flight : w.flights n = some ⟨request, .flushed row⟩) (inserted : w.rows.insert row = some rows) :
    Accounted tables config
      { w.setFlight n ⟨request, .answered (.ok (newResponse row))⟩ with rows := rows } := by
  have stored : ∀ k r, w.rows.get k = some r → ∃ r', rows.get k = some r' :=
    fun k r there => ⟨r, insert_kept inserted k r there⟩
  have named : row.telegramUpdateId = request.telegramUpdateId := h.honest n _ flight
  have own : rows.get request.telegramUpdateId = some row := by
    rw [Table.get_insert inserted, if_pos named.symm]
  have kept : Keeps w (w.setFlight n ⟨request, .answered (.ok (newResponse row))⟩) :=
    setFlight_keeps fun old there => by
      rw [flight] at there
      cases there
      rfl
  have keeps : Keeps w
      { w.setFlight n ⟨request, .answered (.ok (newResponse row))⟩ with rows := rows } :=
    ⟨rfl, fun _ there => there, stored, kept.flights, Nat.le_refl _⟩
  refine h.api keeps rfl rfl rfl ?_
  intro m other there
  by_cases here : m = n
  · rw [show (w.setFlight n ⟨request, .answered (.ok (newResponse row))⟩).flights m
      = some ⟨request, .answered (.ok (newResponse row))⟩ from if_pos here] at there
    cases there
    exact ⟨row, own⟩
  · exact (h.honest m other ((if_neg here).symm.trans there)).mono stored

/-! The listener. -/

/-- An update that has arrived is told apart by its id. -/
theorem Accounted.same {w : IntakeWorld} (h : Accounted tables config w) {u v : Update}
    (there : u ∈ w.arrived) (there' : v ∈ w.arrived) (same : u.updateId = v.updateId) : u = v := by
  have ordered := h.ordered
  generalize w.arrived = arrived at there there' ordered
  induction arrived with
  | nil => cases there
  | cons first rest ih =>
    obtain ⟨before, ordered⟩ := List.pairwise_cons.mp ordered
    rcases List.mem_cons.mp there with rfl | back <;> rcases List.mem_cons.mp there' with rfl | back'
    · rfl
    · have := before v back'
      omega
    · have := before u back
      omega
    · exact ih back back' ordered

theorem Accounted.setLife {w : IntakeWorld} {life : Option Life} (h : Accounted tables config w)
    (vital : ∀ l, life = some l → Vital tables config w l) :
    Accounted tables config { w with life := life } where
  ordered := h.ordered
  stored := h.stored
  confirmed := h.confirmed.mono rfl fun _ there => there
  honest := h.honest
  vital l alive := (vital l alive).mono
    ⟨rfl, fun _ there => there, fun _ r row => ⟨r, row⟩, fun _ flight there => ⟨flight, there, rfl⟩,
      Nat.le_refl _⟩

theorem Accounted.confirm {w : IntakeWorld} {offset : Option Int} (h : Accounted tables config w)
    (covered : Covered w offset) :
    Accounted tables config { w with confirmed := furthest w.confirmed offset } where
  ordered := h.ordered
  stored := h.stored
  confirmed := (h.confirmed.furthest covered).mono rfl fun _ there => there
  honest := h.honest
  vital l alive := (h.vital l alive).mono
    ⟨rfl, fun _ there => there, fun _ r row => ⟨r, row⟩, fun _ flight there => ⟨flight, there, rfl⟩,
      Nat.le_refl _⟩

/-- The batch that was delivered, in the order of its ids. -/
theorem current_of_delivered {w : IntakeWorld} {offset : Option Int} {updates : List Update}
    (h : Accounted tables config w) (covered : Covered w offset)
    (delivered : Delivered w offset updates) :
    Current tables config w offset ⟨sortUpdates updates, offset, none⟩ where
  arrived u there := delivered.arrived u (List.mem_mergeSort.mp there)
  sorted := by
    have sorted : (sortUpdates updates).Pairwise fun u v => decide (u.updateId ≤ v.updateId) :=
      List.pairwise_mergeSort (by intro a b c; simp; omega) (by intro a b; simp; omega) updates
    exact sorted.imp fun le => by simpa using le
  complete v there u arrived less := by
    by_cases old : Below (furthest w.confirmed offset) u.updateId
    · exact .inl ((h.confirmed.furthest covered).handled u arrived old)
    · exact .inr (List.mem_mergeSort.mpr
        (delivered.inOrder v (List.mem_mergeSort.mp there) u arrived less old))
  covered := covered
  ahead := Reaches.refl offset
  waiting n waits := by cases waits

/-- The first update of a batch is done with; no earlier one is left. -/
theorem Accounted.passes {w : IntakeWorld} {life : Life} {u : Update} {rest : List Update}
    {next : Option Int} {waiting : Option Nat} (h : Accounted tables config w)
    (alive : w.life = some life) (turn : life.batch = some ⟨u :: rest, next, waiting⟩)
    (new : ¬ Below next u.updateId)
    (stored : ∀ request, openUpdate tables config u = .submits request →
      ∃ r, w.rows.get u.updateId = some r) :
    Accounted tables config
      { w with handled := w.handled ++ [u], life := some (life.passes u rest) } := by
  have vital := h.vital life alive
  have current := vital.batch _ turn
  have keeps : Keeps w { w with handled := w.handled ++ [u], life := some (life.passes u rest) } :=
    ⟨rfl, fun _ there => List.mem_append_left _ there, fun _ r row => ⟨r, row⟩,
      fun _ flight there => ⟨flight, there, rfl⟩, Nat.le_refl _⟩
  have here : u ∈ w.arrived := current.arrived u List.mem_cons_self
  obtain ⟨first, sorted⟩ := List.pairwise_cons.mp current.sorted
  refine ⟨h.ordered, ?_, h.confirmed.mono rfl keeps.handled, h.honest, ?_⟩
  · intro v there request own
    rcases List.mem_append.mp there with there | last
    · exact h.stored v there request own
    · obtain rfl := List.mem_singleton.mp last
      exact stored request own
  · rintro l ⟨rfl⟩
    refine ⟨vital.covered.mono rfl keeps.handled, ?_, vital.numbered⟩
    rintro batch ⟨rfl⟩
    refine ⟨fun v there => current.arrived v (List.mem_cons_of_mem _ there), sorted, ?_, ?_, ?_, ?_⟩
    · intro v there x arrived less
      rcases current.complete v (List.mem_cons_of_mem _ there) x arrived less with done | still
      · exact .inl (List.mem_append_left _ done)
      · rcases List.mem_cons.mp still with rfl | later
        · exact .inl (List.mem_append_right _ (List.mem_singleton.mpr rfl))
        · exact .inr later
    · refine ⟨?_, fun o at_ => ⟨u, here, by cases at_; exact Int.le_refl _⟩⟩
      rintro x arrived ⟨o, ⟨rfl⟩, less⟩
      by_cases same : x.updateId = u.updateId
      · rw [h.same arrived here same]
        exact List.mem_append_right _ (List.mem_singleton.mpr rfl)
      · have before : x.updateId < u.updateId := by omega
        rcases current.complete u List.mem_cons_self x arrived before with done | still
        · exact List.mem_append_left _ done
        · rcases List.mem_cons.mp still with rfl | later
          · exact absurd rfl same
          · have := first x later
            omega
    · exact (current.ahead).trans (reaches_next new)
    · intro n waits
      cases waits

theorem Accounted.returns {w : IntakeWorld} {life : Life} {batch : Batch}
    (h : Accounted tables config w) (alive : w.life = some life) (turn : life.batch = some batch) :
    Accounted tables config { w with life := some (life.returns batch.next) } := by
  have vital := h.vital life alive
  apply h.setLife
  rintro l ⟨rfl⟩
  exact ⟨(vital.batch batch turn).covered, fun _ none_ => (nomatch none_), vital.numbered⟩

/-- The listener hears of its request: a row stands behind every update it passes. -/
theorem Accounted.hears {w : IntakeWorld} {life : Life} {u : Update} {rest : List Update}
    {next : Option Int} {n : Nat} {handling : Handling} (h : Accounted tables config w)
    (alive : w.life = some life) (turn : life.batch = some ⟨u :: rest, next, some n⟩)
    (stored : handling.handled = true → ∃ r, w.rows.get u.updateId = some r) :
    Accounted tables config (w.hears life u rest next handling) := by
  obtain ⟨u', rest', flight, first, -, new, -⟩ :=
    ((h.vital life alive).batch _ turn).waiting n rfl
  cases first
  unfold IntakeWorld.hears
  split
  · next handled => exact h.passes alive turn new fun _ _ => stored handled
  · split
    · exact h.setLife fun _ none_ => (nomatch none_)
    · exact h.returns alive turn

/-- The request a listener waits for is about the first update of its batch. -/
theorem Accounted.stored_of_answer {w : IntakeWorld} {life : Life} {u : Update}
    {rest : List Update} {next : Option Int} {n : Nat} {request : TelegramCommandIntakeRequest}
    {answer : Except HttpError TelegramCommandIntakeResponse} (h : Accounted tables config w)
    (alive : w.life = some life) (turn : life.batch = some ⟨u :: rest, next, some n⟩)
    (flight : w.flights n = some ⟨request, .answered answer⟩)
    (handled : (closeUpdate (submitCommand (.answered answer))).handled = true) :
    ∃ r, w.rows.get u.updateId = some r := by
  obtain ⟨u', rest', flight', first, own, -, there⟩ :=
    ((h.vital life alive).batch _ turn).waiting n rfl
  cases first
  rw [flight] at there
  cases there
  have honest := h.honest n _ flight
  rw [← (passes_of_openUpdate own).1]
  cases answer with
  | ok response => exact honest
  | error error =>
    have other : error.status ≠ 409 := honest
    have refused : (closeUpdate (submitCommand (.answered (.error error)))).handled = false := by
      simp [submitCommand, closeUpdate, other]
    rw [refused] at handled
    cases handled

theorem Accounted.submit {w : IntakeWorld} {life : Life} {u : Update} {rest : List Update}
    {next : Option Int} {request : TelegramCommandIntakeRequest} {n : Nat}
    (h : Accounted tables config w) (alive : w.life = some life)
    (turn : life.batch = some ⟨u :: rest, next, none⟩) (new : ¬ Below next u.updateId)
    (own : openUpdate tables config u = .submits request) (unused : w.flights n = none) :
    Accounted tables config
      { w.setFlight n ⟨request, .received⟩ with
        life := some { life with batch := some ⟨u :: rest, next, some n⟩ } } := by
  have launched : Accounted tables config (w.setFlight n ⟨request, .received⟩) :=
    h.setFlight (fun old there => by rw [unused] at there; cases there) trivial
  have vital := launched.vital life alive
  have current := vital.batch _ turn
  apply launched.setLife
  rintro l ⟨rfl⟩
  refine ⟨vital.covered, ?_, vital.numbered⟩
  rintro batch ⟨rfl⟩
  refine { current with waiting := ?_ }
  rintro m ⟨rfl⟩
  exact ⟨u, rest, ⟨request, .received⟩, rfl, own, new, if_pos rfl⟩

theorem Accounted.arrive {w : IntakeWorld} {u : Update} (h : Accounted tables config w)
    (later : ∀ v ∈ w.arrived, v.updateId < u.updateId) :
    Accounted tables config { w with arrived := w.arrived ++ [u] } where
  ordered := by
    rw [List.pairwise_append]
    refine ⟨h.ordered, List.pairwise_singleton _ _, ?_⟩
    intro v there x last
    obtain rfl := List.mem_singleton.mp last
    exact later v there
  stored := h.stored
  confirmed := h.confirmed.arrive later
  honest := h.honest
  vital life alive := by
    have vital := h.vital life alive
    refine ⟨vital.covered.arrive later, ?_, vital.numbered⟩
    intro batch there
    have current := vital.batch batch there
    refine { current with
      arrived := fun v inBatch => List.mem_append_left _ (current.arrived v inBatch)
      complete := ?_
      covered := current.covered.arrive later }
    intro v inBatch x arrived less
    rcases List.mem_append.mp arrived with arrived | last
    · exact current.complete v inBatch x arrived less
    · obtain rfl := List.mem_singleton.mp last
      have := later v (current.arrived v inBatch)
      omega

theorem step_accounted (enabled : settings.telegramCommandsEnabled = true) {w w' : IntakeWorld}
    {actor : Actor} (step : IntakeStep tables settings config w actor w')
    (h : Accounted tables config w) : Accounted tables config w' := by
  cases step with
  | arrive u later => exact h.arrive later
  | start stopped =>
    refine ⟨h.ordered, h.stored, h.confirmed.mono rfl fun _ there => there, h.honest, ?_⟩
    rintro l ⟨rfl⟩
    exact ⟨covered_none _, fun _ none_ => (nomatch none_), Nat.lt_succ_self _⟩
  | crash => exact h.setLife fun _ none_ => (nomatch none_)
  | poll life updates alive idle delivered =>
    have vital := h.vital life alive
    have current := current_of_delivered h vital.covered delivered
    have confirmed := h.confirm vital.covered
    apply confirmed.setLife
    rintro l ⟨rfl⟩
    have same := (confirmed.vital life alive)
    refine ⟨same.covered, ?_, same.numbered⟩
    rintro batch ⟨rfl⟩
    exact current.mono ⟨rfl, fun _ there => there, fun _ r row => ⟨r, row⟩,
      fun _ flight there => ⟨flight, there, rfl⟩, Nat.le_refl _⟩
  | pollLost life alive idle => exact h.confirm (h.vital life alive).covered
  | skip life u rest next alive turn old =>
    have vital := h.vital life alive
    have current := vital.batch _ turn
    apply h.setLife
    rintro l ⟨rfl⟩
    refine ⟨vital.covered, ?_, vital.numbered⟩
    rintro batch ⟨rfl⟩
    have handled := current.covered.handled u (current.arrived u List.mem_cons_self) old
    refine ⟨fun v there => current.arrived v (List.mem_cons_of_mem _ there),
      (List.pairwise_cons.mp current.sorted).2, ?_, current.covered, current.ahead,
      fun _ waits => (nomatch waits)⟩
    intro v there x arrived less
    rcases current.complete v (List.mem_cons_of_mem _ there) x arrived less with done | still
    · exact .inl done
    · rcases List.mem_cons.mp still with rfl | later
      · exact .inl handled
      · exact .inr later
  | ignore life u rest next alive turn new foreign =>
    apply h.passes alive turn new
    intro request own
    rw [foreign] at own
    cases own
  | submit life u rest next request n alive turn new own unused =>
    exact h.submit alive turn new own unused
  | hear life u rest next n request answer alive turn flight =>
    exact h.hears alive turn (h.stored_of_answer alive turn flight)
  | lose life u rest next n error alive turn reason =>
    apply h.hears alive turn
    intro handled
    simp [closeUpdate, reason] at handled
  | done life next alive turn => exact h.returns alive turn
  | call request n unused =>
    exact h.setFlight (fun old there => by rw [unused] at there; cases there) trivial
  | select n request flight =>
    exact h.setFlight (fun old there => by rw [flight] at there; cases there; rfl)
      (openIntake_honest enabled)
  | flush n request verdict id now flight free unlocked =>
    exact h.setFlight (fun old there => by rw [flight] at there; cases there; rfl) rfl
  | conflict n request verdict existing flight taken =>
    exact h.setFlight (fun old there => by rw [flight] at there; cases there; rfl) trivial
  | reread n request flight =>
    exact h.setFlight (fun old there => by rw [flight] at there; cases there; rfl)
      answerConflict_honest
  | commit n request row rows flight inserted => exact h.commit flight inserted
  | die n flight there =>
    exact h.setFlight (fun old there' => by rw [there] at there'; cases there'; rfl) trivial
  | acknowledge updateId now messageId => exact h.setRows (alter_kept acknowledge_updateId)
  | work updateId f same => exact h.setRows (alter_kept fun r => (same r).update)

theorem start_accounted (rows : CommandRows) : Accounted tables config (.start rows) where
  ordered := List.Pairwise.nil
  stored _ there := (nomatch there)
  confirmed := covered_none _
  honest _ _ there := (nomatch there)
  vital _ alive := (nomatch alive)

theorem run_accounted (enabled : settings.telegramCommandsEnabled = true) {w w' : IntakeWorld}
    (run : IntakeRun tables settings config w w') (h : Accounted tables config w) :
    Accounted tables config w' := by
  induction run with
  | refl => exact h
  | step _ step ih => exact step_accounted enabled step ih

/-! The offset of a life. -/

theorem hears_life {w : IntakeWorld} {life l' : Life} {u : Update} {rest : List Update}
    {next : Option Int} {handling : Handling} (ahead : Reaches life.offset next)
    (alive : (w.hears life u rest next handling).life = some l') :
    l'.number = life.number ∧ Reaches life.offset l'.offset := by
  unfold IntakeWorld.hears at alive
  split at alive
  · cases alive
    exact ⟨rfl, Reaches.refl _⟩
  · dsimp only at alive
    split at alive
    · cases alive
    · cases alive
      exact ⟨rfl, ahead⟩

theorem step_lives {w w' : IntakeWorld} {actor : Actor}
    (step : IntakeStep tables settings config w actor w') : w.lives ≤ w'.lives := by
  cases step with
  | start stopped => exact Nat.le_succ _
  | hear | lose =>
    unfold IntakeWorld.hears
    split <;> exact Nat.le_refl _
  | arrive | crash | poll | pollLost | skip | ignore | submit | done | call | select | flush
  | conflict | reread | commit | die | acknowledge | work => exact Nat.le_refl _

/-- A listener that is there after a step was there before, with no larger offset,
or has just started. -/
theorem step_life {w w' : IntakeWorld} {actor : Actor} {l' : Life}
    (step : IntakeStep tables settings config w actor w') (h : Accounted tables config w)
    (alive' : w'.life = some l') : l'.number = w.lives
      ∨ ∃ l, w.life = some l ∧ l'.number = l.number ∧ Reaches l.offset l'.offset := by
  cases step with
  | start stopped =>
    cases alive'
    exact .inl rfl
  | crash => cases alive'
  | poll life updates alive | skip life u rest next alive | ignore life u rest next alive
  | submit life u rest next request n alive =>
    cases alive'
    exact .inr ⟨life, alive, rfl, Reaches.refl _⟩
  | hear life u rest next n request answer alive turn
  | lose life u rest next n error alive turn =>
    exact .inr ⟨life, alive, hears_life ((h.vital life alive).batch _ turn).ahead alive'⟩
  | done life next alive turn =>
    cases alive'
    exact .inr ⟨life, alive, rfl, ((h.vital life alive).batch _ turn).ahead⟩
  | arrive | pollLost | call | select | flush | conflict | reread | commit | die | acknowledge | work =>
    exact .inr ⟨l', alive', rfl, Reaches.refl _⟩

/-- Within a life the offset never goes back. -/
theorem run_life (enabled : settings.telegramCommandsEnabled = true) {w w' : IntakeWorld} {l : Life}
    (run : IntakeRun tables settings config w w') (h : Accounted tables config w)
    (alive : w.life = some l) : w.lives ≤ w'.lives ∧ ∀ l', w'.life = some l' →
      l'.number = l.number → Reaches l.offset l'.offset := by
  induction run with
  | refl =>
    refine ⟨Nat.le_refl _, ?_⟩
    intro l' alive' _
    rw [alive] at alive'
    cases alive'
    exact Reaches.refl _
  | step before step ih =>
    obtain ⟨lives, reaches⟩ := ih
    refine ⟨Nat.le_trans lives (step_lives step), ?_⟩
    intro l'' alive'' number
    rcases step_life step (run_accounted enabled before h) alive'' with started | ⟨l', alive', same, le⟩
    · have := (h.vital l alive).numbered
      omega
    · exact (reaches l' alive' (same.symm.trans number)).trans le

/-! Rows. -/

/-- The same row, save for its acknowledgment. -/
def SameRequest (r r' : TelegramCommandRequest) : Prop :=
  r' = { r with
    acknowledgedAt := r'.acknowledgedAt, acknowledgmentMessageId := r'.acknowledgmentMessageId }

theorem SameRequest.refl (r : TelegramCommandRequest) : SameRequest r r := rfl

theorem SameRequest.identity {r r' : TelegramCommandRequest} (h : SameRequest r r') :
    SameIdentity r r' := by
  rw [h]
  exact ⟨rfl, rfl, rfl, rfl, rfl, rfl, rfl⟩

theorem acknowledge_same (now : Time) (messageId : Option Int) (r : TelegramCommandRequest) :
    SameRequest r (r.acknowledge now messageId) := by
  unfold TelegramCommandRequest.acknowledge SameRequest
  split <;> rfl

/-- Nothing but the queue changes more of a row than its acknowledgment. -/
theorem step_row {w w' : IntakeWorld} {actor : Actor}
    (step : IntakeStep tables settings config w actor w') {k : Int} {r : TelegramCommandRequest}
    (row : w.rows.get k = some r) : ∃ r', w'.rows.get k = some r' ∧ SameIdentity r r'
      ∧ (actor ≠ .queue → SameRequest r r') := by
  have same : ∃ r', w.rows.get k = some r' ∧ SameIdentity r r' ∧ (actor ≠ .queue → SameRequest r r') :=
    ⟨r, row, (SameRequest.refl r).identity, fun _ => SameRequest.refl r⟩
  cases step with
  | hear | lose =>
    unfold IntakeWorld.hears
    split <;> exact same
  | commit n request row' rows flight inserted =>
    exact ⟨r, insert_kept inserted k r row, (SameRequest.refl r).identity,
      fun _ => SameRequest.refl r⟩
  | acknowledge updateId now messageId =>
    dsimp only
    rw [Table.get_alter, row]
    split
    · exact ⟨_, rfl, (acknowledge_same now messageId r).identity,
        fun _ => acknowledge_same now messageId r⟩
    · exact ⟨r, rfl, (SameRequest.refl r).identity, fun _ => SameRequest.refl r⟩
  | work updateId f identity =>
    dsimp only
    rw [Table.get_alter, row]
    split
    · exact ⟨f r, rfl, identity r, fun other => absurd rfl other⟩
    · exact ⟨r, rfl, (SameRequest.refl r).identity, fun _ => SameRequest.refl r⟩
  | arrive | start | crash | poll | pollLost | skip | ignore | submit | done | call | select | flush
  | conflict | reread | die => exact same

theorem one_row {rows : CommandRows} {k : Int} {r : TelegramCommandRequest}
    (row : rows.get k = some r) : (rows.rows.map (·.telegramUpdateId)).count k = 1 := by
  apply List.count_eq_one_of_mem rows.distinct
  rw [← Table.key_of_get row]
  exact List.mem_map_of_mem (Table.mem_of_get row)

/-- In every state: the offset of a listener only grows, it has passed nothing but
updates that were handled, each command among them has one row, and no replay
changes a row beyond its acknowledgment. -/
theorem intake_exactly_once (tables : StringTables) (settings : IntakeSettings)
    (config : ListenerConfig) (rows : CommandRows) (w : IntakeWorld)
    (enabled : settings.telegramCommandsEnabled = true)
    (run : IntakeRun tables settings config (.start rows) w) :
    (∀ life w' life', w.life = some life → IntakeRun tables settings config w w' →
        w'.life = some life' → life'.number = life.number → Reaches life.offset life'.offset)
      ∧ (∀ life u, w.life = some life → u ∈ w.arrived → Below life.offset u.updateId →
        u ∈ w.handled ∧ ∀ request, openUpdate tables config u = .submits request →
          (w.rows.rows.map (·.telegramUpdateId)).count u.updateId = 1)
      ∧ ∀ actor w', IntakeStep tables settings config w actor w' → ∀ k r, w.rows.get k = some r →
        ∃ r', w'.rows.get k = some r' ∧ SameIdentity r r' ∧ (actor ≠ .queue → SameRequest r r') := by
  have accounted := run_accounted enabled run (start_accounted rows)
  refine ⟨?_, ?_, fun _ _ step _ _ row => step_row step row⟩
  · intro life w' life' alive later alive' number
    exact (run_life enabled later accounted alive).2 life' alive' number
  · intro life u alive arrived below
    have handled := (accounted.vital life alive).covered.handled u arrived below
    refine ⟨handled, ?_⟩
    intro request own
    obtain ⟨r, row⟩ := accounted.stored u handled request own
    exact one_row row

end

def exampleRow : TelegramCommandRequest :=
  newRequest 1 0 exampleRequest (videoOf exampleTables exampleSettings exampleRequest.text)

def exampleRows : CommandRows := ⟨[exampleRow], by simp⟩

/-- The update has arrived, and the listener has it. -/
def polledWorld : IntakeWorld where
  arrived := [exampleUpdate]
  confirmed := none
  handled := []
  rows := .empty
  flights _ := none
  life := some ⟨0, none, some ⟨[exampleUpdate], none, none⟩⟩
  lives := 1

/-- The API has answered, and its row is there. -/
def answeredWorld : IntakeWorld :=
  { (((polledWorld.setFlight 0 ⟨exampleRequest, .received⟩).setFlight 0
      ⟨exampleRequest, (openIntake exampleTables exampleSettings exampleRequest .empty).handler⟩
      ).setFlight 0 ⟨exampleRequest, .flushed exampleRow⟩).setFlight 0
        ⟨exampleRequest, .answered (.ok (newResponse exampleRow))⟩ with
    rows := exampleRows
    life := some ⟨0, none, some ⟨[exampleUpdate], none, some 0⟩⟩ }

/-- The update is handled, and the offset has passed it. -/
def handledWorld : IntakeWorld :=
  { answeredWorld with
    handled := [exampleUpdate]
    life := some ⟨0, some 4, none⟩ }

theorem polledWorld_run :
    IntakeRun exampleTables exampleSettings exampleConfig (.start .empty) polledWorld := by
  have arrived : IntakeRun exampleTables exampleSettings exampleConfig (.start .empty)
      { IntakeWorld.start .empty with arrived := [exampleUpdate] } :=
    .step .refl (.arrive _ exampleUpdate fun _ there => by cases there)
  have started := arrived.step (.start _ rfl)
  have polled := started.step (.poll _ ⟨0, none, none⟩ [exampleUpdate] rfl rfl
    ⟨fun _ there => there, fun _ _ _ there _ _ => there⟩)
  rw [show sortUpdates [exampleUpdate] = [exampleUpdate] from List.mergeSort_singleton _] at polled
  exact polled

theorem handledWorld_run :
    IntakeRun exampleTables exampleSettings exampleConfig (.start .empty) handledWorld := by
  have submitted := polledWorld_run.step (.submit _ ⟨0, none, some ⟨[exampleUpdate], none, none⟩⟩
    exampleUpdate [] none exampleRequest 0 rfl rfl (by rintro ⟨_, h, _⟩; cases h) (by decide) rfl)
  have selected := submitted.step (.select _ 0 exampleRequest rfl)
  have flushed := selected.step (.flush _ 0 exampleRequest
    (videoOf exampleTables exampleSettings exampleRequest.text) 1 0 rfl rfl fun m other row held => by
      -- there is but the one request
      simp only [IntakeWorld.setFlight, polledWorld] at held
      split at held
      · cases held
      · cases held)
  have committed := flushed.step (.commit _ 0 exampleRequest exampleRow exampleRows rfl rfl)
  have heard := committed.step (.hear _ ⟨0, none, some ⟨[exampleUpdate], none, some 0⟩⟩
    exampleUpdate [] none 0 exampleRequest _ rfl rfl rfl)
  exact heard.step (.done _ ⟨0, none, some ⟨[], some 4, none⟩⟩ (some 4) rfl rfl)

/-- An update that was handled has its row, and is behind the offset. -/
theorem intake_exactly_once_handled :
    (∀ life w' life', handledWorld.life = some life →
        IntakeRun exampleTables exampleSettings exampleConfig handledWorld w' →
        w'.life = some life' → life'.number = life.number → Reaches life.offset life'.offset)
      ∧ (∀ life u, handledWorld.life = some life → u ∈ handledWorld.arrived →
        Below life.offset u.updateId → u ∈ handledWorld.handled
          ∧ ∀ request, openUpdate exampleTables exampleConfig u = .submits request →
            (handledWorld.rows.rows.map (·.telegramUpdateId)).count u.updateId = 1)
      ∧ ∀ actor w', IntakeStep exampleTables exampleSettings exampleConfig handledWorld actor w' →
        ∀ k r, handledWorld.rows.get k = some r → ∃ r', w'.rows.get k = some r'
          ∧ SameIdentity r r' ∧ (actor ≠ .queue → SameRequest r r') :=
  intake_exactly_once exampleTables exampleSettings exampleConfig .empty handledWorld rfl
    handledWorld_run

end YTPipe.Telegram
