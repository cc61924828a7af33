import YTPipe.Interleaving

/-!
# The execution lock

`acquire_execution_lock`, which polls, reconciliations, Telegram commands and the
startup hold around their work: an advisory lock of the database, held by a connection
taken for it, or, without PostgreSQL, a lock of the process. Connections may be lost at
any time, and an answer of the database may be lost after it did what it was asked.
-/

namespace YTPipe.ExecutionLock

structure Worker where
  process : Nat
  number : Nat
  deriving DecidableEq, Repr

abbrev Connection := Nat

/-- An exception. -/
inductive Failure
  | executionLockBusy
  | other (text : String)
  deriving DecidableEq, Repr

/-- A statement on a connection: done, or raised, perhaps after it was carried out. -/
inductive Statement (α : Type)
  | done (a : α)
  | raised (text : String) (carriedOut : Bool)
  deriving DecidableEq, Repr

inductive Command
  | connect
  | tryAdvisoryLock (c : Connection)
  | advisoryUnlock (c : Connection)
  | commit (c : Connection)
  | close (c : Connection)
  | acquireLocal
  | releaseLocal
  /-- The work begins. -/
  | enter
  /-- The work ends, perhaps in an exception. -/
  | leave
  deriving DecidableEq, Repr

def Answer : Command → Type
  | .connect => Except String Connection
  | .tryAdvisoryLock _ => Statement Bool
  | .advisoryUnlock _ => Statement Unit
  | .commit _ => Statement Unit
  | .close _ => Unit
  | .acquireLocal => Bool
  | .releaseLocal => Unit
  | .enter => Unit
  | .leave => Option String

abbrev Program := Prog Command Answer

abbrev Attempt := ExceptT Failure Program

def perform (c : Command) : Program (Answer c) := Prog.request c

/-- What a statement gives, or raises. -/
def result {α : Type} (p : Program (Statement α)) : Attempt α :=
  ExceptT.mk do
    match ← p with
    | .done a => return .ok a
    | .raised text _ => return .error (.other text)

def connect : Attempt Connection :=
  ExceptT.mk do
    match ← (perform .connect : Program (Except String Connection)) with
    | .ok c => return .ok c
    | .error text => return .error (.other text)

/-- `try: p` with `finally: cleanup`, whose exception takes the place of that of `p`. -/
def tryFinally {α : Type} (p : Attempt α) (cleanup : Attempt Unit) : Attempt α :=
  ExceptT.mk do
    let ended ← p.run
    match ← cleanup.run with
    | .ok () => return ended
    | .error failure => return .error failure

/-- What is done under the lock. -/
def work : Attempt Unit :=
  ExceptT.mk do
    perform .enter
    match ← (perform .leave : Program (Option String)) with
    | none => return .ok ()
    | some text => return .error (.other text)

/-- `acquire_execution_lock` around the work. -/
def acquireExecutionLock (dialectName : String) : Attempt Unit :=
  if dialectName ≠ "postgresql" then do
    let acquired : Bool ← ExceptT.lift (perform .acquireLocal)
    if acquired = false then throw .executionLockBusy
    else tryFinally work (ExceptT.lift (perform .releaseLocal))
  else do
    let connection ← connect
    tryFinally
      (do
        let acquired : Bool ← result (perform (.tryAdvisoryLock connection))
        if acquired = false then throw .executionLockBusy
        else
          tryFinally work do
            result (perform (.advisoryUnlock connection))
            result (perform (.commit connection)))
      (ExceptT.lift (perform (.close connection)))

/-- The connections in use, those that were lost, who has the locks, who is at work, and
on which connections a lock may have been left. -/
structure Locks where
  checkedOut : List (Worker × Connection)
  dead : List Connection
  /-- A connection may take its lock again, and gives it back as often. -/
  holder : Option (Connection × Nat)
  localHolder : Nat → Option Worker
  inside : List Worker
  leftBehind : List Connection

namespace Locks

def grantable (c : Connection) (s : Locks) : Bool :=
  match s.holder with
  | some (d, _) => decide (d = c)
  | none => true

def grant (c : Connection) (s : Locks) : Locks :=
  { s with holder := some (c, match s.holder with
    | some (_, n) => n + 1
    | none => 1) }

/-- The server warns where the connection has no lock to give back. -/
def ungrant (c : Connection) (s : Locks) : Locks :=
  { s with holder := match s.holder with
    | some (d, n) => if d = c then (if n ≤ 1 then none else some (d, n - 1)) else some (d, n)
    | none => none }

/-- The server ends the session of a lost connection, and drops its locks. -/
def drop (c : Connection) (s : Locks) : Locks :=
  { s with
    dead := c :: s.dead
    holder := match s.holder with
      | some (d, n) => if d = c then none else some (d, n)
      | none => none }

def mayLeave (c : Connection) (s : Locks) : Locks := { s with leftBehind := c :: s.leftBehind }

/-- A worker has the connection, and it is not lost. -/
def uses (i : Worker) (c : Connection) (s : Locks) : Bool :=
  decide ((i, c) ∈ s.checkedOut) && !decide (c ∈ s.dead)

def setLocal (p : Nat) (holder : Option Worker) (s : Locks) : Locks :=
  { s with localHolder := fun q => if q = p then holder else s.localHolder q }

end Locks

def answer (i : Worker) : (c : Command) → Answer c → Locks → Option Locks
  -- a pool hands a connection to one worker at a time
  | .connect, .ok c, s =>
    if s.checkedOut.all (fun u => decide (u.2 ≠ c)) = true ∧ c ∉ s.dead then
      some { s with checkedOut := (i, c) :: s.checkedOut }
    else none
  | .connect, .error _, s => some s
  | .tryAdvisoryLock c, .done true, s =>
    if s.uses i c ∧ s.grantable c then some (s.grant c) else none
  | .tryAdvisoryLock c, .done false, s =>
    if s.uses i c ∧ s.grantable c = false then some s else none
  | .tryAdvisoryLock c, .raised _ true, s =>
    if s.uses i c ∧ s.grantable c then some ((s.grant c).mayLeave c) else none
  | .tryAdvisoryLock _, .raised _ false, s => some s
  | .advisoryUnlock c, .done (), s => if s.uses i c then some (s.ungrant c) else none
  | .advisoryUnlock c, .raised _ true, s => if s.uses i c then some (s.ungrant c) else none
  | .advisoryUnlock c, .raised _ false, s =>
    if (i, c) ∈ s.checkedOut then some (s.mayLeave c) else none
  | .commit _, _, s => some s
  -- back to the pool, with whatever locks it has
  | .close c, _, s => some { s with checkedOut := s.checkedOut.filter fun u => decide (u ≠ (i, c)) }
  | .acquireLocal, true, s =>
    if s.localHolder i.process = none then some (s.setLocal i.process (some i)) else none
  | .acquireLocal, false, s => if s.localHolder i.process ≠ none then some s else none
  | .releaseLocal, _, s =>
    if s.localHolder i.process = some i then some (s.setLocal i.process none) else none
  | .enter, _, s => some { s with inside := i :: s.inside }
  | .leave, _, s => some { s with inside := s.inside.filter fun j => decide (j ≠ i) }

def Locks.leave (i : Worker) (s : Locks) : Locks :=
  { s with
    checkedOut := s.checkedOut.filter fun u => decide (u.1 ≠ i)
    inside := s.inside.filter fun j => decide (j ≠ i) }

/-- A process that dies takes its connections and its lock with it. -/
def abandon (i : Worker) (s : Locks) : Locks :=
  let lost := (s.checkedOut.filter fun u => decide (u.1 = i)).map (·.2)
  let s := (lost.foldl (fun s c => s.drop c) s).leave i
  if s.localHolder i.process = some i then s.setLocal i.process none else s

inductive Happening
  | start (i : Worker)
  | lost (c : Connection)
  deriving DecidableEq, Repr

section

variable (dialectName : String)

def happen : Happening → Locks → Option (Locks × Option (Worker × Program (Except Failure Unit)))
  | .start i, s => some (s, some (i, (acquireExecutionLock dialectName).run))
  | .lost c, s => some (s.drop c, none)

def workers : System Worker Command Answer Locks (Except Failure Unit) Happening where
  answer := answer
  finish _ _ s := s
  abandon := abandon
  other := happen dialectName

end

def started : Pool Worker Command Answer Locks (Except Failure Unit) where
  shared := ⟨[], [], none, fun _ => none, [], []⟩
  programs _ := none

end YTPipe.ExecutionLock
