import YTPipe.SignIn.Accounts

/-!
# Sign-ins and users of the credentials, side by side

Callbacks and users of the credentials share the database and are served in turns.
Browsers keep the cookies they were sent and send them back; anybody may send any
state, but nobody signs one without the key.
-/

namespace YTPipe.SignIn

open SignedState

/-- Who sends a request; a stranger sends the cookies it likes. -/
inductive Client
  | browser (b : Nat)
  | stranger (n : Nat)
  deriving DecidableEq, Repr

/-- A request under way. -/
inductive Job
  | callback (number : Nat) (client : Client) (request : CallbackRequest)
  | credentials (number : Nat)
  deriving DecidableEq

structure Tables where
  users : List User
  accounts : List OauthAccount
  deriving DecidableEq, Repr

inductive Event
  | issued (client : Client) (nonce codeVerifier : String) (at_ : Int)
  | arrived (job : Job)
  | clockRead (job : Job) (now : Int)
  | exchanged (job : Job) (code codeVerifier : String) (outcome : Except String Credentials)
  /-- Google names the verified address a token is for. -/
  | vouched (job : Job) (accessToken email : String)
  | refreshed (job : Job) (refreshToken : String) (outcome : Except RefreshFailure Credentials)
  | committed (job : Job) (tables : Tables)
  /-- A commit that raised, and what it has written all the same. -/
  | commitRaised (job : Job) (written : Option Tables)
  | answered (job : Job) (response : Response)
  deriving DecidableEq

/-- The two cookies. -/
structure Jar where
  oauthNonce : Option String
  oauthPkceVerifier : Option String
  deriving DecidableEq, Repr

/-- What a response does to the cookies. -/
inductive SetCookies
  | set (nonce codeVerifier : String)
  | delete
  deriving DecidableEq, Repr

def SetCookies.jar : SetCookies → Jar
  | set nonce codeVerifier => ⟨some nonce, some codeVerifier⟩
  | delete => ⟨none, none⟩

/-- The database with the transaction that has written to it, the browsers, the
requests and the responses on their way, and what has happened so far, newest first. -/
structure Shared where
  tables : Tables
  writing : Option (Job × Tables)
  jars : Nat → Jar
  sent : List (Client × CallbackRequest)
  responses : List (Nat × SetCookies)
  trace : List Event

namespace Shared

def log (e : Event) (s : Shared) : Shared := { s with trace := e :: s.trace }

/-- What a session has written and not committed. -/
def own (job : Job) (s : Shared) : Option Tables :=
  match s.writing with
  | some (j, t) => if j = job then some t else none
  | none => none

/-- The tables as a session reads them. -/
def view (job : Job) (s : Shared) : Tables := (s.own job).getD s.tables

/-- Nobody else has written: a second writer would wait for the first. -/
def free (job : Job) (s : Shared) : Prop := s.writing = none ∨ (s.own job).isSome = true

instance (job : Job) (s : Shared) : Decidable (s.free job) := inferInstanceAs (Decidable (_ ∨ _))

def write (job : Job) (t : Tables) (s : Shared) : Shared := { s with writing := some (job, t) }

/-- What is left to others when the transaction of a session ends. -/
def rest (job : Job) (s : Shared) : Option (Job × Tables) :=
  if (s.own job).isSome = true then none else s.writing

def rollback (job : Job) (s : Shared) : Shared := { s with writing := s.rest job }

def commit (job : Job) (s : Shared) : Shared :=
  { s with tables := s.view job, writing := s.rest job }

end Shared

/-- `OAuthAccount.user_id == user_id, OAuthAccount.provider == GOOGLE_PROVIDER`. -/
def OauthAccount.isOf (userId : Int) (a : OauthAccount) : Bool :=
  decide (a.userId = userId) && decide (a.provider = googleProvider)

/-- How a call is answered; any statement may raise and leave things as they are. -/
def answer (job : Job) : (c : Command) → Answer c → Shared → Option Shared
  | .readClock, now, s => some (s.log (.clockRead job now))
  | .fetchToken code codeVerifier, outcome, s => some (s.log (.exchanged job code codeVerifier outcome))
  | .userinfo accessToken, .ok payload, s =>
    match userEmail payload with
    | .ok email => some (s.log (.vouched job accessToken email))
    | .error _ => some s
  | .userinfo _, .error _, s => some s
  | .credentialsExpired _, _, s => some s
  | .refresh refreshToken, outcome, s => some (s.log (.refreshed job refreshToken outcome))
  | .selectUsers, .ok users, s => if users = (s.view job).users then some s else none
  | .selectUsers, .error _, s => some s
  | .selectUser id, .ok user, s =>
    if (s.view job).users.find? (fun u => decide (u.id = id)) = some user then some s else none
  | .selectUser _, .error _, s => some s
  -- every user is an owner, and owners are unique
  | .insertUser email, .ok user, s =>
    if s.free job ∧ (s.view job).users = [] ∧ user.email = email then
      some (s.write job { s.view job with users := [user] })
    else none
  | .insertUser _, .error _, s => some s
  | .selectAccount userId, .ok found, s =>
    if (s.view job).accounts.find? (OauthAccount.isOf userId) = found then some s else none
  | .selectAccount _, .error _, s => some s
  -- one account for a user and a provider, and none without its user
  | .insertAccount userId accessToken refreshToken tokenExpiry, .ok (), s =>
    if s.free job ∧ (s.view job).accounts.any (OauthAccount.isOf userId) = false
        ∧ (s.view job).users.any (fun u => decide (u.id = userId)) = true then
      some (s.write job { s.view job with
        accounts := (s.view job).accounts ++ [⟨(s.view job).accounts.length + 1, userId, googleProvider,
          accessToken, refreshToken, tokenExpiry⟩] })
    else none
  | .insertAccount .., .error _, s => some s
  -- the row is written as it is now, which need not be as it was loaded
  | .updateAccount id changes, .ok (), s =>
    if s.free job ∧ (s.view job).accounts.any (fun a => decide (a.id = id)) = true then
      some (s.write job { s.view job with
        accounts := (s.view job).accounts.map fun a => if a.id = id then changes.apply a else a })
    else none
  | .updateAccount .., .error _, s => some s
  | .work, _, s => some s
  | .commit, .committed, s => some ((s.commit job).log (.committed job (s.view job)))
  | .commit, .failed _, s => some ((s.rollback job).log (.commitRaised job none))
  | .commit, .unheard _, s => some ((s.commit job).log (.commitRaised job (some (s.view job))))
  | .rollback, _, s => some (s.rollback job)

/-- The end of a request: its session is closed, and its client is answered. -/
def finish (job : Job) (response : Option Response) (s : Shared) : Shared :=
  match job, response with
  | .callback _ (.browser b) _, some (.signedIn user scopes) =>
    { (s.rollback job).log (.answered job (.signedIn user scopes)) with
      responses := (b, .delete) :: s.responses }
  | _, some response => (s.rollback job).log (.answered job response)
  | _, none => s.rollback job

/-- What happens besides the requests under way. -/
inductive Happening
  | start (client : Client) (nonce : String) (now : Int) (codeVerifier : Option String)
  | deliver (n : Nat)
  | forgetNonce (b : Nat)
  | forgetVerifier (b : Nat)
  | send (client : Client) (request : CallbackRequest)
  | callback (number n : Nat)
  | credentials (number : Nat)

/-- `jars` with the jar of one browser replaced. -/
def setJar (jars : Nat → Jar) (b : Nat) (jar : Jar) : Nat → Jar :=
  fun b' => if b' = b then jar else jars b'

/-- What an event made durable. -/
def Event.tables? : Event → Option Tables
  | .committed _ tables => some tables
  | .commitRaised _ written => written
  | _ => none

def Event.nonce? : Event → Option String
  | .issued _ nonce _ _ => some nonce
  | _ => none

section

variable (lib : Library) (settings : Settings)

/-- A state with the signature that only the holder of the key can make. -/
def rightlySigned (state : Text) : Bool :=
  match Text.partition '.' state with
  | (encodedPayload, true, signature) =>
    decide (signature = signPayload lib settings.appSecretKey encodedPayload)
  | (_, false, _) => false

/-- The event is the issue of `state`. -/
def Event.issues (state : Text) : Event → Bool
  | .issued _ nonce _ at_ => decide ((createSignedState lib settings.appSecretKey nonce at_).1 = state)
  | _ => false

/-- Whose cookies a request carries. -/
def cookiesOf (s : Shared) (client : Client) (request : CallbackRequest) : Prop :=
  match client with
  | .browser b => s.jars b = ⟨request.oauthNonce, request.oauthPkceVerifier⟩
  | .stranger _ => True

instance (s : Shared) (client : Client) (request : CallbackRequest) :
    Decidable (cookiesOf s client request) := by
  cases client
  · exact inferInstanceAs (Decidable (_ = _))
  · exact isTrue trivial

def Event.arrives (job : Job) : Event → Bool
  | .arrived j => decide (j = job)
  | _ => false

def Job.program : Job → Program (Option Response)
  | .callback _ _ request => do
    let response ← googleOauthCallback lib settings request
    return some response
  | .credentials _ => do
    useCredentials settings
    return none

/-- A request arrives under a name of its own. -/
def arrive (job : Job) (s : Shared) : Option (Shared × Option (Job × Program (Option Response))) :=
  if s.trace.any (Event.arrives job) = false then
    some (s.log (.arrived job), some (job, job.program lib settings))
  else none

def happen : Happening → Shared → Option (Shared × Option (Job × Program (Option Response)))
  | .start client nonce now codeVerifier, s =>
    -- `token_urlsafe` draws no nonce twice
    if s.trace.any (fun e => decide (e.nonce? = some nonce)) = false then
      match createAuthorizationUrl lib settings nonce now codeVerifier with
      | .error _ => some (s, none)
      | .ok start =>
        let s := s.log (.issued client start.oauthNonce start.oauthPkceVerifier now)
        match client with
        | .browser b =>
          some ({ s with
            responses := (b, .set start.oauthNonce start.oauthPkceVerifier) :: s.responses }, none)
        | .stranger _ => some (s, none)
    else none
  | .deliver n, s =>
    match s.responses[n]? with
    | some (b, cookies) =>
      some ({ s with
        jars := setJar s.jars b cookies.jar
        responses := s.responses.eraseIdx n }, none)
    | none => none
  | .forgetNonce b, s =>
    some ({ s with jars := setJar s.jars b { s.jars b with oauthNonce := none } }, none)
  | .forgetVerifier b, s =>
    some ({ s with jars := setJar s.jars b { s.jars b with oauthPkceVerifier := none } }, none)
  | .send client request, s =>
    -- nobody signs a state without the key
    if cookiesOf s client request ∧ (rightlySigned lib settings request.state = true →
        s.trace.any (Event.issues lib settings request.state) = true) then
      some ({ s with sent := (client, request) :: s.sent }, none)
    else none
  | .callback number n, s =>
    match s.sent[n]? with
    | some (client, request) =>
      arrive lib settings (.callback number client request) { s with sent := s.sent.eraseIdx n }
    | none => none
  | .credentials number, s => arrive lib settings (.credentials number) s

/-- The service and its surroundings. -/
def service : System Job Command Answer Shared (Option Response) Happening where
  answer := answer
  finish := finish
  abandon job s := s.rollback job
  other := happen lib settings

end

/-- Before the first sign-in. -/
def opened : Pool Job Command Answer Shared (Option Response) where
  shared := ⟨⟨[], []⟩, none, fun _ => ⟨none, none⟩, [], [], []⟩
  programs _ := none

end YTPipe.SignIn
