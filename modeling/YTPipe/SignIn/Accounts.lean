import YTPipe.Interleaving
import YTPipe.SignedState

/-!
# The owner's account

`services/auth.py` and the callback of `api/routes/auth.py`, as programs that talk to
Google and to the database, and the users of the stored credentials.
-/

namespace YTPipe.SignIn

open SignedState

def googleProvider : String := "google"

def googleOauthScopes : List String :=
  ["openid", "https://www.googleapis.com/auth/userinfo.email",
    "https://www.googleapis.com/auth/youtube.readonly"]

structure Settings where
  appEnv : String
  appSecretKey : Text
  googleClientId : String
  googleClientSecret : String
  deriving DecidableEq

/-- A `datetime`, in microseconds, and its distance from UTC where it has a time zone. -/
structure Stamp where
  clock : Int
  offset : Option Int
  deriving DecidableEq, Repr

def Stamp.instant (s : Stamp) : Int := s.clock - s.offset.getD 0

/-- `_normalize_utc_datetime`. -/
def normalizeUtcDatetime (value : Option Stamp) : Option Stamp :=
  value.map fun v => match v.offset with
    | none => { v with offset := some 0 }
    | some o => ⟨v.clock - o, some 0⟩

/-- `_normalize_google_credentials_expiry`. -/
def normalizeGoogleCredentialsExpiry (value : Option Stamp) : Option Stamp :=
  value.map fun v => match v.offset with
    | none => v
    | some o => ⟨v.clock - o, none⟩

/-- What Google grants. -/
structure Credentials where
  token : String
  refreshToken : Option String
  expiry : Option Stamp
  deriving DecidableEq, Repr

structure User where
  id : Int
  email : String
  deriving DecidableEq, Repr

structure OauthAccount where
  id : Int
  userId : Int
  provider : String
  accessToken : String
  refreshToken : String
  tokenExpiry : Option Stamp
  deriving DecidableEq, Repr

/-- The columns an `UPDATE` sets. -/
structure AccountChanges where
  accessToken : Option String
  refreshToken : Option String
  tokenExpiry : Option (Option Stamp)
  deriving DecidableEq, Repr

/-- A column is written when its value is not the one that was loaded. -/
def changed {α : Type} [DecidableEq α] (loaded value : α) : Option α :=
  if value = loaded then none else some value

def AccountChanges.between (loaded account : OauthAccount) : AccountChanges where
  accessToken := changed loaded.accessToken account.accessToken
  refreshToken := changed loaded.refreshToken account.refreshToken
  tokenExpiry := changed loaded.tokenExpiry account.tokenExpiry

def AccountChanges.apply (changes : AccountChanges) (row : OauthAccount) : OauthAccount :=
  { row with
    accessToken := changes.accessToken.getD row.accessToken
    refreshToken := changes.refreshToken.getD row.refreshToken
    tokenExpiry := changes.tokenExpiry.getD row.tokenExpiry }

def AccountChanges.none : AccountChanges := ⟨.none, .none, .none⟩

/-- An exception; a library's own text may be left out. -/
inductive Failure
  | authState (message : Option String)
  | singleUser (message : String)
  | configuration (message : String)
  | authFlow (message : String)
  | http (status : Nat) (detail : String)
  | other (text : Option String)
  deriving DecidableEq, Repr

/-- How the lookup of the profile fails. -/
inductive ProfileError
  | httpError
  | other (text : String)
  deriving DecidableEq, Repr

/-- How a refresh fails. -/
inductive RefreshFailure
  | refreshError
  | other (text : String)
  deriving DecidableEq, Repr

/-- How a commit ends; one whose answer is lost may have been carried out. -/
inductive CommitAnswer
  | committed
  | failed (text : String)
  | unheard (text : String)
  deriving DecidableEq, Repr

/-- Where a program waits for somebody else. -/
inductive Command
  | readClock
  | fetchToken (code codeVerifier : String)
  | userinfo (accessToken : String)
  | credentialsExpired (expiry : Option Stamp)
  | refresh (refreshToken : String)
  | selectUsers
  | selectUser (id : Int)
  | insertUser (email : String)
  | selectAccount (userId : Int)
  | insertAccount (userId : Int) (accessToken refreshToken : String) (tokenExpiry : Option Stamp)
  | updateAccount (id : Int) (changes : AccountChanges)
  /-- The work with the credentials, which ends in a commit or in a rollback. -/
  | work
  | commit
  | rollback
  deriving DecidableEq, Repr

/-- The answers; where one may be an exception, with its text. -/
def Answer : Command → Type
  | .readClock => Int
  | .fetchToken .. => Except String Credentials
  | .userinfo _ => Except ProfileError Json
  | .credentialsExpired _ => Bool
  | .refresh _ => Except RefreshFailure Credentials
  | .selectUsers => Except String (List User)
  | .selectUser _ => Except String User
  | .insertUser _ => Except String User
  | .selectAccount _ => Except String (Option OauthAccount)
  | .insertAccount .. => Except String Unit
  | .updateAccount .. => Except String Unit
  | .work => Bool
  | .commit => CommitAnswer
  | .rollback => Unit

abbrev Program := Prog Command Answer

abbrev Attempt := ExceptT Failure Program

def perform (c : Command) : Program (Answer c) := Prog.request c

def readClock : Attempt Int := ExceptT.lift (perform .readClock)

def fetchToken (code codeVerifier : String) : Attempt (Except String Credentials) :=
  ExceptT.lift (perform (.fetchToken code codeVerifier))

def userinfo (accessToken : String) : Attempt (Except ProfileError Json) :=
  ExceptT.lift (perform (.userinfo accessToken))

def credentialsExpired (credentials : Credentials) : Attempt Bool :=
  ExceptT.lift (perform (.credentialsExpired credentials.expiry))

def refresh (refreshToken : String) : Attempt (Except RefreshFailure Credentials) :=
  ExceptT.lift (perform (.refresh refreshToken))

def selectUsers : Program (Except String (List User)) := perform .selectUsers

def selectUser (id : Int) : Program (Except String User) := perform (.selectUser id)

def insertUser (email : String) : Program (Except String User) := perform (.insertUser email)

def selectAccount (userId : Int) : Program (Except String (Option OauthAccount)) :=
  perform (.selectAccount userId)

def insertAccount (userId : Int) (accessToken refreshToken : String)
    (tokenExpiry : Option Stamp) : Program (Except String Unit) :=
  perform (.insertAccount userId accessToken refreshToken tokenExpiry)

def updateAccount (id : Int) (changes : AccountChanges) : Program (Except String Unit) :=
  perform (.updateAccount id changes)

def work : Program Bool := perform .work

def commit : Program CommitAnswer := perform .commit

def rollback : Program Unit := perform .rollback

/-- A statement; whatever the database raises is nothing the code names. -/
def statement {α : Type} (p : Program (Except String α)) : Attempt α :=
  ExceptT.mk do
    match ← p with
    | .ok a => return .ok a
    | .error text => return .error (.other (some text))

/-- `_ensure_google_oauth_is_configured`. -/
def ensureGoogleOauthIsConfigured (settings : Settings) : Except Failure Unit :=
  if settings.googleClientId = "" ∨ settings.googleClientSecret = "" then
    .error (.configuration "Google OAuth credentials are not configured.")
  else if settings.appSecretKey = [] ∨ settings.appSecretKey = "replace-me".toList then
    .error (.configuration "APP_SECRET_KEY must be configured for OAuth state signing.")
  else .ok ()

/-- What `_fetch_user_email` makes of the profile. -/
def userEmail : Json → Except Failure String
  | .obj payload =>
    match Json.Dict.get? payload "email" with
    | some (.str email) =>
      if email = "" then
        .error (.authFlow "Google userinfo response did not include an email address.")
      else
        match Json.Dict.get? payload "email_verified" with
        | some (.bool true) => .ok email
        | _ =>
          .error (.authFlow "Google account email must be verified before login is accepted.")
    | _ => .error (.authFlow "Google userinfo response did not include an email address.")
  -- only an object has get
  | _ => .error (.other none)

/-- `_fetch_user_email`, and what its caller makes of a failure. -/
def fetchUserEmail (accessToken : String) : Attempt String := do
  match ← userinfo accessToken with
  | .error .httpError => throw (.authFlow "Google user profile lookup failed.")
  | .error (.other text) => throw (.other (some text))
  | .ok payload => ExceptT.mk (pure (userEmail payload))

/-- `_get_or_create_single_user`. -/
def getOrCreateSingleUser (email : String) : Attempt User := do
  match ← statement selectUsers with
  | [] => statement (insertUser email)
  | [user] =>
    if user.email ≠ email then
      throw (.singleUser
        "This MVP supports only one Google account. Re-authenticate with the original account.")
    else return user
  | _ => throw (.singleUser "This MVP expects exactly one local user record.")

/-- `x or default`, of a text that may be missing. -/
def orElse (x : Option String) (default : String) : String :=
  match x with
  | some t => if t = "" then default else t
  | none => default

/-- An account a session has yet to flush. -/
inductive Unflushed
  | added (userId : Int) (accessToken refreshToken : String) (tokenExpiry : Option Stamp)
  | loaded (row account : OauthAccount)
  deriving DecidableEq, Repr

/-- `_upsert_oauth_account`. -/
def upsertOauthAccount (user : User) (credentials : Credentials) : Attempt Unflushed := do
  match ← statement (selectAccount user.id) with
  | none =>
    if orElse credentials.refreshToken "" = "" then
      throw (.authFlow "Google OAuth did not return a refresh token.")
    else
      return .added user.id credentials.token (orElse credentials.refreshToken "")
        (normalizeUtcDatetime credentials.expiry)
  | some account =>
    return .loaded account { account with
      accessToken := credentials.token
      refreshToken := orElse credentials.refreshToken account.refreshToken
      tokenExpiry := normalizeUtcDatetime credentials.expiry }

/-- `session.flush()`: a row is added, or its changed columns are written. -/
def flush : Unflushed → Attempt Unit
  | .added userId accessToken refreshToken tokenExpiry =>
    statement (insertAccount userId accessToken refreshToken tokenExpiry)
  | .loaded row account =>
    if AccountChanges.between row account = .none then return ()
    else statement (updateAccount row.id (.between row account))

/-- What comes with a callback. -/
structure CallbackRequest where
  code : String
  state : Text
  oauthNonce : Option String
  oauthPkceVerifier : Option String
  deriving DecidableEq

/-- How a callback is answered; a sign-in deletes the cookies. -/
inductive Response
  | signedIn (user : String) (scopes : List String)
  | refused (statusCode : Nat) (detail : Option String)
  /-- An exception nothing catches. -/
  | unhandled
  deriving DecidableEq, Repr

section

variable (lib : Library) (settings : Settings)

/-- `exchange_code_for_account`. -/
def exchangeCodeForAccount (request : CallbackRequest) : Attempt User := do
  ExceptT.mk (pure (ensureGoogleOauthIsConfigured settings))
  let now ← readClock
  match openExchange lib request.state settings.appSecretKey now request.oauthNonce
      request.oauthPkceVerifier with
  | .error (.authState message) => throw (.authState message)
  | .error (.raised _) => throw (.other none)
  | .ok _ =>
    match ← fetchToken request.code (request.oauthPkceVerifier.getD "") with
    | .error text =>
      throw (.authFlow (if settings.appEnv = "local" then "Google OAuth code exchange failed: " ++ text
        else "Google OAuth code exchange failed."))
    | .ok credentials =>
      let email ← fetchUserEmail credentials.token
      let user ← getOrCreateSingleUser email
      let account ← upsertOauthAccount user credentials
      flush account
      return user

/-- `session.commit()`, which may raise. -/
def commitOrRaise : Attempt Unit := do
  match ← (ExceptT.lift commit : Attempt CommitAnswer) with
  | .committed => return ()
  | .failed text => throw (.other (some text))
  | .unheard text => throw (.other (some text))

/-- How the callback answers an exception. -/
def refusal : Failure → Response
  | .authState message => .refused 400 message
  | .singleUser message => .refused 403 (some message)
  | .configuration message => .refused 500 (some message)
  | .authFlow message => .refused 400 (some message)
  | .http status detail => .refused status (some detail)
  | .other text =>
    .refused 502 (if settings.appEnv = "local" then text.map ("OAuth callback failed: " ++ ·)
      else some "OAuth callback failed after token exchange. Inspect service logs for details.")

/-- `google_oauth_callback`. -/
def googleOauthCallback (request : CallbackRequest) : Program Response := do
  let result ← ExceptT.run do
    let user ← exchangeCodeForAccount lib settings request
    commitOrRaise
    return user
  match result with
  | .ok user =>
    -- the commit expired the user, who is loaded again
    match ← selectUser user.id with
    | .ok user => return .signedIn user.email googleOauthScopes
    | .error _ => return .unhandled
  | .error failure =>
    rollback
    return refusal settings failure

/-- The response of `start_google_oauth`: the state and the cookies it sets. -/
structure Start where
  state : Text
  oauthNonce : String
  oauthPkceVerifier : String
  deriving DecidableEq

/-- `create_authorization_url`, with the nonce it draws, the time it reads and the
verifier of the flow. -/
def createAuthorizationUrl (nonce : String) (now : Int) (codeVerifier : Option String) :
    Except Failure Start :=
  match ensureGoogleOauthIsConfigured settings with
  | .error failure => .error failure
  | .ok () =>
    let (state, nonce) := createSignedState lib settings.appSecretKey nonce now
    if orElse codeVerifier "" = "" then
      .error (.authFlow "Google OAuth did not generate a PKCE code verifier.")
    else .ok ⟨state, nonce, orElse codeVerifier ""⟩

def reauthRequired (detail : String) : Failure := .http 401 detail

/-- The part of `ensure_valid_credentials` that refreshes what has expired. -/
def refreshExpired (oauthAccount : OauthAccount) (credentials : Credentials) : Attempt Credentials := do
  let expired ← credentialsExpired credentials
  if expired = true ∧ oauthAccount.refreshToken ≠ "" then
    match ← refresh oauthAccount.refreshToken with
    | .error .refreshError =>
      throw (reauthRequired
        "Stored Google credentials can no longer be refreshed. Manual re-auth is required.")
    | .error (.other text) => throw (.other (some text))
    | .ok credentials =>
      flush (.loaded oauthAccount { oauthAccount with
        accessToken := credentials.token
        refreshToken := orElse credentials.refreshToken oauthAccount.refreshToken
        tokenExpiry := normalizeUtcDatetime credentials.expiry })
      return credentials
  else return credentials

/-- `ensure_valid_credentials`. -/
def ensureValidCredentials (oauthAccount : OauthAccount) : Attempt Credentials := do
  ExceptT.mk (pure (ensureGoogleOauthIsConfigured settings))
  let credentials ← refreshExpired oauthAccount ⟨oauthAccount.accessToken,
    some oauthAccount.refreshToken, normalizeGoogleCredentialsExpiry oauthAccount.tokenExpiry⟩
  let expired ← credentialsExpired credentials
  if expired = true then
    throw (reauthRequired "Stored Google credentials are not valid. Manual re-auth is required.")
  else return credentials

/-- Who uses the credentials: the subscription sync, a poll, a reconciliation or a
Telegram command, in a session of its own. -/
def useCredentials : Program Unit := do
  match ← selectUsers with
  | .ok (user :: _) =>
    match ← selectAccount user.id with
    | .ok (some account) =>
      let _ ← (ensureValidCredentials settings account).run
      if ← work then
        let _ ← commit
      else rollback
    | _ => return ()
  | _ => return ()

end

end YTPipe.SignIn
