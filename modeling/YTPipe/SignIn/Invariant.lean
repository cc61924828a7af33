import YTPipe.SignIn.World

/-!
# What sign-ins keep

Whatever callbacks and users of the credentials are under way together: there is one
user, whose address never changes, and one account, whose tokens Google granted for
that address; and a browser's callback is followed up only under a state the service
issued to that browser.
-/

namespace YTPipe.SignIn

open SignedState

/-- What Google granted for an address: in a code exchange after which it named the
address, or in a refresh. -/
inductive Granted (trace : List Event) (email : String) : Credentials → Prop
  | exchanged {job : Job} {code codeVerifier : String} {c : Credentials}
      (exchange : .exchanged job code codeVerifier (.ok c) ∈ trace)
      (vouched : .vouched job c.token email ∈ trace) : Granted trace email c
  | refreshed {job : Job} {c c' : Credentials} {refreshToken : String} (granted : Granted trace email c)
      (same : c.refreshToken = some refreshToken)
      (refresh : .refreshed job refreshToken (.ok c') ∈ trace) : Granted trace email c'

/-- The tokens of an account were granted, if not together. -/
structure Held (trace : List Event) (email : String) (a : OauthAccount) : Prop where
  access : ∃ c, Granted trace email c ∧ c.token = a.accessToken
  refresh : ∃ c, Granted trace email c ∧ c.refreshToken = some a.refreshToken
  filled : a.refreshToken ≠ ""

/-- The one user's address is vouched for, and the one account is that user's. -/
structure Sound (trace : List Event) (t : Tables) : Prop where
  oneUser : t.users.length ≤ 1
  vouched : ∀ u ∈ t.users, ∃ job token, .vouched job token u.email ∈ trace
  oneAccount : t.accounts.length ≤ 1
  google : ∀ a ∈ t.accounts, a.provider = googleProvider
  held : ∀ a ∈ t.accounts, ∃ u ∈ t.users, a.userId = u.id ∧ Held trace u.email a

def OauthAccount.key (a : OauthAccount) : Int × Int × String := (a.id, a.userId, a.provider)

/-- Users and accounts are only added. -/
structure Grows (t t' : Tables) : Prop where
  users : t.users <+: t'.users
  accounts : t.accounts.map OauthAccount.key <+: t'.accounts.map OauthAccount.key

/-- No commit of the session has raised. -/
def Unraised (job : Job) (trace : List Event) : Prop := ∀ written, .commitRaised job written ∉ trace

/-- What a session relies on while others are served. -/
structure Onward (job : Job) (s s' : Shared) : Prop where
  trace : s.trace <:+ s'.trace
  tables : Grows s.tables s'.tables
  own : s'.own job = s.own job
  unraised : Unraised job s.trace → Unraised job s'.trace

section

variable (lib : Library) (settings : Settings)

/-- A state that is rightly signed was issued, and a browser's cookies were issued to it
together. -/
structure Bound (client : Client) (request : CallbackRequest) (trace : List Event) : Prop where
  signed : rightlySigned lib settings request.state = true →
    ∃ client nonce codeVerifier at_, .issued client nonce codeVerifier at_ ∈ trace
      ∧ (createSignedState lib settings.appSecretKey nonce at_).1 = request.state
  cookies : ∀ b nonce codeVerifier, client = .browser b → request.oauthNonce = some nonce →
    request.oauthPkceVerifier = some codeVerifier →
      ∃ at_, .issued (.browser b) nonce codeVerifier at_ ∈ trace

/-- What must have happened before an event. -/
def grounds : Event → List Event → Prop
  | .issued _ nonce _ _, before => ∀ e ∈ before, e.nonce? ≠ some nonce
  | .arrived (.callback _ client request), before => Bound lib settings client request before
  | .exchanged job code codeVerifier _, before =>
    ∃ number client request now payload, job = .callback number client request
      ∧ .arrived job ∈ before ∧ .clockRead job now ∈ before
      ∧ code = request.code ∧ request.oauthPkceVerifier = some codeVerifier
      ∧ openExchange lib request.state settings.appSecretKey now request.oauthNonce
        request.oauthPkceVerifier = .ok payload
  | .vouched job token _, before =>
    ∃ code codeVerifier c, .exchanged job code codeVerifier (.ok c) ∈ before ∧ c.token = token
  | .commitRaised job _, before => .arrived job ∈ before
  | .answered job (.signedIn email _), before =>
    Unraised job before ∧ ∃ token t u a, .vouched job token email ∈ before ∧ .committed job t ∈ before
      ∧ t.users = [u] ∧ u.email = email ∧ t.accounts = [a] ∧ a.userId = u.id
  | _, _ => True

/-- What holds at all times. -/
structure Inv (s : Shared) : Prop where
  tables : Sound s.trace s.tables
  writing : ∀ job t, s.writing = some (job, t) → Sound s.trace t ∧ Grows s.tables t
  committed : ∀ e ∈ s.trace, ∀ t, e.tables? = some t → Grows t s.tables
  jars : ∀ b nonce codeVerifier, s.jars b = ⟨some nonce, some codeVerifier⟩ →
    ∃ at_, .issued (.browser b) nonce codeVerifier at_ ∈ s.trace
  responses : ∀ b nonce codeVerifier, (b, .set nonce codeVerifier) ∈ s.responses →
    ∃ at_, .issued (.browser b) nonce codeVerifier at_ ∈ s.trace
  sent : ∀ client request, (client, request) ∈ s.sent → Bound lib settings client request s.trace
  grounded : Grounded (grounds lib settings) s.trace

end

/-! More history takes nothing back. -/

section later

variable {trace trace' : List Event} {email : String}

theorem Granted.later {c : Credentials} (h : Granted trace email c) (more : trace ⊆ trace') :
    Granted trace' email c := by
  induction h with
  | exchanged exchange vouched => exact .exchanged (more exchange) (more vouched)
  | refreshed _ same refresh ih => exact .refreshed ih same (more refresh)

theorem Held.later {a : OauthAccount} (h : Held trace email a) (more : trace ⊆ trace') :
    Held trace' email a where
  access := by
    obtain ⟨c, granted, same⟩ := h.access
    exact ⟨c, granted.later more, same⟩
  refresh := by
    obtain ⟨c, granted, same⟩ := h.refresh
    exact ⟨c, granted.later more, same⟩
  filled := h.filled

theorem Sound.later {t : Tables} (h : Sound trace t) (more : trace ⊆ trace') : Sound trace' t where
  oneUser := h.oneUser
  vouched u hu := by
    obtain ⟨job, token, there⟩ := h.vouched u hu
    exact ⟨job, token, more there⟩
  oneAccount := h.oneAccount
  google := h.google
  held a ha := by
    obtain ⟨u, hu, same, held⟩ := h.held a ha
    exact ⟨u, hu, same, held.later more⟩

theorem Bound.later {lib : Library} {settings : Settings} {client : Client} {request : CallbackRequest}
    (h : Bound lib settings client request trace) (more : trace ⊆ trace') :
    Bound lib settings client request trace' where
  signed right := by
    obtain ⟨client, nonce, codeVerifier, at_, there, same⟩ := h.signed right
    exact ⟨client, nonce, codeVerifier, at_, more there, same⟩
  cookies b nonce codeVerifier same first second := by
    obtain ⟨at_, there⟩ := h.cookies b nonce codeVerifier same first second
    exact ⟨at_, more there⟩

/-- The only one. -/
theorem eq_singleton {α : Type} {l : List α} (one : l.length ≤ 1) {a : α} (ha : a ∈ l) : l = [a] := by
  cases l with
  | nil => cases ha
  | cons b rest =>
    cases rest with
    | nil => rw [List.mem_singleton.mp ha]
    | cons _ _ => simp at one

theorem Sound.users_eq {t : Tables} (h : Sound trace t) {u : User} (hu : u ∈ t.users) :
    t.users = [u] := eq_singleton h.oneUser hu

theorem Sound.accounts_eq {t : Tables} (h : Sound trace t) {a : OauthAccount} (ha : a ∈ t.accounts) :
    t.accounts = [a] := eq_singleton h.oneAccount ha

theorem Sound.user_eq {t : Tables} (h : Sound trace t) {u u' : User} (hu : u ∈ t.users)
    (hu' : u' ∈ t.users) : u = u' := by
  rw [h.users_eq hu'] at hu
  exact List.mem_singleton.mp hu

end later

namespace Grows

variable {t t' t'' : Tables}

theorem refl (t : Tables) : Grows t t := ⟨List.prefix_refl _, List.prefix_refl _⟩

theorem trans (h : Grows t t') (h' : Grows t' t'') : Grows t t'' :=
  ⟨h.users.trans h'.users, h.accounts.trans h'.accounts⟩

/-- The key of an account stays. -/
theorem mem_key (h : Grows t t') {a : OauthAccount} (ha : a ∈ t.accounts) :
    ∃ a' ∈ t'.accounts, a'.key = a.key :=
  List.mem_map.mp (h.accounts.subset (List.mem_map_of_mem ha))

end Grows

namespace Onward

variable {job : Job} {s s' s'' : Shared}

theorem refl (job : Job) (s : Shared) : Onward job s s := ⟨List.suffix_refl _, .refl _, rfl, id⟩

theorem trans (h : Onward job s s') (h' : Onward job s' s'') : Onward job s s'' :=
  ⟨h.trace.trans h'.trace, h.tables.trans h'.tables, h'.own.trans h.own,
    fun unraised => h'.unraised (h.unraised unraised)⟩

theorem mem (h : Onward job s s') {e : Event} (he : e ∈ s.trace) : e ∈ s'.trace := h.trace.subset he

/-- What the session sees only grows. -/
theorem view (h : Onward job s s') : Grows (s.view job) (s'.view job) := by
  unfold Shared.view
  rw [h.own]
  cases s.own job with
  | none => exact h.tables
  | some t => exact .refl t

end Onward

namespace Shared

variable {job j : Job} {s : Shared} {t : Tables}

theorem own_eq_some : s.own job = some t ↔ s.writing = some (job, t) := by
  unfold own
  cases s.writing with
  | none => simp
  | some w =>
    obtain ⟨i, t'⟩ := w
    dsimp only
    split
    · next same =>
      subst same
      simp
    · next other => simp [other]

theorem rest_eq_some : s.rest job = some (j, t) ↔ s.writing = some (j, t) ∧ j ≠ job := by
  unfold rest
  split
  · next mine =>
    obtain ⟨t', own⟩ := Option.isSome_iff_exists.mp mine
    rw [own_eq_some.mp own]
    constructor
    · intro none
      cases none
    · rintro ⟨⟨⟩, other⟩
      exact absurd rfl other
  · next others =>
    refine ⟨fun writing => ⟨writing, ?_⟩, fun h => h.1⟩
    rintro rfl
    exact others (Option.isSome_iff_exists.mpr ⟨t, own_eq_some.mpr writing⟩)

/-- The end of a transaction leaves those of others. -/
theorem own_rest (other : j ≠ job) {s' : Shared} (ended : s'.writing = s.rest job) :
    s'.own j = s.own j := by
  apply Option.ext
  intro t
  rw [own_eq_some, own_eq_some, ended, rest_eq_some]
  exact and_iff_left other

theorem own_rest_self {s' : Shared} (ended : s'.writing = s.rest job) : s'.own job = none := by
  apply Option.eq_none_iff_forall_ne_some.mpr
  intro t own
  rw [own_eq_some, ended, rest_eq_some] at own
  exact own.2 rfl

theorem view_of_own (own : s.own job = none) : s.view job = s.tables := by
  unfold view
  rw [own]
  rfl

@[simp] theorem view_commit : (s.commit job).view job = s.view job := view_of_own (own_rest_self rfl)

@[simp] theorem view_write : (s.write job t).view job = t := by
  simp [view, own, write]

/-- A second writer waits, so that the others have not written. -/
theorem own_write (free : s.free job) (other : j ≠ job) : (s.write job t).own j = s.own j := by
  have unwritten : s.own j = none := by
    apply Option.eq_none_iff_forall_ne_some.mpr
    intro t own
    rw [own_eq_some] at own
    rcases free with idle | mine
    · rw [idle] at own
      cases own
    · obtain ⟨t', own'⟩ := Option.isSome_iff_exists.mp mine
      rw [own_eq_some, own] at own'
      cases own'
      exact other rfl
  rw [unwritten]
  exact if_neg (Ne.symm other)

end Shared

namespace Inv

variable {lib : Library} {settings : Settings} {s : Shared} {job : Job} {t : Tables}

theorem log (h : Inv lib settings s) {e : Event} (grounded : grounds lib settings e s.trace)
    (committed : ∀ t, e.tables? = some t → Grows t s.tables) : Inv lib settings (s.log e) := by
  have more : s.trace ⊆ (s.log e).trace := List.subset_cons_self e s.trace
  constructor
  · exact h.tables.later more
  · intro job t writing
    obtain ⟨sound, grows⟩ := h.writing job t writing
    exact ⟨sound.later more, grows⟩
  · intro e' there
    rcases List.mem_cons.mp there with rfl | there
    · exact committed
    · exact h.committed e' there
  · intro b nonce codeVerifier same
    obtain ⟨at_, there⟩ := h.jars b nonce codeVerifier same
    exact ⟨at_, more there⟩
  · intro b nonce codeVerifier there
    obtain ⟨at_, there⟩ := h.responses b nonce codeVerifier there
    exact ⟨at_, more there⟩
  · exact fun client request there => (h.sent client request there).later more
  · exact ⟨grounded, h.grounded⟩

theorem view (h : Inv lib settings s) (job : Job) :
    Sound s.trace (s.view job) ∧ Grows s.tables (s.view job) := by
  cases own : s.own job with
  | none =>
    rw [Shared.view_of_own own]
    exact ⟨h.tables, .refl _⟩
  | some t =>
    have mine := h.writing job t (Shared.own_eq_some.mp own)
    unfold Shared.view
    rw [own]
    exact mine

theorem write (h : Inv lib settings s) (sound : Sound s.trace t) (grows : Grows (s.view job) t) :
    Inv lib settings (s.write job t) where
  tables := h.tables
  writing := by
    rintro _ _ ⟨⟩
    exact ⟨sound, (h.view job).2.trans grows⟩
  committed := h.committed
  jars := h.jars
  responses := h.responses
  sent := h.sent
  grounded := h.grounded

theorem rollback (h : Inv lib settings s) : Inv lib settings (s.rollback job) where
  tables := h.tables
  writing j t writing := h.writing j t (Shared.rest_eq_some.mp writing).1
  committed := h.committed
  jars := h.jars
  responses := h.responses
  sent := h.sent
  grounded := h.grounded

/-- A commit lets no other transaction be open. -/
theorem commit (h : Inv lib settings s) : Inv lib settings (s.commit job) := by
  refine ⟨(h.view job).1, fun j t writing => ?_, fun e there t is => ?_, h.jars, h.responses,
    h.sent, h.grounded⟩
  · obtain ⟨writing, other⟩ := Shared.rest_eq_some.mp writing
    have none : s.own job = none := by
      apply Option.eq_none_iff_forall_ne_some.mpr
      intro t' own
      rw [Shared.own_eq_some, writing] at own
      cases own
      exact other rfl
    have same : s.view job = s.tables := Shared.view_of_own none
    change Sound s.trace t ∧ Grows (s.view job) t
    rw [same]
    exact h.writing j t writing
  · exact (h.committed e there t is).trans (h.view job).2

/-- However a commit of a request that has arrived is answered. -/
theorem answer_commit (h : Inv lib settings s) (arrived : .arrived job ∈ s.trace) {r : CommitAnswer}
    {s' : Shared} (answered : answer job .commit r s = some s') : Inv lib settings s' := by
  cases r with
  | committed =>
    cases answered
    refine h.commit.log (e := .committed job (s.view job)) trivial ?_
    rintro _ ⟨⟩
    exact .refl _
  | failed text =>
    cases answered
    exact h.rollback.log arrived fun _ none => (by cases none)
  | unheard text =>
    cases answered
    refine h.commit.log (e := .commitRaised job (some (s.view job))) arrived ?_
    rintro _ ⟨⟩
    exact .refl _

end Inv

/-! What the others see of a turn. -/

namespace Onward

variable {job j : Job} {s : Shared}

/-- Nobody logs the session's commits but the session. -/
theorem log (j : Job) (s : Shared) (e : Event) (unraised : ∀ written, e ≠ .commitRaised j written) :
    Onward j s (s.log e) where
  trace := List.suffix_cons e s.trace
  tables := .refl _
  own := rfl
  unraised before written there := by
    rcases List.mem_cons.mp there with same | there
    · exact unraised written same.symm
    · exact before written there

/-- Sessions do not look at what is on its way. -/
theorem responses {s' : Shared} (h : Onward j s s') (rest : List (Nat × SetCookies)) :
    Onward j s { s' with responses := rest } :=
  ⟨h.trace, h.tables, h.own, h.unraised⟩

theorem write {t : Tables} (free : s.free job) (other : j ≠ job) : Onward j s (s.write job t) :=
  ⟨List.suffix_refl _, .refl _, Shared.own_write free other, id⟩

theorem rollback (other : j ≠ job) : Onward j s (s.rollback job) :=
  ⟨List.suffix_refl _, .refl _, Shared.own_rest other rfl, id⟩

theorem commit {lib : Library} {settings : Settings} (h : Inv lib settings s) (other : j ≠ job) :
    Onward j s (s.commit job) :=
  ⟨List.suffix_refl _, (h.view job).2, Shared.own_rest other rfl, id⟩

end Onward

/-- Whatever a session is answered, the others may rely on the rest. -/
theorem answer_onward {lib : Library} {settings : Settings} {job j : Job} {c : Command} {r : Answer c}
    {s s' : Shared} (h : Inv lib settings s) (answered : answer job c r s = some s') (other : j ≠ job) :
    Onward j s s' := by
  cases c with
  | readClock | fetchToken | refresh =>
    cases answered
    exact .log j s _ fun _ same => (by cases same)
  | userinfo accessToken =>
    cases r with
    | error e =>
      cases answered
      exact .refl j s
    | ok payload =>
      simp only [answer] at answered
      split at answered <;> cases answered
      · exact .log j s _ fun _ same => (by cases same)
      · exact .refl j s
  | credentialsExpired | work =>
    cases answered
    exact .refl j s
  | selectUsers | selectUser | selectAccount =>
    cases r with
    | error e =>
      cases answered
      exact .refl j s
    | ok found =>
      simp only [answer] at answered
      split at answered <;> cases answered
      exact .refl j s
  | insertUser | insertAccount | updateAccount =>
    cases r with
    | error e =>
      cases answered
      exact .refl j s
    | ok done =>
      simp only [answer] at answered
      split at answered
      · next guard =>
        cases answered
        exact .write guard.1 other
      · cases answered
  | commit =>
    have apart : ∀ written written', Event.commitRaised job written ≠ .commitRaised j written' := by
      rintro _ _ ⟨⟩
      exact other rfl
    cases r with
    | committed =>
      cases answered
      exact (Onward.commit h other).trans (.log j _ _ fun _ same => (by cases same))
    | unheard =>
      cases answered
      exact (Onward.commit h other).trans (.log j _ _ (apart _))
    | failed =>
      cases answered
      exact (Onward.rollback other).trans (.log j _ _ (apart _))
  | rollback =>
    cases answered
    exact .rollback other

theorem exists_other (job : Job) : ∃ j, j ≠ job := by
  cases job with
  | callback number client request => exact ⟨.credentials 0, fun same => (by cases same)⟩
  | credentials number =>
    refine ⟨.credentials (number + 1), fun same => ?_⟩
    cases same

section turns

variable {lib : Library} {settings : Settings} {s : Shared}

/-- What a request ends in lets it be answered so. -/
def Answerable (lib : Library) (settings : Settings) (job : Job) (response : Option Response)
    (s : Shared) : Prop :=
  ∀ r, response = some r → grounds lib settings (.answered job r) s.trace

theorem answerable_onward {job : Job} {response : Option Response} {s s' : Shared}
    (h : Answerable lib settings job response s) (onward : Onward job s s') :
    Answerable lib settings job response s' := by
  rintro r rfl
  have before := h r rfl
  cases r with
  | refused | unhandled => trivial
  | signedIn email scopes =>
    obtain ⟨unraised, token, t, u, a, vouched, committed, facts⟩ := before
    exact ⟨onward.unraised unraised, token, t, u, a, onward.mem vouched, onward.mem committed, facts⟩

/-- A response goes to a browser. -/
theorem Inv.respond (h : Inv lib settings s) {b : Nat} {cookies : SetCookies}
    (issued : ∀ nonce codeVerifier, cookies = .set nonce codeVerifier →
      ∃ at_, .issued (.browser b) nonce codeVerifier at_ ∈ s.trace) :
    Inv lib settings { s with responses := (b, cookies) :: s.responses } where
  tables := h.tables
  writing := h.writing
  committed := h.committed
  jars := h.jars
  responses b' nonce codeVerifier there := by
    rcases List.mem_cons.mp there with same | there
    · cases same
      exact issued nonce codeVerifier rfl
    · exact h.responses b' nonce codeVerifier there
  sent := h.sent
  grounded := h.grounded

theorem finish_kept {job : Job} {response : Option Response} (h : Inv lib settings s)
    (answerable : Answerable lib settings job response s) :
    Inv lib settings (finish job response s) ∧ (finish job response s).own job = none
      ∧ ∀ j, j ≠ job → Onward j s (finish job response s) := by
  have closed : (s.rollback job).own job = none := Shared.own_rest_self rfl
  have ended : Inv lib settings (s.rollback job) := h.rollback
  have logged (r : Response) (same : response = some r) :
      Inv lib settings ((s.rollback job).log (.answered job r)) :=
    ended.log (answerable r same) fun _ none => (by cases none)
  have seen (j : Job) (other : j ≠ job) (r : Response) :
      Onward j s ((s.rollback job).log (.answered job r)) :=
    (Onward.rollback other).trans (.log j _ _ fun _ same => (by cases same))
  unfold finish
  split
  · exact ⟨(logged _ rfl).respond fun _ _ other => (by cases other), closed,
      fun j other => (seen j other _).responses _⟩
  · exact ⟨logged _ rfl, closed, fun j other => seen j other _⟩
  · exact ⟨ended, closed, fun j other => .rollback other⟩

/-- One browser's jar is replaced. -/
theorem Inv.setJar (h : Inv lib settings s) {b : Nat} {jar : Jar} {rest : List (Nat × SetCookies)}
    (fewer : rest ⊆ s.responses)
    (issued : ∀ nonce codeVerifier, jar = ⟨some nonce, some codeVerifier⟩ →
      ∃ at_, .issued (.browser b) nonce codeVerifier at_ ∈ s.trace) :
    Inv lib settings { s with jars := SignIn.setJar s.jars b jar, responses := rest } where
  tables := h.tables
  writing := h.writing
  committed := h.committed
  jars b' nonce codeVerifier same := by
    simp only [SignIn.setJar] at same
    split at same
    · next mine =>
      subst mine
      exact issued nonce codeVerifier same
    · exact h.jars b' nonce codeVerifier same
  responses b' nonce codeVerifier there := h.responses b' nonce codeVerifier (fewer there)
  sent := h.sent
  grounded := h.grounded

/-- A request is sent, or one that was sent is taken up. -/
theorem Inv.requests (h : Inv lib settings s) {sent : List (Client × CallbackRequest)}
    (bound : ∀ client request, (client, request) ∈ sent → Bound lib settings client request s.trace) :
    Inv lib settings { s with sent := sent } :=
  ⟨h.tables, h.writing, h.committed, h.jars, h.responses, bound, h.grounded⟩

/-- The nonce of a sign-in that starts was not drawn before. -/
theorem Inv.issue (h : Inv lib settings s) {client : Client} {nonce codeVerifier : String} {now : Int}
    (fresh : s.trace.any (fun e => decide (e.nonce? = some nonce)) = false) :
    Inv lib settings (s.log (.issued client nonce codeVerifier now)) := by
  refine h.log (fun e there same => ?_) fun _ none => (by cases none)
  exact absurd (decide_eq_true same) (List.any_eq_false.mp fresh e there)

/-- The nonce in the response is the one that was drawn. -/
theorem createAuthorizationUrl_nonce {nonce : String} {now : Int} {codeVerifier : Option String}
    {start : Start} (started : createAuthorizationUrl lib settings nonce now codeVerifier = .ok start) :
    start.oauthNonce = nonce
      ∧ start.state = (createSignedState lib settings.appSecretKey nonce now).1 := by
  unfold createAuthorizationUrl at started
  split at started
  · cases started
  · dsimp only at started
    split at started
    · cases started
    · obtain rfl := Except.ok.inj started
      exact ⟨rfl, rfl⟩

/-- A request has arrived, and none of its commits has raised. -/
structure Arrived (job : Job) (trace : List Event) : Prop where
  arrived : .arrived job ∈ trace
  unraised : Unraised job trace

/-- A request arrives. -/
theorem arrive_kept (job : Job) {s' : Shared} {started : Option (Job × Program (Option Response))}
    (h : Inv lib settings s) (grounded : grounds lib settings (.arrived job) s.trace)
    (arrived : arrive lib settings job s = some (s', started)) :
    Inv lib settings s' ∧ (∀ j, Onward j s s')
      ∧ ∀ i p, started = some (i, p) → p = i.program lib settings ∧ Arrived i s'.trace := by
  unfold arrive at arrived
  split at arrived
  · next fresh =>
    cases arrived
    refine ⟨h.log grounded fun _ none => (by cases none),
      fun j => .log j s _ fun _ same => (by cases same), ?_⟩
    rintro _ _ ⟨⟩
    refine ⟨rfl, List.mem_cons_self .., fun written there => ?_⟩
    rcases List.mem_cons.mp there with same | there
    · cases same
    · -- a session commits only after it has arrived
      obtain ⟨later, earlier, split⟩ := List.append_of_mem there
      have before : .arrived job ∈ earlier := (split ▸ h.grounded).at_split
      have already : .arrived job ∈ s.trace := by
        rw [split]
        exact List.mem_append_right _ (List.mem_cons_of_mem _ before)
      have same : (Event.arrived job).arrives job = true := decide_eq_true (Eq.refl job)
      exact absurd same (List.any_eq_false.mp fresh _ already)
  · cases arrived

theorem happen_kept {e : Happening} {s' : Shared} {started : Option (Job × Program (Option Response))}
    (h : Inv lib settings s) (happened : happen lib settings e s = some (s', started)) :
    Inv lib settings s' ∧ (∀ j, Onward j s s')
      ∧ ∀ job p, started = some (job, p) → p = job.program lib settings ∧ Arrived job s'.trace := by
  -- only an arrival starts a program
  have idle : ∀ job p, (none : Option (Job × Program (Option Response))) = some (job, p) →
      p = job.program lib settings ∧ Arrived job s'.trace := fun _ _ none => (by cases none)
  have logged {client : Client} {nonce codeVerifier : String} {now : Int} (j : Job) :
      Onward j s (s.log (.issued client nonce codeVerifier now)) :=
    .log j s _ fun _ same => (by cases same)
  cases e with
  | start client nonce now codeVerifier =>
    simp only [happen] at happened
    split at happened
    · next fresh =>
      split at happened
      · cases happened
        exact ⟨h, fun j => .refl j s, idle⟩
      · next start started =>
        obtain ⟨same, _⟩ := createAuthorizationUrl_nonce started
        rw [same] at happened
        have issued : Inv lib settings (s.log (.issued client nonce start.oauthPkceVerifier now)) :=
          h.issue fresh
        cases client with
        | browser b =>
          cases happened
          refine ⟨issued.respond ?_, fun j => (logged j).responses _, idle⟩
          rintro _ _ ⟨⟩
          exact ⟨now, List.mem_cons_self ..⟩
        | stranger n =>
          cases happened
          exact ⟨issued, logged, idle⟩
    · cases happened
  | deliver n =>
    simp only [happen] at happened
    split at happened
    · next b cookies found =>
      cases happened
      refine ⟨h.setJar (List.eraseIdx_subset ..) ?_, fun j => ⟨List.suffix_refl _, .refl _, rfl, id⟩,
        idle⟩
      intro nonce codeVerifier same
      cases cookies with
      | delete => cases same
      | set nonce' codeVerifier' =>
        cases same
        exact h.responses b nonce codeVerifier (List.mem_of_getElem? found)
    · cases happened
  | forgetNonce b =>
    cases happened
    refine ⟨h.setJar (fun _ there => there) ?_, fun j => ⟨List.suffix_refl _, .refl _, rfl, id⟩, idle⟩
    rintro nonce codeVerifier ⟨⟩
  | forgetVerifier b =>
    cases happened
    refine ⟨h.setJar (fun _ there => there) ?_, fun j => ⟨List.suffix_refl _, .refl _, rfl, id⟩, idle⟩
    intro nonce codeVerifier same
    cases congrArg Jar.oauthPkceVerifier same
  | send client request =>
    simp only [happen] at happened
    split at happened
    · next honest =>
      cases happened
      refine ⟨h.requests ?_, fun j => ⟨List.suffix_refl _, .refl _, rfl, id⟩, idle⟩
      intro client' request' there
      rcases List.mem_cons.mp there with same | there
      · cases same
        refine ⟨fun right => ?_, ?_⟩
        · obtain ⟨e, there, issues⟩ := List.any_eq_true.mp (honest.2 right)
          cases e with
          | issued client nonce codeVerifier at_ =>
            simp only [Event.issues, decide_eq_true_eq] at issues
            exact ⟨client, nonce, codeVerifier, at_, there, issues⟩
          | arrived | clockRead | exchanged | vouched | refreshed | committed | commitRaised | answered =>
            cases issues
        · rintro b nonce codeVerifier rfl first second
          have carried : s.jars b = ⟨request.oauthNonce, request.oauthPkceVerifier⟩ := honest.1
          rw [first, second] at carried
          exact h.jars b nonce codeVerifier carried
      · exact h.sent client' request' there
    · cases happened
  | callback number n =>
    simp only [happen] at happened
    split at happened
    · next client request found =>
      have taken : Inv lib settings { s with sent := s.sent.eraseIdx n } :=
        h.requests fun client request there => h.sent client request (List.mem_of_mem_eraseIdx there)
      obtain ⟨kept, onward, started⟩ :=
        arrive_kept (.callback number client request) taken
          (h.sent client request (List.mem_of_getElem? found)) happened
      exact ⟨kept, fun j => ⟨(onward j).trace, (onward j).tables, (onward j).own, (onward j).unraised⟩,
        started⟩
    · cases happened
  | credentials number => exact arrive_kept (.credentials number) h trivial happened

end turns

end YTPipe.SignIn
