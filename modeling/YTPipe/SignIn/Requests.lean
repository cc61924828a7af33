import YTPipe.SignIn.Invariant

/-!
# What the requests keep

Each function of the sign-in, and the use of the credentials, between whatever the
other requests do.
-/

namespace YTPipe.SignIn

open SignedState Prog

/-- What a session has seen happen, and the rows it has seen. -/
structure Seen (job : Job) (s s' : Shared) : Prop where
  trace : s.trace ⊆ s'.trace
  view : Grows (s.view job) (s'.view job)
  unraised : Unraised job s.trace → Unraised job s'.trace

namespace Seen

variable {job : Job} {s s' s'' : Shared}

theorem refl (job : Job) (s : Shared) : Seen job s s := ⟨List.Subset.refl _, .refl _, id⟩

theorem trans (h : Seen job s s') (h' : Seen job s' s'') : Seen job s s'' :=
  ⟨List.Subset.trans h.trace h'.trace, h.view.trans h'.view,
    fun unraised => h'.unraised (h.unraised unraised)⟩

theorem log (e : Event) (unraised : ∀ written, e ≠ .commitRaised job written) :
    Seen job s (s.log e) :=
  ⟨List.subset_cons_self .., .refl _, (Onward.log job s e unraised).unraised⟩

theorem user (h : Seen job s s') {u : User} (hu : u ∈ (s.view job).users) : u ∈ (s'.view job).users :=
  h.view.users.subset hu

end Seen

theorem Onward.seen {job : Job} {s s' : Shared} (h : Onward job s s') : Seen job s s' :=
  ⟨h.trace.subset, h.view, h.unraised⟩

section

variable {lib : Library} {settings : Settings} {job : Job} {s : Shared}

/-- What requests are held to; one that is over has no transaction open. -/
def contract (lib : Library) (settings : Settings) :
    System.Contract Job Shared (Option Response) where
  inv := Inv lib settings
  rely := Onward
  post := Answerable lib settings
  idle job s := s.own job = none

abbrev law (lib : Library) (settings : Settings) (job : Job) : Law Command Answer Shared :=
  (contract lib settings).law (service lib settings) job

/-- A call, by what its answer tells. -/
theorem keeps_perform {c : Command} {post : Answer c → Shared → Prop}
    (h : ∀ s', Seen job s s' → Inv lib settings s' → ∀ r s'', answer job c r s' = some s'' →
      Inv lib settings s'' ∧ post r s'') :
    (perform c).Keeps (law lib settings job) post s := by
  apply keeps_request
  intro s' onward inv r s'' answered
  exact h s' onward.seen inv r s'' answered

/-- A statement, by what it gives. -/
theorem keepsOk_statement {α : Type} {p : Program (Except String α)} {good : α → Shared → Prop}
    (h : p.Keeps (law lib settings job) (fun r s => ∀ a, r = .ok a → good a s) s) :
    KeepsOk (law lib settings job) good (statement p) s := by
  apply keeps_bind
  refine keeps_mono (fun r s kept => ?_) h
  cases r with
  | ok a =>
    rintro _ ⟨⟩
    exact kept a rfl
  | error text =>
    intro a other
    cases other

/-- A call whose answer is logged. -/
theorem keepsOk_logged {c : Command} {good : Answer c → Shared → Prop} (told : Answer c → Event)
    (answers : ∀ r s', answer job c r s' = some (s'.log (told r)))
    (uncommitted : ∀ r, (told r).tables? = none)
    (unraised : ∀ r written, told r ≠ .commitRaised job written)
    (grounded : ∀ s', Seen job s s' → ∀ r, grounds lib settings (told r) s'.trace)
    (h : ∀ s', Seen job s s' → ∀ r, told r ∈ s'.trace → good r s') :
    KeepsOk (law lib settings job) good (ExceptT.lift (perform c) : Attempt (Answer c)) s := by
  apply keepsOk_lift
  apply keeps_perform
  intro s' seen inv r s'' answered
  rw [answers] at answered
  cases answered
  refine ⟨inv.log (grounded s' seen r) fun t there => ?_, ?_⟩
  · rw [uncommitted] at there
    cases there
  · exact h _ (seen.trans (.log _ (unraised r))) r (List.mem_cons_self ..)

theorem keepsOk_readClock {good : Int → Shared → Prop}
    (h : ∀ s', Seen job s s' → ∀ now, .clockRead job now ∈ s'.trace → good now s') :
    KeepsOk (law lib settings job) good readClock s :=
  keepsOk_logged (fun now => .clockRead job now) (fun _ _ => rfl) (fun _ => rfl)
    (fun _ _ same => by cases same) (fun _ _ _ => trivial) h

theorem keepsOk_credentialsExpired {good : Bool → Shared → Prop} {credentials : Credentials}
    (h : ∀ s', Seen job s s' → ∀ expired, good expired s') :
    KeepsOk (law lib settings job) good (credentialsExpired credentials) s := by
  apply keepsOk_lift
  apply keeps_perform
  rintro s' seen inv expired _ ⟨⟩
  exact ⟨inv, h s' seen expired⟩

/-- The exchange a callback may make. -/
theorem keepsOk_fetchToken {good : Except String Credentials → Shared → Prop}
    {code codeVerifier : String}
    (grounded : ∀ s' outcome, Seen job s s' →
      grounds lib settings (.exchanged job code codeVerifier outcome) s'.trace)
    (h : ∀ s', Seen job s s' → ∀ outcome, .exchanged job code codeVerifier outcome ∈ s'.trace →
      good outcome s') :
    KeepsOk (law lib settings job) good (fetchToken code codeVerifier) s :=
  keepsOk_logged (fun outcome => .exchanged job code codeVerifier outcome) (fun _ _ => rfl)
    (fun _ => rfl) (fun _ _ same => by cases same) (fun s' seen outcome => grounded s' outcome seen) h

theorem keepsOk_fetchUserEmail {good : String → Shared → Prop} {token : String}
    (exchanged : ∃ code codeVerifier c, .exchanged job code codeVerifier (.ok c) ∈ s.trace
      ∧ c.token = token)
    (h : ∀ s', Seen job s s' → ∀ email, .vouched job token email ∈ s'.trace → good email s') :
    KeepsOk (law lib settings job) good (fetchUserEmail token) s := by
  obtain ⟨code, codeVerifier, c, exchange, same⟩ := exchanged
  unfold fetchUserEmail
  apply keepsOk_bind
  apply keepsOk_lift
  apply keeps_perform
  intro s' seen inv r s'' answered
  cases r with
  | error e =>
    cases answered
    cases e <;> exact ⟨inv, keepsOk_throw⟩
  | ok payload =>
    simp only [answer] at answered
    split at answered
    · next email vouched =>
      cases answered
      refine ⟨inv.log ⟨code, codeVerifier, c, seen.trace exchange, same⟩
        fun _ none => (by cases none), keepsOk_of ?_⟩
      intro email' found
      obtain rfl := Except.ok.inj (vouched.symm.trans found)
      exact h _ (seen.trans (.log _ fun _ same => (by cases same))) email (List.mem_cons_self ..)
    · next failure refused =>
      cases answered
      refine ⟨inv, keepsOk_of ?_⟩
      intro email found
      rw [refused] at found
      cases found

/-- A user who is added is the first. -/
theorem Sound.addUser {trace : List Event} {t : Tables} (h : Sound trace t) (empty : t.users = [])
    {u : User} (vouched : ∃ job token, .vouched job token u.email ∈ trace) :
    Sound trace { t with users := [u] } ∧ Grows t { t with users := [u] } := by
  have none : t.accounts = [] := by
    apply List.eq_nil_iff_forall_not_mem.mpr
    intro a ha
    obtain ⟨u', hu', _⟩ := h.held a ha
    rw [empty] at hu'
    cases hu'
  constructor
  · constructor
    · exact Nat.le_refl 1
    · intro u' hu'
      obtain rfl := List.mem_singleton.mp hu'
      exact vouched
    · exact h.oneAccount
    · exact h.google
    · intro a ha
      rw [show ({ t with users := [u] } : Tables).accounts = [] from none] at ha
      cases ha
  · exact ⟨empty ▸ List.nil_prefix, List.prefix_refl _⟩

theorem keepsOk_getOrCreateSingleUser {good : User → Shared → Prop} {email : String}
    (vouched : ∃ token, .vouched job token email ∈ s.trace)
    (h : ∀ s', Seen job s s' → ∀ u ∈ (s'.view job).users, u.email = email → good u s') :
    KeepsOk (law lib settings job) good (getOrCreateSingleUser email) s := by
  obtain ⟨token, vouched⟩ := vouched
  unfold getOrCreateSingleUser
  apply keepsOk_bind
  apply keepsOk_statement
  apply keeps_perform
  intro s' seen inv r s'' answered
  cases r with
  | error text =>
    cases answered
    exact ⟨inv, fun _ other => (by cases other)⟩
  | ok users =>
    simp only [answer] at answered
    split at answered
    case isFalse => cases answered
    next listed =>
    cases answered
    refine ⟨inv, ?_⟩
    rintro _ ⟨⟩
    cases users with
    | nil =>
      apply keepsOk_statement
      apply keeps_perform
      intro v onward inv r v' answered
      have seen := seen.trans onward
      cases r with
      | error text =>
        cases answered
        exact ⟨inv, fun _ other => (by cases other)⟩
      | ok user =>
        simp only [answer] at answered
        split at answered
        case isFalse => cases answered
        next guard =>
        cases answered
        obtain ⟨free, empty, address⟩ := guard
        obtain ⟨sound, grows⟩ := (inv.view job).1.addUser empty (u := user)
          ⟨job, token, address ▸ seen.trace vouched⟩
        refine ⟨inv.write sound grows, ?_⟩
        rintro _ ⟨⟩
        have after : Seen job v (v.write job { v.view job with users := [user] }) :=
          ⟨List.Subset.refl _, by rw [Shared.view_write]; exact grows, id⟩
        refine h _ (seen.trans after) user ?_ address
        rw [Shared.view_write]
        exact List.mem_singleton_self user
    | cons user rest =>
      cases rest with
      | cons _ _ => exact keepsOk_throw
      | nil =>
        dsimp only
        split
        · exact keepsOk_throw
        · next same =>
          apply keepsOk_pure
          refine h s' seen user ?_ (Decidable.not_not.mp same)
          rw [← listed]
          exact List.mem_singleton_self user

/-- The user's account is among those the session sees. -/
def HasAccount (job : Job) (userId : Int) (s : Shared) : Prop :=
  ∃ a ∈ (s.view job).accounts, a.userId = userId

theorem HasAccount.seen {userId : Int} {s' : Shared} (h : HasAccount job userId s)
    (seen : Seen job s s') : HasAccount job userId s' := by
  obtain ⟨a, ha, same⟩ := h
  obtain ⟨a', ha', key⟩ := seen.view.mem_key ha
  exact ⟨a', ha', (congrArg (·.2.1) key).trans same⟩

/-- What a session may flush for a user: tokens that were granted for the address. -/
inductive Ready (job : Job) (u : User) (s : Shared) : Unflushed → Prop
  | added {accessToken refreshToken : String} {tokenExpiry : Option Stamp}
      (access : ∃ c, Granted s.trace u.email c ∧ c.token = accessToken)
      (refresh : ∃ c, Granted s.trace u.email c ∧ c.refreshToken = some refreshToken)
      (filled : refreshToken ≠ "") : Ready job u s (.added u.id accessToken refreshToken tokenExpiry)
  | loaded {row account : OauthAccount} (has : HasAccount job u.id s)
      (held : Held s.trace u.email account) : Ready job u s (.loaded row account)

theorem Ready.seen {u : User} {account : Unflushed} {s' : Shared} (h : Ready job u s account)
    (seen : Seen job s s') : Ready job u s' account := by
  cases h with
  | added access refresh filled =>
    obtain ⟨c, granted, same⟩ := access
    obtain ⟨c', granted', same'⟩ := refresh
    exact .added ⟨c, granted.later seen.trace, same⟩ ⟨c', granted'.later seen.trace, same'⟩ filled
  | loaded has held => exact .loaded (has.seen seen) (held.later seen.trace)

/-- A token that is given back is kept where none is. -/
theorem orElse_cases (token : Option String) (default : String) :
    (∃ t, token = some t ∧ t ≠ "" ∧ orElse token default = t) ∨ orElse token default = default := by
  cases token with
  | none => exact .inr rfl
  | some t =>
    simp only [orElse]
    split
    · exact .inr rfl
    · next filled => exact .inl ⟨t, rfl, filled, rfl⟩

/-- An account that takes up what was granted. -/
theorem Held.renew {trace : List Event} {email : String} {a : OauthAccount} (h : Held trace email a)
    {c : Credentials} (granted : Granted trace email c) :
    Held trace email { a with
      accessToken := c.token
      refreshToken := orElse c.refreshToken a.refreshToken
      tokenExpiry := normalizeUtcDatetime c.expiry } where
  access := ⟨c, granted, rfl⟩
  refresh := by
    rcases orElse_cases c.refreshToken a.refreshToken with ⟨t, given, _, same⟩ | same
    · exact ⟨c, granted, given.trans (congrArg some same.symm)⟩
    · simp only [same]
      exact h.refresh
  filled := by
    rcases orElse_cases c.refreshToken a.refreshToken with ⟨t, _, filled, same⟩ | same
    · exact same ▸ filled
    · simp only [same]
      exact h.filled

/-- A session loads the account of its user. -/
theorem keepsOk_selectAccount {good : Option OauthAccount → Shared → Prop} {u : User}
    (user : u ∈ (s.view job).users)
    (h : ∀ s', Seen job s s' → ∀ found, (∀ a, found = some a →
      HasAccount job u.id s' ∧ Held s'.trace u.email a) → good found s') :
    (selectAccount u.id).Keeps (law lib settings job) (fun r s => ∀ a, r = .ok a → good a s) s := by
  apply keeps_perform
  intro s' seen inv r s'' answered
  cases r with
  | error text =>
    cases answered
    exact ⟨inv, fun _ other => (by cases other)⟩
  | ok found =>
    simp only [answer] at answered
    split at answered
    case isFalse => cases answered
    next search =>
    cases answered
    refine ⟨inv, ?_⟩
    rintro _ ⟨⟩
    refine h s' seen found fun a same => ?_
    rw [same] at search
    have there := List.mem_of_find?_eq_some search
    have owned : a.userId = u.id := by
      have is := List.find?_some search
      simp only [OauthAccount.isOf, Bool.and_eq_true, decide_eq_true_eq] at is
      exact is.1
    obtain ⟨u', hu', _, held⟩ := (inv.view job).1.held a there
    obtain rfl := (inv.view job).1.user_eq hu' (seen.user user)
    exact ⟨⟨a, there, owned⟩, held⟩

theorem keepsOk_upsertOauthAccount {good : Unflushed → Shared → Prop} {u : User} {c : Credentials}
    (user : u ∈ (s.view job).users) (granted : Granted s.trace u.email c)
    (h : ∀ s', Seen job s s' → ∀ account, Ready job u s' account → good account s') :
    KeepsOk (law lib settings job) good (upsertOauthAccount u c) s := by
  unfold upsertOauthAccount
  apply keepsOk_bind
  apply keepsOk_statement
  apply keepsOk_selectAccount user
  intro s' seen found loaded
  have granted := granted.later seen.trace
  cases found with
  | none =>
    dsimp only
    split
    · exact keepsOk_throw
    · next filled =>
      apply keepsOk_pure
      refine h s' seen _ (.added ⟨c, granted, rfl⟩ ⟨c, granted, ?_⟩ filled)
      rcases orElse_cases c.refreshToken "" with ⟨t, given, _, same⟩ | empty
      · exact given.trans (congrArg some same.symm)
      · exact absurd empty filled
  | some account =>
    obtain ⟨has, held⟩ := loaded account rfl
    apply keepsOk_pure
    exact h s' seen _ (.loaded has (held.renew granted))

/-- The first account of a user. -/
theorem Sound.addAccount {trace : List Event} {t : Tables} (h : Sound trace t) {u : User}
    (hu : u ∈ t.users) (absent : t.accounts.any (OauthAccount.isOf u.id) = false) {a : OauthAccount}
    (owned : a.userId = u.id) (google : a.provider = googleProvider) (held : Held trace u.email a) :
    Sound trace { t with accounts := t.accounts ++ [a] }
      ∧ Grows t { t with accounts := t.accounts ++ [a] } := by
  have none : t.accounts = [] := by
    apply List.eq_nil_iff_forall_not_mem.mpr
    intro b hb
    obtain ⟨u', hu', same, _⟩ := h.held b hb
    obtain rfl := h.user_eq hu hu'
    have is : b.isOf u.id = true := by
      simp only [OauthAccount.isOf, same, h.google b hb, decide_true, Bool.and_self]
    exact absurd is (Bool.not_eq_true _ ▸ List.any_eq_false.mp absent b hb)
  constructor
  · constructor
    · exact h.oneUser
    · exact h.vouched
    · simp [none]
    · intro b hb
      rw [show ({ t with accounts := t.accounts ++ [a] } : Tables).accounts = [a] by simp [none]] at hb
      obtain rfl := List.mem_singleton.mp hb
      exact google
    · intro b hb
      rw [show ({ t with accounts := t.accounts ++ [a] } : Tables).accounts = [a] by simp [none]] at hb
      obtain rfl := List.mem_singleton.mp hb
      exact ⟨u, hu, owned, held⟩
  · exact ⟨List.prefix_refl _, by simp only [none, List.nil_append, List.map_nil, List.nil_prefix]⟩

/-- Columns that were granted are written over columns that were. -/
theorem Held.apply {trace : List Event} {email : String} {row account a : OauthAccount}
    (h : Held trace email a) (account_held : Held trace email account) :
    Held trace email ((AccountChanges.between row account).apply a) := by
  have column {α : Type} [DecidableEq α] {P : α → Prop} (loaded value current : α) (first : P value)
      (second : P current) : P ((changed loaded value).getD current) := by
    unfold changed
    split
    · exact second
    · exact first
  constructor
  · exact column (P := fun t => ∃ c, Granted trace email c ∧ c.token = t) _ _ _
      account_held.access h.access
  · exact column (P := fun t => ∃ c, Granted trace email c ∧ c.refreshToken = some t) _ _ _
      account_held.refresh h.refresh
  · exact column (P := (· ≠ "")) _ _ _ account_held.filled h.filled

/-- The changed columns of an account. -/
theorem Sound.updateAccount {trace : List Event} {t : Tables} (h : Sound trace t) {u : User}
    (hu : u ∈ t.users) (row : OauthAccount) {account : OauthAccount}
    (held : Held trace u.email account) (id : Int) :
    Sound trace { t with accounts := t.accounts.map fun a =>
        if a.id = id then (AccountChanges.between row account).apply a else a }
      ∧ Grows t { t with accounts := t.accounts.map fun a =>
        if a.id = id then (AccountChanges.between row account).apply a else a } := by
  have key (a : OauthAccount) :
      (if a.id = id then (AccountChanges.between row account).apply a else a).key = a.key := by
    split <;> rfl
  constructor
  · constructor
    · exact h.oneUser
    · exact h.vouched
    · rw [List.length_map]
      exact h.oneAccount
    · intro b hb
      obtain ⟨a, ha, rfl⟩ := List.mem_map.mp hb
      exact (congrArg (·.2.2) (key a)).trans (h.google a ha)
    · intro b hb
      obtain ⟨a, ha, rfl⟩ := List.mem_map.mp hb
      obtain ⟨u', hu', same, before⟩ := h.held a ha
      obtain rfl := h.user_eq hu hu'
      refine ⟨u, hu, (congrArg (·.2.1) (key a)).trans same, ?_⟩
      split
      · exact before.apply held
      · exact before
  · refine ⟨List.prefix_refl _, ?_⟩
    have same : (t.accounts.map fun a => if a.id = id then (AccountChanges.between row account).apply a
        else a).map OauthAccount.key = t.accounts.map OauthAccount.key := by
      rw [List.map_map]
      exact List.map_congr_left fun a _ => key a
    exact same ▸ List.prefix_refl _

/-- What a session writes, it sees. -/
theorem Seen.write {t : Tables} (grows : Grows (s.view job) t) : Seen job s (s.write job t) :=
  ⟨List.Subset.refl _, by rw [Shared.view_write]; exact grows, id⟩

theorem keepsOk_flush {good : Unit → Shared → Prop} {u : User} {account : Unflushed}
    (user : u ∈ (s.view job).users) (ready : Ready job u s account)
    (h : ∀ s', Seen job s s' → HasAccount job u.id s' → good () s') :
    KeepsOk (law lib settings job) good (flush account) s := by
  cases account with
  | added userId accessToken refreshToken tokenExpiry =>
    apply keepsOk_statement
    apply keeps_perform
    intro s' seen inv r s'' answered
    cases r with
    | error text =>
      cases answered
      exact ⟨inv, fun _ other => (by cases other)⟩
    | ok done =>
      simp only [answer] at answered
      split at answered
      case isFalse => cases answered
      next guard =>
      cases answered
      cases ready.seen seen with
      | added access refresh filled =>
        obtain ⟨sound, grows⟩ := (inv.view job).1.addAccount (seen.user user) guard.2.1
          (a := ⟨(s'.view job).accounts.length + 1, u.id, googleProvider, accessToken, refreshToken,
            tokenExpiry⟩) rfl rfl ⟨access, refresh, filled⟩
        refine ⟨inv.write sound grows, ?_⟩
        rintro _ ⟨⟩
        refine h _ (seen.trans (.write grows)) ?_
        unfold HasAccount
        rw [Shared.view_write]
        exact ⟨_, List.mem_append_right _ (List.mem_singleton_self _), rfl⟩
  | loaded row account =>
    dsimp only [flush]
    split
    · cases ready with
      | loaded has held => exact keepsOk_pure (h s (.refl job s) has)
    · apply keepsOk_statement
      apply keeps_perform
      intro s' seen inv r s'' answered
      cases r with
      | error text =>
        cases answered
        exact ⟨inv, fun _ other => (by cases other)⟩
      | ok done =>
        simp only [answer] at answered
        split at answered
        case isFalse => cases answered
        next guard =>
        cases answered
        cases ready.seen seen with
        | loaded has held =>
          obtain ⟨sound, grows⟩ := (inv.view job).1.updateAccount (seen.user user) row held row.id
          refine ⟨inv.write sound grows, ?_⟩
          rintro _ ⟨⟩
          have after : Seen job s' _ := .write grows
          exact h _ (seen.trans after) (has.seen after)

/-- What a session saw is durable. -/
structure Durable (job : Job) (s : Shared) : Prop where
  committed : .committed job (s.view job) ∈ s.trace
  sound : Sound s.trace (s.view job)

/-- A commit that comes back has made durable what the session saw; one that raises is
not gone on from. -/
theorem keepsOk_commitOrRaise {good : Unit → Shared → Prop} (arrived : .arrived job ∈ s.trace)
    (h : ∀ s', Seen job s s' → Durable job s' → good () s') :
    KeepsOk (law lib settings job) good commitOrRaise s := by
  unfold commitOrRaise
  apply keepsOk_bind
  apply keepsOk_lift
  apply keeps_perform
  intro s' seen inv r s'' answered
  have kept := inv.answer_commit (seen.trace arrived) answered
  cases r with
  | failed text => exact ⟨kept, keepsOk_throw⟩
  | unheard text => exact ⟨kept, keepsOk_throw⟩
  | committed =>
    cases answered
    have view : ((s'.commit job).log (.committed job (s'.view job))).view job = s'.view job :=
      Shared.view_commit
    refine ⟨kept, keepsOk_pure (h _ (seen.trans ⟨List.subset_cons_self .., ?_, ?_⟩) ⟨?_, ?_⟩)⟩
    · rw [view]
      exact .refl _
    · exact (Onward.log job (s'.commit job) (.committed job (s'.view job))
        fun _ same => (by cases same)).unraised
    · rw [view]
      exact List.mem_cons_self ..
    · exact (kept.view job).1

/-- An exchange that is opened has both cookies, and the state of the first. -/
theorem openExchange_ok {state secretKey : Text} {now : Int}
    {cookieNonce cookieCodeVerifier : Option String}
    {payload : Json.Dict}
    (h : openExchange lib state secretKey now cookieNonce cookieCodeVerifier = .ok payload) :
    ∃ nonce codeVerifier, cookieNonce = some nonce ∧ cookieCodeVerifier = some codeVerifier
      ∧ payload.getStr? "nonce" = some nonce
      ∧ verifySignedState lib state secretKey 600 now = .ok payload := by
  unfold openExchange at h
  split at h
  · cases h
  · cases h
  · next verified =>
    split at h
    · cases h
    · next nonce =>
      split at h
      · cases h
      · next same =>
        split at h
        · cases h
        · next carried =>
          cases h
          obtain ⟨absent, _⟩ := not_or.mp carried
          obtain ⟨codeVerifier, verifier⟩ := Option.ne_none_iff_exists'.mp absent
          exact ⟨nonce, codeVerifier, rfl, verifier, Decidable.not_not.mp (not_or.mp same).2, verified⟩

/-- What a callback knows of the user it signs in. -/
structure SigningIn (job : Job) (u : User) (s : Shared) : Prop where
  user : u ∈ (s.view job).users
  vouched : ∃ token, .vouched job token u.email ∈ s.trace
  account : HasAccount job u.id s

theorem keepsOk_exchangeCodeForAccount {good : User → Shared → Prop} {number : Nat} {client : Client}
    {request : CallbackRequest} (name : job = .callback number client request)
    (arrived : .arrived job ∈ s.trace)
    (h : ∀ s', Seen job s s' → ∀ u, SigningIn job u s' → good u s') :
    KeepsOk (law lib settings job) good (exchangeCodeForAccount lib settings request) s := by
  unfold exchangeCodeForAccount
  apply keepsOk_bind
  apply keepsOk_of
  intro _ _
  apply keepsOk_bind
  apply keepsOk_readClock
  intro s₁ seen₁ now read
  cases opening : openExchange lib request.state settings.appSecretKey now request.oauthNonce
      request.oauthPkceVerifier with
  | error refusal => cases refusal <;> exact keepsOk_throw
  | ok payload =>
    obtain ⟨_, codeVerifier, _, verifier, _⟩ := openExchange_ok opening
    apply keepsOk_bind
    apply keepsOk_fetchToken
    · intro s' outcome seen
      exact ⟨number, client, request, now, payload, name, seen.trace (seen₁.trace arrived),
        seen.trace read, rfl, by rw [verifier]; rfl, opening⟩
    intro s₂ seen₂ outcome exchanged
    cases outcome with
    | error text => exact keepsOk_throw
    | ok credentials =>
      apply keepsOk_bind
      apply keepsOk_fetchUserEmail ⟨_, _, credentials, exchanged, rfl⟩
      intro s₃ seen₃ email vouched
      apply keepsOk_bind
      apply keepsOk_getOrCreateSingleUser ⟨_, vouched⟩
      rintro s₄ seen₄ u user rfl
      apply keepsOk_bind
      have granted : Granted s₄.trace u.email credentials :=
        .exchanged (seen₄.trace (seen₃.trace exchanged)) (seen₄.trace vouched)
      apply keepsOk_upsertOauthAccount user granted
      intro s₅ seen₅ account ready
      apply keepsOk_bind
      apply keepsOk_flush (seen₅.user user) ready
      intro s₆ seen₆ has
      apply keepsOk_pure
      have seen := seen₁.trans (seen₂.trans (seen₃.trans (seen₄.trans (seen₅.trans seen₆))))
      exact h s₆ seen u ⟨seen₆.user (seen₅.user user),
        ⟨_, seen₆.trace (seen₅.trace (seen₄.trace vouched))⟩, has⟩

/-- A callback answers that somebody is signed in only after Google vouched for the
address and the account was made durable. -/
theorem keeps_googleOauthCallback {number : Nat} {client : Client} {request : CallbackRequest}
    (name : job = .callback number client request) (arrived : Arrived job s.trace) :
    (googleOauthCallback lib settings request).Keeps (law lib settings job)
      (fun r s => grounds lib settings (.answered job r) s.trace) s := by
  have signing : KeepsOk (law lib settings job)
      (fun u s => SigningIn job u s ∧ Durable job s ∧ Unraised job s.trace) (do
        let user ← exchangeCodeForAccount lib settings request
        commitOrRaise
        return user) s := by
    apply keepsOk_bind
    apply keepsOk_exchangeCodeForAccount name arrived.arrived
    intro s' opening u signing
    apply keepsOk_bind
    apply keepsOk_commitOrRaise (opening.trace arrived.arrived)
    intro s'' seen durable
    apply keepsOk_pure
    obtain ⟨token, vouched⟩ := signing.vouched
    exact ⟨⟨seen.user signing.user, ⟨token, seen.trace vouched⟩, signing.account.seen seen⟩, durable,
      seen.unraised (opening.unraised arrived.unraised)⟩
  unfold googleOauthCallback
  apply keeps_bind
  refine keeps_mono (fun result s signed => ?_) signing
  cases result with
  | error failure =>
    apply keeps_bind
    apply keeps_perform
    rintro s' _ inv r _ ⟨⟩
    refine ⟨inv.rollback, keeps_pure ?_⟩
    cases failure <;> trivial
  | ok u =>
    obtain ⟨⟨user, ⟨token, vouched⟩, a, there, owned⟩, durable, unraised⟩ := signed u rfl
    apply keeps_bind
    apply keeps_perform
    intro s' seen inv r s'' answered
    cases r with
    | error text =>
      cases answered
      exact ⟨inv, keeps_pure trivial⟩
    | ok row =>
      simp only [answer] at answered
      split at answered
      case isFalse => cases answered
      next found =>
      cases answered
      obtain rfl := (inv.view job).1.user_eq (List.mem_of_find?_eq_some found) (seen.user user)
      exact ⟨inv, keeps_pure ⟨seen.unraised unraised, token, s.view job, row, a, seen.trace vouched,
        seen.trace durable.committed, durable.sound.users_eq user, rfl, durable.sound.accounts_eq there,
        owned⟩⟩

theorem keepsOk_refresh {good : Except RefreshFailure Credentials → Shared → Prop} {token : String}
    (h : ∀ s', Seen job s s' → ∀ outcome, .refreshed job token outcome ∈ s'.trace →
      good outcome s') :
    KeepsOk (law lib settings job) good (refresh token) s :=
  keepsOk_logged (fun outcome => .refreshed job token outcome) (fun _ _ => rfl)
    (fun _ => rfl) (fun _ _ same => by cases same) (fun _ _ _ => trivial) h

/-- What a refresh gives was granted for the address too. -/
theorem keepsOk_refreshExpired {u : User} {account : OauthAccount} {credentials : Credentials}
    (user : u ∈ (s.view job).users) (has : HasAccount job u.id s) (held : Held s.trace u.email account) :
    KeepsOk (law lib settings job) (fun _ _ => True) (refreshExpired account credentials) s := by
  unfold refreshExpired
  apply keepsOk_bind
  apply keepsOk_credentialsExpired
  intro s₁ seen₁ expired
  split
  · apply keepsOk_bind
    apply keepsOk_refresh
    intro s₂ seen₂ outcome refreshed
    have seen := seen₁.trans seen₂
    cases outcome with
    | error failure => cases failure <;> exact keepsOk_throw
    | ok fresh =>
      have held := held.later seen.trace
      obtain ⟨c, granted, same⟩ := held.refresh
      apply keepsOk_bind
      apply keepsOk_flush (seen.user user)
        (.loaded (has.seen seen) (held.renew (.refreshed granted same refreshed)))
      exact fun _ _ _ => keepsOk_pure trivial
  · exact keepsOk_pure trivial

theorem keepsOk_ensureValidCredentials {u : User} {account : OauthAccount}
    (user : u ∈ (s.view job).users) (has : HasAccount job u.id s) (held : Held s.trace u.email account) :
    KeepsOk (law lib settings job) (fun _ _ => True) (ensureValidCredentials settings account) s := by
  unfold ensureValidCredentials
  apply keepsOk_bind
  apply keepsOk_of
  intro _ _
  apply keepsOk_bind
  refine keeps_mono (fun result s _ => ?_) (keepsOk_refreshExpired user has held)
  intro credentials _
  apply keepsOk_bind
  apply keepsOk_credentialsExpired
  intro s' _ expired
  split
  · exact keepsOk_throw
  · exact keepsOk_pure trivial

/-- A request that has arrived has arrived for good. -/
theorem keeps_arrived {α : Type} {p : Program α} {post : α → Shared → Prop}
    (arrived : .arrived job ∈ s.trace) (h : p.Keeps (law lib settings job) post s) :
    p.Keeps (law lib settings job) (fun a s => post a s ∧ .arrived job ∈ s.trace) s := by
  apply keeps_lasting (fun s => .arrived job ∈ s.trace) _ _ arrived h
  · exact fun _ _ there onward => onward.mem there
  · intro c r s s' inv there answered
    obtain ⟨j, other⟩ := exists_other job
    exact (answer_onward inv answered other).mem there

theorem keeps_useCredentials (arrived : .arrived job ∈ s.trace) :
    (useCredentials settings).Keeps (law lib settings job) (fun _ _ => True) s := by
  unfold useCredentials
  apply keeps_bind
  apply keeps_perform
  intro s' seen inv r s'' answered
  cases r with
  | error text =>
    cases answered
    exact ⟨inv, keeps_pure trivial⟩
  | ok users =>
    simp only [answer] at answered
    split at answered
    case isFalse => cases answered
    next listed =>
    cases answered
    refine ⟨inv, ?_⟩
    cases users with
    | nil => exact keeps_pure trivial
    | cons user rest =>
      have there : user ∈ (s'.view job).users := listed ▸ List.mem_cons_self ..
      have loading : (selectAccount user.id).Keeps (law lib settings job) (fun r s => ∀ found,
          r = .ok found → ∀ a, found = some a →
            user ∈ (s.view job).users ∧ HasAccount job user.id s ∧ Held s.trace user.email a) s' :=
        keepsOk_selectAccount there fun _ seen _ loaded a same => ⟨seen.user there, loaded a same⟩
      apply keeps_bind
      refine keeps_mono (fun r s loaded => ?_) (keeps_arrived (seen.trace arrived) loading)
      cases r with
      | error text => exact keeps_pure trivial
      | ok found =>
        cases found with
        | none => exact keeps_pure trivial
        | some account =>
          obtain ⟨⟨there, has, held⟩, arrived⟩ := And.imp_left (fun h => h _ rfl account rfl) loaded
          apply keeps_bind
          refine keeps_mono (fun _ _ known => ?_)
            (keeps_arrived arrived (keepsOk_ensureValidCredentials there has held))
          apply keeps_bind
          apply keeps_perform
          rintro v seen inv commits _ ⟨⟩
          refine ⟨inv, ?_⟩
          split
          · apply keeps_bind
            apply keeps_perform
            intro v' seen' inv r v'' answered
            exact ⟨inv.answer_commit (seen'.trace (seen.trace known.2)) answered, keeps_pure trivial⟩
          · apply keeps_perform
            rintro v' _ inv r _ ⟨⟩
            exact ⟨inv.rollback, trivial⟩

/-- What a request under way is held to, it keeps. -/
theorem keeps_program (arrived : Arrived job s.trace) :
    (job.program lib settings).Keeps (law lib settings job) (Answerable lib settings job) s := by
  cases job with
  | callback number client request =>
    apply keeps_bind
    refine keeps_mono (fun response s answered => ?_) (keeps_googleOauthCallback rfl arrived)
    rintro _ ⟨⟩
    exact answered
  | credentials number =>
    apply keeps_bind
    refine keeps_mono (fun _ s _ => ?_) (keeps_useCredentials arrived.arrived)
    intro _ none
    cases none

theorem sound (lib : Library) (settings : Settings) :
    (service lib settings).Sound (contract lib settings) where
  refl := Onward.refl
  trans _ _ _ _ h h' := h.trans h'
  ended _ _ _ _ h onward := answerable_onward h onward
  idle _ _ _ closed onward := onward.own.trans closed
  answer _ _ _ _ _ inv answered _ other := answer_onward inv answered other
  finish _ _ _ inv ended := finish_kept inv ended
  abandon _ _ inv := ⟨inv.rollback, Shared.own_rest_self rfl, fun _ other => .rollback other⟩
  other _ _ _ _ inv happened := by
    obtain ⟨kept, onward, started⟩ := happen_kept inv happened
    refine ⟨kept, onward, ?_⟩
    rintro job _ rfl _
    obtain ⟨rfl, arrived⟩ := started job _ rfl
    exact keeps_program arrived

theorem safe_opened (lib : Library) (settings : Settings) :
    System.Safe (service lib settings) (contract lib settings) opened where
  holds := by
    constructor
    · constructor <;> simp [opened]
    · intro _ _ none
      cases none
    · intro _ none
      cases none
    · intro _ _ _ none
      cases none
    · intro _ _ _ none
      cases none
    · intro _ _ none
      cases none
    · trivial
  keeps _ _ none := by cases none
  idle _ _ := rfl

end

end YTPipe.SignIn
