import YTPipe.SignIn.Requests

/-!
# Whose sign-in it is

What every run of sign-ins and users of the credentials keeps: a browser's callback is
followed up only under the state and the verifier that were issued to that browser, and
the one account stays the first owner's.
-/

namespace YTPipe.SignIn

open SignedState

section

variable (lib : Library) (settings : Settings)

/-- A state that was created is verified as long as it is not too old, and as its own. -/
theorem verify_created_eq (nonce : String) (created now : Int) :
    verifySignedState lib (createSignedState lib settings.appSecretKey nonce created).1
        settings.appSecretKey 600 now
      = if now - created > 600 then .error (.valueError (some "OAuth state has expired."))
        else .ok (statePayload nonce created) := by
  have split (signature : Text) :
      Text.partition '.' (urlsafeEncode (encodeAscii (Json.dumpsCompact lib.floats
        (statePayload nonce created))) ++ '.' :: signature)
        = (urlsafeEncode (encodeAscii (Json.dumpsCompact lib.floats
          (statePayload nonce created))), true, signature) :=
    Text.partition_append (dot_free _)
  have issued : asInt (Json.Dict.get? (statePayload nonce created) "issued_at") = some created := rfl
  unfold verifySignedState createSignedState
  dsimp only
  rw [split]
  dsimp only
  rw [signPayload_ascii, if_neg (by decide), if_neg (fun other => other rfl), decode_urlsafeEncode]
  dsimp only
  rw [loads_statePayload]
  dsimp only
  rw [issued]

/-- A state that is verified is rightly signed. -/
theorem rightlySigned_of_verify {state : Text} {now : Int} {payload : Json.Dict}
    (verified : verifySignedState lib state settings.appSecretKey 600 now = .ok payload) :
    rightlySigned lib settings state = true := by
  unfold verifySignedState at verified
  unfold rightlySigned
  split at verified
  · cases verified
  · next encodedPayload signature split =>
    rw [split]
    split at verified
    · cases verified
    · split at verified
      · cases verified
      · next right => exact decide_eq_true (Decidable.not_not.mp right)

/-- An issued nonce is one sign-in's. -/
theorem issued_unique {trace : List Event} (grounded : Grounded (grounds lib settings) trace)
    {client client' : Client} {nonce codeVerifier codeVerifier' : String} {at_ at_' : Int}
    (there : .issued client nonce codeVerifier at_ ∈ trace)
    (there' : .issued client' nonce codeVerifier' at_' ∈ trace) :
    client = client' ∧ codeVerifier = codeVerifier' ∧ at_ = at_' := by
  induction trace with
  | nil => cases there
  | cons e trace ih =>
    obtain ⟨fresh, before⟩ := grounded
    rcases List.mem_cons.mp there with rfl | first
    · rcases List.mem_cons.mp there' with same | second
      · cases same
        exact ⟨rfl, rfl, rfl⟩
      · exact absurd rfl (fresh _ second)
    · rcases List.mem_cons.mp there' with rfl | second
      · exact absurd rfl (fresh _ first)
      · exact ih before first second

/-- Google is asked to exchange the code of a browser's callback only if the callback came
with a state that was issued to that very browser, at most ten minutes before; and it is
asked with the verifier of that issue. Nobody else was issued the state. -/
theorem exchange_bound (turns : List (Turn Job Command Answer Happening))
    (w : Pool Job Command Answer Shared (Option Response))
    (ran : (service lib settings).run turns opened = some w) (later earlier : List Event)
    (number b : Nat) (request : CallbackRequest) (code codeVerifier : String)
    (outcome : Except String Credentials)
    (split : w.shared.trace = later
      ++ .exchanged (.callback number (.browser b) request) code codeVerifier outcome :: earlier) :
    code = request.code ∧ ∃ nonce issuedAt now,
      .issued (.browser b) nonce codeVerifier issuedAt ∈ earlier
        ∧ request.state = (createSignedState lib settings.appSecretKey nonce issuedAt).1
        ∧ .clockRead (.callback number (.browser b) request) now ∈ earlier
        ∧ now - issuedAt ≤ 600
        ∧ ∀ client codeVerifier' issuedAt', .issued client nonce codeVerifier' issuedAt' ∈ w.shared.trace →
          client = .browser b := by
  have grounded := (System.run_safe (sound lib settings) (safe_opened lib settings) ran).holds.grounded
  obtain ⟨_, _, _, now, payload, same, arrived, read, exchanged, verifier, opening⟩ :=
    (split ▸ grounded).at_split
  cases same
  obtain ⟨nonce, _, cookie, verifier', named, verified⟩ := openExchange_ok opening
  obtain rfl := Option.some.inj (verifier.symm.trans verifier')
  have before : Grounded (grounds lib settings) earlier := (split ▸ grounded).earlier.2
  -- what the callback came with, when it was sent
  obtain ⟨between, sent, arrival⟩ := List.append_of_mem arrived
  have bound : Bound lib settings (.browser b) request sent := (arrival ▸ before).at_split
  have more : sent ⊆ earlier := by
    rw [arrival]
    exact List.Subset.trans (List.subset_cons_self ..) (List.subset_append_right ..)
  obtain ⟨issuedAt, issued⟩ := bound.cookies b nonce codeVerifier rfl cookie verifier
  obtain ⟨client, nonce', verifier'', issuedAt', issued', state⟩ :=
    bound.signed (rightlySigned_of_verify lib settings verified)
  rw [← state, verify_created_eq] at verified
  split at verified
  · cases verified
  · next recent =>
    cases verified
    obtain rfl : nonce' = nonce := Option.some.inj named
    obtain ⟨rfl, rfl, rfl⟩ := issued_unique lib settings before (more issued') (more issued)
    refine ⟨exchanged, nonce', issuedAt', now, more issued, state.symm, read, by omega, ?_⟩
    intro client codeVerifier' other there
    have whole : .issued (.browser b) nonce' verifier'' issuedAt' ∈ w.shared.trace := by
      rw [split]
      exact List.mem_append_right _ (List.mem_cons_of_mem _ (more issued))
    exact (issued_unique lib settings grounded there whole).1

end

/-- A browser signs in. -/
def Sample.settings : Settings := ⟨"production", ['k'], "client", "secret"⟩

def Sample.request : CallbackRequest where
  code := "code"
  state := (createSignedState exampleLibrary Sample.settings.appSecretKey "nonce" 0).1
  oauthNonce := some "nonce"
  oauthPkceVerifier := some "verifier"

def Sample.callback : Job := .callback 1 (.browser 1) Sample.request

def Sample.granted : Credentials := ⟨"access", some "refresh", some ⟨3600, none⟩⟩

def Sample.user : User := ⟨1, "owner@example.org"⟩

def Sample.account : OauthAccount := ⟨1, 1, "google", "access", "refresh", some ⟨3600, some 0⟩⟩

def Sample.signIn : List (Turn Job Command Answer Happening) :=
  [.other (.start (.browser 1) "nonce" 0 (some "verifier")), .other (.deliver 0),
    .other (.send (.browser 1) Sample.request), .other (.callback 1 0),
    .answer Sample.callback .readClock (10 : Int),
    .answer Sample.callback (.fetchToken "code" "verifier")
      (Except.ok Sample.granted : Except String Credentials),
    .answer Sample.callback (.userinfo "access")
      (Except.ok (.obj [("email", .str "owner@example.org"), ("email_verified", .bool true)]) :
        Except ProfileError Json),
    .answer Sample.callback .selectUsers (Except.ok [] : Except String (List User)),
    .answer Sample.callback (.insertUser "owner@example.org") (Except.ok Sample.user : Except String User),
    .answer Sample.callback (.selectAccount 1) (Except.ok none : Except String (Option OauthAccount)),
    .answer Sample.callback (.insertAccount 1 "access" "refresh" (some ⟨3600, some 0⟩))
      (Except.ok () : Except String Unit),
    .answer Sample.callback .commit CommitAnswer.committed,
    .answer Sample.callback (.selectUser 1) (Except.ok Sample.user : Except String User),
    .finish Sample.callback]

/-- A poll refreshes the credentials while a stranger's callback is refused. -/
def Sample.later : List (Turn Job Command Answer Happening) :=
  [.other (.credentials 2),
    .answer (.credentials 2) .selectUsers (Except.ok [Sample.user] : Except String (List User)),
    .other (.send (.stranger 5) ⟨"code", [], none, none⟩), .other (.callback 3 0),
    .answer (.credentials 2) (.selectAccount 1)
      (Except.ok (some Sample.account) : Except String (Option OauthAccount)),
    .answer (.credentials 2) (.credentialsExpired (some ⟨3600, none⟩)) true,
    .answer (.credentials 2) (.refresh "refresh")
      (Except.ok ⟨"access2", some "refresh", some ⟨7200, none⟩⟩ : Except RefreshFailure Credentials),
    .answer (.callback 3 (.stranger 5) ⟨"code", [], none, none⟩) .readClock (20 : Int),
    .answer (.credentials 2) (.updateAccount 1 ⟨some "access2", none, some (some ⟨7200, some 0⟩)⟩)
      (Except.ok () : Except String Unit),
    .answer (.callback 3 (.stranger 5) ⟨"code", [], none, none⟩) .rollback (),
    .answer (.credentials 2) (.credentialsExpired (some ⟨7200, none⟩)) false,
    .answer (.credentials 2) .work true,
    .answer (.credentials 2) .commit CommitAnswer.committed,
    .finish (.credentials 2)]

/-- The exchange of a browser's first sign-in. -/
theorem exchange_bound_first : ∃ w later earlier,
    (service exampleLibrary Sample.settings).run Sample.signIn opened = some w
      ∧ w.shared.trace = later ++ .exchanged Sample.callback "code" "verifier" (.ok Sample.granted)
        :: earlier
      ∧ "code" = Sample.request.code ∧ ∃ nonce issuedAt now,
        .issued (.browser 1) nonce "verifier" issuedAt ∈ earlier
          ∧ Sample.request.state
            = (createSignedState exampleLibrary Sample.settings.appSecretKey nonce issuedAt).1
          ∧ .clockRead Sample.callback now ∈ earlier
          ∧ now - issuedAt ≤ 600
          ∧ ∀ client codeVerifier' issuedAt',
            .issued client nonce codeVerifier' issuedAt' ∈ w.shared.trace → client = .browser 1 := by
  have facts : ((service exampleLibrary Sample.settings).run Sample.signIn opened).map
      (fun w => decide (.exchanged Sample.callback "code" "verifier" (.ok Sample.granted)
        ∈ w.shared.trace)) = some true := by
    decide +kernel
  obtain ⟨w, ran, there⟩ := Option.map_eq_some_iff.mp facts
  obtain ⟨later, earlier, split⟩ := List.append_of_mem (of_decide_eq_true there)
  exact ⟨w, later, earlier, ran, split, exchange_bound exampleLibrary Sample.settings Sample.signIn w ran
    later earlier 1 1 Sample.request "code" "verifier" (.ok Sample.granted) split⟩

section

variable (lib : Library) (settings : Settings)

/-- No turn takes back a row. -/
theorem moves_grow (s s' : Shared) (moves : System.Moves (service lib settings) (contract lib settings)
    s s') : Grows s.tables s'.tables := by
  cases moves with
  | answer job c r inv answered =>
    obtain ⟨j, other⟩ := exists_other job
    exact (answer_onward inv answered other).tables
  | finish job inv ended =>
    obtain ⟨j, other⟩ := exists_other job
    exact ((finish_kept inv ended).2.2 j other).tables
  | abandon job inv => exact .refl _
  | other e inv happened => exact ((happen_kept inv happened).2.1 (.credentials 0)).tables

/-- Whatever requests are under way together: the first user stays the only one, under one
address; the one account is that user's, and stays; and its tokens were granted by Google
for that address. -/
theorem account_owned (before after : List (Turn Job Command Answer Happening))
    (v w : Pool Job Command Answer Shared (Option Response))
    (started : (service lib settings).run before opened = some v)
    (ran : (service lib settings).run after v = some w) :
    (∀ u ∈ v.shared.tables.users, w.shared.tables.users = [u])
      ∧ (∀ a ∈ v.shared.tables.accounts, ∃ a', w.shared.tables.accounts = [a']
        ∧ a'.id = a.id ∧ a'.userId = a.userId)
      ∧ ∀ a ∈ w.shared.tables.accounts, ∃ u, w.shared.tables.users = [u] ∧ a.userId = u.id
        ∧ Held w.shared.trace u.email a := by
  have first := System.run_safe (sound lib settings) (safe_opened lib settings) started
  have last := (System.run_safe (sound lib settings) first ran).holds.tables
  have grows : Grows v.shared.tables w.shared.tables :=
    System.run_onward (sound lib settings) (fun _ => .refl _) (fun _ _ _ h h' => h.trans h')
      (moves_grow lib settings) first ran
  refine ⟨fun u hu => last.users_eq (grows.users.subset hu), fun a ha => ?_, fun a ha => ?_⟩
  · obtain ⟨a', ha', key⟩ := grows.mem_key ha
    exact ⟨a', last.accounts_eq ha', congrArg (·.1) key, congrArg (·.2.1) key⟩
  · obtain ⟨u, hu, owned, held⟩ := last.held a ha
    exact ⟨u, last.users_eq hu, owned, held⟩

end

theorem account_owned_refreshed : ∃ v w,
    (service exampleLibrary Sample.settings).run Sample.signIn opened = some v
      ∧ (service exampleLibrary Sample.settings).run Sample.later v = some w
      ∧ v.shared.tables = ⟨[Sample.user], [Sample.account]⟩
      ∧ w.shared.tables = ⟨[Sample.user], [{ Sample.account with
        accessToken := "access2"
        tokenExpiry := some ⟨7200, some 0⟩ }]⟩
      ∧ (∀ u ∈ v.shared.tables.users, w.shared.tables.users = [u])
      ∧ (∀ a ∈ v.shared.tables.accounts, ∃ a', w.shared.tables.accounts = [a']
        ∧ a'.id = a.id ∧ a'.userId = a.userId)
      ∧ ∀ a ∈ w.shared.tables.accounts, ∃ u, w.shared.tables.users = [u] ∧ a.userId = u.id
        ∧ Held w.shared.trace u.email a := by
  have facts : (((service exampleLibrary Sample.settings).run Sample.signIn opened).bind fun v =>
      ((service exampleLibrary Sample.settings).run Sample.later v).map fun w =>
        decide (v.shared.tables = ⟨[Sample.user], [Sample.account]⟩
          ∧ w.shared.tables = ⟨[Sample.user], [{ Sample.account with
            accessToken := "access2"
            tokenExpiry := some ⟨7200, some 0⟩ }]⟩)) = some true := by
    decide +kernel
  obtain ⟨v, started, rest⟩ := Option.bind_eq_some_iff.mp facts
  obtain ⟨w, ran, tables⟩ := Option.map_eq_some_iff.mp rest
  obtain ⟨first, last⟩ := of_decide_eq_true tables
  exact ⟨v, w, started, ran, first, last, account_owned exampleLibrary Sample.settings Sample.signIn
    Sample.later v w started ran⟩

/-- A callback that is told it signed in was vouched for by Google, and its account is
durable from then on, and the user's. None of its commits has raised. -/
theorem signed_in_durable (lib : Library) (settings : Settings)
    (turns : List (Turn Job Command Answer Happening))
    (w : Pool Job Command Answer Shared (Option Response))
    (ran : (service lib settings).run turns opened = some w) (later earlier : List Event) (job : Job)
    (email : String) (scopes : List String)
    (split : w.shared.trace = later ++ .answered job (.signedIn email scopes) :: earlier) :
    (∃ token, .vouched job token email ∈ earlier)
      ∧ (∀ written, .commitRaised job written ∉ earlier)
      ∧ ∃ t u a, .committed job t ∈ earlier ∧ t.users = [u] ∧ u.email = email ∧ t.accounts = [a]
        ∧ a.userId = u.id ∧ w.shared.tables.users = [u]
        ∧ ∃ a', w.shared.tables.accounts = [a'] ∧ a'.id = a.id ∧ a'.userId = u.id
          ∧ Held w.shared.trace email a' := by
  have inv := (System.run_safe (sound lib settings) (safe_opened lib settings) ran).holds
  obtain ⟨unraised, token, t, u, a, vouched, committed, users, rfl, accounts, owned⟩ :=
    (split ▸ inv.grounded).at_split
  have there : .committed job t ∈ w.shared.trace := by
    rw [split]
    exact List.mem_append_right _ (List.mem_cons_of_mem _ committed)
  have grows := inv.committed _ there t rfl
  have user : u ∈ w.shared.tables.users :=
    grows.users.subset (by rw [users]; exact List.mem_singleton_self u)
  obtain ⟨a', ha', key⟩ := grows.mem_key (a := a) (by rw [accounts]; exact List.mem_singleton_self a)
  obtain ⟨u', hu', owned', held⟩ := inv.tables.held a' ha'
  obtain rfl := inv.tables.user_eq hu' user
  exact ⟨⟨token, vouched⟩, unraised, t, u', a, committed, users, rfl, accounts, owned,
    inv.tables.users_eq user, a', inv.tables.accounts_eq ha', congrArg (·.1) key, owned', held⟩

theorem signed_in_durable_first : ∃ w later earlier,
    (service exampleLibrary Sample.settings).run Sample.signIn opened = some w
      ∧ w.shared.trace = later
        ++ .answered Sample.callback (.signedIn "owner@example.org" googleOauthScopes) :: earlier
      ∧ (∃ token, .vouched Sample.callback token "owner@example.org" ∈ earlier)
      ∧ (∀ written, .commitRaised Sample.callback written ∉ earlier)
      ∧ ∃ t u a, .committed Sample.callback t ∈ earlier ∧ t.users = [u]
        ∧ u.email = "owner@example.org" ∧ t.accounts = [a] ∧ a.userId = u.id
        ∧ w.shared.tables.users = [u]
        ∧ ∃ a', w.shared.tables.accounts = [a'] ∧ a'.id = a.id ∧ a'.userId = u.id
          ∧ Held w.shared.trace "owner@example.org" a' := by
  have facts : ((service exampleLibrary Sample.settings).run Sample.signIn opened).map
      (fun w => decide (.answered Sample.callback (.signedIn "owner@example.org" googleOauthScopes)
        ∈ w.shared.trace)) = some true := by
    decide +kernel
  obtain ⟨w, ran, there⟩ := Option.map_eq_some_iff.mp facts
  obtain ⟨later, earlier, split⟩ := List.append_of_mem (of_decide_eq_true there)
  exact ⟨w, later, earlier, ran, split, signed_in_durable exampleLibrary Sample.settings Sample.signIn w
    ran later earlier Sample.callback "owner@example.org" googleOauthScopes split⟩

end YTPipe.SignIn
