import YTPipe.Base64
import YTPipe.JsonCompact

/-!
# The signed state of the sign-in

`core/security.py`, and the part of `services/auth.py` that looks at a state. A
state is text somebody else may have written.
-/

namespace YTPipe.SignedState

/-- An exception; a decoder's own text is left out. -/
inductive Raised
  | valueError (message : Option String)
  | typeError
  | attributeError
  | recursionError
  deriving DecidableEq, Repr

/-- How `json.loads` fails: with a `ValueError`, or on deep nesting. -/
inductive LoadError
  | value
  | recursion
  deriving DecidableEq, Repr

/-- What the functions rest on: the HMAC-SHA256 of two texts, the floats of
`json`, how deep `json.loads` follows arrays and objects, and what it makes of
bytes that are no JSON in ASCII. -/
structure Library where
  hmac : Text → Text → List UInt8
  floats : FloatText
  nestingLimit : Nat
  followsObjects : 1 ≤ nestingLimit
  loadsOther : List UInt8 → Except LoadError Json

mutual

/-- How deep arrays and objects stand in each other. -/
def nesting : Json → Nat
  | .arr items => nestingItems items + 1
  | .obj members => nestingMembers members + 1
  | _ => 0

def nestingItems : List Json → Nat
  | [] => 0
  | item :: items => max (nesting item) (nestingItems items)

def nestingMembers : List (String × Json) → Nat
  | [] => 0
  | (_, value) :: members => max (nesting value) (nestingMembers members)

end

def isAscii (t : Text) : Bool := t.all fun c => decide (c.toNat < 128)

/-- `encode("utf-8")` of ASCII text. -/
def encodeAscii (t : Text) : List UInt8 := t.map fun c => UInt8.ofNat c.toNat

def decodeAscii (bytes : List UInt8) : Option Text :=
  if bytes.all (fun b => decide (b.toNat < 128)) then some (bytes.map fun b => Char.ofNat b.toNat)
  else none

section

variable (lib : Library)

/-- `json.loads`, of bytes. An integer of more than 4300 digits is read as any
other, where the interpreter's limit is a `ValueError`. -/
def Library.loads (bytes : List UInt8) : Except LoadError Json :=
  match (decodeAscii bytes).bind (Json.loads lib.floats) with
  | some value => if nesting value ≤ lib.nestingLimit then .ok value else .error .recursion
  | none => lib.loadsOther bytes

def urlsafeEncode (value : List UInt8) : Text := Text.rstrip (· == '=') (Base64.encode value)

def urlsafeDecode (value : Text) : Option (List UInt8) :=
  Base64.decode (value ++ Base64.padding value.length)

def signPayload (secretKey encodedPayload : Text) : Text :=
  urlsafeEncode (lib.hmac secretKey encodedPayload)

def statePayload (nonce : String) (issuedAt : Int) : Json.Dict :=
  [("nonce", .str nonce), ("issued_at", .int issuedAt)]

/-- `create_signed_state`, with the nonce it draws and the time it reads. -/
def createSignedState (secretKey : Text) (nonce : String) (now : Int) : Text × String :=
  let encodedPayload :=
    urlsafeEncode (encodeAscii (Json.dumpsCompact lib.floats (statePayload nonce now)))
  (encodedPayload ++ '.' :: signPayload lib secretKey encodedPayload, nonce)

/-- `isinstance(value, int)`, which counts truth values in. -/
def asInt : Option Json → Option Int
  | some (.int n) => some n
  | some (.bool b) => some (if b then 1 else 0)
  | _ => none

/-- `verify_signed_state`. -/
def verifySignedState (state secretKey : Text) (maxAgeSeconds now : Int) :
    Except Raised Json.Dict :=
  match Text.partition '.' state with
  | (_, false, _) => .error (.valueError (some "Malformed OAuth state value."))
  | (encodedPayload, true, signature) =>
    -- compare_digest takes texts that are ASCII
    if isAscii signature = false then .error .typeError
    else if signature ≠ signPayload lib secretKey encodedPayload then
      .error (.valueError (some "Invalid OAuth state signature."))
    else
      match urlsafeDecode encodedPayload with
      | none => .error (.valueError none)
      | some bytes =>
        match lib.loads bytes with
        | .error .value => .error (.valueError none)
        | .error .recursion => .error .recursionError
        | .ok (.obj payload) =>
          match asInt (Json.Dict.get? payload "issued_at") with
          | none => .error (.valueError (some "OAuth state is missing a valid issue timestamp."))
          | some issuedAt =>
            if now - issuedAt > maxAgeSeconds then
              .error (.valueError (some "OAuth state has expired."))
            else .ok payload
        -- only an object has get
        | .ok _ => .error .attributeError

/-- How an exchange ends before it asks Google. -/
inductive ExchangeRefusal
  | authState (message : Option String)
  | raised (exception : Raised)
  deriving DecidableEq, Repr

/-- `exchange_code_for_account`, up to the code exchange. -/
def openExchange (state secretKey : Text) (now : Int) (cookieNonce cookieCodeVerifier : Option String) :
    Except ExchangeRefusal Json.Dict :=
  match verifySignedState lib state secretKey 600 now with
  | .error (.valueError message) => .error (.authState message)
  | .error exception => .error (.raised exception)
  | .ok payload =>
    match cookieNonce with
    | none =>
      .error (.authState (some "OAuth state does not match the initiating browser session."))
    | some nonce =>
      if nonce = "" ∨ payload.getStr? "nonce" ≠ some nonce then
        .error (.authState (some "OAuth state does not match the initiating browser session."))
      else if cookieCodeVerifier = none ∨ cookieCodeVerifier = some "" then
        .error (.authState
          (some "OAuth PKCE code verifier is missing from the initiating browser session."))
      else .ok payload

/-- A payload that is returned was signed with the secret, and not too long ago. -/
structure Genuine (state secretKey : Text) (maxAgeSeconds now : Int) (payload : Json.Dict) : Prop where
  signed : ∃ encodedPayload, state = encodedPayload ++ '.' :: signPayload lib secretKey encodedPayload
    ∧ '.' ∉ encodedPayload
  fresh : ∃ issuedAt, asInt (payload.get? "issued_at") = some issuedAt
    ∧ now - issuedAt ≤ maxAgeSeconds

/-- A state is returned or refused with a `ValueError`, and returned only where it
is genuine. -/
def Settled (state secretKey : Text) (maxAgeSeconds now : Int) : Prop :=
  match verifySignedState lib state secretKey maxAgeSeconds now with
  | .ok payload => Genuine lib state secretKey maxAgeSeconds now payload
  | .error exception => ∃ message, exception = .valueError message

/-- Without a point, or with a signature in ASCII, and, where that is the right one,
with a payload that is no JSON at all or an object. -/
def Orderly (state secretKey : Text) : Prop :=
  ∀ encodedPayload signature, Text.partition '.' state = (encodedPayload, true, signature) →
    isAscii signature = true ∧ (signature = signPayload lib secretKey encodedPayload →
      ∀ bytes, urlsafeDecode encodedPayload = some bytes →
        lib.loads bytes = .error .value ∨ ∃ payload, lib.loads bytes = .ok (.obj payload))

/-! When a state is settled. -/

theorem orderly_iff {state secretKey encodedPayload signature : Text}
    (split : Text.partition '.' state = (encodedPayload, true, signature)) :
    Orderly lib state secretKey ↔ isAscii signature = true
      ∧ (signature = signPayload lib secretKey encodedPayload →
        ∀ bytes, urlsafeDecode encodedPayload = some bytes →
          lib.loads bytes = .error .value ∨ ∃ payload, lib.loads bytes = .ok (.obj payload)) := by
  unfold Orderly
  rw [split]
  constructor
  · intro h
    exact h _ _ rfl
  · rintro h _ _ ⟨⟩
    exact h

theorem settled_iff (state secretKey : Text) (maxAgeSeconds now : Int) :
    Settled lib state secretKey maxAgeSeconds now ↔ Orderly lib state secretKey := by
  rcases split : Text.partition '.' state with ⟨encodedPayload, found, signature⟩
  cases found with
  | false =>
    have settled : Settled lib state secretKey maxAgeSeconds now := by
      unfold Settled verifySignedState
      rw [split]
      exact ⟨_, rfl⟩
    refine iff_of_true settled ?_
    intro _ _ other
    rw [split] at other
    cases other
  | true =>
    rw [orderly_iff lib split]
    unfold Settled verifySignedState
    rw [split]
    dsimp only
    by_cases ascii : isAscii signature = true
    case neg =>
      have plain : isAscii signature = false := by simpa using ascii
      rw [if_pos plain]
      simp [plain]
    rw [if_neg (by simp [ascii])]
    by_cases right : signature = signPayload lib secretKey encodedPayload
    case neg =>
      rw [if_pos right]
      simp [ascii, right]
    rw [if_neg (Decidable.not_not.mpr right)]
    rw [and_iff_right ascii, imp_iff_right right]
    cases decoded : urlsafeDecode encodedPayload with
    | none => simp
    | some bytes =>
      simp only [Option.some.injEq, forall_eq']
      rcases loaded : lib.loads bytes with error | value
      · cases error with
        | value => simp
        | recursion => simp
      · cases value with
        | obj payload =>
          refine iff_of_true ?_ (.inr ⟨payload, rfl⟩)
          obtain ⟨whole, free⟩ := Text.parts_of_partition split
          dsimp only
          cases issued : asInt (Json.Dict.get? payload "issued_at") with
          | none => exact ⟨_, rfl⟩
          | some issuedAt =>
            dsimp only
            split
            · next outcome old =>
              split at old
              · cases old
              · next recent =>
                cases old
                exact ⟨⟨encodedPayload, right ▸ whole, free⟩, issuedAt, issued, by omega⟩
            · next outcome old =>
              split at old
              · cases old
                exact ⟨_, rfl⟩
              · cases old
        | null | bool | int | float | str | arr => simp

/-- No exception gets past an exchange that meets an orderly state. -/
theorem exchange_answers {state secretKey : Text} (orderly : Orderly lib state secretKey) (now : Int)
    (cookieNonce cookieCodeVerifier : Option String) (exception : Raised) :
    openExchange lib state secretKey now cookieNonce cookieCodeVerifier
      ≠ .error (.raised exception) := by
  have settled := (settled_iff lib state secretKey 600 now).mpr orderly
  unfold Settled at settled
  unfold openExchange
  cases verified : verifySignedState lib state secretKey 600 now with
  | error raised =>
    rw [verified] at settled
    obtain ⟨message, rfl⟩ := settled
    simp
  | ok payload =>
    dsimp only
    split
    · simp
    · split
      · simp
      · split <;> simp

/-! What was created. -/

theorem decodeAscii_encodeAscii {t : Text} (ascii : Json.Ascii t) :
    decodeAscii (encodeAscii t) = some t := by
  have byte (c : Char) (low : c.toNat < 128) : (UInt8.ofNat c.toNat).toNat = c.toNat := by
    rw [UInt8.toNat_ofNat']
    omega
  have all : (encodeAscii t).all (fun b => decide (b.toNat < 128)) = true := by
    rw [List.all_eq_true]
    intro b there
    obtain ⟨c, inside, rfl⟩ := List.mem_map.mp there
    rw [byte c (ascii c inside)]
    simpa using ascii c inside
  unfold decodeAscii
  rw [if_pos all]
  unfold encodeAscii
  rw [List.map_map]
  congr 1
  calc t.map _ = t.map id := by
        apply List.map_congr_left
        intro c inside
        simp only [Function.comp_apply, byte c (ascii c inside), id_eq, Char.ofNat_toNat]
    _ = t := List.map_id t

theorem decode_urlsafeEncode (value : List UInt8) : urlsafeDecode (urlsafeEncode value) = some value := by
  unfold urlsafeDecode urlsafeEncode
  rw [Base64.rstrip_encode]
  exact Base64.decode_encode value

theorem payload_ascii (F : FloatText) (nonce : String) (issuedAt : Int) :
    Json.Ascii (Json.dumpsCompact F (statePayload nonce issuedAt)) := by
  have quoted := Json.quote_ascii
  have issued := Json.int_ascii issuedAt
  simp only [Json.dumpsCompact, statePayload, List.map_cons, List.map_nil, Text.join_cons_cons,
    Text.join_singleton, Json.compactMember, Json.dumps]
  have first := (quoted "nonce").append (.cons (c := ':') (by decide) (quoted nonce))
  have second := (quoted "issued_at").append (.cons (c := ':') (by decide) issued)
  exact .append (.cons (by decide) ((first.append (.cons (c := ',') (by decide) .nil)).append second))
    (.cons (by decide) .nil)

theorem loads_statePayload (nonce : String) (issuedAt : Int) :
    lib.loads (encodeAscii (Json.dumpsCompact lib.floats (statePayload nonce issuedAt)))
      = .ok (.obj (statePayload nonce issuedAt)) := by
  have read : Json.loads lib.floats (Json.dumpsCompact lib.floats (statePayload nonce issuedAt))
      = some (.obj (statePayload nonce issuedAt)) := by
    apply Json.loads_compact (List.cons_ne_nil _ _)
    intro member there q inside
    simp only [List.mem_cons, List.not_mem_nil, or_false] at there
    rcases there with rfl | rfl <;> cases inside
  unfold Library.loads
  rw [decodeAscii_encodeAscii (payload_ascii lib.floats nonce issuedAt), Option.bind_some, read]
  exact if_pos lib.followsObjects

theorem signPayload_eq (secretKey encodedPayload : Text) :
    signPayload lib secretKey encodedPayload = Base64.digits (lib.hmac secretKey encodedPayload) :=
  Base64.rstrip_encode _

theorem signPayload_ascii (secretKey encodedPayload : Text) :
    isAscii (signPayload lib secretKey encodedPayload) = true := by
  rw [signPayload_eq]
  unfold isAscii
  rw [List.all_eq_true]
  intro c there
  obtain ⟨n, small, rfl⟩ := Base64.digits_of_mem there
  simpa using Base64.digit_ascii n small

theorem dot_free (value : List UInt8) : '.' ∉ urlsafeEncode value := by
  unfold urlsafeEncode
  rw [Base64.rstrip_encode]
  intro there
  obtain ⟨n, small, same⟩ := Base64.digits_of_mem there
  have table : ∀ n < 64, Base64.digit n ≠ '.' := by decide
  exact table n small same.symm

/-- A state is verified as long as it is not too old. -/
theorem verify_created (secretKey : Text) (nonce : String) (created now maxAgeSeconds : Int)
    (fresh : now - created ≤ maxAgeSeconds) :
    verifySignedState lib (createSignedState lib secretKey nonce created).1 secretKey maxAgeSeconds now
      = .ok (statePayload nonce created) := by
  have split (signature : Text) :
      Text.partition '.' (urlsafeEncode (encodeAscii (Json.dumpsCompact lib.floats
        (statePayload nonce created))) ++ '.' :: signature)
        = (urlsafeEncode (encodeAscii (Json.dumpsCompact lib.floats
          (statePayload nonce created))), true, signature) :=
    Text.partition_append (dot_free _)
  have issued : asInt (Json.Dict.get? (statePayload nonce created) "issued_at") = some created := rfl
  unfold verifySignedState createSignedState
  dsimp only
  rw [split]
  dsimp only
  rw [signPayload_ascii, if_neg (by decide), if_neg (fun other => other rfl), decode_urlsafeEncode]
  dsimp only
  rw [loads_statePayload]
  dsimp only
  rw [issued]
  dsimp only
  rw [if_neg (by omega)]

/-- Looking at a state ends in a payload that is genuine or in a `ValueError`,
which an exchange answers, exactly where the state is orderly; and a created state
is verified as its own. -/
theorem state_settled_iff (state secretKey : Text) (maxAgeSeconds now : Int) :
    ((Settled lib state secretKey maxAgeSeconds now
        ∧ ∀ cookieNonce cookieCodeVerifier exception,
          openExchange lib state secretKey now cookieNonce cookieCodeVerifier
            ≠ .error (.raised exception))
      ↔ Orderly lib state secretKey)
      ∧ ∀ nonce created, now - created ≤ maxAgeSeconds →
        ∃ payload, verifySignedState lib (createSignedState lib secretKey nonce created).1 secretKey
            maxAgeSeconds now = .ok payload
          ∧ payload.getStr? "nonce" = some (createSignedState lib secretKey nonce created).2 := by
  refine ⟨⟨fun h => (settled_iff lib state secretKey maxAgeSeconds now).mp h.1, ?_⟩, ?_⟩
  · intro orderly
    exact ⟨(settled_iff lib state secretKey maxAgeSeconds now).mpr orderly,
      exchange_answers lib orderly now⟩
  · intro nonce created fresh
    exact ⟨_, verify_created lib secretKey nonce created now maxAgeSeconds fresh, rfl⟩

end

def exampleLibrary : Library where
  hmac _ _ := []
  floats := ⟨fun _ => [], fun _ => 0⟩
  nestingLimit := 1000
  followsObjects := by decide
  loadsOther _ := .error .value

/-- A letter that is not ASCII in the signature, and a signed payload that is a number. -/
theorem unsettled : ¬ Settled exampleLibrary ['a', '.', 'é'] [] 600 0
    ∧ ¬ Settled exampleLibrary ['M', 'Q', '.'] [] 600 0 := by
  have accented : verifySignedState exampleLibrary ['a', '.', 'é'] [] 600 0 = .error .typeError := rfl
  have number : verifySignedState exampleLibrary ['M', 'Q', '.'] [] 600 0
      = .error .attributeError := rfl
  unfold Settled
  rw [accented, number]
  exact ⟨fun ⟨_, other⟩ => (nomatch other), fun ⟨_, other⟩ => (nomatch other)⟩

end YTPipe.SignedState
