import YTPipe.Strings

/-!
# URLs

`urllib.parse.urlsplit` and what its result says of the network location. An
exception is `none`.
-/

namespace YTPipe.Url

structure SplitResult where
  scheme : Text
  netloc : Text
  path : Text
  query : Text
  fragment : Text
  deriving DecidableEq, Repr

/-- The checks that look into tables: of an address in brackets, and of a network
location that is not ASCII. -/
structure NetlocChecks where
  bracketed : Text → Bool
  normalized : Text → Bool

def isC0OrSpace (c : Char) : Bool := decide (c.toNat ≤ 32)

/-- Tabs and line ends are taken out of a URL. -/
def isUnsafe (c : Char) : Bool := c == '\t' || c == '\r' || c == '\n'

def isAlpha (c : Char) : Bool := decide ('a' ≤ c ∧ c ≤ 'z') || decide ('A' ≤ c ∧ c ≤ 'Z')

def isDigit (c : Char) : Bool := decide ('0' ≤ c ∧ c ≤ '9')

def isAscii (c : Char) : Bool := decide (c.toNat < 128)

def isSchemeChar (c : Char) : Bool := isAlpha c || isDigit c || c == '+' || c == '-' || c == '.'

/-- The scheme and what follows its colon. -/
def splitScheme (url : Text) : Text × Text :=
  match Text.partition ':' url with
  | (c :: name, true, rest) =>
    if isAlpha c && (c :: name).all isSchemeChar then (Text.lower (c :: name), rest) else ([], url)
  | _ => ([], url)

def endsNetloc (c : Char) : Bool := c == '/' || c == '?' || c == '#'

/-- The network location behind `//` and what follows it. -/
def splitNetloc : Text → Text × Text
  | '/' :: '/' :: rest => (rest.takeWhile (!endsNetloc ·), rest.dropWhile (!endsNetloc ·))
  | url => ([], url)

def NetlocChecks.pass (checks : NetlocChecks) (netloc : Text) : Bool :=
  (if '[' ∈ netloc then decide (']' ∈ netloc) && checks.bracketed netloc
    else decide (']' ∉ netloc)) &&
    (netloc.all isAscii || checks.normalized netloc)

def urlsplit (checks : NetlocChecks) (url : Text) : Option SplitResult :=
  let url := (url.dropWhile isC0OrSpace).filter (!isUnsafe ·)
  let (scheme, url) := splitScheme url
  let (netloc, url) := splitNetloc url
  if checks.pass netloc then
    let (url, _, fragment) := Text.partition '#' url
    let (path, _, query) := Text.partition '?' url
    some ⟨scheme, netloc, path, query, fragment⟩
  else none

namespace SplitResult

variable (parsed : SplitResult)

def userinfo : Option Text × Option Text :=
  match Text.rpartition '@' parsed.netloc with
  | (_, false, _) => (none, none)
  | (userinfo, true, _) =>
    match Text.partition ':' userinfo with
    | (username, true, password) => (some username, some password)
    | (username, false, _) => (some username, none)

def username : Option Text := parsed.userinfo.1

def password : Option Text := parsed.userinfo.2

/-- The host as it is written, and the port. -/
def hostinfo : Text × Option Text :=
  let (_, _, hostinfo) := Text.rpartition '@' parsed.netloc
  let (hostname, port) := match Text.partition '[' hostinfo with
    | (_, true, bracketed) =>
      let (hostname, _, port) := Text.partition ']' bracketed
      (hostname, (Text.partition ':' port).2.2)
    | (_, false, _) =>
      let (hostname, _, port) := Text.partition ':' hostinfo
      (hostname, port)
  (hostname, if port = [] then none else some port)

/-- In lower case up to the zone of an address. -/
def hostname : Option Text :=
  let hostname := parsed.hostinfo.1
  if hostname = [] then none
  else
    let (hostname, percent, zone) := Text.partition '%' hostname
    some (Text.lower hostname ++ if percent then '%' :: zone else [])

def decimal (digits : Text) : Nat := digits.foldl (fun n c => 10 * n + (c.toNat - 48)) 0

/-- `none` is an exception: a port that is no number up to 65535. -/
def port : Option (Option Nat) :=
  match parsed.hostinfo.2 with
  | none => some none
  | some port => if port.all isDigit && decide (decimal port ≤ 65535) then some (some (decimal port))
    else none

end SplitResult

/-! A URL of plain parts is taken apart where they were joined. -/

/-- A character that no step of the splitting looks for. -/
def isPlain (c : Char) : Bool := isAlpha c || isDigit c || c == '-' || c == '_' || c == '.'

def isPathChar (c : Char) : Bool := isPlain c || c == '/'

def isQueryChar (c : Char) : Bool := isPlain c || c == '=' || c == '&'

theorem toNat_le {c d : Char} (h : c ≤ d) : c.toNat ≤ d.toNat := h

theorem plain_toNat {c : Char} (h : isPlain c = true) : 45 ≤ c.toNat ∧ c.toNat ≤ 122 := by
  simp only [isPlain, isAlpha, isDigit, Bool.or_eq_true, decide_eq_true_eq, beq_iff_eq] at h
  rcases h with ((((⟨low, high⟩ | ⟨low, high⟩) | ⟨low, high⟩) | rfl) | rfl) | rfl
  case inl.inl.inl.inl.inl | inl.inl.inl.inl.inr | inl.inl.inl.inr =>
    have above := toNat_le low
    have below := toNat_le high
    simp only [Char.reduceToNat] at above below
    omega
  all_goals decide

theorem plain_visible {c : Char} (h : isPlain c = true) : Text.isSpace c = false := by
  have := plain_toNat h
  simp [Text.isSpace]
  omega

theorem ne_of_class {p : Char → Bool} {c d : Char} (h : p c = true) (other : p d = false) :
    c ≠ d := by
  rintro rfl
  rw [h] at other
  cases other

theorem not_mem_of_class {p : Char → Bool} {t : Text} {d : Char} (h : ∀ c ∈ t, p c = true)
    (other : p d = false) : d ∉ t :=
  fun there => ne_of_class (h d there) other rfl

/-- Every character of a URL of plain parts. -/
def isUrlChar (c : Char) : Bool :=
  isPlain c || c == ':' || c == '/' || c == '?' || c == '=' || c == '&'

theorem urlChar_safe {c : Char} (h : isUrlChar c = true) : isUnsafe c = false := by
  have tab := ne_of_class (d := '\t') h (by decide)
  have cr := ne_of_class (d := '\r') h (by decide)
  have lf := ne_of_class (d := '\n') h (by decide)
  simp [isUnsafe, tab, cr, lf]

theorem urlChar_visible {c : Char} (h : isUrlChar c = true) : Text.isSpace c = false := by
  simp only [isUrlChar, Bool.or_eq_true, beq_iff_eq] at h
  rcases h with ((((h | rfl) | rfl) | rfl) | rfl) | rfl
  · exact plain_visible h
  all_goals decide

theorem urlChars_of_parts {scheme host path query : Text} (alpha : ∀ d ∈ scheme, isAlpha d = true)
    (plain : ∀ d ∈ host, isPlain d = true) (paths : ∀ d ∈ path, isPathChar d = true)
    (queries : ∀ d ∈ query, isQueryChar d = true) :
    ∀ d ∈ scheme ++ ':' :: '/' :: '/' :: (host ++ '/' :: (path ++ '?' :: query)),
      isUrlChar d = true := by
  intro d hd
  simp only [List.mem_append, List.mem_cons] at hd
  rcases hd with hd | rfl | rfl | rfl | hd | rfl | hd | rfl | hd
  · simp [isUrlChar, isPlain, alpha d hd]
  · decide
  · decide
  · decide
  · simp [isUrlChar, plain d hd]
  · decide
  · have := paths d hd
    simp only [isPathChar, Bool.or_eq_true] at this
    simp only [isUrlChar, Bool.or_eq_true]
    tauto
  · decide
  · have := queries d hd
    simp only [isQueryChar, Bool.or_eq_true] at this
    simp only [isUrlChar, Bool.or_eq_true]
    tauto

theorem pass_plain (checks : NetlocChecks) {host : Text} (plain : ∀ c ∈ host, isPlain c = true) :
    checks.pass host = true := by
  have opening : '[' ∉ host := not_mem_of_class plain (by decide)
  have closing : ']' ∉ host := not_mem_of_class plain (by decide)
  have ascii : host.all isAscii = true := by
    rw [List.all_eq_true]
    intro c hc
    have := plain_toNat (plain c hc)
    simp [isAscii]
    omega
  simp [NetlocChecks.pass, opening, closing, ascii]

theorem splitScheme_plain {c : Char} {name rest : Text}
    (alpha : ∀ d ∈ c :: name, isAlpha d = true) :
    splitScheme (c :: name ++ ':' :: rest) = (Text.lower (c :: name), rest) := by
  have cut : Text.partition ':' (c :: name ++ ':' :: rest) = (c :: name, true, rest) :=
    Text.partition_append (not_mem_of_class alpha (by decide))
  have valid : (c :: name).all isSchemeChar = true := by
    rw [List.all_eq_true]
    intro d hd
    simp [isSchemeChar, alpha d hd]
  unfold splitScheme
  rw [cut]
  simp only [alpha c List.mem_cons_self, valid, Bool.and_self, if_true]

theorem splitNetloc_plain {host rest : Text} (plain : ∀ c ∈ host, isPlain c = true) :
    splitNetloc ('/' :: '/' :: (host ++ '/' :: rest)) = (host, '/' :: rest) := by
  have inside : ∀ c ∈ host, (!endsNetloc c) = true := by
    intro c hc
    have slash := ne_of_class (d := '/') (plain c hc) (by decide)
    have mark := ne_of_class (d := '?') (plain c hc) (by decide)
    have hash := ne_of_class (d := '#') (plain c hc) (by decide)
    simp [endsNetloc, slash, mark, hash]
  have ends : (!endsNetloc '/') = false := by decide
  simp only [splitNetloc]
  rw [List.takeWhile_append_of_pos inside, List.dropWhile_append_of_pos inside,
    List.takeWhile_cons_of_neg (by simp [ends]), List.dropWhile_cons_of_neg (by simp [ends]),
    List.append_nil]

/-- `scheme://host/path?query`. -/
theorem urlsplit_plain (checks : NetlocChecks) {c : Char} {name host path query : Text}
    (alpha : ∀ d ∈ c :: name, isAlpha d = true) (plain : ∀ d ∈ host, isPlain d = true)
    (paths : ∀ d ∈ path, isPathChar d = true) (queries : ∀ d ∈ query, isQueryChar d = true) :
    urlsplit checks (c :: name ++ ':' :: '/' :: '/' :: (host ++ '/' :: (path ++ '?' :: query)))
      = some ⟨Text.lower (c :: name), host, '/' :: path, query, []⟩ := by
  have first : isC0OrSpace c = false := by
    have low := plain_toNat (c := c) (by simp [isPlain, alpha c List.mem_cons_self])
    simp [isC0OrSpace]
    omega
  have safe : ∀ d ∈ c :: name ++ ':' :: '/' :: '/' :: (host ++ '/' :: (path ++ '?' :: query)),
      (!isUnsafe d) = true := by
    intro d hd
    rw [urlChar_safe (urlChars_of_parts alpha plain paths queries d hd)]
    rfl
  have noHash : '#' ∉ '/' :: (path ++ '?' :: query) := by
    have inPath : '#' ∉ path := not_mem_of_class paths (by decide)
    have inQuery : '#' ∉ query := not_mem_of_class queries (by decide)
    simp [inPath, inQuery]
  have noMark : '?' ∉ '/' :: path := by
    have inPath : '?' ∉ path := not_mem_of_class paths (by decide)
    simp [inPath]
  unfold urlsplit
  rw [List.cons_append, List.dropWhile_cons_of_neg (by simp [first]), ← List.cons_append,
    List.filter_eq_self.mpr safe]
  dsimp only
  rw [splitScheme_plain alpha]
  dsimp only
  rw [splitNetloc_plain plain]
  dsimp only
  rw [if_pos (pass_plain checks plain), Text.partition_free noHash]
  dsimp only
  rw [← List.cons_append, Text.partition_append noMark]

end YTPipe.Url
