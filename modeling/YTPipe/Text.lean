/-!
# Text

The string operations the services use, on lists of characters. Positions are
natural numbers, and a search that finds nothing is `-1`.
-/

namespace YTPipe

abbrev Text := List Char

/-- Texts are compared by what they are. -/
instance lawfulBEq_text : LawfulBEq Text := inferInstance

namespace Text

def startsWith (sub t : Text) : Bool := sub.isPrefixOf t

/-- Whether `sub` occurs in the text. -/
def contains (sub : Text) : Text → Bool
  | [] => sub.isEmpty
  | c :: t => startsWith sub (c :: t) || contains sub t

/-- `text[start:stop]`. -/
def slice (t : Text) (start stop : Nat) : Text := (t.drop start).take (stop - start)

/-- The last place in `text[lo:hi]` where `sub` stands whole. -/
def rfind (t sub : Text) (lo hi : Nat) : Int :=
  match (List.range' lo (hi + 1 - lo)).reverse.find?
      (fun i => startsWith sub (t.drop i) && decide (i + sub.length ≤ hi)) with
  | some i => i
  | none => -1

theorem rfind_bounds (t sub : Text) (lo hi : Nat) (h : 0 ≤ rfind t sub lo hi) :
    (lo : Int) ≤ rfind t sub lo hi ∧ rfind t sub lo hi + sub.length ≤ hi := by
  unfold rfind at h ⊢
  split at h
  · next i hi' =>
    have hm := List.mem_of_find?_eq_some hi'
    have hp := List.find?_some hi'
    simp only [List.mem_reverse, List.mem_range'_1, Bool.and_eq_true, decide_eq_true_eq] at hm hp
    omega
  · omega

/-- The characters Python's `str.isspace` counts as white space. -/
def isSpace (c : Char) : Bool :=
  let n := c.toNat
  (9 ≤ n && n ≤ 13) || (28 ≤ n && n ≤ 32) || n == 0x85 || n == 0xa0 || n == 0x1680
    || (0x2000 ≤ n && n ≤ 0x200a) || n == 0x2028 || n == 0x2029 || n == 0x202f
    || n == 0x205f || n == 0x3000

def lstrip (blank : Char → Bool) (t : Text) : Text := t.dropWhile blank

def rstrip (blank : Char → Bool) (t : Text) : Text := (t.reverse.dropWhile blank).reverse

def strip (t : Text) : Text := rstrip isSpace (lstrip isSpace t)

def newline : Char := '\n'

/-- `replace("\r\n", "\n")`. -/
def crlfToLf : Text → Text
  | [] => []
  | [c] => [c]
  | c :: d :: t => if c = '\r' ∧ d = '\n' then '\n' :: crlfToLf t else c :: crlfToLf (d :: t)

/-- `replace("\r\n", "\n").replace("\r", "\n")`. -/
def normalizeNewlines (t : Text) : Text :=
  (crlfToLf t).map (fun c => if c = '\r' then '\n' else c)

/-- `split(sep)`, of a single character. -/
def splitOn (sep : Char) : Text → List Text
  | [] => [[]]
  | c :: t =>
    if c = sep then [] :: splitOn sep t
    else match splitOn sep t with
      | [] => [[c]]
      | l :: ls => (c :: l) :: ls

/-- The pieces between white space, the empty ones among them. -/
def splitSpace : Text → List Text
  | [] => [[]]
  | c :: t =>
    if isSpace c then [] :: splitSpace t
    else match splitSpace t with
      | [] => [[c]]
      | l :: ls => (c :: l) :: ls

/-- `split()`. -/
def words (t : Text) : List Text := (splitSpace t).filter (!·.isEmpty)

/-- `sep.join(parts)`. -/
def join (sep : Text) (parts : List Text) : Text := sep.intercalate parts

theorem join_eq_nil {sep : Text} {parts : List Text} (h : join sep parts = []) :
    ∀ p ∈ parts, p = [] := by
  induction parts with
  | nil => simp
  | cons p ps ih =>
    cases ps with
    | nil => simpa [join, List.intercalate] using h
    | cons q qs =>
      simp only [join, List.intercalate_cons_cons, List.append_eq_nil_iff] at h ih
      intro r hr
      rcases List.mem_cons.mp hr with rfl | hr
      · exact h.1.1
      · exact ih h.2 r hr

/-- Case folding, as far as a search for an ASCII word can tell: a character
whose folding holds no ASCII letter stands for itself. -/
def foldChar (c : Char) : Text :=
  if 'A' ≤ c ∧ c ≤ 'Z' then [Char.ofNat (c.toNat + 32)]
  else match c.toNat with
    | 0xdf | 0x1e9e => ['s', 's']
    | 0x130 => ['i', Char.ofNat 0x307]
    | 0x149 => [Char.ofNat 0x2bc, 'n']
    | 0x17f => ['s']
    | 0x1f0 => ['j', Char.ofNat 0x30c]
    | 0x1e96 => ['h', Char.ofNat 0x331]
    | 0x1e97 => ['t', Char.ofNat 0x308]
    | 0x1e98 => ['w', Char.ofNat 0x30a]
    | 0x1e99 => ['y', Char.ofNat 0x30a]
    | 0x1e9a => ['a', Char.ofNat 0x2be]
    | 0x212a => ['k']
    | 0xfb00 => ['f', 'f']
    | 0xfb01 => ['f', 'i']
    | 0xfb02 => ['f', 'l']
    | 0xfb03 => ['f', 'f', 'i']
    | 0xfb04 => ['f', 'f', 'l']
    | 0xfb05 | 0xfb06 => ['s', 't']
    | _ => [c]

def casefold (t : Text) : Text := t.flatMap foldChar

end Text

/-- `value[:n]` of a string. -/
def truncate (n : Nat) (s : String) : String := String.ofList (s.toList.take n)

theorem truncate_of_le {n : Nat} {s : String} (h : s.length ≤ n) : truncate n s = s := by
  rw [truncate, List.take_of_length_le (String.length_toList ▸ h), String.ofList_toList]

theorem truncate_truncate (n : Nat) (s : String) : truncate n (truncate n s) = truncate n s := by
  simp [truncate, List.take_take]

end YTPipe
