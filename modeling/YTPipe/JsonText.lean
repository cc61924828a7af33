import Mathlib.Data.Option.Basic
import YTPipe.Json
import YTPipe.Text

/-!
# JSON as text

Writing and reading values as `json.dumps` and `json.loads` do. The printed
form of a float and the value of a float's text are parameters; the texts
`NaN` and `Infinity`, and half of a surrogate pair, are not read. Integers are
written and read whatever their length: that the interpreter converts no more
than 4300 digits, and raises a `ValueError` beyond them, is left out.
-/

namespace YTPipe

/-- `repr` and `float`, of floats and their texts. -/
structure FloatText where
  write : Rat → Text
  read : Text → Rat

namespace Json

def hex4 (n : Nat) : Text :=
  [Nat.digitChar (n / 4096), Nat.digitChar (n / 256 % 16), Nat.digitChar (n / 16 % 16),
    Nat.digitChar (n % 16)]

def unicodeEscape (n : Nat) : Text := '\\' :: 'u' :: hex4 n

/-- A character of a string, `ensure_ascii` being on. -/
def escapeChar (c : Char) : Text :=
  if c = '"' then ['\\', '"']
  else if c = '\\' then ['\\', '\\']
  else if c = '\n' then ['\\', 'n']
  else if c = '\r' then ['\\', 'r']
  else if c = '\t' then ['\\', 't']
  else if c.toNat = 8 then ['\\', 'b']
  else if c.toNat = 12 then ['\\', 'f']
  else if 32 ≤ c.toNat ∧ c.toNat ≤ 126 then [c]
  else if c.toNat < 0x10000 then unicodeEscape c.toNat
  else
    unicodeEscape (0xd800 + (c.toNat - 0x10000) / 1024)
      ++ unicodeEscape (0xdc00 + (c.toNat - 0x10000) % 1024)

def quote (s : String) : Text := '"' :: s.toList.flatMap escapeChar ++ ['"']

section

variable (F : FloatText)

mutual

/-- `json.dumps`. -/
def dumps : Json → Text
  | null => "null".toList
  | bool true => "true".toList
  | bool false => "false".toList
  | int n => (toString n).toList
  | float q => F.write q
  | str s => quote s
  | arr items => '[' :: dumpsItems items ++ [']']
  | obj members => '\x7b' :: dumpsMembers members ++ ['\x7d']

def dumpsItems : List Json → Text
  | [] => []
  | [item] => dumps item
  | item :: items => dumps item ++ ',' :: ' ' :: dumpsItems items

def dumpsMembers : List (String × Json) → Text
  | [] => []
  | [member] => dumpsMember member
  | member :: members => dumpsMember member ++ ',' :: ' ' :: dumpsMembers members

def dumpsMember : String × Json → Text
  | (name, value) => quote name ++ ':' :: ' ' :: dumps value

end

end

/-- The white space between tokens. -/
def isBlank (c : Char) : Bool := c == ' ' || c == '\t' || c == '\n' || c == '\r'

def skipBlank (t : Text) : Text := t.dropWhile isBlank

def hexValue (c : Char) : Option Nat :=
  if '0' ≤ c ∧ c ≤ '9' then some (c.toNat - 48)
  else if 'a' ≤ c ∧ c ≤ 'f' then some (c.toNat - 87)
  else if 'A' ≤ c ∧ c ≤ 'F' then some (c.toNat - 55)
  else none

def readHex4 : Text → Option (Nat × Text)
  | a :: b :: c :: d :: t => do
    let a ← hexValue a
    let b ← hexValue b
    let c ← hexValue c
    let d ← hexValue d
    return (a * 4096 + b * 256 + c * 16 + d, t)
  | _ => none

/-- What comes after `\u`; a high surrogate is joined with the low one after it. -/
def readUnicode (t : Text) : Option (Char × Text) := do
  let (n, t) ← readHex4 t
  if 0xd800 ≤ n ∧ n ≤ 0xdbff then
    match t with
    | '\\' :: 'u' :: t => do
      let (m, t) ← readHex4 t
      guard (0xdc00 ≤ m ∧ m ≤ 0xdfff)
      return (Char.ofNat (0x10000 + (n - 0xd800) * 1024 + (m - 0xdc00)), t)
    | _ => none
  else if 0xdc00 ≤ n ∧ n ≤ 0xdfff then none
  else return (Char.ofNat n, t)

/-- What comes after a backslash. -/
def readEscape : Text → Option (Char × Text)
  | '"' :: t => some ('"', t)
  | '\\' :: t => some ('\\', t)
  | '/' :: t => some ('/', t)
  | 'b' :: t => some (Char.ofNat 8, t)
  | 'f' :: t => some (Char.ofNat 12, t)
  | 'n' :: t => some ('\n', t)
  | 'r' :: t => some ('\r', t)
  | 't' :: t => some ('\t', t)
  | 'u' :: t => readUnicode t
  | _ => none

/-- One character of a string, escaped or not. -/
def readChar : Text → Option (Char × Text)
  | [] => none
  | c :: t => if c = '\\' then readEscape t else if c.toNat < 32 then none else some (c, t)

/-- The rest of a string, up to its closing quote. -/
def readString : Nat → Text → Option (Text × Text)
  | 0, _ => none
  | fuel + 1, t =>
    match t with
    | '"' :: t => some ([], t)
    | t => do
      let (c, t) ← readChar t
      let (s, t) ← readString fuel t
      return (c :: s, t)

/-- The digits of a whole number, which has no leading zero. -/
def readWhole : Text → Option (Text × Text)
  | [] => none
  | c :: t =>
    if c = '0' then some (['0'], t)
    else if c.isDigit then some ((c :: t).span Char.isDigit)
    else none

def readInteger : Text → Option (Text × Text)
  | '-' :: t => (readWhole t).map fun (digits, t) => ('-' :: digits, t)
  | t => readWhole t

/-- A point and digits, or nothing. -/
def readFraction : Text → Text × Text
  | '.' :: t =>
    let (digits, rest) := t.span Char.isDigit
    if digits = [] then ([], '.' :: t) else ('.' :: digits, rest)
  | t => ([], t)

/-- The sign of an exponent. -/
def readSign : Text → Text × Text
  | '+' :: t => (['+'], t)
  | '-' :: t => (['-'], t)
  | t => ([], t)

/-- An exponent, or nothing. -/
def readExponent : Text → Text × Text
  | [] => ([], [])
  | c :: t =>
    if c = 'e' ∨ c = 'E' then
      let (sign, u) := readSign t
      let (digits, rest) := u.span Char.isDigit
      if digits = [] then ([], c :: t) else (c :: sign ++ digits, rest)
    else ([], c :: t)

def integerValue : Text → Int
  | '-' :: digits => -Nat.ofDigitChars 10 digits 0
  | digits => Nat.ofDigitChars 10 digits 0

section

variable (F : FloatText)

def readNumber (t : Text) : Option (Json × Text) := do
  let (whole, t) ← readInteger t
  let (fraction, t) := readFraction t
  let (exponent, t) := readExponent t
  if fraction = [] ∧ exponent = [] then return (int (integerValue whole), t)
  else return (float (F.read (whole ++ fraction ++ exponent)), t)

mutual

/-- A value and the text after it. -/
def readValue : Nat → Text → Option (Json × Text)
  | 0, _ => none
  | fuel + 1, t =>
    match t with
    | '"' :: t => do
      let (s, t) ← readString (t.length + 1) t
      return (str (String.ofList s), t)
    | '[' :: t =>
      match skipBlank t with
      | ']' :: t => some (arr [], t)
      | t => do
        let (items, t) ← readItems fuel t
        return (arr items, t)
    | '\x7b' :: t =>
      match skipBlank t with
      | '\x7d' :: t => some (obj [], t)
      | t => do
        let (members, t) ← readMembers fuel t
        return (obj members, t)
    | 'n' :: 'u' :: 'l' :: 'l' :: t => some (null, t)
    | 't' :: 'r' :: 'u' :: 'e' :: t => some (bool true, t)
    | 'f' :: 'a' :: 'l' :: 's' :: 'e' :: t => some (bool false, t)
    | t => readNumber F t

/-- The items of an array from one on, and the text after its bracket. -/
def readItems : Nat → Text → Option (List Json × Text)
  | 0, _ => none
  | fuel + 1, t => do
    let (item, t) ← readValue fuel t
    match skipBlank t with
    | ']' :: t => return ([item], t)
    | ',' :: t => do
      let (items, t) ← readItems fuel (skipBlank t)
      return (item :: items, t)
    | _ => none

def readMembers : Nat → Text → Option (List (String × Json) × Text)
  | 0, _ => none
  | fuel + 1, t => do
    let (member, t) ← readMember fuel t
    match skipBlank t with
    | '\x7d' :: t => return ([member], t)
    | ',' :: t => do
      let (members, t) ← readMembers fuel (skipBlank t)
      return (member :: members, t)
    | _ => none

def readMember : Nat → Text → Option ((String × Json) × Text)
  | 0, _ => none
  | fuel + 1, t =>
    match t with
    | '"' :: t => do
      let (name, t) ← readString (t.length + 1) t
      match skipBlank t with
      | ':' :: t => do
        let (value, t) ← readValue fuel (skipBlank t)
        return ((String.ofList name, value), t)
      | _ => none
    | _ => none

end

/-- `json.loads`. -/
def loads (t : Text) : Option Json := do
  let (value, rest) ← readValue F (3 * t.length + 1) (skipBlank t)
  guard (skipBlank rest = [])
  return value

end

end Json

end YTPipe
