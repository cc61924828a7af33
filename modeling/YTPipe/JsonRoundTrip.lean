import Mathlib.Data.List.TakeDrop
import YTPipe.JsonText

/-!
# Reading a value back

A value that is written as text is read back as it was, where its floats are.
-/

namespace YTPipe

namespace Json

def IsDigits (t : Text) : Prop := ∀ c ∈ t, c.isDigit = true

/-- The digits of a whole number. -/
def IsWhole (t : Text) : Prop :=
  t = ['0'] ∨ ∃ c digits, t = c :: digits ∧ c ≠ '0' ∧ c.isDigit = true ∧ IsDigits digits

def IsInteger (t : Text) : Prop := IsWhole t ∨ ∃ digits, t = '-' :: digits ∧ IsWhole digits

def IsFraction (t : Text) : Prop :=
  t = [] ∨ ∃ digits, t = '.' :: digits ∧ digits ≠ [] ∧ IsDigits digits

def IsSign (t : Text) : Prop := t = [] ∨ t = ['+'] ∨ t = ['-']

def IsExponent (t : Text) : Prop :=
  t = [] ∨ ∃ c sign digits, t = c :: sign ++ digits ∧ (c = 'e' ∨ c = 'E') ∧ IsSign sign
    ∧ digits ≠ [] ∧ IsDigits digits

/-- The text of a float: an integer with a fraction or an exponent. -/
def IsFloat (t : Text) : Prop :=
  ∃ whole fraction exponent, t = whole ++ fraction ++ exponent ∧ IsInteger whole
    ∧ IsFraction fraction ∧ IsExponent exponent ∧ ¬ (fraction = [] ∧ exponent = [])

end Json

/-- The float is written as one, and its text has its value. -/
structure FloatText.Keeps (F : FloatText) (q : Rat) : Prop where
  float : Json.IsFloat (F.write q)
  back : F.read (F.write q) = q

namespace Json

/-- No number goes on with the text. -/
def Ends : Text → Prop
  | [] => True
  | c :: _ => c.isDigit = false ∧ c ≠ '.' ∧ c ≠ 'e' ∧ c ≠ 'E'

/-- The text starts with a token that is not a closing one. -/
def Opens (t : Text) : Prop := ∃ c u, t = c :: u ∧ isBlank c = false ∧ c ≠ ']' ∧ c ≠ '\x7d'

theorem Opens.append {t : Text} (h : Opens t) (rest : Text) : Opens (t ++ rest) := by
  obtain ⟨c, u, rfl, tokens⟩ := h
  exact ⟨c, u ++ rest, rfl, tokens⟩

theorem skipBlank_of_opens {t : Text} (h : Opens t) : skipBlank t = t := by
  obtain ⟨c, u, rfl, blank, _⟩ := h
  simp [skipBlank, blank]

section strings

theorem hexValue_digitChar : ∀ n < 16, hexValue (Nat.digitChar n) = some n := by decide

theorem readHex4_hex4 {n : Nat} (h : n < 65536) (t : Text) :
    readHex4 (hex4 n ++ t) = some (n, t) := by
  simp only [hex4, List.cons_append, List.nil_append, readHex4]
  rw [hexValue_digitChar _ (by omega), hexValue_digitChar _ (by omega),
    hexValue_digitChar _ (by omega), hexValue_digitChar _ (by omega)]
  simp only [Option.pure_def, Option.bind_eq_bind, Option.bind_some, Option.some.injEq,
    Prod.mk.injEq, and_true]
  omega

theorem char_toNat_cases (c : Char) : c.toNat < 0xd800 ∨ 0xdfff < c.toNat ∧ c.toNat < 0x110000 :=
  c.valid

theorem readUnicode_escape {c : Char} (h : c.toNat < 0x10000) (t : Text) :
    readUnicode (hex4 c.toNat ++ t) = some (c, t) := by
  have valid := char_toNat_cases c
  simp only [readUnicode, readHex4_hex4 h, Option.bind_eq_bind, Option.bind_some]
  rw [if_neg (by omega), if_neg (by omega), Char.ofNat_toNat]
  rfl

theorem readUnicode_pair {n m : Nat} (high : 0xd800 ≤ n ∧ n ≤ 0xdbff)
    (low : 0xdc00 ≤ m ∧ m ≤ 0xdfff) (t : Text) :
    readUnicode (hex4 n ++ (unicodeEscape m ++ t))
      = some (Char.ofNat (0x10000 + (n - 0xd800) * 1024 + (m - 0xdc00)), t) := by
  simp only [readUnicode, unicodeEscape, List.cons_append, readHex4_hex4 (show n < 65536 by omega),
    readHex4_hex4 (show m < 65536 by omega), Option.bind_eq_bind, Option.bind_some, high, low,
    and_self, if_true, guard, Option.pure_def]

/-- The two halves of a surrogate pair give the character. -/
theorem readUnicode_surrogates {c : Char} (h : 0x10000 ≤ c.toNat) (t : Text) :
    readUnicode (hex4 (0xd800 + (c.toNat - 0x10000) / 1024)
      ++ (unicodeEscape (0xdc00 + (c.toNat - 0x10000) % 1024) ++ t)) = some (c, t) := by
  have valid := char_toNat_cases c
  have same : 0x10000 + (0xd800 + (c.toNat - 0x10000) / 1024 - 0xd800) * 1024
      + (0xdc00 + (c.toNat - 0x10000) % 1024 - 0xdc00) = c.toNat := by
    omega
  rw [readUnicode_pair (by omega) (by omega), same, Char.ofNat_toNat]

theorem readChar_escapeChar (c : Char) (t : Text) :
    readChar (escapeChar c ++ t) = some (c, t) := by
  unfold escapeChar
  split
  · next h => subst h; rfl
  split
  · next h => subst h; rfl
  split
  · next h => subst h; rfl
  split
  · next h => subst h; rfl
  split
  · next h => subst h; rfl
  split
  · next h => rw [← Char.ofNat_toNat c, h]; rfl
  split
  · next h => rw [← Char.ofNat_toNat c, h]; rfl
  split
  · next backslash _ _ _ _ _ h =>
    simp only [List.cons_append, List.nil_append, readChar]
    rw [if_neg backslash, if_neg (by omega)]
  split
  · next h => exact readUnicode_escape h t
  · next h =>
    rw [List.append_assoc]
    exact readUnicode_surrogates (by omega) t

/-- No escape starts with a quote. -/
theorem escapeChar_head (c : Char) : ∃ d u, escapeChar c = d :: u ∧ d ≠ '"' := by
  unfold escapeChar
  split
  · exact ⟨_, _, rfl, by decide⟩
  · next quote =>
    repeat' split
    all_goals first
      | exact ⟨_, _, rfl, by decide⟩
      | exact ⟨_, _, rfl, quote⟩

theorem readString_escaped (s : Text) {fuel : Nat} (enough : s.length < fuel) (rest : Text) :
    readString fuel (s.flatMap escapeChar ++ '"' :: rest) = some (s, rest) := by
  induction s generalizing fuel with
  | nil =>
    cases fuel with
    | zero => omega
    | succ fuel => rfl
  | cons c s ih =>
    cases fuel with
    | zero => omega
    | succ fuel =>
      rw [List.length_cons] at enough
      rw [List.flatMap_cons, List.append_assoc]
      have first := readChar_escapeChar c (s.flatMap escapeChar ++ '"' :: rest)
      obtain ⟨d, u, head, apart⟩ := escapeChar_head c
      rw [head] at first ⊢
      simp only [List.cons_append] at first ⊢
      unfold readString
      split
      · next heq => exact absurd (List.cons.inj heq).1 apart
      · simp only [first, Option.bind_eq_bind, Option.bind_some]
        rw [ih (by omega)]
        rfl

theorem length_le_flatMap_escapeChar (s : Text) : s.length ≤ (s.flatMap escapeChar).length := by
  induction s with
  | nil => exact Nat.le_refl 0
  | cons c s ih =>
    obtain ⟨d, u, head, _⟩ := escapeChar_head c
    rw [List.flatMap_cons, List.length_append, head, List.length_cons, List.length_cons]
    omega

/-- What stands after the opening quote of a string is read as the string. -/
theorem readString_quoted (s : String) (rest : Text) :
    readString ((s.toList.flatMap escapeChar ++ '"' :: rest).length + 1)
      (s.toList.flatMap escapeChar ++ '"' :: rest) = some (s.toList, rest) := by
  apply readString_escaped
  have := length_le_flatMap_escapeChar s.toList
  rw [List.length_append]
  omega

end strings

section numbers

theorem span_digits {digits rest : Text} (all : IsDigits digits)
    (ends : ∀ c ∈ rest.head?, c.isDigit = false) :
    (digits ++ rest).span Char.isDigit = (digits, rest) := by
  rw [List.span_eq_takeWhile_dropWhile, List.takeWhile_append_of_pos all,
    List.dropWhile_append_of_pos all]
  cases rest with
  | nil => simp
  | cons c rest => simp [ends c rfl]

theorem readWhole_append {whole rest : Text} (h : IsWhole whole)
    (ends : ∀ c ∈ rest.head?, c.isDigit = false) :
    readWhole (whole ++ rest) = some (whole, rest) := by
  rcases h with rfl | ⟨c, digits, rfl, nonzero, digit, all⟩
  · rfl
  · have run : (c :: digits ++ rest).span Char.isDigit = (c :: digits, rest) :=
      span_digits (fun d hd => (List.mem_cons.mp hd).elim (fun e => e ▸ digit) (all d)) ends
    simp only [List.cons_append] at run ⊢
    simp only [readWhole, nonzero, digit, if_false, if_true, run]

theorem IsWhole.head {whole : Text} (h : IsWhole whole) :
    ∃ c digits, whole = c :: digits ∧ c.isDigit = true := by
  rcases h with rfl | ⟨c, digits, rfl, _, digit, _⟩
  · exact ⟨'0', [], rfl, rfl⟩
  · exact ⟨c, digits, rfl, digit⟩

theorem readInteger_append {whole rest : Text} (h : IsInteger whole)
    (ends : ∀ c ∈ rest.head?, c.isDigit = false) :
    readInteger (whole ++ rest) = some (whole, rest) := by
  rcases h with h | ⟨digits, rfl, h⟩
  · obtain ⟨c, digits, rfl, digit⟩ := h.head
    have read := readWhole_append h ends
    unfold readInteger
    split
    · next heq =>
      cases (List.cons.inj heq).1
      cases digit
    · exact read
  · simp only [readInteger, List.cons_append, readWhole_append h ends]
    rfl

theorem readFraction_append {fraction rest : Text} (h : IsFraction fraction)
    (ends : ∀ c ∈ rest.head?, c.isDigit = false ∧ c ≠ '.') :
    readFraction (fraction ++ rest) = (fraction, rest) := by
  rcases h with rfl | ⟨digits, rfl, some, all⟩
  · rw [List.nil_append]
    unfold readFraction
    split
    · next t => exact absurd rfl (ends '.' rfl).2
    · rfl
  · simp only [readFraction, List.cons_append,
      span_digits all fun c hc => (ends c hc).1, some, if_false]

theorem readSign_append {sign digits rest : Text} (h : IsSign sign) (some : digits ≠ [])
    (all : IsDigits digits) : readSign (sign ++ (digits ++ rest)) = (sign, digits ++ rest) := by
  rcases h with rfl | rfl | rfl
  · cases digits with
    | nil => exact absurd rfl some
    | cons c digits =>
      have digit := all c (List.mem_cons_self ..)
      simp only [List.nil_append, List.cons_append]
      unfold readSign
      split
      · next heq =>
        cases (List.cons.inj heq).1
        cases digit
      · next heq =>
        cases (List.cons.inj heq).1
        cases digit
      · rfl
  · rfl
  · rfl

theorem readExponent_append {exponent rest : Text} (h : IsExponent exponent) (ends : Ends rest) :
    readExponent (exponent ++ rest) = (exponent, rest) := by
  rcases h with rfl | ⟨c, sign, digits, rfl, mark, hsign, some, all⟩
  · cases rest with
    | nil => rfl
    | cons c rest =>
      obtain ⟨_, _, lower, upper⟩ := ends
      simp [readExponent, lower, upper]
  · have tail : ∀ c ∈ rest.head?, c.isDigit = false := by
      cases rest with
      | nil => exact nofun
      | cons c rest => simpa using ends.1
    simp only [List.cons_append, List.append_assoc, readExponent, mark, if_true,
      readSign_append hsign some all, span_digits all tail, some, if_false]

theorem IsExponent.head {exponent : Text} (h : IsExponent exponent) {c : Char}
    (hc : c ∈ exponent.head?) : c = 'e' ∨ c = 'E' := by
  rcases h with rfl | ⟨d, sign, digits, rfl, mark, _⟩
  · cases hc
  · cases hc
    exact mark

theorem IsFraction.head {fraction : Text} (h : IsFraction fraction) {c : Char}
    (hc : c ∈ fraction.head?) : c = '.' := by
  rcases h with rfl | ⟨digits, rfl, _⟩
  · cases hc
  · cases hc
    rfl

/-- A number's parts are read as they were written. -/
theorem readNumber_append (F : FloatText) {whole fraction exponent rest : Text}
    (hw : IsInteger whole) (hf : IsFraction fraction) (he : IsExponent exponent)
    (ends : Ends rest) : readNumber F (whole ++ (fraction ++ (exponent ++ rest)))
      = if fraction = [] ∧ exponent = [] then some (int (integerValue whole), rest)
        else some (float (F.read (whole ++ fraction ++ exponent)), rest) := by
  have after : ∀ c ∈ (exponent ++ rest).head?, c.isDigit = false ∧ c ≠ '.' := by
    intro c hc
    cases exponent with
    | nil =>
      cases rest with
      | nil => cases hc
      | cons d rest =>
        cases hc
        exact ⟨ends.1, ends.2.1⟩
    | cons d exponent =>
      cases hc
      rcases he.head rfl with rfl | rfl <;> decide
  have beyond : ∀ c ∈ (fraction ++ (exponent ++ rest)).head?, c.isDigit = false := by
    intro c hc
    cases fraction with
    | nil => exact (after c hc).1
    | cons d fraction =>
      cases hc
      cases hf.head rfl
      rfl
  simp only [readNumber, readInteger_append hw beyond, Option.bind_eq_bind, Option.bind_some,
    readFraction_append hf after, readExponent_append he ends]
  rfl

theorem readNumber_float {F : FloatText} {t rest : Text} (h : IsFloat t) (ends : Ends rest) :
    readNumber F (t ++ rest) = some (float (F.read t), rest) := by
  obtain ⟨whole, fraction, exponent, rfl, hw, hf, he, some⟩ := h
  rw [List.append_assoc, List.append_assoc, readNumber_append F hw hf he ends, if_neg some]

theorem toDigits_whole (n : Nat) : IsWhole (Nat.toDigits 10 n) := by
  induction n using Nat.strongRecOn with
  | ind n ih =>
    by_cases small : n < 10
    · rw [Nat.toDigits_of_lt_base small]
      have table : ∀ n < 10, n.digitChar = '0' ∨ n.digitChar ≠ '0' ∧ n.digitChar.isDigit = true := by
        decide
      rcases table n small with zero | ⟨nonzero, digit⟩
      · exact .inl (congrArg (fun c => [c]) zero)
      · exact .inr ⟨_, [], rfl, nonzero, digit, fun _ hc => absurd hc List.not_mem_nil⟩
    · rw [Nat.toDigits_of_base_le (by omega) (by omega)]
      have last : (Nat.digitChar (n % 10)).isDigit = true :=
        Nat.isDigit_of_mem_toDigits (n := n % 10) (b := 10) (by omega) (by omega)
          (by rw [Nat.toDigits_of_lt_base (Nat.mod_lt _ (by omega))]; exact List.mem_singleton.mpr rfl)
      rcases ih (n / 10) (by omega) with zero | ⟨c, digits, front, nonzero, digit, all⟩
      · have value := congrArg (fun t => Nat.ofDigitChars 10 t 0) zero
        rw [Nat.ofDigitChars_ten_toDigits] at value
        have : n / 10 = 0 := value
        omega
      · refine .inr ⟨c, digits ++ [Nat.digitChar (n % 10)], by rw [front]; rfl, nonzero, digit, ?_⟩
        intro d hd
        rcases List.mem_append.mp hd with hd | hd
        · exact all d hd
        · rw [List.mem_singleton.mp hd]
          exact last

theorem toList_int_nonneg (n : Nat) : (toString (n : Int)).toList = Nat.toDigits 10 n :=
  Nat.toList_repr

theorem toList_int_neg (n : Nat) :
    (toString (Int.negSucc n)).toList = '-' :: Nat.toDigits 10 (n + 1) := by
  have own : toString (Int.negSucc n) = "-" ++ (n + 1).repr := rfl
  rw [own, String.toList_append, Nat.toList_repr]
  rfl

theorem int_integer (n : Int) : IsInteger (toString n).toList := by
  cases n with
  | ofNat n => exact .inl ((toList_int_nonneg n).symm ▸ toDigits_whole n)
  | negSucc n => exact .inr ⟨_, toList_int_neg n, toDigits_whole _⟩

theorem integerValue_int (n : Int) : integerValue (toString n).toList = n := by
  cases n with
  | ofNat n =>
    have digits := toList_int_nonneg n
    have value := @Nat.ofDigitChars_ten_toDigits n
    rw [Int.ofNat_eq_natCast, digits]
    obtain ⟨c, rest, head, digit⟩ := (toDigits_whole n).head
    rw [head] at value ⊢
    unfold integerValue
    split
    · next heq =>
      cases (List.cons.inj heq).1
      cases digit
    · rw [value]
  | negSucc n =>
    rw [toList_int_neg]
    simp only [integerValue, Nat.ofDigitChars_ten_toDigits]
    rfl

theorem readNumber_int (F : FloatText) (n : Int) {rest : Text} (ends : Ends rest) :
    readNumber F ((toString n).toList ++ rest) = some (int n, rest) := by
  have read := readNumber_append F (int_integer n) (.inl rfl) (.inl rfl) ends
  rw [if_pos ⟨rfl, rfl⟩, integerValue_int] at read
  exact read

end numbers

section values

variable {F : FloatText}

mutual

/-- The floats in a value. -/
def floats : Json → List Rat
  | float q => [q]
  | arr items => floatsItems items
  | obj members => floatsMembers members
  | _ => []

def floatsItems : List Json → List Rat
  | [] => []
  | item :: items => floats item ++ floatsItems items

def floatsMembers : List (String × Json) → List Rat
  | [] => []
  | member :: members => floatsMember member ++ floatsMembers members

def floatsMember : String × Json → List Rat
  | (_, value) => floats value

end

/-- The text starts as a number does. -/
def NumberHead (t : Text) : Prop := ∃ c u, t = c :: u ∧ (c.isDigit = true ∨ c = '-')

theorem IsInteger.head {whole : Text} (h : IsInteger whole) (rest : Text) :
    NumberHead (whole ++ rest) := by
  rcases h with h | ⟨digits, rfl, _⟩
  · obtain ⟨c, digits, rfl, digit⟩ := h.head
    exact ⟨c, digits ++ rest, rfl, .inl digit⟩
  · exact ⟨'-', digits ++ rest, rfl, .inr rfl⟩

theorem IsFloat.head {t : Text} (h : IsFloat t) (rest : Text) : NumberHead (t ++ rest) := by
  obtain ⟨whole, fraction, exponent, rfl, hw, _⟩ := h
  rw [List.append_assoc, List.append_assoc]
  exact hw.head _

theorem NumberHead.apart {t : Text} (h : NumberHead t) {c : Char} (hc : c.isDigit = false)
    (sign : c ≠ '-') (u : Text) : t ≠ c :: u := by
  rintro rfl
  obtain ⟨d, v, heq, digit | minus⟩ := h
  · rw [← (List.cons.inj heq).1, hc] at digit
    cases digit
  · exact sign ((List.cons.inj heq).1.trans minus)

theorem NumberHead.opens {t : Text} (h : NumberHead t) : Opens t := by
  obtain ⟨c, u, rfl, digit | rfl⟩ := h
  · refine ⟨c, u, rfl, ?_, ?_, ?_⟩
    · cases blank : isBlank c with
      | false => rfl
      | true =>
        simp only [isBlank, Bool.or_eq_true, beq_iff_eq] at blank
        rcases blank with ((rfl | rfl) | rfl) | rfl <;> cases digit
    · rintro rfl
      cases digit
    · rintro rfl
      cases digit
  · exact ⟨'-', u, rfl, rfl, by decide, by decide⟩

/-- A text that starts as a number does is read as one. -/
theorem readValue_number {t : Text} (h : NumberHead t) (fuel : Nat) :
    readValue F (fuel + 1) t = readNumber F t := by
  unfold readValue
  split
  · exact absurd rfl (h.apart rfl (by decide) _)
  · exact absurd rfl (h.apart rfl (by decide) _)
  · exact absurd rfl (h.apart rfl (by decide) _)
  · exact absurd rfl (h.apart rfl (by decide) _)
  · exact absurd rfl (h.apart rfl (by decide) _)
  · exact absurd rfl (h.apart rfl (by decide) _)
  · rfl

theorem dumps_opens {v : Json} (kept : ∀ q ∈ floats v, F.Keeps q) : Opens (dumps F v) := by
  cases v with
  | null => exact ⟨'n', _, rfl, rfl, by decide, by decide⟩
  | bool b =>
    cases b with
    | true => exact ⟨'t', _, rfl, rfl, by decide, by decide⟩
    | false => exact ⟨'f', _, rfl, rfl, by decide, by decide⟩
  | int n =>
    have head := (int_integer n).head []
    rw [List.append_nil] at head
    exact head.opens
  | float q =>
    have head := (kept q (List.mem_singleton.mpr rfl)).float.head []
    rw [List.append_nil] at head
    exact head.opens
  | str s => exact ⟨'"', _, rfl, rfl, by decide, by decide⟩
  | arr items => exact ⟨'[', _, rfl, rfl, by decide, by decide⟩
  | obj members => exact ⟨'\x7b', _, rfl, rfl, by decide, by decide⟩

theorem Opens.length_pos {t : Text} (h : Opens t) : 0 < t.length := by
  obtain ⟨c, u, rfl, _⟩ := h
  exact Nat.succ_pos _

theorem dumpsItems_opens {items : List Json} (filled : items ≠ [])
    (kept : ∀ q ∈ floatsItems items, F.Keeps q) : Opens (dumpsItems F items) := by
  cases items with
  | nil => exact absurd rfl filled
  | cons item items =>
    have first := dumps_opens fun q hq => kept q (List.mem_append_left _ hq)
    cases items with
    | nil => exact first
    | cons next items =>
      rw [dumpsItems]
      · exact first.append _
      · nofun

theorem dumpsMembers_head {members : List (String × Json)} (filled : members ≠ []) :
    ∃ u, dumpsMembers F members = '"' :: u := by
  match members with
  | [] => exact absurd rfl filled
  | [(name, value)] =>
    simp only [dumpsMembers, dumpsMember, quote, List.cons_append]
    exact ⟨_, rfl⟩
  | (name, value) :: next :: members =>
    simp only [dumpsMembers, dumpsMember, quote, List.cons_append]
    exact ⟨_, rfl⟩

theorem skipBlank_cons {c : Char} (h : isBlank c = false) (t : Text) :
    skipBlank (c :: t) = c :: t := by
  simp [skipBlank, h]

theorem skipBlank_space {t : Text} (h : Opens t) : skipBlank (' ' :: t) = t :=
  skipBlank_of_opens h

mutual

/-- A value is read back from its text, whatever comes after it. -/
theorem readValue_dumps (v : Json) (kept : ∀ q ∈ floats v, F.Keeps q) (fuel : Nat)
    (enough : 3 * (dumps F v).length ≤ fuel) (rest : Text) (ends : Ends rest) :
    readValue F fuel (dumps F v ++ rest) = some (v, rest) := by
  have := (dumps_opens kept).length_pos
  obtain ⟨fuel, rfl⟩ : ∃ n, fuel = n + 1 := ⟨fuel - 1, by omega⟩
  cases v with
  | null => rfl
  | bool b => cases b <;> rfl
  | int n =>
    have head := (int_integer n).head rest
    rw [dumps, readValue_number head, readNumber_int F n ends]
  | float q =>
    have keeps := kept q (List.mem_singleton.mpr rfl)
    rw [dumps, readValue_number (keeps.float.head rest), readNumber_float keeps.float ends,
      keeps.back]
  | str s =>
    simp only [dumps, quote, List.cons_append, List.append_assoc, List.nil_append, readValue,
      readString_quoted, Option.bind_eq_bind, Option.bind_some, String.ofList_toList]
    rfl
  | arr items =>
    cases items with
    | nil => rfl
    | cons item items =>
      have opens := dumpsItems_opens (List.cons_ne_nil item items) kept
      have read := readItems_dumps (item :: items) (List.cons_ne_nil _ _) kept fuel
        (by simp only [dumps, List.length_append, List.length_cons] at enough; omega) rest
      obtain ⟨c, u, head, blank, other, _⟩ := opens
      simp only [dumps, List.cons_append, List.append_assoc, List.nil_append, readValue]
      rw [head] at read ⊢
      simp only [List.cons_append] at read ⊢
      rw [skipBlank_cons blank]
      split
      · next heq => exact absurd (List.cons.inj heq).1 other
      · simp only [read, Option.bind_eq_bind, Option.bind_some]
        rfl
  | obj members =>
    cases members with
    | nil => rfl
    | cons member members =>
      have read := readMembers_dumps (member :: members) (List.cons_ne_nil _ _) kept fuel
        (by simp only [dumps, List.length_append, List.length_cons] at enough; omega) rest
      obtain ⟨u, head⟩ := @dumpsMembers_head F _ (List.cons_ne_nil member members)
      simp only [dumps, List.cons_append, List.append_assoc, List.nil_append, readValue]
      rw [head] at read ⊢
      simp only [List.cons_append] at read ⊢
      rw [skipBlank_cons rfl]
      split
      · next heq => exact absurd (List.cons.inj heq).1 (by decide)
      · simp only [read, Option.bind_eq_bind, Option.bind_some]
        rfl

theorem readItems_dumps (items : List Json) (filled : items ≠ [])
    (kept : ∀ q ∈ floatsItems items, F.Keeps q) (fuel : Nat)
    (enough : 3 * (dumpsItems F items).length + 1 ≤ fuel) (rest : Text) :
    readItems F fuel (dumpsItems F items ++ ']' :: rest) = some (items, rest) := by
  obtain ⟨fuel, rfl⟩ : ∃ n, fuel = n + 1 := ⟨fuel - 1, by omega⟩
  match items with
  | [] => exact absurd rfl filled
  | [item] =>
    have first := readValue_dumps item (fun q hq => kept q (List.mem_append_left _ hq)) fuel
      (by simp only [dumpsItems] at enough; omega) (']' :: rest) (by simp [Ends])
    simp only [dumpsItems, readItems, first, Option.bind_eq_bind, Option.bind_some,
      skipBlank_cons (show isBlank ']' = false from rfl)]
    rfl
  | item :: next :: items =>
    have later := fun q hq => kept q (List.mem_append_right _ hq)
    simp only [dumpsItems, List.length_append, List.length_cons] at enough
    have first := readValue_dumps item (fun q hq => kept q (List.mem_append_left _ hq)) fuel
      (by omega) (',' :: ' ' :: (dumpsItems F (next :: items) ++ ']' :: rest)) (by simp [Ends])
    have others := readItems_dumps (next :: items) (List.cons_ne_nil _ _) later fuel (by omega) rest
    have opens := (dumpsItems_opens (List.cons_ne_nil next items) later).append (']' :: rest)
    simp only [dumpsItems, readItems, List.append_assoc, List.cons_append, first,
      Option.bind_eq_bind, Option.bind_some, skipBlank_cons (show isBlank ',' = false from rfl),
      skipBlank_space opens, others]
    rfl

theorem readMembers_dumps (members : List (String × Json)) (filled : members ≠ [])
    (kept : ∀ q ∈ floatsMembers members, F.Keeps q) (fuel : Nat)
    (enough : 3 * (dumpsMembers F members).length + 1 ≤ fuel) (rest : Text) :
    readMembers F fuel (dumpsMembers F members ++ '\x7d' :: rest) = some (members, rest) := by
  obtain ⟨fuel, rfl⟩ : ∃ n, fuel = n + 1 := ⟨fuel - 1, by omega⟩
  match members with
  | [] => exact absurd rfl filled
  | [member] =>
    have first := readMember_dumps member (fun q hq => kept q (List.mem_append_left _ hq)) fuel
      (by simp only [dumpsMembers] at enough; omega) ('\x7d' :: rest) (by simp [Ends])
    simp only [dumpsMembers, readMembers, first, Option.bind_eq_bind, Option.bind_some,
      skipBlank_cons (show isBlank '\x7d' = false from rfl)]
    rfl
  | member :: next :: members =>
    simp only [dumpsMembers, List.length_append, List.length_cons] at enough
    have first := readMember_dumps member (fun q hq => kept q (List.mem_append_left _ hq)) fuel
      (by omega) (',' :: ' ' :: (dumpsMembers F (next :: members) ++ '\x7d' :: rest))
      (by simp [Ends])
    have others := readMembers_dumps (next :: members) (List.cons_ne_nil _ _)
      (fun q hq => kept q (List.mem_append_right _ hq)) fuel (by omega) rest
    have opens : Opens (dumpsMembers F (next :: members) ++ '\x7d' :: rest) := by
      obtain ⟨u, head⟩ := @dumpsMembers_head F _ (List.cons_ne_nil next members)
      rw [head]
      exact ⟨'"', _, rfl, rfl, by decide, by decide⟩
    simp only [dumpsMembers, readMembers, List.append_assoc, List.cons_append, first,
      Option.bind_eq_bind, Option.bind_some, skipBlank_cons (show isBlank ',' = false from rfl),
      skipBlank_space opens, others]
    rfl

theorem readMember_dumps (member : String × Json) (kept : ∀ q ∈ floatsMember member, F.Keeps q)
    (fuel : Nat) (enough : 3 * (dumpsMember F member).length ≤ fuel) (rest : Text)
    (ends : Ends rest) :
    readMember F fuel (dumpsMember F member ++ rest) = some (member, rest) := by
  obtain ⟨name, value⟩ := member
  simp only [dumpsMember, quote, List.length_append, List.length_cons] at enough
  obtain ⟨fuel, rfl⟩ : ∃ n, fuel = n + 1 := ⟨fuel - 1, by omega⟩
  have opens := (dumps_opens kept).append rest
  have inner := readValue_dumps value kept fuel (by omega) rest ends
  simp only [dumpsMember, quote, List.cons_append, List.append_assoc, List.nil_append, readMember,
    readString_quoted, Option.bind_eq_bind, Option.bind_some,
    skipBlank_cons (show isBlank ':' = false from rfl), skipBlank_space opens, inner,
    String.ofList_toList]
  rfl

end

/-- What is written is read back. -/
theorem loads_dumps {v : Json} (kept : ∀ q ∈ floats v, F.Keeps q) :
    loads F (dumps F v) = some v := by
  have read := readValue_dumps v kept (3 * (dumps F v).length + 1) (by omega) [] trivial
  rw [List.append_nil] at read
  simp only [loads, skipBlank_of_opens (dumps_opens kept), read, Option.bind_eq_bind,
    Option.bind_some]
  rfl

end values

end Json

end YTPipe
