import YTPipe.Strings

/-!
# Base 64

`base64.urlsafe_b64encode` and `urlsafe_b64decode`. Decoding leaves out what is
no digit and stops where the padding completes a group.
-/

namespace YTPipe.Base64

/-- The character of six bits. -/
def digit (n : Nat) : Char :=
  if n < 26 then Char.ofNat (65 + n)
  else if n < 52 then Char.ofNat (71 + n)
  else if n < 62 then Char.ofNat (n - 4)
  else if n = 62 then '-'
  else '_'

/-- The six bits of a character of either alphabet. -/
def value (c : Char) : Option Nat :=
  if 'A' ≤ c ∧ c ≤ 'Z' then some (c.toNat - 65)
  else if 'a' ≤ c ∧ c ≤ 'z' then some (c.toNat - 71)
  else if '0' ≤ c ∧ c ≤ '9' then some (c.toNat + 4)
  else if c = '-' ∨ c = '+' then some 62
  else if c = '_' ∨ c = '/' then some 63
  else none

/-- The digits of some bytes. -/
def digits : List UInt8 → Text
  | a :: b :: c :: rest =>
    digit (a.toNat / 4) :: digit (a.toNat % 4 * 16 + b.toNat / 16)
      :: digit (b.toNat % 16 * 4 + c.toNat / 64) :: digit (c.toNat % 64) :: digits rest
  | [a, b] =>
    [digit (a.toNat / 4), digit (a.toNat % 4 * 16 + b.toNat / 16), digit (b.toNat % 16 * 4)]
  | [a] => [digit (a.toNat / 4), digit (a.toNat % 4 * 16)]
  | [] => []

/-- What completes a group of four. -/
def padding (length : Nat) : Text := List.replicate ((4 - length % 4) % 4) '='

/-- `urlsafe_b64encode`. -/
def encode (bytes : List UInt8) : Text := digits bytes ++ padding (digits bytes).length

/-- `a2b_base64`, at a place of its group, with the bits left over and the padding
seen there. -/
def decodeFrom : Nat → Nat → Nat → Text → Option (List UInt8)
  | quad, _, _, [] => if quad = 0 then some [] else none
  | quad, left, pads, c :: t =>
    if c = '=' then
      if quad < 2 then decodeFrom quad left pads t
      else if quad + (pads + 1) ≥ 4 then some []
      else decodeFrom quad left (pads + 1) t
    else
      match value c with
      | none => decodeFrom quad left pads t
      | some v =>
        match quad with
        | 0 => decodeFrom 1 v 0 t
        | 1 => (decodeFrom 2 (v % 16) 0 t).map (UInt8.ofNat (left * 4 + v / 16) :: ·)
        | 2 => (decodeFrom 3 (v % 4) 0 t).map (UInt8.ofNat (left * 16 + v / 4) :: ·)
        | _ => (decodeFrom 0 0 0 t).map (UInt8.ofNat (left * 64 + v) :: ·)

/-- `urlsafe_b64decode`; an exception is `none`. -/
def decode (t : Text) : Option (List UInt8) :=
  if t.all (fun c => decide (c.toNat < 128)) then decodeFrom 0 0 0 t else none

/-! What is encoded is decoded. -/

theorem value_digit : ∀ n < 64, value (digit n) = some n := by decide

theorem digit_ascii : ∀ n < 64, (digit n).toNat < 128 := by decide

theorem digit_ne : ∀ n < 64, digit n ≠ '=' := by decide

section

variable {left pads n : Nat} (small : n < 64) (t : Text)

include small

theorem decodeFrom_zero : decodeFrom 0 left pads (digit n :: t) = decodeFrom 1 n 0 t := by
  rw [decodeFrom, if_neg (digit_ne n small), value_digit n small]
  rfl

theorem decodeFrom_one : decodeFrom 1 left pads (digit n :: t)
    = (decodeFrom 2 (n % 16) 0 t).map (UInt8.ofNat (left * 4 + n / 16) :: ·) := by
  rw [decodeFrom, if_neg (digit_ne n small), value_digit n small]
  rfl

theorem decodeFrom_two : decodeFrom 2 left pads (digit n :: t)
    = (decodeFrom 3 (n % 4) 0 t).map (UInt8.ofNat (left * 16 + n / 4) :: ·) := by
  rw [decodeFrom, if_neg (digit_ne n small), value_digit n small]
  rfl

theorem decodeFrom_three : decodeFrom 3 left pads (digit n :: t)
    = (decodeFrom 0 0 0 t).map (UInt8.ofNat (left * 64 + n) :: ·) := by
  rw [decodeFrom, if_neg (digit_ne n small), value_digit n small]
  rfl

end

theorem ofNat_toNat (a : UInt8) {n : Nat} (h : n = a.toNat) : UInt8.ofNat n = a := by
  rw [h]
  exact UInt8.ofNat_toNat

theorem decodeFrom_digits (bytes : List UInt8) :
    decodeFrom 0 0 0 (digits bytes ++ padding (digits bytes).length) = some bytes := by
  induction bytes using digits.induct with
  | case1 a b c rest ih =>
    have ha := a.toNat_lt
    have hb := b.toNat_lt
    have hc := c.toNat_lt
    have same : padding (digits (a :: b :: c :: rest)).length = padding (digits rest).length := by
      simp only [digits, List.length_cons, padding]
      congr 2
      omega
    rw [same]
    simp only [digits, List.cons_append]
    rw [decodeFrom_zero (by omega), decodeFrom_one (by omega), decodeFrom_two (by omega),
      decodeFrom_three (by omega), ih]
    simp only [Option.map_some]
    rw [ofNat_toNat a (by omega), ofNat_toNat b (by omega), ofNat_toNat c (by omega)]
  | case2 a b =>
    have ha := a.toNat_lt
    have hb := b.toNat_lt
    simp only [digits, List.cons_append, List.nil_append]
    rw [decodeFrom_zero (by omega), decodeFrom_one (by omega), decodeFrom_two (by omega)]
    have ends : decodeFrom 3 (b.toNat % 16 * 4 % 4) 0 (padding 3) = some [] := by
      simp [padding, decodeFrom]
    simp only [List.length_cons, List.length_nil, ends, Option.map_some]
    rw [ofNat_toNat a (by omega), ofNat_toNat b (by omega)]
  | case3 a =>
    have ha := a.toNat_lt
    simp only [digits, List.cons_append, List.nil_append]
    rw [decodeFrom_zero (by omega), decodeFrom_one (by omega)]
    have ends : decodeFrom 2 (a.toNat % 4 * 16 % 16) 0 (padding 2) = some [] := by
      simp [padding, decodeFrom, List.replicate]
    simp only [List.length_cons, List.length_nil, ends, Option.map_some]
    rw [ofNat_toNat a (by omega)]
  | case4 => rfl

theorem digits_of_mem {bytes : List UInt8} {c : Char} (h : c ∈ digits bytes) :
    ∃ n < 64, c = digit n := by
  induction bytes using digits.induct with
  | case1 x y z rest ih =>
    have hx := x.toNat_lt
    have hy := y.toNat_lt
    have hz := z.toNat_lt
    simp only [digits, List.mem_cons] at h
    rcases h with rfl | rfl | rfl | rfl | h
    · exact ⟨_, by omega, rfl⟩
    · exact ⟨_, by omega, rfl⟩
    · exact ⟨_, by omega, rfl⟩
    · exact ⟨_, by omega, rfl⟩
    · exact ih h
  | case2 x y =>
    have hx := x.toNat_lt
    have hy := y.toNat_lt
    simp only [digits, List.mem_cons, List.not_mem_nil, or_false] at h
    rcases h with rfl | rfl | rfl
    · exact ⟨_, by omega, rfl⟩
    · exact ⟨_, by omega, rfl⟩
    · exact ⟨_, by omega, rfl⟩
  | case3 x =>
    have hx := x.toNat_lt
    simp only [digits, List.mem_cons, List.not_mem_nil, or_false] at h
    rcases h with rfl | rfl
    · exact ⟨_, by omega, rfl⟩
    · exact ⟨_, by omega, rfl⟩
  | case4 => cases h

theorem decode_encode (bytes : List UInt8) : decode (encode bytes) = some bytes := by
  have ascii : (encode bytes).all (fun c => decide (c.toNat < 128)) = true := by
    rw [List.all_eq_true]
    intro c there
    rw [encode, List.mem_append] at there
    rcases there with inside | pad
    · obtain ⟨n, small, rfl⟩ := digits_of_mem inside
      simpa using digit_ascii n small
    · rw [List.eq_of_mem_replicate pad]
      decide
  unfold decode
  rw [if_pos ascii]
  exact decodeFrom_digits bytes

/-- The padding is all that is stripped. -/
theorem rstrip_encode (bytes : List UInt8) : Text.rstrip (· == '=') (encode bytes) = digits bytes := by
  have pads : ∀ c ∈ (padding (digits bytes).length).reverse, (c == '=') = true := by
    intro c there
    rw [List.mem_reverse] at there
    simpa using List.eq_of_mem_replicate there
  have last : ∀ c ∈ (digits bytes).reverse, ¬ (c == '=') = true := by
    intro c there
    obtain ⟨n, small, rfl⟩ := digits_of_mem (List.mem_reverse.mp there)
    simpa using digit_ne n small
  unfold Text.rstrip encode
  rw [List.reverse_append, List.dropWhile_append_of_pos pads]
  cases whole : (digits bytes).reverse with
  | nil => simpa using whole
  | cons c rest =>
    have other : ¬ (c == '=') = true := last c (whole ▸ List.mem_cons_self)
    rw [List.dropWhile_cons, if_neg other, ← whole, List.reverse_reverse]

end YTPipe.Base64
