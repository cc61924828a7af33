import YTPipe.JsonRoundTrip
import YTPipe.Strings

/-!
# Compact JSON

An object as `json.dumps(value, separators=(",", ":"))` writes it where its
members hold no others; and the characters of what is written.
-/

namespace YTPipe

namespace Json

section

variable (F : FloatText)

def compactMember (member : String × Json) : Text := quote member.1 ++ ':' :: dumps F member.2

def dumpsCompact (members : Dict) : Text :=
  '\x7b' :: Text.join [','] (members.map (compactMember F)) ++ ['\x7d']

end

variable {F : FloatText}

/-! What is written is read back. -/

theorem compactMember_length (member : String × Json) :
    3 ≤ (compactMember F member).length := by
  simp only [compactMember, quote, List.length_append, List.length_cons, List.length_nil]
  omega

theorem readMember_compact (member : String × Json) (kept : ∀ q ∈ floats member.2, F.Keeps q)
    (fuel : Nat) (enough : 3 * (compactMember F member).length ≤ fuel) (rest : Text)
    (ends : Ends rest) :
    readMember F fuel (compactMember F member ++ rest) = some (member, rest) := by
  obtain ⟨name, value⟩ := member
  have sized := compactMember_length (F := F) (name, value)
  simp only [compactMember, List.length_append, List.length_cons] at enough sized
  obtain ⟨fuel, rfl⟩ : ∃ n, fuel = n + 1 := ⟨fuel - 1, by omega⟩
  have opens := (dumps_opens kept).append rest
  have inner := readValue_dumps value kept fuel (by omega) rest ends
  simp only [compactMember, quote, List.cons_append, List.append_assoc, List.nil_append, readMember,
    readString_quoted, Option.bind_eq_bind, Option.bind_some,
    skipBlank_cons (show isBlank ':' = false from rfl), skipBlank_of_opens opens, inner,
    String.ofList_toList]
  rfl

theorem compactMember_head (member : String × Json) (rest : Text) :
    ∃ u, compactMember F member ++ rest = '"' :: u := by
  simp only [compactMember, quote, List.cons_append]
  exact ⟨_, rfl⟩

theorem readMembers_compact (members : Dict) (filled : members ≠ [])
    (kept : ∀ member ∈ members, ∀ q ∈ floats member.2, F.Keeps q) (fuel : Nat)
    (enough : 3 * (Text.join [','] (members.map (compactMember F))).length + 1 ≤ fuel)
    (rest : Text) :
    readMembers F fuel (Text.join [','] (members.map (compactMember F)) ++ '\x7d' :: rest)
      = some (members, rest) := by
  induction members generalizing fuel with
  | nil => exact absurd rfl filled
  | cons member members ih =>
    obtain ⟨fuel, rfl⟩ : ∃ n, fuel = n + 1 := ⟨fuel - 1, by omega⟩
    rw [List.forall_mem_cons] at kept
    cases members with
    | nil =>
      simp only [List.map_cons, List.map_nil, Text.join_singleton] at enough ⊢
      have first := readMember_compact member kept.1 fuel (by omega) ('\x7d' :: rest) (by simp [Ends])
      simp only [readMembers, first, Option.bind_eq_bind, Option.bind_some,
        skipBlank_cons (show isBlank '\x7d' = false from rfl)]
      rfl
    | cons next members =>
      have later := ih (List.cons_ne_nil _ _) kept.2
      simp only [List.map_cons, Text.join_cons_cons, List.length_append, List.length_cons,
        List.length_nil] at enough later ⊢
      have first := readMember_compact member kept.1 fuel (by omega)
        (',' :: (Text.join [','] (compactMember F next :: members.map (compactMember F))
          ++ '\x7d' :: rest)) (by simp [Ends])
      have others := later fuel (by omega)
      have opens : Opens (Text.join [','] (compactMember F next :: members.map (compactMember F))
          ++ '\x7d' :: rest) := by
        obtain ⟨u, head⟩ : ∃ u, Text.join [','] (compactMember F next :: members.map (compactMember F))
            ++ '\x7d' :: rest = '"' :: u := by
          cases members with
          | nil =>
            rw [List.map_nil, Text.join_singleton]
            exact compactMember_head next _
          | cons third members =>
            rw [List.map_cons, Text.join_cons_cons, List.append_assoc, List.append_assoc]
            exact compactMember_head next _
        rw [head]
        exact ⟨'"', _, rfl, rfl, by decide, by decide⟩
      simp only [List.append_assoc, List.cons_append, List.nil_append, readMembers, first,
        Option.bind_eq_bind, Option.bind_some, skipBlank_cons (show isBlank ',' = false from rfl),
        skipBlank_of_opens opens, others]
      rfl

theorem loads_compact {members : Dict} (filled : members ≠ [])
    (kept : ∀ member ∈ members, ∀ q ∈ floats member.2, F.Keeps q) :
    loads F (dumpsCompact F members) = some (.obj members) := by
  have read := readMembers_compact members filled kept
    (3 * (dumpsCompact F members).length)
    (by simp only [dumpsCompact, List.length_append, List.length_cons]; omega) []
  have head : ∃ u, Text.join [','] (members.map (compactMember F)) ++ ['\x7d'] = '"' :: u := by
    match members with
    | [] => exact absurd rfl filled
    | [member] => simpa using compactMember_head member _
    | member :: next :: members =>
      rw [List.map_cons, List.map_cons, Text.join_cons_cons, List.append_assoc, List.append_assoc]
      exact compactMember_head member _
  obtain ⟨u, head⟩ := head
  have opened : readValue F (3 * (dumpsCompact F members).length + 1) (dumpsCompact F members)
      = some (.obj members, []) := by
    generalize 3 * (dumpsCompact F members).length = fuel at read ⊢
    unfold dumpsCompact
    rw [List.cons_append, readValue]
    rw [head] at read ⊢
    rw [skipBlank_cons rfl]
    split
    · next heq => exact absurd (List.cons.inj heq).1 (by decide)
    · simp only [read, Option.bind_eq_bind, Option.bind_some]
      rfl
  have start : skipBlank (dumpsCompact F members) = dumpsCompact F members := skipBlank_cons rfl _
  simp only [loads, start, opened, Option.bind_eq_bind, Option.bind_some]
  rfl

/-! What is written is ASCII. -/

def Ascii (t : Text) : Prop := ∀ c ∈ t, c.toNat < 128

theorem Ascii.append {s t : Text} (h : Ascii s) (h' : Ascii t) : Ascii (s ++ t) := by
  intro c there
  exact (List.mem_append.mp there).elim (h c) (h' c)

theorem Ascii.cons {c : Char} {t : Text} (low : c.toNat < 128) (h : Ascii t) : Ascii (c :: t) := by
  intro d there
  rcases List.mem_cons.mp there with rfl | there
  · exact low
  · exact h d there

theorem Ascii.nil : Ascii [] := fun _ there => absurd there List.not_mem_nil

theorem digitChar_ascii (n : Nat) : (Nat.digitChar n).toNat < 128 := by
  by_cases small : n < 16
  · have table : ∀ n < 16, (Nat.digitChar n).toNat < 128 := by decide
    exact table n small
  · have other : Nat.digitChar n = '*' := by
      unfold Nat.digitChar
      repeat rw [if_neg (by omega)]
    rw [other]
    decide

theorem unicodeEscape_ascii (n : Nat) : Ascii (unicodeEscape n) := by
  have low := digitChar_ascii
  exact .cons (by decide) (.cons (by decide) (.cons (low _) (.cons (low _) (.cons (low _)
    (.cons (low _) .nil)))))

theorem escapeChar_ascii (c : Char) : Ascii (escapeChar c) := by
  have pair (d : Char) (low : d.toNat < 128) : Ascii ['\\', d] :=
    .cons (by decide) (.cons low .nil)
  unfold escapeChar
  repeat' split
  · exact pair _ (by decide)
  · exact pair _ (by decide)
  · exact pair _ (by decide)
  · exact pair _ (by decide)
  · exact pair _ (by decide)
  · exact pair _ (by decide)
  · exact pair _ (by decide)
  · next printable => exact .cons (by omega) .nil
  · exact unicodeEscape_ascii _
  · exact (unicodeEscape_ascii _).append (unicodeEscape_ascii _)

theorem quote_ascii (s : String) : Ascii (quote s) := by
  apply Ascii.cons (by decide)
  apply Ascii.append _ (.cons (by decide) .nil)
  intro c there
  obtain ⟨d, _, inside⟩ := List.mem_flatMap.mp there
  exact escapeChar_ascii d c inside

theorem digits_ascii {t : Text} (h : IsDigits t) : Ascii t := by
  intro c there
  have digit := h c there
  simp only [Char.isDigit, Bool.and_eq_true, decide_eq_true_eq] at digit
  have : c.toNat ≤ 57 := digit.2
  omega

theorem whole_ascii {t : Text} (h : IsWhole t) : Ascii t := by
  rcases h with rfl | ⟨c, digits, rfl, _, digit, rest⟩
  · exact .cons (by decide) .nil
  · apply digits_ascii
    intro d there
    rcases List.mem_cons.mp there with rfl | there
    · exact digit
    · exact rest d there

theorem int_ascii (n : Int) : Ascii (toString n).toList := by
  rcases int_integer n with whole | ⟨digits, text, whole⟩
  · exact whole_ascii whole
  · rw [text]
    exact .cons (by decide) (whole_ascii whole)

end Json

end YTPipe
