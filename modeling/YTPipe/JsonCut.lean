import YTPipe.JsonRoundTrip

/-!
# Cutting a text short

A dictionary of texts and whole numbers that is written as text and cut before
its end is not read.
-/

namespace YTPipe

namespace Json

section strings

variable {p r : Text}

/-- A list that two others make up is cut in the first of them or after it. -/
theorem cut_append {α : Type} {p r s t : List α} (whole : s ++ t = p ++ r) :
    (∃ q, s = p ++ q ∧ q ≠ []) ∨ ∃ q, p = s ++ q ∧ t = q ++ r := by
  rcases List.append_eq_append_iff.mp whole with ⟨q, front, back⟩ | ⟨q, front, back⟩
  · exact .inr ⟨q, front, back⟩
  · cases q with
    | nil =>
      rw [List.append_nil] at front
      exact .inr ⟨[], by rw [front, List.append_nil], back.symm⟩
    | cons c q => exact .inl ⟨c :: q, front, List.cons_ne_nil _ _⟩

theorem readHex4_short {t : Text} (short : t.length < 4) : readHex4 t = none := by
  match t with
  | [] | [_] | [_, _] | [_, _, _] => rfl
  | _ :: _ :: _ :: _ :: _ =>
    simp only [List.length_cons] at short
    omega

theorem readUnicode_short {t : Text} (short : t.length < 4) : readUnicode t = none := by
  simp only [readUnicode, readHex4_short short, Option.bind_eq_bind, Option.bind_none]

/-- An escape that is cut short. -/
theorem readChar_unicode_cut {n : Nat} (whole : unicodeEscape n = p ++ r) (some : r ≠ []) :
    readChar p = none := by
  match p with
  | [] => rfl
  | [c] =>
    obtain ⟨rfl, _⟩ := List.cons.inj whole
    rfl
  | c :: d :: t =>
    obtain ⟨rfl, mark⟩ := List.cons.inj whole
    obtain ⟨rfl, back⟩ := List.cons.inj mark
    apply readUnicode_short
    have long : (hex4 n).length = (t ++ r).length := congrArg List.length back
    have left := List.length_pos_iff.mpr some
    simp only [hex4, List.length_cons, List.length_nil, List.length_append] at long
    omega

/-- The first half of a pair does not stand alone. -/
theorem readChar_half {n : Nat} (high : 0xd800 ≤ n ∧ n ≤ 0xdbff) {t : Text}
    (unpaired : ∀ u, t = '\\' :: 'u' :: u → u.length < 4) :
    readChar (unicodeEscape n ++ t) = none := by
  have front : readChar (unicodeEscape n ++ t) = readUnicode (hex4 n ++ t) := rfl
  rw [front]
  simp only [readUnicode, readHex4_hex4 (show n < 65536 by omega), Option.bind_eq_bind,
    Option.bind_some, high, and_self, if_true]
  split
  · next u => rw [readHex4_short (unpaired u rfl), Option.bind_none]
  · rfl

theorem readChar_cut {c : Char} (whole : escapeChar c = p ++ r) (some : r ≠ []) :
    readChar p = none := by
  have valid := char_toNat_cases c
  have single {d : Char} (h : [d] = p ++ r) : readChar p = none := by
    cases p with
    | nil => rfl
    | cons e p => exact absurd (List.append_eq_nil_iff.mp (List.cons.inj h).2.symm).2 some
  have pair {d : Char} (h : ['\\', d] = p ++ r) : readChar p = none := by
    match p with
    | [] => rfl
    | [e] =>
      obtain ⟨rfl, _⟩ := List.cons.inj h
      rfl
    | e :: f :: p =>
      exact absurd (List.append_eq_nil_iff.mp
        (List.cons.inj (List.cons.inj h).2).2.symm).2 some
  unfold escapeChar at whole
  iterate 7
    split at whole
    · exact pair whole
  split at whole
  · exact single whole
  split at whole
  · exact readChar_unicode_cut whole some
  · rcases cut_append whole with ⟨q, first, left⟩ | ⟨q, rfl, second⟩
    · exact readChar_unicode_cut first left
    · apply readChar_half (by omega)
      rintro u rfl
      have long := congrArg List.length second
      have left := List.length_pos_iff.mpr some
      simp only [unicodeEscape, hex4, List.length_cons, List.length_nil, List.length_append] at long
      omega

/-- A string that is cut before its closing quote. -/
theorem readString_cut (s : Text) (fuel : Nat) (whole : s.flatMap escapeChar = p ++ r) :
    readString fuel p = none := by
  cases fuel with
  | zero => rfl
  | succ fuel =>
    induction s generalizing p r fuel with
    | nil =>
      obtain ⟨rfl, _⟩ := List.append_eq_nil_iff.mp whole.symm
      rfl
    | cons c s ih =>
      rw [List.flatMap_cons] at whole
      obtain ⟨d, u, head, apart⟩ := escapeChar_head c
      have first : ∀ t, p ≠ '"' :: t := by
        rintro t rfl
        rw [head] at whole
        exact apart (List.cons.inj whole).1
      unfold readString
      split
      · next t => exact absurd rfl (first t)
      rcases cut_append whole with ⟨q, early, left⟩ | ⟨q, rfl, late⟩
      · rw [readChar_cut early left]
        rfl
      · simp only [readChar_escapeChar, Option.bind_eq_bind, Option.bind_some]
        cases fuel with
        | zero => rfl
        | succ fuel =>
          rw [ih late fuel]
          rfl

end strings

section numbers

variable {p r : Text}

theorem IsWhole.cut (h : IsWhole (p ++ r)) (some : p ≠ []) : IsWhole p := by
  rcases h with zero | ⟨c, digits, whole, nonzero, digit, all⟩
  · cases p with
    | nil => exact absurd rfl some
    | cons d p =>
      obtain ⟨rfl, back⟩ := List.cons.inj zero
      rw [(List.append_eq_nil_iff.mp back).1]
      exact .inl rfl
  · cases p with
    | nil => exact absurd rfl some
    | cons d p =>
      obtain ⟨rfl, rfl⟩ := List.cons.inj whole
      exact .inr ⟨d, p, rfl, nonzero, digit, fun e he => all e (List.mem_append_left _ he)⟩

/-- What is left of an integer is no number, or one up to its end. -/
theorem readNumber_cut (F : FloatText) (n : Int) (whole : (toString n).toList = p ++ r) :
    readNumber F p = none ∨ ∃ v, readNumber F p = some (v, []) := by
  have read (h : IsInteger p) : ∃ v, readNumber F p = some (v, []) := by
    have value := readNumber_append F h (.inl rfl) (.inl rfl) (show Ends [] from trivial)
    rw [if_pos ⟨rfl, rfl⟩] at value
    simp only [List.append_nil] at value
    exact ⟨_, value⟩
  have integer := int_integer n
  rw [whole] at integer
  cases p with
  | nil => exact .inl rfl
  | cons c p =>
    rcases integer with digits | ⟨digits, back, positive⟩
    · exact .inr (read (.inl (digits.cut (List.cons_ne_nil _ _))))
    · obtain ⟨rfl, rfl⟩ := List.cons.inj back
      cases p with
      | nil => exact .inl rfl
      | cons d p =>
        exact .inr (read (.inr ⟨_, rfl, positive.cut (List.cons_ne_nil _ _)⟩))

end numbers

section values

variable {F : FloatText} {p r : Text}

/-- A text or a whole number. -/
def Plain : Json → Prop
  | str _ => True
  | int _ => True
  | _ => False

theorem Plain.floats {v : Json} (h : Plain v) : floats v = [] := by
  cases v <;> first | rfl | cases h

theorem floatsMembers_plain {members : Dict} (plain : ∀ member ∈ members, Plain member.2) :
    floatsMembers members = [] := by
  induction members with
  | nil => rfl
  | cons member members ih =>
    obtain ⟨own, others⟩ := List.forall_mem_cons.mp plain
    obtain ⟨name, value⟩ := member
    rw [floatsMembers, floatsMember, own.floats, ih others]
    rfl

/-- Nothing is read, or all of it. -/
def Spent {α : Type} (read : Option (α × Text)) : Prop :=
  read = none ∨ ∃ a, read = some (a, [])

theorem readValue_nil (fuel : Nat) : readValue F fuel [] = none := by
  cases fuel <;> rfl

theorem readValue_cut {v : Json} (plain : Plain v) (whole : dumps F v = p ++ r) (fuel : Nat) :
    Spent (readValue F fuel p) := by
  cases fuel with
  | zero => exact .inl rfl
  | succ fuel =>
    cases v with
    | str s =>
      cases p with
      | nil => exact .inl rfl
      | cons c p =>
        obtain ⟨rfl, body⟩ := List.cons.inj whole
        rcases cut_append body with ⟨q, early, _⟩ | ⟨q, rfl, late⟩
        · refine .inl ?_
          simp only [readValue, readString_cut _ _ early, Option.bind_eq_bind, Option.bind_none]
        · cases q with
          | nil =>
            refine .inl ?_
            rw [List.append_nil]
            simp only [readValue, readString_cut _ _ (List.append_nil _).symm,
              Option.bind_eq_bind, Option.bind_none]
          | cons d q =>
            obtain ⟨rfl, back⟩ := List.cons.inj late
            obtain ⟨rfl, _⟩ := List.append_eq_nil_iff.mp back.symm
            refine .inr ⟨str s, ?_⟩
            simp only [readValue, readString_quoted, Option.bind_eq_bind, Option.bind_some,
              String.ofList_toList]
            rfl
    | int n =>
      cases p with
      | nil => exact .inl rfl
      | cons c p =>
        have head : NumberHead (c :: p) := by
          obtain ⟨d, u, front, number⟩ := (int_integer n).head []
          rw [List.append_nil, show (toString n).toList = c :: p ++ r from whole] at front
          obtain ⟨rfl, _⟩ := List.cons.inj front
          exact ⟨c, p, rfl, number⟩
        rw [readValue_number head]
        exact readNumber_cut F n whole
    | null | bool | float | arr | obj => cases plain

theorem readMember_cut {member : String × Json} (plain : Plain member.2)
    (whole : dumpsMember F member = p ++ r) (fuel : Nat) : Spent (readMember F fuel p) := by
  obtain ⟨name, value⟩ := member
  cases fuel with
  | zero => exact .inl rfl
  | succ fuel =>
    cases p with
    | nil => exact .inl rfl
    | cons c p =>
      simp only [dumpsMember, quote, List.cons_append, List.append_assoc, List.nil_append] at whole
      obtain ⟨rfl, body⟩ := List.cons.inj whole
      rcases cut_append body with ⟨q, early, _⟩ | ⟨q, rfl, late⟩
      · refine .inl ?_
        simp only [readMember, readString_cut _ _ early, Option.bind_eq_bind, Option.bind_none]
      cases q with
      | nil =>
        refine .inl ?_
        rw [List.append_nil]
        simp only [readMember, readString_cut _ _ (List.append_nil _).symm, Option.bind_eq_bind,
          Option.bind_none]
      | cons d q =>
        obtain ⟨rfl, colon⟩ := List.cons.inj late
        cases q with
        | nil =>
          refine .inl ?_
          simp only [readMember, readString_quoted, Option.bind_eq_bind, Option.bind_some]
          rfl
        | cons e q =>
          obtain ⟨rfl, space⟩ := List.cons.inj colon
          have after : skipBlank (':' :: q) = ':' :: q := rfl
          simp only [readMember, readString_quoted, Option.bind_eq_bind, Option.bind_some, after]
          have inner : Spent (readValue F fuel (skipBlank q)) := by
            cases q with
            | nil => exact .inl (readValue_nil fuel)
            | cons b q =>
              obtain ⟨rfl, own⟩ := List.cons.inj space
              cases q with
              | nil => exact .inl (readValue_nil fuel)
              | cons b q =>
                obtain ⟨c, u, front, opens⟩ := @dumps_opens F value (by simp [plain.floats])
                rw [own] at front
                obtain ⟨rfl, _⟩ := List.cons.inj front
                rw [skipBlank_space ⟨b, q, rfl, opens⟩]
                exact readValue_cut plain own fuel
          rcases inner with none | ⟨v, read⟩
          · exact .inl (by rw [none]; rfl)
          · exact .inr ⟨_, by rw [read]; rfl⟩

/-- Members that no brace closes. -/
theorem readMembers_cut (members : Dict) (plain : ∀ member ∈ members, Plain member.2)
    (whole : dumpsMembers F members = p ++ r) (fuel : Nat) (enough : 3 * p.length ≤ fuel) :
    readMembers F fuel p = none := by
  induction members generalizing p r fuel with
  | nil =>
    obtain ⟨rfl, _⟩ := List.append_eq_nil_iff.mp whole.symm
    cases fuel with
    | zero => rfl
    | succ fuel => cases fuel <;> rfl
  | cons member members ih =>
    have open_ {q : Text} (fuel : Nat) (h : Spent (readMember F fuel q)) :
        readMembers F (fuel + 1) q = none := by
      rcases h with none | ⟨m, read⟩
      · simp only [readMembers, none, Option.bind_eq_bind, Option.bind_none]
      · simp only [readMembers, read, Option.bind_eq_bind, Option.bind_some]
        rfl
    have own := plain member (List.mem_cons_self ..)
    cases fuel with
    | zero => rfl
    | succ fuel =>
      cases members with
      | nil => exact open_ fuel (readMember_cut own whole fuel)
      | cons next members =>
        simp only [dumpsMembers] at whole
        rcases cut_append whole with ⟨q, early, _⟩ | ⟨q, rfl, late⟩
        · exact open_ fuel (readMember_cut own early fuel)
        · cases q with
          | nil =>
            rw [List.append_nil]
            exact open_ fuel (readMember_cut own (List.append_nil _).symm fuel)
          | cons c q =>
            obtain ⟨rfl, comma⟩ := List.cons.inj late
            rw [List.length_append, List.length_cons] at enough
            have first := readMember_dumps member
              (show ∀ x ∈ floatsMember member, F.Keeps x by
                obtain ⟨name, value⟩ := member
                simp only [floatsMember, own.floats, List.not_mem_nil, false_imp_iff, implies_true])
              fuel (by omega) (',' :: q) (by simp [Ends])
            have rest : readMembers F fuel (skipBlank q) = none := by
              cases q with
              | nil =>
                exact ih (fun m hm => plain m (List.mem_cons_of_mem _ hm)) (List.nil_append _).symm
                  fuel (Nat.zero_le _)
              | cons b q =>
                obtain ⟨rfl, others⟩ := List.cons.inj comma
                rw [List.length_cons] at enough
                have skip : skipBlank (' ' :: q) = q := by
                  cases q with
                  | nil => rfl
                  | cons b q =>
                    obtain ⟨u, head⟩ := @dumpsMembers_head F _ (List.cons_ne_nil next members)
                    rw [others] at head
                    obtain ⟨rfl, _⟩ := List.cons.inj head
                    exact skipBlank_space ⟨_, _, rfl, rfl, by decide, by decide⟩
                rw [skip]
                exact ih (fun m hm => plain m (List.mem_cons_of_mem _ hm)) others fuel (by omega)
            simp only [readMembers, first, Option.bind_eq_bind, Option.bind_some,
              skipBlank_cons (show isBlank ',' = false from rfl), rest, Option.bind_none]

/-- A plain dictionary that is cut before its end is not read. -/
theorem loads_cut {members : Dict} (filled : members ≠ [])
    (plain : ∀ member ∈ members, Plain member.2) (whole : dumps F (obj members) = p ++ r)
    (some : r ≠ []) : loads F p = none := by
  cases p with
  | nil => rfl
  | cons c p =>
    obtain ⟨rfl, body⟩ := List.cons.inj whole
    obtain ⟨q, inside⟩ : ∃ q, dumpsMembers F members = p ++ q := by
      rcases cut_append body with ⟨q, early, _⟩ | ⟨q, rfl, late⟩
      · exact ⟨q, early⟩
      · cases q with
        | nil => exact ⟨[], by simp⟩
        | cons c q =>
          obtain ⟨_, back⟩ := List.cons.inj late
          exact absurd (List.append_eq_nil_iff.mp back.symm).2 some
    have skip : skipBlank p = p ∧ ∀ t, p ≠ '\x7d' :: t := by
      cases p with
      | nil => exact ⟨rfl, nofun⟩
      | cons c p =>
        obtain ⟨u, head⟩ := @dumpsMembers_head F _ filled
        rw [inside] at head
        obtain ⟨rfl, _⟩ := List.cons.inj head
        exact ⟨rfl, nofun⟩
    have unread := readMembers_cut members plain inside (3 * (p.length + 1)) (by omega)
    have value : readValue F (3 * (p.length + 1) + 1) ('\x7b' :: p) = none := by
      unfold readValue
      simp only [skip.1]
      split
      · next t _ => exact absurd rfl (skip.2 _)
      · rw [unread]
        rfl
    have front : skipBlank ('\x7b' :: p) = '\x7b' :: p := rfl
    simp only [loads, front, List.length_cons, value, Option.bind_eq_bind, Option.bind_none]

end values

end Json

end YTPipe
