import Mathlib.Data.List.DropRight
import YTPipe.Text

/-!
# Laws of the string operations

Splitting and joining, stripping, newlines and searches.
-/

namespace YTPipe.Text

variable {sep : Char} {s t u : Text} {lines : List Text}

/-! Lines. -/

theorem splitOn_eq (sep : Char) (t : Text) : splitOn sep t = List.splitOn sep t := by
  induction t with
  | nil => rfl
  | cons c t ih =>
    rw [List.splitOn_cons_eq_if_modifyHead]
    unfold splitOn
    rw [ih]
    by_cases same : c = sep
    · rw [if_pos same, if_pos (beq_iff_eq.mpr same)]
    · rw [if_neg same, if_neg (by simpa using same)]
      cases parts : List.splitOn sep t with
      | nil => exact absurd parts (List.splitOn_ne_nil sep t)
      | cons first rest => rfl

theorem splitOn_ne_nil : splitOn sep t ≠ [] := by
  rw [splitOn_eq]
  exact List.splitOn_ne_nil sep t

@[simp] theorem join_splitOn (sep : Char) (t : Text) : join [sep] (splitOn sep t) = t := by
  rw [splitOn_eq]
  exact List.intercalate_splitOn sep

theorem splitOn_join (some_ : lines ≠ []) (free : ∀ line ∈ lines, sep ∉ line) :
    splitOn sep (join [sep] lines) = lines := by
  rw [splitOn_eq]
  exact List.splitOn_intercalate sep free some_

theorem join_cons_cons (sep : Text) (s t : Text) (lines : List Text) :
    join sep (s :: t :: lines) = s ++ sep ++ join sep (t :: lines) := by
  simp [join, List.intercalate_cons_cons]

@[simp] theorem join_singleton (sep t : Text) : join sep [t] = t := by
  simp [join, List.intercalate]

theorem join_append (sep : Text) (front back : List Text) (some_ : front ≠ []) (some' : back ≠ []) :
    join sep (front ++ back) = join sep front ++ sep ++ join sep back := by
  induction front with
  | nil => exact absurd rfl some_
  | cons first rest ih =>
    obtain ⟨b, back, rfl⟩ := List.exists_cons_of_ne_nil some'
    cases rest with
    | nil => simp [join_cons_cons]
    | cons second rest =>
      have later := ih (by simp)
      rw [List.cons_append, List.cons_append, join_cons_cons, ← List.cons_append, later,
        join_cons_cons]
      simp

/-- A part of a text that is split is without the separator. -/
theorem not_mem_of_mem_splitOn (h : u ∈ splitOn sep t) : sep ∉ u := by
  induction t generalizing u with
  | nil =>
    rw [splitOn, List.mem_singleton] at h
    simp [h]
  | cons c t ih =>
    unfold splitOn at h
    by_cases same : c = sep
    · rw [if_pos same] at h
      rcases List.mem_cons.mp h with rfl | h
      · exact List.not_mem_nil
      · exact ih h
    · rw [if_neg same] at h
      cases parts : splitOn sep t with
      | nil => exact absurd parts splitOn_ne_nil
      | cons first rest =>
        rw [parts] at h ih
        rcases List.mem_cons.mp h with rfl | h
        · have apart := ih List.mem_cons_self
          simp [apart, Ne.symm same]
        · exact ih (List.mem_cons_of_mem _ h)

theorem mem_join {c : Char} (h : c ∈ join [sep] lines) : c = sep ∨ ∃ line ∈ lines, c ∈ line := by
  induction lines with
  | nil => cases h
  | cons first rest ih =>
    cases rest with
    | nil => exact .inr ⟨first, List.mem_cons_self, by simpa using h⟩
    | cons second rest =>
      rw [join_cons_cons] at h
      simp only [List.mem_append, List.mem_singleton] at h
      rcases h with (here | rfl) | later
      · exact .inr ⟨first, List.mem_cons_self, here⟩
      · exact .inl rfl
      · rcases ih later with same | ⟨line, mem, here⟩
        · exact .inl same
        · exact .inr ⟨line, List.mem_cons_of_mem _ mem, here⟩

/-- A line is part of the text. -/
theorem infix_join {line : Text} (h : line ∈ lines) : line <:+: join [sep] lines := by
  induction lines with
  | nil => cases h
  | cons first rest ih =>
    cases rest with
    | nil =>
      cases List.mem_singleton.mp h
      exact ⟨[], [], by rw [List.nil_append, List.append_nil, join_singleton]⟩
    | cons second rest =>
      rw [join_cons_cons]
      rcases List.mem_cons.mp h with rfl | h
      · exact ⟨[], [sep] ++ join [sep] (second :: rest), by simp⟩
      · exact (ih h).trans (List.suffix_append _ _).isInfix

/-! Stripping. -/

theorem rstrip_eq (blank : Char → Bool) (t : Text) : rstrip blank t = t.rdropWhile blank := rfl

theorem rstrip_isPrefix (blank : Char → Bool) (t : Text) : rstrip blank t <+: t :=
  List.rdropWhile_prefix blank t

theorem rstrip_rstrip (blank : Char → Bool) (t : Text) :
    rstrip blank (rstrip blank t) = rstrip blank t := List.rdropWhile_idempotent blank t

/-- What is cut from the end. -/
theorem rstrip_append (blank : Char → Bool) (t : Text) :
    ∃ cut, t = rstrip blank t ++ cut ∧ ∀ c ∈ cut, blank c = true := by
  refine ⟨t.rtakeWhile blank, (List.rdropWhile_append_rtakeWhile ..).symm, ?_⟩
  intro c hc
  exact List.mem_rtakeWhile_imp hc

theorem lstrip_append (blank : Char → Bool) (t : Text) :
    ∃ cut, t = cut ++ lstrip blank t ∧ ∀ c ∈ cut, blank c = true := by
  refine ⟨t.takeWhile blank, List.takeWhile_append_dropWhile.symm, ?_⟩
  intro c hc
  exact List.mem_takeWhile_imp hc

/-- The text without the white space around it. -/
theorem strip_between (t : Text) : ∃ before after, t = before ++ strip t ++ after
    ∧ (∀ c ∈ before, isSpace c = true) ∧ ∀ c ∈ after, isSpace c = true := by
  obtain ⟨before, front, left⟩ := lstrip_append isSpace t
  obtain ⟨after, back, right⟩ := rstrip_append isSpace (lstrip isSpace t)
  refine ⟨before, after, ?_, left, right⟩
  unfold strip
  rw [List.append_assoc, ← back]
  exact front

/-- A text that begins and ends in something visible. -/
def Trim (t : Text) : Prop := ∀ c, t.head? = some c ∨ t.getLast? = some c → isSpace c = false

theorem strip_of_trim (h : Trim t) : strip t = t := by
  have left : lstrip isSpace t = t := by
    unfold lstrip
    cases t with
    | nil => rfl
    | cons c t => rw [List.dropWhile_cons_of_neg (by simp [h c (.inl rfl)])]
  unfold strip
  rw [left, rstrip_eq, List.rdropWhile_eq_self_iff]
  intro some_
  simp [h _ (.inr (List.getLast?_eq_some_getLast some_))]

theorem trim_strip (t : Text) : Trim (strip t) := by
  intro c ends
  rcases ends with first | last
  · have kept := rstrip_isPrefix isSpace (lstrip isSpace t)
    obtain ⟨rest, split⟩ := kept
    unfold strip at first
    cases stripped : rstrip isSpace (lstrip isSpace t) with
    | nil =>
      rw [stripped] at first
      cases first
    | cons d t' =>
      rw [stripped] at first split
      cases first
      have head : (lstrip isSpace t).head? = some c := by rw [← split]; rfl
      unfold lstrip at head
      have := List.head?_dropWhile_not isSpace t
      rw [head] at this
      simpa using this
  · have some_ : strip t ≠ [] := by
      intro none_
      rw [none_] at last
      cases last
    have visible := List.rdropWhile_last_not isSpace (lstrip isSpace t) some_
    have same : c = (strip t).getLast some_ := by
      rw [List.getLast?_eq_some_getLast some_] at last
      exact (Option.some.inj last).symm
    rw [same]
    exact Bool.eq_false_iff.mpr visible

theorem strip_eq_nil : strip t = [] ↔ ∀ c ∈ t, isSpace c = true := by
  constructor
  · intro none_
    obtain ⟨before, after, split, left, right⟩ := strip_between t
    rw [none_, List.append_nil] at split
    intro c hc
    rw [split, List.mem_append] at hc
    exact hc.elim (left c) (right c)
  · intro all
    have left : lstrip isSpace t = [] := List.dropWhile_eq_nil_iff.mpr all
    unfold strip
    rw [left]
    rfl

/-! Words. -/

theorem splitSpace_ne_nil : splitSpace t ≠ [] := by
  induction t with
  | nil => simp [splitSpace]
  | cons c t ih =>
    unfold splitSpace
    split
    · simp
    · split <;> simp

theorem splitSpace_append {c : Char} (blank : isSpace c = true) (s u : Text) :
    splitSpace (s ++ c :: u) = splitSpace s ++ splitSpace u := by
  induction s with
  | nil => simp [splitSpace, blank]
  | cons d s ih =>
    rw [List.cons_append, splitSpace, splitSpace, ih]
    split
    · rfl
    · cases pieces : splitSpace s with
      | nil => exact absurd pieces splitSpace_ne_nil
      | cons first rest => rfl

theorem words_append {c : Char} (blank : isSpace c = true) (s u : Text) :
    words (s ++ c :: u) = words s ++ words u := by
  unfold words
  rw [splitSpace_append blank, List.filter_append]

theorem words_blank_append (blank : ∀ c ∈ s, isSpace c = true) : words (s ++ t) = words t := by
  induction s with
  | nil => rfl
  | cons c s ih =>
    rw [List.forall_mem_cons] at blank
    rw [List.cons_append, ← ih blank.2]
    exact words_append blank.1 [] (s ++ t)

theorem words_append_blank (blank : ∀ c ∈ s, isSpace c = true) : words (t ++ s) = words t := by
  cases s with
  | nil => rw [List.append_nil]
  | cons c s =>
    rw [List.forall_mem_cons] at blank
    have rest : words s = [] := by
      have none_ := words_blank_append (t := []) blank.2
      rwa [List.append_nil] at none_
    rw [words_append blank.1, rest, List.append_nil]

@[simp] theorem words_strip (t : Text) : words (strip t) = words t := by
  obtain ⟨before, after, split, left, right⟩ := strip_between t
  calc words (strip t) = words (before ++ strip t) := (words_blank_append left).symm
    _ = words (before ++ strip t ++ after) := (words_append_blank right).symm
    _ = words t := by rw [← split]

/-- A word has characters, and none of them is white space. -/
theorem visible_of_mem_words (h : u ∈ words t) : u ≠ [] ∧ ∀ c ∈ u, isSpace c = false := by
  obtain ⟨piece, some_⟩ := List.mem_filter.mp h
  refine ⟨by simpa using some_, ?_⟩
  clear some_ h
  induction t generalizing u with
  | nil => simp_all [splitSpace]
  | cons c t ih =>
    unfold splitSpace at piece
    split at piece
    · rcases List.mem_cons.mp piece with rfl | later
      · simp
      · exact ih later
    · next visible =>
      cases pieces : splitSpace t with
      | nil => exact absurd pieces splitSpace_ne_nil
      | cons first rest =>
        rw [pieces] at piece ih
        rcases List.mem_cons.mp piece with rfl | later
        · rw [List.forall_mem_cons]
          exact ⟨by simpa using visible, ih List.mem_cons_self⟩
        · exact ih (List.mem_cons_of_mem _ later)

theorem trim_of_visible (h : ∀ c ∈ t, isSpace c = false) : Trim t := by
  intro c ends
  exact h c (ends.elim List.mem_of_head? List.mem_of_getLast?)

/-! Newlines. -/

theorem crlfToLf_eq (h : '\r' ∉ t) : crlfToLf t = t := by
  induction t with
  | nil => rfl
  | cons c t ih =>
    rw [List.mem_cons, not_or] at h
    cases t with
    | nil => rfl
    | cons d t =>
      rw [crlfToLf, if_neg (by simp [Ne.symm h.1]), ih h.2]

theorem normalizeNewlines_eq (h : '\r' ∉ t) : normalizeNewlines t = t := by
  unfold normalizeNewlines
  rw [crlfToLf_eq h]
  calc t.map (fun c => if c = '\r' then '\n' else c) = t.map id := by
        apply List.map_congr_left
        intro c hc
        rw [if_neg (by rintro rfl; exact h hc)]
        rfl
    _ = t := List.map_id t

theorem normalizeNewlines_free (t : Text) : '\r' ∉ normalizeNewlines t := by
  intro there
  obtain ⟨c, _, same⟩ := List.mem_map.mp there
  split at same
  · cases same
  · next other => exact other same

/-! Searches. -/

theorem contains_iff (sub t : Text) : contains sub t = true ↔ sub <:+: t := by
  induction t with
  | nil => simp [contains]
  | cons c t ih =>
    rw [contains, Bool.or_eq_true, ih, List.infix_cons_iff]
    unfold startsWith
    rw [List.isPrefixOf_iff_prefix]

/-- A text without the separator stands on one side of it. -/
theorem infix_of_infix_append (free : sep ∉ s) (h : s <:+: t ++ sep :: u) : s <:+: t ∨ s <:+: u := by
  obtain ⟨before, after, whole⟩ := h
  rcases List.append_eq_append_iff.mp whole with ⟨x, left, _⟩ | ⟨x, left, right⟩
  · exact .inl ⟨before, x, left.symm⟩
  · cases x with
    | nil =>
      rw [List.append_nil] at left
      exact .inl ⟨before, [], by rw [List.append_nil, left]⟩
    | cons c x =>
      rw [List.cons_append, List.cons.injEq] at right
      obtain ⟨rfl, rfl⟩ := right
      rcases List.append_eq_append_iff.mp left with ⟨y, _, inside⟩ | ⟨y, _, inside⟩
      · exact absurd (by rw [inside]; simp) free
      · cases y with
        | nil => exact absurd (by rw [List.nil_append] at inside; rw [← inside]; simp) free
        | cons d y =>
          rw [List.cons_append, List.cons.injEq] at inside
          exact .inr ⟨y, after, by rw [inside.2]⟩

/-- A text without the separator is found in the lines or nowhere. -/
theorem infix_of_infix_join (free : sep ∉ s) (some_ : s ≠ []) (h : s <:+: join [sep] lines) :
    ∃ line ∈ lines, s <:+: line := by
  induction lines with
  | nil => exact absurd (List.infix_nil.mp h) some_
  | cons first rest ih =>
    cases rest with
    | nil =>
      rw [join_singleton] at h
      exact ⟨first, List.mem_cons_self, h⟩
    | cons second rest =>
      rw [join_cons_cons, List.append_assoc, List.singleton_append] at h
      rcases infix_of_infix_append free h with here | later
      · exact ⟨first, List.mem_cons_self, here⟩
      · obtain ⟨line, mem, here⟩ := ih later
        exact ⟨line, List.mem_cons_of_mem _ mem, here⟩

/-- Lower case, as far as a search for an ASCII word can tell: a character whose
lower case holds no ASCII letter stands for itself. -/
def lowerChar (c : Char) : Text :=
  if 'A' ≤ c ∧ c ≤ 'Z' then [Char.ofNat (c.toNat + 32)]
  else match c.toNat with
    | 0x130 => ['i', Char.ofNat 0x307]
    | 0x212a => ['k']
    | _ => [c]

def lower (t : Text) : Text := t.flatMap lowerChar

/-- `split(sep, 1)` of a text that has the separator. -/
def splitOnce (sep : Text) : Text → Option (Text × Text)
  | [] => if sep.isEmpty then some ([], []) else none
  | c :: t =>
    if startsWith sep (c :: t) then some ([], (c :: t).drop sep.length)
    else (splitOnce sep t).map fun (front, back) => (c :: front, back)

/-- No end of the text has the separator for its beginning or could be the
beginning of it. -/
def clear (sep : Text) : Text → Bool
  | [] => true
  | c :: t => !startsWith sep (c :: t) && !startsWith (c :: t) sep && clear sep t

/-- `partition(sep)`, of a single character. -/
def partition (sep : Char) (t : Text) : Text × Bool × Text :=
  (t.takeWhile (· != sep), decide (sep ∈ t), (t.dropWhile (· != sep)).drop 1)

/-- `rpartition(sep)`, of a single character. -/
def rpartition (sep : Char) (t : Text) : Text × Bool × Text :=
  (((t.reverse.dropWhile (· != sep)).drop 1).reverse, decide (sep ∈ t),
    (t.reverse.takeWhile (· != sep)).reverse)

theorem takeWhile_ne (free : sep ∉ t) : t.takeWhile (· != sep) = t := by
  rw [List.takeWhile_eq_self_iff]
  intro c hc
  have other : c ≠ sep := by rintro rfl; exact free hc
  simpa using other

theorem partition_free (free : sep ∉ t) : partition sep t = (t, false, []) := by
  have none_ : t.dropWhile (· != sep) = [] := by
    rw [List.dropWhile_eq_nil_iff]
    intro c hc
    have other : c ≠ sep := by rintro rfl; exact free hc
    simpa using other
  simp [partition, takeWhile_ne free, none_, free]

theorem partition_append (free : sep ∉ t) : partition sep (t ++ sep :: u) = (t, true, u) := by
  induction t with
  | nil => simp [partition]
  | cons c t ih =>
    rw [List.mem_cons, not_or] at free
    have other : (c != sep) = true := by simpa using Ne.symm free.1
    have rest := ih free.2
    simp only [partition, Prod.mk.injEq] at rest
    simp [partition, other, rest.1, rest.2.2]

/-- A text is its parts around the separator. -/
theorem eq_of_partition (sep : Char) (t : Text) :
    t = (partition sep t).1 ++ if (partition sep t).2.1 then sep :: (partition sep t).2.2 else [] := by
  by_cases there : sep ∈ t
  · obtain ⟨front, back, split, free⟩ := List.eq_append_cons_of_mem there
    rw [split, partition_append free]
    rfl
  · rw [partition_free there]
    simp

theorem parts_of_partition {front back : Text} (h : partition sep t = (front, true, back)) :
    t = front ++ sep :: back ∧ sep ∉ front := by
  have whole := eq_of_partition sep t
  rw [h] at whole
  refine ⟨whole, ?_⟩
  intro there
  have first : front = t.takeWhile (· != sep) := (congrArg Prod.fst h).symm
  rw [first] at there
  simpa using List.mem_takeWhile_imp there

theorem startsWith_iff : startsWith s t = true ↔ s <+: t := List.isPrefixOf_iff_prefix

theorem clear_cons {c : Char} : clear s (c :: t) = true ↔
    (¬ s <+: c :: t ∧ ¬ c :: t <+: s) ∧ clear s t = true := by
  simp only [clear, Bool.and_eq_true, Bool.not_eq_true', ← Bool.not_eq_true, startsWith_iff]

theorem clear_append (front : clear s t = true) (back : clear s u = true) :
    clear s (t ++ u) = true := by
  induction t with
  | nil => exact back
  | cons c t ih =>
    obtain ⟨⟨starts, inside⟩, rest⟩ := clear_cons.mp front
    rw [List.cons_append, clear_cons, ← List.cons_append]
    refine ⟨⟨fun here => ?_, fun within => ?_⟩, ih rest⟩
    · -- two beginnings of one text, of which one continues the other
      rcases List.prefix_or_prefix_of_prefix here (List.prefix_append (c :: t) u) with shorter | longer
      · exact starts shorter
      · exact inside longer
    · exact inside ((List.prefix_append (c :: t) u).trans within)

/-- The separator is found where it was put. -/
theorem splitOnce_append (front : clear s t = true) : splitOnce s (t ++ (s ++ u)) = some (t, u) := by
  induction t with
  | nil =>
    rw [List.nil_append]
    cases whole : s ++ u with
    | nil =>
      obtain ⟨rfl, rfl⟩ := List.append_eq_nil_iff.mp whole
      rfl
    | cons c rest =>
      rw [splitOnce, ← whole, if_pos (startsWith_iff.mpr (List.prefix_append s u)), List.drop_left]
  | cons c t ih =>
    obtain ⟨⟨starts, inside⟩, rest⟩ := clear_cons.mp front
    rw [List.cons_append, splitOnce, if_neg, ih rest]
    · rfl
    · rw [startsWith_iff, ← List.cons_append]
      intro here
      rcases List.prefix_or_prefix_of_prefix here (List.prefix_append (c :: t) (s ++ u))
        with shorter | longer
      · exact starts shorter
      · exact inside longer

@[simp] theorem casefold_append (s t : Text) : casefold (s ++ t) = casefold s ++ casefold t :=
  List.flatMap_append

end YTPipe.Text
