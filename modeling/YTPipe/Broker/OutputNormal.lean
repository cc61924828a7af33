import YTPipe.Broker.OutputContract
import YTPipe.Strings

/-!
# Normal outputs

What the validators of `broker_summary.py` hand back passes them unchanged, and
differs from what they were given in nothing but newlines and blanks. No text
passes both.
-/

namespace YTPipe.Broker

open Text

/-- The lines the partial validator looks at. -/
def partialLines (value : Text) : List Text :=
  ((splitOn newline (normalizedOutput value)).filter (!blank ·)).map (rstrip trailing)

/-- The line, or the line with blanks and tabs at its end. -/
def SameLine (line kept : Text) : Prop := ∃ cut, line = kept ++ cut ∧ ∀ c ∈ cut, trailing c = true

/-- The texts differ in CR and LF, white space around them, and blanks and tabs
at line ends; and in lines that `dropped` says are dropped. -/
def SameText (dropped : Text → Bool) (value output : Text) : Prop :=
  ∃ before core after, normalizeNewlines value = before ++ core ++ after
    ∧ (∀ c ∈ before, isSpace c = true) ∧ (∀ c ∈ after, isSpace c = true)
    ∧ List.Forall₂ SameLine ((splitOn newline core).filter (!dropped ·)) (splitOn newline output)

/-- The first line begins and the last line ends in something visible. -/
structure Edged (lines : List Text) : Prop where
  first : ∃ c line rest, lines = (c :: line) :: rest ∧ isSpace c = false
  last : ∃ rest line c, lines = rest ++ [line ++ [c]] ∧ isSpace c = false

section edges

variable {lines : List Text}

theorem Edged.ne_nil (h : Edged lines) : lines ≠ [] := by
  obtain ⟨c, line, rest, rfl, _⟩ := h.first
  simp

theorem Edged.trim (h : Edged lines) : Trim (join [newline] lines) := by
  intro d ends
  rcases ends with head | last
  · obtain ⟨c, line, rest, rfl, visible⟩ := h.first
    have begins : (join [newline] ((c :: line) :: rest)).head? = some c := by
      cases rest with
      | nil => rfl
      | cons next rest =>
        rw [join_cons_cons]
        rfl
    rw [begins] at head
    cases head
    exact visible
  · obtain ⟨rest, line, c, rfl, visible⟩ := h.last
    have closes : (join [newline] (rest ++ [line ++ [c]])).getLast? = some c := by
      by_cases alone : rest = []
      · subst alone
        simp
      · rw [join_append _ _ _ alone (by simp), join_singleton, ← List.append_assoc]
        exact List.getLast?_concat
    rw [closes] at last
    cases last
    exact visible

theorem newline_space : isSpace newline = true := by decide

/-- The lines of a trimmed text. -/
theorem edged_of_trim (some_ : lines ≠ []) (h : Trim (join [newline] lines))
    (text : join [newline] lines ≠ []) : Edged lines := by
  constructor
  · obtain ⟨first, rest, rfl⟩ := List.exists_cons_of_ne_nil some_
    cases first with
    | cons c line =>
      refine ⟨c, line, rest, rfl, h c (.inl ?_)⟩
      cases rest with
      | nil => rfl
      | cons next rest =>
        rw [join_cons_cons]
        rfl
    | nil =>
      cases rest with
      | nil => exact absurd rfl text
      | cons next rest =>
        have bare := h newline (.inl (by rw [join_cons_cons]; rfl))
        rw [newline_space] at bare
        cases bare
  · obtain ⟨rest, last, rfl⟩ := List.eq_nil_or_concat' lines |>.resolve_left some_
    rcases List.eq_nil_or_concat' last with rfl | ⟨line, c, rfl⟩
    · by_cases alone : rest = []
      · subst alone
        exact absurd rfl text
      · have bare := h newline (.inr (by
          rw [join_append _ _ _ alone (by simp), join_singleton, List.append_nil]
          exact List.getLast?_concat))
        rw [newline_space] at bare
        cases bare
    · refine ⟨rest, line, c, rfl, h c (.inr ?_)⟩
      by_cases alone : rest = []
      · subst alone
        simp
      · rw [join_append _ _ _ alone (by simp), join_singleton, ← List.append_assoc]
        exact List.getLast?_concat

theorem space_of_trailing {c : Char} (h : trailing c = true) : isSpace c = true := by
  simp only [trailing, Bool.or_eq_true, beq_iff_eq] at h
  rcases h with rfl | rfl <;> decide

/-- Blanks cut at line ends leave the edges. -/
theorem Edged.rstrip (h : Edged lines) : Edged (lines.map (rstrip trailing)) := by
  constructor
  · obtain ⟨c, line, rest, rfl, visible⟩ := h.first
    obtain ⟨cut, split, blanks⟩ := rstrip_append trailing (c :: line)
    cases kept : Text.rstrip trailing (c :: line) with
    | nil =>
      rw [kept, List.nil_append] at split
      have space := space_of_trailing (blanks c (split ▸ List.mem_cons_self))
      rw [visible] at space
      cases space
    | cons d line' =>
      rw [kept, List.cons_append, List.cons.injEq] at split
      refine ⟨c, line', rest.map (Text.rstrip trailing), ?_, visible⟩
      rw [List.map_cons, kept, split.1]
  · obtain ⟨rest, line, c, rfl, visible⟩ := h.last
    have kept : Text.rstrip trailing (line ++ [c]) = line ++ [c] := by
      rw [rstrip_eq]
      apply List.rdropWhile_concat_neg
      intro blank_
      rw [space_of_trailing blank_] at visible
      cases visible
    exact ⟨rest.map (Text.rstrip trailing), line, c,
      by rw [List.map_append, List.map_singleton, kept], visible⟩

theorem blank_eq_false {line : Text} {c : Char} (there : c ∈ line) (visible : isSpace c = false) :
    blank line = false := by
  unfold blank
  rw [List.isEmpty_eq_false_iff]
  intro none_
  rw [strip_eq_nil.mp none_ c there] at visible
  cases visible

/-- Blank lines are not at the edges. -/
theorem Edged.filled (h : Edged lines) : Edged (lines.filter (!blank ·)) := by
  constructor
  · obtain ⟨c, line, rest, rfl, visible⟩ := h.first
    refine ⟨c, line, rest.filter (!blank ·), ?_, visible⟩
    rw [List.filter_cons_of_pos]
    simp [blank_eq_false List.mem_cons_self visible]
  · obtain ⟨rest, line, c, rfl, visible⟩ := h.last
    refine ⟨rest.filter (!blank ·), line, c, ?_, visible⟩
    rw [List.filter_append, List.filter_cons_of_pos, List.filter_nil]
    have there : c ∈ line ++ [c] := by simp
    simp [blank_eq_false there visible]

end edges

section normal

variable {value : Text} {lines : List Text}

theorem normalizedOutput_newlines (value : Text) : '\r' ∉ normalizedOutput value := by
  obtain ⟨before, after, split, _⟩ := strip_between (normalizeNewlines value)
  intro there
  apply normalizeNewlines_free value
  rw [split]
  simp only [List.mem_append]
  exact .inl (.inr there)

/-- The lines of a text that is not blank. -/
theorem edged_lines (text : normalizedOutput value ≠ []) :
    Edged (splitOn newline (normalizedOutput value)) := by
  apply edged_of_trim splitOn_ne_nil
  · rw [join_splitOn]
    exact trim_strip _
  · rw [join_splitOn]
    exact text

/-- What stands in a line stands in the text. -/
theorem mem_of_mem_line {line : Text} (h : line ∈ splitOn newline (normalizedOutput value)) {c : Char}
    (hc : c ∈ rstrip trailing line) : c ∈ normalizedOutput value ∧ c ≠ newline := by
  have there : c ∈ line := (rstrip_isPrefix trailing line).subset hc
  constructor
  · rw [← join_splitOn newline (normalizedOutput value)]
    exact (infix_join h).subset there
  · rintro rfl
    exact not_mem_of_mem_splitOn h there

/-- Lines that were cut at their ends read back as they are. -/
theorem splitOn_output (edged : Edged lines)
    (of : ∀ line ∈ lines, ∃ l ∈ splitOn newline (normalizedOutput value), line = rstrip trailing l) :
    normalizedOutput (join [newline] lines) = join [newline] lines
      ∧ splitOn newline (join [newline] lines) = lines := by
  constructor
  · unfold normalizedOutput
    rw [normalizeNewlines_eq, strip_of_trim edged.trim]
    intro there
    rcases mem_join there with same | ⟨line, mem, there⟩
    · exact absurd same (by decide)
    · obtain ⟨l, hl, rfl⟩ := of line mem
      exact normalizedOutput_newlines value (mem_of_mem_line hl there).1
  · apply splitOn_join edged.ne_nil
    intro line mem there
    obtain ⟨l, hl, rfl⟩ := of line mem
    exact (mem_of_mem_line hl there).2 rfl

theorem casefold_join (lines : List Text) :
    casefold (join [newline] lines) = join [newline] (lines.map casefold) := by
  induction lines with
  | nil => rfl
  | cons first rest ih =>
    cases rest with
    | nil => simp
    | cons second rest =>
      rw [join_cons_cons, casefold_append, casefold_append, ih, List.map_cons, List.map_cons,
        List.map_cons, join_cons_cons]
      rfl

theorem thinkTags_plain : ∀ tag ∈ thinkTags, newline ∉ tag ∧ tag ≠ [] := by decide

/-- A tag in the lines was in the text. -/
theorem thinkFree_output (free : ThinkFree value) (edged : Edged lines)
    (of : ∀ line ∈ lines, ∃ l ∈ splitOn newline (normalizedOutput value), line = rstrip trailing l) :
    ThinkFree (join [newline] lines) := by
  intro tag htag
  rw [(splitOn_output edged of).1, Bool.eq_false_iff]
  intro found
  rw [contains_iff, casefold_join] at found
  obtain ⟨plain, some_⟩ := thinkTags_plain tag htag
  obtain ⟨folded, mem, found⟩ := infix_of_infix_join plain some_ found
  obtain ⟨line, hline, rfl⟩ := List.mem_map.mp mem
  obtain ⟨l, hl, rfl⟩ := of line hline
  obtain ⟨cut, split, _⟩ := rstrip_append trailing l
  have inLine : casefold (rstrip trailing l) <:+: casefold l := by
    conv_rhs => rw [split, casefold_append]
    exact (List.prefix_append _ _).isInfix
  have inText : casefold l <:+: casefold (normalizedOutput value) := by
    rw [← join_splitOn newline (normalizedOutput value), casefold_join]
    exact infix_join (List.mem_map_of_mem hl)
  have absent := free tag htag
  rw [Bool.eq_false_iff] at absent
  exact absent ((contains_iff ..).mpr ((found.trans inLine).trans inText))

/-- Lines cut at their ends are the same lines. -/
theorem sameLines (lines : List Text) : List.Forall₂ SameLine lines (lines.map (rstrip trailing)) := by
  induction lines with
  | nil => exact .nil
  | cons line lines ih => exact .cons (rstrip_append trailing line) ih

theorem map_rstrip_twice (lines : List Text) :
    (lines.map (rstrip trailing)).map (rstrip trailing) = lines.map (rstrip trailing) := by
  rw [List.map_map]
  apply List.map_congr_left
  intro line _
  exact rstrip_rstrip trailing line

end normal

section validators

variable {value output : Text}

theorem outputLines_of (value : Text) : ∀ line ∈ outputLines value,
    ∃ l ∈ splitOn newline (normalizedOutput value), line = rstrip trailing l := by
  intro line mem
  obtain ⟨l, hl, rfl⟩ := List.mem_map.mp mem
  exact ⟨l, hl, rfl⟩

theorem partialLines_of (value : Text) : ∀ line ∈ partialLines value,
    ∃ l ∈ splitOn newline (normalizedOutput value), line = rstrip trailing l := by
  intro line mem
  obtain ⟨l, hl, rfl⟩ := List.mem_map.mp mem
  exact ⟨l, (List.mem_filter.mp hl).1, rfl⟩

/-- The whole summary. -/
theorem output_normal (h : validateBrokerOutput value = some output) :
    validateBrokerOutput output = some output ∧ SameText (fun _ => false) value output := by
  obtain ⟨text, free, checked, rfl⟩ := validateBrokerOutput_checked.mp h
  have edged : Edged (outputLines value) := (edged_lines text).rstrip
  obtain ⟨normal, lines⟩ := splitOn_output edged (outputLines_of value)
  have again : outputLines (join [newline] (outputLines value)) = outputLines value := by
    conv_lhs => rw [outputLines, normal, lines]
    exact map_rstrip_twice _
  constructor
  · apply validateBrokerOutput_checked.mpr
    rw [again]
    refine ⟨?_, thinkFree_output free edged (outputLines_of value), checked, rfl⟩
    rw [normal]
    intro none_
    obtain ⟨c, line, rest, same, _⟩ := edged.first
    rw [same] at none_
    cases rest with
    | nil => simp at none_
    | cons next rest => simp [join_cons_cons] at none_
  · obtain ⟨before, after, split, left, right⟩ := strip_between (normalizeNewlines value)
    refine ⟨before, normalizedOutput value, after, split, left, right, ?_⟩
    have all : (splitOn newline (normalizedOutput value)).filter (fun _ => !false)
        = splitOn newline (normalizedOutput value) := List.filter_eq_self.mpr fun _ _ => rfl
    rw [lines]
    exact all.symm ▸ sameLines _

/-- The partial validator, check by check. -/
theorem validateBrokerPartialOutput_checked :
    validateBrokerPartialOutput value = some output ↔ partialLines value ≠ []
      ∧ (∀ line ∈ partialLines value, isBullet line = true) ∧ ThinkFree value
      ∧ join [newline] (partialLines value) = output := by
  simp only [validateBrokerPartialOutput, Option.ite_none_left_eq_some, Option.some.injEq]
  change ¬ ((partialLines value).isEmpty || (partialLines value).any (!isBullet ·)) = true
    ∧ ¬ (thinkTags.any fun tag => contains tag (casefold (normalizedOutput value))) = true
    ∧ join [newline] (partialLines value) = output ↔ _
  simp only [Bool.or_eq_true, not_or, List.isEmpty_iff, List.any_eq_true, not_exists, not_and,
    Bool.not_eq_true, Bool.not_eq_false', ThinkFree, and_assoc]

theorem isBullet_filled {line : Text} (h : isBullet line = true) : blank line = false := by
  cases line with
  | nil => exact absurd rfl (isBullet_ne_nil h)
  | cons c line =>
    simp only [isBullet, startsWith, Bool.and_eq_true] at h
    have same : c = bullet := by
      have := List.isPrefixOf_iff_prefix.mp h.1
      exact (List.cons_prefix_cons.mp this).1.symm
    exact blank_eq_false List.mem_cons_self (by rw [same]; decide)

/-- The partial summary. -/
theorem partial_normal (h : validateBrokerPartialOutput value = some output) :
    validateBrokerPartialOutput output = some output ∧ SameText blank value output := by
  obtain ⟨some_, bullets, free, rfl⟩ := validateBrokerPartialOutput_checked.mp h
  have text : normalizedOutput value ≠ [] := by
    intro none_
    apply some_
    unfold partialLines
    rw [none_]
    rfl
  have edged : Edged (partialLines value) := (edged_lines text).filled.rstrip
  obtain ⟨normal, lines⟩ := splitOn_output edged (partialLines_of value)
  have again : partialLines (join [newline] (partialLines value)) = partialLines value := by
    conv_lhs => rw [partialLines, normal, lines]
    rw [List.filter_eq_self.mpr fun line mem => by simp [isBullet_filled (bullets line mem)]]
    exact map_rstrip_twice _
  constructor
  · apply validateBrokerPartialOutput_checked.mpr
    rw [again]
    exact ⟨some_, bullets, thinkFree_output free edged (partialLines_of value), rfl⟩
  · obtain ⟨before, after, split, left, right⟩ := strip_between (normalizeNewlines value)
    refine ⟨before, normalizedOutput value, after, split, left, right, ?_⟩
    rw [lines]
    exact sameLines _

/-- A heading is no bullet. -/
theorem not_both (h : validateBrokerOutput value = some output) :
    validateBrokerPartialOutput value = none := by
  obtain ⟨_, _, checked, _⟩ := validateBrokerOutput_checked.mp h
  rw [Option.eq_none_iff_forall_ne_some]
  intro output' accepted
  obtain ⟨_, bullets, _⟩ := validateBrokerPartialOutput_checked.mp accepted
  have there : resumenHeading ∈ outputLines value :=
    List.count_pos_iff.mp (by rw [checked.resumenOnce]; decide)
  obtain ⟨line, hline, same⟩ := outputLines_of value _ there
  have filled : blank line = false := by
    have letter : 'R' ∈ line := by
      apply (rstrip_isPrefix trailing line).subset
      rw [← same]
      decide
    exact blank_eq_false letter (by decide)
  have heading : resumenHeading ∈ partialLines value := by
    rw [same]
    exact List.mem_map_of_mem (List.mem_filter.mpr ⟨hline, by simp [filled]⟩)
  exact absurd (bullets _ heading) (by decide)

/-- The validators normalise: what they hand back passes them unchanged and is the
text they were given but for newlines, outer white space, blanks at line ends and,
of a partial summary, blank lines; and no text passes both. -/
theorem validators_normalise (value : Text) :
    (∀ output, validateBrokerOutput value = some output →
      validateBrokerOutput output = some output ∧ SameText (fun _ => false) value output)
    ∧ (∀ output, validateBrokerPartialOutput value = some output →
      validateBrokerPartialOutput output = some output ∧ SameText blank value output)
    ∧ ¬ ((validateBrokerOutput value).isSome ∧ (validateBrokerPartialOutput value).isSome) := by
  refine ⟨fun _ h => output_normal h, fun _ h => partial_normal h, ?_⟩
  rintro ⟨whole, partial_⟩
  obtain ⟨output, accepted⟩ := Option.isSome_iff_exists.mp whole
  rw [not_both accepted] at partial_
  cases partial_

example : validateBrokerPartialOutput "\r\n• Uno. \t\r\n \n•\tDos.\n".toList
    = some "• Uno.\n•\tDos.".toList := by decide

end validators

end YTPipe.Broker
