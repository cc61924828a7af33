import YTPipe.Broker.Output

/-!
# The output contract

The form of a summary as a grammar of lines, and that the validator of
`broker_summary.py` accepts nothing else from the first heading on, and every
text of the form.
-/

namespace YTPipe.Broker

def resumenHeading : Text := "RESUMEN".toList

def pointsHeading : Text := "PUNTOS CLAVE".toList

def conclusionHeading : Text := "CONCLUSIÓN".toList

theorem headings_eq : headings = [resumenHeading, pointsHeading, conclusionHeading] := rfl

/-- A line that is not a heading and opens no Markdown block. -/
structure BodyLine (line : Text) : Prop where
  heading : isCapitals line = false
  markdown : isMarkdown (Text.lstrip Text.isSpace line) = false

/-- A section with text. -/
def Filled (section_ : List Text) : Prop := ∃ line ∈ section_, blank line = false

/-- What stands under the headings. -/
structure Sections where
  resumen : List Text
  points : List Text
  conclusion : Option (List Text)

/-- The lines of a summary. -/
def Sections.lines (s : Sections) : List Text :=
  resumenHeading :: s.resumen ++ pointsHeading :: s.points
    ++ s.conclusion.elim [] (conclusionHeading :: ·)

/-- The lines under the headings. -/
def Sections.body (s : Sections) : List Text := s.resumen ++ s.points ++ s.conclusion.getD []

/-- The contract. -/
structure Sections.Valid (s : Sections) : Prop where
  body : ∀ line ∈ s.body, BodyLine line
  resumen : Filled s.resumen
  points : Filled s.points
  bullets : ∀ line ∈ s.points, blank line = false → isBullet line = true
  conclusion : ∀ lines, s.conclusion = some lines → Filled lines

/-- The text the validator looks at. -/
def normalizedOutput (value : Text) : Text := Text.strip (Text.normalizeNewlines value)

def outputLines (value : Text) : List Text :=
  (Text.splitOn Text.newline (normalizedOutput value)).map (Text.rstrip trailing)

/-- No tag of the model's reasoning, in any case. -/
def ThinkFree (value : Text) : Prop :=
  ∀ tag ∈ thinkTags, Text.contains tag (Text.casefold (normalizedOutput value)) = false

instance (value : Text) : Decidable (ThinkFree value) := inferInstanceAs (Decidable (∀ _ ∈ _, _))

def headingPositions (lines : List Text) : List Nat := (headings.filter lines.contains).map lines.idxOf

/-- What the validator asks of the lines. -/
structure LinesChecked (lines : List Text) : Prop where
  markdown : ∀ line ∈ lines, isMarkdown (Text.lstrip Text.isSpace line) = false
  resumenOnce : lines.count resumenHeading = 1
  pointsOnce : lines.count pointsHeading = 1
  conclusionOnce : lines.count conclusionHeading ≤ 1
  ordered : (headingPositions lines).Pairwise (· ≤ ·)
  capitals : ∀ line ∈ lines, isCapitals line = true → line ∈ headings
  resumen : Filled ((lines.take ((headingPositions lines).getD 1 0)).drop
    ((headingPositions lines).getD 0 0 + 1))
  conclusion : (headingPositions lines).length = 3 →
    Filled (lines.drop ((headingPositions lines).getD 2 lines.length + 1))
  points : Filled ((lines.take ((headingPositions lines).getD 2 lines.length)).drop
    ((headingPositions lines).getD 1 0 + 1))
  bullets : ∀ line ∈ (lines.take ((headingPositions lines).getD 2 lines.length)).drop
    ((headingPositions lines).getD 1 0 + 1), blank line = false → isBullet line = true

theorem heading_stripped : ∀ h ∈ headings, Text.strip h = h := by decide

theorem strip_heading {lines : List Text} {i : Nat} (hi : i ∈ headingPositions lines) :
    Text.strip (lines.getD i []) = lines.getD i [] := by
  obtain ⟨h, hh, rfl⟩ := List.mem_map.mp hi
  obtain ⟨known, there⟩ := List.mem_filter.mp hh
  have within := List.idxOf_lt_length_iff.mpr (List.contains_iff_mem.mp there)
  have at_ : lines.getD (lines.idxOf h) [] = h := by
    rw [List.getD_eq_getElem?_getD, List.getElem?_eq_getElem within, Option.getD_some,
      List.getElem_idxOf]
  rw [at_]
  exact heading_stripped h known

section conditions

variable {lines points : List Text}

theorem not_all_blank : lines.all blank = false ↔ Filled lines := by
  simp [Filled]

theorem last_filled {n : Nat} : (n == 3 && lines.all blank) = false ↔ (n = 3 → Filled lines) := by
  rw [Bool.and_eq_false_iff, not_all_blank, beq_eq_false_iff_ne]
  exact Decidable.imp_iff_not_or.symm

theorem headings_once :
    ((headings.take 2).any (fun h => lines.count h ≠ 1)
      || decide (lines.count (headings.getD 2 []) > 1)) = false
    ↔ lines.count resumenHeading = 1 ∧ lines.count pointsHeading = 1
      ∧ lines.count conclusionHeading ≤ 1 := by
  simp [headings_eq, and_assoc]

theorem headings_ordered :
    (¬ (headingPositions lines).Pairwise (· ≤ ·)
      ∨ (headingPositions lines).any
        (fun i => Text.strip (lines.getD i []) ≠ lines.getD i []) = true)
    ↔ ¬ (headingPositions lines).Pairwise (· ≤ ·) := by
  apply or_iff_left
  rw [List.any_eq_true]
  rintro ⟨i, hi, ragged⟩
  exact of_decide_eq_true ragged (strip_heading hi)

theorem no_other_capitals : (lines.any fun line => isCapitals line && !headings.contains line) = false
    ↔ ∀ line ∈ lines, isCapitals line = true → line ∈ headings := by
  simp

theorem only_bullets :
    ((points.filter (!blank ·)).isEmpty || (points.filter (!blank ·)).any (!isBullet ·)) = false
    ↔ Filled points ∧ ∀ line ∈ points, blank line = false → isBullet line = true := by
  simp [Filled]

/-- The last check repeats the one before. -/
theorem only_bullets_again (h : ∀ line ∈ points, blank line = false → isBullet line = true) :
    (points.any fun line => !blank line && !Text.startsWith [bullet] line) = false := by
  rw [List.any_eq_false]
  intro line hline bad
  simp only [Bool.and_eq_true, Bool.not_eq_true'] at bad
  have good := h line hline bad.1
  rw [isBullet, Bool.and_eq_true, bad.2] at good
  cases good.1

end conditions

/-- The validator, check by check. -/
theorem validateBrokerOutput_checked {value output : Text} :
    validateBrokerOutput value = some output ↔
      normalizedOutput value ≠ [] ∧ ThinkFree value ∧ LinesChecked (outputLines value)
        ∧ Text.join [Text.newline] (outputLines value) = output := by
  simp only [validateBrokerOutput, Option.ite_none_left_eq_some, Option.some.injEq,
    Bool.not_eq_true]
  constructor
  · rintro ⟨text, markdown, once, ordered, capitals, filled, bullets, _, rfl⟩
    rw [Bool.or_eq_false_iff] at text filled
    obtain ⟨resumenOnce, pointsOnce, conclusionOnce⟩ := headings_once.mp once
    obtain ⟨points, bullets⟩ := only_bullets.mp bullets
    refine ⟨by simpa [normalizedOutput] using text.1, ?_, ?_, rfl⟩
    · intro tag htag
      simpa [normalizedOutput] using List.any_eq_false.mp text.2 tag htag
    · constructor
      · intro line hline
        simpa using List.any_eq_false.mp markdown line hline
      · exact resumenOnce
      · exact pointsOnce
      · exact conclusionOnce
      · exact Decidable.not_not.mp (mt headings_ordered.mpr ordered)
      · exact no_other_capitals.mp capitals
      · exact not_all_blank.mp filled.1
      · exact last_filled.mp filled.2
      · exact points
      · exact bullets
  · rintro ⟨text, thinkFree, checked, rfl⟩
    refine ⟨?_, ?_, ?_, ?_, ?_, ?_, ?_, ?_, rfl⟩
    · rw [Bool.or_eq_false_iff]
      exact ⟨by simpa [normalizedOutput] using text,
        List.any_eq_false.mpr fun tag htag => by simpa [normalizedOutput] using thinkFree tag htag⟩
    · exact List.any_eq_false.mpr fun line hline => by simpa using checked.markdown line hline
    · exact headings_once.mpr ⟨checked.resumenOnce, checked.pointsOnce, checked.conclusionOnce⟩
    · exact mt headings_ordered.mp (not_not_intro checked.ordered)
    · exact no_other_capitals.mpr checked.capitals
    · rw [Bool.or_eq_false_iff]
      exact ⟨not_all_blank.mpr checked.resumen, last_filled.mpr checked.conclusion⟩
    · exact only_bullets.mpr ⟨checked.points, checked.bullets⟩
    · exact only_bullets_again checked.bullets

theorem heading_capitals : ∀ h ∈ headings, isCapitals h = true := by decide

theorem BodyLine.not_heading {line : Text} (h : BodyLine line) : line ∉ headings := by
  intro known
  have plain := h.heading
  rw [heading_capitals line known] at plain
  cases plain

section positions

variable {lines front back : List Text} {h k : Text}

theorem once_split (once : lines.count h = 1) :
    ∃ front back, lines = front ++ h :: back ∧ h ∉ front ∧ h ∉ back := by
  obtain ⟨front, back, rfl⟩ := List.append_of_mem (List.count_pos_iff.mp (by omega : 0 < lines.count h))
  rw [List.count_append, List.count_cons_self] at once
  exact ⟨front, back, rfl, List.count_eq_zero.mp (by omega), List.count_eq_zero.mp (by omega)⟩

theorem idxOf_split (first : h ∉ front) : (front ++ h :: back).idxOf h = front.length := by
  rw [List.idxOf_append, if_neg first, List.idxOf_cons_self, Nat.zero_add]

/-- A line that does not come before a heading comes after it. -/
theorem later_of_idxOf (apart : k ≠ h) (first : h ∉ front) (there : k ∈ front ++ h :: back)
    (le : (front ++ h :: back).idxOf h ≤ (front ++ h :: back).idxOf k) : k ∉ front ∧ k ∈ back := by
  have late : k ∉ front := by
    intro early
    rw [idxOf_split first, List.idxOf_append, if_pos early] at le
    have := List.idxOf_lt_length_iff.mpr early
    omega
  refine ⟨late, ?_⟩
  simpa [late, apart] using there

theorem headingPositions_eq (resumen : resumenHeading ∈ lines) (points : pointsHeading ∈ lines) :
    headingPositions lines = [lines.idxOf resumenHeading, lines.idxOf pointsHeading]
      ++ if conclusionHeading ∈ lines then [lines.idxOf conclusionHeading] else [] := by
  unfold headingPositions
  rw [headings_eq]
  by_cases conclusion : conclusionHeading ∈ lines
  · simp [resumen, points, conclusion]
  · simp [resumen, points, conclusion]

end positions

theorem points_ne_resumen : pointsHeading ≠ resumenHeading := by decide

theorem conclusion_ne_resumen : conclusionHeading ≠ resumenHeading := by decide

theorem conclusion_ne_points : conclusionHeading ≠ pointsHeading := by decide

/-- The sections after some lines, none of them a heading. -/
structure Sections.Follows (s : Sections) (before lines : List Text) : Prop where
  lines_eq : lines = before ++ s.lines
  plain : ∀ line ∈ before ++ s.body, line ∉ headings

/-- Headings that stand once each and in their order make sections. -/
theorem sections_of_checked {lines : List Text} (h : LinesChecked lines) :
    ∃ s before, Sections.Follows s before lines := by
  have ordered := h.ordered
  have there : resumenHeading ∈ lines := List.count_pos_iff.mp (by rw [h.resumenOnce]; decide)
  have there' : pointsHeading ∈ lines := List.count_pos_iff.mp (by rw [h.pointsOnce]; decide)
  rw [headingPositions_eq there there', List.pairwise_append] at ordered
  obtain ⟨before, back, split, first, once⟩ := once_split h.resumenOnce
  have resumenFirst : lines.idxOf resumenHeading ≤ lines.idxOf pointsHeading := by
    simpa using ordered.1
  have pointsFirst : conclusionHeading ∈ lines →
      lines.idxOf pointsHeading ≤ lines.idxOf conclusionHeading := by
    intro last
    exact ordered.2.2 _ (by simp) _ (by simp [last])
  subst split
  obtain ⟨noPoints, later⟩ := later_of_idxOf points_ne_resumen first there' resumenFirst
  have pointsOnce : back.count pointsHeading = 1 := by
    have once := h.pointsOnce
    rw [List.count_append, List.count_cons_of_ne points_ne_resumen.symm,
      List.count_eq_zero.mpr noPoints] at once
    omega
  obtain ⟨resumen, rest, rfl, noPoints', noPoints''⟩ := once_split pointsOnce
  have regroup : before ++ resumenHeading :: (resumen ++ pointsHeading :: rest)
      = (before ++ resumenHeading :: resumen) ++ pointsHeading :: rest := by simp
  simp only [List.mem_append, List.mem_cons, not_or] at once
  by_cases last : conclusionHeading ∈ before ++ resumenHeading :: (resumen ++ pointsHeading :: rest)
  · have le := pointsFirst last
    have conclusionOnce := h.conclusionOnce
    rw [regroup] at le last conclusionOnce
    obtain ⟨noConclusion, later⟩ := later_of_idxOf conclusion_ne_points
      (by simp [noPoints, noPoints', points_ne_resumen]) last le
    have lastOnce : rest.count conclusionHeading = 1 := by
      have some_ := List.count_pos_iff.mpr later
      rw [List.count_append, List.count_cons_of_ne conclusion_ne_points.symm] at conclusionOnce
      omega
    obtain ⟨points, conclusion, rfl, noConclusion', noConclusion''⟩ := once_split lastOnce
    simp only [List.mem_append, List.mem_cons, not_or] at once noPoints'' noConclusion
    refine ⟨⟨resumen, points, some conclusion⟩, before, by simp [Sections.lines], ?_⟩
    intro line hline known
    simp only [Sections.body, Option.getD_some, List.mem_append] at hline
    simp only [headings_eq, List.mem_cons, List.not_mem_nil, or_false] at known
    grind
  · simp only [List.mem_append, List.mem_cons, not_or] at last
    refine ⟨⟨resumen, rest, none⟩, before, by simp [Sections.lines], ?_⟩
    intro line hline known
    simp only [Sections.body, Option.getD_none, List.append_nil, List.mem_append] at hline
    simp only [headings_eq, List.mem_cons, List.not_mem_nil, or_false] at known
    grind

/-- Where the headings of the sections stand. -/
theorem Sections.Follows.positions {s : Sections} {before lines : List Text}
    (h : s.Follows before lines) : headingPositions lines
      = [before.length, before.length + 1 + s.resumen.length]
        ++ s.conclusion.elim [] fun _ =>
          [before.length + 1 + s.resumen.length + 1 + s.points.length] := by
  have plain := h.plain
  rw [h.lines_eq]
  simp only [Sections.body, List.mem_append, headings_eq, List.mem_cons, List.not_mem_nil,
    or_false] at plain
  obtain ⟨resumen, points, conclusion⟩ := s
  have apart (heading : Text) (known : heading = resumenHeading ∨ heading = pointsHeading
      ∨ heading = conclusionHeading) : heading ∉ before ∧ heading ∉ resumen ∧ heading ∉ points
        ∧ heading ∉ conclusion.getD [] := by
    refine ⟨?_, ?_, ?_, ?_⟩ <;> intro there
    · exact plain heading (.inl there) known
    · exact plain heading (.inr (.inl (.inl there))) known
    · exact plain heading (.inr (.inl (.inr there))) known
    · exact plain heading (.inr (.inr there)) known
  obtain ⟨noResumen, -, -, -⟩ := apart resumenHeading (.inl rfl)
  obtain ⟨noPoints, noPoints', -, -⟩ := apart pointsHeading (.inr (.inl rfl))
  obtain ⟨noLast, noLast', noLast'', -⟩ := apart conclusionHeading (.inr (.inr rfl))
  rw [headingPositions_eq (by simp [Sections.lines]) (by simp [Sections.lines])]
  have first : (before ++ Sections.lines ⟨resumen, points, conclusion⟩).idxOf resumenHeading
      = before.length := by
    rw [Sections.lines, List.cons_append, List.cons_append, idxOf_split noResumen]
  have second : (before ++ Sections.lines ⟨resumen, points, conclusion⟩).idxOf pointsHeading
      = before.length + 1 + resumen.length := by
    have regroup : before ++ Sections.lines ⟨resumen, points, conclusion⟩
        = (before ++ resumenHeading :: resumen) ++ pointsHeading
          :: (points ++ conclusion.elim [] (conclusionHeading :: ·)) := by simp [Sections.lines]
    rw [regroup, idxOf_split (by simp [noPoints, noPoints', points_ne_resumen])]
    simp only [List.length_append, List.length_cons]
    omega
  rw [first, second]
  cases conclusion with
  | none =>
    have absent : conclusionHeading ∉ before ++ Sections.lines ⟨resumen, points, none⟩ := by
      simp [Sections.lines, noLast, noLast', noLast'', conclusion_ne_resumen, conclusion_ne_points]
    rw [if_neg absent]
    rfl
  | some conclusion =>
    have regroup : before ++ Sections.lines ⟨resumen, points, some conclusion⟩
        = (before ++ resumenHeading :: resumen ++ pointsHeading :: points)
          ++ conclusionHeading :: conclusion := by simp [Sections.lines]
    rw [regroup, if_pos (by simp), idxOf_split (by simp [noLast, noLast', noLast'',
      conclusion_ne_resumen, conclusion_ne_points])]
    simp only [List.length_append, List.length_cons, Option.elim_some, List.cons_append,
      List.nil_append, List.cons.injEq, and_true, true_and]
    omega

theorem slice_between {α : Type} (front back rest : List α) (x : α) :
    ((front ++ x :: back ++ rest).take (front.length + 1 + back.length)).drop (front.length + 1)
      = back := by
  have whole : front.length + 1 + back.length = (front ++ x :: back).length := by
    simp only [List.length_append, List.length_cons]
    omega
  have head : front.length + 1 = (front ++ [x]).length := by simp
  rw [whole, List.take_left, head, show front ++ x :: back = (front ++ [x]) ++ back by simp,
    List.drop_left]

section slices

variable {s : Sections} {before lines : List Text}

theorem Sections.Follows.resumen_eq (h : s.Follows before lines) :
    (lines.take ((headingPositions lines).getD 1 0)).drop ((headingPositions lines).getD 0 0 + 1)
      = s.resumen := by
  rw [h.positions, h.lines_eq]
  have regroup : before ++ s.lines = before ++ resumenHeading :: s.resumen
      ++ (pointsHeading :: s.points ++ s.conclusion.elim [] (conclusionHeading :: ·)) := by
    simp [Sections.lines]
  rw [regroup]
  exact slice_between _ _ _ _

theorem Sections.Follows.points_eq (h : s.Follows before lines) :
    (lines.take ((headingPositions lines).getD 2 lines.length)).drop
      ((headingPositions lines).getD 1 0 + 1) = s.points := by
  rw [h.positions, h.lines_eq]
  have regroup : before ++ s.lines = (before ++ resumenHeading :: s.resumen)
      ++ pointsHeading :: s.points ++ s.conclusion.elim [] (conclusionHeading :: ·) := by
    simp [Sections.lines]
  have at_ : before.length + 1 + s.resumen.length
      = (before ++ resumenHeading :: s.resumen).length := by
    simp only [List.length_append, List.length_cons]
    omega
  rw [regroup]
  cases hc : s.conclusion with
  | none =>
    have whole : ((before ++ resumenHeading :: s.resumen) ++ pointsHeading :: s.points
        ++ ([] : List Text)).length
          = (before ++ resumenHeading :: s.resumen).length + 1 + s.points.length := by
      simp only [List.length_append, List.length_cons, List.length_nil]
      omega
    simp only [Option.elim_none, List.append_nil, List.getD_cons_succ, List.getD_cons_zero,
      List.getD_nil] at whole ⊢
    rw [at_, whole]
    have sliced := slice_between (before ++ resumenHeading :: s.resumen) s.points [] pointsHeading
    rw [List.append_nil] at sliced
    exact sliced
  | some conclusion =>
    simp only [Option.elim_some, List.cons_append, List.nil_append, List.getD_cons_succ,
      List.getD_cons_zero]
    rw [at_]
    exact slice_between _ _ _ _

theorem Sections.Follows.conclusion_eq (h : s.Follows before lines) {conclusion : List Text}
    (some_ : s.conclusion = some conclusion) :
    lines.drop ((headingPositions lines).getD 2 lines.length + 1) = conclusion := by
  rw [h.positions, h.lines_eq, some_]
  have regroup : before ++ s.lines = (before ++ resumenHeading :: s.resumen
      ++ pointsHeading :: s.points ++ [conclusionHeading]) ++ conclusion := by
    simp [Sections.lines, some_]
  have at_ : before.length + 1 + s.resumen.length + 1 + s.points.length + 1
      = (before ++ resumenHeading :: s.resumen ++ pointsHeading :: s.points
        ++ [conclusionHeading]).length := by
    simp only [List.length_append, List.length_cons, List.length_nil]
    omega
  simp only [Option.elim_some, List.cons_append, List.nil_append, List.getD_cons_succ,
    List.getD_cons_zero]
  rw [at_, regroup, List.drop_left]

theorem Sections.Follows.length_positions (h : s.Follows before lines) :
    (headingPositions lines).length = 3 ↔ s.conclusion ≠ none := by
  rw [h.positions]
  cases s.conclusion with
  | none => simp
  | some conclusion => simp

/-- The lines of a section are among the lines. -/
theorem Sections.Follows.mem_lines (h : s.Follows before lines) {line : Text}
    (hline : line ∈ before ++ s.body) : line ∈ lines := by
  rw [h.lines_eq]
  simp only [Sections.body, List.mem_append] at hline
  simp only [Sections.lines, List.mem_append, List.mem_cons, List.cons_append]
  rcases hline with first | (resumen | points) | conclusion
  · exact .inl first
  · exact .inr (.inr (.inl (.inl resumen)))
  · exact .inr (.inr (.inl (.inr (.inr points))))
  · cases hc : s.conclusion with
    | none =>
      rw [hc] at conclusion
      cases conclusion
    | some rest =>
      rw [hc] at conclusion
      exact .inr (.inr (.inr (List.mem_cons_of_mem _ conclusion)))

theorem Sections.Follows.mem_cases (h : s.Follows before lines) {line : Text}
    (hline : line ∈ lines) : line ∈ headings ∨ line ∈ before ++ s.body := by
  rw [h.lines_eq, Sections.lines] at hline
  simp only [headings_eq, Sections.body, List.mem_append, List.mem_cons, List.cons_append,
    List.not_mem_nil, or_false] at hline ⊢
  cases hc : s.conclusion with
  | none =>
    simp only [hc, Option.elim_none, List.not_mem_nil, or_false] at hline
    grind
  | some conclusion =>
    simp only [hc, Option.elim_some, List.mem_cons, Option.getD_some] at hline ⊢
    grind

end slices

/-- Lines that pass the checks hold the sections of the contract, after lines
that are no headings. -/
theorem LinesChecked.sections {lines : List Text} (h : LinesChecked lines) :
    ∃ s before, lines = before ++ Sections.lines s ∧ s.Valid ∧ ∀ line ∈ before, BodyLine line := by
  obtain ⟨s, before, follows⟩ := sections_of_checked h
  have body (line : Text) (hline : line ∈ before ++ s.body) : BodyLine line := by
    constructor
    · rw [Bool.eq_false_iff]
      intro capitals
      exact follows.plain line hline (h.capitals line (follows.mem_lines hline) capitals)
    · exact h.markdown line (follows.mem_lines hline)
  refine ⟨s, before, follows.lines_eq, ?_, fun line hline => body line (List.mem_append_left _ hline)⟩
  constructor
  · exact fun line hline => body line (List.mem_append_right _ hline)
  · exact follows.resumen_eq ▸ h.resumen
  · exact follows.points_eq ▸ h.points
  · exact follows.points_eq ▸ h.bullets
  · intro conclusion hc
    have filled := h.conclusion (follows.length_positions.mpr (by simp [hc]))
    rwa [follows.conclusion_eq hc] at filled

theorem heading_plain : ∀ h ∈ headings, isMarkdown (Text.lstrip Text.isSpace h) = false := by decide

theorem Sections.Follows.count {s : Sections} {before lines : List Text}
    (h : s.Follows before lines) {heading : Text} (known : heading ∈ headings) :
    lines.count heading = [resumenHeading, pointsHeading].count heading
      + (s.conclusion.elim [] fun _ => [conclusionHeading]).count heading := by
  have none_ (section_ : List Text) (within : ∀ line ∈ section_, line ∈ before ++ s.body) :
      section_.count heading = 0 := by
    rw [List.count_eq_zero]
    exact fun there => h.plain heading (within heading there) known
  have first := none_ before fun line hline => List.mem_append_left _ hline
  have resumen := none_ s.resumen fun line hline => by simp [Sections.body, hline]
  have points := none_ s.points fun line hline => by simp [Sections.body, hline]
  rw [h.lines_eq]
  cases hc : s.conclusion with
  | none =>
    simp only [Sections.lines, hc, Option.elim_none, List.count_append, List.count_cons, first,
      resumen, points, List.count_nil]
    omega
  | some conclusion =>
    have last := none_ conclusion fun line hline => by simp [Sections.body, hc, hline]
    simp only [Sections.lines, hc, Option.elim_some, List.count_append, List.count_cons, first,
      resumen, points, last, List.count_nil]
    omega

/-- The sections of the contract pass the checks. -/
theorem Sections.Valid.checked {s : Sections} (h : s.Valid) : LinesChecked s.lines := by
  have follows : s.Follows [] s.lines :=
    ⟨rfl, fun line hline => (h.body line hline).not_heading⟩
  constructor
  · intro line hline
    rcases follows.mem_cases hline with known | plain
    · exact heading_plain line known
    · exact (h.body line plain).markdown
  · rw [follows.count (by decide)]
    cases s.conclusion with
    | none => decide
    | some conclusion =>
      rw [Option.elim_some]
      decide
  · rw [follows.count (by decide)]
    cases s.conclusion with
    | none => decide
    | some conclusion =>
      rw [Option.elim_some]
      decide
  · rw [follows.count (by decide)]
    cases s.conclusion with
    | none => decide
    | some conclusion =>
      rw [Option.elim_some]
      decide
  · rw [follows.positions]
    cases s.conclusion with
    | none => simp
    | some conclusion =>
      simp
      omega
  · intro line hline capitals
    rcases follows.mem_cases hline with known | plain
    · exact known
    · rw [(h.body line plain).heading] at capitals
      cases capitals
  · rw [follows.resumen_eq]
    exact h.resumen
  · intro three
    obtain ⟨conclusion, hc⟩ := Option.ne_none_iff_exists'.mp (follows.length_positions.mp three)
    rw [follows.conclusion_eq hc]
    exact h.conclusion conclusion hc
  · rw [follows.points_eq]
    exact h.points
  · rw [follows.points_eq]
    exact h.bullets

theorem outputLines_empty {value : Text} (h : normalizedOutput value = []) :
    outputLines value = [[]] := by
  rw [outputLines, h]
  rfl

/-- An accepted text is of the form from its first heading on, and what stands
before it is no heading and no Markdown; every text of the form is accepted. -/
theorem output_contract (value : Text) :
    (∀ output, validateBrokerOutput value = some output →
      ThinkFree value ∧ output = Text.join [Text.newline] (outputLines value)
        ∧ ∃ s before, outputLines value = before ++ Sections.lines s ∧ s.Valid
          ∧ ∀ line ∈ before, BodyLine line)
    ∧ ∀ s : Sections, outputLines value = s.lines → s.Valid → ThinkFree value →
      validateBrokerOutput value = some (Text.join [Text.newline] (outputLines value)) := by
  constructor
  · intro output accepted
    obtain ⟨_, thinkFree, checked, joined⟩ := validateBrokerOutput_checked.mp accepted
    exact ⟨thinkFree, joined.symm, checked.sections⟩
  · intro s form valid thinkFree
    apply validateBrokerOutput_checked.mpr
    refine ⟨?_, thinkFree, form ▸ valid.checked, rfl⟩
    intro empty
    rw [outputLines_empty empty] at form
    have head : some ([] : Text) = some resumenHeading := congrArg List.head? form
    exact absurd head (by decide)

section samples

def shortSummary : Text := "RESUMEN\nTema.\nPUNTOS CLAVE\n• Uno.".toList

def shortSections : Sections := ⟨["Tema.".toList], ["• Uno.".toList], none⟩

theorem shortSections_valid : shortSections.Valid := by
  constructor
  · intro line hline
    constructor
    · revert line
      decide
    · revert line
      decide
  · exact ⟨"Tema.".toList, by decide, by decide⟩
  · exact ⟨"• Uno.".toList, by decide, by decide⟩
  · decide
  · intro lines none_
    cases none_

theorem output_contract_short :
    validateBrokerOutput shortSummary
      = some (Text.join [Text.newline] (outputLines shortSummary)) :=
  (output_contract shortSummary).2 shortSections (by decide) shortSections_valid (by decide)

/-- The form where only headings and code fences count as Markdown, and a bullet
need not have text. -/
structure Sections.Loose (s : Sections) : Prop where
  capitals : ∀ line ∈ s.body, isCapitals line = false
  markdown : ∀ line ∈ s.body, ["#", "```", "~~~"].any (fun mark =>
    Text.startsWith mark.toList (Text.lstrip Text.isSpace line)) = false
  resumen : Filled s.resumen
  points : Filled s.points
  bullets : ∀ line ∈ s.points, blank line = false → Text.startsWith [bullet] line = true
  conclusion : ∀ lines, s.conclusion = some lines → Filled lines

def numberedSummary : Text := "RESUMEN\n1. Tema.\nPUNTOS CLAVE\n• Uno.".toList

def numberedSections : Sections := ⟨["1. Tema.".toList], ["• Uno.".toList], none⟩

theorem numberedSections_loose : numberedSections.Loose := by
  constructor
  · decide
  · decide
  · exact ⟨"1. Tema.".toList, by decide, by decide⟩
  · exact ⟨"• Uno.".toList, by decide, by decide⟩
  · decide
  · intro lines none_
    cases none_

/-- A line that begins a numbered list is refused. -/
theorem numbered_line_refused :
    ¬ ∀ (value : Text) (s : Sections), outputLines value = s.lines → s.Loose → ThinkFree value →
      (validateBrokerOutput value).isSome := by
  intro accepts
  have accepted := accepts numberedSummary numberedSections (by decide) numberedSections_loose
    (by decide)
  have refused : validateBrokerOutput numberedSummary = none := by decide
  rw [refused] at accepted
  cases accepted

end samples

end YTPipe.Broker
