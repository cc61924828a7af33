import YTPipe.Summarization.Service

/-!
# What the splitter keeps

The chunks of a transcript stand in it in order, with nothing but white space
between them.
-/

namespace YTPipe.Summarization

open Text

/-- The loop of `split_transcript` ends on `remaining` with the chunks. -/
inductive Splits (limit : Nat) : Text → List Text → Prop
  | done : Splits limit [] []
  | last {remaining : Text} (some_ : remaining ≠ []) (short : remaining.length ≤ limit) :
      Splits limit remaining [remaining]
  | next {remaining : Text} {chunks : List Text} (long : limit < remaining.length)
      (rest : Splits limit (lstrip isSpace (remaining.drop (chunkLength limit remaining))) chunks) :
      Splits limit remaining (remaining.take (chunkLength limit remaining) :: chunks)

/-- The chunks are the text, one after another, with white space left out between them. -/
inductive Spread : Text → List Text → Prop
  | none : Spread [] []
  | last (chunk : Text) : Spread chunk [chunk]
  | next (chunk : Text) {gap rest : Text} {chunks : List Text}
      (blank : ∀ c ∈ gap, isSpace c = true) (more : chunks ≠ []) (spread : Spread rest chunks) :
      Spread (chunk ++ (gap ++ rest)) (chunk :: chunks)

/-- The characters of a text that are no white space. -/
def visible (t : Text) : Text := t.filter (!isSpace ·)

/-- The chunks are what the loop gives, and nothing is lost in them. -/
structure Lossless (limit : Nat) (transcript : Text) (chunks : List Text) : Prop where
  ends : Splits limit (strip transcript) chunks
  bounded : ∀ chunk ∈ chunks, chunk ≠ [] ∧ chunk.length ≤ limit
  spread : Spread (strip transcript) chunks
  kept : chunks.flatMap visible = visible transcript

section

variable {limit : Nat} {remaining : Text} {chunks : List Text}

theorem chunkLength_bounds (positive : 0 < limit) (remaining : Text) :
    0 < chunkLength limit remaining ∧ chunkLength limit remaining ≤ limit := by
  unfold chunkLength
  simp only
  split
  · exact ⟨positive, Nat.le_refl _⟩
  · next found =>
    have bounds := rfind_bounds remaining [' '] 0 limit (by omega)
    rw [List.length_singleton] at bounds
    omega

theorem lstrip_length (t : Text) : (lstrip isSpace t).length ≤ t.length :=
  (List.dropWhile_sublist _).length_le

/-- The loop ends. -/
theorem splits_splitRemaining (positive : 0 < limit) {fuel : Nat}
    (enough : remaining.length ≤ fuel) :
    Splits limit remaining (splitRemaining limit fuel remaining) := by
  induction fuel generalizing remaining with
  | zero =>
    rw [List.length_eq_zero_iff.mp (Nat.le_zero.mp enough)]
    exact .done
  | succ fuel ih =>
    unfold splitRemaining
    split
    · next long =>
      refine .next long (ih ?_)
      have bounds := chunkLength_bounds positive remaining
      have shorter := lstrip_length (remaining.drop (chunkLength limit remaining))
      rw [List.length_drop] at shorter
      omega
    · next short =>
      split
      · next empty =>
        rw [List.isEmpty_iff.mp empty]
        exact .done
      · next some_ => exact .last (fun empty => some_ (List.isEmpty_iff.mpr empty)) (by omega)

theorem Splits.bounded (positive : 0 < limit) (h : Splits limit remaining chunks) :
    ∀ chunk ∈ chunks, chunk ≠ [] ∧ chunk.length ≤ limit := by
  induction h with
  | done => exact fun _ hc => absurd hc List.not_mem_nil
  | last some_ short =>
    intro chunk hc
    rw [List.mem_singleton.mp hc]
    exact ⟨some_, short⟩
  | @next remaining chunks long rest ih =>
    intro chunk hc
    rcases List.mem_cons.mp hc with rfl | hc
    · obtain ⟨lower, upper⟩ := chunkLength_bounds positive remaining
      have length : (remaining.take (chunkLength limit remaining)).length
          = chunkLength limit remaining := by
        rw [List.length_take]
        omega
      exact ⟨List.ne_nil_of_length_pos (by omega), by omega⟩
    · exact ih chunk hc

/-- The text ends in no white space. -/
def Firm (t : Text) : Prop := ∀ c, t.getLast? = some c → isSpace c = false

theorem Firm.of_append {front back : Text} (firm : Firm (front ++ back)) (some_ : back ≠ []) :
    Firm back := by
  intro c hc
  exact firm c (by rw [List.getLast?_append_of_ne_nil _ some_]; exact hc)

/-- What follows a chunk is something, and ends as firmly as the text. -/
theorem rest_firm (positive : 0 < limit) (long : limit < remaining.length) (firm : Firm remaining) :
    lstrip isSpace (remaining.drop (chunkLength limit remaining)) ≠ []
      ∧ Firm (lstrip isSpace (remaining.drop (chunkLength limit remaining))) := by
  obtain ⟨_, upper⟩ := chunkLength_bounds positive remaining
  obtain ⟨gap, cut, blank⟩ := lstrip_append isSpace (remaining.drop (chunkLength limit remaining))
  have left : remaining.drop (chunkLength limit remaining) ≠ [] := by
    rw [ne_eq, List.drop_eq_nil_iff]
    omega
  rw [← List.take_append_drop (chunkLength limit remaining) remaining] at firm
  have firm := firm.of_append left
  have some_ : lstrip isSpace (remaining.drop (chunkLength limit remaining)) ≠ [] := by
    intro none
    rw [none, List.append_nil] at cut
    have all : ∀ c ∈ remaining.drop (chunkLength limit remaining), isSpace c = true :=
      fun c hc => blank c (cut ▸ hc)
    have last := firm _ (List.getLast?_eq_some_getLast left)
    have space := all _ (List.getLast_mem left)
    exact absurd (space.symm.trans last) (by decide)
  rw [cut] at firm
  exact ⟨some_, firm.of_append some_⟩

theorem Splits.some (h : Splits limit remaining chunks) (some_ : remaining ≠ []) : chunks ≠ [] := by
  cases h with
  | done => exact absurd rfl some_
  | last => exact List.cons_ne_nil _ _
  | next => exact List.cons_ne_nil _ _

theorem Splits.spread (positive : 0 < limit) (h : Splits limit remaining chunks)
    (firm : Firm remaining) : Spread remaining chunks := by
  induction h with
  | done => exact .none
  | last => exact .last _
  | @next remaining chunks long rest ih =>
    obtain ⟨some_, later⟩ := rest_firm positive long firm
    obtain ⟨gap, cut, blank⟩ := lstrip_append isSpace (remaining.drop (chunkLength limit remaining))
    have next := Spread.next (remaining.take (chunkLength limit remaining)) blank (rest.some some_)
      (ih later)
    rwa [← cut, List.take_append_drop] at next

theorem visible_append (t u : Text) : visible (t ++ u) = visible t ++ visible u :=
  List.filter_append t u

theorem visible_blank {t : Text} (blank : ∀ c ∈ t, isSpace c = true) : visible t = [] := by
  simp only [visible, List.filter_eq_nil_iff, Bool.not_eq_true', Bool.not_eq_false]
  exact blank

/-- Only white space is left out. -/
theorem Spread.kept {t : Text} (h : Spread t chunks) : chunks.flatMap visible = visible t := by
  induction h with
  | none => rfl
  | last chunk => exact List.append_nil _
  | next chunk blank more spread ih =>
    rw [List.flatMap_cons, ih, visible_append, visible_append, visible_blank blank,
      List.nil_append]

theorem visible_strip (t : Text) : visible (strip t) = visible t := by
  obtain ⟨before, after, between, left, right⟩ := strip_between t
  have whole := congrArg visible between
  rw [visible_append, visible_append, visible_blank left, visible_blank right, List.nil_append,
    List.append_nil] at whole
  exact whole.symm

theorem strip_firm (t : Text) : Firm (strip t) := fun c hc => trim_strip t c (.inr hc)

theorem splitText_lossless (positive : 0 < limit) (transcript : Text) :
    Lossless limit transcript (splitText limit transcript) := by
  have ends : Splits limit (strip transcript) (splitText limit transcript) :=
    splits_splitRemaining positive (Nat.le_refl _)
  have spread := ends.spread positive (strip_firm transcript)
  exact ⟨ends, ends.bounded positive, spread, spread.kept.trans (visible_strip transcript)⟩

end

/-- Neither splitter loses anything of any transcript. -/
theorem splitTranscript_lossless (transcript : Text) :
    Lossless transcriptChunkCharacterLimit transcript (SummarizationService.splitTranscript transcript)
      ∧ Lossless transcriptChunkCharacterLimit transcript (Planner.splitTranscript transcript) :=
  ⟨splitText_lossless (by decide) transcript, splitText_lossless (by decide) transcript⟩

end YTPipe.Summarization
