import YTPipe.Ledger

/-!
# One broker task for each operation

With plans written as assigned, no operation is posted again before its task
is read to have failed, and each stored output is the output of a task of its
own step.
-/

namespace YTPipe.Ledger

open Broker

variable (t : Terms)

/-- The operation of `p` is done with: the plan has passed it. -/
def Behind (plan : Option ChunkPlan) (p : Post) : Prop :=
  ∃ pl, plan = some pl ∧ (p.operation.kind = "traffic"
    ∨ p.operation.kind = partialKind ∧ p.operation.ordinal < pl.nextStep)

/-- Since `p` its task was read to have failed, and the epoch was advanced. -/
def Spent (epoch : Int) (p : Post) (later : List Event) : Prop :=
  postEpoch p < epoch ∧ ∃ g, Event.get g ∈ later ∧ postCreated t.platform p = some g.taskId
    ∧ getFailedTransient g

/-- `p` is the request the card is about. -/
def Outstanding (c : Card) (p : Post) (later : List Event) : Prop :=
  c.phase.inFlight ∧ (∀ q, Event.post q ∉ later) ∧ nextSlot c.plan = some (postSlot p)
    ∧ (∀ task, c.task = some task → postCreated t.platform p = some task) ∧ postEpoch p = c.epoch

def Accounted (c : Card) (p : Post) (later : List Event) : Prop :=
  Behind c.plan p ∨ Spent t c.epoch p later ∨ Outstanding t c p later

/-- Between two POSTs for one operation the task of the first is read to have
failed, and the epoch is advanced. -/
def Distinct : List Event → Prop
  | [] => True
  | .post q :: l => (∀ later p earlier, l = later ++ .post p :: earlier → postSlot p = postSlot q →
      Spent t (postEpoch q) p later) ∧ Distinct l
  | _ :: l => Distinct l

/-- The steps of a plan that is kept. -/
structure Shape (plan : ChunkPlan) : Prop where
  next : 0 ≤ plan.nextStep ∧ plan.nextStep < plan.steps.length
  pieces : ∀ i s, plan.steps[i]? = some s → i + 1 < plan.steps.length →
    operationKind s = partialKind ∧ s.ordinal = i
  final : ∀ i s, plan.steps[i]? = some s → i + 1 = plan.steps.length →
    operationKind s = finalKind ∧ s.ordinal = 0

/-- Each output of the plan was read from a task that was posted for its step. -/
def Attributed (plan : ChunkPlan) (log : List Event) : Prop :=
  ∀ (k : Nat) s output, plan.steps[k]? = some s → s.output = some output →
    ∃ later p earlier g, log = later ++ .post p :: earlier ∧ postSlot p = (partialKind, (k : Int))
      ∧ Event.get g ∈ later ∧ postCreated t.platform p = some g.taskId
      ∧ g.operationKind = some partialKind ∧ getOutput g = some output

structure Exact (s : State) : Prop where
  accounted : s.card.phase ≠ .closed → ∀ later p earlier, s.log = later ++ .post p :: earlier →
    Accounted t s.card p later
  unplanned : s.card.phase ≠ .closed → s.card.plan = none →
    ∀ p, Event.post p ∈ s.log → p.operation.kind = "traffic"
  shape : ∀ plan, s.card.plan = some plan → Shape plan
  attributed : ∀ plan, s.card.plan = some plan → Attributed t plan s.log
  distinct : Distinct t s.log

theorem built_shape {plan : ChunkPlan} (h : Built plan) : Shape plan :=
  ⟨by have := h.start; have := h.many; omega, h.pieces, h.final⟩

theorem completeStep_shape {plan : ChunkPlan} (h : Shape plan) (output : Text)
    (more : plan.nextStep + 1 < plan.steps.length) :
    Shape (plan.completeStep plan.nextStep output) := by
  have same (i : Nat) (s : PlanStep)
      (hs : (plan.completeStep plan.nextStep output).steps[i]? = some s) :
      ∃ s₀, plan.steps[i]? = some s₀ ∧ operationKind s = operationKind s₀ ∧ s.ordinal = s₀.ordinal := by
    simp only [ChunkPlan.completeStep, List.getElem?_modify, Option.map_eq_map,
      Option.map_eq_some_iff] at hs
    obtain ⟨s₀, h₀, rfl⟩ := hs
    refine ⟨s₀, h₀, ?_⟩
    split <;> exact ⟨rfl, rfl⟩
  have len := completeStep_length plan plan.nextStep output
  have next := h.next
  refine ⟨?_, fun i s hs hi => ?_, fun i s hs hi => ?_⟩
  · rw [len]
    simp only [ChunkPlan.completeStep]
    omega
  · obtain ⟨s₀, h₀, hk, ho⟩ := same i s hs
    rw [hk, ho]
    exact h.pieces i s₀ h₀ (len ▸ hi)
  · obtain ⟨s₀, h₀, hk, ho⟩ := same i s hs
    rw [hk, ho]
    exact h.final i s₀ h₀ (len ▸ hi)

/-- The next operation of a plan that is kept is of its next step. -/
theorem shape_nextSlot {plan : ChunkPlan} (h : Shape plan) {slot : Slot}
    (hs : nextSlot (some plan) = some slot) :
    slot = (partialKind, plan.nextStep) ∨ slot = (finalKind, 0) := by
  obtain ⟨s, hstep, rfl⟩ := Option.map_eq_some_iff.mp hs
  have next := h.next
  by_cases last : plan.nextStep.toNat + 1 = plan.steps.length
  · right
    obtain ⟨hk, ho⟩ := h.final _ s hstep last
    rw [hk, ho]
  · left
    obtain ⟨hk, ho⟩ := h.pieces _ s hstep (by omega)
    rw [hk, ho, show ((plan.nextStep.toNat : Nat) : Int) = plan.nextStep by omega]

theorem not_behind_next {plan : Option ChunkPlan} {p : Post}
    (shape : ∀ pl, plan = some pl → Shape pl) (hs : nextSlot plan = some (postSlot p)) :
    ¬ Behind plan p := by
  rintro ⟨pl, rfl, h⟩
  rcases shape_nextSlot (shape pl rfl) hs with he | he
  · have hk := congrArg Prod.fst he
    have ho := congrArg Prod.snd he
    simp only [postSlot] at hk ho
    rcases h with h | ⟨_, h⟩
    · exact absurd (hk.symm.trans h) (by decide)
    · omega
  · have hk := congrArg Prod.fst he
    simp only [postSlot] at hk
    rcases h with h | ⟨h, _⟩
    · exact absurd (hk.symm.trans h) (by decide)
    · exact absurd (hk.symm.trans h) (by decide)

theorem split_cons {e : Event} {l later earlier : List Event} {p : Post}
    (h : e :: l = later ++ .post p :: earlier) :
    later = [] ∧ e = .post p ∧ l = earlier ∨
      ∃ later', later = e :: later' ∧ l = later' ++ .post p :: earlier := by
  cases later with
  | nil =>
    simp only [List.nil_append, List.cons.injEq] at h
    exact .inl ⟨rfl, h.1, h.2⟩
  | cons x later =>
    simp only [List.cons_append, List.cons.injEq] at h
    exact .inr ⟨later, by rw [h.1], h.2⟩

theorem Spent.cons {epoch : Int} {p : Post} {later : List Event} (h : Spent t epoch p later)
    (e : Event) : Spent t epoch p (e :: later) := by
  obtain ⟨he, g, hg, hc, hf⟩ := h
  exact ⟨he, g, List.mem_cons_of_mem _ hg, hc, hf⟩

theorem Attributed.cons {plan : ChunkPlan} {log : List Event} (h : Attributed t plan log)
    (e : Event) : Attributed t plan (e :: log) := by
  intro k s output hs ho
  obtain ⟨later, p, earlier, g, rfl, hp, hg, hc, hk, hout⟩ := h k s output hs ho
  exact ⟨e :: later, p, earlier, g, rfl, hp, List.mem_cons_of_mem _ hg, hc, hk, hout⟩

/-- An event that is no POST changes nothing but the log. -/
theorem Exact.cons {s : State} (h : Exact t s) {e : Event} (he : ∀ q, e ≠ .post q) :
    Exact t ⟨s.card, e :: s.log⟩ := by
  refine ⟨fun hc later p earlier hl => ?_, fun hc hp p hm => ?_, h.shape,
    fun plan hp => (h.attributed plan hp).cons t e, ?_⟩
  · rcases split_cons hl with ⟨_, hpost, _⟩ | ⟨later', rfl, hl'⟩
    · exact absurd hpost (he p)
    · rcases h.accounted hc later' p earlier hl' with hb | hs | ⟨hf, hn, hslot, htask, hep⟩
      · exact .inl hb
      · exact .inr (.inl (hs.cons t e))
      · refine .inr (.inr ⟨hf, fun q hq => ?_, hslot, htask, hep⟩)
        rcases List.mem_cons.mp hq with hq | hq
        · exact he q hq.symm
        · exact hn q hq
  · rcases List.mem_cons.mp hm with hm | hm
    · exact absurd hm.symm (he p)
    · exact h.unplanned hc hp p hm
  · cases e with
    | post q => exact absurd rfl (he q)
    | get _ => exact h.distinct
    | summarize _ _ => exact h.distinct
    | slept _ => exact h.distinct
    | raised _ => exact h.distinct

/-- A change of the card that keeps the plan and the epoch, and what is outstanding. -/
theorem Exact.card {s : State} (h : Exact t s) (c : Card)
    (live : c.phase ≠ .closed → s.card.phase ≠ .closed)
    (plan : c.plan = s.card.plan) (epoch : c.epoch = s.card.epoch)
    (out : ∀ later p earlier, s.log = later ++ .post p :: earlier →
      Outstanding t s.card p later → Outstanding t c p later) : Exact t ⟨c, s.log⟩ := by
  refine ⟨fun hc later p earlier hl => ?_, fun hc hp => h.unplanned (live hc) (plan ▸ hp),
    fun pl hp => h.shape pl (plan ▸ hp), fun pl hp => h.attributed pl (plan ▸ hp), h.distinct⟩
  rcases h.accounted (live hc) later p earlier hl with hb | hs | ho
  · exact .inl (plan ▸ hb)
  · exact .inr (.inl (epoch ▸ hs))
  · exact .inr (.inr (out later p earlier hl ho))

theorem not_outstanding_opened {c : Card} {p : Post} {later : List Event}
    (phase : c.phase = .opened) : ¬ Outstanding t c p later := by
  rintro ⟨hf, _⟩
  simp [phase, Phase.inFlight] at hf

/-- The request that is outstanding is the last one. -/
theorem exact_created {c : Card} {l : List Event} {p : Post} {task : String} {next : Phase}
    (inv : Exact t ⟨c, .post p :: l⟩) (live : c.phase ≠ .closed) (hn : next.inFlight)
    (created : postCreated t.platform p = some task) :
    Exact t ⟨{ c with phase := next, task := some task }, .post p :: l⟩ := by
  refine inv.card t _ (fun _ => live) rfl rfl ?_
  rintro later q earlier hl ⟨_, hlast, hslot, _, hep⟩
  refine ⟨hn, hlast, hslot, fun k hk => ?_, hep⟩
  cases hk
  rcases split_cons hl with ⟨_, hq, _⟩ | ⟨later', rfl, _⟩
  · cases hq
    exact created
  · exact absurd (List.mem_cons_self ..) (hlast p)

theorem exact_submit {c : Card} {l : List Event} {p : Post} (inv : Exact t ⟨c, l⟩)
    (phase : c.phase = .opened) (task : c.task = none) (slot : nextSlot c.plan = some (postSlot p))
    (epoch : postEpoch p = c.epoch) :
    Exact t ⟨{ c with phase := .prepared, key := some (truncate 128 p.key) }, .post p :: l⟩ := by
  have live : c.phase ≠ .closed := by simp [phase]
  -- nothing is outstanding while the card is open
  have settled : ∀ later q earlier, l = later ++ .post q :: earlier →
      Behind c.plan q ∨ Spent t c.epoch q later := by
    intro later q earlier hl
    rcases inv.accounted live later q earlier hl with hb | hs | ho
    · exact .inl hb
    · exact .inr hs
    · exact absurd ho (not_outstanding_opened t phase)
  refine ⟨fun _ later q earlier hl => ?_, fun _ hp q hq => ?_, inv.shape,
    fun pl hp => (inv.attributed pl hp).cons t _, fun later q earlier hl hslot => ?_, inv.distinct⟩
  · rcases split_cons hl with ⟨rfl, hq, _⟩ | ⟨later', rfl, hl'⟩
    · cases hq
      refine .inr (.inr ⟨.inl rfl, by simp, slot, fun k hk => ?_, epoch⟩)
      simp only [task] at hk
      cases hk
    · rcases settled later' q earlier hl' with hb | hs
      · exact .inl hb
      · exact .inr (.inl (hs.cons t _))
  · rcases List.mem_cons.mp hq with hq | hq
    · cases hq
      simp only at hp
      rw [hp] at slot
      exact (congrArg Prod.fst (Option.some.inj slot)).symm
    · exact inv.unplanned live hp q hq
  · rcases settled later q earlier hl with hb | hs
    · exact absurd hb (not_behind_next inv.shape (hslot ▸ slot))
    · exact epoch ▸ hs

theorem exact_retry {c : Card} {l : List Event} {g : Get} (inv : Exact t ⟨c, .get g :: l⟩)
    (live : c.phase ≠ .closed) (task : c.task = some g.taskId) (failed : getFailedTransient g) :
    Exact t ⟨{ c with phase := .opened, key := none, task := none, epoch := c.epoch + 1 },
      .get g :: l⟩ := by
  refine ⟨fun _ later p earlier hl => ?_, fun _ hp => inv.unplanned live hp, inv.shape,
    inv.attributed, inv.distinct⟩
  rcases inv.accounted live later p earlier hl with hb | ⟨he, hg⟩ | ⟨_, _, _, htask, hep⟩
  · exact .inl hb
  · exact .inr (.inl ⟨Int.lt_trans he (Int.lt_succ _), hg⟩)
  · refine .inr (.inl ⟨Int.lt_of_le_of_lt (Int.le_of_eq hep) (Int.lt_succ _), g, ?_,
      htask _ task, failed⟩)
    rcases split_cons hl with ⟨_, hq, _⟩ | ⟨later', rfl, _⟩
    · cases hq
    · exact List.mem_cons_self ..

theorem exact_build {c : Card} {l : List Event} {plan : ChunkPlan} (inv : Exact t ⟨c, l⟩)
    (phase : c.phase = .opened) (unplanned : c.plan = none) (built : Built plan) :
    Exact t ⟨{ c with plan := some plan }, l⟩ := by
  have live : c.phase ≠ .closed := by simp [phase]
  refine ⟨fun _ later p earlier hl => ?_, fun _ hp => (nomatch hp), fun pl hp => ?_, fun pl hp => ?_,
    inv.distinct⟩
  · refine .inl ⟨plan, rfl, .inl (inv.unplanned live unplanned p ?_)⟩
    rw [show l = later ++ .post p :: earlier from hl]
    simp
  · cases hp
    exact built_shape built
  · cases hp
    intro k s output hs ho
    have := (built.fresh s (List.mem_of_getElem? hs)).2
    simp [this] at ho

theorem exact_stepDone {c : Card} {l : List Event} {g : Get} {plan : Option ChunkPlan}
    (strict : ¬ t.lax) (basic : Basic t ⟨c, .get g :: l⟩) (inv : Exact t ⟨c, .get g :: l⟩)
    (live : c.phase ≠ .closed) (task : c.task = some g.taskId) (adv : Advances c.plan plan g) :
    Exact t ⟨{ c with
      phase := .opened, key := none, task := none, attempts := max 0 (c.attempts - 1), plan := plan },
      .get g :: l⟩ := by
  obtain ⟨pl, output, hpl, hnext, more, hkind, hout, hne, rfl⟩ := adv
  have shape := inv.shape pl hpl
  refine ⟨fun _ later p earlier hl => ?_, fun _ hp => (nomatch hp), fun pl' hp => ?_,
    fun pl' hp => ?_, inv.distinct⟩
  · rcases inv.accounted live later p earlier hl with ⟨pl', hpl', hb⟩ | hs | ⟨_, _, hslot, _, _⟩
    · obtain rfl : pl = pl' := Option.some.inj (hpl.symm.trans hpl')
      refine .inl ⟨_, rfl, hb.imp_right fun ⟨hk, ho⟩ => ⟨hk, ?_⟩⟩
      exact Int.lt_trans ho (Int.lt_succ _)
    · exact .inr (.inl hs)
    · -- the outstanding request was for the step that is done
      have hp : (partialKind, pl.nextStep) = postSlot p :=
        Option.some.inj ((hpl ▸ hnext).symm.trans (hpl ▸ hslot))
      refine .inl ⟨_, rfl, .inr ⟨(congrArg Prod.fst hp).symm, ?_⟩⟩
      rw [show p.operation.ordinal = pl.nextStep from (congrArg Prod.snd hp).symm]
      exact Int.lt_succ _
  · cases hp
    exact completeStep_shape shape output more
  · cases hp
    intro k s out hs ho
    simp only [ChunkPlan.completeStep, List.getElem?_modify, Option.map_eq_map,
      Option.map_eq_some_iff] at hs
    obtain ⟨s₀, h₀, rfl⟩ := hs
    split at ho
    · next hk =>
      obtain ⟨p, ⟨later, earlier, hl, _⟩, hcr, _, hslot⟩ := basic.current live _ task
      have hslot : nextSlot c.plan = some (postSlot p) := hslot.resolve_left strict
      cases ho
      refine ⟨later, p, earlier, g, hl, ?_, ?_, hcr, hkind, hout⟩
      · have := shape.next
        rw [hnext] at hslot
        rw [← Option.some.inj hslot, ← hk, show ((pl.nextStep.toNat : Nat) : Int) = pl.nextStep by omega]
      · rcases split_cons hl with ⟨_, hq, _⟩ | ⟨later', rfl, _⟩
        · cases hq
        · exact List.mem_cons_self ..
    · exact inv.attributed pl hpl k s₀ out h₀ ho

/-- One step keeps one broker task for each operation. -/
theorem step_exact {s s' : State} (strict : ¬ t.lax) (h : Step t s s') (basic : Basic t s)
    (inv : Exact t s) : Exact t s' := by
  cases h with
  | note quiet => exact inv.cons t (quiet_not_post t quiet)
  | count n more => exact inv.card t _ id rfl rfl fun _ _ _ _ ho => ho
  | build plan phase unplanned built => exact exact_build t inv phase unplanned built
  | prepare key phase paid =>
    exact inv.card t _ (fun _ => by simp [phase]) rfl rfl fun _ _ _ _ ho =>
      absurd ho (not_outstanding_opened t phase)
  | submit p phase paid slot row key =>
    exact exact_submit t inv phase (basic.clear phase).2 (slot.resolve_left strict).1
      (congrArg Card.epoch row)
  | accept p task phase key created slot =>
    exact exact_created t inv (by simp [phase]) (.inr (.inl rfl)) created
  | read g phase task row => exact inv.cons t fun q => nofun
  | hold phase =>
    refine inv.card t _ (fun _ => ?_) rfl rfl fun _ _ _ _ ⟨_, ho⟩ => ⟨.inr (.inr (.inl rfl)), ho⟩
    rcases phase with h | h <;> simp [h]
  | holdCreated p task phase key created slot =>
    exact exact_created t inv (by simp [phase]) (.inr (.inr (.inl rfl))) created
  | retry g phase task failed => exact exact_retry t inv (by simp [phase]) task failed
  | stepDone g plan phase task advances =>
    refine exact_stepDone t strict basic inv ?_ task (advances.resolve_left strict)
    rcases phase with h | h <;> simp [h]
  | close c' phase plan =>
    refine ⟨(absurd phase ·), (absurd phase ·), fun pl hp => ?_, fun pl hp => ?_, inv.distinct⟩
    · rcases plan with h | h
      · exact absurd (h.symm.trans hp) (by simp)
      · exact inv.shape pl (h.symm.trans hp)
    · rcases plan with h | h
      · exact absurd (h.symm.trans hp) (by simp)
      · exact inv.attributed pl (h.symm.trans hp)
  | allow phase task =>
    exact inv.card t _ (fun _ => by simp [phase]) rfl rfl fun _ _ _ _ ⟨_, ho⟩ =>
      ⟨.inr (.inr (.inr rfl)), ho⟩
  | drift plan lax => exact absurd lax strict

theorem path_exact {s s' : State} (strict : ¬ t.lax) (h : Path t s s') (basic : Basic t s)
    (inv : Exact t s) : Exact t s' := by
  induction h with
  | refl => exact inv
  | tail path step ih => exact step_exact t strict step (path_basic t path basic) ih

theorem from_exact {m : State → Prop} {s : State} (strict : ¬ t.lax) (h : From t m s)
    (basic : ∀ s, m s → Basic t s) (inv : ∀ s, m s → Exact t s) : Exact t s := by
  obtain ⟨s₀, start, path⟩ := h
  exact path_exact t strict path (basic s₀ start) (inv s₀ start)

/-- A ledger begins exact, without a plan or with one just made. -/
theorem unstarted_exact {c : Card} (plan : ∀ pl, c.plan = some pl → Built pl) :
    Exact t ⟨c, []⟩ where
  accounted _ later p earlier hl := by simp at hl
  unplanned _ _ p hp := by simp at hp
  shape pl hp := built_shape (plan pl hp)
  attributed pl hp k s output hs ho := by
    have := ((plan pl hp).fresh s (List.mem_of_getElem? hs)).2
    simp [this] at ho
  distinct := trivial

/-- Two POSTs for one operation have a failed read of the first one's task
between them, and an advanced epoch. -/
theorem distinct_posts {log later between earlier : List Event} {p q : Post}
    (h : Distinct t log) (hl : log = later ++ .post q :: between ++ .post p :: earlier)
    (same : postSlot p = postSlot q) : Spent t (postEpoch q) p between := by
  induction later generalizing log with
  | nil =>
    subst hl
    exact h.1 between p earlier rfl same
  | cons e later ih =>
    subst hl
    have tail : Distinct t (later ++ .post q :: between ++ .post p :: earlier) := by
      cases e with
      | post _ => exact h.2
      | get _ => exact h
      | summarize _ _ => exact h
      | slept _ => exact h
      | raised _ => exact h
    exact ih tail rfl

end YTPipe.Ledger
