import YTPipe.ExecutionLock.Locks

/-!
# A worker and its lock

What others leave to a worker, what holds at all times, and what the worker does with
its connection on every path through `acquire_execution_lock`.
-/

namespace YTPipe.ExecutionLock

/-- How often a connection has the lock. -/
def Locks.count (c : Connection) (s : Locks) : Nat :=
  match s.holder with
  | some (d, n) => if d = c then n else 0
  | none => 0

/-- What others leave to a worker: its connections, and how often each has the lock. -/
structure Kept (i : Worker) (s s' : Locks) : Prop where
  mine : ∀ c, (i, c) ∈ s'.checkedOut ↔ (i, c) ∈ s.checkedOut
  dead : s.dead ⊆ s'.dead
  leftBehind : s.leftBehind ⊆ s'.leftBehind
  count : ∀ c, (i, c) ∈ s.checkedOut → c ∈ s'.dead ∨ s'.count c = s.count c
  local_ : s'.localHolder i.process = some i ↔ s.localHolder i.process = some i

/-- What a worker relies on while others go on. -/
structure Onward (i : Worker) (s s' : Locks) : Prop extends Kept i s s' where
  inside : i ∈ s'.inside ↔ i ∈ s.inside

/-- The worker has the lock, unless its connection was lost. -/
def Has (dialectName : String) (i : Worker) (s : Locks) : Prop :=
  if dialectName = "postgresql" then
    ∃ c, (i, c) ∈ s.checkedOut ∧ (c ∈ s.dead ∨ 0 < s.count c)
  else s.localHolder i.process = some i

structure Inv (dialectName : String) (s : Locks) : Prop where
  exclusive : ∀ i j c, (i, c) ∈ s.checkedOut → (j, c) ∈ s.checkedOut → i = j
  counted : ∀ c n, s.holder = some (c, n) → 0 < n
  dropped : ∀ c ∈ s.dead, s.count c = 0
  held : ∀ c, 0 < s.count c → c ∈ s.leftBehind ∨ ∃ i, (i, c) ∈ s.checkedOut
  inside : ∀ i ∈ s.inside, Has dialectName i s
  own : ∀ p i, s.localHolder p = some i → i.process = p

/-- A worker that is not under way has nothing. -/
structure Idle (i : Worker) (s : Locks) : Prop where
  connections : ∀ c, (i, c) ∉ s.checkedOut
  local_ : s.localHolder i.process ≠ some i
  outside : i ∉ s.inside

def contract (dialectName : String) : System.Contract Worker Locks (Except Failure Unit) where
  inv := Inv dialectName
  rely := Onward
  post i _ s := Idle i s
  idle := Idle

namespace Kept

variable {i : Worker} {s s' s'' : Locks}

theorem refl (i : Worker) (s : Locks) : Kept i s s :=
  ⟨fun _ => Iff.rfl, fun _ h => h, fun _ h => h, fun _ _ => .inr rfl, Iff.rfl⟩

theorem trans (h : Kept i s s') (h' : Kept i s' s'') : Kept i s s'' where
  mine c := (h'.mine c).trans (h.mine c)
  dead _ there := h'.dead (h.dead there)
  leftBehind _ there := h'.leftBehind (h.leftBehind there)
  count c there := by
    rcases h'.count c ((h.mine c).mpr there) with lost | same
    · exact .inl lost
    · rcases h.count c there with lost | same'
      · exact .inl (h'.dead lost)
      · exact .inr (same.trans same')
  local_ := h'.local_.trans h.local_

theorem has {dialectName : String} (h : Kept i s s') (has : Has dialectName i s) :
    Has dialectName i s' := by
  unfold Has at has ⊢
  split at has
  · next postgres =>
    rw [if_pos postgres]
    obtain ⟨c, there, lock⟩ := has
    refine ⟨c, (h.mine c).mpr there, ?_⟩
    rcases h.count c there with lost | same
    · exact .inl lost
    · rcases lock with lost | held
      · exact .inl (h.dead lost)
      · exact .inr (same ▸ held)
  · next other =>
    rw [if_neg other]
    exact h.local_.mpr has

end Kept

namespace Onward

variable {i : Worker} {s s' s'' : Locks}

theorem refl (i : Worker) (s : Locks) : Onward i s s := ⟨.refl i s, Iff.rfl⟩

theorem trans (h : Onward i s s') (h' : Onward i s' s'') : Onward i s s'' :=
  ⟨h.toKept.trans h'.toKept, h'.inside.trans h.inside⟩

theorem idle (h : Onward i s s') (idle : Idle i s) : Idle i s' where
  connections c there := idle.connections c ((h.mine c).mp there)
  local_ same := idle.local_ (h.local_.mp same)
  outside there := idle.outside (h.inside.mp there)

end Onward

/-! What becomes of the counts. -/

namespace Locks

variable {c d : Connection} {s : Locks}

theorem count_grant_self (free : s.grantable c = true) : (s.grant c).count c = s.count c + 1 := by
  unfold grant count grantable at *
  cases holder : s.holder with
  | none => exact if_pos rfl
  | some h =>
    obtain ⟨e, n⟩ := h
    rw [holder] at free
    obtain rfl := of_decide_eq_true free
    simp

theorem count_grant_other (free : s.grantable c = true) (other : d ≠ c) :
    (s.grant c).count d = s.count d := by
  unfold grant count grantable at *
  cases holder : s.holder with
  | none => exact if_neg (Ne.symm other)
  | some h =>
    obtain ⟨e, n⟩ := h
    rw [holder] at free
    obtain rfl := of_decide_eq_true free
    simp [Ne.symm other]

theorem count_ungrant_self : (s.ungrant c).count c = s.count c - 1 := by
  unfold ungrant count
  cases s.holder with
  | none => rfl
  | some h =>
    obtain ⟨e, n⟩ := h
    by_cases same : e = c
    · subst same
      by_cases last : n ≤ 1
      · simp [last]
      · simp [last]
    · simp [same]

theorem count_ungrant_other (other : d ≠ c) : (s.ungrant c).count d = s.count d := by
  unfold ungrant count
  cases s.holder with
  | none => rfl
  | some h =>
    obtain ⟨e, n⟩ := h
    by_cases same : e = c
    · subst same
      by_cases last : n ≤ 1 <;> simp [last, Ne.symm other]
    · simp [same]

theorem count_drop (c d : Connection) (s : Locks) :
    (s.drop c).count d = if d = c then 0 else s.count d := by
  unfold drop count
  cases s.holder with
  | none => simp
  | some h =>
    obtain ⟨e, n⟩ := h
    by_cases same : e = c
    · subst same
      by_cases this : d = e
      · simp [this]
      · simp [this, Ne.symm this]
    · by_cases this : d = c
      · subst this
        simp [same]
      · simp [same, this]

end Locks

section steps

variable {dialectName : String} {i j : Worker} {c : Connection} {s s' : Locks}

theorem uses_iff : s.uses i c = true ↔ (i, c) ∈ s.checkedOut ∧ c ∉ s.dead := by
  simp [Locks.uses]

/-- The locks change hands on one connection of another. -/
theorem Onward.counts (h : Inv dialectName s) (mine : (i, c) ∈ s.checkedOut) (other : j ≠ i)
    {holder : Option (Connection × Nat)} {leftBehind : List Connection}
    (more : s.leftBehind ⊆ leftBehind)
    (same : ∀ d, d ≠ c → ({ s with holder := holder } : Locks).count d = s.count d) :
    Onward j s { s with holder := holder, leftBehind := leftBehind } := by
  refine ⟨⟨fun _ => Iff.rfl, fun _ there => there, more, fun d there => .inr ?_, Iff.rfl⟩, Iff.rfl⟩
  exact same d fun this => other (h.exclusive j i c (this ▸ there) mine)

/-- The lock of the process changes hands, and was not and is not the other's. -/
theorem Onward.locals {p : Nat} {holder : Option Worker} (before : s.localHolder p ≠ some j)
    (after : holder ≠ some j) : Onward j s (s.setLocal p holder) := by
  refine ⟨⟨fun _ => Iff.rfl, fun _ there => there, fun _ there => there, fun _ _ => .inr rfl, ?_⟩,
    Iff.rfl⟩
  simp only [Locks.setLocal]
  split
  · next same => exact iff_of_false after (same ▸ before)
  · exact Iff.rfl

/-- What a worker is answered leaves the others theirs. -/
theorem answer_onward {command : Command} {r : Answer command} (h : Inv dialectName s)
    (answered : answer i command r s = some s') (other : j ≠ i) : Onward j s s' := by
  have idle : Onward j s s := .refl j s
  cases command with
  | connect =>
    cases r with
    | error text =>
      cases answered
      exact idle
    | ok c =>
      simp only [answer] at answered
      split at answered <;> cases answered
      refine ⟨⟨fun d => ?_, fun _ there => there, fun _ there => there, fun _ _ => .inr rfl, Iff.rfl⟩,
        Iff.rfl⟩
      simp [other]
  | tryAdvisoryLock c =>
    cases r with
    | done granted =>
      cases granted <;> simp only [answer] at answered <;> split at answered <;> cases answered
      · exact idle
      · next guard =>
        exact .counts h (uses_iff.mp guard.1).1 other (fun _ there => there) fun d this =>
          Locks.count_grant_other guard.2 this
    | raised text carriedOut =>
      cases carriedOut
      · cases answered
        exact idle
      · simp only [answer] at answered
        split at answered <;> cases answered
        next guard =>
        exact .counts h (uses_iff.mp guard.1).1 other (List.subset_cons_self ..) fun d this =>
          Locks.count_grant_other guard.2 this
  | advisoryUnlock c =>
    cases r with
    | done =>
      simp only [answer] at answered
      split at answered <;> cases answered
      next guard =>
      exact .counts h (uses_iff.mp guard).1 other (fun _ there => there) fun d this =>
        Locks.count_ungrant_other this
    | raised text carriedOut =>
      cases carriedOut <;> simp only [answer] at answered <;> split at answered <;> cases answered
      · next guard =>
        exact .counts h guard other (List.subset_cons_self ..) fun _ _ => rfl
      · next guard =>
        exact .counts h (uses_iff.mp guard).1 other (fun _ there => there) fun d this =>
          Locks.count_ungrant_other this
  | commit c =>
    cases answered
    exact idle
  | close c =>
    cases answered
    refine ⟨⟨fun d => ?_, fun _ there => there, fun _ there => there, fun _ _ => .inr rfl, Iff.rfl⟩,
      Iff.rfl⟩
    simp [other]
  | acquireLocal =>
    cases r
    · simp only [answer] at answered
      split at answered <;> cases answered
      exact idle
    · simp only [answer] at answered
      split at answered <;> cases answered
      next free =>
      exact .locals (by simp [free]) fun same => other (Option.some.inj same).symm
  | releaseLocal =>
    simp only [answer] at answered
    split at answered <;> cases answered
    next mine =>
    refine .locals ?_ fun none => (by cases none)
    rw [mine]
    exact fun same => other (Option.some.inj same).symm
  | enter =>
    cases answered
    refine ⟨⟨fun _ => Iff.rfl, fun _ there => there, fun _ there => there, fun _ _ => .inr rfl, Iff.rfl⟩,
      ?_⟩
    simp [other]
  | leave =>
    cases answered
    refine ⟨⟨fun _ => Iff.rfl, fun _ there => there, fun _ there => there, fun _ _ => .inr rfl, Iff.rfl⟩,
      ?_⟩
    simp [other]

/-- What one worker does keeps what holds at all times, if it leaves its own so. -/
theorem Inv.step (h : Inv dialectName s) (onward : ∀ j, j ≠ i → Onward j s s')
    (exclusive : ∀ j c, (j, c) ∈ s'.checkedOut → (i, c) ∈ s'.checkedOut → j = i)
    (counted : ∀ c n, s'.holder = some (c, n) → 0 < n) (dropped : ∀ c ∈ s'.dead, s'.count c = 0)
    (held : ∀ c, 0 < s'.count c → c ∈ s'.leftBehind ∨ ∃ i, (i, c) ∈ s'.checkedOut)
    (inside : i ∈ s'.inside → Has dialectName i s')
    (own : ∀ p j, s'.localHolder p = some j → j.process = p) : Inv dialectName s' where
  exclusive j k c hj hk := by
    by_cases first : j = i
    · subst first
      exact (exclusive k c hk hj).symm
    · by_cases second : k = i
      · subst second
        exact exclusive j c hj hk
      · exact h.exclusive j k c (((onward j first).mine c).mp hj) (((onward k second).mine c).mp hk)
  counted := counted
  dropped := dropped
  held := held
  inside j hj := by
    by_cases same : j = i
    · subst same
      exact inside hj
    · exact (onward j same).has (h.inside j ((onward j same).inside.mp hj))
  own := own

theorem own_setLocal (h : ∀ p j, s.localHolder p = some j → j.process = p) {p : Nat}
    {holder : Option Worker} (new : ∀ j, holder = some j → j.process = p) :
    ∀ q j, (s.setLocal p holder).localHolder q = some j → j.process = q := by
  intro q j same
  simp only [Locks.setLocal] at same
  split at same
  · next this => exact this ▸ new j same
  · exact h q j same

theorem counted_grant (c : Connection) : ∀ d n, (s.grant c).holder = some (d, n) → 0 < n := by
  rintro d n same
  simp only [Locks.grant, Option.some.injEq, Prod.mk.injEq] at same
  obtain ⟨rfl, rfl⟩ := same
  split
  · exact Nat.succ_pos _
  · exact Nat.one_pos

theorem counted_ungrant (h : ∀ c n, s.holder = some (c, n) → 0 < n) (c : Connection) :
    ∀ d n, (s.ungrant c).holder = some (d, n) → 0 < n := by
  intro d n same
  simp only [Locks.ungrant] at same
  split at same
  · next e m holder =>
    split at same
    · split at same
      · cases same
      · next more =>
        cases same
        omega
    · cases same
      exact h _ _ holder
  · cases same

end steps

/-! What a worker does. -/

section worker

open Prog

variable {dialectName : String} {i : Worker} {c : Connection} {s : Locks}

abbrev law (dialectName : String) (i : Worker) : Law Command Answer Locks :=
  (contract dialectName).law (workers dialectName) i

theorem keeps_perform {command : Command} {post : Answer command → Locks → Prop}
    (h : ∀ s', Onward i s s' → Inv dialectName s' → ∀ r s'', answer i command r s' = some s'' →
      Inv dialectName s'' ∧ post r s'') :
    (perform command).Keeps (law dialectName i) post s :=
  keeps_request h

/-- A worker with its one connection, which has the lock `n` times, unless it was lost or
may have left the lock behind. -/
structure Using (i : Worker) (c : Connection) (n : Nat) (s : Locks) : Prop where
  out : (i, c) ∈ s.checkedOut
  only : ∀ d, (i, d) ∈ s.checkedOut → d = c
  local_ : s.localHolder i.process ≠ some i
  counts : c ∈ s.leftBehind ∨ c ∈ s.dead ∨ s.count c = n

theorem Using.kept {n : Nat} {s' : Locks} (h : Using i c n s) (kept : Kept i s s') : Using i c n s' where
  out := (kept.mine c).mpr h.out
  only d there := h.only d ((kept.mine d).mp there)
  local_ same := h.local_ (kept.local_.mp same)
  counts := by
    rcases h.counts with left | dead | same
    · exact .inl (kept.leftBehind left)
    · exact .inr (.inl (kept.dead dead))
    · rcases kept.count c h.out with lost | same'
      · exact .inr (.inl lost)
      · exact .inr (.inr (same'.trans same))

/-- The work goes on under the lock. -/
theorem keeps_work (has : Has dialectName i s) :
    work.run.Keeps (law dialectName i) (fun _ s' => Kept i s s' ∧ i ∉ s'.inside) s := by
  apply keeps_bind
  apply keeps_perform
  intro s₁ onward inv _ _ answered
  have onwards := fun j => answer_onward (j := j) inv answered
  cases answered
  have kept : Kept i s₁ { s₁ with inside := i :: s₁.inside } :=
    ⟨fun _ => Iff.rfl, fun _ there => there, fun _ there => there, fun _ _ => .inr rfl, Iff.rfl⟩
  have entered : Inv dialectName { s₁ with inside := i :: s₁.inside } :=
    inv.step onwards (fun j c hj hi => inv.exclusive j i c hj hi) inv.counted inv.dropped inv.held
      (fun _ => kept.has (onward.toKept.has has)) inv.own
  refine ⟨entered, ?_⟩
  apply keeps_bind
  apply keeps_perform
  intro s₂ onward' inv raised _ answered
  have onwards := fun j => answer_onward (j := j) inv answered
  cases answered
  have kept' : Kept i s₂ { s₂ with inside := s₂.inside.filter fun j => decide (j ≠ i) } :=
    ⟨fun _ => Iff.rfl, fun _ there => there, fun _ there => there, fun _ _ => .inr rfl, Iff.rfl⟩
  have left : i ∉ s₂.inside.filter fun j => decide (j ≠ i) := by simp
  refine ⟨inv.step onwards (fun j c hj hi => inv.exclusive j i c hj hi) inv.counted inv.dropped inv.held
    (fun there => absurd there left) inv.own, ?_⟩
  have all := ((onward.toKept.trans kept).trans onward'.toKept).trans kept'
  cases raised with
  | none => exact keeps_pure ⟨all, left⟩
  | some text => exact keeps_pure ⟨all, left⟩

theorem keeps_result {α : Type} {p : Program (Statement α)} {post : Except Failure α → Locks → Prop}
    (h : p.Keeps (law dialectName i) (fun r s => (∀ a, r = .done a → post (.ok a) s)
      ∧ ∀ text carriedOut, r = .raised text carriedOut → post (.error (.other text)) s) s) :
    (result p).run.Keeps (law dialectName i) post s := by
  apply keeps_bind
  refine keeps_mono (fun r s kept => ?_) h
  cases r with
  | done a => exact keeps_pure (kept.1 a rfl)
  | raised text carriedOut => exact keeps_pure (kept.2 text carriedOut rfl)

theorem keeps_tryFinally {α : Type} {p : Attempt α} {cleanup : Attempt Unit} {post : Locks → Prop}
    (h : p.run.Keeps (law dialectName i)
      (fun _ => cleanup.run.Keeps (law dialectName i) fun _ => post) s) :
    (tryFinally p cleanup).run.Keeps (law dialectName i) (fun _ => post) s := by
  apply keeps_bind
  refine keeps_mono (fun ended s kept => ?_) h
  apply keeps_bind
  refine keeps_mono (fun cleaned s kept => ?_) kept
  cases cleaned with
  | ok _ => exact keeps_pure kept
  | error failure => exact keeps_pure kept

/-- A worker outside, with its connection. -/
def Outside (i : Worker) (c : Connection) (n : Nat) (s : Locks) : Prop := Using i c n s ∧ i ∉ s.inside

theorem Outside.onward {n : Nat} {s' : Locks} (h : Outside i c n s) (onward : Onward i s s') :
    Outside i c n s' :=
  ⟨h.1.kept onward.toKept, fun there => h.2 (onward.inside.mp there)⟩

/-- A change on the worker's own connection. -/
theorem Outside.change {n m : Nat} {holder : Option (Connection × Nat)} {leftBehind : List Connection}
    (h : Outside i c n s) (counts : c ∈ leftBehind ∨ c ∈ s.dead
      ∨ ({ s with holder := holder } : Locks).count c = m) :
    Outside i c m { s with holder := holder, leftBehind := leftBehind } :=
  ⟨⟨h.1.out, h.1.only, h.1.local_, counts⟩, h.2⟩

theorem keeps_connect {post : Except Failure Connection → Locks → Prop} (idle : Idle i s)
    (connected : ∀ c s', Outside i c 0 s' → post (.ok c) s')
    (failed : ∀ text s', Idle i s' → post (.error (.other text)) s') :
    connect.run.Keeps (law dialectName i) post s := by
  apply keeps_bind
  apply keeps_perform
  intro s' onward inv r s'' answered
  have onwards := fun j => answer_onward (j := j) inv answered
  have idle := onward.idle idle
  cases r with
  | error text =>
    cases answered
    exact ⟨inv, keeps_pure (failed text s' idle)⟩
  | ok c =>
    simp only [answer] at answered
    split at answered <;> cases answered
    next guard =>
    have unused (j : Worker) : (j, c) ∉ s'.checkedOut := fun there =>
      absurd (List.all_eq_true.mp guard.1 (j, c) there) (by simp)
    have out : (i, c) ∈ (i, c) :: s'.checkedOut := List.mem_cons_self ..
    refine ⟨inv.step onwards ?_ inv.counted inv.dropped (fun d held => ?_)
      (fun there => absurd there idle.outside) inv.own,
      keeps_pure (connected c _ ⟨⟨out, ?_, idle.local_, ?_⟩,
        idle.outside⟩)⟩
    · intro j d hj hi
      rcases List.mem_cons.mp hi with same | there
      · cases same
        rcases List.mem_cons.mp hj with same | there
        · cases same
          rfl
        · exact absurd there (unused j)
      · exact absurd there (idle.connections d)
    · rcases inv.held d held with left | ⟨j, there⟩
      · exact .inl left
      · exact .inr ⟨j, List.mem_cons_of_mem _ there⟩
    · intro d there
      rcases List.mem_cons.mp there with same | there
      · cases same
        rfl
      · exact absurd there (idle.connections d)
    · by_cases held : 0 < s'.count c
      · rcases inv.held c held with left | ⟨j, there⟩
        · exact .inl left
        · exact absurd there (unused j)
      · exact .inr (.inr (Nat.eq_zero_of_not_pos held))

/-- A grant on the worker's connection. -/
theorem Inv.grant (h : Inv dialectName s) (out : Outside i c 0 s) (alive : c ∉ s.dead)
    {s' : Locks} (onward : ∀ j, j ≠ i → Onward j s s') (free : s.grantable c = true)
    {leftBehind : List Connection} (more : s.leftBehind ⊆ leftBehind)
    (granted : s' = { s.grant c with leftBehind := leftBehind }) : Inv dialectName s' := by
  subst granted
  refine h.step onward (fun j d hj hi => h.exclusive j i d hj hi) (counted_grant c) ?_ ?_
    (fun there => absurd there out.2) h.own
  · intro d dead
    have other : d ≠ c := fun same => alive (same ▸ dead)
    exact (Locks.count_grant_other free other).trans (h.dropped d dead)
  · intro d held
    by_cases same : d = c
    · subst same
      exact .inr ⟨i, out.1.out⟩
    · rcases h.held d (Locks.count_grant_other free same ▸ held) with left | there
      · exact .inl (more left)
      · exact .inr there

theorem keeps_tryAdvisoryLock {post : Except Failure Bool → Locks → Prop}
    (postgres : dialectName = "postgresql") (out : Outside i c 0 s)
    (granted : ∀ s', Outside i c 1 s' → Has dialectName i s' → post (.ok true) s')
    (refused : ∀ s', Outside i c 0 s' → post (.ok false) s')
    (failed : ∀ text s', Outside i c 0 s' → post (.error (.other text)) s') :
    (result (perform (.tryAdvisoryLock c))).run.Keeps (law dialectName i) post s := by
  apply keeps_result
  apply keeps_perform
  intro s' onward inv r s'' answered
  have onwards := fun j => answer_onward (j := j) inv answered
  have out := out.onward onward
  cases r with
  | done acquired =>
    cases acquired <;> simp only [answer] at answered <;> split at answered <;> cases answered
    · exact ⟨inv, by rintro _ ⟨⟩; exact refused s' out, fun _ _ other => (by cases other)⟩
    · next guard =>
      obtain ⟨uses, free⟩ := guard
      have alive := (uses_iff.mp uses).2
      refine ⟨inv.grant out alive onwards free (fun _ there => there) rfl, ?_,
        fun _ _ other => (by cases other)⟩
      rintro _ ⟨⟩
      have first : (s'.grant c).count c = s'.count c + 1 := Locks.count_grant_self free
      have counts : c ∈ s'.leftBehind ∨ c ∈ s'.dead ∨ (s'.grant c).count c = 1 := by
        rcases out.1.counts with left | dead | none
        · exact .inl left
        · exact absurd dead alive
        · exact .inr (.inr (by omega))
      refine granted _ (out.change counts) ?_
      unfold Has
      rw [if_pos postgres]
      exact ⟨c, out.1.out, .inr (by omega)⟩
  | raised text carriedOut =>
    cases carriedOut
    · cases answered
      exact ⟨inv, fun _ other => (by cases other), by rintro _ _ ⟨⟩; exact failed text s' out⟩
    · simp only [answer] at answered
      split at answered <;> cases answered
      next guard =>
      obtain ⟨uses, free⟩ := guard
      refine ⟨inv.grant out (uses_iff.mp uses).2 onwards free (List.subset_cons_self c _) rfl,
        fun _ other => (by cases other), ?_⟩
      rintro _ _ ⟨⟩
      exact failed text _ (out.change (.inl (List.mem_cons_self ..)))

/-- The lock is given back on the worker's connection. -/
theorem Inv.ungrant (h : Inv dialectName s) (outside : i ∉ s.inside)
    (onward : ∀ j, j ≠ i → Onward j s (s.ungrant c)) : Inv dialectName (s.ungrant c) := by
  have fewer (d : Connection) : (s.ungrant c).count d ≤ s.count d := by
    by_cases same : d = c
    · subst same
      rw [Locks.count_ungrant_self]
      omega
    · exact Nat.le_of_eq (Locks.count_ungrant_other same)
  refine h.step onward (fun j d hj hi => h.exclusive j i d hj hi) (counted_ungrant h.counted c) ?_ ?_
    (fun there => absurd there outside) h.own
  · intro d dead
    have before := h.dropped d dead
    have less := fewer d
    show (s.ungrant c).count d = 0
    omega
  · intro d held
    exact h.held d (Nat.lt_of_lt_of_le held (fewer d))

theorem keeps_advisoryUnlock {post : Except Failure Unit → Locks → Prop} (out : Outside i c 1 s)
    (h : ∀ r s', Outside i c 0 s' → post r s') :
    (result (perform (.advisoryUnlock c))).run.Keeps (law dialectName i) post s := by
  apply keeps_result
  apply keeps_perform
  intro s' onward inv r s'' answered
  have onwards := fun j => answer_onward (j := j) inv answered
  have out := out.onward onward
  have back : Outside i c 0 (s'.ungrant c) := by
    apply out.change
    rcases out.1.counts with left | dead | once
    · exact .inl left
    · exact .inr (.inl dead)
    · have less : (s'.ungrant c).count c = s'.count c - 1 := Locks.count_ungrant_self
      exact .inr (.inr (less.trans (by omega)))
  cases r with
  | done =>
    simp only [answer] at answered
    split at answered <;> cases answered
    exact ⟨inv.ungrant out.2 onwards, fun _ _ => h _ _ back, fun _ _ _ => h _ _ back⟩
  | raised text carriedOut =>
    cases carriedOut <;> simp only [answer] at answered <;> split at answered <;> cases answered
    · have left : Outside i c 0 (s'.mayLeave c) := out.change (.inl (List.mem_cons_self ..))
      refine ⟨inv.step onwards (fun j d hj hi => inv.exclusive j i d hj hi) inv.counted inv.dropped ?_
        (fun there => absurd there out.2) inv.own, fun _ _ => h _ _ left, fun _ _ _ => h _ _ left⟩
      intro d held
      rcases inv.held d held with before | there
      · exact .inl (List.mem_cons_of_mem _ before)
      · exact .inr there
    · exact ⟨inv.ungrant out.2 onwards, fun _ _ => h _ _ back, fun _ _ _ => h _ _ back⟩

theorem keeps_commit {post : Except Failure Unit → Locks → Prop} (out : Outside i c 0 s)
    (h : ∀ r s', Outside i c 0 s' → post r s') :
    (result (perform (.commit c))).run.Keeps (law dialectName i) post s := by
  apply keeps_result
  apply keeps_perform
  rintro s' onward inv r _ ⟨⟩
  have out := out.onward onward
  exact ⟨inv, fun _ _ => h _ _ out, fun _ _ _ => h _ _ out⟩

/-- With its connection back in the pool, the worker has nothing. -/
theorem keeps_close {post : Except Failure Unit → Locks → Prop} (out : Outside i c 0 s)
    (h : ∀ r s', Idle i s' → post r s') :
    (ExceptT.lift (perform (.close c)) : Attempt Unit).run.Keeps (law dialectName i) post s := by
  apply keeps_bind
  apply keeps_perform
  intro s' onward inv r _ answered
  have onwards := fun j => answer_onward (j := j) inv answered
  cases answered
  have out := out.onward onward
  have mem (u : Worker × Connection) : u ∈ s'.checkedOut.filter (fun u => decide (u ≠ (i, c)))
      ↔ u ∈ s'.checkedOut ∧ u ≠ (i, c) := by
    simp [List.mem_filter]
  have gone (d : Connection) : (i, d) ∉ s'.checkedOut.filter (fun u => decide (u ≠ (i, c))) := by
    intro there
    obtain ⟨before, other⟩ := (mem _).mp there
    exact other (by rw [out.1.only d before])
  refine ⟨inv.step onwards (fun j d _ hi => absurd hi (gone d)) inv.counted inv.dropped ?_
    (fun there => absurd there out.2) inv.own, keeps_pure (h _ _ ⟨gone, out.1.local_, out.2⟩)⟩
  intro d held
  rcases inv.held d held with left | ⟨j, there⟩
  · exact .inl left
  · by_cases same : (j, d) = (i, c)
    · cases same
      have held : 0 < s'.count c := held
      rcases out.1.counts with left | dead | none
      · exact .inl left
      · have none := inv.dropped c dead
        omega
      · omega
    · exact .inr ⟨j, (mem _).mpr ⟨there, same⟩⟩

/-- Without PostgreSQL: the lock of the process. -/
theorem keeps_local (other : dialectName ≠ "postgresql") (idle : Idle i s) :
    (acquireExecutionLock dialectName).run.Keeps (law dialectName i) (fun _ s => Idle i s) s := by
  unfold acquireExecutionLock
  rw [if_pos other]
  apply keeps_raising
  apply keeps_bind
  apply keeps_perform
  intro s₁ onward inv acquired _ answered
  have onwards := fun j => answer_onward (j := j) inv answered
  have idle := onward.idle idle
  cases acquired <;> simp only [answer] at answered <;> split at answered <;> cases answered
  · refine ⟨inv, keeps_pure ⟨?_, fun _ none => (by cases none)⟩⟩
    rintro _ ⟨⟩
    exact idle
  have mine : (s₁.setLocal i.process (some i)).localHolder i.process = some i := if_pos rfl
  have has : Has dialectName i (s₁.setLocal i.process (some i)) := by
    unfold Has
    rw [if_neg other]
    exact mine
  refine ⟨inv.step onwards (fun j c hj hi => absurd hi (idle.connections c)) inv.counted inv.dropped
    inv.held (fun _ => has) (own_setLocal inv.own (fun _ same => (by cases same; rfl))),
    keeps_pure ⟨?_, fun _ none => (by cases none)⟩⟩
  rintro _ ⟨⟩
  apply keeps_tryFinally
  refine keeps_mono (fun _ s₂ worked => ?_) (keeps_work has)
  obtain ⟨kept, outside⟩ := worked
  have connections (c : Connection) : (i, c) ∉ s₂.checkedOut := fun there =>
    idle.connections c ((kept.mine c).mp there)
  apply keeps_bind
  apply keeps_perform
  intro s₃ onward inv _ _ answered
  have onwards := fun j => answer_onward (j := j) inv answered
  simp only [answer] at answered
  split at answered <;> cases answered
  have connections (c : Connection) : (i, c) ∉ s₃.checkedOut := fun there =>
    connections c ((onward.mine c).mp there)
  have outside : i ∉ s₃.inside := fun there => outside (onward.inside.mp there)
  have released : (s₃.setLocal i.process none).localHolder i.process ≠ some i := by
    simp [Locks.setLocal]
  exact ⟨inv.step onwards (fun j c hj hi => absurd hi (connections c)) inv.counted inv.dropped
    inv.held (fun there => absurd there outside) (own_setLocal inv.own fun _ none => (by cases none)),
    keeps_pure ⟨connections, released, outside⟩⟩

theorem keeps_acquireExecutionLock (idle : Idle i s) :
    (acquireExecutionLock dialectName).run.Keeps (law dialectName i) (fun _ s => Idle i s) s := by
  by_cases postgres : dialectName = "postgresql"
  case neg => exact keeps_local postgres idle
  unfold acquireExecutionLock
  rw [if_neg (Decidable.not_not.mpr postgres)]
  apply keeps_raising
  apply keeps_connect idle
  case failed =>
    intro text s' idle
    exact ⟨fun _ other => (by cases other), fun _ _ => idle⟩
  intro c s₁ out
  refine ⟨?_, fun _ other => (by cases other)⟩
  rintro _ ⟨⟩
  apply keeps_tryFinally
  have close (s : Locks) (out : Outside i c 0 s) :
      (ExceptT.lift (perform (.close c)) : Attempt Unit).run.Keeps (law dialectName i)
        (fun _ s => Idle i s) s := keeps_close out fun _ _ idle => idle
  apply keeps_raising
  apply keeps_tryAdvisoryLock postgres out
  case failed =>
    intro text s' out
    exact ⟨fun _ other => (by cases other), fun _ _ => close s' out⟩
  case refused =>
    intro s' out
    refine ⟨?_, fun _ other => (by cases other)⟩
    rintro _ ⟨⟩
    exact close s' out
  intro s₂ out has
  refine ⟨?_, fun _ other => (by cases other)⟩
  rintro _ ⟨⟩
  apply keeps_tryFinally
  refine keeps_mono (fun _ s₃ worked => ?_) (keeps_work has)
  have out : Outside i c 1 s₃ := ⟨out.1.kept worked.1, worked.2⟩
  apply keeps_raising
  apply keeps_advisoryUnlock out
  intro r s₄ out
  refine ⟨fun _ _ => ?_, fun _ _ => close s₄ out⟩
  exact keeps_commit out fun _ s₅ out => close s₅ out

end worker

end YTPipe.ExecutionLock
