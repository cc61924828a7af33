import YTPipe.ExecutionLock.Worker

/-!
# One worker at a time

Losses of connections and of processes, and what every run keeps: two workers are never
at work together as long as their connections live, and the lock does not outlast them.
-/

namespace YTPipe.ExecutionLock

section losses

variable {dialectName : String} {i j : Worker} {c : Connection} {s : Locks}

/-- A lost connection takes no more from a worker than that connection. -/
theorem Onward.drop (i : Worker) (c : Connection) (s : Locks) : Onward i s (s.drop c) := by
  refine ⟨⟨fun _ => Iff.rfl, List.subset_cons_self c s.dead, fun _ there => there, fun d _ => ?_, Iff.rfl⟩,
    Iff.rfl⟩
  by_cases same : d = c
  · exact .inl (same ▸ List.mem_cons_self ..)
  · exact .inr ((Locks.count_drop c d s).trans (if_neg same))

theorem Inv.drop (h : Inv dialectName s) (c : Connection) : Inv dialectName (s.drop c) where
  exclusive := h.exclusive
  counted := by
    intro d n same
    simp only [Locks.drop] at same
    split at same
    · next holder =>
      split at same
      · cases same
      · cases same
        exact h.counted _ _ holder
    · cases same
  dropped := by
    intro d dead
    rw [Locks.count_drop]
    split
    · rfl
    · next other =>
      rcases List.mem_cons.mp dead with same | dead
      · exact absurd same other
      · exact h.dropped d dead
  held := by
    intro d held
    rw [Locks.count_drop] at held
    split at held
    · cases held
    · exact h.held d held
  inside j hj := (Onward.drop j c s).has (h.inside j hj)
  own := h.own

theorem drops_kept (connections : List Connection) (h : Inv dialectName s) :
    Inv dialectName (connections.foldl (fun s c => s.drop c) s)
      ∧ (∀ j, Onward j s (connections.foldl (fun s c => s.drop c) s))
      ∧ (connections.foldl (fun s c => s.drop c) s).checkedOut = s.checkedOut
      ∧ ∀ c ∈ connections, c ∈ (connections.foldl (fun s c => s.drop c) s).dead := by
  induction connections generalizing s with
  | nil => exact ⟨h, fun j => .refl j s, rfl, fun _ none => (by cases none)⟩
  | cons c rest ih =>
    obtain ⟨inv, onward, same, dead⟩ := ih (h.drop c)
    refine ⟨inv, fun j => (Onward.drop j c s).trans (onward j), same, fun d there => ?_⟩
    rcases List.mem_cons.mp there with rfl | there
    · exact (onward ⟨0, 0⟩).dead (List.mem_cons_self ..)
    · exact dead d there

/-- What is left of a worker whose connections are lost. -/
theorem leave_kept (h : Inv dialectName s) (lost : ∀ c, (i, c) ∈ s.checkedOut → c ∈ s.dead) :
    Inv dialectName (s.leave i) ∧ (∀ c, (i, c) ∉ (s.leave i).checkedOut) ∧ i ∉ (s.leave i).inside
      ∧ ∀ j, j ≠ i → Onward j s (s.leave i) := by
  have mem (u : Worker × Connection) : u ∈ (s.leave i).checkedOut ↔ u ∈ s.checkedOut ∧ u.1 ≠ i := by
    simp [Locks.leave, List.mem_filter]
  have within (j : Worker) : j ∈ (s.leave i).inside ↔ j ∈ s.inside ∧ j ≠ i := by
    simp [Locks.leave, List.mem_filter]
  have gone (c : Connection) : (i, c) ∉ (s.leave i).checkedOut := fun there => ((mem _).mp there).2 rfl
  have outside : i ∉ (s.leave i).inside := fun there => ((within _).mp there).2 rfl
  have onward (j : Worker) (other : j ≠ i) : Onward j s (s.leave i) :=
    ⟨⟨fun c => (mem (j, c)).trans (and_iff_left other), fun _ there => there, fun _ there => there,
      fun _ _ => .inr rfl, Iff.rfl⟩, (within j).trans (and_iff_left other)⟩
  refine ⟨h.step onward (fun j c _ hi => absurd hi (gone c)) h.counted h.dropped ?_
    (fun there => absurd there outside) h.own, gone, outside, onward⟩
  intro c held
  rcases h.held c held with left | ⟨j, there⟩
  · exact .inl left
  · by_cases same : j = i
    · subst same
      have none := h.dropped c (lost c there)
      have held : 0 < s.count c := held
      omega
    · exact .inr ⟨j, (mem _).mpr ⟨there, same⟩⟩

theorem abandon_kept (i : Worker) (h : Inv dialectName s) :
    Inv dialectName (abandon i s) ∧ Idle i (abandon i s)
      ∧ ∀ j, j ≠ i → Onward j s (abandon i s) := by
  obtain ⟨inv, onward, same, dead⟩ :=
    drops_kept ((s.checkedOut.filter fun u => decide (u.1 = i)).map (·.2)) h
  unfold abandon
  dsimp only
  generalize ((s.checkedOut.filter fun u => decide (u.1 = i)).map (·.2)).foldl
    (fun s c => s.drop c) s = v at *
  have lost (c : Connection) (there : (i, c) ∈ v.checkedOut) : c ∈ v.dead := by
    rw [same] at there
    exact dead c (List.mem_map.mpr ⟨(i, c), List.mem_filter.mpr ⟨there, decide_eq_true rfl⟩, rfl⟩)
  obtain ⟨left, gone, outside, onward'⟩ := leave_kept inv lost
  have seen (j : Worker) (other : j ≠ i) : Onward j s (v.leave i) := (onward j).trans (onward' j other)
  split
  · next mine =>
    have free : ((v.leave i).setLocal i.process none).localHolder i.process ≠ some i := by
      simp [Locks.setLocal]
    have released (j : Worker) (other : j ≠ i) :
        Onward j (v.leave i) ((v.leave i).setLocal i.process none) := by
      refine .locals ?_ fun none => (by cases none)
      rw [mine]
      exact fun this => other (Option.some.inj this).symm
    refine ⟨left.step released (fun j c _ hi => absurd hi (gone c)) left.counted left.dropped left.held
      (fun there => absurd there outside) (own_setLocal left.own fun _ none => (by cases none)),
      ⟨gone, free, outside⟩, fun j other => (seen j other).trans (released j other)⟩
  · next free => exact ⟨left, ⟨gone, free, outside⟩, seen⟩

end losses

theorem sound (dialectName : String) : (workers dialectName).Sound (contract dialectName) where
  refl := Onward.refl
  trans _ _ _ _ h h' := h.trans h'
  ended _ _ _ _ idle onward := onward.idle idle
  idle _ _ _ idle onward := onward.idle idle
  answer _ _ _ _ _ inv answered _ other := answer_onward inv answered other
  finish i _ _ inv idle := ⟨inv, idle, fun j _ => .refl j _⟩
  abandon i _ inv := abandon_kept i inv
  other e s s' began inv happened := by
    cases e with
    | start i =>
      cases happened
      refine ⟨inv, fun j => .refl j s, ?_⟩
      rintro _ _ ⟨⟩ idle
      exact keeps_acquireExecutionLock idle
    | lost c =>
      cases happened
      exact ⟨inv.drop c, fun j => .drop j c s, fun _ _ none => (by cases none)⟩

theorem safe_started (dialectName : String) :
    System.Safe (workers dialectName) (contract dialectName) started where
  holds := by
    constructor
    · intro _ _ _ none
      cases none
    · intro _ _ none
      cases none
    · intro _ none
      cases none
    · intro _ none
      cases none
    · intro _ none
      cases none
    · intro _ _ none
      cases none
  keeps _ _ none := by cases none
  idle _ _ := ⟨fun _ none => (by cases none), fun none => (by cases none), fun none => (by cases none)⟩

/-- Two workers are under way at once only where the connection of one of them was lost;
without PostgreSQL, only in different processes. -/
theorem execution_exclusive (dialectName : String) (turns : List (Turn Worker Command Answer Happening))
    (w : Pool Worker Command Answer Locks (Except Failure Unit))
    (ran : (workers dialectName).run turns started = some w) (i j : Worker)
    (first : i ∈ w.shared.inside) (second : j ∈ w.shared.inside) (other : i ≠ j) :
    if dialectName = "postgresql" then
      ∃ k c, (k = i ∨ k = j) ∧ (k, c) ∈ w.shared.checkedOut ∧ c ∈ w.shared.dead
    else i.process ≠ j.process := by
  have inv : Inv dialectName w.shared :=
    (System.run_safe (sound dialectName) (safe_started dialectName) ran).holds
  have has := inv.inside i first
  have has' := inv.inside j second
  unfold Has at has has'
  split
  · next postgres =>
    rw [if_pos postgres] at has has'
    obtain ⟨c, mine, lost | held⟩ := has
    · exact ⟨i, c, .inl rfl, mine, lost⟩
    obtain ⟨d, yours, lost | held'⟩ := has'
    · exact ⟨j, d, .inr rfl, yours, lost⟩
    have same : c = d := by
      unfold Locks.count at held held'
      split at held
      · next e n holder =>
        rw [holder] at held'
        dsimp only at held held'
        split at held
        · next this =>
          split at held'
          · next that => exact this.symm.trans that
          · cases held'
        · cases held
      · cases held
    subst same
    exact absurd (inv.exclusive i j c mine yours) other
  · next local_ =>
    rw [if_neg local_] at has has'
    intro same
    rw [same, has'] at has
    exact other (Option.some.inj has).symm

/-- One worker is at work when its connection is lost, and another begins. -/
def Sample.lostTurns : List (Turn Worker Command Answer Happening) :=
  [.other (.start ⟨1, 1⟩), .other (.start ⟨2, 1⟩),
    .answer ⟨1, 1⟩ .connect (Except.ok 7 : Except String Connection),
    .answer ⟨2, 1⟩ .connect (Except.ok 8 : Except String Connection),
    .answer ⟨1, 1⟩ (.tryAdvisoryLock 7) (Statement.done true),
    .answer ⟨1, 1⟩ .enter (),
    .other (.lost 7),
    .answer ⟨2, 1⟩ (.tryAdvisoryLock 8) (Statement.done true),
    .answer ⟨2, 1⟩ .enter ()]

theorem execution_exclusive_lost : ∃ w,
    (workers "postgresql").run Sample.lostTurns started = some w
      ∧ (⟨1, 1⟩ : Worker) ∈ w.shared.inside ∧ (⟨2, 1⟩ : Worker) ∈ w.shared.inside
      ∧ if "postgresql" = "postgresql" then
        ∃ (k : Worker) (c : Connection), (k = ⟨1, 1⟩ ∨ k = ⟨2, 1⟩)
          ∧ (k, c) ∈ w.shared.checkedOut ∧ c ∈ w.shared.dead
      else (1 : Nat) ≠ 2 := by
  have facts : ((workers "postgresql").run Sample.lostTurns started).map (fun w =>
      decide ((⟨1, 1⟩ : Worker) ∈ w.shared.inside ∧ (⟨2, 1⟩ : Worker) ∈ w.shared.inside))
        = some true := by
    decide +kernel
  obtain ⟨w, ran, inside⟩ := Option.map_eq_some_iff.mp facts
  obtain ⟨first, second⟩ := of_decide_eq_true inside
  exact ⟨w, ran, first, second, execution_exclusive "postgresql" Sample.lostTurns w ran ⟨1, 1⟩ ⟨2, 1⟩
    first second (by decide)⟩

/-- The lock is held only for a worker under way, except on a connection where an answer
about it was lost. -/
theorem execution_released (dialectName : String) (turns : List (Turn Worker Command Answer Happening))
    (w : Pool Worker Command Answer Locks (Except Failure Unit))
    (ran : (workers dialectName).run turns started = some w) :
    (∀ c n, w.shared.holder = some (c, n) → c ∉ w.shared.leftBehind →
      ∃ i, (i, c) ∈ w.shared.checkedOut ∧ (w.programs i).isSome = true)
      ∧ ∀ p i, w.shared.localHolder p = some i → i.process = p ∧ (w.programs i).isSome = true := by
  have safe := System.run_safe (sound dialectName) (safe_started dialectName) ran
  have inv : Inv dialectName w.shared := safe.holds
  have busy (i : Worker) (not : ¬ Idle i w.shared) : (w.programs i).isSome = true := by
    cases program : w.programs i with
    | none => exact absurd (safe.idle i program) not
    | some p => rfl
  constructor
  · intro c n holder clean
    have held : 0 < w.shared.count c := by
      unfold Locks.count
      rw [holder]
      simpa using inv.counted c n holder
    rcases inv.held c held with left | ⟨i, there⟩
    · exact absurd left clean
    · exact ⟨i, there, busy i fun idle => idle.connections c there⟩
  · intro p i holder
    have process := inv.own p i holder
    exact ⟨process, busy i fun idle => idle.local_ (process ▸ holder)⟩

/-- A worker fails at its work and gives the lock back; the next one takes it. -/
def Sample.heldTurns : List (Turn Worker Command Answer Happening) :=
  [.other (.start ⟨1, 1⟩), .answer ⟨1, 1⟩ .connect (Except.ok 7 : Except String Connection),
    .answer ⟨1, 1⟩ (.tryAdvisoryLock 7) (Statement.done true), .answer ⟨1, 1⟩ .enter (),
    .answer ⟨1, 1⟩ .leave (some "broken" : Option String),
    .answer ⟨1, 1⟩ (.advisoryUnlock 7) (Statement.done ()),
    .answer ⟨1, 1⟩ (.commit 7) (Statement.done ()), .answer ⟨1, 1⟩ (.close 7) (), .finish ⟨1, 1⟩,
    .other (.start ⟨1, 2⟩), .answer ⟨1, 2⟩ .connect (Except.ok 7 : Except String Connection),
    .answer ⟨1, 2⟩ (.tryAdvisoryLock 7) (Statement.done true)]

theorem execution_released_held : ∃ w,
    (workers "postgresql").run Sample.heldTurns started = some w
      ∧ w.shared.holder = some (7, 1) ∧ w.shared.leftBehind = []
      ∧ (∀ c n, w.shared.holder = some (c, n) → c ∉ w.shared.leftBehind →
        ∃ i, (i, c) ∈ w.shared.checkedOut ∧ (w.programs i).isSome = true)
      ∧ ∀ p i, w.shared.localHolder p = some i → i.process = p ∧ (w.programs i).isSome = true := by
  have facts : ((workers "postgresql").run Sample.heldTurns started).map (fun w =>
      decide (w.shared.holder = some (7, 1) ∧ w.shared.leftBehind = [])) = some true := by
    decide +kernel
  obtain ⟨w, ran, held⟩ := Option.map_eq_some_iff.mp facts
  obtain ⟨holder, clean⟩ := of_decide_eq_true held
  exact ⟨w, ran, holder, clean, execution_released "postgresql" Sample.heldTurns w ran⟩

end YTPipe.ExecutionLock
