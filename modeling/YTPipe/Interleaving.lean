/-!
# Programs that take turns

Programs over one shared state. A program stops at each of its calls until it is
answered, and between two calls the others may have done anything they may do. What
a program keeps is shown for the program alone, over what it relies on the others for.
-/

namespace YTPipe

/-- A computation up to its next call. -/
inductive Prog (C : Type) (R : C → Type) (α : Type)
  | done (a : α)
  | call (c : C) (next : R c → Prog C R α)

namespace Prog

variable {C : Type} {R : C → Type} {α β ε σ : Type}

def bind : Prog C R α → (α → Prog C R β) → Prog C R β
  | done a, f => f a
  | call c next, f => call c fun r => (next r).bind f

instance : Monad (Prog C R) where
  pure := done
  bind := bind

def request (c : C) : Prog C R (R c) := call c done

/-- What a program is held to: how its calls are answered, what holds at all times,
and what the others leave as it is. -/
structure Law (C : Type) (R : C → Type) (σ : Type) where
  answer : (c : C) → R c → σ → Option σ
  inv : σ → Prop
  rely : σ → σ → Prop

/-- Whatever the others do between its calls, the program keeps the invariant, and it
ends in `post`. -/
def Keeps (law : Law C R σ) (post : α → σ → Prop) : Prog C R α → σ → Prop
  | done a, s => post a s
  | call c next, s => ∀ s', law.rely s s' → law.inv s' → ∀ r s'', law.answer c r s' = some s'' →
      law.inv s'' ∧ (next r).Keeps law post s''

section rules

variable {law : Law C R σ} {post : α → σ → Prop} {s : σ}

theorem keeps_pure {a : α} (h : post a s) : (pure a : Prog C R α).Keeps law post s := h

theorem keeps_bind {p : Prog C R β} {f : β → Prog C R α}
    (h : p.Keeps law (fun b => (f b).Keeps law post) s) : (p >>= f).Keeps law post s := by
  induction p generalizing s with
  | done b => exact h
  | call c next ih =>
    intro s' rely inv r s'' answered
    obtain ⟨kept, rest⟩ := h s' rely inv r s'' answered
    exact ⟨kept, ih r rest⟩

theorem keeps_mono {p : Prog C R α} {post' : α → σ → Prop} (weaken : ∀ a s, post a s → post' a s)
    (h : p.Keeps law post s) : p.Keeps law post' s := by
  induction p generalizing s with
  | done a => exact weaken a s h
  | call c next ih =>
    intro s' rely inv r s'' answered
    obtain ⟨kept, rest⟩ := h s' rely inv r s'' answered
    exact ⟨kept, ih r rest⟩

/-- What neither the others nor an answer take back. -/
theorem keeps_lasting {p : Prog C R α} (lasts : σ → Prop)
    (rely : ∀ s s', lasts s → law.rely s s' → lasts s')
    (answer : ∀ c r s s', law.inv s → lasts s → law.answer c r s = some s' → lasts s')
    (start : lasts s) (h : p.Keeps law post s) :
    p.Keeps law (fun a s => post a s ∧ lasts s) s := by
  induction p generalizing s with
  | done a => exact ⟨h, start⟩
  | call c next ih =>
    intro s' onward inv r s'' answered
    obtain ⟨kept, rest⟩ := h s' onward inv r s'' answered
    exact ⟨kept, ih r (answer c r s' s'' inv (rely s s' start onward) answered) rest⟩

/-- One call, and what is known once it is answered. -/
theorem keeps_request {c : C} {post : R c → σ → Prop}
    (h : ∀ s', law.rely s s' → law.inv s' → ∀ r s'', law.answer c r s' = some s'' →
      law.inv s'' ∧ post r s'') : (request c : Prog C R (R c)).Keeps law post s := h

end rules

/-- The same of a computation that may raise, of which nothing is asked when it does. -/
def KeepsOk (law : Law C R σ) (good : α → σ → Prop) (p : ExceptT ε (Prog C R) α) : σ → Prop :=
  p.run.Keeps law fun result s => ∀ a, result = .ok a → good a s

section raising

variable {law : Law C R σ} {good : α → σ → Prop} {s : σ}

theorem keepsOk_pure {a : α} (h : good a s) :
    KeepsOk law good (pure a : ExceptT ε (Prog C R) α) s := by
  rintro _ ⟨⟩
  exact h

theorem keepsOk_throw {e : ε} : KeepsOk law good (throw e : ExceptT ε (Prog C R) α) s :=
  fun _ other => (by cases other)

/-- What a plain value decides. -/
theorem keepsOk_of {result : Except ε α} (h : ∀ a, result = .ok a → good a s) :
    KeepsOk law good (ExceptT.mk (pure result) : ExceptT ε (Prog C R) α) s := h

theorem keepsOk_bind {p : ExceptT ε (Prog C R) β} {f : β → ExceptT ε (Prog C R) α}
    (h : KeepsOk law (fun b => KeepsOk law good (f b)) p s) : KeepsOk law good (p >>= f) s := by
  unfold KeepsOk
  rw [ExceptT.run_bind]
  apply keeps_bind
  refine keeps_mono (fun result s kept => ?_) h
  cases result with
  | ok b => exact kept b rfl
  | error e =>
    intro a other
    cases other

theorem keepsOk_lift {p : Prog C R α} (h : p.Keeps law good s) :
    KeepsOk law good (ExceptT.lift p : ExceptT ε (Prog C R) α) s := by
  apply keeps_bind
  refine keeps_mono (fun a s kept => ?_) h
  rintro _ ⟨⟩
  exact kept

/-- A computation that may raise, after which `post` is wanted in either case. -/
theorem keeps_raising {p : ExceptT ε (Prog C R) β} {f : β → ExceptT ε (Prog C R) α} {post : σ → Prop}
    (h : p.run.Keeps law (fun result s => (∀ b, result = .ok b → (f b).run.Keeps law (fun _ => post) s)
      ∧ ∀ e, result = .error e → post s) s) : (p >>= f).run.Keeps law (fun _ => post) s := by
  rw [ExceptT.run_bind]
  apply keeps_bind
  refine keeps_mono (fun result s kept => ?_) h
  cases result with
  | ok b => exact kept.1 b rfl
  | error e => exact kept.2 e rfl

end raising

/-- What stays true whatever the others do. -/
theorem keeps_stable {law : Law C R σ} {post : α → σ → Prop}
    (trans : ∀ s s' s'', law.rely s s' → law.rely s' s'' → law.rely s s'')
    (stable : ∀ a s s', post a s → law.rely s s' → post a s') {p : Prog C R α} {s s' : σ}
    (h : p.Keeps law post s) (onward : law.rely s s') : p.Keeps law post s' := by
  cases p with
  | done a => exact stable a s s' h onward
  | call c next => exact fun t rely => h t (trans s s' t onward rely)

end Prog

/-- The programs under way, under their names, and what they share. -/
structure Pool (ι C : Type) (R : C → Type) (σ α : Type) where
  shared : σ
  programs : ι → Option (Prog C R α)

/-- How calls are answered, what an end and a loss of a program do, and what happens
besides the programs, which may start one. -/
structure System (ι C : Type) (R : C → Type) (σ α E : Type) where
  answer : ι → (c : C) → R c → σ → Option σ
  finish : ι → α → σ → σ
  abandon : ι → σ → σ
  other : E → σ → Option (σ × Option (ι × Prog C R α))

inductive Turn (ι C : Type) (R : C → Type) (E : Type)
  | answer (i : ι) (c : C) (r : R c)
  | finish (i : ι)
  | lose (i : ι)
  | other (e : E)

namespace System

variable {ι C : Type} {R : C → Type} {σ α E : Type} [DecidableEq ι] [DecidableEq C]

def put (programs : ι → Option (Prog C R α)) (i : ι) (p : Option (Prog C R α)) :
    ι → Option (Prog C R α) :=
  fun j => if j = i then p else programs j

variable (sys : System ι C R σ α E)

/-- One turn; `none` where it is nobody's turn. -/
def take : Turn ι C R E → Pool ι C R σ α → Option (Pool ι C R σ α)
  | .answer i c r, w =>
    match w.programs i with
    | some (.call c' next) =>
      if same : c = c' then
        (sys.answer i c r w.shared).map fun s => ⟨s, put w.programs i (some (next (same ▸ r)))⟩
      else none
    | _ => none
  | .finish i, w =>
    match w.programs i with
    | some (.done a) => some ⟨sys.finish i a w.shared, put w.programs i none⟩
    | _ => none
  | .lose i, w =>
    if (w.programs i).isSome then some ⟨sys.abandon i w.shared, put w.programs i none⟩ else none
  | .other e, w =>
    match sys.other e w.shared with
    | some (s, none) => some ⟨s, w.programs⟩
    | some (s, some (i, p)) =>
      if (w.programs i).isNone then some ⟨s, put w.programs i (some p)⟩ else none
    | none => none

def run : List (Turn ι C R E) → Pool ι C R σ α → Option (Pool ι C R σ α)
  | [], w => some w
  | turn :: turns, w => (sys.take turn w).bind (run turns)

/-- What programs are held to: what holds at all times, what each may rely on the others
for, what one ends in, and what holds under a name no program goes by. -/
structure Contract (ι σ α : Type) where
  inv : σ → Prop
  rely : ι → σ → σ → Prop
  post : ι → α → σ → Prop
  idle : ι → σ → Prop

def Contract.law (k : Contract ι σ α) (i : ι) : Prog.Law C R σ := ⟨sys.answer i, k.inv, k.rely i⟩

/-- What shows that a contract is kept: what each program relies on is what every turn of
another does, a program may end in what it ends in, and one that starts keeps its law. -/
structure Sound (k : Contract ι σ α) : Prop where
  refl : ∀ i s, k.rely i s s
  trans : ∀ i s s' s'', k.rely i s s' → k.rely i s' s'' → k.rely i s s''
  ended : ∀ i a s s', k.post i a s → k.rely i s s' → k.post i a s'
  idle : ∀ i s s', k.idle i s → k.rely i s s' → k.idle i s'
  answer : ∀ i c r s s', k.inv s → sys.answer i c r s = some s' → ∀ j, j ≠ i → k.rely j s s'
  finish : ∀ i a s, k.inv s → k.post i a s →
    k.inv (sys.finish i a s) ∧ k.idle i (sys.finish i a s) ∧ ∀ j, j ≠ i → k.rely j s (sys.finish i a s)
  abandon : ∀ i s, k.inv s →
    k.inv (sys.abandon i s) ∧ k.idle i (sys.abandon i s) ∧ ∀ j, j ≠ i → k.rely j s (sys.abandon i s)
  other : ∀ e s s' started, k.inv s → sys.other e s = some (s', started) →
    k.inv s' ∧ (∀ j, k.rely j s s') ∧ ∀ i p, started = some (i, p) → k.idle i s' →
      p.Keeps (k.law sys i) (k.post i) s'

variable {sys} {k : Contract ι σ α} {w w' : Pool ι C R σ α}

/-- The invariant holds, every program under way keeps it, and all else is idle. -/
structure Safe (sys : System ι C R σ α E) (k : Contract ι σ α) (w : Pool ι C R σ α) : Prop where
  holds : k.inv w.shared
  keeps : ∀ i p, w.programs i = some p → p.Keeps (k.law sys i) (k.post i) w.shared
  idle : ∀ i, w.programs i = none → k.idle i w.shared

omit [DecidableEq C] in
/-- One program's turn, seen from the others. -/
theorem Safe.put (sound : sys.Sound k) (safe : Safe sys k w) {s : σ} {i : ι}
    {p : Option (Prog C R α)} (holds : k.inv s) (onward : ∀ j, j ≠ i → k.rely j w.shared s)
    (own : ∀ q, p = some q → q.Keeps (k.law sys i) (k.post i) s) (idle : p = none → k.idle i s) :
    Safe sys k ⟨s, System.put w.programs i p⟩ := by
  refine ⟨holds, fun j q program => ?_, fun j absent => ?_⟩
  · simp only [System.put] at program
    split at program
    · next same =>
      subst same
      exact own q program
    · next other =>
      exact Prog.keeps_stable (sound.trans j) (sound.ended j) (safe.keeps j q program) (onward j other)
  · simp only [System.put] at absent
    split at absent
    · next same =>
      subst same
      exact idle absent
    · next other => exact sound.idle j _ _ (safe.idle j absent) (onward j other)

theorem take_safe (sound : sys.Sound k) (safe : Safe sys k w) {turn : Turn ι C R E}
    (taken : sys.take turn w = some w') : Safe sys k w' := by
  cases turn with
  | answer i c r =>
    simp only [take] at taken
    split at taken
    · next c' next program =>
      split at taken
      · next same =>
        subst same
        obtain ⟨s, answered, rfl⟩ := Option.map_eq_some_iff.mp taken
        obtain ⟨holds, keeps⟩ := safe.keeps i _ program w.shared (sound.refl i _) safe.holds r s answered
        refine safe.put sound holds (sound.answer i c r _ s safe.holds answered) (fun q rest => ?_)
          fun none => (by cases none)
        obtain rfl := Option.some.inj rest
        exact keeps
      · cases taken
    · cases taken
  | finish i =>
    simp only [take] at taken
    split at taken
    · next a program =>
      obtain rfl := Option.some.inj taken
      obtain ⟨holds, idle, onward⟩ := sound.finish i a _ safe.holds (safe.keeps i _ program)
      exact safe.put sound holds onward (fun q none => (by cases none)) fun _ => idle
    · cases taken
  | lose i =>
    simp only [take] at taken
    split at taken
    · obtain rfl := Option.some.inj taken
      obtain ⟨holds, idle, onward⟩ := sound.abandon i _ safe.holds
      exact safe.put sound holds onward (fun q none => (by cases none)) fun _ => idle
    · cases taken
  | other e =>
    simp only [take] at taken
    split at taken
    · next s happened =>
      obtain rfl := Option.some.inj taken
      obtain ⟨holds, onward, _⟩ := sound.other e _ s _ safe.holds happened
      exact ⟨holds, fun j q program => Prog.keeps_stable (sound.trans j) (sound.ended j)
        (safe.keeps j q program) (onward j),
        fun j absent => sound.idle j _ _ (safe.idle j absent) (onward j)⟩
    · next s i p happened =>
      obtain ⟨holds, onward, started⟩ := sound.other e _ s _ safe.holds happened
      split at taken
      · next absent =>
        obtain rfl := Option.some.inj taken
        have idle := sound.idle i _ _ (safe.idle i (Option.isNone_iff_eq_none.mp absent)) (onward i)
        refine safe.put sound holds (fun j _ => onward j) (fun q start => ?_) fun none => (by cases none)
        obtain rfl := Option.some.inj start
        exact started i p rfl idle
      · cases taken
    · cases taken

/-- What every program keeps holds throughout a run. -/
theorem run_safe (sound : sys.Sound k) {turns : List (Turn ι C R E)} (safe : Safe sys k w)
    (ran : sys.run turns w = some w') : Safe sys k w' := by
  induction turns generalizing w with
  | nil =>
    obtain rfl := Option.some.inj ran
    exact safe
  | cons turn turns ih =>
    obtain ⟨v, taken, rest⟩ := Option.bind_eq_some_iff.mp ran
    exact ih (take_safe sound safe taken) rest

/-- What one turn may do to what is shared. -/
inductive Moves (sys : System ι C R σ α E) (k : Contract ι σ α) : σ → σ → Prop
  | answer (i : ι) (c : C) (r : R c) {s s' : σ} (holds : k.inv s)
      (answered : sys.answer i c r s = some s') : Moves sys k s s'
  | finish (i : ι) {a : α} {s : σ} (holds : k.inv s) (ended : k.post i a s) :
      Moves sys k s (sys.finish i a s)
  | abandon (i : ι) {s : σ} (holds : k.inv s) : Moves sys k s (sys.abandon i s)
  | other (e : E) {s s' : σ} {started : Option (ι × Prog C R α)} (holds : k.inv s)
      (happened : sys.other e s = some (s', started)) : Moves sys k s s'

theorem take_moves (safe : Safe sys k w) {turn : Turn ι C R E}
    (taken : sys.take turn w = some w') : Moves sys k w.shared w'.shared := by
  cases turn with
  | answer i c r =>
    simp only [take] at taken
    split at taken
    · split at taken
      · obtain ⟨s, answered, rfl⟩ := Option.map_eq_some_iff.mp taken
        exact .answer i c r safe.holds answered
      · cases taken
    · cases taken
  | finish i =>
    simp only [take] at taken
    split at taken
    · next a program =>
      obtain rfl := Option.some.inj taken
      exact .finish i safe.holds (safe.keeps i _ program)
    · cases taken
  | lose i =>
    simp only [take] at taken
    split at taken
    · obtain rfl := Option.some.inj taken
      exact .abandon i safe.holds
    · cases taken
  | other e =>
    simp only [take] at taken
    split at taken
    · next happened =>
      obtain rfl := Option.some.inj taken
      exact .other e safe.holds happened
    · next happened =>
      split at taken
      · obtain rfl := Option.some.inj taken
        exact .other e safe.holds happened
      · cases taken
    · cases taken

/-- What no turn takes back is not taken back in a run. -/
theorem run_onward (sound : sys.Sound k) {later : σ → σ → Prop}
    (refl : ∀ s, later s s) (trans : ∀ s s' s'', later s s' → later s' s'' → later s s'')
    (moves : ∀ s s', Moves sys k s s' → later s s') {turns : List (Turn ι C R E)}
    (safe : Safe sys k w) (ran : sys.run turns w = some w') :
    later w.shared w'.shared := by
  induction turns generalizing w with
  | nil =>
    obtain rfl := Option.some.inj ran
    exact refl _
  | cons turn turns ih =>
    obtain ⟨v, taken, rest⟩ := Option.bind_eq_some_iff.mp ran
    exact trans _ _ _ (moves _ _ (take_moves safe taken)) (ih (take_safe sound safe taken) rest)

end System

/-! Histories, newest first, in which every event has its grounds in what came before. -/

def Grounded {ε : Type} (grounds : ε → List ε → Prop) : List ε → Prop
  | [] => True
  | e :: before => grounds e before ∧ Grounded grounds before

namespace Grounded

variable {ε : Type} {grounds : ε → List ε → Prop}

/-- What came before was grounded already. -/
theorem earlier {later before : List ε} (h : Grounded grounds (later ++ before)) :
    Grounded grounds before := by
  induction later with
  | nil => exact h
  | cons _ _ ih => exact ih h.2

theorem at_split {later before : List ε} {e : ε} (h : Grounded grounds (later ++ e :: before)) :
    grounds e before := h.earlier.1

end Grounded

end YTPipe
