/-!
# Processes that can be lost

A process reads and writes a state, takes one answer at a time from its
surroundings and leaves a trace. It is lost when its surroundings give no
answer of the kind it waits for: a crash, or an exception nothing catches.
-/

namespace YTPipe

/-- What a process runs against: its state, the answers still to come, and what
was done so far, newest first. -/
structure World (ρ ε σ : Type) where
  state : σ
  replies : List ρ
  trace : List ε

/-- A computation; `none` is a process that was lost on the way. -/
def Proc (ρ ε σ α : Type) := World ρ ε σ → Option α × World ρ ε σ

namespace Proc

variable {ρ ε σ τ α β : Type}

instance : Monad (Proc ρ ε σ) where
  pure a := fun w => (some a, w)
  bind p f := fun w =>
    match p w with
    | (some a, w') => f a w'
    | (none, w') => (none, w')

def run (p : Proc ρ ε σ α) (w : World ρ ε σ) : Option α × World ρ ε σ := p w

def read : Proc ρ ε σ σ := fun w => (some w.state, w)

def modify (f : σ → σ) : Proc ρ ε σ Unit := fun w => (some (), { w with state := f w.state })

/-- Appends what `record` makes of the present state. -/
def emit (record : σ → ε) : Proc ρ ε σ Unit :=
  fun w => (some (), { w with trace := record w.state :: w.trace })

def lose : Proc ρ ε σ α := fun w => (none, w)

def when (condition : Prop) [Decidable condition] (p : Proc ρ ε σ Unit) : Proc ρ ε σ Unit :=
  if condition then p else pure ()

/-- Takes the next answer, which must be of the kind `view` recognises. -/
def ask (view : ρ → Option β) : Proc ρ ε σ β := fun w =>
  match w.replies with
  | [] => (none, w)
  | r :: rest =>
    match view r with
    | none => (none, w)
    | some b => (some b, { w with replies := rest })

/-- A request that leaves the process before its answer comes back: it is on
the trace whether or not the process lives to read the answer. -/
def exchange (view : ρ → Option β) (record : σ → Option β → ε) : Proc ρ ε σ β := fun w =>
  match w.replies with
  | [] => (none, { w with trace := record w.state none :: w.trace })
  | r :: rest =>
    match view r with
    | none => (none, { w with trace := record w.state none :: w.trace })
    | some b =>
      (some b, { w with replies := rest, trace := record w.state (some b) :: w.trace })

/-- `try: body`: a body that is lost on the way leaves what it did. -/
def caught (p : Proc ρ ε σ α) : Proc ρ ε σ (Option α) := fun w =>
  match p w with
  | (r, w') => (some r, w')

def iterate (body : Proc ρ ε σ (Option α)) : Nat → Proc ρ ε σ α
  | 0 => lose
  | n + 1 => do
    match ← body with
    | some a => pure a
    | none => iterate body n

/-- Repeats `body` until it gives a result. Each round takes an answer, so there
are never more rounds than answers to come. -/
def loop (body : Proc ρ ε σ (Option α)) : Proc ρ ε σ α :=
  fun w => iterate body (w.replies.length + 1) w

/-- Runs a process that takes other answers and leaves another trace; `put`
takes up what it leaves. -/
def within {ρ' ε' : Type} (part : σ → τ) (put : World ρ' ε' τ → World ρ ε σ → World ρ ε σ)
    (p : Proc ρ' ε' τ α) (answers : List ρ') : Proc ρ ε σ α := fun w =>
  match p ⟨part w.state, answers, []⟩ with
  | (r, v) => (r, put v w)

/-- Such a process, whose answers come as one. -/
def nest {ρ' ε' : Type} (view : ρ → Option (List ρ')) (part : σ → τ)
    (put : World ρ' ε' τ → World ρ ε σ → World ρ ε σ) (p : Proc ρ' ε' τ α) : Proc ρ ε σ α := do
  within part put p (← ask view)

/-- Every run from `w` that comes back satisfies `post`, every run that is lost
satisfies `lost`. -/
def wp (p : Proc ρ ε σ α) (post : α → World ρ ε σ → Prop) (lost : World ρ ε σ → Prop)
    (w : World ρ ε σ) : Prop :=
  match p w with
  | (some a, w') => post a w'
  | (none, w') => lost w'

section rules

variable {post : α → World ρ ε σ → Prop} {lost : World ρ ε σ → Prop} {w : World ρ ε σ}

@[simp] theorem wp_pure (a : α) : wp (pure a) post lost w ↔ post a w := Iff.rfl

@[simp] theorem wp_bind (p : Proc ρ ε σ β) (f : β → Proc ρ ε σ α) :
    wp (p >>= f) post lost = wp p (fun b => wp (f b) post lost) lost := by
  funext w
  simp only [wp, bind]
  cases h : p w with
  | mk r v => cases r <;> rfl

@[simp] theorem wp_read {post : σ → World ρ ε σ → Prop} :
    wp read post lost w ↔ post w.state w := Iff.rfl

@[simp] theorem wp_modify {post : Unit → World ρ ε σ → Prop} (f : σ → σ) :
    wp (modify f) post lost w ↔ post () { w with state := f w.state } := Iff.rfl

@[simp] theorem wp_emit {post : Unit → World ρ ε σ → Prop} (record : σ → ε) :
    wp (emit record) post lost w ↔ post () { w with trace := record w.state :: w.trace } :=
  Iff.rfl

@[simp] theorem wp_lose : wp (lose : Proc ρ ε σ α) post lost w ↔ lost w := Iff.rfl

theorem wp_when {post : Unit → World ρ ε σ → Prop} {c : Prop} [Decidable c]
    {p : Proc ρ ε σ Unit} :
    wp (when c p) post lost w ↔ if c then wp p post lost w else post () w := by
  unfold when
  split <;> rfl

theorem wp_ask_reply {post : β → World ρ ε σ → Prop} (view : ρ → Option β) (stop : lost w)
    (go : ∀ b r rest, w.replies = r :: rest → view r = some b → post b { w with replies := rest }) :
    wp (ask view) post lost w := by
  simp only [wp, ask]
  cases hr : w.replies with
  | nil => exact stop
  | cons r rest =>
    cases h : view r with
    | none => simpa only [h] using stop
    | some b => simpa only [h] using go b r rest hr h

theorem wp_ask {post : β → World ρ ε σ → Prop} (view : ρ → Option β) (stop : lost w)
    (go : ∀ b rest, post b { w with replies := rest }) : wp (ask view) post lost w :=
  wp_ask_reply view stop fun b _ rest _ _ => go b rest

/-- An answer of the right kind is taken. -/
theorem wp_ask_cons {post : β → World ρ ε σ → Prop} {view : ρ → Option β} {r : ρ} {rest : List ρ}
    {b : β} (hr : w.replies = r :: rest) (hv : view r = some b) :
    wp (ask view) post lost w ↔ post b { w with replies := rest } := by
  simp only [wp, ask, hr, hv]

theorem wp_exchange_cons {post : β → World ρ ε σ → Prop} {view : ρ → Option β}
    {record : σ → Option β → ε} {r : ρ} {rest : List ρ} {b : β} (hr : w.replies = r :: rest)
    (hv : view r = some b) : wp (exchange view record) post lost w ↔ post b { w with
      replies := rest, trace := record w.state (some b) :: w.trace } := by
  simp only [wp, exchange, hr, hv]

theorem wp_exchange_reply {post : β → World ρ ε σ → Prop} (view : ρ → Option β)
    (record : σ → Option β → ε)
    (stop : lost { w with trace := record w.state none :: w.trace })
    (go : ∀ b r rest, w.replies = r :: rest → view r = some b → post b { w with
      replies := rest, trace := record w.state (some b) :: w.trace }) :
    wp (exchange view record) post lost w := by
  obtain ⟨s, replies, trace⟩ := w
  simp only [wp, exchange]
  cases replies with
  | nil => exact stop
  | cons r rest =>
    cases h : view r with
    | none => simpa only [h] using stop
    | some b => simpa only [h] using go b r rest rfl h

theorem wp_exchange {post : β → World ρ ε σ → Prop} (view : ρ → Option β)
    (record : σ → Option β → ε)
    (stop : lost { w with trace := record w.state none :: w.trace })
    (go : ∀ b rest, post b { w with
      replies := rest, trace := record w.state (some b) :: w.trace }) :
    wp (exchange view record) post lost w :=
  wp_exchange_reply view record stop fun b _ rest _ _ => go b rest

/-- What holds however a process ends holds of the world it leaves. -/
theorem run_of_wp {p : Proc ρ ε σ α} {P : World ρ ε σ → Prop} (h : wp p (fun _ => P) P w) :
    P (p.run w).2 := by
  unfold wp at h
  unfold run
  cases ran : p w with
  | mk result u =>
    rw [ran] at h
    cases result <;> exact h

theorem wp_caught {post : Option α → World ρ ε σ → Prop} {p : Proc ρ ε σ α} :
    wp (caught p) post lost w ↔ wp p (fun a => post (some a)) (fun v => post none v) w := by
  simp only [wp, caught]
  cases p w with
  | mk r v => cases r <;> rfl

theorem wp_mono {p : Proc ρ ε σ α} {post' : α → World ρ ε σ → Prop}
    {lost' : World ρ ε σ → Prop} (h : wp p post lost w) (hp : ∀ a v, post a v → post' a v)
    (hl : ∀ v, lost v → lost' v) : wp p post' lost' w := by
  revert h
  simp only [wp]
  cases p w with
  | mk r v =>
    cases r with
    | some a => exact hp a v
    | none => exact hl v

theorem wp_anywhere {p : Proc ρ ε σ α} (back : ∀ a v, post a v) (out : ∀ v, lost v) :
    wp p post lost w := by
  unfold wp
  split
  · exact back _ _
  · exact out _

theorem wp_and {p : Proc ρ ε σ α} {post' : α → World ρ ε σ → Prop}
    {lost' : World ρ ε σ → Prop} (h : wp p post lost w) (h' : wp p post' lost' w) :
    wp p (fun a v => post a v ∧ post' a v) (fun v => lost v ∧ lost' v) w := by
  revert h h'
  simp only [wp]
  cases p w with
  | mk r v => cases r <;> exact And.intro

/-- An invariant of each round holds wherever the repetition ends. -/
theorem wp_iterate {body : Proc ρ ε σ (Option α)} (inv : World ρ ε σ → Prop)
    (round : ∀ v, inv v → wp body (fun r v' => r.elim (inv v') (fun a => post a v')) lost v)
    (out : ∀ v, inv v → lost v) (n : Nat) (start : inv w) :
    wp (iterate body n) post lost w := by
  induction n generalizing w with
  | zero => exact out w start
  | succ n ih =>
    simp only [iterate, wp_bind]
    refine wp_mono (round w start) (fun r v h => ?_) (fun _ h => h)
    cases r with
    | some a => exact h
    | none => exact ih h

theorem wp_loop {body : Proc ρ ε σ (Option α)} (inv : World ρ ε σ → Prop)
    (round : ∀ v, inv v → wp body (fun r v' => r.elim (inv v') (fun a => post a v')) lost v)
    (out : ∀ v, inv v → lost v) (start : inv w) : wp (loop body) post lost w :=
  wp_iterate inv round out _ start

/-- A loop over a list keeps what each element's turn keeps. -/
theorem wp_forM {xs : List β} {f : β → Proc ρ ε σ PUnit} {inv : World ρ ε σ → Prop}
    (turn : ∀ x ∈ xs, ∀ v, inv v → wp (f x) (fun _ => inv) lost v) (start : inv w) :
    wp (xs.forM f) (fun _ => inv) lost w := by
  induction xs generalizing w with
  | nil => exact start
  | cons x xs ih =>
    change wp (f x >>= fun _ => xs.forM f) _ _ w
    rw [wp_bind]
    refine wp_mono (turn x (List.mem_cons_self ..) w start) (fun _ v h => ?_) (fun _ h => h)
    exact ih (fun y hy => turn y (List.mem_cons_of_mem _ hy)) h

theorem wp_within {ρ' ε' : Type} {part : σ → τ}
    {put : World ρ' ε' τ → World ρ ε σ → World ρ ε σ} {p : Proc ρ' ε' τ α} {answers : List ρ'}
    (h : wp p (fun a v => post a (put v w)) (fun v => lost (put v w)) ⟨part w.state, answers, []⟩) :
    wp (within part put p answers) post lost w := by
  revert h
  simp only [wp, within]
  cases p ⟨part w.state, answers, []⟩ with
  | mk r v => cases r <;> exact id

theorem wp_nest_reply {ρ' ε' : Type} {view : ρ → Option (List ρ')} {part : σ → τ}
    {put : World ρ' ε' τ → World ρ ε σ → World ρ ε σ} {p : Proc ρ' ε' τ α} (stop : lost w)
    (go : ∀ answers r rest, w.replies = r :: rest → view r = some answers →
      wp p (fun a v => post a (put v { w with replies := rest }))
        (fun v => lost (put v { w with replies := rest })) ⟨part w.state, answers, []⟩) :
    wp (nest view part put p) post lost w := by
  unfold nest
  rw [wp_bind]
  apply wp_ask_reply view stop
  intro answers r rest hr hv
  exact wp_within (go answers r rest hr hv)

theorem wp_nest {ρ' ε' : Type} {view : ρ → Option (List ρ')} {part : σ → τ}
    {put : World ρ' ε' τ → World ρ ε σ → World ρ ε σ} {p : Proc ρ' ε' τ α} (stop : lost w)
    (go : ∀ answers rest, wp p (fun a v => post a (put v { w with replies := rest }))
      (fun v => lost (put v { w with replies := rest })) ⟨part w.state, answers, []⟩) :
    wp (nest view part put p) post lost w :=
  wp_nest_reply stop fun answers _ rest _ _ => go answers rest

end rules

/-- What holds before holds wherever the process comes back or is lost. -/
def Keeps (I : World ρ ε σ → Prop) (p : Proc ρ ε σ α) : Prop :=
  ∀ w, I w → wp p (fun _ => I) I w

section keeps

variable {I : World ρ ε σ → Prop} {p : Proc ρ ε σ α}

theorem Keeps.pure (a : α) : Keeps I (pure a : Proc ρ ε σ α) := fun _ h => h

theorem Keeps.bind {f : α → Proc ρ ε σ β} (first : Keeps I p) (rest : ∀ a, Keeps I (f a)) :
    Keeps I (p >>= f) := by
  intro w h
  rw [wp_bind]
  exact wp_mono (first w h) (fun a v hv => rest a v hv) fun _ hv => hv

theorem Keeps.caught (body : Keeps I p) : Keeps I (Proc.caught p) := by
  intro w h
  rw [wp_caught]
  exact body w h

theorem Keeps.forM {xs : List β} {f : β → Proc ρ ε σ PUnit} (turn : ∀ x ∈ xs, Keeps I (f x)) :
    Keeps I (xs.forM f) :=
  fun _ h => wp_forM (fun x hx v hv => turn x hx v hv) h

theorem Keeps.ite {c : Prop} [Decidable c] {q : Proc ρ ε σ α} (yes : c → Keeps I p)
    (no : ¬ c → Keeps I q) : Keeps I (if c then p else q) := by
  split
  · exact yes ‹_›
  · exact no ‹_›

theorem Keeps.when {c : Prop} [Decidable c] {q : Proc ρ ε σ Unit} (yes : c → Keeps I q) :
    Keeps I (when c q) := Keeps.ite yes fun _ => Keeps.pure ()

end keeps

/-- A loop over a list, one element of which needs its own argument. -/
theorem wp_forM_once {xs : List β} {f : β → Proc ρ ε σ PUnit} (inv inv' : World ρ ε σ → Prop)
    {lost : World ρ ε σ → Prop} {x : β} (hx : x ∈ xs) (once : xs.Nodup)
    (before : ∀ y ∈ xs, y ≠ x → ∀ v, inv v → wp (f y) (fun _ => inv) lost v)
    (turn : ∀ v, inv v → wp (f x) (fun _ => inv') lost v)
    (after : ∀ y ∈ xs, y ≠ x → ∀ v, inv' v → wp (f y) (fun _ => inv') lost v)
    {w : World ρ ε σ} (start : inv w) : wp (xs.forM f) (fun _ => inv') lost w := by
  induction xs generalizing w with
  | nil => cases hx
  | cons y ys ih =>
    rw [List.nodup_cons] at once
    change wp (f y >>= fun _ => ys.forM f) _ _ w
    rw [wp_bind]
    by_cases here : y = x
    · subst here
      refine wp_mono (turn w start) (fun _ v hv => ?_) (fun _ h => h)
      refine wp_forM (fun z hz u hu => after z (List.mem_cons_of_mem _ hz) ?_ u hu) hv
      intro same
      exact once.1 (same ▸ hz)
    · refine wp_mono (before y (List.mem_cons_self ..) here w start) (fun _ v hv => ?_) (fun _ h => h)
      exact ih ((List.mem_cons.mp hx).resolve_left fun h => here h.symm) once.2
        (fun z hz => before z (List.mem_cons_of_mem _ hz))
        (fun z hz => after z (List.mem_cons_of_mem _ hz)) hv

/-- Each turn of a loop starts where `good` holds. -/
def Along (good : β → World ρ ε σ → Prop) (f : β → Proc ρ ε σ PUnit) :
    List β → World ρ ε σ → Prop
  | [], _ => True
  | x :: xs, w => good x w ∧ wp (f x) (fun _ v => Along good f xs v) (fun _ => True) w

/-- A loop over a list keeps what each turn keeps that starts where `good` holds. -/
theorem wp_forM_along {xs : List β} {good : β → World ρ ε σ → Prop} {f : β → Proc ρ ε σ PUnit}
    {inv lost : World ρ ε σ → Prop}
    (turn : ∀ x ∈ xs, ∀ v, good x v → inv v → wp (f x) (fun _ => inv) lost v)
    {w : World ρ ε σ} (along : Along good f xs w) (start : inv w) :
    wp (xs.forM f) (fun _ => inv) lost w := by
  induction xs generalizing w with
  | nil => exact start
  | cons x xs ih =>
    change wp (f x >>= fun _ => xs.forM f) _ _ w
    rw [wp_bind]
    have first := wp_and (turn x (List.mem_cons_self ..) w along.1 start) along.2
    refine wp_mono first (fun _ v hv => ?_) fun _ h => h.1
    exact ih (fun y hy => turn y (List.mem_cons_of_mem _ hy)) hv.2 hv.1

/-- Where `I` holds of the turns to come, the first may start, and leaves it of the others. -/
theorem along_of {xs : List β} {good : β → World ρ ε σ → Prop} {f : β → Proc ρ ε σ PUnit}
    {I : List β → World ρ ε σ → Prop}
    (turn : ∀ x xs v, I (x :: xs) v → good x v ∧ wp (f x) (fun _ => I xs) (fun _ => True) v)
    {w : World ρ ε σ} (start : I xs w) : Along good f xs w := by
  induction xs generalizing w with
  | nil => exact trivial
  | cons x xs ih =>
    obtain ⟨ready, next⟩ := turn x xs w start
    exact ⟨ready, wp_mono next (fun _ v hv => ih hv) fun _ _ => trivial⟩

/-- A loop over a list whose turns use up `I`. -/
theorem wp_forM_rest {xs : List β} {f : β → Proc ρ ε σ PUnit} {I : List β → World ρ ε σ → Prop}
    {lost : World ρ ε σ → Prop}
    (turn : ∀ x xs v, I (x :: xs) v → wp (f x) (fun _ => I xs) lost v)
    {w : World ρ ε σ} (start : I xs w) : wp (xs.forM f) (fun _ => I []) lost w := by
  induction xs generalizing w with
  | nil => exact start
  | cons x xs ih =>
    change wp (f x >>= fun _ => xs.forM f) _ _ w
    rw [wp_bind]
    exact wp_mono (turn x xs w start) (fun _ v hv => ih hv) fun _ h => h

instance (p : Proc ρ ε σ α) (post : α → World ρ ε σ → Prop) (lost : World ρ ε σ → Prop)
    [∀ a v, Decidable (post a v)] [DecidablePred lost] (w : World ρ ε σ) :
    Decidable (wp p post lost w) :=
  match h : p w with
  | (some a, v) => decidable_of_iff (post a v) (by rw [wp, h])
  | (none, v) => decidable_of_iff (lost v) (by rw [wp, h])

instance Along.decide (good : β → World ρ ε σ → Prop) [∀ x v, Decidable (good x v)]
    (f : β → Proc ρ ε σ PUnit) : ∀ xs w, Decidable (Along good f xs w)
  | [], _ => isTrue trivial
  | _ :: xs, _ =>
    have := Along.decide good f xs
    inferInstanceAs (Decidable (_ ∧ _))

end Proc

end YTPipe
