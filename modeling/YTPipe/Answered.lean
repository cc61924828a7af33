import YTPipe.Process

/-!
# Processes with answers to come

A process is given the answers of an endless supply one after another: what it has
done after each of them, and what it does with the rest.
-/

namespace YTPipe.Proc

variable {ρ ε σ α β : Type}

protected theorem id_map (p : Proc ρ ε σ α) : id <$> p = p := by
  funext w
  simp only [Functor.map]
  cases p w with
  | mk r v => cases r <;> rfl

protected theorem bind_assoc {γ : Type} (p : Proc ρ ε σ α) (f : α → Proc ρ ε σ β)
    (g : β → Proc ρ ε σ γ) : p >>= f >>= g = p >>= fun a => f a >>= g := by
  funext w
  simp only [bind]
  cases p w with
  | mk r v => cases r <;> rfl

instance : LawfulMonad (Proc ρ ε σ) :=
  LawfulMonad.mk' _ Proc.id_map (fun _ _ => rfl) Proc.bind_assoc

/-- What the process has done with the first `n` answers. -/
def upTo (p : Proc ρ ε σ α) (w : World ρ ε σ) (answers : Nat → ρ) (n : Nat) :
    Option α × World ρ ε σ :=
  p.run { w with replies := (List.range n).map answers }

/-- A process that cannot be lost comes back. -/
theorem back_of_wp {p : Proc ρ ε σ α} {post : α → World ρ ε σ → Prop} {w : World ρ ε σ}
    (h : wp p post (fun _ => False) w) : (p.run w).1 ≠ none := by
  unfold wp at h
  unfold run
  cases ran : p w with
  | mk result v =>
    rw [ran] at h
    cases result with
    | none => exact h.elim
    | some a => nofun

/-- Every answer is of the kind the process asks for. -/
def Apt (p : Proc ρ ε σ α) (w : World ρ ε σ) (answers : Nat → ρ) : Prop :=
  ∀ n, (p.upTo w answers n).1 = none → (p.upTo w answers n).2.replies = []

/-- The answers after the first. -/
def later (answers : Nat → ρ) : Nat → ρ := fun n => answers (n + 1)

section supply

variable {w : World ρ ε σ} {answers : Nat → ρ} {b : β} {r : ρ}

theorem answers_succ (answers : Nat → ρ) (n : Nat) :
    (List.range (n + 1)).map answers = answers 0 :: (List.range n).map (later answers) := by
  rw [List.range_succ_eq_map, List.map_cons, List.map_map]
  rfl

theorem upTo_ask_succ {view : ρ → Option β} {f : β → Proc ρ ε σ α}
    (hv : view (answers 0) = some b) (n : Nat) :
    (ask view >>= f).upTo w answers (n + 1) = (f b).upTo w (later answers) n := by
  simp only [upTo, run, bind, ask, answers_succ, hv]

theorem upTo_exchange_succ {view : ρ → Option β} {record : σ → Option β → ε}
    {f : β → Proc ρ ε σ α} (hv : view (answers 0) = some b) (n : Nat) :
    (exchange view record >>= f).upTo w answers (n + 1)
      = (f b).upTo { w with trace := record w.state (some b) :: w.trace } (later answers) n := by
  simp only [upTo, run, bind, exchange, answers_succ, hv]

/-- The first answer is of the right kind, and so are the others. -/
theorem Apt.ask {view : ρ → Option β} {f : β → Proc ρ ε σ α} (h : Apt (ask view >>= f) w answers) :
    ∃ b, view (answers 0) = some b ∧ Apt (f b) w (later answers) := by
  cases hv : view (answers 0) with
  | none =>
    have stuck := h 1
    simp only [upTo, run, bind, Proc.ask, answers_succ, hv] at stuck
    cases stuck trivial
  | some b =>
    refine ⟨b, rfl, fun n => ?_⟩
    rw [← upTo_ask_succ hv n]
    exact h (n + 1)

theorem Apt.exchange {view : ρ → Option β} {record : σ → Option β → ε} {f : β → Proc ρ ε σ α}
    (h : Apt (exchange view record >>= f) w answers) :
    ∃ b, view (answers 0) = some b
      ∧ Apt (f b) { w with trace := record w.state (some b) :: w.trace } (later answers) := by
  cases hv : view (answers 0) with
  | none =>
    have stuck := h 1
    simp only [upTo, run, bind, Proc.exchange, answers_succ, hv] at stuck
    cases stuck trivial
  | some b =>
    refine ⟨b, rfl, fun n => ?_⟩
    rw [← upTo_exchange_succ hv n]
    exact h (n + 1)

end supply

section loop

variable {body : Proc ρ ε σ (Option α)}

/-- A round that is not the last takes an answer. -/
def Takes (body : Proc ρ ε σ (Option α)) : Prop :=
  ∀ w, wp body (fun r v => r = none → v.replies.length < w.replies.length) (fun _ => True) w

/-- Any number of rounds that is more than the answers to come is enough. -/
theorem iterate_enough (takes : Takes body) {n m : Nat} {w : World ρ ε σ}
    (left : w.replies.length < n) (right : w.replies.length < m) :
    iterate body n w = iterate body m w := by
  induction n generalizing m w with
  | zero => exact absurd left (Nat.not_lt_zero _)
  | succ n ih =>
    obtain ⟨m, rfl⟩ : ∃ k, m = k + 1 := ⟨m - 1, by omega⟩
    have round := takes w
    simp only [iterate, bind, wp] at round ⊢
    cases ran : body w with
    | mk result v =>
      rw [ran] at round
      cases result with
      | none => rfl
      | some result =>
        cases result with
        | some a => rfl
        | none =>
          have fewer : v.replies.length < w.replies.length := round rfl
          exact ih (by omega) (by omega)

/-- A loop is a round, and the loop again. -/
theorem loop_eq (takes : Takes body) : loop body = body >>= fun r =>
    match r with
    | some a => pure a
    | none => loop body := by
  funext w
  have round := takes w
  simp only [loop, iterate, bind, wp] at round ⊢
  cases ran : body w with
  | mk result v =>
    rw [ran] at round
    cases result with
    | none => rfl
    | some result =>
      cases result with
      | some a => rfl
      | none => exact iterate_enough takes (round rfl) (Nat.lt_succ_self _)

end loop

end YTPipe.Proc
