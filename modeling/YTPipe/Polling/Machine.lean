import YTPipe.Polling.Poll

/-!
# The delivery machine

What an e-mail delivery is for: one send, and one more in a later run where the
first one failed in a way that may pass. A delivery's history is what was done
for it and not rolled back; the machine says which histories there are.
-/

namespace YTPipe.Polling

/-- Something done for a delivery. -/
inductive Mark
  | sent (run : Nat) (outcome : EmailOutcome)
  | skipped
  deriving DecidableEq

/-- The run of a send. -/
def Mark.run : Mark → Option Nat
  | .sent run _ => some run
  | .skipped => none

def Mark.isSend (m : Mark) : Bool := m.run.isSome

def DeliveryStatus.next : DeliveryStatus → Mark → Option DeliveryStatus
  | .pending, .sent _ .returned => some .delivered
  | .pending, .sent _ (.failed _ true) => some .pendingRetry
  | .pending, .sent _ (.failed _ false) => some .failed
  | .pendingRetry, .sent _ .returned => some .delivered
  | .pendingRetry, .sent _ (.failed _ _) => some .failed
  | .pending, .skipped => some .skipped
  | .pendingRetry, .skipped => some .skipped
  | .skipped, .skipped => some .skipped
  | _, _ => none

def DeliveryStatus.after (s : DeliveryStatus) : List Mark → Option DeliveryStatus
  | [] => some s
  | m :: h => (s.next m).bind (·.after h)

/-- The status a history leads to. -/
abbrev machine (h : List Mark) : Option DeliveryStatus := DeliveryStatus.pending.after h

/-- A delivery no send is made for. -/
def DeliveryStatus.terminal (s : DeliveryStatus) : Prop := s = .delivered ∨ s = .failed ∨ s = .skipped

theorem after_append (s : DeliveryStatus) (h h' : List Mark) :
    s.after (h ++ h') = (s.after h).bind (·.after h') := by
  induction h generalizing s with
  | nil => rfl
  | cons m h ih =>
    simp only [List.cons_append, DeliveryStatus.after]
    cases s.next m with
    | none => rfl
    | some s' => exact ih s'

theorem machine_append (h h' : List Mark) :
    machine (h ++ h') = (machine h).bind (·.after h') := after_append ..

theorem machine_concat (h : List Mark) (m : Mark) :
    machine (h ++ [m]) = (machine h).bind (·.next m) := by
  rw [machine_append]
  cases machine h with
  | none => rfl
  | some s =>
    simp only [DeliveryStatus.after, Option.bind_some]
    cases s.next m <;> rfl

/-- The sends of a history. -/
def sends (h : List Mark) : List Mark := h.filter Mark.isSend

@[simp] theorem sends_nil : sends [] = [] := rfl

@[simp] theorem sends_sent (i : Nat) (o : EmailOutcome) (h : List Mark) :
    sends (.sent i o :: h) = .sent i o :: sends h := rfl

@[simp] theorem sends_skipped (h : List Mark) : sends (.skipped :: h) = sends h := rfl

@[simp] theorem sends_append (h h' : List Mark) : sends (h ++ h') = sends h ++ sends h' :=
  List.filter_append ..

theorem next_terminal {s s' : DeliveryStatus} {m : Mark} (ht : s.terminal)
    (hn : s.next m = some s') : m = .skipped ∧ s' = s := by
  rcases ht with rfl | rfl | rfl <;> cases m <;> cases hn
  exact ⟨rfl, rfl⟩

theorem next_pendingRetry {s : DeliveryStatus} {m : Mark}
    (hn : DeliveryStatus.pendingRetry.next m = some s) : s.terminal := by
  cases m with
  | skipped =>
    cases hn
    exact .inr (.inr rfl)
  | sent i outcome =>
    cases outcome <;> cases hn
    · exact .inl rfl
    · exact .inr (.inl rfl)

theorem next_pending {s : DeliveryStatus} {m : Mark}
    (hn : DeliveryStatus.pending.next m = some s) :
    s.terminal ∨ s = .pendingRetry ∧ ∃ i text, m = .sent i (.failed text true) := by
  cases m with
  | skipped =>
    cases hn
    exact .inl (.inr (.inr rfl))
  | sent i outcome =>
    cases outcome with
    | returned =>
      cases hn
      exact .inl (.inl rfl)
    | failed text retryable =>
      cases retryable <;> cases hn
      · exact .inl (.inr (.inl rfl))
      · exact .inr ⟨rfl, i, text, rfl⟩

/-- A terminal delivery is not sent again. -/
theorem after_terminal {s s' : DeliveryStatus} {h : List Mark} (ht : s.terminal)
    (ha : s.after h = some s') : sends h = [] ∧ s' = s := by
  induction h with
  | nil => exact ⟨rfl, (Option.some.inj ha).symm⟩
  | cons m h ih =>
    simp only [DeliveryStatus.after, Option.bind_eq_some_iff] at ha
    obtain ⟨t, hn, ha⟩ := ha
    obtain ⟨rfl, rfl⟩ := next_terminal ht hn
    exact ih ha

theorem not_terminal_pending : ¬ DeliveryStatus.pending.terminal := by
  rintro (h | h | h) <;> cases h

theorem not_terminal_pendingRetry : ¬ DeliveryStatus.pendingRetry.terminal := by
  rintro (h | h | h) <;> cases h

theorem after_pendingRetry {s : DeliveryStatus} {h : List Mark}
    (ha : DeliveryStatus.pendingRetry.after h = some s) :
    (sends h).length ≤ 1 ∧ (h = [] ∨ s.terminal) := by
  cases h with
  | nil => exact ⟨Nat.zero_le _, .inl rfl⟩
  | cons m h =>
    simp only [DeliveryStatus.after, Option.bind_eq_some_iff] at ha
    obtain ⟨t, hn, ha⟩ := ha
    have ht := next_pendingRetry hn
    obtain ⟨none, rfl⟩ := after_terminal ht ha
    refine ⟨?_, .inr ht⟩
    cases m <;> simp [none]

/-- What a history that leads to a status looks like. -/
theorem machine_cases {s : DeliveryStatus} {h : List Mark} (hm : machine h = some s) :
    (s = .pending ∧ h = [])
      ∨ (s = .pendingRetry ∧ ∃ i text, h = [.sent i (.failed text true)])
      ∨ (s.terminal ∧ (sends h).length ≤ 2 ∧ ∀ a b rest, sends h = a :: b :: rest →
        ∃ i text, a = .sent i (.failed text true)) := by
  cases h with
  | nil => exact .inl ⟨(Option.some.inj hm).symm, rfl⟩
  | cons m h =>
    simp only [machine, DeliveryStatus.after, Option.bind_eq_some_iff] at hm
    obtain ⟨t, hn, ha⟩ := hm
    rcases next_pending hn with ht | ⟨rfl, i, text, rfl⟩
    · obtain ⟨none, rfl⟩ := after_terminal ht ha
      refine .inr (.inr ⟨ht, ?_, ?_⟩)
      · cases m <;> simp [none]
      · intro a b rest two
        cases m <;> simp [none] at two
    · obtain ⟨bound, rfl | ht⟩ := after_pendingRetry ha
      · cases ha
        exact .inr (.inl ⟨rfl, i, text, rfl⟩)
      · refine .inr (.inr ⟨ht, by simp only [sends_sent, List.length_cons]; omega, ?_⟩)
        intro a b rest two
        rw [sends_sent, List.cons.injEq] at two
        exact ⟨i, text, two.1.symm⟩

theorem machine_pending {h : List Mark} (hm : machine h = some .pending) : h = [] := by
  rcases machine_cases hm with ⟨-, h⟩ | ⟨no, -⟩ | ⟨no, -⟩
  · exact h
  · cases no
  · exact absurd no not_terminal_pending

/-- At most two sends, the second after a failure that may pass. -/
theorem machine_sends {s : DeliveryStatus} {h : List Mark} (hm : machine h = some s) :
    (sends h).length ≤ 2 ∧
      ∀ a b rest, sends h = a :: b :: rest → ∃ i text, a = .sent i (.failed text true) := by
  rcases machine_cases hm with ⟨-, rfl⟩ | ⟨-, i, text, rfl⟩ | ⟨-, h⟩
  · exact ⟨Nat.zero_le _, fun _ _ _ two => nomatch two⟩
  · exact ⟨by simp, fun _ _ _ two => nomatch two⟩
  · exact h

theorem machine_terminal {h h' : List Mark} {s s' : DeliveryStatus} (hm : machine h = some s)
    (ht : s.terminal) (hm' : machine (h ++ h') = some s') : sends h' = [] ∧ s' = s := by
  rw [machine_append, hm] at hm'
  exact after_terminal ht hm'

/-- A history with an accepted send leads to a delivered delivery. -/
theorem machine_returned {s : DeliveryStatus} {h : List Mark} {i : Nat} (hm : machine h = some s)
    (accepted : .sent i .returned ∈ h) : s = .delivered := by
  obtain ⟨before, after, rfl⟩ := List.append_of_mem accepted
  rw [machine_append, Option.bind_eq_some_iff] at hm
  obtain ⟨t, -, ha⟩ := hm
  rw [DeliveryStatus.after, Option.bind_eq_some_iff] at ha
  obtain ⟨t', hn, ha⟩ := ha
  have delivered : t' = .delivered := by
    cases t <;> cases hn <;> rfl
  subst delivered
  exact (after_terminal (.inl rfl) ha).2

end YTPipe.Polling
