import Mathlib.Algebra.Group.Nat.Defs

/-!
# Length-prefixed frames

A frame is four big-endian bytes for the length and then the bytes themselves.
A sequence of frames can be taken apart in one way only.
-/

namespace YTPipe.Framing

abbrev Bytes := List UInt8

/-- `n.to_bytes(4, "big")`, of a number that fits. -/
def be32 (n : Nat) : Bytes :=
  [UInt8.ofNat (n / 2 ^ 24), UInt8.ofNat (n / 2 ^ 16), UInt8.ofNat (n / 2 ^ 8), UInt8.ofNat n]

/-- A frame; a length of `2^32` or more has none. -/
def frame (b : Bytes) : Option Bytes :=
  if b.length < 2 ^ 32 then some (be32 b.length ++ b) else none

/-- The frames of several byte strings, joined. -/
def frames : List Bytes → Option Bytes
  | [] => some []
  | b :: bs => do
    let head ← frame b
    let tail ← frames bs
    return head ++ tail

theorem be32_injective {m n : Nat} (hm : m < 2 ^ 32) (hn : n < 2 ^ 32)
    (h : be32 m = be32 n) : m = n := by
  simp only [be32, List.cons.injEq, and_true, ← UInt8.toNat_inj, UInt8.toNat_ofNat'] at h
  omega

theorem frame_eq_some {b f : Bytes} (h : frame b = some f) :
    b.length < 2 ^ 32 ∧ f = be32 b.length ++ b := by
  unfold frame at h
  split at h
  · next hb => exact ⟨hb, (Option.some.inj h).symm⟩
  · cases h

/-- The first frame of a joined sequence is known from the bytes. -/
theorem frame_append_injective {a b fa fb ra rb : Bytes} (ha : frame a = some fa)
    (hb : frame b = some fb) (h : fa ++ ra = fb ++ rb) : a = b ∧ ra = rb := by
  obtain ⟨la, rfl⟩ := frame_eq_some ha
  obtain ⟨lb, rfl⟩ := frame_eq_some hb
  simp only [List.append_assoc] at h
  obtain ⟨hlen, htail⟩ := List.append_inj h (by simp [be32])
  exact List.append_inj htail (be32_injective la lb hlen)

theorem frame_ne_nil {b f : Bytes} (h : frame b = some f) : f ≠ [] := by
  obtain ⟨_, rfl⟩ := frame_eq_some h
  simp [be32]

theorem frames_cons {b out : Bytes} {bs : List Bytes} (h : frames (b :: bs) = some out) :
    ∃ f rest, frame b = some f ∧ frames bs = some rest ∧ out = f ++ rest := by
  simp only [frames, bind, Option.bind_eq_some_iff, pure, Option.some.injEq] at h
  obtain ⟨f, hf, rest, hrest, rfl⟩ := h
  exact ⟨f, rest, hf, hrest, rfl⟩

/-- Short byte strings have frames. -/
theorem frames_of_short {bs : List Bytes} (short : ∀ b ∈ bs, b.length < 2 ^ 32) :
    ∃ out, frames bs = some out := by
  induction bs with
  | nil => exact ⟨[], rfl⟩
  | cons b bs ih =>
    obtain ⟨rest, hrest⟩ := ih fun c hc => short c (List.mem_cons_of_mem _ hc)
    have own : frame b = some (be32 b.length ++ b) := if_pos (short b (List.mem_cons_self ..))
    refine ⟨be32 b.length ++ b ++ rest, ?_⟩
    simp only [frames, own, hrest]
    rfl

theorem frames_injective {xs ys : List Bytes} {out : Bytes} (hx : frames xs = some out)
    (hy : frames ys = some out) : xs = ys := by
  induction xs generalizing ys out with
  | nil =>
    cases ys with
    | nil => rfl
    | cons y ys =>
      obtain ⟨f, rest, hf, _, rfl⟩ := frames_cons hy
      simp [frames, frame_ne_nil hf] at hx
  | cons x xs ih =>
    obtain ⟨f, rest, hf, hrest, rfl⟩ := frames_cons hx
    cases ys with
    | nil => simp [frames, frame_ne_nil hf] at hy
    | cons y ys =>
      obtain ⟨g, rest', hg, hrest', heq⟩ := frames_cons hy
      obtain ⟨rfl, rfl⟩ := frame_append_injective hf hg heq
      rw [ih hrest hrest']

end YTPipe.Framing
