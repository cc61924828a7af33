import YTPipe.Framing
import YTPipe.UnitOfWork

/-!
# The platform

What the services take from Python's standard library and the ORM and do not
look into: the digest, the printed form of a float, URL splitting, date parsing
and the flush of a document column.
-/

namespace YTPipe

open Framing (Bytes)

/-- The result of `urllib.parse.urlparse`. -/
structure ParsedUrl where
  scheme : String
  netloc : String
  path : String
  params : String
  query : String
  fragment : String

structure Platform where
  /-- `hashlib.sha256(data).hexdigest()`. -/
  sha256 : Bytes → String
  /-- `repr` of a float. -/
  floatRepr : Rat → String
  /-- `none` where the call raises. -/
  urlparse : String → Option ParsedUrl
  urljoin : String → String → Option String
  unquote : String → String
  /-- Whether `datetime.fromisoformat` gives a date with a time zone. -/
  awareDatetime : String → Bool
  flushRule : FlushRule

/-- `text.encode()`. -/
def encode (s : String) : Bytes := s.toByteArray.data.toList

theorem encode_injective {s t : String} (h : encode s = encode t) : s = t := by
  apply String.toByteArray_inj.mp
  apply ByteArray.ext
  exact Array.toList_inj.mp h

/-- Moments, in microseconds. -/
abbrev Time := Int

def seconds (n : Int) : Int := n * 1000000

/-- `if condition: raise error`. -/
def raiseIf {ε : Type} (condition : Prop) [Decidable condition] (error : ε) : Except ε Unit :=
  if condition then .error error else .ok ()

@[simp] theorem raiseIf_eq_ok {ε : Type} {c : Prop} [Decidable c] {e : ε} {u : Unit} :
    raiseIf c e = .ok u ↔ ¬ c := by
  unfold raiseIf
  split <;> simp_all

theorem bind_eq_ok {ε α β : Type} {x : Except ε α} {f : α → Except ε β} {b : β} :
    (x >>= f) = .ok b ↔ ∃ a, x = .ok a ∧ f a = .ok b := by
  cases x <;> simp [bind, Except.bind]

/-- Every error of `x` satisfies `E`. -/
def FailsWith {ε α : Type} (E : ε → Prop) (x : Except ε α) : Prop := ∀ e, x = .error e → E e

section

variable {ε δ α β : Type} {E : ε → Prop}

theorem failsWith_ok (a : α) : FailsWith E (.ok a) := fun _ h => (nomatch h)

theorem failsWith_error {e : ε} (h : E e) : FailsWith E (.error e : Except ε α) := by
  rintro _ ⟨⟩
  exact h

theorem failsWith_raiseIf {c : Prop} [Decidable c] {e : ε} (h : E e) :
    FailsWith E (raiseIf c e) := by
  unfold raiseIf
  split
  · exact failsWith_error h
  · exact failsWith_ok ()

theorem failsWith_bind {x : Except ε α} {f : α → Except ε β} (h : FailsWith E x)
    (hf : ∀ a, FailsWith E (f a)) : FailsWith E (x >>= f) := by
  cases x with
  | ok a => exact hf a
  | error e => exact failsWith_error (h e rfl)

theorem failsWith_mapError {D : δ → Prop} {x : Except ε α} {f : ε → δ} (h : FailsWith E x)
    (hf : ∀ e, E e → D (f e)) : FailsWith D (x.mapError f) := by
  cases x with
  | ok a => exact failsWith_ok a
  | error e => exact failsWith_error (hf e (h e rfl))

end

end YTPipe
