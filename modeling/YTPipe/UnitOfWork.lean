/-!
# A row in a unit of work

One row of a store as a session holds it: what is durable, what the open
transaction has written, and the object in memory. One column may hold a
document, an object of its own that can be changed in place; whether such a
change reaches the store is decided by the flush rule.
-/

namespace YTPipe

/-- When a flush writes a document column that was assigned to. -/
inductive FlushRule
  | assigned
  /-- Only when the value differs from the one of the object that was loaded. -/
  | changed
  deriving DecidableEq, Repr

/-- A column of a row. -/
structure Column (Row Doc : Type) where
  get : Row → Doc
  set : Doc → Row → Row
  get_set : ∀ d r, get (set d r) = d
  set_get : ∀ r, set (get r) r = r
  set_set : ∀ d d' r, set d (set d' r) = set d r

/-- The column of a row that has no document. -/
def Column.none (Row : Type) : Column Row Unit where
  get _ := ()
  set _ r := r
  get_set _ _ := rfl
  set_get _ := rfl
  set_set _ _ _ := rfl

/-- A row in a session. `present` names the document object the attribute holds,
`loaded` the one it held when it was last loaded, whose value is now
`loadedValue`; `fresh` is the next unused name. -/
structure Instance (Row Doc : Type) where
  durable : Row
  flushed : Row
  current : Row
  present : Nat
  loaded : Nat
  loadedValue : Doc
  fresh : Nat

namespace Instance

variable {Row Doc : Type} (col : Column Row Doc) (rule : FlushRule)

/-- A row of the store, just loaded. -/
def load (r : Row) : Instance Row Doc := ⟨r, r, r, 0, 0, col.get r, 1⟩

/-- Drops the objects in memory: the next access loads the row again. -/
def expire (i : Instance Row Doc) : Instance Row Doc :=
  { i with
    current := i.flushed
    present := i.fresh
    loaded := i.fresh
    loadedValue := col.get i.flushed
    fresh := i.fresh + 1 }

def rollback (i : Instance Row Doc) : Instance Row Doc :=
  { i with flushed := i.durable }.expire col

/-- Assigns to columns other than the document. -/
def modify (f : Row → Row) (i : Instance Row Doc) : Instance Row Doc :=
  { i with current := f i.current }

/-- Assigns a document that was just built. -/
def assign (d : Doc) (i : Instance Row Doc) : Instance Row Doc :=
  { i with current := col.set d i.current, present := i.fresh, fresh := i.fresh + 1 }

/-- Changes the document object `object` in place to the value `d` and assigns it. -/
def assignMutated (object : Nat) (d : Doc) (i : Instance Row Doc) : Instance Row Doc :=
  { i with
    current := col.set d i.current
    present := object
    loadedValue := if i.loaded = object then d else i.loadedValue }

/-- What a flush writes. -/
def written [DecidableEq Doc] (i : Instance Row Doc) : Row :=
  if rule = .assigned ∨ col.get i.current ≠ i.loadedValue then i.current
  else col.set (col.get i.flushed) i.current

def flush [DecidableEq Doc] (i : Instance Row Doc) : Instance Row Doc :=
  { i with
    flushed := i.written col rule
    loaded := i.present
    loadedValue := col.get i.current }

def commit [DecidableEq Doc] (i : Instance Row Doc) : Instance Row Doc :=
  let i := i.flush col rule
  { i with durable := i.flushed }.expire col

/-- A flush now writes what is in memory. -/
def Faithful (i : Instance Row Doc) : Prop :=
  rule = .assigned ∨ i.loadedValue = col.get i.flushed

/-- Every document object in memory is older than the next one. -/
def Named (i : Instance Row Doc) : Prop := i.present < i.fresh ∧ i.loaded < i.fresh

variable {col rule} {i : Instance Row Doc}

theorem faithful_expire : (i.expire col).Faithful col rule := .inr rfl

theorem faithful_rollback : (i.rollback col).Faithful col rule := .inr rfl

theorem faithful_modify {f : Row → Row} (h : i.Faithful col rule) :
    (i.modify f).Faithful col rule := h

theorem faithful_assign {d : Doc} (h : i.Faithful col rule) :
    (i.assign col d).Faithful col rule := h

theorem faithful_assignMutated {o : Nat} {d : Doc} (h : i.Faithful col rule)
    (ho : i.loaded ≠ o) : (i.assignMutated col o d).Faithful col rule := by
  rcases h with h | h
  · exact .inl h
  · exact .inr (by simpa only [assignMutated, if_neg ho] using h)

@[simp] theorem rollback_durable : (i.rollback col).durable = i.durable := rfl
@[simp] theorem rollback_flushed : (i.rollback col).flushed = i.durable := rfl
@[simp] theorem rollback_current : (i.rollback col).current = i.durable := rfl
@[simp] theorem modify_durable {f : Row → Row} : (i.modify f).durable = i.durable := rfl
@[simp] theorem modify_flushed {f : Row → Row} : (i.modify f).flushed = i.flushed := rfl
@[simp] theorem modify_current {f : Row → Row} : (i.modify f).current = f i.current := rfl

variable [DecidableEq Doc]

theorem written_of_faithful (h : i.Faithful col rule) : i.written col rule = i.current := by
  unfold written
  split
  · rfl
  · next hc =>
    obtain ⟨hr, hv⟩ := not_or.mp hc
    have hv : col.get i.current = i.loadedValue := Decidable.not_not.mp hv
    rcases h with h | h
    · exact absurd h hr
    · rw [← h, ← hv, col.set_get]

/-- Whatever the rule, a flush writes every other column. -/
theorem written_eq_set (col : Column Row Doc) (rule : FlushRule) (i : Instance Row Doc) :
    ∃ d, i.written col rule = col.set d i.current := by
  unfold written
  split
  · exact ⟨col.get i.current, (col.set_get _).symm⟩
  · exact ⟨_, rfl⟩

theorem faithful_flush (h : i.Faithful col rule) : (i.flush col rule).Faithful col rule :=
  .inr (by simp only [flush, written_of_faithful h])

/-- A second flush writes the same. -/
theorem written_flush : (i.flush col rule).written col rule = i.written col rule := by
  by_cases hr : rule = .assigned
  · simp [written, flush, hr]
  · obtain ⟨d, hd⟩ := written_eq_set col rule i
    have kept : (i.flush col rule).written col rule
        = col.set (col.get (i.written col rule)) i.current := by
      simp [written, flush, hr]
    rw [kept, hd, col.get_set]

theorem faithful_commit : (i.commit col rule).Faithful col rule := .inr rfl

/-- A document changed in place while it is the loaded one is not written, with
whatever columns are assigned after it. -/
theorem written_assignMutated_loaded {d : Doc} {f : Row → Row} (hr : rule = .changed)
    (keeps : ∀ r, col.get (f r) = col.get r) :
    ((i.assignMutated col i.loaded d).modify f).written col rule
      = col.set (col.get i.flushed) (f (col.set d i.current)) := by
  subst hr
  simp [written, assignMutated, modify, keeps, col.get_set]

@[simp] theorem commit_durable : (i.commit col rule).durable = i.written col rule := rfl
@[simp] theorem commit_flushed : (i.commit col rule).flushed = i.written col rule := rfl
@[simp] theorem commit_current : (i.commit col rule).current = i.written col rule := rfl
@[simp] theorem flush_durable : (i.flush col rule).durable = i.durable := rfl
@[simp] theorem flush_current : (i.flush col rule).current = i.current := rfl
@[simp] theorem flush_flushed : (i.flush col rule).flushed = i.written col rule := rfl

end Instance

end YTPipe
