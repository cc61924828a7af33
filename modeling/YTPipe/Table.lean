/-!
# Tables

Rows under a unique key, in the order in which they were inserted.
-/

namespace YTPipe

structure Table (κ Row : Type) (key : Row → κ) where
  rows : List Row
  distinct : (rows.map key).Nodup

namespace Table

variable {κ Row : Type} {key : Row → κ}

def empty : Table κ Row key := ⟨[], List.nodup_nil⟩

variable [DecidableEq κ] (t : Table κ Row key)

def get (k : κ) : Option Row := t.rows.find? (fun r => key r = k)

theorem map_key_alter (rows : List Row) (k : κ) (f : Row → Row) (keeps : ∀ r, key (f r) = key r) :
    (rows.map fun r => if key r = k then f r else r).map key = rows.map key := by
  rw [List.map_map]
  apply List.map_congr_left
  intro r _
  simp only [Function.comp_apply]
  split
  · exact keeps r
  · rfl

/-- Changes the row under a key, if there is one. -/
def alter (k : κ) (f : Row → Row) (keeps : ∀ r, key (f r) = key r) : Table κ Row key where
  rows := t.rows.map fun r => if key r = k then f r else r
  distinct := by rw [map_key_alter _ _ _ keeps]; exact t.distinct

omit [DecidableEq κ] in
theorem map_key_map (rows : List Row) (f : Row → Row) (keeps : ∀ r, key (f r) = key r) :
    (rows.map f).map key = rows.map key := by
  rw [List.map_map]
  exact List.map_congr_left fun r _ => keeps r

/-- Changes every row. -/
def map (f : Row → Row) (keeps : ∀ r, key (f r) = key r) : Table κ Row key where
  rows := t.rows.map f
  distinct := by rw [map_key_map _ _ keeps]; exact t.distinct

theorem get_eq_none {k : κ} : t.get k = none ↔ k ∉ t.rows.map key := by
  simp only [get, List.find?_eq_none, List.mem_map, decide_eq_true_eq]
  constructor
  · rintro h ⟨r, hr, same⟩
    exact h r hr same
  · intro h r hr same
    exact h ⟨r, hr, same⟩

/-- The table with one more row; a key that is taken is refused. -/
def insert (r : Row) : Option (Table κ Row key) :=
  if h : t.get (key r) = none then
    some ⟨t.rows ++ [r], by
      rw [List.map_append, List.map_singleton, List.nodup_append]
      refine ⟨t.distinct, by simp, ?_⟩
      intro k hk k' hk' same
      rw [List.mem_singleton] at hk'
      subst hk' same
      exact t.get_eq_none.mp h hk⟩
  else none

/-- Changes the row under a key; a key without a row gets a new one. -/
def upsert (k : κ) (new : Row) (f : Row → Row) (keeps : ∀ r, key (f r) = key r) :
    Table κ Row key :=
  match t.get k with
  | some _ => t.alter k f keeps
  | none => (t.insert new).getD t

/-- The keys of the rows a query finds. -/
def select (p : Row → Bool) : List κ := (t.rows.filter p).map key

variable {t}

omit [DecidableEq κ] in
theorem select_nodup {p : Row → Bool} : (t.select p).Nodup :=
  t.distinct.sublist (List.filter_sublist.map key)

theorem key_of_get {k : κ} {r : Row} (h : t.get k = some r) : key r = k := by
  simpa using List.find?_some h

theorem mem_of_get {k : κ} {r : Row} (h : t.get k = some r) : r ∈ t.rows := List.mem_of_find?_eq_some h

theorem get_of_mem {r : Row} (h : r ∈ t.rows) : t.get (key r) = some r := by
  obtain ⟨rows, distinct⟩ := t
  simp only [get]
  induction rows with
  | nil => cases h
  | cons first rest ih =>
    rw [List.map_cons, List.nodup_cons] at distinct
    rcases List.mem_cons.mp h with rfl | h
    · simp
    · have apart : key first ≠ key r := by
        intro same
        exact distinct.1 (same ▸ List.mem_map_of_mem h)
      rw [List.find?_cons_of_neg (by simpa using apart)]
      exact ih distinct.2 h

theorem get_alter {k k' : κ} {f : Row → Row} {keeps : ∀ r, key (f r) = key r} :
    (t.alter k f keeps).get k' = if k' = k then (t.get k').map f else t.get k' := by
  obtain ⟨rows, distinct⟩ := t
  simp only [get, alter]
  clear distinct
  induction rows with
  | nil => simp
  | cons r rest ih =>
    have kept : key (if key r = k then f r else r) = key r := by
      split
      · exact keeps r
      · rfl
    by_cases here : key r = k'
    · rw [List.map_cons, List.find?_cons_of_pos (by simpa [kept] using here),
        List.find?_cons_of_pos (by simpa using here)]
      subst here
      split <;> rfl
    · rw [List.map_cons, List.find?_cons_of_neg (by simpa [kept] using here),
        List.find?_cons_of_neg (by simpa using here)]
      exact ih

theorem get_map {k : κ} {f : Row → Row} {keeps : ∀ r, key (f r) = key r} :
    (t.map f keeps).get k = (t.get k).map f := by
  obtain ⟨rows, distinct⟩ := t
  simp only [get, map]
  clear distinct
  induction rows with
  | nil => rfl
  | cons r rest ih =>
    rw [List.map_cons]
    by_cases here : key r = k
    · rw [List.find?_cons_of_pos (by simpa [keeps] using here),
        List.find?_cons_of_pos (by simpa using here)]
      rfl
    · rw [List.find?_cons_of_neg (by simpa [keeps] using here),
        List.find?_cons_of_neg (by simpa using here)]
      exact ih

theorem absent_of_insert {t' : Table κ Row key} {r : Row} (h : t.insert r = some t') :
    t.get (key r) = none := by
  unfold insert at h
  split at h
  · assumption
  · cases h

/-- Only a row under the same key is in the way of another. -/
theorem taken_of_insert {r : Row} (h : t.insert r = none) : ∃ r', t.get (key r) = some r' := by
  unfold insert at h
  split at h
  · cases h
  · next taken => exact Option.ne_none_iff_exists'.mp taken

theorem get_insert {t' : Table κ Row key} {r : Row} (h : t.insert r = some t') (k : κ) :
    t'.get k = if k = key r then some r else t.get k := by
  unfold insert at h
  split at h
  · next fresh =>
    cases h
    simp only [get, List.find?_append]
    by_cases here : k = key r
    · subst here
      rw [if_pos rfl]
      have := fresh
      unfold get at this
      simp [this]
    · rw [if_neg here]
      have apart : ¬ key r = k := fun same => here same.symm
      simp [apart]
  · cases h

theorem get_upsert {k k' : κ} {new : Row} {f : Row → Row} {keeps : ∀ r, key (f r) = key r}
    (same : key new = k) : (t.upsert k new f keeps).get k'
      = if k' = k then some (((t.get k).map f).getD new) else t.get k' := by
  unfold upsert
  cases found : t.get k with
  | some r =>
    rw [get_alter]
    by_cases here : k' = k
    · simp [here, found]
    · simp [here]
  | none =>
    have fresh : t.get (key new) = none := by rw [same, found]
    have inserted : ∃ t', t.insert new = some t' := by
      unfold insert
      exact ⟨_, dif_pos fresh⟩
    obtain ⟨t', inserted⟩ := inserted
    simp only [inserted, Option.getD_some, get_insert inserted k', same, Option.map_none,
      Option.getD_none]

theorem mem_select {p : Row → Bool} {k : κ} :
    k ∈ t.select p ↔ ∃ r, t.get k = some r ∧ p r = true := by
  unfold select
  rw [List.mem_map]
  constructor
  · rintro ⟨r, hr, rfl⟩
    rw [List.mem_filter] at hr
    exact ⟨r, get_of_mem hr.1, hr.2⟩
  · rintro ⟨r, hr, hp⟩
    exact ⟨r, List.mem_filter.mpr ⟨mem_of_get hr, hp⟩, key_of_get hr⟩

end Table

end YTPipe
