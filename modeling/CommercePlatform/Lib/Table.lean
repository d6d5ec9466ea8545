import Mathlib.Data.List.Nodup
/-!
# Keyed tables

A relational table with a primary key, as a list of rows whose keys are pairwise
distinct. The list is the insertion order, which SQL does not promise and no statement
below depends on; the three operations are the ones a transaction uses:

* `get` — the row at a key, if any (`SELECT … WHERE key = k`);
* `insert` — a new row at a free key;
* `modify` — rewrite the row at a key, keeping its key (`UPDATE … WHERE key = k`).

The key is a function of the row and its uniqueness a field of the structure, so a table
with two rows of one key cannot be built: `insert` takes the proof that the key is free,
and `modify` the proof that the rewriting keeps the key. Whoever models a statement has
to decide what it does where the key is taken, as the statement itself does with `ON
CONFLICT` or by raising.

Every operation has its `get` lemma (`get_insert`, `get_modify_self`, `get_modify_ne`);
proofs about transactions use these and never look at the list.

`IndexedTable` adds a second `UNIQUE` column, for tables with a natural key beside the
primary one; `eq_of_index` is what the second index is for.
-/

namespace CommercePlatform.Lib

/-- Rows with pairwise distinct primary keys. The order of the list is that of the insertions. -/
structure Table (ρ κ : Type) (key : ρ → κ) where
  rows : List ρ
  unique : (rows.map key).Nodup

namespace Table

variable {ρ κ : Type} {key : ρ → κ} [DecidableEq κ]

omit [DecidableEq κ] in
/-- A table is its rows. -/
@[ext] theorem ext {t t' : Table ρ κ key} (h : t.rows = t'.rows) : t = t' := by
  obtain ⟨rows, hu⟩ := t
  obtain ⟨rows', hu'⟩ := t'
  obtain rfl : rows = rows' := h
  rfl

/-- The table without rows. -/
def empty : Table ρ κ key := ⟨[], List.nodup_nil⟩

/-- The row at key `k`. -/
def get (t : Table ρ κ key) (k : κ) : Option ρ := t.rows.find? fun r => key r = k

theorem get_eq_some {t : Table ρ κ key} {k : κ} {r : ρ} :
    t.get k = some r ↔ r ∈ t.rows ∧ key r = k := by
  constructor
  · intro h
    exact ⟨List.mem_of_find?_eq_some h, by simpa using List.find?_some h⟩
  · rintro ⟨hr, rfl⟩
    cases hf : t.get (key r) with
    | none => exact absurd (List.find?_eq_none.1 hf r hr) (by simp)
    | some r' =>
      have hr' : r' ∈ t.rows := List.mem_of_find?_eq_some hf
      have hk : key r' = key r := by simpa using List.find?_some hf
      rw [List.inj_on_of_nodup_map t.unique hr' hr hk]

theorem get_eq_none {t : Table ρ κ key} {k : κ} :
    t.get k = none ↔ ∀ r ∈ t.rows, key r ≠ k := by
  simp [get]

theorem key_of_get {t : Table ρ κ key} {k : κ} {r : ρ} (h : t.get k = some r) : key r = k :=
  (get_eq_some.1 h).2

theorem mem_of_get {t : Table ρ κ key} {k : κ} {r : ρ} (h : t.get k = some r) : r ∈ t.rows :=
  (get_eq_some.1 h).1

theorem get_of_mem {t : Table ρ κ key} {r : ρ} (h : r ∈ t.rows) : t.get (key r) = some r :=
  get_eq_some.2 ⟨h, rfl⟩

@[simp] theorem get_empty (k : κ) : (empty : Table ρ κ key).get k = none := rfl

omit [DecidableEq κ] in
@[simp] theorem rows_empty : (empty : Table ρ κ key).rows = [] := rfl

/-- Add a row at a free key. -/
def insert (t : Table ρ κ key) (r : ρ) (h : t.get (key r) = none) : Table ρ κ key where
  rows := t.rows ++ [r]
  unique := by
    rw [List.map_append, List.nodup_append]
    refine ⟨t.unique, by simp, ?_⟩
    intro a ha b hb
    obtain ⟨r', hr', rfl⟩ := List.mem_map.1 ha
    obtain rfl : b = key r := by simpa using hb
    exact get_eq_none.1 h r' hr'

@[simp] theorem rows_insert (t : Table ρ κ key) (r : ρ) (h : t.get (key r) = none) :
    (t.insert r h).rows = t.rows ++ [r] := rfl

theorem get_insert (t : Table ρ κ key) (r : ρ) (h : t.get (key r) = none) (k : κ) :
    (t.insert r h).get k = if k = key r then some r else t.get k := by
  unfold get insert
  rw [List.find?_append]
  split
  next hk =>
    rw [show t.rows.find? (fun r => key r = k) = none by rw [hk]; exact h]
    simp [hk]
  next hk =>
    have hne : ¬ key r = k := fun he => hk he.symm
    simp [hne]

/-- Rewrite the row at `k` without changing its key; a table without such a row stays. -/
def modify (t : Table ρ κ key) (k : κ) (f : ρ → ρ) (hf : ∀ r, key (f r) = key r) :
    Table ρ κ key where
  rows := t.rows.map fun r => if key r = k then f r else r
  unique := by
    have hkey : key ∘ (fun r => if key r = k then f r else r) = key := by
      funext r
      simp only [Function.comp]
      split <;> simp [hf]
    rw [List.map_map, hkey]
    exact t.unique

theorem get_modify (t : Table ρ κ key) (k : κ) (f : ρ → ρ) (hf : ∀ r, key (f r) = key r)
    (k' : κ) :
    (t.modify k f hf).get k' = if k' = k then (t.get k').map f else t.get k' := by
  have hpred : ((fun r => decide (key r = k')) ∘ fun r => if key r = k then f r else r)
      = fun r => decide (key r = k') := by
    funext r
    simp only [Function.comp]
    split <;> simp [hf]
  unfold get modify
  rw [List.find?_map, hpred]
  cases hg : t.rows.find? (fun r => decide (key r = k')) with
  | none => simp
  | some r =>
    have hr : key r = k' := by simpa using List.find?_some hg
    by_cases hk : k' = k <;> simp [hr, hk]

theorem get_modify_self (t : Table ρ κ key) (k : κ) (f : ρ → ρ)
    (hf : ∀ r, key (f r) = key r) : (t.modify k f hf).get k = (t.get k).map f := by
  simp [get_modify]

theorem get_modify_ne (t : Table ρ κ key) {k k' : κ} (f : ρ → ρ)
    (hf : ∀ r, key (f r) = key r) (h : k' ≠ k) : (t.modify k f hf).get k' = t.get k' := by
  simp [get_modify, h]

end Table

/-- A table with a second `UNIQUE` column `index`: no two rows share its value either. -/
structure IndexedTable (ρ κ ι : Type) (key : ρ → κ) (index : ρ → ι) extends
    Table ρ κ key where
  indexUnique : (rows.map index).Nodup

namespace IndexedTable

variable {ρ κ ι : Type} {key : ρ → κ} {index : ρ → ι} [DecidableEq κ] [DecidableEq ι]

/-- The table without rows. -/
def empty : IndexedTable ρ κ ι key index := ⟨Table.empty, List.nodup_nil⟩

omit [DecidableEq κ] [DecidableEq ι] in
@[ext] theorem ext {t t' : IndexedTable ρ κ ι key index} (h : t.rows = t'.rows) : t = t' := by
  obtain ⟨t, hu⟩ := t
  obtain ⟨t', hu'⟩ := t'
  obtain rfl : t = t' := Table.ext h
  rfl

/-- Neither the key nor the index value of the row is taken. -/
def Free (t : IndexedTable ρ κ ι key index) (r : ρ) : Prop :=
  t.toTable.get (key r) = none ∧ ∀ r' ∈ t.rows, index r' ≠ index r

instance (t : IndexedTable ρ κ ι key index) (r : ρ) : Decidable (t.Free r) :=
  inferInstanceAs (Decidable (_ ∧ _))

/-- Add a row whose key and index value are both free. -/
def insert (t : IndexedTable ρ κ ι key index) (r : ρ) (h : t.Free r) :
    IndexedTable ρ κ ι key index where
  toTable := t.toTable.insert r h.1
  indexUnique := by
    rw [Table.rows_insert, List.map_append, List.nodup_append]
    refine ⟨t.indexUnique, by simp, ?_⟩
    intro a ha b hb
    obtain ⟨r', hr', rfl⟩ := List.mem_map.1 ha
    obtain rfl : b = index r := by simpa using hb
    exact h.2 r' hr'

omit [DecidableEq ι] in
@[simp] theorem rows_insert (t : IndexedTable ρ κ ι key index) (r : ρ) (h : t.Free r) :
    (t.insert r h).rows = t.rows ++ [r] := rfl

omit [DecidableEq κ] [DecidableEq ι] in
/-- Two rows with one index value are one row. -/
theorem eq_of_index {t : IndexedTable ρ κ ι key index} {r r' : ρ} (hr : r ∈ t.rows)
    (hr' : r' ∈ t.rows) (h : index r = index r') : r = r' :=
  List.inj_on_of_nodup_map t.indexUnique hr hr' h

end IndexedTable

end CommercePlatform.Lib
