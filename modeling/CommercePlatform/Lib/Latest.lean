import Mathlib.Data.List.MinMax
/-!
# The latest version per key

Append-only rows carry a key and a rank; the *current* relation keeps, for each key, the
row of largest rank. It is the result of

`row_number() over (partition by key order by rank desc) = 1`

Growing the rows at the end changes the current row of a key only through a new row of
that key (`latest_append_old`), and a part of the current relation is unchanged when the
latest row of each of its keys is (`filter_current_append`). These two facts are what
incremental maintenance rests on: which keys to recompute can be read off the new rows
alone.

Ranks are any linear order. Of two rows of one key with the same rank the earlier one in
the list is kept, which a window function leaves open; a user whose ranks can tie has to
say why the choice does not matter, or carry the position in the rank.

The current relation lists its keys in order of first appearance, once each. Nothing here
depends on that order; the relations built from it are compared as sets of rows.
-/

namespace CommercePlatform.Lib

variable {ρ κ ω : Type} [DecidableEq κ] [LinearOrder ω]

/-- The elements of a list without repetitions, in order of first appearance. -/
def distinct : List κ → List κ
  | [] => []
  | k :: ks => k :: (distinct ks).filter (fun k' => k' ≠ k)

theorem mem_distinct {k : κ} : ∀ {ks : List κ}, k ∈ distinct ks ↔ k ∈ ks
  | [] => Iff.rfl
  | k' :: ks => by
    simp only [distinct, List.mem_cons, List.mem_filter, mem_distinct]
    by_cases h : k = k' <;> simp [h]

theorem nodup_distinct : ∀ ks : List κ, (distinct ks).Nodup
  | [] => List.nodup_nil
  | k :: ks => by
    refine List.nodup_cons.2 ⟨by simp, (nodup_distinct ks).filter _⟩

/-- Appending adds only the keys not there before, behind the old ones. -/
theorem distinct_append (ks ks' : List κ) :
    distinct (ks ++ ks') = distinct ks ++ (distinct ks').filter (fun k => k ∉ ks) := by
  induction ks with
  | nil => simp [distinct]
  | cons k ks ih =>
    simp only [List.cons_append, distinct, ih, List.filter_append, List.filter_filter]
    congr 2
    refine List.filter_congr fun k' _ => ?_
    by_cases hk : k' = k <;> simp [hk]

/-- The row of largest rank with key `k`, the first of them where several tie. -/
def latest (key : ρ → κ) (rank : ρ → ω) (rows : List ρ) (k : κ) : Option ρ :=
  (rows.filter fun r => key r = k).argmax rank

variable {key : ρ → κ} {rank : ρ → ω} {rows new : List ρ} {k : κ} {r : ρ}

theorem key_of_latest (key : ρ → κ) (h : latest key rank rows k = some r) : key r = k := by
  have hm := List.argmax_mem (Option.mem_def.2 h)
  simpa using (List.mem_filter.1 hm).2

theorem mem_of_latest (h : latest key rank rows k = some r) : r ∈ rows :=
  (List.mem_filter.1 (List.argmax_mem (Option.mem_def.2 h))).1

theorem latest_eq_none : latest key rank rows k = none ↔ ∀ r ∈ rows, key r ≠ k := by
  unfold latest
  rw [List.argmax_eq_none]
  simp

/-- The maximum of a longer list is the old maximum or a new element, never another old one. -/
theorem argmax_append {f : ρ → ω} {l : List ρ} {m : ρ} :
    ∀ {l' : List ρ}, m ∈ (l ++ l').argmax f → m ∈ l.argmax f ∨ m ∈ l' := by
  intro l'
  induction l' using List.reverseRecOn generalizing m with
  | nil => intro h; exact Or.inl (by simpa using h)
  | append_singleton l' a ih =>
    rw [← List.append_assoc, List.argmax_concat]
    intro h
    cases hc : (l ++ l').argmax f with
    | none =>
      rw [hc] at h
      obtain rfl : a = m := by simpa using h
      exact Or.inr (by simp)
    | some c =>
      rw [hc] at h
      by_cases hlt : f c < f a
      · obtain rfl : a = m := by simpa [hlt] using h
        exact Or.inr (by simp)
      · obtain rfl : c = m := by simpa [hlt] using h
        rcases ih (Option.mem_def.2 hc) with hl | hl'
        · exact Or.inl hl
        · exact Or.inr (List.mem_append_left _ hl')

/-- A latest row that is not new was the latest row before: new rows only take the place of a
latest row, they do not uncover an older one. -/
theorem latest_append_old (h : latest key rank (rows ++ new) k = some r) (hold : r ∉ new) :
    latest key rank rows k = some r := by
  unfold latest at h ⊢
  rw [List.filter_append] at h
  rcases argmax_append (Option.mem_def.2 h) with hm | hm
  · exact hm
  · exact absurd (List.mem_filter.1 hm).1 hold

/-- A key present before is present after. -/
theorem latest_append_isSome (h : latest key rank rows k ≠ none) :
    latest key rank (rows ++ new) k ≠ none := by
  rw [Ne, latest_eq_none] at h ⊢
  intro hall
  exact h fun r hr => hall r (List.mem_append_left _ hr)

/-! ## The current relation -/

/-- The latest row of every key: the relation a staging model selects with `row_number() … = 1`. -/
def current (key : ρ → κ) (rank : ρ → ω) (rows : List ρ) : List ρ :=
  (distinct (rows.map key)).filterMap (latest key rank rows)

theorem mem_current : r ∈ current key rank rows ↔ latest key rank rows (key r) = some r := by
  unfold current
  rw [List.mem_filterMap]
  constructor
  · rintro ⟨k, -, hk⟩
    rw [key_of_latest key hk]
    exact hk
  · intro h
    exact ⟨key r, mem_distinct.2 (List.mem_map_of_mem (mem_of_latest h)), h⟩

theorem mem_of_current (h : r ∈ current key rank rows) : r ∈ rows :=
  mem_of_latest (mem_current.1 h)

/-- A part of the current relation, selected by key, is unchanged by new rows
when the latest row of each of its keys is. -/
theorem filter_current_append (key : ρ → κ) (p : κ → Bool)
    (h : ∀ k, p k = true → latest key rank (rows ++ new) k = latest key rank rows k) :
    (current key rank (rows ++ new)).filter (fun r => p (key r)) =
      (current key rank rows).filter (fun r => p (key r)) := by
  -- selecting rows by key is selecting the keys first
  have hselect : ∀ rows : List ρ, (current key rank rows).filter (fun r => p (key r)) =
      ((distinct (rows.map key)).filter p).filterMap (latest key rank rows) := by
    intro rows
    unfold current
    rw [List.filter_filterMap, List.filterMap_filter]
    refine List.filterMap_congr fun k _ => ?_
    cases hl : latest key rank rows k with
    | none => simp
    | some r =>
      rw [Option.filter_some, key_of_latest key hl]
  rw [hselect, hselect, List.map_append, distinct_append, List.filter_append,
    List.filterMap_append]
  have hnew : (((distinct (new.map key)).filter (fun k => k ∉ rows.map key)).filter p).filterMap
      (latest key rank (rows ++ new)) = [] := by
    rw [List.filterMap_eq_nil_iff]
    intro k hk
    simp only [List.mem_filter, decide_eq_true_eq] at hk
    rw [h k hk.2, latest_eq_none]
    rintro r hr rfl
    exact hk.1.2 (List.mem_map_of_mem hr)
  rw [hnew, List.append_nil]
  exact List.filterMap_congr fun k hk => h k (List.mem_filter.1 hk).2

end CommercePlatform.Lib
