import CommercePlatform.Warehouse.Build
/-!
# What new batches leave unchanged

The catalog grows from `c` to `c ++ new`, and every new object has a batch id above the
boundary `bound` (`Above`). The affected keys are computed from what lies above the
boundary in the *new* catalog; what they have to imply is that everything else reads the
*old* one. This file is that step for the parts the facts are made of:

- a current row whose batch id is not above the boundary is an old row, and it was
  current before, since adding rows only makes a later row current (`record_unchanged`);
- a key whose current row is old has not changed, and so has a selection of them
  (`records_unchanged`);
- the observations of a key up to an instant are the old ones when none of them is above
  the boundary (`observations_unchanged`), and so is the history up to that instant;
- an as-of join at `t` then finds what it found before (`versionAt_unchanged`), unless
  nothing was observed by `t`: there the first version is in force before its own time,
  and it has to be the same one.

The last point is the exception of `Warehouse.Facts`, stated as a hypothesis here and
carried as a condition from here on.
-/

namespace CommercePlatform.Warehouse

open Lib

variable {ρ κ : Type} [DecidableEq κ] {c new : Catalog} {bound : String}

/-- Every new object lies above the boundary. `Warehouse.Boundary` says when a run of builds has
this. -/
def Above (bound : String) (new : Catalog) : Prop := ∀ o ∈ new, bound < o.batchId

omit [DecidableEq κ] in
theorem Above.row (h : Above bound new) {table : ObjectRows → List ρ} {r : Landed ρ}
    (hr : r ∈ Catalog.rows table new) : bound < r.batchId := by
  obtain ⟨o, ho, hb⟩ := Catalog.object_of_row hr
  rw [← hb]
  exact h o ho

/-- The latest row of a key is unchanged when it is not new. -/
theorem latest_unchanged {ω : Type} [LinearOrder ω] {table : ObjectRows → List ρ}
    {key : Landed ρ → κ} {rank : Landed ρ → ω} {k : κ} (hnew : Above bound new)
    (h : ∀ r, latest key rank (Catalog.rows table (c ++ new)) k = some r → ¬ bound < r.batchId) :
    latest key rank (Catalog.rows table (c ++ new)) k = latest key rank (Catalog.rows table c) k := by
  cases hl : latest key rank (Catalog.rows table (c ++ new)) k with
  | none =>
    rw [latest_eq_none, Catalog.rows_append] at hl
    exact (latest_eq_none.2 fun r hr => hl r (List.mem_append_left _ hr)).symm
  | some r =>
    rw [Catalog.rows_append] at hl
    have hold : r ∉ Catalog.rows table new := fun hr => by
      refine h r ?_ (hnew.row hr)
      rw [Catalog.rows_append]
      exact hl
    exact (latest_append_old hl hold).symm

/-- A row present before is present after: what was committed stays in the catalog. -/
theorem record_persists (new : Catalog) {table : ObjectRows → List ρ} {key : ρ → κ} {time : ρ → Timestamp}
    {k : κ} (h : currentBronzeRecord table key time c k ≠ none) :
    currentBronzeRecord table key time (c ++ new) k ≠ none := by
  unfold currentBronzeRecord at h ⊢
  rw [Catalog.rows_append]
  exact latest_append_isSome h

/-- The current row of a key is unchanged when it is not above the boundary. -/
theorem record_unchanged {table : ObjectRows → List ρ} {key : ρ → κ} {time : ρ → Timestamp}
    {k : κ} (hnew : Above bound new)
    (h : ∀ r, currentBronzeRecord table key time (c ++ new) k = some r → ¬ bound < r.batchId) :
    currentBronzeRecord table key time (c ++ new) k = currentBronzeRecord table key time c k :=
  latest_unchanged hnew h

/-- A selection of current rows by key is unchanged when none of them is above
the boundary. -/
theorem records_unchanged {table : ObjectRows → List ρ} {time : ρ → Timestamp} (key : ρ → κ)
    (p : κ → Bool) (hnew : Above bound new)
    (h : ∀ r ∈ currentBronzeRecords table key time (c ++ new), p (key r.row) = true →
      ¬ bound < r.batchId) :
    (currentBronzeRecords table key time (c ++ new)).filter (fun r => p (key r.row)) =
      (currentBronzeRecords table key time c).filter fun r => p (key r.row) := by
  unfold currentBronzeRecords at h ⊢
  rw [Catalog.rows_append] at h ⊢
  refine filter_current_append (fun r : Landed ρ => key r.row) p fun k hk => ?_
  rw [← Catalog.rows_append]
  refine latest_unchanged hnew fun r hr => ?_
  have hkey : key r.row = k := key_of_latest (fun r : Landed ρ => key r.row) hr
  refine h r ?_ (hkey ▸ hk)
  rw [← Catalog.rows_append]
  exact mem_current.2 (by rw [hkey]; exact hr)

section Histories

variable {table : ObjectRows → List ρ} {key : ρ → String} {time : ρ → Timestamp}
  {hash : ρ → String}

/-- The staged observations of one table. -/
def observationsOf (table : ObjectRows → List ρ) (key : ρ → String) (time : ρ → Timestamp)
    (hash : ρ → String) (c : Catalog) : List (Landed ρ) :=
  dedupeObservations key time hash (c.rows table)

/-- The observations of `k` up to `t` are unchanged when none of them is above the boundary:
those of the new catalog up to `t` are all old rows, and deduplication kept the same ones. -/
theorem observations_unchanged {k : String} {t : Timestamp} (hnew : Above bound new)
    (h : ∀ r ∈ observationsOf table key time hash (c ++ new), key r.row = k → time r.row ≤ t →
      ¬ bound < r.batchId) :
    (observationsOf table key time hash (c ++ new)).filter
        (fun r => key r.row = k ∧ time r.row ≤ t) =
      (observationsOf table key time hash c).filter fun r => key r.row = k ∧ time r.row ≤ t := by
  unfold observationsOf dedupeObservations at h ⊢
  rw [Catalog.rows_append] at h ⊢
  refine filter_current_append (fun r : Landed ρ => (key r.row, time r.row, hash r.row))
    (fun x : ObservationKey => decide (x.1 = k ∧ x.2.1 ≤ t)) fun x hx => ?_
  rw [← Catalog.rows_append]
  refine latest_unchanged hnew fun r hr => ?_
  have hkey := key_of_latest (fun r : Landed ρ => (key r.row, time r.row, hash r.row)) hr
  subst hkey
  obtain ⟨hk, ht⟩ := of_decide_eq_true hx
  refine h r ?_ hk ht
  rw [← Catalog.rows_append]
  exact mem_current.2 hr

theorem mem_history {obs : List (Landed ρ)} {k : String} {r : Landed ρ} :
    r ∈ history key time obs k ↔ r ∈ obs ∧ key r.row = k := by
  unfold history
  rw [List.mem_insertionSort, List.mem_filter, decide_eq_true_eq]

/-- The observations of a key stand in time order. -/
theorem history_sorted (obs : List (Landed ρ)) (k : String) :
    (history key time obs k).Pairwise fun a b => time a.row ≤ time b.row := by
  refine (List.pairwise_insertionSort (Observed time) _).imp fun {a b} hab => ?_
  exact Prod.Lex.monotone_fst_ofLex hab

/-- The history of `k` up to `t` is unchanged when no observation up to `t` is new. -/
theorem history_unchanged {k : String} {t : Timestamp} (hnew : Above bound new)
    (h : ∀ r ∈ observationsOf table key time hash (c ++ new), key r.row = k → time r.row ≤ t →
      ¬ bound < r.batchId) :
    (history key time (observationsOf table key time hash (c ++ new)) k).filter
        (fun r => time r.row ≤ t) =
      (history key time (observationsOf table key time hash c) k).filter
        fun r => time r.row ≤ t := by
  have hobs := observations_unchanged hnew h
  -- select by time before sorting, on both sides
  unfold history
  rw [filter_insertionSort, filter_insertionSort, List.filter_filter, List.filter_filter]
  simp only [Bool.decide_and] at hobs
  simp only [Bool.and_comm (decide (time _ ≤ t)), hobs]

/-- What the first observation of a history gives to the first version. -/
def firstVersion (axis : Axis (Landed ρ) String Timestamp) (obs : List (Landed ρ)) :
    Option (Timestamp × String) :=
  obs.head?.map fun r => (axis.start r, axis.hash r)

/-- The version in force at `t` is unchanged when no observation up to `t` is new and something
was observed by `t` or the first version is the same. -/
theorem versionAt_unchanged (axis : Axis (Landed ρ) String Timestamp)
    (haxis : axis.time = fun r => time r.row) {k : String} {t : Timestamp}
    (hnew : Above bound new)
    (h : ∀ r ∈ observationsOf table key time hash (c ++ new), key r.row = k → time r.row ≤ t →
      ¬ bound < r.batchId)
    (hfirst : (∃ r ∈ observationsOf table key time hash (c ++ new),
        key r.row = k ∧ time r.row ≤ t) ∨
      firstVersion axis (history key time (observationsOf table key time hash (c ++ new)) k) =
        firstVersion axis (history key time (observationsOf table key time hash c) k)) :
    (asOf axis (history key time (observationsOf table key time hash (c ++ new)) k) t).map
        axis.info =
      (asOf axis (history key time (observationsOf table key time hash c) k) t).map
        axis.info := by
  have hsorted : ∀ c, (history key time (observationsOf table key time hash c) k).Pairwise
      fun a b => axis.time a ≤ axis.time b := by
    intro c
    rw [haxis]
    exact history_sorted _ k
  -- the version as of `t` is told by the observations up to `t`, or by the first one of all
  rw [asOf_eq axis t (hsorted _), asOf_eq axis t (hsorted _)]
  refine versionAt_congr axis (hsorted _) (hsorted _) ?_ ?_
  · simp only [haxis]
    exact history_unchanged hnew h
  · rcases hfirst with ⟨r, hr, hk, ht⟩ | hsame
    · refine Or.inl (List.ne_nil_of_mem (a := r) ?_)
      simp only [haxis]
      exact List.mem_filter.2 ⟨mem_history.2 ⟨hr, hk⟩, by simpa using ht⟩
    · exact Or.inr hsame

/-- A join as of any time finds a version of every observed key. -/
theorem asOf_ne_nil {axis : Axis (Landed ρ) String Timestamp}
    (haxis : axis.time = fun r => time r.row) {obs : List (Landed ρ)} {k : String}
    (t : Timestamp) (h : ∃ r ∈ obs, key r.row = k) :
    asOf axis (history key time obs k) t ≠ [] := by
  obtain ⟨r, hr, hk⟩ := h
  have hsorted : (history key time obs k).Pairwise fun a b => axis.time a ≤ axis.time b := by
    rw [haxis]
    exact history_sorted _ k
  have hne := versionAt_ne_nil axis t
    (List.ne_nil_of_mem (mem_history.2 ⟨hr, hk⟩ : r ∈ history key time obs k))
  rw [← asOf_eq axis t hsorted] at hne
  exact fun hnil => hne (by rw [hnil]; rfl)

/-- `changed_from` lies at or before `t` when an observation above the boundary does: so a key
that is not affected has no new observation by its event. -/
theorem changedFrom_le {obs : List (Landed ρ)} {k : String} {t : Timestamp} {r : Landed ρ}
    (hr : r ∈ obs) (hk : key r.row = k) (hb : bound < r.batchId) (ht : time r.row ≤ t) :
    ∃ changed ∈ changedFrom key time bound obs k, changed ≤ t := by
  unfold changedFrom
  have hmem : time r.row ∈
      (obs.filter fun r => key r.row = k ∧ bound < r.batchId).map fun r => time r.row :=
    List.mem_map_of_mem (List.mem_filter.2 ⟨hr, by simp [hk, hb]⟩)
  cases hmin : ((obs.filter fun r => key r.row = k ∧ bound < r.batchId).map
      fun r => time r.row).min? with
  | none =>
    rw [List.min?_eq_none_iff] at hmin
    rw [hmin] at hmem
    cases hmem
  | some m => exact ⟨m, rfl, le_trans ((List.min?_eq_some_iff.1 hmin).2 _ hmem) ht⟩

end Histories

end CommercePlatform.Warehouse
