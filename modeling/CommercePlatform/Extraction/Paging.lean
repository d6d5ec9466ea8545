import CommercePlatform.Extraction.Snapshot
/-!
# The pages are the range

The pages of a snapshot, laid one behind the other, are the rows of the range in cursor
order, and the loop ends by itself. What carries the induction is that a range is known
by its rows and their order alone (`orderedRange_unique`): past the last row of a page
lies exactly the rest of the list the page was cut from.

Each round reads the first `page_size` rows above a bound, and the next bound is the
cursor of the last row read. The invariant is a statement about lists: the range above
that cursor is the old range without its first page (`orderedRange_after`), because
cursors differ and the range is sorted. A page that is shorter than asked for is the
last one, so the number of rounds is bounded by the number of rows (`pagesFrom_eq`), and
the bound on the rounds in the model is never reached.

Nothing is assumed of the order of cursors, so the result holds for the order of the
database and for the order of the code. A monotone map between two such orders changes
no page (`pages_map`), which is how one is exchanged for the other.

A page that comes out full exactly at the end of the range costs one more round, which
reads nothing; the source ends there as well, on the empty page.
-/

namespace CommercePlatform

section Range

variable {ρ κ : Type} [LinearOrder κ] {cursor : ρ → κ} {rows : List ρ} {lower upper : κ}

theorem mem_orderedRange {r : ρ} :
    r ∈ orderedRange cursor rows lower upper ↔ r ∈ rows ∧ InRange cursor lower upper r := by
  unfold orderedRange
  rw [(List.perm_insertionSort _ _).mem_iff, List.mem_filter, decide_eq_true_iff]

private theorem orderedRange_nodup (hkeys : (rows.map cursor).Nodup) :
    ((orderedRange cursor rows lower upper).map cursor).Nodup := by
  have hperm := (List.perm_insertionSort (fun a b => cursor a ≤ cursor b)
    (rows.filter fun r => InRange cursor lower upper r)).map cursor
  unfold orderedRange
  rw [hperm.nodup_iff]
  exact hkeys.sublist (List.filter_sublist.map cursor)

/-- Distinct cursors: the rows of a range stand in strictly rising order. -/
theorem orderedRange_pairwise (hkeys : (rows.map cursor).Nodup) :
    (orderedRange cursor rows lower upper).Pairwise fun a b => cursor a < cursor b := by
  have : Std.Total fun a b : ρ => cursor a ≤ cursor b := ⟨fun a b => le_total (cursor a) (cursor b)⟩
  have : IsTrans ρ fun a b => cursor a ≤ cursor b := ⟨fun _ _ _ hab hbc => hab.trans hbc⟩
  have hsorted : (orderedRange cursor rows lower upper).Pairwise
      fun a b => cursor a ≤ cursor b := List.pairwise_insertionSort _ _
  have hdistinct : (orderedRange cursor rows lower upper).Pairwise
      fun a b => cursor a ≠ cursor b := List.pairwise_map.1 (orderedRange_nodup hkeys)
  exact (hsorted.and hdistinct).imp fun h => lt_of_le_of_ne h.1 h.2

/-- A rising list of exactly the rows of a range is that range: sorting leaves no choice. -/
theorem orderedRange_unique (hkeys : (rows.map cursor).Nodup) {l : List ρ}
    (hsorted : l.Pairwise fun a b => cursor a < cursor b)
    (hmem : ∀ r, r ∈ l ↔ r ∈ rows ∧ InRange cursor lower upper r) :
    l = orderedRange cursor rows lower upper := by
  have hrange : (orderedRange cursor rows lower upper).Pairwise
      fun a b => cursor a < cursor b := orderedRange_pairwise hkeys
  have hnodup : ∀ {l : List ρ}, l.Pairwise (fun a b => cursor a < cursor b) → l.Nodup :=
    fun h => h.imp fun hlt he => absurd (congrArg cursor he) hlt.ne
  have hperm : l.Perm (orderedRange cursor rows lower upper) := by
    rw [List.perm_ext_iff_of_nodup (hnodup hsorted) (hnodup hrange)]
    intro r
    rw [hmem, mem_orderedRange]
  exact List.Perm.eq_of_pairwise (fun a b _ _ hab hba => absurd hab hba.asymm) hsorted hrange hperm

/-- Past the last row of a full page lies the rest of the range, in the same order. -/
theorem orderedRange_after (hkeys : (rows.map cursor).Nodup) {n : Nat} {last : ρ}
    (hlast : (fetchPage cursor rows lower upper n).getLast? = some last) :
    orderedRange cursor rows (cursor last) upper =
      (orderedRange cursor rows lower upper).drop n := by
  have hsorted : (orderedRange cursor rows lower upper).Pairwise
      fun a b => cursor a < cursor b := orderedRange_pairwise hkeys
  rw [← List.take_append_drop n (orderedRange cursor rows lower upper)] at hsorted
  obtain ⟨hfront, hback, hcross⟩ := List.pairwise_append.1 hsorted
  unfold fetchPage at hlast
  obtain ⟨init, hinit⟩ := List.getLast?_eq_some_iff.1 hlast
  have hmemLast : last ∈ (orderedRange cursor rows lower upper).take n := by
    rw [hinit]
    exact List.mem_append_right _ (List.mem_singleton.2 rfl)
  -- no row of the page lies above its last one
  have htop : ∀ r ∈ (orderedRange cursor rows lower upper).take n, cursor r ≤ cursor last := by
    intro r hr
    rw [hinit] at hr hfront
    rcases List.mem_append.1 hr with hr | hr
    · exact ((List.pairwise_append.1 hfront).2.2 r hr last (List.mem_singleton.2 rfl)).le
    · rw [List.mem_singleton.1 hr]
  refine (orderedRange_unique hkeys hback fun r => ?_).symm
  have hlower : lower < cursor last := (mem_orderedRange.1 (List.mem_of_mem_take hmemLast)).2.1
  constructor
  · intro hr
    obtain ⟨hrow, -, hle⟩ := mem_orderedRange.1 (List.mem_of_mem_drop hr)
    exact ⟨hrow, hcross last hmemLast r hr, hle⟩
  · rintro ⟨hrow, hlt, hle⟩
    have hr : r ∈ orderedRange cursor rows lower upper :=
      mem_orderedRange.2 ⟨hrow, hlower.trans hlt, hle⟩
    rw [← List.take_append_drop n (orderedRange cursor rows lower upper)] at hr
    rcases List.mem_append.1 hr with hr | hr
    · exact absurd hlt (htop r hr).not_gt
    · exact hr

/-! ## The loop -/

variable {pageSize : Nat}

theorem length_fetchPage : (fetchPage cursor rows lower upper pageSize).length =
    min pageSize (orderedRange cursor rows lower upper).length := List.length_take

/-- With more rounds than rows, the pages are the range: the induction is on the rounds, with the
range above the current bound. -/
theorem pagesFrom_flatten (hkeys : (rows.map cursor).Nodup) (hsize : 0 < pageSize) {fuel : Nat}
    (hfuel : (orderedRange cursor rows lower upper).length < fuel) :
    (pagesFrom cursor rows upper pageSize fuel lower).flatten =
      orderedRange cursor rows lower upper := by
  induction fuel generalizing lower with
  | zero => omega
  | succ fuel ih =>
    simp only [pagesFrom]
    split
    next hnone =>
      -- an empty page: nothing is left
      have hempty := congrArg List.length (List.getLast?_eq_none_iff.1 hnone)
      rw [length_fetchPage, List.length_nil] at hempty
      exact (List.eq_nil_of_length_eq_zero (by omega)).symm
    next last hlast =>
      have hrest := orderedRange_after hkeys hlast
      by_cases hshort : (fetchPage cursor rows lower upper pageSize).length < pageSize
      · -- a short page is the last one
        rw [if_pos hshort, List.flatten_singleton, fetchPage]
        rw [length_fetchPage] at hshort
        exact List.take_of_length_le (by omega)
      · rw [if_neg hshort, List.flatten_cons, ih, hrest, fetchPage, List.take_append_drop]
        rw [length_fetchPage] at hshort
        rw [hrest, List.length_drop]
        omega

theorem length_orderedRange_le : (orderedRange cursor rows lower upper).length ≤ rows.length := by
  unfold orderedRange
  rw [(List.perm_insertionSort _ _).length_eq]
  exact List.length_filter_le _ _

/-- The loop ends by itself: more rounds than `pages` allows change nothing. -/
theorem pagesFrom_eq (hkeys : (rows.map cursor).Nodup) (hsize : 0 < pageSize) {fuel fuel' : Nat}
    (hfuel : (orderedRange cursor rows lower upper).length < fuel) (hle : fuel ≤ fuel') :
    pagesFrom cursor rows upper pageSize fuel' lower =
      pagesFrom cursor rows upper pageSize fuel lower := by
  induction fuel generalizing lower fuel' with
  | zero => omega
  | succ fuel ih =>
    obtain ⟨fuel', rfl⟩ : ∃ m, fuel' = m + 1 := ⟨fuel' - 1, by omega⟩
    simp only [pagesFrom]
    split
    next => rfl
    next last hlast =>
      have hrest := orderedRange_after hkeys hlast
      by_cases hshort : (fetchPage cursor rows lower upper pageSize).length < pageSize
      · rw [if_pos hshort, if_pos hshort]
      · rw [if_neg hshort, if_neg hshort, ih ?_ (by omega)]
        rw [length_fetchPage] at hshort
        rw [hrest, List.length_drop]
        omega

theorem pages_flatten (hkeys : (rows.map cursor).Nodup) (hsize : 0 < pageSize) :
    (pages cursor rows lower upper pageSize).flatten = orderedRange cursor rows lower upper :=
  pagesFrom_flatten hkeys hsize (Nat.lt_succ_of_le length_orderedRange_le)

/-- The frozen bound is a row's cursor, and no row lies above it. -/
theorem fetchUpperBound_eq_some {u : κ} (h : fetchUpperBound cursor rows lower = some u) :
    (∃ r ∈ rows, cursor r = u) ∧ lower < u ∧ ∀ r ∈ rows, cursor r ≤ u := by
  obtain ⟨hmem, htop⟩ := List.max?_eq_some_iff.1 h
  obtain ⟨hmem, hlt⟩ := List.mem_filter.1 hmem
  have hlt := of_decide_eq_true hlt
  refine ⟨List.mem_map.1 hmem, hlt, fun r hr => ?_⟩
  by_contra hgt
  have hr' : cursor r ∈ (rows.map cursor).filter fun c => lower < c :=
    List.mem_filter.2 ⟨List.mem_map_of_mem hr, decide_eq_true (hlt.trans (not_le.1 hgt))⟩
  exact hgt (htop _ hr')

theorem fetchUpperBound_eq_none :
    fetchUpperBound cursor rows lower = none ↔ ∀ r ∈ rows, cursor r ≤ lower := by
  unfold fetchUpperBound
  rw [List.max?_eq_none_iff, List.filter_eq_nil_iff]
  simp

/-- Up to the frozen bound, the range is every row above the lower one. -/
theorem mem_orderedRange_fetchUpperBound {u : κ}
    (h : fetchUpperBound cursor rows lower = some u) {r : ρ} :
    r ∈ orderedRange cursor rows lower u ↔ r ∈ rows ∧ lower < cursor r := by
  rw [mem_orderedRange]
  exact ⟨fun ⟨hr, hin⟩ => ⟨hr, hin.1⟩,
    fun ⟨hr, hlt⟩ => ⟨hr, hlt, (fetchUpperBound_eq_some h).2.2 r hr⟩⟩

end Range

section Map

variable {ρ κ κ' : Type} [LinearOrder κ] [LinearOrder κ'] {f : κ → κ'} (hf : StrictMono f)
  (cursor : ρ → κ) (rows : List ρ)

include hf

theorem orderedRange_map (lower upper : κ) :
    orderedRange (fun r => f (cursor r)) rows (f lower) (f upper) =
      orderedRange cursor rows lower upper := by
  simp only [orderedRange, InRange, hf.lt_iff_lt, hf.le_iff_le]
  congr

theorem pagesFrom_map (upper : κ) (pageSize fuel : Nat) (lower : κ) :
    pagesFrom (fun r => f (cursor r)) rows (f upper) pageSize fuel (f lower) =
      pagesFrom cursor rows upper pageSize fuel lower := by
  induction fuel generalizing lower with
  | zero => rfl
  | succ fuel ih =>
    simp only [pagesFrom, fetchPage, orderedRange_map hf, ih]
    rfl

/-- A monotone change of cursors changes no page. -/
theorem pages_map (lower upper : κ) (pageSize : Nat) :
    pages (fun r => f (cursor r)) rows (f lower) (f upper) pageSize =
      pages cursor rows lower upper pageSize := pagesFrom_map hf cursor rows ..

theorem fetchUpperBound_map (lower : κ) :
    fetchUpperBound (fun r => f (cursor r)) rows (f lower) =
      (fetchUpperBound cursor rows lower).map f := by
  cases h : fetchUpperBound cursor rows lower with
  | none =>
    rw [Option.map_none, fetchUpperBound_eq_none]
    exact fun r hr => hf.monotone (fetchUpperBound_eq_none.1 h r hr)
  | some u =>
    obtain ⟨⟨r, hr, rfl⟩, hlt, htop⟩ := fetchUpperBound_eq_some h
    rw [Option.map_some, fetchUpperBound, List.max?_eq_some_iff]
    refine ⟨List.mem_filter.2 ⟨List.mem_map.2 ⟨r, hr, rfl⟩, decide_eq_true (hf hlt)⟩, ?_⟩
    intro c hc
    obtain ⟨r', hr', rfl⟩ := List.mem_map.1 (List.mem_filter.1 hc).1
    exact hf.monotone (htop r' hr')

end Map

end CommercePlatform
