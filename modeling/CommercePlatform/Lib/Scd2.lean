import Mathlib.Data.List.Sort
/-!
# Slowly changing dimensions from observations

An entity is observed at times; consecutive observations with the same attribute hash
are one version. The versions of an entity carry windows: the first is effective from
minus infinity, every other from its first observation, and each ends where the next one
starts.

`windows` is the table a type-2 dimension stores, `asOf` the rows of it a join at an
instant `t` finds. For observations sorted by time, the join finds the last version
observed at or before `t`, or the first version when nothing was observed by then
(`asOf_eq`). It follows that observations after `t` do not matter, with one exception:
the first one, when there is none before (`versionAt_congr`). That exception is what makes an
incremental build of facts go wrong where a parent arrives after its child, so it is
stated on its own (`versionAt_of_observed`, `versionAt_of_unobserved`).

The windows are never compared with each other. The proof replaces them by `versionAt`,
which folds over the observations and keeps the version in force, and shows by induction
on the sorted observations that the join selects the same row: before the first
observation after `t` every window but the last one has ended, and behind it none has
begun (`filter_laterWindows`).
-/

namespace CommercePlatform.Lib

variable {ο η τ : Type} [DecidableEq η] [LinearOrder τ]

/-- What a history reads of an observation: its time, its attribute hash, and the start it gives
the version when it is the first of all. -/
structure Axis (ο η τ : Type) where
  time : ο → τ
  hash : ο → η
  start : ο → τ

/-- The observations whose hash differs from that of the observation before: `lag(hash) over
(partition by entity order by time)` is null or another hash. -/
def changedAfter (hash : ο → η) : Option η → List ο → List ο
  | _, [] => []
  | previous, o :: os =>
    if previous = some (hash o) then changedAfter hash (some (hash o)) os
    else o :: changedAfter hash (some (hash o)) os

/-- A version with its window; `none` is an infinite bound. -/
structure Window (ο τ : Type) where
  version : ο
  validFrom : τ
  effectiveFrom : Option τ
  validTo : Option τ

/-- `effective_from <= t and t < coalesce(valid_to, 'infinity')`. -/
def Window.Covers (w : Window ο τ) (t : τ) : Prop :=
  (∀ e ∈ w.effectiveFrom, e ≤ t) ∧ ∀ u ∈ w.validTo, t < u

instance (t : τ) : DecidablePred fun w : Window ο τ => w.Covers t :=
  fun _ => inferInstanceAs (Decidable (_ ∧ _))

/-- The windows of the versions after the first: each starts at its observation and ends where
the next one starts, the last one nowhere. -/
def laterWindows (a : Axis ο η τ) : List ο → List (Window ο τ)
  | [] => []
  | o :: os => ⟨o, a.time o, some (a.time o), os.head?.map a.time⟩ :: laterWindows a os

/-- The versions of an entity from its observations in time order. -/
def windows (a : Axis ο η τ) (obs : List ο) : List (Window ο τ) :=
  match changedAfter a.hash none obs with
  | [] => []
  | o :: os => ⟨o, a.start o, none, os.head?.map a.time⟩ :: laterWindows a os

/-- The rows an as-of join at `t` finds. -/
def asOf (a : Axis ο η τ) (obs : List ο) (t : τ) : List (Window ο τ) :=
  (windows a obs).filter fun w => w.Covers t

/-- What identifies a version: when it became valid, and its attributes. -/
def Axis.info (a : Axis ο η τ) (w : Window ο τ) : τ × η := (w.validFrom, a.hash w.version)

omit [DecidableEq η] in
theorem covers_first {o : ο} {v : τ} {u : Option τ} {t : τ} :
    (⟨o, v, none, u⟩ : Window ο τ).Covers t ↔ ∀ y ∈ u, t < y := by
  simp [Window.Covers]

omit [DecidableEq η] in
theorem covers_later {o : ο} {v e : τ} {u : Option τ} {t : τ} :
    (⟨o, v, some e, u⟩ : Window ο τ).Covers t ↔ e ≤ t ∧ ∀ y ∈ u, t < y := by
  simp [Window.Covers]

omit [DecidableEq η] in
/-- When the first of sorted observations lies after `t`, all do. -/
theorem filter_time_eq_nil (a : Axis ο η τ) {t : τ} {o : ο} {os : List ο}
    (hsorted : (o :: os).Pairwise fun o o' => a.time o ≤ a.time o') (ho : t < a.time o) :
    (o :: os).filter (fun o => a.time o ≤ t) = [] := by
  refine List.filter_eq_nil_iff.2 fun x hx => ?_
  have hx' : a.time o ≤ a.time x := by
    rcases List.mem_cons.1 hx with rfl | hx
    · exact le_refl _
    · exact (List.pairwise_cons.1 hsorted).1 x hx
  simpa using lt_of_lt_of_le ho hx'

omit [DecidableEq η] in
/-- Among later versions the join finds the last one observed by `t`. -/
theorem filter_laterWindows (a : Axis ο η τ) (t : τ) :
    ∀ {os : List ο}, os.Pairwise (fun o o' => a.time o ≤ a.time o') →
      ((laterWindows a os).filter fun w => w.Covers t).map a.info =
        ((os.filter fun o => a.time o ≤ t).getLast?.map fun o => (a.time o, a.hash o)).toList
  | [], _ => rfl
  | [o], _ => by
    by_cases ho : a.time o ≤ t <;> simp [laterWindows, covers_later, Axis.info, ho]
  | o :: o' :: os, hsorted => by
    obtain ⟨hle, hrest⟩ := List.pairwise_cons.1 hsorted
    have ih := filter_laterWindows a t hrest
    rw [laterWindows]
    by_cases ho' : a.time o' ≤ t
    · -- the next version starts by `t`, so this one has ended
      have ho : a.time o ≤ t := le_trans (hle o' (by simp)) ho'
      rw [List.filter_cons_of_neg (by simp [covers_later, ho']), ih]
      simp [ho, ho']
    · -- nothing later has started
      have hlt : t < a.time o' := not_le.1 ho'
      have hnil := filter_time_eq_nil a hrest hlt
      rw [hnil] at ih
      by_cases ho : a.time o ≤ t
      · rw [List.filter_cons_of_pos (by simp [covers_later, ho, hlt]), List.map_cons, ih,
          List.filter_cons_of_pos (by simpa using ho), hnil]
        rfl
      · rw [List.filter_cons_of_neg (by simp [covers_later, ho]), ih,
          List.filter_cons_of_neg (by simpa using ho), hnil]

theorem changedAfter_sublist (hash : ο → η) :
    ∀ (previous : Option η) (os : List ο), (changedAfter hash previous os).Sublist os
  | _, [] => List.Sublist.slnil
  | previous, o :: os => by
    rw [changedAfter]
    split
    · exact (changedAfter_sublist hash _ os).cons o
    · exact (changedAfter_sublist hash _ os).cons_cons o

theorem changedAfter_none_cons (hash : ο → η) (o : ο) (os : List ο) :
    changedAfter hash none (o :: os) = o :: changedAfter hash (some (hash o)) os := by
  simp [changedAfter]

/-- The hash a run of observations leaves behind. -/
def lastHash (hash : ο → η) (previous : Option η) (os : List ο) : Option η :=
  (os.getLast?.map hash).or previous

theorem changedAfter_append (hash : ο → η) :
    ∀ (previous : Option η) (os os' : List ο),
      changedAfter hash previous (os ++ os') =
        changedAfter hash previous os ++ changedAfter hash (lastHash hash previous os) os'
  | previous, [], os' => by simp [changedAfter, lastHash]
  | previous, o :: os, os' => by
    have hlast : lastHash hash (some (hash o)) os = lastHash hash previous (o :: os) := by
      unfold lastHash
      rw [List.getLast?_cons]
      cases os.getLast? <;> simp
    rw [List.cons_append, changedAfter, changedAfter, changedAfter_append hash (some (hash o)),
      hlast]
    split <;> simp

/-- The version in force at `t`, computed without windows: the last one observed by `t`, or the
first one where none was. -/
def versionAt (a : Axis ο η τ) (obs : List ο) (t : τ) : List (τ × η) :=
  match changedAfter a.hash none obs with
  | [] => []
  | o :: os =>
    match (os.filter fun o => a.time o ≤ t).getLast? with
    | none => [(a.start o, a.hash o)]
    | some o' => [(a.time o', a.hash o')]

/-- An as-of join finds the last version observed by `t`, else the first one, where the
observations are sorted by time. -/
theorem asOf_eq (a : Axis ο η τ) {obs : List ο} (t : τ)
    (hsorted : obs.Pairwise fun o o' => a.time o ≤ a.time o') :
    (asOf a obs t).map a.info = versionAt a obs t := by
  have hchanged := hsorted.sublist (changedAfter_sublist a.hash none obs)
  unfold asOf windows versionAt
  cases hc : changedAfter a.hash none obs with
  | nil => rfl
  | cons o os =>
    rw [hc] at hchanged
    obtain ⟨-, hrest⟩ := List.pairwise_cons.1 hchanged
    have hlater := filter_laterWindows a t hrest
    -- one observation is one open window; otherwise the window that covers `t` is the last begun
    cases os with
    | nil => simp [covers_first, laterWindows, Axis.info]
    | cons o' os =>
      by_cases ho' : a.time o' ≤ t
      · have hsome : ((o' :: os).filter fun o => a.time o ≤ t).getLast? ≠ none := by
          simp [ho']
        obtain ⟨l, hl⟩ := Option.ne_none_iff_exists'.1 hsome
        rw [hl] at hlater
        rw [List.filter_cons_of_neg (by simp [covers_first, ho']), hlater]
        dsimp only
        rw [hl]
        rfl
      -- the second change is later than `t`, so the first window is the one
      · have hlt : t < a.time o' := not_le.1 ho'
        have hnil := filter_time_eq_nil a hrest hlt
        rw [hnil] at hlater
        rw [List.filter_cons_of_pos (by simp [covers_first, hlt]), List.map_cons, hlater]
        dsimp only
        rw [hnil]
        rfl

/-- An entity with an observation has exactly one version in force. -/
theorem versionAt_ne_nil (a : Axis ο η τ) {obs : List ο} (t : τ) (h : obs ≠ []) :
    versionAt a obs t ≠ [] := by
  cases obs with
  | nil => exact absurd rfl h
  | cons o os =>
    unfold versionAt
    rw [changedAfter_none_cons]
    dsimp only
    split <;> simp

/-! ## Observations after `t` -/

/-- With an observation by `t`, only the observations by `t` count. -/
theorem versionAt_of_observed (a : Axis ο η τ) {early late : List ο} {t : τ}
    (hearly : ∀ o ∈ early, a.time o ≤ t) (hlate : ∀ o ∈ late, t < a.time o) (h : early ≠ []) :
    versionAt a (early ++ late) t = versionAt a early t := by
  cases early with
  | nil => exact absurd rfl h
  | cons o os =>
    unfold versionAt
    rw [changedAfter_append, changedAfter_none_cons, List.cons_append]
    dsimp only
    have hdrop : ∀ previous, (changedAfter a.hash previous late).filter
        (fun o => a.time o ≤ t) = [] := by
      intro previous
      refine List.filter_eq_nil_iff.2 fun x hx => ?_
      simpa using hlate x ((changedAfter_sublist a.hash previous late).subset hx)
    rw [List.filter_append, hdrop, List.append_nil]

/-- Before every observation, the first one counts. -/
theorem versionAt_of_unobserved (a : Axis ο η τ) {obs : List ο} {t : τ}
    (hlate : ∀ o ∈ obs, t < a.time o) :
    versionAt a obs t = (obs.head?.map fun o => (a.start o, a.hash o)).toList := by
  cases obs with
  | nil => rfl
  | cons o os =>
    unfold versionAt
    rw [changedAfter_none_cons]
    dsimp only
    have hdrop : (changedAfter a.hash (some (a.hash o)) os).filter (fun o => a.time o ≤ t) = [] := by
      refine List.filter_eq_nil_iff.2 fun x hx => ?_
      have hx' := (changedAfter_sublist a.hash (some (a.hash o)) os).subset hx
      simpa using hlate x (List.mem_cons_of_mem _ hx')
    rw [hdrop]
    rfl

omit [DecidableEq η] in
/-- Sorted observations are those by `t` followed by those after. -/
theorem split_at_time (a : Axis ο η τ) (t : τ) :
    ∀ {obs : List ο}, obs.Pairwise (fun o o' => a.time o ≤ a.time o') →
      obs = (obs.filter fun o => a.time o ≤ t) ++ obs.filter fun o => t < a.time o
  | [], _ => rfl
  | o :: os, hsorted => by
    obtain ⟨hle, hrest⟩ := List.pairwise_cons.1 hsorted
    have ih := split_at_time a t hrest
    by_cases ho : a.time o ≤ t
    · rw [List.filter_cons_of_pos (by simpa using ho),
        List.filter_cons_of_neg (by simpa using ho), List.cons_append, ← ih]
    · have hall : ∀ x ∈ os, t < a.time x := fun x hx => lt_of_lt_of_le (not_le.1 ho) (hle x hx)
      have hearly : os.filter (fun o => a.time o ≤ t) = [] :=
        List.filter_eq_nil_iff.2 fun x hx => by simpa using hall x hx
      have hlate : os.filter (fun o => t < a.time o) = os :=
        List.filter_eq_self.2 fun x hx => by simpa using hall x hx
      rw [List.filter_cons_of_neg (by simpa using ho),
        List.filter_cons_of_pos (by simpa using not_le.1 ho), hearly, hlate, List.nil_append]

/-- Two sorted histories that agree by `t` have the same version at `t`, provided something was
observed by `t` or their first observations agree. -/
theorem versionAt_congr (a : Axis ο η τ) {obs obs' : List ο} {t : τ}
    (hsorted : obs.Pairwise fun o o' => a.time o ≤ a.time o')
    (hsorted' : obs'.Pairwise fun o o' => a.time o ≤ a.time o')
    (hearly : obs.filter (fun o => a.time o ≤ t) = obs'.filter fun o => a.time o ≤ t)
    (hfirst : obs.filter (fun o => a.time o ≤ t) ≠ [] ∨
      (obs.head?.map fun o => (a.start o, a.hash o)) =
        obs'.head?.map fun o => (a.start o, a.hash o)) :
    versionAt a obs t = versionAt a obs' t := by
  by_cases hnil : obs.filter (fun o => a.time o ≤ t) = []
  · have hlate : ∀ o ∈ obs, t < a.time o := fun o ho => by
      simpa using List.filter_eq_nil_iff.1 hnil o ho
    have hlate' : ∀ o ∈ obs', t < a.time o := fun o ho => by
      rw [hearly] at hnil
      simpa using List.filter_eq_nil_iff.1 hnil o ho
    have hhead := hfirst.resolve_left (not_not.2 hnil)
    rw [versionAt_of_unobserved a hlate, versionAt_of_unobserved a hlate', hhead]
  · have hle : ∀ o ∈ obs.filter (fun o => a.time o ≤ t), a.time o ≤ t := fun o ho => by
      simpa using (List.mem_filter.1 ho).2
    have hgt : ∀ l : List ο, ∀ o ∈ l.filter (fun o => t < a.time o), t < a.time o :=
      fun l o ho => by simpa using (List.mem_filter.1 ho).2
    rw [split_at_time a t hsorted, split_at_time a t hsorted', ← hearly,
      versionAt_of_observed a hle (hgt obs) hnil, versionAt_of_observed a hle (hgt obs') hnil]

section Sorting

variable {α : Type} (r : α → α → Prop) [DecidableRel r]

theorem orderedInsert_of_forall {a : α} {l : List α} (h : ∀ b ∈ l, r a b) :
    l.orderedInsert r a = a :: l := by
  cases l with
  | nil => rfl
  | cons b l => exact List.orderedInsert_cons_of_le r l (h b List.mem_cons_self)

variable [IsTrans α r]

theorem filter_orderedInsert (p : α → Bool) (a : α) :
    ∀ {l : List α}, l.Pairwise r → (l.orderedInsert r a).filter p =
      if p a then (l.filter p).orderedInsert r a else l.filter p
  | [], _ => by
    by_cases ha : p a <;> simp [ha]
  | b :: l, hl => by
    obtain ⟨hb, hl'⟩ := List.pairwise_cons.1 hl
    have ih := filter_orderedInsert p a hl'
    by_cases hab : r a b
    · rw [List.orderedInsert_cons_of_le r l hab]
      have hall : ∀ c ∈ (b :: l).filter p, r a c := by
        intro c hc
        rcases List.mem_cons.1 (List.mem_filter.1 hc).1 with rfl | hc'
        · exact hab
        · exact trans_of r hab (hb c hc')
      rw [orderedInsert_of_forall r hall]
      by_cases ha : p a <;> simp [ha]
    · rw [List.orderedInsert_of_not_le r l hab, List.filter_cons, ih]
      by_cases hpb : p b
      · by_cases ha : p a <;> simp [ha, hpb, hab]
      · by_cases ha : p a <;> simp [ha, hpb]

/-- Selecting from a sorted list is sorting the selection. -/
theorem filter_insertionSort [Std.Total r] (p : α → Bool) :
    ∀ l : List α, (l.insertionSort r).filter p = (l.filter p).insertionSort r
  | [] => rfl
  | a :: l => by
    rw [List.insertionSort_cons, filter_orderedInsert r p a (List.pairwise_insertionSort r l),
      filter_insertionSort p l]
    by_cases ha : p a <;> simp [ha]

end Sorting

end CommercePlatform.Lib
