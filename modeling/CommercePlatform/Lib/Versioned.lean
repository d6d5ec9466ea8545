import Mathlib.Order.Basic
/-!
# Rows changed under a version check

A row carries a stamp. A change is planned from a reading of the row and applied later,
by a function that answers `none` where it leaves the row as it is and `some` new row
where it applies the change. The only assumption is that an applied change moves the
stamp up (`Advances`).

* `after` — the row after a list of changes; `IsVersion` — a row some beginning of the
  list leads to;
* `stamp_le_stamp` — stamps grow along the list;
* `eq_of_stamp_eq` — two versions of one history with one stamp are the same row;
* `applied_once` — of the changes that expect one stamp, one at most is applied.

This is optimistic concurrency without a database: the list is the order in which the
updates reached the row, in any interleaving of the writers, and each writer may have
planned its change from any earlier version. A change that was applied therefore saw the
row it was planned from, since a row with that stamp is one row (`eq_of_stamp_eq`), and
of two changes planned from one version at most one is applied (`applied_once`).

Stamps are any linear order; nothing requires that they grow by one.
-/

namespace CommercePlatform.Lib.Versioned

variable {Row Plan Time : Type} [PartialOrder Time]

/-- The row once the change was tried. -/
def next (apply : Row → Plan → Option Row) (row : Row) (plan : Plan) : Row :=
  (apply row plan).getD row

/-- The row once the changes were tried in order, each applied or not. -/
def after (apply : Row → Plan → Option Row) (row : Row) (plans : List Plan) : Row :=
  plans.foldl (next apply) row

/-- `v` is the row at some point of the history. -/
def IsVersion (apply : Row → Plan → Option Row) (row : Row) (plans : List Plan) (v : Row) :
    Prop :=
  ∃ before rest, plans = before ++ rest ∧ v = after apply row before

/-- An applied change moves the stamp up: the property of a version check that all of the
following rests on. -/
def Advances (apply : Row → Plan → Option Row) (stamp : Row → Time) : Prop :=
  ∀ row plan row', apply row plan = some row' → stamp row < stamp row'

variable {apply : Row → Plan → Option Row} {stamp : Row → Time} {row v w : Row}
  {plans before before' rest rest' : List Plan} {plan plan' : Plan}

@[simp] theorem after_nil : after apply row [] = row := rfl

theorem after_append :
    after apply row (before ++ rest) = after apply (after apply row before) rest :=
  List.foldl_append ..

@[simp] theorem after_cons :
    after apply row (plan :: rest) = after apply (next apply row plan) rest := rfl

theorem next_of_none (h : apply row plan = none) : next apply row plan = row := by
  simp [next, h]

theorem next_of_some (h : apply row plan = some v) : next apply row plan = v := by
  simp [next, h]

/-- One change keeps the row or moves its stamp up. -/
theorem next_eq_or_lt (hadv : Advances apply stamp) (row : Row) (plan : Plan) :
    next apply row plan = row ∨ stamp row < stamp (next apply row plan) := by
  cases h : apply row plan with
  | none => exact .inl (next_of_none h)
  | some row' =>
    rw [next_of_some h]
    exact .inr (hadv row plan row' h)

/-- A list of changes keeps the row or moves its stamp up. -/
theorem after_eq_or_lt (hadv : Advances apply stamp) (row : Row) (plans : List Plan) :
    after apply row plans = row ∨ stamp row < stamp (after apply row plans) := by
  induction plans generalizing row with
  | nil => exact .inl rfl
  | cons plan plans ih =>
    rw [after_cons]
    rcases next_eq_or_lt hadv row plan with hsame | hlt
    · rw [hsame]
      exact ih row
    · rcases ih (next apply row plan) with hsame | hlt'
      · rw [hsame]
        exact .inr hlt
      · exact .inr (hlt.trans hlt')

theorem stamp_le_stamp (hadv : Advances apply stamp) (row : Row) (plans : List Plan) :
    stamp row ≤ stamp (after apply row plans) := by
  rcases after_eq_or_lt hadv row plans with hsame | hlt
  · rw [hsame]
  · exact hlt.le

/-- Two versions of one history with one stamp are the same row. -/
theorem eq_of_stamp_eq (hadv : Advances apply stamp) (hv : IsVersion apply row plans v)
    (hw : IsVersion apply row plans w) (hstamp : stamp v = stamp w) : v = w := by
  obtain ⟨before, rest, hplans, rfl⟩ := hv
  obtain ⟨before', rest', hplans', rfl⟩ := hw
  -- one of the two beginnings is a beginning of the other
  rcases List.append_eq_append_iff.1 (hplans.symm.trans hplans') with
    ⟨gap, rfl, -⟩ | ⟨gap, rfl, -⟩
  · rw [after_append] at hstamp ⊢
    rcases after_eq_or_lt hadv (after apply row before) gap with hsame | hlt
    · exact hsame.symm
    · exact absurd hstamp hlt.ne
  · rw [after_append] at hstamp ⊢
    rcases after_eq_or_lt hadv (after apply row before') gap with hsame | hlt
    · exact hsame
    · exact absurd hstamp.symm hlt.ne

/-- A change applied later finds a larger stamp than one applied before it. -/
theorem stamp_lt_of_applied (hadv : Advances apply stamp)
    (happlied : apply (after apply row before) plan = some v) (gap : List Plan) :
    stamp (after apply row before) < stamp (after apply row (before ++ plan :: gap)) := by
  rw [after_append, after_cons, next_of_some happlied]
  exact (hadv _ _ _ happlied).trans_le (stamp_le_stamp hadv v gap)

/-- Of the changes that expect one stamp, one at most is applied: the first one moves the stamp
and the later ones do not find it any more. -/
theorem applied_once (hadv : Advances apply stamp)
    (h : plans = before ++ plan :: rest) (h' : plans = before' ++ plan' :: rest')
    (happlied : apply (after apply row before) plan = some v)
    (happlied' : apply (after apply row before') plan' = some w)
    (hstamp : stamp (after apply row before) = stamp (after apply row before')) :
    before = before' := by
  rcases List.append_eq_append_iff.1 (h.symm.trans h') with ⟨gap, rfl, hgap⟩ | ⟨gap, rfl, hgap⟩
  · cases gap with
    | nil => simp
    | cons p gap =>
      obtain ⟨rfl, -⟩ := List.cons_eq_cons.1 hgap
      exact absurd hstamp (stamp_lt_of_applied hadv happlied gap).ne
  · cases gap with
    | nil => simp
    | cons p gap =>
      obtain ⟨rfl, -⟩ := List.cons_eq_cons.1 hgap
      exact absurd hstamp.symm (stamp_lt_of_applied hadv happlied' gap).ne

end CommercePlatform.Lib.Versioned
