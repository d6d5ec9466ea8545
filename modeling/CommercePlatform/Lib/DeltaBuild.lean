import Mathlib.Data.List.Basic
/-!
# Delete-and-insert maintenance

A materialised relation is maintained by recomputing the rows of some *affected* keys:
the recomputed rows form a batch, the target loses the rows whose key occurs in the
batch, and the batch is inserted. A key that is affected but has no recomputed row keeps
its old rows, because the batch is all that the deletion looks at.

`deleteInsert_sameRows_iff` says exactly when the result is the new relation: the rows
of every other key did not change, and no affected key lost all its rows. Both halves
are needed and neither is a property of the maintenance itself, so a user of this module
has to show them of the way the affected keys are chosen.

`AgreesOn` is the weaker relation for a target that is right for some keys only, with
its own maintenance rule (`AgreesOn.maintain`): the keys it is right for grow by those
that were recomputed, and stay where the rows did not change. Over a chain of builds
this is the invariant; equality of rows is its case where every key that occurs is right
(`AgreesOn.sameRows`).

Relations are lists read as sets of rows (`SameRows`), since a warehouse table has no
order and the statements compare contents, not layouts.
-/

namespace CommercePlatform.Lib

variable {ρ κ : Type} [DecidableEq κ]

/-- The two lists hold the same rows. -/
def SameRows (a b : List ρ) : Prop := ∀ r, r ∈ a ↔ r ∈ b

theorem SameRows.refl (a : List ρ) : SameRows a a := fun _ => Iff.rfl

/-- Delete the rows of the batch's keys, then insert the batch: the `delete+insert` strategy of
an incremental model, whose `unique_key` is `key`. -/
def deleteInsert (key : ρ → κ) (target batch : List ρ) : List ρ :=
  target.filter (fun r => key r ∉ batch.map key) ++ batch

/-- The relation after recomputing the affected keys of `new`: one incremental run, whose batch
is what the new relation has under these keys. -/
def maintain (key : ρ → κ) (affected : κ → Bool) (target new : List ρ) : List ρ :=
  deleteInsert key target (new.filter fun r => affected (key r))

theorem mem_deleteInsert {key : ρ → κ} {target batch : List ρ} {r : ρ} :
    r ∈ deleteInsert key target batch ↔
      (r ∈ target ∧ ∀ r' ∈ batch, key r' ≠ key r) ∨ r ∈ batch := by
  unfold deleteInsert
  simp [List.mem_map]

theorem mem_maintain {key : ρ → κ} {affected : κ → Bool} {target new : List ρ} {r : ρ} :
    r ∈ maintain key affected target new ↔
      (r ∈ target ∧ ∀ r' ∈ new, affected (key r') = true → key r' ≠ key r) ∨
        (r ∈ new ∧ affected (key r) = true) := by
  unfold maintain
  rw [mem_deleteInsert]
  simp only [List.mem_filter, and_imp]

/-- Maintenance computes the new relation exactly when the unaffected keys did not change and no
affected key disappeared. Every target this holds for is up to date before. -/
theorem deleteInsert_sameRows_iff {key : ρ → κ} {affected : κ → Bool} {target old new : List ρ}
    (htarget : SameRows target old) :
    SameRows (maintain key affected target new) new ↔
      (∀ r, affected (key r) = false → (r ∈ old ↔ r ∈ new)) ∧
        ∀ r ∈ old, affected (key r) = true → ∃ r' ∈ new, key r' = key r := by
  constructor
  · intro h
    constructor
    · intro r hr
      rw [← h r, mem_maintain, htarget r]
      have hne : ∀ r' ∈ new, affected (key r') = true → key r' ≠ key r := by
        intro r' _ ha he
        rw [he, hr] at ha
        cases ha
      constructor
      · intro ho
        exact Or.inl ⟨ho, hne⟩
      · rintro (⟨ho, -⟩ | ⟨-, ha⟩)
        · exact ho
        · rw [hr] at ha
          cases ha
    · intro r hr ha
      by_contra hnone
      -- a vanished key keeps its row, which would then have to be a new one
      have hkept : r ∈ maintain key affected target new :=
        mem_maintain.2 (Or.inl ⟨(htarget r).2 hr, fun r' hr' _ he => hnone ⟨r', hr', he⟩⟩)
      exact hnone ⟨r, (h r).1 hkept, rfl⟩
  · rintro ⟨hsame, hkept⟩ r
    rw [mem_maintain, htarget r]
    constructor
    · rintro (⟨hr, hne⟩ | ⟨hr, -⟩)
      · cases ha : affected (key r) with
        | false => exact (hsame r ha).1 hr
        | true =>
          obtain ⟨r', hr', hk⟩ := hkept r hr ha
          exact absurd hk (hne r' hr' (by rw [hk, ha]))
      · exact hr
    · intro hr
      cases ha : affected (key r) with
      | false =>
        refine Or.inl ⟨(hsame r ha).2 hr, fun r' _ ha' he => ?_⟩
        rw [he, ha] at ha'
        cases ha'
      | true => exact Or.inr ⟨hr, rfl⟩

/-- The target holds the rows of `full` for the keys in `present`, and no key that `full` does
not have. Keys outside `present` may be missing or hold other rows. -/
structure AgreesOn (key : ρ → κ) (present : κ → Prop) (target full : List ρ) : Prop where
  keys : ∀ r ∈ target, ∃ r' ∈ full, key r' = key r
  rows : ∀ r, present (key r) → (r ∈ target ↔ r ∈ full)

omit [DecidableEq κ] in
theorem AgreesOn.refl (key : ρ → κ) (present : κ → Prop) (full : List ρ) :
    AgreesOn key present full full :=
  ⟨fun r hr => ⟨r, hr, rfl⟩, fun _ _ => Iff.rfl⟩

omit [DecidableEq κ] in
/-- Agreement on every key that occurs is equality of rows. -/
theorem AgreesOn.sameRows {key : ρ → κ} {present : κ → Prop} {target full : List ρ}
    (h : AgreesOn key present target full) (hall : ∀ r ∈ full, present (key r)) :
    SameRows target full := by
  intro r
  constructor
  · intro hr
    obtain ⟨r', hr', hk⟩ := h.keys r hr
    exact (h.rows r (hk ▸ hall r' hr')).1 hr
  · exact fun hr => (h.rows r (hall r hr)).2 hr

/-- Maintenance extends agreement to the keys whose rows are recomputed or were right and did not
change, as long as no key disappears. -/
theorem AgreesOn.maintain {key : ρ → κ} {affected : κ → Bool} {present present' : κ → Prop}
    {target old new : List ρ} (h : AgreesOn key present target old)
    (hkeys : ∀ r ∈ old, ∃ r' ∈ new, key r' = key r)
    (hsame : ∀ r, present' (key r) → affected (key r) = false →
      present (key r) ∧ (r ∈ old ↔ r ∈ new)) :
    AgreesOn key present' (maintain key affected target new) new := by
  have htarget : ∀ r ∈ target, ∃ r' ∈ new, key r' = key r := by
    intro r hr
    obtain ⟨r', hr', hk⟩ := h.keys r hr
    obtain ⟨r'', hr'', hk'⟩ := hkeys r' hr'
    exact ⟨r'', hr'', hk'.trans hk⟩
  -- the keys of the maintained relation are keys of the new one
  constructor
  · intro r hr
    rcases mem_maintain.1 hr with ⟨ht, -⟩ | ⟨hn, -⟩
    · exact htarget r ht
    · exact ⟨r, hn, rfl⟩
  · intro r hpresent
    rw [mem_maintain]
    -- an unaffected key keeps its target rows, and an affected one has exactly the new rows
    cases ha : affected (key r) with
    | false =>
      obtain ⟨hp, hiff⟩ := hsame r hpresent ha
      rw [← hiff, ← h.rows r hp]
      constructor
      · rintro (⟨ht, -⟩ | ⟨-, hcontra⟩)
        · exact ht
        · cases hcontra
      · refine fun ht => Or.inl ⟨ht, fun r' _ ha' he => ?_⟩
        rw [he, ha] at ha'
        cases ha'
    | true =>
      constructor
      · rintro (⟨ht, hne⟩ | ⟨hn, -⟩)
        · obtain ⟨r', hr', hk⟩ := htarget r ht
          exact absurd hk (hne r' hr' (by rw [hk, ha]))
        · exact hn
      · exact fun hn => Or.inr ⟨hn, rfl⟩

end CommercePlatform.Lib
