import CommercePlatform.Extraction.Record
import CommercePlatform.Lib.Traverse
/-!
# Validation splits a batch, whatever the pages

A pipeline that goes on over pages does what it would do on one long page
(`validatePages_eq`): the seen keys and the next ordinal are all that a page hands to
the next one. So what holds of one page holds of every split: the records fall into
valid and rejected ones, in their order, each under its place in the batch, and no two
valid ones share a primary key.

The statement about one page is a relation between the records, the codes each was given
and the two lists they go to (`Partition`); it is proved along the loop, with the seen
keys as the only thing one record leaves for the next (`validatePage_partition`). That
the loop returns at all needs the records' own checks to return, which they do where no
NaN meets a minimum (`SchemaConforming`).

What the two writers then make of it is in the same theorem: the Bronze file holds the
valid records in order, and the quarantine file a row for each rejected one.
-/

namespace CommercePlatform

open Lib

section Pages

variable {ρ : Type} (rules : RecordRules ρ) (lower upper : CursorPosition)
  (broken : List (List CursorKey))

/-- `validate_page` of one `ValidationPipeline` for page after page. -/
def validatePages : List (List ρ) → Nat → List ρ → Except Raised (ValidatedPage ρ)
  | [], _, seen => .ok ⟨[], [], seen⟩
  | page :: pages, ordinal, seen => do
    let validated ← validatePage rules lower upper broken page ordinal seen
    let rest ← validatePages pages (ordinal + page.length) validated.seen
    return {
      validRecords := validated.validRecords ++ rest.validRecords
      rejectedRecords := validated.rejectedRecords ++ rest.rejectedRecords
      seen := rest.seen }

variable {rules lower upper broken}

/-- One page cut in two. -/
theorem validatePage_append (xs ys : List ρ) (ordinal : Nat) (seen : List ρ) :
    validatePage rules lower upper broken (xs ++ ys) ordinal seen = (do
      let validated ← validatePage rules lower upper broken xs ordinal seen
      let rest ← validatePage rules lower upper broken ys (ordinal + xs.length) validated.seen
      return {
        validRecords := validated.validRecords ++ rest.validRecords
        rejectedRecords := validated.rejectedRecords ++ rest.rejectedRecords
        seen := rest.seen }) := by
  induction xs generalizing ordinal seen with
  | nil =>
    cases h : validatePage rules lower upper broken ys ordinal seen <;>
      simp [validatePage, h, Bind.bind, Except.bind, pure, Except.pure]
  | cons x xs ih =>
    simp only [List.cons_append, validatePage, ih, bind_assoc, List.length_cons]
    refine bind_congr fun r => bind_congr fun first => ?_
    obtain ⟨codes, seen'⟩ := r
    rw [show ordinal + 1 + xs.length = ordinal + (xs.length + 1) by omega]
    by_cases hcodes : codes = []
    · simp only [hcodes, if_true, pure_bind, bind_pure_comp]
      cases validatePage rules lower upper broken ys (ordinal + (xs.length + 1)) first.seen <;> rfl
    · simp only [hcodes, if_false, pure_bind, bind_pure_comp]
      cases validatePage rules lower upper broken ys (ordinal + (xs.length + 1)) first.seen <;> rfl

/-- The pages of a batch are validated as one: any split into pages gives the results of the
whole, cut in the same places. -/
theorem validatePages_eq (pages : List (List ρ)) (ordinal : Nat) (seen : List ρ) :
    validatePages rules lower upper broken pages ordinal seen =
      validatePage rules lower upper broken pages.flatten ordinal seen := by
  induction pages generalizing ordinal seen with
  | nil => rfl
  | cons page pages ih =>
    rw [List.flatten_cons, validatePage_append, validatePages]
    simp only [ih]

/-! ## What one page comes to -/

/-- What one record comes to, when it is in range and its checks return: its codes, and the seen
keys with its own, if it is counted among them. -/
structure Judged (rules : RecordRules ρ) (seen : List ρ) (record : ρ) (errorCodes : List String)
    (seen' : List ρ) : Prop where
  /-- A record is valid only with a new key, which is remembered. -/
  valid : errorCodes = [] → rules.nullKey record = false ∧
    (∀ s ∈ seen, rules.sameKey record s = false) ∧ seen' = record :: seen
  /-- No remembered key is forgotten. -/
  kept : ∀ s ∈ seen, s ∈ seen'

theorem validateRecord_judged {seen seen' : List ρ} {record : ρ} {errorCodes : List String}
    (h : validateRecord rules lower upper broken seen record = .ok (errorCodes, seen')) :
    Judged rules seen record errorCodes seen' := by
  unfold validateRecord at h
  simp only [bind_eq_ok] at h
  obtain ⟨-, -, inRange, -, -, -, hrest⟩ := h
  -- the three outcomes of the key check
  split at hrest
  next hnull =>
    obtain ⟨domainErrors, -, hret⟩ := hrest
    obtain ⟨rfl, rfl⟩ := Prod.mk.inj (Except.ok.inj hret)
    exact ⟨fun hvalid => absurd hvalid (by simp), fun s hs => hs⟩
  next hnull =>
    split at hrest
    next hseen =>
      obtain ⟨domainErrors, -, hret⟩ := hrest
      obtain ⟨rfl, rfl⟩ := Prod.mk.inj (Except.ok.inj hret)
      exact ⟨fun hvalid => absurd hvalid (by simp), fun s hs => hs⟩
    next hseen =>
      obtain ⟨domainErrors, -, hret⟩ := hrest
      obtain ⟨rfl, rfl⟩ := Prod.mk.inj (Except.ok.inj hret)
      refine ⟨fun _ => ⟨by simpa using hnull, fun s hs => ?_, rfl⟩,
        fun s hs => List.mem_cons_of_mem _ hs⟩
      rw [Bool.eq_false_iff]
      exact fun hsame => hseen (List.any_eq_true.2 ⟨s, hs, hsame⟩)

/-- The records with the codes they were given, and what becomes of them: those without a code
are valid, the others rejected under their places. -/
structure Partition (records : List ρ) (ordinal : Nat) (v : ValidatedPage ρ)
    (judged : List (ρ × List String)) : Prop where
  records : judged.map (·.1) = records
  valid : v.validRecords = (judged.filter fun j => j.2 = []).map (·.1)
  rejected : v.rejectedRecords = ((judged.zipIdx ordinal).filter fun j => ¬ j.1.2 = []).map
    fun j => ⟨j.1.1, j.2, j.1.2⟩

theorem validatePage_partition {records : List ρ} {ordinal : Nat} {seen : List ρ}
    {v : ValidatedPage ρ}
    (h : validatePage rules lower upper broken records ordinal seen = .ok v) :
    ∃ judged, Partition records ordinal v judged := by
  induction records generalizing ordinal seen v with
  | nil =>
    cases h
    exact ⟨[], rfl, rfl, rfl⟩
  | cons record records ih =>
    simp only [validatePage, bind_eq_ok] at h
    obtain ⟨⟨errorCodes, seen'⟩, -, rest, hrest, hret⟩ := h
    obtain ⟨judged, hrecords, hvalid, hrejected⟩ := ih hrest
    refine ⟨(record, errorCodes) :: judged, by rw [List.map_cons, hrecords], ?_, ?_⟩
    all_goals
      by_cases hcodes : errorCodes = []
      · subst hcodes
        cases hret
        simp [List.zipIdx_cons, hvalid, hrejected]
      · rw [if_neg hcodes] at hret
        cases hret
        simp [List.zipIdx_cons, hvalid, hrejected, hcodes]

/-- Every record is counted once. -/
theorem Partition.length {records : List ρ} {ordinal : Nat} {v : ValidatedPage ρ}
    {judged : List (ρ × List String)} (h : Partition records ordinal v judged) :
    v.validRecords.length + v.rejectedRecords.length = records.length := by
  have hzip : ((judged.zipIdx ordinal).filter fun j => ¬ j.1.2 = []).length =
      (judged.filter fun j => ¬ j.2 = []).length := by
    have hmap : (judged.zipIdx ordinal).map Prod.fst = judged := List.zipIdx_map_fst ..
    rw [← List.countP_eq_length_filter, ← List.countP_eq_length_filter]
    conv_rhs => rw [← hmap, List.countP_map]
    rfl
  have hsplit : judged.length = (judged.filter fun j => j.2 = []).length +
      (judged.filter fun j => ¬ j.2 = []).length := by
    simpa using List.length_eq_length_filter_add fun j : ρ × List String => decide (j.2 = [])
  rw [h.valid, h.rejected, List.length_map, List.length_map, hzip, ← h.records, List.length_map,
    hsplit]

/-- The valid records of a page have keys, none of them among those seen, and no two of
them one. -/
theorem validatePage_keys {records : List ρ} {ordinal : Nat} {seen : List ρ}
    {v : ValidatedPage ρ}
    (h : validatePage rules lower upper broken records ordinal seen = .ok v) :
    (∀ r ∈ v.validRecords, rules.nullKey r = false ∧ ∀ s ∈ seen, rules.sameKey r s = false) ∧
      v.validRecords.Pairwise fun a b => rules.sameKey b a = false := by
  induction records generalizing ordinal seen v with
  | nil =>
    cases h
    exact ⟨fun r hr => absurd hr List.not_mem_nil, List.Pairwise.nil⟩
  | cons record records ih =>
    simp only [validatePage, bind_eq_ok] at h
    obtain ⟨⟨errorCodes, seen'⟩, hrecord, rest, hrest, hret⟩ := h
    have hjudged := validateRecord_judged hrecord
    obtain ⟨hkeys, hpairwise⟩ := ih hrest
    have hrestKeys : ∀ r ∈ rest.validRecords,
        rules.nullKey r = false ∧ ∀ s ∈ seen, rules.sameKey r s = false := fun r hr =>
      ⟨(hkeys r hr).1, fun s hs => (hkeys r hr).2 s (hjudged.kept s hs)⟩
    split at hret <;> cases hret
    next hcodes =>
      obtain ⟨hnull, hnew, rfl⟩ := hjudged.valid hcodes
      refine ⟨fun r hr => ?_, List.pairwise_cons.2 ⟨fun r hr => ?_, hpairwise⟩⟩
      · rcases List.mem_cons.1 hr with rfl | hr
        · exact ⟨hnull, hnew⟩
        · exact hrestKeys r hr
      · exact (hkeys r hr).2 record List.mem_cons_self
    next => exact ⟨hrestKeys, hpairwise⟩

/-- A record in range whose own checks return gets its codes. -/
theorem validateRecord_returns {seen : List ρ} {record : ρ}
    (hschema : "SCHEMA_MISMATCH" ∉ rules.schemaErrors record)
    (hrange : cursorInRange (rules.cursor record) lower upper = .ok true)
    (hdomain : ∃ errors, rules.domainErrors record = .ok errors) :
    ∃ judgement, validateRecord rules lower upper broken seen record = .ok judgement := by
  obtain ⟨errors, herrors⟩ := hdomain
  unfold validateRecord
  simp only [require, hschema, not_false_eq_true, if_true, hrange, herrors, Bind.bind, Except.bind]
  exact ⟨_, rfl⟩

theorem validatePage_returns {records : List ρ} {ordinal : Nat} {seen : List ρ}
    (h : ∀ r ∈ records, "SCHEMA_MISMATCH" ∉ rules.schemaErrors r ∧
      cursorInRange (rules.cursor r) lower upper = .ok true ∧
      ∃ errors, rules.domainErrors r = .ok errors) :
    ∃ v, validatePage rules lower upper broken records ordinal seen = .ok v := by
  induction records generalizing ordinal seen with
  | nil => exact ⟨_, rfl⟩
  | cons record records ih =>
    obtain ⟨⟨hschema, hrange, hdomain⟩, hrest⟩ := List.forall_mem_cons.1 h
    obtain ⟨⟨codes, seen'⟩, hjudged⟩ : ∃ judgement,
        validateRecord rules lower upper broken seen record = .ok judgement :=
      validateRecord_returns hschema hrange hdomain
    obtain ⟨rest, hpage⟩ : ∃ v,
        validatePage rules lower upper broken records (ordinal + 1) seen' = .ok v := ih hrest
    simp only [validatePage, hjudged, hpage, Bind.bind, Except.bind]
    by_cases hcodes : codes = []
    · exact ⟨_, if_pos hcodes⟩
    · exact ⟨_, if_neg hcodes⟩

/-- What the writers make of a batch without a corruption plan, under a fixed set of broken
references: its validation, and a row for each rejected record. -/
theorem writePages_eq_ok {toRow : RejectedRecord ρ → Except Raised QuarantineRow}
    {pages : List (List ρ)} {rowsExtracted : Nat} {seen : List ρ} {a : LocalArtifacts ρ}
    (h : writePages rules lower upper none (fun _ => .ok broken) toRow pages rowsExtracted seen =
      .ok a) :
    ∃ v, validatePages rules lower upper broken pages rowsExtracted seen = .ok v ∧
      a.validRecords = v.validRecords ∧ a.rejectedRecords = v.rejectedRecords ∧
      v.rejectedRecords.mapM toRow = .ok a.quarantineRows ∧
      a.rowsExtracted = rowsExtracted + pages.flatten.length := by
  induction pages generalizing rowsExtracted seen a with
  | nil =>
    cases h
    exact ⟨_, rfl, rfl, rfl, rfl, by simp⟩
  | cons page pages ih =>
    simp only [writePages, injectCorruption, bind_eq_ok] at h
    obtain ⟨_, ⟨⟩, _, ⟨⟩, validated, hvalidated, -, -, rows, hrows, rest, hrest, hret⟩ := h
    obtain ⟨v, hv, hvalid, hrejected, hrest, hcount⟩ := ih hrest
    cases hret
    refine ⟨⟨validated.validRecords ++ v.validRecords,
      validated.rejectedRecords ++ v.rejectedRecords, v.seen⟩, ?_, congrArg _ hvalid,
      congrArg _ hrejected, mapM_append_eq_ok hrows hrest, ?_⟩
    · simp only [validatePages, hvalidated, hv, Bind.bind, Except.bind]
      rfl
    · rw [hcount, List.flatten_cons, List.length_append]
      omega

end Pages

section Tables

variable {config : TableConfig}

/-- The columns of a record are always those of its table. -/
theorem schemaMismatch_notMem (r : SourceRecord config) :
    "SCHEMA_MISMATCH" ∉ schemaAndTypeErrors config r.values := by
  unfold schemaAndTypeErrors
  rw [if_neg (not_not.2 r.columns)]
  intro h
  obtain ⟨column, -, h⟩ := List.mem_flatMap.1 h
  split at h <;> split at h <;> simp at h

/-- The decimals of the record are numbers, as those of `decimal128(14, 2)` are. That its
columns are those of the table is `SourceRecord.columns`. -/
def SchemaConforming (r : SourceRecord config) : Prop := ∀ e ∈ r.values, e.2 ≠ .decimal .nan

theorem SchemaConforming.noNan {r : SourceRecord config} (h : SchemaConforming r) :
    ¬ NanAtMinimum config r.values := by
  rintro ⟨entry, -, column, -, -, hnan⟩
  obtain ⟨e, he, hvalue⟩ : ∃ e ∈ r.values, e.2 = valueOf r.values entry.1 :=
    valueOf_mem (by rw [hnan]; exact SourceValue.noConfusion)
  exact h e he (hvalue.trans hnan)

theorem keysEqual_comm (a b : SourceRecord config) : keysEqual config a b = keysEqual config b a := by
  unfold keysEqual
  congr 1
  funext column
  exact SourceValue.eqv_comm _ _

instance (r : SourceRecord config) : Decidable (SchemaConforming r) :=
  inferInstanceAs (Decidable (∀ e ∈ r.values, e.2 ≠ .decimal .nan))

/-- The records are judged one by one; those without a code are valid and the others
rejected, in their order and under their places; the keys of the valid ones are not null
and differ. Every split into pages comes to this, and so do the files written from it. -/
def PartitionedAlike (lower upper : CursorPosition) (broken : List (List CursorKey))
    (records : List (SourceRecord config)) : Prop :=
  ∃ v judged, Partition records 0 v judged ∧
    (∀ r ∈ v.validRecords, keyIsNull config r = false) ∧
    (v.validRecords.Pairwise fun a b => keysEqual config a b = false) ∧
    ∀ pages, pages.flatten = records →
      validatePages (tableRules config) lower upper broken pages 0 [] = .ok v ∧
      ∀ toRow a, writePages (tableRules config) lower upper none (fun _ => .ok broken) toRow
          pages 0 [] = .ok a →
        a.validRecords = v.validRecords ∧ a.rejectedRecords = v.rejectedRecords ∧
        v.rejectedRecords.mapM toRow = .ok a.quarantineRows ∧
        a.rowsExtracted = a.validRecords.length + a.rowsRejected

/-- Validation is a partition independent of the page size. -/
theorem validation_partition (lower upper : CursorPosition) (broken : List (List CursorKey))
    (records : List (SourceRecord config))
    (hrange : ∀ r ∈ records, cursorInRange r.cursor lower upper = .ok true)
    (hconforming : ∀ r ∈ records, SchemaConforming r) :
    PartitionedAlike lower upper broken records := by
  obtain ⟨v, hv⟩ : ∃ v, validatePage (tableRules config) lower upper broken records 0 [] = .ok v :=
    validatePage_returns fun r hr => ⟨schemaMismatch_notMem r, hrange r hr,
      domainAndNumericErrors_returns.2 (hconforming r hr).noNan⟩
  obtain ⟨judged, hjudged⟩ := validatePage_partition hv
  obtain ⟨hkeys, hdistinct⟩ := validatePage_keys hv
  refine ⟨v, judged, hjudged, fun r hr => (hkeys r hr).1, ?_, fun pages hpages => ?_⟩
  · refine hdistinct.imp fun {a b} h => ?_
    rw [keysEqual_comm]
    exact h
  · have hpagesOk : validatePages (tableRules config) lower upper broken pages 0 [] = .ok v := by
      rw [validatePages_eq, hpages, hv]
    refine ⟨hpagesOk, fun toRow a ha => ?_⟩
    obtain ⟨w, hw, hvalid, hrejected, hrows, hcount⟩ := writePages_eq_ok ha
    obtain rfl : w = v := Except.ok.inj (hw.symm.trans hpagesOk)
    refine ⟨hvalid, hrejected, hrows, ?_⟩
    rw [hcount, hpages, LocalArtifacts.rowsRejected, hvalid, hrejected, hjudged.length]
    omega

/-- Two items of one order, and the first of them again. -/
def repeatedItems : List (SourceRecord orderItemsTable) :=
  [(SourceTable.itemRow "a" 9).record, (SourceTable.itemRow "a" 10).record,
    (SourceTable.itemRow "a" 9).record]

theorem repeatedItems_partition : PartitionedAlike .initial
    (SourceTable.itemRow "a" 10).cursor.position [] repeatedItems :=
  validation_partition _ _ _ _ (by decide) (by decide)

end Tables

end CommercePlatform
