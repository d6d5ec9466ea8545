import CommercePlatform.Control.Metadata
import CommercePlatform.Extraction.Snapshot
/-!
# Validation and local artifacts

`src/ingestion/extraction/corruption.py`, `validation.py` and `quarantine.py`, and
`_write_local_artifacts` of `src/ingestion/service.py`: every page is corrupted where
the test plan says so, validated, and split into the valid records of the Bronze file
and the rejected records of the quarantine file.

What the checks and the two writers look at in one record is a parameter (`RecordRules`,
given for the source tables in `Extraction/Record`); the bookkeeping over a batch, the
seen keys, the ordinals and the counts, is here. The parameter is also what the
ingestion is modelled over, so that a run of it does not carry nine table contracts
along.

Mirroring notes vs the source:
- `validate_page` first checks that the page is not empty and of the pipeline's table.
  `SourcePage` has checked the first, and the model has one table per pipeline; neither
  guard is here.
- `SCHEMA_MISMATCH` and a cursor out of range raise and end the batch; every other code
  rejects the record. The order of the codes is that of the checks.
- A key is counted as seen when it is not null and was not seen, whatever else the
  record is rejected for.
- The reject rate is compared exactly; the source divides floats (`assertRejectRate`).
-/

namespace CommercePlatform

/-- `corruption.py`: the kinds of `SUPPORTED_CORRUPTION_KINDS`. -/
inductive CorruptionKind where
  | nullPrimaryKey
  | invalidStatus
  | negativeNumeric
  | typeMismatch
  | brokenReference
  | duplicatePrimaryKey
deriving DecidableEq, Repr

/-- `CorruptionPlan.rules`. -/
abbrev CorruptionPlan := Nat → Option CorruptionKind

/-- What the extraction looks at in one record of a table: one field for each function of the
source that takes a record. -/
structure RecordRules (ρ : Type) where
  /-- `SourceRecord.cursor`. -/
  cursor : ρ → CursorPosition
  /-- `_schema_and_type_errors`. -/
  schemaErrors : ρ → List String
  /-- A primary key column is null. -/
  nullKey : ρ → Bool
  /-- The primary keys are equal. -/
  sameKey : ρ → ρ → Bool
  /-- `_domain_and_numeric_errors`. -/
  domainErrors : ρ → Except Raised (List String)
  /-- `CorruptionPlan.apply` of a kind, at an ordinal. -/
  corrupt : CorruptionKind → Nat → ρ → Except Raised ρ
  /-- `_with_primary_key_of`. -/
  withPrimaryKeyOf : ρ → ρ → ρ
  /-- The conversion of a valid record to the Arrow schema of its table. -/
  arrowRow : ρ → Except Raised Unit
  /-- `_canonical_json` of the values. -/
  rawPayload : ρ → Except Raised String

/-- `MAX_REJECT_RATE`, one in twenty: `rejected / total > 0.05`. -/
def rejectRateExceeded (totalRows rejectedRows : Nat) : Prop := totalRows < 20 * rejectedRows

instance (t r : Nat) : Decidable (rejectRateExceeded t r) := inferInstanceAs (Decidable (_ < _))

/-- `assert_reject_rate`. The source divides floats; the comparison here is the exact one, and
the two differ for counts beyond the 53 bits of a float only. -/
def assertRejectRate (totalRows rejectedRows : Nat) : Except Raised Unit := do
  require (rejectedRows ≤ totalRows)
    ⟨.valueError, "Reject counts must be within the total row count"⟩
  require (¬ rejectRateExceeded totalRows rejectedRows)
    ⟨.rejectRateExceededError, "Reject rate exceeds 5%"⟩

section Batch

variable {ρ : Type} (rules : RecordRules ρ)

/-- `CorruptionPlan.apply_page`, with the records already written: a repeated key is copied from
the record written before it, in this page. -/
def applyPage (plan : CorruptionPlan) : List ρ → Nat → Option ρ → Except Raised (List ρ)
  | [], _, _ => .ok []
  | record :: records, ordinal, previous => do
    let written ← match plan ordinal with
      | none => .ok record
      | some .duplicatePrimaryKey =>
        match previous with
        | none =>
          .error ⟨.valueError, "DUPLICATE_PRIMARY_KEY requires a preceding record in the page"⟩
        | some previous => .ok (rules.withPrimaryKeyOf record previous)
      | some kind => rules.corrupt kind ordinal record
    let rest ← applyPage plan records (ordinal + 1) (some written)
    return written :: rest

/-- `inject_corruption`. -/
def injectCorruption (plan : Option CorruptionPlan) (records : List ρ) (firstOrdinal : Nat) :
    Except Raised (List ρ × Nat) :=
  match plan with
  | none => .ok (records, 0)
  | some plan => do
    let written ← applyPage rules plan records firstOrdinal none
    let corrupted := (List.range records.length).countP fun i => (plan (firstOrdinal + i)).isSome
    return (written, corrupted)

/-! ## Validation -/

/-- `RejectedRecord`. -/
structure RejectedRecord (ρ : Type) where
  record : ρ
  ordinal : Nat
  errorCodes : List String
deriving DecidableEq

/-- `ValidatedPage`, with the keys seen so far. -/
structure ValidatedPage (ρ : Type) where
  validRecords : List ρ
  rejectedRecords : List (RejectedRecord ρ)
  seen : List ρ

/-- `<=` on tuples of keys: the first components that differ decide. -/
def keysLe : List CursorKey → List CursorKey → Except Raised Bool
  | [], _ => .ok true
  | _ :: _, [] => .ok false
  | a :: as, b :: bs =>
    if a = b then keysLe as bs
    else match a, b with
      | .text s, .text t => .ok (decide (s ≤ t))
      | .int m, .int n => .ok (decide (m ≤ n))
      | .text _, .int _ =>
        .error ⟨.typeError, "'<=' not supported between instances of 'str' and 'int'"⟩
      | .int _, .text _ =>
        .error ⟨.typeError, "'<=' not supported between instances of 'int' and 'str'"⟩

/-- Where `<` answers, `<=` does: it is `<` or `==`. -/
theorem keysLe_of_keysLt : ∀ {as bs : List CursorKey} {b : Bool}, keysLt as bs = .ok b →
    keysLe as bs = .ok (b || decide (as = bs))
  | [], [], _, h => by
    cases h
    rfl
  | [], _ :: _, _, h => by
    cases h
    rfl
  | _ :: _, [], _, h => by
    cases h
    rfl
  | a :: as, b :: bs, r, h => by
    unfold keysLt at h
    unfold keysLe
    by_cases hab : a = b
    · rw [if_pos hab] at h ⊢
      rw [keysLe_of_keysLt h]
      simp [hab]
    · rw [if_neg hab] at h ⊢
      cases a <;> cases b <;> cases h
      -- keys of one kind that differ: less or equal is less
      · rename_i s t
        have hne : s ≠ t := fun hst => hab (congrArg CursorKey.text hst)
        simp [le_iff_lt_or_eq, hne]
      · rename_i m n
        have hne : m ≠ n := fun hmn => hab (congrArg CursorKey.int hmn)
        simp [le_iff_lt_or_eq, hne]

/-- `candidate <= (bound.timestamp, bound.keys)`. -/
def candidateLe (t : Timestamp) (keys : List CursorKey) (u : Timestamp)
    (boundKeys : List CursorKey) : Except Raised Bool :=
  if t = u then keysLe keys boundKeys else .ok (decide (t ≤ u))

/-- `_cursor_in_range`. A bound without a timestamp below a cursor that has one is the
comparison of a `datetime` with `None`. -/
def cursorInRange (cursor lower upper : CursorPosition) : Except Raised Bool :=
  match cursor.timestamp with
  | none => .ok false
  | some t => do
    let below ← match lower.timestamp with
      | none => .ok false
      | some l => candidateLe t cursor.keys l lower.keys
    if below then return false
    match upper.timestamp with
    | none => .error ⟨.typeError,
        "'<=' not supported between instances of 'datetime.datetime' and 'NoneType'"⟩
    | some u => candidateLe t cursor.keys u upper.keys

/-- `_validate_record`: the error codes, and whether the key is new. -/
def validateRecord (lower upper : CursorPosition) (broken : List (List CursorKey))
    (seen : List ρ) (record : ρ) : Except Raised (List String × List ρ) := do
  let schemaErrors := rules.schemaErrors record
  require ("SCHEMA_MISMATCH" ∉ schemaErrors)
    ⟨.batchValidationContractError, "Source schema differs from the configured contract"⟩
  let inRange ← cursorInRange (rules.cursor record) lower upper
  require (inRange = true)
    ⟨.batchValidationContractError, "Source record cursor is outside the fixed extraction range"⟩
  let (keyErrors, seen) :=
    if rules.nullKey record then (["KEY_NULL"], seen)
    else if seen.any (rules.sameKey record) then (["BATCH_DUPLICATE"], seen)
    else ([], record :: seen)
  let domainErrors ← rules.domainErrors record
  let broken := if (rules.cursor record).keys ∈ broken then ["BROKEN_REFERENCE"] else []
  return (schemaErrors ++ keyErrors ++ domainErrors ++ broken, seen)

/-- `ValidationPipeline.validate_page`, for a page of the pipeline's own table with records. The
guard against another page ("Validation page must use the pipeline table config") is left out:
`extract_pages` gives out pages of its own table, with records. -/
def validatePage (lower upper : CursorPosition) (broken : List (List CursorKey)) :
    List ρ → Nat → List ρ → Except Raised (ValidatedPage ρ)
  | [], _, seen => .ok ⟨[], [], seen⟩
  | record :: records, ordinal, seen => do
    let (errorCodes, seen) ← validateRecord rules lower upper broken seen record
    let rest ← validatePage lower upper broken records (ordinal + 1) seen
    if errorCodes = [] then
      return { rest with validRecords := record :: rest.validRecords }
    else
      return { rest with
        rejectedRecords := ⟨record, ordinal, errorCodes⟩ :: rest.rejectedRecords }

/-- `QuarantineWriteContext`. -/
structure QuarantineWriteContext where
  batchId : String
  runId : RunId
  detectedAt : Timestamp
  sourceTable : String

/-- `table_batch_id`. -/
def QuarantineWriteContext.tableBatchId (c : QuarantineWriteContext) : String :=
  c.batchId ++ "__" ++ c.sourceTable

/-- A row of `QUARANTINE_SCHEMA`. -/
structure QuarantineRow where
  recordId : String
  sourceTable : String
  batchId : String
  runId : RunId
  detectedAt : Timestamp
  errorCodes : List String
  rawPayload : String
deriving DecidableEq

/-- `quarantine_record_id`; `uuid5` is that of the namespace of the records. -/
def quarantineRecordId (uuid5 : String → String) (tableBatchId : String) (ordinal : Nat) :
    Except Raised String := do
  require (isBlank tableBatchId = false)
    ⟨.valueError, "table_batch_id must not be empty and ordinal must be non-negative"⟩
  return uuid5 (tableBatchId ++ ":" ++ toString ordinal)

/-- `_quarantine_row`. The table of the record is that of the context. -/
def quarantineRow (uuid5 : String → String) (context : QuarantineWriteContext)
    (rejected : RejectedRecord ρ) : Except Raised QuarantineRow := do
  let recordId ← quarantineRecordId uuid5 context.tableBatchId rejected.ordinal
  let rawPayload ← rules.rawPayload rejected.record
  return {
    recordId := recordId
    sourceTable := context.sourceTable
    batchId := context.batchId
    runId := context.runId
    detectedAt := context.detectedAt
    errorCodes := rejected.errorCodes
    rawPayload := rawPayload }

/-- What `_write_local_artifacts` returns: the two files by their records, and the
counts. There is no quarantine file without a rejected record. -/
structure LocalArtifacts (ρ : Type) where
  validRecords : List ρ
  rejectedRecords : List (RejectedRecord ρ)
  quarantineRows : List QuarantineRow
  rowsExtracted : Nat
  rowsCorrupted : Nat

/-- The count `rows_rejected`. -/
def LocalArtifacts.rowsRejected (a : LocalArtifacts ρ) : Nat := a.rejectedRecords.length

/-- The loop of `_write_local_artifacts` over the pages. The row of a rejected record is
`toRow`. -/
def writePages (lower upper : CursorPosition) (plan : Option CorruptionPlan)
    (brokenCursors : List ρ → Except Raised (List (List CursorKey)))
    (toRow : RejectedRecord ρ → Except Raised QuarantineRow) :
    List (List ρ) → Nat → List ρ → Except Raised (LocalArtifacts ρ)
  | [], rowsExtracted, _ => .ok ⟨[], [], [], rowsExtracted, 0⟩
  | page :: pages, rowsExtracted, seen => do
    let (records, corrupted) ← injectCorruption rules plan page rowsExtracted
    let broken ← brokenCursors records
    let validated ← validatePage rules lower upper broken records rowsExtracted seen
    validated.validRecords.forM rules.arrowRow
    let quarantineRows ← validated.rejectedRecords.mapM toRow
    let rest ← writePages lower upper plan brokenCursors toRow pages (rowsExtracted + page.length)
      validated.seen
    return {
      validRecords := validated.validRecords ++ rest.validRecords
      rejectedRecords := validated.rejectedRecords ++ rest.rejectedRecords
      quarantineRows := quarantineRows ++ rest.quarantineRows
      rowsExtracted := rest.rowsExtracted
      rowsCorrupted := corrupted + rest.rowsCorrupted }

end Batch

end CommercePlatform
