import CommercePlatform.Control.Cursor
import CommercePlatform.Lib.Table
/-!
# The ingestion metadata database

The four tables of `sql/metadata/004_create_ingestion_metadata.sql` and the transactions
of `src/ingestion/control/metadata.py` over them.

A transaction is a function `Db → Except Raised Db`: it runs its statements in order, a
statement that raises aborts it, and the caller keeps the old state. Row locks (`FOR
UPDATE`, and the lock of every `UPDATE`) are held to the end of a transaction, so one
transaction is one atomic step on the rows it touches; the order of the locks, which
decides who waits for whom, is in `Control/RowLocks`.

`UPDATE … WHERE <key> AND <condition>` followed by `if rowcount != 1: raise` is
`updateWatermarkWhere` and `updateRunWhere`; an `INSERT` that meets a taken key raises
`UniqueViolation`.

Every operation below has one lemma saying what it did when it returned (`…_eq_ok`);
later modules use these and unfold nothing here. For `commit_table_run` the lemma is an
equivalence: it returns exactly when its conditions hold (`Committed`).

Mirroring notes vs the source:
- The dataclasses carry the checks of their `__post_init__` as fields. `Watermark` and
  `TableCommit` tie the parts of a commit together there, so a commit of another table's
  watermark cannot be built.
- The rows have all columns of their tables. Counts and versions are `Nat`, which is
  what their `CHECK` constraints say; cursors are held as such and not as JSON.
- Lengths are checked where the table has `VARCHAR(n)` and no dataclass has checked them
  before; `CHECK` constraints that the dataclasses imply are not repeated.
- `ensure_ingestion_metadata` is idempotent DDL, and the tables are there.
-/

namespace CommercePlatform

open Lib

/-- A run identifier (UUID). -/
abbrev RunId := Nat

/-- `pipeline_name, source_table`: the key of a watermark. -/
abbrev WatermarkKey := String × String

/-- `lease_owner, lease_expires_at`, both set (`watermarks_lease_check`). -/
structure LeaseColumns where
  owner : RunId
  expiresAt : Timestamp
deriving DecidableEq, Repr

/-- A row of `watermarks`. `watermarks_initial_cursor_check` is the rule of
`CursorPosition`. -/
structure WatermarkRow where
  pipelineName : String
  sourceTable : String
  cursor : CursorPosition
  lease : Option LeaseColumns
  version : Nat
  updatedAt : Timestamp
deriving DecidableEq

def WatermarkRow.key (r : WatermarkRow) : WatermarkKey := (r.pipelineName, r.sourceTable)

/-- `pipeline_runs.status`. -/
inductive RunStatus where
  | running
  | success
  | successNoData
  | skippedAlreadyCommitted
  | failed
deriving DecidableEq, Repr

/-- A row of `pipeline_runs`. The two JSONB ranges are written by
`as_metadata_json` and held as the cursors they come from. -/
structure PipelineRunRow where
  runId : RunId
  sourceTable : String
  pipelineName : String
  batchId : String
  dagId : Option String
  logicalDate : Timestamp
  attemptNumber : Nat
  startedAt : Timestamp
  finishedAt : Option Timestamp
  watermarkBefore : CursorPosition
  extractUpperBound : Option CursorPosition
  rowsExtracted : Nat
  rowsValid : Nat
  rowsRejected : Nat
  rowsLoaded : Nat
  status : RunStatus
  errorType : Option String
  errorMessage : Option String
deriving DecidableEq

abbrev PipelineRunKey := RunId × String

def PipelineRunRow.key (r : PipelineRunRow) : PipelineRunKey := (r.runId, r.sourceTable)

/-- `bronze_objects.status`. -/
inductive ObjectStatus where
  | staged
  | committed
  | orphaned
deriving DecidableEq, Repr

/-- A row of `bronze_objects`. -/
structure BronzeObjectRow where
  tableBatchId : String
  sourceTable : String
  batchId : String
  objectKey : String
  manifestKey : String
  schemaVersion : Nat
  rowCount : Nat
  contentSha256 : String
  logicalHash : String
  watermarkBefore : CursorPosition
  watermarkAfter : CursorPosition
  status : ObjectStatus
  committedAt : Option Timestamp
deriving DecidableEq

/-- A row of `quarantine_batches`. -/
structure QuarantineBatchRow where
  tableBatchId : String
  objectKey : String
  rowCount : Nat
  errorCounts : List (String × Nat)
  createdAt : Timestamp
deriving DecidableEq

/-- The metadata database. -/
structure Db where
  watermarks : Table WatermarkRow WatermarkKey WatermarkRow.key
  pipelineRuns : Table PipelineRunRow PipelineRunKey PipelineRunRow.key
  bronzeObjects : IndexedTable BronzeObjectRow String String
    BronzeObjectRow.tableBatchId BronzeObjectRow.objectKey
  quarantineBatches : IndexedTable QuarantineBatchRow String String
    QuarantineBatchRow.tableBatchId QuarantineBatchRow.objectKey

/-- The tables as `ensure_ingestion_metadata` creates them. -/
def Db.empty : Db := ⟨Table.empty, Table.empty, IndexedTable.empty, IndexedTable.empty⟩

/-! The frozen dataclasses of the module, each with the checks of its
`__post_init__` as fields. -/

/-- `Watermark`: the CAS snapshot of a table's cursor. -/
structure Watermark where
  pipelineName : String
  sourceTable : String
  cursor : CursorPosition
  version : Nat
deriving DecidableEq

def Watermark.key (w : Watermark) : WatermarkKey := (w.pipelineName, w.sourceTable)

/-- `PipelineRun`: one ingestion attempt of one table, with its batch, its range and the DAG it
came from, if any. -/
structure PipelineRun where
  runId : RunId
  pipelineName : String
  sourceTable : String
  batchId : String
  logicalDate : Timestamp
  attemptNumber : Nat
  watermarkBefore : CursorPosition
  extractUpperBound : Option CursorPosition
  dagId : Option String
  pipelineNamed : Named 128 pipelineName
  tableNamed : Named 64 sourceTable
  batchNamed : Named 192 batchId
  attempted : 0 < attemptNumber
  dagNamed : ∀ d, dagId = some d → Named 250 d

def PipelineRun.key (r : PipelineRun) : PipelineRunKey := (r.runId, r.sourceTable)

/-- `VerifiedBronzeObject`: the evidence of an uploaded, verified object. -/
structure VerifiedBronzeObject where
  tableBatchId : String
  objectKey : String
  manifestKey : String
  schemaVersion : Nat
  rowCount : Nat
  contentSha256 : String
  logicalHash : String
  watermarkAfter : CursorPosition
  batchNamed : Named 320 tableBatchId
  objectNamed : isBlank objectKey = false
  manifestNamed : isBlank manifestKey = false
  versioned : 0 < schemaVersion
  contentHashed : IsSha256 contentSha256
  logicalHashed : IsSha256 logicalHash

/-- `QuarantineBatch`: the evidence of an uploaded quarantine object. -/
structure QuarantineBatch where
  tableBatchId : String
  objectKey : String
  rowCount : Nat
  errorCounts : List (String × Nat)
  batchNamed : Named 320 tableBatchId
  objectNamed : isBlank objectKey = false
  errorsNamed : ∀ p ∈ errorCounts, p.1 ≠ ""

/-- `TableCommit`: everything one commit writes. -/
structure TableCommit where
  run : PipelineRun
  object : VerifiedBronzeObject
  expectedWatermark : Watermark
  rowsExtracted : Nat
  rowsValid : Nat
  rowsRejected : Nat
  rowsLoaded : Nat
  leaseOwner : RunId
  quarantine : Option QuarantineBatch
  samePipeline : expectedWatermark.pipelineName = run.pipelineName
  sameTable : expectedWatermark.sourceTable = run.sourceTable
  sameCursor : expectedWatermark.cursor = run.watermarkBefore
  quarantineBatch : ∀ q ∈ quarantine, q.tableBatchId = object.tableBatchId
  quarantineCount : ∀ q ∈ quarantine, q.rowCount = rowsRejected

/-- `INSERT INTO watermarks (pipeline_name, source_table, watermark_keys, updated_at)`. -/
def WatermarkRow.fresh (key : WatermarkKey) (now : Timestamp) : WatermarkRow :=
  ⟨key.1, key.2, .initial, none, 0, now⟩

@[simp] theorem WatermarkRow.fresh_key (key : WatermarkKey) (now : Timestamp) :
    (fresh key now).key = key := rfl

/-- `SET watermark_timestamp, watermark_keys, version = version + 1, updated_at`. -/
def WatermarkRow.advance (cursor : CursorPosition) (now : Timestamp) (r : WatermarkRow) :
    WatermarkRow :=
  { r with cursor := cursor, version := r.version + 1, updatedAt := now }

/-- `SET lease_owner, lease_expires_at`. -/
def WatermarkRow.withLease (lease : Option LeaseColumns) (r : WatermarkRow) : WatermarkRow :=
  { r with lease := lease }

theorem WatermarkRow.advance_key (cursor : CursorPosition) (now : Timestamp) (r : WatermarkRow) :
    (r.advance cursor now).key = r.key := rfl

theorem WatermarkRow.withLease_key (lease : Option LeaseColumns) (r : WatermarkRow) :
    (r.withLease lease).key = r.key := rfl

namespace Db

/-- The row at `key` after `INSERT … ON CONFLICT DO NOTHING` at `now`. -/
def watermarkOrFresh (db : Db) (key : WatermarkKey) (now : Timestamp) : WatermarkRow :=
  (db.watermarks.get key).getD (.fresh key now)

/-- `INSERT INTO watermarks … ON CONFLICT (pipeline_name, source_table) DO NOTHING`. -/
def ensureWatermark (db : Db) (key : WatermarkKey) (now : Timestamp) : Db :=
  if h : db.watermarks.get key = none then
    { db with watermarks := db.watermarks.insert (.fresh key now) (by simpa using h) }
  else db

/-- `UPDATE watermarks SET … WHERE <key> AND <p>`, raising `e` unless one row matched. -/
def updateWatermarkWhere (db : Db) (key : WatermarkKey) (p : WatermarkRow → Prop)
    [DecidablePred p] (f : WatermarkRow → WatermarkRow) (hf : ∀ r, (f r).key = r.key)
    (e : Raised) : Except Raised Db :=
  match db.watermarks.get key with
  | none => .error e
  | some row =>
    if p row then .ok { db with watermarks := db.watermarks.modify key f hf }
    else .error e

/-- `UPDATE pipeline_runs SET … WHERE <key> AND <p>`, raising `e` unless one row matched. -/
def updateRunWhere (db : Db) (key : PipelineRunKey) (p : PipelineRunRow → Prop)
    [DecidablePred p] (f : PipelineRunRow → PipelineRunRow) (hf : ∀ r, (f r).key = r.key)
    (e : Raised) : Except Raised Db :=
  match db.pipelineRuns.get key with
  | none => .error e
  | some row =>
    if p row then .ok { db with pipelineRuns := db.pipelineRuns.modify key f hf }
    else .error e

/-- `INSERT INTO bronze_objects`: the two identifiers must fit their columns, the
primary key and the object key must be free. -/
def insertBronzeObject (db : Db) (row : BronzeObjectRow) : Except Raised Db :=
  if row.tableBatchId.length ≤ 320 ∧ row.batchId.length ≤ 192 then
    if h : db.bronzeObjects.Free row then
      .ok { db with bronzeObjects := db.bronzeObjects.insert row h }
    else .error ⟨.uniqueViolation, "duplicate key value violates unique constraint"⟩
  else .error ⟨.stringDataRightTruncation, "value too long for type character varying"⟩

/-- `INSERT INTO quarantine_batches`. -/
def insertQuarantineBatch (db : Db) (row : QuarantineBatchRow) : Except Raised Db :=
  if h : db.quarantineBatches.Free row then
    .ok { db with quarantineBatches := db.quarantineBatches.insert row h }
  else .error ⟨.uniqueViolation, "duplicate key value violates unique constraint"⟩

/-- `INSERT INTO pipeline_runs`. -/
def insertPipelineRun (db : Db) (row : PipelineRunRow) : Except Raised Db :=
  if h : db.pipelineRuns.get row.key = none then
    .ok { db with pipelineRuns := db.pipelineRuns.insert row h }
  else .error ⟨.uniqueViolation, "duplicate key value violates unique constraint"⟩

end Db

/-! ## Transactions -/

/-- `_get_or_create_watermark`: the locked snapshot, in the caller's transaction. -/
def getOrCreateWatermarkRow (key : WatermarkKey) (now : Timestamp) (db : Db) : Watermark × Db :=
  let row := db.watermarkOrFresh key now
  (⟨key.1, key.2, row.cursor, row.version⟩, db.ensureWatermark key now)

/-- `get_or_create_watermark`. -/
def getOrCreateWatermark (pipelineName sourceTable : String) (now : Timestamp) (db : Db) :
    Except Raised (Watermark × Db) := do
  assertNonempty pipelineName "pipeline_name" 128
  assertNonempty sourceTable "source_table" 64
  return getOrCreateWatermarkRow (pipelineName, sourceTable) now db

/-- The condition of the rewind's `UPDATE`: expected version, unexpired lease of the owner. -/
def OwnsAtVersion (owner : RunId) (version : Nat) (now : Timestamp) (r : WatermarkRow) : Prop :=
  r.version = version ∧ ∃ l ∈ r.lease, l.owner = owner ∧ now < l.expiresAt

instance (owner : RunId) (version : Nat) (now : Timestamp) :
    DecidablePred (OwnsAtVersion owner version now) :=
  fun _ => inferInstanceAs (Decidable (_ ∧ _))

/-- `rewind_watermark`: the version, then the direction of the target, then the conditional
`UPDATE` under the lease. -/
def rewindWatermark (pipelineName sourceTable : String) (ownerId : RunId)
    (expectedVersion : Nat) (cursor : CursorPosition) (now : Timestamp) (db : Db) :
    Except Raised (Watermark × Db) := do
  assertNonempty pipelineName "pipeline_name" 128
  assertNonempty sourceTable "source_table" 64
  let key := (pipelineName, sourceTable)
  let current := getOrCreateWatermarkRow key now db
  require (current.1.version = expectedVersion)
    ⟨.watermarkConflictError, "Watermark changed before rewind"⟩
  let earlier ← cursorIsEarlier cursor current.1.cursor
  require (earlier = true)
    ⟨.watermarkRewindError, "Rewind target must be earlier than the current cursor"⟩
  let db ← current.2.updateWatermarkWhere key (OwnsAtVersion ownerId expectedVersion now)
    (.advance cursor now) (WatermarkRow.advance_key cursor now)
    ⟨.tableLeaseOwnershipLostError, "Table lease ownership was lost before rewind"⟩
  return (⟨pipelineName, sourceTable, cursor, expectedVersion + 1⟩, db)

/-- The row `record_started_run` inserts. -/
def PipelineRun.startedRow (run : PipelineRun) (now : Timestamp) : PipelineRunRow where
  runId := run.runId
  sourceTable := run.sourceTable
  pipelineName := run.pipelineName
  batchId := run.batchId
  dagId := run.dagId
  logicalDate := run.logicalDate
  attemptNumber := run.attemptNumber
  startedAt := now
  finishedAt := none
  watermarkBefore := run.watermarkBefore
  extractUpperBound := run.extractUpperBound
  rowsExtracted := 0
  rowsValid := 0
  rowsRejected := 0
  rowsLoaded := 0
  status := .running
  errorType := none
  errorMessage := none

/-- `record_started_run`. -/
def recordStartedRun (run : PipelineRun) (now : Timestamp) (db : Db) : Except Raised Db :=
  db.insertPipelineRun (run.startedRow now)

/-- `status = 'RUNNING'`. -/
def IsRunning (r : PipelineRunRow) : Prop := r.status = .running

instance : DecidablePred IsRunning := fun _ => inferInstanceAs (Decidable (_ = _))

/-- The shared shape of the `record_…_run` functions: end a `RUNNING` run. -/
def finishRunning (run : PipelineRun) (f : PipelineRunRow → PipelineRunRow)
    (hf : ∀ r, (f r).key = r.key) (message : String) (db : Db) : Except Raised Db :=
  db.updateRunWhere run.key IsRunning f hf ⟨.pipelineRunStateError, message⟩

/-- `SET finished_at, status = 'FAILED', error_type, error_message`. -/
def PipelineRunRow.fail (errorType : String) (errorMessage : Option String) (now : Timestamp)
    (r : PipelineRunRow) : PipelineRunRow :=
  { r with finishedAt := some now, status := .failed, errorType := some errorType,
           errorMessage := errorMessage }

theorem PipelineRunRow.fail_key (errorType : String) (errorMessage : Option String)
    (now : Timestamp) (r : PipelineRunRow) : (r.fail errorType errorMessage now).key = r.key := rfl

/-- `record_failed_run`. -/
def recordFailedRun (run : PipelineRun) (errorType : String) (errorMessage : Option String)
    (now : Timestamp) (db : Db) : Except Raised Db := do
  assertNonempty errorType "error_type" 64
  finishRunning run (.fail errorType errorMessage now)
    (PipelineRunRow.fail_key errorType errorMessage now) "Only a RUNNING pipeline run can fail" db

/-- `SET finished_at, status = 'SUCCESS_NO_DATA'`. -/
def PipelineRunRow.noData (now : Timestamp) (r : PipelineRunRow) : PipelineRunRow :=
  { r with finishedAt := some now, status := .successNoData }

theorem PipelineRunRow.noData_key (now : Timestamp) (r : PipelineRunRow) :
    (r.noData now).key = r.key := rfl

/-- `record_success_no_data_run`. -/
def recordSuccessNoDataRun (run : PipelineRun) (now : Timestamp) (db : Db) :
    Except Raised Db := do
  require (run.extractUpperBound = none)
    ⟨.valueError, "SUCCESS_NO_DATA requires an empty extract_upper_bound"⟩
  finishRunning run (.noData now) (PipelineRunRow.noData_key now)
    "Only a RUNNING pipeline run can finish with no data" db

/-- `SET finished_at, rows_extracted, rows_valid, rows_loaded, status`. -/
def PipelineRunRow.skip (rowCount : Nat) (now : Timestamp) (r : PipelineRunRow) :
    PipelineRunRow :=
  { r with finishedAt := some now, rowsExtracted := rowCount, rowsValid := rowCount,
           rowsLoaded := rowCount, status := .skippedAlreadyCommitted }

theorem PipelineRunRow.skip_key (rowCount : Nat) (now : Timestamp) (r : PipelineRunRow) :
    (r.skip rowCount now).key = r.key := rfl

/-- `record_skipped_already_committed_run`. -/
def recordSkippedAlreadyCommittedRun (run : PipelineRun) (rowCount : Nat) (now : Timestamp)
    (db : Db) : Except Raised Db :=
  finishRunning run (.skip rowCount now) (PipelineRunRow.skip_key rowCount now)
    "Only a RUNNING pipeline run can be skipped" db

/-- The lease check on the locked row: `lease_owner = owner` and not expired. -/
def HoldsLease (owner : RunId) (now : Timestamp) (r : WatermarkRow) : Prop :=
  ∃ l ∈ r.lease, l.owner = owner ∧ now < l.expiresAt

instance (owner : RunId) (now : Timestamp) : DecidablePred (HoldsLease owner now) :=
  fun _ => inferInstanceAs (Decidable (∃ _ ∈ _, _))

/-- `SELECT lease_owner, lease_expires_at … FOR UPDATE` and the check on it. -/
def assertCommitLease (db : Db) (key : WatermarkKey) (owner : RunId) (now : Timestamp) :
    Except Raised Unit :=
  require (∃ row ∈ db.watermarks.get key, HoldsLease owner now row)
    ⟨.tableLeaseOwnershipLostError, "Table lease ownership was lost before metadata commit"⟩

/-- The `quarantine_batches` row of a commit. -/
def QuarantineBatch.row (q : QuarantineBatch) (now : Timestamp) : QuarantineBatchRow :=
  ⟨q.tableBatchId, q.objectKey, q.rowCount, q.errorCounts, now⟩

/-- The `bronze_objects` row of a commit. -/
def TableCommit.objectRow (c : TableCommit) (now : Timestamp) : BronzeObjectRow where
  tableBatchId := c.object.tableBatchId
  sourceTable := c.run.sourceTable
  batchId := c.run.batchId
  objectKey := c.object.objectKey
  manifestKey := c.object.manifestKey
  schemaVersion := c.object.schemaVersion
  rowCount := c.object.rowCount
  contentSha256 := c.object.contentSha256
  logicalHash := c.object.logicalHash
  watermarkBefore := c.run.watermarkBefore
  watermarkAfter := c.object.watermarkAfter
  status := .committed
  committedAt := some now

/-- The update of the run's row: the counts and `status = 'SUCCESS'`. -/
def TableCommit.finishedRow (c : TableCommit) (now : Timestamp) (r : PipelineRunRow) :
    PipelineRunRow :=
  { r with
    finishedAt := some now
    rowsExtracted := c.rowsExtracted
    rowsValid := c.rowsValid
    rowsRejected := c.rowsRejected
    rowsLoaded := c.rowsLoaded
    status := .success }

theorem TableCommit.finishedRow_key (c : TableCommit) (now : Timestamp) (r : PipelineRunRow) :
    (c.finishedRow now r).key = r.key := rfl

/-- The CAS condition: the version and the cursor are the expected ones. -/
def Watermark.Matches (w : Watermark) (r : WatermarkRow) : Prop :=
  r.version = w.version ∧ r.cursor = w.cursor

instance (w : Watermark) : DecidablePred w.Matches :=
  fun _ => inferInstanceAs (Decidable (_ ∧ _))

/-- The optional quarantine insert of a commit. -/
def insertCommitQuarantine (c : TableCommit) (now : Timestamp) (db : Db) : Except Raised Db :=
  match c.quarantine with
  | none => .ok db
  | some q => db.insertQuarantineBatch (q.row now)

/-- `commit_table_run`: the lease check on the locked row, the optional quarantine, the object,
the successful run and the watermark CAS, in one transaction and in this order. -/
def commitTableRun (c : TableCommit) (now : Timestamp) (db : Db) : Except Raised Db := do
  assertCommitLease db c.expectedWatermark.key c.leaseOwner now
  let db ← insertCommitQuarantine c now db
  let db ← db.insertBronzeObject (c.objectRow now)
  let db ← finishRunning c.run (c.finishedRow now) (c.finishedRow_key now)
    "Only a RUNNING pipeline run can be committed" db
  db.updateWatermarkWhere c.expectedWatermark.key c.expectedWatermark.Matches
    (.advance c.object.watermarkAfter now) (WatermarkRow.advance_key c.object.watermarkAfter now)
    ⟨.watermarkConflictError, "Watermark changed before metadata commit"⟩

/-! ## What a transaction did when it returned -/

namespace Db

variable {db db' : Db} {key : WatermarkKey} {runKey : PipelineRunKey} {now : Timestamp}
  {e : Raised}

theorem updateWatermarkWhere_eq_ok {p : WatermarkRow → Prop} [DecidablePred p]
    {f : WatermarkRow → WatermarkRow} {hf : ∀ r, (f r).key = r.key} :
    db.updateWatermarkWhere key p f hf e = .ok db' ↔
      ∃ row, db.watermarks.get key = some row ∧ p row ∧
        db' = { db with watermarks := db.watermarks.modify key f hf } := by
  unfold updateWatermarkWhere
  cases hg : db.watermarks.get key with
  | none => simp
  | some row =>
    by_cases hp : p row
    · simp [hp, eq_comm]
    · simp [hp]

theorem updateRunWhere_eq_ok {p : PipelineRunRow → Prop} [DecidablePred p]
    {f : PipelineRunRow → PipelineRunRow} {hf : ∀ r, (f r).key = r.key} :
    db.updateRunWhere runKey p f hf e = .ok db' ↔
      ∃ row, db.pipelineRuns.get runKey = some row ∧ p row ∧
        db' = { db with pipelineRuns := db.pipelineRuns.modify runKey f hf } := by
  unfold updateRunWhere
  cases hg : db.pipelineRuns.get runKey with
  | none => simp
  | some row =>
    by_cases hp : p row
    · simp [hp, eq_comm]
    · simp [hp]

/-- The row of an insert fits its columns. -/
def Fits (row : BronzeObjectRow) : Prop :=
  row.tableBatchId.length ≤ 320 ∧ row.batchId.length ≤ 192

theorem insertBronzeObject_eq_ok {row : BronzeObjectRow} :
    db.insertBronzeObject row = .ok db' ↔
      Fits row ∧ ∃ h : db.bronzeObjects.Free row,
        db' = { db with bronzeObjects := db.bronzeObjects.insert row h } := by
  unfold insertBronzeObject Fits
  by_cases hf : row.tableBatchId.length ≤ 320 ∧ row.batchId.length ≤ 192
  · by_cases h : db.bronzeObjects.Free row
    · simp [hf, h, eq_comm]
    · simp [hf, h]
  · simp only [hf, if_false, false_and, iff_false]
    exact fun h => by cases h

theorem insertQuarantineBatch_eq_ok {row : QuarantineBatchRow} :
    db.insertQuarantineBatch row = .ok db' ↔
      ∃ h : db.quarantineBatches.Free row,
        db' = { db with quarantineBatches := db.quarantineBatches.insert row h } := by
  unfold insertQuarantineBatch
  by_cases h : db.quarantineBatches.Free row
  · simp [h, eq_comm]
  · simp [h]

theorem insertPipelineRun_eq_ok {row : PipelineRunRow} :
    db.insertPipelineRun row = .ok db' ↔
      ∃ h : db.pipelineRuns.get row.key = none,
        db' = { db with pipelineRuns := db.pipelineRuns.insert row h } := by
  unfold insertPipelineRun
  by_cases h : db.pipelineRuns.get row.key = none
  · simp [h, eq_comm]
  · simp [h]

/-- Creating a watermark row changes no existing row: `ON CONFLICT DO NOTHING`. -/
theorem get_ensureWatermark (key' : WatermarkKey) :
    (db.ensureWatermark key now).watermarks.get key' =
      if key' = key then some (db.watermarkOrFresh key now) else db.watermarks.get key' := by
  unfold ensureWatermark watermarkOrFresh
  split
  next h =>
    simp only [Table.get_insert, h, WatermarkRow.fresh_key]
    rfl
  next h =>
    obtain ⟨row, hrow⟩ := Option.ne_none_iff_exists'.1 h
    by_cases hk : key' = key
    · simp [hk, hrow]
    · simp [hk]

theorem ensureWatermark_bronzeObjects :
    (db.ensureWatermark key now).bronzeObjects = db.bronzeObjects := by
  unfold ensureWatermark
  split <;> rfl

end Db

theorem getOrCreateWatermark_eq_ok {p t : String} {now : Timestamp} {db db' : Db}
    {w : Watermark} :
    getOrCreateWatermark p t now db = .ok (w, db') ↔
      Named 128 p ∧ Named 64 t ∧
        w = ⟨p, t, (db.watermarkOrFresh (p, t) now).cursor,
          (db.watermarkOrFresh (p, t) now).version⟩ ∧
        db' = db.ensureWatermark (p, t) now := by
  unfold getOrCreateWatermark
  simp only [bind_eq_ok, assertNonempty_eq_ok, exists_const]
  simp only [getOrCreateWatermarkRow, pure, Except.pure, Except.ok.injEq, Prod.mk.injEq]
  simp only [eq_comm (b := w), eq_comm (b := db')]

/-- A rewind that returned: the row existed at the expected version, under the
unexpired lease of the owner, its cursor lay above the target, and only that row
changed. -/
theorem rewindWatermark_eq_ok {p t : String} {owner : RunId} {v : Nat} {cursor : CursorPosition}
    {now : Timestamp} {db db' : Db} {w : Watermark}
    (h : rewindWatermark p t owner v cursor now db = .ok (w, db')) :
    ∃ row, db.watermarks.get (p, t) = some row ∧ OwnsAtVersion owner v now row ∧
      cursor < row.cursor ∧ w = ⟨p, t, cursor, v + 1⟩ ∧
      db' = { db with
        watermarks := db.watermarks.modify (p, t) (.advance cursor now)
          (WatermarkRow.advance_key cursor now) } := by
  unfold rewindWatermark at h
  simp only [bind_eq_ok, assertNonempty_eq_ok, require_eq_ok, exists_const,
    Db.updateWatermarkWhere_eq_ok] at h
  simp only [getOrCreateWatermarkRow] at h
  obtain ⟨-, -, -, earlier, hearlier, rfl, db₁, ⟨row, hrow, howns, rfl⟩, hret⟩ := h
  obtain ⟨rfl, rfl⟩ : w = ⟨p, t, cursor, v + 1⟩ ∧ db' = _ := by
    simpa [pure, Except.pure, eq_comm] using hret
  rw [Db.get_ensureWatermark] at hrow
  have hlt : cursor < (db.watermarkOrFresh (p, t) now).cursor :=
    (cursorIsEarlier_eq hearlier).1 rfl
  -- a row created by this very call holds the initial cursor, below which nothing lies
  have hexists : db.watermarks.get (p, t) ≠ none := by
    intro hnone
    simp only [Db.watermarkOrFresh, hnone, Option.getD_none] at hlt
    exact CursorPosition.not_lt_initial _ hlt
  have hdb : db.ensureWatermark (p, t) now = db := by simp [Db.ensureWatermark, hexists]
  obtain ⟨row', hrow'⟩ := Option.ne_none_iff_exists'.1 hexists
  simp only [Db.watermarkOrFresh, hrow', Option.getD_some, if_true, Option.some.injEq] at hrow hlt
  subst hrow
  exact ⟨row', hrow', howns, hlt, rfl, by rw [hdb]⟩

/-- What a commit that returned found and wrote. -/
structure Committed (c : TableCommit) (now : Timestamp) (db db' : Db) : Prop where
  watermark : ∃ row, db.watermarks.get c.expectedWatermark.key = some row ∧
    HoldsLease c.leaseOwner now row ∧ c.expectedWatermark.Matches row
  run : ∃ row, db.pipelineRuns.get c.run.key = some row ∧ IsRunning row
  objectFree : db.bronzeObjects.Free (c.objectRow now)
  quarantineFree : ∀ q ∈ c.quarantine, db.quarantineBatches.Free (q.row now)
  watermarks : db'.watermarks = db.watermarks.modify c.expectedWatermark.key
    (.advance c.object.watermarkAfter now) (WatermarkRow.advance_key c.object.watermarkAfter now)
  pipelineRuns : db'.pipelineRuns =
    db.pipelineRuns.modify c.run.key (c.finishedRow now) (c.finishedRow_key now)
  bronzeObjects : db'.bronzeObjects.rows = db.bronzeObjects.rows ++ [c.objectRow now]
  quarantineBatches : db'.quarantineBatches.rows =
    db.quarantineBatches.rows ++ (c.quarantine.map (·.row now)).toList

theorem insertCommitQuarantine_eq_ok {c : TableCommit} {now : Timestamp} {db db' : Db} :
    insertCommitQuarantine c now db = .ok db' ↔
      (∀ q ∈ c.quarantine, db.quarantineBatches.Free (q.row now)) ∧
      db'.quarantineBatches.rows =
        db.quarantineBatches.rows ++ (c.quarantine.map (·.row now)).toList ∧
      db' = { db with quarantineBatches := db'.quarantineBatches } := by
  unfold insertCommitQuarantine
  cases hq : c.quarantine with
  | none =>
    constructor
    · intro h
      cases h
      simp
    · rintro ⟨-, hrows, hdb⟩
      have ht : db'.quarantineBatches = db.quarantineBatches :=
        IndexedTable.ext (by simpa using hrows)
      rw [hdb, ht]
  | some q =>
    rw [Db.insertQuarantineBatch_eq_ok]
    constructor
    · rintro ⟨h, rfl⟩
      simpa using h
    · rintro ⟨hfree, hrows, hdb⟩
      have hf := hfree q rfl
      have ht : db'.quarantineBatches = db.quarantineBatches.insert (q.row now) hf :=
        IndexedTable.ext (by simpa using hrows)
      exact ⟨hf, by rw [hdb, ht]⟩

/-- `commit_table_run` returns exactly when its lease, CAS, uniqueness and run conditions hold,
and it then writes the four rows of `Committed` and nothing else. -/
theorem commitTableRun_eq_ok {c : TableCommit} {now : Timestamp} {db db' : Db} :
    commitTableRun c now db = .ok db' ↔ Committed c now db db' := by
  unfold commitTableRun assertCommitLease finishRunning
  simp only [bind_eq_ok, require_eq_ok, exists_const, insertCommitQuarantine_eq_ok,
    Db.insertBronzeObject_eq_ok, Db.updateRunWhere_eq_ok, Db.updateWatermarkWhere_eq_ok]
  constructor
  · rintro ⟨⟨row, hrow, hlease⟩, ⟨w₁, r₁, o₁, q₁⟩, ⟨hqf, hqr, hdb₁⟩, db₂, ⟨-, hfree, rfl⟩,
      db₃, ⟨run, hrun, hrunning, rfl⟩, row', hrow', hmatch, rfl⟩
    obtain ⟨rfl, rfl, rfl, -⟩ := Db.mk.inj hdb₁
    obtain rfl : row = row' := Option.some.inj (hrow.symm.trans hrow')
    exact ⟨⟨row, hrow', hlease, hmatch⟩, ⟨run, hrun, hrunning⟩, hfree, hqf, rfl, rfl, rfl, hqr⟩
  · intro h
    obtain ⟨row, hrow, hlease, hmatch⟩ := h.watermark
    obtain ⟨run, hrun, hrunning⟩ := h.run
    have hb : db'.bronzeObjects = db.bronzeObjects.insert (c.objectRow now) h.objectFree :=
      IndexedTable.ext h.bronzeObjects
    refine ⟨⟨row, hrow, hlease⟩, { db with quarantineBatches := db'.quarantineBatches },
      ⟨h.quarantineFree, h.quarantineBatches, rfl⟩, _,
      ⟨⟨c.object.batchNamed.2, c.run.batchNamed.2⟩, h.objectFree, rfl⟩, _,
      ⟨run, hrun, hrunning, rfl⟩, row, hrow, hmatch, ?_⟩
    rw [← h.watermarks, ← h.pipelineRuns, ← hb]

end CommercePlatform
