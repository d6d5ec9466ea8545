import CommercePlatform.Common.Calendar
import CommercePlatform.Contract.Tables
import CommercePlatform.Control.Metadata
/-!
# Batch identities

`src/ingestion/control/batch.py`: the deterministic batch id of a DAG and a logical
date, shared by the tables of one run, and the check that decides whether a committed
table batch may be reused.

A batch id is `{dag_id}__{stamp}` and a table batch id `{dag_id}__{stamp}__{table}`, so
an id can be read from the right only: a DAG id may itself contain the separator. That
the ids of different batches differ is a theorem about these texts
(`Ingestion/Identity`), not a convention of the model.

Mirroring notes vs the source:
- `TableBatchIdentity` is a batch identity and a table configuration, the two arguments
  of `tableBatchId`; `CommittedTableBatch` leaves its own copy of them out.
- `get_committed_table_batch` decodes the two cursors with `_cursor_from_metadata`; the
  model holds the decoded cursors, and the decoder itself is in `Bronze/ManifestJson`.
- Logical dates are UTC by type, so that half of `__post_init__` cannot fail.
-/

namespace CommercePlatform

open Lib

/-- `BatchIdentity`: the DAG, whose id fits the batch id column, and the logical date. -/
structure BatchIdentity where
  dagId : String
  logicalDate : Timestamp
  named : Named 174 dagId

/-- `f"{dag_id}__{logical_date:%Y%m%dT%H%M%SZ}"`. -/
def BatchIdentity.batchId (b : BatchIdentity) : String :=
  b.dagId ++ "__" ++ batchStamp b.logicalDate

/-- `BatchIdentity.__post_init__`. -/
def BatchIdentity.make (dagId : String) (logicalDate : Timestamp) : Except Raised BatchIdentity :=
  if h : Named 174 dagId then .ok ⟨dagId, logicalDate, h⟩
  else .error ⟨.valueError, "dag_id must contain between 1 and 174 characters"⟩

/-- `batch_id.rpartition("__")` over the reversed text; `after` is what was passed. -/
def rpartitionUnderscores : List Char → List Char → Option (List Char × List Char)
  | '_' :: '_' :: before, after => some (before.reverse, after)
  | c :: before, after => rpartitionUnderscores before (c :: after)
  | [], _ => none

/-- `_dag_id_from_batch_id`: what stands before the last separator of the id. -/
def dagIdFromBatchId (batchId : String) : Except Raised String :=
  match rpartitionUnderscores batchId.toList.reverse [] with
  | some (dagId, timestamp) =>
    if timestamp.length = 16 then .ok (String.ofList dagId)
    else .error ⟨.valueError, "batch_id must use the standard DAG logical-date format"⟩
  | none => .error ⟨.valueError, "batch_id must use the standard DAG logical-date format"⟩

example : dagIdFromBatchId "warehouse__x__20240101T235959Z" = .ok "warehouse__x" := by decide

/-- `TableBatchIdentity.table_batch_id`. -/
def BatchIdentity.tableBatchId (b : BatchIdentity) (config : TableConfig) : String :=
  b.batchId ++ "__" ++ config.sourceTable

/-- `CommittedTableBatch`. -/
structure CommittedTableBatch where
  objectKey : String
  manifestKey : String
  schemaVersion : Nat
  rowCount : Nat
  watermarkBefore : CursorPosition
  watermarkAfter : CursorPosition
deriving DecidableEq

/-- `get_committed_table_batch`: the `COMMITTED` row of the table batch. -/
def getCommittedTableBatch (tableBatchId : String) (db : Db) : Option CommittedTableBatch :=
  ((db.bronzeObjects.get tableBatchId).filter fun row => row.status = .committed).map fun row =>
    ⟨row.objectKey, row.manifestKey, row.schemaVersion, row.rowCount, row.watermarkBefore,
      row.watermarkAfter⟩

/-- `assert_reusable_table_batch`: a committed batch is reused only under the same schema and
where the watermark still is at its end. -/
def assertReusableTableBatch (existing : CommittedTableBatch) (currentWatermark : Watermark)
    (schemaVersion : Nat) : Except Raised Unit := do
  require (existing.schemaVersion = schemaVersion)
    ⟨.batchIdentityConflictError,
      "Committed batch schema_version differs from the requested schema"⟩
  require (currentWatermark.cursor = existing.watermarkAfter)
    ⟨.batchIdentityConflictError, "Committed batch range differs from the current watermark"⟩

/-- A batch id is not the empty text, the boundary before any build. -/
theorem BatchIdentity.empty_lt_batchId (b : BatchIdentity) : "" < b.batchId := by
  have hne : b.batchId.toList ≠ [] := by
    simp [batchId]
  rw [String.lt_iff_toList_lt]
  cases hl : b.batchId.toList with
  | nil => exact absurd hl hne
  | cons c cs => exact List.nil_lt_cons c cs

end CommercePlatform
