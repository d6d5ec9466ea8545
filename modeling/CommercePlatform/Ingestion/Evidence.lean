import CommercePlatform.Bronze.Storage
import CommercePlatform.Control.Batch
/-!
# Building checked values

The frozen dataclasses an ingestion hands on check their fields in `__post_init__`: the
run, the manifests, the verified object, the quarantine batch, the commit.
`Control/Metadata` and `Bronze/Manifest` hold these checks as fields of the structures,
so that an unchecked value cannot be built; here is the construction, which raises where
a check fails and otherwise yields the value with its proofs.

Each class has three declarations. `…Checks` is `__post_init__` in its order, so that
the first check that fails raises its own text. `…Checks_eq_ok` says that the checks
pass exactly where the fields of the structure hold. And `….make` builds the value from
that equivalence, by `checked`. A change of a check in the source is a change of one
`…Checks` and its lemma; the programs that build the values do not see it.
-/

namespace CommercePlatform

/-- A value that carries the proofs of its checks, where they pass. The `build` function is only
ever called with the proof that they did. -/
def checked {α : Type} : (checks : Except Raised Unit) → (checks = .ok () → α) → Except Raised α
  | .error e, _ => .error e
  | .ok (), build => .ok (build rfl)

/-- `_assert_nonempty` without a maximum: a text of blanks only is empty here, as `str.strip` has
it. -/
def assertNotBlank (value name : String) : Except Raised Unit :=
  require (isBlank value = false) ⟨.valueError, name ++ " must not be empty"⟩

/-- `_assert_sha256`. -/
def assertSha256 (value name : String) : Except Raised Unit :=
  require (IsSha256 value) ⟨.valueError, name ++ " must be a lowercase SHA-256 hex value"⟩

/-- `PipelineRun.__post_init__`, for a run without DAG id. -/
def pipelineRunChecks (pipelineName sourceTable batchId : String) (attemptNumber : Nat) :
    Except Raised Unit := do
  assertNonempty pipelineName "pipeline_name" 128
  assertNonempty sourceTable "source_table" 64
  assertNonempty batchId "batch_id" 192
  require (0 < attemptNumber) ⟨.valueError, "attempt_number must be greater than zero"⟩

theorem pipelineRunChecks_eq_ok {p t b : String} {n : Nat} {u : Unit} :
    pipelineRunChecks p t b n = .ok u ↔ Named 128 p ∧ Named 64 t ∧ Named 192 b ∧ 0 < n := by
  unfold pipelineRunChecks
  simp only [bind_eq_ok, assertNonempty_eq_ok, require_eq_ok, exists_const]

def PipelineRun.make (runId : RunId) (pipelineName sourceTable batchId : String)
    (logicalDate : Timestamp) (attemptNumber : Nat) (watermarkBefore : CursorPosition)
    (extractUpperBound : Option CursorPosition) : Except Raised PipelineRun :=
  checked (pipelineRunChecks pipelineName sourceTable batchId attemptNumber) fun h => {
    runId := runId
    pipelineName := pipelineName
    sourceTable := sourceTable
    batchId := batchId
    logicalDate := logicalDate
    attemptNumber := attemptNumber
    watermarkBefore := watermarkBefore
    extractUpperBound := extractUpperBound
    dagId := none
    pipelineNamed := (pipelineRunChecks_eq_ok.1 h).1
    tableNamed := (pipelineRunChecks_eq_ok.1 h).2.1
    batchNamed := (pipelineRunChecks_eq_ok.1 h).2.2.1
    attempted := (pipelineRunChecks_eq_ok.1 h).2.2.2
    dagNamed := by simp }

/-- `BronzeManifest.__post_init__`. -/
def bronzeManifestChecks (batchId sourceTable objectKey contentSha256 logicalHash : String)
    (schemaVersion : Nat) : Except Raised Unit := do
  require (isBlank batchId = false ∧ isBlank sourceTable = false ∧ isBlank objectKey = false)
    ⟨.valueError, "Manifest identifiers must not be empty"⟩
  require (0 < schemaVersion) ⟨.valueError, "Unsupported manifest or schema version"⟩
  assertSha256 contentSha256 "content_sha256"
  assertSha256 logicalHash "logical_hash"

theorem bronzeManifestChecks_eq_ok {b t o c l : String} {v : Nat} {u : Unit} :
    bronzeManifestChecks b t o c l v = .ok u ↔
      (isBlank b = false ∧ isBlank t = false ∧ isBlank o = false) ∧ 0 < v ∧ IsSha256 c ∧
        IsSha256 l := by
  unfold bronzeManifestChecks assertSha256
  simp only [bind_eq_ok, require_eq_ok, exists_const]

def BronzeManifest.make (batchId : String) (runId : RunId) (sourceTable : String)
    (logicalDate : Timestamp) (watermarkBefore extractUpperBound : CursorPosition)
    (object : StoredObject) (logicalHash : String) (rowCount : Nat) (createdAt : Timestamp)
    (schemaVersion : Nat) : Except Raised BronzeManifest :=
  checked (bronzeManifestChecks batchId sourceTable object.key object.contentSha256 logicalHash
    schemaVersion) fun h => {
    batchId := batchId
    runId := runId
    sourceTable := sourceTable
    logicalDate := logicalDate
    watermarkBefore := watermarkBefore
    extractUpperBound := extractUpperBound
    objectKey := object.key
    objectSize := object.size
    contentSha256 := object.contentSha256
    logicalHash := logicalHash
    rowCount := rowCount
    createdAt := createdAt
    schemaVersion := schemaVersion
    batchNamed := (bronzeManifestChecks_eq_ok.1 h).1.1
    tableNamed := (bronzeManifestChecks_eq_ok.1 h).1.2.1
    objectNamed := (bronzeManifestChecks_eq_ok.1 h).1.2.2
    versioned := (bronzeManifestChecks_eq_ok.1 h).2.1
    contentHashed := (bronzeManifestChecks_eq_ok.1 h).2.2.1
    logicalHashed := (bronzeManifestChecks_eq_ok.1 h).2.2.2 }

/-- `QuarantineManifest.__post_init__`. -/
def quarantineManifestChecks (batchId sourceTable objectKey contentSha256 : String)
    (errorCounts : List (String × Nat)) : Except Raised Unit := do
  require (isBlank batchId = false ∧ isBlank sourceTable = false ∧ isBlank objectKey = false)
    ⟨.valueError, "Quarantine manifest identifiers must not be empty"⟩
  require (∀ p ∈ errorCounts, p.1 ≠ "")
    ⟨.valueError, "Quarantine error_counts must contain non-negative named counts"⟩
  assertSha256 contentSha256 "content_sha256"

theorem quarantineManifestChecks_eq_ok {b t o c : String} {counts : List (String × Nat)}
    {u : Unit} :
    quarantineManifestChecks b t o c counts = .ok u ↔
      (isBlank b = false ∧ isBlank t = false ∧ isBlank o = false) ∧ (∀ p ∈ counts, p.1 ≠ "") ∧
        IsSha256 c := by
  unfold quarantineManifestChecks assertSha256
  simp only [bind_eq_ok, require_eq_ok, exists_const]

def QuarantineManifest.make (batchId : String) (runId : RunId) (sourceTable : String)
    (object : StoredObject) (rowCount : Nat) (errorCounts : List (String × Nat))
    (createdAt : Timestamp) : Except Raised QuarantineManifest :=
  checked (quarantineManifestChecks batchId sourceTable object.key object.contentSha256
    errorCounts) fun h => {
    batchId := batchId
    runId := runId
    sourceTable := sourceTable
    objectKey := object.key
    objectSize := object.size
    contentSha256 := object.contentSha256
    rowCount := rowCount
    errorCounts := errorCounts
    createdAt := createdAt
    batchNamed := (quarantineManifestChecks_eq_ok.1 h).1.1
    tableNamed := (quarantineManifestChecks_eq_ok.1 h).1.2.1
    objectNamed := (quarantineManifestChecks_eq_ok.1 h).1.2.2
    errorsNamed := (quarantineManifestChecks_eq_ok.1 h).2.1
    contentHashed := (quarantineManifestChecks_eq_ok.1 h).2.2 }

/-! ## The evidence of a commit -/

/-- `VerifiedBronzeObject.__post_init__`. -/
def verifiedObjectChecks (tableBatchId objectKey manifestKey contentSha256 logicalHash : String)
    (schemaVersion : Nat) : Except Raised Unit := do
  assertNonempty tableBatchId "table_batch_id" 320
  assertNotBlank objectKey "object_key"
  assertNotBlank manifestKey "manifest_key"
  require (0 < schemaVersion) ⟨.valueError, "schema_version must be greater than zero"⟩
  assertSha256 contentSha256 "content_sha256"
  assertSha256 logicalHash "logical_hash"

theorem verifiedObjectChecks_eq_ok {b o m c l : String} {v : Nat} {u : Unit} :
    verifiedObjectChecks b o m c l v = .ok u ↔
      Named 320 b ∧ isBlank o = false ∧ isBlank m = false ∧ 0 < v ∧ IsSha256 c ∧ IsSha256 l := by
  unfold verifiedObjectChecks assertSha256 assertNotBlank
  simp only [bind_eq_ok, assertNonempty_eq_ok, require_eq_ok, exists_const]

def VerifiedBronzeObject.make (tableBatchId objectKey manifestKey : String)
    (schemaVersion rowCount : Nat) (contentSha256 logicalHash : String)
    (watermarkAfter : CursorPosition) : Except Raised VerifiedBronzeObject :=
  checked (verifiedObjectChecks tableBatchId objectKey manifestKey contentSha256 logicalHash
    schemaVersion) fun h => {
    tableBatchId := tableBatchId
    objectKey := objectKey
    manifestKey := manifestKey
    schemaVersion := schemaVersion
    rowCount := rowCount
    contentSha256 := contentSha256
    logicalHash := logicalHash
    watermarkAfter := watermarkAfter
    batchNamed := (verifiedObjectChecks_eq_ok.1 h).1
    objectNamed := (verifiedObjectChecks_eq_ok.1 h).2.1
    manifestNamed := (verifiedObjectChecks_eq_ok.1 h).2.2.1
    versioned := (verifiedObjectChecks_eq_ok.1 h).2.2.2.1
    contentHashed := (verifiedObjectChecks_eq_ok.1 h).2.2.2.2.1
    logicalHashed := (verifiedObjectChecks_eq_ok.1 h).2.2.2.2.2 }

/-- `QuarantineBatch.__post_init__`. -/
def quarantineBatchChecks (tableBatchId objectKey : String) (errorCounts : List (String × Nat)) :
    Except Raised Unit := do
  assertNonempty tableBatchId "table_batch_id" 320
  assertNotBlank objectKey "object_key"
  require (∀ p ∈ errorCounts, p.1 ≠ "")
    ⟨.valueError, "Quarantine counts must be non-negative and named"⟩

theorem quarantineBatchChecks_eq_ok {b o : String} {counts : List (String × Nat)} {u : Unit} :
    quarantineBatchChecks b o counts = .ok u ↔
      Named 320 b ∧ isBlank o = false ∧ ∀ p ∈ counts, p.1 ≠ "" := by
  unfold quarantineBatchChecks assertNotBlank
  simp only [bind_eq_ok, assertNonempty_eq_ok, require_eq_ok, exists_const]

def QuarantineBatch.make (tableBatchId objectKey : String) (rowCount : Nat)
    (errorCounts : List (String × Nat)) : Except Raised QuarantineBatch :=
  checked (quarantineBatchChecks tableBatchId objectKey errorCounts) fun h => {
    tableBatchId := tableBatchId
    objectKey := objectKey
    rowCount := rowCount
    errorCounts := errorCounts
    batchNamed := (quarantineBatchChecks_eq_ok.1 h).1
    objectNamed := (quarantineBatchChecks_eq_ok.1 h).2.1
    errorsNamed := (quarantineBatchChecks_eq_ok.1 h).2.2 }

/-- `TableCommit.__post_init__`. -/
def tableCommitChecks (run : PipelineRun) (object : VerifiedBronzeObject)
    (expectedWatermark : Watermark) (rowsRejected : Nat) (quarantine : Option QuarantineBatch) :
    Except Raised Unit := do
  require (expectedWatermark.pipelineName = run.pipelineName)
    ⟨.valueError, "Expected watermark pipeline_name differs from the pipeline run"⟩
  require (expectedWatermark.sourceTable = run.sourceTable)
    ⟨.valueError, "Expected watermark source_table differs from the pipeline run"⟩
  require (expectedWatermark.cursor = run.watermarkBefore)
    ⟨.valueError, "Expected watermark cursor differs from the pipeline run"⟩
  require (∀ q ∈ quarantine, q.tableBatchId = object.tableBatchId)
    ⟨.valueError, "Quarantine table_batch_id differs from the Bronze object"⟩
  require (∀ q ∈ quarantine, q.rowCount = rowsRejected)
    ⟨.valueError, "Quarantine row_count must equal rows_rejected"⟩

theorem tableCommitChecks_eq_ok {run : PipelineRun} {object : VerifiedBronzeObject}
    {w : Watermark} {n : Nat} {quarantine : Option QuarantineBatch} {u : Unit} :
    tableCommitChecks run object w n quarantine = .ok u ↔
      w.pipelineName = run.pipelineName ∧ w.sourceTable = run.sourceTable ∧
        w.cursor = run.watermarkBefore ∧ (∀ q ∈ quarantine, q.tableBatchId = object.tableBatchId) ∧
        ∀ q ∈ quarantine, q.rowCount = n := by
  unfold tableCommitChecks
  simp only [bind_eq_ok, require_eq_ok, exists_const]

def TableCommit.make (run : PipelineRun) (object : VerifiedBronzeObject)
    (expectedWatermark : Watermark) (rowsExtracted rowsValid rowsRejected rowsLoaded : Nat)
    (leaseOwner : RunId) (quarantine : Option QuarantineBatch) : Except Raised TableCommit :=
  checked (tableCommitChecks run object expectedWatermark rowsRejected quarantine) fun h => {
    run := run
    object := object
    expectedWatermark := expectedWatermark
    rowsExtracted := rowsExtracted
    rowsValid := rowsValid
    rowsRejected := rowsRejected
    rowsLoaded := rowsLoaded
    leaseOwner := leaseOwner
    quarantine := quarantine
    samePipeline := (tableCommitChecks_eq_ok.1 h).1
    sameTable := (tableCommitChecks_eq_ok.1 h).2.1
    sameCursor := (tableCommitChecks_eq_ok.1 h).2.2.1
    quarantineBatch := (tableCommitChecks_eq_ok.1 h).2.2.2.1
    quarantineCount := (tableCommitChecks_eq_ok.1 h).2.2.2.2 }

end CommercePlatform
