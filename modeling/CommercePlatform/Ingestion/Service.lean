import CommercePlatform.Common.Errors
import CommercePlatform.Ingestion.Evidence
import CommercePlatform.Platform.World
/-!
# One ingestion of a table

`ingest_table` of `src/ingestion/service.py`, as a program over the operations of
`Platform.World`. The whole of it: the requests it refuses, the batch that is committed
already, the two leases, the heartbeat and the snapshot, the quarantine, the upload, the
commit, and what is recorded of every failure.

Everything that makes the function hard to read is in how its blocks are nested. The
commit is the last operation of a block inside two contexts, the heartbeat and the
Source snapshot, whose exits run after it and may raise when the commit is already done.
A failure is recorded by the handler that covers the place where it was raised: before
the run row exists (`_record_prestart_failure`), or from the extraction to the commit
(`_record_failure_without_masking`); the branch without new rows has no handler of its
own. The outermost handler asks for `run_started`, a variable of the function. Here that
is `Attempted`, which says where in the nested blocks an exception came from:

- `unstarted`: before the run row was there. It is recorded by the outer handler;
- `failed`: after that, and recorded inside or not at all;
- `returned`: the block came to its end.

How the Python is mirrored:

- a `with` block is a function that runs its body with `attempt`, then the exit, then
  combines the two (`thenClosed`, `thenStopped`). An exception of the snapshot's exit
  gives way to one of the body, the one of the heartbeat's exit replaces it;
- `try … except: record; raise` is `onError`, `finally` is `always`, and
  `contextlib.suppress` around a call is `suppress`;
- a frozen dataclass with checks is built by `make` of `Ingestion.Evidence`, whose
  exception is raised where the source constructs the value;
- the local Parquet files are not modelled. `_write_local_artifacts` is one operation on
  the snapshot that answers the records it would write, and `removeLocalArtifacts`
  deletes nothing the model has.

The statement about runs of this program is in `Platform.SourceFence`, and what its names
tell apart in `Ingestion.Identity`; it only ever does what `Effect.OfIngestion` lists.
-/

namespace CommercePlatform.Ingestion

open Lib Platform

variable {ρ : Type}

/-- `TableIngestionRequest`, with the checks of `__post_init__` as fields. -/
structure TableIngestionRequest where
  sourceTable : String
  batchId : String
  logicalDate : Timestamp
  attemptNumber : Nat
  runId : Option RunId
  pipelineName : Option String
  pageSize : Option Nat
  corruptionPlan : Option CorruptionPlan
  registered : ∃ config, tableConfig sourceTable = .ok config
  batchNamed : isBlank batchId = false
  pipelineNamed : ∀ name ∈ pipelineName, isBlank name = false
  attempted : 0 < attemptNumber
  paged : ∀ n ∈ pageSize, 0 < n

/-- `resolved_pipeline_name`. -/
def TableIngestionRequest.resolvedPipelineName (r : TableIngestionRequest) : String :=
  r.pipelineName.getD (r.sourceTable ++ "_bronze")

/-- The arguments of `ingest_table`. A request with a source lease runs under the lease of its
caller, one without takes its own. -/
structure IngestArgs where
  request : TableIngestionRequest
  now : Option Timestamp
  sourceLease : Option SourceMutationLease

/-- `TableIngestionResult`. -/
structure TableIngestionResult where
  run : PipelineRun
  status : RunStatus
  objectKey : Option String
  manifestKey : Option String
  rowCount : Nat
  rowsRejected : Nat
  rowsCorrupted : Nat
  quarantineObjectKey : Option String

/-- The common part of the four object keys. -/
def objectFolder (stem sourceTable batchId : String) (logicalDate : Timestamp) : String :=
  stem ++ "/" ++ sourceTable ++ "/ingestion_date=" ++ isoDate logicalDate ++ "/batch_id=" ++ batchId

/-- `table_object_keys`. -/
def tableObjectKeys (sourceTable batchId : String) (logicalDate : Timestamp) : String × String :=
  let folder := objectFolder "bronze" sourceTable batchId logicalDate
  (folder ++ "/data.parquet", folder ++ "/manifest.json")

/-- `quarantine_object_keys`. -/
def quarantineObjectKeys (sourceTable batchId : String) (logicalDate : Timestamp) :
    String × String :=
  let folder := objectFolder "quarantine" sourceTable batchId logicalDate
  (folder ++ "/records.parquet", folder ++ "/manifest.json")

/-- The error of a taken key. -/
def finalObjectExists (key : String) : Raised :=
  ⟨.fileExistsError, "Final object already exists: " ++ key⟩

/-- `_upload_new`, with the size and the hash its callers compute. The key is looked up first,
then written on the condition that it is not there, then read back: an object that came
between the two requests is found by the second (412). -/
def uploadNew (X : Externals ρ) (key : String) (content : ObjectContent ρ) :
    Program ρ StoredObject := do
  let file : StoredFile ρ := ⟨key, content, X.size content, X.sha256 content⟩
  check (key ≠ "" ∧ key.toList.head? ≠ some '/')
    ⟨.valueError, "Object key must be a non-empty relative path"⟩
  match ← storage (.headObject key) with
  | some _ => .raise (finalObjectExists key)
  | none =>
    match ← (storage (.putObject file)).attempt with
    | .error e => .raise (if e.cls = .clientError (some 412) then finalObjectExists key else e)
    | .ok () =>
      match ← storage (.headObject key) with
      | none => .raise noSuchKey
      | some head =>
        check (head.size = file.size)
          ⟨.runtimeError, "Object size differs from expected value: " ++ key⟩
        check (head.contentSha256 = file.contentSha256)
          ⟨.runtimeError, "Object checksum metadata differs from expected value: " ++ key⟩
        return file.head

/-- `error_counts`: how often each code occurs, sorted by code. A record with two codes counts
for both. -/
def errorCounts (rejected : List (RejectedRecord ρ)) : List (String × Nat) :=
  let codes := rejected.flatMap RejectedRecord.errorCodes
  (codes.dedup.insertionSort (· ≤ ·)).map fun code => (code, codes.count code)

/-- `_publish_quarantine`: nothing at all where no record was rejected, and else the records
before their manifest. -/
def publishQuarantine (X : Externals ρ) (run : PipelineRun) (artifacts : LocalArtifacts ρ)
    (currentTime : Timestamp) : Program ρ (Option QuarantineBatch) :=
  match artifacts.rejectedRecords with
  | [] => pure none
  | rejected => do
    let (objectKey, manifestKey) := quarantineObjectKeys run.sourceTable run.batchId run.logicalDate
    let uploaded ← uploadNew X objectKey
      (.quarantine run.sourceTable run.batchId run.runId currentTime rejected)
    let manifest ← Script.ofExcept (QuarantineManifest.make run.batchId run.runId run.sourceTable
      uploaded rejected.length (errorCounts rejected) currentTime)
    let _ ← uploadNew X manifestKey (.quarantineManifest manifest)
    let batch ← Script.ofExcept (QuarantineBatch.make (run.batchId ++ "__" ++ run.sourceTable)
      objectKey rejected.length (errorCounts rejected))
    return some batch

/-- `_upload_and_verify_bronze`: the data before the manifest, so that a manifest is never there
without its object. -/
def uploadAndVerifyBronze (X : Externals ρ) (run : PipelineRun) (config : TableConfig)
    (artifacts : LocalArtifacts ρ) (currentTime : Timestamp) : Program ρ VerifiedBronzeObject := do
  match run.extractUpperBound with
  | none => .raise ⟨.runtimeError, "Non-empty uploads require an extract upper bound"⟩
  | some upper =>
    let (objectKey, manifestKey) := tableObjectKeys run.sourceTable run.batchId run.logicalDate
    let uploaded ← uploadNew X objectKey
      (.bronze run.sourceTable run.batchId run.runId currentTime artifacts.validRecords)
    let hash := X.tableLogicalHash run.sourceTable artifacts.validRecords
    let manifest ← Script.ofExcept (BronzeManifest.make run.batchId run.runId run.sourceTable
      run.logicalDate run.watermarkBefore upper uploaded hash artifacts.validRecords.length
      currentTime config.schemaVersion)
    let _ ← uploadNew X manifestKey (.bronzeManifest manifest)
    Script.ofExcept (VerifiedBronzeObject.make (run.batchId ++ "__" ++ run.sourceTable) objectKey
      manifestKey config.schemaVersion artifacts.validRecords.length uploaded.contentSha256 hash
      upper)

/-- `str(error) or None`. -/
def messageOf (e : Raised) : Option String := if e.message = "" then none else some e.message

/-- The `run` of a request, in one of its attempts. -/
def TableIngestionRequest.run (r : TableIngestionRequest) (runId : RunId)
    (before : CursorPosition) (upper : Option CursorPosition) : Except Raised PipelineRun :=
  PipelineRun.make runId r.resolvedPipelineName r.sourceTable r.batchId r.logicalDate
    r.attemptNumber before upper

/-- `_record_prestart_failure`: a run row for a run that never started, and its failure. That the
recording fails is suppressed. -/
def recordPrestartFailure (request : TableIngestionRequest) (watermark : Watermark)
    (runId : RunId) (e : Raised) (currentTime : Timestamp) : Program ρ Unit := do
  let run ← Script.ofExcept (request.run runId watermark.cursor none)
  Script.suppress (do
    metadata (.recordStartedRun run currentTime)
    metadata (.recordFailedRun run (classifyError e) (messageOf e) currentTime))

/-- `_record_failure_without_masking`. -/
def recordFailureWithoutMasking (run : PipelineRun) (e : Raised) (currentTime : Timestamp) :
    Program ρ Unit :=
  (metadata (.recordFailedRun run (classifyError e) (messageOf e) currentTime)).suppress

/-- `_table_batch_identity`: the DAG is read from the id, and the id made of it again has to be
the same text. -/
def tableBatchIdentity (request : TableIngestionRequest) : Except Raised BatchIdentity := do
  let dagId ← dagIdFromBatchId request.batchId
  let standard ← BatchIdentity.make dagId request.logicalDate
  require (standard.batchId = request.batchId)
    ⟨.valueError, "batch_id must match '\x7bdag_id\x7d__\x7blogical_date_utc:%Y%m%dT%H%M%SZ\x7d'"⟩
  return standard

/-- `request.run_id or uuid.uuid4()`. -/
def requestedRunId (request : TableIngestionRequest) : Program ρ RunId :=
  match request.runId with
  | some id => pure id
  | none => host .uuid4

/-- `_reuse_or_reject_committed_batch`: a batch that is committed already is answered again from
its row, if the watermark and the schema still fit it. -/
def reuseOrRejectCommittedBatch (request : TableIngestionRequest) (config : TableConfig)
    (watermark : Watermark) (existing : CommittedTableBatch) (currentTime : Timestamp) :
    Program ρ TableIngestionResult :=
  match assertReusableTableBatch existing watermark config.schemaVersion with
  | .error e => do
    let id ← requestedRunId request
    let run ← Script.ofExcept (request.run id watermark.cursor none)
    metadata (.recordStartedRun run currentTime)
    metadata (.recordFailedRun run batchIdentityConflict (some e.message) currentTime)
    .raise e
  | .ok () => do
    let id ← requestedRunId request
    let run ← Script.ofExcept (request.run id existing.watermarkBefore
      (some existing.watermarkAfter))
    metadata (.recordStartedRun run currentTime)
    metadata (.recordSkippedAlreadyCommittedRun run existing.rowCount currentTime)
    return {
      run := run
      status := .skippedAlreadyCommitted
      objectKey := some existing.objectKey
      manifestKey := some existing.manifestKey
      rowCount := existing.rowCount
      rowsRejected := 0
      rowsCorrupted := 0
      quarantineObjectKey := none }

/-- The source lease of the caller, or one of its own, which only its own call gives back. -/
def sourceLeaseOf (args : IngestArgs) (runId : RunId) (currentTime : Timestamp) :
    Program ρ SourceMutationLease :=
  match args.sourceLease with
  | some lease => pure lease
  | none => pipeline (.acquireSourceLease .warehouse runId (some currentTime))

/-- Give back a source lease of its own; errors are suppressed. -/
def releaseOwned (args : IngestArgs) (lease : SourceMutationLease) (currentTime : Timestamp) :
    Program ρ Unit :=
  match args.sourceLease with
  | some _ => pure ()
  | none => (pipeline (.releaseSourceLease lease (some currentTime))).suppress

/-- The checks of the source lease and `acquire_table_lease`. -/
def tableLeaseUnder (request : TableIngestionRequest) (runId : RunId)
    (lease : SourceMutationLease) (currentTime : Timestamp) : Program ρ TableLease := do
  check (lease.ownerType = .warehouse)
    ⟨.valueError, "ingestion requires a WAREHOUSE source lease"⟩
  pipeline (.assertSourceLease lease (some currentTime))
  let _ ← metadata (.getOrCreateWatermark request.resolvedPipelineName request.sourceTable
    currentTime)
  metadata (.takeTableLease request.resolvedPipelineName request.sourceTable runId currentTime
    defaultTableLeaseTtl)

/-- The block that takes both leases. A failure at the second gives back the source lease if it
is the call's own. -/
def acquireLeases (args : IngestArgs) (watermark : Watermark) (runId : RunId)
    (currentTime : Timestamp) : Program ρ (SourceMutationLease × TableLease) := do
  let lease ← (sourceLeaseOf args runId currentTime).onError fun e =>
    recordPrestartFailure args.request watermark runId e currentTime
  let tableLease ← (tableLeaseUnder args.request runId lease currentTime).onError fun e => do
    recordPrestartFailure args.request watermark runId e currentTime
    releaseOwned args lease currentTime
  return (lease, tableLease)

/-! ## Extraction and commit -/

/-- What an ingestion works with once it holds its leases. -/
structure Held where
  config : TableConfig
  watermark : Watermark
  sourceLease : SourceMutationLease
  tableLease : TableLease
  currentTime : Timestamp

/-- The heartbeat and both leases, as asked before the upload and before the commit. Between the
second time and the commit nothing is asked again: the commit itself checks the table lease. -/
def assertOwnership (held : Held) : Program ρ Unit := do
  host .assertHealthy
  pipeline (.assertSourceLease held.sourceLease (some held.currentTime))
  pipeline (.assertTableLease held.tableLease held.currentTime)

/-- The inner block, from the extraction to the commit: `commit_table_run` is its last operation. -/
def extractAndCommit (X : Externals ρ) (request : TableIngestionRequest) (held : Held)
    (run : PipelineRun) : Program ρ TableIngestionResult := do
  let artifacts ← source (.writeLocalArtifacts request.corruptionPlan
    ⟨run.batchId, run.runId, held.currentTime, held.config.sourceTable⟩)
  assertOwnership held
  Script.ofExcept (assertRejectRate artifacts.rowsExtracted artifacts.rowsRejected)
  let quarantine ← publishQuarantine X run artifacts held.currentTime
  let object ← uploadAndVerifyBronze X run held.config artifacts held.currentTime
  assertOwnership held
  let commit ← Script.ofExcept (TableCommit.make run object held.watermark artifacts.rowsExtracted
    artifacts.validRecords.length artifacts.rowsRejected artifacts.validRecords.length
    held.tableLease.ownerId quarantine)
  metadata (.commitTableRun commit held.currentTime)
  return {
    run := run
    status := .success
    objectKey := some object.objectKey
    manifestKey := some object.manifestKey
    rowCount := object.rowCount
    rowsRejected := artifacts.rowsRejected
    rowsCorrupted := artifacts.rowsCorrupted
    quarantineObjectKey := quarantine.map QuarantineBatch.objectKey }

/-- The no-data branch: no handler of its own covers it, so a failure here leaves the run row as
started. -/
def finishWithoutData (held : Held) (run : PipelineRun) : Program ρ TableIngestionResult := do
  host .assertHealthy
  metadata (.recordSuccessNoDataRun run held.currentTime)
  return {
    run := run
    status := .successNoData
    objectKey := none
    manifestKey := none
    rowCount := 0
    rowsRejected := 0
    rowsCorrupted := 0
    quarantineObjectKey := none }

/-- What runs once the run row exists. -/
def ingestRun (X : Externals ρ) (request : TableIngestionRequest) (held : Held)
    (run : PipelineRun) : Program ρ TableIngestionResult :=
  match run.extractUpperBound with
  | none => finishWithoutData held run
  | some _ => (extractAndCommit X request held run).onError fun e =>
      recordFailureWithoutMasking run e held.currentTime

/-- How a block ended: it raised before the run row existed or after, or it returned. This is
`run_started` of the source together with the exception. -/
inductive Attempted (α : Type) where
  | unstarted (e : Raised)
  | failed (e : Raised)
  | returned (a : α)

/-- An exception raised by the exit of the snapshot: one of the block goes before it. -/
def Attempted.thenClosed {α : Type} : Attempted α → Except Raised Unit → Attempted α
  | .returned _, .error e => .failed e
  | x, _ => x

/-- An exception raised by the exit of the heartbeat replaces what the block did. -/
def Attempted.thenStopped {α : Type} : Attempted α → Except Raised Unit → Attempted α
  | x, .ok () => x
  | .unstarted _, .error e => .unstarted e
  | _, .error e => .failed e

/-- The body of the `with`, in the open snapshot: the run row first, then the run. -/
def inSnapshot (X : Externals ρ) (request : TableIngestionRequest) (held : Held) (runId : RunId)
    (upper : Option CursorPosition) : Program ρ (Attempted TableIngestionResult) := do
  let begun ← Script.attempt (do
    let run ← Script.ofExcept (request.run runId held.watermark.cursor upper)
    metadata (.recordStartedRun run held.currentTime)
    return run)
  match begun with
  | .error e => return .unstarted e
  | .ok run =>
    match ← (ingestRun X request held run).attempt with
    | .error e => return .failed e
    | .ok result => return .returned result

/-- `open_table_snapshot` around the body. -/
def withSnapshot (X : Externals ρ) (request : TableIngestionRequest) (held : Held)
    (runId : RunId) : Program ρ (Attempted TableIngestionResult) := do
  let opened ← Script.attempt (do
    let pageSize ← Script.ofExcept (request.pageSize.elim X.pageSize .ok)
    source (.openSnapshot held.config held.watermark.cursor pageSize))
  match opened with
  | .error e => return .unstarted e
  | .ok upper =>
    let attempted ← inSnapshot X request held runId upper
    let closed ← (source .closeSnapshot).attempt
    return attempted.thenClosed closed

/-- `LeaseHeartbeat` around the snapshot. -/
def withHeartbeat (X : Externals ρ) (args : IngestArgs) (held : Held) (runId : RunId) :
    Program ρ (Attempted TableIngestionResult) := do
  match ← (host (.startHeartbeat held.sourceLease held.tableLease args.now)).attempt with
  | .error e => return .unstarted e
  | .ok () =>
    let attempted ← withSnapshot X args.request held runId
    host .stopHeartbeat
    let healthy ← (host .assertHealthy).attempt
    return attempted.thenStopped healthy

/-- The handler around both contexts. -/
def concludeAttempt (request : TableIngestionRequest) (held : Held) (runId : RunId) :
    Attempted TableIngestionResult → Program ρ TableIngestionResult
  | .unstarted e => do
    recordPrestartFailure request held.watermark runId e held.currentTime
    .raise e
  | .failed e => .raise e
  | .returned result => pure result

/-- The `finally` of the block: the local files, then the table lease, then the source lease if
it is the call's own. -/
def cleanUp (args : IngestArgs) (held : Held) (runId : RunId) : Program ρ Unit := do
  host (.removeLocalArtifacts args.request.sourceTable runId)
  (metadata (.releaseTableLease held.tableLease)).suppress
  releaseOwned args held.sourceLease held.currentTime

/-- Everything under the leases. -/
def ingestUnderLeases (X : Externals ρ) (args : IngestArgs) (held : Held) (runId : RunId) :
    Program ρ TableIngestionResult :=
  Script.always (do
    let attempted ← withHeartbeat X args held runId
    concludeAttempt args.request held runId attempted) (cleanUp args held runId)

/-- `_utc_now`. -/
def currentTimeOf (now : Option Timestamp) : Program ρ Timestamp :=
  match now with
  | some time => pure time
  | none => host .utcNow

/-- `ingest_table`: what needs no lease first, and a batch that is committed already never takes
one. -/
def ingestTable (X : Externals ρ) (args : IngestArgs) : Program ρ TableIngestionResult := do
  let request := args.request
  let currentTime ← currentTimeOf args.now
  let config ← Script.ofExcept (tableConfig request.sourceTable)
  let runId ← requestedRunId request
  storage .ensureBucket
  let watermark ← metadata (.getOrCreateWatermark request.resolvedPipelineName config.sourceTable
    currentTime)
  let identity ← Script.ofExcept (tableBatchIdentity request)
  match ← pipeline (.getCommittedTableBatch (identity.tableBatchId config)) with
  | some existing => reuseOrRejectCommittedBatch request config watermark existing currentTime
  | none =>
    let (sourceLease, tableLease) ← acquireLeases args watermark runId currentTime
    ingestUnderLeases X args ⟨config, watermark, sourceLease, tableLease, currentTime⟩ runId

end CommercePlatform.Ingestion
