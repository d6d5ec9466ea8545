import CommercePlatform.Lib.Latest
import CommercePlatform.Lib.Program
import CommercePlatform.Warehouse.PublishRuns
/-!
# Build, test and publish

`src/warehouse/publish.py`: the published warehouse file is copied, the copy is synced,
built and tested, and the finished copy replaces the published file in one rename. The
state is the warehouse directory and the publish runs; DuckDB, dbt and the copy of a
file are parameters (`Tools`) that may raise on their own and leave any build files
behind.

Everything the metadata database and the file system do in between is an operation that
a failure may strike (`Prog.op` of `Lib.Program`), before it took effect or after; the
clean-up of a failed run and the recovery of abandoned runs are not struck. A program is
then a function of where the failure strikes, and `Warehouse.PublishGate` is about every
such place.

Mirroring notes:

- `publish_heartbeat` is a context whose thread may wake up before any operation inside
  it and touches the row. When its step returns, it leaves a last sign of life;
- `_fail` runs inside an exception handler. What it does is done; that it is struck
  itself is not modelled;
- `os.replace` is one operation on the directory: the file at the published path is the
  old one or the new one as a whole, with its inode;
- what `Tools.Sound` asks of DuckDB and the file system is that opening a database
  creates its file, no database file is removed, and a WAL lies beside its database.
  Nothing is asked of what dbt builds.

Texts of errors are those of the source, cut to `ERROR_MESSAGE_LIMIT` where they are
recorded.
-/

namespace CommercePlatform.Warehouse

open Lib

/-- The content of a file. -/
abbrev Bytes := List UInt8

/-- A file with its content and identity. -/
structure WarehouseFile where
  content : Bytes
  identity : FileIdentity
deriving DecidableEq

/-- What lies under `build/` for one run. -/
structure BuildFiles where
  /-- `<id>.duckdb`. -/
  file : Option WarehouseFile
  /-- `<id>.duckdb.wal`. -/
  wal : Option Bytes
  /-- `<id>-target`, the dbt target directory. -/
  target : Option Bytes
deriving DecidableEq

/-- Nothing lies under `build/`. -/
def BuildFiles.none : BuildFiles := ⟨Option.none, Option.none, Option.none⟩

/-- A WAL lies only beside its database file. -/
def BuildFiles.Paired (b : BuildFiles) : Prop := b.wal.isSome → b.file.isSome

/-- A build isolated under `failed/`. -/
structure FailedBuild where
  publishRunId : RunId
  file : WarehouseFile
  wal : Option Bytes
deriving DecidableEq

/-- The warehouse directory. -/
structure Disk where
  published : Option WarehouseFile
  publishedWal : Option Bytes
  build : RunId → BuildFiles
  failed : List FailedBuild

/-- Put the build files of one run. -/
def Disk.setBuild (d : Disk) (id : RunId) (b : BuildFiles) : Disk :=
  { d with build := Function.update d.build id b }

@[simp] theorem Disk.setBuild_build_self (d : Disk) (id : RunId) (b : BuildFiles) :
    (d.setBuild id b).build id = b := Function.update_self ..

@[simp] theorem Disk.setBuild_build_ne (d : Disk) {id k : RunId} (b : BuildFiles) (h : k ≠ id) :
    (d.setBuild id b).build k = d.build k := Function.update_of_ne h ..

@[simp] theorem Disk.setBuild_published (d : Disk) (id : RunId) (b : BuildFiles) :
    (d.setBuild id b).published = d.published := rfl

@[simp] theorem Disk.setBuild_publishedWal (d : Disk) (id : RunId) (b : BuildFiles) :
    (d.setBuild id b).publishedWal = d.publishedWal := rfl

/-- `WarehousePaths`: the texts of the paths, for messages. -/
structure WarehousePaths where
  published : String
  buildDir : String
  failedDir : String

/-- `build_file`. -/
def WarehousePaths.buildFile (paths : WarehousePaths) (id : RunId) : String :=
  paths.buildDir ++ "/" ++ toString id ++ ".duckdb"

/-- `failed_file`. -/
def WarehousePaths.failedFile (paths : WarehousePaths) (id : RunId) : String :=
  paths.failedDir ++ "/" ++ toString id ++ ".duckdb"

/-- The directory, the publish runs, and when the heartbeat thread wakes up next. -/
structure World where
  disk : Disk
  runs : PublishRuns
  beats : List (Option Timestamp)

/-- The heartbeat thread wakes up, or not, before the next operation. -/
def World.beat (id : RunId) (w : World) : World :=
  match w.beats with
  | [] => w
  | none :: beats => { w with beats := beats }
  | some now :: beats => { w with runs := (touchPublishRun id now w.runs).2, beats := beats }

/-- `DbtRunResult`. -/
structure DbtRunResult where
  returncode : Int
  invocationId : Option String
  testsPassed : Nat
  testsFailed : Nat
  errorType : Option String
  failedNodes : List String
  output : String

/-- `DbtRunResult.succeeded`. -/
def DbtRunResult.succeeded (r : DbtRunResult) : Bool := r.returncode == 0 && r.errorType.isNone

/-- The hashes and row counts of the mart tables. -/
abbrev MartHashes := List (String × String) × List (String × Nat)

/-- What runs outside this code: each may raise, whatever it did before to the build files of the
run. -/
structure Tools where
  /-- `shutil.copyfile` onto the build path. -/
  copyfile : WarehouseFile → Option WarehouseFile → Except Raised Unit × Option WarehouseFile
  /-- `sync_bronze_catalog` over the committed objects. -/
  syncBronzeCatalog : BuildFiles → Except Raised Unit × BuildFiles
  /-- `dbt_runner`. -/
  dbtRunner : BuildFiles → Except Raised DbtRunResult × BuildFiles
  checkpoint : BuildFiles → Except Raised Unit × BuildFiles
  /-- `mart_hashes_and_row_counts`: reads only. -/
  martHashesAndRowCounts : WarehouseFile → Except Raised MartHashes

/-- What DuckDB and the file system guarantee: opening a database creates its
file, no database file is removed, and a WAL lies beside its database. -/
structure Tools.Sound (tools : Tools) : Prop where
  copyfile_some : ∀ f old, old.isSome → (tools.copyfile f old).2.isSome
  sync_paired : ∀ b, b.Paired → (tools.syncBronzeCatalog b).2.Paired
  sync_file : ∀ b, (tools.syncBronzeCatalog b).1 = .ok () →
    (tools.syncBronzeCatalog b).2.file.isSome
  dbt_paired : ∀ b, b.Paired → (tools.dbtRunner b).2.Paired
  dbt_file : ∀ b, b.file.isSome → (tools.dbtRunner b).2.file.isSome
  checkpoint_paired : ∀ b, b.Paired → (tools.checkpoint b).2.Paired
  checkpoint_file : ∀ b, b.file.isSome → (tools.checkpoint b).2.file.isSome

/-- `os.utime(target, (now, now))`. -/
def WarehouseFile.utime (f : WarehouseFile) (now : Timestamp) : WarehouseFile :=
  { f with identity := { f.identity with mtimeNs := now * 1000 } }

/-- `_isolate_build`: whether a build was moved, and the directory. The WAL is moved with its
database. -/
def isolateBuild (id : RunId) (now : Timestamp) (d : Disk) : Bool × Disk :=
  match (d.build id).file with
  | none => (false, d)
  | some f =>
    let old := d.failed.find? fun b => b.publishRunId = id
    let moved : FailedBuild :=
      ⟨id, f.utime now, (d.build id).wal.or (old.bind FailedBuild.wal)⟩
    (true, { d.setBuild id { d.build id with file := none, wal := none } with
      failed := d.failed.filter (fun b => b.publishRunId ≠ id) ++ [moved] })

/-- `FAILED_BUILD_RETENTION`: how many failed builds are kept. -/
def failedBuildRetention : Nat := 3

/-- Latest modification first. -/
def ModifiedAfter (a b : FailedBuild) : Prop :=
  b.file.identity.mtimeNs ≤ a.file.identity.mtimeNs

instance : DecidableRel ModifiedAfter := fun _ _ => inferInstanceAs (Decidable (_ ≤ _))

/-- `_prune_failed_builds`: the three failed builds that were modified last, of any runs. -/
def pruneFailedBuilds (d : Disk) : Disk :=
  { d with failed := (d.failed.insertionSort ModifiedAfter).take failedBuildRetention }

/-- `shutil.rmtree(paths.target_dir(id), ignore_errors=True)`. -/
def removeTarget (id : RunId) (d : Disk) : Disk :=
  d.setBuild id { d.build id with target := none }

abbrev Publishing := Prog World Raised

/-- An operation on the directory that cannot fail. -/
def onDisk {α : Type} (f : Disk → α × Disk) : Publishing α :=
  Prog.exec fun w => (.ok (f w.disk).1, { w with disk := (f w.disk).2 })

/-- A transaction on the publish runs that no failure strikes. -/
def onRuns {α : Type} (f : PublishRuns → Except Raised α × PublishRuns) : Publishing α :=
  Prog.exec fun w => ((f w.runs).1, { w with runs := (f w.runs).2 })

/-- An operation of a running publish step: the heartbeat thread may wake up first, and a failure
may strike before the operation or after it. -/
def stepOn {α : Type} (id : RunId) (f : World → Except Raised α × World) : Publishing α :=
  Prog.op fun w => f (w.beat id)

/-- A transaction of a running publish step. -/
def stepRuns (id : RunId) (f : PublishRuns → Except Raised Unit × PublishRuns) :
    Publishing Unit :=
  stepOn id fun w => ((f w.runs).1, { w with runs := (f w.runs).2 })

/-- A tool working on the build files of a run. -/
def stepBuild {α : Type} (id : RunId) (f : BuildFiles → Except Raised α × BuildFiles) :
    Publishing α :=
  Prog.exec fun w =>
    let w := w.beat id
    ((f (w.disk.build id)).1, { w with disk := w.disk.setBuild id (f (w.disk.build id)).2 })

/-- `_fail`: isolate the build, close the run as `FAILED`, prune, and remove the dbt target
directory. -/
def fail (paths : WarehousePaths) (id : RunId) (errorType message : String) (now : Timestamp) :
    Publishing Unit := do
  let moved ← onDisk (isolateBuild id now)
  onRuns (markFailed id errorType (if message = "" then errorType else message)
    (if moved then some (paths.failedFile id) else none) now)
  onDisk fun d => ((), removeTarget id (pruneFailedBuilds d))

/-- `_clean_failed_recovery`. -/
def cleanFailedRecovery (paths : WarehousePaths) (id : RunId) (now : Timestamp) :
    Publishing Unit := do
  let moved ← onDisk (isolateBuild id now)
  (if moved then onRuns (recordFailedPath id (paths.failedFile id)) else pure () : Publishing Unit)
  onDisk fun d => ((), removeTarget id (pruneFailedBuilds d))

/-- `publish_heartbeat`: a step that returns leaves a last sign of life, when the
row is still the owner's. -/
def heartbeat {α : Type} (id : RunId) (x : Publishing α) : Publishing α := do
  let a ← x
  Prog.exec fun w => (.ok a, w.beat id)

/-- `PUBLISH_LEASE`: five minutes. -/
def publishLease : Timestamp := 5 * 60 * 1000000

/-- `_published_identity_matches`. -/
def publishedIdentityMatches (d : Disk) (recorded : Option FileIdentity) : Bool :=
  recorded.any fun identity => d.published.any fun f => f.identity = identity

/-- One round of the recovery loop: compare the identities, close the row, and only then touch
files. -/
def recoverRun (paths : WarehousePaths) (now : Timestamp) (record : PublishRow) :
    Publishing Unit := do
  let matching ← onDisk fun d => (publishedIdentityMatches d record.publishedIdentity, d)
  let published := record.status = .publishing && matching
  let closed ← onRuns fun runs =>
    let closed := closeStaleRun record.publishRunId published (now - publishLease) now runs
    (.ok closed.1, closed.2)
  if closed then
    if published then
      onDisk fun d =>
        let d := d.setBuild record.publishRunId { d.build record.publishRunId with file := none }
        ((), removeTarget record.publishRunId d)
    else cleanFailedRecovery paths record.publishRunId now
  else pure ()

/-- `recover_incomplete_publishes`. -/
def recoverIncompletePublishes (paths : WarehousePaths) (now : Timestamp)
    (reclaim : Option PublishRun) : Publishing Unit := do
  let reclaimed ← onRuns fun runs =>
    match reclaim.bind fun run => run.dagRunId.map fun d => (run.pipelineName, d) with
    | none => (.ok [], runs)
    | some (pipelineName, dagRunId) =>
      let closed := closeDagRunBuilding pipelineName dagRunId now runs
      (.ok closed.1, closed.2)
  Prog.forEach reclaimed fun id => cleanFailedRecovery paths id now
  let stale ← onRuns fun runs => (.ok (staleActiveRuns (now - publishLease) runs), runs)
  Prog.forEach stale (recoverRun paths now)

/-! ## Publishing -/

/-- The times a publish reads from the clock. -/
structure Clock where
  prepared : Timestamp
  failed : Timestamp
  published : Timestamp

/-- The part of `prepare_warehouse_build` under the heartbeat. -/
def prepareBuild (tools : Tools) (paths : WarehousePaths) (clock : Clock) (id : RunId) :
    Publishing Unit :=
  heartbeat id <| Prog.onError
    (do
      stepOn id fun w =>
        if w.disk.publishedWal.isSome then
          (.error ⟨.publishedWalError,
            "Published warehouse has a WAL: " ++ paths.published ++ ".wal"⟩, w)
        else (.ok (), w)
      Prog.exec fun w =>
        let w := w.beat id
        match w.disk.published with
        | none => (.ok (), w)
        | some f =>
          let copied := tools.copyfile f (w.disk.build id).file
          (copied.1, { w with
            disk := w.disk.setBuild id { w.disk.build id with file := copied.2 } })
      stepBuild id tools.syncBronzeCatalog)
    fun e => fail paths id (classifyError e) e.message clock.failed

/-- `prepare_warehouse_build`. -/
def prepareWarehouseBuild (tools : Tools) (paths : WarehousePaths) (clock : Clock)
    (run : PublishRun) : Publishing Unit := do
  recoverIncompletePublishes paths clock.prepared (some run)
  onRuns fun runs =>
    match startPublishRun run clock.prepared runs with
    | .ok runs' => (.ok (), runs')
    | .error e => (.error e, runs)
  prepareBuild tools paths clock run.publishRunId

/-- `FAILED_NODE_LIMIT`: how many failed dbt nodes a message names. -/
def failedNodeLimit : Nat := 20

/-- `_failure_summary`. -/
def failureSummary (errorType : String) (result : DbtRunResult) : String :=
  let nodes := ", ".intercalate (result.failedNodes.take failedNodeLimit)
  errorType ++ ": failed nodes: " ++ (if nodes = "" then "none" else nodes) ++ "\n" ++ result.output

/-- `build_warehouse`. -/
def buildWarehouse (tools : Tools) (paths : WarehousePaths) (clock : Clock) (id : RunId) :
    Publishing DbtRunResult := do
  let result ← Prog.onError
    (heartbeat id do
      let result ← stepBuild id tools.dbtRunner
      stepRuns id (recordDbtResult id result.invocationId result.testsPassed result.testsFailed)
      pure result)
    fun e => fail paths id (classifyError e) e.message clock.failed
  if result.succeeded then pure result
  else
    let errorType := match result.errorType with
      | none | some "" => dbtBuildError
      | some errorType => errorType
    fail paths id errorType (failureSummary errorType result) clock.failed
    Prog.raise ⟨.warehouseBuildError errorType, failureSummary errorType result⟩

/-- `file_identity(build_path)` and the reads of the build file. -/
def readBuild {α : Type} (paths : WarehousePaths) (id : RunId)
    (f : WarehouseFile → Except Raised α) (w : World) : Except Raised α × World :=
  match (w.disk.build id).file with
  | none => (.error ⟨.fileNotFoundError, paths.buildFile id⟩, w)
  | some file => (f file, w)

/-- `os.replace(build_path, paths.published)`. -/
def replacePublished (paths : WarehousePaths) (id : RunId) (w : World) :
    Except Raised Unit × World :=
  match (w.disk.build id).file with
  | none => (.error ⟨.fileNotFoundError, paths.buildFile id⟩, w)
  | some file => (.ok (), { w with
      disk := { w.disk.setBuild id { w.disk.build id with file := none } with
        published := some file } })

/-- The steps of `publish_build` under the heartbeat: checkpoint, read, mark, replace, sync,
mark. -/
def swapBuild (tools : Tools) (paths : WarehousePaths) (clock : Clock) (id : RunId) :
    Publishing (MartHashes × FileIdentity) := do
  stepBuild id tools.checkpoint
  stepOn id fun w =>
    if (w.disk.build id).wal.isSome then
      (.error ⟨.publishedWalError,
        "Build warehouse still has a WAL: " ++ paths.buildFile id⟩, w)
    else (.ok (), w)
  let hashes ← stepOn id (readBuild paths id tools.martHashesAndRowCounts)
  let identity ← stepOn id (readBuild paths id fun f => .ok f.identity)
  stepRuns id (markPublishing id hashes.1 hashes.2 identity)
  stepOn id (replacePublished paths id)
  -- `fsync_directory`
  stepOn id fun w => (.ok (), w)
  stepRuns id (markPublished id clock.published)
  pure (hashes, identity)

/-- `PublishOutcome`. -/
structure PublishOutcome where
  publishRunId : RunId
  previousPublishRunId : Option RunId
  martHashes : List (String × String)
  martRowCounts : List (String × Nat)
  changedRelations : List String
  publishedIdentity : FileIdentity

/-- `mismatched_relations`. -/
def mismatchedRelations (left right : List (String × String)) : List String :=
  ((distinct (left.map Prod.fst ++ right.map Prod.fst)).insertionSort (· ≤ ·)).filter fun name =>
    left.lookup name ≠ right.lookup name

/-- `_previous_hashes`. -/
def previousHashes (runs : PublishRuns) (record : PublishRow) : List (String × String) :=
  ((record.previousPublishRunId.bind runs.get).bind PublishRow.martHashes).getD []

/-- `publish_build`. The handler cleans up only where the build file still exists, which is how
it tells a failure before the replacement from one after it. -/
def publishBuild (tools : Tools) (paths : WarehousePaths) (clock : Clock) (id : RunId) :
    Publishing PublishOutcome := do
  let record ← Prog.exec fun w =>
    match w.runs.get id with
    | none => (.error ⟨.publishStateError, "Publish run " ++ toString id ++ " does not exist"⟩, w)
    | some record => (.ok record, w)
  let swapped ← Prog.onError (heartbeat id (swapBuild tools paths clock id)) fun e => do
    let building ← onDisk fun d => ((d.build id).file.isSome, d)
    if building then fail paths id (classifyError e) e.message clock.failed else pure ()
  onDisk fun d => ((), removeTarget id d)
  Prog.exec fun w => (.ok
    { publishRunId := id
      previousPublishRunId := record.previousPublishRunId
      martHashes := swapped.1.1
      martRowCounts := swapped.1.2
      changedRelations := mismatchedRelations (previousHashes w.runs record) swapped.1.1
      publishedIdentity := swapped.2 }, w)

/-- `publish_warehouse`. -/
def publishWarehouse (tools : Tools) (paths : WarehousePaths) (clock : Clock) (run : PublishRun) :
    Publishing PublishOutcome := do
  prepareWarehouseBuild tools paths clock run
  let _ ← buildWarehouse tools paths clock run.publishRunId
  publishBuild tools paths clock run.publishRunId

end CommercePlatform.Warehouse
