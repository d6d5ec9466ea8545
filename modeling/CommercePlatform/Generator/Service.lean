import CommercePlatform.Platform.World
/-!
# A generator run

`run_generator` of `src/generator/service.py`, as a program over the operations of
`Platform.World`. Every operation may raise before or after it took effect, and the
process may be gone between any two of them, so the order of the operations is the whole
content of this file.

The mutations of one configuration and the marker row of `generator_commits` are one
Source transaction, committed while the lease row of the pipeline database is held
shared (`fenced_source_commit`). The pipeline database is written before it (`RUNNING`)
and after it (`SUCCESS`), in transactions of its own. A call that dies in between leaves
a marker and a row that says `RUNNING`; the next call of the configuration takes the
lease, finds the marker and repairs the row of the run that left it.

How the Python is mirrored:

- the `with` block has three context managers. The transaction is the innermost one and
  ends first, then the exit stack with the fence, then the connection: `commitToSource`;
- the `except BaseException` clause records `FAILED` only after `started = True`, which
  is `onError` around what follows `record_started_run`. The fault model raises
  exceptions and loses processes; it has no exception that is not an `Exception` inside
  the block;
- `finally` releases the lease, with the exception suppressed where the call failed: the
  two cases of `attempt` in `runGenerator`;
- the bodies of the mutations are one operation `mutate`, a parameter of the world. They
  read and write the Source inside the one transaction, and the results here are about
  when they are applied, not about what they write;
- `logical_hash` is a parameter over the configuration, the counts and the rows.

`ensure_generator_metadata`, `ensure_source_mutation_lease_metadata` and
`ensure_generator_commits` create tables that exist already and are left out.
-/

namespace CommercePlatform.Generator

open Lib Platform

variable {ρ : Type}

/-- `GeneratorResult`. -/
structure GeneratorResult where
  generatorRunId : RunId
  resultCounts : ResultCounts
  logicalContentHash : String
  reusedSuccessfulRun : Bool
deriving DecidableEq

/-- `MUTABLE_SOURCE_TABLES`, in its order: the tables whose cursor must lie before the logical
date of the run. -/
def mutableSourceTables : List String :=
  ["customers", "customer_subscriptions", "customer_membership_tiers", "subscription_payments",
    "orders", "order_items", "order_payments"]

/-- `resolve_source_snapshot_id`: the checksum and the time of the last successful seed make the
id the configuration must name. -/
def resolveSourceSnapshotId : Program ρ String := do
  match ← pipeline .latestSeed with
  | none =>
    .raise ⟨.valueError, "A successful seed run is required before running the generator"⟩
  | some (rawChecksum, seededAt) => return "seed:" ++ rawChecksum ++ ":" ++ isoformat seededAt

/-- `_assert_source_cursor_forward`, over the tables left. The changes of a run carry its logical
date as `updated_at`; a table that is already past that date would hide them behind a cursor. -/
def assertSourceCursorForward (logicalDate : Timestamp) : List String → Program ρ Unit
  | [] => pure ()
  | table :: tables => do
    let config ← Script.ofExcept (tableConfig table)
    let maximum ← source (.maximumCursor table)
    check (∀ m ∈ maximum, m < logicalDate)
      ⟨.sourceCursorRegressionError, "logical_date=" ++ isoformat logicalDate ++
        " must be later than " ++ table ++ "." ++ config.cursorTimestampColumn ++ " max=" ++
        (maximum.map isoformat).getD ""⟩
    assertSourceCursorForward logicalDate tables

/-- The body of the Source transaction, up to the fence: the guard, the mutations, the marker,
and the lock on the lease row as the last statement before `COMMIT`. -/
def mutateSource (X : Externals ρ) (config : GeneratorConfig) (id : RunId)
    (lease : SourceMutationLease) : Program ρ GeneratorCommitRow := do
  assertSourceCursorForward config.logicalDate mutableSourceTables
  let m ← mutate config lease
  let row : GeneratorCommitRow :=
    ⟨id, config, m.resultCounts, X.logicalHash config m.resultCounts m.logicalRows⟩
  source (.recordSourceCommit row)
  pipeline (.enterFence lease)
  return row

/-- The `with` block: the transaction ends before the fence, the fence before the connection. A
`COMMIT` that raises may have been done; the fence is left either way. -/
def commitToSource (X : Externals ρ) (config : GeneratorConfig) (id : RunId)
    (lease : SourceMutationLease) : Program ρ GeneratorCommitRow := do
  source .begin
  let row ← (mutateSource X config id lease).onError fun _ => (source .rollback).suppress
  (source .commit).onError fun _ => do
    (source .rollback).suppress
    (pipeline .leaveFence).suppress
  pipeline .leaveFence
  return row

/-- From the Source transaction to the result: whatever raises here is recorded `FAILED`, also
where the Source commit was done and only the row could not be written. -/
def mutateAndRecord (X : Externals ρ) (config : GeneratorConfig) (id : RunId)
    (lease : SourceMutationLease) : Program ρ GeneratorResult := do
  let row ← commitToSource X config id lease
  pipeline (.recordFinishedRun id .success (some row.resultCounts) (some row.logicalHash) none)
  return ⟨id, row.resultCounts, row.logicalHash, false⟩

/-- What runs under the lease. The marker is read first: a configuration that was applied is not
applied again, its row is repaired instead. -/
def runUnderLease (X : Externals ρ) (config : GeneratorConfig) (id : RunId)
    (lease : SourceMutationLease) : Program ρ GeneratorResult := do
  match ← source (.committedResult config) with
  | some row =>
    pipeline (.recordFinishedRun row.generatorRunId .success (some row.resultCounts)
      (some row.logicalHash) none)
    return ⟨row.generatorRunId, row.resultCounts, row.logicalHash, true⟩
  | none =>
    pipeline (.recordStartedRun id config)
    (mutateAndRecord X config id lease).onError fun e =>
      pipeline (.recordFinishedRun id .failed none none (some e.message))

/-- The result `_successful_result` makes of its row. `dict(None)` cannot be reached through
`generator_runs_success_evidence_check`; the error is Python's. -/
def GeneratorRunRow.result (row : GeneratorRunRow) : Except Raised GeneratorResult :=
  match row.resultCounts, row.logicalHash with
  | some counts, some hash => .ok ⟨row.generatorRunId, counts, hash, true⟩
  | _, _ => .error ⟨.typeError, "'NoneType' object is not iterable"⟩

/-- `run_generator`: the snapshot, the successful run of the same inputs, and else one run under
the lease. -/
def runGenerator (X : Externals ρ) (config : GeneratorConfig) : Program ρ GeneratorResult := do
  let expectedSnapshotId ← resolveSourceSnapshotId
  check (config.sourceSnapshotId = expectedSnapshotId)
    ⟨.valueError, "source_snapshot_id differs from the current successful seed snapshot: " ++
      expectedSnapshotId⟩
  match ← pipeline (.successfulRow config) with
  | some row => Script.ofExcept row.result
  | none =>
    let id ← host .uuid4
    let lease ← pipeline (.acquireSourceLease .generator id none)
    match ← (runUnderLease X config id lease).attempt with
    | .ok result =>
      pipeline (.releaseSourceLease lease none)
      return result
    | .error e =>
      (pipeline (.releaseSourceLease lease none)).suppress
      .raise e

end CommercePlatform.Generator
