import CommercePlatform.Bronze.Manifest
/-!
# Orphan reconciliation: the transaction

The metadata transaction of `reconcile_orphan` (`src/ingestion/bronze/orphan.py`). It
runs after the storage checks have produced a manifest; here the manifest is any
payload. Unlike `commit_table_run` it looks neither at the lease nor at an expected
version: it compares the run's range and the current cursor with the manifest and takes
the version it finds.

`reconcileTransaction_eq_ok` is its specification, an equivalence: it returns exactly
under the conditions of `Reconciled` and then writes the object, the run and the
watermark named there. The lower bound of the object it registers is therefore the
cursor it replaces, which is all the watermark chain needs of it.

Mirroring notes vs the source:
- Cursors are compared as JSON, as the source compares JSONB with the parsed manifest,
  so a manifest that spells its timestamp another way is refused here as there.
- The run's row is locked before the watermark's; the order matters to
  `Control/RowLocks`.
- The storage part, the manifest, the object and the absence of a quarantine object, is
  in `Ingestion/Reconcile`.
-/

namespace CommercePlatform

open Lib

/-- The `OrphanCandidate` of `find_orphan_candidates`. -/
structure OrphanCandidate where
  objectKey : String
  manifestKey : Option String
deriving DecidableEq

private def orphanError (message : String) : Raised := ⟨.orphanReconciliationError, message⟩

/-- `f"{manifest['batch_id']}__{manifest['source_table']}"`. -/
def ManifestPayload.tableBatchId (m : ManifestPayload) : String :=
  m.batchId ++ "__" ++ m.sourceTable

/-- The key of the run that wrote the manifest. -/
def ManifestPayload.runKey (m : ManifestPayload) : PipelineRunKey := (m.runId, m.sourceTable)

/-- The `bronze_objects` row of a reconciliation. -/
def ManifestPayload.objectRow (m : ManifestPayload) (objectKey manifestKey : String)
    (before after : CursorPosition) (now : Timestamp) : BronzeObjectRow where
  tableBatchId := m.tableBatchId
  sourceTable := m.sourceTable
  batchId := m.batchId
  objectKey := objectKey
  manifestKey := manifestKey
  schemaVersion := m.schemaVersion
  rowCount := m.rowCount
  contentSha256 := m.contentSha256
  logicalHash := m.logicalHash
  watermarkBefore := before
  watermarkAfter := after
  status := .committed
  committedAt := some now

/-- The update of the run's row: all rows valid, none rejected, no error left. -/
def ManifestPayload.finishedRow (m : ManifestPayload) (now : Timestamp) (r : PipelineRunRow) :
    PipelineRunRow :=
  { r with
    finishedAt := some now
    rowsExtracted := m.rowCount
    rowsValid := m.rowCount
    rowsRejected := 0
    rowsLoaded := m.rowCount
    status := .success
    errorType := none
    errorMessage := none }

theorem ManifestPayload.finishedRow_key (m : ManifestPayload) (now : Timestamp)
    (r : PipelineRunRow) : (m.finishedRow now r).key = r.key := rfl

/-- `SELECT … FROM pipeline_runs … FOR UPDATE` and its two checks. -/
def lockOrphanRun (m : ManifestPayload) (db : Db) : Except Raised PipelineRunRow :=
  match db.pipelineRuns.get m.runKey with
  | none =>
    .error (orphanError "Only a crash-interrupted RUNNING pipeline run can be reconciled")
  | some run =>
    if run.status = .running then
      if run.watermarkBefore.asMetadataJson = m.watermarkBefore ∧
          run.extractUpperBound.map CursorPosition.asMetadataJson = some m.extractUpperBound then
        .ok run
      else .error (orphanError "Pipeline run range differs from the orphan manifest")
    else
      .error (orphanError "Only a crash-interrupted RUNNING pipeline run can be reconciled")

/-- `SELECT … FROM watermarks … FOR UPDATE` and its check. -/
def lockOrphanWatermark (m : ManifestPayload) (run : PipelineRunRow) (db : Db) :
    Except Raised WatermarkRow :=
  match db.watermarks.get (run.pipelineName, m.sourceTable) with
  | none =>
    .error (orphanError "Current watermark differs from the orphan manifest lower bound")
  | some row =>
    if row.cursor.asMetadataJson = m.watermarkBefore then .ok row
    else .error (orphanError "Current watermark differs from the orphan manifest lower bound")

/-- A manifest cursor as a column value. The two cursors were compared with stored
ones before, so they are spelled by `isoformat` and this never raises there. -/
def cursorColumn (j : CursorJson) : Except Raised CursorPosition :=
  match j.decode? with
  | some c => .ok c
  | none => .error (orphanError "manifest cursor is not a stored cursor")

/-- The transaction of `reconcile_orphan`: the two locked rows with their checks, then that the
batch has no quarantine and the object no catalog row, then the three writes. -/
def reconcileTransaction (objectKey manifestKey : String) (m : ManifestPayload)
    (now : Timestamp) (db : Db) : Except Raised Db := do
  let run ← lockOrphanRun m db
  let watermark ← lockOrphanWatermark m run db
  require (db.quarantineBatches.get m.tableBatchId = none)
    (orphanError "Orphans with rejects require manual reconciliation")
  require (db.bronzeObjects.get m.tableBatchId = none ∧
      ∀ r ∈ db.bronzeObjects.rows, r.objectKey ≠ objectKey)
    (orphanError "Bronze metadata already exists for the orphan candidate")
  let before ← cursorColumn m.watermarkBefore
  let after ← cursorColumn m.extractUpperBound
  let db ← db.insertBronzeObject (m.objectRow objectKey manifestKey before after now)
  let db ← db.updateRunWhere m.runKey (fun _ => True) (m.finishedRow now) (m.finishedRow_key now)
    (orphanError "pipeline run row is missing")
  db.updateWatermarkWhere (run.pipelineName, m.sourceTable)
    (fun r => r.version = watermark.version)
    (.advance after now) (WatermarkRow.advance_key after now)
    (orphanError "Watermark changed during orphan reconciliation")

/-- What a reconciliation that returned found and wrote. `run` is the run row it locked and
`after` the upper bound stored there. -/
structure Reconciled (objectKey manifestKey : String) (m : ManifestPayload) (now : Timestamp)
    (run : PipelineRunRow) (after : CursorPosition) (db db' : Db) : Prop where
  found : db.pipelineRuns.get m.runKey = some run
  running : run.status = .running
  lower : run.watermarkBefore.asMetadataJson = m.watermarkBefore
  upper : run.extractUpperBound = some after
  upperJson : after.asMetadataJson = m.extractUpperBound
  watermark : ∃ row, db.watermarks.get (run.pipelineName, m.sourceTable) = some row ∧
    row.cursor = run.watermarkBefore
  noQuarantine : db.quarantineBatches.get m.tableBatchId = none
  fits : Db.Fits (m.objectRow objectKey manifestKey run.watermarkBefore after now)
  objectFree : db.bronzeObjects.Free
    (m.objectRow objectKey manifestKey run.watermarkBefore after now)
  watermarks : db'.watermarks = db.watermarks.modify (run.pipelineName, m.sourceTable)
    (.advance after now) (WatermarkRow.advance_key after now)
  pipelineRuns : db'.pipelineRuns =
    db.pipelineRuns.modify m.runKey (m.finishedRow now) (m.finishedRow_key now)
  bronzeObjects : db'.bronzeObjects.rows =
    db.bronzeObjects.rows ++ [m.objectRow objectKey manifestKey run.watermarkBefore after now]
  quarantineBatches : db'.quarantineBatches = db.quarantineBatches

theorem lockOrphanRun_eq_ok {m : ManifestPayload} {db : Db} {run : PipelineRunRow} :
    lockOrphanRun m db = .ok run ↔
      db.pipelineRuns.get m.runKey = some run ∧ run.status = .running ∧
        run.watermarkBefore.asMetadataJson = m.watermarkBefore ∧
        run.extractUpperBound.map CursorPosition.asMetadataJson = some m.extractUpperBound := by
  unfold lockOrphanRun
  cases hg : db.pipelineRuns.get m.runKey with
  | none => simp
  | some r =>
    dsimp only
    constructor
    · intro h
      split at h
      next hs =>
        split at h
        next hr =>
          cases h
          exact ⟨rfl, hs, hr⟩
        next => cases h
      next => cases h
    · rintro ⟨he, hs, hr⟩
      cases he
      rw [if_pos hs, if_pos hr]

theorem lockOrphanWatermark_eq_ok {m : ManifestPayload} {run : PipelineRunRow} {db : Db}
    {row : WatermarkRow} :
    lockOrphanWatermark m run db = .ok row ↔
      db.watermarks.get (run.pipelineName, m.sourceTable) = some row ∧
        row.cursor.asMetadataJson = m.watermarkBefore := by
  unfold lockOrphanWatermark
  cases hg : db.watermarks.get (run.pipelineName, m.sourceTable) with
  | none => simp
  | some r =>
    dsimp only
    constructor
    · intro h
      split at h
      next hc =>
        cases h
        exact ⟨rfl, hc⟩
      next => cases h
    · rintro ⟨he, hc⟩
      cases he
      rw [if_pos hc]

theorem cursorColumn_asMetadataJson (c : CursorPosition) :
    cursorColumn c.asMetadataJson = .ok c := by
  simp [cursorColumn]

/-- `reconcile_orphan`'s transaction returns exactly under the conditions of
`Reconciled`, and it then writes the three rows named there. -/
theorem reconcileTransaction_eq_ok {objectKey manifestKey : String} {m : ManifestPayload}
    {now : Timestamp} {db db' : Db} :
    reconcileTransaction objectKey manifestKey m now db = .ok db' ↔
      ∃ run after, Reconciled objectKey manifestKey m now run after db db' := by
  unfold reconcileTransaction
  simp only [bind_eq_ok, require_eq_ok, exists_const, lockOrphanRun_eq_ok,
    lockOrphanWatermark_eq_ok, Db.insertBronzeObject_eq_ok, Db.updateRunWhere_eq_ok,
    Db.updateWatermarkWhere_eq_ok]
  constructor
  · rintro ⟨run, ⟨hrun, hstatus, hlower, hupper⟩, row, ⟨hrow, hcursor⟩, hq, hfree, before,
      hbefore, after, hafter, db₁, ⟨hfits, hins, rfl⟩, db₂, ⟨run', hrun', -, rfl⟩,
      row', hrow', hversion, rfl⟩
    -- the manifest names both bounds as text, and a text is that of one position only
    obtain ⟨ub, hub, hubJson⟩ := Option.map_eq_some_iff.1 hupper
    obtain rfl : run.watermarkBefore = before := by
      rw [← hlower, cursorColumn_asMetadataJson] at hbefore
      exact Except.ok.inj hbefore
    obtain rfl : ub = after := by
      rw [← hubJson, cursorColumn_asMetadataJson] at hafter
      exact Except.ok.inj hafter
    refine ⟨run, ub, hrun, hstatus, hlower, hub, hubJson, ⟨row, hrow, ?_⟩, hq, hfits, hins,
      rfl, rfl, rfl, rfl⟩
    exact CursorPosition.asMetadataJson_inj.1 (hcursor.trans hlower.symm)
  · rintro ⟨run, after, h⟩
    -- every statement finds what the transaction asks for, so none of them raises
    obtain ⟨row, hrow, hcursor⟩ := h.watermark
    have hb : db'.bronzeObjects = db.bronzeObjects.insert _ h.objectFree :=
      IndexedTable.ext h.bronzeObjects
    refine ⟨run, ⟨h.found, h.running, h.lower, by rw [h.upper, Option.map_some, h.upperJson]⟩,
      row, ⟨hrow, by rw [hcursor, h.lower]⟩, h.noQuarantine, h.objectFree,
      run.watermarkBefore, by rw [← h.lower, cursorColumn_asMetadataJson],
      after, by rw [← h.upperJson, cursorColumn_asMetadataJson],
      _, ⟨h.fits, h.objectFree, rfl⟩, _, ⟨run, h.found, trivial, rfl⟩, row, hrow, rfl, ?_⟩
    rw [← h.watermarks, ← h.pipelineRuns, ← hb, ← h.quarantineBatches]

end CommercePlatform
