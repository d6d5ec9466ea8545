import CommercePlatform.Common.Errors
import CommercePlatform.Control.Metadata
/-!
# Publish runs

`src/warehouse/publish_metadata.py`: the table `mart_publish_runs` and its transitions.
A run is `BUILDING`, then `PUBLISHING`, then `PUBLISHED`, or it is closed as `FAILED`.
At most one run is active, which is what the partial unique index
`mart_publish_runs_single_active_idx` enforces, and the heartbeat thread touches only
the row of an active run.

Every transition is one `UPDATE … WHERE publish_run_id = … AND status = ANY(…)`, and
whoever finds no row to update raises `PublishStateError`, except where the source
ignores it. So all of them are `updateWhere` or `transition` with a function on the row,
the statuses it may start from and a condition, and the three lemmas about these say
what any transition does: the row it rewrites, and that it rewrites no other and adds
none.

The recovery closes a run whose last sign of life is older than the lease
(`closeStaleRun`), and a new run of the same DAG run closes the one its own earlier
attempt left behind (`closeDagRunBuilding`), which may only be `BUILDING`: a run that is
`PUBLISHING` may already have replaced the file.

`mart_publish_runs` keeps more columns than are read here; what the model has is what a
transition tests or writes.
-/

namespace CommercePlatform.Warehouse

open Lib

/-- `FileIdentity`: inode and modification time in nanoseconds. -/
structure FileIdentity where
  inode : Nat
  mtimeNs : Int
deriving DecidableEq, Repr

/-- `mart_publish_runs.status`. -/
inductive PublishStatus where
  | building
  | publishing
  | published
  | failed
deriving DecidableEq, Repr

/-- The text of a status. -/
def PublishStatus.text : PublishStatus → String
  | .building => "BUILDING"
  | .publishing => "PUBLISHING"
  | .published => "PUBLISHED"
  | .failed => "FAILED"

/-- `ACTIVE_STATUSES`. -/
def activeStatuses : List PublishStatus := [.building, .publishing]

/-- A row of `mart_publish_runs`. -/
structure PublishRow where
  publishRunId : RunId
  pipelineName : String
  batchId : Option String
  dagRunId : Option String
  dbtInvocationId : Option String
  status : PublishStatus
  errorType : Option String
  errorMessage : Option String
  previousPublishRunId : Option RunId
  martHashes : Option (List (String × String))
  martRowCounts : Option (List (String × Nat))
  publishedIdentity : Option FileIdentity
  testsPassed : Nat
  testsFailed : Nat
  failedPath : Option String
  startedAt : Timestamp
  heartbeatAt : Option Timestamp
  finishedAt : Option Timestamp
deriving DecidableEq

/-- `status IN ('BUILDING', 'PUBLISHING')`. -/
def PublishRow.Active (r : PublishRow) : Prop := r.status ∈ activeStatuses

instance : DecidablePred PublishRow.Active := fun _ => inferInstanceAs (Decidable (_ ∈ _))

/-- `mart_publish_runs`. -/
abbrev PublishRuns := Table PublishRow RunId PublishRow.publishRunId

/-- `PublishRun`: what a new run is started with. -/
structure PublishRun where
  publishRunId : RunId
  pipelineName : String
  batchId : Option String
  dagRunId : Option String

/-- `ERROR_MESSAGE_LIMIT`: what is kept of an error message. -/
def errorMessageLimit : Nat := 4000
/-- `ABANDONED_MESSAGE`, of a run whose lease ran out. -/
def abandonedMessage : String := "abandoned"
/-- `RECLAIMED_MESSAGE`, of a run its own DAG run starts again. -/
def reclaimedMessage : String := "abandoned: reclaimed by same DAG run retry"

/-- `ORDER BY finished_at DESC, started_at DESC`. -/
def FinishedAfter (a b : PublishRow) : Prop :=
  b.finishedAt.getD 0 < a.finishedAt.getD 0 ∨
    (b.finishedAt.getD 0 = a.finishedAt.getD 0 ∧ b.startedAt ≤ a.startedAt)

instance : DecidableRel FinishedAfter := fun _ _ => inferInstanceAs (Decidable (_ ∨ _))

/-- The `PUBLISHED` row that finished last. -/
def latestPublished (runs : PublishRuns) : Option PublishRow :=
  ((runs.rows.filter fun r => r.status = .published).insertionSort FinishedAfter).head?

/-- The `BUILDING` row of a new run. -/
def PublishRun.row (run : PublishRun) (previous : Option RunId) (now : Timestamp) :
    PublishRow where
  publishRunId := run.publishRunId
  pipelineName := run.pipelineName
  batchId := run.batchId
  dagRunId := run.dagRunId
  dbtInvocationId := none
  status := .building
  errorType := none
  errorMessage := none
  previousPublishRunId := previous
  martHashes := none
  martRowCounts := none
  publishedIdentity := none
  testsPassed := 0
  testsFailed := 0
  failedPath := none
  startedAt := now
  heartbeatAt := some now
  finishedAt := none

/-- `start_publish_run`. -/
def startPublishRun (run : PublishRun) (now : Timestamp) (runs : PublishRuns) :
    Except Raised PublishRuns :=
  let row := run.row ((latestPublished runs).map PublishRow.publishRunId) now
  if row.pipelineName = "" then .error ⟨.checkViolation, "mart_publish_runs_pipeline_name_check"⟩
  else if 128 < row.pipelineName.length ∨ (∃ b ∈ row.batchId, 192 < b.length) ∨
      (∃ d ∈ row.dagRunId, 250 < d.length) then
    .error ⟨.stringDataRightTruncation, "value too long for type character varying"⟩
  else if h : runs.get row.publishRunId = none then
    if ∃ r ∈ runs.rows, r.Active then
      .error ⟨.publishInProgressError, "Another mart publish run is active"⟩
    else .ok (runs.insert row h)
  else .error ⟨.uniqueViolation, "mart_publish_runs_pkey"⟩

/-- `UPDATE … WHERE publish_run_id = id AND status = ANY(expected)`, the number of rows being one
or none. -/
def updateWhere (id : RunId) (condition : PublishRow → Bool) (f : PublishRow → PublishRow)
    (hf : ∀ r, (f r).publishRunId = r.publishRunId) (runs : PublishRuns) : Bool × PublishRuns :=
  if (runs.get id).any condition then (true, runs.modify id f hf) else (false, runs)

/-- `_transition`: rewrite the row in one of the expected states, or raise `PublishStateError`. -/
def transition (id : RunId) (expected : List PublishStatus) (f : PublishRow → PublishRow)
    (hf : ∀ r, (f r).publishRunId = r.publishRunId) (runs : PublishRuns) :
    Except Raised Unit × PublishRuns :=
  match updateWhere id (fun r => r.status ∈ expected) f hf runs with
  | (true, runs') => (.ok (), runs')
  | (false, _) =>
    (.error ⟨.publishStateError, "Publish run " ++ toString id ++ " is not in " ++
      ", ".intercalate (expected.map PublishStatus.text)⟩, runs)

/-- What `record_dbt_result` sets. -/
def PublishRow.withDbtResult (r : PublishRow) (invocationId : Option String)
    (testsPassed testsFailed : Nat) : PublishRow :=
  { r with
    dbtInvocationId := invocationId, testsPassed := testsPassed, testsFailed := testsFailed }

/-- What `mark_publishing` sets. -/
def PublishRow.toPublishing (r : PublishRow) (martHashes : List (String × String))
    (martRowCounts : List (String × Nat)) (identity : FileIdentity) : PublishRow :=
  { r with
    status := .publishing, martHashes := some martHashes, martRowCounts := some martRowCounts
    publishedIdentity := some identity }

/-- What `mark_published` sets. -/
def PublishRow.toPublished (r : PublishRow) (now : Timestamp) : PublishRow :=
  { r with status := .published, finishedAt := some now }

/-- What `mark_failed` sets. -/
def PublishRow.toFailed (r : PublishRow) (errorType errorMessage : String)
    (failedPath : Option String) (now : Timestamp) : PublishRow :=
  { r with
    status := .failed, errorType := some errorType
    errorMessage := some (String.ofList (errorMessage.toList.take errorMessageLimit))
    failedPath := failedPath, finishedAt := some now }

/-- What `close_stale_run` sets. -/
def PublishRow.toClosed (r : PublishRow) (published : Bool) (now : Timestamp) : PublishRow :=
  { r with
    status := if published then .published else .failed
    finishedAt := some now
    errorType := if published then none else some unknownError
    errorMessage := if published then none else some abandonedMessage }

/-- What `close_dag_run_building` sets. -/
def PublishRow.toReclaimed (r : PublishRow) (now : Timestamp) : PublishRow :=
  { r with
    status := .failed, errorType := some unknownError
    errorMessage := some reclaimedMessage, finishedAt := some now }

/-- `record_dbt_result`. -/
def recordDbtResult (id : RunId) (invocationId : Option String) (testsPassed testsFailed : Nat) :
    PublishRuns → Except Raised Unit × PublishRuns :=
  transition id [.building] (fun r => r.withDbtResult invocationId testsPassed testsFailed)
    fun _ => rfl

/-- `mark_publishing`. -/
def markPublishing (id : RunId) (martHashes : List (String × String))
    (martRowCounts : List (String × Nat)) (identity : FileIdentity) :
    PublishRuns → Except Raised Unit × PublishRuns :=
  transition id [.building] (fun r => r.toPublishing martHashes martRowCounts identity)
    fun _ => rfl

/-- `mark_published`. -/
def markPublished (id : RunId) (now : Timestamp) : PublishRuns → Except Raised Unit × PublishRuns :=
  transition id [.publishing] (fun r => r.toPublished now) fun _ => rfl

/-- `mark_failed`. -/
def markFailed (id : RunId) (errorType errorMessage : String) (failedPath : Option String)
    (now : Timestamp) : PublishRuns → Except Raised Unit × PublishRuns :=
  transition id activeStatuses (fun r => r.toFailed errorType errorMessage failedPath now)
    fun _ => rfl

/-- `record_failed_path`. -/
def recordFailedPath (id : RunId) (failedPath : String) :
    PublishRuns → Except Raised Unit × PublishRuns :=
  transition id [.failed] (fun r => { r with failedPath := some failedPath }) fun _ => rfl

/-- `touch_publish_run`: a sign of life of an active run. A run that was closed is not touched,
and nothing is raised. -/
def touchPublishRun (id : RunId) (now : Timestamp) : PublishRuns → Bool × PublishRuns :=
  updateWhere id (fun r => r.Active) (fun r => { r with heartbeatAt := some now }) fun _ => rfl

/-- `COALESCE(heartbeat_at, started_at)`. -/
def PublishRow.lastBeat (r : PublishRow) : Timestamp := r.heartbeatAt.getD r.startedAt

/-- The condition under which an active run is abandoned. -/
def PublishRow.Stale (staleBefore : Timestamp) (r : PublishRow) : Prop :=
  r.Active ∧ r.lastBeat < staleBefore

instance (t : Timestamp) : DecidablePred (PublishRow.Stale t) :=
  fun _ => inferInstanceAs (Decidable (_ ∧ _))

/-- `started_at` order of the rows a recovery closes. -/
def StartedBefore (a b : PublishRow) : Prop := a.startedAt ≤ b.startedAt

instance : DecidableRel StartedBefore := fun _ _ => inferInstanceAs (Decidable (_ ≤ _))

/-- `stale_active_runs`. -/
def staleActiveRuns (staleBefore : Timestamp) (runs : PublishRuns) : List PublishRow :=
  (runs.rows.filter fun r => r.Stale staleBefore).insertionSort StartedBefore

/-- `close_stale_run`: only while the row is still abandoned, so a run whose process came back is
left alone. The status it gets was decided before. -/
def closeStaleRun (id : RunId) (published : Bool) (staleBefore now : Timestamp) :
    PublishRuns → Bool × PublishRuns :=
  updateWhere id (fun r => r.Stale staleBefore) (fun r => r.toClosed published now) fun _ => rfl

/-- The rows `close_dag_run_building` closes. -/
def PublishRow.OfDagRun (pipelineName dagRunId : String) (r : PublishRow) : Prop :=
  r.status = .building ∧ r.pipelineName = pipelineName ∧ r.dagRunId = some dagRunId

instance (p d : String) : DecidablePred (PublishRow.OfDagRun p d) :=
  fun _ => inferInstanceAs (Decidable (_ ∧ _))

/-- `close_dag_run_building`: the ids it closed, and the table. Only `BUILDING` rows of the same
pipeline and DAG run. -/
def closeDagRunBuilding (pipelineName dagRunId : String) (now : Timestamp) (runs : PublishRuns) :
    List RunId × PublishRuns :=
  let ids := (runs.rows.filter fun r => r.OfDagRun pipelineName dagRunId).map
    PublishRow.publishRunId
  (ids, ids.foldl (fun runs id => runs.modify id (fun r => r.toReclaimed now) fun _ => rfl) runs)

/-! ## What the transitions do -/

theorem get_updateWhere {id k : RunId} {condition : PublishRow → Bool}
    {f : PublishRow → PublishRow} {hf : ∀ r, (f r).publishRunId = r.publishRunId}
    {runs : PublishRuns} :
    (updateWhere id condition f hf runs).2.get k =
      if k = id then (runs.get k).map fun r => if condition r then f r else r else runs.get k := by
  unfold updateWhere
  by_cases hk : k = id
  · subst hk
    cases hr : runs.get k with
    | none => simp [hr]
    | some r => by_cases hc : condition r <;> simp [hr, hc, Table.get_modify]
  · rw [if_neg hk]
    split
    · exact Table.get_modify_ne _ _ hf hk
    · rfl

/-- An update whose condition holds rewrites the row, and no other. -/
theorem updateWhere_of_get {id : RunId} (condition : PublishRow → Bool)
    (f : PublishRow → PublishRow) (hf : ∀ r, (f r).publishRunId = r.publishRunId)
    {runs : PublishRuns} {r : PublishRow} (hr : runs.get id = some r) (hc : condition r = true) :
    ∃ runs', updateWhere id condition f hf runs = (true, runs') ∧
      runs'.get id = some (f r) ∧ ∀ k, k ≠ id → runs'.get k = runs.get k := by
  refine ⟨runs.modify id f hf, ?_, ?_, fun k hk => Table.get_modify_ne _ _ _ hk⟩
  · unfold updateWhere
    rw [hr]
    simp [hc]
  · rw [Table.get_modify_self, hr]
    rfl

/-- A transition from an expected state returns and rewrites the row, and no other. -/
theorem transition_of_get {id : RunId} (expected : List PublishStatus)
    (f : PublishRow → PublishRow) (hf : ∀ r, (f r).publishRunId = r.publishRunId)
    {runs : PublishRuns} {r : PublishRow} (hr : runs.get id = some r)
    (hs : r.status ∈ expected) :
    ∃ runs', transition id expected f hf runs = (.ok (), runs') ∧
      runs'.get id = some (f r) ∧ ∀ k, k ≠ id → runs'.get k = runs.get k := by
  obtain ⟨runs', hupdate, hget, hother⟩ := updateWhere_of_get
    (fun r => r.status ∈ expected) f hf hr (decide_eq_true hs)
  refine ⟨runs', ?_, hget, hother⟩
  unfold transition
  rw [hupdate]

/-- A transition from an unexpected state raises and leaves the table. -/
theorem transition_of_not {id : RunId} (expected : List PublishStatus)
    (f : PublishRow → PublishRow) (hf : ∀ r, (f r).publishRunId = r.publishRunId)
    {runs : PublishRuns} {r : PublishRow} (hr : runs.get id = some r)
    (hs : r.status ∉ expected) :
    ∃ e, transition id expected f hf runs = (.error e, runs) := by
  unfold transition updateWhere
  rw [hr]
  simp [hs]

/-- An update adds no row. -/
theorem updateWhere_get_none {id k : RunId} {condition : PublishRow → Bool}
    {f : PublishRow → PublishRow} {hf : ∀ r, (f r).publishRunId = r.publishRunId}
    {runs : PublishRuns} (h : runs.get k = none) :
    (updateWhere id condition f hf runs).2.get k = none := by
  rw [get_updateWhere, h]
  simp

/-- A transition of one run adds no row. -/
theorem transition_get_none {id k : RunId} {expected : List PublishStatus}
    {f : PublishRow → PublishRow} {hf : ∀ r, (f r).publishRunId = r.publishRunId}
    {runs : PublishRuns} (h : runs.get k = none) :
    (transition id expected f hf runs).2.get k = none := by
  have hupdate : (updateWhere id (fun r => r.status ∈ expected) f hf runs).2.get k = none :=
    updateWhere_get_none h
  unfold transition
  split
  next heq =>
    rw [heq] at hupdate
    exact hupdate
  · exact h

/-- The heartbeat leaves everything but the heartbeat of an active run. -/
theorem get_touchPublishRun {id : RunId} {now : Timestamp} {runs : PublishRuns} {k : RunId}
    {r : PublishRow} (h : runs.get k = some r) :
    ∃ beat, (touchPublishRun id now runs).2.get k = some { r with heartbeatAt := beat } := by
  unfold touchPublishRun
  rw [get_updateWhere, h]
  split
  · rw [Option.map_some]
    split
    · exact ⟨some now, rfl⟩
    · exact ⟨r.heartbeatAt, rfl⟩
  · exact ⟨r.heartbeatAt, rfl⟩

theorem get_foldl_reclaimed {ids : List RunId} (now : Timestamp) {runs : PublishRuns} {k : RunId}
    (h : runs.get k = none) :
    (ids.foldl (fun runs id => runs.modify id (fun r => r.toReclaimed now) fun _ => rfl) runs).get
      k = none := by
  induction ids generalizing runs with
  | nil => exact h
  | cons id ids ih =>
    refine ih ?_
    refine Table.get_eq_none.2 fun r hr => ?_
    obtain ⟨r', hr', rfl⟩ := List.mem_map.1 hr
    have hne := Table.get_eq_none.1 h r' hr'
    split
    · exact hne
    · exact hne

/-- A started run is the only active one. -/
theorem startPublishRun_eq_ok {run : PublishRun} {now : Timestamp} {runs runs' : PublishRuns}
    (h : startPublishRun run now runs = .ok runs') :
    runs.get run.publishRunId = none ∧ (∀ r ∈ runs.rows, ¬ r.Active) ∧
      ∃ previous, runs'.rows = runs.rows ++ [run.row previous now] := by
  unfold startPublishRun at h
  dsimp only at h
  split at h
  · cases h
  split at h
  · cases h
  split at h
  next hfree =>
    split at h
    · cases h
    next hactive =>
      obtain rfl := Except.ok.inj h
      refine ⟨hfree, fun r hr ha => hactive ⟨r, hr, ha⟩, _, rfl⟩
  · cases h

end CommercePlatform.Warehouse
