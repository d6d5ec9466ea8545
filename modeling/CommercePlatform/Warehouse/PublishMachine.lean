import CommercePlatform.Lib.Machine
import CommercePlatform.Warehouse.PublishRuns
/-!
# Publish runs under competing processes

Every transaction of `src/warehouse/publish_metadata.py` as one step of a machine, by
any process, in any order, with any clock value. Nothing is said of why a process makes
a call: a publisher that was paused for an hour, a recovery with a wrong clock and two
DAG runs at once are all runs of this machine. Three steps depend on what a process did
before, because the code does:

- `closeStaleRun` closes a record that an earlier `stale_active_runs` handed out, and as
  `PUBLISHED` only a record that was read as `PUBLISHING`
  (`recover_incomplete_publishes`);
- `replace` is the `os.replace` of `publish_build`: a process comes to it only after its
  `mark_publishing` returned.

`RowStep` says what any of them can do to a row: keep it but for columns no status
depends on, mark it `PUBLISHING`, or end it. All that the first three parts of
`publishRuns_fenced` need is `apply_rowsStep`, that every call makes a `RowStep` of
every row; from it, by induction on the run, a status only moves forward, a finished row
is sealed, and one run is active at a time.

The fourth part is the fence. A run that was closed while `BUILDING` stays `FAILED`, and
its process, when it comes back, cannot replace the published file. That needs besides
that whoever passed `mark_publishing` left the row in a later status: `passed` records
it, `passed_origin` says it was `BUILDING` before, and a row never comes back to
`BUILDING`. A run that was closed while `PUBLISHING` has no such fence, because its
process may have passed already; `Warehouse.PublishedFile` shows what follows.
-/

namespace CommercePlatform.Warehouse

open Lib

/-- One call, with its arguments. -/
inductive PublishCall where
  | startPublishRun (run : PublishRun) (now : Timestamp)
  | recordDbtResult (id : RunId) (invocationId : Option String) (testsPassed testsFailed : Nat)
  | markPublishing (process : Nat) (id : RunId) (martHashes : List (String × String))
      (martRowCounts : List (String × Nat)) (identity : FileIdentity)
  | markPublished (id : RunId) (now : Timestamp)
  | markFailed (id : RunId) (errorType errorMessage : String) (failedPath : Option String)
      (now : Timestamp)
  | touchPublishRun (id : RunId) (now : Timestamp)
  | recordFailedPath (id : RunId) (failedPath : String)
  | staleActiveRuns (staleBefore : Timestamp)
  | closeStaleRun (record : PublishRow) (published : Bool) (staleBefore now : Timestamp)
  | closeDagRunBuilding (pipelineName dagRunId : String) (now : Timestamp)
  | replace (process : Nat) (id : RunId)

/-- The table, the records handed out by `stale_active_runs`, and the processes whose
`mark_publishing` of a run returned. -/
structure PublishState where
  runs : PublishRuns
  stale : List PublishRow
  passed : List (Nat × RunId)

/-- Put the table a transaction leaves; one that raises is rolled back. -/
def PublishState.withRuns {α : Type} (s : PublishState) (r : Except Raised α × PublishRuns) :
    PublishState :=
  { s with runs := r.2 }

/-- What a call does. -/
def PublishCall.apply : PublishCall → PublishState → PublishState
  | .startPublishRun run now, s =>
    match Warehouse.startPublishRun run now s.runs with
    | .ok runs => { s with runs := runs }
    | .error _ => s
  | .recordDbtResult id invocationId passed failed, s =>
    s.withRuns (Warehouse.recordDbtResult id invocationId passed failed s.runs)
  | .markPublishing process id hashes counts identity, s =>
    match Warehouse.markPublishing id hashes counts identity s.runs with
    | (.ok (), runs) => { s with runs := runs, passed := (process, id) :: s.passed }
    | (.error _, _) => s
  | .markPublished id now, s => s.withRuns (Warehouse.markPublished id now s.runs)
  | .markFailed id errorType message path now, s =>
    s.withRuns (Warehouse.markFailed id errorType message path now s.runs)
  | .touchPublishRun id now, s => { s with runs := (Warehouse.touchPublishRun id now s.runs).2 }
  | .recordFailedPath id path, s => s.withRuns (Warehouse.recordFailedPath id path s.runs)
  | .staleActiveRuns staleBefore, s =>
    { s with stale := Warehouse.staleActiveRuns staleBefore s.runs ++ s.stale }
  | .closeStaleRun record published staleBefore now, s =>
    { s with
      runs := (Warehouse.closeStaleRun record.publishRunId published staleBefore now s.runs).2 }
  | .closeDagRunBuilding pipelineName dagRunId now, s =>
    { s with runs := (Warehouse.closeDagRunBuilding pipelineName dagRunId now s.runs).2 }
  | .replace _ _, s => s

/-- What the caller went through before the call. -/
def PublishCall.Allowed : PublishCall → PublishState → Prop
  | .closeStaleRun record published _ _, s =>
    record ∈ s.stale ∧ (published = true → record.status = .publishing)
  | .replace process id, s => (process, id) ∈ s.passed
  | _, _ => True

/-- The machine: any process may make its next call. -/
def PublishStep (s : PublishState) (call : PublishCall) (t : PublishState) : Prop :=
  call.Allowed s ∧ t = call.apply s

/-- `BUILDING → PUBLISHING → PUBLISHED`, and from an active status to `FAILED`. -/
def PublishStatus.MovesTo (a b : PublishStatus) : Prop :=
  b = a ∨ (a = .building ∧ b = .publishing) ∨ (a = .publishing ∧ b = .published) ∨
    (a ∈ activeStatuses ∧ b = .failed)

/-- The status, the hashes and the recorded identity are what they were. -/
def PublishRow.SealedAs (r r' : PublishRow) : Prop :=
  r'.status = r.status ∧ r'.martHashes = r.martHashes ∧ r'.martRowCounts = r.martRowCounts ∧
    r'.publishedIdentity = r.publishedIdentity

/-- `mark_publishing`, the one call that records a file identity. -/
def PublishCall.Marks : PublishCall → Prop
  | .markPublishing .. => True
  | _ => False

/-- What a call can do to an existing row: keep it but for columns no status depends on, mark it
`PUBLISHING`, or end it. -/
inductive RowStep (marks : Prop) (r r' : PublishRow) : Prop where
  | kept (h : r.SealedAs r')
  | marked (h : marks) (hr : r.status = .building) (hr' : r'.status = .publishing)
  | ended (ha : r.Active) (hmoves : r.status.MovesTo r'.status) (hend : ¬ r'.Active)
      (hidentity : r'.publishedIdentity = r.publishedIdentity)

theorem RowStep.refl {marks : Prop} (r : PublishRow) : RowStep marks r r :=
  .kept ⟨rfl, rfl, rfl, rfl⟩

theorem RowStep.moves {marks : Prop} {r r' : PublishRow} (h : RowStep marks r r') :
    r.status.MovesTo r'.status := by
  cases h with
  | kept h => exact .inl h.1
  | marked _ hr hr' => exact .inr (.inl ⟨hr, hr'⟩)
  | ended _ hmoves _ _ => exact hmoves

/-- A row that is not active is sealed. -/
theorem RowStep.sealedAs {marks : Prop} {r r' : PublishRow} (h : RowStep marks r r')
    (hn : ¬ r.Active) : r.SealedAs r' := by
  cases h with
  | kept h => exact h
  | marked _ hr _ =>
    refine absurd ?_ hn
    unfold PublishRow.Active
    rw [hr]
    decide
  | ended ha _ _ _ => exact absurd ha hn

/-- A row that is not active does not become active again. -/
theorem RowStep.active {marks : Prop} {r r' : PublishRow} (h : RowStep marks r r')
    (ha : r'.Active) : r.Active := by
  by_contra hn
  have hs := (h.sealedAs hn).1
  unfold PublishRow.Active at ha hn
  rw [hs] at ha
  exact hn ha

/-- A row that has left `BUILDING` does not come back to it. -/
theorem RowStep.not_building {marks : Prop} {r r' : PublishRow} (h : RowStep marks r r')
    (hr : r.status ≠ .building) : r'.status ≠ .building := by
  rcases h.moves with hs | ⟨hs, -⟩ | ⟨-, hs⟩ | ⟨-, hs⟩
  · rw [hs]
    exact hr
  · exact absurd hs hr
  · simp [hs]
  · simp [hs]

/-- Closing an active row as `FAILED`. -/
theorem RowStep.failed {marks : Prop} {r r' : PublishRow} (ha : r.Active)
    (hs : r'.status = .failed) (hidentity : r'.publishedIdentity = r.publishedIdentity) :
    RowStep marks r r' := by
  refine .ended ha (.inr (.inr (.inr ⟨ha, hs⟩))) ?_ hidentity
  unfold PublishRow.Active
  rw [hs]
  decide

/-- Closing a `PUBLISHING` row as `PUBLISHED`. -/
theorem RowStep.published {marks : Prop} {r r' : PublishRow} (hr : r.status = .publishing)
    (hs : r'.status = .published) (hidentity : r'.publishedIdentity = r.publishedIdentity) :
    RowStep marks r r' := by
  refine .ended ?_ (.inr (.inr (.inl ⟨hr, hs⟩))) ?_ hidentity
  · unfold PublishRow.Active
    rw [hr]
    decide
  · unfold PublishRow.Active
    rw [hs]
    decide

/-- Every row of the table is kept and makes a `RowStep`. Rows may be added. -/
def RowsStep (marks : Prop) (runs runs' : PublishRuns) : Prop :=
  ∀ id r, runs.get id = some r → ∃ r', runs'.get id = some r' ∧ RowStep marks r r'

theorem RowsStep.refl {marks : Prop} (runs : PublishRuns) : RowsStep marks runs runs :=
  fun _ r h => ⟨r, h, .refl r⟩

theorem rowsStep_updateWhere {marks : Prop} {id : RunId} {condition : PublishRow → Bool}
    {f : PublishRow → PublishRow} {hf : ∀ r, (f r).publishRunId = r.publishRunId}
    {runs : PublishRuns}
    (h : ∀ r, runs.get id = some r → condition r = true → RowStep marks r (f r)) :
    RowsStep marks runs (updateWhere id condition f hf runs).2 := by
  intro k r hr
  rw [get_updateWhere]
  by_cases hk : k = id
  · subst hk
    rw [if_pos rfl, hr]
    by_cases hc : condition r = true
    · exact ⟨f r, by simp [hc], h r hr hc⟩
    · exact ⟨r, by simp [hc], .refl r⟩
  · rw [if_neg hk]
    exact ⟨r, hr, .refl r⟩

theorem get_transition {id k : RunId} {expected : List PublishStatus}
    {f : PublishRow → PublishRow} {hf : ∀ r, (f r).publishRunId = r.publishRunId}
    {runs : PublishRuns} :
    (transition id expected f hf runs).2.get k =
      if k = id then (runs.get k).map fun r => if r.status ∈ expected then f r else r
      else runs.get k := by
  have hupdate : (updateWhere id (fun r => r.status ∈ expected) f hf runs).2.get k = _ :=
    get_updateWhere
  unfold transition
  split
  next heq =>
    rw [heq] at hupdate
    simpa using hupdate
  next runs' heq =>
    -- the update that found no row left the table
    have hsame : runs' = runs := by
      unfold updateWhere at heq
      split at heq
      · cases heq
      · exact (Prod.mk.inj heq).2.symm
    rw [heq, hsame] at hupdate
    simpa using hupdate

theorem rowsStep_transition {marks : Prop} {id : RunId} {expected : List PublishStatus}
    {f : PublishRow → PublishRow} {hf : ∀ r, (f r).publishRunId = r.publishRunId}
    {runs : PublishRuns} (h : ∀ r, r.status ∈ expected → RowStep marks r (f r)) :
    RowsStep marks runs (transition id expected f hf runs).2 := by
  have hupdate : RowsStep marks runs (updateWhere id (fun r => r.status ∈ expected) f hf runs).2 :=
    rowsStep_updateWhere fun r _ hc => h r (of_decide_eq_true hc)
  unfold transition
  split
  next heq =>
    rw [heq] at hupdate
    exact hupdate
  · exact .refl runs

/-- Closing the rows of a list of ids closes rows of the list and nothing else. -/
theorem get_closeAll {ids : List RunId} {now : Timestamp} {runs : PublishRuns} {k : RunId}
    {r : PublishRow} (hr : runs.get k = some r) :
    (ids.foldl (fun runs id => runs.modify id (fun r => r.toReclaimed now) fun _ => rfl) runs).get
      k = some (if k ∈ ids then r.toReclaimed now else r) := by
  induction ids generalizing runs r with
  | nil => simpa using hr
  | cons id ids ih =>
    rw [List.foldl_cons]
    by_cases hk : k = id
    · subst hk
      have hget : (runs.modify k (fun r => r.toReclaimed now) fun _ => rfl).get k
          = some (r.toReclaimed now) :=
        (Table.get_modify_self runs k (fun r => r.toReclaimed now) fun _ => rfl).trans
          (by rw [hr]; rfl)
      rw [ih hget]
      -- closing twice is closing once
      split <;> simp [PublishRow.toReclaimed]
    · have hget : (runs.modify id (fun r => r.toReclaimed now) fun _ => rfl).get k = some r :=
        (Table.get_modify_ne runs _ _ hk).trans hr
      rw [ih hget]
      simp [hk]

theorem rowsStep_closeDagRunBuilding {marks : Prop} (pipelineName dagRunId : String)
    (now : Timestamp) (runs : PublishRuns) :
    RowsStep marks runs (closeDagRunBuilding pipelineName dagRunId now runs).2 := by
  intro k r hr
  refine ⟨_, get_closeAll hr, ?_⟩
  split
  next hk =>
    -- the closed rows are the `BUILDING` rows of the DagRun
    obtain ⟨r', hr', hid⟩ := List.mem_map.1 hk
    obtain ⟨hmem, hof⟩ := List.mem_filter.1 hr'
    have hof : r'.OfDagRun pipelineName dagRunId := of_decide_eq_true hof
    have hget : runs.get k = some r' := Table.get_eq_some.2 ⟨hmem, hid⟩
    obtain rfl : r = r' := Option.some.inj (hr.symm.trans hget)
    have ha : r.Active := by
      unfold PublishRow.Active
      rw [hof.1]
      decide
    exact .failed ha rfl rfl
  · exact .refl r

/-- A started run is a new `BUILDING` row beside rows none of which is active. -/
theorem get_startPublishRun {run : PublishRun} {now : Timestamp} {runs runs' : PublishRuns}
    (h : startPublishRun run now runs = .ok runs') (k : RunId) :
    ∃ previous, runs'.get k =
      if k = run.publishRunId then some (run.row previous now) else runs.get k := by
  unfold startPublishRun at h
  dsimp only at h
  split at h
  · cases h
  split at h
  · cases h
  split at h
  next hfree =>
    split at h
    · cases h
    · obtain rfl := Except.ok.inj h
      exact ⟨_, Table.get_insert _ _ _ k⟩
  · cases h

/-! ## The invariant -/

/-- What every reachable state satisfies: one active run at most, and a run that was passed, or
read as `PUBLISHING`, has left `BUILDING` behind. -/
structure PublishInv (s : PublishState) : Prop where
  single : ∀ r ∈ s.runs.rows, ∀ r' ∈ s.runs.rows, r.Active → r'.Active → r = r'
  readPublishing : ∀ record ∈ s.stale, record.status = .publishing →
    ∃ r, s.runs.get record.publishRunId = some r ∧ r.status ≠ .building
  passedBuilding : ∀ process id, (process, id) ∈ s.passed →
    ∃ r, s.runs.get id = some r ∧ r.status ≠ .building

/-- A state nobody has acted in: at most one active run, nothing read, nothing passed. -/
structure PublishStart (s : PublishState) : Prop where
  single : ∀ r ∈ s.runs.rows, ∀ r' ∈ s.runs.rows, r.Active → r'.Active → r = r'
  unread : s.stale = []
  unpassed : s.passed = []

theorem PublishStart.inv {s : PublishState} (h : PublishStart s) : PublishInv s where
  single := h.single
  readPublishing := by simp [h.unread]
  passedBuilding := by simp [h.unpassed]

/-- Every call leaves every row in place, one `RowStep` further. One case per call, each by the
lemma of its transition. -/
theorem apply_rowsStep {s : PublishState} {call : PublishCall} (hi : PublishInv s)
    (hallowed : call.Allowed s) : RowsStep call.Marks s.runs (call.apply s).runs := by
  cases call with
  | startPublishRun run now =>
    unfold PublishCall.apply
    dsimp only
    split
    next runs heq =>
      intro k r hr
      obtain ⟨previous, hget⟩ := get_startPublishRun heq k
      have hk : k ≠ run.publishRunId := by
        rintro rfl
        rw [(startPublishRun_eq_ok heq).1] at hr
        cases hr
      exact ⟨r, by rw [hget, if_neg hk, hr], .refl r⟩
    · exact .refl _
  | recordDbtResult id invocationId passed failed =>
    exact rowsStep_transition fun r _ => .kept ⟨rfl, rfl, rfl, rfl⟩
  | markPublishing process id hashes counts identity =>
    have hstep : RowsStep True s.runs (markPublishing id hashes counts identity s.runs).2 :=
      rowsStep_transition fun r hr => .marked trivial (by simpa using hr) rfl
    unfold PublishCall.apply
    dsimp only
    split
    next runs heq =>
      rw [heq] at hstep
      exact hstep
    · exact .refl _
  | markPublished id now =>
    exact rowsStep_transition fun r hr => .published (by simpa using hr) rfl rfl
  | markFailed id errorType message path now =>
    exact rowsStep_transition fun r hr => .failed hr rfl rfl
  | touchPublishRun id now =>
    exact rowsStep_updateWhere fun r _ _ => .kept ⟨rfl, rfl, rfl, rfl⟩
  | recordFailedPath id path =>
    exact rowsStep_transition fun r _ => .kept ⟨rfl, rfl, rfl, rfl⟩
  | staleActiveRuns staleBefore => exact .refl _
  | closeStaleRun record published staleBefore now =>
    refine rowsStep_updateWhere fun r hr hc => ?_
    have ha : r.Active := (of_decide_eq_true hc).1
    cases published with
    | false => exact .failed ha rfl rfl
    | true =>
      -- read as `PUBLISHING` earlier, and still active: it is `PUBLISHING` now
      obtain ⟨r', hr', hnot⟩ := hi.readPublishing record hallowed.1 (hallowed.2 rfl)
      obtain rfl : r = r' := Option.some.inj (hr.symm.trans hr')
      have hs : r.status = .publishing := by
        have hmem : r.status = .building ∨ r.status = .publishing := by
          simpa [PublishRow.Active, activeStatuses] using ha
        exact hmem.resolve_left hnot
      exact .published hs rfl rfl
  | closeDagRunBuilding pipelineName dagRunId now =>
    exact rowsStep_closeDagRunBuilding pipelineName dagRunId now s.runs
  | replace process id => exact .refl _

/-- Only `start_publish_run` adds a row, its own, and only where none is active. -/
theorem apply_get_none {s : PublishState} (call : PublishCall) {k : RunId}
    (h : s.runs.get k = none) :
    (call.apply s).runs.get k = none ∨
      (∀ r ∈ s.runs.rows, ¬ r.Active) ∧
        ∃ run now, call = .startPublishRun run now ∧ k = run.publishRunId := by
  cases call with
  -- the one statement that inserts a row, and only when no row is active
  | startPublishRun run now =>
    unfold PublishCall.apply
    dsimp only
    split
    next runs heq =>
      obtain ⟨previous, hget⟩ := get_startPublishRun heq k
      by_cases hk : k = run.publishRunId
      · exact .inr ⟨(startPublishRun_eq_ok heq).2.1, run, now, rfl, hk⟩
      · left
        show runs.get k = none
        rw [hget, if_neg hk, h]
    · exact .inl h
  -- every other statement updates rows that are there
  | recordDbtResult id invocationId passed failed => exact .inl (transition_get_none h)
  | markPublishing process id hashes counts identity =>
    have hnone : (markPublishing id hashes counts identity s.runs).2.get k = none :=
      transition_get_none h
    left
    unfold PublishCall.apply
    dsimp only
    split
    next runs heq =>
      rw [heq] at hnone
      exact hnone
    · exact h
  | markPublished id now => exact .inl (transition_get_none h)
  | markFailed id errorType message path now => exact .inl (transition_get_none h)
  | touchPublishRun id now => exact .inl (updateWhere_get_none h)
  | recordFailedPath id path => exact .inl (transition_get_none h)
  | staleActiveRuns staleBefore => exact .inl h
  | closeStaleRun record published staleBefore now => exact .inl (updateWhere_get_none h)
  | closeDagRunBuilding pipelineName dagRunId now => exact .inl (get_foldl_reclaimed now h)
  | replace process id => exact .inl h

/-- A transition that returned rewrote the row, from an expected status. -/
theorem transition_eq_ok {id : RunId} {expected : List PublishStatus}
    {f : PublishRow → PublishRow} {hf : ∀ r, (f r).publishRunId = r.publishRunId}
    {runs runs' : PublishRuns} (h : transition id expected f hf runs = (.ok (), runs')) :
    ∃ r, runs.get id = some r ∧ r.status ∈ expected ∧ runs'.get id = some (f r) := by
  have hget : (transition id expected f hf runs).2.get id = _ := get_transition
  rw [h, if_pos rfl] at hget
  unfold transition updateWhere at h
  cases hr : runs.get id with
  | none => simp [hr] at h
  | some r =>
    have hs : r.status ∈ expected := by
      by_contra hn
      simp [hr, hn] at h
    refine ⟨r, rfl, hs, ?_⟩
    rw [hget, hr]
    simp [hs]

/-- Who passes `mark_publishing` takes the row from `BUILDING` to `PUBLISHING`. -/
theorem passed_origin {s : PublishState} {call : PublishCall} {process : Nat} {id : RunId}
    (h : (process, id) ∈ (call.apply s).passed) :
    (process, id) ∈ s.passed ∨
      (∃ r, s.runs.get id = some r ∧ r.status = .building) ∧
        ∃ r, (call.apply s).runs.get id = some r ∧ r.status = .publishing := by
  -- a process passes `mark_publishing` only when the transition finds its row `BUILDING`
  cases call with
  | markPublishing process' id' hashes counts identity =>
    unfold PublishCall.apply at h ⊢
    dsimp only at h ⊢
    cases hmark : markPublishing id' hashes counts identity s.runs with
    | mk result runs =>
      rw [hmark] at h
      cases result with
      | error e => exact .inl h
      | ok u =>
        rcases List.mem_cons.1 h with hself | hold
        · obtain ⟨-, rfl⟩ := Prod.mk.inj hself
          obtain ⟨r, hr, hs, hr'⟩ := transition_eq_ok hmark
          exact .inr ⟨⟨r, hr, by simpa using hs⟩, _, hr', rfl⟩
        · exact .inl hold
  | startPublishRun run now =>
    left
    unfold PublishCall.apply at h
    dsimp only at h
    split at h <;> exact h
  | _ => exact .inl h

/-- A record handed out is one handed out before, or it is the row as it stands. -/
theorem stale_apply {s : PublishState} (call : PublishCall) {record : PublishRow}
    (h : record ∈ (call.apply s).stale) :
    record ∈ s.stale ∨ s.runs.get record.publishRunId = some record := by
  cases call with
  | staleActiveRuns staleBefore =>
    rcases List.mem_append.1 h with hnew | hold
    · have hmem : record ∈ s.runs.rows := by
        have := (List.mem_insertionSort StartedBefore).1 hnew
        exact List.mem_of_mem_filter this
      exact .inr (Table.get_of_mem hmem)
    · exact .inl hold
  | startPublishRun run now =>
    left
    unfold PublishCall.apply at h
    dsimp only at h
    split at h <;> exact h
  | markPublishing process id hashes counts identity =>
    left
    unfold PublishCall.apply at h
    dsimp only at h
    split at h <;> exact h
  | _ => exact .inl h

/-- What was handed out stays handed out. -/
theorem stale_subset (s : PublishState) (call : PublishCall) :
    s.stale ⊆ (call.apply s).stale := by
  intro record h
  cases call with
  | staleActiveRuns staleBefore => exact List.mem_append_right _ h
  | startPublishRun run now =>
    unfold PublishCall.apply
    dsimp only
    split <;> exact h
  | markPublishing process id hashes counts identity =>
    unfold PublishCall.apply
    dsimp only
    split <;> exact h
  | _ => exact h

theorem PublishInv.step {s t : PublishState} {call : PublishCall} (hi : PublishInv s)
    (h : PublishStep s call t) : PublishInv t := by
  obtain ⟨hallowed, rfl⟩ := h
  have hrows := apply_rowsStep hi hallowed
  -- what left `BUILDING` stays out of it
  have hkeep : ∀ id, (∃ r, s.runs.get id = some r ∧ r.status ≠ .building) →
      ∃ r, (call.apply s).runs.get id = some r ∧ r.status ≠ .building := by
    rintro id ⟨r, hr, hnot⟩
    obtain ⟨r', hr', hstep⟩ := hrows id r hr
    exact ⟨r', hr', hstep.not_building hnot⟩
  -- an active row was active before, or it is the row of a run started beside none
  have horigin : ∀ r ∈ (call.apply s).runs.rows, r.Active →
      (∃ q ∈ s.runs.rows, q.Active ∧ q.publishRunId = r.publishRunId) ∨
        (∀ q ∈ s.runs.rows, ¬ q.Active) ∧
          ∃ run now, call = .startPublishRun run now ∧ r.publishRunId = run.publishRunId := by
    intro r hr ha
    have hget : (call.apply s).runs.get r.publishRunId = some r := Table.get_of_mem hr
    cases hq : s.runs.get r.publishRunId with
    | none =>
      right
      rcases apply_get_none call hq with hnone | hnew
      · rw [hnone] at hget
        cases hget
      · exact hnew
    | some q =>
      left
      obtain ⟨r', hr', hstep⟩ := hrows _ q hq
      obtain rfl : r = r' := Option.some.inj (hget.symm.trans hr')
      exact ⟨q, Table.mem_of_get hq, hstep.active ha, Table.key_of_get hq⟩
  refine ⟨?_, ?_, ?_⟩
  · intro r hr r' hr' ha ha'
    have hid : r.publishRunId = r'.publishRunId := by
      rcases horigin r hr ha with ⟨q, hq, hqa, hqid⟩ | ⟨hnone, run, now, hcall, hrun⟩
      · rcases horigin r' hr' ha' with ⟨q', hq', hqa', hqid'⟩ | ⟨hnone, -⟩
        · rw [← hqid, ← hqid', hi.single q hq q' hq' hqa hqa']
        · exact absurd hqa (hnone q hq)
      · rcases horigin r' hr' ha' with ⟨q', hq', hqa', -⟩ | ⟨-, run', now', hcall', hrun'⟩
        · exact absurd hqa' (hnone q' hq')
        · rw [hcall] at hcall'
          cases hcall'
          rw [hrun, hrun']
    exact List.inj_on_of_nodup_map (call.apply s).runs.unique hr hr' hid
  · intro record hrecord hpublishing
    refine hkeep _ ?_
    rcases stale_apply call hrecord with hold | hrow
    · exact hi.readPublishing record hold hpublishing
    · exact ⟨record, hrow, by rw [hpublishing]; decide⟩
  · intro process id hpassed
    rcases passed_origin hpassed with hold | ⟨-, r, hr, hpublishing⟩
    · exact hkeep id (hi.passedBuilding process id hold)
    · exact ⟨r, hr, by rw [hpublishing]; decide⟩

theorem PublishInv.run {s t : PublishState} {calls : List PublishCall} (hi : PublishInv s)
    (h : Run PublishStep s calls t) : PublishInv t :=
  h.invariant hi fun _ _ _ hi hstep => hi.step hstep

/-- Rows over a run: a finished row is sealed for good. -/
theorem sealedAs_run {s t : PublishState} {calls : List PublishCall} (hi : PublishInv s)
    (h : Run PublishStep s calls t) {id : RunId} {r : PublishRow} (hr : s.runs.get id = some r)
    (hfinished : ¬ r.Active) : ∃ r', t.runs.get id = some r' ∧ r.SealedAs r' := by
  induction h with
  | nil => exact ⟨r, hr, rfl, rfl, rfl, rfl⟩
  | snoc hrun hstep ih =>
    obtain ⟨q, hq, hqs⟩ := ih
    have hinv := hi.run hrun
    obtain ⟨hallowed, rfl⟩ := hstep
    obtain ⟨r', hr', hrow⟩ := apply_rowsStep hinv hallowed _ q hq
    have hqa : ¬ q.Active := by
      unfold PublishRow.Active at hfinished ⊢
      rw [hqs.1]
      exact hfinished
    obtain ⟨h1, h2, h3, h4⟩ := hrow.sealedAs hqa
    exact ⟨r', hr', h1.trans hqs.1, h2.trans hqs.2.1, h3.trans hqs.2.2.1, h4.trans hqs.2.2.2⟩

/-- Who passed `mark_publishing` did so for good. -/
theorem passed_step {s t : PublishState} {call : PublishCall} (h : PublishStep s call t) :
    s.passed ⊆ t.passed := by
  obtain ⟨-, rfl⟩ := h
  intro x hx
  cases call with
  | startPublishRun run now =>
    unfold PublishCall.apply
    dsimp only
    split <;> exact hx
  | markPublishing process id hashes counts identity =>
    unfold PublishCall.apply
    dsimp only
    split
    · exact List.mem_cons_of_mem _ hx
    · exact hx
  | _ => exact hx

theorem passed_run {s t : PublishState} {calls : List PublishCall}
    (h : Run PublishStep s calls t) : s.passed ⊆ t.passed :=
  h.invariant (I := fun t => s.passed ⊆ t.passed) (fun _ hx => hx)
    fun _ _ _ hI hstep _ hx => passed_step hstep (hI hx)

/-- A process that replaced the published file had passed `mark_publishing`. -/
theorem passed_of_replace {s t : PublishState} {calls : List PublishCall}
    (h : Run PublishStep s calls t) {process : Nat} {id : RunId}
    (hmem : .replace process id ∈ calls) : (process, id) ∈ t.passed := by
  obtain ⟨pre, post, rfl⟩ := List.append_of_mem hmem
  obtain ⟨u, v, -, hstep, hpost⟩ := h.split_at
  exact passed_run hpost (passed_step hstep hstep.1)

/-- A `FAILED` row lets nobody pass `mark_publishing` again. -/
theorem not_passed_of_failed {s t : PublishState} {calls : List PublishCall} (hi : PublishInv s)
    (h : Run PublishStep s calls t) {process : Nat} {id : RunId} {r : PublishRow}
    (hr : s.runs.get id = some r) (hfailed : r.status = .failed)
    (hnew : (process, id) ∉ s.passed) : (process, id) ∉ t.passed := by
  have hnot : ¬ r.Active := by
    unfold PublishRow.Active
    rw [hfailed]
    decide
  induction h with
  | nil => exact hnew
  | snoc hrun hstep ih =>
    intro hpassed
    obtain ⟨q, hq, hsealed⟩ := sealedAs_run hi hrun hr hnot
    obtain ⟨-, rfl⟩ := hstep
    rcases passed_origin hpassed with hold | ⟨⟨q', hq', hbuilding⟩, -⟩
    · exact ih hold
    · obtain rfl : q = q' := Option.some.inj (hq.symm.trans hq')
      rw [hsealed.1, hfailed] at hbuilding
      cases hbuilding

/-- The state machine of publish runs and the fence around a closed one, in every run from a
start: one active run at most; statuses that only move forward and rows that stay; finished
rows sealed; and after a run was closed while `BUILDING`, it stays `FAILED`, nobody has
passed its `mark_publishing` and nobody replaces the published file for it. -/
theorem publishRuns_fenced {s t : PublishState} {calls : List PublishCall}
    (h0 : PublishStart s) (h : Run PublishStep s calls t) :
    (∀ r ∈ t.runs.rows, ∀ r' ∈ t.runs.rows, r.Active → r'.Active → r = r') ∧
    (∀ call u, PublishStep t call u → ∀ id r, t.runs.get id = some r →
      ∃ r', u.runs.get id = some r' ∧ r.status.MovesTo r'.status) ∧
    (∀ later u, Run PublishStep t later u → ∀ id r, t.runs.get id = some r → ¬ r.Active →
      ∃ r', u.runs.get id = some r' ∧ r.SealedAs r') ∧
    (∀ call u later v, PublishStep t call u → Run PublishStep u later v →
      ∀ id r r', t.runs.get id = some r → r.status = .building →
        u.runs.get id = some r' → r'.status = .failed →
        (∃ r'', v.runs.get id = some r'' ∧ r''.status = .failed) ∧
        ∀ process, (process, id) ∉ v.passed ∧ .replace process id ∉ calls ++ call :: later) := by
  have hinv : PublishInv t := h0.inv.run h
  refine ⟨hinv.single, ?_, ?_, ?_⟩
  · rintro call u ⟨hallowed, rfl⟩ id r hr
    obtain ⟨r', hr', hstep⟩ := apply_rowsStep hinv hallowed id r hr
    exact ⟨r', hr', hstep.moves⟩
  · intro later u hlater id r hr hfinished
    exact sealedAs_run hinv hlater hr hfinished
  · intro call u later v hstep hlater id r r' hr hbuilding hr' hfailed
    have hinvu : PublishInv u := hinv.step hstep
    have hnot : ¬ r'.Active := by
      unfold PublishRow.Active
      rw [hfailed]
      decide
    obtain ⟨r'', hr'', hsealed⟩ := sealedAs_run hinvu hlater hr' hnot
    refine ⟨⟨r'', hr'', hsealed.1.trans hfailed⟩, fun process => ?_⟩
    have hpassed : (process, id) ∉ v.passed :=
      not_passed_of_failed hinvu hlater hr' hfailed fun hu => by
        -- nobody had passed while the row was `BUILDING`, and the closing call passes nobody
        obtain ⟨-, rfl⟩ := hstep
        rcases passed_origin hu with hold | ⟨-, q, hq, hpublishing⟩
        · obtain ⟨q, hq, hnotBuilding⟩ := hinv.passedBuilding process id hold
          obtain rfl : r = q := Option.some.inj (hr.symm.trans hq)
          exact hnotBuilding hbuilding
        · obtain rfl : r' = q := Option.some.inj (hr'.symm.trans hq)
          rw [hfailed] at hpublishing
          cases hpublishing
    refine ⟨hpassed, fun hmem => hpassed ?_⟩
    have hall : Run PublishStep s (calls ++ call :: later) v := by
      have := (h.snoc hstep).append hlater
      rwa [List.append_assoc] at this
    exact passed_of_replace hall hmem

private def noRuns : PublishState := ⟨Table.empty, [], []⟩

private def reclaimedRun : PublishRun := ⟨1, "warehouse_pipeline_dag", none, some "manual__1"⟩

private def startedRun : PublishState := (PublishCall.startPublishRun reclaimedRun 0).apply noRuns

private def reclaim : PublishCall :=
  .closeDagRunBuilding "warehouse_pipeline_dag" "manual__1" 60000000

private def closedRun : PublishState := reclaim.apply startedRun

private def lateMark : PublishCall := .markPublishing 7 1 [] [] ⟨10, 20⟩

/-- The process of a reclaimed run comes late to `mark_publishing`. -/
theorem publishRuns_fenced_reclaimed :
    (7, 1) ∉ (lateMark.apply closedRun).passed := by
  have hstart : PublishStart noRuns := ⟨by simp [noRuns], rfl, rfl⟩
  have hrun : Run PublishStep noRuns [.startPublishRun reclaimedRun 0] startedRun :=
    Run.nil.snoc ⟨trivial, rfl⟩
  have hclose : PublishStep startedRun reclaim closedRun := ⟨trivial, rfl⟩
  have hlater : Run PublishStep closedRun [lateMark] (lateMark.apply closedRun) :=
    Run.nil.snoc ⟨trivial, rfl⟩
  have hfenced := (publishRuns_fenced hstart hrun).2.2.2 _ _ _ _ hclose hlater 1
    (reclaimedRun.row none 0) ((reclaimedRun.row none 0).toReclaimed 60000000) rfl rfl rfl rfl
  exact (hfenced.2 7).1

end CommercePlatform.Warehouse
