import CommercePlatform.Bronze.Orphan
import CommercePlatform.Control.TableLease
import CommercePlatform.Lib.Machine
import CommercePlatform.Lib.Tiling
/-!
# The watermark chain

Every transaction on the metadata database as one step of a machine, by any owner, in
any order, with any clock value. A trace lists the events: the state a transaction
started from and the operation. What the operation did to a watermark is its *move*: an
object registered by a commit or a reconciliation, or a rewind to a target. Nothing else
moves a cursor.

The one inversion lemma `apply_moved` says what each operation can do to a watermark row
and to the catalog; every part of the chain follows from it by induction on the run:

* the stored cursor is the target of the last move;
* the version counts the moves;
* an object's lower bound is the cursor it replaced, so the objects registered since the
  last rewind are linked, and tile the range when each runs upward;
* the version is a compare-and-set token: it admits one commit per value.

`ChainInv` is what the induction carries; `watermark_chain` takes the chain of a
finished trace apart into these statements. A transaction that raises is an event
without a move, so refused operations stand in the trace like any others and the
invariant passes over them.

Mirroring notes vs the source:
- The machine has every transaction that writes the four tables: creating and reading a
  watermark, the rewind, the leases, the `record_…_run` functions, the commit and the
  reconciliation of an orphan (`Bronze/Orphan`). Nothing else in the repository writes
  them.
- An event keeps the state before it. A trace is therefore a record for the statement,
  and no part of the code reads it.
- A missing row is read as the initial cursor at version 0, which is what the row is
  inserted with.
-/

namespace CommercePlatform

open Lib

/-- One metadata transaction with its arguments, the clock value among them. -/
inductive Op where
  | getOrCreateWatermark (pipelineName sourceTable : String) (now : Timestamp)
  | takeTableLease (pipelineName sourceTable : String) (ownerId : RunId) (now : Timestamp)
      (ttl : Int)
  | renewTableLease (lease : TableLease) (now : Timestamp) (ttl : Int)
  | releaseTableLease (lease : TableLease)
  | commitTableRun (commit : TableCommit) (now : Timestamp)
  | rewindWatermark (pipelineName sourceTable : String) (ownerId : RunId)
      (expectedVersion : Nat) (cursor : CursorPosition) (now : Timestamp)
  | reconcileOrphan (objectKey manifestKey : String) (manifest : ManifestPayload)
      (now : Timestamp)
  | recordStartedRun (run : PipelineRun) (now : Timestamp)
  | recordFailedRun (run : PipelineRun) (errorType : String) (errorMessage : Option String)
      (now : Timestamp)
  | recordSuccessNoDataRun (run : PipelineRun) (now : Timestamp)
  | recordSkippedAlreadyCommittedRun (run : PipelineRun) (rowCount : Nat) (now : Timestamp)

/-- The new database of a transaction that returns a value with it. -/
def stateOf {α : Type} (r : Except Raised (α × Db)) : Except Raised Db := r.map (·.2)

/-- Run one transaction. -/
def Op.apply : Op → Db → Except Raised Db
  | .getOrCreateWatermark p t now, db => stateOf (CommercePlatform.getOrCreateWatermark p t now db)
  | .takeTableLease p t owner now ttl, db =>
    stateOf (CommercePlatform.takeTableLease p t owner now ttl db)
  | .renewTableLease lease now ttl, db => stateOf (CommercePlatform.renewTableLease lease now ttl db)
  | .releaseTableLease lease, db => CommercePlatform.releaseTableLease lease db
  | .commitTableRun c now, db => CommercePlatform.commitTableRun c now db
  | .rewindWatermark p t owner v cursor now, db =>
    stateOf (CommercePlatform.rewindWatermark p t owner v cursor now db)
  | .reconcileOrphan o mk m now, db => reconcileTransaction o mk m now db
  | .recordStartedRun run now, db => CommercePlatform.recordStartedRun run now db
  | .recordFailedRun run e msg now, db => CommercePlatform.recordFailedRun run e msg now db
  | .recordSuccessNoDataRun run now, db => CommercePlatform.recordSuccessNoDataRun run now db
  | .recordSkippedAlreadyCommittedRun run n now, db =>
    CommercePlatform.recordSkippedAlreadyCommittedRun run n now db

/-- An operation and the state it ran in. -/
structure Event where
  before : Db
  op : Op

/-- A transaction that raises is rolled back. -/
def Event.after (ev : Event) : Db :=
  match ev.op.apply ev.before with
  | .ok db => db
  | .error _ => ev.before

/-- The operation returned. -/
def Event.Succeeded (ev : Event) : Prop := ∃ db, ev.op.apply ev.before = .ok db

/-- The machine: any operation may run next. -/
def Step (db : Db) (ev : Event) (db' : Db) : Prop := ev.before = db ∧ db' = ev.after

/-- What a successful operation did to one watermark: an object with its bounds, or a rewind. -/
inductive Move where
  | object (row : BronzeObjectRow)
  | rewind (target : CursorPosition)

/-- The cursor a move leaves behind. -/
def Move.target : Move → CursorPosition
  | .object row => row.watermarkAfter
  | .rewind target => target

/-- The move an operation makes when it returns, and the watermark it makes it on.
A reconciliation takes the pipeline name from the run row it locks. -/
def Op.intent : Op → Db → Option (WatermarkKey × Move)
  | .commitTableRun c now, _ => some (c.expectedWatermark.key, .object (c.objectRow now))
  | .rewindWatermark p t _ _ cursor _, _ => some ((p, t), .rewind cursor)
  | .reconcileOrphan o mk m now, db =>
    (db.pipelineRuns.get m.runKey).bind fun run => run.extractUpperBound.map fun after =>
      ((run.pipelineName, m.sourceTable),
        .object (m.objectRow o mk run.watermarkBefore after now))
  | _, _ => none

/-- The move of an event: nothing when it raised. -/
def Event.moved (ev : Event) : Option (WatermarkKey × Move) :=
  match ev.op.apply ev.before with
  | .ok _ => ev.op.intent ev.before
  | .error _ => none

/-- The move of an event on watermark `k`. -/
def Event.move (k : WatermarkKey) (ev : Event) : Option Move :=
  ev.moved.bind fun w => if w.1 = k then some w.2 else none

/-- The moves of a trace on watermark `k`, oldest first. -/
def moves (k : WatermarkKey) (tr : List Event) : List Move := tr.filterMap (Event.move k)

/-- The stored cursor; a missing row counts as the initial one. -/
def Db.cursorAt (db : Db) (k : WatermarkKey) : CursorPosition :=
  ((db.watermarks.get k).map WatermarkRow.cursor).getD .initial

/-- The stored version; a missing row counts as version 0. -/
def Db.versionAt (db : Db) (k : WatermarkKey) : Nat :=
  ((db.watermarks.get k).map WatermarkRow.version).getD 0

theorem Db.cursorAt_of_get {db : Db} {k : WatermarkKey} {row : WatermarkRow}
    (h : db.watermarks.get k = some row) : db.cursorAt k = row.cursor := by
  simp [cursorAt, h]

theorem Db.versionAt_of_get {db : Db} {k : WatermarkKey} {row : WatermarkRow}
    (h : db.watermarks.get k = some row) : db.versionAt k = row.version := by
  simp [versionAt, h]

/-- What an operation did to the watermarks and the catalog: `w` is the move it made, if any.
Every other watermark kept its cursor and version, and the catalog grew by the move's object. -/
structure Moved (w : Option (WatermarkKey × Move)) (db db' : Db) : Prop where
  target : ∀ k m, w = some (k, m) → db'.cursorAt k = m.target
  count : ∀ k m, w = some (k, m) → db'.versionAt k = db.versionAt k + 1
  lower : ∀ k row, w = some (k, .object row) → row.watermarkBefore = db.cursorAt k
  sameCursor : ∀ k, (∀ m, w ≠ some (k, m)) → db'.cursorAt k = db.cursorAt k
  sameVersion : ∀ k, (∀ m, w ≠ some (k, m)) → db'.versionAt k = db.versionAt k
  catalog : ∀ row, row ∈ db'.bronzeObjects.rows ↔
    row ∈ db.bronzeObjects.rows ∨ ∃ k, w = some (k, .object row)

/-- An operation that keeps every cursor, every version and the catalog. -/
theorem Moved.still {db db' : Db} (hc : ∀ k, db'.cursorAt k = db.cursorAt k)
    (hv : ∀ k, db'.versionAt k = db.versionAt k)
    (hb : db'.bronzeObjects = db.bronzeObjects) : Moved none db db' where
  target := fun _ _ h => by cases h
  count := fun _ _ h => by cases h
  lower := fun _ _ h => by cases h
  sameCursor := fun k _ => hc k
  sameVersion := fun k _ => hv k
  catalog := fun row => by simp [hb]

/-- Advancing the row at `k` moves that watermark and no other. -/
theorem advance_at {db db' : Db} {k : WatermarkKey} {row : WatermarkRow} {c : CursorPosition}
    {now : Timestamp} (hrow : db.watermarks.get k = some row)
    (hw : db'.watermarks = db.watermarks.modify k (.advance c now)
      (WatermarkRow.advance_key c now)) (k' : WatermarkKey) :
    db'.cursorAt k' = (if k' = k then c else db.cursorAt k') ∧
    db'.versionAt k' = (if k' = k then db.versionAt k + 1 else db.versionAt k') := by
  unfold Db.cursorAt Db.versionAt
  rw [hw, Table.get_modify]
  by_cases hk : k' = k
  · subst hk
    simp [hrow, WatermarkRow.advance]
  · simp [hk]

/-- An advance of the row at `k` is the move `m`. -/
theorem Moved.advance {db db' : Db} {k : WatermarkKey} {row : WatermarkRow} {m : Move}
    {now : Timestamp} (hrow : db.watermarks.get k = some row)
    (hw : db'.watermarks = db.watermarks.modify k (.advance m.target now)
      (WatermarkRow.advance_key m.target now))
    (hlower : ∀ r, m = .object r → r.watermarkBefore = row.cursor)
    (hcat : ∀ r, r ∈ db'.bronzeObjects.rows ↔ r ∈ db.bronzeObjects.rows ∨ m = .object r) :
    Moved (some (k, m)) db db' where
  -- at the key itself the cursor is the upper bound and the version is one higher
  target := by
    rintro k' m' ⟨⟩
    simpa using (advance_at hrow hw k).1
  count := by
    rintro k' m' ⟨⟩
    simpa using (advance_at hrow hw k).2
  lower := by
    rintro k' r ⟨⟩
    rw [hlower r rfl, Db.cursorAt_of_get hrow]
  -- at every other key the watermark is untouched
  sameCursor := by
    intro k' hk
    have hne : k' ≠ k := fun he => hk m (by rw [he])
    simpa [hne] using (advance_at hrow hw k').1
  sameVersion := by
    intro k' hk
    have hne : k' ≠ k := fun he => hk m (by rw [he])
    simpa [hne] using (advance_at hrow hw k').2
  catalog := by
    intro r
    rw [hcat r]
    simp

/-- A lease update moves nothing. -/
theorem Moved.lease {db db' : Db} {key : WatermarkKey} {p : WatermarkRow → Prop}
    {lease : Option LeaseColumns} (h : LeaseUpdated key p lease db db') : Moved none db db' := by
  obtain ⟨row, hrow, -, rfl⟩ := h
  refine Moved.still (fun k => ?_) (fun k => ?_) rfl
  · unfold Db.cursorAt
    rw [Table.get_modify]
    by_cases hk : k = key
    · subst hk
      simp [hrow, WatermarkRow.withLease]
    · simp [hk]
  · unfold Db.versionAt
    rw [Table.get_modify]
    by_cases hk : k = key
    · subst hk
      simp [hrow, WatermarkRow.withLease]
    · simp [hk]

/-- Creating a missing row moves nothing: it starts at the initial cursor, version 0. -/
theorem Moved.ensure (db : Db) (key : WatermarkKey) (now : Timestamp) :
    Moved none db (db.ensureWatermark key now) := by
  have hfresh : ∀ k, k = key →
      ((db.ensureWatermark key now).cursorAt k = db.cursorAt k ∧
        (db.ensureWatermark key now).versionAt k = db.versionAt k) := by
    rintro k rfl
    unfold Db.cursorAt Db.versionAt
    rw [Db.get_ensureWatermark]
    unfold Db.watermarkOrFresh
    cases db.watermarks.get k <;> simp [WatermarkRow.fresh]
  have hother : ∀ k, k ≠ key →
      ((db.ensureWatermark key now).cursorAt k = db.cursorAt k ∧
        (db.ensureWatermark key now).versionAt k = db.versionAt k) := by
    intro k hk
    unfold Db.cursorAt Db.versionAt
    rw [Db.get_ensureWatermark]
    simp [hk]
  refine Moved.still (fun k => ?_) (fun k => ?_) Db.ensureWatermark_bronzeObjects
  · by_cases hk : k = key
    · exact (hfresh k hk).1
    · exact (hother k hk).1
  · by_cases hk : k = key
    · exact (hfresh k hk).2
    · exact (hother k hk).2

/-- A change of the run rows alone moves nothing. -/
theorem Moved.runs {db db' : Db} (hw : db'.watermarks = db.watermarks)
    (hb : db'.bronzeObjects = db.bronzeObjects) : Moved none db db' :=
  Moved.still (fun k => by simp [Db.cursorAt, hw]) (fun k => by simp [Db.versionAt, hw]) hb

theorem finishRunning_moved {run : PipelineRun} {f : PipelineRunRow → PipelineRunRow}
    {hf : ∀ r, (f r).key = r.key} {message : String} {db db' : Db}
    (h : finishRunning run f hf message db = .ok db') : Moved none db db' := by
  obtain ⟨row, -, -, rfl⟩ := Db.updateRunWhere_eq_ok.1 h
  exact Moved.runs rfl rfl

theorem stateOf_eq_ok {α : Type} {r : Except Raised (α × Db)} {db : Db} :
    stateOf r = .ok db ↔ ∃ a, r = .ok (a, db) := by
  cases r with
  | error e => simp [stateOf, Except.map]
  | ok v =>
    obtain ⟨a, d⟩ := v
    simp [stateOf, Except.map]

/-- What every operation does to the watermarks when it returns: the one place where the
transactions are looked at. -/
theorem apply_moved {op : Op} {db db' : Db} (h : op.apply db = .ok db') :
    Moved (op.intent db) db db' := by
  cases op with
  | getOrCreateWatermark p t now =>
    obtain ⟨w, h⟩ := stateOf_eq_ok.1 h
    obtain ⟨-, -, -, rfl⟩ := getOrCreateWatermark_eq_ok.1 h
    exact Moved.ensure db (p, t) now
  | takeTableLease p t owner now ttl =>
    obtain ⟨l, h⟩ := stateOf_eq_ok.1 h
    exact Moved.lease (takeTableLease_eq_ok h)
  | renewTableLease lease now ttl =>
    obtain ⟨l, h⟩ := stateOf_eq_ok.1 h
    exact Moved.lease (renewTableLease_eq_ok h)
  | releaseTableLease lease => exact Moved.lease (releaseTableLease_eq_ok h)
  -- the two that register an object move the watermark from its lower bound to its upper one
  | commitTableRun c now =>
    have hc := commitTableRun_eq_ok.1 h
    obtain ⟨row, hrow, -, hmatch⟩ := hc.watermark
    refine Moved.advance (m := .object (c.objectRow now)) hrow hc.watermarks ?_ ?_
    · rintro r ⟨⟩
      exact c.sameCursor.symm.trans hmatch.2.symm
    · intro r
      rw [hc.bronzeObjects]
      simp [eq_comm]
  | rewindWatermark p t owner v cursor now =>
    obtain ⟨w, h⟩ := stateOf_eq_ok.1 h
    obtain ⟨row, hrow, -, -, -, rfl⟩ := rewindWatermark_eq_ok h
    refine Moved.advance (m := .rewind cursor) hrow rfl ?_ ?_
    · rintro r ⟨⟩
    · intro r
      simp
  | reconcileOrphan o mk m now =>
    obtain ⟨run, after, hr⟩ := reconcileTransaction_eq_ok.1 h
    obtain ⟨row, hrow, hcursor⟩ := hr.watermark
    have hintent : (Op.reconcileOrphan o mk m now).intent db = some
        ((run.pipelineName, m.sourceTable),
          .object (m.objectRow o mk run.watermarkBefore after now)) := by
      simp [Op.intent, hr.found, hr.upper]
    rw [hintent]
    refine Moved.advance (m := .object _) hrow hr.watermarks ?_ ?_
    · rintro r ⟨⟩
      exact hcursor.symm
    · intro r
      rw [hr.bronzeObjects]
      simp [eq_comm]
  -- the records of runs leave the watermarks alone
  | recordStartedRun run now =>
    obtain ⟨-, rfl⟩ := Db.insertPipelineRun_eq_ok.1 h
    exact Moved.runs rfl rfl
  | recordFailedRun run e msg now =>
    obtain ⟨-, -, h⟩ := bind_eq_ok.1 h
    exact finishRunning_moved h
  | recordSuccessNoDataRun run now =>
    obtain ⟨-, -, h⟩ := bind_eq_ok.1 h
    exact finishRunning_moved h
  | recordSkippedAlreadyCommittedRun run n now => exact finishRunning_moved h

/-! ## One event -/

theorem Event.spec (ev : Event) : Moved ev.moved ev.before ev.after := by
  unfold Event.moved Event.after
  cases h : ev.op.apply ev.before with
  | error e => exact Moved.still (fun _ => rfl) (fun _ => rfl) rfl
  | ok db => exact apply_moved h

theorem Event.move_eq_some {k : WatermarkKey} {ev : Event} {m : Move} :
    ev.move k = some m ↔ ev.moved = some (k, m) := by
  unfold Event.move
  cases h : ev.moved with
  | none => simp
  | some w =>
    obtain ⟨k', m'⟩ := w
    by_cases hk : k' = k <;> simp [hk]

theorem Event.move_eq_none {k : WatermarkKey} {ev : Event} (h : ev.move k = none) :
    ∀ m, ev.moved ≠ some (k, m) := by
  intro m hm
  rw [Event.move_eq_some.2 hm] at h
  cases h

/-- The cursor after an event: the move's target, or what was there. -/
theorem Event.cursorAt_after (k : WatermarkKey) (ev : Event) :
    ev.after.cursorAt k = ((ev.move k).map Move.target).getD (ev.before.cursorAt k) := by
  cases h : ev.move k with
  | none => exact ev.spec.sameCursor k (Event.move_eq_none h)
  | some m => exact ev.spec.target k m (Event.move_eq_some.1 h)

/-- The version grows by one at a move and not otherwise. -/
theorem Event.versionAt_after (k : WatermarkKey) (ev : Event) :
    ev.after.versionAt k = ev.before.versionAt k + (ev.move k).toList.length := by
  cases h : ev.move k with
  | none => exact ev.spec.sameVersion k (Event.move_eq_none h)
  | some m => exact ev.spec.count k m (Event.move_eq_some.1 h)

/-- An object's lower bound is the cursor stored when it was registered. -/
theorem Event.object_lower {k : WatermarkKey} {ev : Event} {row : BronzeObjectRow}
    (h : ev.move k = some (.object row)) : row.watermarkBefore = ev.before.cursorAt k :=
  ev.spec.lower k row (Event.move_eq_some.1 h)

theorem moves_snoc (k : WatermarkKey) (tr : List Event) (ev : Event) :
    moves k (tr ++ [ev]) = moves k tr ++ (ev.move k).toList := by
  unfold moves
  rw [List.filterMap_append]
  cases h : ev.move k <;> simp [h]

/-- The range of an object. -/
def BronzeObjectRow.span (row : BronzeObjectRow) : Span CursorPosition :=
  ⟨row.watermarkBefore, row.watermarkAfter⟩

/-- The cursor the last rewind set and the ranges registered since. -/
def sinceRewind : List Move → CursorPosition × List (Span CursorPosition) :=
  List.foldl (fun acc m => match m with
    | .object row => (acc.1, acc.2 ++ [row.span])
    | .rewind target => (target, [])) (.initial, [])

/-- The target of the last move; the initial cursor when there was none. -/
def lastTarget (ms : List Move) : CursorPosition := (ms.getLast?.map Move.target).getD .initial

theorem sinceRewind_snoc (ms : List Move) (m : Move) :
    sinceRewind (ms ++ [m]) = match m with
      | .object row => ((sinceRewind ms).1, (sinceRewind ms).2 ++ [row.span])
      | .rewind target => (target, []) := by
  unfold sinceRewind
  rw [List.foldl_append]
  rfl

/-- The part of the chain an induction carries: cursor, version, linked ranges and the origin of
every catalog row. -/
structure ChainInv (k : WatermarkKey) (tr : List Event) (db : Db) : Prop where
  cursor : db.cursorAt k = lastTarget (moves k tr)
  version : db.versionAt k = (moves k tr).length
  linked : Linked (sinceRewind (moves k tr)).1 (sinceRewind (moves k tr)).2 (db.cursorAt k)
  origin : ∀ row ∈ db.bronzeObjects.rows, ∃ ev ∈ tr, ∃ k', ev.move k' = some (.object row)

theorem chainInv_empty (k : WatermarkKey) : ChainInv k [] Db.empty where
  cursor := rfl
  version := rfl
  linked := rfl
  origin := fun _ h => by cases h

/-- Every event keeps the chain. -/
theorem chainInv_step {k : WatermarkKey} {tr : List Event} {ev : Event}
    (h : ChainInv k tr ev.before) : ChainInv k (tr ++ [ev]) ev.after where
  cursor := by
    rw [ev.cursorAt_after, moves_snoc, h.cursor]
    cases hm : ev.move k <;> simp [lastTarget]
  version := by
    rw [ev.versionAt_after, moves_snoc, h.version, List.length_append]
  linked := by
    rw [ev.cursorAt_after, moves_snoc]
    cases hm : ev.move k with
    | none => simpa using h.linked
    | some m =>
      rw [Option.toList_some, sinceRewind_snoc]
      cases m with
      | object row => exact h.linked.snoc row.span (Event.object_lower hm)
      | rewind target => rfl
  origin := by
    intro row hrow
    rcases (ev.spec.catalog row).1 hrow with hold | ⟨k', hnew⟩
    · obtain ⟨ev', hev', k', hk'⟩ := h.origin row hold
      exact ⟨ev', List.mem_append_left _ hev', k', hk'⟩
    · exact ⟨ev, by simp, k', Event.move_eq_some.2 hnew⟩

theorem chainInv_run {tr : List Event} {db : Db} (h : Run Step Db.empty tr db)
    (k : WatermarkKey) : ChainInv k tr db := by
  refine h.traced (P := ChainInv k) (chainInv_empty k) ?_
  rintro tr ev t u - hinv ⟨rfl, rfl⟩
  exact chainInv_step hinv

/-- The event is a `commit_table_run` that returned. -/
def Event.Commits (ev : Event) (c : TableCommit) : Prop :=
  ev.Succeeded ∧ ∃ now, ev.op = .commitTableRun c now

/-- A commit that returned held the unexpired lease and found the expected version. -/
theorem Event.Commits.spec {ev : Event} {c : TableCommit} (h : ev.Commits c) :
    ∃ now row, ev.op = .commitTableRun c now ∧
      ev.before.watermarks.get c.expectedWatermark.key = some row ∧
      HoldsLease c.leaseOwner now row ∧ c.expectedWatermark.Matches row ∧
      Committed c now ev.before ev.after := by
  obtain ⟨⟨db, hdb⟩, now, hop⟩ := h
  have hafter : ev.after = db := by simp [Event.after, hdb]
  rw [hop] at hdb
  have hc := commitTableRun_eq_ok.1 hdb
  obtain ⟨row, hrow, hlease, hmatch⟩ := hc.watermark
  exact ⟨now, row, hop, hrow, hlease, hmatch, hafter ▸ hc⟩

theorem versionAt_mono {tr : List Event} {db db' : Db} (h : Run Step db tr db')
    (k : WatermarkKey) : db.versionAt k ≤ db'.versionAt k := by
  refine h.mono (f := fun db => db.versionAt k) ?_
  rintro t ev u ⟨rfl, rfl⟩
  show ev.before.versionAt k ≤ ev.after.versionAt k
  rw [ev.versionAt_after]
  exact Nat.le_add_right _ _

/-- Of two commits in one run the later expected a larger version, so one version admits one
commit. -/
theorem commit_versions_increase {tr₁ tr₂ tr₃ : List Event} {ev ev' : Event} {db db' : Db}
    {c c' : TableCommit} (h : Run Step db (tr₁ ++ ev :: (tr₂ ++ ev' :: tr₃)) db')
    (hc : ev.Commits c) (hc' : ev'.Commits c')
    (hkey : c.expectedWatermark.key = c'.expectedWatermark.key) :
    c.expectedWatermark.version < c'.expectedWatermark.version := by
  obtain ⟨s, s', -, ⟨rfl, rfl⟩, hrest⟩ := h.split_at
  obtain ⟨t, t', hmid, ⟨rfl, -⟩, -⟩ := hrest.split_at
  obtain ⟨now, row, hop, hrow, -, hmatch, hcom⟩ := hc.spec
  obtain ⟨now', row', -, hrow', -, hmatch', -⟩ := hc'.spec
  have hmono := versionAt_mono hmid c.expectedWatermark.key
  have hafter : ev.after.versionAt c.expectedWatermark.key = row.version + 1 := by
    rw [(advance_at hrow hcom.watermarks _).2, if_pos rfl, Db.versionAt_of_get hrow]
  have hlate : ev'.before.versionAt c.expectedWatermark.key = row'.version := by
    rw [hkey, Db.versionAt_of_get hrow']
  rw [hafter, hlate, hmatch.1, hmatch'.1] at hmono
  exact hmono

/-! ## The chain -/

/-- The watermark chain of `k` over a trace that ends in `db`. -/
structure WatermarkChain (k : WatermarkKey) (tr : List Event) (db : Db) : Prop where
  /-- The stored cursor is where the last commit, reconciliation or rewind put it. -/
  cursor : db.cursorAt k = lastTarget (moves k tr)
  /-- The version counts the moves … -/
  version : db.versionAt k = (moves k tr).length
  /-- … and grows by one at each of them and never otherwise. -/
  growth : ∀ ev ∈ tr, ev.after.versionAt k =
    ev.before.versionAt k + if (ev.move k).isSome then 1 else 0
  /-- Every catalog row was registered by an event, on some watermark, whose
  cursor it replaced. -/
  registered : ∀ row ∈ db.bronzeObjects.rows, ∃ ev ∈ tr, ∃ k',
    ev.move k' = some (.object row) ∧ row.watermarkBefore = ev.before.cursorAt k' ∧
    ev.after.cursorAt k' = row.watermarkAfter
  /-- Every object of `k` starts at the cursor it replaced. -/
  lower : ∀ ev ∈ tr, ∀ row, ev.move k = some (.object row) →
    row.watermarkBefore = ev.before.cursorAt k
  /-- The ranges since the last rewind tile `(base, cursor]`. -/
  tiles : (∀ s ∈ (sinceRewind (moves k tr)).2, s.lo < s.hi) →
    Tiles (sinceRewind (moves k tr)).1 (sinceRewind (moves k tr)).2 (db.cursorAt k)
  /-- One expected version admits one commit. -/
  cas : ∀ tr₁ tr₂ tr₃ ev ev' c c', tr = tr₁ ++ ev :: (tr₂ ++ ev' :: tr₃) →
    ev.Commits c → ev'.Commits c' → c.expectedWatermark.key = k →
    c'.expectedWatermark.key = k →
    c.expectedWatermark.version ≠ c'.expectedWatermark.version
  /-- A commit returns only under the unexpired lease of its owner, at the
  expected version and cursor. -/
  owner : ∀ ev ∈ tr, ∀ c, ev.Commits c → c.expectedWatermark.key = k →
    ∃ now row, ev.op = .commitTableRun c now ∧ ev.before.watermarks.get k = some row ∧
      HoldsLease c.leaseOwner now row ∧ c.expectedWatermark.Matches row
  /-- An operation that raises changes nothing. -/
  rollback : ∀ ev ∈ tr, ¬ ev.Succeeded → ev.after = ev.before

/-- The watermark chain holds of every run of the metadata transactions from the empty database,
for every watermark. -/
theorem watermark_chain {tr : List Event} {db : Db} (h : Run Step Db.empty tr db)
    (k : WatermarkKey) : WatermarkChain k tr db where
  cursor := (chainInv_run h k).cursor
  version := (chainInv_run h k).version
  growth := by
    intro ev _
    rw [ev.versionAt_after]
    cases ev.move k <;> rfl
  -- a row of the catalogue was registered by the commit that moved the cursor to its upper bound
  registered := by
    intro row hrow
    obtain ⟨ev, hev, k', hk'⟩ := (chainInv_run h k).origin row hrow
    refine ⟨ev, hev, k', hk', Event.object_lower hk', ?_⟩
    rw [ev.cursorAt_after, hk']
    rfl
  lower := fun ev _ row hrow => Event.object_lower hrow
  tiles := (chainInv_run h k).linked.tiles
  -- two commits under one expected version: the version has grown between them
  cas := by
    rintro tr₁ tr₂ tr₃ ev ev' c c' rfl hc hc' rfl hkey
    exact Nat.ne_of_lt (commit_versions_increase h hc hc' hkey.symm)
  owner := by
    rintro ev - c hc rfl
    obtain ⟨now, row, hop, hrow, hlease, hmatch, -⟩ := hc.spec
    exact ⟨now, row, hop, hrow, hlease, hmatch⟩
  -- a transaction that raised leaves the database it began with
  rollback := by
    intro ev _ hfail
    unfold Event.after
    cases hout : ev.op.apply ev.before with
    | error e => rfl
    | ok d => exact absurd ⟨d, hout⟩ hfail

private def ordersKey : WatermarkKey := ("orders_bronze", "orders")

private def ordersUpper : CursorPosition := .of 3600 (.text "o-1")

private theorem no_dag_named : ∀ d, (none : Option String) = some d → Named 250 d := by simp

private def ordersRun : PipelineRun where
  runId := 7
  pipelineName := "orders_bronze"
  sourceTable := "orders"
  batchId := "ingest__20240101T000000Z"
  logicalDate := 0
  attemptNumber := 1
  watermarkBefore := .initial
  extractUpperBound := some ordersUpper
  dagId := none
  pipelineNamed := by decide
  tableNamed := by decide
  batchNamed := by decide
  attempted := by decide
  dagNamed := no_dag_named

private def zeroHash : String := String.ofList (List.replicate 64 '0')

private def ordersCommit : TableCommit where
  run := ordersRun
  object :=
    { tableBatchId := "ingest__20240101T000000Z__orders"
      objectKey := "bronze/orders/data.parquet"
      manifestKey := "bronze/orders/manifest.json"
      schemaVersion := 3
      rowCount := 1
      contentSha256 := zeroHash
      logicalHash := zeroHash
      watermarkAfter := ordersUpper
      batchNamed := by decide
      objectNamed := by decide
      manifestNamed := by decide
      versioned := by decide
      contentHashed := by decide
      logicalHashed := by decide }
  expectedWatermark := ⟨"orders_bronze", "orders", .initial, 0⟩
  rowsExtracted := 1
  rowsValid := 1
  rowsRejected := 0
  rowsLoaded := 1
  leaseOwner := 7
  quarantine := none
  samePipeline := rfl
  sameTable := rfl
  sameCursor := rfl
  quarantineBatch := by simp
  quarantineCount := by simp

private def secondRun : PipelineRun where
  runId := 8
  pipelineName := "orders_bronze"
  sourceTable := "orders"
  batchId := "ingest__20240101T010000Z"
  logicalDate := 3600000000
  attemptNumber := 1
  watermarkBefore := .initial
  extractUpperBound := some ordersUpper
  dagId := none
  pipelineNamed := by decide
  tableNamed := by decide
  batchNamed := by decide
  attempted := by decide
  dagNamed := no_dag_named

/-- The commit of the second run, which read the watermark at `version`. -/
private def secondCommit (version : Nat) : TableCommit where
  run := secondRun
  object :=
    { tableBatchId := "ingest__20240101T010000Z__orders"
      objectKey := "bronze/orders/data-2.parquet"
      manifestKey := "bronze/orders/manifest-2.json"
      schemaVersion := 3
      rowCount := 1
      contentSha256 := zeroHash
      logicalHash := zeroHash
      watermarkAfter := ordersUpper
      batchNamed := by decide
      objectNamed := by decide
      manifestNamed := by decide
      versioned := by decide
      contentHashed := by decide
      logicalHashed := by decide }
  expectedWatermark := ⟨"orders_bronze", "orders", .initial, version⟩
  rowsExtracted := 1
  rowsValid := 1
  rowsRejected := 0
  rowsLoaded := 1
  leaseOwner := 8
  quarantine := none
  samePipeline := rfl
  sameTable := rfl
  sameCursor := rfl
  quarantineBatch := by simp
  quarantineCount := by simp

/-- Run 7 commits and is rewound to the start. Run 8 takes the lease over; its commit at the
version of before the rewind is refused, the one at the version of after it is not. -/
private def rewoundHours : List Op := [
  .getOrCreateWatermark "orders_bronze" "orders" 0,
  .takeTableLease "orders_bronze" "orders" 7 0 100,
  .recordStartedRun ordersRun 0,
  .commitTableRun ordersCommit 1,
  .rewindWatermark "orders_bronze" "orders" 7 1 .initial 2,
  .takeTableLease "orders_bronze" "orders" 8 200 100,
  .recordStartedRun secondRun 200,
  .commitTableRun (secondCommit 1) 201,
  .commitTableRun (secondCommit 2) 202]

/-- The events of operations that run one after the other. -/
private def eventsOf : Db → List Op → List Event
  | _, [] => []
  | db, op :: ops => ⟨db, op⟩ :: eventsOf (Event.mk db op).after ops

private def rewoundEvents : List Event := eventsOf Db.empty rewoundHours

/-- Their final state. -/
private def rewoundDb : Db := rewoundEvents.foldl (fun _ ev => ev.after) Db.empty

private theorem run_eventsOf : ∀ (ops : List Op) (db : Db),
    Run Step db (eventsOf db ops) ((eventsOf db ops).foldl (fun _ ev => ev.after) db)
  | [], _ => .nil
  | _ :: ops, _ => Run.cons ⟨rfl, rfl⟩ (run_eventsOf ops _)

/-- Three moves, three versions; the refused commit is none of them. -/
theorem watermark_chain_rewound :
    (rewoundEvents.map fun ev => ev.after.versionAt ordersKey) = [0, 0, 0, 1, 2, 2, 2, 2, 3] ∧
    rewoundDb.cursorAt ordersKey = ordersUpper ∧
    WatermarkChain ordersKey rewoundEvents rewoundDb :=
  ⟨by decide +kernel, by decide +kernel, watermark_chain (run_eventsOf rewoundHours Db.empty) ordersKey⟩

end CommercePlatform
