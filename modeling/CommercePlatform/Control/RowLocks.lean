import CommercePlatform.Control.WatermarkChain
import CommercePlatform.Lib.Locking
/-!
# The row locks of the metadata transactions

`WatermarkChain` treats a transaction as one step. Here it is the sequence of row locks
its statements take: `FOR UPDATE` and `UPDATE` lock the row, an `INSERT` holds the
unique keys of its row against other inserts. A transaction alone comes to its end
exactly when it returns as one step (`passes_iff`), so the two models describe the same
transactions.

All of them lock the watermark before the run, but for `reconcile_orphan`, which locks
the run first. It deadlocks with the `commit_table_run` of its run
(`metadata_deadlock`), and with nothing else (`metadata_deadlock_free`): where no
reconciliation of a run overlaps the commit of that run, no state on the way is a
deadlock.

The proof ranks the rows in the order of `commit_table_run`, watermark, quarantine,
object, run, and uses the rule of `Lib/Locking` for ordered locks with one exception,
the run of a reconciliation. What the rule asks for the exception is that nobody who
holds a lock waits for such a row; only a commit locks a run with another row in hand,
and only its own run, which `Apart` excludes.

Mirroring notes vs the source and PostgreSQL:
- A `SELECT` without `FOR UPDATE` takes no row lock and reads the rows as they are.
- The `INSERT … ON CONFLICT DO NOTHING` of a watermark is one more lock of the row that
  the `FOR UPDATE` behind it locks: an insert waits for the transaction that inserted
  the key and has not ended. Where the row is an older one the database waits one
  statement later, for the same transaction.
- The two unique keys of an insert are two locks, in the order of the table's
  constraints.
- Foreign keys would lock the referenced row for sharing; the four tables have none.
-/

namespace CommercePlatform

open Lib

/-- What a statement locks: a watermark, a run, or a unique key of one of the two insert tables. -/
inductive LockedRow where
  | watermark (key : WatermarkKey)
  | quarantineBatch (tableBatchId : String)
  | quarantineObject (objectKey : String)
  | bronzeBatch (tableBatchId : String)
  | bronzeObject (objectKey : String)
  | pipelineRun (key : PipelineRunKey)
deriving DecidableEq

/-- The order of `commit_table_run`. -/
@[simp] def LockedRow.rank : LockedRow → Nat
  | watermark _ => 0
  | quarantineBatch _ => 1
  | quarantineObject _ => 2
  | bronzeBatch _ => 3
  | bronzeObject _ => 4
  | pipelineRun _ => 5

abbrev RowScript := LockScript Db LockedRow

/-- A statement on the watermark at `key` that raises unless the row satisfies `p`. -/
def onWatermark (key : WatermarkKey) (p : WatermarkRow → Prop) [DecidablePred p]
    (next : RowScript) : RowScript :=
  .lock (.watermark key) fun db => .ensure (∃ row ∈ db.watermarks.get key, p row) next

/-- A statement on the run at `key`. -/
def onRun (key : PipelineRunKey) (p : PipelineRunRow → Prop) [DecidablePred p]
    (next : RowScript) : RowScript :=
  .lock (.pipelineRun key) fun db => .ensure (∃ row ∈ db.pipelineRuns.get key, p row) next

/-- `INSERT INTO quarantine_batches`: first the primary key, then the unique column. -/
def insertingQuarantine (row : QuarantineBatchRow) (next : RowScript) : RowScript :=
  .lock (.quarantineBatch row.tableBatchId) fun _ =>
    .lock (.quarantineObject row.objectKey) fun db => .ensure (db.quarantineBatches.Free row) next

/-- `INSERT INTO bronze_objects`. -/
def insertingBronze (row : BronzeObjectRow) (next : RowScript) : RowScript :=
  .ensure (row.tableBatchId.length ≤ 320 ∧ row.batchId.length ≤ 192) <|
    .lock (.bronzeBatch row.tableBatchId) fun _ =>
      .lock (.bronzeObject row.objectKey) fun db => .ensure (db.bronzeObjects.Free row) next

/-- The two statements of `_get_or_create_watermark`. -/
def lockingWatermark (key : WatermarkKey) (k : Db → RowScript) : RowScript :=
  .lock (.watermark key) fun _ => .lock (.watermark key) k

/-- The locks of `commit_table_run`. -/
def commitLocks (c : TableCommit) (now : Timestamp) : RowScript :=
  onWatermark c.expectedWatermark.key (HoldsLease c.leaseOwner now) <|
    (match c.quarantine with
      | none => id
      | some q => insertingQuarantine (q.row now)) <|
    insertingBronze (c.objectRow now) <|
    onRun c.run.key IsRunning <|
    onWatermark c.expectedWatermark.key c.expectedWatermark.Matches .done

/-- A check that may raise. -/
def orRaise {α : Type} (x : Except Raised α) (k : α → RowScript) : RowScript :=
  match x with
  | .ok a => k a
  | .error _ => .raise

/-- The locks of `reconcile_orphan`, with its lock-free `SELECT`s. -/
def reconcileLocks (objectKey manifestKey : String) (m : ManifestPayload) (now : Timestamp) :
    RowScript :=
  .lock (.pipelineRun m.runKey) fun db =>
    orRaise (lockOrphanRun m db) fun run =>
      .lock (.watermark (run.pipelineName, m.sourceTable)) fun db =>
        orRaise (lockOrphanWatermark m run db) fun watermark =>
          .read fun db =>
            .ensure (db.quarantineBatches.get m.tableBatchId = none) <|
            .ensure (db.bronzeObjects.get m.tableBatchId = none ∧
              ∀ r ∈ db.bronzeObjects.rows, r.objectKey ≠ objectKey) <|
            orRaise (cursorColumn m.watermarkBefore) fun before =>
            orRaise (cursorColumn m.extractUpperBound) fun after =>
            insertingBronze (m.objectRow objectKey manifestKey before after now) <|
            onRun m.runKey (fun _ => True) <|
            onWatermark (run.pipelineName, m.sourceTable)
              (fun r => r.version = watermark.version) .done

/-- The locks of a transaction. -/
def Op.locks : Op → RowScript
  | .getOrCreateWatermark p t _ =>
    .ensure (Named 128 p ∧ Named 64 t) <| lockingWatermark (p, t) fun _ => .done
  | .takeTableLease p t owner now ttl =>
    .ensure (0 < ttl) <| onWatermark (p, t) (LeaseOpenTo owner now) .done
  | .renewTableLease lease now ttl =>
    .ensure (0 < ttl) <| onWatermark lease.key
      (LeaseRenewable lease.ownerId lease.watermarkVersion now) .done
  | .releaseTableLease lease => onWatermark lease.key (LeaseOwnedBy lease.ownerId) .done
  | .commitTableRun c now => commitLocks c now
  | .rewindWatermark p t owner v cursor now =>
    .ensure (Named 128 p ∧ Named 64 t) <| lockingWatermark (p, t) fun db =>
      .ensure ((db.watermarkOrFresh (p, t) now).version = v ∧
        cursorIsEarlier cursor (db.watermarkOrFresh (p, t) now).cursor = .ok true) <|
      onWatermark (p, t) (OwnsAtVersion owner v now) .done
  | .reconcileOrphan o mk m now => reconcileLocks o mk m now
  | .recordStartedRun run _ =>
    .lock (.pipelineRun run.key) fun db => .ensure (db.pipelineRuns.get run.key = none) .done
  | .recordFailedRun run errorType _ _ =>
    .ensure (Named 64 errorType) <| onRun run.key IsRunning .done
  | .recordSuccessNoDataRun run _ =>
    .ensure (run.extractUpperBound = none) <| onRun run.key IsRunning .done
  | .recordSkippedAlreadyCommittedRun run _ _ => onRun run.key IsRunning .done

/-- What its commit does. -/
def Op.effect (op : Op) (db : Db) : Db := (Event.mk db op).after

section Passes

variable {db : Db} {next : RowScript}

theorem passes_orRaise {α : Type} {x : Except Raised α} {k : α → RowScript} :
    (orRaise x k).passes db = true ↔ ∃ a, x = .ok a ∧ (k a).passes db = true := by
  unfold orRaise
  cases x with
  | ok a => simp
  | error e => simp [LockScript.passes]

theorem passes_onWatermark {key : WatermarkKey} {p : WatermarkRow → Prop} [DecidablePred p] :
    (onWatermark key p next).passes db = true ↔
      (∃ row, db.watermarks.get key = some row ∧ p row) ∧ next.passes db = true :=
  LockScript.passes_ensure

theorem passes_onRun {key : PipelineRunKey} {p : PipelineRunRow → Prop} [DecidablePred p] :
    (onRun key p next).passes db = true ↔
      (∃ row, db.pipelineRuns.get key = some row ∧ p row) ∧ next.passes db = true :=
  LockScript.passes_ensure

theorem passes_insertingQuarantine {row : QuarantineBatchRow} :
    (insertingQuarantine row next).passes db = true ↔
      db.quarantineBatches.Free row ∧ next.passes db = true := LockScript.passes_ensure

theorem passes_insertingBronze {row : BronzeObjectRow} :
    (insertingBronze row next).passes db = true ↔
      Db.Fits row ∧ db.bronzeObjects.Free row ∧ next.passes db = true :=
  LockScript.passes_ensure.trans (and_congr_right fun _ => LockScript.passes_ensure)

theorem passes_commitLocks {c : TableCommit} {now : Timestamp} :
    (commitLocks c now).passes db = true ↔ ∃ db', commitTableRun c now db = .ok db' := by
  have hfits : Db.Fits (c.objectRow now) := ⟨c.object.batchNamed.2, c.run.batchNamed.2⟩
  unfold commitLocks
  rw [passes_onWatermark]
  simp only [commitTableRun_eq_ok]
  -- the quarantine row is inserted first and its lock is taken before the others
  cases hq : c.quarantine with
  | none =>
    simp only [id, passes_insertingBronze, passes_onRun, passes_onWatermark]
    constructor
    · rintro ⟨⟨row, hrow, hlease⟩, -, hfree, hrun, ⟨row', hrow', hmatch⟩, -⟩
      obtain rfl : row = row' := Option.some.inj (hrow.symm.trans hrow')
      exact ⟨⟨_, _, db.bronzeObjects.insert _ hfree, db.quarantineBatches⟩,
        ⟨row, hrow, hlease, hmatch⟩, hrun, hfree, by simp [hq], rfl, rfl, rfl, by simp [hq]⟩
    · rintro ⟨db', h⟩
      obtain ⟨row, hrow, hlease, hmatch⟩ := h.watermark
      exact ⟨⟨row, hrow, hlease⟩, hfits, h.objectFree, h.run, ⟨row, hrow, hmatch⟩, rfl⟩
  | some q =>
    simp only [passes_insertingQuarantine, passes_insertingBronze, passes_onRun,
      passes_onWatermark]
    constructor
    · rintro ⟨⟨row, hrow, hlease⟩, hqfree, -, hfree, hrun, ⟨row', hrow', hmatch⟩, -⟩
      obtain rfl : row = row' := Option.some.inj (hrow.symm.trans hrow')
      exact ⟨⟨_, _, db.bronzeObjects.insert _ hfree, db.quarantineBatches.insert _ hqfree⟩,
        ⟨row, hrow, hlease, hmatch⟩, hrun, hfree, by simpa [hq] using hqfree, rfl, rfl, rfl,
        by simp [hq]⟩
    · rintro ⟨db', h⟩
      obtain ⟨row, hrow, hlease, hmatch⟩ := h.watermark
      exact ⟨⟨row, hrow, hlease⟩, h.quarantineFree q hq, hfits, h.objectFree, h.run,
        ⟨row, hrow, hmatch⟩, rfl⟩

theorem passes_reconcileLocks {o mk : String} {m : ManifestPayload} {now : Timestamp} :
    (reconcileLocks o mk m now).passes db = true ↔
      ∃ db', reconcileTransaction o mk m now db = .ok db' := by
  -- first the script alone: what each of its statements asks, in their order
  have hscript : (reconcileLocks o mk m now).passes db = true ↔
      ∃ run, lockOrphanRun m db = .ok run ∧ ∃ w, lockOrphanWatermark m run db = .ok w ∧
        db.quarantineBatches.get m.tableBatchId = none ∧
        (db.bronzeObjects.get m.tableBatchId = none ∧
          ∀ r ∈ db.bronzeObjects.rows, r.objectKey ≠ o) ∧
        ∃ before, cursorColumn m.watermarkBefore = .ok before ∧
        ∃ after, cursorColumn m.extractUpperBound = .ok after ∧
        Db.Fits (m.objectRow o mk before after now) ∧
        db.bronzeObjects.Free (m.objectRow o mk before after now) ∧
        (∃ row, db.pipelineRuns.get m.runKey = some row ∧ True) ∧
        (∃ row, db.watermarks.get (run.pipelineName, m.sourceTable) = some row ∧
          row.version = w.version) ∧ true = true := by
    refine passes_orRaise.trans (exists_congr fun run => and_congr_right fun _ => ?_)
    refine passes_orRaise.trans (exists_congr fun w => and_congr_right fun _ => ?_)
    refine LockScript.passes_ensure.trans (and_congr_right fun _ => ?_)
    refine LockScript.passes_ensure.trans (and_congr_right fun _ => ?_)
    refine passes_orRaise.trans (exists_congr fun before => and_congr_right fun _ => ?_)
    refine passes_orRaise.trans (exists_congr fun after => and_congr_right fun _ => ?_)
    rw [passes_insertingBronze, passes_onRun, passes_onWatermark]
    rfl
  -- then the transaction, whose steps ask the same
  rw [hscript]
  unfold reconcileTransaction
  simp only [bind_eq_ok, require_eq_ok, exists_const, Db.insertBronzeObject_eq_ok,
    Db.updateRunWhere_eq_ok, Db.updateWatermarkWhere_eq_ok]
  constructor
  · rintro ⟨run, hrun, w, hw, hq, hb, before, hbefore, after, hafter, hfits, hfree,
      ⟨row, hrow, -⟩, ⟨row', hrow', hversion⟩, -⟩
    exact ⟨_, run, hrun, w, hw, hq, hb, before, hbefore, after, hafter, _, ⟨hfits, hfree, rfl⟩,
      _, ⟨row, hrow, trivial, rfl⟩, row', hrow', hversion, rfl⟩
  · rintro ⟨db', run, hrun, w, hw, hq, hb, before, hbefore, after, hafter, db₁,
      ⟨hfits, hfree, rfl⟩, db₂, ⟨row, hrow, -, rfl⟩, row', hrow', hversion, -⟩
    exact ⟨run, hrun, w, hw, hq, hb, before, hbefore, after, hafter, hfits, hfree,
      ⟨row, hrow, trivial⟩, ⟨row', hrow', hversion⟩, trivial⟩

theorem passes_rewindLocks {p t : String} {owner : RunId} {v : Nat} {cursor : CursorPosition}
    {now : Timestamp} :
    (Op.locks (.rewindWatermark p t owner v cursor now)).passes db = true ↔
      ∃ db', Op.apply (.rewindWatermark p t owner v cursor now) db = .ok db' := by
  -- the guards in the order the statements run them
  have hscript : (Op.locks (.rewindWatermark p t owner v cursor now)).passes db = true ↔
      (Named 128 p ∧ Named 64 t) ∧ ((db.watermarkOrFresh (p, t) now).version = v ∧
        cursorIsEarlier cursor (db.watermarkOrFresh (p, t) now).cursor = .ok true) ∧
      (∃ row, db.watermarks.get (p, t) = some row ∧ OwnsAtVersion owner v now row) ∧
      true = true := by
    refine LockScript.passes_ensure.trans (and_congr_right fun _ => ?_)
    refine LockScript.passes_ensure.trans (and_congr_right fun _ => ?_)
    exact passes_onWatermark
  rw [hscript]
  simp only [Op.apply, stateOf_eq_ok]
  constructor
  · rintro ⟨⟨hp, ht⟩, ⟨hversion, hearlier⟩, ⟨row, hrow, howns⟩, -⟩
    -- the row is there, so the insert of a fresh one does nothing
    have hdb : db.ensureWatermark (p, t) now = db := by simp [Db.ensureWatermark, hrow]
    unfold rewindWatermark
    simp only [bind_eq_ok, assertNonempty_eq_ok, require_eq_ok, exists_const,
      Db.updateWatermarkWhere_eq_ok, getOrCreateWatermarkRow, hdb]
    exact ⟨_, _, hp, ht, hversion, true, hearlier, rfl, _, ⟨row, hrow, howns, rfl⟩, rfl⟩
  · rintro ⟨db', w, h⟩
    obtain ⟨row, hrow, howns, -, -, -⟩ := rewindWatermark_eq_ok h
    unfold rewindWatermark at h
    simp only [bind_eq_ok, assertNonempty_eq_ok, require_eq_ok, exists_const] at h
    simp only [getOrCreateWatermarkRow] at h
    obtain ⟨hp, ht, hversion, earlier, hearlier, rfl, -⟩ := h
    exact ⟨⟨hp, ht⟩, ⟨hversion, hearlier⟩, ⟨row, hrow, howns⟩, trivial⟩

theorem passes_updateLease {key : WatermarkKey} {p : WatermarkRow → Prop} [DecidablePred p]
    (lease : Option LeaseColumns) (e : Raised) :
    (onWatermark key p .done).passes db = true ↔
      ∃ r, updateLease key p lease e db = .ok r := by
  rw [passes_onWatermark]
  unfold updateLease
  simp only [bind_eq_ok, Db.updateWatermarkWhere_eq_ok]
  constructor
  · rintro ⟨⟨row, hrow, hp⟩, -⟩
    exact ⟨_, _, ⟨row, hrow, hp, rfl⟩, rfl⟩
  · rintro ⟨r, db₁, ⟨row, hrow, hp, -⟩, -⟩
    exact ⟨⟨row, hrow, hp⟩, rfl⟩

theorem passes_finishRunning {run : PipelineRun} (f : PipelineRunRow → PipelineRunRow)
    (hf : ∀ r, (f r).key = r.key) (message : String) :
    (onRun run.key IsRunning .done).passes db = true ↔
      ∃ db', finishRunning run f hf message db = .ok db' := by
  rw [passes_onRun]
  unfold finishRunning
  simp only [Db.updateRunWhere_eq_ok]
  constructor
  · rintro ⟨⟨row, hrow, hp⟩, -⟩
    exact ⟨_, row, hrow, hp, rfl⟩
  · rintro ⟨db', row, hrow, hp, -⟩
    exact ⟨⟨row, hrow, hp⟩, rfl⟩

/-- A transaction that runs alone comes to its end exactly when it returns as one step, so the
order of locks adds nothing to what it does. -/
theorem passes_iff (op : Op) (db : Db) :
    op.locks.passes db = true ↔ ∃ db', op.apply db = .ok db' := by
  cases op with
  -- a statement that inserts where nothing conflicts asks for the lengths only
  | getOrCreateWatermark p t now =>
    refine LockScript.passes_ensure.trans ?_
    simp only [Op.apply, stateOf_eq_ok, getOrCreateWatermark_eq_ok]
    constructor
    · rintro ⟨⟨hp, ht⟩, -⟩
      exact ⟨_, _, hp, ht, rfl, rfl⟩
    · rintro ⟨-, -, hp, ht, -⟩
      exact ⟨⟨hp, ht⟩, rfl⟩
  -- the three lease updates ask for the row in the state their `WHERE` clause names
  | takeTableLease p t owner now ttl =>
    refine (LockScript.passes_ensure.trans (and_congr_right fun _ => passes_updateLease
      (some ⟨owner, now + ttl⟩)
      ⟨.tableLeaseUnavailableError, "Table lease is held for " ++ p ++ "/" ++ t⟩)).trans ?_
    simp only [Op.apply, stateOf_eq_ok, takeTableLease, assertPositiveTtl, bind_eq_ok,
      require_eq_ok, exists_const]
    constructor
    · rintro ⟨httl, r, hr⟩
      exact ⟨r.2, _, httl, r, hr, rfl⟩
    · rintro ⟨db', l, httl, r, hr, -⟩
      exact ⟨httl, r, hr⟩
  | renewTableLease lease now ttl =>
    refine (LockScript.passes_ensure.trans (and_congr_right fun _ => passes_updateLease
      (some ⟨lease.ownerId, now + ttl⟩)
      ⟨.tableLeaseOwnershipLostError, "Table lease ownership was lost before renewal"⟩)).trans ?_
    simp only [Op.apply, stateOf_eq_ok, renewTableLease, assertPositiveTtl, bind_eq_ok,
      require_eq_ok, exists_const]
    constructor
    · rintro ⟨httl, r, hr⟩
      exact ⟨r.2, _, httl, r, hr, rfl⟩
    · rintro ⟨db', l, httl, r, hr, -⟩
      exact ⟨httl, r, hr⟩
  | releaseTableLease lease =>
    refine (passes_updateLease none
      ⟨.tableLeaseOwnershipLostError, "Table lease ownership was lost before release"⟩).trans ?_
    simp only [Op.apply, releaseTableLease, bind_eq_ok]
    constructor
    · rintro ⟨r, hr⟩
      exact ⟨r.2, r, hr, rfl⟩
    · rintro ⟨db', r, hr, -⟩
      exact ⟨r, hr⟩
  | commitTableRun c now => exact passes_commitLocks
  | rewindWatermark p t owner v cursor now => exact passes_rewindLocks
  | reconcileOrphan o mk m now => exact passes_reconcileLocks
  | recordStartedRun run now =>
    refine LockScript.passes_ensure.trans ?_
    simp only [Op.apply, recordStartedRun, Db.insertPipelineRun_eq_ok]
    constructor
    · rintro ⟨hfree, -⟩
      exact ⟨_, hfree, rfl⟩
    · rintro ⟨-, hfree, -⟩
      exact ⟨hfree, rfl⟩
  -- the three ends of a run ask for its row to be `RUNNING`
  | recordFailedRun run errorType message now =>
    refine (LockScript.passes_ensure.trans (and_congr_right fun _ => passes_finishRunning
      (.fail errorType message now) (PipelineRunRow.fail_key errorType message now)
      "Only a RUNNING pipeline run can fail")).trans ?_
    simp only [Op.apply, recordFailedRun, bind_eq_ok, assertNonempty_eq_ok, exists_const,
      exists_and_left]
  | recordSuccessNoDataRun run now =>
    refine (LockScript.passes_ensure.trans (and_congr_right fun _ => passes_finishRunning
      (.noData now) (PipelineRunRow.noData_key now)
      "Only a RUNNING pipeline run can finish with no data")).trans ?_
    simp only [Op.apply, recordSuccessNoDataRun, bind_eq_ok, require_eq_ok, exists_const,
      exists_and_left]
  | recordSkippedAlreadyCommittedRun run n now =>
    exact passes_finishRunning (.skip n now) (PipelineRunRow.skip_key n now) _

end Passes

/-! ## The order of the locks -/

/-- The run a `commit_table_run` ends. -/
def Op.commits : Op → Option PipelineRunKey
  | .commitTableRun c _ => some c.run.key
  | _ => none

/-- The run a `reconcile_orphan` ends. -/
def Op.reconciles : Op → Option PipelineRunKey
  | .reconcileOrphan _ _ m _ => some m.runKey
  | _ => none

/-- A row the transaction locks out of turn: the run of a reconciliation. -/
def Op.OutOfTurn (op : Op) (row : LockedRow) : Prop :=
  ∃ key, op.reconciles = some key ∧ row = .pipelineRun key

/-- A lock in turn: upward in the rank, or held already, or the run of a reconciliation. Who
locks a run with another lock in hand is about to commit it. -/
structure LocksInTurn (op : Op) (held : List LockedRow) (row : LockedRow) : Prop where
  inTurn : InTurn LockedRow.rank op.OutOfTurn held row
  run : ∀ key, row = .pipelineRun key → held = [] ∨ row ∈ held ∨ op.commits = some key

section InTurn

variable {op : Op} {held : List LockedRow} {row : LockedRow} {next : RowScript}

theorem LocksInTurn.first : LocksInTurn op [] row where
  inTurn := .inr fun _ h => absurd h List.not_mem_nil
  run := fun _ _ => .inl rfl

theorem LocksInTurn.again (h : row ∈ held) : LocksInTurn op held row where
  inTurn := .inl h
  run := fun _ _ => .inr (.inl h)

theorem LocksInTurn.above (h : ∀ r ∈ held, op.OutOfTurn r ∨ r.rank < row.rank)
    (hrun : row.rank < 5) : LocksInTurn op held row where
  inTurn := .inr h
  run := by
    rintro key rfl
    simp at hrun

/-- A script whose locks are in turn with these rows in hand. -/
abbrev Orderly (op : Op) (held : List LockedRow) (x : RowScript) : Prop :=
  x.Locks (LocksInTurn op) held

theorem orderly_onWatermark {key : WatermarkKey} {p : WatermarkRow → Prop} [DecidablePred p]
    (h : LocksInTurn op held (.watermark key)) (hnext : Orderly op (.watermark key :: held) next) :
    Orderly op held (onWatermark key p next) :=
  ⟨h, fun _ => LockScript.Locks.ensure fun _ => hnext⟩

theorem orderly_onRun {key : PipelineRunKey} {p : PipelineRunRow → Prop} [DecidablePred p]
    (h : LocksInTurn op held (.pipelineRun key))
    (hnext : Orderly op (.pipelineRun key :: held) next) :
    Orderly op held (onRun key p next) :=
  ⟨h, fun _ => LockScript.Locks.ensure fun _ => hnext⟩

theorem orderly_lockingWatermark {key : WatermarkKey} {k : Db → RowScript}
    (h : LocksInTurn op held (.watermark key))
    (hk : ∀ db, Orderly op (.watermark key :: .watermark key :: held) (k db)) :
    Orderly op held (lockingWatermark key k) :=
  ⟨h, fun _ => ⟨.again List.mem_cons_self, hk⟩⟩

theorem orderly_insertingQuarantine {row : QuarantineBatchRow}
    (h : ∀ r ∈ held, op.OutOfTurn r ∨ r.rank < 1)
    (hnext : Orderly op (.quarantineObject row.objectKey ::
      .quarantineBatch row.tableBatchId :: held) next) :
    Orderly op held (insertingQuarantine row next) := by
  refine ⟨.above h (by simp), fun _ => ⟨.above ?_ (by simp), fun _ => .ensure fun _ => hnext⟩⟩
  intro r hr
  rcases List.mem_cons.1 hr with rfl | hr
  · exact .inr (by simp)
  · exact (h r hr).imp_right Nat.lt_succ_of_lt

theorem orderly_insertingBronze {row : BronzeObjectRow}
    (h : ∀ r ∈ held, op.OutOfTurn r ∨ r.rank < 3)
    (hnext : Orderly op (.bronzeObject row.objectKey :: .bronzeBatch row.tableBatchId :: held)
      next) :
    Orderly op held (insertingBronze row next) := by
  refine .ensure fun _ => ⟨.above h (by simp), fun _ => ⟨.above ?_ (by simp), fun _ =>
    .ensure fun _ => hnext⟩⟩
  intro r hr
  rcases List.mem_cons.1 hr with rfl | hr
  · exact .inr (by simp)
  · exact (h r hr).imp_right Nat.lt_succ_of_lt

theorem orderly_orRaise {α : Type} {x : Except Raised α} {k : α → RowScript}
    (h : ∀ a, Orderly op held (k a)) : Orderly op held (orRaise x k) := by
  unfold orRaise
  cases x with
  | ok a => exact h a
  | error e => trivial

end InTurn

/-- `commit_table_run` locks upward: watermark, quarantine, object, run. -/
theorem commitLocks_orderly (c : TableCommit) (now : Timestamp) :
    Orderly (.commitTableRun c now) [] (commitLocks c now) := by
  have hrun : ∀ held, (∀ r ∈ held, r.rank < 5) → LockedRow.watermark c.expectedWatermark.key ∈ held →
      Orderly (.commitTableRun c now) held (onRun c.run.key IsRunning <|
        onWatermark c.expectedWatermark.key c.expectedWatermark.Matches .done) := by
    intro held hheld hwatermark
    refine orderly_onRun ⟨.inr fun r hr => .inr (hheld r hr), ?_⟩ ?_
    · rintro key ⟨⟩
      exact .inr (.inr rfl)
    · exact orderly_onWatermark (.again (List.mem_cons_of_mem _ hwatermark)) trivial
  refine orderly_onWatermark .first ?_
  cases c.quarantine with
  | none =>
    refine orderly_insertingBronze (by simp) (hrun _ ?_ ?_)
    · simp
    · simp
  | some q =>
    refine orderly_insertingQuarantine (by simp) (orderly_insertingBronze (by simp) (hrun _ ?_ ?_))
    · simp
    · simp

/-- `reconcile_orphan` locks upward but for its run. -/
theorem reconcileLocks_orderly (o mk : String) (m : ManifestPayload) (now : Timestamp) :
    Orderly (.reconcileOrphan o mk m now) [] (reconcileLocks o mk m now) := by
  have hout : Op.OutOfTurn (.reconcileOrphan o mk m now) (.pipelineRun m.runKey) :=
    ⟨m.runKey, rfl, rfl⟩
  refine ⟨.first, fun _ => orderly_orRaise fun run => ⟨.above ?_ (by simp), fun _ => ?_⟩⟩
  · intro r hr
    rw [List.mem_singleton.1 hr]
    exact .inl hout
  refine orderly_orRaise fun w db => .ensure fun _ => .ensure fun _ => ?_
  refine orderly_orRaise fun before => orderly_orRaise fun after => ?_
  refine orderly_insertingBronze ?_ (orderly_onRun (.again (by simp)) ?_)
  · intro r hr
    rcases List.mem_cons.1 hr with rfl | hr
    · exact .inr (by simp)
    · rw [List.mem_singleton.1 hr]
      exact .inl hout
  · exact orderly_onWatermark (.again (by simp)) trivial

/-- Every transaction locks in turn. -/
theorem locks_orderly (op : Op) : Orderly op [] op.locks := by
  cases op with
  | getOrCreateWatermark p t now =>
    exact .ensure fun _ => orderly_lockingWatermark .first fun _ => trivial
  | takeTableLease p t owner now ttl => exact .ensure fun _ => orderly_onWatermark .first trivial
  | renewTableLease lease now ttl => exact .ensure fun _ => orderly_onWatermark .first trivial
  | releaseTableLease lease => exact orderly_onWatermark .first trivial
  | commitTableRun c now => exact commitLocks_orderly c now
  | rewindWatermark p t owner v cursor now =>
    refine .ensure fun _ => orderly_lockingWatermark .first fun _ => .ensure fun _ => ?_
    exact orderly_onWatermark (.again List.mem_cons_self) trivial
  | reconcileOrphan o mk m now => exact reconcileLocks_orderly o mk m now
  | recordStartedRun run now => exact ⟨.first, fun _ => .ensure fun _ => trivial⟩
  | recordFailedRun run errorType message now =>
    exact .ensure fun _ => orderly_onRun .first trivial
  | recordSuccessNoDataRun run now => exact .ensure fun _ => orderly_onRun .first trivial
  | recordSkippedAlreadyCommittedRun run n now => exact orderly_onRun .first trivial

/-! ## Runs -/

/-- Transactions on the metadata database, statement by statement. -/
abbrev MetadataStep : LockState Db LockedRow Op → LockAct Op → LockState Db LockedRow Op → Prop :=
  LockStep Op.locks Op.effect

/-- No transaction is open. -/
def Db.idle (db : Db) : LockState Db LockedRow Op := ⟨db, fun _ => none⟩

/-- One commits the run the other reconciles. -/
def Clash (a b : Op) : Prop :=
  ∃ key, a.commits = some key ∧ b.reconciles = some key ∨
    a.reconciles = some key ∧ b.commits = some key

/-- A transaction starts while none that clashes with it is open: the condition on the steps of a
run. -/
def Apart : LockAct Op → LockState Db LockedRow Op → Prop
  | .start _ op, s => ∀ q b, s.active q = some b → ¬ Clash op b.task
  | _, _ => True

/-- No two open transactions clash. -/
def AllApart (s : LockState Db LockedRow Op) : Prop :=
  ∀ p q a b, p ≠ q → s.active p = some a → s.active q = some b → ¬ Clash a.task b.task

theorem Clash.symm {a b : Op} (h : Clash a b) : Clash b a := by
  obtain ⟨key, ⟨ha, hb⟩ | ⟨ha, hb⟩⟩ := h
  · exact ⟨key, .inr ⟨hb, ha⟩⟩
  · exact ⟨key, .inl ⟨hb, ha⟩⟩

section Runs

variable {s s' : LockState Db LockedRow Op} {act : LockAct Op}

/-- A step that leaves a transaction with its task, or ends it, keeps them apart. -/
theorem AllApart.set (h : AllApart s) {p : Nat} {a : Option (Active Db LockedRow Op)}
    (ha : ∀ b ∈ a, ∀ q c, q ≠ p → s.active q = some c → ¬ Clash b.task c.task) :
    AllApart (s.set p a) := by
  intro q r b c hne hq hr
  rcases LockState.active_set hq with ⟨rfl, hb⟩ | ⟨hqp, hq'⟩
  · rcases LockState.active_set hr with ⟨rfl, -⟩ | ⟨hrp, hr'⟩
    · exact absurd rfl hne
    · exact ha b hb r c hrp hr'
  · rcases LockState.active_set hr with ⟨rfl, hc⟩ | ⟨hrp, hr'⟩
    · exact fun hclash => ha c hc q b hqp hq' hclash.symm
    · exact h q r b c hne hq' hr'

theorem allApart_step (h : AllApart s) (hstep : Under MetadataStep Apart s act s') :
    AllApart s' := by
  obtain ⟨hstep, hapart⟩ := hstep
  cases hstep with
  | start p op hfree =>
    refine h.set fun b hb q c _ hq => ?_
    cases hb
    exact hapart q c hq
  | lock p hp hfree =>
    refine h.set fun b hb q c hne hq => ?_
    cases hb
    have hapart := h p q _ c hne.symm hp hq
    exact hapart
  | read p hp =>
    refine h.set fun b hb q c hne hq => ?_
    cases hb
    have hapart := h p q _ c hne.symm hp hq
    exact hapart
  | commit p hp => exact AllApart.set h fun b hb => by cases hb
  | rollback p => exact h.set fun b hb => by cases hb

/-- Transactions that do not clash do not deadlock. -/
theorem AllApart.not_deadlocked (h : AllApart s) (hexclusive : Exclusive s)
    (horderly : Disciplined LocksInTurn s) : ¬ Deadlocked s := by
  have hinTurn : Disciplined (fun op => InTurn LockedRow.rank op.OutOfTurn) s :=
    fun p a hp => (horderly p a hp).imp fun _ _ hlock => hlock.inTurn
  refine Lib.not_deadlocked hexclusive hinTurn ?_
  rintro p q row a b ⟨a', b', hp, hq, hne, ⟨k, hk⟩, hrow⟩ ha hb ⟨key, hreconciles, rfl⟩
  obtain rfl : a = a' := Option.some.inj (ha.symm.trans hp)
  obtain rfl : b = b' := Option.some.inj (hb.symm.trans hq)
  have hlocks := horderly p a hp
  rw [hk] at hlocks
  rcases hlocks.1.run key rfl with hnone | hheld | hcommits
  · exact hnone
  · exact absurd (hexclusive p q a b _ hp hq hheld hrow) hne.symm
  · exact absurd ⟨key, .inl ⟨hcommits, hreconciles⟩⟩ (h p q a b hne.symm hp hq)

/-- Where no reconciliation of a run overlaps the commit of that run, no state on the way is
a deadlock. -/
theorem metadata_deadlock_free {db : Db} {as : List (LockAct Op)} {s : LockState Db LockedRow Op}
    (heach : EachStep MetadataStep Apart db.idle as s) :
    AlwaysOn MetadataStep (fun s => ¬ Deadlocked s) db.idle as s := by
  refine alwaysOn_of_under heach fun as u hrun => ?_
  have hapart : AllApart u := hrun.invariant (I := AllApart)
    (fun p q a b _ hp => by cases hp) fun _ _ _ h hstep => allApart_step h hstep
  have hexclusive : Exclusive u := hrun.invariant (I := Exclusive)
    (fun p q a b row hp => by cases hp) fun _ _ _ h hstep => exclusive_step h hstep.1
  have horderly : Disciplined LocksInTurn u := hrun.invariant (I := Disciplined LocksInTurn)
    (fun p a hp => by cases hp) fun _ _ _ h hstep => disciplined_step locks_orderly h hstep.1
  exact hapart.not_deadlocked hexclusive horderly

end Runs

/-! The ingestion is alive: it has uploaded its object and is about to commit it. -/

private def hour : CursorPosition := .of 3600 (.text "o-1")

private theorem orders_named : Named 128 "orders_bronze" := by decide

private theorem orders_table_named : Named 64 "orders" := by decide

private theorem orders_object_named : isBlank "bronze/orders/data.parquet" = false := by decide

private theorem orders_manifest_named : isBlank "bronze/orders/manifest.json" = false := by decide

private def liveRun : PipelineRun where
  runId := 7
  pipelineName := "orders_bronze"
  sourceTable := "orders"
  batchId := "hourly__20240101T010000Z"
  logicalDate := 3600000000
  attemptNumber := 1
  watermarkBefore := .initial
  extractUpperBound := some hour
  dagId := some "hourly"
  pipelineNamed := orders_named
  tableNamed := orders_table_named
  batchNamed := by decide
  attempted := Nat.one_pos
  dagNamed := by decide

private def sha : String := String.ofList (List.replicate 64 'a')

private theorem live_pipeline :
    (⟨"orders_bronze", "orders", .initial, 0⟩ : Watermark).pipelineName = liveRun.pipelineName := rfl

private theorem live_table :
    (⟨"orders_bronze", "orders", .initial, 0⟩ : Watermark).sourceTable = liveRun.sourceTable := rfl

private theorem live_cursor :
    (⟨"orders_bronze", "orders", .initial, 0⟩ : Watermark).cursor = liveRun.watermarkBefore := rfl

private theorem live_rejects : ∀ batch ∈ (none : Option QuarantineBatch), batch.rowCount = 0 := by
  simp

private def liveCommit : TableCommit where
  run := liveRun
  object :=
    { tableBatchId := "hourly__20240101T010000Z__orders"
      objectKey := "bronze/orders/data.parquet"
      manifestKey := "bronze/orders/manifest.json"
      schemaVersion := 3
      rowCount := 1
      contentSha256 := sha
      logicalHash := sha
      watermarkAfter := hour
      batchNamed := by decide
      objectNamed := orders_object_named
      manifestNamed := orders_manifest_named
      versioned := Nat.succ_pos 2
      contentHashed := by decide
      logicalHashed := by decide }
  expectedWatermark := ⟨"orders_bronze", "orders", .initial, 0⟩
  rowsExtracted := 1
  rowsValid := 1
  rowsRejected := 0
  rowsLoaded := 1
  leaseOwner := 7
  quarantine := none
  samePipeline := live_pipeline
  sameTable := live_table
  sameCursor := live_cursor
  quarantineBatch := by simp
  quarantineCount := live_rejects

private def liveManifest : ManifestPayload where
  batchId := "hourly__20240101T010000Z"
  runId := 7
  sourceTable := "orders"
  logicalDate := 3600000000
  watermarkBefore := CursorPosition.initial.asMetadataJson
  extractUpperBound := hour.asMetadataJson
  objectKey := "bronze/orders/data.parquet"
  objectSize := 1
  contentSha256 := sha
  logicalHash := sha
  rowCount := 1
  schemaVersion := 3

private def liveDb : Db :=
  { Db.empty with
    watermarks := Db.empty.watermarks.insert
      ⟨"orders_bronze", "orders", .initial, some ⟨7, 100⟩, 0, 0⟩ rfl
    pipelineRuns := Db.empty.pipelineRuns.insert (liveRun.startedRow 0) rfl }

private abbrev committing : Op := .commitTableRun liveCommit 1

private abbrev reconciling : Op :=
  .reconcileOrphan "bronze/orders/data.parquet" "bronze/orders/manifest.json" liveManifest 1

/-- Before any transaction starts. -/
private theorem idle_eq (db : Db) : db.idle = LockState.two db none none := by
  refine congrArg (LockState.mk db) (funext fun q => ?_)
  show none = Function.update (Function.update (fun _ => none) 1 none) 2 none q
  rw [Function.update_eq_self_iff.2 rfl, Function.update_eq_self_iff.2 rfl]

/-- The commit holds the watermark and waits for the run; the reconciliation holds the run
and waits for the watermark. -/
private theorem crossed : ∃ as s, Run MetadataStep liveDb.idle as s ∧ Deadlocked s := by
  rw [idle_eq]
  have h₁ : Run MetadataStep (.two liveDb none none) _ _ := Run.nil.snoc (.first_start committing)
  have h₂ := h₁.snoc (.second_start reconciling)
  have h₃ := h₂.snoc (.first_lock (by rintro b ⟨⟩; simp))
  have h₄ := h₃.snoc (.second_lock (by rintro b ⟨⟩; simp))
  -- the two keys of the object come before the run
  have h₅ := h₄.snoc (.first_lock (by rintro b ⟨⟩; simp))
  have h₆ := h₅.snoc (.first_lock (by rintro b ⟨⟩; simp))
  refine ⟨_, _, h₆, 1, .tail (.single (b := 2) ?_) ?_⟩
  · exact waitsFor_first List.mem_cons_self
  · have hsame : LockedRow.watermark ((liveRun.startedRow 0).pipelineName, liveManifest.sourceTable) =
        .watermark liveCommit.expectedWatermark.key := rfl
    exact waitsFor_second (by simp [hsame])

/-- A commit and the reconciliation of its run can deadlock: each holds what the other wants. -/
theorem metadata_deadlock :
    ¬ ∀ (db : Db) (as : List (LockAct Op)) (s : LockState Db LockedRow Op),
      Run MetadataStep db.idle as s → ¬ Deadlocked s := by
  intro h
  obtain ⟨as, s, hrun, hdead⟩ := crossed
  exact h liveDb as s hrun hdead

/-! An earlier run of the table crashed after it uploaded its object, so its range is still the
one the living run commits. -/

private def crashedRun : PipelineRun where
  runId := 8
  pipelineName := "orders_bronze"
  sourceTable := "orders"
  batchId := "hourly__20240101T000000Z"
  logicalDate := 0
  attemptNumber := 1
  watermarkBefore := .initial
  extractUpperBound := some hour
  dagId := some "hourly"
  pipelineNamed := orders_named
  tableNamed := orders_table_named
  batchNamed := by decide
  attempted := Nat.one_pos
  dagNamed := by decide

private def crashedManifest : ManifestPayload :=
  { liveManifest with batchId := "hourly__20240101T000000Z", runId := 8 }

private theorem crashedRun_free : liveDb.pipelineRuns.get (crashedRun.startedRow 0).key = none := rfl

private def crashedDb : Db :=
  { liveDb with pipelineRuns := liveDb.pipelineRuns.insert (crashedRun.startedRow 0) crashedRun_free }

private abbrev reconcilingCrashed : Op :=
  .reconcileOrphan "bronze/orders/data.parquet" "bronze/orders/manifest.json" crashedManifest 1

/-- Two transactions that do not clash, started one after the other. -/
private theorem apart_two {db : Db} {op op' : Op} {rest : List (LockAct Op)}
    {s : LockState Db LockedRow Op} (hclash : ¬ Clash op' op)
    (hrest : ∀ act ∈ rest, ∀ u, Apart act u) :
    EachStep MetadataStep Apart db.idle (.start 1 op :: .start 2 op' :: rest) s := by
  intro before act after u v has hu _ _
  rcases before with _ | ⟨first, _ | ⟨second, more⟩⟩
  · -- the first starts alone
    obtain ⟨rfl, -⟩ := List.cons.inj has
    rw [hu.nil_inv]
    intro q b hq
    cases hq
  · obtain ⟨hfirst, has⟩ := List.cons.inj has
    obtain ⟨rfl, -⟩ := List.cons.inj has
    rw [← hfirst] at hu
    have hone : Run MetadataStep db.idle ([] ++ [.start 1 op]) u := hu
    obtain ⟨t, ht, hstep⟩ := hone.snoc_inv
    rw [ht.nil_inv] at hstep
    cases hstep
    intro q b hq
    rcases LockState.active_set hq with ⟨-, hb⟩ | ⟨-, hnone⟩
    · cases hb
      exact hclash
    · cases hnone
  · obtain ⟨-, has⟩ := List.cons.inj has
    obtain ⟨-, has⟩ := List.cons.inj has
    exact hrest act (has ▸ List.mem_append_right _ List.mem_cons_self) u

/-- The reconciliation of the crashed run waits for the watermark until the living run has
committed, and then finds that the cursor has moved. -/
theorem metadata_deadlock_free_overlap :
    ∃ (before after : List (LockAct Op)) (u s : LockState Db LockedRow Op),
      Run MetadataStep crashedDb.idle before u ∧ WaitsFor u 2 1 ∧ Run MetadataStep u after s ∧
      AlwaysOn MetadataStep (fun s => ¬ Deadlocked s) crashedDb.idle (before ++ after) s := by
  have hbefore : Run MetadataStep (.two crashedDb none none) _ _ :=
    (((Run.nil.snoc (.first_start committing)).snoc (.second_start reconcilingCrashed)).snoc
      (.first_lock (by rintro b ⟨⟩; simp))).snoc (.second_lock (by rintro b ⟨⟩; simp))
  have hsame : LockedRow.watermark ((crashedRun.startedRow 0).pipelineName,
      crashedManifest.sourceTable) = .watermark liveCommit.expectedWatermark.key := rfl
  have hother : liveCommit.run.key ≠ crashedManifest.runKey := by decide
  have hfrom : ∀ {as t}, Run MetadataStep (.two crashedDb none none) as t →
      Run MetadataStep t [] t := fun _ => .nil
  have h₁ := (hfrom hbefore).snoc (.first_lock (by rintro b ⟨⟩; simp))
  have h₂ := h₁.snoc (.first_lock (by rintro b ⟨⟩; simp))
  have h₃ := h₂.snoc (.first_lock (by rintro b ⟨⟩; simpa using hother))
  have h₄ := h₃.snoc (.first_lock (by rintro b ⟨⟩; simp))
  have h₅ := h₄.snoc .first_commit
  have h₆ := (h₅.snoc (.second_lock (by rintro b ⟨⟩))).snoc .second_rollback
  refine ⟨_, _, _, _, by rw [idle_eq]; exact hbefore, waitsFor_second (by simp [hsame]), h₆, ?_⟩
  refine metadata_deadlock_free (apart_two ?_ ?_)
  · rintro ⟨key, ⟨-, h⟩ | ⟨h, h'⟩⟩
    · cases h
    · exact absurd (Option.some.inj (h.trans h'.symm)) (by decide)
  · simp [Apart]

end CommercePlatform
