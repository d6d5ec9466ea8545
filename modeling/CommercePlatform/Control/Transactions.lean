import CommercePlatform.Control.WatermarkChain
/-!
# Transactions with their answers

`Op.apply` of `WatermarkChain` is what a metadata transaction does to the database; a
caller also gets a watermark or a lease back. `Op.run` adds the answer, so that a
program that calls transactions (`Ingestion/Service`, `Ingestion/Reprocess`) can go on
with it.

The two are one definition in two shapes, and `Op.apply_eq` says so: they agree on the
database, and an answer is there exactly when the database is. What is known of
transactions as steps of a machine is therefore known of the same transactions called by
a program, and nothing has to be proved twice.
-/

namespace CommercePlatform

/-- What a transaction returns to its caller: a watermark, a lease, or nothing. -/
abbrev Op.Resp : Op → Type
  | .getOrCreateWatermark .. => Watermark
  | .takeTableLease .. => TableLease
  | .renewTableLease .. => TableLease
  | .rewindWatermark .. => Watermark
  | _ => Unit

/-- A transaction without an answer of its own. -/
private def answerUnit (r : Except Raised Db) : Except Raised (Unit × Db) :=
  r.map fun db => ((), db)

/-- Run one transaction. -/
def Op.run : (op : Op) → Db → Except Raised (op.Resp × Db)
  | .getOrCreateWatermark p t now, db => CommercePlatform.getOrCreateWatermark p t now db
  | .takeTableLease p t owner now ttl, db => CommercePlatform.takeTableLease p t owner now ttl db
  | .renewTableLease lease now ttl, db => CommercePlatform.renewTableLease lease now ttl db
  | .releaseTableLease lease, db => answerUnit (CommercePlatform.releaseTableLease lease db)
  | .commitTableRun c now, db => answerUnit (CommercePlatform.commitTableRun c now db)
  | .rewindWatermark p t owner v cursor now, db =>
    CommercePlatform.rewindWatermark p t owner v cursor now db
  | .reconcileOrphan o mk m now, db => answerUnit (reconcileTransaction o mk m now db)
  | .recordStartedRun run now, db => answerUnit (CommercePlatform.recordStartedRun run now db)
  | .recordFailedRun run e msg now, db =>
    answerUnit (CommercePlatform.recordFailedRun run e msg now db)
  | .recordSuccessNoDataRun run now, db =>
    answerUnit (CommercePlatform.recordSuccessNoDataRun run now db)
  | .recordSkippedAlreadyCommittedRun run n now, db =>
    answerUnit (CommercePlatform.recordSkippedAlreadyCommittedRun run n now db)

private theorem stateOf_answerUnit (r : Except Raised Db) : stateOf (answerUnit r) = r := by
  cases r <;> rfl

/-- The two agree on the database: running without the answer is running and forgetting it. -/
theorem Op.apply_eq (op : Op) (db : Db) : op.apply db = stateOf (op.run db) := by
  cases op with
  | releaseTableLease lease => exact (stateOf_answerUnit _).symm
  | commitTableRun c now => exact (stateOf_answerUnit _).symm
  | reconcileOrphan o mk m now => exact (stateOf_answerUnit _).symm
  | recordStartedRun run now => exact (stateOf_answerUnit _).symm
  | recordFailedRun run e msg now => exact (stateOf_answerUnit _).symm
  | recordSuccessNoDataRun run now => exact (stateOf_answerUnit _).symm
  | recordSkippedAlreadyCommittedRun run n now => exact (stateOf_answerUnit _).symm
  | _ => rfl

theorem Op.apply_of_run {op : Op} {db db' : Db} {a : op.Resp} (h : op.run db = .ok (a, db')) :
    op.apply db = .ok db' := by
  rw [op.apply_eq, h]
  rfl

end CommercePlatform
