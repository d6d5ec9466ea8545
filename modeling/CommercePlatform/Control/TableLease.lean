import CommercePlatform.Control.Metadata
/-!
# Table leases

The table-lease transactions of `src/ingestion/control/lease.py`. A lease lives on the
watermark row: owner and expiry, with the watermark's version as fencing token.
`acquire_table_lease` is two transactions, `get_or_create_watermark` and the conditional
`UPDATE` modelled by `takeTableLease`; other processes may run in between, and a rewind
that does so is what a caller's later check has to find.

All three updates have one shape, a condition on the row and new lease columns, and are
written as `updateLease` applied to their condition; so is what they did when they
returned (`updateLease_eq_ok`): the row was there under the condition, and only its
lease changed. Nothing in this module touches a cursor or a version.

Mirroring notes vs the source:
- `renew_table_lease` and `assert_table_lease` compare the watermark's version,
  acquiring and releasing do not. A release after a commit therefore succeeds where a
  renewal raises.
- `assert_table_lease` reads without a lock, outside a transaction.
- Times are UTC by type, so the checks of `_utc_now` are left out;
  `_assert_positive_ttl` is kept, as its argument is the caller's.
-/

namespace CommercePlatform

open Lib

/-- `TableLease`: a snapshot of the ownership of one table's lease. -/
structure TableLease where
  pipelineName : String
  sourceTable : String
  ownerId : RunId
  leaseExpiresAt : Timestamp
  watermarkVersion : Nat
deriving DecidableEq

def TableLease.key (l : TableLease) : WatermarkKey := (l.pipelineName, l.sourceTable)

/-- `DEFAULT_TABLE_LEASE_TTL`: thirty minutes. -/
def defaultTableLeaseTtl : Int := 30 * 60 * 1000000

/-- `_assert_positive_ttl`. -/
def assertPositiveTtl (ttl : Int) : Except Raised Unit :=
  require (0 < ttl) ⟨.valueError, "Table lease ttl must be greater than zero"⟩

/-- `lease_owner IS NULL OR lease_expires_at <= now OR lease_owner = owner`. -/
def LeaseOpenTo (owner : RunId) (now : Timestamp) (r : WatermarkRow) : Prop :=
  ∀ l ∈ r.lease, l.expiresAt ≤ now ∨ l.owner = owner

instance (owner : RunId) (now : Timestamp) : DecidablePred (LeaseOpenTo owner now) :=
  fun _ => inferInstanceAs (Decidable (∀ _ ∈ _, _))

/-- `lease_owner = owner AND lease_expires_at > now AND version = version`. -/
def LeaseRenewable (owner : RunId) (version : Nat) (now : Timestamp) (r : WatermarkRow) : Prop :=
  HoldsLease owner now r ∧ r.version = version

instance (owner : RunId) (version : Nat) (now : Timestamp) :
    DecidablePred (LeaseRenewable owner version now) :=
  fun _ => inferInstanceAs (Decidable (_ ∧ _))

/-- `lease_owner = owner`, expired or not. -/
def LeaseOwnedBy (owner : RunId) (r : WatermarkRow) : Prop :=
  ∃ l ∈ r.lease, l.owner = owner

instance (owner : RunId) : DecidablePred (LeaseOwnedBy owner) :=
  fun _ => inferInstanceAs (Decidable (∃ _ ∈ _, _))

/-- `UPDATE watermarks SET <lease> … RETURNING version`, in a transaction of its own. -/
def updateLease (key : WatermarkKey) (p : WatermarkRow → Prop) [DecidablePred p]
    (lease : Option LeaseColumns) (e : Raised) (db : Db) : Except Raised (Nat × Db) := do
  let db ← db.updateWatermarkWhere key p (.withLease lease) (WatermarkRow.withLease_key lease) e
  return (((db.watermarks.get key).map WatermarkRow.version).getD 0, db)

/-- The second transaction of `acquire_table_lease`: the row must be free, expired or the owner's
own, and its version is the lease's token. -/
def takeTableLease (pipelineName sourceTable : String) (ownerId : RunId) (now : Timestamp)
    (ttl : Int) (db : Db) : Except Raised (TableLease × Db) := do
  assertPositiveTtl ttl
  let expiresAt := now + ttl
  let (version, db) ← updateLease (pipelineName, sourceTable) (LeaseOpenTo ownerId now)
    (some ⟨ownerId, expiresAt⟩)
    ⟨.tableLeaseUnavailableError, "Table lease is held for " ++ pipelineName ++ "/" ++ sourceTable⟩
    db
  return (⟨pipelineName, sourceTable, ownerId, expiresAt, version⟩, db)

/-- `renew_table_lease`. -/
def renewTableLease (lease : TableLease) (now : Timestamp) (ttl : Int) (db : Db) :
    Except Raised (TableLease × Db) := do
  assertPositiveTtl ttl
  let expiresAt := now + ttl
  let (version, db) ← updateLease lease.key
    (LeaseRenewable lease.ownerId lease.watermarkVersion now) (some ⟨lease.ownerId, expiresAt⟩)
    ⟨.tableLeaseOwnershipLostError, "Table lease ownership was lost before renewal"⟩ db
  return ({ lease with leaseExpiresAt := expiresAt, watermarkVersion := version }, db)

/-- `assert_table_lease`: reads only. -/
def assertTableLease (lease : TableLease) (now : Timestamp) (db : Db) : Except Raised Unit :=
  require (∃ row ∈ db.watermarks.get lease.key,
      LeaseRenewable lease.ownerId lease.watermarkVersion now row)
    ⟨.tableLeaseOwnershipLostError, "Table lease ownership was lost"⟩

/-- `release_table_lease`: the owner alone decides, expired or not and at any version. -/
def releaseTableLease (lease : TableLease) (db : Db) : Except Raised Db := do
  let (_, db) ← updateLease lease.key (LeaseOwnedBy lease.ownerId) none
    ⟨.tableLeaseOwnershipLostError, "Table lease ownership was lost before release"⟩ db
  return db

/-! ## What the three updates did when they returned -/

/-- A lease update that returned found its row under its condition and changed only the lease of
that row. -/
theorem updateLease_eq_ok {key : WatermarkKey} {p : WatermarkRow → Prop} [DecidablePred p]
    {lease : Option LeaseColumns} {e : Raised} {db db' : Db} {v : Nat}
    (h : updateLease key p lease e db = .ok (v, db')) :
    ∃ row, db.watermarks.get key = some row ∧ p row ∧ v = row.version ∧
      db' = { db with
        watermarks := db.watermarks.modify key (.withLease lease)
          (WatermarkRow.withLease_key lease) } := by
  unfold updateLease at h
  simp only [bind_eq_ok, Db.updateWatermarkWhere_eq_ok] at h
  obtain ⟨db₁, ⟨row, hrow, hp, rfl⟩, hret⟩ := h
  simp only [Table.get_modify_self, hrow, Option.map_some, Option.getD_some] at hret
  injection hret with hret
  obtain ⟨rfl, rfl⟩ := Prod.mk.inj hret
  exact ⟨row, hrow, hp, rfl, rfl⟩

/-- Every lease transaction that returned is such an update. -/
def LeaseUpdated (key : WatermarkKey) (p : WatermarkRow → Prop) (lease : Option LeaseColumns)
    (db db' : Db) : Prop :=
  ∃ row, db.watermarks.get key = some row ∧ p row ∧
    db' = { db with
      watermarks := db.watermarks.modify key (.withLease lease)
        (WatermarkRow.withLease_key lease) }

theorem takeTableLease_eq_ok {p t : String} {owner : RunId} {now : Timestamp} {ttl : Int}
    {db db' : Db} {l : TableLease} (h : takeTableLease p t owner now ttl db = .ok (l, db')) :
    LeaseUpdated (p, t) (LeaseOpenTo owner now) (some ⟨owner, now + ttl⟩) db db' := by
  unfold takeTableLease assertPositiveTtl at h
  simp only [bind_eq_ok, require_eq_ok, exists_const] at h
  obtain ⟨-, ⟨v, db₁⟩, hupd, hret⟩ := h
  injection hret with hret
  obtain ⟨-, rfl⟩ := Prod.mk.inj hret
  obtain ⟨row, hrow, hp, -, hdb⟩ := updateLease_eq_ok hupd
  exact ⟨row, hrow, hp, hdb⟩

theorem renewTableLease_eq_ok {lease l : TableLease} {now : Timestamp} {ttl : Int}
    {db db' : Db} (h : renewTableLease lease now ttl db = .ok (l, db')) :
    LeaseUpdated lease.key (LeaseRenewable lease.ownerId lease.watermarkVersion now)
      (some ⟨lease.ownerId, now + ttl⟩) db db' := by
  unfold renewTableLease assertPositiveTtl at h
  simp only [bind_eq_ok, require_eq_ok, exists_const] at h
  obtain ⟨-, ⟨v, db₁⟩, hupd, hret⟩ := h
  injection hret with hret
  obtain ⟨-, rfl⟩ := Prod.mk.inj hret
  obtain ⟨row, hrow, hp, -, hdb⟩ := updateLease_eq_ok hupd
  exact ⟨row, hrow, hp, hdb⟩

theorem releaseTableLease_eq_ok {lease : TableLease} {db db' : Db}
    (h : releaseTableLease lease db = .ok db') :
    LeaseUpdated lease.key (LeaseOwnedBy lease.ownerId) none db db' := by
  unfold releaseTableLease at h
  simp only [bind_eq_ok] at h
  obtain ⟨⟨v, db₁⟩, hupd, hret⟩ := h
  obtain ⟨row, hrow, hp, -, hdb⟩ := updateLease_eq_ok hupd
  cases hret
  exact ⟨row, hrow, hp, hdb⟩

end CommercePlatform
