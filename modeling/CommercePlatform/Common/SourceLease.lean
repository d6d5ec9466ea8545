import CommercePlatform.Common.Calendar
import CommercePlatform.Control.Metadata
/-!
# The global source mutation lease

`src/common/lease.py`: one row of the pipeline database says who may touch the Source
database, a generator that writes it or a warehouse run that reads it. The row carries a
version. Taking the lease over and giving it back raise the version, renewing does not,
so an owner at a version is a fencing token: once the row has left that version it never
comes back to it.

Each function below is one transaction on the row, which it locks `FOR UPDATE`
(`assert_source_mutation_lease` reads without a lock). `LeaseTable.Later` says what all
of them can do to the row; the fencing argument uses nothing else. It is transitive, so
it holds along any run of lease transactions, and with it a token that was valid at two
moments was the owner at every moment between (`Later.heldBy_iff`).

Mirroring notes vs the source:
- `ensure_source_mutation_lease_metadata` creates the table and is a no-op afterwards;
  the table is there. `RESOURCE_NAME` is the only name used, so the table is one
  optional row.
- An owner without type and id is the empty owner of `_lease_from_row`; no token has an
  empty type, so `OwnedBy` is false of it.
- `fenced_source_commit` holds a share lock while its block runs. The lock is not here
  but in the machine that uses it (`Platform/World`), where the fence is part of the
  state.
- Times are UTC by type, so the checks of `_utc_now` cannot fail and are left out.
-/

namespace CommercePlatform

/-- `GENERATOR_OWNER_TYPE` and `WAREHOUSE_OWNER_TYPE`, the two values
`_assert_owner_type` lets through. -/
inductive OwnerType where
  | generator
  | warehouse
deriving DecidableEq, Repr

def OwnerType.text : OwnerType → String
  | .generator => "GENERATOR"
  | .warehouse => "WAREHOUSE"

/-- `SourceMutationLease`: a snapshot of the ownership, used as fencing token. -/
structure SourceMutationLease where
  ownerType : OwnerType
  ownerId : RunId
  leaseExpiresAt : Timestamp
  version : Nat
deriving DecidableEq, Repr

/-- `owner_type, owner_id, lease_expires_at`, all set
(`source_mutation_leases_owner_check`). -/
structure LeaseHolder where
  ownerType : OwnerType
  ownerId : RunId
  leaseExpiresAt : Timestamp
deriving DecidableEq, Repr

/-- A row of `source_mutation_leases`. -/
structure SourceLeaseRow where
  holder : Option LeaseHolder
  version : Nat
  updatedAt : Timestamp
deriving DecidableEq, Repr

/-- The row at `RESOURCE_NAME`, the only name the table accepts. -/
abbrev LeaseTable := Option SourceLeaseRow

/-- `DEFAULT_LEASE_TTL`: thirty minutes. -/
def defaultLeaseTtl : Int := 30 * 60 * 1000000

/-- `_assert_positive_ttl`. -/
def assertPositiveLeaseTtl (ttl : Int) : Except Raised Unit :=
  require (0 < ttl) ⟨.valueError, "Lease ttl must be greater than zero"⟩

/-- `INSERT INTO source_mutation_leases (resource_name, version, updated_at)`. -/
def SourceLeaseRow.fresh (now : Timestamp) : SourceLeaseRow := ⟨none, 0, now⟩

/-- The owner of the row while `_is_active`. -/
def SourceLeaseRow.activeHolder (row : SourceLeaseRow) (now : Timestamp) : Option LeaseHolder :=
  row.holder.filter fun holder => now < holder.leaseExpiresAt

/-- `_lease_from_row` where the owner is set. -/
def LeaseHolder.lease (holder : LeaseHolder) (version : Nat) : SourceMutationLease :=
  ⟨holder.ownerType, holder.ownerId, holder.leaseExpiresAt, version⟩

/-- The columns an acquisition or a renewal stores. -/
def SourceMutationLease.holder (lease : SourceMutationLease) : LeaseHolder :=
  ⟨lease.ownerType, lease.ownerId, lease.leaseExpiresAt⟩

def leaseHeld (holder : LeaseHolder) : Raised :=
  ⟨.leaseUnavailableError, "Source Mutation Lease is held by " ++ holder.ownerType.text ++ "/" ++
    toString holder.ownerId ++ " until " ++ isoformat holder.leaseExpiresAt⟩

/-- `acquire_source_mutation_lease`: the same owner gets its lease back while it is active, any
other is refused until it expires, and a free or expired row changes hands at the next
version. -/
def acquireSourceMutationLease (ownerType : OwnerType) (ownerId : RunId) (now : Timestamp)
    (ttl : Int) (t : LeaseTable) : Except Raised (SourceMutationLease × LeaseTable) := do
  assertPositiveLeaseTtl ttl
  let current := t.getD (.fresh now)
  match current.activeHolder now with
  | some holder =>
    require (holder.ownerType = ownerType ∧ holder.ownerId = ownerId) (leaseHeld holder)
    return (holder.lease current.version, some current)
  | none =>
    let lease : SourceMutationLease := ⟨ownerType, ownerId, now + ttl, current.version + 1⟩
    return (lease, some ⟨some lease.holder, lease.version, now⟩)

/-- `_locked_lease`, `_read_lease`. -/
def readLease (t : LeaseTable) : Except Raised SourceLeaseRow :=
  match t with
  | none => .error ⟨.runtimeError, "Source Mutation Lease row is missing"⟩
  | some row => .ok row

/-- The owner of the row is the one of the token. A row without owner reads as
the empty owner type, which no token has. -/
def SourceLeaseRow.OwnedBy (row : SourceLeaseRow) (lease : SourceMutationLease) : Prop :=
  ∃ holder ∈ row.holder, holder.ownerType = lease.ownerType ∧ holder.ownerId = lease.ownerId

instance (row : SourceLeaseRow) (lease : SourceMutationLease) : Decidable (row.OwnedBy lease) :=
  inferInstanceAs (Decidable (∃ _ ∈ _, _))

/-- `_assert_current_lease`: owner, version and expiry, in this order. -/
def assertCurrentLease (current : SourceLeaseRow) (expected : SourceMutationLease)
    (now : Timestamp) : Except Raised Unit := do
  require (current.OwnedBy expected) ⟨.leaseOwnershipLostError, "Lease owner changed"⟩
  require (current.version = expected.version)
    ⟨.leaseOwnershipLostError, "Lease version changed"⟩
  require ((current.activeHolder now).isSome) ⟨.leaseOwnershipLostError, "Lease expired"⟩

/-- `assert_source_mutation_lease`; also the check `fenced_source_commit` makes
under its share lock. -/
def assertSourceMutationLease (lease : SourceMutationLease) (now : Timestamp) (t : LeaseTable) :
    Except Raised Unit := do
  let current ← readLease t
  assertCurrentLease current lease now

/-- `renew_source_mutation_lease`. -/
def renewSourceMutationLease (lease : SourceMutationLease) (now : Timestamp) (ttl : Int)
    (t : LeaseTable) : Except Raised (SourceMutationLease × LeaseTable) := do
  assertPositiveLeaseTtl ttl
  let current ← readLease t
  assertCurrentLease current lease now
  let renewed := { lease with leaseExpiresAt := now + ttl }
  return (renewed, some { current with holder := some renewed.holder, updatedAt := now })

/-- `release_source_mutation_lease`: the expiry does not matter. -/
def releaseSourceMutationLease (lease : SourceMutationLease) (now : Timestamp) (t : LeaseTable) :
    Except Raised LeaseTable := do
  let current ← readLease t
  require (current.OwnedBy lease)
    ⟨.leaseOwnershipLostError, "Lease owner changed before release"⟩
  require (current.version = lease.version)
    ⟨.leaseOwnershipLostError, "Lease version changed before release"⟩
  return some ⟨none, lease.version + 1, now⟩

/-! ## The row as a fencing token -/

namespace LeaseTable

/-- The version of the row; a missing row is inserted at version 0. -/
def version (t : LeaseTable) : Nat := (t.map SourceLeaseRow.version).getD 0

/-- The owner of the row. -/
def owner (t : LeaseTable) : Option (OwnerType × RunId) :=
  (t.bind SourceLeaseRow.holder).map fun holder => (holder.ownerType, holder.ownerId)

/-- The row is at the token's version and owned by its owner. -/
def HeldBy (t : LeaseTable) (lease : SourceMutationLease) : Prop :=
  t.version = lease.version ∧ t.owner = some (lease.ownerType, lease.ownerId)

/-- What a lease transaction can do: it never lowers the version, and under one version the owner
stays. -/
structure Later (t t' : LeaseTable) : Prop where
  version_le : version t ≤ version t'
  owner_eq : version t' = version t → owner t' = owner t

theorem Later.refl (t : LeaseTable) : Later t t := ⟨Nat.le_refl _, fun _ => rfl⟩

theorem later_of_lt {t t' : LeaseTable} (h : version t < version t') : Later t t' :=
  ⟨Nat.le_of_lt h, fun he => by omega⟩

/-- A row left by its version's owner is never held by that token again: versions only grow, and
a larger version is another token. -/
theorem Later.heldBy_iff {t t' : LeaseTable} {lease : SourceMutationLease} (h : Later t t')
    (hlease : t.HeldBy lease) : t'.HeldBy lease ↔ version t' = version t := by
  obtain ⟨hv, ho⟩ := hlease
  constructor
  · intro h'
    rw [h'.1, hv]
  · intro he
    exact ⟨he.trans hv, (h.owner_eq he).trans ho⟩

end LeaseTable

theorem readLease_eq_ok {t : LeaseTable} {row : SourceLeaseRow} :
    readLease t = .ok row ↔ t = some row := by
  cases t <;> simp [readLease]

/-- The row the owner and version checks were made on is held by the token. -/
theorem heldBy_of_row {row : SourceLeaseRow} {lease : SourceMutationLease}
    (howned : row.OwnedBy lease) (hversion : row.version = lease.version) :
    LeaseTable.HeldBy (some row) lease := by
  obtain ⟨holder, hholder, htype, hid⟩ := howned
  refine ⟨hversion, ?_⟩
  show row.holder.map _ = _
  rw [Option.mem_def.1 hholder, Option.map_some, htype, hid]

/-- A check that passed: the row was held by the token, whatever the clock. -/
theorem heldBy_of_assert {lease : SourceMutationLease} {now : Timestamp} {t : LeaseTable}
    {u : Unit} (h : assertSourceMutationLease lease now t = .ok u) : t.HeldBy lease := by
  unfold assertSourceMutationLease assertCurrentLease at h
  simp only [bind_eq_ok, readLease_eq_ok, require_eq_ok, exists_const] at h
  obtain ⟨row, rfl, howned, hversion, -⟩ := h
  exact heldBy_of_row howned hversion

/-- An acquisition returns a token of the row it leaves, later than before. -/
theorem acquireSourceMutationLease_eq_ok {ownerType : OwnerType} {ownerId : RunId}
    {now : Timestamp} {ttl : Int} {t t' : LeaseTable} {lease : SourceMutationLease}
    (h : acquireSourceMutationLease ownerType ownerId now ttl t = .ok (lease, t')) :
    LeaseTable.Later t t' ∧ t'.HeldBy lease ∧ lease.ownerType = ownerType ∧
      lease.ownerId = ownerId := by
  have hfresh : LeaseTable.version (some (t.getD (.fresh now))) = t.version := by
    cases t <;> rfl
  unfold acquireSourceMutationLease assertPositiveLeaseTtl at h
  simp only [bind_eq_ok, require_eq_ok, exists_const] at h
  obtain ⟨-, h⟩ := h
  split at h
  next holder hactive =>
    -- the active owner is the caller: the row is returned as it stands
    simp only [bind_eq_ok, require_eq_ok, exists_const] at h
    obtain ⟨⟨htype, hid⟩, hret⟩ := h
    injection hret with hret
    obtain ⟨rfl, rfl⟩ := Prod.mk.inj hret
    have hholder : (t.getD (.fresh now)).holder = some holder := Option.eq_some_of_filter_eq_some hactive
    obtain ⟨row, rfl⟩ : ∃ row, t = some row := by
      cases t with
      | none => exact absurd hholder (by simp [SourceLeaseRow.fresh])
      | some row => exact ⟨row, rfl⟩
    refine ⟨LeaseTable.Later.refl _, ⟨rfl, ?_⟩, htype, hid⟩
    show ((some row : LeaseTable).bind SourceLeaseRow.holder).map _ = _
    rw [Option.bind_some, show row.holder = some holder from hholder]
    rfl
  next =>
    injection h with h
    obtain ⟨rfl, rfl⟩ := Prod.mk.inj h
    refine ⟨LeaseTable.later_of_lt ?_, ⟨rfl, rfl⟩, rfl, rfl⟩
    rw [← hfresh]
    exact Nat.lt_succ_self _

theorem renewSourceMutationLease_eq_ok {lease lease' : SourceMutationLease} {now : Timestamp}
    {ttl : Int} {t t' : LeaseTable}
    (h : renewSourceMutationLease lease now ttl t = .ok (lease', t')) :
    LeaseTable.Later t t' := by
  unfold renewSourceMutationLease assertPositiveLeaseTtl assertCurrentLease at h
  simp only [bind_eq_ok, readLease_eq_ok, require_eq_ok, exists_const] at h
  obtain ⟨-, row, rfl, ⟨howned, hversion, -⟩, hret⟩ := h
  injection hret with hret
  obtain ⟨-, rfl⟩ := Prod.mk.inj hret
  refine ⟨Nat.le_refl _, fun _ => ?_⟩
  exact (heldBy_of_row howned hversion).2.symm

theorem releaseSourceMutationLease_eq_ok {lease : SourceMutationLease} {now : Timestamp}
    {t t' : LeaseTable} (h : releaseSourceMutationLease lease now t = .ok t') :
    LeaseTable.Later t t' := by
  unfold releaseSourceMutationLease at h
  simp only [bind_eq_ok, readLease_eq_ok, require_eq_ok, exists_const] at h
  obtain ⟨row, rfl, -, hversion, hret⟩ := h
  injection hret with hret
  subst hret
  refine LeaseTable.later_of_lt ?_
  show row.version < lease.version + 1
  omega

end CommercePlatform
