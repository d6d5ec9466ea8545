import CommercePlatform.Common.SourceLease
import CommercePlatform.Platform.Player
/-!
# One token, one state of the Source

A warehouse run hands the token of its source lease, its owner and its version, to the
ingestions of its tables. The batches of one run are to be one state of the Source: an
order that one table has must not be missing in another because a generator committed in
between. No transaction spans the ingestions, so this rests on the lease alone.

Each ingestion asks for the lease before it opens its snapshot and again before it
commits. A generator commits to the Source while it holds the lease row shared, having
found itself its owner. The version of the row only grows, and it grows whenever the
owner changes. So if the row is at the token at both questions, it was there in between,
and a generator that committed in between would have had to be its owner. The statement
is:

> `sameToken_sameSource`: if two ingestions under one warehouse token both come to their
> `commit_table_run`, the one before the other or with it, they read the same tables.

This holds for every interleaving with generators, other ingestions, reconciliations,
crashes, faults, heartbeats and other users of the lease. The leases may expire, be
renewed, be released and be taken over at any time, and every call may pass any clock as
`now`: only the owner and the version of the row matter.

The proof has the two halves of `Generator.ExactlyOnce`. What a process knows is how
many of its questions were answered (`FenceKnows`), the programs follow the protocol
(`fence_runGenerator`, `fence_ingestTable`), and every step keeps the invariant
(`FenceInv`). Between the halves stands `Advances`, which says of one step of any
process what it may do to the lease row, the Source tables, the fences and the
snapshots:

- the row is later than it was, and while it is at a token the tables stay as they are;
- whoever is in a fence finds a generator owning the row, since no statement can move it
  meanwhile;
- snapshots and fences of other processes are left alone.

Knowledge is stated so that it survives every such step: an ingestion that has asked
twice does not know that the lease is still there, only that its snapshot is the tables
as they are if the row is still at its token. That two ingestions that have asked twice
agree is a field of the invariant and the only one that needs an argument
(`FenceInv.advance`): whoever asks for the second time finds the row at the token, so
both snapshots are the tables as they are now.

`since` is the state of the Source some earlier ingestion of the token has read. It lets
the invariant speak of an ingestion that has left the pool by the time the other one
commits.
-/

namespace CommercePlatform.Platform

open Lib Generator Ingestion

variable {ρ : Type}

/-- Owner and version of a warehouse lease: what `assert_source_mutation_lease` compares besides
the expiry. -/
structure WarehouseToken where
  ownerId : RunId
  version : Nat
deriving DecidableEq, Repr

def tokenOf (lease : SourceMutationLease) : WarehouseToken := ⟨lease.ownerId, lease.version⟩

/-- The version of the lease row. -/
def leaseVersion (w : World ρ) : Nat := LeaseTable.version w.pipeline.sourceLease

/-- The lease row is at the token. Whether the lease is expired does not matter here. -/
def Owned (w : World ρ) (token : WarehouseToken) : Prop :=
  leaseVersion w = token.version ∧
    LeaseTable.owner w.pipeline.sourceLease = some (.warehouse, token.ownerId)

/-- A generator owns the lease row. -/
def GeneratorOwned (w : World ρ) : Prop :=
  ∃ id, LeaseTable.owner w.pipeline.sourceLease = some (.generator, id)

/-- The tables in the snapshot of a process. -/
def snapshotTables (w : World ρ) (p : Nat) : Option (SourceTables ρ) :=
  (w.source.snapshots p).map TableSnapshot.tables

theorem not_owned_of_generatorOwned {w : World ρ} (h : GeneratorOwned w) (token : WarehouseToken) :
    ¬ Owned w token := by
  rintro ⟨-, howner⟩
  obtain ⟨id, hid⟩ := h
  rw [hid] at howner
  cases howner

/-- How far a process is. An ingestion has asked for its token before its snapshot
(`entered`), has the snapshot (`snapped`), and has asked again (`checked`). -/
inductive FenceKnows where
  | aside
  | generating
  | leased (lease : SourceMutationLease)
  | fenced
  | ingesting (args : IngestArgs)
  | entered (args : IngestArgs) (token : WarehouseToken)
  | snapped (args : IngestArgs) (token : WarehouseToken)
  | checked (args : IngestArgs) (token : WarehouseToken)
  | closed (args : IngestArgs)

/-- The arguments of the ingestion. -/
def FenceKnows.args : FenceKnows → Option IngestArgs
  | .ingesting args | .entered args _ | .snapped args _ | .checked args _ | .closed args => some args
  | _ => none

/-- The token is that of the lease the ingestion was given, where it was given one. -/
def Given (args : IngestArgs) (token : WarehouseToken) : Prop :=
  ∀ lease ∈ args.sourceLease, tokenOf lease = token

/-- An operation on neither the lease row nor the Source tables nor a snapshot, and no
commit of an ingestion. -/
def Beside : Effect ρ → Prop
  | .pipeline (.transaction (.commitTableRun ..)) => False
  | .pipeline (.acquireSourceLease ..) => False
  | .pipeline (.assertSourceLease ..) => False
  | .pipeline (.releaseSourceLease ..) => False
  | .pipeline (.enterFence _) => False
  | .pipeline .leaveFence => False
  | .source .commit => False
  | .source (.openSnapshot ..) => False
  | .source .closeSnapshot => False
  | _ => True

/-- The operations a process may come to. A generator commits in the fence only; an ingestion
commits only after its second question, with its snapshot still open. -/
inductive FenceAllowed : FenceKnows → Effect ρ → Prop where
  | beside (k : FenceKnows) (op : Effect ρ) (h : Beside op) : FenceAllowed k op
  | acquireGenerator (id : RunId) (now : Option Timestamp) :
      FenceAllowed .generating (.pipeline (.acquireSourceLease .generator id now))
  | acquireWarehouse (args : IngestArgs) (id : RunId) (now : Option Timestamp) :
      FenceAllowed (.ingesting args) (.pipeline (.acquireSourceLease .warehouse id now))
  | release (k : FenceKnows) (lease : SourceMutationLease) (now : Option Timestamp) :
      FenceAllowed k (.pipeline (.releaseSourceLease lease now))
  | enterFence (lease : SourceMutationLease) :
      FenceAllowed (.leased lease) (.pipeline (.enterFence lease))
  | leaveFence : FenceAllowed .fenced (.pipeline .leaveFence)
  | commit : FenceAllowed .fenced (.source .commit)
  | enter (args : IngestArgs) (lease : SourceMutationLease) (now : Option Timestamp)
      (hgiven : Given args (tokenOf lease)) (htype : lease.ownerType = .warehouse) :
      FenceAllowed (.ingesting args) (.pipeline (.assertSourceLease lease now))
  | openSnapshot (args : IngestArgs) (token : WarehouseToken) (config : TableConfig)
      (watermarkBefore : CursorPosition) (pageSize : Nat) :
      FenceAllowed (.entered args token) (.source (.openSnapshot config watermarkBefore pageSize))
  | check (args : IngestArgs) (lease : SourceMutationLease) (now : Option Timestamp)
      (htype : lease.ownerType = .warehouse) :
      FenceAllowed (.snapped args (tokenOf lease)) (.pipeline (.assertSourceLease lease now))
  | recheck (args : IngestArgs) (lease : SourceMutationLease) (now : Option Timestamp) :
      FenceAllowed (.checked args (tokenOf lease)) (.pipeline (.assertSourceLease lease now))
  | commitTableRun (args : IngestArgs) (token : WarehouseToken) (commit : TableCommit)
      (now : Timestamp) :
      FenceAllowed (.checked args token) (.pipeline (.transaction (.commitTableRun commit now)))
  | closeSnapped (args : IngestArgs) (token : WarehouseToken) :
      FenceAllowed (.snapped args token) (.source .closeSnapshot)
  | closeChecked (args : IngestArgs) (token : WarehouseToken) :
      FenceAllowed (.checked args token) (.source .closeSnapshot)

/-- What a process knows after an answer. An operation that raised teaches nothing. -/
def FenceKnows.next : FenceKnows → (op : Effect ρ) → Except Raised op.Resp → FenceKnows → Prop
  | .generating, .pipeline (.acquireSourceLease ..), .ok lease, k' => k' = .leased lease
  | .leased _, .pipeline (.enterFence _), .ok _, k' => k' = .fenced
  | .fenced, .pipeline .leaveFence, _, k' => k' = .generating
  | .ingesting args, .pipeline (.assertSourceLease lease _), .ok _, k' =>
    k' = .entered args (tokenOf lease)
  | .entered args token, .source (.openSnapshot ..), .ok _, k' => k' = .snapped args token
  | .snapped args token, .pipeline (.assertSourceLease ..), .ok _, k' => k' = .checked args token
  | .snapped args _, .source .closeSnapshot, _, k' => k' = .closed args
  | .checked args _, .source .closeSnapshot, _, k' => k' = .closed args
  | k, _, _, k' => k' = k

def fenceProtocol (ρ : Type) : Protocol (Effect ρ) Effect.Resp Raised FenceKnows where
  allowed := FenceAllowed
  next := FenceKnows.next

/-! ## The programs follow the protocol -/

section Follows

variable {X : Externals ρ} {k k' : FenceKnows}

theorem next_beside {op : Effect ρ} (hop : Beside op) {r : Except Raised op.Resp}
    (h : k.next op r k') : k' = k := by
  cases op with
  | pipeline op => cases op <;> first | exact hop.elim | (cases k <;> exact h)
  | source op => cases op <;> first | exact hop.elim | (cases k <;> exact h)
  | storage op => cases k <;> exact h
  | host op => cases k <;> exact h
  | mutate config lease => cases k <;> exact h

/-- A program beside the fence learns nothing, and may be anywhere in its task. -/
theorem follows_beside {α : Type} {x : Program ρ α} (hx : x.Calls Beside) :
    Follows (fenceProtocol ρ) (fun _ k' => k' = k) (fun _ k' => k' = k) k x :=
  hx.follows (fun op hop => .beside k op hop) fun _ _ _ hop h => next_beside hop h

/-- The same, where the program is followed by another. -/
theorem follows_beside_then {α β : Type} {x : Program ρ α} {f : α → Program ρ β}
    {Q : β → FenceKnows → Prop} {E : Raised → FenceKnows → Prop} (hx : x.Calls Beside)
    (hf : ∀ a, Follows (fenceProtocol ρ) Q E k (f a)) (hE : ∀ e, E e k) :
    Follows (fenceProtocol ρ) Q E k (x >>= f) := by
  refine follows_bind.2 ((follows_beside hx).imp ?_ ?_)
  · rintro a k' rfl
    exact hf a
  · rintro e k' rfl
    exact hE e

/-- One operation, by what is known afterwards. -/
theorem follows_step {op : Effect ρ} (hallowed : FenceAllowed k op)
    {Q : op.Resp → FenceKnows → Prop} {E : Raised → FenceKnows → Prop}
    (hok : ∀ a k', k.next op (.ok a) k' → Q a k')
    (herror : ∀ e k', k.next op (.error e) k' → E e k') :
    Follows (fenceProtocol ρ) Q E k (Script.perform op) :=
  follows_perform.2 ⟨hallowed, hok, herror⟩

theorem follows_checks {α : Type} {r : Except Raised α} {Q : α → FenceKnows → Prop}
    {E : Raised → FenceKnows → Prop} (hok : ∀ a, r = .ok a → Q a k) (herror : ∀ e, E e k) :
    Follows (fenceProtocol ρ) Q E k (Script.ofExcept r) :=
  follows_ofExcept.2 ⟨hok, fun e _ => herror e⟩

theorem assertSourceCursorForward_beside (logicalDate : Timestamp) (tables : List String) :
    (assertSourceCursorForward (ρ := ρ) logicalDate tables).Calls Beside := by
  induction tables with
  | nil => trivial
  | cons table tables ih =>
    refine calls_bind (calls_ofExcept _) fun config => ?_
    refine calls_bind (calls_perform trivial) fun maximum => ?_
    exact calls_bind (calls_ofExcept _) fun _ => ih

variable {config : GeneratorConfig} {id : RunId} {lease : SourceMutationLease}

/-- The body of the Source transaction ends inside the fence. -/
theorem fence_mutateSource :
    Follows (fenceProtocol ρ) (fun _ k => k = .fenced) (fun _ _ => True) (.leased lease)
      (mutateSource X config id lease) := by
  refine follows_beside_then (assertSourceCursorForward_beside _ _) (fun _ => ?_) fun _ => trivial
  refine follows_beside_then (calls_perform trivial) (fun m => ?_) fun _ => trivial
  refine follows_beside_then (calls_perform trivial) (fun _ => ?_) fun _ => trivial
  refine follows_bind.2 (follows_step (.enterFence lease) ?_ fun _ _ _ => trivial)
  rintro _ k rfl
  exact follows_pure.2 rfl

theorem fence_commitToSource :
    Follows (fenceProtocol ρ) (fun _ _ => True) (fun _ _ => True) (.leased lease)
      (commitToSource X config id lease) := by
  have hrollback : ∀ k, Follows (fenceProtocol ρ) (fun _ k' => k' = k) (fun _ k' => k' = k) k
      (source .rollback).suppress := fun k =>
    follows_beside (calls_suppress (calls_perform trivial))
  refine follows_beside_then (calls_perform trivial) (fun _ => ?_) fun _ => trivial
  refine follows_bind.2 (follows_onError.2 (fence_mutateSource.imp ?_ ?_))
  · rintro row k rfl
    have hleave : Follows (fenceProtocol ρ) (fun _ _ => True) (fun _ _ => True) .fenced
        (pipeline .leaveFence) := follows_step .leaveFence (fun _ _ _ => trivial) fun _ _ _ => trivial
    refine follows_bind.2 (follows_onError.2 (follows_step .commit ?_ ?_))
    · rintro _ k rfl
      exact follows_bind.2 (hleave.imp (fun _ _ _ => follows_pure.2 trivial) fun _ _ _ => trivial)
    · rintro e k rfl
      refine follows_bind.2 ((hrollback .fenced).imp ?_ fun _ _ _ => trivial)
      rintro _ k rfl
      exact follows_suppress.2 (hleave.imp (fun _ _ _ => trivial) fun _ _ _ => trivial)
  · intro e k _
    exact (hrollback k).imp (fun _ _ _ => trivial) fun _ _ _ => trivial

theorem fence_runUnderLease :
    Follows (fenceProtocol ρ) (fun _ _ => True) (fun _ _ => True) (.leased lease)
      (runUnderLease X config id lease) := by
  have hrecord : ∀ id status counts hash message k,
      Follows (fenceProtocol ρ) (fun _ _ => True) (fun _ _ => True) k
        (pipeline (.recordFinishedRun id status counts hash message)) := by
    intro id status counts hash message k
    have hbeside : (pipeline (.recordFinishedRun id status counts hash message) :
        Program ρ Unit).Calls Beside := calls_perform trivial
    exact (follows_beside hbeside).imp (fun _ _ _ => trivial) fun _ _ _ => trivial
  refine follows_beside_then (calls_perform trivial) (fun found => ?_) fun _ => trivial
  cases found with
  | some row =>
    exact follows_bind.2 ((hrecord _ _ _ _ _ _).imp (fun _ _ _ => follows_pure.2 trivial)
      fun _ _ _ => trivial)
  | none =>
    refine follows_beside_then (calls_perform trivial) (fun _ => ?_) fun _ => trivial
    refine follows_onError.2 (follows_bind.2 (fence_commitToSource.imp ?_ ?_))
    · intro row k _
      refine follows_bind.2 ((hrecord _ _ _ _ _ _).imp (fun _ _ _ => follows_pure.2 trivial) ?_)
      exact fun e k _ => hrecord _ _ _ _ _ k
    · exact fun e k _ => hrecord _ _ _ _ _ k

theorem fence_runGenerator :
    Follows (fenceProtocol ρ) (fun _ _ => True) (fun _ _ => True) .generating
      (runGenerator X config) := by
  have hsnapshot : (resolveSourceSnapshotId (ρ := ρ)).Calls Beside :=
    calls_bind (calls_perform trivial) fun seed => by cases seed <;> trivial
  refine follows_beside_then hsnapshot (fun _ => ?_) fun _ => trivial
  refine follows_beside_then (calls_ofExcept _) (fun _ => ?_) fun _ => trivial
  refine follows_beside_then (calls_perform trivial) (fun found => ?_) fun _ => trivial
  cases found with
  | some row => exact follows_checks (fun _ _ => trivial) fun _ => trivial
  | none =>
    refine follows_beside_then (calls_perform trivial) (fun id => ?_) fun _ => trivial
    refine follows_bind.2 (follows_step (.acquireGenerator id none) ?_ fun _ _ _ => trivial)
    rintro lease k rfl
    have hrelease : ∀ k, Follows (fenceProtocol ρ) (fun _ _ => True) (fun _ _ => True) k
        (pipeline (.releaseSourceLease lease none)) := fun k =>
      follows_step (.release k lease none) (fun _ _ _ => trivial) fun _ _ _ => trivial
    refine follows_bind.2 (follows_attempt.2 (fence_runUnderLease.imp ?_ ?_))
    · intro result k _
      exact follows_bind.2 ((hrelease k).imp (fun _ _ _ => follows_pure.2 trivial)
        fun _ _ _ => trivial)
    · intro e k _
      exact follows_bind.2 (follows_suppress.2 ((hrelease k).imp (fun _ _ _ => trivial)
        fun _ _ _ => trivial))

theorem beside_of_preparing {op : Effect ρ} (h : op.Preparing) : Beside op := by
  cases op with
  | pipeline op =>
    cases op with
    | transaction op => cases op <;> trivial
    | _ => trivial
  | source op => cases op <;> trivial
  | storage op => trivial
  | host op => trivial
  | mutate config lease => trivial

theorem calls_beside {α : Type} {x : Program ρ α} (hx : x.Calls Effect.Preparing) :
    x.Calls Beside := hx.imp fun _ => beside_of_preparing

variable {args : IngestArgs} {held : Held}

/-- The process is still in its ingestion. -/
def Busy (args : IngestArgs) (k : FenceKnows) : Prop := k.args = some args

/-- A program beside the fence, from anywhere in an ingestion. -/
theorem busy_beside {α : Type} {x : Program ρ α} (hx : x.Calls Beside) (hk : Busy args k) :
    Follows (fenceProtocol ρ) (fun _ k' => Busy args k') (fun _ k' => Busy args k') k x := by
  refine (follows_beside hx).imp ?_ ?_
  · rintro _ k' rfl
    exact hk
  · rintro _ k' rfl
    exact hk

theorem busy_releaseOwned (hk : Busy args k) (lease : SourceMutationLease) (now : Timestamp) :
    Follows (fenceProtocol ρ) (fun _ k' => Busy args k') (fun _ k' => Busy args k') k
      (releaseOwned args lease now) := by
  unfold releaseOwned
  split
  · exact follows_pure.2 hk
  · refine follows_suppress.2 (follows_step (.release k lease (some now)) ?_ ?_)
    · intro _ k' hnext
      have hsame : k' = k := by cases k <;> exact hnext
      rw [hsame]
      exact hk
    · intro _ k' hnext
      have hsame : k' = k := by cases k <;> exact hnext
      rw [hsame]
      exact hk

/-- The lease an ingestion works under is the one it was given. -/
theorem fence_sourceLeaseOf (runId : RunId) (now : Timestamp) :
    Follows (fenceProtocol ρ)
      (fun lease k => k = .ingesting args ∧ Given args (tokenOf lease))
      (fun _ k => k = .ingesting args) (.ingesting args) (sourceLeaseOf args runId now) := by
  unfold sourceLeaseOf
  split
  next lease hlease =>
    refine follows_pure.2 ⟨rfl, fun lease' hlease' => ?_⟩
    rw [hlease] at hlease'
    rw [Option.mem_some_iff.1 hlease']
  next hnone =>
    refine follows_step (.acquireWarehouse args runId (some now)) ?_ fun _ _ h => h
    rintro lease k rfl
    refine ⟨rfl, fun lease' hlease' => ?_⟩
    rw [hnone] at hlease'
    cases hlease'

/-- Asking for the lease, and taking the table lease. -/
theorem fence_tableLeaseUnder (request : TableIngestionRequest) (runId : RunId)
    (hgiven : Given args (tokenOf lease)) (now : Timestamp) :
    Follows (fenceProtocol ρ) (fun _ k => k = .entered args (tokenOf lease) ∧ lease.ownerType = .warehouse)
      (fun _ k => Busy args k) (.ingesting args) (tableLeaseUnder request runId lease now) := by
  refine follows_bind.2 (follows_checks (fun _ hchecked => ?_) fun _ => rfl)
  have htype : lease.ownerType = .warehouse := require_eq_ok.1 hchecked
  refine follows_bind.2 (follows_step (.enter args lease (some now) hgiven htype) ?_ ?_)
  · rintro _ k rfl
    refine follows_beside_then (calls_perform trivial) (fun _ => ?_) fun _ => rfl
    refine (follows_beside (calls_perform (by trivial))).imp ?_ ?_
    · rintro _ k rfl
      exact ⟨rfl, htype⟩
    · rintro _ k rfl
      rfl
  · rintro _ k rfl
    rfl

theorem fence_acquireLeases (watermark : Watermark) (runId : RunId) (now : Timestamp) :
    Follows (fenceProtocol ρ)
      (fun leases k => k = .entered args (tokenOf leases.1) ∧ leases.1.ownerType = .warehouse)
      (fun _ k => Busy args k) (.ingesting args) (acquireLeases args watermark runId now) := by
  have hrecord : ∀ e, (recordPrestartFailure (ρ := ρ) args.request watermark runId e now).Calls
      Beside := fun e => calls_beside (recordPrestartFailure_calls _ _ _ _ _)
  refine follows_bind.2 (follows_onError.2 ((fence_sourceLeaseOf runId now).imp ?_ ?_))
  · rintro lease k ⟨rfl, hgiven⟩
    refine follows_bind.2 (follows_onError.2 ((fence_tableLeaseUnder _ runId hgiven now).imp ?_ ?_))
    · intro tableLease k hk
      exact follows_pure.2 hk
    · intro e k hk
      refine follows_bind.2 ((busy_beside (hrecord e) hk).imp ?_ fun _ _ h => h)
      exact fun _ k hk => busy_releaseOwned hk lease now
  · rintro e k rfl
    exact busy_beside (hrecord e) rfl

/-- An ingestion has its snapshot open. -/
def Snapped (args : IngestArgs) (token : WarehouseToken) (k : FenceKnows) : Prop :=
  k = .snapped args token ∨ k = .checked args token

variable {token : WarehouseToken}

theorem snapped_beside {α : Type} {x : Program ρ α} (hx : x.Calls Beside) (hk : Snapped args token k) :
    Follows (fenceProtocol ρ) (fun _ k' => Snapped args token k') (fun _ k' => Snapped args token k')
      k x := by
  refine (follows_beside hx).imp ?_ ?_
  · rintro _ k' rfl
    exact hk
  · rintro _ k' rfl
    exact hk

/-- Asking again: from a snapshot on, the process knows that the lease was there. -/
theorem fence_assertOwnership (htoken : tokenOf held.sourceLease = token)
    (htype : held.sourceLease.ownerType = .warehouse) (hk : Snapped args token k) :
    Follows (fenceProtocol ρ) (fun _ k => k = .checked args token)
      (fun _ k => Snapped args token k) k (assertOwnership held) := by
  subst htoken
  have hassert : Follows (fenceProtocol ρ) (fun _ k => k = .checked args (tokenOf held.sourceLease))
      (fun _ k => Snapped args (tokenOf held.sourceLease) k) k
      (pipeline (.assertSourceLease held.sourceLease (some held.currentTime))) := by
    rcases hk with rfl | rfl
    · exact follows_step (.check args _ _ htype) (fun _ _ h => h) fun _ _ h => .inl h
    · exact follows_step (.recheck args _ _) (fun _ _ h => h) fun _ _ h => .inr h
  refine follows_beside_then (calls_perform trivial) (fun _ => ?_) fun _ => hk
  refine follows_bind.2 (hassert.imp ?_ fun _ _ h => h)
  rintro _ k rfl
  exact (follows_beside (calls_perform (by trivial))).imp (fun _ _ h => h) fun _ _ h => .inr h

/-- The commit comes after the lease was asked for again. -/
theorem fence_extractAndCommit (request : TableIngestionRequest) (run : PipelineRun)
    (htoken : tokenOf held.sourceLease = token) (htype : held.sourceLease.ownerType = .warehouse) :
    Follows (fenceProtocol ρ) (fun _ k => Snapped args token k) (fun _ k => Snapped args token k)
      (.snapped args token) (extractAndCommit X request held run) := by
  refine follows_beside_then (calls_perform trivial) (fun artifacts => ?_) fun _ => .inl rfl
  refine follows_bind.2 ((fence_assertOwnership htoken htype (.inl rfl)).imp ?_ fun _ _ h => h)
  rintro _ k rfl
  refine follows_beside_then (calls_ofExcept _) (fun _ => ?_) fun _ => .inr rfl
  refine follows_beside_then (calls_beside (publishQuarantine_calls X _ _ _)) (fun quarantine => ?_)
    fun _ => .inr rfl
  refine follows_beside_then (calls_beside (uploadAndVerifyBronze_calls X _ _ _ _)) (fun object => ?_)
    fun _ => .inr rfl
  refine follows_bind.2 ((fence_assertOwnership htoken htype (.inr rfl)).imp ?_ fun _ _ h => h)
  rintro _ k rfl
  refine follows_beside_then (calls_ofExcept _) (fun commit => ?_) fun _ => .inr rfl
  refine follows_bind.2 (follows_step (.commitTableRun args token commit held.currentTime) ?_ ?_)
  · rintro _ k rfl
    exact follows_pure.2 (.inr rfl)
  · exact fun _ _ h => .inr h

theorem fence_ingestRun (request : TableIngestionRequest) (run : PipelineRun)
    (htoken : tokenOf held.sourceLease = token) (htype : held.sourceLease.ownerType = .warehouse) :
    Follows (fenceProtocol ρ) (fun _ k => Snapped args token k) (fun _ k => Snapped args token k)
      (.snapped args token) (ingestRun X request held run) := by
  unfold ingestRun
  split
  · refine snapped_beside ?_ (.inl rfl)
    exact calls_bind (calls_perform trivial) fun _ => calls_bind (calls_perform trivial)
      fun _ => trivial
  · refine follows_onError.2 ((fence_extractAndCommit request run htoken htype).imp (fun _ _ h => h) ?_)
    exact fun e k hk => snapped_beside (calls_suppress (calls_perform trivial)) hk

theorem fence_inSnapshot (request : TableIngestionRequest) (runId : RunId)
    (upper : Option CursorPosition) (htoken : tokenOf held.sourceLease = token)
    (htype : held.sourceLease.ownerType = .warehouse) :
    Follows (fenceProtocol ρ) (fun _ k => Snapped args token k) (fun _ _ => True)
      (.snapped args token) (inSnapshot X request held runId upper) := by
  have hbegin : (Script.attempt (do
      let run ← Script.ofExcept (request.run runId held.watermark.cursor upper)
      metadata (.recordStartedRun run held.currentTime)
      return run) : Program ρ _).Calls Beside :=
    calls_attempt (calls_bind (calls_ofExcept _) fun run => calls_bind (calls_perform trivial)
      fun _ => trivial)
  refine follows_beside_then hbegin (fun begun => ?_) fun _ => trivial
  cases begun with
  | error e => exact follows_pure.2 (.inl rfl)
  | ok run =>
    refine follows_bind.2 (follows_attempt.2 ((fence_ingestRun request run htoken htype).imp ?_ ?_))
    · exact fun _ _ hk => follows_pure.2 hk
    · exact fun _ _ hk => follows_pure.2 hk

/-- After the snapshot is closed the ingestion commits no more. -/
theorem fence_withSnapshot (request : TableIngestionRequest) (runId : RunId)
    (htoken : tokenOf held.sourceLease = token) (htype : held.sourceLease.ownerType = .warehouse) :
    Follows (fenceProtocol ρ) (fun _ k => Busy args k) (fun _ _ => True)
      (.entered args token) (withSnapshot X request held runId) := by
  refine follows_bind.2 (follows_attempt.2 (follows_beside_then (calls_ofExcept _)
    (fun pageSize => ?_) fun _ => follows_pure.2 rfl))
  refine follows_step (.openSnapshot args token _ _ _) ?_ ?_
  · rintro upper k rfl
    have hclose : ∀ k, Snapped args token k → Follows (fenceProtocol ρ) (fun _ k => Busy args k)
        (fun _ k => Busy args k) k (source .closeSnapshot) := by
      intro k hk
      rcases hk with rfl | rfl
      · refine follows_step (.closeSnapped args token) ?_ ?_ <;> rintro _ k rfl <;> rfl
      · refine follows_step (.closeChecked args token) ?_ ?_ <;> rintro _ k rfl <;> rfl
    refine follows_bind.2 ((fence_inSnapshot request runId upper htoken htype).imp ?_
      fun _ _ _ => trivial)
    intro attempted k hk
    exact follows_bind.2 (follows_attempt.2 ((hclose k hk).imp (fun _ _ h => follows_pure.2 h)
      fun _ _ h => follows_pure.2 h))
  · rintro e k rfl
    exact follows_pure.2 rfl

theorem fence_withHeartbeat (runId : RunId) (htoken : tokenOf held.sourceLease = token)
    (htype : held.sourceLease.ownerType = .warehouse) :
    Follows (fenceProtocol ρ) (fun _ _ => True) (fun _ _ => True) (.entered args token)
      (withHeartbeat X args held runId) := by
  refine follows_beside_then (calls_attempt (calls_perform trivial)) (fun started => ?_)
    fun _ => trivial
  cases started with
  | error e => exact follows_pure.2 trivial
  | ok _ =>
    refine follows_bind.2 ((fence_withSnapshot args.request runId htoken htype).imp ?_
      fun _ _ _ => trivial)
    intro attempted k _
    refine follows_beside_then (calls_perform trivial) (fun _ => ?_) fun _ => trivial
    exact follows_beside_then (calls_attempt (calls_perform trivial))
      (fun _ => follows_pure.2 trivial) fun _ => trivial

theorem fence_cleanUp (runId : RunId) (k : FenceKnows) :
    Follows (fenceProtocol ρ) (fun _ _ => True) (fun _ _ => True) k
      (cleanUp (ρ := ρ) args held runId) := by
  refine follows_beside_then (calls_perform trivial) (fun _ => ?_) fun _ => trivial
  refine follows_beside_then (calls_suppress (calls_perform trivial)) (fun _ => ?_) fun _ => trivial
  unfold releaseOwned
  split
  · exact follows_pure.2 trivial
  · exact follows_suppress.2 (follows_step (.release k _ _) (fun _ _ _ => trivial)
      fun _ _ _ => trivial)

theorem fence_ingestUnderLeases (runId : RunId) (htoken : tokenOf held.sourceLease = token)
    (htype : held.sourceLease.ownerType = .warehouse) :
    Follows (fenceProtocol ρ) (fun _ _ => True) (fun _ _ => True) (.entered args token)
      (ingestUnderLeases X args held runId) := by
  have hconclude : ∀ attempted k, Follows (fenceProtocol ρ) (fun _ _ => True) (fun _ _ => True) k
      (concludeAttempt (ρ := ρ) args.request held runId attempted) := by
    intro attempted k
    cases attempted with
    | unstarted e =>
      exact follows_beside_then (calls_beside (recordPrestartFailure_calls _ _ _ _ _))
        (fun _ => trivial) fun _ => trivial
    | failed e => trivial
    | returned result => trivial
  refine follows_always.2 (follows_bind.2 ((fence_withHeartbeat runId htoken htype).imp ?_ ?_))
  · exact fun attempted k _ => (hconclude attempted k).imp (fun _ k _ => fence_cleanUp runId k)
      fun _ k _ => fence_cleanUp runId k
  · exact fun _ k _ => fence_cleanUp runId k

theorem fence_ingestTable :
    Follows (fenceProtocol ρ) (fun _ _ => True) (fun _ _ => True) (.ingesting args)
      (ingestTable X args) := by
  have htime : (currentTimeOf (ρ := ρ) args.now).Calls Beside := by
    unfold currentTimeOf
    split
    · trivial
    · exact calls_perform trivial
  refine follows_beside_then htime (fun now => ?_) fun _ => trivial
  refine follows_beside_then (calls_ofExcept _) (fun config => ?_) fun _ => trivial
  refine follows_beside_then (calls_beside (requestedRunId_calls _)) (fun runId => ?_) fun _ => trivial
  refine follows_beside_then (calls_perform trivial) (fun _ => ?_) fun _ => trivial
  refine follows_beside_then (calls_perform trivial) (fun watermark => ?_) fun _ => trivial
  refine follows_beside_then (calls_ofExcept _) (fun identity => ?_) fun _ => trivial
  refine follows_beside_then (calls_perform trivial) (fun existing => ?_) fun _ => trivial
  cases existing with
  | some existing =>
    exact (follows_beside (calls_beside (reuseOrRejectCommittedBatch_calls _ _ _ _ _))).imp
      (fun _ _ _ => trivial) fun _ _ _ => trivial
  | none =>
    refine follows_bind.2 ((fence_acquireLeases watermark runId now).imp ?_ fun _ _ _ => trivial)
    rintro ⟨lease, tableLease⟩ k ⟨rfl, htype⟩
    exact fence_ingestUnderLeases runId rfl htype

end Follows

/-! ## What a step may do to the lease and the Source -/

/-- What is true of the world where a process knows so much. Each fact stays true under
`Advances`. -/
def FenceKnows.Holds (w : World ρ) (p : Nat) : FenceKnows → Prop
  | .aside | .generating | .ingesting _ | .closed _ => True
  | .leased lease => lease.ownerType = .generator
  | .fenced => p ∈ w.pipeline.fences
  | .entered args token => Given args token ∧ token.version ≤ leaseVersion w
  | .snapped args token | .checked args token =>
    Given args token ∧ token.version ≤ leaseVersion w ∧
      ∃ tables, snapshotTables w p = some tables ∧ (Owned w token → w.source.tables = tables)

/-- A step after which everything known still holds, of all processes but `moved`. -/
structure Advances (moved : Option Nat) (w w' : World ρ) : Prop where
  later : LeaseTable.Later w.pipeline.sourceLease w'.pipeline.sourceLease
  tables : ∀ token, Owned w' token → w'.source.tables = w.source.tables
  fenced : ∀ p ∈ w'.pipeline.fences, GeneratorOwned w'
  fences : ∀ p, some p ≠ moved → p ∈ w.pipeline.fences → p ∈ w'.pipeline.fences
  snapshots : ∀ p, some p ≠ moved → w'.source.snapshots p = w.source.snapshots p

section Advances

variable {moved : Option Nat} {w w' : World ρ} {p : Nat} {token : WarehouseToken}

/-- A token whose version the row has reached is not taken up again: the row at the token now was
at the token before. -/
theorem Advances.owned (h : Advances moved w w') (hversion : token.version ≤ leaseVersion w)
    (howned : Owned w' token) : Owned w token := by
  have hle : leaseVersion w ≤ leaseVersion w' := h.later.version_le
  have heq : leaseVersion w' = leaseVersion w := by
    have := howned.1
    omega
  exact ⟨heq ▸ howned.1, (h.later.owner_eq heq) ▸ howned.2⟩

theorem Advances.holds (h : Advances moved w w') (hp : some p ≠ moved) {k : FenceKnows}
    (hk : k.Holds w p) : k.Holds w' p := by
  have hle : leaseVersion w ≤ leaseVersion w' := h.later.version_le
  have hsnapped : ∀ {args : IngestArgs} {token : WarehouseToken}, Given args token ∧
      token.version ≤ leaseVersion w ∧ (∃ tables, snapshotTables w p = some tables ∧
        (Owned w token → w.source.tables = tables)) →
      Given args token ∧ token.version ≤ leaseVersion w' ∧
        ∃ tables, snapshotTables w' p = some tables ∧ (Owned w' token → w'.source.tables = tables) := by
    rintro args token ⟨hgiven, hversion, tables, htables, howned⟩
    refine ⟨hgiven, hversion.trans hle, tables, ?_, fun howned' => ?_⟩
    · unfold snapshotTables
      rw [h.snapshots p hp]
      exact htables
    · rw [h.tables token howned']
      exact howned (h.owned hversion howned')
  cases k with
  | aside => trivial
  | generating => trivial
  | leased lease => exact hk
  | fenced => exact h.fences p hp hk
  | ingesting args => trivial
  | entered args token => exact ⟨hk.1, hk.2.trans hle⟩
  | snapped args token => exact hsnapped hk
  | checked args token => exact hsnapped hk
  | closed args => trivial

theorem Advances.of_none (h : Advances none w w') (p : Nat) : Advances (some p) w w' :=
  ⟨h.later, h.tables, h.fenced, fun q _ => h.fences q (by simp), fun q _ => h.snapshots q (by simp)⟩

/-- A step that leaves the Source and the fences alone, and may move the lease row on where no
one holds it. Acquiring, renewing and releasing are such steps. -/
theorem advances_lease (hfenced : ∀ p ∈ w.pipeline.fences, GeneratorOwned w)
    (hfences : w'.pipeline.fences = w.pipeline.fences)
    (hlease : w'.pipeline.sourceLease = w.pipeline.sourceLease ∨ w.pipeline.fences = [] ∧
      LeaseTable.Later w.pipeline.sourceLease w'.pipeline.sourceLease)
    (htables : w'.source.tables = w.source.tables)
    (hsnapshots : w'.source.snapshots = w.source.snapshots) : Advances none w w' where
  later := by
    rcases hlease with hsame | ⟨-, hlater⟩
    · rw [hsame]
      exact .refl _
    · exact hlater
  tables := fun _ _ => htables
  fenced := by
    intro p hp
    rw [hfences] at hp
    rcases hlease with hsame | ⟨hempty, -⟩
    · obtain ⟨id, hid⟩ := hfenced p hp
      exact ⟨id, by rw [hsame]; exact hid⟩
    · rw [hempty] at hp
      cases hp
  fences := by
    intro p _ hp
    rw [hfences]
    exact hp
  snapshots := fun p _ => by rw [hsnapshots]

end Advances

section Steps

variable {X : Externals ρ} {F : Faults ρ} {w w' : World ρ} {p : Nat}

theorem pipeline_beside {op : PipelineEffect} (hop : Beside (.pipeline op : Effect ρ))
    (clock : Timestamp) (db : PipelineDb) :
    (op.run p clock db).2.sourceLease = db.sourceLease ∧ (op.run p clock db).2.fences = db.fences := by
  have hunit : ∀ {τ : Type} (put : τ → PipelineDb) (r : Except Raised τ),
      (∀ t, ((put t).sourceLease, (put t).fences) = (db.sourceLease, db.fences)) →
        (outcomeUnit db put r).2.sourceLease = db.sourceLease ∧
          (outcomeUnit db put r).2.fences = db.fences := fun put r hput => by
    have hsame := outcomeUnit_same put (f := fun db : PipelineDb => (db.sourceLease, db.fences))
      hput r
    exact Prod.mk.inj hsame
  cases op with
  | transaction op =>
    have hsame := outcome_same (s := db) (fun m => { db with metadata := m })
      (f := fun db : PipelineDb => (db.sourceLease, db.fences)) (fun _ => rfl)
      (op.run db.metadata)
    exact Prod.mk.inj hsame
  | recordStartedRun id config => exact hunit _ _ fun _ => rfl
  | recordFinishedRun id status counts hash message => exact hunit _ _ fun _ => rfl
  | acquireSourceLease ownerType ownerId now => exact hop.elim
  | assertSourceLease lease now => exact hop.elim
  | releaseSourceLease lease now => exact hop.elim
  | enterFence lease => exact hop.elim
  | leaveFence => exact hop.elim
  | _ => exact ⟨rfl, rfl⟩

theorem source_beside {op : SourceEffect ρ} (hop : Beside (.source op : Effect ρ))
    (s : SourceDb ρ) :
    (op.run X p s).2.tables = s.tables ∧ (op.run X p s).2.snapshots = s.snapshots := by
  cases op with
  | recordSourceCommit row =>
    unfold SourceEffect.run SourceDb.insertMarker
    dsimp only
    split
    · exact ⟨rfl, rfl⟩
    · split
      · split <;> exact ⟨rfl, rfl⟩
      · exact ⟨rfl, rfl⟩
  | openSnapshot config watermarkBefore pageSize => exact hop.elim
  | commit => exact hop.elim
  | closeSnapshot => exact hop.elim
  | _ => exact ⟨rfl, rfl⟩

theorem does_beside (hfenced : ∀ p ∈ w.pipeline.fences, GeneratorOwned w) {op : Effect ρ}
    (hop : Beside op) {r : Except Raised op.Resp} (h : Does X p w op r w') :
    Advances none w w' := by
  cases h with
  | pipeline op h =>
    obtain ⟨hlease, hfences⟩ := pipeline_beside (p := p) hop w.clock w.pipeline
    exact advances_lease hfenced hfences (.inl hlease) rfl rfl
  | source op h =>
    obtain ⟨htables, hsnapshots⟩ := source_beside (X := X) (p := p) hop w.source
    exact advances_lease hfenced rfl (.inl rfl) htables hsnapshots
  | storage op => exact advances_lease hfenced rfl (.inl rfl) rfl rfl
  | host op => cases op <;> exact advances_lease hfenced rfl (.inl rfl) rfl rfl
  | mutate config lease m h => exact advances_lease hfenced rfl (.inl rfl) rfl rfl

theorem does_acquire (hfenced : ∀ p ∈ w.pipeline.fences, GeneratorOwned w) {ownerType : OwnerType}
    {id : RunId} {now : Option Timestamp} {r : Except Raised SourceMutationLease}
    (h : Does X p w (.pipeline (.acquireSourceLease ownerType id now)) r w') :
    Advances none w w' ∧ ∀ lease, r = .ok lease → lease.ownerType = ownerType := by
  have hempty : w.pipeline.fences = [] := List.isEmpty_iff.1 (does_enabled h)
  obtain ⟨rfl, rfl⟩ := does_pipeline h
  simp only [PipelineEffect.run, outcome]
  split
  next lease t hacquired =>
    obtain ⟨hlater, -, htype, -⟩ := acquireSourceMutationLease_eq_ok hacquired
    refine ⟨advances_lease hfenced rfl (.inr ⟨hempty, hlater⟩) rfl rfl, fun lease' he => ?_⟩
    rw [← Except.ok.inj he]
    exact htype
  next => exact ⟨advances_lease hfenced rfl (.inl rfl) rfl rfl, fun lease' he => by cases he⟩

theorem does_release (hfenced : ∀ p ∈ w.pipeline.fences, GeneratorOwned w)
    {lease : SourceMutationLease} {now : Option Timestamp} {r : Except Raised Unit}
    (h : Does X p w (.pipeline (.releaseSourceLease lease now)) r w') : Advances none w w' := by
  have hempty : w.pipeline.fences = [] := List.isEmpty_iff.1 (does_enabled h)
  obtain ⟨-, rfl⟩ := does_pipeline h
  simp only [PipelineEffect.run, outcomeUnit]
  split
  next t hreleased =>
    exact advances_lease hfenced rfl (.inr ⟨hempty, releaseSourceMutationLease_eq_ok hreleased⟩) rfl rfl
  next => exact advances_lease hfenced rfl (.inl rfl) rfl rfl

/-- A generator enters the fence while it owns the row. -/
theorem does_enterFence (hfenced : ∀ p ∈ w.pipeline.fences, GeneratorOwned w)
    {lease : SourceMutationLease} (htype : lease.ownerType = .generator) {r : Except Raised Unit}
    (h : Does X p w (.pipeline (.enterFence lease)) r w') :
    Advances (some p) w w' ∧ ∀ u, r = .ok u → p ∈ w'.pipeline.fences := by
  obtain ⟨rfl, rfl⟩ := does_pipeline h
  simp only [PipelineEffect.run, outcomeUnit]
  split
  next u hassert =>
    have howned : GeneratorOwned w :=
      ⟨lease.ownerId, by rw [(heldBy_of_assert hassert).2, htype]⟩
    refine ⟨⟨.refl _, fun _ _ => rfl, fun q _ => howned, ?_, fun _ _ => rfl⟩, ?_⟩
    · exact fun q _ hq => List.mem_cons_of_mem _ hq
    · exact fun _ _ => List.mem_cons_self
  next => exact ⟨(advances_lease hfenced rfl (.inl rfl) rfl rfl).of_none p, fun u he => by cases he⟩

theorem does_leaveFence (hfenced : ∀ p ∈ w.pipeline.fences, GeneratorOwned w) {r : Except Raised Unit}
    (h : Does X p w (.pipeline .leaveFence) r w') : Advances (some p) w w' := by
  obtain ⟨-, rfl⟩ := does_pipeline h
  refine ⟨.refl _, fun _ _ => rfl, fun q hq => hfenced q (List.mem_of_mem_filter hq), ?_,
    fun _ _ => rfl⟩
  intro q hq hmem
  refine List.mem_filter.2 ⟨hmem, ?_⟩
  have hne : q ≠ p := fun he => hq (he ▸ rfl)
  simp [hne]

/-- Inside the fence a generator owns the row, so no warehouse token is at it and the tables may
change. -/
theorem does_commit (hfenced : ∀ p ∈ w.pipeline.fences, GeneratorOwned w)
    (hp : p ∈ w.pipeline.fences) {r : Except Raised Unit} (h : Does X p w (.source .commit) r w') :
    Advances none w w' := by
  have howned := hfenced p hp
  obtain ⟨-, rfl⟩ := does_source h
  refine ⟨.refl _, fun token htoken => ?_, hfenced, fun _ _ hq => hq, fun q _ => ?_⟩
  · exact absurd htoken (not_owned_of_generatorOwned howned token)
  · show (w.source.commitDraft X p).2.snapshots q = w.source.snapshots q
    unfold SourceDb.commitDraft
    split
    · rfl
    · split
      · rfl
      · split <;> rfl

theorem does_openSnapshot (hfenced : ∀ p ∈ w.pipeline.fences, GeneratorOwned w)
    {config : TableConfig} {watermarkBefore : CursorPosition} {pageSize : Nat}
    {r : Except Raised (Option CursorPosition)}
    (h : Does X p w (.source (.openSnapshot config watermarkBefore pageSize)) r w') :
    Advances (some p) w w' ∧ ∀ upper, r = .ok upper →
      snapshotTables w' p = some w.source.tables ∧ w'.source.tables = w.source.tables := by
  obtain ⟨rfl, rfl⟩ := does_source h
  simp only [SourceEffect.run, SourceDb.openSnapshot]
  split
  next => exact ⟨(advances_lease hfenced rfl (.inl rfl) rfl rfl).of_none p, fun u he => by cases he⟩
  next =>
    split
    next =>
      refine ⟨⟨.refl _, fun _ _ => rfl, hfenced, fun _ _ hq => hq, fun q hq => ?_⟩, fun _ _ => ⟨?_, rfl⟩⟩
      · have hne : q ≠ p := fun he => hq (he ▸ rfl)
        exact Function.update_of_ne hne ..
      · show (Function.update w.source.snapshots p _ p).map TableSnapshot.tables = _
        rw [Function.update_self]
        rfl
    next => exact ⟨(advances_lease hfenced rfl (.inl rfl) rfl rfl).of_none p, fun u he => by cases he⟩

theorem does_closeSnapshot (hfenced : ∀ p ∈ w.pipeline.fences, GeneratorOwned w)
    {r : Except Raised Unit} (h : Does X p w (.source .closeSnapshot) r w') :
    Advances (some p) w w' := by
  obtain ⟨-, rfl⟩ := does_source h
  refine ⟨.refl _, fun _ _ => rfl, hfenced, fun _ _ hq => hq, fun q hq => ?_⟩
  have hne : q ≠ p := fun he => hq (he ▸ rfl)
  exact Function.update_of_ne hne ..

/-- A question that was answered: the row is at the token. -/
theorem does_assertSourceLease {lease : SourceMutationLease} {now : Option Timestamp}
    (htype : lease.ownerType = .warehouse) {r : Except Raised Unit}
    (h : Does X p w (.pipeline (.assertSourceLease lease now)) r w') :
    w' = w ∧ ∀ u, r = .ok u → Owned w (tokenOf lease) := by
  obtain ⟨rfl, rfl⟩ := does_pipeline h
  refine ⟨rfl, fun u hu => ?_⟩
  obtain ⟨hversion, howner⟩ := heldBy_of_assert hu
  exact ⟨hversion, by rw [howner, htype]; rfl⟩

theorem happens_advances (hfenced : ∀ p ∈ w.pipeline.fences, GeneratorOwned w) {e : Happening}
    (h : Happens F w e w') : Advances none w w' := by
  cases h with
  | tick now _ => exact advances_lease hfenced rfl (.inl rfl) rfl rfl
  | beat p heartbeat _ hbeats =>
    cases hbeats with
    | wake _ => exact advances_lease hfenced rfl (.inl rfl) rfl rfl
    | renewSource _ hempty hr =>
      rcases hr.keeps with hsame | ⟨lease, hrenewed⟩
      · exact advances_lease hfenced rfl (.inl hsame) rfl rfl
      · have hlater := renewSourceMutationLease_eq_ok hrenewed
        exact advances_lease hfenced rfl (.inr ⟨hempty, hlater⟩) rfl rfl
    | renewTable _ _ => exact advances_lease hfenced rfl (.inl rfl) rfl rfl
  | lease call hempty => exact advances_lease hfenced rfl (.inr ⟨hempty, call.later _⟩) rfl rfl
  | metadata op _ db _ => exact advances_lease hfenced rfl (.inl rfl) rfl rfl

theorem crash_advances (hfenced : ∀ p ∈ w.pipeline.fences, GeneratorOwned w) (p : Nat) :
    Advances (some p) w (w.crash p) := by
  refine ⟨.refl _, fun _ _ => rfl, fun q hq => hfenced q (List.mem_of_mem_filter hq), ?_, ?_⟩
  · intro q hq hmem
    refine List.mem_filter.2 ⟨hmem, ?_⟩
    have hne : q ≠ p := fun he => hq (he ▸ rfl)
    simp [hne]
  · intro q hq
    have hne : q ≠ p := fun he => hq (he ▸ rfl)
    exact Function.update_of_ne hne ..

end Steps

/-! ## The invariant -/

/-- No generator commits while a warehouse token is at the row, so all who asked twice under one
token have one snapshot. `since` is a token with the tables read under it before. -/
structure FenceInv (since : Option (WarehouseToken × SourceTables ρ)) (tasks : Nat → Option Task)
    (w : World ρ) (knows : Nat → Option FenceKnows) : Prop where
  fenced : ∀ p ∈ w.pipeline.fences, GeneratorOwned w
  known : ∀ p k, knows p = some k → k.Holds w p
  agree : ∀ p q args args' token, knows p = some (.checked args token) →
    knows q = some (.checked args' token) → snapshotTables w p = snapshotTables w q
  since : ∀ s ∈ since, s.1.version ≤ leaseVersion w ∧ (Owned w s.1 → w.source.tables = s.2) ∧
    ∀ p args, knows p = some (.checked args s.1) → snapshotTables w p = some s.2
  tasks : ∀ p args, tasks p = some (.ingest args) → ∃ k, knows p = some k ∧ k.args = some args

section Invariant

variable {since : Option (WarehouseToken × SourceTables ρ)} {tasks tasks' : Nat → Option Task}
  {w w' : World ρ} {knows knows' : Nat → Option FenceKnows} {moved : Option Nat} {p : Nat}

/-- A step keeps the invariant where whoever has now asked twice had done so before, with
the same snapshot, or finds the row at its token. -/
theorem FenceInv.advance (h : FenceInv since tasks w knows) (hadvances : Advances moved w w')
    (hknown : ∀ q k, knows' q = some k → k.Holds w' q)
    (hchecked : ∀ q args token, knows' q = some (.checked args token) → Owned w' token ∨
      (∃ args', knows q = some (.checked args' token)) ∧
        w'.source.snapshots q = w.source.snapshots q)
    (htasks : ∀ q args, tasks' q = some (.ingest args) → ∃ k, knows' q = some k ∧ k.args = some args) :
    FenceInv since tasks' w' knows' where
  fenced := hadvances.fenced
  known := hknown
  agree := by
    -- under a token at the row the snapshot is the tables as they are
    have hnow : ∀ q args token, knows' q = some (.checked args token) → Owned w' token →
        snapshotTables w' q = some w'.source.tables := by
      intro q args token hq howned
      obtain ⟨-, -, tables, htables, htoken⟩ := hknown q _ hq
      rw [htables, htoken howned]
    intro q r args args' token hq hr
    by_cases howned : Owned w' token
    · rw [hnow q _ _ hq howned, hnow r _ _ hr howned]
    · obtain ⟨⟨argsq, hq₀⟩, hsq⟩ := (hchecked q _ _ hq).resolve_left howned
      obtain ⟨⟨argsr, hr₀⟩, hsr⟩ := (hchecked r _ _ hr).resolve_left howned
      unfold snapshotTables
      rw [hsq, hsr]
      exact h.agree q r argsq argsr token hq₀ hr₀
  since := by
    intro s hs
    obtain ⟨hversion, howned, hall⟩ := h.since s hs
    have htables : Owned w' s.1 → w'.source.tables = s.2 := fun howned' => by
      rw [hadvances.tables s.1 howned']
      exact howned (hadvances.owned hversion howned')
    refine ⟨hversion.trans hadvances.later.version_le, htables, fun q args hq => ?_⟩
    rcases hchecked q args s.1 hq with howned' | ⟨⟨args', hq₀⟩, hsame⟩
    · obtain ⟨-, -, tables, hsnapshot, htoken⟩ := hknown q _ hq
      rw [hsnapshot, ← htoken howned', htables howned']
    · unfold snapshotTables
      rw [hsame]
      exact hall q args' hq₀
  tasks := htasks

/-- A step of the world. -/
theorem FenceInv.other (h : FenceInv since tasks w knows) (hadvances : Advances none w w') :
    FenceInv since tasks w' knows := by
  refine h.advance hadvances (fun q k hq => hadvances.holds (by simp) (h.known q k hq)) ?_ h.tasks
  exact fun q args token hq => .inr ⟨⟨args, hq⟩, hadvances.snapshots q (by simp)⟩

/-- A step of process `p`. -/
theorem FenceInv.move (h : FenceInv since tasks w knows) (hadvances : Advances (some p) w w')
    {k : Option FenceKnows} (hk : ∀ k' ∈ k, k'.Holds w' p)
    (hchecked : ∀ args token, k = some (.checked args token) → Owned w' token ∨
      (∃ args', knows p = some (.checked args' token)) ∧
        w'.source.snapshots p = w.source.snapshots p)
    (htask : ∀ args, tasks' p = some (.ingest args) → ∃ k', k = some k' ∧ k'.args = some args)
    (htasks : ∀ q, q ≠ p → tasks' q = tasks q) :
    FenceInv since tasks' w' (Function.update knows p k) := by
  refine h.advance hadvances ?_ ?_ ?_
  · intro q k' hq
    -- the process itself by `hk` and `hchecked`, the others as in a step of the world
    by_cases hqp : q = p
    · subst hqp
      rw [Function.update_self] at hq
      exact hk k' hq
    · rw [Function.update_of_ne hqp] at hq
      exact hadvances.holds (by simpa using hqp) (h.known q k' hq)
  · intro q args token hq
    by_cases hqp : q = p
    · subst hqp
      rw [Function.update_self] at hq
      exact hchecked args token hq
    · rw [Function.update_of_ne hqp] at hq
      exact .inr ⟨⟨args, hq⟩, hadvances.snapshots q (by simpa using hqp)⟩
  · intro q args hq
    by_cases hqp : q = p
    · subst hqp
      rw [Function.update_self]
      exact htask args hq
    · rw [Function.update_of_ne hqp]
      rw [htasks q hqp] at hq
      exact h.tasks q args hq

variable {X : Externals ρ} {F : Faults ρ} {k k' : FenceKnows}

/-- An answer does not change the task. -/
theorem next_args {op : Effect ρ} {r : Except Raised op.Resp} (h : k.next op r k') :
    k'.args = k.args := by
  unfold FenceKnows.next at h
  split at h
  all_goals
    subst h
    rfl

/-- What a process knows after an operation, with the invariant. -/
def FenceKeeps (since : Option (WarehouseToken × SourceTables ρ)) (tasks : Nat → Option Task)
    (knows : Nat → Option FenceKnows) (p : Nat) (k : FenceKnows) (op : Effect ρ)
    (r : Except Raised op.Resp) (w' : World ρ) : Prop :=
  ∃ k', k.next op r k' ∧ FenceInv since tasks w' (Function.update knows p (some k'))

/-- After an operation of process `p` that told it something. -/
theorem fenceKeeps_told (h : FenceInv since tasks w knows) (hp : knows p = some k)
    (hadvances : Advances (some p) w w') {op : Effect ρ} {r : Except Raised op.Resp}
    {n : FenceKnows} (hnext : k.next op r n) (hk : n.Holds w' p)
    (hchecked : ∀ args token, n = .checked args token → Owned w' token ∨
      (∃ args', k = .checked args' token) ∧ w'.source.snapshots p = w.source.snapshots p) :
    FenceKeeps since tasks knows p k op r w' := by
  refine ⟨n, hnext, h.move hadvances ?_ ?_ ?_ fun _ _ => rfl⟩
  · exact fun _ he => Option.mem_some_iff.1 he ▸ hk
  · intro args token he
    rcases hchecked args token (Option.some.inj he) with howned | ⟨⟨args', hargs'⟩, hsame⟩
    · exact .inl howned
    · exact .inr ⟨⟨args', by rw [hp, hargs']⟩, hsame⟩
  · intro args htask
    obtain ⟨k₀, hk₀, hargs⟩ := h.tasks p args htask
    rw [hp] at hk₀
    obtain rfl := Option.some.inj hk₀
    exact ⟨n, rfl, (next_args hnext).trans hargs⟩

/-- After one that told it nothing. -/
theorem fenceKeeps_same (h : FenceInv since tasks w knows) (hp : knows p = some k)
    (hadvances : Advances none w w') {op : Effect ρ} {r : Except Raised op.Resp}
    (hnext : k.next op r k) : FenceKeeps since tasks knows p k op r w' := by
  refine fenceKeeps_told h hp (hadvances.of_none p) hnext
    (hadvances.holds (by simp) (h.known p k hp)) fun args token hk => .inr ⟨⟨args, hk⟩, ?_⟩
  exact hadvances.snapshots p (by simp)

/-- Done or not, an operation advances. -/
theorem exec_advances (hfenced : ∀ p ∈ w.pipeline.fences, GeneratorOwned w) {op : Effect ρ}
    {r : Except Raised op.Resp} (hexec : Exec X F p w op r w')
    (hdoes : ∀ r', Does X p w op r' w' → Advances moved w w') : Advances moved w w' := by
  have hrefl : Advances moved w w :=
    ⟨.refl _, fun _ _ => rfl, hfenced, fun _ _ hq => hq, fun _ _ => rfl⟩
  rcases hexec.ends with hd | ⟨e, -, rfl | ⟨r', hd⟩⟩
  · exact hdoes r hd
  · exact hrefl
  · exact hdoes r' hd

/-- An operation that answered was done. -/
theorem does_of_ok {op : Effect ρ} {a : op.Resp} (hexec : Exec X F p w op (.ok a) w') :
    Does X p w op (.ok a) w' := by
  rcases hexec.ends with hd | ⟨e, he, -⟩
  · exact hd
  · cases he

/-- A question about a warehouse lease: it moves nothing, and an answer means that the row
is at the token. -/
theorem exec_assertSourceLease {lease : SourceMutationLease} {now : Option Timestamp}
    (htype : lease.ownerType = .warehouse) {r : Except Raised Unit}
    (hexec : Exec X F p w (.pipeline (.assertSourceLease lease now)) r w') :
    w' = w ∧ ∀ u, r = .ok u → Owned w' (tokenOf lease) := by
  have hsame : w' = w := by
    rcases hexec.ends with hd | ⟨e, -, hw | ⟨r', hd⟩⟩
    · exact (does_assertSourceLease htype hd).1
    · exact hw
    · exact (does_assertSourceLease htype hd).1
  refine ⟨hsame, ?_⟩
  rintro u rfl
  rw [hsame]
  exact (does_assertSourceLease htype (does_of_ok hexec)).2 u rfl

/-- An operation beside the fence tells a process nothing. -/
theorem fence_beside (h : FenceInv since tasks w knows) (hp : knows p = some k) {op : Effect ρ}
    (hop : Beside op) {r : Except Raised op.Resp} (hexec : Exec X F p w op r w') :
    FenceKeeps since tasks knows p k op r w' := by
  refine fenceKeeps_same h hp
    (exec_advances h.fenced hexec fun _ hd => does_beside h.fenced hop hd) ?_
  cases op with
  | pipeline op => cases op <;> first | exact hop.elim | (cases k <;> rfl)
  | source op => cases op <;> first | exact hop.elim | (cases k <;> rfl)
  | storage op => cases k <;> rfl
  | host op => cases k <;> rfl
  | mutate config lease => cases k <;> rfl

/-- A generator that acquires the lease knows that it is one of a generator. -/
theorem fence_acquireGenerator (h : FenceInv since tasks w knows)
    (hp : knows p = some .generating) {id : RunId} {now : Option Timestamp}
    {r : Except Raised SourceMutationLease}
    (hexec : Exec X F p w (.pipeline (.acquireSourceLease .generator id now)) r w') :
    FenceKeeps since tasks knows p .generating
      (.pipeline (.acquireSourceLease .generator id now)) r w' := by
  have hadvances : Advances none w w' :=
    exec_advances h.fenced hexec fun _ hd => (does_acquire h.fenced hd).1
  cases r with
  | error e => exact fenceKeeps_same h hp hadvances rfl
  | ok lease =>
    have htype : lease.ownerType = .generator :=
      (does_acquire h.fenced (does_of_ok hexec)).2 lease rfl
    exact fenceKeeps_told h hp (hadvances.of_none p) (n := .leased lease) rfl htype
      fun _ _ he => by cases he

/-- The fence of a generator, which was entered or refused. -/
theorem fence_enterFence (h : FenceInv since tasks w knows) {lease : SourceMutationLease}
    (hp : knows p = some (.leased lease)) {r : Except Raised Unit}
    (hexec : Exec X F p w (.pipeline (.enterFence lease)) r w') :
    FenceKeeps since tasks knows p (.leased lease) (.pipeline (.enterFence lease)) r w' := by
  have hk := h.known p _ hp
  have hadvances : Advances (some p) w w' :=
    exec_advances h.fenced hexec fun _ hd => (does_enterFence h.fenced hk hd).1
  cases r with
  | error e =>
    exact fenceKeeps_told h hp hadvances (n := .leased lease) rfl hk fun _ _ he => by cases he
  | ok u =>
    have hmem : p ∈ w'.pipeline.fences := (does_enterFence h.fenced hk (does_of_ok hexec)).2 u rfl
    exact fenceKeeps_told h hp hadvances (n := .fenced) rfl hmem fun _ _ he => by cases he

/-- The first question of an ingestion. -/
theorem fence_enter (h : FenceInv since tasks w knows) {args : IngestArgs}
    (hp : knows p = some (.ingesting args)) {lease : SourceMutationLease} {now : Option Timestamp}
    (hgiven : Given args (tokenOf lease)) (htype : lease.ownerType = .warehouse)
    {r : Except Raised Unit} (hexec : Exec X F p w (.pipeline (.assertSourceLease lease now)) r w') :
    FenceKeeps since tasks knows p (.ingesting args) (.pipeline (.assertSourceLease lease now))
      r w' := by
  obtain ⟨rfl, htold⟩ := exec_assertSourceLease htype hexec
  have hadvances : Advances none w' w' := advances_lease h.fenced rfl (.inl rfl) rfl rfl
  cases r with
  | error e => exact fenceKeeps_same h hp hadvances rfl
  | ok u =>
    have howned := htold u rfl
    exact fenceKeeps_told h hp (hadvances.of_none p) (n := .entered args (tokenOf lease)) rfl
      ⟨hgiven, Nat.le_of_eq howned.1.symm⟩ fun _ _ he => by cases he

/-- The snapshot of an ingestion reads the tables as they are. -/
theorem fence_openSnapshot (h : FenceInv since tasks w knows) {args : IngestArgs}
    {token : WarehouseToken} (hp : knows p = some (.entered args token))
    {config : TableConfig} {watermarkBefore : CursorPosition} {pageSize : Nat}
    {r : Except Raised (Option CursorPosition)}
    (hexec : Exec X F p w (.source (.openSnapshot config watermarkBefore pageSize)) r w') :
    FenceKeeps since tasks knows p (.entered args token)
      (.source (.openSnapshot config watermarkBefore pageSize)) r w' := by
  have hk := h.known p _ hp
  have hadvances : Advances (some p) w w' :=
    exec_advances h.fenced hexec fun _ hd => (does_openSnapshot h.fenced hd).1
  have hversion : token.version ≤ leaseVersion w' := hk.2.trans hadvances.later.version_le
  cases r with
  | error e =>
    exact fenceKeeps_told h hp hadvances (n := .entered args token) rfl ⟨hk.1, hversion⟩
      fun _ _ he => by cases he
  | ok upper =>
    obtain ⟨hsnapshot, htables⟩ := (does_openSnapshot h.fenced (does_of_ok hexec)).2 upper rfl
    exact fenceKeeps_told h hp hadvances (n := .snapped args token) rfl
      ⟨hk.1, hversion, w.source.tables, hsnapshot, fun _ => htables⟩ fun _ _ he => by cases he

/-- The second question, after the snapshot: answered, the row is at the token now. -/
theorem fence_check (h : FenceInv since tasks w knows) {args : IngestArgs}
    {lease : SourceMutationLease} (hp : knows p = some (.snapped args (tokenOf lease)))
    {now : Option Timestamp} (htype : lease.ownerType = .warehouse) {r : Except Raised Unit}
    (hexec : Exec X F p w (.pipeline (.assertSourceLease lease now)) r w') :
    FenceKeeps since tasks knows p (.snapped args (tokenOf lease))
      (.pipeline (.assertSourceLease lease now)) r w' := by
  have hk := h.known p _ hp
  obtain ⟨rfl, htold⟩ := exec_assertSourceLease htype hexec
  have hadvances : Advances none w' w' := advances_lease h.fenced rfl (.inl rfl) rfl rfl
  cases r with
  | error e => exact fenceKeeps_same h hp hadvances rfl
  | ok u =>
    refine fenceKeeps_told h hp (hadvances.of_none p) (n := .checked args (tokenOf lease)) rfl hk ?_
    intro args' token he
    cases he
    exact .inl (htold u rfl)

/-- Every operation a process may come to keeps the fence: a case for each move of the protocol,
each a lemma above. -/
theorem fence_call (h : FenceInv since tasks w knows) (hp : knows p = some k) {op : Effect ρ}
    (hallowed : FenceAllowed k op) {r : Except Raised op.Resp} (hexec : Exec X F p w op r w') :
    FenceKeeps since tasks knows p k op r w' := by
  have hfenced := h.fenced
  have hk := h.known p k hp
  cases hallowed with
  -- the six kinds of statement that give or take a holder of the fence are lemmas of their own,
  -- and the others leave every fence and every opened snapshot where it was
  | beside _ op hop => exact fence_beside h hp hop hexec
  | acquireGenerator id now => exact fence_acquireGenerator h hp hexec
  | acquireWarehouse args id now =>
    exact fenceKeeps_same h hp (exec_advances hfenced hexec fun _ hd => (does_acquire hfenced hd).1) rfl
  | release _ lease now =>
    refine fenceKeeps_same h hp (exec_advances hfenced hexec fun _ hd => does_release hfenced hd) ?_
    cases k <;> rfl
  | enterFence lease => exact fence_enterFence h hp hexec
  | leaveFence =>
    exact fenceKeeps_told h hp (exec_advances hfenced hexec fun _ hd => does_leaveFence hfenced hd)
      (n := .generating) rfl trivial fun _ _ he => by cases he
  | commit =>
    exact fenceKeeps_same h hp
      (exec_advances hfenced hexec fun _ hd => does_commit hfenced hk hd) rfl
  | enter args lease now hgiven htype => exact fence_enter h hp hgiven htype hexec
  | openSnapshot args token config watermarkBefore pageSize => exact fence_openSnapshot h hp hexec
  | check args lease now htype => exact fence_check h hp htype hexec
  -- a check against the lease reads, and a commit of the metadata writes other tables
  | recheck args lease now =>
    have hsame : Advances none w w' := by
      refine exec_advances hfenced hexec fun r' hd => ?_
      obtain ⟨-, rfl⟩ := does_pipeline hd
      exact advances_lease hfenced rfl (.inl rfl) rfl rfl
    exact fenceKeeps_same h hp hsame rfl
  | commitTableRun args token commit now =>
    have hadvances : Advances none w w' := by
      refine exec_advances hfenced hexec fun r' hd => ?_
      obtain ⟨-, rfl⟩ := does_pipeline hd
      simp only [PipelineEffect.run, outcome]
      split <;> exact advances_lease hfenced rfl (.inl rfl) rfl rfl
    exact fenceKeeps_same h hp hadvances rfl
  | closeSnapped args token =>
    exact fenceKeeps_told h hp (exec_advances hfenced hexec fun _ hd => does_closeSnapshot hfenced hd)
      (n := .closed args) rfl trivial fun _ _ he => by cases he
  | closeChecked args token =>
    exact fenceKeeps_told h hp (exec_advances hfenced hexec fun _ hd => does_closeSnapshot hfenced hd)
      (n := .closed args) rfl trivial fun _ _ he => by cases he

/-- Where a task begins. -/
def fenceStart : Task → FenceKnows
  | .generate _ => .generating
  | .ingest args => .ingesting args
  | .reconcile _ => .aside

theorem fence_task (X : Externals ρ) (task : Task) :
    Follows (fenceProtocol ρ) (fun _ _ => True) (fun _ _ => True) (fenceStart task)
      (task.program X) := by
  cases task with
  | generate config =>
    exact follows_bind.2 (fence_runGenerator.imp (fun _ _ _ => follows_pure.2 trivial)
      fun _ _ _ => trivial)
  | ingest args =>
    exact follows_bind.2 (fence_ingestTable.imp (fun _ _ _ => follows_pure.2 trivial)
      fun _ _ _ => trivial)
  | reconcile args =>
    exact follows_beside_then (calls_beside (reconcileOrphan_calls X args))
      (fun _ => follows_pure.2 trivial) fun _ => trivial

theorem fence_keeps (X : Externals ρ) (F : Faults ρ)
    (since : Option (WarehouseToken × SourceTables ρ)) (tasks : Nat → Option Task) :
    Keeps (platform X F) (fenceProtocol ρ) (fun _ _ => True) (fun _ _ => True)
      (fun acts w knows => FenceInv since (tasksAfter tasks acts) w knows) where
  start := by
    intro acts w knows p task h _
    refine ⟨fenceStart task, fence_task X task, ?_⟩
    have hadvances : Advances none w w := advances_lease h.fenced rfl (.inl rfl) rfl rfl
    have hafter : tasksAfter tasks (acts ++ [.start p task]) =
        Function.update (tasksAfter tasks acts) p (some task) := by
      rw [tasksAfter_append]
      rfl
    rw [hafter]
    -- a task that begins knows nothing yet but which task it is
    refine h.move (hadvances.of_none p) ?_ ?_ ?_ fun q hq => Function.update_of_ne hq ..
    · intro k hk
      obtain rfl := Option.mem_some_iff.1 hk
      cases task <;> trivial
    · intro args token hk
      cases task <;> cases hk
    · intro args htask
      rw [Function.update_self] at htask
      cases htask
      exact ⟨_, rfl, rfl⟩
  call := by
    intro acts w knows p k op r w' h hp hallowed hexec
    have hafter : tasksAfter tasks (acts ++ [.call p op r]) = tasksAfter tasks acts := by
      rw [tasksAfter_append]
      rfl
    obtain ⟨k', hnext, hinv⟩ := fence_call h hp hallowed hexec
    refine ⟨k', hnext, ?_⟩
    rw [hafter]
    exact hinv
  crash := by
    intro acts w knows p h
    have hafter : tasksAfter tasks (acts ++ [.crash p]) =
        Function.update (tasksAfter tasks acts) p none := by
      rw [tasksAfter_append]
      rfl
    rw [hafter]
    -- a process that is gone knows nothing, and its task is over
    refine h.move (crash_advances h.fenced p) (fun k hk => by cases hk) (fun _ _ hk => by cases hk)
      ?_ fun q hq => Function.update_of_ne hq ..
    intro args htask
    rw [Function.update_self] at htask
    cases htask
  other := by
    intro acts w knows e w' h hother
    have hafter : tasksAfter tasks (acts ++ [.other e]) = tasksAfter tasks acts := by
      rw [tasksAfter_append]
      rfl
    rw [hafter]
    exact h.other (happens_advances h.fenced hother)

/-- An ingestion that comes to its commit has asked twice under the token it was given. -/
theorem FenceInv.committing {pool : PlatformPool ρ} (h : FenceInv since tasks pool.state knows)
    (htracked : pool.Tracked (fenceProtocol ρ) (fun _ _ => True) (fun _ _ => True) knows)
    {args : IngestArgs} (htask : tasks p = some (.ingest args)) {lease : SourceMutationLease}
    (hlease : args.sourceLease = some lease) {commit : TableCommit} {now : Timestamp}
    {next : Except Raised Unit → Program ρ TaskResult}
    (hscript : pool.scripts p =
      some (.call (.pipeline (.transaction (.commitTableRun commit now))) next)) :
    knows p = some (.checked args (tokenOf lease)) := by
  obtain ⟨k, hk, hallowed, -⟩ := htracked p _ hscript
  obtain ⟨k₀, hk₀, hargs⟩ := h.tasks p args htask
  rw [hk] at hk₀
  obtain rfl := Option.some.inj hk₀
  cases hallowed with
  | beside _ _ hop => exact hop.elim
  | commitTableRun args' token _ _ =>
    obtain rfl := Option.some.inj hargs
    obtain ⟨hgiven, -⟩ := h.known p _ hk
    rw [hgiven lease hlease]
    exact hk

end Invariant

/-- Two ingestions under one warehouse token, one of them coming to its `commit_table_run` before
the other or with it, read the same tables: no generator commits to the Source between their
snapshots, whatever happens to the lease. -/
theorem sameToken_sameSource {X : Externals ρ} {F : Faults ρ} {w₀ : World ρ}
    (h₀ : w₀.pipeline.fences = []) {acts acts' : List (PlatformAct ρ)} {u v : PlatformPool ρ}
    (hu : Run (PoolStep (platform X F)) (idle w₀) acts u)
    (hv : Run (PoolStep (platform X F)) u acts' v) {p q : Nat} {args args' : IngestArgs}
    (hp : tasksAfter (fun _ => none) acts p = some (.ingest args))
    (hq : tasksAfter (fun _ => none) (acts ++ acts') q = some (.ingest args'))
    {lease lease' : SourceMutationLease} (hlease : args.sourceLease = some lease)
    (hlease' : args'.sourceLease = some lease') (htoken : tokenOf lease = tokenOf lease')
    {commit commit' : TableCommit} {now now' : Timestamp}
    {next next' : Except Raised Unit → Program ρ TaskResult}
    (hcommit : u.scripts p =
      some (.call (.pipeline (.transaction (.commitTableRun commit now))) next))
    (hcommit' : v.scripts q =
      some (.call (.pipeline (.transaction (.commitTableRun commit' now'))) next')) :
    ∃ tables, snapshotTables u.state p = some tables ∧ snapshotTables v.state q = some tables := by
  have hstart : FenceInv none (fun _ => none) w₀ fun _ => none := {
    fenced := fun p hp => by
      rw [h₀] at hp
      cases hp
    known := fun _ _ hk => by cases hk
    agree := fun _ _ _ _ _ hk => by cases hk
    since := fun _ hs => by cases hs
    tasks := fun _ _ ht => by cases ht }
  obtain ⟨knows, hinv, htracked⟩ := Pool.traced hu (fence_keeps X F none fun _ => none)
    ⟨fun _ => none, hstart, fun p s hs => by cases hs⟩
  have hknows := hinv.committing htracked hp hlease hcommit
  obtain ⟨-, hversion, tables, htables, howned⟩ := hinv.known p _ hknows
  -- from here on the tables of the first are those of every other under the token
  have hsince : FenceInv (some (tokenOf lease, tables)) (tasksAfter (fun _ => none) acts) u.state
      knows := by
    refine ⟨hinv.fenced, hinv.known, hinv.agree, fun s hs => ?_, hinv.tasks⟩
    obtain rfl := Option.mem_some_iff.1 hs
    refine ⟨hversion, howned, fun r args₁ hr => ?_⟩
    rw [← htables]
    exact hinv.agree r p args₁ args _ hr hknows
  obtain ⟨knows', hinv', htracked'⟩ := Pool.traced hv
    (fence_keeps X F (some (tokenOf lease, tables)) (tasksAfter (fun _ => none) acts))
    ⟨knows, hsince, htracked⟩
  have htasks : tasksAfter (tasksAfter (fun _ => none) acts) acts' =
      tasksAfter (fun _ => none) (acts ++ acts') := by
    exact (tasksAfter_append ..).symm
  have hknows' := hinv'.committing htracked' (htasks ▸ hq) hlease' hcommit'
  rw [← htoken] at hknows'
  exact ⟨tables, htables, (hinv'.since _ rfl).2.2 q args' hknows'⟩

/-- A warehouse lease for half an hour. -/
def sampleLease : SourceMutationLease := ⟨.warehouse, 9, 1800000000, 1⟩

theorem sampleOrders : ∃ config, tableConfig "orders" = .ok config := ⟨_, rfl⟩

theorem samplePayments : ∃ config, tableConfig "order_payments" = .ok config := ⟨_, rfl⟩

/-- An ingestion of orders comes to its commit. -/
def ordersSchedule : List (Turn Raised Task Happening) :=
  [.other (.lease (.acquire .warehouse 9 0 1800000000)),
    .start 1 (.ingest ⟨sampleRequest "orders" sampleOrders, none, some sampleLease⟩), .go 1 24]

/-- A generator wants the lease meanwhile; then an ingestion of payments follows, under the
same token. -/
def paymentsSchedule : List (Turn Raised Task Happening) :=
  [.other (.tick 60000000), .start 3 (.generate sampleConfig), .go 3 4,
    .start 2 (.ingest ⟨sampleRequest "order_payments" samplePayments, none, some sampleLease⟩),
    .go 2 24]

theorem sameToken_sameSource_sample : ∃ acts acts' u v,
    Run (PoolStep (platform sampleExternals (Faults.any SampleRow)))
        (idle (sampleWorld [(1, 5)])) acts u ∧
      Run (PoolStep (platform sampleExternals (Faults.any SampleRow))) u acts' v ∧
      committing u 1 = true ∧ raisedBy v 3 = some .leaseUnavailableError ∧
      committing v 2 = true ∧
      ∃ tables, snapshotTables u.state 1 = some tables ∧ snapshotTables v.state 2 = some tables := by
  -- two ingestions under one token, and a generator that is refused the fence between them
  have hplays : ((samplePlayer.playAll (idle (sampleWorld [(1, 5)])) ordersSchedule).bind fun u =>
      (samplePlayer.playAll u paymentsSchedule).map fun v => 
        (committing u 1, raisedBy v 3, committing v 2)) =
          some (true, some .leaseUnavailableError, true) := by
    decide +kernel
  obtain ⟨u, hu, hrest⟩ := Option.bind_eq_some_iff.1 hplays
  obtain ⟨v, hv, hboth⟩ := Option.map_eq_some_iff.1 hrest
  obtain ⟨hone, hboth⟩ := Prod.mk.inj hboth
  obtain ⟨hrefused, htwo⟩ := Prod.mk.inj hboth
  obtain ⟨acts, hacts, hcycle⟩ := Player.playAll_eq_some hu
  obtain ⟨acts', hacts', hcycle'⟩ := Player.playAll_eq_some hv
  obtain ⟨commit, now, next, hcommit⟩ := committing_eq_true hone
  obtain ⟨commit', now', next', hcommit'⟩ := committing_eq_true htwo
  -- the tasks the two slots were started with, from the schedule
  have hp : tasksAfter (fun _ => none) acts 1 =
      some (.ingest ⟨sampleRequest "orders" sampleOrders, none, some sampleLease⟩) := by
    rw [tasksAfter, hcycle]
    rfl
  have hq : tasksAfter (fun _ => none) (acts ++ acts') 2 =
      some (.ingest ⟨sampleRequest "order_payments" samplePayments, none, some sampleLease⟩) := by
    rw [tasksAfter_append, tasksAfter, hcycle']
    rfl
  exact ⟨acts, acts', u, v, hacts, hacts', hone, hrefused, htwo,
    sameToken_sameSource rfl hacts hacts' hp hq rfl rfl rfl hcommit hcommit'⟩

end CommercePlatform.Platform
