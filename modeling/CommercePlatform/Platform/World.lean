import CommercePlatform.Control.Batch
import CommercePlatform.Control.Heartbeat
import CommercePlatform.Control.Transactions
import CommercePlatform.Lib.Script
import CommercePlatform.Platform.Source
/-!
# The shared world of generators and ingestions

Two databases, an object store and a clock, and every operation through which
`run_generator`, `ingest_table` and `reconcile_orphan` touch them. This file fixes what
one step is; which steps a process takes is in the programs of `Generator.Service`,
`Ingestion.Service` and `Ingestion.Reconcile`, and what else takes place meanwhile is in
`Happens`.

An operation is one transaction, one statement of a longer transaction, or one request;
between two of them any other process may run. The generator's Source transaction is cut
into its statements because the fence lies inside it. The transactions on the metadata
are whole, since they lock the rows they read.

An operation is done, or it raises before or after it took effect. `Faults` says which
of them may, and `Faults.any` lets everything go wrong that can: a lost answer to a
`COMMIT` is a `lost` one. Three things are not represented and are named where they
would be:

- a `COMMIT` that is still in flight when its process dies. Here it was done, or it is
  rolled back;
- a connection that holds a fence and is lost while its process goes on;
- a process whose clock differs from the others' in reading its own `now`. Operations
  with an explicit `now` may pass any value.

Statements that need the lease row `FOR UPDATE` wait while a generator holds it shared
through its Source `COMMIT` (`enabled`). Waiting is not an operation that fails but one
that is not yet possible; statement timeouts raise without effect, as any other fault.

The operations on the pipeline database are defined by the functions of `Control` and
`Common.SourceLease`, on the state each of them needs, so that what is proved of these
functions by themselves applies in every run.
-/

namespace CommercePlatform.Platform

open Lib Generator

variable {ρ : Type}

/-- The pipeline database: the ingestion metadata, the source lease with the processes
that hold its row shared, the generator runs and the seed that succeeded last. -/
structure PipelineDb where
  metadata : Db
  sourceLease : LeaseTable
  fences : List Nat
  generatorRuns : GeneratorRuns
  latestSeed : Option (String × Timestamp)

/-- The world: `clock` is the time of every machine in it, and `nextId` stands for `uuid4`, which
never answers twice the same. -/
structure World (ρ : Type) where
  clock : Timestamp
  nextId : RunId
  heartbeats : Nat → Option Heartbeat
  pipeline : PipelineDb
  source : SourceDb ρ
  store : ObjectStore ρ

/-! ## Operations -/

/-- Transactions on the pipeline database. A time is passed as `now`, or read where none is
passed. -/
inductive PipelineEffect where
  | transaction (op : Op)
  | getCommittedTableBatch (tableBatchId : String)
  | assertTableLease (lease : TableLease) (now : Timestamp)
  | acquireSourceLease (ownerType : OwnerType) (ownerId : RunId) (now : Option Timestamp)
  | assertSourceLease (lease : SourceMutationLease) (now : Option Timestamp)
  | releaseSourceLease (lease : SourceMutationLease) (now : Option Timestamp)
  /-- `fenced_source_commit`, up to its `yield`. -/
  | enterFence (lease : SourceMutationLease)
  /-- The end of its transaction. -/
  | leaveFence
  /-- The query of `resolve_source_snapshot_id`. -/
  | latestSeed
  /-- The query of `_successful_result`. -/
  | successfulRow (config : GeneratorConfig)
  | recordStartedRun (id : RunId) (config : GeneratorConfig)
  | recordFinishedRun (id : RunId) (status : GeneratorStatus) (counts : Option ResultCounts)
      (hash message : Option String)

abbrev PipelineEffect.Resp : PipelineEffect → Type
  | .transaction op => op.Resp
  | .getCommittedTableBatch _ => Option CommittedTableBatch
  | .acquireSourceLease .. => SourceMutationLease
  | .latestSeed => Option (String × Timestamp)
  | .successfulRow _ => Option GeneratorRunRow
  | _ => Unit

/-- `SELECT … FOR UPDATE` of the lease row waits for those who hold it shared, who are the
generators inside `fenced_source_commit`. -/
def PipelineEffect.enabled (db : PipelineDb) : PipelineEffect → Bool
  | .acquireSourceLease .. => db.fences.isEmpty
  | .releaseSourceLease .. => db.fences.isEmpty
  | _ => true

/-- The outcome of a transaction: its answer and the database it leaves. One that raises is
rolled back. -/
def outcome {α σ τ : Type} (s : σ) (put : τ → σ) : Except Raised (α × τ) → Except Raised α × σ
  | .ok (a, t) => (.ok a, put t)
  | .error e => (.error e, s)

/-- The outcome of a transaction without an answer. -/
def outcomeUnit {σ τ : Type} (s : σ) (put : τ → σ) : Except Raised τ → Except Raised Unit × σ
  | .ok t => (.ok (), put t)
  | .error e => (.error e, s)

/-- What no answer changes is as it was. -/
theorem outcome_same {α σ τ β : Type} {s : σ} (put : τ → σ) {f : σ → β} (hput : ∀ t, f (put t) = f s)
    (r : Except Raised (α × τ)) : f (outcome s put r).2 = f s := by
  unfold outcome
  split
  · exact hput _
  · rfl

theorem outcomeUnit_same {σ τ β : Type} {s : σ} (put : τ → σ) {f : σ → β}
    (hput : ∀ t, f (put t) = f s) (r : Except Raised τ) : f (outcomeUnit s put r).2 = f s := by
  unfold outcomeUnit
  split
  · exact hput _
  · rfl

/-- What a transaction of process `p` does and answers at time `clock`. The source lease is kept
for `defaultLeaseTtl`, as all callers have it. -/
def PipelineEffect.run (p : Nat) (clock : Timestamp) : (op : PipelineEffect) → PipelineDb →
    Except Raised op.Resp × PipelineDb
  | .transaction op, db => outcome db (fun m => { db with metadata := m }) (op.run db.metadata)
  | .getCommittedTableBatch id, db =>
    (.ok (CommercePlatform.getCommittedTableBatch id db.metadata), db)
  | .assertTableLease lease now, db =>
    (CommercePlatform.assertTableLease lease now db.metadata, db)
  | .acquireSourceLease ownerType ownerId now, db =>
    outcome db (fun t => { db with sourceLease := t })
      (acquireSourceMutationLease ownerType ownerId (now.getD clock) defaultLeaseTtl db.sourceLease)
  | .assertSourceLease lease now, db =>
    (assertSourceMutationLease lease (now.getD clock) db.sourceLease, db)
  | .releaseSourceLease lease now, db =>
    outcomeUnit db (fun t => { db with sourceLease := t })
      (releaseSourceMutationLease lease (now.getD clock) db.sourceLease)
  | .enterFence lease, db =>
    outcomeUnit db (fun () => { db with fences := p :: db.fences })
      (assertSourceMutationLease lease clock db.sourceLease)
  | .leaveFence, db => (.ok (), { db with fences := db.fences.filter (· ≠ p) })
  | .latestSeed, db => (.ok db.latestSeed, db)
  | .successfulRow config, db => (.ok (Generator.successfulRow db.generatorRuns config), db)
  | .recordStartedRun id config, db =>
    outcomeUnit db (fun t => { db with generatorRuns := t })
      (Generator.recordStartedRun id config clock db.generatorRuns)
  | .recordFinishedRun id status counts hash message, db =>
    outcomeUnit db (fun t => { db with generatorRuns := t })
      (Generator.recordFinishedRun id status counts hash message clock db.generatorRuns)

/-- What a process does on its own machine. -/
inductive HostEffect where
  /-- `datetime.now(UTC)`. -/
  | utcNow
  | uuid4
  /-- `LeaseHeartbeat.__enter__`. -/
  | startHeartbeat (sourceLease : SourceMutationLease) (tableLease : TableLease)
      (now : Option Timestamp)
  | assertHealthy
  /-- `_stop.set()` and `join`, which may time out. -/
  | stopHeartbeat
  /-- `_remove_local_artifacts`. -/
  | removeLocalArtifacts (sourceTable : String) (runId : RunId)

abbrev HostEffect.Resp : HostEffect → Type
  | .utcNow => Timestamp
  | .uuid4 => RunId
  | _ => Unit

/-- What it does and answers. -/
def HostEffect.run (p : Nat) : (op : HostEffect) → World ρ → Except Raised op.Resp × World ρ
  | .utcNow, w => (.ok w.clock, w)
  | .uuid4, w => (.ok w.nextId, { w with nextId := w.nextId + 1 })
  | .startHeartbeat sourceLease tableLease now, w =>
    (.ok (), { w with
      heartbeats := Function.update w.heartbeats p
        (some (Heartbeat.start sourceLease tableLease now)) })
  | .assertHealthy, w => ((w.heartbeats p).elim (.ok ()) Heartbeat.assertHealthy, w)
  | .stopHeartbeat, w =>
    (.ok (), { w with
      heartbeats := Function.update w.heartbeats p ((w.heartbeats p).map Heartbeat.stop) })
  | .removeLocalArtifacts .., w => (.ok (), w)

/-- Everything a process may call. -/
inductive Effect (ρ : Type) where
  | pipeline (op : PipelineEffect)
  | source (op : SourceEffect ρ)
  | storage (op : StorageEffect ρ)
  | host (op : HostEffect)
  /-- The statements of a generator between `_assert_source_cursor_forward` and
  `record_source_commit`, with their lease checks. -/
  | mutate (config : GeneratorConfig) (lease : SourceMutationLease)

abbrev Effect.Resp : Effect ρ → Type
  | .pipeline op => op.Resp
  | .source op => op.Resp
  | .storage op => op.Resp
  | .host op => op.Resp
  | .mutate .. => Mutation ρ

/-- A program over these operations. -/
abbrev Program (ρ α : Type) := Script (Effect ρ) Effect.Resp Raised α

abbrev pipeline (op : PipelineEffect) : Program ρ op.Resp :=
  Script.perform (Effect.pipeline op)

abbrev source (op : SourceEffect ρ) : Program ρ op.Resp := Script.perform (Effect.source op)

abbrev storage (op : StorageEffect ρ) : Program ρ op.Resp :=
  Script.perform (Effect.storage op)

abbrev host (op : HostEffect) : Program ρ op.Resp := Script.perform (Effect.host op)

abbrev mutate (config : GeneratorConfig) (lease : SourceMutationLease) : Program ρ (Mutation ρ) :=
  Script.perform (Effect.mutate config lease)

/-- One transaction on the ingestion metadata. -/
abbrev metadata (op : Op) : Program ρ op.Resp := pipeline (.transaction op)

/-- `if not p: raise e`. -/
abbrev check (p : Prop) [Decidable p] (e : Raised) : Program ρ Unit := Script.ofExcept (require p e)

/-- The writes of a mutation go to the draft of its process. -/
def SourceDb.withUpserts (s : SourceDb ρ) (p : Nat) (upserts : List (String × ρ)) : SourceDb ρ :=
  { s with
    drafts := Function.update s.drafts p
      ((s.drafts p).map fun d => { d with upserts := d.upserts ++ upserts }) }

/-- An operation of process `p` that comes to its end: its answer and the world it leaves. The
mutations of a generator may write whatever `X.mutates` allows at the tables they find. -/
inductive Does (X : Externals ρ) (p : Nat) (w : World ρ) :
    (op : Effect ρ) → Except Raised op.Resp → World ρ → Prop where
  | pipeline (op : PipelineEffect) (h : op.enabled w.pipeline) :
      Does X p w (.pipeline op) (op.run p w.clock w.pipeline).1
        { w with pipeline := (op.run p w.clock w.pipeline).2 }
  | source (op : SourceEffect ρ) (h : op.enabled p w.source) :
      Does X p w (.source op) (op.run X p w.source).1 { w with source := (op.run X p w.source).2 }
  | storage (op : StorageEffect ρ) :
      Does X p w (.storage op) (op.run w.store).1 { w with store := (op.run w.store).2 }
  | host (op : HostEffect) : Does X p w (.host op) (op.run p w).1 (op.run p w).2
  | mutate (config : GeneratorConfig) (lease : SourceMutationLease) (m : Mutation ρ)
      (h : X.mutates config w.source.tables m) :
      Does X p w (.mutate config lease) (.ok m)
        { w with source := w.source.withUpserts p m.upserts }

/-! ## Faults -/

/-- The operations that may raise without having done anything, and those that may raise although
they took effect. The results about runs take any `Faults`; the sample runs use none or
chosen ones. -/
structure Faults (ρ : Type) where
  refuses : Effect ρ → Prop
  loses : Effect ρ → Prop
  /-- The renewals of a heartbeat may go wrong the same way. -/
  renewals : Prop

/-- Reading the clock, making a UUID and looking at the heartbeat cannot go wrong. -/
def Effect.Certain : Effect ρ → Prop
  | .host .utcNow => True
  | .host .uuid4 => True
  | .host .assertHealthy => True
  | .host .stopHeartbeat => True
  | _ => False

/-- The end of a transaction on a connection that is closed then: it is over whatever
the close raises. -/
def Effect.Closing : Effect ρ → Prop
  | .pipeline .leaveFence => True
  | .source .rollback => True
  | .source .closeSnapshot => True
  | _ => False

/-- Anything that can go wrong may. -/
def Faults.any (ρ : Type) : Faults ρ where
  refuses := fun op => ¬ op.Certain ∧ ¬ op.Closing
  loses := fun op => ¬ op.Certain
  renewals := True

/-- What an operation here can raise. A `WarehouseBuildError`, which carries the text of
its own error type, comes from the warehouse build only. -/
def Expected (e : Raised) : Prop := ∀ errorType, e.cls ≠ .warehouseBuildError errorType

/-- One operation of process `p`: it answers, or raises without effect, or raises although it
took effect. An operation is one atomic change, so a `COMMIT` still in flight when its process
dies is not modelled (it counts as done or as not begun), nor is a fence connection that is
lost while its process goes on. -/
inductive Exec (X : Externals ρ) (F : Faults ρ) (p : Nat) (w : World ρ) (op : Effect ρ) :
    Except Raised op.Resp → World ρ → Prop where
  | done {r : Except Raised op.Resp} {w' : World ρ} (h : Does X p w op r w')
      (he : ∀ e, r = .error e → Expected e) : Exec X F p w op r w'
  | refused (e : Raised) (hf : F.refuses op) (he : Expected e) : Exec X F p w op (.error e) w
  | lost {r : Except Raised op.Resp} {w' : World ρ} (e : Raised) (h : Does X p w op r w')
      (hf : F.loses op) (he : Expected e) : Exec X F p w op (.error e) w'

section Inversion

variable {X : Externals ρ} {F : Faults ρ} {p : Nat} {w w' : World ρ}

theorem does_pipeline {op : PipelineEffect} {r : Except Raised op.Resp}
    (h : Does X p w (.pipeline op) r w') :
    r = (op.run p w.clock w.pipeline).1 ∧
      w' = { w with pipeline := (op.run p w.clock w.pipeline).2 } := by
  cases h
  exact ⟨rfl, rfl⟩

theorem does_enabled {op : PipelineEffect} {r : Except Raised op.Resp}
    (h : Does X p w (.pipeline op) r w') : op.enabled w.pipeline = true := by
  cases h
  assumption

theorem does_source {op : SourceEffect ρ} {r : Except Raised op.Resp}
    (h : Does X p w (.source op) r w') :
    r = (op.run X p w.source).1 ∧ w' = { w with source := (op.run X p w.source).2 } := by
  cases h
  exact ⟨rfl, rfl⟩

/-- An operation came to its end, or it raised: with nothing done, or all of it. This is all the
run proofs need of the fault model. -/
theorem Exec.ends {op : Effect ρ} {r : Except Raised op.Resp} (h : Exec X F p w op r w') :
    Does X p w op r w' ∨ ∃ e, r = .error e ∧ (w' = w ∨ ∃ r', Does X p w op r' w') := by
  cases h with
  | done h _ => exact .inl h
  | refused e _ _ => exact .inr ⟨e, rfl, .inl rfl⟩
  | lost e h _ _ => exact .inr ⟨e, rfl, .inr ⟨_, h⟩⟩

end Inversion

/-- A renewal as its caller sees it: it may be cut off where `may` allows it. -/
inductive Renewal {α σ : Type} (may : Prop) (s : σ) :
    Except Raised (α × σ) → Except Raised α → σ → Prop where
  | done (a : α) (t : σ) : Renewal may s (.ok (a, t)) (.ok a) t
  | raised (e : Raised) : Renewal may s (.error e) (.error e) s
  | refused (r : Except Raised (α × σ)) (e : Raised) (hmay : may) (he : Expected e) :
      Renewal may s r (.error e) s
  | lost (a : α) (t : σ) (e : Raised) (hmay : may) (he : Expected e) :
      Renewal may s (.ok (a, t)) (.error e) t

theorem Renewal.keeps {α σ : Type} {may : Prop} {s t : σ} {x : Except Raised (α × σ)}
    {r : Except Raised α} (h : Renewal may s x r t) : t = s ∨ ∃ a, x = .ok (a, t) := by
  cases h with
  | done a t => exact .inr ⟨a, rfl⟩
  | raised e => exact .inl rfl
  | refused x e _ _ => exact .inl rfl
  | lost a t e _ _ => exact .inr ⟨a, rfl⟩

/-- Replace the heartbeat of `p`. -/
def World.withHeartbeat (w : World ρ) (p : Nat) (h : Heartbeat) : World ρ :=
  { w with heartbeats := Function.update w.heartbeats p (some h) }

/-- One step of the heartbeat thread of process `p`. -/
inductive Beats (F : Faults ρ) (p : Nat) (w : World ρ) (h : Heartbeat) : World ρ → Prop where
  | wake (hphase : h.phase = .waiting) : Beats F p w h (w.withHeartbeat p h.wake)
  | renewSource (hphase : h.phase = .renewingSource)
      (hfences : w.pipeline.fences = [])
      {r : Except Raised SourceMutationLease} {t : LeaseTable}
      (hr : Renewal F.renewals w.pipeline.sourceLease
        (renewSourceMutationLease h.sourceLease (h.now.getD w.clock) defaultLeaseTtl
          w.pipeline.sourceLease) r t) :
      Beats F p w h ({ w with pipeline := { w.pipeline with sourceLease := t } }.withHeartbeat p
        (h.afterSource r))
  | renewTable (hphase : h.phase = .renewingTable)
      {r : Except Raised TableLease} {db : Db}
      (hr : Renewal F.renewals w.pipeline.metadata
        (renewTableLease h.tableLease (h.now.getD w.clock) defaultTableLeaseTtl
          w.pipeline.metadata) r db) :
      Beats F p w h ({ w with pipeline := { w.pipeline with metadata := db } }.withHeartbeat p
        (h.afterTable r))

/-- A transaction of some other user of the source lease, with any clock: the warehouse runs and
the recovery commands, whose programs are not modelled here. -/
inductive LeaseCall where
  | acquire (ownerType : OwnerType) (ownerId : RunId) (now : Timestamp) (ttl : Int)
  | renew (lease : SourceMutationLease) (now : Timestamp) (ttl : Int)
  | release (lease : SourceMutationLease) (now : Timestamp)

/-- What it leaves; one that raises is rolled back. -/
def LeaseCall.apply : LeaseCall → LeaseTable → LeaseTable
  | .acquire ownerType ownerId now ttl, t =>
    match acquireSourceMutationLease ownerType ownerId now ttl t with
    | .ok (_, t') => t'
    | .error _ => t
  | .renew lease now ttl, t =>
    match renewSourceMutationLease lease now ttl t with
    | .ok (_, t') => t'
    | .error _ => t
  | .release lease now, t =>
    match releaseSourceMutationLease lease now t with
    | .ok t' => t'
    | .error _ => t

theorem LeaseCall.later (call : LeaseCall) (t : LeaseTable) : LeaseTable.Later t (call.apply t) := by
  cases call with
  | acquire ownerType ownerId now ttl =>
    unfold LeaseCall.apply
    dsimp only
    split
    next lease t' h => exact (acquireSourceMutationLease_eq_ok h).1
    next => exact .refl t
  | renew lease now ttl =>
    unfold LeaseCall.apply
    dsimp only
    split
    next lease' t' h => exact renewSourceMutationLease_eq_ok h
    next => exact .refl t
  | release lease now =>
    unfold LeaseCall.apply
    dsimp only
    split
    next t' h => exact releaseSourceMutationLease_eq_ok h
    next => exact .refl t

/-- The metadata transactions of other programs: leases on tables and rewinds. -/
def Foreign : Op → Prop
  | .getOrCreateWatermark .. => True
  | .takeTableLease .. => True
  | .renewTableLease .. => True
  | .releaseTableLease .. => True
  | .rewindWatermark .. => True
  | _ => False

/-- What else happens. -/
inductive Happening where
  /-- Time passes. -/
  | tick (now : Timestamp)
  /-- The heartbeat thread of a process takes a step. -/
  | beat (p : Nat)
  | lease (call : LeaseCall)
  | metadata (op : Op)

/-- Its effect. Other programs may do anything to the metadata that a lease on a table or a
rewind does, and move the source lease where no one holds it shared. -/
inductive Happens (F : Faults ρ) (w : World ρ) : Happening → World ρ → Prop where
  | tick (now : Timestamp) (h : w.clock ≤ now) : Happens F w (.tick now) { w with clock := now }
  | beat (p : Nat) (h : Heartbeat) (hp : w.heartbeats p = some h) {w' : World ρ}
      (hbeats : Beats F p w h w') : Happens F w (.beat p) w'
  | lease (call : LeaseCall) (hfences : w.pipeline.fences = []) :
      Happens F w (.lease call)
        { w with pipeline := { w.pipeline with sourceLease := call.apply w.pipeline.sourceLease } }
  | metadata (op : Op) (hop : Foreign op) (db : Db) (hdb : op.apply w.pipeline.metadata = .ok db) :
      Happens F w (.metadata op) { w with pipeline := { w.pipeline with metadata := db } }

/-- What is left of a process that is gone: its transactions are rolled back, and its
heartbeat thread ends with it. A `COMMIT` in flight at the crash is not modelled: the
transaction was ended before, or is rolled back here. -/
def World.crash (w : World ρ) (p : Nat) : World ρ :=
  { w with
    heartbeats := Function.update w.heartbeats p none
    pipeline := { w.pipeline with fences := w.pipeline.fences.filter (· ≠ p) }
    source := w.source.drop p }

end CommercePlatform.Platform
