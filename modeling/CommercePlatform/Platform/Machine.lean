import CommercePlatform.Generator.Service
import CommercePlatform.Ingestion.Reconcile
/-!
# Processes over the shared world

Any number of generator runs, ingestions and reconciliations, each in a process of its
own, over one `World`: every interleaving of their operations with crashes, with the
heartbeat threads, with other users of the leases and with the passing of time is a run
of `platform`. The machine is the instance of `Lib.Machine` at the programs of the
source; a process is started with a task, takes its operations one by one, and may be
gone before any of them.

A statement about one kind of process needs of the others only which operations they may
come to. `OfGenerator` and `OfIngestion` list them, and the lemmas `…_calls` below prove
the lists of the programs, function by function in the order of the source. They are all
of one form (`Script.Calls`) and follow the structure of the program: a `bind` calls
what its parts call. When a function of the source comes to use another operation, its
lemma here fails, and with it the statement that relied on the list.
-/

namespace CommercePlatform.Platform

open Lib Generator Ingestion

variable {ρ : Type}

/-- What a process is started for. The arguments are those of the call, so two processes may be
given the same ones. -/
inductive Task where
  | generate (config : GeneratorConfig)
  | ingest (args : IngestArgs)
  | reconcile (args : ReconcileArgs)

/-- What its call returned. -/
inductive TaskResult where
  | generated (config : GeneratorConfig) (result : GeneratorResult)
  | ingested (args : IngestArgs) (result : TableIngestionResult)
  | reconciled (args : ReconcileArgs)

/-- The program of a task. -/
def Task.program (X : Externals ρ) : Task → Program ρ TaskResult
  | .generate config => return .generated config (← runGenerator X config)
  | .ingest args => return .ingested args (← ingestTable X args)
  | .reconcile args => do
    reconcileOrphan X args
    return .reconciled args

abbrev PlatformAct (ρ : Type) := PoolAct (Effect ρ) Effect.Resp Raised Task Happening

abbrev PlatformPool (ρ : Type) := Pool (World ρ) (Effect ρ) Effect.Resp Raised TaskResult

/-- The machine: the programs of the tasks, the operations of `Platform.World` with their faults,
and what happens beside them. -/
def platform (X : Externals ρ) (F : Faults ρ) :
    Semantics (World ρ) (Effect ρ) Effect.Resp Raised TaskResult Task Happening where
  script := Task.program X
  starts := fun _ _ _ => True
  exec := Exec X F
  crash := fun p w => w.crash p
  other := Happens F

/-- The pool before any process, over any world. -/
def idle (w : World ρ) : PlatformPool ρ := ⟨w, fun _ => none⟩

/-! A statement about one kind of process needs of the others only which operations they
may come to. -/

/-- The operations of a generator run. -/
def Effect.OfGenerator : Effect ρ → Prop
  | .pipeline (.acquireSourceLease ..) => True
  | .pipeline (.releaseSourceLease ..) => True
  | .pipeline (.enterFence _) => True
  | .pipeline .leaveFence => True
  | .pipeline .latestSeed => True
  | .pipeline (.successfulRow _) => True
  | .pipeline (.recordStartedRun ..) => True
  | .pipeline (.recordFinishedRun ..) => True
  | .source (.committedResult _) => True
  | .source .begin => True
  | .source (.maximumCursor _) => True
  | .source (.recordSourceCommit _) => True
  | .source .commit => True
  | .source .rollback => True
  | .host .uuid4 => True
  | .mutate .. => True
  | _ => False

/-- The operations of an ingestion and of a reconciliation. -/
def Effect.OfIngestion : Effect ρ → Prop
  | .pipeline (.transaction _) => True
  | .pipeline (.getCommittedTableBatch _) => True
  | .pipeline (.assertTableLease ..) => True
  | .pipeline (.acquireSourceLease ..) => True
  | .pipeline (.assertSourceLease ..) => True
  | .pipeline (.releaseSourceLease ..) => True
  | .source (.openSnapshot ..) => True
  | .source (.writeLocalArtifacts ..) => True
  | .source .closeSnapshot => True
  | .storage _ => True
  | .host _ => True
  | _ => False

/-- Those of them on neither a source lease nor a snapshot, without the commit: what an ingestion
may do anywhere. -/
def Effect.Preparing : Effect ρ → Prop
  | .pipeline (.transaction (.commitTableRun ..)) => False
  | .pipeline (.transaction _) => True
  | .pipeline (.getCommittedTableBatch _) => True
  | .pipeline (.assertTableLease ..) => True
  | .source (.writeLocalArtifacts ..) => True
  | .storage _ => True
  | .host _ => True
  | _ => False

theorem ofIngestion_of_preparing {op : Effect ρ} (h : op.Preparing) : op.OfIngestion := by
  cases op with
  | pipeline op => cases op <;> trivial
  | source op => cases op <;> trivial
  | storage op => trivial
  | host op => trivial
  | mutate config lease => exact h

theorem calls_ofIngestion {α : Type} {x : Program ρ α} (hx : x.Calls Effect.Preparing) :
    x.Calls Effect.OfIngestion := hx.imp fun _ => ofIngestion_of_preparing

section Calls

variable (X : Externals ρ)

theorem assertSourceCursorForward_calls (logicalDate : Timestamp) (tables : List String) :
    (assertSourceCursorForward (ρ := ρ) logicalDate tables).Calls Effect.OfGenerator := by
  induction tables with
  | nil => trivial
  | cons table tables ih =>
    refine calls_bind (calls_ofExcept _) fun config => ?_
    refine calls_bind (calls_perform trivial) fun maximum => ?_
    exact calls_bind (calls_ofExcept _) fun _ => ih

theorem mutateSource_calls (config : GeneratorConfig) (id : RunId) (lease : SourceMutationLease) :
    (mutateSource X config id lease).Calls Effect.OfGenerator := by
  refine calls_bind (assertSourceCursorForward_calls _ _) fun _ => ?_
  refine calls_bind (calls_perform trivial) fun m => ?_
  refine calls_bind (calls_perform trivial) fun _ => ?_
  exact calls_bind (calls_perform trivial) fun _ => trivial

theorem commitToSource_calls (config : GeneratorConfig) (id : RunId)
    (lease : SourceMutationLease) :
    (commitToSource X config id lease).Calls Effect.OfGenerator := by
  refine calls_bind (calls_perform trivial) fun _ => ?_
  refine calls_bind (calls_onError (mutateSource_calls X config id lease) fun _ =>
    calls_suppress (calls_perform trivial)) fun row => ?_
  refine calls_bind (calls_onError (calls_perform trivial) fun _ =>
    calls_bind (calls_suppress (calls_perform trivial)) fun _ =>
      calls_suppress (calls_perform trivial)) fun _ => ?_
  exact calls_bind (calls_perform trivial) fun _ => trivial

theorem runUnderLease_calls (config : GeneratorConfig) (id : RunId)
    (lease : SourceMutationLease) :
    (runUnderLease X config id lease).Calls Effect.OfGenerator := by
  refine calls_bind (calls_perform trivial) fun found => ?_
  cases found with
  | some row => exact calls_bind (calls_perform trivial) fun _ => trivial
  | none =>
    refine calls_bind (calls_perform trivial) fun _ => ?_
    refine calls_onError (calls_bind (commitToSource_calls X config id lease) fun row => ?_)
      fun e => calls_perform trivial
    exact calls_bind (calls_perform trivial) fun _ => trivial

theorem runGenerator_calls (config : GeneratorConfig) :
    (runGenerator X config).Calls Effect.OfGenerator := by
  refine calls_bind (calls_bind (calls_perform trivial) fun seed => ?_) fun snapshot => ?_
  · cases seed <;> trivial
  refine calls_bind (calls_ofExcept _) fun _ => ?_
  refine calls_bind (calls_perform trivial) fun found => ?_
  cases found with
  | some row => exact calls_ofExcept _
  | none =>
    refine calls_bind (calls_perform trivial) fun id => ?_
    refine calls_bind (calls_perform trivial) fun lease => ?_
    refine calls_bind (calls_attempt (runUnderLease_calls X config id lease)) fun r => ?_
    cases r with
    | ok result => exact calls_bind (calls_perform trivial) fun _ => trivial
    | error e => exact calls_bind (calls_suppress (calls_perform trivial)) fun _ => trivial

theorem uploadNew_calls (key : String) (content : ObjectContent ρ) :
    (uploadNew X key content).Calls Effect.Preparing := by
  refine calls_bind (calls_ofExcept _) fun _ => ?_
  refine calls_bind (calls_perform trivial) fun head => ?_
  cases head with
  | some _ => trivial
  | none =>
    refine calls_bind (calls_attempt (calls_perform trivial)) fun put => ?_
    cases put with
    | error e => trivial
    | ok _ =>
      refine calls_bind (calls_perform trivial) fun head => ?_
      cases head with
      | none => trivial
      | some head =>
        exact calls_bind (calls_ofExcept _) fun _ => calls_bind (calls_ofExcept _) fun _ => trivial

theorem publishQuarantine_calls (run : PipelineRun) (artifacts : LocalArtifacts ρ)
    (now : Timestamp) : (publishQuarantine X run artifacts now).Calls Effect.Preparing := by
  unfold publishQuarantine
  split
  · trivial
  · refine calls_bind (uploadNew_calls X _ _) fun uploaded => ?_
    refine calls_bind (calls_ofExcept _) fun manifest => ?_
    refine calls_bind (uploadNew_calls X _ _) fun _ => ?_
    exact calls_bind (calls_ofExcept _) fun _ => trivial

theorem uploadAndVerifyBronze_calls (run : PipelineRun) (config : TableConfig)
    (artifacts : LocalArtifacts ρ) (now : Timestamp) :
    (uploadAndVerifyBronze X run config artifacts now).Calls Effect.Preparing := by
  unfold uploadAndVerifyBronze
  split
  · trivial
  · refine calls_bind (uploadNew_calls X _ _) fun uploaded => ?_
    refine calls_bind (calls_ofExcept _) fun manifest => ?_
    exact calls_bind (uploadNew_calls X _ _) fun _ => calls_ofExcept _

theorem recordPrestartFailure_calls (request : TableIngestionRequest) (watermark : Watermark)
    (runId : RunId) (e : Raised) (now : Timestamp) :
    (recordPrestartFailure (ρ := ρ) request watermark runId e now).Calls Effect.Preparing := by
  refine calls_bind (calls_ofExcept _) fun run => calls_suppress ?_
  exact calls_bind (calls_perform trivial) fun _ => calls_perform trivial

theorem requestedRunId_calls (request : TableIngestionRequest) :
    (requestedRunId (ρ := ρ) request).Calls Effect.Preparing := by
  unfold requestedRunId
  split
  · trivial
  · exact calls_perform trivial

theorem reuseOrRejectCommittedBatch_calls (request : TableIngestionRequest) (config : TableConfig)
    (watermark : Watermark) (existing : CommittedTableBatch) (now : Timestamp) :
    (reuseOrRejectCommittedBatch (ρ := ρ) request config watermark existing now).Calls
      Effect.Preparing := by
  unfold reuseOrRejectCommittedBatch
  split
  · refine calls_bind (requestedRunId_calls request) fun id => ?_
    refine calls_bind (calls_ofExcept _) fun run => ?_
    exact calls_bind (calls_perform trivial) fun _ => calls_bind (calls_perform trivial)
      fun _ => trivial
  · refine calls_bind (requestedRunId_calls request) fun id => ?_
    refine calls_bind (calls_ofExcept _) fun run => ?_
    exact calls_bind (calls_perform trivial) fun _ => calls_bind (calls_perform trivial)
      fun _ => trivial

theorem releaseOwned_calls (args : IngestArgs) (lease : SourceMutationLease) (now : Timestamp) :
    (releaseOwned (ρ := ρ) args lease now).Calls Effect.OfIngestion := by
  unfold releaseOwned
  split
  · trivial
  · exact calls_suppress (calls_perform trivial)

theorem acquireLeases_calls (args : IngestArgs) (watermark : Watermark) (runId : RunId)
    (now : Timestamp) :
    (acquireLeases (ρ := ρ) args watermark runId now).Calls Effect.OfIngestion := by
  have hsource : (sourceLeaseOf (ρ := ρ) args runId now).Calls Effect.OfIngestion := by
    unfold sourceLeaseOf
    split
    · trivial
    · exact calls_perform trivial
  refine calls_bind (calls_onError hsource fun e =>
    calls_ofIngestion (recordPrestartFailure_calls _ _ _ _ _))
    fun lease => ?_
  refine calls_bind (calls_onError ?_ fun e =>
    calls_bind (calls_ofIngestion (recordPrestartFailure_calls _ _ _ _ _)) fun _ => releaseOwned_calls _ _ _)
    fun tableLease => trivial
  refine calls_bind (calls_ofExcept _) fun _ => ?_
  refine calls_bind (calls_perform trivial) fun _ => ?_
  exact calls_bind (calls_perform trivial) fun _ => calls_perform trivial

theorem assertOwnership_calls (held : Held) :
    (assertOwnership (ρ := ρ) held).Calls Effect.OfIngestion :=
  calls_bind (calls_perform trivial) fun _ => calls_bind (calls_perform trivial) fun _ =>
    calls_perform trivial

theorem ingestRun_calls (request : TableIngestionRequest) (held : Held) (run : PipelineRun) :
    (ingestRun X request held run).Calls Effect.OfIngestion := by
  unfold ingestRun
  split
  · exact calls_bind (calls_perform trivial) fun _ => calls_bind (calls_perform trivial)
      fun _ => trivial
  · refine calls_onError ?_ fun e => calls_suppress (calls_perform trivial)
    refine calls_bind (calls_perform trivial) fun artifacts => ?_
    refine calls_bind (assertOwnership_calls held) fun _ => ?_
    refine calls_bind (calls_ofExcept _) fun _ => ?_
    refine calls_bind (calls_ofIngestion (publishQuarantine_calls X _ _ _)) fun quarantine => ?_
    refine calls_bind (calls_ofIngestion (uploadAndVerifyBronze_calls X _ _ _ _)) fun object => ?_
    refine calls_bind (assertOwnership_calls held) fun _ => ?_
    refine calls_bind (calls_ofExcept _) fun commit => ?_
    exact calls_bind (calls_perform trivial) fun _ => trivial

theorem withHeartbeat_calls (args : IngestArgs) (held : Held) (runId : RunId) :
    (withHeartbeat X args held runId).Calls Effect.OfIngestion := by
  -- the heartbeat is joined and the snapshot closed whether the body returns or raises
  have hbody : ∀ upper, (inSnapshot X args.request held runId upper).Calls Effect.OfIngestion := by
    intro upper
    refine calls_bind (calls_attempt (calls_bind (calls_ofExcept _) fun run =>
      calls_bind (calls_perform trivial) fun _ => trivial)) fun begun => ?_
    cases begun with
    | error e => trivial
    | ok run =>
      refine calls_bind (calls_attempt (ingestRun_calls X _ _ _)) fun r => ?_
      cases r <;> trivial
  have hsnapshot : (withSnapshot X args.request held runId).Calls Effect.OfIngestion := by
    refine calls_bind (calls_attempt (calls_bind (calls_ofExcept _) fun _ =>
      calls_perform trivial)) fun opened => ?_
    cases opened with
    | error e => trivial
    | ok upper =>
      exact calls_bind (hbody upper) fun _ => calls_bind (calls_attempt (calls_perform trivial))
        fun _ => trivial
  refine calls_bind (calls_attempt (calls_perform trivial)) fun started => ?_
  cases started with
  | error e => trivial
  | ok _ =>
    refine calls_bind hsnapshot fun attempted => ?_
    refine calls_bind (calls_perform trivial) fun _ => ?_
    exact calls_bind (calls_attempt (calls_perform trivial)) fun _ => trivial

theorem ingestTable_calls (args : IngestArgs) :
    (ingestTable X args).Calls Effect.OfIngestion := by
  have htime : (currentTimeOf (ρ := ρ) args.now).Calls Effect.OfIngestion := by
    unfold currentTimeOf
    split
    · trivial
    · exact calls_perform trivial
  refine calls_bind htime fun now => ?_
  refine calls_bind (calls_ofExcept _) fun config => ?_
  refine calls_bind (calls_ofIngestion (requestedRunId_calls _)) fun runId => ?_
  refine calls_bind (calls_perform trivial) fun _ => ?_
  refine calls_bind (calls_perform trivial) fun watermark => ?_
  refine calls_bind (calls_ofExcept _) fun identity => ?_
  refine calls_bind (calls_perform trivial) fun existing => ?_
  cases existing with
  | some existing => exact calls_ofIngestion (reuseOrRejectCommittedBatch_calls _ _ _ _ _)
  | none =>
    refine calls_bind (acquireLeases_calls _ _ _ _) fun leases => ?_
    refine calls_always (calls_bind (withHeartbeat_calls X _ _ _) fun attempted => ?_) ?_
    · cases attempted with
      | unstarted e => exact calls_bind (calls_ofIngestion (recordPrestartFailure_calls _ _ _ _ _)) fun _ => trivial
      | failed e => trivial
      | returned result => trivial
    · refine calls_bind (calls_perform trivial) fun _ => ?_
      exact calls_bind (calls_suppress (calls_perform trivial)) fun _ => releaseOwned_calls _ _ _

theorem reconcileOrphan_calls (args : ReconcileArgs) :
    (reconcileOrphan X args).Calls Effect.Preparing := by
  -- the orphan's objects are read and checked, and no statement before the transaction writes
  have htime : (currentTimeOf (ρ := ρ) args.now).Calls Effect.Preparing := by
    unfold currentTimeOf
    split
    · trivial
    · exact calls_perform trivial
  have hhead : ∀ key, (storedObjectFromHead (ρ := ρ) key).Calls Effect.Preparing := by
    intro key
    refine calls_bind (calls_perform trivial) fun head => ?_
    cases head <;> trivial
  refine calls_bind htime fun now => ?_
  split
  · trivial
  · refine calls_bind ?_ fun m => calls_perform trivial
    refine calls_bind (calls_bind (hhead _) fun object => calls_bind (calls_perform trivial)
      fun content => calls_bind (calls_ofExcept _) fun _ => calls_ofExcept _) fun m => ?_
    refine calls_bind (hhead _) fun object => ?_
    refine calls_bind (calls_bind (calls_perform trivial) fun content =>
      calls_bind (calls_ofExcept _) fun _ => calls_bind (calls_ofExcept _) fun _ => trivial)
      fun verified => ?_
    refine calls_bind (calls_ofExcept _) fun _ => ?_
    refine calls_bind (calls_ofExcept _) fun _ => ?_
    refine calls_bind (calls_ofExcept _) fun config => ?_
    refine calls_bind (calls_ofExcept _) fun _ => ?_
    refine calls_bind (calls_ofExcept _) fun _ => ?_
    refine calls_bind (calls_bind (calls_perform trivial) fun keys => trivial) fun rejects => ?_
    exact calls_bind (calls_ofExcept _) fun _ => trivial

end Calls

end CommercePlatform.Platform
