import CommercePlatform.Lib.Schedule
import CommercePlatform.Platform.Machine
/-!
# Playing the platform

A run of the platform from a schedule, by computation. `Lib.Schedule` plays a list of
moves (start a task, let a process take so many operations, crash it, let time pass) and
yields a run of the machine with the pool it ends in; here is what the platform has to
add to it: what an operation answers and leaves when nothing goes wrong (`playEffect`),
with the proof that the machine allows it (`playEffect_does`). `writes` picks what the
statements of a generator write, which the machine leaves open.

The theorems about runs are about all runs and need none of this. It is there to show
that their hypotheses are met by runs in which something happens: a generator that
commits, one that is refused, an ingestion that comes to its commit. The states are
compared by `decide`, so the sample world below is small and its externals compute: a
row is its number and the time of its cursor, no check rejects it, and every hash is one
constant text of the right form.
-/

namespace CommercePlatform.Platform

open Lib Generator Ingestion

variable {ρ : Type}

/-- The answer is one an operation here can give. Only the warehouse build raises the other
class. -/
def expected {α : Type} : Except Raised α → Bool
  | .ok _ => true
  | .error e =>
    match e.cls with
    | .warehouseBuildError _ => false
    | _ => true

theorem expected_error {α : Type} {r : Except Raised α} (h : expected r = true) :
    ∀ e, r = .error e → Expected e := by
  rintro e rfl errorType hcls
  simp only [expected, hcls] at h
  cases h

/-- What an operation answers and leaves, where it need not wait. No operation is refused or
loses its answer here. -/
def playEffect (X : Externals ρ) (writes : GeneratorConfig → SourceTables ρ → Mutation ρ) (p : Nat)
    (w : World ρ) : (op : Effect ρ) → Option (Except Raised op.Resp × World ρ)
  | .pipeline op =>
    if op.enabled w.pipeline then
      some ((op.run p w.clock w.pipeline).1, { w with pipeline := (op.run p w.clock w.pipeline).2 })
    else none
  | .source op =>
    if op.enabled p w.source then
      some ((op.run X p w.source).1, { w with source := (op.run X p w.source).2 })
    else none
  | .storage op => some ((op.run w.store).1, { w with store := (op.run w.store).2 })
  | .host op => some (op.run p w)
  | .mutate config _ =>
    some (.ok (writes config w.source.tables),
      { w with source := w.source.withUpserts p (writes config w.source.tables).upserts })

theorem playEffect_does {X : Externals ρ} {writes : GeneratorConfig → SourceTables ρ → Mutation ρ}
    (hwrites : ∀ config tables, X.mutates config tables (writes config tables)) {p : Nat}
    {w w' : World ρ} {op : Effect ρ} {r : Except Raised op.Resp}
    (h : playEffect X writes p w op = some (r, w')) : Does X p w op r w' := by
  cases op with
  | pipeline op =>
    -- a statement that is not enabled would wait for a lock, and the player does not play it
    by_cases henabled : op.enabled w.pipeline
    · simp only [playEffect, if_pos henabled, Option.some.injEq, Prod.mk.injEq] at h
      obtain ⟨rfl, rfl⟩ := h
      exact .pipeline op henabled
    · simp only [playEffect, if_neg henabled, reduceCtorEq] at h
  | source op =>
    by_cases henabled : op.enabled p w.source
    · simp only [playEffect, if_pos henabled, Option.some.injEq, Prod.mk.injEq] at h
      obtain ⟨rfl, rfl⟩ := h
      exact .source op henabled
    · simp only [playEffect, if_neg henabled, reduceCtorEq] at h
  | storage op =>
    simp only [playEffect, Option.some.injEq, Prod.mk.injEq] at h
    obtain ⟨rfl, rfl⟩ := h
    exact .storage op
  | host op =>
    obtain ⟨rfl, rfl⟩ := Prod.ext_iff.1 (Option.some.inj h)
    exact .host op
  -- the player draws the generator's writes from a function, one of those `mutates` allows
  | mutate config lease =>
    simp only [playEffect, Option.some.injEq, Prod.mk.injEq] at h
    obtain ⟨rfl, rfl⟩ := h
    exact .mutate config lease _ (hwrites config w.source.tables)

/-- The configuration and the result a generator run returned. -/
def generatedBy (pool : PlatformPool ρ) (p : Nat) : Option (GeneratorConfig × GeneratorResult) :=
  match pool.scripts p with
  | some (.ret (.generated config result)) => some (config, result)
  | _ => none

theorem generatedBy_eq_some {pool : PlatformPool ρ} {p : Nat} {config : GeneratorConfig}
    {result : GeneratorResult} (h : generatedBy pool p = some (config, result)) :
    pool.scripts p = some (.ret (.generated config result)) := by
  unfold generatedBy at h
  split at h
  next hscript =>
    cases h
    exact hscript
  next => cases h

/-- The class of the exception a process ended with. -/
def raisedBy (pool : PlatformPool ρ) (p : Nat) : Option ErrorClass :=
  match pool.scripts p with
  | some (.raise e) => some e.cls
  | _ => none

/-- The process is about to call `commit_table_run`. -/
def committing (pool : PlatformPool ρ) (p : Nat) : Bool :=
  match pool.scripts p with
  | some (.call (.pipeline (.transaction (.commitTableRun _ _))) _) => true
  | _ => false

theorem committing_eq_true {pool : PlatformPool ρ} {p : Nat} (h : committing pool p = true) :
    ∃ commit now next, pool.scripts p =
      some (.call (.pipeline (.transaction (.commitTableRun commit now))) next) := by
  unfold committing at h
  split at h
  next commit now next hscript => exact ⟨commit, now, next, hscript⟩
  next => cases h

/-- The player of the platform. Tasks may be started at any time; an operation that has to wait
stops its process in the schedule. -/
def player (X : Externals ρ) (F : Faults ρ)
    (writes : GeneratorConfig → SourceTables ρ → Mutation ρ)
    (hwrites : ∀ config tables, X.mutates config tables (writes config tables)) :
    Player (platform X F) where
  starts := fun _ _ _ => true
  run := fun p w op => (playEffect X writes p w op).filter fun r => expected r.1
  refuse := fun _ _ => false
  lose := fun _ _ _ _ => none
  other := fun w e =>
    match e with
    | .tick now => if w.clock ≤ now then some { w with clock := now } else none
    | .lease call =>
      if w.pipeline.fences = [] then
        some { w with
          pipeline := { w.pipeline with sourceLease := call.apply w.pipeline.sourceLease } }
      else none
    | _ => none
  starts_spec := fun _ _ _ _ => trivial
  run_spec := by
    intro p w op r w' h
    obtain ⟨hplay, hexpected⟩ := Option.filter_eq_some_iff.1 h
    exact .done (playEffect_does hwrites hplay) (expected_error hexpected)
  refuse_spec := fun _ _ _ _ h => by cases h
  lose_spec := fun _ _ _ _ _ h => by cases h
  other_spec := by
    intro w e w' h
    split at h
    next now =>
      split at h
      next hle =>
        cases h
        exact .tick now hle
      next => cases h
    next call =>
      split at h
      next hfences =>
        cases h
        exact .lease call hfences
      next => cases h
    next => cases h

/-! Orders that are their number and their cursor time, which no check rejects; every
generator run writes order 1 at its logical date. -/

/-- Any SHA-256 value. -/
def sampleHash : String := "0000000000000000000000000000000000000000000000000000000000000000"

theorem isSha256_sampleHash : IsSha256 sampleHash := by decide +kernel

abbrev SampleRow : Type := Nat × Timestamp

def sampleRules : RecordRules SampleRow where
  cursor := fun r => ⟨some r.2, [.int r.1], by simp⟩
  schemaErrors := fun _ => []
  nullKey := fun _ => false
  sameKey := fun r r' => r.1 == r'.1
  domainErrors := fun _ => .ok []
  corrupt := fun _ _ r => .ok r
  withPrimaryKeyOf := fun r r' => (r'.1, r.2)
  arrowRow := fun _ => .ok ()
  rawPayload := fun _ => .ok ""

/-- A configuration against the seed of `sampleWorld`. -/
def sampleConfig : GeneratorConfig where
  sourceSnapshotId := "seed:c:1970-01-01T00:00:00+00:00"
  randomSeed := 7
  logicalDate := 86400000000
  orderCount := 1
  anomalyProfile := .default
  generatorVersion := generatorVersion
  progressTimeScale := 1
  snapshotNamed := by decide
  seedFits := by decide
  scaleFits := by decide
  supported := by decide

/-- A request for its day. -/
def sampleRequest (sourceTable : String) (registered : ∃ config, tableConfig sourceTable = .ok config) :
    TableIngestionRequest where
  sourceTable := sourceTable
  batchId := "d__19700102T000000Z"
  logicalDate := 86400000000
  attemptNumber := 1
  runId := none
  pipelineName := none
  pageSize := none
  corruptionPlan := none
  registered := registered
  batchNamed := by decide
  pipelineNamed := fun _ h => by cases h
  attempted := Nat.one_pos
  paged := fun _ h => by cases h

/-- What a generator run writes. -/
def sampleWrites (config : GeneratorConfig) (_ : SourceTables SampleRow) : Mutation SampleRow :=
  ⟨[("orders", (1, config.logicalDate))], [("orders_inserted", 1)], []⟩

def sampleExternals : Externals SampleRow where
  rules := fun _ => sampleRules
  brokenReferences := fun _ _ _ => .ok []
  uuid5 := id
  mutates := fun config tables m => m = sampleWrites config tables
  logicalHash := fun _ _ _ => sampleHash
  pageSize := .ok 10
  sha256 := fun _ => sampleHash
  size := fun _ => 1
  tableLogicalHash := fun _ _ => sampleHash
  logicalHash_isSha256 := fun _ _ _ => isSha256_sampleHash
  sha256_isSha256 := fun _ => isSha256_sampleHash
  tableLogicalHash_isSha256 := fun _ _ => isSha256_sampleHash

/-- After a seed, before anything else: these rows are in every table. -/
def sampleWorld (rows : List SampleRow) : World SampleRow where
  clock := 0
  nextId := 1
  heartbeats := fun _ => none
  pipeline := ⟨.empty, none, [], .empty, some ("c", 0)⟩
  source := ⟨fun _ => rows, IndexedTable.empty, [], fun _ => none, fun _ => none, []⟩
  store := Table.empty

abbrev samplePlayer : Player (platform sampleExternals (Faults.any SampleRow)) :=
  player sampleExternals _ sampleWrites fun _ _ => rfl

end CommercePlatform.Platform
