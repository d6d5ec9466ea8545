import CommercePlatform.Control.Metadata
/-!
# Generator runs and their Source commits

`src/generator/core/config.py`, `metadata.py` and `commits.py`: the inputs that
determine a run, the table `generator_runs` of the pipeline database and the table
`generator_commits` of the Source database.

Two tables say that a configuration was applied, and they are in different databases, so
no transaction writes both. `generator_commits` is written in the transaction that makes
the changes, and is therefore right whatever happens; `generator_runs` is written before
and after it and can be behind. Both have a unique index over the seven inputs of a
configuration: the one of `generator_commits` is total, the one of `generator_runs` is
partial (`WHERE status = 'SUCCESS'`), so a configuration may be started and fail any
number of times while one run of it succeeds.

The index is a field of the table, so that a table with two markers of one
configuration, or two `SUCCESS` rows of one, cannot be built. A statement is a function
to `Except`: an `INSERT` or `UPDATE` that a constraint rejects raises what psycopg
raises.

`record_finished_run` updates the row of its run whatever status the row has. That is
what lets a late failure write `FAILED` over a `SUCCESS`, and `Generator.ExactlyOnce` is
stated so that it does not depend on it.

The last section says what each transaction did when it returned. The run proofs use
these lemmas and never unfold a statement.
-/

namespace CommercePlatform.Generator

open Lib

/-- `SUPPORTED_ANOMALY_PROFILES`. -/
inductive AnomalyProfile where
  | default
  | lateArrival
  | membershipChange
  | subscriptionActive
  | subscriptionPaymentFailed
  | subscriptionCancelRequested
  | subscriptionChurned
deriving DecidableEq, Repr

def AnomalyProfile.text : AnomalyProfile → String
  | .default => "default"
  | .lateArrival => "late-arrival"
  | .membershipChange => "membership-change"
  | .subscriptionActive => "subscription-active"
  | .subscriptionPaymentFailed => "subscription-payment-failed"
  | .subscriptionCancelRequested => "subscription-cancel-requested"
  | .subscriptionChurned => "subscription-churned"

/-- `GENERATOR_VERSION`. -/
def generatorVersion : String := "1.15.0"

/-- `SUPPORTED_GENERATOR_VERSIONS`. -/
def supportedGeneratorVersions : List String := [generatorVersion]

/-- `GeneratorConfig`, with the checks of `__post_init__` as fields. Two runs are of the same
configuration when all seven inputs are equal: `deterministic_inputs()` has the same seven,
and so have both unique indexes. -/
structure GeneratorConfig where
  sourceSnapshotId : String
  randomSeed : Int
  logicalDate : Timestamp
  orderCount : Nat
  anomalyProfile : AnomalyProfile
  generatorVersion : String
  progressTimeScale : Nat
  snapshotNamed : sourceSnapshotId ≠ "" ∧ sourceSnapshotId.length ≤ 256
  seedFits : -(2 ^ 63) ≤ randomSeed ∧ randomSeed < 2 ^ 63
  scaleFits : 1 ≤ progressTimeScale ∧ progressTimeScale < 2 ^ 31
  supported : generatorVersion ∈ supportedGeneratorVersions
deriving DecidableEq

/-- `result_counts`. -/
abbrev ResultCounts := List (String × Nat)

/-- `generator_runs.status`. -/
inductive GeneratorStatus where
  | running
  | success
  | failed
deriving DecidableEq, Repr

/-- A row of `generator_runs`. -/
structure GeneratorRunRow where
  generatorRunId : RunId
  inputs : GeneratorConfig
  resultCounts : Option ResultCounts
  logicalHash : Option String
  startedAt : Timestamp
  finishedAt : Option Timestamp
  status : GeneratorStatus
  errorMessage : Option String
deriving DecidableEq

/-- The row is in the index `generator_runs_success_input_unique_v2` at `config`: it has the
inputs and its status is `SUCCESS`. -/
def GeneratorRunRow.SucceededFor (config : GeneratorConfig) (r : GeneratorRunRow) : Prop :=
  r.inputs = config ∧ r.status = .success

instance (config : GeneratorConfig) : DecidablePred (GeneratorRunRow.SucceededFor config) :=
  fun _ => inferInstanceAs (Decidable (_ ∧ _))

/-- The table, with its partial unique index. -/
structure GeneratorRuns extends Table GeneratorRunRow RunId GeneratorRunRow.generatorRunId where
  successUnique : ∀ config, ∀ r ∈ rows, ∀ r' ∈ rows, r.SucceededFor config →
    r'.SucceededFor config → r = r'

def GeneratorRuns.empty : GeneratorRuns := ⟨Table.empty, fun _ r hr => by cases hr⟩

/-- The row `record_started_run` inserts. -/
def startedRow (id : RunId) (config : GeneratorConfig) (now : Timestamp) : GeneratorRunRow where
  generatorRunId := id
  inputs := config
  resultCounts := none
  logicalHash := none
  startedAt := now
  finishedAt := none
  status := .running
  errorMessage := none

/-- `record_started_run`: the row is inserted with status `RUNNING`. `order_count` is an
`INTEGER`, so a larger count is refused by the database and not by the configuration. -/
def recordStartedRun (id : RunId) (config : GeneratorConfig) (now : Timestamp)
    (t : GeneratorRuns) : Except Raised GeneratorRuns :=
  if config.orderCount < 2 ^ 31 then
    if h : t.get id = none then
      .ok {
        toTable := t.toTable.insert (startedRow id config now) h
        successUnique := by
          intro config' r hr r' hr' hs hs'
          have hold : ∀ q ∈ t.rows ++ [startedRow id config now], q.SucceededFor config' →
              q ∈ t.rows := by
            intro q hq hsq
            rcases List.mem_append.1 hq with hq | hq
            · exact hq
            · obtain rfl : q = startedRow id config now := by simpa using hq
              cases hsq.2
          exact t.successUnique config' r (hold r hr hs) r' (hold r' hr' hs') hs hs' }
    else .error ⟨.uniqueViolation, "duplicate key value violates unique constraint"⟩
  else .error ⟨.otherException, "integer out of range"⟩

/-- `SET finished_at, result_counts, logical_hash, status, error_message`. -/
def GeneratorRunRow.finish (status : GeneratorStatus) (counts : Option ResultCounts)
    (hash message : Option String) (now : Timestamp) (r : GeneratorRunRow) : GeneratorRunRow :=
  { r with
    finishedAt := some now
    resultCounts := counts
    logicalHash := hash
    status := status
    errorMessage := message }

/-- `generator_runs_success_evidence_check`: a row that says `SUCCESS` has a finishing time,
counts and a hash. -/
def GeneratorRunRow.Evident (r : GeneratorRunRow) : Prop :=
  r.status = .success → r.resultCounts.isSome ∧ ∃ h ∈ r.logicalHash, IsSha256 h

instance : DecidablePred GeneratorRunRow.Evident :=
  fun _ => inferInstanceAs (Decidable (_ → _))

/-- No other row is in the unique index where `r` would be. -/
def GeneratorRuns.SuccessFree (t : GeneratorRuns) (r : GeneratorRunRow) : Prop :=
  r.status = .success → ∀ q ∈ t.rows, q.generatorRunId ≠ r.generatorRunId →
    ¬ q.SucceededFor r.inputs

instance (t : GeneratorRuns) : DecidablePred t.SuccessFree :=
  fun _ => inferInstanceAs (Decidable (_ → _))

/-- Rewrite the row at `id` where the unique index allows it. -/
def GeneratorRuns.rewrite (t : GeneratorRuns) (id : RunId) (f : GeneratorRunRow → GeneratorRunRow)
    (hf : ∀ r, (f r).generatorRunId = r.generatorRunId)
    (hfree : ∀ r ∈ t.get id, t.SuccessFree (f r)) : GeneratorRuns where
  toTable := t.toTable.modify id f hf
  successUnique := by
    intro config r hr r' hr' hs hs'
    obtain ⟨q, hq, rfl⟩ := List.mem_map.1 hr
    obtain ⟨q', hq', rfl⟩ := List.mem_map.1 hr'
    -- a rewritten row meets no other row in the index, and there is one row at `id`
    have hmixed : ∀ a ∈ t.rows, ∀ b ∈ t.rows, a.generatorRunId = id → b.generatorRunId ≠ id →
        (f a).SucceededFor config → ¬ b.SucceededFor config := by
      intro a ha b hb haid hbid hsa hsb
      have hget : t.get id = some a := Table.get_eq_some.2 ⟨ha, haid⟩
      refine hfree a hget hsa.2 b hb ?_ (by rw [hsa.1]; exact hsb)
      rw [hf, haid]
      exact hbid
    by_cases hid : q.generatorRunId = id <;> by_cases hid' : q'.generatorRunId = id
    · have heq : q = q' :=
        List.inj_on_of_nodup_map t.unique hq hq' (hid.trans hid'.symm)
      rw [heq]
    · rw [if_pos hid] at hs
      rw [if_neg hid'] at hs'
      exact absurd hs' (hmixed q hq q' hq' hid hid' hs)
    · rw [if_neg hid] at hs
      rw [if_pos hid'] at hs'
      exact absurd hs (hmixed q' hq' q hq hid' hid hs')
    · rw [if_neg hid] at hs ⊢
      rw [if_neg hid'] at hs' ⊢
      exact t.successUnique config q hq q' hq' hs hs'

/-- `record_finished_run`. A missing row is no error, since an `UPDATE` may hit nothing, and the
status of the row that is there does not matter. -/
def recordFinishedRun (id : RunId) (status : GeneratorStatus) (counts : Option ResultCounts)
    (hash message : Option String) (now : Timestamp) (t : GeneratorRuns) :
    Except Raised GeneratorRuns := do
  require (status = .success ∨ status = .failed)
    ⟨.valueError, "Generator completion status must be SUCCESS or FAILED"⟩
  require (status = .success → counts.isSome ∧ hash.isSome)
    ⟨.valueError, "Successful generator runs require result_counts and logical_content_hash"⟩
  require (∀ r ∈ t.get id, (r.finish status counts hash message now).Evident)
    ⟨.checkViolation, "new row violates check constraint"⟩
  if h : ∀ r ∈ t.get id, t.SuccessFree (r.finish status counts hash message now) then
    return t.rewrite id (.finish status counts hash message now) (fun _ => rfl) h
  else .error ⟨.uniqueViolation, "duplicate key value violates unique constraint"⟩

/-- The query of `_successful_result`. By the partial index at most one row can answer it. -/
def successfulRow (t : GeneratorRuns) (config : GeneratorConfig) : Option GeneratorRunRow :=
  t.rows.find? fun r => r.SucceededFor config

/-- A row of `generator_commits`. -/
structure GeneratorCommitRow where
  generatorRunId : RunId
  inputs : GeneratorConfig
  resultCounts : ResultCounts
  logicalHash : String
deriving DecidableEq

/-- The table, with `generator_commits_input_unique`. -/
abbrev GeneratorCommits := IndexedTable GeneratorCommitRow RunId GeneratorConfig
  GeneratorCommitRow.generatorRunId GeneratorCommitRow.inputs

/-- `committed_result`. By the index of the table at most one row can answer it. -/
def committedResult (t : GeneratorCommits) (config : GeneratorConfig) :
    Option GeneratorCommitRow :=
  t.rows.find? fun r => r.inputs = config

/-! ## What the transactions did when they returned -/

section Spec

variable {t t' : GeneratorRuns} {id : RunId} {config : GeneratorConfig} {now : Timestamp}

theorem recordStartedRun_eq_ok (h : recordStartedRun id config now t = .ok t') :
    t.get id = none ∧ ∀ id', t'.get id' =
      if id' = id then some (startedRow id config now) else t.get id' := by
  unfold recordStartedRun at h
  split at h
  next =>
    split at h
    next hfree =>
      cases h
      exact ⟨hfree, fun id' => Table.get_insert t.toTable (startedRow id config now) hfree id'⟩
    next => cases h
  next => cases h

theorem recordFinishedRun_eq_ok {status : GeneratorStatus} {counts : Option ResultCounts}
    {hash message : Option String}
    (h : recordFinishedRun id status counts hash message now t = .ok t') (id' : RunId) :
    t'.get id' = if id' = id then (t.get id').map (.finish status counts hash message now)
      else t.get id' := by
  unfold recordFinishedRun at h
  simp only [bind_eq_ok, require_eq_ok, exists_const] at h
  obtain ⟨-, -, -, h⟩ := h
  split at h
  next =>
    cases h
    exact Table.get_modify t.toTable id (.finish status counts hash message now) (fun _ => rfl) id'
  next => cases h

theorem successfulRow_eq_some {r : GeneratorRunRow} (h : successfulRow t config = some r) :
    t.get r.generatorRunId = some r ∧ r.inputs = config ∧ r.status = .success := by
  have hr : r ∈ t.rows := List.mem_of_find?_eq_some h
  have hs : r.SucceededFor config := by simpa using List.find?_some h
  exact ⟨Table.get_of_mem hr, hs.1, hs.2⟩

theorem committedResult_eq_some {commits : GeneratorCommits} {r : GeneratorCommitRow} :
    committedResult commits config = some r ↔ r ∈ commits.rows ∧ r.inputs = config := by
  constructor
  · intro h
    exact ⟨List.mem_of_find?_eq_some h, by simpa using List.find?_some h⟩
  · rintro ⟨hr, rfl⟩
    cases hf : committedResult commits r.inputs with
    | none => exact absurd (List.find?_eq_none.1 hf r hr) (by simp)
    | some r' =>
      have hr' : r' ∈ commits.rows := List.mem_of_find?_eq_some hf
      have hinputs : r'.inputs = r.inputs := by simpa using List.find?_some hf
      rw [IndexedTable.eq_of_index hr' hr hinputs]

end Spec

end CommercePlatform.Generator
