import CommercePlatform.Platform.Player
/-!
# A configuration is applied once

`Generator.Service` can fail anywhere: before the Source commit, after it, with the
answer to `COMMIT` lost, with the process gone and the lease running out under it. This
file proves that none of it applies a configuration twice or makes a call return what
was not committed, for generator runs of any configurations beside each other and beside
ingestions.

The invariant is over the two databases and has nothing to say about where a process is:

> `Books`: the markers are the runs that were applied, in order; the tables are the
> initial ones with the writes of these; every marker belongs to a run row of its
> configuration; every `SUCCESS` row has a marker with its counts and hash.

That no configuration has two markers is the unique index of `generator_commits`, a
field of the table. What a process contributes is what it knows (`GeneratorKnows`): that
its row exists, what its draft holds, that its marker is committed. `GeneratorAllowed`
lists the operations a call may come to at each state of knowledge, and `next` what an
answer adds. The proof then has two halves that do not look at each other:

- `runGenerator_follows`: the program of `run_generator` only ever does what is allowed
  by what it knows. This is by the structure of the program, one lemma per function of
  the source;
- `stepKeeps_call`: every allowed operation keeps the books, keeps true what the others
  know, and makes true what the process then knows. This is by the operations, one lemma
  each.

`Platform.Player` puts them together for every schedule. What a process knows speaks of
markers and rows that are there and of its own draft. Markers and rows are never removed
and nobody else touches a draft: `Ledger.Extends` is what one operation leaves, and
knowledge holds in every ledger it leaves behind.

A call returns the marker it found or left. Its row need not say `SUCCESS`:
`record_finished_run` updates the row whatever its status is, so a call that failed
after its Source commit may write `FAILED` over the `SUCCESS` another call has put
there. A later call then finds the marker, under the lease. So the theorem is about
markers and tables, which no failure can take back, and says of the rows only that a
`SUCCESS` shows a marker.

A `COMMIT` that raised is the one place where a process does not know what it did; it is
`unsure` and does nothing more to the Source than roll back. The marker, if there is
one, is found by the next call of the configuration.
-/

namespace CommercePlatform.Generator

open Lib Platform

variable {ρ : Type}

/-- How far a call is. `settled` has the marker its result shows; `unsure` is a run that failed
somewhere after its row was there, and may or may not have committed. -/
inductive GeneratorKnows where
  | aside
  | calling (config : GeneratorConfig)
  | named (config : GeneratorConfig) (id : RunId)
  | found (config : GeneratorConfig) (marker : GeneratorCommitRow)
  | started (config : GeneratorConfig) (id : RunId)
  | drafting (config : GeneratorConfig) (id : RunId)
  | marked (config : GeneratorConfig) (id : RunId) (marker : GeneratorCommitRow)
  | committed (config : GeneratorConfig) (id : RunId) (marker : GeneratorCommitRow)
  | settled (config : GeneratorConfig) (marker : GeneratorCommitRow)
  | unsure (config : GeneratorConfig) (id : RunId)

/-- An operation that neither reads nor writes what a generator run is about. -/
def Neutral : Effect ρ → Prop
  | .pipeline (.successfulRow _) => False
  | .pipeline (.recordStartedRun ..) => False
  | .pipeline (.recordFinishedRun ..) => False
  | .source (.committedResult _) => False
  | .source .begin => False
  | .source (.recordSourceCommit _) => False
  | .source .commit => False
  | .source .rollback => False
  | .host .uuid4 => False
  | .mutate .. => False
  | _ => True

/-- The marker and the row agree on the run and its result. -/
def GeneratorCommitRow.Shown (m : GeneratorCommitRow) (r : GeneratorRunRow) : Prop :=
  r.generatorRunId = m.generatorRunId ∧ r.resultCounts = some m.resultCounts ∧
    r.logicalHash = some m.logicalHash

/-- `SUCCESS` of the run that left the marker. -/
abbrev recordSuccess (m : GeneratorCommitRow) : PipelineEffect :=
  .recordFinishedRun m.generatorRunId .success (some m.resultCounts) (some m.logicalHash) none

/-- `FAILED` of a run. -/
abbrev recordFailure (id : RunId) (message : Option String) : PipelineEffect :=
  .recordFinishedRun id .failed none none message

/-- The operations a call may come to, by what it knows. A constructor for each operation of
`run_generator` that touches the ledger; the others are `Neutral` and always allowed. -/
inductive GeneratorAllowed : GeneratorKnows → Effect ρ → Prop where
  | neutral (k : GeneratorKnows) (op : Effect ρ) (h : Neutral op) : GeneratorAllowed k op
  | uuid4 (k : GeneratorKnows) : GeneratorAllowed k (.host .uuid4)
  | successfulRow (config : GeneratorConfig) :
      GeneratorAllowed (.calling config) (.pipeline (.successfulRow config))
  | committedResult (config : GeneratorConfig) (id : RunId) :
      GeneratorAllowed (.named config id) (.source (.committedResult config))
  | repair (config : GeneratorConfig) (m : GeneratorCommitRow) :
      GeneratorAllowed (.found config m) (.pipeline (recordSuccess m))
  | start (config : GeneratorConfig) (id : RunId) :
      GeneratorAllowed (.named config id) (.pipeline (.recordStartedRun id config))
  | begin (config : GeneratorConfig) (id : RunId) :
      GeneratorAllowed (.started config id) (.source .begin)
  | mutate (config : GeneratorConfig) (id : RunId) (config' : GeneratorConfig)
      (lease : SourceMutationLease) :
      GeneratorAllowed (.drafting config id) (.mutate config' lease)
  | mark (config : GeneratorConfig) (id : RunId) (m : GeneratorCommitRow)
      (hid : m.generatorRunId = id) (hconfig : m.inputs = config) :
      GeneratorAllowed (.drafting config id) (.source (.recordSourceCommit m))
  | commit (config : GeneratorConfig) (id : RunId) (m : GeneratorCommitRow) :
      GeneratorAllowed (.marked config id m) (.source .commit)
  | succeed (config : GeneratorConfig) (id : RunId) (m : GeneratorCommitRow) :
      GeneratorAllowed (.committed config id m) (.pipeline (recordSuccess m))
  | rollbackDraft (config : GeneratorConfig) (id : RunId) :
      GeneratorAllowed (.drafting config id) (.source .rollback)
  | rollbackMarked (config : GeneratorConfig) (id : RunId) (m : GeneratorCommitRow) :
      GeneratorAllowed (.marked config id m) (.source .rollback)
  | rollback (config : GeneratorConfig) (id : RunId) :
      GeneratorAllowed (.unsure config id) (.source .rollback)
  | failStarted (config : GeneratorConfig) (id : RunId) (message : Option String) :
      GeneratorAllowed (.started config id) (.pipeline (recordFailure id message))
  | failCommitted (config : GeneratorConfig) (id : RunId) (m : GeneratorCommitRow)
      (message : Option String) :
      GeneratorAllowed (.committed config id m) (.pipeline (recordFailure id message))
  | fail (config : GeneratorConfig) (id : RunId) (message : Option String) :
      GeneratorAllowed (.unsure config id) (.pipeline (recordFailure id message))

/-- What a call knows after an answer. A `SUCCESS` row that was read shows some marker; an
operation of the Source transaction that raised leaves the call unsure. -/
def GeneratorKnows.next : GeneratorKnows → (op : Effect ρ) → Except Raised op.Resp →
    GeneratorKnows → Prop
  | .calling config, .pipeline (.successfulRow _), .ok (some row), k' =>
    ∃ m, k' = .settled config m ∧ m.Shown row
  | .calling config, .host .uuid4, .ok id, k' => k' = .named config id
  | .named config _, .source (.committedResult _), .ok (some m), k' => k' = .found config m
  | .named config id, .pipeline (.recordStartedRun ..), .ok _, k' => k' = .started config id
  | .found config m, .pipeline (.recordFinishedRun ..), .ok _, k' => k' = .settled config m
  | .started config id, .source .begin, .ok _, k' => k' = .drafting config id
  | .started config id, .source .begin, .error _, k' => k' = .unsure config id
  | .drafting config id, .source (.recordSourceCommit m), .ok _, k' => k' = .marked config id m
  | .drafting config id, .source (.recordSourceCommit _), .error _, k' => k' = .unsure config id
  | .drafting config id, .source .rollback, _, k' => k' = .unsure config id
  | .marked config id _, .source .rollback, _, k' => k' = .unsure config id
  | .marked config id m, .source .commit, .ok _, k' => k' = .committed config id m
  | .marked config id _, .source .commit, .error _, k' => k' = .unsure config id
  | .committed config _ m, .pipeline (.recordFinishedRun _ .success ..), .ok _, k' =>
    k' = .settled config m
  | .committed config id _, .pipeline (.recordFinishedRun ..), _, k' => k' = .unsure config id
  | k, _, _, k' => k' = k

def generatorProtocol (ρ : Type) : Protocol (Effect ρ) Effect.Resp Raised GeneratorKnows where
  allowed := GeneratorAllowed
  next := GeneratorKnows.next

/-! ## A generator run follows the protocol -/

section Follows

variable {X : Externals ρ} {config : GeneratorConfig} {id : RunId} {m : GeneratorCommitRow}
  {lease : SourceMutationLease}

theorem next_neutral {k k' : GeneratorKnows} {op : Effect ρ} (hop : Neutral op)
    {r : Except Raised op.Resp} (h : k.next op r k') : k' = k := by
  cases op with
  | pipeline op => cases op <;> first | exact hop.elim | (cases k <;> exact h)
  | source op => cases op <;> first | exact hop.elim | (cases k <;> exact h)
  | storage op => cases k <;> exact h
  | host op => cases op <;> first | exact hop.elim | (cases k <;> exact h)
  | mutate config lease => exact hop.elim

/-- An operation that tells the call nothing. -/
theorem follows_neutral {k : GeneratorKnows} {op : Effect ρ} (hop : Neutral op)
    {Q : op.Resp → GeneratorKnows → Prop} {E : Raised → GeneratorKnows → Prop}
    (hok : ∀ a, Q a k) (herror : ∀ e, E e k) :
    Follows (generatorProtocol ρ) Q E k (Script.perform op) := by
  refine follows_perform.2 ⟨.neutral k op hop, fun a k' h => ?_, fun e k' h => ?_⟩
  · rw [next_neutral hop h]
    exact hok a
  · rw [next_neutral hop h]
    exact herror e

/-- One operation of a call, by what it knows afterwards. -/
theorem follows_op {k : GeneratorKnows} {op : Effect ρ} (hallowed : GeneratorAllowed k op)
    {Q : op.Resp → GeneratorKnows → Prop} {E : Raised → GeneratorKnows → Prop}
    (hok : ∀ a k', k.next op (.ok a) k' → Q a k')
    (herror : ∀ e k', k.next op (.error e) k' → E e k') :
    Follows (generatorProtocol ρ) Q E k (Script.perform op) :=
  follows_perform.2 ⟨hallowed, hok, herror⟩

theorem follows_checked {α : Type} {r : Except Raised α} {k : GeneratorKnows}
    {Q : α → GeneratorKnows → Prop} {E : Raised → GeneratorKnows → Prop}
    (hok : ∀ a, r = .ok a → Q a k) (herror : ∀ e, E e k) :
    Follows (generatorProtocol ρ) Q E k (Script.ofExcept r) :=
  follows_ofExcept.2 ⟨hok, fun e _ => herror e⟩

/-- Where a run may be when it fails: its row is there, and it may not commit any more.
`record_finished_run` with `FAILED` is allowed in all of these. -/
def Fallible (config : GeneratorConfig) (id : RunId) (k : GeneratorKnows) : Prop :=
  k = .started config id ∨ k = .unsure config id ∨ ∃ m, k = .committed config id m

theorem follows_assertSourceCursorForward (logicalDate : Timestamp) (tables : List String)
    (k : GeneratorKnows) :
    Follows (generatorProtocol ρ) (fun _ k' => k' = k) (fun _ k' => k' = k) k
      (assertSourceCursorForward logicalDate tables) := by
  induction tables with
  | nil => exact follows_pure.2 rfl
  | cons table tables ih =>
    refine follows_bind.2 (follows_checked (fun config _ => ?_) fun _ => rfl)
    refine follows_bind.2 (follows_neutral (by trivial) (fun maximum => ?_) fun _ => rfl)
    exact follows_bind.2 (follows_checked (fun _ _ => ih) fun _ => rfl)

/-- Where the body of the Source transaction may raise. -/
def Drafted (config : GeneratorConfig) (id : RunId) (k : GeneratorKnows) : Prop :=
  k = .drafting config id ∨ k = .unsure config id ∨ ∃ m, k = .marked config id m

theorem follows_mutateSource :
    Follows (generatorProtocol ρ)
      (fun m k => k = .marked config id m ∧ m.generatorRunId = id ∧ m.inputs = config)
      (fun _ k => Drafted config id k) (.drafting config id) (mutateSource X config id lease) := by
  refine follows_bind.2 ((follows_assertSourceCursorForward _ _ _).imp ?_ ?_)
  · rintro _ k rfl
    refine follows_bind.2 (follows_op (.mutate config id config lease) ?_ ?_)
    · rintro mutation k rfl
      refine follows_bind.2 (follows_op (.mark config id _ rfl rfl) ?_ ?_)
      · rintro _ k rfl
        refine follows_bind.2 (follows_neutral (by trivial) (fun _ => ?_) fun _ => .inr (.inr ⟨_, rfl⟩))
        exact follows_pure.2 ⟨rfl, rfl, rfl⟩
      · rintro e k rfl
        exact .inr (.inl rfl)
    · rintro e k rfl
      exact .inl rfl
  · rintro e k rfl
    exact .inl rfl

/-- A rollback: the run does not commit. -/
theorem follows_rollback {k : GeneratorKnows} (h : Drafted config id k) :
    Follows (generatorProtocol ρ) (fun _ k' => k' = .unsure config id)
      (fun _ k' => k' = .unsure config id) k (source .rollback) := by
  obtain rfl | rfl | ⟨m, rfl⟩ := h
  · exact follows_op (.rollbackDraft config id) (fun _ _ h => h) fun _ _ h => h
  · exact follows_op (.rollback config id) (fun _ _ h => h) fun _ _ h => h
  · exact follows_op (.rollbackMarked config id m) (fun _ _ h => h) fun _ _ h => h

theorem follows_commitToSource :
    Follows (generatorProtocol ρ)
      (fun m k => k = .committed config id m ∧ m.generatorRunId = id ∧ m.inputs = config)
      (fun _ k => Fallible config id k) (.started config id)
      (commitToSource X config id lease) := by
  refine follows_bind.2 (follows_op (.begin config id) ?_ ?_)
  · rintro _ k rfl
    -- nothing is known of a marker until the mutation returns, and a rollback forgets it
    refine follows_bind.2 (follows_onError.2 (follows_mutateSource.imp ?_ ?_))
    · rintro m k ⟨rfl, hid, hconfig⟩
      refine follows_bind.2 (follows_onError.2 (follows_op (.commit config id m) ?_ ?_))
      · rintro _ k rfl
        refine follows_bind.2 (follows_neutral (by trivial) (fun _ => ?_)
          fun _ => .inr (.inr ⟨m, rfl⟩))
        exact follows_pure.2 ⟨rfl, hid, hconfig⟩
      -- a COMMIT that raised may have committed: from there on the script is unsure of it
      · rintro e k rfl
        refine follows_bind.2 (follows_suppress.2 ((follows_rollback (.inr (.inl rfl))).imp ?_ ?_))
        · rintro _ k rfl
          exact follows_suppress.2 (follows_neutral (by trivial) (fun _ => .inr (.inl rfl))
            fun _ => .inr (.inl rfl))
        · rintro _ k rfl
          exact follows_suppress.2 (follows_neutral (by trivial) (fun _ => .inr (.inl rfl))
            fun _ => .inr (.inl rfl))
    · intro e k hk
      exact follows_suppress.2 ((follows_rollback hk).imp (fun _ _ h => .inr (.inl h))
        fun _ _ h => .inr (.inl h))
  · rintro e k rfl
    exact .inr (.inl rfl)

/-- What a call that returned knows. -/
def Settled (config : GeneratorConfig) (result : GeneratorResult) (k : GeneratorKnows) : Prop :=
  ∃ m, k = .settled config m ∧ result.generatorRunId = m.generatorRunId ∧
    result.resultCounts = m.resultCounts ∧ result.logicalContentHash = m.logicalHash

theorem follows_mutateAndRecord :
    Follows (generatorProtocol ρ) (fun result k => Settled config result k)
      (fun _ k => Fallible config id k) (.started config id)
      (mutateAndRecord X config id lease) := by
  refine follows_bind.2 (follows_commitToSource.imp ?_ fun _ _ h => h)
  rintro m k ⟨rfl, rfl, hconfig⟩
  refine follows_bind.2 (follows_op (.succeed config _ m) ?_ ?_)
  · rintro _ k rfl
    exact follows_pure.2 ⟨m, rfl, rfl, rfl, rfl⟩
  · rintro e k rfl
    exact .inr (.inl rfl)

theorem follows_fail {k : GeneratorKnows} (h : Fallible config id k) (message : Option String) :
    Follows (generatorProtocol ρ) (fun _ _ => True) (fun _ _ => True) k
      (pipeline (recordFailure id message)) := by
  obtain rfl | rfl | ⟨m, rfl⟩ := h
  · exact follows_op (.failStarted config id message) (fun _ _ _ => trivial) fun _ _ _ => trivial
  · exact follows_op (.fail config id message) (fun _ _ _ => trivial) fun _ _ _ => trivial
  · exact follows_op (.failCommitted config id m message) (fun _ _ _ => trivial)
      fun _ _ _ => trivial

theorem follows_runUnderLease :
    Follows (generatorProtocol ρ) (fun result k => Settled config result k) (fun _ _ => True)
      (.named config id) (runUnderLease X config id lease) := by
  refine follows_bind.2 (follows_op (.committedResult config id) ?_ fun _ _ _ => trivial)
  intro found k hk
  cases found with
  | some m =>
    obtain rfl : k = .found config m := hk
    refine follows_bind.2 (follows_op (.repair config m) ?_ fun _ _ _ => trivial)
    rintro _ k rfl
    exact follows_pure.2 ⟨m, rfl, rfl, rfl, rfl⟩
  | none =>
    obtain rfl : k = .named config id := hk
    refine follows_bind.2 (follows_op (.start config id) ?_ fun _ _ _ => trivial)
    rintro _ k rfl
    refine follows_onError.2 (follows_mutateAndRecord.imp (fun _ _ h => h) ?_)
    intro e k hk
    exact (follows_fail hk (some e.message)).imp (fun _ _ _ => trivial) fun _ _ _ => trivial

theorem runGenerator_follows :
    Follows (generatorProtocol ρ) (fun result k => Settled config result k) (fun _ _ => True)
      (.calling config) (runGenerator X config) := by
  refine follows_bind.2 (follows_bind.2 (follows_neutral (by trivial) (fun seed => ?_)
    fun _ => trivial))
  cases seed with
  | none => trivial
  | some seed =>
    refine follows_pure.2 ?_
    refine follows_bind.2 (follows_checked (fun _ _ => ?_) fun _ => trivial)
    refine follows_bind.2 (follows_op (.successfulRow config) ?_ fun _ _ _ => trivial)
    intro found k hk
    cases found with
    -- the row of a successful run shows the marker it is about
    | some row =>
      obtain ⟨m, rfl, hid, hcounts, hhash⟩ := hk
      refine follows_checked (fun result hresult => ?_) fun _ => trivial
      rw [GeneratorRunRow.result, hcounts, hhash] at hresult
      cases hresult
      exact ⟨m, rfl, hid, rfl, rfl⟩
    | none =>
      obtain rfl : k = .calling config := hk
      refine follows_bind.2 (follows_op (.uuid4 _) ?_ fun _ _ _ => trivial)
      rintro id k rfl
      refine follows_bind.2 (follows_neutral (by trivial) (fun lease => ?_) fun _ => trivial)
      refine follows_bind.2 (follows_attempt.2 (follows_runUnderLease.imp ?_ ?_))
      -- the lease is given back, and nothing that is known depends on it
      · intro result k hresult
        refine follows_bind.2 (follows_neutral (by trivial) (fun _ => ?_) fun _ => trivial)
        exact follows_pure.2 hresult
      · intro e k _
        refine follows_bind.2 (follows_suppress.2 (follows_neutral (by trivial) (fun _ => ?_)
          fun _ => ?_))
        · trivial
        · trivial

end Follows

/-! ## What the databases hold -/

/-- The parts of the two databases that generator runs are about: the markers, the run rows, the
tables and the drafts of the open Source transactions. -/
structure Ledger (ρ : Type) where
  tables : SourceTables ρ
  commits : GeneratorCommits
  drafts : Nat → Option (Draft ρ)
  applied : List (GeneratorCommitRow × List (String × ρ))
  runs : GeneratorRuns

def ledgerOf (w : World ρ) : Ledger ρ where
  tables := w.source.tables
  commits := w.source.commits
  drafts := w.source.drafts
  applied := w.source.applied
  runs := w.pipeline.generatorRuns

/-- The run has its row, with the inputs of the configuration. -/
def Ledger.HasRow (l : Ledger ρ) (config : GeneratorConfig) (id : RunId) : Prop :=
  ∃ r, l.runs.get id = some r ∧ r.inputs = config

/-- What is true of the ledger where a call of process `p` knows so much. It grows with the
ledger (`Ledger.Extends.holds`), which is why the steps of others cannot make it false. -/
def GeneratorKnows.Holds (l : Ledger ρ) (p : Nat) : GeneratorKnows → Prop
  | .aside | .calling _ | .named .. => True
  | .found config m | .settled config m => m ∈ l.commits.rows ∧ m.inputs = config
  | .started config id | .drafting config id | .unsure config id => l.HasRow config id
  | .marked config id m => l.HasRow config id ∧ m.generatorRunId = id ∧ m.inputs = config ∧
      ∃ d, l.drafts p = some d ∧ d.marker = some m
  | .committed config id m => m ∈ l.commits.rows ∧ m.generatorRunId = id ∧ m.inputs = config

/-- The two databases agree: `tables₀` are the tables before the first run. -/
structure Books (X : Externals ρ) (tables₀ : SourceTables ρ) (l : Ledger ρ) : Prop where
  markers : l.applied.map Prod.fst = l.commits.rows
  tables : l.tables = (l.applied.flatMap Prod.snd).foldl (upsert X) tables₀
  owned : ∀ m ∈ l.commits.rows, l.HasRow m.inputs m.generatorRunId
  shown : ∀ id r, l.runs.get id = some r → r.status = .success →
    ∃ m ∈ l.commits.rows, m.inputs = r.inputs ∧ m.Shown r

structure GeneratorInv (X : Externals ρ) (tables₀ : SourceTables ρ) (l : Ledger ρ)
    (knows : Nat → Option GeneratorKnows) : Prop where
  books : Books X tables₀ l
  known : ∀ p k, knows p = some k → k.Holds l p

/-- What one operation of process `p` leaves of the ledger: markers and rows stay, and the drafts
of the others. -/
structure Ledger.Extends (p : Nat) (l l' : Ledger ρ) : Prop where
  commits : ∀ m ∈ l.commits.rows, m ∈ l'.commits.rows
  rows : ∀ config id, l.HasRow config id → l'.HasRow config id
  drafts : ∀ q, q ≠ p → l'.drafts q = l.drafts q

section Ledger

variable {X : Externals ρ} {F : Faults ρ} {tables₀ : SourceTables ρ} {l l' : Ledger ρ} {p q : Nat}
  {knows : Nat → Option GeneratorKnows} {config : GeneratorConfig} {id : RunId}
  {m : GeneratorCommitRow}

theorem Ledger.Extends.holds (h : l.Extends p l') (hq : q ≠ p) {k : GeneratorKnows}
    (hk : k.Holds l q) : k.Holds l' q := by
  cases k with
  | aside => trivial
  | calling config => trivial
  | named config id => trivial
  | found config m => exact ⟨h.commits m hk.1, hk.2⟩
  | started config id => exact h.rows _ _ hk
  | drafting config id => exact h.rows _ _ hk
  | marked config id m =>
    obtain ⟨hrow, hid, hconfig, d, hd, hm⟩ := hk
    exact ⟨h.rows _ _ hrow, hid, hconfig, d, (h.drafts q hq).trans hd, hm⟩
  | committed config id m => exact ⟨h.commits m hk.1, hk.2⟩
  | settled config m => exact ⟨h.commits m hk.1, hk.2⟩
  | unsure config id => exact h.rows _ _ hk

/-- One operation: what the others know is still true, by `Ledger.Extends.holds`, so only the
books and the knowledge of the process itself are left to show. -/
theorem GeneratorInv.move (h : GeneratorInv X tables₀ l knows) (hext : l.Extends p l')
    (hbooks : Books X tables₀ l') {k : Option GeneratorKnows} (hk : ∀ k' ∈ k, k'.Holds l' p) :
    GeneratorInv X tables₀ l' (Function.update knows p k) where
  books := hbooks
  known := by
    intro q k' hq
    by_cases hqp : q = p
    · subst hqp
      rw [Function.update_self] at hq
      exact hk k' hq
    · rw [Function.update_of_ne hqp] at hq
      exact hext.holds hqp (h.known q k' hq)

theorem Ledger.Extends.refl (p : Nat) (l : Ledger ρ) : l.Extends p l :=
  ⟨fun _ h => h, fun _ _ h => h, fun _ _ => rfl⟩

/-- The ledger with another draft of process `p`. -/
def Ledger.withDraft (l : Ledger ρ) (p : Nat) (d : Option (Draft ρ)) : Ledger ρ :=
  { l with drafts := Function.update l.drafts p d }

theorem extends_withDraft (d : Option (Draft ρ)) : l.Extends p (l.withDraft p d) :=
  ⟨fun _ h => h, fun _ _ h => h, fun _ hq => Function.update_of_ne hq ..⟩

theorem books_withDraft (d : Option (Draft ρ)) (h : Books X tables₀ l) :
    Books X tables₀ (l.withDraft p d) :=
  ⟨h.markers, h.tables, h.owned, h.shown⟩

/-- The ledger with another table of runs. -/
def Ledger.withRuns (l : Ledger ρ) (runs : GeneratorRuns) : Ledger ρ := { l with runs := runs }

section Runs

variable {now : Timestamp} {runs : GeneratorRuns}

theorem recordStartedRun_keeps (h : recordStartedRun id config now l.runs = .ok runs)
    (hbooks : Books X tables₀ l) :
    l.Extends p (l.withRuns runs) ∧ Books X tables₀ (l.withRuns runs) ∧
      (l.withRuns runs).HasRow config id := by
  obtain ⟨hfree, hget⟩ := recordStartedRun_eq_ok h
  have hrows : ∀ config' id', l.HasRow config' id' → (l.withRuns runs).HasRow config' id' := by
    rintro config' id' ⟨r, hr, hinputs⟩
    have hne : id' ≠ id := by
      intro he
      rw [he, hfree] at hr
      cases hr
    exact ⟨r, by rw [Ledger.withRuns, hget, if_neg hne, hr], hinputs⟩
  refine ⟨⟨fun _ h => h, hrows, fun _ _ => rfl⟩, ⟨hbooks.markers, hbooks.tables, ?_, ?_⟩, ?_⟩
  · intro m hm
    exact hrows _ _ (hbooks.owned m hm)
  · intro id' r hr hstatus
    rw [Ledger.withRuns, hget] at hr
    split at hr
    next =>
      cases hr
      cases hstatus
    next => exact hbooks.shown id' r hr hstatus
  · exact ⟨_, by rw [Ledger.withRuns, hget, if_pos rfl], rfl⟩

/-- A run is finished: as failed, or with what its marker says. The row of a marker that already
says `SUCCESS` may be rewritten either way. -/
theorem recordFinishedRun_keeps {status : GeneratorStatus} {counts : Option ResultCounts}
    {hash message : Option String}
    (h : recordFinishedRun id status counts hash message now l.runs = .ok runs)
    (hbooks : Books X tables₀ l)
    (hmarker : status = .success → ∃ m ∈ l.commits.rows, m.generatorRunId = id ∧
      counts = some m.resultCounts ∧ hash = some m.logicalHash) :
    l.Extends p (l.withRuns runs) ∧ Books X tables₀ (l.withRuns runs) := by
  have hget := recordFinishedRun_eq_ok h
  have hrows : ∀ config' id', l.HasRow config' id' → (l.withRuns runs).HasRow config' id' := by
    rintro config' id' ⟨r, hr, hinputs⟩
    by_cases hid : id' = id
    · refine ⟨r.finish status counts hash message now, ?_, hinputs⟩
      rw [Ledger.withRuns, hget, if_pos hid, hr]
      rfl
    · exact ⟨r, by rw [Ledger.withRuns, hget, if_neg hid, hr], hinputs⟩
  refine ⟨⟨fun _ h => h, hrows, fun _ _ => rfl⟩, hbooks.markers, hbooks.tables, ?_, ?_⟩
  · intro m hm
    exact hrows _ _ (hbooks.owned m hm)
  · intro id' r hr hstatus
    rw [Ledger.withRuns, hget] at hr
    split at hr
    next hid =>
      obtain ⟨r₀, hr₀, hfinish⟩ := Option.map_eq_some_iff.1 hr
      subst hfinish
      obtain ⟨m, hm, hmid, hcounts, hhash⟩ := hmarker hstatus
      -- the row of the marker is the row of the run
      obtain ⟨r₁, hr₁, hinputs⟩ := hbooks.owned m hm
      rw [hmid, ← hid, hr₀] at hr₁
      cases hr₁
      have hkey : r₀.generatorRunId = id' := Table.key_of_get hr₀
      refine ⟨m, hm, hinputs.symm, ?_, hcounts, hhash⟩
      rw [hmid, ← hid]
      exact hkey
    next => exact hbooks.shown id' r hr hstatus

end Runs

/-- A draft with its marker becomes part of the tables, under a free marker. The unique index of
`generator_commits` is what makes the marker free: a second one of the same inputs would have
raised. -/
theorem commitDraft_keeps (runs : GeneratorRuns) {s s' : SourceDb ρ} {d : Draft ρ}
    {r : Except Raised Unit} (hd : s.drafts p = some d) (hm : d.marker = some m)
    (h : s.commitDraft X p = (r, s'))
    (hbooks : Books X tables₀ ⟨s.tables, s.commits, s.drafts, s.applied, runs⟩)
    (hrow : (⟨s.tables, s.commits, s.drafts, s.applied, runs⟩ : Ledger ρ).HasRow m.inputs
      m.generatorRunId) :
    (∃ e, r = .error e ∧ s' = s) ∨
      r = .ok () ∧ m ∈ s'.commits.rows ∧
        (⟨s.tables, s.commits, s.drafts, s.applied, runs⟩ : Ledger ρ).Extends p
          ⟨s'.tables, s'.commits, s'.drafts, s'.applied, runs⟩ ∧
        Books X tables₀ ⟨s'.tables, s'.commits, s'.drafts, s'.applied, runs⟩ := by
  rw [SourceDb.commitDraft] at h
  simp only [hd, hm] at h
  split at h
  next hfree =>
    cases h
    -- the marker comes last, and so do the writes of its draft
    have hrows : (s.commits.insert m hfree).rows = s.commits.rows ++ [m] :=
      IndexedTable.rows_insert s.commits m hfree
    refine .inr ⟨rfl, ?_, ⟨?_, fun _ _ h => h, fun _ hq => Function.update_of_ne hq ..⟩, ?_⟩
    · rw [hrows]
      exact List.mem_append_right _ (List.mem_singleton.2 rfl)
    · intro m' hm'
      show m' ∈ (s.commits.insert m hfree).rows
      rw [hrows]
      exact List.mem_append_left _ hm'
    · refine ⟨?_, ?_, ?_, ?_⟩
      · show (s.applied ++ [(m, d.upserts)]).map Prod.fst = (s.commits.insert m hfree).rows
        rw [hrows, List.map_append, ← hbooks.markers]
        rfl
      · show d.upserts.foldl (upsert X) s.tables = _
        rw [List.flatMap_append, List.foldl_append, ← hbooks.tables]
        simp
      · intro m' hm'
        have hm'' : m' ∈ s.commits.rows ++ [m] := hrows ▸ hm'
        rcases List.mem_append.1 hm'' with hold | hnew
        · exact hbooks.owned m' hold
        -- the new marker belongs to the row of the run that is committing
        · rw [List.mem_singleton.1 hnew]
          exact hrow
      · intro id r hr hstatus
        obtain ⟨m', hm', hshown⟩ := hbooks.shown id r hr hstatus
        refine ⟨m', ?_, hshown⟩
        show m' ∈ (s.commits.insert m hfree).rows
        rw [hrows]
        exact List.mem_append_left _ hm'
  next =>
    cases h
    exact .inl ⟨_, rfl, rfl⟩

end Ledger

/-! ## Every step keeps the books -/

section Steps

variable {X : Externals ρ} {F : Faults ρ} {tables₀ : SourceTables ρ} {w w' : World ρ} {p : Nat}
  {knows : Nat → Option GeneratorKnows} {k : GeneratorKnows}

theorem pipeline_neutral {op : PipelineEffect} (hop : Neutral (.pipeline op : Effect ρ))
    (clock : Timestamp) (db : PipelineDb) :
    (op.run p clock db).2.generatorRuns = db.generatorRuns := by
  have hanswer : ∀ {α τ : Type} (put : τ → PipelineDb) (r : Except Raised (α × τ)),
      (∀ t, (put t).generatorRuns = db.generatorRuns) →
        (outcome db put r).2.generatorRuns = db.generatorRuns := fun put r hput =>
    outcome_same _ (f := PipelineDb.generatorRuns) hput r
  have hunit : ∀ {τ : Type} (put : τ → PipelineDb) (r : Except Raised τ),
      (∀ t, (put t).generatorRuns = db.generatorRuns) →
        (outcomeUnit db put r).2.generatorRuns = db.generatorRuns := fun put r hput =>
    outcomeUnit_same _ (f := PipelineDb.generatorRuns) hput r
  cases op with
  | transaction op => exact hanswer _ _ fun _ => rfl
  | acquireSourceLease ownerType ownerId now => exact hanswer _ _ fun _ => rfl
  | releaseSourceLease lease now => exact hunit _ _ fun _ => rfl
  | enterFence lease => exact hunit _ _ fun _ => rfl
  | successfulRow config => exact hop.elim
  | recordStartedRun id config => exact hop.elim
  | recordFinishedRun id status counts hash message => exact hop.elim
  | _ => rfl

theorem source_neutral {op : SourceEffect ρ} (hop : Neutral (.source op : Effect ρ))
    (s : SourceDb ρ) : (op.run X p s).2.tables = s.tables ∧ (op.run X p s).2.commits = s.commits ∧
      (op.run X p s).2.drafts = s.drafts ∧ (op.run X p s).2.applied = s.applied := by
  cases op with
  | openSnapshot config watermarkBefore pageSize =>
    have hsame := SourceDb.openSnapshot_same (X := X)
      (f := fun s : SourceDb ρ => (s.tables, s.commits, s.drafts, s.applied)) (fun _ _ => rfl) s p
      config watermarkBefore pageSize
    simp only [Prod.mk.injEq] at hsame
    exact hsame
  | maximumCursor table => exact ⟨rfl, rfl, rfl, rfl⟩
  | writeLocalArtifacts plan context => exact ⟨rfl, rfl, rfl, rfl⟩
  | closeSnapshot => exact ⟨rfl, rfl, rfl, rfl⟩
  | committedResult config => exact hop.elim
  | begin => exact hop.elim
  | recordSourceCommit row => exact hop.elim
  | commit => exact hop.elim
  | rollback => exact hop.elim

/-- An operation beside the ledger. -/
theorem ledgerOf_neutral {op : Effect ρ} (hop : Neutral op ∨ op = .host .uuid4)
    {r : Except Raised op.Resp} (h : Does X p w op r w') : ledgerOf w' = ledgerOf w := by
  cases h with
  | pipeline op h =>
    have hruns := pipeline_neutral (p := p) (hop.resolve_right (by simp)) w.clock w.pipeline
    unfold ledgerOf
    rw [hruns]
  | source op h =>
    obtain ⟨htables, hcommits, hdrafts, happlied⟩ :=
      source_neutral (X := X) (p := p) (hop.resolve_right (by simp)) w.source
    unfold ledgerOf
    rw [htables, hcommits, hdrafts, happlied]
  | storage op => rfl
  | host op => cases op <;> rfl
  | mutate config lease m h => exact absurd (hop.resolve_right (by simp)) (by simp [Neutral])

/-- What a call knows after an operation, and that it is true: the conclusion of every lemma of
this section. -/
def StepKeeps (X : Externals ρ) (tables₀ : SourceTables ρ) (knows : Nat → Option GeneratorKnows)
    (p : Nat) (k : GeneratorKnows) (op : Effect ρ) (r : Except Raised op.Resp) (w' : World ρ) : Prop :=
  ∃ k', k.next op r k' ∧
    GeneratorInv X tables₀ (ledgerOf w') (Function.update knows p (some k'))

/-- After an operation that left the ledger as it was. -/
theorem stepKeeps_same (h : GeneratorInv X tables₀ (ledgerOf w) knows)
    (hsame : ledgerOf w' = ledgerOf w) {op : Effect ρ} {r : Except Raised op.Resp}
    {n : GeneratorKnows} (hnext : k.next op r n) (hk : n.Holds (ledgerOf w) p) :
    StepKeeps X tables₀ knows p k op r w' := by
  refine ⟨n, hnext, ?_⟩
  rw [hsame]
  exact h.move (.refl p _) h.books fun _ he => Option.mem_some_iff.1 he ▸ hk

/-- After one that moved it on. -/
theorem stepKeeps_moved (h : GeneratorInv X tables₀ (ledgerOf w) knows) {l' : Ledger ρ}
    (hl : ledgerOf w' = l') (hext : (ledgerOf w).Extends p l') (hbooks : Books X tables₀ l')
    {op : Effect ρ} {r : Except Raised op.Resp} {n : GeneratorKnows} (hnext : k.next op r n)
    (hk : n.Holds l' p) : StepKeeps X tables₀ knows p k op r w' := by
  refine ⟨n, hnext, ?_⟩
  rw [hl]
  exact h.move hext hbooks fun _ he => Option.mem_some_iff.1 he ▸ hk

/-- `record_finished_run` as the last step of a call: what the call knows of the marker
stays true, whether it is told so or not. -/
theorem stepKeeps_finish (h : GeneratorInv X tables₀ (ledgerOf w) knows)
    {id : RunId} {status : GeneratorStatus} {counts : Option ResultCounts}
    {hash message : Option String}
    (hmarker : status = .success → ∃ m ∈ (ledgerOf w).commits.rows, m.generatorRunId = id ∧
      counts = some m.resultCounts ∧ hash = some m.logicalHash)
    {r : Except Raised Unit}
    (hexec : Exec X F p w (.pipeline (.recordFinishedRun id status counts hash message)) r w')
    {n : GeneratorKnows}
    (hnext : k.next (.pipeline (.recordFinishedRun id status counts hash message) : Effect ρ) r n)
    (hk : ∀ l', (ledgerOf w).Extends p l' → n.Holds l' p) :
    StepKeeps X tables₀ knows p k (.pipeline (.recordFinishedRun id status counts hash message))
      r w' := by
  -- a row is closed as `SUCCESS` only with the counts and the hash of a marker of its own
  have hdone : ∀ r', Does X p w
      (.pipeline (.recordFinishedRun id status counts hash message)) r' w' →
      (ledgerOf w).Extends p (ledgerOf w') ∧ Books X tables₀ (ledgerOf w') := by
    intro r' hdoes
    obtain ⟨-, rfl⟩ := does_pipeline hdoes
    show (ledgerOf w).Extends p ((ledgerOf w).withRuns _) ∧ Books X tables₀ ((ledgerOf w).withRuns _)
    simp only [PipelineEffect.run, outcomeUnit]
    split
    next runs hruns => exact recordFinishedRun_keeps hruns h.books hmarker
    next => exact ⟨.refl p _, h.books⟩
  -- the statement answered, or raised before it had an effect, or raised after it
  rcases hexec.ends with hdoes | ⟨e, -, rfl | ⟨r', hdoes⟩⟩
  · obtain ⟨hext, hbooks⟩ := hdone r hdoes
    exact stepKeeps_moved h rfl hext hbooks hnext (hk _ hext)
  · exact stepKeeps_same h rfl hnext (hk _ (.refl p _))
  · obtain ⟨hext, hbooks⟩ := hdone r' hdoes
    exact stepKeeps_moved h rfl hext hbooks hnext (hk _ hext)

/-- An operation on the draft of the process, which may raise where nothing was done. -/
theorem stepKeeps_draft (h : GeneratorInv X tables₀ (ledgerOf w) knows) {op : Effect ρ}
    {r : Except Raised op.Resp} (hexec : Exec X F p w op r w')
    (hdoes : ∀ r', Does X p w op r' w' → ledgerOf w' = ledgerOf w ∨
      ∃ d, ledgerOf w' = (ledgerOf w).withDraft p d)
    {n : GeneratorKnows} (hnext : k.next op r n)
    (hk : ∀ l', (ledgerOf w).Extends p l' → n.Holds l' p) : StepKeeps X tables₀ knows p k op r w' := by
  have hdone : ∀ r', Does X p w op r' w' → StepKeeps X tables₀ knows p k op r w' := by
    intro r' hd
    rcases hdoes r' hd with hsame | ⟨d, hdraft⟩
    · exact stepKeeps_same h hsame hnext (hk _ (.refl p _))
    · exact stepKeeps_moved h hdraft (extends_withDraft d) (books_withDraft d h.books) hnext
        (hk _ (extends_withDraft d))
  rcases hexec.ends with hd | ⟨e, -, rfl | ⟨r', hd⟩⟩
  · exact hdone r hd
  · exact stepKeeps_same h rfl hnext (hk _ (.refl p _))
  · exact hdone r' hd

theorem does_begin {r : Except Raised Unit} (h : Does X p w (.source .begin) r w') :
    ∃ d, ledgerOf w' = (ledgerOf w).withDraft p d := by
  obtain ⟨-, rfl⟩ := does_source h
  exact ⟨_, rfl⟩

theorem does_rollback {r : Except Raised Unit} (h : Does X p w (.source .rollback) r w') :
    ∃ d, ledgerOf w' = (ledgerOf w).withDraft p d := by
  obtain ⟨-, rfl⟩ := does_source h
  exact ⟨_, rfl⟩

theorem does_mutate {config : GeneratorConfig} {lease : SourceMutationLease}
    {r : Except Raised (Mutation ρ)} (h : Does X p w (.mutate config lease) r w') :
    ∃ d, ledgerOf w' = (ledgerOf w).withDraft p d := by
  cases h
  exact ⟨_, rfl⟩

/-- `record_source_commit`: the marker is in the draft, or the statement raised. -/
theorem does_recordSourceCommit {m : GeneratorCommitRow} {r : Except Raised Unit}
    (h : Does X p w (.source (.recordSourceCommit m)) r w') :
    (∃ e, r = .error e ∧ ledgerOf w' = ledgerOf w) ∨
      r = .ok () ∧ ∃ d, d.marker = some m ∧ ledgerOf w' = (ledgerOf w).withDraft p (some d) := by
  obtain ⟨rfl, rfl⟩ := does_source h
  unfold SourceEffect.run SourceDb.insertMarker
  dsimp only
  split
  next => exact .inl ⟨_, rfl, rfl⟩
  next d hd =>
    split
    · split
      · exact .inr ⟨rfl, { d with marker := some m }, rfl, rfl⟩
      · exact .inl ⟨_, rfl, rfl⟩
    · exact .inl ⟨_, rfl, rfl⟩

/-- `COMMIT`, where the draft has its marker. -/
theorem does_commit (h : GeneratorInv X tables₀ (ledgerOf w) knows) {m : GeneratorCommitRow}
    {config : GeneratorConfig} {id : RunId}
    (hk : (GeneratorKnows.marked config id m).Holds (ledgerOf w) p) {r : Except Raised Unit}
    (hdoes : Does X p w (.source .commit) r w') :
    (∃ e, r = .error e ∧ w' = w) ∨
      r = .ok () ∧ m ∈ (ledgerOf w').commits.rows ∧ (ledgerOf w).Extends p (ledgerOf w') ∧
        Books X tables₀ (ledgerOf w') := by
  obtain ⟨hrow, hid, hconfig, d, hd, hm⟩ := hk
  obtain ⟨hr, hw⟩ := does_source hdoes
  have hrun : w.source.commitDraft X p = (r, (SourceEffect.run X p .commit w.source).2) := by
    rw [hr]
    rfl
  have hrow' : (ledgerOf w).HasRow m.inputs m.generatorRunId := by
    rw [hid, hconfig]
    exact hrow
  rcases commitDraft_keeps w.pipeline.generatorRuns hd hm hrun h.books hrow'
    with ⟨e, he, hs⟩ | hdone
  · rw [hs] at hw
    exact .inl ⟨e, he, hw⟩
  · rw [hw]
    exact .inr hdone

/-- An operation that leaves the ledger, answered or raised. -/
theorem ledgerOf_exec {op : Effect ρ} {r : Except Raised op.Resp} (hexec : Exec X F p w op r w')
    (hdoes : ∀ r', Does X p w op r' w' → ledgerOf w' = ledgerOf w) : ledgerOf w' = ledgerOf w := by
  rcases hexec.ends with hd | ⟨e, -, rfl | ⟨r', hd⟩⟩
  · exact hdoes r hd
  · rfl
  · exact hdoes r' hd

/-- The run of a marker in the Source has its row. -/
theorem hasRow_of_commit {l : Ledger ρ} (hbooks : Books X tables₀ l) {m : GeneratorCommitRow}
    (hm : m ∈ l.commits.rows) {config : GeneratorConfig} {id : RunId}
    (hid : m.generatorRunId = id) (hconfig : m.inputs = config) : l.HasRow config id := by
  rw [← hconfig, ← hid]
  exact hbooks.owned m hm

/-- An operation beside the ledger: the call knows what it knew. -/
theorem stepKeeps_neutral (h : GeneratorInv X tables₀ (ledgerOf w) knows)
    (hk : k.Holds (ledgerOf w) p) {op : Effect ρ} (hop : Neutral op) {r : Except Raised op.Resp}
    (hexec : Exec X F p w op r w') : StepKeeps X tables₀ knows p k op r w' := by
  refine stepKeeps_same h (ledgerOf_exec hexec fun _ => ledgerOf_neutral (.inl hop)) (n := k) ?_ hk
  cases op with
  | pipeline op => cases op <;> first | exact hop.elim | (cases k <;> rfl)
  | source op => cases op <;> first | exact hop.elim | (cases k <;> rfl)
  | storage op => cases k <;> rfl
  | host op => cases op <;> first | exact hop.elim | (cases k <;> rfl)
  | mutate config lease => exact hop.elim

/-- `uuid4` names the run of a call that has none. -/
theorem stepKeeps_uuid4 (h : GeneratorInv X tables₀ (ledgerOf w) knows)
    (hk : k.Holds (ledgerOf w) p) {r : Except Raised RunId}
    (hexec : Exec X F p w (.host .uuid4) r w') :
    StepKeeps X tables₀ knows p k (.host .uuid4) r w' := by
  have hsame : ledgerOf w' = ledgerOf w :=
    ledgerOf_exec hexec fun _ => ledgerOf_neutral (.inr rfl)
  cases r with
  | ok id =>
    by_cases hcalling : ∃ config, k = .calling config
    · obtain ⟨config, rfl⟩ := hcalling
      exact stepKeeps_same h hsame (n := .named config id) rfl trivial
    · refine stepKeeps_same h hsame (n := k) ?_ hk
      cases k <;> first | rfl | exact absurd ⟨_, rfl⟩ hcalling
  | error e =>
    refine stepKeeps_same h hsame (n := k) ?_ hk
    cases k <;> rfl

/-- The read of a successful run: the row found shows a marker of the Source. -/
theorem stepKeeps_successfulRow (h : GeneratorInv X tables₀ (ledgerOf w) knows)
    {config : GeneratorConfig} {r : Except Raised (Option GeneratorRunRow)}
    (hexec : Exec X F p w (.pipeline (.successfulRow config)) r w') :
    StepKeeps X tables₀ knows p (.calling config) (.pipeline (.successfulRow config)) r w' := by
  rcases hexec.ends with hd | ⟨e, rfl, hw⟩
  · obtain ⟨rfl, rfl⟩ := does_pipeline hd
    cases hrow : successfulRow w.pipeline.generatorRuns config with
    | none =>
      refine stepKeeps_same h rfl (n := .calling config) ?_ trivial
      simp only [PipelineEffect.run, hrow]
      rfl
    | some row =>
      obtain ⟨hget, hinputs, hstatus⟩ := successfulRow_eq_some hrow
      obtain ⟨m, hm, hconfig, hshown⟩ := h.books.shown _ row hget hstatus
      refine stepKeeps_same h rfl (n := .settled config m) ?_ ⟨hm, hconfig.trans hinputs⟩
      simp only [PipelineEffect.run, hrow]
      exact ⟨m, rfl, hshown⟩
  · have hsame : ledgerOf w' = ledgerOf w := by
      rcases hw with rfl | ⟨r', hd⟩
      · rfl
      · obtain ⟨-, rfl⟩ := does_pipeline hd
        rfl
    exact stepKeeps_same h hsame (n := .calling config) rfl trivial

/-- The read of the marker of the inputs. -/
theorem stepKeeps_committedResult (h : GeneratorInv X tables₀ (ledgerOf w) knows)
    {config : GeneratorConfig} {id : RunId} {r : Except Raised (Option GeneratorCommitRow)}
    (hexec : Exec X F p w (.source (.committedResult config)) r w') :
    StepKeeps X tables₀ knows p (.named config id) (.source (.committedResult config)) r w' := by
  rcases hexec.ends with hd | ⟨e, rfl, hw⟩
  · obtain ⟨rfl, rfl⟩ := does_source hd
    cases hfound : committedResult w.source.commits config with
    | none =>
      refine stepKeeps_same h rfl (n := .named config id) ?_ trivial
      simp only [SourceEffect.run, hfound]
      rfl
    | some m =>
      refine stepKeeps_same h rfl (n := .found config m) ?_ (committedResult_eq_some.1 hfound)
      simp only [SourceEffect.run, hfound]
      rfl
  · have hsame : ledgerOf w' = ledgerOf w := by
      rcases hw with rfl | ⟨r', hd⟩
      · rfl
      · obtain ⟨-, rfl⟩ := does_source hd
        rfl
    exact stepKeeps_same h hsame (n := .named config id) rfl trivial

/-- `record_started_run`: told so, the call knows the row of its run. -/
theorem stepKeeps_start (h : GeneratorInv X tables₀ (ledgerOf w) knows) {config : GeneratorConfig}
    {id : RunId} {r : Except Raised Unit}
    (hexec : Exec X F p w (.pipeline (.recordStartedRun id config)) r w') :
    StepKeeps X tables₀ knows p (.named config id) (.pipeline (.recordStartedRun id config))
      r w' := by
  -- the insert found the inputs free and wrote a row, or it raised and wrote nothing
  have hdone : ∀ r', Does X p w (.pipeline (.recordStartedRun id config)) r' w' →
      (∃ e, r' = .error e) ∧ ledgerOf w' = ledgerOf w ∨
        (ledgerOf w).Extends p (ledgerOf w') ∧ Books X tables₀ (ledgerOf w') ∧
          (ledgerOf w').HasRow config id := by
    intro r' hd
    obtain ⟨rfl, rfl⟩ := does_pipeline hd
    show _ ∨ (ledgerOf w).Extends p ((ledgerOf w).withRuns _) ∧
      Books X tables₀ ((ledgerOf w).withRuns _) ∧ ((ledgerOf w).withRuns _).HasRow config id
    simp only [PipelineEffect.run, outcomeUnit]
    split
    next runs hruns => exact .inr (recordStartedRun_keeps hruns h.books)
    next e _ => exact .inl ⟨⟨e, rfl⟩, rfl⟩
  rcases hexec.ends with hd | ⟨e, rfl, rfl | ⟨r', hd⟩⟩
  · rcases hdone r hd with ⟨⟨e, rfl⟩, hsame⟩ | ⟨hext, hbooks, hrow⟩
    · exact stepKeeps_same h hsame (n := .named config id) rfl trivial
    · cases r with
      | ok a => exact stepKeeps_moved h rfl hext hbooks (n := .started config id) rfl hrow
      | error e => exact stepKeeps_moved h rfl hext hbooks (n := .named config id) rfl trivial
  · exact stepKeeps_same h rfl (n := .named config id) rfl trivial
  · rcases hdone r' hd with ⟨-, hsame⟩ | ⟨hext, hbooks, -⟩
    · exact stepKeeps_same h hsame (n := .named config id) rfl trivial
    · exact stepKeeps_moved h rfl hext hbooks (n := .named config id) rfl trivial

/-- `record_source_commit`: told so, the call knows the marker of its draft. -/
theorem stepKeeps_mark (h : GeneratorInv X tables₀ (ledgerOf w) knows) {config : GeneratorConfig}
    {id : RunId} {m : GeneratorCommitRow} (hrow : (ledgerOf w).HasRow config id)
    (hid : m.generatorRunId = id) (hconfig : m.inputs = config) {r : Except Raised Unit}
    (hexec : Exec X F p w (.source (.recordSourceCommit m)) r w') :
    StepKeeps X tables₀ knows p (.drafting config id) (.source (.recordSourceCommit m)) r w' := by
  have hunsure : ∀ e l', r = .error e → ledgerOf w' = l' → (ledgerOf w).Extends p l' →
      Books X tables₀ l' → StepKeeps X tables₀ knows p (.drafting config id)
        (.source (.recordSourceCommit m)) r w' := by
    rintro e l' rfl hl' hext hbooks
    exact stepKeeps_moved h hl' hext hbooks (n := .unsure config id) rfl (hext.rows _ _ hrow)
  rcases hexec.ends with hd | ⟨e, he, rfl | ⟨r', hd⟩⟩
  · rcases does_recordSourceCommit hd with ⟨e, he, hsame⟩ | ⟨rfl, d, hm, hdraft⟩
    · exact hunsure e _ he hsame (.refl p _) h.books
    · refine stepKeeps_moved h hdraft (extends_withDraft _) (books_withDraft _ h.books)
        (n := .marked config id m) rfl ⟨hrow, hid, hconfig, d, ?_, hm⟩
      exact Function.update_self ..
  · exact hunsure e _ he rfl (.refl p _) h.books
  · rcases does_recordSourceCommit hd with ⟨-, -, hsame⟩ | ⟨-, d, -, hdraft⟩
    · exact hunsure e _ he hsame (.refl p _) h.books
    · exact hunsure e _ he hdraft (extends_withDraft _) (books_withDraft _ h.books)

/-- `COMMIT` of the Source: told so, the call knows that its marker is there; an answer
lost leaves it unsure of a marker that may be there. -/
theorem stepKeeps_commit (h : GeneratorInv X tables₀ (ledgerOf w) knows) {config : GeneratorConfig}
    {id : RunId} {m : GeneratorCommitRow}
    (hk : (GeneratorKnows.marked config id m).Holds (ledgerOf w) p) {r : Except Raised Unit}
    (hexec : Exec X F p w (.source .commit) r w') :
    StepKeeps X tables₀ knows p (.marked config id m) (.source .commit) r w' := by
  have hmarked := hk
  obtain ⟨hrow, hid, hconfig, -⟩ := hmarked
  have hunsure : ∀ e, r = .error e → (ledgerOf w).Extends p (ledgerOf w') →
      Books X tables₀ (ledgerOf w') →
        StepKeeps X tables₀ knows p (.marked config id m) (.source .commit) r w' := by
    rintro e rfl hext hbooks
    exact stepKeeps_moved h rfl hext hbooks (n := .unsure config id) rfl (hext.rows _ _ hrow)
  rcases hexec.ends with hd | ⟨e, he, rfl | ⟨r', hd⟩⟩
  · rcases does_commit h hk hd with ⟨e, he, rfl⟩ | ⟨rfl, hm, hext, hbooks⟩
    · exact hunsure e he (.refl p _) h.books
    · exact stepKeeps_moved h rfl hext hbooks (n := .committed config id m) rfl ⟨hm, hid, hconfig⟩
  · exact hunsure e he (.refl p _) h.books
  · rcases does_commit h hk hd with ⟨-, -, rfl⟩ | ⟨-, -, hext, hbooks⟩
    · exact hunsure e he (.refl p _) h.books
    · exact hunsure e he hext hbooks

/-- Every operation a call may come to keeps the books, and what the call then knows is true. One
case for each move of the protocol, each a lemma above. -/
theorem stepKeeps_call (h : GeneratorInv X tables₀ (ledgerOf w) knows) (hp : knows p = some k)
    {op : Effect ρ} (hallowed : GeneratorAllowed k op) {r : Except Raised op.Resp}
    (hexec : Exec X F p w op r w') : StepKeeps X tables₀ knows p k op r w' := by
  have hk := h.known p k hp
  cases hallowed with
  | neutral _ op hop => exact stepKeeps_neutral h hk hop hexec
  | uuid4 => exact stepKeeps_uuid4 h hk hexec
  | successfulRow config => exact stepKeeps_successfulRow h hexec
  | committedResult config id => exact stepKeeps_committedResult h hexec
  -- the row of the run that left the marker is repaired with what the marker says
  | repair config m =>
    obtain ⟨hm, hconfig⟩ := hk
    cases r with
    | ok a =>
      exact stepKeeps_finish h (fun _ => ⟨m, hm, rfl, rfl, rfl⟩) hexec (n := .settled config m) rfl
        fun l' hl' => ⟨hl'.commits m hm, hconfig⟩
    | error e =>
      exact stepKeeps_finish h (fun _ => ⟨m, hm, rfl, rfl, rfl⟩) hexec (n := .found config m) rfl
        fun l' hl' => ⟨hl'.commits m hm, hconfig⟩
  | start config id => exact stepKeeps_start h hexec
  | begin config id =>
    cases r with
    | ok a =>
      exact stepKeeps_draft h hexec (fun _ hd => .inr (does_begin hd)) (n := .drafting config id) rfl
        fun l' hl' => hl'.rows _ _ hk
    | error e =>
      exact stepKeeps_draft h hexec (fun _ hd => .inr (does_begin hd)) (n := .unsure config id) rfl
        fun l' hl' => hl'.rows _ _ hk
  | mutate config id config' lease =>
    exact stepKeeps_draft h hexec (fun _ hd => .inr (does_mutate hd)) (n := .drafting config id) rfl
      fun l' hl' => hl'.rows _ _ hk
  | mark config id m hid hconfig => exact stepKeeps_mark h hk hid hconfig hexec
  | commit config id m => exact stepKeeps_commit h hk hexec
  | succeed config id m =>
    obtain ⟨hm, hid, hconfig⟩ := hk
    cases r with
    | ok a =>
      exact stepKeeps_finish h (fun _ => ⟨m, hm, rfl, rfl, rfl⟩) hexec (n := .settled config m) rfl
        fun l' hl' => ⟨hl'.commits m hm, hconfig⟩
    | error e =>
      exact stepKeeps_finish h (fun _ => ⟨m, hm, rfl, rfl, rfl⟩) hexec (n := .unsure config id) rfl
        fun l' hl' => hl'.rows _ _ (hasRow_of_commit h.books hm hid hconfig)
  | rollbackDraft config id =>
    exact stepKeeps_draft h hexec (fun _ hd => .inr (does_rollback hd)) (n := .unsure config id) rfl
      fun l' hl' => hl'.rows _ _ hk
  | rollbackMarked config id m =>
    exact stepKeeps_draft h hexec (fun _ hd => .inr (does_rollback hd)) (n := .unsure config id) rfl
      fun l' hl' => hl'.rows _ _ hk.1
  | rollback config id =>
    exact stepKeeps_draft h hexec (fun _ hd => .inr (does_rollback hd)) (n := .unsure config id) rfl
      fun l' hl' => hl'.rows _ _ hk
  | failStarted config id message =>
    exact stepKeeps_finish h (fun hs => by cases hs) hexec (n := .started config id) rfl
      fun l' hl' => hl'.rows _ _ hk
  -- the row says `FAILED` although the marker is there, which the books allow
  | failCommitted config id m message =>
    obtain ⟨hm, hid, hconfig⟩ := hk
    exact stepKeeps_finish h (fun hs => by cases hs) hexec (n := .unsure config id)
      (by cases r <;> rfl) fun l' hl' => hl'.rows _ _ (hasRow_of_commit h.books hm hid hconfig)
  | fail config id message =>
    exact stepKeeps_finish h (fun hs => by cases hs) hexec (n := .unsure config id) rfl
      fun l' hl' => hl'.rows _ _ hk

theorem ledgerOf_happens {e : Happening} (h : Happens F w e w') : ledgerOf w' = ledgerOf w := by
  cases h with
  | tick now _ => rfl
  | beat p hb hp hbeats => cases hbeats <;> rfl
  | lease call _ => rfl
  | metadata op _ db _ => rfl

end Steps

/-- Where a task begins. -/
def startOf : Task → GeneratorKnows
  | .generate config => .calling config
  | _ => .aside

/-- What is known of the result of a task. -/
def Told : TaskResult → GeneratorKnows → Prop
  | .generated config result, k => Settled config result k
  | _, _ => True

theorem follows_aside {α : Type} {x : Program ρ α} (hx : x.Calls Effect.OfIngestion) :
    Follows (generatorProtocol ρ) (fun _ k => k = .aside) (fun _ k => k = .aside) .aside x := by
  refine hx.follows (fun op hop => ?_) fun op r k' _ h => h
  cases op with
  | pipeline op => cases op <;> first | exact hop.elim | exact .neutral _ _ trivial
  | source op => cases op <;> first | exact hop.elim | exact .neutral _ _ trivial
  | storage op => exact .neutral _ _ trivial
  | host op => cases op <;> first | exact .uuid4 _ | exact .neutral _ _ trivial
  | mutate config lease => exact hop.elim

theorem task_follows (X : Externals ρ) (task : Task) :
    Follows (generatorProtocol ρ) Told (fun _ _ => True) (startOf task) (task.program X) := by
  cases task with
  | generate config =>
    refine follows_bind.2 (runGenerator_follows.imp (fun result k hk => ?_) fun _ _ _ => trivial)
    exact follows_pure.2 hk
  | ingest args =>
    refine follows_bind.2 ((follows_aside (ingestTable_calls X args)).imp (fun result k _ => ?_)
      fun _ _ _ => trivial)
    exact follows_pure.2 trivial
  | reconcile args =>
    refine follows_bind.2 ((follows_aside (calls_ofIngestion (reconcileOrphan_calls X args))).imp (fun _ k _ => ?_)
      fun _ _ _ => trivial)
    exact follows_pure.2 trivial

theorem generator_keeps (X : Externals ρ) (F : Faults ρ) (tables₀ : SourceTables ρ) :
    Keeps (platform X F) (generatorProtocol ρ) Told (fun _ _ => True)
      (fun _ w knows => GeneratorInv X tables₀ (ledgerOf w) knows) where
  start := by
    intro as w knows p task h _
    refine ⟨startOf task, task_follows X task, ?_⟩
    refine h.move (.refl p _) h.books fun k hk => ?_
    obtain rfl := Option.mem_some_iff.1 hk
    cases task <;> trivial
  call := fun _ w knows p k op r w' h hp hallowed hexec => stepKeeps_call h hp hallowed hexec
  crash := by
    intro as w knows p h
    exact h.move (extends_withDraft none) (books_withDraft none h.books) fun k hk => by cases hk
  other := by
    intro as w knows e w' h hother
    rw [ledgerOf_happens hother]
    exact h

/-- No generator has run: the tables are whatever the seed left. -/
structure Untouched (w : World ρ) : Prop where
  commits : w.source.commits.rows = []
  drafts : ∀ p, w.source.drafts p = none
  applied : w.source.applied = []
  runs : w.pipeline.generatorRuns.rows = []

theorem generatorInv_untouched {X : Externals ρ} {w : World ρ} (h : Untouched w) :
    GeneratorInv X w.source.tables (ledgerOf w) fun _ => none where
  books := {
    markers := by
      show w.source.applied.map Prod.fst = w.source.commits.rows
      rw [h.applied, h.commits]
      rfl
    tables := by
      show w.source.tables = (w.source.applied.flatMap Prod.snd).foldl (upsert X) w.source.tables
      rw [h.applied]
      rfl
    owned := fun m hm => by
      have hnone : m ∈ w.source.commits.rows := hm
      rw [h.commits] at hnone
      cases hnone
    shown := fun id r hr _ => by
      have hmem : r ∈ w.pipeline.generatorRuns.rows := Table.mem_of_get hr
      rw [h.runs] at hmem
      cases hmem }
  known := fun p k hk => by cases hk

/-- Generator runs apply each configuration once. Whatever runs beside them, fails, or is gone:
the tables are the first ones with the writes of the committed runs, in the order of their
commits; no two of these runs have one configuration; and a call that returned has the run,
the counts and the hash of the one that committed its configuration. -/
theorem generator_exactlyOnce {X : Externals ρ} {F : Faults ρ} {w₀ : World ρ} (h₀ : Untouched w₀)
    {acts : List (PlatformAct ρ)} {pool : PlatformPool ρ}
    (h : Run (PoolStep (platform X F)) (idle w₀) acts pool) :
    pool.state.source.tables =
        (pool.state.source.applied.flatMap Prod.snd).foldl (upsert X) w₀.source.tables ∧
      (pool.state.source.applied.map fun a => a.1.inputs).Nodup ∧
      ∀ p config result, pool.scripts p = some (.ret (.generated config result)) →
        ∃ a ∈ pool.state.source.applied, a.1.inputs = config ∧
          result.generatorRunId = a.1.generatorRunId ∧ result.resultCounts = a.1.resultCounts ∧
          result.logicalContentHash = a.1.logicalHash := by
  obtain ⟨knows, hinv, htracked⟩ := Pool.traced h (generator_keeps X F w₀.source.tables)
    ⟨fun _ => none, generatorInv_untouched h₀, fun p s hs => by cases hs⟩
  -- one marker for every mutation that took effect, in the same order
  have hmarkers : pool.state.source.applied.map Prod.fst = pool.state.source.commits.rows :=
    hinv.books.markers
  refine ⟨hinv.books.tables, ?_, ?_⟩
  -- the unique index over the inputs of the markers
  · have hinputs : (pool.state.source.applied.map fun a => a.1.inputs) =
        pool.state.source.commits.rows.map GeneratorCommitRow.inputs := by
      rw [← hmarkers, List.map_map]
      rfl
    rw [hinputs]
    exact pool.state.source.commits.indexUnique
  · intro p config result hp
    -- what a returned script knows: the marker its answer was read from
    obtain ⟨k, hk, m, rfl, hid, hcounts, hhash⟩ := htracked p _ hp
    obtain ⟨hm, hconfig⟩ := hinv.known p _ hk
    have hmem : m ∈ pool.state.source.applied.map Prod.fst := by
      rw [hmarkers]
      exact hm
    obtain ⟨a, ha, rfl⟩ := List.mem_map.1 hmem
    exact ⟨a, ha, hconfig, hid, hcounts, hhash⟩

/-- A generator run is gone after its Source commit; once its lease is over, a second run of
the same configuration shows the first one's. -/
def rerunSchedule : List (Turn Raised Task Happening) :=
  [.start 1 (.generate sampleConfig), .go 1 18, .crash 1, .other (.tick 1800000000),
    .start 2 (.generate sampleConfig), .go 2 7]

theorem generator_exactlyOnce_rerun : ∃ acts pool result,
    Run (PoolStep (platform sampleExternals (Faults.any SampleRow))) (idle (sampleWorld [])) acts
        pool ∧
      generatedBy pool 2 = some (sampleConfig, result) ∧ result.generatorRunId = 1 ∧
      ∃ a ∈ pool.state.source.applied, a.1.inputs = sampleConfig ∧
        result.generatorRunId = a.1.generatorRunId := by
  have hplays : ((samplePlayer.playAll (idle (sampleWorld [])) rerunSchedule).bind
      fun pool => generatedBy pool 2).map (fun r => (r.1, r.2.generatorRunId)) =
        some (sampleConfig, 1) := by
    decide +kernel
  obtain ⟨⟨config, result⟩, hbind, hids⟩ := Option.map_eq_some_iff.1 hplays
  obtain ⟨pool, hpool, hresult⟩ := Option.bind_eq_some_iff.1 hbind
  obtain ⟨rfl, hid⟩ := Prod.mk.inj hids
  obtain ⟨acts, hrun, -⟩ := Player.playAll_eq_some hpool
  obtain ⟨a, ha, hinputs, hshown, -⟩ :=
    (generator_exactlyOnce ⟨rfl, fun _ => rfl, rfl, rfl⟩ hrun).2.2 2 sampleConfig result
      (generatedBy_eq_some hresult)
  exact ⟨acts, pool, result, hrun, hresult, hid, a, ha, hinputs, hshown⟩

end CommercePlatform.Generator
