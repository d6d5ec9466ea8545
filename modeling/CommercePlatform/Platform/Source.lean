import CommercePlatform.Bronze.Storage
import CommercePlatform.Generator.Metadata
/-!
# The Source database

The tables the generator writes and the extraction reads, with the marker table
`generator_commits`. A generator works in one open transaction: what it has written so
far is its draft, seen by no one else, and its `COMMIT` puts the rows and the marker in
place together. An extraction reads the tables as they were when its snapshot began
(`REPEATABLE READ`), whatever is committed meanwhile.

What the tables hold is open (`ρ`); so are the statements of a mutation and the checks
of a record, which `Externals` collects. The three hypotheses among its fields say that
the hashes are SHA-256 texts, which the constructors of the manifests check.

Concurrency within this database is what PostgreSQL has at these statements. Two
generators may have drafts at the same time; the second `INSERT` of a marker with the
same id or the same inputs waits for the first transaction (`enabled`) and then fails on
the unique index or goes on. Row locks between the mutations of two drafts are not
modelled: a draft is written to the tables at its commit, in the order of the commits.

The list `applied` is a history of the commits for the statements below; no operation
reads it.
-/

namespace CommercePlatform.Platform

open Lib Generator

variable {ρ : Type}

/-- The rows of the tables, by table name. -/
abbrev SourceTables (ρ : Type) := String → List ρ

/-- What the statements of one generator run wrote and counted, and the rows it hashes. -/
structure Mutation (ρ : Type) where
  upserts : List (String × ρ)
  resultCounts : ResultCounts
  logicalRows : List String

/-- The code this model leaves open, by table where the source chooses by table. -/
structure Externals (ρ : Type) where
  /-- The checks of a record, by table. -/
  rules : String → RecordRules ρ
  /-- `find_broken_parent_references`, in a snapshot. -/
  brokenReferences : SourceTables ρ → String → List ρ → Except Raised (List (List CursorKey))
  /-- `uuid.uuid5` in the namespace of the quarantine records. -/
  uuid5 : String → String
  /-- What the statements of `run_generator` may write where they find these tables. -/
  mutates : GeneratorConfig → SourceTables ρ → Mutation ρ → Prop
  /-- `logical_hash` of the inputs, the counts and the rows. -/
  logicalHash : GeneratorConfig → ResultCounts → List String → String
  /-- `ingestion_page_size()`. -/
  pageSize : Except Raised Nat
  /-- SHA-256 and length of the bytes of an object. -/
  sha256 : ObjectContent ρ → String
  size : ObjectContent ρ → Nat
  /-- `table_logical_hash`. -/
  tableLogicalHash : String → List ρ → String
  logicalHash_isSha256 : ∀ config counts rows, IsSha256 (logicalHash config counts rows)
  sha256_isSha256 : ∀ content, IsSha256 (sha256 content)
  tableLogicalHash_isSha256 : ∀ table rows, IsSha256 (tableLogicalHash table rows)

/-- The uncommitted writes of a generator, in their order, with the marker once it was recorded. -/
structure Draft (ρ : Type) where
  upserts : List (String × ρ)
  marker : Option GeneratorCommitRow

/-- `TableSnapshot`: the tables as they were when the transaction began, with the bounds and the
page size its pages are read by. -/
structure TableSnapshot (ρ : Type) where
  config : TableConfig
  tables : SourceTables ρ
  watermarkBefore : CursorPosition
  extractUpperBound : Option CursorPosition
  pageSize : Nat

/-- The Source database with the open transactions of the processes; `writers` are those
that ever began one to write in. -/
structure SourceDb (ρ : Type) where
  tables : SourceTables ρ
  commits : GeneratorCommits
  writers : List Nat
  drafts : Nat → Option (Draft ρ)
  snapshots : Nat → Option (TableSnapshot ρ)
  applied : List (GeneratorCommitRow × List (String × ρ))

/-- Write one row: over the row of its primary key, or behind the others. The order of the rows
of a table means nothing to the readers, who sort by the cursor. -/
def upsert (X : Externals ρ) (tables : SourceTables ρ) (u : String × ρ) : SourceTables ρ :=
  Function.update tables u.1
    (if (tables u.1).any ((X.rules u.1).sameKey u.2) then
      (tables u.1).map fun r => if (X.rules u.1).sameKey u.2 r then u.2 else r
    else tables u.1 ++ [u.2])

/-- `max(cursor_timestamp_column)`. -/
def maximumCursor (X : Externals ρ) (tables : SourceTables ρ) (table : String) :
    Option Timestamp :=
  ((tables table).filterMap fun r => ((X.rules table).cursor r).timestamp).max?

/-! ## Operations -/

/-- Statements on the Source database. -/
inductive SourceEffect (ρ : Type) where
  /-- `committed_result`. -/
  | committedResult (config : GeneratorConfig)
  /-- A connection and a transaction on it. -/
  | begin
  /-- `SELECT max(cursor_column) FROM table`. -/
  | maximumCursor (table : String)
  /-- `record_source_commit`. -/
  | recordSourceCommit (row : GeneratorCommitRow)
  | commit
  | rollback
  /-- `open_table_snapshot`, with `_fetch_upper_bound`. -/
  | openSnapshot (config : TableConfig) (watermarkBefore : CursorPosition) (pageSize : Nat)
  /-- `_write_local_artifacts`. -/
  | writeLocalArtifacts (plan : Option CorruptionPlan) (context : QuarantineWriteContext)
  | closeSnapshot

abbrev SourceEffect.Resp : SourceEffect ρ → Type
  | .committedResult _ => Option GeneratorCommitRow
  | .maximumCursor _ => Option Timestamp
  | .openSnapshot .. => Option CursorPosition
  | .writeLocalArtifacts .. => LocalArtifacts ρ
  | _ => Unit

/-- An `INSERT` waits for the transaction that holds the same key uncommitted: the id of the run
or the inputs of its configuration. -/
def SourceEffect.enabled (p : Nat) (s : SourceDb ρ) : SourceEffect ρ → Bool
  | .recordSourceCommit row => s.writers.all fun q => q = p ||
      ((s.drafts q).bind Draft.marker).all fun m =>
        m.generatorRunId ≠ row.generatorRunId && m.inputs ≠ row.inputs
  | _ => true

private def connectionLost : Raised :=
  ⟨.operationalError, "server closed the connection unexpectedly"⟩

/-- `INSERT INTO generator_commits`, into the draft. The unique indexes are those of the
committed rows, since a draft with the same key is waited for. -/
def SourceDb.insertMarker (s : SourceDb ρ) (p : Nat) (row : GeneratorCommitRow) :
    Except Raised Unit × SourceDb ρ :=
  match s.drafts p with
  | none => (.error connectionLost, s)
  | some d =>
    if row.inputs.orderCount < 2 ^ 31 then
      if s.commits.Free row then
        (.ok (), { s with
          drafts := Function.update s.drafts p (some { d with marker := some row }) })
      else (.error ⟨.uniqueViolation, "duplicate key value violates unique constraint"⟩, s)
    else (.error ⟨.otherException, "integer out of range"⟩, s)

/-- `COMMIT` of the draft: its rows and its marker at once, or nothing. -/
def SourceDb.commitDraft (X : Externals ρ) (s : SourceDb ρ) (p : Nat) :
    Except Raised Unit × SourceDb ρ :=
  match s.drafts p with
  | none => (.error connectionLost, s)
  | some d =>
    match d.marker with
    | none =>
      (.ok (), { s with
        tables := d.upserts.foldl (upsert X) s.tables
        drafts := Function.update s.drafts p none })
    | some row =>
      if h : s.commits.Free row then
        (.ok (), { s with
          tables := d.upserts.foldl (upsert X) s.tables
          commits := s.commits.insert row h
          drafts := Function.update s.drafts p none
          applied := s.applied ++ [(row, d.upserts)] })
      else (.error ⟨.uniqueViolation, "duplicate key value violates unique constraint"⟩, s)

/-- `_assert_cursor`. -/
def assertCursor (config : TableConfig) (cursor : CursorPosition) : Except Raised Unit :=
  require (cursor.timestamp = none ∨ cursor.keys.length = config.cursorKeyColumns.length)
    ⟨.valueError, "Cursor key count differs from the table primary key"⟩

/-- `open_table_snapshot`. -/
def SourceDb.openSnapshot (X : Externals ρ) (s : SourceDb ρ) (p : Nat) (config : TableConfig)
    (watermarkBefore : CursorPosition) (pageSize : Nat) :
    Except Raised (Option CursorPosition) × SourceDb ρ :=
  match assertCursor config watermarkBefore with
  | .error e => (.error e, s)
  | .ok () =>
    if 0 < pageSize then
      let upper := fetchUpperBound (X.rules config.sourceTable).cursor
        (s.tables config.sourceTable) watermarkBefore
      (.ok upper, { s with
        snapshots := Function.update s.snapshots p
          (some ⟨config, s.tables, watermarkBefore, upper, pageSize⟩) })
    else (.error ⟨.valueError, "page_size must be greater than zero"⟩, s)

/-- Opening a snapshot changes the snapshots only. -/
theorem SourceDb.openSnapshot_same {X : Externals ρ} {β : Type} {f : SourceDb ρ → β}
    (hf : ∀ (s : SourceDb ρ) snapshots, f { s with snapshots := snapshots } = f s)
    (s : SourceDb ρ) (p : Nat) (config : TableConfig) (watermarkBefore : CursorPosition)
    (pageSize : Nat) : f (s.openSnapshot X p config watermarkBefore pageSize).2 = f s := by
  unfold SourceDb.openSnapshot
  split
  · rfl
  · split
    · exact hf s _
    · rfl

/-- `TableSnapshot.pages`. -/
def TableSnapshot.pages (X : Externals ρ) (snap : TableSnapshot ρ) : List (List ρ) :=
  match snap.extractUpperBound with
  | none => []
  | some upper =>
    CommercePlatform.pages (X.rules snap.config.sourceTable).cursor
      (snap.tables snap.config.sourceTable) snap.watermarkBefore upper snap.pageSize

/-- `_write_local_artifacts`: the pages between the two bounds, validated, with the rejected
records as the quarantine writes them. -/
def TableSnapshot.localArtifacts (X : Externals ρ) (snap : TableSnapshot ρ)
    (plan : Option CorruptionPlan) (context : QuarantineWriteContext) :
    Except Raised (LocalArtifacts ρ) :=
  writePages (X.rules snap.config.sourceTable) snap.watermarkBefore
    (snap.extractUpperBound.getD .initial) plan
    (X.brokenReferences snap.tables snap.config.sourceTable)
    (quarantineRow (X.rules snap.config.sourceTable) X.uuid5 context) (snap.pages X) 0 []

/-- What a statement of process `p` does and answers. -/
def SourceEffect.run (X : Externals ρ) (p : Nat) : (op : SourceEffect ρ) → SourceDb ρ →
    Except Raised op.Resp × SourceDb ρ
  | .committedResult config, s => (.ok (Generator.committedResult s.commits config), s)
  | .begin, s =>
    (.ok (), { s with
      writers := p :: s.writers
      drafts := Function.update s.drafts p (some ⟨[], none⟩) })
  | .maximumCursor table, s => (.ok (Platform.maximumCursor X s.tables table), s)
  | .recordSourceCommit row, s => s.insertMarker p row
  | .commit, s => s.commitDraft X p
  | .rollback, s => (.ok (), { s with drafts := Function.update s.drafts p none })
  | .openSnapshot config watermarkBefore pageSize, s =>
    s.openSnapshot X p config watermarkBefore pageSize
  | .writeLocalArtifacts plan context, s =>
    ((s.snapshots p).elim (.error connectionLost) fun snap => snap.localArtifacts X plan context, s)
  | .closeSnapshot, s => (.ok (), { s with snapshots := Function.update s.snapshots p none })

/-- The transactions of a process that is gone are rolled back; its snapshot is gone with its
connection. -/
def SourceDb.drop (s : SourceDb ρ) (p : Nat) : SourceDb ρ :=
  { s with
    drafts := Function.update s.drafts p none
    snapshots := Function.update s.snapshots p none }

end CommercePlatform.Platform
