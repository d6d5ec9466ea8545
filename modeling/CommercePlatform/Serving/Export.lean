import CommercePlatform.Lib.Script
import CommercePlatform.Warehouse.PublishRuns
import Mathlib.Data.List.Sort
/-!
# The serving export

`src/serving/export.py`: the mart tables of the published warehouse file are copied into
a file of their own, which is linked as `exports/{export_id}.duckdb` and then moved to
the serving path. The published path may be replaced at any moment, so the export
compares the identity of the file at that path with the recorded one before it copies
and again before it links.

A published file is never modified in place, so opening it yields its content, and the
content stays readable after the path was replaced: `attachPublished` answers a
`PublishedFile`, and everything copied afterwards comes from it. What is between the
first comparison and the opening is the one gap the second comparison has to close.

The files an export makes are modelled by their inodes: the build path, the versioned
path and the serving path of one export are three names of one inode, called after the
export here. Linking and moving then change names only, and `installed` lists what was
moved to the serving path, the last of it being there now. The order matters for the
failures: `os.link` first, then `os.replace`, then the two directory syncs, with one
handler around all of it that removes the build file and, once its path is set, the
versioned file.

The same program is read twice. `Serving.ExportConsistency` runs many exports beside
publishes, over `ServingDisk`; `Serving.ExportFailure` runs one call with failures
anywhere, over the directory with its WALs.

Mirroring notes:

- `duckdb.connect` and `ATTACH` create the build file; the schemas, tables and rows of
  it are lists in the order they were made;
- `CREATE TABLE … AS SELECT` and the `count(*)` of the new table are one operation,
  since no one else opens the build file;
- the manifest is a field of the file. The check that `main` has this one table asks
  whether it is there;
- the values in the texts of three errors (the identities, the schemas, the tables, the
  path of the WAL) are left out. No handler reads them.
-/

namespace CommercePlatform.Serving

open Lib Warehouse

variable {ρ : Type}

/-- A table or view of a DuckDB file with its rows. -/
structure MartObject (ρ : Type) where
  schema : String
  name : String
  rows : List ρ

/-- A published warehouse file: its identity, which is inode and modification time, and its
tables and views. -/
structure PublishedFile (ρ : Type) where
  identity : FileIdentity
  objects : List (MartObject ρ)

/-- The row of `serving_manifest`. -/
structure ServingManifest where
  exportId : RunId
  publishRunId : RunId
  exportedAt : Timestamp
  storageVersion : String
  martResultHashes : List (String × String)
  rowCounts : List (String × Nat)
deriving DecidableEq

/-- A serving file: its schemas, their tables, and the manifest. -/
structure ServingFile (ρ : Type) where
  schemas : List String
  tables : List (MartObject ρ)
  manifest : Option ServingManifest

def ServingFile.empty : ServingFile ρ := ⟨[], [], none⟩

def ServingFile.withSchema (f : ServingFile ρ) (schema : String) : ServingFile ρ :=
  { f with schemas := f.schemas ++ [schema] }

def ServingFile.withTable (f : ServingFile ρ) (object : MartObject ρ) : ServingFile ρ :=
  { f with tables := f.tables ++ [object] }

def ServingFile.withManifest (f : ServingFile ρ) (m : ServingManifest) : ServingFile ρ :=
  { f with manifest := some m }

/-- `SERVING_SCHEMAS`, in copying order. -/
def servingSchemas : List String := ["dimensions", "facts", "metrics"]

/-- The `STORAGE_VERSION` the serving file is attached with. -/
def storageVersion : String := "v1.0.0"

/-- The schemas `_validate_serving_file` looks for. -/
def knownSchemas : List String :=
  ["dimensions", "facts", "metrics", "control", "staging", "intermediate"]

/-- `ORDER BY table_name`. -/
def NamedBefore (a b : MartObject ρ) : Prop := a.name ≤ b.name

instance : DecidableRel (NamedBefore (ρ := ρ)) := fun _ _ => inferInstanceAs (Decidable (_ ≤ _))

/-- `SELECT table_name FROM information_schema.tables WHERE table_schema = schema`, tables and
views alike, by name. -/
def objectsOf (f : PublishedFile ρ) (schema : String) : List (MartObject ρ) :=
  (f.objects.filter fun o => o.schema = schema).insertionSort NamedBefore

/-- A publish: the run, the hashes recorded for it, and the file it put at the published
path. -/
structure Publication (ρ : Type) where
  publishRunId : RunId
  martHashes : List (String × String)
  file : PublishedFile ρ

/-- The arguments of `export_serving_mart`, from one publish record. -/
structure ExportArgs where
  publishRunId : RunId
  martHashes : List (String × String)
  publishedIdentity : FileIdentity
  now : Timestamp

/-- The arguments are the record of this publish. -/
def Publication.Recorded (pub : Publication ρ) (args : ExportArgs) : Prop :=
  args.publishRunId = pub.publishRunId ∧ args.martHashes = pub.martHashes ∧
    args.publishedIdentity = pub.file.identity

/-- The published path, the publishes so far, and the files of the exports: contents by inode,
the names in `build/` and `exports/`, and what was moved to the serving path, the last of it
being there now. -/
structure ServingDisk (ρ : Type) where
  published : Option (PublishedFile ρ)
  publications : List (Publication ρ)
  inodes : RunId → Option (ServingFile ρ)
  builds : RunId → Bool
  versions : RunId → Bool
  installed : List RunId
  nextId : RunId

/-- The operations of an export. -/
inductive ExportEffect (ρ : Type) where
  /-- `file_identity(published)`. -/
  | statPublished
  | uuid4
  /-- `mkdir(parents=True, exist_ok=True)`. -/
  | makeDirectory
  /-- `ATTACH <build> AS serving`. -/
  | attachBuild (id : RunId)
  /-- `ATTACH <published> AS published (READ_ONLY)`. -/
  | attachPublished
  | createSchema (id : RunId) (schema : String)
  /-- `CREATE TABLE … AS SELECT * FROM …` and the `count(*)` of it. -/
  | createTable (id : RunId) (object : MartObject ρ)
  | insertManifest (id : RunId) (m : ServingManifest)
  /-- The two queries of `_validate_serving_file`. -/
  | readBuild (id : RunId)
  | checkpoint (id : RunId)
  /-- `wal_path(build_path).exists()`. -/
  | walExists (id : RunId)
  /-- `os.link(build_path, versioned_path)`. -/
  | link (id : RunId)
  /-- `os.replace(build_path, paths.serving)`. -/
  | replaceServing (id : RunId)
  | fsyncDirectory
  /-- `unlink(missing_ok=True)` of the build file and its WAL. -/
  | unlinkBuild (id : RunId)
  | unlinkVersion (id : RunId)

abbrev ExportEffect.Resp : ExportEffect ρ → Type
  | .statPublished => FileIdentity
  | .uuid4 => RunId
  | .attachPublished => PublishedFile ρ
  | .createTable .. => Nat
  | .readBuild _ => ServingFile ρ
  | .walExists _ => Bool
  | _ => Unit

private def noFile : Raised := ⟨.fileNotFoundError, "No such file or directory"⟩

/-- Rewrite the content of an inode. -/
def ServingDisk.write (d : ServingDisk ρ) (id : RunId) (f : ServingFile ρ → ServingFile ρ) :
    ServingDisk ρ :=
  { d with inodes := Function.update d.inodes id ((d.inodes id).map f) }

/-- What an operation does and answers. An unlinked name leaves the inode, which nobody can open
any more. -/
def ExportEffect.run : (op : ExportEffect ρ) → ServingDisk ρ →
    Except Raised op.Resp × ServingDisk ρ
  | .statPublished, d => ((d.published.map PublishedFile.identity).elim (.error noFile) .ok, d)
  | .uuid4, d => (.ok d.nextId, { d with nextId := d.nextId + 1 })
  | .makeDirectory, d => (.ok (), d)
  | .attachBuild id, d =>
    (.ok (), { d with
      inodes := Function.update d.inodes id (some ((d.inodes id).getD .empty))
      builds := Function.update d.builds id true })
  | .attachPublished, d => (d.published.elim (.error noFile) .ok, d)
  | .createSchema id schema, d => (.ok (), d.write id (·.withSchema schema))
  | .createTable id object, d => (.ok object.rows.length, d.write id (·.withTable object))
  | .insertManifest id m, d => (.ok (), d.write id (·.withManifest m))
  | .readBuild id, d => ((d.inodes id).elim (.error noFile) .ok, d)
  | .checkpoint _, d => (.ok (), d)
  | .walExists _, d => (.ok false, d)
  | .link id, d =>
    if d.builds id then (.ok (), { d with versions := Function.update d.versions id true })
    else (.error noFile, d)
  | .replaceServing id, d =>
    if d.builds id then
      (.ok (), { d with
        builds := Function.update d.builds id false
        installed := d.installed ++ [id] })
    else (.error noFile, d)
  | .fsyncDirectory, d => (.ok (), d)
  | .unlinkBuild id, d => (.ok (), { d with builds := Function.update d.builds id false })
  | .unlinkVersion id, d => (.ok (), { d with versions := Function.update d.versions id false })

theorem run_link (id : RunId) (d : ServingDisk ρ) : (ExportEffect.link id).run d =
    if d.builds id then (.ok (), { d with versions := Function.update d.versions id true })
    else (.error noFile, d) := rfl

theorem run_replaceServing (id : RunId) (d : ServingDisk ρ) :
    (ExportEffect.replaceServing id).run d =
      if d.builds id then
        (.ok (), { d with
          builds := Function.update d.builds id false
          installed := d.installed ++ [id] })
      else (.error noFile, d) := rfl

/-- An operation is done, or raises, before or after it took effect. A WAL may be left by any
connection that wrote to the build file. -/
inductive ExportExec : Nat → ServingDisk ρ → (op : ExportEffect ρ) → Except Raised op.Resp →
    ServingDisk ρ → Prop where
  | done {d : ServingDisk ρ} (p : Nat) (op : ExportEffect ρ) :
      ExportExec p d op (op.run d).1 (op.run d).2
  | refused {d : ServingDisk ρ} (p : Nat) (op : ExportEffect ρ) (e : Raised) :
      ExportExec p d op (.error e) d
  | lost {d : ServingDisk ρ} (p : Nat) (op : ExportEffect ρ) (e : Raised) :
      ExportExec p d op (.error e) (op.run d).2
  | wal {d : ServingDisk ρ} (p : Nat) (id : RunId) :
      ExportExec p d (.walExists id) (.ok true) d

/-! ## The export -/

abbrev Exporting (ρ α : Type) := Script (ExportEffect ρ) ExportEffect.Resp Raised α

/-- Call one operation. -/
abbrev act (op : ExportEffect ρ) : Exporting ρ op.Resp := Script.perform op

/-- `_require_identity`: the identity of the file now at the published path against the recorded
one. -/
def requireIdentity (expected : FileIdentity) : Exporting ρ Unit := do
  let actual ← act .statPublished
  Script.ofExcept (require (actual = expected)
    ⟨.valueError, "Published warehouse identity does not match publish run"⟩)

/-- The tables of one schema, in `_copy_mart_objects`. -/
def copyObjects (id : RunId) : List (MartObject ρ) → Exporting ρ (List (String × Nat))
  | [] => pure []
  | object :: objects => do
    let count ← act (.createTable id object)
    let rowCounts ← copyObjects id objects
    return (object.schema ++ "." ++ object.name, count) :: rowCounts

/-- The loop over `SERVING_SCHEMAS`: a schema without objects is created all the same. -/
def copySchemas (id : RunId) (published : PublishedFile ρ) :
    List String → Exporting ρ (List (String × Nat))
  | [] => pure []
  | schema :: schemas => do
    act (.createSchema id schema)
    let rowCounts ← copyObjects id (objectsOf published schema)
    let rest ← copySchemas id published schemas
    return rowCounts ++ rest

/-- `_copy_mart_objects`. -/
def copyMartObjects (id : RunId) : Exporting ρ (List (String × Nat)) := do
  act (.attachBuild id)
  let published ← act .attachPublished
  copySchemas id published servingSchemas

/-- `_validate_serving_file`: of the schemas it knows, exactly the three of the marts, and in
`main` the manifest. -/
def validateServingFile (id : RunId) : Exporting ρ Unit := do
  let file ← act (.readBuild id)
  Script.ofExcept (require (∀ s ∈ knownSchemas, s ∈ file.schemas ↔ s ∈ servingSchemas)
    ⟨.valueError, "Serving schema boundary is invalid"⟩)
  Script.ofExcept (require (file.manifest.isSome)
    ⟨.valueError, "Serving main schema is invalid"⟩)

/-- The manifest row of an export. -/
def ExportArgs.manifest (args : ExportArgs) (id : RunId) (rowCounts : List (String × Nat)) :
    ServingManifest where
  exportId := id
  publishRunId := args.publishRunId
  exportedAt := args.now
  storageVersion := storageVersion
  martResultHashes := args.martHashes
  rowCounts := rowCounts

/-- The block up to the versions directory: from here on the versioned path is set, and the
handler removes it too. -/
def buildExport (args : ExportArgs) (id : RunId) : Exporting ρ (List (String × Nat)) := do
  let rowCounts ← copyMartObjects id
  act (.insertManifest id (args.manifest id rowCounts))
  validateServingFile id
  act (.checkpoint id)
  let wal ← act (.walExists id)
  Script.ofExcept (require (wal = false) ⟨.valueError, "Serving build has a WAL"⟩)
  act .makeDirectory
  return rowCounts

/-- The rest of the block: compare again, link, replace, and sync both directories. -/
def installExport (args : ExportArgs) (id : RunId) : Exporting ρ Unit := do
  requireIdentity args.publishedIdentity
  act (.link id)
  act (.replaceServing id)
  act .fsyncDirectory
  act .fsyncDirectory

/-- `ServingExportResult`. -/
structure ServingExportResult where
  exportId : RunId
  rowCounts : List (String × Nat)

/-- `export_serving_mart`. The handler removes the build file, and the versioned file once its
path is set; nothing takes back a replacement. -/
def exportServingMart (args : ExportArgs) : Exporting ρ ServingExportResult := do
  requireIdentity args.publishedIdentity
  let id ← act .uuid4
  act .makeDirectory
  let rowCounts ← (buildExport args id).onError fun _ => act (.unlinkBuild id)
  (installExport args id).onError fun _ => do
    act (.unlinkBuild id)
    act (.unlinkVersion id)
  return ⟨id, rowCounts⟩

/-- A publish puts a file at the published path whose identity was never seen there. -/
def PublishNext (d : ServingDisk ρ) (pub : Publication ρ) (d' : ServingDisk ρ) : Prop :=
  (∀ old ∈ d.publications, old.file.identity ≠ pub.file.identity) ∧
    d' = { d with published := some pub.file, publications := d.publications ++ [pub] }

/-- Any number of exports, each called with the record of a publish, among publishes. A process
that is gone leaves its files. -/
def servingSemantics (ρ : Type) : Semantics (ServingDisk ρ) (ExportEffect ρ) ExportEffect.Resp
    Raised ServingExportResult ExportArgs (Publication ρ) where
  script := exportServingMart
  starts := fun _ d args => ∃ pub ∈ d.publications, pub.Recorded args
  exec := ExportExec
  crash := fun _ d => d
  other := PublishNext

end CommercePlatform.Serving
