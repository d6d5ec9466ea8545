import CommercePlatform.Ingestion.Service
/-!
# Reconciling an orphan

`find_orphan_candidates` and `reconcile_orphan` of `src/ingestion/bronze/orphan.py`. An
orphan is a data file in the object store that no committed batch names: its ingestion
uploaded it and did not come to the commit. `reconcile_orphan` checks the stored
evidence, request by request, and then makes the commit in the transaction of
`Bronze/Orphan`, which compares the range of the run and the cursor of the watermark
with the manifest.

The checks are in the order of the source: the manifest against its own checksum, the
manifest as a manifest of this object, the size and checksum of the object, its row
count, the schema version against what is supported and against the contract of the
table, and last that nothing was rejected in that batch, since the rejects of an orphan
would be lost. Every error is an `OrphanReconciliationError` with its text, except those
of the functions it calls.

The store of this model holds contents and not bytes (`Bronze.Storage`), so the manifest
read back is the JSON object its writer made (`as_dict`), and anything else at the key
is refused with the text of a manifest that cannot be parsed. What the parser accepts of
other bytes is in `Bronze.ManifestJson`. In the same way the Parquet file is its list of
records, and `verify_parquet_object` answers their number.

Nothing is proved here. The program is one of the three tasks of `Platform.Machine`, and
all results about runs of the platform have it beside them.
-/

namespace CommercePlatform.Ingestion

open Lib Platform

variable {ρ : Type}

private def refusal (message : String) : Raised := ⟨.orphanReconciliationError, message⟩

/-- The key of the manifest beside a data file: the last part of the key is exchanged. -/
def manifestKeyOf (objectKey : String) : String :=
  String.ofList (objectKey.toList.take (objectKey.length - "data.parquet".length)) ++
    "manifest.json"

/-- `find_orphan_candidates`: the data files no committed batch names, sorted, each with the
manifest beside it if there is one. -/
def findOrphanCandidates (committedKeys keys : List String) : List OrphanCandidate :=
  ((keys.dedup.filter fun key => "/data.parquet".toList.isSuffixOf key.toList ∧ key ∉ committedKeys).insertionSort
    (· ≤ ·)).map fun key =>
      ⟨key, if manifestKeyOf key ∈ keys then some (manifestKeyOf key) else none⟩

/-- `stored_object_from_head`. -/
def storedObjectFromHead (key : String) : Program ρ StoredObject := do
  match ← storage (.headObject key) with
  | none => .raise noSuchKey
  | some head => return head

/-- `parse_bronze_manifest_payload` of bytes that encode this content. -/
def parseBronzeManifest (content : ObjectContent ρ) (expectedObjectKey : String) :
    Except Raised ManifestPayload :=
  match content with
  | .bronzeManifest m =>
    if m.objectKey = expectedObjectKey then .ok m.asDict
    else .error (refusal "Orphan manifest is invalid")
  | _ => .error (refusal "Orphan manifest is invalid")

/-- `_load_manifest`: the checksum in the metadata of the object is compared with the bytes
received before they are parsed. -/
def loadManifest (X : Externals ρ) (objectKey manifestKey : String) :
    Program ρ ManifestPayload := do
  let object ← storedObjectFromHead manifestKey
  let content ← storage (.getObject manifestKey)
  check (X.sha256 content = object.contentSha256) (refusal "manifest checksum differs from HEAD")
  Script.ofExcept (parseBronzeManifest content objectKey)

/-- The row count of a Parquet file. -/
def parquetRowCount : ObjectContent ρ → Except Raised Nat
  | .bronze _ _ _ _ records => .ok records.length
  | .quarantine _ _ _ _ records => .ok records.length
  | _ => .error ⟨.otherException, "Parquet magic bytes not found in footer"⟩

/-- `verify_parquet_object`: the size and the row count of the object as received, which are
compared with the manifest and not with each other. -/
def verifyParquetObject (X : Externals ρ) (object : StoredObject) : Program ρ (Nat × Nat) := do
  let content ← storage (.getObject object.key)
  check (X.sha256 content = object.contentSha256)
    ⟨.runtimeError, "Object checksum differs from expected value: " ++ object.key⟩
  let rowCount ← Script.ofExcept (parquetRowCount content)
  return (X.size content, rowCount)

/-- `_quarantine_object_exists`: the key is listed, not read. -/
def quarantineObjectExists (m : ManifestPayload) : Program ρ Bool := do
  let key := (quarantineObjectKeys m.sourceTable m.batchId m.logicalDate).1
  let keys ← storage (.listObjects key)
  return decide (key ∈ keys)

/-- The checks of the stored evidence, in the order of `reconcile_orphan` up to its transaction. -/
def verifyOrphan (X : Externals ρ) (objectKey manifestKey : String) :
    Program ρ ManifestPayload := do
  let m ← loadManifest X objectKey manifestKey
  let object ← storedObjectFromHead objectKey
  let (size, rowCount) ← verifyParquetObject X object
  check (size = m.objectSize ∧ object.contentSha256 = m.contentSha256)
    (refusal "Object HEAD or checksum differs from the VERIFIED manifest")
  check (rowCount = m.rowCount) (refusal "Object row count differs from the VERIFIED manifest")
  let config ← Script.ofExcept (tableConfig m.sourceTable)
  check (m.schemaVersion ∈ supportedBronzeSchemaVersions)
    ⟨.bronzeSchemaContractError,
      "SOURCE_CONTRACT_ERROR: unsupported schema_version=" ++ toString m.schemaVersion⟩
  check (config.schemaVersion = m.schemaVersion)
    (refusal "Manifest schema version differs from the table contract")
  let rejects ← quarantineObjectExists m
  check (rejects = false) (refusal "Orphans with rejects require manual reconciliation")
  return m

/-- The arguments of `reconcile_orphan`. -/
structure ReconcileArgs where
  candidate : OrphanCandidate
  now : Option Timestamp

/-- `reconcile_orphan`: the evidence, request by request, then one transaction. -/
def reconcileOrphan (X : Externals ρ) (args : ReconcileArgs) : Program ρ Unit := do
  let currentTime ← currentTimeOf args.now
  match args.candidate.manifestKey with
  | none => .raise (refusal "Orphan without a VERIFIED manifest requires manual handling")
  | some manifestKey =>
    let m ← verifyOrphan X args.candidate.objectKey manifestKey
    metadata (.reconcileOrphan args.candidate.objectKey manifestKey m currentTime)

end CommercePlatform.Ingestion
