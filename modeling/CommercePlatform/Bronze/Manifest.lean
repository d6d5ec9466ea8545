import CommercePlatform.Contract.Tables
import CommercePlatform.Control.Metadata
/-!
# The Bronze manifest

`src/ingestion/bronze/manifest.py`. A manifest is the JSON evidence uploaded beside a
Bronze object before its metadata commit. `BronzeManifest` is what the ingestion writes,
with the checks of `__post_init__` as fields; `ManifestPayload` is the JSON object a
reader parses back. The two cursors of a payload are still JSON values: a reader
compares them as such, and a timestamp spelled in another way is another value although
it denotes the same instant.

This is the level the ingestion and the reconciliation work on. The bytes of a manifest,
the parser with its error paths and the proof that the two levels are one are in
`Bronze/ManifestJson` (`represents_asJson`).

Mirroring notes vs the source:
- `manifest_version` and `object_state` are constants with one value each; they are
  written and checked on the level of the bytes.
- `created_at` and `logical_date` are UTC by type; `_assert_utc` cannot fail.
- `asDict` keeps the fields a reader of the payload looks at.
-/

namespace CommercePlatform

/-- `BronzeManifest`, without the two constants `manifest_version` and `object_state`, which
every manifest carries with one value each; the checks of `__post_init__` are fields. -/
structure BronzeManifest where
  batchId : String
  runId : RunId
  sourceTable : String
  logicalDate : Timestamp
  watermarkBefore : CursorPosition
  extractUpperBound : CursorPosition
  objectKey : String
  objectSize : Nat
  contentSha256 : String
  logicalHash : String
  rowCount : Nat
  createdAt : Timestamp
  schemaVersion : Nat
  batchNamed : isBlank batchId = false
  tableNamed : isBlank sourceTable = false
  objectNamed : isBlank objectKey = false
  versioned : 0 < schemaVersion
  contentHashed : IsSha256 contentSha256
  logicalHashed : IsSha256 logicalHash

/-- The JSON object of a manifest, with the fields its readers look at. -/
structure ManifestPayload where
  batchId : String
  runId : RunId
  sourceTable : String
  logicalDate : Timestamp
  watermarkBefore : CursorJson
  extractUpperBound : CursorJson
  objectKey : String
  objectSize : Nat
  contentSha256 : String
  logicalHash : String
  rowCount : Nat
  schemaVersion : Nat
deriving DecidableEq

/-- `as_dict`, up to the fields no reader looks at. -/
def BronzeManifest.asDict (m : BronzeManifest) : ManifestPayload where
  batchId := m.batchId
  runId := m.runId
  sourceTable := m.sourceTable
  logicalDate := m.logicalDate
  watermarkBefore := m.watermarkBefore.asMetadataJson
  extractUpperBound := m.extractUpperBound.asMetadataJson
  objectKey := m.objectKey
  objectSize := m.objectSize
  contentSha256 := m.contentSha256
  logicalHash := m.logicalHash
  rowCount := m.rowCount
  schemaVersion := m.schemaVersion

/-- `QuarantineManifest`, without its two constants. -/
structure QuarantineManifest where
  batchId : String
  runId : RunId
  sourceTable : String
  objectKey : String
  objectSize : Nat
  contentSha256 : String
  rowCount : Nat
  errorCounts : List (String × Nat)
  createdAt : Timestamp
  batchNamed : isBlank batchId = false
  tableNamed : isBlank sourceTable = false
  objectNamed : isBlank objectKey = false
  errorsNamed : ∀ p ∈ errorCounts, p.1 ≠ ""
  contentHashed : IsSha256 contentSha256

/-- The cursor a JSON value denotes when its timestamp is written by `isoformat`; another text
denotes none here. -/
def CursorJson.decode? (j : CursorJson) : Option CursorPosition :=
  match j.timestamp, j.keys with
  | none, [] => some .initial
  | some (.isoformat t), k :: ks => some ⟨some t, k :: ks, by simp⟩
  | _, _ => none

@[simp] theorem CursorJson.decode?_asMetadataJson (c : CursorPosition) :
    c.asMetadataJson.decode? = some c := by
  obtain ⟨t, ks, hc⟩ := c
  cases t with
  | none =>
    obtain rfl : ks = [] := hc.1 rfl
    rfl
  | some t =>
    cases ks with
    | nil => exact absurd (hc.2 rfl) (by simp)
    | cons k ks => rfl

end CommercePlatform
