import CommercePlatform.Bronze.Manifest
import CommercePlatform.Extraction.Validation
/-!
# Object storage

The requests of `src/ingestion/bronze/storage.py`. An object is written once, under a
conditional `PUT` that a taken key refuses with status 412, and never again. What is in
an object is held as the data its bytes encode; size and SHA-256 are functions of it,
and the `sha256` metadata of a `HEAD` is the one the writer passed.

The one fact the rest of the development needs of the storage is that an object stays as
it was written (`StorageEffect.get_run`), whatever is requested afterwards and by
whomever; it is what makes a `HEAD` evidence. A request may be lost or its answer may
be; that is part of the machine in which requests are made (`Platform/World`).

Mirroring notes vs the source:
- `_upload_new` and the functions over it are several requests; each request is an
  effect of its own here, and the functions that make them are in `Ingestion/Service`
  and `Ingestion/Reconcile`.
- Listing is by prefix. `list_object_keys` sorts the keys and its callers ask for
  membership only, so the order of the answer is left open.
- The bucket is there: `ensure_bucket` answers and changes nothing.
-/

namespace CommercePlatform

open Lib

/-- What the bytes of an object encode: a Bronze file or a quarantine file, each with the
technical columns of its rows, or one of the two manifests. -/
inductive ObjectContent (ρ : Type) where
  | bronze (sourceTable batchId : String) (runId : RunId) (ingestedAt : Timestamp)
      (records : List ρ)
  | quarantine (sourceTable batchId : String) (runId : RunId) (detectedAt : Timestamp)
      (records : List (RejectedRecord ρ))
  | bronzeManifest (manifest : BronzeManifest)
  | quarantineManifest (manifest : QuarantineManifest)

/-- An object with what its `HEAD` answers. -/
structure StoredFile (ρ : Type) where
  key : String
  content : ObjectContent ρ
  size : Nat
  contentSha256 : String

/-- `StoredObject`: the evidence of an uploaded object. -/
structure StoredObject where
  key : String
  size : Nat
  contentSha256 : String
deriving DecidableEq, Repr

def StoredFile.head {ρ : Type} (f : StoredFile ρ) : StoredObject := ⟨f.key, f.size, f.contentSha256⟩

/-- The objects of the bucket. -/
abbrev ObjectStore (ρ : Type) := Table (StoredFile ρ) String StoredFile.key

/-- The requests. -/
inductive StorageEffect (ρ : Type) where
  /-- `ensure_bucket`. -/
  | ensureBucket
  /-- `head_object`; `none` where it answers 404. -/
  | headObject (key : String)
  /-- `put_object` with `IfNoneMatch="*"`. -/
  | putObject (file : StoredFile ρ)
  /-- `get_object`. -/
  | getObject (key : String)
  /-- `list_objects_v2` of the keys that begin with a text. -/
  | listObjects (start : String)

abbrev StorageEffect.Resp {ρ : Type} : StorageEffect ρ → Type
  | .headObject _ => Option StoredObject
  | .getObject _ => ObjectContent ρ
  | .listObjects _ => List String
  | _ => Unit

/-- The answer to a conditional `PUT` at a taken key. -/
def preconditionFailed : Raised :=
  ⟨.clientError (some 412), "An error occurred (PreconditionFailed)"⟩

/-- A 404 of the storage. -/
def noSuchKey : Raised := ⟨.clientError (some 404), "An error occurred (404): Not Found"⟩

/-- What a request does and answers, in the state of the bucket it meets. -/
def StorageEffect.run {ρ : Type} : (op : StorageEffect ρ) → ObjectStore ρ →
    Except Raised op.Resp × ObjectStore ρ
  | .ensureBucket, store => (.ok (), store)
  | .headObject key, store => (.ok ((store.get key).map StoredFile.head), store)
  | .putObject file, store =>
    if h : store.get file.key = none then (.ok (), store.insert file h)
    else (.error preconditionFailed, store)
  | .getObject key, store =>
    ((store.get key).elim (.error noSuchKey) fun file => .ok file.content, store)
  | .listObjects start, store =>
    (.ok ((store.rows.map StoredFile.key).filter fun key => start.toList.isPrefixOf key.toList), store)

theorem run_putObject {ρ : Type} (file : StoredFile ρ) (store : ObjectStore ρ) :
    (StorageEffect.putObject file).run store =
      if h : store.get file.key = none then (.ok (), store.insert file h)
      else (.error preconditionFailed, store) := rfl

/-- An object stays as it was written, whatever is requested. -/
theorem StorageEffect.get_run {ρ : Type} (op : StorageEffect ρ) {store : ObjectStore ρ}
    {key : String} {file : StoredFile ρ} (h : store.get key = some file) :
    (op.run store).2.get key = some file := by
  cases op with
  | putObject new =>
    rw [run_putObject]
    split
    next hfree =>
      have hne : key ≠ new.key := by
        rintro rfl
        rw [hfree] at h
        cases h
      show (store.insert new hfree).get key = some file
      rw [Table.get_insert, if_neg hne, h]
    next => exact h
  | _ => exact h

end CommercePlatform
