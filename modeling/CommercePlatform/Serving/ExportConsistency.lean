import CommercePlatform.Serving.Export
/-!
# One export shows one publish

Any number of exports, each called with the record of some publish, run beside publishes
that replace the file they read. The main result says that whatever an export returns is
one publish as a whole:

> `servingExport_consistent`: the serving file and the versioned file of an export that
> returned hold exactly the mart tables of one publish, its hashes and the counts of
> those tables, then and after any further exports and publishes.

An export knows little while this goes on: nothing, then its id, then what it has
written so far and which published file it opened, and after the second check of the
identity that the opened file is the recorded one (`ExportPhase`). That last step is
where an argument is needed, because the file was opened after the first check and
before the second. Identities never come back to the published path (`PublishNext`): so
if the opened file were not the recorded one, then the recorded one had left the path by
then, for good, and the second check would fail. `OpenedUnder` is that disjunction, and
it stays true under every publish.

`exportServingMart_follows` reads the phases along the text of the export, once. The
invariant `ExportInv` says what each phase means for the disk and that no two processes
touch one file; `Pool.traced` carries it through every interleaving. The step lemma has
three cases, each a lemma: an operation of an export touches the files of its own id
only (`touches_run`), a publish leaves all files of exports alone, and a process that
begins or ends names no file.

An export that returned keeps its file because it never touches it again and nobody else
has its id (`ExportInv.keep`). It need not be the one at the serving path: another
export may have replaced it there, which the statement says.
-/

namespace CommercePlatform.Serving

open Lib Warehouse

variable {ρ : Type}

/-- The tables a serving file takes over, schema by schema. -/
def martTables (f : PublishedFile ρ) : List (MartObject ρ) := servingSchemas.flatMap (objectsOf f)

/-- The `row_counts` of tables. -/
def rowCountsOf (objects : List (MartObject ρ)) : List (String × Nat) :=
  objects.map fun o => (o.schema ++ "." ++ o.name, o.rows.length)

/-- The serving file of a publish: its mart tables schema by schema, its hashes and the counts. -/
def Publication.exported (pub : Publication ρ) (id : RunId) (now : Timestamp) : ServingFile ρ where
  schemas := servingSchemas
  tables := martTables pub.file
  manifest := some {
    exportId := id
    publishRunId := pub.publishRunId
    exportedAt := now
    storageVersion := storageVersion
    martResultHashes := pub.martHashes
    rowCounts := rowCountsOf (martTables pub.file) }

/-- Exactly the objects of the mart schemas are taken over. -/
theorem mem_martTables {f : PublishedFile ρ} {o : MartObject ρ} :
    o ∈ martTables f ↔ o ∈ f.objects ∧ o.schema ∈ servingSchemas := by
  have hobjects : ∀ schema, o ∈ objectsOf f schema ↔ o ∈ f.objects ∧ o.schema = schema := by
    intro schema
    unfold objectsOf
    rw [(List.perm_insertionSort NamedBefore _).mem_iff]
    simp
  unfold martTables
  rw [List.mem_flatMap]
  constructor
  · rintro ⟨schema, hschema, ho⟩
    obtain ⟨hmem, rfl⟩ := (hobjects schema).1 ho
    exact ⟨hmem, hschema⟩
  · rintro ⟨hmem, hschema⟩
    exact ⟨o.schema, hschema, (hobjects o.schema).2 ⟨hmem, rfl⟩⟩

/-- How far an export is. `building` holds the content of its file so far and the published file
it opened. -/
inductive ExportPhase (ρ : Type) where
  | begun
  | named (id : RunId)
  | building (id : RunId) (opened : Option (PublishedFile ρ)) (file : ServingFile ρ)
  | ready (id : RunId) (opened : PublishedFile ρ) (file : ServingFile ρ)
  | linked (id : RunId) (opened : PublishedFile ρ) (file : ServingFile ρ)
  | installed (id : RunId) (opened : PublishedFile ρ) (file : ServingFile ρ)
  | gone (id : Option RunId)

/-- The export whose files the process may touch, from the moment it has an id until it ended. -/
def ExportPhase.id? : ExportPhase ρ → Option RunId
  | .begun => none
  | .named id | .building id _ _ | .ready id _ _ | .linked id _ _ | .installed id _ _ => some id
  | .gone id => id

structure ExportKnows (ρ : Type) where
  args : ExportArgs
  phase : ExportPhase ρ

/-- The operations of a phase. -/
inductive ExportAllowed : ExportPhase ρ → ExportEffect ρ → Prop where
  | statBegun : ExportAllowed .begun .statPublished
  | uuid4 : ExportAllowed .begun .uuid4
  | buildDirectory (id) : ExportAllowed (.named id) .makeDirectory
  | attachBuild (id) : ExportAllowed (.named id) (.attachBuild id)
  | attachPublished (id file) : ExportAllowed (.building id none file) .attachPublished
  | createSchema (id f file schema) :
      ExportAllowed (.building id (some f) file) (.createSchema id schema)
  | createTable (id f file object) :
      ExportAllowed (.building id (some f) file) (.createTable id object)
  | insertManifest (id f file m) :
      ExportAllowed (.building id (some f) file) (.insertManifest id m)
  | readBuild (id f file) : ExportAllowed (.building id (some f) file) (.readBuild id)
  | checkpoint (id f file) : ExportAllowed (.building id (some f) file) (.checkpoint id)
  | walExists (id f file) : ExportAllowed (.building id (some f) file) (.walExists id)
  | versionsDirectory (id f file) : ExportAllowed (.building id (some f) file) .makeDirectory
  | statBuilt (id f file) : ExportAllowed (.building id (some f) file) .statPublished
  | giveUp (id f file) : ExportAllowed (.building id f file) (.unlinkBuild id)
  | link (id f file) : ExportAllowed (.ready id f file) (.link id)
  | replaceServing (id f file) : ExportAllowed (.linked id f file) (.replaceServing id)
  | fsyncDirectory (id f file) : ExportAllowed (.installed id f file) .fsyncDirectory
  | unlinkBuild (id) : ExportAllowed (.gone (some id)) (.unlinkBuild id)
  | unlinkVersion (id) : ExportAllowed (.gone (some id)) (.unlinkVersion id)

/-- The phase after an answer that is not an exception. -/
def ExportPhase.next (args : ExportArgs) :
    ExportPhase ρ → (op : ExportEffect ρ) → op.Resp → ExportPhase ρ
  | .begun, .uuid4, id => .named id
  | .named id, .attachBuild _, _ => .building id none .empty
  | .building id none file, .attachPublished, f => .building id (some f) file
  | .building id f file, .createSchema _ schema, _ => .building id f (file.withSchema schema)
  | .building id f file, .createTable _ object, _ => .building id f (file.withTable object)
  | .building id f file, .insertManifest _ m, _ => .building id f (file.withManifest m)
  | .building id (some f) file, .statPublished, identity =>
    if identity = args.publishedIdentity then .ready id f file else .building id (some f) file
  | .building id _ _, .unlinkBuild _, _ => .gone (some id)
  | .ready id f file, .link _, _ => .linked id f file
  | .linked id f file, .replaceServing _, _ => .installed id f file
  | phase, _, _ => phase

/-- What an export may do, and what it knows then. A table is created with its count. -/
def exportProtocol (ρ : Type) :
    Protocol (ExportEffect ρ) ExportEffect.Resp Raised (ExportKnows ρ) where
  allowed := fun k op => ExportAllowed k.phase op
  next := fun k op r k' =>
    match op, r with
    | _, .error _ => k' = ⟨k.args, .gone k.phase.id?⟩
    | .createTable id object, .ok count =>
      count = object.rows.length ∧
        k' = ⟨k.args, k.phase.next k.args (.createTable id object) count⟩
    | op, .ok a => k' = ⟨k.args, k.phase.next k.args op a⟩

/-! ## An export follows the protocol -/

section Follows

variable {args : ExportArgs} {id : RunId} {f : PublishedFile ρ} {file : ServingFile ρ}

/-- Where an export gives up: its handlers may still touch its own files. -/
def GivenUp (args : ExportArgs) (id : RunId) (k : ExportKnows ρ) : Prop :=
  k.args = args ∧ (k.phase = .gone (some id) ∨ ∃ f file, k.phase = .building id f file)

theorem givenUp_gone : GivenUp (ρ := ρ) args id ⟨args, .gone (some id)⟩ := ⟨rfl, .inl rfl⟩

theorem givenUp_building {f : Option (PublishedFile ρ)} :
    GivenUp args id ⟨args, .building id f file⟩ := ⟨rfl, .inr ⟨f, file, rfl⟩⟩

/-- One operation of a phase: it answers in the next phase, or the export is gone. -/
theorem follows_act {phase : ExportPhase ρ} {op : ExportEffect ρ}
    {Q : op.Resp → ExportKnows ρ → Prop} {E : Raised → ExportKnows ρ → Prop}
    (hallowed : ExportAllowed phase op)
    (hok : ∀ a, Q a ⟨args, phase.next args op a⟩)
    (herror : ∀ e, E e ⟨args, .gone phase.id?⟩) :
    Follows (exportProtocol ρ) Q E ⟨args, phase⟩ (act op) := by
  refine follows_perform.2 ⟨hallowed, fun a k' hnext => ?_, fun e k' hnext => ?_⟩
  · have hk : k' = ⟨args, phase.next args op a⟩ := by
      cases op with
      | createTable => exact hnext.2
      | _ => exact hnext
    rw [hk]
    exact hok a
  · have hk : k' = ⟨args, .gone phase.id?⟩ := by
      cases op <;> exact hnext
    rw [hk]
    exact herror e

/-- Copying the objects of one schema adds them to the file in their order, each with its count:
by induction on the objects. -/
theorem follows_copyObjects (objects : List (MartObject ρ)) :
    Follows (exportProtocol ρ)
      (fun rowCounts k => rowCounts = rowCountsOf objects ∧
        k = ⟨args, .building id (some f) { file with tables := file.tables ++ objects }⟩)
      (fun _ k => GivenUp args id k) ⟨args, .building id (some f) file⟩ (copyObjects id objects) := by
  induction objects generalizing file with
  | nil =>
    refine follows_pure.2 ⟨rfl, ?_⟩
    rw [List.append_nil]
  | cons object objects ih =>
    refine follows_bind.2 (follows_perform.2 ⟨.createTable id f file object, ?_, ?_⟩)
    · rintro count k' ⟨hcount, rfl⟩
      refine follows_bind.2 (ih.imp ?_ fun _ _ h => h)
      rintro rowCounts k ⟨rfl, rfl⟩
      refine follows_pure.2 ⟨by rw [hcount]; rfl, ?_⟩
      simp [ServingFile.withTable]
    · rintro e k' rfl
      exact givenUp_gone

/-- The file after the tables of these schemas were copied. -/
private def ServingFile.copied (file : ServingFile ρ) (f : PublishedFile ρ) (schemas : List String) :
    ServingFile ρ :=
  { file with
    schemas := file.schemas ++ schemas
    tables := file.tables ++ schemas.flatMap (objectsOf f) }

theorem follows_copySchemas (schemas : List String) :
    Follows (exportProtocol ρ)
      (fun rowCounts k => rowCounts = rowCountsOf (schemas.flatMap (objectsOf f)) ∧
        k = ⟨args, .building id (some f) (file.copied f schemas)⟩)
      (fun _ k => GivenUp args id k) ⟨args, .building id (some f) file⟩
      (copySchemas id f schemas) := by
  induction schemas generalizing file with
  | nil =>
    refine follows_pure.2 ⟨rfl, ?_⟩
    simp [ServingFile.copied]
  | cons schema schemas ih =>
    refine follows_bind.2 (follows_act (.createSchema id f file schema) (fun _ => ?_)
      fun _ => givenUp_gone)
    refine follows_bind.2 ((follows_copyObjects (objectsOf f schema)).imp ?_ fun _ _ h => h)
    rintro rowCounts k ⟨rfl, rfl⟩
    refine follows_bind.2 (ih.imp ?_ fun _ _ h => h)
    rintro rest k ⟨rfl, rfl⟩
    refine follows_pure.2 ⟨by simp [rowCountsOf], ?_⟩
    simp [ServingFile.copied, ServingFile.withSchema]

/-- The content of the export's file before the manifest is in it. -/
private def copiedFile (f : PublishedFile ρ) : ServingFile ρ := ServingFile.empty.copied f servingSchemas

theorem follows_copyMartObjects :
    Follows (exportProtocol ρ)
      (fun rowCounts k => ∃ f, rowCounts = rowCountsOf (martTables f) ∧
        k = ⟨args, .building id (some f) (copiedFile f)⟩)
      (fun _ k => GivenUp args id k) ⟨args, .named id⟩ (copyMartObjects id) := by
  refine follows_bind.2 (follows_act (.attachBuild id) (fun _ => ?_) fun _ => givenUp_gone)
  refine follows_bind.2 (follows_act (.attachPublished id .empty) (fun f => ?_)
    fun _ => givenUp_gone)
  refine (follows_copySchemas servingSchemas).imp ?_ fun _ _ h => h
  rintro rowCounts k ⟨rfl, rfl⟩
  exact ⟨f, rfl, rfl⟩

/-- A check of the export raises or changes nothing. -/
theorem follows_check {p : Prop} [Decidable p] {e : Raised} {k : ExportKnows ρ}
    {Q : Unit → ExportKnows ρ → Prop} {E : Raised → ExportKnows ρ → Prop}
    (hok : p → Q () k) (herror : E e k) :
    Follows (exportProtocol ρ) Q E k (.ofExcept (require p e)) := by
  refine follows_ofExcept.2 ⟨fun _ h => hok (require_eq_ok.1 h), fun e' h => ?_⟩
  have he : e = e' := by
    unfold require at h
    split at h
    · cases h
    · exact Except.error.inj h
  rw [← he]
  exact herror

theorem follows_validate :
    Follows (exportProtocol ρ) (fun _ k => k = ⟨args, .building id (some f) file⟩)
      (fun _ k => GivenUp args id k) ⟨args, .building id (some f) file⟩
      (validateServingFile id) := by
  refine follows_bind.2 (follows_act (.readBuild id f file) (fun content => ?_)
    fun _ => givenUp_gone)
  refine follows_bind.2 (follows_check (fun _ => ?_) givenUp_building)
  exact follows_check (fun _ => rfl) givenUp_building

/-- The complete file of an export that opened `f`. -/
def builtFile (args : ExportArgs) (id : RunId) (f : PublishedFile ρ) : ServingFile ρ :=
  (copiedFile f).withManifest (args.manifest id (rowCountsOf (martTables f)))

theorem follows_buildExport :
    Follows (exportProtocol ρ)
      (fun rowCounts k => ∃ f, rowCounts = rowCountsOf (martTables f) ∧
        k = ⟨args, .building id (some f) (builtFile args id f)⟩)
      (fun _ k => GivenUp args id k) ⟨args, .named id⟩ (buildExport args id) := by
  refine follows_bind.2 (follows_copyMartObjects.imp ?_ fun _ _ h => h)
  rintro rowCounts k ⟨f, rfl, rfl⟩
  refine follows_bind.2 (follows_act (.insertManifest id f (copiedFile f) _) (fun _ => ?_)
    fun _ => givenUp_gone)
  refine follows_bind.2 (follows_validate.imp ?_ fun _ _ h => h)
  rintro _ k rfl
  refine follows_bind.2 (follows_act (.checkpoint id f (builtFile args id f)) (fun _ => ?_)
    fun _ => givenUp_gone)
  refine follows_bind.2 (follows_act (.walExists id f (builtFile args id f)) (fun wal => ?_)
    fun _ => givenUp_gone)
  refine follows_bind.2 (follows_check (fun _ => ?_) givenUp_building)
  refine follows_bind.2 (follows_act (.versionsDirectory id f (builtFile args id f)) (fun _ => ?_)
    fun _ => givenUp_gone)
  exact follows_pure.2 ⟨f, rfl, rfl⟩

/-- The second check: whoever passes it holds the recorded file. -/
theorem follows_requireIdentity :
    Follows (exportProtocol ρ) (fun _ k => k = ⟨args, .ready id f file⟩)
      (fun _ k => GivenUp args id k) ⟨args, .building id (some f) file⟩
      (requireIdentity args.publishedIdentity) := by
  refine follows_bind.2 (follows_act (.statBuilt id f file) (fun identity => ?_)
    fun _ => givenUp_gone)
  by_cases hidentity : identity = args.publishedIdentity
  · have hphase : ExportPhase.next args (.building id (some f) file) .statPublished identity =
        .ready id f file := if_pos hidentity
    rw [hphase]
    refine follows_ofExcept.2 ⟨fun _ _ => rfl, fun e he => ?_⟩
    rw [require, if_pos hidentity] at he
    cases he
  · have hphase : ExportPhase.next args (.building id (some f) file) .statPublished identity =
        .building id (some f) file := if_neg hidentity
    rw [hphase]
    exact follows_check (fun h => absurd h hidentity) givenUp_building

theorem follows_installExport :
    Follows (exportProtocol ρ) (fun _ k => k = ⟨args, .installed id f file⟩)
      (fun _ k => GivenUp args id k) ⟨args, .building id (some f) file⟩
      (installExport args id) := by
  refine follows_bind.2 (follows_requireIdentity.imp ?_ fun _ _ h => h)
  rintro _ k rfl
  refine follows_bind.2 (follows_act (.link id f file) (fun _ => ?_) fun _ => givenUp_gone)
  refine follows_bind.2 (follows_act (.replaceServing id f file) (fun _ => ?_)
    fun _ => givenUp_gone)
  refine follows_bind.2 (follows_act (.fsyncDirectory id f file) (fun _ => ?_)
    fun _ => givenUp_gone)
  exact follows_act (.fsyncDirectory id f file) (fun _ => rfl) fun _ => givenUp_gone

/-- An export that gave up may remove its build file, and knows nothing more after it. -/
theorem follows_unlinkBuild {k : ExportKnows ρ} {E : Raised → ExportKnows ρ → Prop}
    (hk : GivenUp args id k) (hE : ∀ e, E e ⟨args, .gone (some id)⟩) :
    Follows (exportProtocol ρ) (fun _ k => k = ⟨args, .gone (some id)⟩) E k
      (act (.unlinkBuild id)) := by
  obtain ⟨args', phase⟩ := k
  obtain ⟨rfl, rfl | ⟨f, file, rfl⟩⟩ := hk
  · exact follows_act (.unlinkBuild id) (fun _ => rfl) hE
  · refine follows_act (.giveUp id f file) (fun _ => ?_) hE
    cases f <;> rfl

/-- What an export that returned knows. -/
def Exported (args : ExportArgs) (result : ServingExportResult) (k : ExportKnows ρ) : Prop :=
  ∃ f, result.rowCounts = rowCountsOf (martTables f) ∧
    k = ⟨args, .installed result.exportId f (builtFile args result.exportId f)⟩

theorem exportServingMart_follows :
    Follows (exportProtocol ρ) (fun result k => Exported args result k) (fun _ _ => True)
      ⟨args, .begun⟩ (exportServingMart args) := by
  refine follows_bind.2 ?_
  refine follows_bind.2 (follows_act .statBegun (fun identity => ?_) fun _ => trivial)
  refine follows_check (fun _ => ?_) trivial
  refine follows_bind.2 (follows_act .uuid4 (fun id => ?_) fun _ => trivial)
  refine follows_bind.2 (follows_act (.buildDirectory id) (fun _ => ?_) fun _ => trivial)
  refine follows_bind.2 (follows_onError.2 (follows_buildExport.imp ?_ ?_))
  · rintro rowCounts k ⟨f, rfl, rfl⟩
    refine follows_bind.2 (follows_onError.2 (follows_installExport.imp ?_ ?_))
    · rintro _ k rfl
      exact follows_pure.2 ⟨f, rfl, rfl⟩
    · intro e k hk
      refine follows_bind.2 ((follows_unlinkBuild hk fun _ => trivial).imp ?_ fun _ _ h => h)
      rintro _ k rfl
      exact follows_act (.unlinkVersion id) (fun _ => trivial) fun _ => trivial
  · intro e k hk
    exact (follows_unlinkBuild hk fun _ => trivial).imp (fun _ _ _ => trivial) fun _ _ h => h

end Follows

/-- The published file an export opened is the recorded one, or the recorded one has left the
published path. Either stays true when another file is published. -/
def OpenedUnder (args : ExportArgs) (f : PublishedFile ρ) (d : ServingDisk ρ) : Prop :=
  (∃ pub ∈ d.publications, pub.file = f) ∧
    (f.identity = args.publishedIdentity ∨
      ∀ g, d.published = some g → g.identity ≠ args.publishedIdentity)

/-- The recorded file itself was opened. -/
def OpenedRecorded (args : ExportArgs) (f : PublishedFile ρ) (d : ServingDisk ρ) : Prop :=
  (∃ pub ∈ d.publications, pub.file = f) ∧ f.identity = args.publishedIdentity

/-- What is true of the disk in a phase: the files of the export are what it has written, and
what it opened was opened under its record. -/
def ExportPhase.Holds (args : ExportArgs) (d : ServingDisk ρ) : ExportPhase ρ → Prop
  | .begun => True
  | .named id => d.inodes id = none
  | .building id opened file =>
    d.inodes id = some file ∧ ∀ f, opened = some f → OpenedUnder args f d
  | .ready id f file => d.inodes id = some file ∧ OpenedRecorded args f d
  | .linked id f file =>
    d.inodes id = some file ∧ OpenedRecorded args f d ∧ d.versions id = true
  | .installed id f file =>
    d.inodes id = some file ∧ OpenedRecorded args f d ∧ d.versions id = true ∧ id ∈ d.installed
  | .gone _ => True

/-- An export that returned: its versioned file holds `file`, which was moved to the
serving path. -/
structure Kept (d : ServingDisk ρ) (id : RunId) (file : ServingFile ρ) : Prop where
  version : d.versions id = true
  content : d.inodes id = some file
  installed : id ∈ d.installed

/-- The invariant of exports and publishes; `kept` lists exports that returned. -/
structure ExportInv (kept : List (RunId × ServingFile ρ)) (d : ServingDisk ρ)
    (knows : Nat → Option (ExportKnows ρ)) : Prop where
  current : ∀ f, d.published = some f → ∃ pub ∈ d.publications, pub.file = f
  distinct : (d.publications.map fun pub => pub.file.identity).Nodup
  fresh : ∀ id, d.nextId ≤ id → d.inodes id = none
  recorded : ∀ p k, knows p = some k → ∃ pub ∈ d.publications, pub.Recorded k.args
  holds : ∀ p k, knows p = some k → k.phase.Holds k.args d
  named : ∀ p k id, knows p = some k → k.phase.id? = some id → id < d.nextId
  apart : ∀ p p' k k' id, p ≠ p' → knows p = some k → knows p' = some k' →
    k.phase.id? = some id → k'.phase.id? ≠ some id
  keeps : ∀ x ∈ kept, Kept d x.1 x.2 ∧ x.1 < d.nextId ∧
    ∀ p k, knows p = some k → k.phase.id? ≠ some x.1

/-- A step of one export: it touches the files of `id` only. -/
structure Touches (id : Option RunId) (d d' : ServingDisk ρ) : Prop where
  published : d'.published = d.published
  publications : d'.publications = d.publications
  nextId : d'.nextId = d.nextId
  inodes : ∀ id', id ≠ some id' → d'.inodes id' = d.inodes id'
  versions : ∀ id', id ≠ some id' → d'.versions id' = d.versions id'
  installed : ∀ id' ∈ d.installed, id' ∈ d'.installed

theorem Touches.refl (id : Option RunId) (d : ServingDisk ρ) : Touches id d d :=
  ⟨rfl, rfl, rfl, fun _ _ => rfl, fun _ _ => rfl, fun _ h => h⟩

/-- What a step leaves of another export's phase. -/
theorem Touches.holds {id : Option RunId} {d d' : ServingDisk ρ} (h : Touches id d d')
    {args : ExportArgs} {phase : ExportPhase ρ} (hphase : phase.Holds args d)
    (hid : ∀ id', phase.id? = some id' → id ≠ some id') : phase.Holds args d' := by
  -- what an opened file is held against does not change
  have hunder : ∀ f, OpenedUnder args f d → OpenedUnder args f d' := by
    intro f hf
    unfold OpenedUnder
    rw [h.publications, h.published]
    exact hf
  have hrecorded : ∀ f, OpenedRecorded args f d → OpenedRecorded args f d' := by
    intro f hf
    unfold OpenedRecorded
    rw [h.publications]
    exact hf
  -- what a phase knows is about the call's own number, which the step did not touch
  cases phase with
  | begun => trivial
  | gone id' => trivial
  | named id' => exact (h.inodes id' (hid id' rfl)).trans hphase
  | building id' opened file =>
    exact ⟨(h.inodes id' (hid id' rfl)).trans hphase.1, fun f hf => hunder f (hphase.2 f hf)⟩
  | ready id' f file =>
    exact ⟨(h.inodes id' (hid id' rfl)).trans hphase.1, hrecorded f hphase.2⟩
  | linked id' f file =>
    exact ⟨(h.inodes id' (hid id' rfl)).trans hphase.1, hrecorded f hphase.2.1,
      (h.versions id' (hid id' rfl)).trans hphase.2.2⟩
  | installed id' f file =>
    exact ⟨(h.inodes id' (hid id' rfl)).trans hphase.1, hrecorded f hphase.2.1,
      (h.versions id' (hid id' rfl)).trans hphase.2.2.1, h.installed id' hphase.2.2.2⟩

/-- Every operation touches the files of its phase only, but for the new id. -/
theorem touches_run {phase : ExportPhase ρ} {op : ExportEffect ρ} {d : ServingDisk ρ}
    (h : ExportAllowed phase op) (hop : op ≠ .uuid4) : Touches phase.id? d (op.run d).2 := by
  have hne : ∀ {id id' : RunId}, some id ≠ some id' → id' ≠ id :=
    fun h he => h (congrArg some he.symm)
  -- the writes into the build file, which is the call's own
  have hwrite : ∀ (id : RunId) (g : ServingFile ρ → ServingFile ρ),
      Touches (some id) d (d.write id g) := by
    intro id g
    refine ⟨rfl, rfl, rfl, fun id' hid => ?_, fun _ _ => rfl, fun _ h => h⟩
    exact Function.update_of_ne (hne hid) ..
  cases h with
  | uuid4 => exact absurd rfl hop
  | statBegun | buildDirectory | attachPublished | readBuild | checkpoint | walExists
    | versionsDirectory | statBuilt | fsyncDirectory => exact Touches.refl _ _
  | attachBuild id =>
    refine ⟨rfl, rfl, rfl, fun id' hid => ?_, fun _ _ => rfl, fun _ h => h⟩
    exact Function.update_of_ne (hne hid) ..
  | createSchema id f file schema => exact hwrite id _
  | createTable id f file object => exact hwrite id _
  | insertManifest id f file m => exact hwrite id _
  | giveUp id f file => exact ⟨rfl, rfl, rfl, fun _ _ => rfl, fun _ _ => rfl, fun _ h => h⟩
  | unlinkBuild id => exact ⟨rfl, rfl, rfl, fun _ _ => rfl, fun _ _ => rfl, fun _ h => h⟩
  | unlinkVersion id =>
    refine ⟨rfl, rfl, rfl, fun _ _ => rfl, fun id' hid => ?_, fun _ h => h⟩
    exact Function.update_of_ne (hne hid) ..
  -- a link that finds the name taken raises `FileExistsError` and touches nothing
  | link id f file =>
    rw [run_link]
    split
    · refine ⟨rfl, rfl, rfl, fun _ _ => rfl, fun id' hid => ?_, fun _ h => h⟩
      exact Function.update_of_ne (hne hid) ..
    · exact Touches.refl _ _
  | replaceServing id f file =>
    rw [run_replaceServing]
    split
    · exact ⟨rfl, rfl, rfl, fun _ _ => rfl, fun _ _ => rfl, fun _ h => List.mem_append_left _ h⟩
    · exact Touches.refl _ _

/-! ## Every step keeps the invariant -/

section Inv

variable {kept : List (RunId × ServingFile ρ)} {d d' : ServingDisk ρ}
  {knows : Nat → Option (ExportKnows ρ)} {p : Nat} {k : ExportKnows ρ} {args : ExportArgs}
  {phase : ExportPhase ρ}

/-- What the others know after a process learned something. -/
theorem knows_update {k' : ExportKnows ρ} {o : Option (ExportKnows ρ)} {p' : Nat}
    (h : Function.update knows p o p' = some k') :
    (p' = p ∧ o = some k') ∨ (p' ≠ p ∧ knows p' = some k') := by
  by_cases hp : p' = p
  · subst hp
    rw [Function.update_self] at h
    exact .inl ⟨rfl, h⟩
  · rw [Function.update_of_ne hp] at h
    exact .inr ⟨hp, h⟩

/-- A step of one export on its own files, into a phase that holds and names the same
export. -/
theorem ExportInv.act (hi : ExportInv kept d knows) (hk : knows p = some ⟨args, phase⟩)
    (htouch : Touches phase.id? d d') {phase' : ExportPhase ρ} (hid : phase'.id? = phase.id?)
    (hholds : phase'.Holds args d') :
    ExportInv kept d' (Function.update knows p (some ⟨args, phase'⟩)) where
  current := by
    rw [htouch.published, htouch.publications]
    exact hi.current
  distinct := by
    rw [htouch.publications]
    exact hi.distinct
  fresh := by
    intro id hle
    rw [htouch.nextId] at hle
    -- an id that is not given out yet is not the export's own
    rw [htouch.inodes id fun he => ?_]
    · exact hi.fresh id hle
    · exact absurd (hi.named p _ id hk he) (Nat.not_lt.2 hle)
  recorded := by
    intro p' k' hk'
    rw [htouch.publications]
    rcases knows_update hk' with ⟨-, he⟩ | ⟨-, hk'⟩
    · cases he
      exact hi.recorded p ⟨args, phase⟩ hk
    · exact hi.recorded p' k' hk'
  holds := by
    intro p' k' hk'
    rcases knows_update hk' with ⟨-, he⟩ | ⟨hne, hk'⟩
    · cases he
      exact hholds
    -- another export has another id, so its files are as they were
    · exact htouch.holds (hi.holds p' k' hk') fun id hid' he =>
        hi.apart p p' _ k' id (Ne.symm hne) hk hk' he hid'
  named := by
    intro p' k' id hk' hid'
    rw [htouch.nextId]
    rcases knows_update hk' with ⟨-, he⟩ | ⟨-, hk'⟩
    · cases he
      exact hi.named p _ id hk (hid.symm.trans hid')
    · exact hi.named p' k' id hk' hid'
  apart := by
    intro p₁ p₂ k₁ k₂ id hne h₁ h₂ hid₁ hid₂
    -- the export keeps its id, so both pairs of ids are those of before
    rcases knows_update h₁ with ⟨rfl, he₁⟩ | ⟨-, ho₁⟩
    · cases he₁
      rcases knows_update h₂ with ⟨rfl, -⟩ | ⟨-, ho₂⟩
      · exact hne rfl
      · exact hi.apart p₁ p₂ _ k₂ id hne hk ho₂ (hid.symm.trans hid₁) hid₂
    · rcases knows_update h₂ with ⟨rfl, he₂⟩ | ⟨-, ho₂⟩
      · cases he₂
        exact hi.apart p₁ p₂ k₁ _ id hne ho₁ hk hid₁ (hid.symm.trans hid₂)
      · exact hi.apart p₁ p₂ k₁ k₂ id hne ho₁ ho₂ hid₁ hid₂
  keeps := by
    intro x hx
    obtain ⟨hkept, hlt, hothers⟩ := hi.keeps x hx
    -- a kept export is nobody's any more
    have hnotx : phase.id? ≠ some x.1 := hothers p _ hk
    refine ⟨⟨?_, ?_, htouch.installed _ hkept.installed⟩, by rwa [htouch.nextId], ?_⟩
    · rw [htouch.versions x.1 hnotx]
      exact hkept.version
    · rw [htouch.inodes x.1 hnotx]
      exact hkept.content
    · intro p' k' hk'
      rcases knows_update hk' with ⟨-, he⟩ | ⟨-, hk'⟩
      · cases he
        rw [hid]
        exact hnotx
      · exact hothers p' k' hk'

theorem holds_of_id?_eq_none (h : phase.id? = none) : phase.Holds args d := by
  cases phase with
  | begun => trivial
  | gone id => trivial
  | named id | building id f file | ready id f file | linked id f file | installed id f file =>
    cases h

/-- A process that begins, or ends, names no export. -/
theorem ExportInv.replaceKnows (hi : ExportInv kept d knows) {o : Option (ExportKnows ρ)}
    (ho : ∀ k, o = some k → k.phase.id? = none ∧ ∃ pub ∈ d.publications, pub.Recorded k.args) :
    ExportInv kept d (Function.update knows p o) where
  current := hi.current
  distinct := hi.distinct
  fresh := hi.fresh
  recorded := by
    intro p' k' hk'
    rcases knows_update hk' with ⟨-, he⟩ | ⟨-, hk'⟩
    · exact (ho k' he).2
    · exact hi.recorded p' k' hk'
  holds := by
    intro p' k' hk'
    rcases knows_update hk' with ⟨-, he⟩ | ⟨-, hk'⟩
    · exact holds_of_id?_eq_none (ho k' he).1
    · exact hi.holds p' k' hk'
  named := by
    intro p' k' id hk' hid
    rcases knows_update hk' with ⟨-, he⟩ | ⟨-, hk'⟩
    · rw [(ho k' he).1] at hid
      cases hid
    · exact hi.named p' k' id hk' hid
  apart := by
    intro p₁ p₂ k₁ k₂ id hne h₁ h₂ hid₁ hid₂
    -- the new knowledge has no id, so the two are both old
    rcases knows_update h₁ with ⟨-, he₁⟩ | ⟨-, h₁⟩
    · rw [(ho k₁ he₁).1] at hid₁
      cases hid₁
    · rcases knows_update h₂ with ⟨-, he₂⟩ | ⟨-, h₂⟩
      · rw [(ho k₂ he₂).1] at hid₂
        cases hid₂
      · exact hi.apart p₁ p₂ k₁ k₂ id hne h₁ h₂ hid₁ hid₂
  keeps := by
    intro x hx
    obtain ⟨hkept, hlt, hothers⟩ := hi.keeps x hx
    refine ⟨hkept, hlt, fun p' k' hk' => ?_⟩
    rcases knows_update hk' with ⟨-, he⟩ | ⟨-, hk'⟩
    · rw [(ho k' he).1]
      exact (Option.some_ne_none _).symm
    · exact hothers p' k' hk'

/-- A new id is nobody else's. -/
theorem ExportInv.fresh_id (hi : ExportInv kept d knows) (hk : knows p = some ⟨args, .begun⟩) :
    ExportInv kept { d with nextId := d.nextId + 1 }
      (Function.update knows p (some ⟨args, .named d.nextId⟩)) where
  current := hi.current
  distinct := hi.distinct
  fresh := fun id hle => hi.fresh id (Nat.le_of_succ_le hle)
  recorded := by
    intro p' k' hk'
    rcases knows_update hk' with ⟨-, he⟩ | ⟨-, hk'⟩
    · cases he
      exact hi.recorded p ⟨args, .begun⟩ hk
    · exact hi.recorded p' k' hk'
  holds := by
    intro p' k' hk'
    rcases knows_update hk' with ⟨-, he⟩ | ⟨-, hk'⟩
    · cases he
      -- no file has the name of an id that was never given out
      exact hi.fresh d.nextId (Nat.le_refl _)
    · have h := hi.holds p' k' hk'
      cases hphase : k'.phase <;> rw [hphase] at h <;> exact h
  named := by
    intro p' k' id hk' hid
    rcases knows_update hk' with ⟨-, he⟩ | ⟨-, hk'⟩
    · cases he
      cases hid
      exact Nat.lt_succ_self _
    · exact Nat.lt_succ_of_lt (hi.named p' k' id hk' hid)
  apart := by
    intro p₁ p₂ k₁ k₂ id hne h₁ h₂ hid₁ hid₂
    -- all ids that are in use are smaller than the new one
    have hold : ∀ p' k', knows p' = some k' → k'.phase.id? ≠ some d.nextId :=
      fun p' k' hk' he => Nat.lt_irrefl _ (hi.named p' k' _ hk' he)
    rcases knows_update h₁ with ⟨rfl, he₁⟩ | ⟨-, ho₁⟩
    · cases he₁
      cases hid₁
      rcases knows_update h₂ with ⟨rfl, -⟩ | ⟨-, ho₂⟩
      · exact hne rfl
      · exact hold p₂ k₂ ho₂ hid₂
    · rcases knows_update h₂ with ⟨rfl, he₂⟩ | ⟨-, ho₂⟩
      · cases he₂
        cases hid₂
        exact hold p₁ k₁ ho₁ hid₁
      · exact hi.apart p₁ p₂ k₁ k₂ id hne ho₁ ho₂ hid₁ hid₂
  keeps := by
    intro x hx
    obtain ⟨hkept, hlt, hothers⟩ := hi.keeps x hx
    refine ⟨⟨hkept.version, hkept.content, hkept.installed⟩, Nat.lt_succ_of_lt hlt, fun p' k' hk' => ?_⟩
    rcases knows_update hk' with ⟨-, he⟩ | ⟨-, hk'⟩
    · cases he
      intro h
      exact Nat.lt_irrefl _ (Option.some.inj h ▸ hlt)
    · exact hothers p' k' hk'

theorem id?_next {op : ExportEffect ρ} (h : ExportAllowed phase op) (hop : op ≠ .uuid4)
    (a : op.Resp) : (phase.next args op a).id? = phase.id? := by
  cases h with
  | uuid4 => exact absurd rfl hop
  | statBuilt id f file =>
    show (if a = args.publishedIdentity then _ else _ : ExportPhase ρ).id? = some id
    split <;> rfl
  | giveUp id f file => cases f <;> rfl
  | _ => rfl

/-- What an operation that answered leaves is what the next phase says. -/
theorem holds_next {op : ExportEffect ρ} (h : ExportAllowed phase op) (hop : op ≠ .uuid4)
    (hcurrent : ∀ f, d.published = some f → ∃ pub ∈ d.publications, pub.file = f)
    (hphase : phase.Holds args d) {a : op.Resp} (hrun : (op.run d).1 = .ok a) :
    (phase.next args op a).Holds args (op.run d).2 := by
  have hwrite : ∀ {id : RunId} {file : ServingFile ρ} (g : ServingFile ρ → ServingFile ρ),
      d.inodes id = some file → (d.write id g).inodes id = some (g file) := by
    intro id file g hfile
    show Function.update d.inodes id ((d.inodes id).map g) id = _
    rw [Function.update_self, hfile, Option.map_some]
  cases h with
  | uuid4 => exact absurd rfl hop
  | statBegun | unlinkBuild | unlinkVersion => trivial
  | giveUp id f file => cases f <;> trivial
  | buildDirectory id => exact hphase
  | readBuild id f file | checkpoint id f file | walExists id f file
    | versionsDirectory id f file | fsyncDirectory id f file => exact hphase
  | attachBuild id =>
    refine ⟨?_, fun f hf => by cases hf⟩
    show Function.update d.inodes id (some ((d.inodes id).getD .empty)) id = _
    rw [Function.update_self, show d.inodes id = none from hphase]
    rfl
  | attachPublished id file =>
    -- what is opened is at the published path now
    have hopened : d.published = some a := by
      change d.published.elim (.error _) .ok = Except.ok a at hrun
      cases hpub : d.published with
      | none =>
        rw [hpub] at hrun
        cases hrun
      | some g =>
        rw [hpub] at hrun
        rw [Except.ok.inj hrun]
    refine ⟨hphase.1, fun f hf => ?_⟩
    cases hf
    refine ⟨hcurrent a hopened, ?_⟩
    by_cases hid : a.identity = args.publishedIdentity
    · exact .inl hid
    · refine .inr fun g hg => ?_
      obtain rfl := Option.some.inj (hopened.symm.trans hg)
      exact hid
  | createSchema id f file schema => exact ⟨hwrite _ hphase.1, hphase.2⟩
  | createTable id f file object => exact ⟨hwrite _ hphase.1, hphase.2⟩
  | insertManifest id f file m => exact ⟨hwrite _ hphase.1, hphase.2⟩
  | statBuilt id f file =>
    show (if a = args.publishedIdentity then _ else _ : ExportPhase ρ).Holds args d
    split
    next hidentity =>
      obtain ⟨hfile, hopened⟩ := hphase
      obtain ⟨hpub, hrecorded | hleft⟩ := hopened f rfl
      · exact ⟨hfile, hpub, hrecorded⟩
      · -- the check saw the recorded identity, so the recorded file has not left
        change (d.published.map _).elim (.error _) .ok = Except.ok a at hrun
        cases hg : d.published with
        | none =>
          rw [hg] at hrun
          cases hrun
        | some g =>
          rw [hg] at hrun
          have hga : g.identity = a := Except.ok.inj hrun
          exact absurd (hga.trans hidentity) (hleft g hg)
    next => exact hphase
  | link id f file =>
    rw [run_link] at hrun ⊢
    split at hrun
    next hbuild =>
      rw [if_pos hbuild]
      exact ⟨hphase.1, hphase.2, Function.update_self ..⟩
    next => cases hrun
  | replaceServing id f file =>
    rw [run_replaceServing] at hrun ⊢
    split at hrun
    next hbuild =>
      rw [if_pos hbuild]
      exact ⟨hphase.1, hphase.2.1, hphase.2.2, by simp⟩
    next => cases hrun

/-- One operation of an export keeps the invariant, whatever it answers. -/
theorem ExportInv.call (hi : ExportInv kept d knows) (hk : knows p = some k)
    {op : ExportEffect ρ} {r : Except Raised op.Resp} (hallowed : ExportAllowed k.phase op)
    (hexec : ExportExec p d op r d') : ∃ k', (exportProtocol ρ).next k op r k' ∧
      ExportInv kept d' (Function.update knows p (some k')) := by
  obtain ⟨args, phase⟩ := k
  have hpub := hi.recorded p _ hk
  -- a new id is the one answer that changes whose files the process may touch
  by_cases hop : op = .uuid4
  · subst hop
    cases hallowed
    have hgone : ∀ {d : ServingDisk ρ} {knows : Nat → Option (ExportKnows ρ)},
        ExportInv kept d knows → (∃ pub ∈ d.publications, pub.Recorded args) →
        ExportInv kept d (Function.update knows p (some ⟨args, .gone none⟩)) := by
      intro d knows hi hpub
      refine hi.replaceKnows fun k hk => ?_
      cases hk
      exact ⟨rfl, hpub⟩
    cases hexec with
    | done => exact ⟨_, rfl, hi.fresh_id hk⟩
    | refused _ _ e => exact ⟨_, rfl, hgone hi hpub⟩
    | lost _ _ e =>
      have h := hgone (hi.fresh_id hk) hpub
      rw [Function.update_idem] at h
      exact ⟨_, rfl, h⟩
  · have hnext : ∀ a, (op.run d).1 = .ok a → (exportProtocol ρ).next ⟨args, phase⟩ op (.ok a)
        ⟨args, phase.next args op a⟩ := by
      intro a ha
      cases op with
      | createTable id object =>
        have hcount : a = object.rows.length := (Except.ok.inj ha).symm
        exact ⟨hcount, rfl⟩
      | _ => rfl
    -- an exception ends the export; what was done before touches its own files only
    have hraise : ∀ e d', Touches phase.id? d d' → ∃ k', (exportProtocol ρ).next ⟨args, phase⟩ op
        (.error e) k' ∧ ExportInv kept d' (Function.update knows p (some k')) := by
      intro e d' htouch
      refine ⟨⟨args, .gone phase.id?⟩, by cases op <;> rfl, hi.act hk htouch rfl trivial⟩
    cases hexec with
    | done =>
      cases hr : (op.run d).1 with
      | error e => exact hraise e _ (touches_run hallowed hop)
      | ok a =>
        refine ⟨_, hnext a hr, hi.act hk (touches_run hallowed hop) (id?_next hallowed hop a) ?_⟩
        exact holds_next hallowed hop hi.current (hi.holds p _ hk) hr
    | refused _ _ e => exact hraise e _ (Touches.refl _ _)
    | lost _ _ e => exact hraise e _ (touches_run hallowed hop)
    | wal _ id =>
      cases hallowed
      exact ⟨_, rfl, hi.act hk (Touches.refl _ _) rfl (hi.holds p _ hk)⟩

/-- A publish changes what is at the published path, never back to a recorded identity, and no
file of an export. -/
theorem ExportInv.publish (hi : ExportInv kept d knows) {pub : Publication ρ}
    (h : PublishNext d pub d') : ExportInv kept d' knows := by
  obtain ⟨hnew, rfl⟩ := h
  have hgrow : ∀ old ∈ d.publications, old ∈ d.publications ++ [pub] :=
    fun old hold => List.mem_append_left _ hold
  have hrecorded : ∀ args f, OpenedRecorded args f d →
      OpenedRecorded args f { d with
        published := some pub.file, publications := d.publications ++ [pub] } := by
    rintro args f ⟨⟨old, hold, hfile⟩, hidentity⟩
    exact ⟨⟨old, hgrow old hold, hfile⟩, hidentity⟩
  exact {
    current := by
      intro f hf
      cases hf
      exact ⟨pub, by simp, rfl⟩
    distinct := by
      rw [List.map_append, List.nodup_append]
      refine ⟨hi.distinct, by simp, ?_⟩
      intro a ha b hb
      obtain ⟨old, hold, rfl⟩ := List.mem_map.1 ha
      obtain rfl : b = pub.file.identity := by simpa using hb
      exact hnew old hold
    fresh := hi.fresh
    recorded := by
      intro p k hk
      obtain ⟨old, hold, hargs⟩ := hi.recorded p k hk
      exact ⟨old, hgrow old hold, hargs⟩
    holds := by
      intro p k hk
      have hphase := hi.holds p k hk
      obtain ⟨old, hold, hargs⟩ := hi.recorded p k hk
      obtain ⟨args, phase⟩ := k
      cases phase with
      | begun => trivial
      | gone id => trivial
      | named id => exact hphase
      | building id opened file =>
        refine ⟨hphase.1, fun f hf => ?_⟩
        obtain ⟨⟨from', hfrom, hfile⟩, hidentity⟩ := hphase.2 f hf
        refine ⟨⟨from', hgrow from' hfrom, hfile⟩, hidentity.imp_right fun _ g hg => ?_⟩
        -- the new file is not the recorded one: that identity was there before
        cases hg
        rw [hargs.2.2]
        exact (hnew old hold).symm
      | ready id f file => exact ⟨hphase.1, hrecorded args f hphase.2⟩
      | linked id f file => exact ⟨hphase.1, hrecorded args f hphase.2.1, hphase.2.2⟩
      | installed id f file => exact ⟨hphase.1, hrecorded args f hphase.2.1, hphase.2.2⟩
    named := hi.named
    apart := hi.apart
    keeps := fun x hx => ⟨⟨(hi.keeps x hx).1.version, (hi.keeps x hx).1.content,
      (hi.keeps x hx).1.installed⟩, (hi.keeps x hx).2⟩ }

end Inv

/-- Exports among publishes keep the invariant. -/
theorem exportInv_keeps (kept : List (RunId × ServingFile ρ))
    {Q : ServingExportResult → ExportKnows ρ → Prop}
    (hQ : ∀ args result k, Exported args result k → Q result k) :
    Keeps (servingSemantics ρ) (exportProtocol ρ) Q (fun _ _ => True)
      (fun _ d knows => ExportInv kept d knows) where
  start := by
    intro as d knows p args hi hstart
    refine ⟨⟨args, .begun⟩, exportServingMart_follows.imp (hQ args) fun _ _ h => h, ?_⟩
    refine hi.replaceKnows fun k hk => ?_
    cases hk
    exact ⟨rfl, hstart⟩
  call := by
    intro as d knows p k op r d' hi hk hallowed hexec
    exact hi.call hk hallowed hexec
  crash := by
    intro as d knows p hi
    exact hi.replaceKnows fun k hk => by cases hk
  other := by
    intro as d knows pub d' hi hother
    exact hi.publish hother

/-- Before any export: the published file comes from a publish, no two publishes left one
identity, and the ids to come name no file. -/
structure ServingStart (pool : Pool (ServingDisk ρ) (ExportEffect ρ) ExportEffect.Resp Raised
    ServingExportResult) : Prop where
  idle : ∀ p, pool.scripts p = none
  current : ∀ f, pool.state.published = some f → ∃ pub ∈ pool.state.publications, pub.file = f
  distinct : (pool.state.publications.map fun pub => pub.file.identity).Nodup
  fresh : ∀ id, pool.state.nextId ≤ id → pool.state.inodes id = none

theorem ServingStart.inv {pool : Pool (ServingDisk ρ) (ExportEffect ρ) ExportEffect.Resp Raised
    ServingExportResult} (h : ServingStart pool) : ExportInv [] pool.state fun _ => none where
  current := h.current
  distinct := h.distinct
  fresh := h.fresh
  recorded := by
    intro p k hk
    cases hk
  holds := by
    intro p k hk
    cases hk
  named := by
    intro p k id hk
    cases hk
  apart := by
    intro p p' k k' id hne hk
    cases hk
  keeps := by
    intro x hx
    cases hx

/-- The complete file of an export is the one of the publish its arguments record. -/
theorem builtFile_eq {args : ExportArgs} {pub : Publication ρ} (h : pub.Recorded args)
    (id : RunId) : builtFile args id pub.file = pub.exported id args.now := by
  obtain ⟨hrun, hhashes, -⟩ := h
  simp only [builtFile, copiedFile, ServingFile.copied, ServingFile.withManifest,
    ServingFile.empty, ExportArgs.manifest, Publication.exported, List.nil_append, hrun, hhashes]
  rfl

/-- An export that returned is kept from then on: its process touches no file again. -/
theorem ExportInv.keep {d : ServingDisk ρ} {knows : Nat → Option (ExportKnows ρ)}
    (hi : ExportInv [] d knows) {p : Nat} {args : ExportArgs} {id : RunId} {f : PublishedFile ρ}
    {file : ServingFile ρ} (hk : knows p = some ⟨args, .installed id f file⟩) :
    ExportInv [(id, file)] d (Function.update knows p (some ⟨args, .gone none⟩)) := by
  have hgone : ExportInv [] d (Function.update knows p (some ⟨args, .gone none⟩)) := by
    refine hi.replaceKnows fun k h => ?_
    cases h
    exact ⟨rfl, hi.recorded p ⟨args, .installed id f file⟩ hk⟩
  obtain ⟨hfile, -, hversion, hinstalled⟩ := hi.holds p _ hk
  refine { hgone with keeps := ?_ }
  intro x hx
  obtain rfl := List.mem_singleton.1 hx
  refine ⟨⟨hversion, hfile, hinstalled⟩, hi.named p _ id hk rfl, fun p' k' hk' => ?_⟩
  rcases knows_update hk' with ⟨-, he⟩ | ⟨hne, hk'⟩
  · cases he
    exact (Option.some_ne_none _).symm
  · exact hi.apart p p' _ k' id (Ne.symm hne) hk hk' rfl

/-- The serving file and the versioned file of an export that returned hold exactly the mart
tables of one publish, its hashes and the counts of those tables, then and after any further
exports and publishes. -/
theorem servingExport_consistent
    {s t u : Pool (ServingDisk ρ) (ExportEffect ρ) ExportEffect.Resp Raised ServingExportResult}
    {as bs : List (PoolAct (ExportEffect ρ) ExportEffect.Resp Raised ExportArgs (Publication ρ))}
    (h0 : ServingStart s) (hrun : Run (PoolStep (servingSemantics ρ)) s as t) {p : Nat}
    {result : ServingExportResult} (hreturned : t.scripts p = some (.ret result))
    (hlater : Run (PoolStep (servingSemantics ρ)) t bs u) :
    ∃ pub ∈ t.state.publications, ∃ now file,
      u.state.versions result.exportId = true ∧ result.exportId ∈ u.state.installed ∧
      u.state.inodes result.exportId = some file ∧ file = pub.exported result.exportId now ∧
      result.rowCounts = rowCountsOf file.tables ∧
      ∀ o, o ∈ file.tables ↔ o ∈ pub.file.objects ∧ o.schema ∈ servingSchemas := by
  obtain ⟨knows, hi, htracked⟩ := Pool.traced hrun
    (exportInv_keeps [] (Q := fun result k => ∃ args, Exported args result k)
      fun args _ _ h => ⟨args, h⟩)
    ⟨fun _ => none, h0.inv, fun p s hs => by rw [h0.idle p] at hs; cases hs⟩
  obtain ⟨k, hk, args, f, hcounts, rfl⟩ := htracked p _ hreturned
  obtain ⟨-, ⟨⟨pub, hpub, rfl⟩, hidentity⟩, -⟩ := hi.holds p _ hk
  -- the publish of the opened file is the one the arguments record
  obtain ⟨pub', hpub', hargs⟩ := hi.recorded p _ hk
  have hsame : pub' = pub :=
    List.inj_on_of_nodup_map hi.distinct hpub' hpub (hargs.2.2.symm.trans hidentity.symm)
  subst hsame
  -- from here on the export is kept, whatever the others do
  have hkept := hi.keep hk
  have htracked' : t.Tracked (exportProtocol ρ) (fun _ _ => True) (fun _ _ => True)
      (Function.update knows p (some ⟨args, .gone none⟩)) := by
    intro p' script hp'
    by_cases hne : p' = p
    · subst hne
      rw [hreturned] at hp'
      cases hp'
      exact ⟨_, Function.update_self .., trivial⟩
    · obtain ⟨k', hk', hfollows⟩ := htracked p' script hp'
      refine ⟨k', by rw [Function.update_of_ne hne, hk'], ?_⟩
      exact hfollows.imp (fun _ _ _ => trivial) fun _ _ _ => trivial
  obtain ⟨knows', hi', -⟩ := Pool.traced hlater
    (exportInv_keeps _ fun _ _ _ _ => trivial) ⟨_, hkept, htracked'⟩
  obtain ⟨hfinal, -⟩ := hi'.keeps _ List.mem_cons_self
  refine ⟨pub', hpub', args.now, _, hfinal.version, hfinal.installed, hfinal.content,
    builtFile_eq hargs _, ?_⟩
  rw [builtFile_eq hargs]
  exact ⟨hcounts, fun o => mem_martTables⟩

/-- A published file with one fact table, and an audit table outside the marts. -/
private def firstPublication : Publication Nat :=
  ⟨7, [("facts.fct_order", "h")], ⟨⟨10, 6⟩, [⟨"facts", "fct_order", [1, 2]⟩, ⟨"control", "bronze_files", [3]⟩]⟩⟩

private def firstArgs : ExportArgs := ⟨7, [("facts.fct_order", "h")], ⟨10, 6⟩, 100⟩

private def firstDisk : ServingDisk Nat where
  published := some firstPublication.file
  publications := [firstPublication]
  inodes := fun _ => none
  builds := fun _ => false
  versions := fun _ => false
  installed := []
  nextId := 0

/-- The next publish. -/
private def secondPublication : Publication Nat :=
  ⟨8, [("facts.fct_order", "k")], ⟨⟨11, 9⟩, [⟨"facts", "fct_order", [1, 2, 4]⟩]⟩⟩

/-- An export of the first publish after `n` operations of its own. -/
private def begun (n : Nat) (d : ServingDisk Nat) : Exporting Nat ServingExportResult × ServingDisk Nat :=
  (exportServingMart firstArgs).steps ExportEffect.run n d

/-- The first export has opened the published file and waits. -/
private def openedDisk : ServingDisk Nat := (begun 5 firstDisk).2

/-- The second export ran meanwhile, and the next publish came. -/
private def publishedDisk : ServingDisk Nat :=
  { (begun 60 openedDisk).2 with
    published := some secondPublication.file
    publications := [firstPublication, secondPublication] }

private def secondResult : ServingExportResult := ⟨1, [("facts.fct_order", 2)]⟩

private theorem begun_second : (begun 60 openedDisk).1 = .ret secondResult := by rfl

/-- The first export finds the file of the next publish, and raises. -/
private theorem begun_first : ((begun 5 firstDisk).1.steps ExportEffect.run 60 publishedDisk).1 =
    .raise ⟨.valueError, "Published warehouse identity does not match publish run"⟩ := by rfl

/-- No export runs. -/
private def idlePool :
    Pool (ServingDisk Nat) (ExportEffect Nat) ExportEffect.Resp Raised ServingExportResult :=
  ⟨firstDisk, fun _ => none⟩

/-- The first export waits while the second one begins. -/
private theorem opened_run : ∃ as, Run (PoolStep (servingSemantics Nat)) idlePool as
    ((idlePool.set 0 (some (begun 5 firstDisk).1) openedDisk).set 1
      (some (exportServingMart firstArgs)) openedDisk) := by
  have hfirst : PoolStep (servingSemantics Nat) idlePool (.start 0 firstArgs)
      (idlePool.set 0 (some (exportServingMart firstArgs)) firstDisk) :=
    .start 0 firstArgs rfl ⟨firstPublication, List.mem_cons_self, rfl, rfl, rfl⟩
  have hscript : (idlePool.set 0 (some (exportServingMart firstArgs)) firstDisk).scripts 0 =
      some (exportServingMart firstArgs) := Pool.set_scripts_self ..
  obtain ⟨as, has⟩ := Pool.runs_steps (M := servingSemantics Nat) (fun op _ => .done 0 op) 5
    (exportServingMart firstArgs) hscript
  rw [Pool.set_set] at has
  have hsecond : PoolStep (servingSemantics Nat)
      (idlePool.set 0 (some (begun 5 firstDisk).1) openedDisk) (.start 1 firstArgs)
      ((idlePool.set 0 (some (begun 5 firstDisk).1) openedDisk).set 1
        (some (exportServingMart firstArgs)) openedDisk) :=
    .start 1 firstArgs rfl ⟨firstPublication, List.mem_cons_self, rfl, rfl, rfl⟩
  exact ⟨_, (Run.cons hfirst has).snoc hsecond⟩

/-- Two exports of one publish side by side, and the next publish before the first of them
ends: the one that returned keeps its file, the other raises. -/
theorem servingExport_consistent_overtaken : ∃ as bs t u,
    Run (PoolStep (servingSemantics Nat)) idlePool as t ∧
    Run (PoolStep (servingSemantics Nat)) t bs u ∧ t.scripts 1 = some (.ret secondResult) ∧
    u.scripts 0 = some
      (.raise ⟨.valueError, "Published warehouse identity does not match publish run"⟩) ∧
    u.state.versions 1 = true ∧ ∃ now, u.state.inodes 1 = some (firstPublication.exported 1 now) := by
  have hstart : ServingStart idlePool :=
    ⟨fun _ => rfl, fun f hf => ⟨firstPublication, List.mem_cons_self, Option.some.inj hf⟩,
      List.nodup_singleton _, fun _ _ => rfl⟩
  -- the first export has the Published file open when the second one runs from end to end
  obtain ⟨as, has⟩ := opened_run
  have hsecond : ((idlePool.set 0 (some (begun 5 firstDisk).1) openedDisk).set 1
      (some (exportServingMart firstArgs)) openedDisk).scripts 1 =
        some (exportServingMart firstArgs) := Pool.set_scripts_self ..
  obtain ⟨as', has'⟩ := Pool.runs_steps (M := servingSemantics Nat) (fun op _ => .done 1 op) 60
    (exportServingMart firstArgs) hsecond
  rw [Pool.set_set] at has'
  have hreturned : Run (PoolStep (servingSemantics Nat)) idlePool (as ++ as')
      ((idlePool.set 0 (some (begun 5 firstDisk).1) openedDisk).set 1
        (some (.ret secondResult)) (begun 60 openedDisk).2) := by
    rw [← begun_second]
    exact has.append has'
  -- then a publish replaces the file, so the first export compares against a row that has moved on
  have hpublish : PoolStep (servingSemantics Nat)
      ((idlePool.set 0 (some (begun 5 firstDisk).1) openedDisk).set 1
        (some (.ret secondResult)) (begun 60 openedDisk).2) (.other secondPublication)
      ((idlePool.set 0 (some (begun 5 firstDisk).1) openedDisk).set 1
        (some (.ret secondResult)) publishedDisk) :=
    .other secondPublication publishedDisk ⟨by decide +kernel, rfl⟩
  have hwaiting : ((idlePool.set 0 (some (begun 5 firstDisk).1) openedDisk).set 1
      (some (.ret secondResult)) publishedDisk).scripts 0 = some (begun 5 firstDisk).1 := rfl
  obtain ⟨bs, hbs⟩ := Pool.runs_steps (M := servingSemantics Nat) (fun op _ => .done 0 op) 60
    (begun 5 firstDisk).1 hwaiting
  have hlater := Run.cons hpublish hbs
  refine ⟨_, _, _, _, hreturned, hlater, Pool.set_scripts_self .., ?_, ?_⟩
  · rw [Pool.set_scripts_self]
    exact congrArg some begun_first
  -- what the second export installed is still whole when both are over
  · obtain ⟨pub, hpub, now, file, hversion, -, hfile, rfl, -⟩ :=
      servingExport_consistent hstart hreturned (Pool.set_scripts_self ..) hlater
    obtain rfl : pub = firstPublication := List.mem_singleton.1 hpub
    exact ⟨hversion, now, hfile⟩

end CommercePlatform.Serving
