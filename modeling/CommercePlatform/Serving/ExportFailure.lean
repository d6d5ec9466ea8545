import CommercePlatform.Serving.Export
/-!
# What a failed export leaves behind

One call of `export_serving_mart` on its own, in which any operation may raise before or
after it took effect (`ExportMay`). The published path may hold another file at every
operation, and a write to the build file may leave a WAL beside it.

What one would like of a call that raised is that the serving directory is as it was:
the serving file with the content it had, `exports/` with the files it had, and neither
build file nor WAL left (`Untouched`). The theorem says when that is so:

> `exportServingMart_untouched_iff`: of a call that raised, with handlers that did their
> work, the directory is untouched iff the operation that raised was no directory sync.

Until `os.replace` everything the call does is to files named after its own id
(`Building`), and the handlers remove those names. After it the serving path already
names the new file, which no handler undoes; the handler then even removes the versioned
link of a file that stays in use. The directory syncs are the only operations behind it,
and the reference of the data flow lists this outcome of a failed sync as accepted,
since the readers go by `exports/` and a rerun brings both in line.

The proof goes along the text of the export as `ExportConsistency` does, with other
knowledge: an operation of the first part keeps `Building`, the handlers end a
`Building` directory untouched (`Building.untouched`), and a `Replaced` one is never
untouched, because the file now at the serving path carries the manifest of this export
and the one before did not (`Replaced.not_untouched`). `EndsUntouched` says both at
once, so that one walk through the program gives both directions.

Of a handler that raises itself nothing is said: `unlink` has its own failures and
nothing is promised of them.
-/

namespace CommercePlatform.Serving

open Lib Warehouse

variable {ρ : Type}

/-- The serving directory: its files and the WALs beside the build files. -/
structure ServingSite (ρ : Type) where
  disk : ServingDisk ρ
  wals : RunId → Bool

/-- The content of the serving file. -/
def ServingSite.serving (site : ServingSite ρ) : Option (ServingFile ρ) :=
  site.disk.installed.getLast?.bind site.disk.inodes

/-- The directory with this file at the published path. -/
def ServingSite.publishing (site : ServingSite ρ) (published : Option (PublishedFile ρ)) :
    ServingSite ρ :=
  { site with disk := { site.disk with published := published } }

/-- The directory once the operation is done; `wal` says whether a connection that wrote to
the build file leaves a WAL. -/
def ServingSite.after (site : ServingSite ρ) (op : ExportEffect ρ) (wal : Bool) :
    ServingSite ρ where
  disk := (op.run site.disk).2
  wals :=
    match op with
    | .attachBuild id | .createSchema id _ | .createTable id _ | .insertManifest id _
    | .checkpoint id => Function.update site.wals id wal
    | .unlinkBuild id => Function.update site.wals id false
    | _ => site.wals

/-- What the operation answers. -/
def ServingSite.answer (site : ServingSite ρ) : (op : ExportEffect ρ) → Except Raised op.Resp
  | .walExists id => .ok (site.wals id)
  | op => (op.run site.disk).1

/-- An operation is done, or raises before or after it took effect. `os.replace` is atomic: where
it raises, it did nothing. -/
inductive ExportMay : ServingSite ρ → (op : ExportEffect ρ) → Except Raised op.Resp →
    ServingSite ρ → Prop where
  | done (site : ServingSite ρ) (op : ExportEffect ρ) (published : Option (PublishedFile ρ))
      (wal : Bool) : ExportMay site op ((site.publishing published).answer op)
        ((site.publishing published).after op wal)
  | refused (site : ServingSite ρ) (op : ExportEffect ρ) (e : Raised) :
      ExportMay site op (.error e) site
  | lost (site : ServingSite ρ) (op : ExportEffect ρ) (e : Raised) (wal : Bool)
      (hop : ∀ id, op ≠ .replaceServing id) : ExportMay site op (.error e) (site.after op wal)

/-- The `unlink` calls of the handlers. -/
def ExportEffect.Cleanup : ExportEffect ρ → Prop
  | .unlinkBuild _ | .unlinkVersion _ => True
  | _ => False

/-- The id `uuid4()` gives next names no file yet, and the serving file is an earlier
export's. -/
structure ServingSite.Fresh (site : ServingSite ρ) : Prop where
  inode : site.disk.inodes site.disk.nextId = none
  build : site.disk.builds site.disk.nextId = false
  version : site.disk.versions site.disk.nextId = false
  wal : site.wals site.disk.nextId = false
  installed : site.disk.nextId ∉ site.disk.installed
  serving : ∀ file ∈ site.serving, ∃ m ∈ file.manifest, m.exportId ≠ site.disk.nextId

/-- The serving file has the content it had, `exports/` has the files it had, and neither the
build file nor the WAL of the export is left. -/
structure ServingSite.Untouched (site site' : ServingSite ρ) : Prop where
  serving : site'.serving = site.serving
  versions : site'.disk.versions = site.disk.versions
  contents : ∀ id, site.disk.versions id = true → site'.disk.inodes id = site.disk.inodes id
  build : site'.disk.builds site.disk.nextId = false
  wal : site'.wals site.disk.nextId = false

/-- Everything but the files of `id` is as it was, and the file of `id` carries the manifest of
`id` if it carries one. -/
structure Beside (site : ServingSite ρ) (id : RunId) (site' : ServingSite ρ) : Prop where
  inodes : ∀ other ≠ id, site'.disk.inodes other = site.disk.inodes other
  versions : ∀ other ≠ id, site'.disk.versions other = site.disk.versions other
  file : ∀ file ∈ site'.disk.inodes id, ∀ m ∈ file.manifest, m.exportId = id
  built : site'.disk.builds id = true → (site'.disk.inodes id).isSome

/-- Nothing was moved to the serving path yet: all that the call has made is under the names of
its id. -/
structure Building (site : ServingSite ρ) (id : RunId)
    (q : ServingSite ρ × List (ExportEffect ρ)) : Prop extends Beside site id q.1 where
  installed : q.1.disk.installed = site.disk.installed
  unsynced : .fsyncDirectory ∉ q.2

/-- The file of `id` was moved to the serving path. Its manifest tells it from every earlier one. -/
structure Replaced (site : ServingSite ρ) (id : RunId)
    (q : ServingSite ρ × List (ExportEffect ρ)) : Prop extends Beside site id q.1 where
  installed : q.1.disk.installed = site.disk.installed ++ [id]
  exists_file : (q.1.disk.inodes id).isSome

/-- The operation concerns no file of another export, and writes no other manifest. -/
def ExportEffect.Concerns (id : RunId) : ExportEffect ρ → Prop
  | .statPublished | .uuid4 | .makeDirectory | .attachPublished | .fsyncDirectory => True
  | .attachBuild other | .createSchema other _ | .createTable other _ | .readBuild other
  | .checkpoint other | .walExists other | .link other | .replaceServing other
  | .unlinkBuild other | .unlinkVersion other => other = id
  | .insertManifest other m => other = id ∧ m.exportId = id

/-- An operation of the block before the install. -/
def ExportEffect.Builds : ExportEffect ρ → Prop
  | .uuid4 | .link _ | .replaceServing _ | .fsyncDirectory | .unlinkBuild _
  | .unlinkVersion _ => False
  | _ => True

section Operations

variable {site site' : ServingSite ρ} {id : RunId} {op : ExportEffect ρ}

/-- Rewriting the content of the file of `id` by what keeps its manifest, or writes its own. -/
theorem Beside.write (h : Beside site id site') (f : ServingFile ρ → ServingFile ρ)
    (wals : RunId → Bool)
    (hf : ∀ file, (∀ m ∈ file.manifest, m.exportId = id) →
      ∀ m ∈ (f file).manifest, m.exportId = id) :
    Beside site id ⟨site'.disk.write id f, wals⟩ := by
  have hself : (site'.disk.write id f).inodes id = (site'.disk.inodes id).map f :=
    Function.update_self ..
  constructor
  · intro other hother
    exact (Function.update_of_ne hother _ _).trans (h.inodes other hother)
  · exact h.versions
  · intro file hfile m hm
    rw [hself] at hfile
    obtain ⟨before, hbefore, rfl⟩ := Option.map_eq_some_iff.1 hfile
    exact hf before (h.file before hbefore) m hm
  · intro hbuilt
    rw [hself, Option.isSome_map]
    exact h.built hbuilt

/-- An operation that concerns the files of `id` leaves the others. -/
theorem Beside.after (h : Beside site id site') (op : ExportEffect ρ) (hop : op.Concerns id)
    (wal : Bool) :
    Beside site id (site'.after op wal) := by
  cases op with
  | statPublished | uuid4 | makeDirectory | attachPublished | readBuild | checkpoint
  | walExists | fsyncDirectory => exact ⟨h.inodes, h.versions, h.file, h.built⟩
  -- opening a fresh build file creates it empty: no manifest yet
  | attachBuild other =>
    obtain rfl : other = id := hop
    have hself : (site'.after (.attachBuild other) wal).disk.inodes other =
        some ((site'.disk.inodes other).getD .empty) := Function.update_self ..
    constructor
    · intro j hj
      exact (Function.update_of_ne hj _ _).trans (h.inodes j hj)
    · exact h.versions
    · intro file hfile m hm
      rw [hself] at hfile
      have hgetD : some ((site'.disk.inodes other).getD .empty) = some file := hfile
      cases hold : site'.disk.inodes other with
      | none =>
        rw [hold] at hgetD
        cases hgetD
        cases hm
      | some old =>
        rw [hold] at hgetD
        cases hgetD
        exact h.file old hold m hm
    · intro _
      rw [hself]
      rfl
  | createSchema other schema =>
    obtain rfl : other = id := hop
    exact h.write _ _ fun file hfile => hfile
  | createTable other object =>
    obtain rfl : other = id := hop
    exact h.write _ _ fun file hfile => hfile
  -- the one operation that writes a manifest writes the one of `id`
  | insertManifest other m =>
    obtain ⟨rfl, hm⟩ := hop
    refine h.write _ _ fun file _ m' hm' => ?_
    cases hm'
    exact hm
  | link other =>
    obtain rfl : other = id := hop
    unfold ServingSite.after
    rw [run_link]
    split
    next =>
      exact ⟨h.inodes, fun j hj => (Function.update_of_ne hj _ _).trans (h.versions j hj),
        h.file, h.built⟩
    next => exact ⟨h.inodes, h.versions, h.file, h.built⟩
  -- the names `build/` and the serving path are no part of what stays
  | replaceServing other =>
    obtain rfl : other = id := hop
    unfold ServingSite.after
    rw [run_replaceServing]
    split
    next =>
      refine ⟨h.inodes, h.versions, h.file, fun hbuilt => ?_⟩
      exact absurd ((Function.update_self ..).symm.trans hbuilt) (by simp)
    next => exact ⟨h.inodes, h.versions, h.file, h.built⟩
  | unlinkBuild other =>
    obtain rfl : other = id := hop
    refine ⟨h.inodes, h.versions, h.file, fun hbuilt => ?_⟩
    exact absurd ((Function.update_self ..).symm.trans hbuilt) (by simp)
  | unlinkVersion other =>
    obtain rfl : other = id := hop
    exact ⟨h.inodes, fun j hj => (Function.update_of_ne hj _ _).trans (h.versions j hj),
      h.file, h.built⟩

theorem Beside.publishing (h : Beside site id site') (published : Option (PublishedFile ρ)) :
    Beside site id (site'.publishing published) :=
  ⟨h.inodes, h.versions, h.file, h.built⟩

/-- Whatever an operation on the files of `id` answers, the others stay. -/
theorem Beside.may (h : Beside site id site') (op : ExportEffect ρ) (hop : op.Concerns id)
    {site'' : ServingSite ρ} {r : Except Raised op.Resp} (hmay : ExportMay site' op r site'') : Beside site id site'' := by
  cases hmay with
  | done published wal => exact (h.publishing published).after op hop wal
  | refused => exact h
  | lost e wal => exact h.after op hop wal

/-- The block before the install moves nothing and links nothing. -/
theorem may_of_builds (op : ExportEffect ρ) (hop : op.Builds) {r : Except Raised op.Resp}
    (hmay : ExportMay site op r site') :
    site'.disk.installed = site.disk.installed ∧ site'.disk.versions = site.disk.versions ∧
      site'.disk.nextId = site.disk.nextId := by
  cases hmay with
  | done published wal => cases op <;> first | exact False.elim hop | exact ⟨rfl, rfl, rfl⟩
  | refused => exact ⟨rfl, rfl, rfl⟩
  | lost e wal => cases op <;> first | exact False.elim hop | exact ⟨rfl, rfl, rfl⟩

end Operations

/-! ## How a failed call ends -/

section Ends

variable {site : ServingSite ρ} {id : RunId} {q q' : ServingSite ρ × List (ExportEffect ρ)}
  {op : ExportEffect ρ}

theorem mem_noteRaised {r : Except Raised op.Resp} {raised : List (ExportEffect ρ)}
    {o : ExportEffect ρ} (h : o ∈ noteRaised op r raised) : o ∈ raised ∨ o = op := by
  cases r with
  | ok a => exact .inl h
  | error e => simpa [noteRaised] using h

/-- Nothing of the call is left once its names are gone. -/
theorem Building.untouched (h : Building site site.disk.nextId q) (hfresh : site.Fresh)
    (hversion : q.1.disk.versions site.disk.nextId = false)
    (hbuild : q.1.disk.builds site.disk.nextId = false)
    (hwal : q.1.wals site.disk.nextId = false) : site.Untouched q.1 where
  serving := by
    unfold ServingSite.serving
    rw [h.installed]
    cases hlast : site.disk.installed.getLast? with
    | none => rfl
    | some last =>
      -- the link names an older version, since the call has installed nothing
      have hne : last ≠ site.disk.nextId := by
        rintro rfl
        exact hfresh.installed (List.mem_of_getLast? hlast)
      exact h.inodes last hne
  versions := by
    funext other
    by_cases hother : other = site.disk.nextId
    · rw [hother, hversion, hfresh.version]
    · exact h.versions other hother
  contents := by
    intro other hother
    refine h.inodes other ?_
    rintro rfl
    exact absurd (hfresh.version.symm.trans hother) (by simp)
  build := hbuild
  wal := hwal

/-- The file an export moved to the serving path is not the one that was there: the manifests
have different ids. -/
theorem Replaced.not_untouched (h : Replaced site site.disk.nextId q) (hfresh : site.Fresh) :
    ¬ site.Untouched q.1 := by
  intro huntouched
  obtain ⟨file, hfile⟩ := Option.isSome_iff_exists.1 h.exists_file
  have hserving : q.1.serving = some file := by
    unfold ServingSite.serving
    rw [h.installed, List.getLast?_concat]
    exact hfile
  obtain ⟨m, hm, hne⟩ := hfresh.serving file (huntouched.serving.symm.trans hserving)
  exact hne (h.file file hfile m hm)

/-- What is claimed of a call that raised: where its handlers did their work, the serving
directory is untouched exactly where no directory sync raised. -/
def EndsUntouched (site : ServingSite ρ) (q : ServingSite ρ × List (ExportEffect ρ)) : Prop :=
  (∀ op ∈ q.2, ¬ op.Cleanup) → (site.Untouched q.1 ↔ .fsyncDirectory ∉ q.2)

/-- A step of a handler: done, or nothing is claimed. -/
theorem follows_cleanup {Q : ServingSite ρ × List (ExportEffect ρ) → Prop}
    {E : Raised → ServingSite ρ × List (ExportEffect ρ) → Prop}
    (hdone : ∀ published wal, Q ((q.1.publishing published).after op wal, q.2))
    (hraised : ∀ e q', op ∈ q'.2 → E e q') :
    Follows (runProtocol ExportMay) (fun _ => Q) E q (act op) := by
  refine follows_perform.2 ⟨trivial, fun a q' hnext => ?_, fun e q' hnext => ?_⟩
  · obtain ⟨q₁, q₂⟩ := q'
    obtain ⟨hmay, rfl⟩ : ExportMay q.1 op (.ok a) q₁ ∧ q₂ = q.2 := hnext
    generalize hr : (Except.ok a : Except Raised op.Resp) = r at hmay
    cases hmay with
    | done published wal => exact hdone published wal
    | refused => cases hr
    | lost => cases hr
  · exact hraised e q' (by simp [hnext.2, noteRaised])

theorem endsUntouched_of_cleanup {raised : ExportEffect ρ} (h : raised ∈ q.2)
    (hcleanup : raised.Cleanup) : EndsUntouched site q :=
  fun hhandlers => absurd hcleanup (hhandlers raised h)

/-- The block before the install keeps `Building`, and no version is made. -/
theorem follows_of_builds {α : Type} {x : Exporting ρ α}
    (hx : x.Calls fun op => op.Concerns id ∧ op.Builds) (h : Building site id q)
    (hversion : q.1.disk.versions id = false) :
    Follows (runProtocol ExportMay)
      (fun _ q' => Building site id q' ∧ q'.1.disk.versions id = false)
      (fun _ q' => Building site id q' ∧ q'.1.disk.versions id = false) q x := by
  have hkeeps : ∀ (op : ExportEffect ρ) q (r : Except Raised op.Resp) q',
      (op.Concerns id ∧ op.Builds) →
      (Building site id q ∧ q.1.disk.versions id = false) → (runProtocol ExportMay).next q op r q' →
      Building site id q' ∧ q'.1.disk.versions id = false := by
    rintro op q r ⟨q₁, q₂⟩ ⟨hconcerns, hbuilds⟩ ⟨hb, hv⟩ ⟨hmay, rfl⟩
    obtain ⟨hinstalled, hversions, -⟩ := may_of_builds op hbuilds hmay
    refine ⟨⟨hb.toBeside.may op hconcerns hmay, hinstalled.trans hb.installed, fun hmem => ?_⟩, ?_⟩
    · rcases mem_noteRaised hmem with hold | hnew
      · exact hb.unsynced hold
      · rw [← hnew] at hbuilds
        exact hbuilds
    · show q₁.disk.versions id = false
      rw [hversions]
      exact hv
  exact hx.keeps (I := fun q' => Building site id q' ∧ q'.1.disk.versions id = false)
    (fun _ _ _ _ => trivial) hkeeps ⟨h, hversion⟩

end Ends

section Calls

variable {id : RunId} {args : ExportArgs}

theorem requireIdentity_calls (expected : FileIdentity) :
    (requireIdentity expected : Exporting ρ Unit).Calls fun op => op.Concerns id ∧ op.Builds :=
  calls_bind (calls_perform ⟨trivial, trivial⟩) fun _ => calls_ofExcept _

theorem copyObjects_calls (objects : List (MartObject ρ)) :
    (copyObjects id objects).Calls fun op => op.Concerns id ∧ op.Builds := by
  induction objects with
  | nil => trivial
  | cons object objects ih =>
    exact calls_bind (calls_perform ⟨rfl, trivial⟩) fun _ => calls_bind ih fun _ => trivial

theorem copySchemas_calls (published : PublishedFile ρ) (schemas : List String) :
    (copySchemas id published schemas).Calls fun op => op.Concerns id ∧ op.Builds := by
  induction schemas with
  | nil => trivial
  | cons schema schemas ih =>
    exact calls_bind (calls_perform ⟨rfl, trivial⟩) fun _ =>
      calls_bind (copyObjects_calls _) fun _ => calls_bind ih fun _ => trivial

theorem buildExport_calls :
    (buildExport args id : Exporting ρ _).Calls fun op => op.Concerns id ∧ op.Builds := by
  have hcopy : (copyMartObjects id : Exporting ρ _).Calls fun op => op.Concerns id ∧ op.Builds :=
    calls_bind (calls_perform ⟨rfl, trivial⟩) fun _ =>
      calls_bind (calls_perform ⟨trivial, trivial⟩) fun published => copySchemas_calls published _
  have hvalidate : (validateServingFile id : Exporting ρ _).Calls
      fun op => op.Concerns id ∧ op.Builds :=
    calls_bind (calls_perform ⟨rfl, trivial⟩) fun _ =>
      calls_bind (calls_ofExcept _) fun _ => calls_ofExcept _
  refine calls_bind hcopy fun rowCounts => ?_
  refine calls_bind (calls_perform ⟨⟨rfl, rfl⟩, trivial⟩) fun _ => ?_
  refine calls_bind hvalidate fun _ => ?_
  refine calls_bind (calls_perform ⟨rfl, trivial⟩) fun _ => ?_
  refine calls_bind (calls_perform ⟨rfl, trivial⟩) fun _ => ?_
  refine calls_bind (calls_ofExcept _) fun _ => ?_
  exact calls_bind (calls_perform ⟨trivial, trivial⟩) fun _ => trivial

end Calls

section Text

variable {site : ServingSite ρ} {q q' : ServingSite ρ × List (ExportEffect ρ)} {args : ExportArgs}

/-- The handler of the first part: what was built is gone. -/
theorem follows_buildHandler (hfresh : site.Fresh) (h : Building site site.disk.nextId q)
    (hversion : q.1.disk.versions site.disk.nextId = false) :
    Follows (runProtocol ExportMay) (fun _ => EndsUntouched site) (fun _ => EndsUntouched site) q
      (act (.unlinkBuild site.disk.nextId)) := by
  refine follows_cleanup (fun published wal _ => iff_of_true ?_ h.unsynced)
    fun e q' hmem => endsUntouched_of_cleanup hmem trivial
  have hbeside : Beside site site.disk.nextId ((q.1.publishing published).after
      (.unlinkBuild site.disk.nextId) wal) :=
    (h.publishing published).after (.unlinkBuild site.disk.nextId) rfl wal
  have hbuilding : Building site site.disk.nextId ((q.1.publishing published).after
      (.unlinkBuild site.disk.nextId) wal, q.2) := ⟨hbeside, h.installed, h.unsynced⟩
  exact hbuilding.untouched hfresh hversion (Function.update_self ..) (Function.update_self ..)

/-- The handler of the install: before the replacement nothing is left, after it the new file
stays. -/
theorem follows_installHandler (hfresh : site.Fresh)
    (h : Building site site.disk.nextId q ∨
      Replaced site site.disk.nextId q ∧ .fsyncDirectory ∈ q.2) :
    Follows (runProtocol ExportMay) (fun _ => EndsUntouched site) (fun _ => EndsUntouched site) q
      (do
        act (.unlinkBuild site.disk.nextId)
        act (.unlinkVersion site.disk.nextId)) := by
  refine follows_bind.2 (follows_cleanup (fun published wal => ?_)
    fun e q' hmem => endsUntouched_of_cleanup hmem trivial)
  refine follows_cleanup (fun published' wal' _ => ?_)
    fun e q' hmem => endsUntouched_of_cleanup hmem trivial
  -- both files are unlinked in either case; what is left is the link that `os.replace` moved
  rcases h with hbuilding | ⟨hreplaced, hsynced⟩
  · refine iff_of_true ?_ hbuilding.unsynced
    have hbeside := (((hbuilding.publishing published).after
      (.unlinkBuild site.disk.nextId) rfl wal).publishing published').after
      (.unlinkVersion site.disk.nextId) rfl wal'
    have hcleaned : Building site site.disk.nextId (_, q.2) :=
      ⟨hbeside, hbuilding.installed, hbuilding.unsynced⟩
    exact hcleaned.untouched hfresh (Function.update_self ..) (Function.update_self ..)
      (Function.update_self ..)
  · refine iff_of_false ?_ fun hnot => hnot hsynced
    have hbeside := (((hreplaced.publishing published).after
      (.unlinkBuild site.disk.nextId) rfl wal).publishing published').after
      (.unlinkVersion site.disk.nextId) rfl wal'
    have hcleaned : Replaced site site.disk.nextId (_, q.2) :=
      ⟨hbeside, hreplaced.installed, hreplaced.exists_file⟩
    exact hcleaned.not_untouched hfresh

/-- A directory sync: done, or it raises with the new file in place. -/
theorem follows_fsyncDirectory (h : Replaced site site.disk.nextId q) :
    Follows (runProtocol ExportMay) (fun _ => Replaced site site.disk.nextId)
      (fun _ q' => Replaced site site.disk.nextId q' ∧ .fsyncDirectory ∈ q'.2) q
      (act .fsyncDirectory) := by
  have hmay : ∀ (r : Except Raised (ExportEffect.fsyncDirectory : ExportEffect ρ).Resp) q₁,
      ExportMay q.1 .fsyncDirectory r q₁ → ∀ raised, Replaced site site.disk.nextId (q₁, raised) := by
    intro r q₁ hmay raised
    have hbeside : Beside site site.disk.nextId q₁ := h.toBeside.may .fsyncDirectory trivial hmay
    cases hmay with
    | done => exact ⟨hbeside, h.installed, h.exists_file⟩
    | refused => exact ⟨hbeside, h.installed, h.exists_file⟩
    | lost => exact ⟨hbeside, h.installed, h.exists_file⟩
  refine follows_perform.2 ⟨trivial, fun a q' hnext => ?_, fun e q' hnext => ?_⟩
  · exact hmay _ _ hnext.1 _
  · exact ⟨hmay _ _ hnext.1 _, by simp [hnext.2, noteRaised]⟩

/-- `os.replace`: the file is at the serving path, or nothing happened. -/
theorem follows_replaceServing (h : Building site site.disk.nextId q) :
    Follows (runProtocol ExportMay) (fun _ => Replaced site site.disk.nextId)
      (fun _ => Building site site.disk.nextId) q (act (.replaceServing site.disk.nextId)) := by
  -- answered, the file is installed; raised, nothing was moved, as `os.replace` is atomic
  have hmay : ∀ (r : Except Raised
      (ExportEffect.replaceServing site.disk.nextId : ExportEffect ρ).Resp) q₁,
      ExportMay q.1 (.replaceServing site.disk.nextId) r q₁ →
      (∀ a, r = .ok a → ∀ raised, Replaced site site.disk.nextId (q₁, raised)) ∧
        ∀ e, r = .error e → q₁.disk.installed = site.disk.installed := by
    intro r q₁ hmay
    have hbeside : Beside site site.disk.nextId q₁ := h.toBeside.may (.replaceServing _) rfl hmay
    cases hmay with
    | refused => exact ⟨fun a ha => (by cases ha), fun e he => h.installed⟩
    | lost _ _ hop => exact absurd rfl (hop site.disk.nextId)
    | done published wal =>
      have hrun := run_replaceServing site.disk.nextId (q.1.publishing published).disk
      have hanswer : (q.1.publishing published).answer (.replaceServing site.disk.nextId) =
        ((ExportEffect.replaceServing site.disk.nextId).run (q.1.publishing published).disk).1 := rfl
      have hafter : ((q.1.publishing published).after (.replaceServing site.disk.nextId) wal).disk =
        ((ExportEffect.replaceServing site.disk.nextId).run (q.1.publishing published).disk).2 := rfl
      -- it raises by itself where the build file is gone
      by_cases hbuilt : (q.1.publishing published).disk.builds site.disk.nextId = true
      · rw [if_pos hbuilt] at hrun
        rw [hrun] at hanswer hafter
        refine ⟨fun a _ raised => ⟨hbeside, ?_, ?_⟩, fun e he => ?_⟩
        · show (ServingSite.disk _).installed = _
          rw [hafter, ← h.installed]
          rfl
        · show ((ServingSite.disk _).inodes _).isSome
          rw [hafter]
          exact h.built hbuilt
        · rw [hanswer] at he
          cases he
      · rw [if_neg hbuilt] at hrun
        rw [hrun] at hanswer hafter
        refine ⟨fun a ha => ?_, fun e _ => ?_⟩
        · rw [hanswer] at ha
          cases ha
        · rw [hafter]
          exact h.installed
  refine follows_perform.2 ⟨trivial, fun a q' hnext => ?_, fun e q' hnext => ?_⟩
  · exact (hmay _ _ hnext.1).1 a rfl _
  · refine ⟨h.toBeside.may (.replaceServing _) rfl hnext.1, (hmay _ _ hnext.1).2 e rfl, fun hmem => ?_⟩
    rw [hnext.2] at hmem
    rcases mem_noteRaised hmem with hold | hnew
    · exact h.unsynced hold
    · cases hnew

/-- Nothing was named after the id yet. -/
structure Unnamed (site : ServingSite ρ) (q : ServingSite ρ × List (ExportEffect ρ)) : Prop
    extends Building site site.disk.nextId q where
  version : q.1.disk.versions site.disk.nextId = false
  build : q.1.disk.builds site.disk.nextId = false
  wal : q.1.wals site.disk.nextId = false

theorem Unnamed.endsUntouched (h : Unnamed site q) (hfresh : site.Fresh) : EndsUntouched site q :=
  fun _ => iff_of_true (h.toBuilding.untouched hfresh h.version h.build h.wal) h.unsynced

theorem unnamed_self (hfresh : site.Fresh) : Unnamed site (site, []) where
  inodes _ _ := rfl
  versions _ _ := rfl
  file file hfile := absurd (hfresh.inode.symm.trans hfile) (by simp)
  built hbuilt := absurd (hfresh.build.symm.trans hbuilt) (by simp)
  installed := rfl
  unsynced := List.not_mem_nil
  version := hfresh.version
  build := hfresh.build
  wal := hfresh.wal

/-- The operations before the first file. -/
def ExportEffect.Prepares : ExportEffect ρ → Prop
  | .statPublished | .uuid4 | .makeDirectory => True
  | _ => False

theorem Unnamed.may (h : Unnamed site q) (op : ExportEffect ρ) (hop : op.Prepares)
    {r : Except Raised op.Resp} (hnext : (runProtocol ExportMay).next q op r q') :
    Unnamed site q' := by
  obtain ⟨q₁, q₂⟩ := q'
  obtain ⟨hmay, rfl⟩ := hnext
  have hconcerns : op.Concerns site.disk.nextId := by
    cases op <;> first | exact False.elim hop | trivial
  have hsame : q₁.disk.installed = q.1.disk.installed ∧ q₁.disk.versions = q.1.disk.versions ∧
      q₁.disk.builds = q.1.disk.builds ∧ q₁.wals = q.1.wals := by
    cases hmay with
    | done published wal =>
      cases op <;> first | exact False.elim hop | exact ⟨rfl, rfl, rfl, rfl⟩
    | refused => exact ⟨rfl, rfl, rfl, rfl⟩
    | lost e wal => cases op <;> first | exact False.elim hop | exact ⟨rfl, rfl, rfl, rfl⟩
  obtain ⟨hinstalled, hversions, hbuilds, hwals⟩ := hsame
  refine ⟨⟨h.toBeside.may op hconcerns hmay, hinstalled.trans h.installed, fun hmem => ?_⟩,
    ?_, ?_, ?_⟩
  · rcases mem_noteRaised hmem with hold | hnew
    · exact h.unsynced hold
    · rw [← hnew] at hop
      exact hop
  · exact (congrFun hversions _).trans h.version
  · exact (congrFun hbuilds _).trans h.build
  · exact (congrFun hwals _).trans h.wal

/-- `uuid4()` gives the next id. -/
theorem may_uuid4 {site' : ServingSite ρ} {id : RunId} (hmay : ExportMay site .uuid4 (.ok id) site') :
    id = site.disk.nextId := by
  generalize hr : (Except.ok id : Except Raised (ExportEffect.uuid4 : ExportEffect ρ).Resp) = r
    at hmay
  cases hmay with
  | done published wal => exact Except.ok.inj hr
  | refused => cases hr
  | lost => cases hr

/-- The link moves nothing. -/
theorem Building.link (h : Building site site.disk.nextId q)
    (r : Except Raised (ExportEffect.link site.disk.nextId : ExportEffect ρ).Resp)
    (q' : ServingSite ρ × List (ExportEffect ρ))
    (hnext : (runProtocol ExportMay).next q (.link site.disk.nextId) r q') :
    Building site site.disk.nextId q' := by
  obtain ⟨q₁, q₂⟩ := q'
  obtain ⟨hmay, rfl⟩ := hnext
  have hrun : ∀ d : ServingDisk ρ,
      ((ExportEffect.link site.disk.nextId).run d).2.installed = d.installed := by
    intro d
    rw [run_link]
    split <;> rfl
  have hinstalled : q₁.disk.installed = q.1.disk.installed := by
    cases hmay with
    | done published wal => exact hrun _
    | refused => rfl
    | lost e wal => exact hrun _
  refine ⟨h.toBeside.may (.link site.disk.nextId) rfl hmay, hinstalled.trans h.installed,
    fun hmem => ?_⟩
  rcases mem_noteRaised hmem with hold | hnew
  · exact h.unsynced hold
  · cases hnew

/-- Along the text of the export, every exception leaves the directory as claimed. -/
theorem exportServingMart_follows_untouched (hfresh : site.Fresh) (args : ExportArgs) :
    Follows (runProtocol ExportMay) (fun _ _ => True) (fun _ => EndsUntouched site) (site, [])
      (exportServingMart args) := by
  unfold exportServingMart
  -- the first check of the identity, the id and the build directory
  refine follows_bind.2 (follows_bind.2 (follows_perform.2 ⟨trivial, fun identity q hnext => ?_,
    fun e q hnext => ((unnamed_self hfresh).may .statPublished trivial hnext).endsUntouched
      hfresh⟩))
  have hq : Unnamed site q := (unnamed_self hfresh).may .statPublished trivial hnext
  have hid : q.1.disk.nextId = site.disk.nextId :=
    (may_of_builds .statPublished trivial hnext.1).2.2
  refine follows_ofExcept.2 ⟨fun _ _ => ?_, fun e _ => hq.endsUntouched hfresh⟩
  refine follows_bind.2 (follows_perform.2 ⟨trivial, fun id q' hnext' => ?_, fun e q' hnext' =>
    (hq.may .uuid4 trivial hnext').endsUntouched hfresh⟩)
  have hq' : Unnamed site q' := hq.may .uuid4 trivial hnext'
  obtain rfl : id = site.disk.nextId := (may_uuid4 hnext'.1).trans hid
  refine follows_bind.2 (follows_perform.2 ⟨trivial, fun _ q'' hnext'' => ?_, fun e q'' hnext'' =>
    (hq'.may .makeDirectory trivial hnext'').endsUntouched hfresh⟩)
  have hq'' : Unnamed site q'' := hq'.may .makeDirectory trivial hnext''
  -- the build, then the install
  refine follows_bind.2 (follows_onError.2 ((follows_of_builds buildExport_calls hq''.toBuilding
    hq''.version).imp (fun rowCounts q₁ hbuilt => ?_)
    fun e q₁ hbuilt => follows_buildHandler hfresh hbuilt.1 hbuilt.2))
  refine follows_bind.2 (follows_onError.2 ?_)
  unfold installExport
  refine follows_bind.2 ((follows_of_builds (requireIdentity_calls _) hbuilt.1 hbuilt.2).imp
    (fun _ q₂ hchecked => ?_)
    fun e q₂ hchecked => follows_installHandler hfresh (.inl hchecked.1))
  have hlink := hchecked.1.link
  refine follows_bind.2 (follows_perform.2 ⟨trivial, fun _ q₃ hnext => ?_, fun e q₃ hnext =>
    follows_installHandler hfresh (.inl (hlink _ _ hnext))⟩)
  refine follows_bind.2 ((follows_replaceServing (hlink _ _ hnext)).imp (fun _ q₄ hreplaced => ?_)
    fun e q₄ hkept => follows_installHandler hfresh (.inl hkept))
  refine follows_bind.2 ((follows_fsyncDirectory hreplaced).imp (fun _ q₅ hsynced => ?_)
    fun e q₅ hsynced => follows_installHandler hfresh (.inr hsynced))
  exact (follows_fsyncDirectory hsynced).imp (fun _ _ _ => follows_pure.2 trivial)
    fun e q₆ hsynced => follows_installHandler hfresh (.inr hsynced)

/-- A call that raises, with handlers that do their work, leaves the serving directory as it was
exactly where no directory sync raised: over every order of failures, leftover WALs and files
at the published path. -/
theorem exportServingMart_untouched_iff {site' : ServingSite ρ} {raised : List (ExportEffect ρ)}
    {e : Raised} (hfresh : site.Fresh)
    (hrun : (exportServingMart args).Runs ExportMay site [] (.error e) site' raised)
    (hhandlers : ∀ op ∈ raised, ¬ op.Cleanup) :
    site.Untouched site' ↔ .fsyncDirectory ∉ raised :=
  (hrun.ends (exportServingMart_follows_untouched hfresh args)).2 e rfl hhandlers

end Text

/-- Export 0 is served; the published file holds no table. -/
def servedSite : ServingSite Unit where
  disk :=
    { published := some ⟨⟨7, 7⟩, []⟩
      publications := []
      inodes := fun id => if id = 0 then some ⟨servingSchemas, [], some ⟨0, 0, 0, storageVersion,
        [], []⟩⟩ else none
      builds := fun _ => false
      versions := fun id => id = 0
      installed := [0]
      nextId := 1 }
  wals := fun _ => false

theorem servedSite_fresh : servedSite.Fresh where
  inode := rfl
  build := rfl
  version := rfl
  wal := rfl
  installed := by decide
  serving := by
    rintro file hfile
    cases hfile
    exact ⟨_, rfl, by decide⟩

/-- The export of `servedSite` with the operation at this position refused. -/
def exportWithFault (position : Nat) :
    Except Raised ServingExportResult × ServingSite Unit × List (ExportEffect Unit) :=
  (exportServingMart ⟨0, [], ⟨7, 7⟩, 0⟩).evalFault
    (fun op site => (site.answer op, site.after op false)) ⟨.osError, "Input/output error"⟩
    (some position) servedSite []

theorem exportWithFault_runs (position : Nat) :
    (exportServingMart ⟨0, [], ⟨7, 7⟩, 0⟩).Runs ExportMay servedSite []
      (exportWithFault position).1 (exportWithFault position).2.1 (exportWithFault position).2.2 :=
  Script.runs_evalFault (fun op site => .done site op site.disk.published false)
    (fun op site => .refused site op _) _ _ _ _

/-- The first directory sync raises: the serving file is the new one. -/
theorem exportServingMart_fsync_raises :
    ∃ (args : ExportArgs) (site site' : ServingSite Unit) (e : Raised), site.Fresh ∧
      (exportServingMart args).Runs ExportMay site [] (.error e) site' [.fsyncDirectory] ∧
      ¬ site.Untouched site' := by
  refine ⟨⟨0, [], ⟨7, 7⟩, 0⟩, servedSite, (exportWithFault 16).2.1, ⟨.osError, "Input/output error"⟩,
    servedSite_fresh, exportWithFault_runs 16, fun huntouched => ?_⟩
  have hserving : (exportWithFault 16).2.1.serving = servedSite.serving := huntouched.serving
  cases hserving

/-- The replacement raises: nothing is left of the export. -/
theorem exportServingMart_untouched_replace :
    ∃ site' : ServingSite Unit, (exportServingMart ⟨0, [], ⟨7, 7⟩, 0⟩).Runs ExportMay servedSite []
      (.error ⟨.osError, "Input/output error"⟩) site' [.replaceServing 1] ∧
      servedSite.Untouched site' :=
  ⟨(exportWithFault 15).2.1, exportWithFault_runs 15,
    (exportServingMart_untouched_iff servedSite_fresh (exportWithFault_runs 15) (by
      intro op hop
      cases hop with
      | head => exact id
      | tail _ hop => cases hop)).2 (by
        intro hmem
        cases hmem with
        | tail _ hmem => cases hmem)⟩

end CommercePlatform.Serving
