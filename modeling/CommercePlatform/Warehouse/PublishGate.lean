import CommercePlatform.Warehouse.Publish
/-!
# The publish gate

Whatever fails in a publish, the published file is either untouched, and the run is
closed as `FAILED` with nothing left under `build/`, or it is the finished build of this
run, and the run is `PUBLISHING` or `PUBLISHED` with the identity of that file, so that
a recovery closes it as `PUBLISHED` (`publishWarehouse_atomic`). That is over every
place a failure can strike in prepare, build and publish, everything the tools may do,
and every beat of the heartbeat thread.

The proof follows the run through what is known between two operations:

- `NotStarted`: before the run has a row nothing of it exists, and the recovery of other
  runs does not change that;
- `Stage`: from the start of the run to the rename. The published file is the one it
  was, the row of the run has the status of this stage, and no other run is active. What
  is known of the build file stands beside it: `Prepared`, `Tested`, `Checkpointed`;
- `Untouched`: where a `Stage` ends when something raises. Every failure up to the
  rename ends in `fail`, which makes this of any `Stage` (`ends_fail`);
- `Replaced`: the rename turns a `Stage` into this, and no step after that takes it
  back.

Each function of the source has one lemma (`ends_prepareBuild`, `ends_buildWarehouse`,
`ends_publishBuild`) that says in which of these it ends, returned or raised, in the
triples of `Lib.Program`. The one delicate point is in `publish_build`, whose handler
asks whether the build file exists. Before the rename it does, after it does not, and a
failure that strikes the rename strikes it before or after it took effect;
`ends_swapBuild` keeps the two apart.

The last section is the recovery. A run that died after the rename is `PUBLISHING` with
the identity of the file that is there, so once its lease is over,
`recover_incomplete_publishes` finds the identities equal and closes it as `PUBLISHED`
(`Swapped.recovered`).
-/

namespace CommercePlatform.Warehouse

open Lib Prog

/-- The row of the run, as far as the gate is concerned. -/
def HasRow (id : RunId) (status : PublishStatus) (identity : Option FileIdentity) (w : World) :
    Prop :=
  ∃ r, w.runs.get id = some r ∧ r.status = status ∧ r.publishedIdentity = identity

/-- No other run is active. -/
def OnlyActive (id : RunId) (w : World) : Prop :=
  ∀ k r, w.runs.get k = some r → r.Active → k = id

/-- From the start of a run to the rename: the published file is the one it was, the row of the
run has this status and identity, and no other run is active. -/
structure Stage (w₀ : World) (id : RunId) (status : PublishStatus)
    (identity : Option FileIdentity) (w : World) : Prop where
  published : w.disk.published = w₀.disk.published
  row : HasRow id status identity w
  only : OnlyActive id w
  paired : (w.disk.build id).Paired

/-- A run that may still be closed as failed. -/
def Unfinished (w₀ : World) (id : RunId) (w : World) : Prop :=
  ∃ status identity, status ∈ activeStatuses ∧ Stage w₀ id status identity w

/-- The published file is unchanged, the run is `FAILED` and nothing of it is left under
`build/`. -/
structure Untouched (w₀ : World) (id : RunId) (w : World) : Prop where
  published : w.disk.published = w₀.disk.published
  failed : ∃ r, w.runs.get id = some r ∧ r.status = .failed
  clean : w.disk.build id = BuildFiles.none

/-- The copy of the published file, synced. -/
def Prepared (tools : Tools) (published : Option WarehouseFile) (b : BuildFiles) : Prop :=
  ∃ b₀, (∀ f ∈ published, ∃ old, tools.copyfile f old = (.ok (), b₀.file)) ∧
    tools.syncBronzeCatalog b₀ = (.ok (), b)

/-- A prepared build on which dbt succeeded. -/
def Tested (tools : Tools) (published : Option WarehouseFile) (b : BuildFiles) : Prop :=
  ∃ b₁ result, Prepared tools published b₁ ∧ tools.dbtRunner b₁ = (.ok result, b) ∧
    result.succeeded = true

/-- A tested build after its checkpoint, without WAL. -/
def Checkpointed (tools : Tools) (published : Option WarehouseFile) (b : BuildFiles) : Prop :=
  ∃ b₂, Tested tools published b₂ ∧ tools.checkpoint b₂ = (.ok (), b) ∧ b.wal = none

/-- The published file is the checkpointed build of this run, and the row carries
its identity. -/
structure Swapped (tools : Tools) (w₀ : World) (id : RunId) (w : World) : Prop where
  built : ∃ b f, Checkpointed tools w₀.disk.published b ∧ b.file = some f ∧
    w.disk.published = some f ∧
    (HasRow id .publishing (some f.identity) w ∨ HasRow id .published (some f.identity) w)
  only : OnlyActive id w

/-- The two outcomes exclude each other. -/
theorem Untouched.not_swapped {tools : Tools} {w₀ : World} {id : RunId} {w : World}
    (h : Untouched w₀ id w) : ¬ Swapped tools w₀ id w := by
  rintro ⟨⟨b, f, -, -, -, hrow⟩, -⟩
  obtain ⟨r, hr, hfailed⟩ := h.failed
  rcases hrow with ⟨r', hr', hstatus, -⟩ | ⟨r', hr', hstatus, -⟩
  · obtain rfl := Option.some.inj (hr.symm.trans hr')
    rw [hfailed] at hstatus
    cases hstatus
  · obtain rfl := Option.some.inj (hr.symm.trans hr')
    rw [hfailed] at hstatus
    cases hstatus

/-- The lease of the run is over at `now`. -/
def LeaseOver (id : RunId) (now : Timestamp) (w : World) : Prop :=
  ∀ r, w.runs.get id = some r → r.lastBeat < now - publishLease

/-- The published file was replaced as a whole, and a recovery after the lease closes the run as
`PUBLISHED`. -/
structure Replaced (tools : Tools) (paths : WarehousePaths) (w₀ : World) (id : RunId)
    (w : World) : Prop extends Swapped tools w₀ id w where
  recovered : ∀ now, LeaseOver id now w → ∃ r,
    (recoverIncompletePublishes paths now none w none).2.1.runs.get id = some r ∧
      r.status = .published

@[simp] theorem beat_disk (id : RunId) (w : World) : (w.beat id).disk = w.disk := by
  unfold World.beat
  split <;> rfl

/-- The heartbeat changes no row but in its heartbeat. -/
theorem get_beat (id : RunId) {k : RunId} {w : World} {r : PublishRow} (h : w.runs.get k = some r) :
    ∃ beat, (w.beat id).runs.get k = some { r with heartbeatAt := beat } := by
  unfold World.beat
  split
  · exact ⟨r.heartbeatAt, h⟩
  · exact ⟨r.heartbeatAt, h⟩
  · exact get_touchPublishRun h

theorem get_beat_none {id k : RunId} {w : World} (h : w.runs.get k = none) :
    (w.beat id).runs.get k = none := by
  unfold World.beat
  split
  · exact h
  · exact h
  · show (touchPublishRun _ _ _).2.get k = none
    exact updateWhere_get_none h

theorem HasRow.beat {id : RunId} {status : PublishStatus} {identity : Option FileIdentity}
    {w : World} (h : HasRow id status identity w) : HasRow id status identity (w.beat id) := by
  obtain ⟨r, hr, hstatus, hidentity⟩ := h
  obtain ⟨beat, hb⟩ := get_beat id hr
  exact ⟨_, hb, hstatus, hidentity⟩

theorem OnlyActive.beat {id : RunId} {w : World} (h : OnlyActive id w) :
    OnlyActive id (w.beat id) := by
  intro k r hr hactive
  cases hk : w.runs.get k with
  | none =>
    rw [get_beat_none hk] at hr
    cases hr
  | some r' =>
    obtain ⟨beat, hb⟩ := get_beat id hk
    obtain rfl := Option.some.inj (hr.symm.trans hb)
    exact h k r' hk hactive

theorem Stage.beat {w₀ : World} {id : RunId} {status : PublishStatus}
    {identity : Option FileIdentity} {w : World} (h : Stage w₀ id status identity w) :
    Stage w₀ id status identity (w.beat id) := by
  refine ⟨?_, h.row.beat, h.only.beat, ?_⟩
  · rw [beat_disk]
    exact h.published
  · rw [beat_disk]
    exact h.paired

theorem ends_onDisk {α : Type} {f : Disk → α × Disk} {w : World} {Q : α → World → Prop}
    {E : Raised → World → Prop} (h : Q (f w.disk).1 { w with disk := (f w.disk).2 }) :
    Ends (onDisk f) w Q E := ends_exec h

theorem ends_onRuns {α : Type} {f : PublishRuns → Except Raised α × PublishRuns} {w : World}
    {Q : α → World → Prop} {E : Raised → World → Prop}
    (h : Post (fun a runs => Q a { w with runs := runs }) (fun e runs => E e { w with runs := runs })
      (f w.runs)) : Ends (onRuns f) w Q E := by
  refine ends_exec ?_
  generalize f w.runs = result at h ⊢
  obtain ⟨r, runs⟩ := result
  cases r with
  | ok a => exact h
  | error e => exact h

theorem isolateBuild_spec (id : RunId) (now : Timestamp) (d : Disk) :
    (isolateBuild id now d).2.published = d.published ∧
      (∀ k, k ≠ id → (isolateBuild id now d).2.build k = d.build k) ∧
      ((d.build id).Paired → (isolateBuild id now d).2.build id =
        { d.build id with file := none, wal := none }) := by
  unfold isolateBuild
  cases hf : (d.build id).file with
  | none =>
    refine ⟨rfl, fun _ _ => rfl, fun hpaired => ?_⟩
    have hwal : (d.build id).wal = none := by
      unfold BuildFiles.Paired at hpaired
      rw [hf] at hpaired
      cases hw : (d.build id).wal with
      | none => rfl
      | some _ =>
        rw [hw] at hpaired
        exact absurd (hpaired rfl) (by simp)
    show d.build id = _
    cases hb : d.build id with
    | mk file wal target =>
      rw [hb] at hf hwal
      dsimp only at hf hwal
      subst hf hwal
      rfl
  | some f => exact ⟨rfl, fun k hk => by simp [hk], fun _ => by simp⟩

/-- `_fail` closes an unfinished run and leaves nothing of it. -/
theorem ends_fail {w₀ : World} {id : RunId} {w : World} {paths : WarehousePaths}
    {errorType message : String} {now : Timestamp} {E : Raised → World → Prop}
    (h : Unfinished w₀ id w) :
    Ends (fail paths id errorType message now) w (fun _ w' => Untouched w₀ id w') E := by
  obtain ⟨status, identity, hactive, hstage⟩ := h
  obtain ⟨r, hr, hstatus, -⟩ := hstage.row
  obtain ⟨hpublished, -, hclean⟩ := isolateBuild_spec id now w.disk
  -- the row is active, so the transition to `FAILED` finds it
  obtain ⟨runs, hfailed, hget, -⟩ := transition_of_get activeStatuses
    (fun r => r.toFailed errorType (if message = "" then errorType else message)
      (if (isolateBuild id now w.disk).1 then some (paths.failedFile id) else none) now)
    (fun _ => rfl) hr (by rw [hstatus]; exact hactive)
  unfold fail
  refine Ends.bind (Q := fun moved w' => moved = (isolateBuild id now w.disk).1 ∧
    w' = { w with disk := (isolateBuild id now w.disk).2 }) (ends_onDisk ⟨rfl, rfl⟩) ?_
  rintro moved w₁ ⟨rfl, rfl⟩
  refine Ends.bind (Q := fun _ w' => w' = { w with
    disk := (isolateBuild id now w.disk).2, runs := runs }) (ends_onRuns ?_) ?_
  · show Post _ _ (transition _ _ _ _ w.runs)
    rw [hfailed]
    exact rfl
  rintro - w₂ rfl
  refine ends_onDisk ⟨?_, ⟨_, hget, rfl⟩, ?_⟩
  · show (isolateBuild id now w.disk).2.published = _
    rw [hpublished]
    exact hstage.published
  -- the build directory goes last, and nothing of the run is left under it
  · show (removeTarget id (pruneFailedBuilds (isolateBuild id now w.disk).2)).build id = _
    unfold removeTarget
    rw [Disk.setBuild_build_self]
    show BuildFiles.mk ((isolateBuild id now w.disk).2.build id).file
      ((isolateBuild id now w.disk).2.build id).wal none = _
    rw [hclean hstage.paired]
    rfl

/-! ## The steps of a run -/

theorem Stage.unfinished {w₀ : World} {id : RunId} {status : PublishStatus}
    {identity : Option FileIdentity} {w : World} (h : Stage w₀ id status identity w)
    (hactive : status ∈ activeStatuses) : Unfinished w₀ id w := ⟨status, identity, hactive, h⟩

/-- The heartbeat around a step keeps what a beat keeps, and its last sign of life changes no
other column. -/
theorem ends_heartbeat {α : Type} {id : RunId} {x : Publishing α} {w : World}
    {Q : α → World → Prop} {E : Raised → World → Prop} (h : Ends x w Q E)
    (hbeat : ∀ a w', Q a w' → Q a (w'.beat id)) : Ends (heartbeat id x) w Q E := by
  unfold heartbeat
  exact h.bind fun a w' hQ => ends_exec (hbeat a w' hQ)

/-- A stage after a tool changed the build files. -/
theorem Stage.beatBuild {w₀ : World} {id : RunId} {status : PublishStatus}
    {identity : Option FileIdentity} {w : World} (h : Stage w₀ id status identity w)
    {b : BuildFiles} (hb : b.Paired) :
    Stage w₀ id status identity { w.beat id with disk := w.disk.setBuild id b } := by
  refine ⟨h.published, h.beat.row, h.beat.only, ?_⟩
  show (Disk.build (w.disk.setBuild id b) id).Paired
  rw [Disk.setBuild_build_self]
  exact hb

/-- A tool on the build files of a stage. -/
theorem Stage.ends_stepBuild {α : Type} {w₀ : World} {id : RunId} {status : PublishStatus}
    {identity : Option FileIdentity} {w : World} (h : Stage w₀ id status identity w)
    {f : BuildFiles → Except Raised α × BuildFiles} (hf : (f (w.disk.build id)).2.Paired) :
    Ends (stepBuild id f) w
      (fun a w' => Stage w₀ id status identity w' ∧
        f (w.disk.build id) = (.ok a, w'.disk.build id))
      (fun _ w' => Stage w₀ id status identity w' ∧
        w'.disk.build id = (f (w.disk.build id)).2) := by
  unfold stepBuild
  refine ends_exec ?_
  dsimp only
  rw [beat_disk]
  generalize hresult : f (w.disk.build id) = result at hf ⊢
  obtain ⟨r, b⟩ := result
  have hb : (Disk.build (w.disk.setBuild id b) id) = b := Disk.setBuild_build_self ..
  cases r with
  | ok a => exact ⟨h.beatBuild hf, by rw [hb]⟩
  | error e => exact ⟨h.beatBuild hf, hb⟩

/-- A check that reads the world: the state stays, struck or not. -/
theorem Stage.ends_check {α : Type} {w₀ : World} {id : RunId} {status : PublishStatus}
    {identity : Option FileIdentity} {w : World} (h : Stage w₀ id status identity w)
    {f : World → Except Raised α × World} (hf : (f (w.beat id)).2 = w.beat id) :
    Ends (stepOn id f) w
      (fun a w' => Stage w₀ id status identity w' ∧ w'.disk = w.disk ∧
        (f (w.beat id)).1 = .ok a)
      (fun _ w' => Stage w₀ id status identity w' ∧ w'.disk = w.disk) := by
  refine ends_op ?_ (fun _ => ⟨h, rfl⟩) fun _ => ?_
  · generalize hresult : f (w.beat id) = result at hf ⊢
    obtain ⟨r, w'⟩ := result
    obtain rfl : w' = w.beat id := hf
    cases r with
    | ok a => exact ⟨h.beat, beat_disk id w, rfl⟩
    | error e => exact ⟨h.beat, beat_disk id w⟩
  · rw [hf]
    exact ⟨h.beat, beat_disk id w⟩

/-- A transition of the run's own row. -/
theorem Stage.ends_stepRuns {w₀ : World} {id : RunId} {status : PublishStatus}
    {identity : Option FileIdentity} {w : World} (h : Stage w₀ id status identity w)
    (status' : PublishStatus) (identity' : Option FileIdentity)
    {expected : List PublishStatus} {f : PublishRow → PublishRow}
    {hf : ∀ r, (f r).publishRunId = r.publishRunId}
    (t : PublishRuns → Except Raised Unit × PublishRuns) (ht : t = transition id expected f hf)
    (hs : status ∈ expected) (hrow : ∀ r, r.status = status → r.publishedIdentity = identity →
      (f r).status = status' ∧ (f r).publishedIdentity = identity') :
    Ends (stepRuns id t) w
      (fun _ w' => Stage w₀ id status' identity' w' ∧ w'.disk = w.disk)
      (fun _ w' => (Stage w₀ id status identity w' ∨ Stage w₀ id status' identity' w') ∧
        w'.disk = w.disk) := by
  subst ht
  obtain ⟨r, hr, hstatus, hidentity⟩ := h.beat.row
  obtain ⟨runs, htransition, hget, hother⟩ :=
    transition_of_get expected f hf hr (by rw [hstatus]; exact hs)
  have hafter : Stage w₀ id status' identity' { w.beat id with runs := runs } := by
    refine ⟨h.beat.published, ⟨f r, hget, hrow r hstatus hidentity⟩, fun k r' hr' hactive => ?_,
      h.beat.paired⟩
    by_cases hk : k = id
    · exact hk
    · refine h.beat.only k r' ?_ hactive
      rw [← hother k hk]
      exact hr'
  -- when the statement raises, its heartbeat may be over and its transition may be done
  refine ends_op ?_ (fun _ => ⟨Or.inl h, rfl⟩) fun _ => ?_
  · dsimp only
    rw [htransition]
    exact ⟨hafter, beat_disk id w⟩
  · dsimp only
    rw [htransition]
    exact ⟨Or.inr hafter, beat_disk id w⟩

/-- What a prepared build is, in a world. -/
def Ready (tools : Tools) (w₀ : World) (id : RunId)
    (P : Tools → Option WarehouseFile → BuildFiles → Prop) (w : World) : Prop :=
  Stage w₀ id .building none w ∧ P tools w₀.disk.published (w.disk.build id) ∧
    (w.disk.build id).file.isSome

theorem Ready.beat {tools : Tools} {w₀ : World} {id : RunId}
    {P : Tools → Option WarehouseFile → BuildFiles → Prop} {w : World}
    (h : Ready tools w₀ id P w) : Ready tools w₀ id P (w.beat id) := by
  refine ⟨h.1.beat, ?_⟩
  rw [beat_disk]
  exact h.2

/-- Preparing a build: the copy is synced, or the run is closed as failed. -/
theorem ends_prepareBuild {tools : Tools} (htools : tools.Sound) {paths : WarehousePaths}
    {clock : Clock} {w₀ : World} {id : RunId} {w : World} (h : Stage w₀ id .building none w) :
    Ends (prepareBuild tools paths clock id) w
      (fun _ w' => Ready tools w₀ id Prepared w') (fun _ w' => Untouched w₀ id w') := by
  have hactive : PublishStatus.building ∈ activeStatuses := by decide
  unfold prepareBuild
  refine ends_heartbeat ?_ fun _ _ h => h.beat
  refine Ends.onError (F := fun _ w' => Unfinished w₀ id w') ?_ fun e w' hw' => ends_fail hw'
  refine Ends.bind (Q := fun _ w' => Stage w₀ id .building none w') ?_ fun _ w₁ h₁ => ?_
  · refine (h.ends_check ?_).imp (fun _ _ hQ => hQ.1) fun _ _ hE => hE.1.unfinished hactive
    split <;> rfl
  -- the copy
  refine Ends.bind (Q := fun _ w' => Stage w₀ id .building none w' ∧
    ∀ f ∈ w₀.disk.published, ∃ old, tools.copyfile f old = (.ok (), (w'.disk.build id).file))
    ?_ fun _ w₂ h₂ => ?_
  · refine ends_exec ?_
    dsimp only
    rw [beat_disk, h₁.published]
    cases hpublished : w₀.disk.published with
    | none => exact ⟨h₁.beat, fun f hf => by cases hf⟩
    | some f =>
      dsimp only
      have hpaired : BuildFiles.Paired
          { w₁.disk.build id with file := (tools.copyfile f (w₁.disk.build id).file).2 } :=
        fun hwal => htools.copyfile_some _ _ (h₁.paired hwal)
      have hbuild := Disk.setBuild_build_self w₁.disk id
        { w₁.disk.build id with file := (tools.copyfile f (w₁.disk.build id).file).2 }
      cases hcopied : (tools.copyfile f (w₁.disk.build id).file).1 with
      | error e => exact (h₁.beatBuild hpaired).unfinished hactive
      | ok u =>
        refine ⟨h₁.beatBuild hpaired, fun f' hf' => ⟨(w₁.disk.build id).file, ?_⟩⟩
        obtain rfl : f = f' := Option.some.inj hf'
        show _ = (Except.ok (), BuildFiles.file (Disk.build (w₁.disk.setBuild id _) id))
        rw [hbuild, ← hcopied]
  -- the catalog
  refine (h₂.1.ends_stepBuild (htools.sync_paired _ h₂.1.paired)).imp (fun u w' hQ => ?_)
    fun _ _ hE => hE.1.unfinished hactive
  obtain ⟨hstage, hsync⟩ := hQ
  refine ⟨hstage, ⟨w₂.disk.build id, h₂.2, hsync⟩, ?_⟩
  have hfile := htools.sync_file (w₂.disk.build id) (by rw [hsync])
  rwa [hsync] at hfile

/-- The dbt build: the tests passed, or the run is closed as failed. -/
theorem ends_buildWarehouse {tools : Tools} (htools : tools.Sound) {paths : WarehousePaths}
    {clock : Clock} {w₀ : World} {id : RunId} {w : World} (h : Ready tools w₀ id Prepared w) :
    Ends (buildWarehouse tools paths clock id) w
      (fun _ w' => Ready tools w₀ id Tested w') (fun _ w' => Untouched w₀ id w') := by
  have hactive : PublishStatus.building ∈ activeStatuses := by decide
  obtain ⟨hstage, hprepared, hfile⟩ := h
  unfold buildWarehouse
  refine Ends.bind (Q := fun result w' => Stage w₀ id .building none w' ∧
    tools.dbtRunner (w.disk.build id) = (.ok result, w'.disk.build id)) ?_ fun result w₁ h₁ => ?_
  · refine Ends.onError (F := fun _ w' => Unfinished w₀ id w') ?_ fun e w' hw' => ends_fail hw'
    refine ends_heartbeat ?_ fun result w' hQ => ⟨hQ.1.beat, by rw [beat_disk]; exact hQ.2⟩
    refine Ends.bind ((hstage.ends_stepBuild (htools.dbt_paired _ hstage.paired)).imp
      (fun _ _ hQ => hQ) fun _ _ hE => hE.1.unfinished hactive) fun result w₁ h₁ => ?_
    refine Ends.bind (Q := fun _ w' => Stage w₀ id .building none w' ∧ w'.disk = w₁.disk) ?_
      fun _ w₂ h₂ => ends_pure ⟨h₂.1, by rw [h₂.2]; exact h₁.2⟩
    refine (h₁.1.ends_stepRuns _ _ (recordDbtResult id _ _ _) rfl (by decide)
      fun r hs hi => ⟨hs, hi⟩).imp (fun _ _ hQ => hQ) fun _ _ hE => ?_
    rcases hE.1 with hE | hE
    · exact hE.unfinished hactive
    · exact hE.unfinished hactive
  cases hsucceeded : result.succeeded with
  | true =>
    refine ends_pure ⟨h₁.1, ⟨w.disk.build id, result, hprepared, h₁.2, hsucceeded⟩, ?_⟩
    have hkept := htools.dbt_file (w.disk.build id) hfile
    rwa [h₁.2] at hkept
  | false =>
    -- a result that did not succeed is a failure of its own
    refine Ends.bind (Q := fun _ w' => Untouched w₀ id w')
      (ends_fail (h₁.1.unfinished hactive)) fun _ w₂ h₂ => ends_raise h₂

/-- The state in which `publish_build` raised: the build is still there, or it was
swapped in. -/
def Swapping (tools : Tools) (w₀ : World) (id : RunId) (w : World) : Prop :=
  ((w.disk.build id).file.isSome ∧ Unfinished w₀ id w) ∨
    ((w.disk.build id).file = none ∧ Swapped tools w₀ id w)

/-- The rename: the published file becomes the checkpointed build. -/
theorem Stage.replacePublished {tools : Tools} {w₀ : World} {id : RunId} {w : World}
    {f : WarehouseFile} (h : Stage w₀ id .publishing (some f.identity) w) (paths : WarehousePaths)
    (hbuild : Checkpointed tools w₀.disk.published (w.disk.build id))
    (hfile : (w.disk.build id).file = some f) :
    ∃ w', Warehouse.replacePublished paths id (w.beat id) = (.ok (), w') ∧
      (w'.disk.build id).file = none ∧ Swapped tools w₀ id w' := by
  unfold Warehouse.replacePublished
  rw [beat_disk, hfile]
  refine ⟨_, rfl, ?_, ⟨w.disk.build id, f, hbuild, hfile, rfl, Or.inl h.beat.row⟩, h.beat.only⟩
  show (Disk.build (w.disk.setBuild id { w.disk.build id with file := none }) id).file = none
  rw [Disk.setBuild_build_self]

/-- A read of the build file leaves the world. -/
theorem readBuild_snd {α : Type} (paths : WarehousePaths) (id : RunId)
    (f : WarehouseFile → Except Raised α) (w : World) : (readBuild paths id f w).2 = w := by
  unfold readBuild
  split <;> rfl

theorem readBuild_eq_ok {α : Type} {paths : WarehousePaths} {id : RunId}
    {f : WarehouseFile → Except Raised α} {w : World} {a : α}
    (h : (readBuild paths id f w).1 = .ok a) :
    ∃ file, (w.disk.build id).file = some file ∧ f file = .ok a := by
  unfold readBuild at h
  split at h
  · cases h
  next file hfile => exact ⟨file, hfile, h⟩

theorem Swapped.beat {tools : Tools} {w₀ : World} {id : RunId} {w : World}
    (h : Swapped tools w₀ id w) : Swapped tools w₀ id (w.beat id) := by
  obtain ⟨⟨b, f, hbuild, hfile, hpublished, hrow⟩, honly⟩ := h
  refine ⟨⟨b, f, hbuild, hfile, by rw [beat_disk]; exact hpublished, ?_⟩, honly.beat⟩
  exact hrow.imp HasRow.beat HasRow.beat

/-- What the disk loses apart from the published file does not matter once swapped. -/
theorem Swapped.onDisk {tools : Tools} {w₀ : World} {id : RunId} {w : World}
    (h : Swapped tools w₀ id w) {d : Disk} (hd : d.published = w.disk.published) :
    Swapped tools w₀ id { w with disk := d } := by
  obtain ⟨⟨b, f, hbuild, hfile, hpublished, hrow⟩, honly⟩ := h
  exact ⟨⟨b, f, hbuild, hfile, hd.trans hpublished, hrow⟩, honly⟩

/-- Closing the run as `PUBLISHED`, with or without acknowledgement. -/
theorem Swapped.markPublished {tools : Tools} {w₀ : World} {id : RunId} {w : World}
    (h : Swapped tools w₀ id w) (now : Timestamp) :
    Swapped tools w₀ id { w with runs := (Warehouse.markPublished id now w.runs).2 } := by
  obtain ⟨⟨b, f, hbuild, hfile, hpublished, hrow⟩, honly⟩ := h
  unfold Warehouse.markPublished
  rcases hrow with ⟨r, hr, hstatus, hidentity⟩ | ⟨r, hr, hstatus, hidentity⟩
  · obtain ⟨runs, htransition, hget, hother⟩ := transition_of_get [.publishing]
      (fun r => r.toPublished now) (fun _ => rfl) hr
      (by rw [hstatus]; decide)
    rw [htransition]
    refine ⟨⟨b, f, hbuild, hfile, hpublished, Or.inr ⟨_, hget, rfl, hidentity⟩⟩, ?_⟩
    intro k r' hr' hactive
    by_cases hk : k = id
    · exact hk
    · refine honly k r' ?_ hactive
      rw [← hother k hk]
      exact hr'
  · obtain ⟨e, htransition⟩ := transition_of_not [.publishing]
      (fun r => r.toPublished now) (fun _ => rfl) hr
      (by rw [hstatus]; decide)
    rw [htransition]
    exact ⟨⟨b, f, hbuild, hfile, hpublished, Or.inr ⟨r, hr, hstatus, hidentity⟩⟩, honly⟩

/-- The steps of `publish_build`: swapped, or raised with the build still there. One operation
after the other, each struck before or after. -/
theorem ends_swapBuild {tools : Tools} (htools : tools.Sound) {paths : WarehousePaths}
    {clock : Clock} {w₀ : World} {id : RunId} {w : World} (h : Ready tools w₀ id Tested w) :
    Ends (swapBuild tools paths clock id) w
      (fun _ w' => Swapped tools w₀ id w') (fun _ w' => Swapping tools w₀ id w') := by
  have hactive : PublishStatus.building ∈ activeStatuses := by decide
  have hactive' : PublishStatus.publishing ∈ activeStatuses := by decide
  obtain ⟨hstage, htested, hfile⟩ := h
  unfold swapBuild
  refine Ends.bind ((hstage.ends_stepBuild (htools.checkpoint_paired _ hstage.paired)).imp
    (fun _ _ hQ => hQ) fun _ w' hE => ?_) fun _ w₁ h₁ => ?_
  · refine Or.inl ⟨?_, hE.1.unfinished hactive⟩
    rw [hE.2]
    exact htools.checkpoint_file _ hfile
  obtain ⟨hstage₁, hcheckpoint⟩ := h₁
  have hfile₁ : (w₁.disk.build id).file.isSome := by
    have hkept := htools.checkpoint_file (w.disk.build id) hfile
    rwa [hcheckpoint] at hkept
  have hleft : ∀ (w' : World), Unfinished w₀ id w' → w'.disk = w₁.disk →
      Swapping tools w₀ id w' := fun w' hw' hd => Or.inl ⟨by rw [hd]; exact hfile₁, hw'⟩
  -- the WAL of the build
  refine Ends.bind ((hstage₁.ends_check ?_).imp (fun _ _ hQ => hQ)
    fun _ w' hE => hleft w' (hE.1.unfinished hactive) hE.2) fun _ w₂ h₂ => ?_
  · split <;> rfl
  obtain ⟨hstage₂, hdisk₂, hwal⟩ := h₂
  have hnone : (w₁.disk.build id).wal = none := by
    rw [beat_disk] at hwal
    split at hwal
    · cases hwal
    next hsome => exact Option.not_isSome_iff_eq_none.1 hsome
  have hbuild : Checkpointed tools w₀.disk.published (w₁.disk.build id) :=
    ⟨_, htested, hcheckpoint, hnone⟩
  -- the hashes and the identity are read from the build
  refine Ends.bind ((hstage₂.ends_check (readBuild_snd _ _ _ _)).imp (fun _ _ hQ => hQ)
    fun _ w' hE => hleft w' (hE.1.unfinished hactive) (hE.2.trans hdisk₂)) fun hashes w₃ h₃ => ?_
  obtain ⟨hstage₃, hdisk₃, -⟩ := h₃
  rw [hdisk₂] at hdisk₃
  refine Ends.bind ((hstage₃.ends_check (readBuild_snd _ _ _ _)).imp (fun _ _ hQ => hQ)
    fun _ w' hE => hleft w' (hE.1.unfinished hactive) (hE.2.trans hdisk₃)) fun identity w₄ h₄ => ?_
  obtain ⟨hstage₄, hdisk₄, hidentity⟩ := h₄
  obtain ⟨f, hf, hfi⟩ := readBuild_eq_ok hidentity
  rw [beat_disk, hdisk₃] at hf
  rw [hdisk₃] at hdisk₄
  obtain rfl : f.identity = identity := Except.ok.inj hfi
  refine Ends.bind ((hstage₄.ends_stepRuns .publishing (some f.identity)
    (markPublishing id _ _ _) rfl (by decide) fun r _ _ => ⟨rfl, rfl⟩).imp (fun _ _ hQ => hQ) fun _ w' hE => ?_) fun _ w₅ h₅ => ?_
  · refine hleft w' ?_ (hE.2.trans hdisk₄)
    rcases hE.1 with hE | hE
    · exact hE.unfinished hactive
    · exact hE.unfinished hactive'
  obtain ⟨hstage₅, hdisk₅⟩ := h₅
  rw [hdisk₄] at hdisk₅
  -- the rename is atomic: struck before it, the build is there; after it, swapped
  obtain ⟨w₆, hreplace, hgone, hswap⟩ := hstage₅.replacePublished paths
    (by rw [hdisk₅]; exact hbuild) (by rw [hdisk₅]; exact hf)
  refine Ends.bind (Q := fun _ w' => (w'.disk.build id).file = none ∧ Swapped tools w₀ id w')
    (ends_op ?_ (fun _ => hleft w₅ (hstage₅.unfinished hactive') hdisk₅) fun _ => ?_)
    fun _ w₇ h₇ => ?_
  · rw [hreplace]
    exact ⟨hgone, hswap⟩
  · rw [hreplace]
    exact Or.inr ⟨hgone, hswap⟩
  -- nothing after the rename takes it back
  have hbeat : ∀ w' : World, ((w'.beat id).disk.build id).file = (w'.disk.build id).file :=
    fun w' => by rw [beat_disk]
  refine Ends.bind (Q := fun _ w' => (w'.disk.build id).file = none ∧ Swapped tools w₀ id w')
    (ends_op ⟨(hbeat w₇).trans h₇.1, h₇.2.beat⟩ (fun _ => Or.inr h₇)
      fun _ => Or.inr ⟨(hbeat w₇).trans h₇.1, h₇.2.beat⟩) fun _ w₈ h₈ => ?_
  have hfinal := h₈.2.beat.markPublished clock.published
  have hlast : Swapping tools w₀ id { w₈.beat id with
      runs := (Warehouse.markPublished id clock.published (w₈.beat id).runs).2 } :=
    Or.inr ⟨(hbeat w₈).trans h₈.1, hfinal⟩
  exact Ends.bind (Q := fun _ w' => Swapped tools w₀ id w')
    (ends_op (post_of_both (fun _ => hfinal) fun _ => hlast) (fun _ => Or.inr h₈) fun _ => hlast)
    fun _ w₉ h₉ => ends_pure h₉

/-- `publish_build` on a tested build: the handler sees a build file exactly where nothing was
swapped. -/
theorem ends_publishBuild {tools : Tools} (htools : tools.Sound) {paths : WarehousePaths}
    {clock : Clock} {w₀ : World} {id : RunId} {w : World} (h : Ready tools w₀ id Tested w) :
    Ends (publishBuild tools paths clock id) w (fun _ w' => Swapped tools w₀ id w')
      (fun _ w' => Untouched w₀ id w' ∨ Swapped tools w₀ id w') := by
  obtain ⟨r, hr, -⟩ := h.1.row
  unfold publishBuild
  refine Ends.bind (Q := fun _ w' => w' = w) (ends_exec ?_) ?_
  · rw [hr]
    exact rfl
  rintro record w' rfl
  refine Ends.bind (Q := fun _ w' => Swapped tools w₀ id w') ?_ fun swapped w₁ h₁ => ?_
  · refine Ends.onError (ends_heartbeat (ends_swapBuild htools h) fun _ _ h => h.beat) ?_
    intro e w' hw'
    refine Ends.bind (Q := fun building w'' => building = (w'.disk.build id).file.isSome ∧
      w'' = w') (ends_onDisk ⟨rfl, rfl⟩) ?_
    rintro building w'' ⟨rfl, rfl⟩
    rcases hw' with ⟨hsome, hunfinished⟩ | ⟨hnone, hswapped⟩
    · rw [hsome]
      exact (ends_fail hunfinished).imp (fun _ _ h => Or.inl h) fun _ _ h => h
    · rw [hnone]
      exact ends_pure (Or.inr hswapped)
  refine Ends.bind (Q := fun _ w' => Swapped tools w₀ id w') (ends_onDisk (h₁.onDisk rfl))
    fun _ w₂ h₂ => ends_exec h₂

/-- Two rows of one id are one row. -/
theorem eq_of_get {runs : PublishRuns} {r r' : PublishRow}
    (hr : runs.get r.publishRunId = some r) (hr' : r' ∈ runs.rows)
    (hid : r'.publishRunId = r.publishRunId) : r' = r := by
  have hget := Table.get_of_mem hr'
  rw [hid, hr] at hget
  exact (Option.some.inj hget).symm

/-- A list without duplicates whose elements are all `a`. -/
theorem eq_singleton {α : Type} {a : α} {l : List α} (hmem : a ∈ l) (hnodup : l.Nodup)
    (hall : ∀ b ∈ l, b = a) : l = [a] := by
  cases l with
  | nil => cases hmem
  | cons b bs =>
    obtain rfl : b = a := hall b List.mem_cons_self
    cases bs with
    | nil => rfl
    | cons c cs =>
      have hc : c = b := hall c (by simp)
      rw [hc] at hnodup
      exact absurd hnodup (by simp)

theorem mem_staleActiveRuns {t : Timestamp} {runs : PublishRuns} {r : PublishRow} :
    r ∈ staleActiveRuns t runs ↔ r ∈ runs.rows ∧ r.Stale t := by
  unfold staleActiveRuns
  rw [List.mem_insertionSort, List.mem_filter, decide_eq_true_eq]

/-- The run alone is recovered. -/
theorem staleActiveRuns_of_only {id : RunId} {t : Timestamp} {w : World} {r : PublishRow}
    (honly : OnlyActive id w) (hr : w.runs.get id = some r) (hstale : r.Stale t) :
    staleActiveRuns t w.runs = [r] := by
  have hid : r.publishRunId = id := Table.key_of_get hr
  refine eq_singleton (mem_staleActiveRuns.2 ⟨Table.mem_of_get hr, hstale⟩) ?_ fun r' hr' => ?_
  · unfold staleActiveRuns
    rw [(List.perm_insertionSort _ _).nodup_iff]
    exact (List.Nodup.of_map _ w.runs.unique).filter _
  · obtain ⟨hmem, hactive, -⟩ := mem_staleActiveRuns.1 hr'
    have hk := honly _ r' (Table.get_of_mem hmem) hactive
    exact eq_of_get (by rw [hid]; exact hr) hmem (hk.trans hid.symm)

/-- The run is `PUBLISHED`. -/
def Closed (id : RunId) (w : World) : Prop :=
  ∃ r, w.runs.get id = some r ∧ r.status = .published

/-- The recovery closes the row of a swapped file as `PUBLISHED`. -/
theorem ends_recoverRun {id : RunId} {now : Timestamp} {w : World} {paths : WarehousePaths}
    {r : PublishRow} {f : WarehouseFile} {E : Raised → World → Prop}
    (hr : w.runs.get id = some r) (hstale : r.Stale (now - publishLease))
    (hstatus : r.status = .publishing) (hidentity : r.publishedIdentity = some f.identity)
    (hpublished : w.disk.published = some f) :
    Ends (recoverRun paths now r) w (fun _ w' => Closed id w') E := by
  have hid : r.publishRunId = id := Table.key_of_get hr
  -- the published file is the one the run recorded, so the swap is taken as done
  have hmatch : publishedIdentityMatches w.disk r.publishedIdentity = true := by
    unfold publishedIdentityMatches
    rw [hidentity, hpublished]
    simp
  obtain ⟨runs, hclose, hget, -⟩ := updateWhere_of_get
    (fun r => r.Stale (now - publishLease)) (fun r => r.toClosed true now) (fun _ => rfl) hr
    (decide_eq_true hstale)
  replace hclose : closeStaleRun id true (now - publishLease) now w.runs = (true, runs) := hclose
  unfold recoverRun
  refine Ends.bind (Q := fun matching w' => matching = true ∧ w' = w)
    (ends_onDisk ⟨hmatch, rfl⟩) ?_
  rintro matching w' ⟨rfl, rfl⟩
  have htrue : (decide (PublishStatus.publishing = PublishStatus.publishing) && true) = true := rfl
  rw [hstatus, hid, htrue]
  -- the row is still stale when it is closed, as nothing runs between
  refine Ends.bind (Q := fun closed w'' => closed = true ∧ w'' = { w' with runs := runs })
    (ends_onRuns ?_) ?_
  · rw [hclose]
    exact ⟨rfl, rfl⟩
  rintro closed w'' ⟨rfl, rfl⟩
  rw [if_pos rfl, if_pos rfl]
  exact ends_onDisk ⟨_, hget, rfl⟩

/-- A recovery after the lease closes a swapped run as `PUBLISHED`. -/
theorem Swapped.recovered {tools : Tools} {paths : WarehousePaths} {w₀ : World} {id : RunId}
    {w : World} (h : Swapped tools w₀ id w) {now : Timestamp} (hlease : LeaseOver id now w) :
    Closed id (recoverIncompletePublishes paths now none w none).2.1 := by
  -- the swap is done, so the run of the published file is closed as published, not failed
  obtain ⟨⟨b, f, -, -, hpublished, hrow⟩, honly⟩ := h
  suffices hends : Ends (recoverIncompletePublishes paths now none) w
      (fun _ w' => Closed id w') (fun _ w' => Closed id w') from hends.final none
  unfold recoverIncompletePublishes
  refine Ends.bind (Q := fun reclaimed w' => reclaimed = [] ∧ w' = w) (ends_onRuns ⟨rfl, rfl⟩) ?_
  rintro reclaimed w' ⟨rfl, rfl⟩
  refine Ends.bind (Q := fun _ w'' => w'' = w') (ends_pure rfl) ?_
  rintro - w'' rfl
  refine Ends.bind (Q := fun stale w' => stale = staleActiveRuns (now - publishLease) w''.runs ∧
    w' = w'') (ends_onRuns ⟨rfl, rfl⟩) ?_
  rintro stale w' ⟨rfl, rfl⟩
  -- `mark_published` answered or not, the row may be still `PUBLISHING` or already closed
  rcases hrow with ⟨r, hr, hstatus, hidentity⟩ | ⟨r, hr, hstatus, hidentity⟩
  · have hstale : r.Stale (now - publishLease) :=
      ⟨by unfold PublishRow.Active; rw [hstatus]; decide, hlease r hr⟩
    rw [staleActiveRuns_of_only honly hr hstale]
    exact Ends.bind (ends_recoverRun hr hstale hstatus hidentity hpublished)
      fun _ _ hclosed => ends_pure hclosed
  · -- the run is closed already, and no other is active
    have hnone : staleActiveRuns (now - publishLease) w'.runs = [] := by
      refine List.eq_nil_iff_forall_not_mem.2 fun r' hr' => ?_
      obtain ⟨hmem, hactive, -⟩ := mem_staleActiveRuns.1 hr'
      have hget := Table.get_of_mem hmem
      rw [honly _ r' hget hactive, hr] at hget
      obtain rfl := Option.some.inj hget
      unfold PublishRow.Active at hactive
      rw [hstatus] at hactive
      exact absurd hactive (by decide)
    rw [hnone]
    exact ends_pure ⟨r, hr, hstatus⟩

/-- Before the run has a row, nothing of it changed. -/
structure NotStarted (w₀ : World) (id : RunId) (w : World) : Prop where
  published : w.disk.published = w₀.disk.published
  build : w.disk.build id = w₀.disk.build id
  absent : w.runs.get id = none

/-- Cleaning up after another run. -/
theorem NotStarted.ends_cleanFailedRecovery {w₀ : World} {id k : RunId} {w : World}
    (h : NotStarted w₀ id w) (hk : id ≠ k) (paths : WarehousePaths) (now : Timestamp) :
    Ends (cleanFailedRecovery paths k now) w (fun _ w' => NotStarted w₀ id w')
      (fun _ w' => NotStarted w₀ id w') := by
  obtain ⟨hpublished, hbuild, -⟩ := isolateBuild_spec k now w.disk
  unfold cleanFailedRecovery
  refine Ends.bind (Q := fun _ w' => NotStarted w₀ id w') (ends_onDisk
    ⟨hpublished.trans h.published, (hbuild id hk).trans h.build, h.absent⟩) fun moved w₁ h₁ => ?_
  refine Ends.bind (Q := fun _ w' => NotStarted w₀ id w') ?_ fun _ w₂ h₂ => ?_
  · split
    · have hrow : NotStarted w₀ id
          { w₁ with runs := (recordFailedPath k (paths.failedFile k) w₁.runs).2 } :=
        ⟨h₁.published, h₁.build, transition_get_none h₁.absent⟩
      exact ends_exec (post_of_both (fun _ => hrow) fun _ => hrow)
    · exact ends_pure h₁
  · refine ends_onDisk ⟨h₂.published, ?_, h₂.absent⟩
    show (removeTarget k (pruneFailedBuilds w₂.disk)).build id = _
    unfold removeTarget
    rw [Disk.setBuild_build_ne _ _ hk]
    exact h₂.build

/-- One round of the recovery of another run. -/
theorem NotStarted.ends_recoverRun {w₀ : World} {id : RunId} {w : World}
    (h : NotStarted w₀ id w) {record : PublishRow} (hk : id ≠ record.publishRunId)
    (paths : WarehousePaths) (now : Timestamp) :
    Ends (recoverRun paths now record) w (fun _ w' => NotStarted w₀ id w')
      (fun _ w' => NotStarted w₀ id w') := by
  unfold recoverRun
  refine Ends.bind (Q := fun _ w' => NotStarted w₀ id w') (ends_onDisk h) fun matching w₁ h₁ => ?_
  refine Ends.bind (Q := fun _ w' => NotStarted w₀ id w') (ends_onRuns ?_) fun closed w₂ h₂ => ?_
  · exact ⟨h₁.published, h₁.build, updateWhere_get_none h₁.absent⟩
  split
  · split
    · refine ends_onDisk ⟨h₂.published, ?_, h₂.absent⟩
      show (removeTarget _ (w₂.disk.setBuild _ _)).build id = _
      unfold removeTarget
      rw [Disk.setBuild_build_ne _ _ hk, Disk.setBuild_build_ne _ _ hk]
      exact h₂.build
    · exact h₂.ends_cleanFailedRecovery hk paths now
  · exact ends_pure h₂

/-- A row of the table is not the run's. -/
theorem NotStarted.ne_of_mem {w₀ : World} {id : RunId} {w : World} (h : NotStarted w₀ id w)
    {r : PublishRow} (hr : r ∈ w.runs.rows) : id ≠ r.publishRunId := fun he =>
  Table.get_eq_none.1 h.absent r hr he.symm

/-- The recovery before a run touches only runs that have a row. -/
theorem NotStarted.ends_recover {w₀ : World} {id : RunId} {w : World} (h : NotStarted w₀ id w)
    (paths : WarehousePaths) (now : Timestamp) (reclaim : Option PublishRun) :
    Ends (recoverIncompletePublishes paths now reclaim) w (fun _ w' => NotStarted w₀ id w')
      (fun _ w' => NotStarted w₀ id w') := by
  unfold recoverIncompletePublishes
  refine Ends.bind (Q := fun reclaimed w' => NotStarted w₀ id w' ∧ ∀ k ∈ reclaimed, id ≠ k)
    (ends_onRuns ?_) fun reclaimed w₁ h₁ => ?_
  · split
    · exact ⟨h, fun k hk => by cases hk⟩
    next pipelineName dagRunId _ =>
      have hids : ∀ k ∈ (closeDagRunBuilding pipelineName dagRunId now w.runs).1, id ≠ k := by
        intro k hk
        obtain ⟨r, hr, rfl⟩ := List.mem_map.1 hk
        exact h.ne_of_mem (List.mem_filter.1 hr).1
      refine ⟨⟨h.published, h.build, ?_⟩, hids⟩
      exact get_foldl_reclaimed now h.absent
  refine Ends.bind (ends_forEach h₁.1 fun k hk w' hw' =>
    hw'.ends_cleanFailedRecovery (h₁.2 k hk) paths now) fun _ w₂ h₂ => ?_
  refine Ends.bind (Q := fun stale w' => NotStarted w₀ id w' ∧
    ∀ r ∈ stale, id ≠ r.publishRunId) (ends_onRuns ⟨h₂, fun r hr => ?_⟩) fun stale w₃ h₃ => ?_
  · exact h₂.ne_of_mem (mem_staleActiveRuns.1 hr).1
  · exact ends_forEach h₃.1 fun r hr w' hw' => hw'.ends_recoverRun (h₃.2 r hr) paths now

/-- A started run is the only active one, and it is building. -/
theorem NotStarted.start {w₀ : World} {run : PublishRun} {w : World}
    (h : NotStarted w₀ run.publishRunId w)
    (hpaired : (w₀.disk.build run.publishRunId).Paired) {now : Timestamp} {runs : PublishRuns}
    (hstart : startPublishRun run now w.runs = .ok runs) :
    Stage w₀ run.publishRunId .building none { w with runs := runs } := by
  obtain ⟨-, hinactive, previous, hrows⟩ := startPublishRun_eq_ok hstart
  have hmem : run.row previous now ∈ runs.rows := by
    rw [hrows]
    simp
  refine ⟨h.published, ⟨_, Table.get_of_mem hmem, rfl, rfl⟩, fun k r hr hactive => ?_, ?_⟩
  · have hk := Table.key_of_get hr
    have hr' := Table.mem_of_get hr
    rw [hrows] at hr'
    rcases List.mem_append.1 hr' with hr' | hr'
    · exact absurd hactive (hinactive r hr')
    · obtain rfl : r = run.row previous now := by simpa using hr'
      exact hk.symm
  · show (w.disk.build run.publishRunId).Paired
    rw [h.build]
    exact hpaired

/-! ## The gate -/

/-- Every end of `publish_warehouse`: the three functions in a row, each from where the one
before returned. -/
theorem ends_publishWarehouse {tools : Tools} (htools : tools.Sound) {paths : WarehousePaths}
    {clock : Clock} {run : PublishRun} {w₀ : World}
    (hfresh : w₀.runs.get run.publishRunId = none)
    (hpaired : (w₀.disk.build run.publishRunId).Paired) :
    Ends (publishWarehouse tools paths clock run) w₀
      (fun _ w => Swapped tools w₀ run.publishRunId w)
      (fun _ w => NotStarted w₀ run.publishRunId w ∨ Untouched w₀ run.publishRunId w ∨
        Swapped tools w₀ run.publishRunId w) := by
  have h₀ : NotStarted w₀ run.publishRunId w₀ := ⟨rfl, rfl, hfresh⟩
  unfold publishWarehouse
  refine Ends.bind (Q := fun _ w => Ready tools w₀ run.publishRunId Prepared w) ?_
    fun _ w₁ h₁ => ?_
  · unfold prepareWarehouseBuild
    refine Ends.bind ((h₀.ends_recover paths clock.prepared (some run)).imp (fun _ _ h => h)
      fun _ _ h => Or.inl h) fun _ w₁ h₁ => ?_
    refine Ends.bind (Q := fun _ w => Stage w₀ run.publishRunId .building none w)
      (ends_onRuns ?_) fun _ w₂ h₂ => ?_
    · cases hstart : startPublishRun run clock.prepared w₁.runs with
      | ok runs => exact h₁.start hpaired hstart
      | error e => exact Or.inl h₁
    · exact (ends_prepareBuild htools h₂).imp (fun _ _ h => h) fun _ _ h => Or.inr (Or.inl h)
  refine Ends.bind ((ends_buildWarehouse htools h₁).imp (fun _ _ h => h)
    fun _ _ h => Or.inr (Or.inl h)) fun _ w₂ h₂ => ?_
  exact (ends_publishBuild htools h₂).imp (fun _ _ h => h) fun _ _ h => Or.inr h

/-- Every execution that started its run, with at most one failure from outside at any
operation, ends in exactly one of the two outcomes. -/
theorem publishWarehouse_atomic {tools : Tools} (htools : tools.Sound) (paths : WarehousePaths)
    (clock : Clock) (run : PublishRun) (w₀ : World) (plan : Plan Raised)
    (hfresh : w₀.runs.get run.publishRunId = none)
    (hpaired : (w₀.disk.build run.publishRunId).Paired) {w : World}
    (hw : w = (publishWarehouse tools paths clock run w₀ plan).2.1)
    (hstarted : w.runs.get run.publishRunId ≠ none) :
    Xor (Untouched w₀ run.publishRunId w) (Replaced tools paths w₀ run.publishRunId w) := by
  have hends : NotStarted w₀ run.publishRunId w ∨ Untouched w₀ run.publishRunId w ∨
      Swapped tools w₀ run.publishRunId w := by
    rw [hw]
    refine Ends.final (P := fun w => NotStarted w₀ run.publishRunId w ∨
      Untouched w₀ run.publishRunId w ∨ Swapped tools w₀ run.publishRunId w) ?_ plan
    exact (ends_publishWarehouse htools hfresh hpaired).imp (fun _ _ h => Or.inr (Or.inr h))
      fun _ _ h => h
  rcases hends with hnot | huntouched | hswapped
  · exact absurd hnot.absent hstarted
  · exact Or.inl ⟨huntouched, fun hreplaced => huntouched.not_swapped hreplaced.toSwapped⟩
  · exact Or.inr ⟨⟨hswapped, fun now hlease => hswapped.recovered hlease⟩,
      fun huntouched => huntouched.not_swapped hswapped⟩

private def inMemoryTools : Tools where
  copyfile f _ := (.ok (), some { f with identity := ⟨2, 0⟩ })
  syncBronzeCatalog b := (.ok (), { b with file := some (b.file.getD ⟨[1], ⟨1, 1⟩⟩) })
  dbtRunner b := (.ok ⟨0, none, 1, 0, none, [], ""⟩, b)
  checkpoint b := (.ok (), { b with wal := none })
  martHashesAndRowCounts _ := .ok ([], [])

private theorem inMemoryTools_sound : inMemoryTools.Sound where
  copyfile_some _ _ _ := rfl
  sync_paired _ _ _ := rfl
  sync_file _ _ := rfl
  dbt_paired _ h := h
  dbt_file _ h := h
  checkpoint_paired _ _ h := by cases h
  checkpoint_file _ h := h

private def emptyWarehouse : World := ⟨⟨none, none, fun _ => BuildFiles.none, []⟩, Table.empty, []⟩

private def manualRun : PublishRun := ⟨7, "manual_publish", none, none⟩

private def warehousePaths : WarehousePaths := ⟨"/data/warehouse.duckdb", "/data/build", "/data/failed"⟩

theorem publishWarehouse_atomic_fsync :
    Xor (Untouched emptyWarehouse 7 (publishWarehouse inMemoryTools warehousePaths ⟨0, 1, 2⟩
        manualRun emptyWarehouse (some (7, ⟨⟨.osError, "fsync"⟩, false⟩))).2.1)
      (Replaced inMemoryTools warehousePaths emptyWarehouse 7 (publishWarehouse inMemoryTools
        warehousePaths ⟨0, 1, 2⟩ manualRun emptyWarehouse
        (some (7, ⟨⟨.osError, "fsync"⟩, false⟩))).2.1) :=
  publishWarehouse_atomic inMemoryTools_sound warehousePaths ⟨0, 1, 2⟩ manualRun emptyWarehouse
    (some (7, ⟨⟨.osError, "fsync"⟩, false⟩)) rfl (fun h => by cases h) rfl (by decide)

end CommercePlatform.Warehouse
