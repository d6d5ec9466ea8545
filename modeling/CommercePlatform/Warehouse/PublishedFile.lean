import CommercePlatform.Warehouse.PublishMachine
/-!
# The published file and the publish record

The file swap and the database row cannot change in one step. `SiteStep` runs
`publish_build` step by step beside the transactions of `PublishMachine`: any number of
calls for any runs, each may pause, raise or crash before any step, a run may be
published again once its earlier call has ended, and recoverers read stale rows, compare
file identities and close rows in separate steps.

Two things make the record and the file disagree.

- `publish_build` called again for a run that is `PUBLISHING` and already swapped in:
  its checkpoint creates an empty build file, the call fails, and the handler takes the
  file for an unswapped build.
- A recoverer that compares before the swap of a paused call and closes after it, or a
  paused call that swaps after its row was closed. The design of the heartbeat lease
  names this race and accepts it.

`SiteAction.Calm` excludes exactly these steps, by conditions on the state before them.
In a run of calm steps:

> `publishedFile_recorded`: when nobody publishes, nothing was ever published, or the
> published file is the build file of the run that became `PUBLISHED` last and has the
> identity that run recorded.

`SiteInv` holds along every calm run. Its core says what the published file is: the
build file of a run that recorded its identity and is `PUBLISHING`, or `PUBLISHED` and
the last to become so. The rest is what that needs of the calls under way, `PhaseOk` for
the phase each of them stands at, and of the records the recoverers hold.

Most steps are transactions of other programs, and these are all alike to the invariant:
they mark no row. `TableMove` is what such a transaction may do, and has one lemma for
each field of the invariant; `SiteInv.setTable` puts them together. The steps of a call
are then one lemma each: entering, the checkpoint, the reading of the identity, the
mark, the replacement, the finish, and the three steps of the handler. `SiteInv.step` is
only the list of the cases.

That a call is alone at its run is what makes the steps of a call tractable:
`SiteInv.alone` says it, and `endCall` and `reenter` carry the invariant over a step of
the call from what the step does to the run itself.
-/

namespace CommercePlatform.Warehouse

open Lib

/-- Where a `publish_build` call of a run is: between which two of its steps. -/
inductive CallPhase where
  /-- `get_publish_run` found the row; the checkpoint comes next. -/
  | entered (id : RunId)
  /-- The checkpoint returned; the WAL check, the hashes and `file_identity` come next. -/
  | checkpointed (id : RunId)
  /-- `mark_publishing` comes next. -/
  | identified (id : RunId) (identity : FileIdentity)
  /-- `mark_publishing` returned; `os.replace` comes next. -/
  | marked (id : RunId) (identity : FileIdentity)
  /-- `os.replace` returned; the directory sync and `mark_published` come next. -/
  | swapped (id : RunId)
  /-- An exception; `build_path.exists()` comes next. -/
  | raised (id : RunId)
  /-- `_fail`: the build file is to be isolated. -/
  | failing (id : RunId)
  /-- `_fail`: `mark_failed` comes next. -/
  | isolated (id : RunId)
deriving DecidableEq

/-- The run of a call. -/
def CallPhase.run : CallPhase → RunId
  | .entered id | .checkpointed id | .identified id _ | .marked id _ | .swapped id | .raised id
  | .failing id | .isolated id => id

/-- The call is inside the `try` of `publish_build`. -/
def CallPhase.Trying : CallPhase → Prop
  | .raised _ | .failing _ | .isolated _ => False
  | _ => True

/-- The published file with the run whose build file it was, the build files, the
calls of `publish_build`, and what a recoverer found out before it closes a row. -/
structure Site where
  table : PublishState
  published : Option (RunId × FileIdentity)
  build : RunId → Option FileIdentity
  calls : Nat → Option CallPhase
  /-- The runs `publish_build` was called for. -/
  called : List RunId
  /-- The records a recoverer compared, with the status it is about to give them. -/
  decided : List (PublishRow × Bool)
  /-- The run that became `PUBLISHED` last. -/
  last : Option RunId

namespace Site

variable (s : Site)

/-- The status of a run. -/
def statusOf (id : RunId) : Option PublishStatus := (s.table.runs.get id).map PublishRow.status

/-- The file identity a run recorded. -/
def recordedOf (id : RunId) : Option FileIdentity :=
  (s.table.runs.get id).bind PublishRow.publishedIdentity

/-- The row of a run is `PUBLISHING`. -/
def Publishing (id : RunId) : Prop := s.statusOf id = some .publishing

/-- The row of a run is `BUILDING` or `PUBLISHING`. -/
def ActiveRun (id : RunId) : Prop := s.statusOf id = some .building ∨ s.Publishing id

/-- The published file is the build file of the run. -/
def Swapped (id : RunId) : Prop := ∃ identity, s.published = some (id, identity)

/-- No existing file but the build file of `id` has the inode. -/
def FreshInode (id : RunId) (inode : Nat) : Prop :=
  (∀ p ∈ s.published, p.2.inode ≠ inode) ∧
    ∀ id' f, id' ≠ id → s.build id' = some f → f.inode ≠ inode

/-- Put a build file. -/
def setBuild (id : RunId) (f : Option FileIdentity) : Site :=
  { s with build := Function.update s.build id f }

/-- Move a call to its next phase, or end it. -/
def setCall (process : Nat) (phase : Option CallPhase) : Site :=
  { s with calls := Function.update s.calls process phase }

/-- Put the table of publish runs. -/
def setTable (table : PublishState) : Site := { s with table := table }

end Site

/-- One step, by its name. -/
inductive SiteAction where
  | other (call : PublishCall)
  | writeBuild (id : RunId) (f : Option FileIdentity)
  | compare (record : PublishRow)
  | close (record : PublishRow) (published : Bool) (staleBefore now : Timestamp)
  | isolateFailed (id : RunId)
  | unlinkPublished (id : RunId)
  | enter (process : Nat) (id : RunId)
  | checkpoint (process : Nat) (f : FileIdentity) (returns : Bool)
  | identify (process : Nat)
  | mark (process : Nat) (martHashes : List (String × String))
      (martRowCounts : List (String × Nat)) (acknowledged : Bool)
  | replace (process : Nat)
  | finish (process : Nat) (now : Timestamp) (acknowledged : Bool)
  | raises (process : Nat)
  | inspect (process : Nat)
  | isolate (process : Nat)
  | markFailed (process : Nat) (errorType errorMessage : String) (failedPath : Option String)
      (now : Timestamp)
  | crash (process : Nat)

/-- The transactions outside `publish_build` and outside the loop of the recovery.
`mark_failed` there is the one of `prepare_warehouse_build` and `build_warehouse`,
which come before the first `publish_build` of their run. -/
def PublishCall.Outside (called : List RunId) : PublishCall → Prop
  | .markPublishing .. | .markPublished .. | .closeStaleRun .. | .replace .. => False
  | .markFailed id .. => id ∉ called
  | _ => True

/-- The steps: of a call of `publish_build`, of a recoverer, of the programs that write build
files, and every transaction of other steps. -/
inductive SiteStep : Site → SiteAction → Site → Prop where
  /-- A transaction of another step of the pipeline. -/
  | other {s : Site} (call : PublishCall) (h : call.Outside s.called) :
      SiteStep s (.other call) (s.setTable (call.apply s.table))
  /-- `prepare_warehouse_build` and `build_warehouse` write the build file, or isolate it. -/
  | writeBuild {s : Site} (id : RunId) (f : Option FileIdentity) (hcalled : id ∉ s.called)
      (hfresh : ∀ g ∈ f, s.FreshInode id g.inode) :
      SiteStep s (.writeBuild id f) (s.setBuild id f)
  /-- `recover_incomplete_publishes`: the status a stale record is to be given. -/
  | compare {s : Site} (record : PublishRow) (h : record ∈ s.table.stale) :
      SiteStep s (.compare record)
        { s with
          decided := (record, decide (record.status = .publishing) &&
            record.publishedIdentity.any fun identity =>
              s.published.any fun p => p.2 = identity) :: s.decided }
  /-- `close_stale_run`. -/
  | close {s : Site} (record : PublishRow) (published : Bool) (staleBefore now : Timestamp)
      (h : (record, published) ∈ s.decided) :
      SiteStep s (.close record published staleBefore now)
        { s with
          table := (PublishCall.closeStaleRun record published staleBefore now).apply s.table
          last :=
            if published ∧ (closeStaleRun record.publishRunId published staleBefore now
              s.table.runs).1 then some record.publishRunId else s.last }
  /-- `_clean_failed_recovery` of a run closed as `FAILED`. -/
  | isolateFailed {s : Site} (id : RunId)
      (h : s.statusOf id = some .failed) :
      SiteStep s (.isolateFailed id) (s.setBuild id none)
  /-- The recovery of a run closed as `PUBLISHED` removes its build file. -/
  | unlinkPublished {s : Site} (id : RunId)
      (h : s.statusOf id = some .published) :
      SiteStep s (.unlinkPublished id) (s.setBuild id none)
  /-- `publish_build` is called; an earlier call for the run has ended. -/
  | enter {s : Site} (process : Nat) (id : RunId) (hidle : s.calls process = none)
      (hrow : s.table.runs.get id ≠ none)
      (hended : ∀ p phase, s.calls p = some phase → phase.run ≠ id) :
      SiteStep s (.enter process id)
        { s.setCall process (some (.entered id)) with called := id :: s.called }
  /-- `checkpoint`: DuckDB writes the build file, and creates it when it is missing. -/
  | checkpoint {s : Site} (process : Nat) (id : RunId) (f : FileIdentity) (returns : Bool)
      (hphase : s.calls process = some (.entered id)) (hfresh : s.FreshInode id f.inode) :
      SiteStep s (.checkpoint process f returns)
        ((s.setBuild id (some f)).setCall process
          (some (if returns then .checkpointed id else .raised id)))
  /-- `file_identity`, after the WAL check and the hashes. -/
  | identify {s : Site} (process : Nat) (id : RunId) (f : FileIdentity)
      (hphase : s.calls process = some (.checkpointed id)) (hfile : s.build id = some f) :
      SiteStep s (.identify process) (s.setCall process (some (.identified id f)))
  /-- `mark_publishing` took effect; its answer may be lost. -/
  | mark {s : Site} (process : Nat) (id : RunId) (identity : FileIdentity)
      (martHashes : List (String × String)) (martRowCounts : List (String × Nat))
      (acknowledged : Bool) (runs : PublishRuns)
      (hphase : s.calls process = some (.identified id identity))
      (hmark : markPublishing id martHashes martRowCounts identity s.table.runs
        = (.ok (), runs)) :
      SiteStep s (.mark process martHashes martRowCounts acknowledged)
        ((s.setTable { s.table with
            runs := runs, passed := (process, id) :: s.table.passed }).setCall process
          (some (if acknowledged then .marked id identity else .raised id)))
  /-- `os.replace(build_path, paths.published)`. -/
  | replace {s : Site} (process : Nat) (id : RunId) (identity f : FileIdentity)
      (hphase : s.calls process = some (.marked id identity)) (hfile : s.build id = some f) :
      SiteStep s (.replace process)
        ({ s.setBuild id none with published := some (id, f) }.setCall process
          (some (.swapped id)))
  /-- `mark_published` took effect; its answer may be lost. -/
  | finish {s : Site} (process : Nat) (id : RunId) (now : Timestamp) (acknowledged : Bool)
      (runs : PublishRuns) (hphase : s.calls process = some (.swapped id))
      (hmark : markPublished id now s.table.runs = (.ok (), runs)) :
      SiteStep s (.finish process now acknowledged)
        ({ s.setTable { s.table with runs := runs } with last := some id }.setCall process
          (if acknowledged then none else some (.raised id)))
  /-- A step raises, or is refused. -/
  | raises {s : Site} (process : Nat) (phase : CallPhase)
      (hphase : s.calls process = some phase) (htrying : phase.Trying) :
      SiteStep s (.raises process) (s.setCall process (some (.raised phase.run)))
  /-- `if build_path.exists(): _fail(…)`. -/
  | inspect {s : Site} (process : Nat) (id : RunId)
      (hphase : s.calls process = some (.raised id)) :
      SiteStep s (.inspect process)
        (s.setCall process (if (s.build id).isSome then some (.failing id) else none))
  /-- `_isolate_build`. -/
  | isolate {s : Site} (process : Nat) (id : RunId)
      (hphase : s.calls process = some (.failing id)) :
      SiteStep s (.isolate process)
        ((s.setBuild id none).setCall process (some (.isolated id)))
  /-- `mark_failed`; what comes after it changes neither the record nor these files. -/
  | markFailed {s : Site} (process : Nat) (id : RunId) (errorType errorMessage : String)
      (failedPath : Option String) (now : Timestamp)
      (hphase : s.calls process = some (.isolated id)) :
      SiteStep s (.markFailed process errorType errorMessage failedPath now)
        ((s.setTable ((PublishCall.markFailed id errorType errorMessage failedPath now).apply
          s.table)).setCall process none)
  /-- The process dies, or raises inside the handler. -/
  | crash {s : Site} (process : Nat) : SiteStep s (.crash process) (s.setCall process none)

/-- The steps that keep the record and the file together: no checkpoint of a run that is already
swapped in, no replacement by a call whose row is no longer `PUBLISHING`, and no closing as
`FAILED` of a run that is swapped in. -/
def SiteAction.Calm : SiteAction → Site → Prop
  | .checkpoint process _ _, s =>
    ∀ id, s.calls process = some (.entered id) → s.Publishing id → ¬ s.Swapped id
  | .replace process, s =>
    ∀ id identity, s.calls process = some (.marked id identity) → s.Publishing id
  | .close record published _ _, s =>
    published = false → s.Publishing record.publishRunId → ¬ s.Swapped record.publishRunId
  | _, _ => True

/-- A step of the machine that is calm. -/
def CalmStep (s : Site) (a : SiteAction) (t : Site) : Prop := a.Calm s ∧ SiteStep s a t

/-- Nobody publishes and the record agrees with the file. -/
structure SiteStart (s : Site) : Prop where
  table : PublishStart s.table
  inactive : ∀ r ∈ s.table.runs.rows, ¬ r.Active
  idle : ∀ process, s.calls process = none
  undecided : s.decided = []
  inodes : ∀ id f, s.build id = some f → s.FreshInode id f.inode
  origin : ∀ id identity, s.published = some (id, identity) → s.last = some id ∧
    s.recordedOf id = some identity ∧ s.statusOf id = some .published
  unpublished : s.published = none → s.last = none
  unrecorded : s.last = none → ∀ id, s.statusOf id ≠ some .published

/-! ## The invariant -/

/-- What is known while a call stands at a phase: of its row, its build file and the identity it
has read. -/
def Site.PhaseOk (s : Site) : CallPhase → Prop
  | .entered _ => True
  | .checkpointed id => s.Publishing id → ¬ s.Swapped id
  | .identified id identity =>
    (s.Publishing id → ¬ s.Swapped id) ∧ (s.ActiveRun id → s.build id = some identity) ∧
      (s.ActiveRun id → ∀ p ∈ s.published, p.2 ≠ identity)
  | .marked id identity =>
    s.statusOf id ≠ some .building ∧
      (s.Publishing id → ¬ s.Swapped id ∧ s.build id = some identity ∧
        s.recordedOf id = some identity)
  | .swapped id => s.statusOf id ≠ some .building ∧ (s.Publishing id → s.Swapped id)
  | .raised _ => True
  | .failing id | .isolated id => s.Publishing id → ¬ s.Swapped id

/-- What every state of a calm run satisfies. `origin` is its core; the other fields carry it. -/
structure SiteInv (s : Site) : Prop where
  table : PublishInv s.table
  inodes : ∀ id f, s.build id = some f → s.FreshInode id f.inode
  origin : ∀ id identity, s.published = some (id, identity) → s.recordedOf id = some identity ∧
    (s.Publishing id ∨ (s.statusOf id = some .published ∧ s.last = some id))
  unpublished : s.published = none → s.last = none
  unrecorded : s.last = none → ∀ id, s.statusOf id ≠ some .published
  unswapped : ∀ id, s.Publishing id → ¬ s.Swapped id → ∀ p ∈ s.published,
    s.recordedOf id ≠ some p.2
  moved : ∀ id, s.Publishing id → s.Swapped id → s.build id = none
  publishingCalled : ∀ id, s.Publishing id → id ∈ s.called
  calling : ∀ process phase, s.calls process = some phase → phase.run ∈ s.called
  rowed : ∀ process phase, s.calls process = some phase → s.statusOf phase.run ≠ none
  exclusive : ∀ p q phase phase', s.calls p = some phase → s.calls q = some phase' →
    phase.run = phase'.run → p = q
  phases : ∀ process phase, s.calls process = some phase → s.PhaseOk phase
  records : ∀ record ∈ s.table.stale, record.status = .publishing →
    s.recordedOf record.publishRunId = record.publishedIdentity
  decidedStale : ∀ d ∈ s.decided, d.1 ∈ s.table.stale ∧ (d.2 = true → d.1.status = .publishing)
  decidedSwapped : ∀ d ∈ s.decided, d.2 = true → s.Publishing d.1.publishRunId →
    s.Swapped d.1.publishRunId

theorem SiteStart.inv {s : Site} (h : SiteStart s) : SiteInv s := by
  have hnone : ∀ id, ¬ s.Publishing id := by
    intro id hp
    unfold Site.Publishing Site.statusOf at hp
    obtain ⟨r, hr, hs⟩ := Option.map_eq_some_iff.1 hp
    -- most fields speak of `PUBLISHING` rows, calls or records, and there are none
    refine h.inactive r (Table.mem_of_get hr) ?_
    unfold PublishRow.Active
    rw [hs]
    decide
  refine
    { table := h.table.inv
      inodes := h.inodes
      origin := ?_
      unpublished := h.unpublished
      unrecorded := h.unrecorded
      unswapped := fun id hp => absurd hp (hnone id)
      moved := fun id hp => absurd hp (hnone id)
      publishingCalled := fun id hp => absurd hp (hnone id)
      calling := ?_
      rowed := ?_
      exclusive := ?_
      phases := ?_
      records := ?_
      decidedStale := ?_
      decidedSwapped := ?_ }
  · intro id identity hp
    obtain ⟨hlast, hrecorded, hs⟩ := h.origin id identity hp
    exact ⟨hrecorded, .inr ⟨hs, hlast⟩⟩
  · intro process phase hp
    rw [h.idle] at hp
    cases hp
  · intro process phase hp
    rw [h.idle] at hp
    cases hp
  · intro p q phase phase' hp
    rw [h.idle] at hp
    cases hp
  · intro process phase hp
    rw [h.idle] at hp
    cases hp
  · simp [h.table.unread]
  · simp [h.undecided]
  · simp [h.undecided]

namespace SiteInv

variable {s : Site}

/-- At most one run is active. -/
theorem active_unique (hi : SiteInv s) {id id' : RunId} (h : s.ActiveRun id)
    (h' : s.ActiveRun id') : id = id' := by
  have hrow : ∀ id, s.ActiveRun id → ∃ r ∈ s.table.runs.rows, r.Active ∧ r.publishRunId = id := by
    intro id h
    obtain ⟨r, hr, hs⟩ : ∃ r, s.table.runs.get id = some r ∧
        (r.status = .building ∨ r.status = .publishing) := by
      rcases h with h | h
      · obtain ⟨r, hr, hs⟩ := Option.map_eq_some_iff.1 h
        exact ⟨r, hr, .inl hs⟩
      · obtain ⟨r, hr, hs⟩ := Option.map_eq_some_iff.1 h
        exact ⟨r, hr, .inr hs⟩
    refine ⟨r, Table.mem_of_get hr, ?_, Table.key_of_get hr⟩
    simpa [PublishRow.Active, activeStatuses] using hs
  obtain ⟨r, hr, ha, rfl⟩ := hrow id h
  obtain ⟨r', hr', ha', rfl⟩ := hrow id' h'
  rw [hi.table.single r hr r' hr' ha ha']

/-- The run whose build file is published is not `BUILDING`. -/
theorem not_building_of_swapped (hi : SiteInv s) {id : RunId} (h : s.Swapped id) :
    s.statusOf id ≠ some .building := by
  obtain ⟨identity, hp⟩ := h
  rcases (hi.origin id identity hp).2 with hs | ⟨hs, -⟩
  · rw [show s.statusOf id = some .publishing from hs]
    decide
  · rw [hs]
    decide

/-- A phase says nothing about a run that is not active. -/
theorem phaseOk_of_inactive {phase : CallPhase} (h : ¬ s.ActiveRun phase.run) :
    s.PhaseOk phase := by
  have hp : ¬ s.Publishing phase.run := fun hp => h (.inr hp)
  have hb : s.statusOf phase.run ≠ some .building := fun hb => h (.inl hb)
  cases phase with
  | entered id => trivial
  | checkpointed id => exact fun h => absurd h hp
  | identified id identity =>
    exact ⟨fun h => absurd h hp, fun ha => absurd ha h, fun ha => absurd ha h⟩
  | marked id identity => exact ⟨hb, fun h => absurd h hp⟩
  | swapped id => exact ⟨hb, fun h => absurd h hp⟩
  | raised id => trivial
  | failing id => exact fun h => absurd h hp
  | isolated id => exact fun h => absurd h hp

/-- Moving one call. -/
theorem setCall (hi : SiteInv s) {process : Nat} {phase : Option CallPhase}
    (hnew : ∀ ph ∈ phase, s.PhaseOk ph ∧ ph.run ∈ s.called ∧ s.statusOf ph.run ≠ none ∧
      ∀ q ph', q ≠ process → s.calls q = some ph' → ph'.run ≠ ph.run) :
    SiteInv (s.setCall process phase) := by
  have hcases : ∀ p ph, (s.setCall process phase).calls p = some ph →
      (p = process ∧ phase = some ph) ∨ (p ≠ process ∧ s.calls p = some ph) := by
    intro p ph hp
    by_cases hpp : p = process
    · subst hpp
      left
      simpa [Site.setCall] using hp
    · right
      exact ⟨hpp, by simpa [Site.setCall, Function.update_of_ne hpp] using hp⟩
  -- the fields about calls: the moved one by `hnew`, the others as before
  refine { hi with calling := ?_, rowed := ?_, exclusive := ?_, phases := ?_ }
  · intro p ph hp
    rcases hcases p ph hp with ⟨-, hph⟩ | ⟨-, hold⟩
    · exact (hnew ph hph).2.1
    · exact hi.calling p ph hold
  · intro p ph hp
    rcases hcases p ph hp with ⟨-, hph⟩ | ⟨-, hold⟩
    · exact (hnew ph hph).2.2.1
    · exact hi.rowed p ph hold
  · intro p q ph ph' hp hq hrun
    rcases hcases p ph hp with ⟨rfl, hph⟩ | ⟨hne, hold⟩
    · rcases hcases q ph' hq with ⟨rfl, -⟩ | ⟨hne', hold'⟩
      · rfl
      · exact absurd hrun.symm ((hnew ph hph).2.2.2 q ph' hne' hold')
    · rcases hcases q ph' hq with ⟨rfl, hph'⟩ | ⟨hne', hold'⟩
      · exact absurd hrun ((hnew ph' hph').2.2.2 p ph hne hold)
      · exact hi.exclusive p q ph ph' hold hold' hrun
  · intro p ph hp
    rcases hcases p ph hp with ⟨-, hph⟩ | ⟨-, hold⟩
    · exact (hnew ph hph).1
    · exact hi.phases p ph hold

/-- Moving a call to a phase of the same run, or ending it. -/
theorem advance (hi : SiteInv s) {process : Nat} {old : CallPhase}
    (hold : s.calls process = some old) {phase : Option CallPhase}
    (hnew : ∀ ph ∈ phase, s.PhaseOk ph ∧ ph.run = old.run) :
    SiteInv (s.setCall process phase) := by
  refine hi.setCall fun ph hph => ?_
  obtain ⟨hok, hrun⟩ := hnew ph hph
  refine ⟨hok, ?_, ?_, ?_⟩
  · rw [hrun]
    exact hi.calling process old hold
  · rw [hrun]
    exact hi.rowed process old hold
  · intro q ph' hne hq he
    exact hne (hi.exclusive q process ph' old hq hold (he.trans hrun))

/-- Writing, creating or removing one build file. -/
theorem setBuild (hi : SiteInv s) {id : RunId} {f : Option FileIdentity}
    (hfresh : ∀ g ∈ f, s.FreshInode id g.inode)
    (hmoved : ∀ g ∈ f, s.Publishing id → ¬ s.Swapped id)
    (hphase : ∀ process phase, s.calls process = some phase → phase.run = id →
      (s.setBuild id f).PhaseOk phase) :
    SiteInv (s.setBuild id f) := by
  refine { hi with inodes := ?_, moved := ?_, phases := ?_ }
  -- no two files have one inode: the new file is fresh, the others were apart before
  · intro k g hg
    by_cases hk : k = id
    · subst hk
      have hnew : f = some g := by simpa [Site.setBuild] using hg
      refine ⟨(hfresh g hnew).1, fun k' g' hk' hg' => ?_⟩
      exact (hfresh g hnew).2 k' g' hk' (by simpa [Site.setBuild, Function.update_of_ne hk'] using hg')
    · have hold : s.build k = some g := by
        simpa [Site.setBuild, Function.update_of_ne hk] using hg
      refine ⟨(hi.inodes k g hold).1, fun k' g' hk' hg' => ?_⟩
      by_cases hid : k' = id
      · subst hid
        have hnew : f = some g' := by simpa [Site.setBuild] using hg'
        exact fun he => (hfresh g' hnew).2 k g hk hold he.symm
      · exact (hi.inodes k g hold).2 k' g' hk'
          (by simpa [Site.setBuild, Function.update_of_ne hid] using hg')
  -- a run swapped in has no build file, and none is written for it
  · intro k hp hs
    by_cases hk : k = id
    · subst hk
      show Function.update s.build k f k = none
      rw [Function.update_self]
      cases hf : f with
      | none => rfl
      | some g => exact absurd hs (hmoved g hf hp)
    · show Function.update s.build id f k = none
      rw [Function.update_of_ne hk]
      exact hi.moved k hp hs
  · intro process phase hp
    by_cases hrun : phase.run = id
    · exact hphase process phase hp hrun
    -- a call of another run has its own build file
    · have hok := hi.phases process phase hp
      have hbuild : (s.setBuild id f).build phase.run = s.build phase.run :=
        Function.update_of_ne hrun ..
      cases phase with
      | identified k identity => exact ⟨hok.1, fun ha => hbuild.trans (hok.2.1 ha), hok.2.2⟩
      | marked k identity =>
        exact ⟨hok.1, fun hpub => ⟨(hok.2 hpub).1, hbuild.trans (hok.2 hpub).2.1,
          (hok.2 hpub).2.2⟩⟩
      | _ => exact hok

/-- What a transaction other than `mark_publishing` does to a row. -/
inductive RowForeign (s t : Site) (id : RunId) : Prop where
  | kept (hs : t.statusOf id = s.statusOf id) (hr : t.recordedOf id = s.recordedOf id)
  | ended (ha : s.ActiveRun id) (hr : t.recordedOf id = s.recordedOf id)
      (hs : (s.Publishing id ∧ t.statusOf id = some .published) ∨ t.statusOf id = some .failed)
  | started (hs : s.statusOf id = none) (ht : t.statusOf id = some .building)

end SiteInv

theorem Site.statusOf_of_get {s : Site} {id : RunId} {r : PublishRow}
    (h : s.table.runs.get id = some r) : s.statusOf id = some r.status := by
  unfold Site.statusOf
  rw [h]
  rfl

theorem Site.recordedOf_of_get {s : Site} {id : RunId} {r : PublishRow}
    (h : s.table.runs.get id = some r) : s.recordedOf id = r.publishedIdentity := by
  unfold Site.recordedOf
  rw [h]
  rfl

theorem Site.activeRun_of_get {s : Site} {id : RunId} {r : PublishRow}
    (h : s.table.runs.get id = some r) (ha : r.Active) : s.ActiveRun id := by
  have hs : r.status = .building ∨ r.status = .publishing := by
    simpa [PublishRow.Active, activeStatuses] using ha
  unfold Site.ActiveRun Site.Publishing
  rw [Site.statusOf_of_get h]
  exact hs.imp (congrArg some) (congrArg some)

/-- Every row under a call that is not `mark_publishing`. -/
theorem rowForeign_of_rowsStep {s t : Site}
    (hrows : RowsStep False s.table.runs t.table.runs)
    (hnew : ∀ id, s.table.runs.get id = none → t.table.runs.get id = none ∨
      t.statusOf id = some .building) (id : RunId) : SiteInv.RowForeign s t id := by
  cases hr : s.table.runs.get id with
  | none =>
    have hs : s.statusOf id = none := by
      unfold Site.statusOf
      rw [hr]
      rfl
    -- a row that is not there is added as `BUILDING`, or still missing
    rcases hnew id hr with hn | hb
    · refine .kept ?_ ?_
      · rw [hs]
        unfold Site.statusOf
        rw [hn]
        rfl
      · unfold Site.recordedOf
        rw [hn, hr]
    · exact .started hs hb
  | some r =>
    obtain ⟨r', hr', hstep⟩ := hrows id r hr
    cases hstep with
    | kept h =>
      refine .kept ?_ ?_
      · rw [Site.statusOf_of_get hr', Site.statusOf_of_get hr, h.1]
      · rw [Site.recordedOf_of_get hr', Site.recordedOf_of_get hr, h.2.2.2]
    | marked h _ _ => exact h.elim
    | ended ha hmoves hend hidentity =>
      refine .ended (Site.activeRun_of_get hr ha) ?_ ?_
      · rw [Site.recordedOf_of_get hr', Site.recordedOf_of_get hr, hidentity]
      · unfold Site.Publishing
        rw [Site.statusOf_of_get hr', Site.statusOf_of_get hr]
        -- of the moves of an active row two do not end it
        rcases hmoves with hs | ⟨-, hs⟩ | ⟨hs, hs'⟩ | ⟨-, hs⟩
        · unfold PublishRow.Active at ha hend
          rw [hs] at hend
          exact absurd ha hend
        · refine absurd ?_ hend
          unfold PublishRow.Active
          rw [hs]
          decide
        · exact .inl ⟨by rw [hs], by rw [hs']⟩
        · exact .inr (by rw [hs])

/-- One metadata transaction of a site that marks no row: only the table and the run that came
last change, no run that is swapped in becomes `FAILED`, what becomes `PUBLISHED` is swapped
in and comes last, and the records read stay. -/
structure TableMove (s t : Site) : Prop where
  published : t.published = s.published
  build : t.build = s.build
  calls : t.calls = s.calls
  called : t.called = s.called
  decided : t.decided = s.decided
  table : PublishInv t.table
  rows : ∀ id, SiteInv.RowForeign s t id
  failed : ∀ id, s.Publishing id → t.statusOf id = some .failed → ¬ s.Swapped id
  last : t.last = s.last ∨ ∃ id, t.last = some id ∧ s.Publishing id ∧ s.Swapped id
  finished : ∀ id, s.Publishing id → t.statusOf id = some .published → t.last = some id
  stale : ∀ record ∈ t.table.stale, record ∈ s.table.stale ∨
    s.table.runs.get record.publishRunId = some record
  keep : ∀ record ∈ s.table.stale, record ∈ t.table.stale

namespace SiteInv.RowForeign

variable {s t : Site} {id : RunId}

/-- A status the transaction does not give is the status of before. -/
theorem statusOf_back (h : RowForeign s t id) {status : PublishStatus}
    (hrow : s.statusOf id ≠ none ∨ status ≠ .building) (hpublished : status ≠ .published)
    (hfailed : status ≠ .failed) (hs : t.statusOf id = some status) :
    s.statusOf id = some status ∧ t.recordedOf id = s.recordedOf id := by
  cases h with
  | kept hk hr => exact ⟨hk.symm.trans hs, hr⟩
  | ended _ _ hend =>
    rcases hend with ⟨-, hend⟩ | hend
    · exact absurd (Option.some.inj (hs.symm.trans hend)) hpublished
    · exact absurd (Option.some.inj (hs.symm.trans hend)) hfailed
  | started hnone hb =>
    rcases hrow with hrow | hrow
    · exact absurd hnone hrow
    · exact absurd (Option.some.inj (hs.symm.trans hb)) hrow

/-- A row stays, and so does the identity it records. -/
theorem row_kept (h : RowForeign s t id) (hrow : s.statusOf id ≠ none) :
    t.statusOf id ≠ none ∧ t.recordedOf id = s.recordedOf id := by
  cases h with
  | kept hk hr => exact ⟨fun hnone => hrow (hk.symm.trans hnone), hr⟩
  | ended _ hr hend =>
    refine ⟨fun hnone => ?_, hr⟩
    rcases hend with ⟨-, hend⟩ | hend
    · rw [hend] at hnone
      cases hnone
    · rw [hend] at hnone
      cases hnone
  | started hnone _ => exact absurd hnone hrow

end SiteInv.RowForeign

namespace TableMove

variable {s t : Site}

theorem swapped_iff (h : TableMove s t) (id : RunId) : t.Swapped id ↔ s.Swapped id := by
  unfold Site.Swapped
  rw [h.published]

/-- No row becomes `PUBLISHING`. -/
theorem publishing_back (h : TableMove s t) {id : RunId} (hp : t.Publishing id) :
    s.Publishing id ∧ t.recordedOf id = s.recordedOf id :=
  (h.rows id).statusOf_back (.inr (by decide)) (by decide) (by decide) hp

/-- No row that is there becomes `BUILDING`. -/
theorem building_back (h : TableMove s t) {id : RunId} (hrow : s.statusOf id ≠ none)
    (hb : t.statusOf id = some .building) : s.statusOf id = some .building :=
  ((h.rows id).statusOf_back (.inl hrow) (by decide) (by decide) hb).1

theorem active_back (h : TableMove s t) {id : RunId} (hrow : s.statusOf id ≠ none)
    (ha : t.ActiveRun id) : s.ActiveRun id :=
  ha.imp (h.building_back hrow) (fun hp => (h.publishing_back hp).1)

/-- The published file is still the one of a `PUBLISHING` run or of the last run. -/
theorem origin (h : TableMove s t) (hi : SiteInv s) {id : RunId} {identity : FileIdentity}
    (hp : t.published = some (id, identity)) :
    t.recordedOf id = some identity ∧
      (t.Publishing id ∨ t.statusOf id = some .published ∧ t.last = some id) := by
  rw [h.published] at hp
  obtain ⟨hrecorded, hs⟩ := hi.origin id identity hp
  -- the run whose file is published has a row
  have hrow : s.statusOf id ≠ none := by
    rcases hs with hs | ⟨hs, -⟩
    · rw [show s.statusOf id = some .publishing from hs]
      exact Option.some_ne_none _
    · rw [hs]
      exact Option.some_ne_none _
  refine ⟨((h.rows id).row_kept hrow).2.trans hrecorded, ?_⟩
  cases h.rows id with
  | kept hk _ =>
    rcases hs with hs | ⟨hs, hl⟩
    · exact .inl (hk.trans hs)
    · refine .inr ⟨hk.trans hs, ?_⟩
      rcases h.last with hsame | ⟨id', -, hp', identity', hswap'⟩
      · exact hsame.trans hl
      · -- what comes last is swapped in, so it is this run, which is not `PUBLISHING`
        rw [hp] at hswap'
        cases hswap'
        cases hs.symm.trans hp'
  | ended ha _ hend =>
    rcases hend with ⟨hpubl, hend⟩ | hend
    · exact .inr ⟨hend, h.finished id hpubl hend⟩
    · -- a run swapped in does not fail, and one that ended is not active
      rcases hs with hs | ⟨hs, -⟩
      · exact absurd ⟨identity, hp⟩ (h.failed id hs hend)
      · rcases ha with ha | ha
        · cases hs.symm.trans ha
        · cases hs.symm.trans ha
  | started hnone _ => exact absurd hnone hrow

theorem unpublished (h : TableMove s t) (hi : SiteInv s) (hp : t.published = none) :
    t.last = none := by
  rw [h.published] at hp
  rcases h.last with hsame | ⟨id, -, -, identity, hswap⟩
  · exact hsame.trans (hi.unpublished hp)
  · rw [hp] at hswap
    cases hswap

/-- With no last run, no row is `PUBLISHED`. -/
theorem unrecorded (h : TableMove s t) (hi : SiteInv s) (hnone : t.last = none) (id : RunId) :
    t.statusOf id ≠ some .published := by
  intro hs
  have hlast : s.last = none := by
    rcases h.last with hsame | ⟨id', hsome, -⟩
    · exact hsame.symm.trans hnone
    · cases hnone.symm.trans hsome
  cases h.rows id with
  | kept hk _ => exact hi.unrecorded hlast id (hk.symm.trans hs)
  | ended _ _ hend =>
    rcases hend with ⟨hp, hpubl⟩ | hend
    · cases hnone.symm.trans (h.finished id hp hpubl)
    · cases hs.symm.trans hend
  | started _ hb => cases hs.symm.trans hb

/-- What a phase says of its run: the run is not activated and the disk does not move. -/
theorem phaseOk (h : TableMove s t) {phase : CallPhase} (hrow : s.statusOf phase.run ≠ none)
    (hok : s.PhaseOk phase) : t.PhaseOk phase := by
  -- a run that is publishing after the move was so before it, and no move swaps a file
  have hcalm : ∀ id, (s.Publishing id → ¬ s.Swapped id) → t.Publishing id → ¬ t.Swapped id :=
    fun id hok hp hs => hok (h.publishing_back hp).1 ((h.swapped_iff id).1 hs)
  cases phase with
  | entered id => trivial
  | checkpointed id => exact hcalm id hok
  | identified id identity =>
    obtain ⟨hns, hfile, hpublished⟩ := hok
    refine ⟨hcalm id hns, fun ha => ?_, fun ha => ?_⟩
    · rw [h.build]
      exact hfile (h.active_back hrow ha)
    · rw [h.published]
      exact hpublished (h.active_back hrow ha)
  | marked id identity =>
    refine ⟨fun hb => hok.1 (h.building_back hrow hb), fun hp => ?_⟩
    obtain ⟨hps, hr⟩ := h.publishing_back hp
    obtain ⟨hns, hfile, hrecorded⟩ := hok.2 hps
    refine ⟨fun hs => hns ((h.swapped_iff id).1 hs), ?_, hr.trans hrecorded⟩
    rw [h.build]
    exact hfile
  | swapped id =>
    exact ⟨fun hb => hok.1 (h.building_back hrow hb),
      fun hp => (h.swapped_iff id).2 (hok.2 (h.publishing_back hp).1)⟩
  | raised id => trivial
  | failing id => exact hcalm id hok
  | isolated id => exact hcalm id hok

/-- A record read as `PUBLISHING` still shows the identity of its row. -/
theorem records (h : TableMove s t) (hi : SiteInv s) {record : PublishRow}
    (hmem : record ∈ t.table.stale) (hs : record.status = .publishing) :
    t.recordedOf record.publishRunId = record.publishedIdentity := by
  rcases h.stale record hmem with hold | hget
  · obtain ⟨r, hr, -⟩ := hi.table.readPublishing record hold hs
    have hrow : s.statusOf record.publishRunId ≠ none := by
      rw [Site.statusOf_of_get hr]
      exact Option.some_ne_none _
    exact ((h.rows _).row_kept hrow).2.trans (hi.records record hold hs)
  · -- the record is the row itself
    have hrow : s.statusOf record.publishRunId ≠ none := by
      rw [Site.statusOf_of_get hget]
      exact Option.some_ne_none _
    exact ((h.rows _).row_kept hrow).2.trans (Site.recordedOf_of_get hget)

/-- The invariant under a transaction that marks no row. -/
theorem inv (h : TableMove s t) (hi : SiteInv s) : SiteInv t where
  -- what the transaction changes goes through the lemmas above, the rest by rewriting
  table := h.table
  inodes id f hf := by
    unfold Site.FreshInode
    rw [h.published, h.build]
    rw [h.build] at hf
    exact hi.inodes id f hf
  origin _ _ := h.origin hi
  unpublished := h.unpublished hi
  unrecorded := h.unrecorded hi
  unswapped id hp hns p hmem := by
    obtain ⟨hps, hr⟩ := h.publishing_back hp
    rw [hr]
    rw [h.published] at hmem
    exact hi.unswapped id hps (fun hs => hns ((h.swapped_iff id).2 hs)) p hmem
  moved id hp hs := by
    rw [h.build]
    exact hi.moved id (h.publishing_back hp).1 ((h.swapped_iff id).1 hs)
  publishingCalled id hp := by
    rw [h.called]
    exact hi.publishingCalled id (h.publishing_back hp).1
  calling := by
    rw [h.calls, h.called]
    exact hi.calling
  rowed process phase hp := by
    rw [h.calls] at hp
    exact ((h.rows _).row_kept (hi.rowed process phase hp)).1
  exclusive := by
    rw [h.calls]
    exact hi.exclusive
  phases process phase hp := by
    rw [h.calls] at hp
    exact h.phaseOk (hi.rowed process phase hp) (hi.phases process phase hp)
  records _ hmem hs := h.records hi hmem hs
  decidedStale d hd := by
    rw [h.decided] at hd
    exact ⟨h.keep d.1 (hi.decidedStale d hd).1, (hi.decidedStale d hd).2⟩
  decidedSwapped d hd htrue hp := by
    rw [h.decided] at hd
    exact (h.swapped_iff _).2 (hi.decidedSwapped d hd htrue (h.publishing_back hp).1)

end TableMove

namespace SiteInv

variable {s : Site}

/-- A transaction that marks no row: it fails no run that is swapped in, and what
it finishes is swapped in and comes last. -/
theorem setTable (hi : SiteInv s) {table : PublishState} {last : Option RunId}
    (htable : PublishInv table)
    (hrows : ∀ id, RowForeign s { s with table := table, last := last } id)
    (hfailed : ∀ id, s.Publishing id →
      Site.statusOf { s with table := table, last := last } id = some .failed → ¬ s.Swapped id)
    (hlast : last = s.last ∨ ∃ id, last = some id ∧ s.Publishing id ∧ s.Swapped id)
    (hpublished : ∀ id, s.Publishing id →
      Site.statusOf { s with table := table, last := last } id = some .published →
        last = some id)
    (hstale : ∀ record ∈ table.stale, record ∈ s.table.stale ∨
      s.table.runs.get record.publishRunId = some record)
    (hkeep : ∀ record ∈ s.table.stale, record ∈ table.stale) :
    SiteInv { s with table := table, last := last } := by
  have hmove : TableMove s { s with table := table, last := last } :=
    ⟨rfl, rfl, rfl, rfl, rfl, htable, hrows, hfailed, hlast, hpublished, hstale, hkeep⟩
  exact hmove.inv hi

/-- `mark_publishing` of a run no other call works on. -/
theorem markRow (hi : SiteInv s) {id : RunId} {identity : FileIdentity} {table : PublishState}
    (htable : PublishInv table) (hstale : table.stale = s.table.stale)
    (hbuilding : s.statusOf id = some .building) (hcalled : id ∈ s.called)
    (hother : ∀ k, k ≠ id → table.runs.get k = s.table.runs.get k)
    (hstatus : (s.setTable table).statusOf id = some .publishing)
    (hrecorded : (s.setTable table).recordedOf id = some identity)
    (hcalls : ∀ p phase, s.calls p = some phase → phase.run ≠ id)
    (hpublished : ∀ p ∈ s.published, p.2 ≠ identity) : SiteInv (s.setTable table) := by
  have hsame : ∀ k, k ≠ id → (s.setTable table).statusOf k = s.statusOf k := by
    intro k hk
    show (table.runs.get k).map _ = (s.table.runs.get k).map _
    rw [hother k hk]
  have hsameRecord : ∀ k, k ≠ id → (s.setTable table).recordedOf k = s.recordedOf k := by
    intro k hk
    show (table.runs.get k).bind _ = (s.table.runs.get k).bind _
    rw [hother k hk]
  -- no other run is active
  have hinactive : ∀ k, k ≠ id → ¬ (s.setTable table).ActiveRun k := by
    intro k hk ha
    unfold Site.ActiveRun Site.Publishing at ha
    rw [hsame k hk] at ha
    exact hk (hi.active_unique ha (.inl hbuilding))
  refine
    { hi with
      table := htable
      origin := ?_
      unrecorded := ?_
      unswapped := ?_
      moved := ?_
      publishingCalled := ?_
      rowed := ?_
      phases := ?_
      records := ?_
      decidedStale := ?_
      decidedSwapped := ?_ }
  · intro k J hp
    have hne : k ≠ id := fun he => hi.not_building_of_swapped ⟨J, hp⟩ (by rw [he, hbuilding])
    unfold Site.Publishing
    rw [hsame k hne, hsameRecord k hne]
    exact hi.origin k J hp
  · intro hnone k hs
    by_cases hk : k = id
    · rw [hk, hstatus] at hs
      cases hs
    · exact hi.unrecorded hnone k ((hsame k hk).symm.trans hs)
  · intro k hp hns p hmem
    by_cases hk : k = id
    · subst hk
      rw [hrecorded]
      exact fun he => hpublished p hmem (Option.some.inj he).symm
    · exact absurd (.inr hp) (hinactive k hk)
  · intro k hp hs
    by_cases hk : k = id
    · subst hk
      exact absurd hbuilding (hi.not_building_of_swapped hs)
    · exact absurd (.inr hp) (hinactive k hk)
  · intro k hp
    by_cases hk : k = id
    · rw [hk]
      exact hcalled
    · exact absurd (.inr hp) (hinactive k hk)
  · intro p phase hp
    rw [hsame _ (hcalls p phase hp)]
    exact hi.rowed p phase hp
  · intro p phase hp
    exact phaseOk_of_inactive (hinactive _ (hcalls p phase hp))
  · intro record hmem hs
    have hmem : record ∈ s.table.stale := by
      rw [← hstale]
      exact hmem
    obtain ⟨r, hr, hnot⟩ := hi.table.readPublishing record hmem hs
    have hne : record.publishRunId ≠ id := by
      intro he
      rw [← he, Site.statusOf_of_get hr] at hbuilding
      exact hnot (Option.some.inj hbuilding)
    rw [hsameRecord _ hne]
    exact hi.records record hmem hs
  · intro d hd
    refine ⟨?_, (hi.decidedStale d hd).2⟩
    show d.1 ∈ table.stale
    rw [hstale]
    exact (hi.decidedStale d hd).1
  · intro d hd htrue hp
    by_cases hk : d.1.publishRunId = id
    · obtain ⟨hmem, hs⟩ := hi.decidedStale d hd
      obtain ⟨r, hr, hnot⟩ := hi.table.readPublishing d.1 hmem (hs htrue)
      rw [← hk, Site.statusOf_of_get hr] at hbuilding
      exact absurd (Option.some.inj hbuilding) hnot
    · exact absurd (.inr hp) (hinactive _ hk)

/-- `os.replace` of the `PUBLISHING` run, which no other call works on. -/
theorem swap (hi : SiteInv s) {id : RunId} {f : FileIdentity} (hp : s.Publishing id)
    (hrecorded : s.recordedOf id = some f) (hfile : s.build id = some f)
    (hcalls : ∀ p phase, s.calls p = some phase → phase.run ≠ id) :
    SiteInv { s.setBuild id none with published := some (id, f) } := by
  -- one run is active at a time, and it is this one
  have hinactive : ∀ k, k ≠ id → ¬ s.ActiveRun k :=
    fun k hk ha => hk (hi.active_unique ha (.inr hp))
  have hbuild : ∀ k g, (s.setBuild id none).build k = some g → k ≠ id ∧ s.build k = some g := by
    intro k g hg
    by_cases hk : k = id
    · subst hk
      simp [Site.setBuild] at hg
    · exact ⟨hk, by simpa [Site.setBuild, Function.update_of_ne hk] using hg⟩
  refine
    { hi with
      inodes := ?_
      origin := ?_
      unpublished := ?_
      unswapped := ?_
      moved := ?_
      phases := ?_
      decidedSwapped := ?_ }
  · intro k g hg
    obtain ⟨hk, hg⟩ := hbuild k g hg
    refine ⟨?_, fun k' g' hk' hg' => (hi.inodes k g hg).2 k' g' hk' (hbuild k' g' hg').2⟩
    intro p hmem
    obtain rfl : (id, f) = p := Option.some.inj hmem
    -- the published file has now the inode of the build file, which no other file had
    exact (hi.inodes k g hg).2 id f (fun he => hk he.symm) hfile
  · intro k J hswap
    obtain ⟨rfl, rfl⟩ : id = k ∧ f = J := Prod.mk.inj (Option.some.inj hswap)
    exact ⟨hrecorded, .inl hp⟩
  · intro hnone
    cases hnone
  · intro k hk hns
    obtain rfl : k = id := hi.active_unique (.inr hk) (.inr hp)
    exact absurd ⟨f, rfl⟩ hns
  · intro k hk _
    obtain rfl : k = id := hi.active_unique (.inr hk) (.inr hp)
    show Function.update s.build k none k = none
    rw [Function.update_self]
  · intro p phase hcall
    -- the other calls stand at runs that are not active, of which a phase says nothing
    exact phaseOk_of_inactive (hinactive _ (hcalls p phase hcall))
  · intro d hd htrue hk
    obtain rfl : d.1.publishRunId = id := hi.active_unique (.inr hk) (.inr hp)
    exact ⟨f, rfl⟩

end SiteInv

/-! ## The steps -/

theorem PublishCall.Outside.allowed {called : List RunId} {call : PublishCall}
    (h : call.Outside called) (s : PublishState) : call.Allowed s := by
  cases call with
  | closeStaleRun _ _ _ _ => exact h.elim
  | replace _ _ => exact h.elim
  | _ => trivial

theorem PublishCall.Outside.not_marks {called : List RunId} {call : PublishCall}
    (h : call.Outside called) : ¬ call.Marks := by
  cases call with
  | markPublishing _ _ _ _ _ => exact h.elim
  | _ => exact id

/-- Only `start_publish_run` adds a row, and it is `BUILDING`. -/
theorem statusOf_apply_none {s : Site} (call : PublishCall) {last : Option RunId} (id : RunId)
    (h : s.table.runs.get id = none) :
    (call.apply s.table).runs.get id = none ∨
      Site.statusOf { s with table := call.apply s.table, last := last } id = some .building := by
  rcases apply_get_none call h with hnone | ⟨-, run, now, rfl, rfl⟩
  · exact .inl hnone
  · unfold Site.statusOf PublishCall.apply
    dsimp only
    split
    next runs heq =>
      obtain ⟨previous, hget⟩ := get_startPublishRun heq run.publishRunId
      rw [hget, if_pos rfl]
      exact .inr rfl
    · exact .inl h

/-- The rows under a call that is not `mark_publishing`. -/
theorem rowForeign_apply {s : Site} (hi : SiteInv s) {call : PublishCall}
    (hallowed : call.Allowed s.table) (hmarks : ¬ call.Marks) (last : Option RunId) (id : RunId) :
    SiteInv.RowForeign s { s with table := call.apply s.table, last := last } id := by
  have hrows := apply_rowsStep hi.table hallowed
  rw [eq_false hmarks] at hrows
  exact rowForeign_of_rowsStep hrows (fun id hnone => statusOf_apply_none call id hnone) id

/-- A `PUBLISHING` row under the transactions of other steps. -/
theorem publishing_apply {s : Site} {call : PublishCall} (h : call.Outside s.called) {id : RunId}
    (hp : s.Publishing id) (hcalled : id ∈ s.called) (last : Option RunId) :
    Site.statusOf { s with table := call.apply s.table, last := last } id
      = some .publishing := by
  obtain ⟨r, hr, hs⟩ := Option.map_eq_some_iff.1 hp
  -- a transition from other statuses leaves the row
  have hleft : ∀ {k : RunId} {expected : List PublishStatus} {f : PublishRow → PublishRow}
      {hf : ∀ r, (f r).publishRunId = r.publishRunId}, PublishStatus.publishing ∉ expected ∨ id ≠ k →
      (transition k expected f hf s.table.runs).2.get id = some r := by
    intro k expected f hf hne
    have hget : (transition k expected f hf s.table.runs).2.get id = _ := get_transition
    rw [hget, hr]
    rcases hne with hne | hne
    · rw [← hs] at hne
      simp [hne]
    · simp [hne]
  suffices hkeep : ∃ r', (call.apply s.table).runs.get id = some r' ∧ r'.status = .publishing by
    obtain ⟨r', hr', hs'⟩ := hkeep
    show ((call.apply s.table).runs.get id).map PublishRow.status = _
    rw [hr', Option.map_some, hs']
  cases call with
  | startPublishRun run now =>
    unfold PublishCall.apply
    dsimp only
    split
    next runs heq =>
      obtain ⟨previous, hget⟩ := get_startPublishRun heq id
      have hne : id ≠ run.publishRunId := by
        rintro rfl
        rw [(startPublishRun_eq_ok heq).1] at hr
        cases hr
      exact ⟨r, by rw [hget, if_neg hne, hr], hs⟩
    · exact ⟨r, hr, hs⟩
  | recordDbtResult k invocationId passed failed => exact ⟨r, hleft (.inl (by decide)), hs⟩
  | markPublishing _ _ _ _ _ => exact h.elim
  | markPublished _ _ => exact h.elim
  | markFailed k errorType message path now =>
    exact ⟨r, hleft (.inr fun he => h (he ▸ hcalled)), hs⟩
  | touchPublishRun k now =>
    obtain ⟨beat, hget⟩ := get_touchPublishRun hr
    exact ⟨_, hget, hs⟩
  | recordFailedPath k path => exact ⟨r, hleft (.inl (by decide)), hs⟩
  | staleActiveRuns staleBefore => exact ⟨r, hr, hs⟩
  | closeStaleRun _ _ _ _ => exact h.elim
  | closeDagRunBuilding pipelineName dagRunId now =>
    refine ⟨_, get_closeAll hr, ?_⟩
    split
    next hk =>
      obtain ⟨r', hr', hid⟩ := List.mem_map.1 hk
      obtain ⟨hmem, hof⟩ := List.mem_filter.1 hr'
      have hget : s.table.runs.get id = some r' := Table.get_eq_some.2 ⟨hmem, hid⟩
      obtain rfl : r = r' := Option.some.inj (hr.symm.trans hget)
      rw [(of_decide_eq_true hof : r.OfDagRun pipelineName dagRunId).1] at hs
      cases hs
    · exact hs
  | replace _ _ => exact h.elim

/-- A call that removes its build file, which is not the published file. -/
theorem SiteInv.removeBuild {s : Site} (hi : SiteInv s) {id : RunId}
    (hphase : ∀ process phase, s.calls process = some phase → phase.run = id →
      (s.setBuild id none).PhaseOk phase) : SiteInv (s.setBuild id none) := by
  refine hi.setBuild ?_ ?_ hphase
  · intro g hg
    cases hg
  · intro g hg
    cases hg

/-- `close_stale_run` returns `True` for an abandoned row. -/
theorem closeStaleRun_eq_true {id : RunId} {published : Bool} {staleBefore now : Timestamp}
    {runs : PublishRuns} (h : (closeStaleRun id published staleBefore now runs).1 = true) :
    ∃ r, runs.get id = some r ∧ r.Stale staleBefore := by
  unfold closeStaleRun updateWhere at h
  cases hr : runs.get id with
  | none => simp [hr] at h
  | some r =>
    by_cases hc : r.Stale staleBefore
    · exact ⟨r, rfl, hc⟩
    · simp [hr, hc] at h

/-- A row `close_stale_run` changes is the row of its record, which it closes. -/
theorem statusOf_closeStaleRun {s : Site} {record : PublishRow} {published : Bool}
    {staleBefore now : Timestamp} (last : Option RunId) {id : RunId} {status : PublishStatus}
    (h : s.statusOf id = some status) (hne : Site.statusOf
      { s with
        table := (PublishCall.closeStaleRun record published staleBefore now).apply s.table
        last := last } id ≠ some status) :
    id = record.publishRunId ∧
      (closeStaleRun record.publishRunId published staleBefore now s.table.runs).1 = true ∧
      Site.statusOf
        { s with
          table := (PublishCall.closeStaleRun record published staleBefore now).apply s.table
          last := last } id = some (if published then .published else .failed) := by
  obtain ⟨r, hr, hs⟩ := Option.map_eq_some_iff.1 h
  have hget : (closeStaleRun record.publishRunId published staleBefore now s.table.runs).2.get id
      = _ := get_updateWhere
  rw [hr, Option.map_some] at hget
  unfold Site.statusOf PublishCall.apply at hne ⊢
  dsimp only at hne ⊢
  rw [hget] at hne ⊢
  -- only the row of the record changes, and only while it is stale
  by_cases hk : id = record.publishRunId
  · by_cases hc : r.Stale staleBefore
    · refine ⟨hk, ?_, by simp [hk, hc, PublishRow.toClosed]⟩
      unfold closeStaleRun updateWhere
      rw [← hk, hr]
      simp [hc]
    · exact absurd (by simp [hc, hs]) hne
  · exact absurd (by simp [hk, hs]) hne

/-- `close_stale_run` of a record a recoverer decided about, not as `FAILED` where the
row is `PUBLISHING` and swapped in. -/
theorem SiteInv.close {s : Site} (hi : SiteInv s) {record : PublishRow} {published : Bool}
    (staleBefore now : Timestamp) (hdecided : (record, published) ∈ s.decided)
    (hcalm : published = false → s.Publishing record.publishRunId →
      ¬ s.Swapped record.publishRunId) :
    SiteInv { s with
      table := (PublishCall.closeStaleRun record published staleBefore now).apply s.table
      last :=
        if published ∧ (closeStaleRun record.publishRunId published staleBefore now
          s.table.runs).1 then some record.publishRunId else s.last } := by
  obtain ⟨hstale, hread⟩ := hi.decidedStale _ hdecided
  have hallowed : (PublishCall.closeStaleRun record published staleBefore now).Allowed s.table :=
    ⟨hstale, hread⟩
  refine hi.setTable (hi.table.step ⟨hallowed, rfl⟩)
    (rowForeign_apply hi hallowed (fun h => h) _) ?_ ?_ ?_ (fun _ => stale_apply _)
    (stale_subset _ _)
  · intro id hp hfailed
    obtain ⟨rfl, -, hs⟩ := statusOf_closeStaleRun _ hp (by rw [hfailed]; decide)
    rw [hfailed] at hs
    cases published with
    | false => exact hcalm rfl hp
    | true => cases hs
  · by_cases hc : published = true ∧
        (closeStaleRun record.publishRunId published staleBefore now s.table.runs).1 = true
    · right
      rw [if_pos hc]
      obtain ⟨rfl, htrue⟩ := hc
      -- read as `PUBLISHING` and active still
      obtain ⟨r, hr, hactive, -⟩ := closeStaleRun_eq_true htrue
      obtain ⟨r', hr', hnot⟩ := hi.table.readPublishing record hstale (hread rfl)
      obtain rfl : r = r' := Option.some.inj (hr.symm.trans hr')
      have hp : s.Publishing record.publishRunId := by
        rcases Site.activeRun_of_get hr hactive with hb | hp
        · rw [Site.statusOf_of_get hr] at hb
          exact absurd (Option.some.inj hb) hnot
        · exact hp
      exact ⟨_, rfl, hp, hi.decidedSwapped _ hdecided rfl hp⟩
    · exact .inl (if_neg hc)
  · intro id hp hpublished
    obtain ⟨rfl, htrue, hs⟩ := statusOf_closeStaleRun _ hp (by rw [hpublished]; decide)
    rw [hpublished] at hs
    cases published with
    | false => cases hs
    | true => exact if_pos ⟨rfl, htrue⟩

/-- A row under a transition of the run `k`. -/
theorem get_of_transition {s t : Site} {k id : RunId} {expected : List PublishStatus}
    {f : PublishRow → PublishRow} {hf : ∀ r, (f r).publishRunId = r.publishRunId} {r : PublishRow}
    (ht : t.table.runs = (transition k expected f hf s.table.runs).2)
    (hr : s.table.runs.get id = some r) :
    t.table.runs.get id = some (if id = k ∧ r.status ∈ expected then f r else r) := by
  rw [ht, get_transition, hr]
  by_cases hk : id = k
  · by_cases hs : r.status ∈ expected
    · simp [hk, hs]
    · simp [hs]
  · simp [hk]

/-- A call stands at its phase alone: nobody else works on its run. -/
theorem SiteInv.alone {s : Site} (hi : SiteInv s) {process : Nat} {phase : CallPhase}
    (hphase : s.calls process = some phase) {p : Nat} {phase' : CallPhase}
    (h : (s.setCall process none).calls p = some phase') : phase'.run ≠ phase.run := by
  by_cases hp : p = process
  · subst hp
    simp [Site.setCall] at h
  · have hold : s.calls p = some phase' := by
      simpa [Site.setCall, Function.update_of_ne hp] using h
    exact fun hrun => hp (hi.exclusive p process phase' phase hold hphase hrun)

/-- A call that ends. -/
theorem SiteInv.endCall {s : Site} (hi : SiteInv s) (process : Nat) :
    SiteInv (s.setCall process none) := by
  refine hi.setCall fun phase hphase => ?_
  cases hphase

/-- A call that changes the site while nobody works on its run, and comes back. -/
theorem SiteInv.reenter {s t : Site} {process : Nat} {old phase : CallPhase} (hi : SiteInv s)
    (hold : s.calls process = some old) (ht : SiteInv t)
    (hcalls : t.calls = (s.setCall process none).calls) (hcalled : t.called = s.called)
    (hrun : phase.run = old.run) (hrow : t.statusOf phase.run ≠ none) (hok : t.PhaseOk phase) :
    SiteInv { t with calls := Function.update s.calls process (some phase) } := by
  have hset : ({ t with calls := Function.update s.calls process (some phase) } : Site)
      = t.setCall process (some phase) := by
    unfold Site.setCall
    rw [hcalls]
    show _ = ({ t with calls := Function.update (Function.update _ _ _) _ _ } : Site)
    rw [Function.update_idem]
  rw [hset]
  refine ht.setCall fun ph hph => ?_
  obtain rfl : phase = ph := Option.some.inj hph
  refine ⟨hok, ?_, hrow, ?_⟩
  · rw [hcalled, hrun]
    exact hi.calling process old hold
  · intro q ph' _ hq
    rw [hcalls] at hq
    rw [hrun]
    exact hi.alone hold hq

/-- `mark_publishing`. -/
theorem SiteInv.mark {s : Site} (hi : SiteInv s) {process : Nat} {id : RunId}
    {identity : FileIdentity} {martHashes : List (String × String)}
    {martRowCounts : List (String × Nat)} {runs : PublishRuns}
    (hphase : s.calls process = some (.identified id identity))
    (hmark : markPublishing id martHashes martRowCounts identity s.table.runs = (.ok (), runs))
    (acknowledged : Bool) :
    SiteInv ((s.setTable { s.table with
      runs := runs, passed := (process, id) :: s.table.passed }).setCall process
        (some (if acknowledged then .marked id identity else .raised id))) := by
  obtain ⟨r, hr, hexpected, hr'⟩ := transition_eq_ok hmark
  have hs : r.status = .building := by simpa using hexpected
  have hbuilding : s.statusOf id = some .building := by rw [Site.statusOf_of_get hr, hs]
  obtain ⟨-, hfile, hpublished⟩ := hi.phases process _ hphase
  have happly : (PublishCall.markPublishing process id martHashes martRowCounts identity).apply
      s.table = { s.table with runs := runs, passed := (process, id) :: s.table.passed } := by
    unfold PublishCall.apply
    dsimp only
    rw [hmark]
  have htable : PublishInv { s.table with runs := runs, passed := (process, id) :: s.table.passed }
      := by
    rw [← happly]
    have hallowed : (PublishCall.markPublishing process id martHashes martRowCounts
      identity).Allowed s.table := trivial
    exact hi.table.step ⟨hallowed, rfl⟩
  -- the row of the run is `PUBLISHING` with the identity now, the others are as they were
  have hother : ∀ k, k ≠ id → runs.get k = s.table.runs.get k := by
    intro k hk
    have hget : (markPublishing id martHashes martRowCounts identity s.table.runs).2.get k = _ :=
      get_transition
    rw [hmark, if_neg hk] at hget
    exact hget
  have hstatus : (s.setTable { s.table with
      runs := runs, passed := (process, id) :: s.table.passed }).statusOf id
        = some .publishing := by
    show (runs.get id).map PublishRow.status = _
    rw [hr']
    rfl
  have hrecorded : (s.setTable { s.table with
      runs := runs, passed := (process, id) :: s.table.passed }).recordedOf id
        = some identity := by
    show (runs.get id).bind PublishRow.publishedIdentity = _
    rw [hr']
    rfl
  -- the call steps aside, the row is marked, and the call comes back in its new phase
  have hmarked := (hi.endCall process).markRow htable rfl hbuilding
    (hi.calling process _ hphase) hother hstatus hrecorded
    (fun p phase hp => hi.alone hphase hp) (hpublished (.inl hbuilding))
  have hns : ¬ s.Swapped id := fun hswap => hi.not_building_of_swapped hswap hbuilding
  have hreturn : ∀ phase : CallPhase, phase.run = id → (s.setTable { s.table with
      runs := runs, passed := (process, id) :: s.table.passed }).PhaseOk phase →
      SiteInv ((s.setTable { s.table with
        runs := runs, passed := (process, id) :: s.table.passed }).setCall process
          (some phase)) := by
    intro phase hrun hok
    have hrow : (s.setTable { s.table with
        runs := runs, passed := (process, id) :: s.table.passed }).statusOf phase.run ≠ none := by
      rw [hrun, hstatus]
      exact Option.some_ne_none _
    have hnext := hi.reenter hphase hmarked rfl rfl hrun hrow hok
    exact hnext
  cases acknowledged with
  | true =>
    refine hreturn (.marked id identity) rfl
      ⟨?_, fun _ => ⟨hns, hfile (.inl hbuilding), hrecorded⟩⟩
    rw [hstatus]
    decide
  | false => exact hreturn (.raised id) rfl trivial

/-- `os.replace` of a call whose row is still `PUBLISHING`. -/
theorem SiteInv.replace {s : Site} (hi : SiteInv s) {process : Nat} {id : RunId}
    {identity f : FileIdentity} (hphase : s.calls process = some (.marked id identity))
    (hfile : s.build id = some f) (hp : s.Publishing id) :
    SiteInv ({ s.setBuild id none with published := some (id, f) }.setCall process
      (some (.swapped id))) := by
  obtain ⟨hnot, hok⟩ := hi.phases process _ hphase
  obtain ⟨-, hbuild, hrecorded⟩ := hok hp
  obtain rfl : identity = f := Option.some.inj (hbuild.symm.trans hfile)
  have hswapped := (hi.endCall process).swap hp hrecorded hfile
    (fun p phase h => hi.alone hphase h)
  have hrow : s.statusOf id ≠ none := by
    rw [show s.statusOf id = some .publishing from hp]
    exact Option.some_ne_none _
  have hnext := hi.reenter hphase hswapped rfl rfl (Eq.refl (CallPhase.swapped id).run) hrow
    ⟨hnot, fun _ => ⟨identity, rfl⟩⟩
  exact hnext

/-- `mark_published` of a call that swapped its build file in. -/
theorem SiteInv.finish {s : Site} (hi : SiteInv s) {process : Nat} {id : RunId} {now : Timestamp}
    {runs : PublishRuns} (hphase : s.calls process = some (.swapped id))
    (hmark : markPublished id now s.table.runs = (.ok (), runs)) (acknowledged : Bool) :
    SiteInv ({ s.setTable { s.table with runs := runs } with last := some id }.setCall process
      (if acknowledged then none else some (.raised id))) := by
  obtain ⟨r, hr, hexpected, -⟩ := transition_eq_ok hmark
  have hs : r.status = .publishing := by simpa using hexpected
  have hp : s.Publishing id := by
    unfold Site.Publishing
    rw [Site.statusOf_of_get hr, hs]
  have happly : (PublishCall.markPublished id now).apply s.table = { s.table with runs := runs } := by
    show s.table.withRuns (markPublished id now s.table.runs) = _
    rw [hmark]
    rfl
  -- the row of the run becomes `PUBLISHED`, the others stay
  have hget : ∀ k r, s.table.runs.get k = some r →
      runs.get k = some (if k = id ∧ r.status ∈ [PublishStatus.publishing] then r.toPublished now
        else r) := by
    intro k r hr
    have hruns : runs = (markPublished id now s.table.runs).2 := by rw [hmark]
    exact get_of_transition (t := s.setTable { s.table with runs := runs }) hruns hr
  -- no row fails, and the one that is finished is swapped in
  have hnext : SiteInv { s.setTable { s.table with runs := runs } with last := some id } := by
    have hallowed : (PublishCall.markPublished id now).Allowed s.table := trivial
    have hrows := rowForeign_apply hi hallowed (fun h => h) (some id)
    have hstep := hi.table.step ⟨hallowed, rfl⟩
    rw [happly] at hrows hstep
    refine hi.setTable hstep hrows ?_ (.inr ⟨id, rfl, hp, ?_⟩) ?_ (fun _ => .inl) (fun _ h => h)
    · intro k hk hfailed
      obtain ⟨q, hq, hqs⟩ := Option.map_eq_some_iff.1 hk
      rw [Site.statusOf_of_get (hget k q hq)] at hfailed
      split at hfailed
      · cases hfailed
      · rw [hqs] at hfailed
        cases hfailed
    · exact (hi.phases process _ hphase).2 hp
    · intro k hk hpublished
      obtain ⟨q, hq, hqs⟩ := Option.map_eq_some_iff.1 hk
      rw [Site.statusOf_of_get (hget k q hq)] at hpublished
      split at hpublished
      next h => rw [h.1]
      · rw [hqs] at hpublished
        cases hpublished
  refine hnext.advance hphase fun phase h => ?_
  cases acknowledged with
  | true => cases h
  | false =>
    obtain rfl : CallPhase.raised id = phase := Option.some.inj h
    exact ⟨trivial, rfl⟩

/-- `mark_failed` of a call that isolated the build file of a run not swapped in. -/
theorem SiteInv.markFailed {s : Site} (hi : SiteInv s) {process : Nat} {id : RunId}
    {errorType errorMessage : String} {failedPath : Option String} {now : Timestamp}
    (hphase : s.calls process = some (.isolated id)) :
    SiteInv ((s.setTable ((PublishCall.markFailed id errorType errorMessage failedPath now).apply
      s.table)).setCall process none) := by
  -- only the row of the run changes, and only if it is active
  have hget : ∀ k r, s.table.runs.get k = some r →
      (Warehouse.markFailed id errorType errorMessage failedPath now s.table.runs).2.get k
        = some (if k = id ∧ r.status ∈ activeStatuses then
            r.toFailed errorType errorMessage failedPath now else r) :=
    fun k r hr => get_of_transition (t := s.setTable { s.table with
      runs := (Warehouse.markFailed id errorType errorMessage failedPath now s.table.runs).2 })
      rfl hr
  have hnext : SiteInv (s.setTable ((PublishCall.markFailed id errorType errorMessage failedPath
      now).apply s.table)) := by
    have hallowed : (PublishCall.markFailed id errorType errorMessage failedPath now).Allowed
      s.table := trivial
    refine hi.setTable (hi.table.step ⟨hallowed, rfl⟩) (rowForeign_apply hi hallowed (fun h => h) _)
      ?_ (.inl rfl) ?_ (fun _ => stale_apply _) (stale_subset _ _)
    · intro k hk hfailed
      obtain ⟨q, hq, hqs⟩ := Option.map_eq_some_iff.1 hk
      rw [Site.statusOf_of_get (hget k q hq)] at hfailed
      split at hfailed
      next h =>
        obtain ⟨rfl, -⟩ := h
        -- the call came here because its run is not swapped in
        exact hi.phases process _ hphase hk
      · rw [hqs] at hfailed
        cases hfailed
    · intro k hk hpublished
      obtain ⟨q, hq, hqs⟩ := Option.map_eq_some_iff.1 hk
      rw [Site.statusOf_of_get (hget k q hq)] at hpublished
      split at hpublished
      · cases hpublished
      · rw [hqs] at hpublished
        cases hpublished
  exact hnext.endCall process

/-- A transaction of another step leaves every `PUBLISHING` row, whose call has begun. -/
theorem SiteInv.other {s : Site} (hi : SiteInv s) {call : PublishCall}
    (h : call.Outside s.called) : SiteInv (s.setTable (call.apply s.table)) := by
  have hkeep : ∀ id, s.Publishing id → ∀ status, Site.statusOf
      { s with table := call.apply s.table, last := s.last } id = some status →
      status = .publishing := by
    intro id hp status hs
    rw [publishing_apply h hp (hi.publishingCalled id hp)] at hs
    exact (Option.some.inj hs).symm
  refine hi.setTable (hi.table.step ⟨h.allowed _, rfl⟩)
    (rowForeign_apply hi (h.allowed _) h.not_marks _) ?_ (.inl rfl) ?_
    (fun _ => stale_apply _) (stale_subset _ _)
  · intro id hp hfailed
    cases hkeep id hp _ hfailed
  · intro id hp hpublished
    cases hkeep id hp _ hpublished

/-- What `recover_incomplete_publishes` decides about a record it read: as `PUBLISHED` only
where the identity the record shows is the one of the published file. -/
theorem SiteInv.compare {s : Site} (hi : SiteInv s) {record : PublishRow}
    (hmem : record ∈ s.table.stale) :
    SiteInv { s with
      decided := (record, decide (record.status = .publishing) &&
        record.publishedIdentity.any fun identity =>
          s.published.any fun p => p.2 = identity) :: s.decided } := by
  refine { hi with decidedStale := ?_, decidedSwapped := ?_ }
  · intro d hd
    rcases List.mem_cons.1 hd with rfl | hd
    · refine ⟨hmem, fun htrue => ?_⟩
      simp only [Bool.and_eq_true, decide_eq_true_eq] at htrue
      exact htrue.1
    · exact hi.decidedStale d hd
  · intro d hd htrue hp
    rcases List.mem_cons.1 hd with rfl | hd
    · -- the recorded identity is the one of the published file
      simp only [Bool.and_eq_true, decide_eq_true_eq, Option.any_eq_true] at htrue
      obtain ⟨hs, identity, hidentity, p, hmemp, hsame⟩ := htrue
      by_contra hns
      refine hi.unswapped _ hp hns p hmemp ?_
      rw [hi.records record hmem hs, hidentity, hsame]
    · exact hi.decidedSwapped d hd htrue hp

/-- Removing the build file of a run that has ended. -/
theorem SiteInv.removeEnded {s : Site} (hi : SiteInv s) {id : RunId} {status : PublishStatus}
    (hs : s.statusOf id = some status) (hended : status ∉ activeStatuses) :
    SiteInv (s.setBuild id none) := by
  refine hi.removeBuild fun process phase _ hrun => ?_
  refine phaseOk_of_inactive ?_
  subst hrun
  rintro (hb | hp)
  · obtain rfl := Option.some.inj (hs.symm.trans hb)
    exact hended (by decide)
  · obtain rfl := Option.some.inj (hs.symm.trans hp)
    exact hended (by decide)

/-- A call that begins, on a run no call works on. -/
theorem SiteInv.enter {s : Site} (hi : SiteInv s) {process : Nat} {id : RunId}
    (hrow : s.table.runs.get id ≠ none)
    (hended : ∀ p phase, s.calls p = some phase → phase.run ≠ id) :
    SiteInv { s.setCall process (some (.entered id)) with called := id :: s.called } := by
  have hcalled : SiteInv { s with called := id :: s.called } :=
    { hi with
      publishingCalled := fun k hp => List.mem_cons_of_mem _ (hi.publishingCalled k hp)
      calling := fun p phase hp => List.mem_cons_of_mem _ (hi.calling p phase hp) }
  refine hcalled.setCall fun phase hphase => ?_
  obtain rfl : CallPhase.entered id = phase := Option.some.inj hphase
  refine ⟨trivial, List.mem_cons_self, ?_, fun q phase' _ hq => hended q phase' hq⟩
  show (s.table.runs.get id).map _ ≠ none
  simpa using hrow

/-- A phase of one process is the only phase of its run. -/
theorem SiteInv.phase_unique {s : Site} (hi : SiteInv s) {process p : Nat}
    {phase phase' : CallPhase} (hphase : s.calls process = some phase)
    (hp : s.calls p = some phase') (hrun : phase'.run = phase.run) : phase' = phase := by
  obtain rfl := hi.exclusive p process phase' phase hp hphase hrun
  exact Option.some.inj (hp.symm.trans hphase)

/-- `checkpoint` of a run that is not swapped in while `PUBLISHING`. -/
theorem SiteInv.checkpoint {s : Site} (hi : SiteInv s) {process : Nat} {id : RunId}
    {f : FileIdentity} (returns : Bool) (hphase : s.calls process = some (.entered id))
    (hfresh : s.FreshInode id f.inode) (hcalm : s.Publishing id → ¬ s.Swapped id) :
    SiteInv ((s.setBuild id (some f)).setCall process
      (some (if returns then .checkpointed id else .raised id))) := by
  have hfile : SiteInv (s.setBuild id (some f)) := by
    refine hi.setBuild ?_ (fun _ _ => hcalm) ?_
    · intro g hg
      obtain rfl : f = g := Option.some.inj hg
      exact hfresh
    · intro p phase hp hrun
      obtain rfl := hi.phase_unique hphase hp hrun
      trivial
  refine hfile.advance hphase fun phase h => ?_
  cases returns with
  | true =>
    obtain rfl : CallPhase.checkpointed id = phase := Option.some.inj h
    exact ⟨hcalm, rfl⟩
  | false =>
    obtain rfl : CallPhase.raised id = phase := Option.some.inj h
    exact ⟨trivial, rfl⟩

/-- The identity read of the build file, which is not the published file. -/
theorem SiteInv.identify {s : Site} (hi : SiteInv s) {process : Nat} {id : RunId}
    {f : FileIdentity} (hphase : s.calls process = some (.checkpointed id))
    (hfile : s.build id = some f) :
    SiteInv (s.setCall process (some (.identified id f))) := by
  refine hi.advance hphase fun phase h => ?_
  obtain rfl : CallPhase.identified id f = phase := Option.some.inj h
  refine ⟨⟨hi.phases process _ hphase, fun _ => hfile, fun _ p hp hsame => ?_⟩, rfl⟩
  exact (hi.inodes id f hfile).1 p hp (by rw [hsame])

/-- `if build_path.exists()`: a run swapped in while `PUBLISHING` has no build file. -/
theorem SiteInv.inspect {s : Site} (hi : SiteInv s) {process : Nat} {id : RunId}
    (hphase : s.calls process = some (.raised id)) :
    SiteInv (s.setCall process (if (s.build id).isSome then some (.failing id) else none)) := by
  refine hi.advance hphase fun phase h => ?_
  cases hfile : s.build id with
  | none => simp [hfile] at h
  | some f =>
    obtain rfl : CallPhase.failing id = phase := by simpa [hfile] using h
    refine ⟨fun hp hswap => ?_, rfl⟩
    rw [hi.moved id hp hswap] at hfile
    cases hfile

/-- `_isolate_build` of a call that failed. -/
theorem SiteInv.isolate {s : Site} (hi : SiteInv s) {process : Nat} {id : RunId}
    (hphase : s.calls process = some (.failing id)) :
    SiteInv ((s.setBuild id none).setCall process (some (.isolated id))) := by
  have hns : s.Publishing id → ¬ s.Swapped id := hi.phases process _ hphase
  have hfile : SiteInv (s.setBuild id none) := by
    refine hi.removeBuild fun p phase hp hrun => ?_
    obtain rfl := hi.phase_unique hphase hp hrun
    exact hns
  refine hfile.advance hphase fun phase h => ?_
  obtain rfl : CallPhase.isolated id = phase := Option.some.inj h
  exact ⟨hns, rfl⟩

/-- The invariant under every step that is calm: the list of the lemmas above. -/
theorem SiteInv.step {s t : Site} {a : SiteAction} (hi : SiteInv s) (h : CalmStep s a t) :
    SiteInv t := by
  obtain ⟨hcalm, hstep⟩ := h
  cases hstep with
  | other call h => exact hi.other h
  -- no call works on a run whose build file is still written
  | writeBuild id f hcalled hfresh =>
    refine hi.setBuild hfresh ?_ ?_
    · intro _ _ hp
      exact absurd (hi.publishingCalled id hp) hcalled
    · intro process phase hphase hrun
      subst hrun
      exact absurd (hi.calling process phase hphase) hcalled
  | compare record hmem => exact hi.compare hmem
  | close record published staleBefore now h => exact hi.close staleBefore now h hcalm
  | isolateFailed id h => exact hi.removeEnded h (by decide)
  | unlinkPublished id h => exact hi.removeEnded h (by decide)
  | enter process id hidle hrow hended => exact hi.enter hrow hended
  | checkpoint process id f returns hphase hfresh =>
    exact hi.checkpoint returns hphase hfresh (hcalm id hphase)
  | identify process id f hphase hfile => exact hi.identify hphase hfile
  | mark process id identity martHashes martRowCounts acknowledged runs hphase hmark =>
    exact hi.mark hphase hmark acknowledged
  | replace process id identity f hphase hfile =>
    exact hi.replace hphase hfile (hcalm id identity hphase)
  | finish process id now acknowledged runs hphase hmark =>
    exact hi.finish hphase hmark acknowledged
  | raises process phase hphase htrying =>
    refine hi.advance hphase fun phase' h => ?_
    obtain rfl : CallPhase.raised phase.run = phase' := Option.some.inj h
    exact ⟨trivial, rfl⟩
  | inspect process id hphase => exact hi.inspect hphase
  | isolate process id hphase => exact hi.isolate hphase
  | markFailed process id errorType errorMessage failedPath now hphase =>
    exact hi.markFailed hphase
  | crash process => exact hi.endCall process

theorem SiteInv.run {s t : Site} {actions : List SiteAction} (hi : SiteInv s)
    (h : Run CalmStep s actions t) : SiteInv t :=
  h.invariant hi fun _ _ _ hi hstep => hi.step hstep

/-- No call is executing and no row is `BUILDING` or `PUBLISHING`. -/
structure Site.Quiet (s : Site) : Prop where
  idle : ∀ process, s.calls process = none
  inactive : ∀ r ∈ s.table.runs.rows, ¬ r.Active

/-- `get_latest_publish_run` finds the run that became `PUBLISHED` last where the
stamps are in the order of the transitions. -/
theorem latestPublished_eq {runs : PublishRuns} {row : PublishRow} (hrow : row ∈ runs.rows)
    (hs : row.status = .published)
    (hstamps : ∀ r ∈ runs.rows, r.status = .published → r ≠ row →
      r.finishedAt.getD 0 < row.finishedAt.getD 0) : latestPublished runs = some row := by
  unfold latestPublished
  have htotal : Std.Total FinishedAfter := ⟨fun a b => by unfold FinishedAfter; grind⟩
  have htrans : IsTrans PublishRow FinishedAfter :=
    ⟨fun a b c hab hbc => by unfold FinishedAfter at *; grind⟩
  have hsorted := List.pairwise_insertionSort FinishedAfter
    (runs.rows.filter fun r => r.status = .published)
  have hmem : ∀ r, r ∈ (runs.rows.filter fun r => r.status = .published).insertionSort
      FinishedAfter ↔ r ∈ runs.rows ∧ r.status = .published := by
    intro r
    rw [List.mem_insertionSort, List.mem_filter, decide_eq_true_eq]
  generalize (runs.rows.filter fun r => r.status = .published).insertionSort FinishedAfter = l
    at hsorted hmem ⊢
  cases l with
  | nil => exact absurd ((hmem row).2 ⟨hrow, hs⟩) List.not_mem_nil
  | cons head tail =>
    by_contra hne
    have hne : head ≠ row := fun he => hne (by rw [he, List.head?_cons])
    obtain ⟨hhead, hhs⟩ := (hmem head).1 List.mem_cons_self
    have hlt := hstamps head hhead hhs hne
    -- the row is behind the head, so it did not finish later
    have htail : row ∈ tail := by
      rcases List.mem_cons.1 ((hmem row).2 ⟨hrow, hs⟩) with he | htail
      · exact absurd he.symm hne
      · exact htail
    have hafter : FinishedAfter head row := List.rel_of_pairwise_cons hsorted htail
    rcases hafter with hlater | ⟨hsame, -⟩
    · exact absurd (hlt.trans hlater) (lt_irrefl _)
    · exact absurd hsame (ne_of_gt hlt)

/-- In every calm run, when nobody publishes: either nothing was ever published, or the published
file is the build file of the run that became `PUBLISHED` last and has the identity that run
recorded; it is the row `get_latest_publish_run` returns where the stamps are in the order of
the transitions. -/
theorem publishedFile_recorded {s t : Site} {actions : List SiteAction} (h0 : SiteStart s)
    (h : Run CalmStep s actions t) (hquiet : t.Quiet) :
    (t.published = none ∧ ∀ r ∈ t.table.runs.rows, r.status ≠ .published) ∨
    ∃ row identity, t.published = some (row.publishRunId, identity) ∧
      t.last = some row.publishRunId ∧ row ∈ t.table.runs.rows ∧ row.status = .published ∧
      row.publishedIdentity = some identity ∧
      ((∀ r ∈ t.table.runs.rows, r.status = .published → r ≠ row →
          r.finishedAt.getD 0 < row.finishedAt.getD 0) →
        latestPublished t.table.runs = some row) := by
  have hi : SiteInv t := h0.inv.run h
  cases hp : t.published with
  | none =>
    refine .inl ⟨rfl, fun r hr hs => ?_⟩
    refine hi.unrecorded (hi.unpublished hp) r.publishRunId ?_
    rw [Site.statusOf_of_get (Table.get_of_mem hr), hs]
  | some p =>
    obtain ⟨id, identity⟩ := p
    -- the file belongs to a run that is `PUBLISHING`, which nobody is, or to the last one
    obtain ⟨hrecorded, hs⟩ := hi.origin id identity hp
    obtain ⟨row, hrow, hidentity⟩ := Option.bind_eq_some_iff.1 hrecorded
    obtain rfl : row.publishRunId = id := Table.key_of_get hrow
    have hmem : row ∈ t.table.runs.rows := Table.mem_of_get hrow
    have hstatus := Site.statusOf_of_get hrow
    right
    rcases hs with hpublishing | ⟨hpublished, hlast⟩
    · -- a row that is `PUBLISHING` is active
      refine absurd ?_ (hquiet.inactive row hmem)
      have hs : row.status = .publishing := Option.some.inj (hstatus.symm.trans hpublishing)
      unfold PublishRow.Active
      rw [hs]
      decide
    · have hs : row.status = .published := Option.some.inj (hstatus.symm.trans hpublished)
      exact ⟨row, identity, rfl, hlast, hmem, hs, hidentity,
        fun hstamps => latestPublished_eq hmem hs hstamps⟩

private def emptySite : Site where
  table := ⟨Table.empty, [], []⟩
  published := none
  build := fun _ => none
  calls := fun _ => none
  called := []
  decided := []
  last := none

private theorem emptySite_start : SiteStart emptySite where
  table := ⟨by simp [emptySite], rfl, rfl⟩
  inactive := by simp [emptySite]
  idle := fun _ => rfl
  undecided := rfl
  inodes := fun _ _ h => nomatch h
  origin := fun _ _ h => nomatch h
  unpublished := fun _ => rfl
  unrecorded := fun _ _ h => nomatch h

private def firstRun : PublishRun := ⟨1, "warehouse_pipeline_dag", none, some "manual__1"⟩

/-- The build file of the started run is written, and process 7 publishes it. -/
private def enteredSite : Site where
  table := (PublishCall.startPublishRun firstRun 0).apply emptySite.table
  published := none
  build := Function.update (fun _ => none) 1 (some ⟨10, 5⟩)
  calls := Function.update (fun _ => none) 7 (some (.entered 1))
  called := [1]
  decided := []
  last := none

private def identifiedSite : Site :=
  ((enteredSite.setBuild 1 (some ⟨10, 6⟩)).setCall 7 (some (.checkpointed 1))).setCall 7
    (some (.identified 1 ⟨10, 6⟩))

/-- Process 7 stands between `mark_publishing` and `os.replace`. -/
private def markedSite : Site :=
  (identifiedSite.setTable
    ((PublishCall.markPublishing 7 1 [] [] ⟨10, 6⟩).apply identifiedSite.table)).setCall 7
    (some (.marked 1 ⟨10, 6⟩))

private theorem calm_snoc {s t u : Site} {actions : List SiteAction} {a : SiteAction}
    (h : Run CalmStep s actions t) (hstep : SiteStep t a u) (hcalm : a.Calm t) :
    Run CalmStep s (actions ++ [a]) u :=
  h.snoc ⟨hcalm, hstep⟩

private theorem markedSite_run : ∃ actions, Run CalmStep emptySite actions markedSite := by
  have h1 := calm_snoc Run.nil
    (SiteStep.other (s := emptySite) (.startPublishRun firstRun 0) trivial) trivial
  have h2 := calm_snoc h1 (SiteStep.writeBuild 1 (some ⟨10, 5⟩) (by decide)
    fun g hg => ⟨fun p hp => (nomatch hp), fun id f _ hf => (nomatch hf)⟩) trivial
  have h3 : Run CalmStep emptySite _ enteredSite :=
    calm_snoc h2 (SiteStep.enter 7 1 rfl (by decide) fun p phase hp => nomatch hp) trivial
  -- the checkpoint keeps the inode
  have hfresh : enteredSite.FreshInode 1 10 := by
    refine ⟨fun p hp => (nomatch hp), fun id f hid hf => ?_⟩
    have hnone : enteredSite.build id = none := by
      simp [enteredSite, hid]
    rw [hnone] at hf
    cases hf
  have h4 := calm_snoc h3 (SiteStep.checkpoint 7 1 ⟨10, 6⟩ true rfl hfresh)
    fun id _ _ hs => nomatch hs
  have h5 : Run CalmStep emptySite _ identifiedSite :=
    calm_snoc h4 (SiteStep.identify 7 1 ⟨10, 6⟩ rfl rfl) trivial
  have h6 := calm_snoc h5 (SiteStep.mark 7 1 ⟨10, 6⟩ [] [] true _ rfl rfl) trivial
  exact ⟨_, h6⟩

/-- Moving the call of process 7 leaves the others as they are. -/
private theorem others_setCall {s : Site} (phase : Option CallPhase)
    (h : ∀ p, p ≠ 7 → s.calls p = none) : ∀ p, p ≠ 7 → (s.setCall 7 phase).calls p = none :=
  fun p hp => (Function.update_of_ne hp ..).trans (h p hp)

private theorem idle_setCall {s : Site} (h : ∀ p, p ≠ 7 → s.calls p = none) :
    ∀ p, (s.setCall 7 none).calls p = none := by
  intro p
  by_cases hp : p = 7
  · subst hp
    simp [Site.setCall]
  · exact others_setCall none h p hp

private theorem markedSite_others : ∀ p, p ≠ 7 → markedSite.calls p = none := by
  have h : ∀ p, p ≠ 7 → enteredSite.calls p = none := by
    intro p hp
    simp [enteredSite, hp]
  have h5 : ∀ p, p ≠ 7 → identifiedSite.calls p = none :=
    others_setCall _ (others_setCall (s := enteredSite.setBuild 1 (some ⟨10, 6⟩)) _ h)
  exact others_setCall (s := identifiedSite.setTable _) _ h5

private def secondRun : PublishRun := ⟨2, "warehouse_pipeline_dag", none, some "manual__2"⟩

/-- A recoverer closed the row of the first run as `PUBLISHED`; then the second run started. -/
private def closedRuns : PublishRuns := (closeStaleRun 1 true 1000 2000 markedSite.table.runs).2

private def secondRuns : PublishRuns :=
  ((PublishCall.startPublishRun secondRun 3000).apply ⟨closedRuns, [], []⟩).runs

private theorem closedRuns_start : startPublishRun secondRun 3000 closedRuns = .ok secondRuns := by
  rfl

private def markedRuns : PublishRuns := (markPublishing 2 [] [] ⟨20, 8⟩ secondRuns).2

private def finishedRuns : PublishRuns := (markPublished 2 4000 markedRuns).2

private theorem secondRuns_building :
    (secondRuns.get 2).map PublishRow.status = some .building := by decide +kernel

/-- The process of the first run dies between `os.replace` and `mark_published`, and a
recoverer finds its file published. -/
private theorem recovered_run : ∃ actions s, Run CalmStep emptySite actions s ∧
    s.published = some (1, ⟨10, 6⟩) ∧ (∀ p, s.calls p = none) ∧ (∀ id, s.build id = none) ∧
    s.called = [1] ∧ s.table.runs = closedRuns := by
  obtain ⟨actions, h6⟩ := markedSite_run
  have h7 := calm_snoc h6 (SiteStep.replace 7 1 ⟨10, 6⟩ ⟨10, 6⟩ rfl rfl)
    fun id identity hphase => by
      obtain ⟨rfl, -⟩ := CallPhase.marked.inj (Option.some.inj hphase)
      rfl
  have h8 := calm_snoc h7 (SiteStep.crash 7) trivial
  have h9 := calm_snoc h8 (SiteStep.other (.staleActiveRuns 1000) trivial) trivial
  have h10 := calm_snoc h9 (SiteStep.compare _ List.mem_cons_self) trivial
  have h11 := calm_snoc h10 (SiteStep.close _ true 1000 2000 List.mem_cons_self)
    fun hfalse => nomatch hfalse
  refine ⟨_, _, h11, rfl, idle_setCall (others_setCall (s := markedSite) _ markedSite_others),
    fun id => ?_, rfl, rfl⟩
  show Function.update markedSite.build 1 none id = none
  by_cases hid : id = 1
  · subst hid
    exact Function.update_self ..
  · refine (Function.update_of_ne hid ..).trans ?_
    simp [markedSite, identifiedSite, enteredSite, Site.setCall, Site.setTable, Site.setBuild, hid]

/-- The first run is swapped in, its process dies, and a recoverer closes it. A second process
then publishes the second run. -/
theorem publishedFile_recorded_second : ∃ actions t, Run CalmStep emptySite actions t ∧
    t.published = some (2, ⟨20, 8⟩) ∧ t.last = some 2 ∧ t.statusOf 1 = some .published := by
  obtain ⟨actions, ⟨⟨runs, stale, passed⟩, published, build, calls, called, decided, last⟩, h,
    hpublished, hidle, hbuild, hcalled, hruns⟩ := recovered_run
  dsimp only at hpublished hidle hbuild hcalled hruns
  obtain rfl : calls = fun _ => none := funext hidle
  obtain rfl : build = fun _ => none := funext hbuild
  subst hpublished hcalled hruns
  have hstart : (PublishCall.startPublishRun secondRun 3000).apply ⟨closedRuns, stale, passed⟩ =
      ⟨secondRuns, stale, passed⟩ := by
    unfold PublishCall.apply
    dsimp only
    rw [closedRuns_start]
  have h1 := calm_snoc h (SiteStep.other (.startPublishRun secondRun 3000) trivial) trivial
  dsimp only [Site.setTable] at h1
  rw [hstart] at h1
  -- no other file has the inode of the second build file
  have hswapped : ∀ p ∈ some ((1 : RunId), (⟨10, 6⟩ : FileIdentity)), p.2.inode ≠ 20 := by decide
  have hothers : ∀ (f : Option FileIdentity) (id : RunId) (g : FileIdentity), id ≠ 2 →
      Function.update (fun _ : RunId => none) 2 f id = some g → g.inode ≠ 20 := by
    intro f id g hid hg
    rw [Function.update_of_ne hid] at hg
    cases hg
  have hnew : (2 : RunId) ∉ [1] := by decide
  have h2 := calm_snoc h1 (SiteStep.writeBuild 2 (some ⟨20, 7⟩) hnew fun g hg => by
    obtain rfl : ⟨20, 7⟩ = g := Option.some.inj hg
    exact ⟨hswapped, fun _ _ _ hg => nomatch hg⟩) trivial
  have hrow : secondRuns.get 2 ≠ none := fun hnone => by
    have hs := secondRuns_building
    rw [hnone] at hs
    cases hs
  have h3 := calm_snoc h2 (SiteStep.enter 8 2 rfl hrow fun _ _ hp => nomatch hp) trivial
  have h4 := calm_snoc h3 (SiteStep.checkpoint 8 2 ⟨20, 8⟩ true rfl
    ⟨hswapped, fun id g hid hg => hothers _ id g hid hg⟩) fun id hphase hs => by
      obtain rfl := CallPhase.entered.inj (Option.some.inj hphase)
      cases secondRuns_building.symm.trans hs
  have h5 := calm_snoc h4 (SiteStep.identify 8 2 ⟨20, 8⟩ rfl rfl) trivial
  have h6 := calm_snoc h5 (SiteStep.mark 8 2 ⟨20, 8⟩ [] [] true markedRuns rfl rfl) trivial
  have h7 := calm_snoc h6 (SiteStep.replace 8 2 ⟨20, 8⟩ ⟨20, 8⟩ rfl rfl) fun id identity hphase => by
    obtain ⟨rfl, -⟩ := CallPhase.marked.inj (Option.some.inj hphase)
    rfl
  have h8 := calm_snoc h7 (SiteStep.finish 8 2 4000 true finishedRuns rfl rfl) trivial
  have hinactive : ∀ r ∈ finishedRuns.rows, ¬ r.Active := by decide +kernel
  refine ⟨_, _, h8, rfl, ?_, rfl⟩
  have hquiet := publishedFile_recorded emptySite_start h8
    ⟨fun p => by simp [Site.setCall, Site.setBuild, Site.setTable], hinactive⟩
  rcases hquiet with ⟨hnone, -⟩ | ⟨row, identity, hpublished, hlast, -⟩
  · cases hnone
  · obtain ⟨hid, -⟩ := Prod.mk.inj (Option.some.inj hpublished)
    rw [hlast, ← hid]

/-- A call that pauses after `mark_publishing`, is taken over and swaps its build file
in after its row was closed. -/
theorem publishedFile_unrecorded : ∃ actions t, SiteStart emptySite ∧
    Run SiteStep emptySite actions t ∧ t.Quiet ∧
    t.published = some (1, ⟨10, 6⟩) ∧ t.statusOf 1 = some .failed ∧ t.last = none := by
  obtain ⟨actions, h6⟩ := markedSite_run
  have h6 : Run SiteStep emptySite actions markedSite := h6.imp fun _ _ _ h => h.2
  have h7 := h6.snoc (SiteStep.other (.staleActiveRuns 1000) trivial)
  have h8 := h7.snoc (SiteStep.compare _ List.mem_cons_self)
  have h9 := h8.snoc (SiteStep.close _ _ 1000 2000 List.mem_cons_self)
  have h10 := h9.snoc (SiteStep.replace 7 1 ⟨10, 6⟩ ⟨10, 6⟩ rfl rfl)
  have h11 := h10.snoc (SiteStep.raises 7 (.swapped 1) rfl trivial)
  have h12 := h11.snoc (SiteStep.inspect 7 1 rfl)
  have hothers := others_setCall (s := markedSite) (some (.swapped 1)) markedSite_others
  exact ⟨_, _, emptySite_start, h12, ⟨idle_setCall (others_setCall _ hothers), by decide⟩,
    rfl, rfl, rfl⟩

end CommercePlatform.Warehouse
