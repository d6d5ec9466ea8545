import CommercePlatform.Contract.Tables
import CommercePlatform.Control.Transactions
import CommercePlatform.Lib.Among
/-!
# Rewinding tables

`rewind_tables` of `src/ingestion/reprocess.py`. For each table it finds the cursor
before a boundary in the Source, reads the watermark in one transaction, takes the table
lease in others and moves the cursor in a last one. Ingestions and other rewinds commit
in between.

What it reports as `cursor_before` and `version_before` is what the first of these
transactions read. The last one does not compare with it: `rewind_watermark` is called
with the version of the lease, and the lease was taken on the row as it was then. So the
update itself is safe, since it replaces exactly the version the lease was taken at, and
the report may be wrong:

> `rewindTables_truthful_iff`: in every run among the metadata transactions of other
> processes, the reports of all updates are true iff each lease was taken at the version
> that was read before it.

The condition is on the transactions of the other processes, and
`rewindTables_overtaken` is a run that fails it: another rewind comes between the
reading and the lease.

A run is a list of notes (`Lib.Among`), some of the call itself and some of others. The
proof reads a run as what the parts of the call did when they returned: a part is either
uneventful, that is it neither updates nor takes a lease (`Uneventful`), or the one
update or the one acquisition of its round. `Later` orders the states of one watermark
by its version and carries the point of the argument: a version is never given to two
cursors, so an equal version means an unmoved watermark.

`cursor_before_timestamp` reads the Source, which no metadata transaction changes and
everything else may; here it may answer anything. The clock and the new identifiers may
too. `dry_run` stops before the lease and reports what it would have done; the statement
is about updates, and such a round makes none.
-/

namespace CommercePlatform.Ingestion

open Lib

/-- `RewindOutcome`. -/
structure RewindOutcome where
  sourceTable : String
  pipelineName : String
  cursorBefore : CursorPosition
  cursorAfter : CursorPosition
  versionBefore : Nat
  versionAfter : Nat
deriving DecidableEq

/-- What `rewind_tables` calls: its query of the Source, a transaction on the metadata, the
clock, and a new identifier. -/
inductive RewindEffect where
  | cursorBeforeTimestamp (config : TableConfig) (boundary : Timestamp)
  | transaction (op : Op)
  | utcNow
  | uuid4

abbrev RewindEffect.Resp : RewindEffect → Type
  | .cursorBeforeTimestamp .. => CursorPosition
  | .transaction op => op.Resp
  | .utcNow => Timestamp
  | .uuid4 => RunId

abbrev RewindProgram (α : Type) := Script RewindEffect RewindEffect.Resp Raised α

private abbrev call (op : RewindEffect) : RewindProgram op.Resp := Script.perform op

/-- `acquire_table_lease`: the row is made in a transaction of its own. -/
def acquireLease (pipelineName sourceTable : String) (ownerId : RunId) :
    RewindProgram TableLease := do
  let now ← call .utcNow
  let _ ← call (.transaction (.getOrCreateWatermark pipelineName sourceTable now))
  call (.transaction (.takeTableLease pipelineName sourceTable ownerId now defaultTableLeaseTtl))

/-- `rewind_watermark`, called with the version of the lease and not with the version read for
the report. -/
def rewindUnderLease (lease : TableLease) (pipelineName sourceTable : String)
    (target : CursorPosition) : RewindProgram Watermark := do
  let now ← call .utcNow
  call (.transaction (.rewindWatermark pipelineName sourceTable lease.ownerId
    lease.watermarkVersion target now))

/-- `pipeline_name or f"{source_table}_bronze"`. -/
def resolvedPipeline (pipelineName : Option String) (sourceTable : String) : String :=
  match pipelineName with
  | some name => if name = "" then sourceTable ++ "_bronze" else name
  | none => sourceTable ++ "_bronze"

/-- The rest of one round of the loop, without `dry_run`. -/
def rewindTo (pipelineName sourceTable : String) (current : Watermark) (target : CursorPosition) :
    RewindProgram RewindOutcome := do
  let ownerId ← call .uuid4
  let lease ← acquireLease pipelineName sourceTable ownerId
  let rewound ← (rewindUnderLease lease pipelineName sourceTable target).always
    (call (.transaction (.releaseTableLease lease)))
  return ⟨sourceTable, pipelineName, current.cursor, rewound.cursor, current.version,
    rewound.version⟩

/-- One round of the loop. -/
def rewindTable (boundary : Timestamp) (pipelineName : Option String) (dryRun : Bool)
    (sourceTable : String) : RewindProgram RewindOutcome := do
  let config ← Script.ofExcept (tableConfig sourceTable)
  let target ← call (.cursorBeforeTimestamp config boundary)
  let now ← call .utcNow
  let current ← call (.transaction (.getOrCreateWatermark
    (resolvedPipeline pipelineName sourceTable) sourceTable now))
  if dryRun then
    return ⟨sourceTable, resolvedPipeline pipelineName sourceTable, current.cursor, target,
      current.version, current.version⟩
  else rewindTo (resolvedPipeline pipelineName sourceTable) sourceTable current target

/-- `rewind_tables`. -/
def rewindTables (boundary : Timestamp) (pipelineName : Option String) (dryRun : Bool) :
    List String → RewindProgram (List RewindOutcome)
  | [] => return []
  | sourceTable :: rest => do
    let outcome ← rewindTable boundary pipelineName dryRun sourceTable
    let outcomes ← rewindTables boundary pipelineName dryRun rest
    return outcome :: outcomes

/-! ## Its runs -/

/-- What an operation does to the metadata. The clock, the new identifiers and the Source,
which changes meanwhile, may answer anything. -/
inductive RewindExec (db : Db) : (op : RewindEffect) → Except Raised op.Resp → Db → Prop where
  | cursorBeforeTimestamp (config : TableConfig) (boundary : Timestamp)
      (r : Except Raised CursorPosition) :
      RewindExec db (.cursorBeforeTimestamp config boundary) r db
  | transaction {op : Op} {a : op.Resp} {db' : Db} (h : op.run db = .ok (a, db')) :
      RewindExec db (.transaction op) (.ok a) db'
  /-- It raises, by itself or because the connection fails. -/
  | raised (op : Op) (e : Raised) : RewindExec db (.transaction op) (.error e) db
  /-- The connection fails when the transaction is over. -/
  | lost {op : Op} {a : op.Resp} {db' : Db} (e : Raised) (h : op.run db = .ok (a, db')) :
      RewindExec db (.transaction op) (.error e) db'
  | utcNow (now : Timestamp) : RewindExec db .utcNow (.ok now) db
  | uuid4 (id : RunId) : RewindExec db .uuid4 (.ok id) db

/-- An entry of a run of `rewind_tables` among other transactions. -/
abbrev RewindNote := Note Db RewindEffect RewindEffect.Resp Raised Event

/-- A run of `rewind_tables` among the metadata transactions of other processes, any number of
them between any two operations. -/
abbrev RewindRun {α : Type} (x : RewindProgram α) (db : Db) (tr : List RewindNote)
    (out : Except Raised α) (db' : Db) : Prop := Among RewindExec Step x db tr out db'

/-- The cursor update of an entry: its watermark and the database it found. -/
def updateOf : RewindNote → Option (WatermarkKey × Db)
  | .own db (.transaction (.rewindWatermark p t _ _ _ _)) (.ok _) => some ((p, t), db)
  | _ => none

/-- The updates of a run, oldest first. -/
def updates (tr : List RewindNote) : List (WatermarkKey × Db) := tr.filterMap updateOf

/-- The version an entry read. -/
def versionRead : RewindNote → Option Nat
  | .own db (.transaction (.getOrCreateWatermark p t _)) (.ok _) => some (db.versionAt (p, t))
  | _ => none

/-- The version an entry took a lease at. -/
def versionTaken : RewindNote → Option Nat
  | .own db (.transaction (.takeTableLease p t _ _ _)) (.ok _) => some (db.versionAt (p, t))
  | _ => none

/-- Every lease is taken at the version that was read before it: no transaction has moved
the watermark since. `read` is the version read for the lease that is to be taken next;
`acquire_table_lease` reads the row again, which counts for nothing. -/
def TakenAsRead : Option Nat → List RewindNote → Prop
  | _, [] => True
  | read, note :: tr =>
    match versionTaken note with
    | some v => (∀ r ∈ read, v = r) ∧ TakenAsRead none tr
    | none => TakenAsRead (read.or (versionRead note)) tr

/-- The report of an update is true: it moved that watermark, replaced that cursor and counted
one version, from the `version_before` it names. -/
structure Truthful (o : RewindOutcome) (update : WatermarkKey × Db) : Prop where
  key : update.1 = (o.pipelineName, o.sourceTable)
  cursor : o.cursorBefore = update.2.cursorAt update.1
  version : o.versionAfter = o.versionBefore + 1

theorem updates_append (tr tr' : List RewindNote) :
    updates (tr ++ tr') = updates tr ++ updates tr' := List.filterMap_append

theorem updates_others (es : List Event) : updates (others es) = [] := by
  induction es with
  | nil => rfl
  | cons ev es ih => exact ih

theorem takenAsRead_others (read : Option Nat) (es : List Event) (tr : List RewindNote) :
    TakenAsRead read (others es ++ tr) ↔ TakenAsRead read tr := by
  induction es with
  | nil => exact Iff.rfl
  | cons ev es ih =>
    show TakenAsRead (read.or none) (others es ++ tr) ↔ _
    rw [Option.or_none]
    exact ih

/-- `db'` is a later state of watermark `k`: its version is no smaller, and where it is the same,
so is the cursor. Every metadata transaction leaves such a state. -/
structure Later (k : WatermarkKey) (db db' : Db) : Prop where
  version : db.versionAt k ≤ db'.versionAt k
  cursor : db'.versionAt k = db.versionAt k → db'.cursorAt k = db.cursorAt k

namespace Later

variable {k : WatermarkKey} {db db' db'' : Db}

theorem refl (k : WatermarkKey) (db : Db) : Later k db db := ⟨le_rfl, fun _ => rfl⟩

theorem trans (h : Later k db db') (h' : Later k db' db'') : Later k db db'' where
  version := h.version.trans h'.version
  cursor := by
    intro hsame
    have hmid := h.version
    have hlast := h'.version
    have hfirst : db'.versionAt k = db.versionAt k := by omega
    have hsecond : db''.versionAt k = db'.versionAt k := by omega
    rw [h'.cursor hsecond, h.cursor hfirst]

theorem event (k : WatermarkKey) (ev : Event) : Later k ev.before ev.after where
  version := by
    rw [ev.versionAt_after]
    omega
  cursor := by
    rw [ev.versionAt_after, ev.cursorAt_after]
    cases ev.move k with
    | none => exact fun _ => rfl
    | some m =>
      intro hsame
      simp at hsame

theorem run {es : List Event} (h : Run Step db es db') (k : WatermarkKey) : Later k db db' := by
  refine h.invariant (I := fun t => Later k db t) (refl k db) ?_
  intro t ev u ht hstep
  obtain ⟨rfl, rfl⟩ := hstep
  exact ht.trans (event k ev)

theorem transaction {op : Op} {a : op.Resp} (h : op.run db = .ok (a, db')) (k : WatermarkKey) :
    Later k db db' := by
  have hafter : (Event.mk db op).after = db' := by
    unfold Event.after
    rw [Op.apply_of_run h]
  exact hafter ▸ event k ⟨db, op⟩

end Later

theorem watermarkOrFresh_cursor (db : Db) (k : WatermarkKey) (now : Timestamp) :
    (db.watermarkOrFresh k now).cursor = db.cursorAt k := by
  unfold Db.watermarkOrFresh Db.cursorAt
  cases db.watermarks.get k <;> rfl

theorem watermarkOrFresh_version (db : Db) (k : WatermarkKey) (now : Timestamp) :
    (db.watermarkOrFresh k now).version = db.versionAt k := by
  unfold Db.watermarkOrFresh Db.versionAt
  cases db.watermarks.get k <;> rfl

/-- The lease carries the version it was taken at. -/
theorem takeTableLease_version {p t : String} {owner : RunId} {now : Timestamp} {ttl : Int}
    {db db' : Db} {l : TableLease} (h : takeTableLease p t owner now ttl db = .ok (l, db')) :
    l.watermarkVersion = db.versionAt (p, t) := by
  unfold takeTableLease assertPositiveTtl at h
  simp only [bind_eq_ok, require_eq_ok, exists_const] at h
  obtain ⟨-, ⟨v, db₁⟩, hupd, hret⟩ := h
  injection hret with hret
  obtain ⟨rfl, rfl⟩ := Prod.mk.inj hret
  obtain ⟨row, hrow, -, hv, -⟩ := updateLease_eq_ok hupd
  rw [Db.versionAt_of_get hrow]
  exact hv

/-! ## What each part did when it returned -/

section Parts

variable {db db' : Db} {tr : List RewindNote} {p t : String}

/-- The notes of a part count neither as an update nor for a lease. -/
structure Uneventful (tr : List RewindNote) : Prop where
  updates : updates tr = []
  taken : ∀ read rest, TakenAsRead read (tr ++ rest) ↔ TakenAsRead read rest

/-- One transaction, after some of the others. -/
theorem transaction_ok {op : Op} {a : op.Resp}
    (h : RewindRun (call (.transaction op)) db tr (.ok a) db') :
    ∃ es mid, tr = others es ++ [.own mid (.transaction op) (.ok a)] ∧
      (∀ k, Later k db mid) ∧ op.run mid = .ok (a, db') := by
  obtain ⟨es, mid, htr, henv, hexec⟩ := among_perform_ok h
  cases hexec with
  | transaction hrun => exact ⟨es, mid, htr, Later.run henv, hrun⟩

/-- The notes of one operation that is neither a reading nor an acquisition. -/
theorem uneventful_own {es : List Event} {note : RewindNote} (hupdate : updateOf note = none)
    (hread : versionRead note = none) (htaken : versionTaken note = none) :
    Uneventful (others es ++ [note]) where
  updates := by
    rw [updates_append, updates_others]
    show [note].filterMap updateOf = []
    rw [List.filterMap_cons, hupdate]
    rfl
  taken := by
    intro read rest
    rw [List.append_assoc, takenAsRead_others]
    show (match versionTaken note with
      | some v => (∀ r ∈ read, v = r) ∧ TakenAsRead none rest
      | none => TakenAsRead (read.or (versionRead note)) rest) ↔ _
    rw [htaken, hread, Option.or_none]

theorem cursorBeforeTimestamp_ok {config : TableConfig} {boundary : Timestamp}
    {target : CursorPosition}
    (h : RewindRun (call (.cursorBeforeTimestamp config boundary)) db tr (.ok target) db') :
    Uneventful tr ∧ ∀ k, Later k db db' := by
  obtain ⟨es, mid, rfl, henv, hexec⟩ := among_perform_ok h
  cases hexec
  exact ⟨uneventful_own rfl rfl rfl, Later.run henv⟩

theorem utcNow_ok {now : Timestamp} (h : RewindRun (call .utcNow) db tr (.ok now) db') :
    Uneventful tr ∧ ∀ k, Later k db db' := by
  obtain ⟨es, mid, rfl, henv, hexec⟩ := among_perform_ok h
  cases hexec
  exact ⟨uneventful_own rfl rfl rfl, Later.run henv⟩

theorem uuid4_ok {id : RunId} (h : RewindRun (call .uuid4) db tr (.ok id) db') :
    Uneventful tr ∧ ∀ k, Later k db db' := by
  obtain ⟨es, mid, rfl, henv, hexec⟩ := among_perform_ok h
  cases hexec
  exact ⟨uneventful_own rfl rfl rfl, Later.run henv⟩

theorem releaseTableLease_ok {lease : TableLease}
    (h : RewindRun (call (.transaction (.releaseTableLease lease))) db tr (.ok ()) db') :
    Uneventful tr := by
  obtain ⟨es, mid, rfl, -, -⟩ := transaction_ok h
  exact uneventful_own rfl rfl rfl

/-- `get_or_create_watermark` answers the row as it is. -/
theorem getOrCreateWatermark_ok {now : Timestamp} {w : Watermark}
    (h : RewindRun (call (.transaction (.getOrCreateWatermark p t now))) db tr (.ok w) db') :
    ∃ mid, w.cursor = mid.cursorAt (p, t) ∧ w.version = mid.versionAt (p, t) ∧
      (∀ k, Later k db mid) ∧ (∀ k, Later k mid db') ∧ updates tr = [] ∧
      ∀ read rest, TakenAsRead read (tr ++ rest) ↔
        TakenAsRead (read.or (some w.version)) rest := by
  obtain ⟨es, mid, rfl, hbefore, hrun⟩ := transaction_ok h
  obtain ⟨-, -, hw, -⟩ := getOrCreateWatermark_eq_ok.1 hrun
  have hversion : w.version = mid.versionAt (p, t) := by rw [hw, watermarkOrFresh_version]
  refine ⟨mid, by rw [hw, watermarkOrFresh_cursor], hversion, hbefore, Later.transaction hrun,
    ?_, fun read rest => ?_⟩
  · rw [updates_append, updates_others]
    rfl
  · rw [List.append_assoc, takenAsRead_others, hversion]
    rfl

/-- `acquire_table_lease`: the lease carries the version of the row it was taken on. -/
theorem acquireLease_ok {owner : RunId} {lease : TableLease}
    (h : RewindRun (acquireLease p t owner) db tr (.ok lease) db') :
    ∃ mid, lease.watermarkVersion = mid.versionAt (p, t) ∧
      (∀ k, Later k db mid) ∧ (∀ k, Later k mid db') ∧ updates tr = [] ∧
      ∀ v rest, TakenAsRead (some v) (tr ++ rest) ↔
        mid.versionAt (p, t) = v ∧ TakenAsRead none rest := by
  obtain ⟨now, db₁, tr₁, tr', rfl, hnow, h⟩ := among_bind_ok h
  obtain ⟨w, db₂, tr₂, tr₃, rfl, hread, htake⟩ := among_bind_ok h
  obtain ⟨hquiet, hnow⟩ := utcNow_ok hnow
  obtain ⟨mid₁, -, -, hbefore₁, hafter₁, hupdates₁, htaken₁⟩ := getOrCreateWatermark_ok hread
  obtain ⟨es, mid, rfl, hbefore, hrun⟩ := transaction_ok htake
  refine ⟨mid, takeTableLease_version hrun, fun k => ?_, Later.transaction hrun, ?_,
    fun v rest => ?_⟩
  · exact (hnow k).trans ((hbefore₁ k).trans ((hafter₁ k).trans (hbefore k)))
  · rw [updates_append, updates_append, hquiet.updates, hupdates₁, updates_append, updates_others]
    rfl
  · -- the second reading does not count: the first one is still waiting for its lease
    rw [List.append_assoc, hquiet.taken, List.append_assoc, htaken₁, List.append_assoc,
      takenAsRead_others]
    show (∀ r ∈ some v, mid.versionAt (p, t) = r) ∧ TakenAsRead none rest ↔ _
    simp

/-- `rewind_watermark`: the row still has the version of the lease. -/
theorem rewindUnderLease_ok {lease : TableLease} {target : CursorPosition} {w : Watermark}
    (h : RewindRun (rewindUnderLease lease p t target) db tr (.ok w) db') :
    ∃ mid, updates tr = [((p, t), mid)] ∧ mid.versionAt (p, t) = lease.watermarkVersion ∧
      w.version = lease.watermarkVersion + 1 ∧ (∀ k, Later k db mid) ∧
      ∀ read rest, TakenAsRead read (tr ++ rest) ↔ TakenAsRead read rest := by
  obtain ⟨now, db₁, tr₁, tr₂, rfl, hnow, h⟩ := among_bind_ok h
  obtain ⟨hquiet, hnow⟩ := utcNow_ok hnow
  obtain ⟨es, mid, rfl, hbefore, hrun⟩ := transaction_ok h
  obtain ⟨row, hrow, howns, -, rfl, -⟩ := rewindWatermark_eq_ok hrun
  refine ⟨mid, ?_, ?_, rfl, fun k => (hnow k).trans (hbefore k), fun read rest => ?_⟩
  · rw [updates_append, updates_append, hquiet.updates, updates_others]
    rfl
  · rw [Db.versionAt_of_get hrow]
    exact howns.1
  · rw [List.append_assoc, hquiet.taken, List.append_assoc, takenAsRead_others]
    show TakenAsRead (read.or none) rest ↔ _
    rw [Option.or_none]

end Parts

/-- One round: its one update, and when its report is true. The two directions meet in `Later`:
between reading and lease the version was equal or it grew. -/
theorem rewindTable_ok {boundary : Timestamp} {pipelineName : Option String} {t : String}
    {db db' : Db} {tr : List RewindNote} {o : RewindOutcome}
    (h : RewindRun (rewindTable boundary pipelineName false t) db tr (.ok o) db') :
    ∃ u, updates tr = [u] ∧
      ∀ rest, TakenAsRead none (tr ++ rest) ↔ Truthful o u ∧ TakenAsRead none rest := by
  -- the statements of the body in their order, each with the state and the notes it leaves
  obtain ⟨config, db₁, tr₁, tr', rfl, hconfig, h⟩ := among_bind_ok h
  obtain ⟨target, db₂, tr₂, tr', rfl, htarget, h⟩ := among_bind_ok h
  obtain ⟨now, db₃, tr₃, tr', rfl, hnow, h⟩ := among_bind_ok h
  obtain ⟨current, db₄, tr₄, tr', rfl, hread, h⟩ := among_bind_ok h
  obtain ⟨owner, db₅, tr₅, tr', rfl, howner, h⟩ := among_bind_ok h
  obtain ⟨lease, db₆, tr₆, tr', rfl, hacquire, h⟩ := among_bind_ok h
  obtain ⟨rewound, db₇, tr₇, tr', rfl, hrewind, h⟩ := among_bind_ok h
  obtain ⟨rfl, rfl, rfl⟩ := among_pure_ok h
  obtain ⟨-, rfl, rfl⟩ := among_ofExcept_ok hconfig
  obtain ⟨db₈, tr₈, tr₉, rfl, hrewind, hrelease⟩ := among_always_ok hrewind
  -- what each of them says of the watermark; only the read, the lease and the update say anything
  obtain ⟨hquiet₂, -⟩ := cursorBeforeTimestamp_ok htarget
  obtain ⟨hquiet₃, -⟩ := utcNow_ok hnow
  obtain ⟨read, hcursor, hversion, -, hread, hupdates₄, htaken₄⟩ := getOrCreateWatermark_ok hread
  obtain ⟨hquiet₅, howner⟩ := uuid4_ok howner
  obtain ⟨taken, hlease, hbefore, hafter, hupdates₆, htaken₆⟩ := acquireLease_ok hacquire
  obtain ⟨mid, hupdates₈, hmid, hrewound, hlast, htaken₈⟩ := rewindUnderLease_ok hrewind
  have hquiet₉ := releaseTableLease_ok hrelease
  refine ⟨((resolvedPipeline pipelineName t, t), mid), ?_, fun rest => ?_⟩
  · simp only [updates_append, hquiet₂.updates, hquiet₃.updates, hupdates₄, hquiet₅.updates,
      hupdates₆, hupdates₈, hquiet₉.updates, List.nil_append, List.append_nil]
  · simp only [List.nil_append, List.append_nil, List.append_assoc, hquiet₂.taken, hquiet₃.taken,
      htaken₄, Option.none_or, hquiet₅.taken, htaken₆, htaken₈, hquiet₉.taken]
    refine and_congr_left fun _ => ?_
    -- the two stretches of time: from the read to the lease, and from the lease to the update
    have hgap := (hread (resolvedPipeline pipelineName t, t)).trans
      ((howner _).trans (hbefore _))
    have hheld := (hafter (resolvedPipeline pipelineName t, t)).trans (hlast _)
    constructor
    · -- nothing moved it up to the lease, and nothing between the lease and the update
      intro hsame
      refine ⟨rfl, ?_, ?_⟩
      · show current.cursor = mid.cursorAt _
        rw [hcursor, hheld.cursor (hmid.trans hlease), hgap.cursor (hsame.trans hversion)]
      · show rewound.version = current.version + 1
        rw [hrewound, hlease, hsame]
    · intro htrue
      have hcount : rewound.version = current.version + 1 := htrue.version
      -- the update adds one to the version the lease carries, so the lease carries the one read
      rw [hrewound, hlease] at hcount
      omega

/-- The reports of `rewind_tables` are true exactly when each lease was taken at the version that
was read before: over every list of tables and every run among other transactions, by
induction on the tables. -/
theorem rewindTables_truthful_iff {boundary : Timestamp} {pipelineName : Option String}
    {sourceTables : List String} {db db' : Db} {tr : List RewindNote}
    {outcomes : List RewindOutcome}
    (h : RewindRun (rewindTables boundary pipelineName false sourceTables) db tr (.ok outcomes)
      db') :
    List.Forall₂ Truthful outcomes (updates tr) ↔ TakenAsRead none tr := by
  induction sourceTables generalizing db tr outcomes with
  | nil =>
    obtain ⟨rfl, rfl, rfl⟩ := among_pure_ok h
    exact ⟨fun _ => trivial, fun _ => .nil⟩
  | cons t rest ih =>
    obtain ⟨o, db₁, tr₁, tr', rfl, hone, h⟩ := among_bind_ok h
    obtain ⟨os, db₂, tr₂, tr₃, rfl, hrest, h⟩ := among_bind_ok h
    obtain ⟨rfl, rfl, rfl⟩ := among_pure_ok h
    obtain ⟨u, hupdates, htaken⟩ := rewindTable_ok hone
    rw [List.append_nil, updates_append, hupdates, htaken, ← ih hrest]
    show List.Forall₂ Truthful (o :: os) (u :: updates tr₂) ↔ _
    exact List.forall₂_cons

/-- `watermarks` with one row of `orders`. -/
private def ordersAt (cursor : CursorPosition) (lease : Option LeaseColumns) (version : Nat)
    (updatedAt : Timestamp) : Db :=
  { Db.empty with
    watermarks := Db.empty.watermarks.insert
      ⟨"orders_bronze", "orders", cursor, lease, version, updatedAt⟩ rfl }

private def late : CursorPosition := .of 3600 (.text "o-2")

private def early : CursorPosition := .of 1800 (.text "o-1")

private def othersLease : LeaseColumns := ⟨9, 20 + defaultTableLeaseTtl⟩

private def ownLease : LeaseColumns := ⟨7, 40 + defaultTableLeaseTtl⟩

/-- Another rewind, from `late` to `early`. -/
private def otherRewind : List Event :=
  [⟨ordersAt late none 1 0,
      .takeTableLease "orders_bronze" "orders" 9 20 defaultTableLeaseTtl⟩,
    ⟨ordersAt late (some othersLease) 1 0, .rewindWatermark "orders_bronze" "orders" 9 1 early 30⟩,
    ⟨ordersAt early (some othersLease) 2 30,
      .releaseTableLease ⟨"orders_bronze", "orders", 9, 20 + defaultTableLeaseTtl, 1⟩⟩]

private theorem otherRewind_run :
    Run Step (ordersAt late none 1 0) otherRewind (ordersAt early none 2 30) :=
  ((Run.nil.snoc ⟨rfl, rfl⟩).snoc ⟨rfl, rfl⟩).snoc ⟨rfl, rfl⟩

private def othersOutcome : RewindOutcome :=
  ⟨"orders", "orders_bronze", late, .initial, 1, 3⟩

private def overtakenNotes : List RewindNote :=
  [.own (ordersAt late none 1 0) (.cursorBeforeTimestamp ordersTable 0) (.ok .initial),
    .own (ordersAt late none 1 0) .utcNow (.ok 10),
    .own (ordersAt late none 1 0)
      (.transaction (.getOrCreateWatermark "orders_bronze" "orders" 10))
      (.ok (⟨"orders_bronze", "orders", late, 1⟩ : Watermark))] ++
  others otherRewind ++
  [.own (ordersAt early none 2 30) .uuid4 (.ok (7 : Nat)),
    .own (ordersAt early none 2 30) .utcNow (.ok 40),
    .own (ordersAt early none 2 30)
      (.transaction (.getOrCreateWatermark "orders_bronze" "orders" 40))
      (.ok (⟨"orders_bronze", "orders", early, 2⟩ : Watermark)),
    .own (ordersAt early none 2 30)
      (.transaction (.takeTableLease "orders_bronze" "orders" 7 40 defaultTableLeaseTtl))
      (.ok (⟨"orders_bronze", "orders", 7, 40 + defaultTableLeaseTtl, 2⟩ : TableLease)),
    .own (ordersAt early (some ownLease) 2 30) .utcNow (.ok 50),
    .own (ordersAt early (some ownLease) 2 30)
      (.transaction (.rewindWatermark "orders_bronze" "orders" 7 2 .initial 50))
      (.ok (⟨"orders_bronze", "orders", .initial, 3⟩ : Watermark)),
    .own (ordersAt .initial (some ownLease) 3 50)
      (.transaction (.releaseTableLease ⟨"orders_bronze", "orders", 7,
        40 + defaultTableLeaseTtl, 2⟩)) (.ok ())]

private theorem overtaken_run :
    RewindRun (rewindTables 0 none false ["orders"]) (ordersAt late none 1 0) overtakenNotes
      (.ok [othersOutcome]) (ordersAt .initial none 3 50) := by
  unfold overtakenNotes
  refine .call .nil (.cursorBeforeTimestamp ordersTable 0 (.ok .initial)) ?_
  refine .call .nil (.utcNow 10) ?_
  refine .call .nil (.transaction rfl) ?_
  refine .call otherRewind_run (.uuid4 7) ?_
  refine .call .nil (.utcNow 40) ?_
  refine .call .nil (.transaction rfl) ?_
  refine .call .nil (.transaction rfl) ?_
  refine .call .nil (.utcNow 50) ?_
  refine .call .nil (.transaction rfl) ?_
  refine .call .nil (.transaction rfl) ?_
  exact .ret _ _

/-- The report says that version 1 at `late` was replaced; version 2 at `early` was. -/
theorem rewindTables_overtaken :
    ¬ ∀ (boundary : Timestamp) (pipelineName : Option String) (sourceTables : List String)
      (db db' : Db) (tr : List RewindNote) (outcomes : List RewindOutcome),
      RewindRun (rewindTables boundary pipelineName false sourceTables) db tr (.ok outcomes) db' →
      List.Forall₂ Truthful outcomes (updates tr) := by
  intro h
  have hall := h 0 none ["orders"] _ _ _ _ overtaken_run
  cases hall with
  | cons hone _ => exact absurd hone.version (by decide)

theorem rewindTables_truthful_overtaken :
    ∃ (db db' : Db) (tr : List RewindNote) (outcomes : List RewindOutcome),
      RewindRun (rewindTables 0 none false ["orders"]) db tr (.ok outcomes) db' ∧
      outcomes.length = 1 ∧
      (List.Forall₂ Truthful outcomes (updates tr) ↔ TakenAsRead none tr) :=
  ⟨_, _, _, _, overtaken_run, rfl, rewindTables_truthful_iff overtaken_run⟩

end CommercePlatform.Ingestion
