import CommercePlatform.Control.WatermarkChain
import CommercePlatform.Extraction.SourceTable
/-!
# Rewinding to a boundary

`cursor_before_timestamp` looks for the last cursor before a boundary, in a query of its
own that runs downward; `rewind_watermark` accepts it by the comparison of the code; the
next extraction reads everything strictly above it, by the comparison of the database.
The three agree: what is read again is what lies at the boundary or after it
(`rewind_exact`).

The query runs in the order of the database and the check in that of the code, so the
proof first finds the row the query returns (`rowBefore_eq_some`): it lies below the
boundary and no row below the boundary has a later cursor. A row is therefore above the
target exactly when it is at the boundary or after it (`cursorBeforeTimestamp_eq`), in
the database's order, and the two orders agree on the cursors of one table
(`Extraction/SqlOrder`).

The other half is what the rewind leaves behind. A rewind whose target is not earlier,
or that finds another version or no lease, raises, and the transaction leaves every
watermark as it was; one that returns moves this watermark and no other.
-/

namespace CommercePlatform

namespace SourceTable

variable {config : TableConfig} (table : SourceTable config)

/-- The row `cursor_before_timestamp` fetches: the first one downward below the boundary. -/
def rowBefore (boundary : Timestamp) : Option (StoredRow config) :=
  ((table.rows.filter fun r => r.cursor.timestamp < boundary).insertionSort
    fun a b => cursor b ≤ cursor a).head?

/-- `cursor_before_timestamp`. -/
def cursorBeforeTimestamp (boundary : Timestamp) : Except Raised CursorPosition :=
  match table.rowBefore boundary with
  | none => .ok .initial
  | some r => do
    let keys ← cursorKeyValues config r.values
    CursorPosition.at r.cursor.timestamp keys

theorem rowBefore_eq_none {boundary : Timestamp} (h : table.rowBefore boundary = none) :
    ∀ r ∈ table.rows, boundary ≤ r.cursor.timestamp := by
  intro r hr
  rw [rowBefore, List.head?_eq_none_iff] at h
  have hperm := List.perm_insertionSort (fun a b => cursor b ≤ cursor a)
    (table.rows.filter fun r => r.cursor.timestamp < boundary)
  rw [h] at hperm
  have hempty := List.filter_eq_nil_iff.1 hperm.nil_eq.symm r hr
  exact not_lt.1 fun hbelow => hempty (decide_eq_true hbelow)

/-- The row found lies below the boundary, and no row below it has a later cursor: the first row
of a downward query. -/
theorem rowBefore_eq_some {boundary : Timestamp} {last : StoredRow config}
    (h : table.rowBefore boundary = some last) :
    last.cursor.timestamp < boundary ∧
      ∀ r ∈ table.rows, r.cursor.timestamp < boundary → cursor r ≤ cursor last := by
  obtain ⟨rest, hrest⟩ := List.head?_eq_some_iff.1 h
  have hperm := List.perm_insertionSort (fun a b => cursor b ≤ cursor a)
    (table.rows.filter fun r => r.cursor.timestamp < boundary)
  have : Std.Total fun a b : StoredRow config => cursor b ≤ cursor a :=
    ⟨fun a b => le_total (cursor b) (cursor a)⟩
  have : IsTrans (StoredRow config) fun a b => cursor b ≤ cursor a :=
    ⟨fun _ _ _ hab hbc => hbc.trans hab⟩
  have hsorted := List.pairwise_insertionSort (fun a b => cursor b ≤ cursor a)
    (table.rows.filter fun r => r.cursor.timestamp < boundary)
  rw [hrest] at hperm hsorted
  have hlast := hperm.mem_iff.1 List.mem_cons_self
  refine ⟨of_decide_eq_true (List.mem_filter.1 hlast).2, fun r hr hbelow => ?_⟩
  have hmem : r ∈ last :: rest :=
    hperm.mem_iff.2 (List.mem_filter.2 ⟨hr, decide_eq_true hbelow⟩)
  rcases List.mem_cons.1 hmem with he | hr
  · rw [he]
  · exact (List.pairwise_cons.1 hsorted).1 r hr

/-- A row lies above the target exactly when it lies at the boundary or after it, so the rewind
neither skips a row nor reads one too many. -/
theorem cursorBeforeTimestamp_eq (boundary : Timestamp) :
    ∃ target : WithBot (SqlCursor config),
      table.cursorBeforeTimestamp boundary = .ok (SqlCursor.normalized target) ∧
      ∀ r ∈ table.rows, target < cursor r ↔ boundary ≤ r.cursor.timestamp := by
  unfold cursorBeforeTimestamp
  cases h : table.rowBefore boundary with
  | none =>
    refine ⟨⊥, rfl, fun r hr => ?_⟩
    have habove := table.rowBefore_eq_none h r hr
    exact ⟨fun _ => habove, fun _ => WithBot.bot_lt_coe r.cursor⟩
  | some last =>
    obtain ⟨hbelow, hlast⟩ := table.rowBefore_eq_some h
    refine ⟨last.cursor, ?_, fun r hr => ?_⟩
    · have hne : last.cursor.keys.map SqlKey.normalized ≠ [] := by simp [last.cursor.keys_ne_nil]
      simp only [last.cursorKeyValues_eq, Bind.bind, Except.bind, CursorPosition.at, hne, dite_false]
      rfl
    · constructor
      · -- a row before the boundary would not lie above the last of them
        intro hlt
        by_contra hr'
        exact absurd hlt (hlast r hr (not_le.1 hr')).not_gt
      · -- the timestamps decide, whatever the keys are
        intro hle
        have htime : last.cursor.timestamp < r.cursor.timestamp := lt_of_lt_of_le hbelow hle
        have hcursor : last.cursor < r.cursor := Prod.Lex.toLex_lt_toLex.2 (.inl htime)
        exact WithBot.coe_lt_coe.2 hcursor

/-- The watermark after a rewind that returned, and what an extraction from it reads. -/
structure Rewound (boundary : Timestamp) (pageSize : Nat) (key : WatermarkKey)
    (target : CursorPosition) (db db' : Db) : Prop where
  /-- The watermark was moved down to the target, -/
  cursor : db'.cursorAt key = target
  earlier : target < db.cursorAt key
  version : db'.versionAt key = db.versionAt key + 1
  /-- which is a watermark the extraction can start from, -/
  readable : ∃ watermark : WithBot (SqlCursor config), SqlCursor.normalized watermark = target
  /-- and from it the extraction reads the rows at the boundary and after it, -/
  rows : ∀ watermark : WithBot (SqlCursor config), SqlCursor.normalized watermark = target →
    ∀ r, r ∈ (table.pages watermark pageSize).flatten ↔
      r ∈ table.rows ∧ boundary ≤ r.cursor.timestamp
  /-- each of them once. -/
  once : ∀ watermark : WithBot (SqlCursor config), SqlCursor.normalized watermark = target →
    (table.pages watermark pageSize).flatten.Nodup

/-- A rewind to the target either moves the watermark as it should, or raises and leaves every
watermark alone. -/
def RewindExact (boundary : Timestamp) (pageSize : Nat) (pipelineName : String)
    (ownerId : RunId) (expectedVersion : Nat) (target : CursorPosition) (now : Timestamp)
    (db : Db) : Prop :=
  match rewindWatermark pipelineName config.sourceTable ownerId expectedVersion target now db with
  | .ok (_, db') => table.Rewound boundary pageSize (pipelineName, config.sourceTable) target db db'
  | .error _ =>
    (Event.mk db (.rewindWatermark pipelineName config.sourceTable ownerId expectedVersion target
      now)).after.watermarks = db.watermarks

/-- The rows an extraction reads from a watermark, bound and all. -/
theorem mem_pages {watermark : WithBot (SqlCursor config)} {pageSize : Nat} (hsize : 0 < pageSize)
    {r : StoredRow config} :
    r ∈ (table.pages watermark pageSize).flatten ↔ r ∈ table.rows ∧ watermark < cursor r := by
  unfold pages
  cases hupper : table.upperBound watermark with
  | none =>
    have hnone := fetchUpperBound_eq_none.1 hupper
    simp only [List.flatten_nil, List.not_mem_nil, false_iff, not_and, not_lt]
    exact hnone r
  | some upper =>
    show r ∈ (CommercePlatform.pages cursor table.rows watermark upper pageSize).flatten ↔ _
    rw [pages_flatten table.cursors_nodup hsize]
    exact mem_orderedRange_fetchUpperBound hupper

theorem pages_nodup (watermark : WithBot (SqlCursor config)) {pageSize : Nat}
    (hsize : 0 < pageSize) : (table.pages watermark pageSize).flatten.Nodup := by
  unfold pages
  cases hupper : table.upperBound watermark with
  | none => exact List.nodup_nil
  | some upper =>
    show (CommercePlatform.pages cursor table.rows watermark upper pageSize).flatten.Nodup
    rw [pages_flatten table.cursors_nodup hsize]
    exact (orderedRange_pairwise table.cursors_nodup).imp fun hlt he =>
      absurd (congrArg cursor he) hlt.ne

/-- Rewinding to the cursor before a boundary is exact. -/
theorem rewind_exact (boundary : Timestamp) {pageSize : Nat} (hsize : 0 < pageSize)
    (pipelineName : String) (ownerId : RunId) (expectedVersion : Nat) (now : Timestamp) (db : Db) :
    ∃ target, table.cursorBeforeTimestamp boundary = .ok target ∧
      table.RewindExact boundary pageSize pipelineName ownerId expectedVersion target now db := by
  obtain ⟨target, htarget, habove⟩ := table.cursorBeforeTimestamp_eq boundary
  refine ⟨_, htarget, ?_⟩
  unfold RewindExact
  split
  next w db' hok =>
    obtain ⟨row, hrow, -, hlt, -, hdb⟩ := rewindWatermark_eq_ok hok
    obtain ⟨hcursor, hversion⟩ := advance_at hrow (congrArg Db.watermarks hdb)
      (pipelineName, config.sourceTable)
    -- the order of the code has one watermark for the target
    have hone : ∀ watermark, SqlCursor.normalized watermark = SqlCursor.normalized target →
        watermark = target := fun _ h => SqlCursor.normalized_strictMono.injective h
    constructor
    case cursor => simpa using hcursor
    case earlier => rwa [Db.cursorAt_of_get hrow]
    case version => simpa using hversion
    case readable => exact ⟨target, rfl⟩
    case rows =>
      intro watermark hwatermark r
      rw [hone watermark hwatermark, table.mem_pages hsize]
      exact and_congr_right fun hr => habove r hr
    case once =>
      intro watermark _
      exact table.pages_nodup watermark hsize
  next e herror =>
    have hraised : (Event.mk db (.rewindWatermark pipelineName config.sourceTable ownerId
        expectedVersion (SqlCursor.normalized target) now)).after = db := by
      simp only [Event.after, Op.apply, stateOf, herror, Except.map]
    rw [hraised]

/-! Both items lie at the boundary: the rewind goes back to the start. -/

def twoItemsRead : Db :=
  { Db.empty with
    watermarks := Db.empty.watermarks.insert
      ⟨"order_items_bronze", "order_items", (itemRow "a" 10).cursor.position, some ⟨1, 100⟩, 3, 0⟩
      rfl }

theorem twoItems_rewind :
    (∃ r, rewindWatermark "order_items_bronze" "order_items" 1 3 .initial 50 twoItemsRead = .ok r) ∧
    ∃ target, twoItems.cursorBeforeTimestamp 7 = .ok target ∧
      twoItems.RewindExact 7 1 "order_items_bronze" 1 3 target 50 twoItemsRead :=
  ⟨⟨_, rfl⟩, twoItems.rewind_exact 7 (by decide) "order_items_bronze" 1 3 50 twoItemsRead⟩

end SourceTable

end CommercePlatform
