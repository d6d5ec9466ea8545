import CommercePlatform.Extraction.Paging
import CommercePlatform.Extraction.SqlOrder
import CommercePlatform.Extraction.Validation
/-!
# Source tables under keyset pagination

A Source table as PostgreSQL holds it: rows whose cursor columns are typed and not null,
no two of them with one primary key. `TableSnapshot.pages` reads it in the order of the
database; the code compares the normalised cursors of what it reads. The pages are the
range `(watermark, bound]`, in both orders (`SourceTable.pages_exact`).

Two things have to agree for that. The cursor the code makes of a row (`sourceCursor`)
is the position of its SQL cursor, with UUIDs as their texts; and on such positions the
comparison of the code returns and is the order of the database
(`cursorInRange_position`), since keys of one table have the same types and compare as
UTF-8 under `COLLATE "C"`. The pagination itself is `Extraction/Paging`, used at the
order of the database and carried over by a monotone map.

Mirroring notes vs the source:
- A stored row has its cursor columns `NOT NULL` and typed, as the tables of the Source
  are declared; the other columns may hold anything the driver returns.
- The parameters of the query are the keys of a watermark, which are texts where the
  column is a UUID; PostgreSQL casts them back.
- A page is built by `SourceRecord`, whose columns are those of the query.
-/

namespace CommercePlatform

/-- `values[column]`. -/
def valueOf (values : List (String × SourceValue)) (column : String) : SourceValue :=
  (values.lookup column).getD .null

/-- One entry of `_cursor_key_values`. In a UUID column the text of a value counts; that
of a decimal, a datetime or an `object()`, which no UUID column yields, is left out. -/
def cursorKeyValue (column : SourceColumn) : SourceValue → Except Raised CursorKey
  | .text s => .ok (.text s)
  | .uuid u => if column.postgresUuid then .ok (.text u.text) else .error notAKey
  | .int n => .ok (if column.postgresUuid then .text (toString n) else .int n)
  | .bool b =>
    if column.postgresUuid then .ok (.text (if b then "True" else "False")) else .error notAKey
  | _ => .error notAKey
where
  notAKey : Raised := ⟨.typeError, "Source cursor keys must be strings or integers"⟩

/-- `_cursor_key_values`. The key columns of a table are among its columns. -/
def cursorKeyValues (config : TableConfig) (values : List (String × SourceValue)) :
    Except Raised (List CursorKey) :=
  config.cursorKeyColumns.mapM fun name =>
    match config.column name with
    | some column => cursorKeyValue column (valueOf values name)
    | none => .error ⟨.otherException, name⟩

/-- `CursorPosition(timestamp, keys)`. -/
def CursorPosition.at (timestamp : Timestamp) (keys : List CursorKey) :
    Except Raised CursorPosition :=
  if h : keys = [] then .error ⟨.valueError, "A cursor timestamp requires cursor keys"⟩
  else .ok ⟨some timestamp, keys, by simp [h]⟩

/-- `SourceRecord.cursor` of a row as it was read. -/
def sourceCursor (config : TableConfig) (values : List (String × SourceValue)) :
    Except Raised CursorPosition :=
  match valueOf values config.cursorTimestampColumn with
  | .timestamp t => do
    let keys ← cursorKeyValues config values
    CursorPosition.at t keys
  | _ => .error ⟨.typeError, "Source cursor timestamp must be a datetime"⟩

/-- A row of a Source table. Its cursor columns are `NOT NULL` and of their types. -/
structure StoredRow (config : TableConfig) where
  values : List (String × SourceValue)
  columns : values.map (·.1) = config.sourceColumns.map SourceColumn.name
  cursor : SqlCursor config
  timestampColumn : values.lookup config.cursorTimestampColumn = some (.timestamp cursor.timestamp)
  keyColumns : config.cursorKeyColumns.map (fun name => values.lookup name) = cursor.keys.map fun k => some k.value

/-- A column of the type of a key: the code makes of the key what it should. -/
theorem cursorKeyValue_eq {column : SourceColumn} {k : SqlKey}
    (h : column.keyType = some k.type) : cursorKeyValue column k.value = .ok k.normalized := by
  unfold SourceColumn.keyType at h
  cases k with
  | text s => rfl
  | int n =>
    split at h
    next =>
      split at h <;> cases h
    next =>
      split at h
      next => cases h
      next huuid => simp [cursorKeyValue, SqlKey.value, SqlKey.normalized, huuid]
    next => cases h
  | uuid u =>
    split at h
    next =>
      split at h
      next huuid => simp [cursorKeyValue, SqlKey.value, SqlKey.normalized, huuid]
      next => cases h
    next =>
      split at h <;> cases h
    next => cases h

private theorem cursorKeys_mapM {config : TableConfig} {values : List (String × SourceValue)} :
    ∀ {names : List String} {ks : List SqlKey},
      ks.map (fun k => some k.type) =
        names.map (fun name => (config.column name).bind SourceColumn.keyType) →
      names.map (fun name => values.lookup name) = ks.map (fun k => some k.value) →
      (names.mapM fun name =>
        match config.column name with
        | some column => cursorKeyValue column (valueOf values name)
        | none => .error ⟨.otherException, name⟩) = .ok (ks.map SqlKey.normalized)
  | [], [], _, _ => rfl
  | name :: names, k :: ks, htypes, hvalues => by
    obtain ⟨htype, htypes⟩ := List.cons.inj htypes
    obtain ⟨hvalue, hvalues⟩ := List.cons.inj hvalues
    obtain ⟨column, hcolumn, hkey⟩ := Option.bind_eq_some_iff.1 htype.symm
    have hlookup : values.lookup name = some k.value := hvalue
    have hv : valueOf values name = k.value := by rw [valueOf, hlookup, Option.getD_some]
    rw [List.mapM_cons, cursorKeys_mapM htypes hvalues, hcolumn]
    simp only [hv, cursorKeyValue_eq hkey]
    rfl

/-- The code reads the keys of every row: `_cursor_key_values` raises for none of them. -/
theorem StoredRow.cursorKeyValues_eq {config : TableConfig} (r : StoredRow config) :
    cursorKeyValues config r.values = .ok (r.cursor.keys.map SqlKey.normalized) :=
  cursorKeys_mapM r.cursor.typed r.keyColumns

/-- The cursor the code makes of a row is the position of its SQL cursor. -/
theorem StoredRow.sourceCursor_eq {config : TableConfig} (r : StoredRow config) :
    sourceCursor config r.values = .ok r.cursor.position := by
  have ht : valueOf r.values config.cursorTimestampColumn = .timestamp r.cursor.timestamp := by
    rw [valueOf, r.timestampColumn, Option.getD_some]
  have hne : r.cursor.keys.map SqlKey.normalized ≠ [] := by simp [r.cursor.keys_ne_nil]
  unfold sourceCursor
  rw [ht]
  simp only [r.cursorKeyValues_eq, Bind.bind, Except.bind, CursorPosition.at, hne, dite_false]
  rfl

section Comparison

variable {config : TableConfig}

theorem SqlCursor.types_eq (c d : SqlCursor config) :
    c.keys.map SqlKey.type = d.keys.map SqlKey.type := by
  have htypes : (c.keys.map SqlKey.type).map some = (d.keys.map SqlKey.type).map some := by
    rw [List.map_map, List.map_map]
    exact c.typed.trans d.typed.symm
  exact List.map_injective_iff.2 (Option.some_injective _) htypes

/-- Keys of one table always compare: no text meets an integer. -/
private theorem keysLt_defined : ∀ {ks ls : List SqlKey},
    ks.map SqlKey.type = ls.map SqlKey.type →
    ∃ b, keysLt (ks.map SqlKey.normalized) (ls.map SqlKey.normalized) = .ok b
  | [], [], _ => ⟨_, rfl⟩
  | k :: ks, l :: ls, h => by
    obtain ⟨htype, htypes⟩ := List.cons.inj h
    rw [List.map_cons, List.map_cons, keysLt.eq_def]
    dsimp only
    split
    next => exact keysLt_defined htypes
    next =>
      cases k <;> cases l <;> simp only [SqlKey.type, reduceCtorEq] at htype <;>
        exact ⟨_, rfl⟩

/-- The comparison of two cursors of one table returns, and is that of the cursors. -/
theorem candidateLe_position (c d : SqlCursor config) :
    candidateLe c.timestamp c.position.keys d.timestamp d.position.keys =
      .ok (decide (c.position ≤ d.position)) := by
  have hle : c.position ≤ d.position ↔ c.timestamp < d.timestamp ∨ c.timestamp = d.timestamp ∧
      c.position.keys.map CursorKey.rank ≤ d.position.keys.map CursorKey.rank := by
    show c.position.rank ≤ d.position.rank ↔ _
    rw [CursorPosition.rank_some (t := c.timestamp) rfl,
      CursorPosition.rank_some (t := d.timestamp) rfl, WithBot.coe_le_coe, Prod.Lex.toLex_le_toLex]
  unfold candidateLe
  -- the timestamps decide unless they are equal, and then the keys do, column by column
  by_cases ht : c.timestamp = d.timestamp
  · rw [if_pos ht]
    simp only [ht, lt_irrefl, true_and, false_or] at hle
    -- both keys have the column types of the table, so no comparison of two kinds can raise
    obtain ⟨b, hb⟩ := keysLt_defined (c.types_eq d)
    have hlt : b = true ↔ c.position.keys.map CursorKey.rank < d.position.keys.map CursorKey.rank :=
      keysLt_eq hb
    have hinj : Function.Injective CursorKey.rank := fun _ _ h => CursorKey.rank_inj h
    have heq : c.position.keys = d.position.keys ↔
        c.position.keys.map CursorKey.rank = d.position.keys.map CursorKey.rank :=
      (List.map_injective_iff.2 hinj).eq_iff.symm
    refine (keysLe_of_keysLt hb).trans (congrArg _ ?_)
    rw [Bool.eq_iff_iff, Bool.or_eq_true, decide_eq_true_iff, decide_eq_true_iff, hlt, hle,
      le_iff_lt_or_eq]
    exact or_congr_right heq
  · rw [if_neg ht]
    refine congrArg _ (decide_eq_decide.2 ?_)
    rw [hle]
    simp only [ht, false_and, or_false]
    exact ⟨fun h => lt_of_le_of_ne h ht, le_of_lt⟩

/-- `_cursor_in_range` of a cursor, a watermark and a bound of one table. -/
theorem cursorInRange_position (watermark : WithBot (SqlCursor config)) (c u : SqlCursor config) :
    cursorInRange c.position (SqlCursor.normalized watermark) u.position =
      .ok (decide (watermark < c ∧ (c : WithBot (SqlCursor config)) ≤ u)) := by
  have hmono : StrictMono (@SqlCursor.normalized config) := SqlCursor.normalized_strictMono
  have hupper : c.position ≤ u.position ↔ (c : WithBot (SqlCursor config)) ≤ u :=
    hmono.le_iff_le (a := (c : WithBot (SqlCursor config))) (b := u)
  cases watermark with
  | bot =>
    have hbot : (⊥ : WithBot (SqlCursor config)) < c := WithBot.bot_lt_coe c
    simp only [hbot, true_and, ← hupper, ← candidateLe_position c u]
    rfl
  | coe l =>
    have hlower : (l : WithBot (SqlCursor config)) < c ↔ ¬ c.position ≤ l.position := by
      rw [not_le]
      exact (hmono.lt_iff_lt (a := (l : WithBot (SqlCursor config))) (b := c)).symm
    have hdef : cursorInRange c.position l.position u.position =
        (do
          let below ← candidateLe c.timestamp c.position.keys l.timestamp l.position.keys
          if below then return false
          candidateLe c.timestamp c.position.keys u.timestamp u.position.keys) := rfl
    show cursorInRange c.position l.position u.position = _
    rw [hdef, candidateLe_position, candidateLe_position]
    by_cases hle : c.position ≤ l.position
    · simp [Bind.bind, Except.bind, pure, Except.pure, hle, hlower]
    · simp [Bind.bind, Except.bind, hle, hlower, hupper]

end Comparison

/-! ## Tables -/

/-- The rows of a Source table. Their primary keys differ. -/
structure SourceTable (config : TableConfig) where
  rows : List (StoredRow config)
  primaryKey : (rows.map fun r => r.cursor.keys).Nodup

namespace SourceTable

variable {config : TableConfig} (table : SourceTable config)

/-- The cursor of a row, among the watermarks. -/
def cursor (r : StoredRow config) : WithBot (SqlCursor config) := r.cursor

/-- `TableSnapshot.extract_upper_bound`. -/
def upperBound (watermarkBefore : WithBot (SqlCursor config)) : Option (WithBot (SqlCursor config)) :=
  fetchUpperBound cursor table.rows watermarkBefore

/-- `TableSnapshot.pages`, with the comparisons of the database. -/
def pages (watermarkBefore : WithBot (SqlCursor config)) (pageSize : Nat) :
    List (List (StoredRow config)) :=
  match table.upperBound watermarkBefore with
  | none => []
  | some upper => CommercePlatform.pages cursor table.rows watermarkBefore upper pageSize

theorem cursors_nodup : (table.rows.map cursor).Nodup := by
  have hkeys := List.pairwise_map.1 table.primaryKey
  exact List.pairwise_map.2 (hkeys.imp fun hne he =>
    hne (congrArg SqlCursor.keys (WithBot.coe_inj.1 he)))

/-- A row of the range, seen from the code. -/
def InPythonRange (watermarkBefore upper : WithBot (SqlCursor config)) (r : StoredRow config) :
    Prop :=
  ∃ position, sourceCursor config r.values = .ok position ∧
    cursorInRange position (SqlCursor.normalized watermarkBefore) (SqlCursor.normalized upper) =
      .ok true

/-- What the pages up to the frozen bound are. -/
structure PagesAreRange (watermarkBefore upper : WithBot (SqlCursor config)) (pageSize : Nat) :
    Prop where
  /-- The pages hold the rows of `(watermark, bound]`, -/
  rows : ∀ r, r ∈ (table.pages watermarkBefore pageSize).flatten ↔
    r ∈ table.rows ∧ watermarkBefore < cursor r ∧ cursor r ≤ upper
  /-- in cursor order, so each of them once. -/
  rising : (table.pages watermarkBefore pageSize).flatten.Pairwise fun a b => cursor a < cursor b
  /-- The loop ends by itself. -/
  ends : ∀ fuel, table.rows.length < fuel →
    pagesFrom cursor table.rows upper pageSize fuel watermarkBefore =
      table.pages watermarkBefore pageSize
  /-- Every row passes the range check of the code, -/
  inRange : ∀ r ∈ (table.pages watermarkBefore pageSize).flatten,
    InPythonRange watermarkBefore upper r
  /-- whose order of the normalised cursors gives the same pages. -/
  sameOrder : CommercePlatform.pages (fun r => SqlCursor.normalized (cursor r)) table.rows
      (SqlCursor.normalized watermarkBefore) (SqlCursor.normalized upper) pageSize =
    table.pages watermarkBefore pageSize

/-- The pages are the range up to the frozen bound. Without one there is no row above the
watermark, and no page. -/
def ExactPages (watermarkBefore : WithBot (SqlCursor config)) (pageSize : Nat) : Prop :=
  match table.upperBound watermarkBefore with
  | none => (∀ r ∈ table.rows, ¬ watermarkBefore < cursor r) ∧
      table.pages watermarkBefore pageSize = []
  | some upper => table.PagesAreRange watermarkBefore upper pageSize

/-- Keyset pagination is exact: for every table, watermark and page size the pages are the rows
above the watermark up to the frozen bound, each once and in cursor order, in the database's
order and in that of the code. -/
theorem pages_exact (watermarkBefore : WithBot (SqlCursor config)) {pageSize : Nat}
    (hsize : 0 < pageSize) : table.ExactPages watermarkBefore pageSize := by
  have hkeys := table.cursors_nodup
  unfold ExactPages
  cases hupper : table.upperBound watermarkBefore with
  | none =>
    -- without an upper bound nothing lies above the watermark
    have hnone := fetchUpperBound_eq_none.1 hupper
    exact ⟨fun r hr => not_lt.2 (hnone r hr), by rw [pages, hupper]⟩
  | some upper =>
    obtain ⟨⟨last, -, rfl⟩, -, -⟩ := fetchUpperBound_eq_some hupper
    have hpages : table.pages watermarkBefore pageSize =
        CommercePlatform.pages cursor table.rows watermarkBefore (cursor last) pageSize := by
      rw [pages, hupper]
    -- with one the pages are the range between the two, cut into pieces
    have hflatten : (table.pages watermarkBefore pageSize).flatten =
        orderedRange cursor table.rows watermarkBefore (cursor last) := by
      rw [hpages, pages_flatten hkeys hsize]
    constructor
    case rows =>
      intro r
      rw [hflatten]
      exact mem_orderedRange
    case rising =>
      rw [hflatten]
      exact orderedRange_pairwise hkeys
    case ends =>
      intro fuel hfuel
      rw [hpages]
      exact pagesFrom_eq hkeys hsize (Nat.lt_succ_of_le length_orderedRange_le) hfuel
    case inRange =>
      intro r hr
      rw [hflatten] at hr
      obtain ⟨-, hlower, hle⟩ := mem_orderedRange.1 hr
      refine ⟨r.cursor.position, r.sourceCursor_eq, ?_⟩
      refine (cursorInRange_position watermarkBefore r.cursor last.cursor).trans ?_
      rw [decide_eq_true ⟨hlower, hle⟩]
    case sameOrder =>
      rw [hpages]
      exact pages_map SqlCursor.normalized_strictMono ..

/-! Two items of one order at one instant, in the wrong order on the disk. -/

def itemRow (orderId : String) (item : Int) : StoredRow orderItemsTable where
  values := [("order_id", .text orderId), ("order_item_id", .int item),
    ("product_id", .text "p"), ("seller_id", .text "s"), ("shipping_limit_date", .timestamp 0),
    ("price", .decimal (.finite 1000 2)), ("freight_value", .decimal (.finite 0 2)),
    ("created_at", .timestamp 7)]
  columns := rfl
  cursor := ⟨7, [.text orderId, .int item], rfl⟩
  timestampColumn := rfl
  keyColumns := rfl

def twoItems : SourceTable orderItemsTable where
  rows := [itemRow "a" 10, itemRow "a" 9]
  primaryKey := by decide

theorem twoItems_pages : twoItems.ExactPages ⊥ 1 := twoItems.pages_exact ⊥ (by decide)

end SourceTable

end CommercePlatform
