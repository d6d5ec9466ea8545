import CommercePlatform.Extraction.Record
import CommercePlatform.Warehouse.MartHash
/-!
# The Bronze file and its logical hash

`src/ingestion/bronze/bronze.py`: the valid records of a table batch become the rows of
a Parquet file, page by page and in row groups, each with the five technical columns
behind its own. The logical hash is taken of the columns of the Source alone, in the
order of the primary key, once of the file as it was written and once of its bytes as
they came back.

How the records came in pages, where the row groups are cut, what the technical columns
say and in which order a reader hands the rows over is not in the hash: with one row a
key, it is a hash of the set of rows (`logicalHash_eq_iff`).

The proof goes through the line of a row. A stored row is written by the `_json_default`
of this file exactly as `row_hash.py` writes a fetched row (`canonicalBusinessJson_eq`,
`hashRow_eq`), so the injectivity shown there for mart hashes carries over: equal
digests have equal lines, in order, and equal lines are equal rows. The order is that of
the keys, which a query cannot leave open when no key occurs twice
(`businessRows_eq_iff`). That what a writer leaves is such a file is
`isBronzeFile_of_written`: pages only append (`writePages_eq_ok`).

Mirroring notes vs the source:
- The path of a writer, the check that its file is new and the compression are left out.
- Parquet and DuckDB are `ParquetFormat`: `pq.read_table` gives the rows in their order,
  `read_parquet` in any order. Nothing else is asked of them, and `Content` stands for
  the bytes.
- A stored value is one of `MartValue`: Arrow and DuckDB hold the same values in both
  files. `IsStored` is what a column of the type can hold, which is what
  `pa.Table.from_pylist` lets through.
- That SHA-256 tells two texts apart is the hypothesis `TellsApart`, on the two files of
  the statement and in one direction only.
-/

namespace CommercePlatform

open Lib Warehouse

/-- `ROW_GROUP_TARGET_ROWS`. -/
def rowGroupTargetRows : Nat := 128000

/-- The type DuckDB reads an Arrow type as. -/
def ColumnType.stored : ColumnType → MartType
  | .string => .varchar
  | .int32 => .integer
  | .bool => .boolean
  | .timestampUs => .timestamptz
  | .decimal => .decimal 2

/-- What `pa.Table.from_pylist` raises for a value its column cannot hold. -/
def arrowMisfit : Raised := ⟨.otherException, "Value does not fit its Arrow type"⟩

/-- `arrow_compatible_values` and the conversion to the type of the column. A decimal has two
places there, and a UUID is its text. -/
def arrowValue (column : SourceColumn) : SourceValue → Except Raised MartValue
  | .null => .ok .null
  | .text s => if column.type = .string then .ok (.varchar s) else .error arrowMisfit
  | .uuid u =>
    if column.type = .string ∧ column.postgresUuid = true then .ok (.varchar u.text)
    else .error arrowMisfit
  | .int n =>
    if column.type = .int32 ∧ fitsArrowType .int32 (.int n) = true then .ok (.integer n)
    else .error arrowMisfit
  | .bool b => if column.type = .bool then .ok (.boolean b) else .error arrowMisfit
  | .timestamp t =>
    -- a `datetime` lies between `datetime.min` and `datetime.max`
    if column.type = .timestampUs ∧ IsDatetime t then .ok (.timestamptz (.finite t))
    else .error arrowMisfit
  | .decimal (.finite c s) =>
    if column.type = .decimal ∧ fitsArrowType .decimal (.decimal (.finite c s)) = true then
      .ok (.decimal (c * 10 ^ (2 - s)) 2)
    else .error arrowMisfit
  | .decimal .nan => .error arrowMisfit
  | .object _ => .error arrowMisfit

/-- A value as it stands in a column of this type, no larger than its integers and not an
infinite instant. -/
structure IsStored (type : ColumnType) (v : MartValue) : Prop where
  typed : v.HasType type.stored
  small : ∀ n, v = .integer n → n.natAbs ≤ 2 ^ 31
  finite : ∀ e, v = .timestamptz e → ∃ t, e = .finite t

theorem isStored_arrowValue {column : SourceColumn} {v : SourceValue} {stored : MartValue}
    (h : arrowValue column v = .ok stored) : IsStored column.type stored := by
  cases v with
  | null =>
    cases h
    exact ⟨.null, fun _ hn => MartValue.noConfusion hn, fun _ he => MartValue.noConfusion he⟩
  | text s =>
    by_cases htype : column.type = .string
    · rw [arrowValue, if_pos htype] at h
      cases h
      rw [htype]
      exact ⟨.varchar, fun _ hn => MartValue.noConfusion hn, fun _ he => MartValue.noConfusion he⟩
    · rw [arrowValue, if_neg htype] at h
      cases h
  -- a UUID goes into a text column as its text
  | uuid u =>
    by_cases htype : column.type = .string ∧ column.postgresUuid = true
    · rw [arrowValue, if_pos htype] at h
      cases h
      rw [htype.1]
      exact ⟨.varchar, fun _ hn => MartValue.noConfusion hn, fun _ he => MartValue.noConfusion he⟩
    · rw [arrowValue, if_neg htype] at h
      cases h
  | int n =>
    by_cases htype : column.type = .int32 ∧ fitsArrowType .int32 (.int n) = true
    · rw [arrowValue, if_pos htype] at h
      cases h
      rw [htype.1]
      -- an `int32` column holds what fits 32 bits
      have hrange := htype.2
      simp only [fitsArrowType, Bool.and_eq_true, decide_eq_true_eq] at hrange
      refine ⟨.integer, fun m hm => ?_, fun _ he => MartValue.noConfusion he⟩
      cases hm
      omega
    · rw [arrowValue, if_neg htype] at h
      cases h
  | bool b =>
    by_cases htype : column.type = .bool
    · rw [arrowValue, if_pos htype] at h
      cases h
      rw [htype]
      exact ⟨.boolean, fun _ hn => MartValue.noConfusion hn, fun _ he => MartValue.noConfusion he⟩
    · rw [arrowValue, if_neg htype] at h
      cases h
  -- a timestamp of a row is finite, so no infinite one is ever stored
  | timestamp t =>
    by_cases htype : column.type = .timestampUs ∧ IsDatetime t
    · rw [arrowValue, if_pos htype] at h
      cases h
      rw [htype.1]
      exact ⟨.timestamptz htype.2, fun _ hn => MartValue.noConfusion hn,
        fun _ he => ⟨t, (MartValue.timestamptz.inj he).symm⟩⟩
    · rw [arrowValue, if_neg htype] at h
      cases h
  | decimal d =>
    cases d with
    | nan => cases h
    | finite c s =>
      by_cases htype : column.type = .decimal ∧
          fitsArrowType .decimal (.decimal (.finite c s)) = true
      · rw [arrowValue, if_pos htype] at h
        cases h
        rw [htype.1]
        exact ⟨.decimal, fun _ hn => MartValue.noConfusion hn, fun _ he => MartValue.noConfusion he⟩
      · rw [arrowValue, if_neg htype] at h
        cases h
  | object k => cases h

/-- Every type is fetched one to one. -/
theorem faithful_stored (type : ColumnType) : type.stored.Faithful := by
  cases type <;> exact ⟨by decide, by decide⟩

/-- The business columns of a record. -/
def arrowRowOf {config : TableConfig} (r : SourceRecord config) : Except Raised (List MartValue) :=
  config.sourceColumns.mapM fun column => arrowValue column (r.value column.name)

/-- A UUID column is one of texts. -/
private theorem uuid_string : ∀ config ∈ tableConfigs, ∀ column ∈ config.sourceColumns,
    column.postgresUuid = true → column.type = .string := by
  decide

/-- The type a value is of. -/
def arrowTypeOf : SourceValue → Option ColumnType
  | .text _ => some .string
  | .int _ => some .int32
  | .bool _ => some .bool
  | .timestamp _ => some .timestampUs
  | .decimal _ => some .decimal
  | _ => none

theorem matchesArrowType_iff (v : SourceValue) (type : ColumnType) :
    matchesArrowType v type = true ↔ arrowTypeOf v = some type := by
  cases v <;> cases type <;> simp [matchesArrowType, arrowTypeOf]

theorem arrowValue_returns {column : SourceColumn} {v : SourceValue}
    (huuid : column.postgresUuid = true → column.type = .string)
    (hvalid : v = .null ∨ matchesSourceColumnType v column = true)
    (htime : ∀ t, v = .timestamp t → IsDatetime t) :
    (∃ stored, arrowValue column v = .ok stored) ↔ fitsArrowType column.type v = true := by
  -- the branch that stores a value is guarded by the type of its column
  have hof : ∀ {p : Prop} [Decidable p] {stored : MartValue}, p →
      ∃ found, (if p then Except.ok stored else Except.error arrowMisfit) = .ok found :=
    fun hp => ⟨_, if_pos hp⟩
  cases v with
  | null => exact iff_of_true ⟨.null, rfl⟩ (by cases column.type <;> rfl)
  | text s =>
    have htype : column.type = .string := by
      have harrow : ColumnType.string = column.type := by
        simpa [matchesSourceColumnType, matchesArrowType_iff, arrowTypeOf] using hvalid
      exact harrow.symm
    exact iff_of_true (hof htype) (by rw [htype]; rfl)
  | uuid u =>
    have hpostgres : column.postgresUuid = true := by
      simpa [matchesSourceColumnType, matchesArrowType_iff, arrowTypeOf] using hvalid
    exact iff_of_true (hof ⟨huuid hpostgres, hpostgres⟩) (by rw [huuid hpostgres]; rfl)
  -- a number of an `int32` column may still be too large
  | int n =>
    have htype : column.type = .int32 := by
      have harrow : ColumnType.int32 = column.type := by
        simpa [matchesSourceColumnType, matchesArrowType_iff, arrowTypeOf] using hvalid
      exact harrow.symm
    rw [htype]
    constructor
    · rintro ⟨stored, h⟩
      by_contra hfits
      rw [arrowValue, if_neg fun hboth => hfits hboth.2] at h
      cases h
    · exact fun hfits => hof ⟨htype, hfits⟩
  | bool b =>
    have htype : column.type = .bool := by
      have harrow : ColumnType.bool = column.type := by
        simpa [matchesSourceColumnType, matchesArrowType_iff, arrowTypeOf] using hvalid
      exact harrow.symm
    exact iff_of_true (hof htype) (by rw [htype]; rfl)
  | timestamp t =>
    have htype : column.type = .timestampUs := by
      have harrow : ColumnType.timestampUs = column.type := by
        simpa [matchesSourceColumnType, matchesArrowType_iff, arrowTypeOf] using hvalid
      exact harrow.symm
    exact iff_of_true (hof ⟨htype, htime t rfl⟩) (by rw [htype]; rfl)
  | decimal d =>
    have htype : column.type = .decimal := by
      have harrow : ColumnType.decimal = column.type := by
        simpa [matchesSourceColumnType, matchesArrowType_iff, arrowTypeOf] using hvalid
      exact harrow.symm
    rw [htype]
    cases d with
    -- there is no decimal column for `NaN`
    | nan => exact iff_of_false (fun ⟨stored, h⟩ => by cases h) (by decide)
    | finite c s =>
      constructor
      · rintro ⟨stored, h⟩
        by_contra hfits
        rw [arrowValue, if_neg fun hboth => hfits hboth.2] at h
        cases h
      · exact fun hfits => hof ⟨htype, hfits⟩
  | object k => simp [matchesSourceColumnType, matchesArrowType_iff, arrowTypeOf] at hvalid

theorem columnValid {config : TableConfig} {values : List (String × SourceValue)}
    (hvalid : schemaAndTypeErrors config values = []) {column : SourceColumn}
    (hcolumn : column ∈ config.sourceColumns) :
    valueOf values column.name = .null ∨
      matchesSourceColumnType (valueOf values column.name) column = true := by
  rw [schemaAndTypeErrors] at hvalid
  split at hvalid
  · cases hvalid
  · have hnone := List.flatMap_eq_nil_iff.1 hvalid column hcolumn
    generalize valueOf values column.name = v at hnone ⊢
    by_contra hbad
    obtain ⟨hnull, hmismatch⟩ := not_or.1 hbad
    cases v with
    | null => exact hnull rfl
    | text _ | int _ | bool _ | decimal _ | timestamp _ | uuid _ | object _ =>
      dsimp only at hnone
      rw [if_neg hmismatch] at hnone
      cases hnone

/-- A record whose values are of their types is stored exactly where it fits. -/
theorem arrowRowOf_returns {config : TableConfig} (hconfig : config ∈ tableConfigs)
    {r : SourceRecord config} (hvalid : schemaAndTypeErrors config r.values = [])
    (htimes : ∀ e ∈ r.values, ∀ t, e.2 = .timestamp t → IsDatetime t) :
    (∃ row, arrowRowOf r = .ok row) ↔ arrowRow config r = .ok () := by
  rw [arrowRowOf, mapM_returns, arrowRow, require_eq_ok, List.all_eq_true]
  refine forall₂_congr fun column hcolumn => ?_
  refine arrowValue_returns (uuid_string config hconfig column hcolumn)
    (columnValid hvalid hcolumn) fun t ht => ?_
  obtain ⟨e, he, hvalue⟩ := @valueOf_mem r.values column.name (by
    show r.value column.name ≠ .null
    rw [ht]
    exact SourceValue.noConfusion)
  exact htimes e he t (hvalue.trans ht)

/-! ## The writer -/

/-- `BronzeWriteContext`, with the checks of `__post_init__` as fields. -/
structure BronzeWriteContext where
  batchId : String
  runId : RunId
  ingestedAt : Timestamp
  sourceTable : String
  schemaVersion : Nat
  batchNamed : isBlank batchId = false
  tableNamed : isBlank sourceTable = false
  versioned : schemaVersion = bronzeSchemaVersion

/-- A row of a Bronze file: the columns of the Source and the technical columns. -/
structure BronzeRow where
  business : List MartValue
  batchId : String
  runId : RunId
  ingestedAt : Timestamp
  sourceTable : String
  schemaVersion : Nat

/-- The row groups of a file. -/
abbrev BronzeFile := List (List BronzeRow)

/-- Groups of `n` and a rest, as `write_table` cuts rows and a reader cuts batches. -/
def inGroups {α : Type} (n : Nat) (rows : List α) : List (List α) :=
  if _h : rows = [] ∨ n = 0 then [] else rows.take n :: inGroups n (rows.drop n)
termination_by rows.length
decreasing_by
  obtain ⟨hrows, hn⟩ := not_or.1 _h
  have hlength := List.length_pos_iff.2 hrows
  rw [List.length_drop]
  omega

theorem flatten_inGroups {α : Type} {n : Nat} (hn : 0 < n) (rows : List α) :
    (inGroups n rows).flatten = rows := by
  induction hlength : rows.length using Nat.strongRecOn generalizing rows with
  | ind length ih =>
    rw [inGroups]
    by_cases hrows : rows = []
    · rw [dif_pos (.inl hrows), hrows]
      rfl
    · have hpos := List.length_pos_iff.2 hrows
      rw [dif_neg (not_or.2 ⟨hrows, by omega⟩), List.flatten_cons,
        ih (rows.drop n).length (by rw [List.length_drop]; omega) _ rfl, List.take_append_drop]

/-- `TableBronzeWriter`, without its path: the row groups written so far and whether it is
closed. -/
structure TableBronzeWriter (config : TableConfig) where
  context : BronzeWriteContext
  rowGroupTargetRows : Nat
  groups : BronzeFile
  rowCount : Nat
  closed : Bool
  sameTable : context.sourceTable = config.sourceTable
  sized : 0 < rowGroupTargetRows

/-- `TableBronzeWriter.__init__`. -/
def TableBronzeWriter.make (config : TableConfig) (context : BronzeWriteContext)
    (rowGroupTargetRows : Nat) : Except Raised (TableBronzeWriter config) :=
  if hsame : context.sourceTable = config.sourceTable then
    if hsized : 0 < rowGroupTargetRows then
      .ok ⟨context, rowGroupTargetRows, [], 0, false, hsame, hsized⟩
    else .error ⟨.valueError, "row_group_target_rows must be greater than zero"⟩
  else .error ⟨.valueError, "Bronze write context source_table differs from the table config"⟩

/-- `_source_record_row`. -/
def sourceRecordRow {config : TableConfig} (r : SourceRecord config) (context : BronzeWriteContext) :
    Except Raised BronzeRow := do
  let business ← arrowRowOf r
  return ⟨business, context.batchId, context.runId, context.ingestedAt, context.sourceTable,
    context.schemaVersion⟩

namespace TableBronzeWriter

variable {config : TableConfig}

def alreadyClosed : Raised := ⟨.runtimeError, "Table Bronze Writer is already closed"⟩

/-- `write_records`. The records are of the config of the writer. -/
def writeRecords (w : TableBronzeWriter config) (records : List (SourceRecord config)) :
    Except Raised (TableBronzeWriter config) :=
  if w.closed then .error alreadyClosed
  else if records = [] then .ok w
  else do
    let table ← records.mapM fun r => sourceRecordRow r w.context
    return { w with
      groups := w.groups ++ inGroups w.rowGroupTargetRows table
      rowCount := w.rowCount + table.length }

/-- `close`: the file and its row count. -/
def close (w : TableBronzeWriter config) : Except Raised (TableBronzeWriter config × BronzeFile × Nat) :=
  if w.closed then .error alreadyClosed
  else .ok ({ w with closed := true }, w.groups, w.rowCount)

/-- The pages of an extraction, one after the other. -/
def writePages (w : TableBronzeWriter config) (pages : List (List (SourceRecord config))) :
    Except Raised (TableBronzeWriter config) := pages.foldlM writeRecords w

theorem mapM_sourceRecordRow {records : List (SourceRecord config)} {context : BronzeWriteContext}
    {table : List BronzeRow} (h : records.mapM (fun r => sourceRecordRow r context) = .ok table) :
    records.mapM arrowRowOf = .ok (table.map BronzeRow.business) := by
  refine mapM_eq_ok.2 (List.forall₂_map_right_iff.2 ((mapM_eq_ok.1 h).imp fun r row hrow => ?_))
  obtain ⟨business, hbusiness, heq⟩ := bind_eq_ok.1 hrow
  cases heq
  exact hbusiness

/-- A page goes behind what the file has. -/
theorem writeRecords_eq_ok {w w' : TableBronzeWriter config} {records : List (SourceRecord config)}
    (h : w.writeRecords records = .ok w') :
    ∃ rows, records.mapM arrowRowOf = .ok rows ∧
      w'.groups.flatten.map BronzeRow.business = w.groups.flatten.map BronzeRow.business ++ rows ∧
      w'.rowCount = w.rowCount + rows.length := by
  rw [writeRecords] at h
  by_cases hclosed : w.closed = true
  · rw [if_pos hclosed] at h
    cases h
  rw [if_neg hclosed] at h
  by_cases hempty : records = []
  · rw [if_pos hempty] at h
    cases h
    exact ⟨[], by rw [hempty]; rfl, (List.append_nil _).symm, rfl⟩
  rw [if_neg hempty] at h
  obtain ⟨table, htable, heq⟩ := bind_eq_ok.1 h
  cases heq
  refine ⟨table.map BronzeRow.business, mapM_sourceRecordRow htable, ?_, ?_⟩
  · rw [List.flatten_append, flatten_inGroups w.sized, List.map_append]
  · rw [List.length_map]

/-- The pages stand in the file one after the other, each row once. -/
theorem writePages_eq_ok {pages : List (List (SourceRecord config))} {w w' : TableBronzeWriter config}
    (h : w.writePages pages = .ok w') :
    ∃ rows, pages.flatten.mapM arrowRowOf = .ok rows ∧
      w'.groups.flatten.map BronzeRow.business = w.groups.flatten.map BronzeRow.business ++ rows ∧
      w'.rowCount = w.rowCount + rows.length := by
  induction pages generalizing w with
  | nil =>
    cases h
    exact ⟨[], rfl, (List.append_nil _).symm, rfl⟩
  | cons page pages ih =>
    rw [writePages, List.foldlM_cons] at h
    obtain ⟨mid, hpage, hmore⟩ := bind_eq_ok.1 h
    obtain ⟨rows, hrows, hfile, hcount⟩ := writeRecords_eq_ok hpage
    obtain ⟨rest, hrest, hfile', hcount'⟩ := ih hmore
    refine ⟨rows ++ rest, ?_, ?_, ?_⟩
    · rw [List.flatten_cons, List.mapM_append, hrows, hrest]
      rfl
    · rw [hfile', hfile, List.append_assoc]
    · rw [hcount', hcount, List.length_append, Nat.add_assoc]

/-- An open writer takes every page of records that fit. -/
theorem writePages_returns {pages : List (List (SourceRecord config))} {w : TableBronzeWriter config}
    (hopen : w.closed = false) (h : ∃ rows, pages.flatten.mapM arrowRowOf = .ok rows) :
    ∃ w', w.writePages pages = .ok w' ∧ w'.closed = false := by
  induction pages generalizing w with
  | nil => exact ⟨w, rfl, hopen⟩
  | cons page pages ih =>
    have hfits := mapM_returns.1 h
    rw [List.flatten_cons] at hfits
    have htable : ∃ table, page.mapM (fun r => sourceRecordRow r w.context) = .ok table := by
      refine mapM_returns.2 fun r hr => ?_
      obtain ⟨business, hbusiness⟩ := hfits r (List.mem_append_left _ hr)
      exact ⟨_, by rw [sourceRecordRow, hbusiness]; rfl⟩
    have hpage : ∃ mid, w.writeRecords page = .ok mid ∧ mid.closed = false := by
      rw [writeRecords, if_neg (by rw [hopen]; exact Bool.false_ne_true)]
      by_cases hempty : page = []
      · exact ⟨w, if_pos hempty, hopen⟩
      · obtain ⟨table, htable⟩ := htable
        rw [if_neg hempty, htable]
        exact ⟨_, rfl, hopen⟩
    obtain ⟨mid, hmid, hstill⟩ := hpage
    obtain ⟨w', hw', hlast⟩ :=
      ih hstill (mapM_returns.2 fun r hr => hfits r (List.mem_append_right _ hr))
    refine ⟨w', ?_, hlast⟩
    rw [writePages, List.foldlM_cons, hmid]
    exact hw'

end TableBronzeWriter

/-! ## Canonical rows -/

/-- `_json_default`, and the types that need none. -/
def businessDefault : FetchedValue → Except Raised Json
  | .naive _ => .error ⟨.valueError, "Business timestamp must include a UTC offset"⟩
  | .date _ => .error ⟨.typeError, "Unsupported business value: date"⟩
  | .uuid _ => .error ⟨.typeError, "Unsupported business value: UUID"⟩
  | .other typeName => .error ⟨.typeError, "Unsupported business value: " ++ typeName⟩
  | .null => .ok .null
  | .bool b => .ok (.bool b)
  | .int n => .ok (.int n)
  | .float f => .ok (.float f.literal)
  | .text s => .ok (.str (points s))
  | .aware instant => .ok (.str (points (isoformat instant)))
  | .decimal d => .ok (.str (points d.fixed))

/-- One member of a row. -/
def businessMember (entry : String × FetchedValue) : Except Raised (CodePoints × Json) := do
  let value ← businessDefault entry.2
  return (points entry.1, value)

/-- `_canonical_business_json`. -/
def canonicalBusinessJson (row : List (String × FetchedValue)) : Except Raised CodePoints := do
  let members ← row.mapM businessMember
  dumpsText (.obj members)

/-- Of stored values it writes what `json_default` writes. -/
theorem businessDefault_fetched {type : ColumnType} {v : MartValue} (h : IsStored type v) :
    businessDefault v.fetched = jsonDefault v.fetched := by
  have htype := h.typed
  cases v with
  | timestamptz e =>
    obtain ⟨t, rfl⟩ := h.finite e rfl
    rfl
  | date e => cases type <;> cases htype
  | timestamp e => cases type <;> cases htype
  | uuid u => cases type <;> cases htype
  | _ => rfl

/-- The columns of the Source, under their names. -/
def businessColumns (config : TableConfig) : List (String × MartType) :=
  config.sourceColumns.map fun column => (column.name, column.type.stored)

/-- The row is one of the Bronze files of the table. -/
def IsStoredRow (config : TableConfig) (row : List MartValue) : Prop :=
  List.Forall₂ (fun v column => IsStored column.type v) row config.sourceColumns

theorem isStoredRow_arrowRowOf {config : TableConfig} {r : SourceRecord config}
    {row : List MartValue} (h : arrowRowOf r = .ok row) : IsStoredRow config row :=
  (mapM_eq_ok.1 h).flip.imp fun _ _ hvalue => isStored_arrowValue hvalue

section Rows

variable {config : TableConfig}

/-- `SELECT columns FROM rows ORDER BY key`, of one table. -/
abbrev BronzeReader (config : TableConfig) := MartReader fun _ => businessColumns config

/-- The rows of a Bronze file, as what they are selected from. -/
def bronzeTarget (config : TableConfig) : MartTarget :=
  ⟨"bronze", config.sourceTable, config.primaryKeyColumns⟩

theorem IsStoredRow.typed {row : List MartValue} (h : IsStoredRow config row) :
    List.Forall₂ MartValue.HasType row ((businessColumns config).map (·.2)) := by
  rw [businessColumns, List.map_map]
  exact List.forall₂_map_right_iff.2 (h.imp fun _ _ hvalue => hvalue.typed)

/-- `digest.update(_canonical_business_json(row).encode("utf-8"))`, and the line break. -/
def hashBusinessRow (columnNames : List String) (digest : List UInt8) (row : List MartValue) :
    Except Raised (List UInt8) := do
  let payload ← canonicalBusinessJson (columnNames.zip (row.map MartValue.fetched))
  updateLine digest payload

/-- The loops of `_hash_ordered_business_rows`, over batches of 50,000. -/
def businessDigest (columnNames : List String) (rows : List (List MartValue)) :
    Except Raised (List UInt8) :=
  (inGroups 50000 rows).foldlM (fun digest batch => batch.foldlM (hashBusinessRow columnNames) digest) []

/-- `_hash_ordered_business_rows`. -/
def hashOrderedBusinessRows (hexdigest : List UInt8 → String) (columnNames : List String)
    (rows : List (List MartValue)) : Except Raised String := do
  let digest ← businessDigest columnNames rows
  return hexdigest digest

theorem businessDigest_eq (columnNames : List String) (rows : List (List MartValue)) :
    businessDigest columnNames rows = rows.foldlM (hashBusinessRow columnNames) [] := by
  have hbatches : ∀ (batches : List (List (List MartValue))) (digest : List UInt8),
      batches.foldlM (fun digest batch => batch.foldlM (hashBusinessRow columnNames) digest) digest =
        batches.flatten.foldlM (hashBusinessRow columnNames) digest := by
    intro batches
    induction batches with
    | nil => exact fun _ => rfl
    | cons batch batches ih =>
      intro digest
      rw [List.foldlM_cons, List.flatten_cons, List.foldlM_append]
      exact bind_congr fun digest => ih digest
  rw [businessDigest, hbatches, flatten_inGroups (by decide)]

theorem isStored_of_mem {row : List MartValue} (h : IsStoredRow config row) {v : MartValue}
    (hv : v ∈ row) : ∃ type, IsStored type v := by
  have hall : ∀ {row : List MartValue} {columns : List SourceColumn},
      List.Forall₂ (fun v column => IsStored column.type v) row columns → v ∈ row →
        ∃ type, IsStored type v := by
    intro row columns hrow hv
    induction hrow with
    | nil => cases hv
    | cons hone _ ih =>
      rcases List.mem_cons.1 hv with rfl | hv
      · exact ⟨_, hone⟩
      · exact ih hv
  exact hall h hv

/-- The payload of a stored row is that of `row_hash.py`: the two encoders differ only on types a
Bronze file does not hold. -/
theorem canonicalBusinessJson_eq {row : List MartValue} (h : IsStoredRow config row) :
    canonicalBusinessJson (((businessColumns config).map (·.1)).zip (row.map MartValue.fetched)) =
      canonicalRowJson (((businessColumns config).map (·.1)).zip (row.map MartValue.fetched)) := by
  have hmembers : ∀ names : List String,
      (names.zip (row.map MartValue.fetched)).mapM businessMember =
        (names.zip (row.map MartValue.fetched)).mapM rowMember := by
    refine fun names => mapM_congr fun e he => ?_
    obtain ⟨v, hv, hfetched⟩ := List.mem_map.1 (List.of_mem_zip he).2
    obtain ⟨type, hstored⟩ := isStored_of_mem h hv
    rw [businessMember, rowMember, ← hfetched, businessDefault_fetched hstored]
  rw [canonicalBusinessJson, canonicalRowJson, hmembers]

theorem IsStoredRow.length_eq {row : List MartValue} (h : IsStoredRow config row) :
    ((businessColumns config).map (·.1)).length = (row.map MartValue.fetched).length := by
  rw [List.length_map, List.length_map, businessColumns, List.length_map]
  exact (List.Forall₂.length_eq h).symm

/-- So the bytes of a stored row are those `hash_cursor_rows` feeds. -/
theorem hashRow_eq {row : List MartValue} (h : IsStoredRow config row) (digest : List UInt8)
    (count : Nat) :
    hashRow ((businessColumns config).map (·.1)) (digest, count) (row.map MartValue.fetched) =
      hashBusinessRow ((businessColumns config).map (·.1)) digest row >>= fun digest =>
        .ok (digest, count + 1) := by
  rw [hashRow, hashBusinessRow, canonicalBusinessJson_eq h, require, if_pos h.length_eq]
  dsimp only
  cases canonicalRowJson _ with
  | error e => rfl
  | ok payload => rfl

theorem foldlM_hashRow_eq {rows : List (List MartValue)} (h : ∀ row ∈ rows, IsStoredRow config row)
    (digest : List UInt8) (count : Nat) :
    (rows.map (·.map MartValue.fetched)).foldlM (hashRow ((businessColumns config).map (·.1)))
        (digest, count) =
      rows.foldlM (hashBusinessRow ((businessColumns config).map (·.1))) digest >>= fun digest =>
        .ok (digest, count + rows.length) := by
  induction rows generalizing digest count with
  | nil => rfl
  | cons row rows ih =>
    rw [List.map_cons, List.foldlM_cons, List.foldlM_cons, hashRow_eq (h row List.mem_cons_self)]
    cases hashBusinessRow ((businessColumns config).map (·.1)) digest row with
    | error e => rfl
    | ok digest' =>
      show (rows.map (·.map MartValue.fetched)).foldlM _ (digest', count + 1) = _
      rw [ih (fun row hrow => h row (List.mem_cons_of_mem _ hrow)), List.length_cons,
        Nat.add_right_comm, Nat.add_assoc]
      rfl

theorem hashBatches_of_businessDigest {rows : List (List MartValue)}
    (h : ∀ row ∈ rows, IsStoredRow config row) {digest : List UInt8}
    (hdigest : businessDigest ((businessColumns config).map (·.1)) rows = .ok digest) :
    hashBatches ((businessColumns config).map (·.1)) rowBatchSize ([], 0)
      (rows.map (·.map MartValue.fetched)) = .ok (digest, rows.length) := by
  rw [businessDigest_eq] at hdigest
  rw [hashBatches_eq (by decide), foldlM_hashRow_eq h, hdigest, Nat.zero_add]
  rfl

theorem jsonDefault_stored {type : ColumnType} {v : MartValue} (h : IsStored type v) :
    ∃ j, jsonDefault v.fetched = .ok j ∧ Json.fitsDigits maxStrDigits j = true ∧ Json.Clean j := by
  have htype := h.typed
  cases v with
  | null => exact ⟨.null, rfl, rfl, trivial⟩
  | boolean b => exact ⟨.bool b, rfl, rfl, trivial⟩
  | integer n =>
    refine ⟨.int n, rfl, ?_, trivial⟩
    have hlength : (Json.writeNat n.natAbs).length ≤ 10 := by
      rw [Json.writeNat, List.length_map]
      have hsmall := h.small n rfl
      exact (Nat.length_toDigits_le_iff (by decide) (by decide)).2 (by omega)
    rw [Json.fitsDigits, decide_eq_true_eq]
    exact hlength.trans (by decide)
  | double f => cases type <;> cases htype
  | varchar s => exact ⟨_, rfl, rfl, isScalar_points⟩
  | decimal c s => exact ⟨_, rfl, rfl, isScalar_points⟩
  | date e => cases type <;> cases htype
  | timestamp e => cases type <;> cases htype
  | timestamptz e =>
    obtain ⟨t, rfl⟩ := h.finite e rfl
    exact ⟨_, rfl, rfl, isScalar_points⟩
  | uuid u => cases type <;> cases htype

theorem members_stored (names : List String) {row : List MartValue}
    (h : ∀ v ∈ row, ∃ type, IsStored type v) :
    ∃ members, (names.zip (row.map MartValue.fetched)).mapM rowMember = .ok members ∧
      Json.fitsDigits maxStrDigits (.obj members) = true ∧ Json.Clean (.obj members) := by
  induction row generalizing names with
  | nil =>
    rw [List.map_nil, List.zip_nil_right]
    exact ⟨[], rfl, rfl, trivial⟩
  | cons v row ih =>
    cases names with
    | nil => exact ⟨[], rfl, rfl, trivial⟩
    | cons name names =>
      obtain ⟨type, hv⟩ := h v List.mem_cons_self
      obtain ⟨j, hj, hfits, hclean⟩ := jsonDefault_stored hv
      obtain ⟨members, hmembers, hfits', hclean'⟩ :=
        ih names fun v hv => h v (List.mem_cons_of_mem _ hv)
      refine ⟨(points name, j) :: members, ?_, ?_, isScalar_points, hclean, hclean'⟩
      · rw [List.map_cons, List.zip_cons_cons, List.mapM_cons, rowMember, hj, hmembers]
        rfl
      · rw [Json.fitsDigits, Json.fitsDigitsMembers, hfits]
        exact hfits'

theorem hashBusinessRow_returns {row : List MartValue} (h : IsStoredRow config row)
    (digest : List UInt8) :
    ∃ digest', hashBusinessRow ((businessColumns config).map (·.1)) digest row = .ok digest' := by
  obtain ⟨members, hmembers, hfits, hclean⟩ :=
    members_stored ((businessColumns config).map (·.1)) fun v hv => isStored_of_mem h hv
  have hpayload := canonicalRowJson_eq_ok.2 ⟨members, hmembers, hfits, rfl⟩
  rw [hashBusinessRow, canonicalBusinessJson_eq h, hpayload]
  refine ⟨digest ++ Lib.utf8 (Json.encode (Json.sortKeys (.obj members))) ++ [0x0A], ?_⟩
  show updateLine digest _ = _
  rw [updateLine, Json.encodeUtf8_encode hclean]

theorem businessDigest_returns {rows : List (List MartValue)}
    (h : ∀ row ∈ rows, IsStoredRow config row) :
    ∃ digest, businessDigest ((businessColumns config).map (·.1)) rows = .ok digest := by
  have hfold : ∀ (rows : List (List MartValue)) (digest : List UInt8),
      (∀ row ∈ rows, IsStoredRow config row) →
      ∃ digest', rows.foldlM (hashBusinessRow ((businessColumns config).map (·.1))) digest =
        .ok digest' := by
    intro rows
    induction rows with
    | nil => exact fun digest _ => ⟨digest, rfl⟩
    | cons row rows ih =>
      intro digest hrows
      obtain ⟨mid, hmid⟩ := hashBusinessRow_returns (hrows row List.mem_cons_self) digest
      obtain ⟨digest', hdigest'⟩ := ih mid fun row hrow => hrows row (List.mem_cons_of_mem _ hrow)
      exact ⟨digest', by rw [List.foldlM_cons, hmid]; exact hdigest'⟩
  rw [businessDigest_eq]
  exact hfold rows [] h

/-! ## The two hashes -/

/-- What the Parquet readers say of a file: its rows, in their order (`pq.read_table`) or in
any (`read_parquet` of DuckDB). `Content` stands for the bytes. -/
structure ParquetFormat (Content : Type) where
  written : BronzeFile → Content
  readTable : Content → List BronzeRow
  readParquet : Content → List BronzeRow
  readTable_written : ∀ file, readTable (written file) = file.flatten
  readParquet_written : ∀ file, (readParquet (written file)).Perm file.flatten

variable {Content : Type}

/-- `SELECT columns FROM rows ORDER BY key`. -/
def BronzeReader.businessRows (reader : BronzeReader config) (rows : List BronzeRow) :
    List (List MartValue) :=
  reader.select (bronzeTarget config) (rows.map BronzeRow.business)

/-- `table_logical_hash`. -/
def tableLogicalHash (format : ParquetFormat Content) (reader : BronzeReader config)
    (hexdigest : List UInt8 → String) (content : Content) : Except Raised String :=
  hashOrderedBusinessRows hexdigest ((businessColumns config).map (·.1))
    (reader.businessRows (format.readParquet content))

/-- `table_logical_hash_bytes`. -/
def tableLogicalHashBytes (format : ParquetFormat Content) (reader : BronzeReader config)
    (hexdigest : List UInt8 → String) (payload : Content) : Except Raised String :=
  hashOrderedBusinessRows hexdigest ((businessColumns config).map (·.1))
    (reader.businessRows (format.readTable payload))

/-- The key of a row. -/
abbrev keyOf (config : TableConfig) (row : List MartValue) : List MartValue :=
  (bronzeTarget config).keyOf (fun _ => businessColumns config) row

/-- The rows of a set are read in one order, where their keys differ. -/
theorem businessRows_eq_iff (reader : BronzeReader config) {rows rows' : List BronzeRow}
    (hkeys : ((rows.map BronzeRow.business).map (keyOf config)).Nodup)
    (hkeys' : ((rows'.map BronzeRow.business).map (keyOf config)).Nodup) :
    reader.businessRows rows = reader.businessRows rows' ↔
      ∀ row, row ∈ rows.map BronzeRow.business ↔ row ∈ rows'.map BronzeRow.business :=
  MartReader.select_eq_iff reader hkeys hkeys'

/-- SHA-256 tells the two files apart, where the bytes it is taken of differ. -/
def TellsApart (reader : BronzeReader config) (hexdigest : List UInt8 → String)
    (file file' : BronzeFile) : Prop :=
  ∀ d d', businessDigest ((businessColumns config).map (·.1)) (reader.businessRows file.flatten) =
      .ok d →
    businessDigest ((businessColumns config).map (·.1)) (reader.businessRows file'.flatten) = .ok d' →
      hexdigest d = hexdigest d' → d = d'

/-- A file of stored rows with one row a key. -/
structure IsBronzeFile (config : TableConfig) (file : BronzeFile) : Prop where
  stored : ∀ row ∈ file.flatten.map BronzeRow.business, IsStoredRow config row
  keys : ((file.flatten.map BronzeRow.business).map (keyOf config)).Nodup

/-- Both functions give one hash of a file, in whatever order the rows come: the query sorts
them, and with one row a key there is one sorted list. -/
theorem tableLogicalHash_eq (format : ParquetFormat Content) (reader : BronzeReader config)
    (hexdigest : List UInt8 → String) {file : BronzeFile} (h : IsBronzeFile config file) :
    ∃ d, businessDigest ((businessColumns config).map (·.1)) (reader.businessRows file.flatten) =
        .ok d ∧
      tableLogicalHash format reader hexdigest (format.written file) = .ok (hexdigest d) ∧
      tableLogicalHashBytes format reader hexdigest (format.written file) = .ok (hexdigest d) := by
  have hrows : ∀ row ∈ reader.businessRows file.flatten, IsStoredRow config row := fun row hrow =>
    h.stored row ((reader.perm _ _).mem_iff.1 hrow)
  obtain ⟨d, hd⟩ := businessDigest_returns hrows
  have hparquet : reader.businessRows (format.readParquet (format.written file)) =
      reader.businessRows file.flatten := by
    have hperm := (format.readParquet_written file).map BronzeRow.business
    refine (businessRows_eq_iff reader ?_ h.keys).2 fun row => hperm.mem_iff
    exact ((hperm.map (keyOf config)).nodup_iff).2 h.keys
  refine ⟨d, hd, ?_, ?_⟩
  · rw [tableLogicalHash, hashOrderedBusinessRows, hparquet, hd]
    rfl
  · rw [tableLogicalHashBytes, hashOrderedBusinessRows, format.readTable_written, hd]
    rfl

/-- Files of one hash have the same set of rows, and of the same rows one hash. -/
theorem digest_eq_iff (reader : BronzeReader config) {file file' : BronzeFile}
    (h : IsBronzeFile config file) (h' : IsBronzeFile config file') {d d' : List UInt8}
    (hd : businessDigest ((businessColumns config).map (·.1)) (reader.businessRows file.flatten) =
      .ok d)
    (hd' : businessDigest ((businessColumns config).map (·.1)) (reader.businessRows file'.flatten) =
      .ok d') :
    d = d' ↔ ∀ row, row ∈ file.flatten.map BronzeRow.business ↔
      row ∈ file'.flatten.map BronzeRow.business := by
  have hstored : ∀ {file : BronzeFile}, IsBronzeFile config file →
      ∀ row ∈ reader.businessRows file.flatten, IsStoredRow config row := fun h row hrow =>
    h.stored row ((reader.perm _ _).mem_iff.1 hrow)
  -- the reader gives both files sorted by their keys, so the same rows come in the same order
  rw [← businessRows_eq_iff reader h.keys h'.keys]
  constructor
  · intro heq
    have hnames : ((businessColumns config).map (·.1)).Nodup := by
      rw [businessColumns, List.map_map]
      exact config.columnsUnique
    have hfaithful : ∀ c ∈ businessColumns config, c.2.Faithful := by
      intro c hc
      obtain ⟨column, -, rfl⟩ := List.mem_map.1 hc
      exact faithful_stored column.type
    exact @digest_injective (fun _ => businessColumns config) "" hnames hfaithful _ _
      (fun row hrow => (hstored h row hrow).typed) (fun row hrow => (hstored h' row hrow).typed)
      _ _ (hashBatches_of_businessDigest (hstored h) hd)
      (hashBatches_of_businessDigest (hstored h') hd') heq
  · intro heq
    rw [heq, hd'] at hd
    exact (Except.ok.inj hd).symm

/-- What a writer of pages leaves is such a file, with their rows. -/
theorem isBronzeFile_of_written {context : BronzeWriteContext} {rowGroupTargetRows : Nat}
    {w v u : TableBronzeWriter config} {pages : List (List (SourceRecord config))} {file : BronzeFile}
    {rowCount : Nat} (hw : TableBronzeWriter.make config context rowGroupTargetRows = .ok w)
    (hv : w.writePages pages = .ok v) (hclose : v.close = .ok (u, file, rowCount))
    {rows : List (List MartValue)} (hrows : pages.flatten.mapM arrowRowOf = .ok rows)
    (hkeys : (rows.map (keyOf config)).Nodup) :
    IsBronzeFile config file ∧ file.flatten.map BronzeRow.business = rows ∧
      rowCount = rows.length := by
  -- the writer begins with no row group and ends with the ones it has written
  have hfresh : w.groups = [] ∧ w.rowCount = 0 := by
    rw [TableBronzeWriter.make] at hw
    split at hw
    · split at hw
      · cases hw
        exact ⟨rfl, rfl⟩
      · cases hw
    · cases hw
  have hfile : file = v.groups ∧ rowCount = v.rowCount := by
    rw [TableBronzeWriter.close] at hclose
    split at hclose
    · cases hclose
    · cases hclose
      exact ⟨rfl, rfl⟩
  obtain ⟨found, hfound, hgroups, hcount⟩ := TableBronzeWriter.writePages_eq_ok hv
  rw [hrows] at hfound
  obtain rfl := Except.ok.inj hfound
  rw [hfresh.1, List.flatten_nil, List.map_nil, List.nil_append] at hgroups
  rw [hfresh.2, Nat.zero_add] at hcount
  rw [hfile.1, hfile.2]
  refine ⟨⟨fun row hrow => ?_, by rw [hgroups]; exact hkeys⟩, hgroups, hcount⟩
  rw [hgroups] at hrow
  obtain ⟨r, -, hr⟩ := (mem_mapM hrows).1 hrow
  exact isStoredRow_arrowRowOf hr

/-- The logical hash is one of the set of business rows. However two writers were opened, their
records came in pages and their rows come back, both functions give one hash of each file,
and the two files have one hash exactly when they have the same rows. -/
theorem logicalHash_eq_iff (format : ParquetFormat Content) {reader : BronzeReader config}
    {hexdigest : List UInt8 → String} {context context' : BronzeWriteContext} {n n' : Nat}
    {w w' v v' u u' : TableBronzeWriter config} {pages pages' : List (List (SourceRecord config))}
    {file file' : BronzeFile} {rowCount rowCount' : Nat}
    (hw : TableBronzeWriter.make config context n = .ok w) (hv : w.writePages pages = .ok v)
    (hclose : v.close = .ok (u, file, rowCount))
    (hw' : TableBronzeWriter.make config context' n' = .ok w') (hv' : w'.writePages pages' = .ok v')
    (hclose' : v'.close = .ok (u', file', rowCount'))
    {rows rows' : List (List MartValue)} (hrows : pages.flatten.mapM arrowRowOf = .ok rows)
    (hrows' : pages'.flatten.mapM arrowRowOf = .ok rows') (hkeys : (rows.map (keyOf config)).Nodup)
    (hkeys' : (rows'.map (keyOf config)).Nodup) (hfree : TellsApart reader hexdigest file file') :
    ∃ hash hash', tableLogicalHash format reader hexdigest (format.written file) = .ok hash ∧
      tableLogicalHashBytes format reader hexdigest (format.written file) = .ok hash ∧
      tableLogicalHash format reader hexdigest (format.written file') = .ok hash' ∧
      tableLogicalHashBytes format reader hexdigest (format.written file') = .ok hash' ∧
      rowCount = rows.length ∧ (hash = hash' ↔ ∀ row, row ∈ rows ↔ row ∈ rows') := by
  obtain ⟨hfile, hbusiness, hcount⟩ := isBronzeFile_of_written hw hv hclose hrows hkeys
  obtain ⟨hfile', hbusiness', -⟩ := isBronzeFile_of_written hw' hv' hclose' hrows' hkeys'
  obtain ⟨d, hd, hone, htwo⟩ := tableLogicalHash_eq format reader hexdigest hfile
  obtain ⟨d', hd', hone', htwo'⟩ := tableLogicalHash_eq format reader hexdigest hfile'
  refine ⟨hexdigest d, hexdigest d', hone, htwo, hone', htwo', hcount, ?_⟩
  rw [← hbusiness, ← hbusiness', ← digest_eq_iff reader hfile hfile' hd hd']
  exact ⟨hfree d d' hd hd', fun h => congrArg hexdigest h⟩

end Rows

def sellerRecord (id city : String) : SourceRecord sellersTable where
  values := [("seller_id", .text id), ("seller_city", .text city), ("seller_state", .text "SP"),
    ("created_at", .timestamp 0), ("updated_at", .timestamp 86400000000)]
  columns := rfl
  cursor := ⟨some 86400000000, [.text id], by simp⟩

/-- Its columns in a file. -/
def sellerRow (id city : String) : List MartValue :=
  [.varchar id, .varchar city, .varchar "SP", .timestamptz (.finite 0),
    .timestamptz (.finite 86400000000)]

/-- The line of the first seller. -/
def firstLine : List UInt8 :=
  Lib.utf8 (points "\x7b\"created_at\":\"1970-01-01T00:00:00+00:00\",\"seller_city\":\"ibitinga\",\"seller_id\":\"s-1\",\"seller_state\":\"SP\",\"updated_at\":\"1970-01-02T00:00:00+00:00\"\x7d\n")

/-- The line of the second seller. -/
def secondLine : List UInt8 :=
  Lib.utf8 (points "\x7b\"created_at\":\"1970-01-01T00:00:00+00:00\",\"seller_city\":\"campinas\",\"seller_id\":\"s-2\",\"seller_state\":\"SP\",\"updated_at\":\"1970-01-02T00:00:00+00:00\"\x7d\n")

/-- The line of the second seller once it moved. -/
def movedLine : List UInt8 :=
  Lib.utf8 (points "\x7b\"created_at\":\"1970-01-01T00:00:00+00:00\",\"seller_city\":\"santos\",\"seller_id\":\"s-2\",\"seller_state\":\"SP\",\"updated_at\":\"1970-01-02T00:00:00+00:00\"\x7d\n")

def hashOfSellers : String := "9d422eb1c9802a81e6d0079333ab354fe81e539c08c2da59d43f55b176687db2"

def hashOfMoved : String := "c3a344562f7695b27cfd21cd2b9f9ef2d82906f8d9a14762f52ae965f58d50b0"

/-- SHA-256 of the two texts. -/
def sha256OfSellers (data : List UInt8) : String :=
  if data = firstLine ++ secondLine then hashOfSellers
  else if data = firstLine ++ movedLine then hashOfMoved else ""

def sellersContext (batchId : String) (batchNamed : isBlank batchId = false) : BronzeWriteContext where
  batchId := batchId
  runId := 1
  ingestedAt := 0
  sourceTable := "sellers"
  schemaVersion := bronzeSchemaVersion
  batchNamed := batchNamed
  tableNamed := sellersTable.named
  versioned := rfl

theorem arrowRowOf_seller (id city : String) :
    arrowRowOf (sellerRecord id city) = .ok (sellerRow id city) := rfl

/-- A line goes behind what was hashed before. -/
theorem hashBusinessRow_append {columnNames : List String} {row : List MartValue}
    {line : List UInt8} (h : hashBusinessRow columnNames [] row = .ok line) (digest : List UInt8) :
    hashBusinessRow columnNames digest row = .ok (digest ++ line) := by
  rw [hashBusinessRow] at h ⊢
  obtain ⟨payload, hpayload, hline⟩ := bind_eq_ok.1 h
  refine bind_eq_ok.2 ⟨payload, hpayload, ?_⟩
  rw [updateLine] at hline ⊢
  split at hline
  next data hdata =>
    obtain rfl := Except.ok.inj hline
    simp
  next => cases hline

/-- Two rows are hashed as one line behind the other. -/
theorem businessDigest_two {columnNames : List String} {row row' : List MartValue}
    {line line' : List UInt8} (h : hashBusinessRow columnNames [] row = .ok line)
    (h' : hashBusinessRow columnNames [] row' = .ok line') :
    businessDigest columnNames [row, row'] = .ok (line ++ line') := by
  rw [businessDigest_eq, List.foldlM_cons, h]
  show [row'].foldlM (hashBusinessRow columnNames) line = _
  rw [List.foldlM_cons, hashBusinessRow_append h']
  rfl

private theorem hashed_first :
    hashBusinessRow ((businessColumns sellersTable).map (·.1)) [] (sellerRow "s-1" "ibitinga") =
      .ok firstLine := by decide +kernel

private theorem hashed_second :
    hashBusinessRow ((businessColumns sellersTable).map (·.1)) [] (sellerRow "s-2" "campinas") =
      .ok secondLine := by decide +kernel

private theorem hashed_moved :
    hashBusinessRow ((businessColumns sellersTable).map (·.1)) [] (sellerRow "s-2" "santos") =
      .ok movedLine := by decide +kernel

private theorem sha256OfSellers_two : sha256OfSellers (firstLine ++ secondLine) = hashOfSellers :=
  if_pos rfl

private theorem sha256OfSellers_moved : sha256OfSellers (firstLine ++ movedLine) = hashOfMoved := by
  have hapart : movedLine ≠ secondLine := by decide +kernel
  rw [sha256OfSellers, if_neg fun h => hapart (List.append_cancel_left h), if_pos rfl]

/-- The digest of the first seller and another one, in whatever order they stand in the file. -/
theorem businessDigest_sellers {city : String} {line : List UInt8}
    (hline : hashBusinessRow ((businessColumns sellersTable).map (·.1)) [] (sellerRow "s-2" city) =
      .ok line) {file : BronzeFile}
    (hfile : file.flatten.map BronzeRow.business = [sellerRow "s-1" "ibitinga", sellerRow "s-2" city] ∨
      file.flatten.map BronzeRow.business = [sellerRow "s-2" city, sellerRow "s-1" "ibitinga"]) :
    businessDigest ((businessColumns sellersTable).map (·.1))
      (BronzeReader.businessRows (sortingReader fun _ => businessColumns sellersTable)
        file.flatten) = .ok (firstLine ++ line) := by
  have hsorted : BronzeReader.businessRows (sortingReader fun _ => businessColumns sellersTable)
      file.flatten = [sellerRow "s-1" "ibitinga", sellerRow "s-2" city] := by
    rw [BronzeReader.businessRows]
    rcases hfile with hfile | hfile <;> rw [hfile] <;> rfl
  rw [hsorted]
  exact businessDigest_two hashed_first hline

/-- One reader hands the rows over as they stand in the file, the other backwards. -/
def turningFormat : ParquetFormat BronzeFile where
  written := id
  readTable := List.flatten
  readParquet file := file.flatten.reverse
  readTable_written _ := rfl
  readParquet_written file := file.flatten.reverse_perm

/-- A writer of the batch, with row groups of this size. -/
def sellersWriter (batchId : String) (batchNamed : isBlank batchId = false) (rowGroupTargetRows : Nat)
    (sized : 0 < rowGroupTargetRows) : TableBronzeWriter sellersTable :=
  ⟨sellersContext batchId batchNamed, rowGroupTargetRows, [], 0, false, rfl, sized⟩

theorem make_sellersWriter {batchId : String} {batchNamed : isBlank batchId = false}
    {rowGroupTargetRows : Nat} {sized : 0 < rowGroupTargetRows} :
    TableBronzeWriter.make sellersTable (sellersContext batchId batchNamed) rowGroupTargetRows =
      .ok (sellersWriter batchId batchNamed rowGroupTargetRows sized) := by
  have hsame : (sellersContext batchId batchNamed).sourceTable = sellersTable.sourceTable := rfl
  rw [TableBronzeWriter.make, dif_pos hsame, dif_pos sized]
  rfl

theorem firstBatch_named : isBlank "b-1" = false := by decide

theorem secondBatch_named : isBlank "b-2" = false := by decide

/-- Row groups of one row. -/
def firstWriter : TableBronzeWriter sellersTable :=
  sellersWriter "b-1" firstBatch_named 1 Nat.one_pos

def secondWriter : TableBronzeWriter sellersTable :=
  sellersWriter "b-2" secondBatch_named rowGroupTargetRows (Nat.succ_pos _)

/-- The pages of a file with the two sellers, and what is written of them. -/
private theorem written_sellers {city : String} {w v : TableBronzeWriter sellersTable}
    {batchId : String} {batchNamed : isBlank batchId = false} {n : Nat} {sized : 0 < n}
    (hw : w = sellersWriter batchId batchNamed n sized)
    {pages : List (List (SourceRecord sellersTable))} {rows : List (List MartValue)}
    (hv : w.writePages pages = .ok v) (hopen : v.closed = false)
    (hrows : pages.flatten.mapM arrowRowOf = .ok rows)
    (htwo : rows = [sellerRow "s-1" "ibitinga", sellerRow "s-2" city] ∨
      rows = [sellerRow "s-2" city, sellerRow "s-1" "ibitinga"]) :
    v.close = .ok ({ v with closed := true }, v.groups, v.rowCount) ∧
      v.groups.flatten.map BronzeRow.business = rows ∧ (rows.map (keyOf sellersTable)).Nodup := by
  have hclose : v.close = .ok ({ v with closed := true }, v.groups, v.rowCount) := by
    rw [TableBronzeWriter.close, if_neg (by rw [hopen]; exact Bool.false_ne_true)]
  have hkeys : (rows.map (keyOf sellersTable)).Nodup := by
    rcases htwo with rfl | rfl
    · show [[MartValue.varchar "s-1"], [.varchar "s-2"]].Nodup
      simp
    · show [[MartValue.varchar "s-2"], [.varchar "s-1"]].Nodup
      simp
  obtain ⟨-, hbusiness, -⟩ :=
    isBronzeFile_of_written make_sellersWriter (hw ▸ hv) hclose hrows hkeys
  exact ⟨hclose, hbusiness, hkeys⟩

/-- The two sellers in row groups of one row, the same behind an empty page in the other order,
and the second of them in another city. -/
theorem logicalHash_eq_iff_sellers : ∃ v v' u : TableBronzeWriter sellersTable,
    firstWriter.writePages [[sellerRecord "s-1" "ibitinga", sellerRecord "s-2" "campinas"]] = .ok v ∧
      secondWriter.writePages
        [[], [sellerRecord "s-2" "campinas"], [sellerRecord "s-1" "ibitinga"]] = .ok v' ∧
      secondWriter.writePages
        [[sellerRecord "s-1" "ibitinga", sellerRecord "s-2" "santos"]] = .ok u ∧
      tableLogicalHash turningFormat (sortingReader fun _ => businessColumns sellersTable)
        sha256OfSellers v.groups = .ok hashOfSellers ∧
      tableLogicalHashBytes turningFormat (sortingReader fun _ => businessColumns sellersTable)
        sha256OfSellers v'.groups = .ok hashOfSellers ∧
      tableLogicalHash turningFormat (sortingReader fun _ => businessColumns sellersTable)
        sha256OfSellers u.groups ≠ .ok hashOfSellers := by
  have hrows : [[sellerRecord "s-1" "ibitinga", sellerRecord "s-2" "campinas"]].flatten.mapM
      arrowRowOf = .ok [sellerRow "s-1" "ibitinga", sellerRow "s-2" "campinas"] := rfl
  have hrows' : [[], [sellerRecord "s-2" "campinas"], [sellerRecord "s-1" "ibitinga"]].flatten.mapM
      arrowRowOf = .ok [sellerRow "s-2" "campinas", sellerRow "s-1" "ibitinga"] := rfl
  have hmoved : [[sellerRecord "s-1" "ibitinga", sellerRecord "s-2" "santos"]].flatten.mapM
      arrowRowOf = .ok [sellerRow "s-1" "ibitinga", sellerRow "s-2" "santos"] := rfl
  obtain ⟨v, hv, hopen⟩ := TableBronzeWriter.writePages_returns (w := firstWriter) rfl ⟨_, hrows⟩
  obtain ⟨v', hv', hopen'⟩ :=
    TableBronzeWriter.writePages_returns (w := secondWriter) rfl ⟨_, hrows'⟩
  obtain ⟨u, hu, hopenu⟩ := TableBronzeWriter.writePages_returns (w := secondWriter) rfl ⟨_, hmoved⟩
  obtain ⟨hclose, hfile, hkeys⟩ := written_sellers (w := firstWriter) rfl hv hopen hrows (.inl rfl)
  obtain ⟨hclose', hfile', hkeys'⟩ :=
    written_sellers (w := secondWriter) rfl hv' hopen' hrows' (.inr rfl)
  obtain ⟨hcloseu, hfileu, hkeysu⟩ :=
    written_sellers (w := secondWriter) rfl hu hopenu hmoved (.inl rfl)
  have hline := businessDigest_sellers hashed_second (.inl hfile)
  have hline' := businessDigest_sellers hashed_second (.inr hfile')
  have hlineu := businessDigest_sellers hashed_moved (.inl hfileu)
  -- the readers of a file with the two sellers feed the bytes SHA-256 is given for
  have hreal : tableLogicalHashBytes turningFormat (sortingReader fun _ => businessColumns sellersTable)
      sha256OfSellers v.groups = .ok hashOfSellers := by
    rw [tableLogicalHashBytes, hashOrderedBusinessRows]
    show (businessDigest _ (BronzeReader.businessRows _ v.groups.flatten) >>= fun digest =>
      .ok (sha256OfSellers digest)) = _
    rw [hline]
    exact congrArg Except.ok sha256OfSellers_two
  have hone : TellsApart (sortingReader fun _ => businessColumns sellersTable) sha256OfSellers
      v.groups v'.groups := fun d d' hd hd' _ => by
    rw [hline] at hd
    rw [hline'] at hd'
    exact (Except.ok.inj hd).symm.trans (Except.ok.inj hd')
  have htwo : TellsApart (sortingReader fun _ => businessColumns sellersTable) sha256OfSellers
      v.groups u.groups := fun d d' hd hd' hhash => by
    rw [hline] at hd
    rw [hlineu] at hd'
    rw [← Except.ok.inj hd, ← Except.ok.inj hd', sha256OfSellers_two, sha256OfSellers_moved]
      at hhash
    exact absurd hhash (by decide)
  obtain ⟨hash, hash', hfound, hbytes, -, hbytes', -, hiff⟩ :=
    logicalHash_eq_iff turningFormat make_sellersWriter hv hclose make_sellersWriter hv' hclose'
      hrows hrows' hkeys hkeys' hone
  obtain ⟨hash₁, hash₂, hfound₁, -, hfound₂, -, -, hiff'⟩ :=
    logicalHash_eq_iff turningFormat make_sellersWriter hv hclose make_sellersWriter hu hcloseu
      hrows hmoved hkeys hkeysu htwo
  have hhash : hash = hashOfSellers := Except.ok.inj (hbytes.symm.trans hreal)
  have hsame : hash = hash' := hiff.2 fun row => by simp [or_comm]
  have hother : hash₁ ≠ hash₂ := fun heq => by
    have hrow := (hiff'.1 heq (sellerRow "s-2" "campinas")).1 (by simp)
    simp [sellerRow] at hrow
  refine ⟨v, v', u, hv, hv', hu, hhash ▸ hfound, hbytes'.trans (by rw [← hsame, hhash]), ?_⟩
  intro hfoundu
  have hfirst : hash₁ = hash := Except.ok.inj (hfound₁.symm.trans hfound)
  have hsecond : hash₂ = hashOfSellers := Except.ok.inj (hfound₂.symm.trans hfoundu)
  exact hother (hfirst.trans (hhash.trans hsecond.symm))

end CommercePlatform
