import CommercePlatform.Common.Calendar
import CommercePlatform.Extraction.SourceTable
import CommercePlatform.Lib.Traverse
/-!
# Records of the source tables

What the extraction looks at in a record of one of the nine tables: the checks of
`validation.py`, the corruptions of `corruption.py`, the parent lookup of
`references.py`, the Arrow row of `bronze.py` and the JSON payload of `quarantine.py`,
as the `RecordRules` of a table.

A record is its values under the names of the columns, in the order of the contract, and
the cursor it was read with. Every corruption keeps the cursor (`cursor_override`), so a
record with a broken key is still in its place in the range. The functions stand in the
order of the files they come from: checks, corruptions, the Arrow row, the payload, the
references.

Each of them may raise, and where it raises is what later modules are about: a
comparison with a minimum on a NaN, a lookup whose key is no text, a payload with a
value the encoder does not know. None of these is stopped by a check before it.

Mirroring notes vs the source:
- `numeric_minimums` compares `value < minimum` in Python, so `Decimal`, `int` and
  `bool` compare as numbers; the minimum is a whole number in every table.
- `fitsArrowType` is what Arrow accepts of a value of the column's type: the range of an
  integer and the digits of a decimal.
- `json.dumps` writes a `bool` before an `int`, and a string character by character, as
  `jsonString` does; the sorted keys are those of `canonicalJson`.
-/

namespace CommercePlatform

open Lib

/-- `SourceRecord`: the values under the column names, in their order, and the cursor the row was
read with, which every corruption keeps (`cursor_override`). -/
structure SourceRecord (config : TableConfig) where
  values : List (String × SourceValue)
  columns : values.map (·.1) = config.sourceColumns.map SourceColumn.name
  cursor : CursorPosition
deriving DecidableEq

namespace SourceRecord

variable {config : TableConfig}

/-- `values[column]`. -/
def value (r : SourceRecord config) (column : String) : SourceValue := valueOf r.values column

/-- `values[column] = value`, in a copy. -/
def withValue (r : SourceRecord config) (column : String) (value : SourceValue) :
    SourceRecord config where
  values := r.values.map fun e => if e.1 = column then (e.1, value) else e
  columns := by
    rw [← r.columns, List.map_map]
    refine List.map_congr_left fun e _ => ?_
    show (if e.1 = column then (e.1, value) else e).1 = e.1
    split <;> rfl
  cursor := r.cursor

end SourceRecord

/-- A value that is not null stands in the record. -/
theorem valueOf_mem {values : List (String × SourceValue)} {column : String}
    (h : valueOf values column ≠ .null) : ∃ e ∈ values, e.2 = valueOf values column := by
  unfold valueOf at h ⊢
  cases hlookup : values.lookup column with
  | none => simp [hlookup] at h
  | some value =>
    obtain ⟨l₁, l₂, heq, -⟩ := List.lookup_eq_some_iff.1 hlookup
    exact ⟨(column, value), by rw [heq]; simp, rfl⟩

/-- The record of a row as it was read. -/
def StoredRow.record {config : TableConfig} (r : StoredRow config) : SourceRecord config :=
  ⟨r.values, r.columns, r.cursor.position⟩

section Validation

variable (config : TableConfig)

/-- `_schema_and_type_errors`. -/
def schemaAndTypeErrors (values : List (String × SourceValue)) : List String :=
  if values.map (·.1) ≠ config.sourceColumns.map SourceColumn.name then ["SCHEMA_MISMATCH"]
  else config.sourceColumns.flatMap fun column =>
    match valueOf values column.name with
    | .null => if column.nullable then [] else ["REQUIRED_NULL"]
    | value => if matchesSourceColumnType value column then [] else ["TYPE_MISMATCH"]

/-- One entry of `status_domains`. -/
def domainErrors (values : List (String × SourceValue)) (entry : String × List String) :
    List String :=
  match valueOf values entry.1 with
  | .null => []
  | .text s => if s ∈ entry.2 then [] else ["STATUS_DOMAIN_INVALID"]
  | _ => ["STATUS_DOMAIN_INVALID"]

/-- One entry of `numeric_minimums`. -/
def numericErrors (values : List (String × SourceValue)) (entry : String × Int) :
    Except Raised (List String) := do
  let value := valueOf values entry.1
  match config.column entry.1 with
  | none => .error ⟨.otherException, entry.1⟩
  | some column =>
    if value ≠ .null ∧ matchesArrowType value column.type = true then
      let less ← value.lessThan entry.2
      return if less then ["NUMERIC_RANGE_INVALID"] else []
    else return []

/-- `_domain_and_numeric_errors`. -/
def domainAndNumericErrors (values : List (String × SourceValue)) :
    Except Raised (List String) := do
  let numeric ← config.numericMinimums.mapM (numericErrors config values)
  return config.statusDomains.flatMap (domainErrors values) ++ numeric.flatten

/-- A NaN where a minimum is asked for, and a number could stand. -/
def NanAtMinimum (values : List (String × SourceValue)) : Prop :=
  ∃ entry ∈ config.numericMinimums, ∃ column ∈ config.column entry.1,
    column.type = .decimal ∧ valueOf values entry.1 = .decimal .nan

variable {config}

theorem lessThan_returns {v : SourceValue} {minimum : Int} :
    (∃ b, v.lessThan minimum = .ok b) ↔ v ≠ .decimal .nan := by
  unfold SourceValue.lessThan
  split
  next => simp
  next hne => exact iff_of_true ⟨_, rfl⟩ hne

theorem numericErrors_returns {values : List (String × SourceValue)} {entry : String × Int}
    (hentry : entry ∈ config.numericMinimums) :
    (∃ errors, numericErrors config values entry = .ok errors) ↔
      ∀ column ∈ config.column entry.1,
        ¬ (column.type = .decimal ∧ valueOf values entry.1 = .decimal .nan) := by
  have hmem := config.validationColumnsExist entry.1
    (List.mem_append_right _ (List.mem_map_of_mem hentry))
  obtain ⟨column, hcolumn⟩ : ∃ column, config.column entry.1 = some column := by
    obtain ⟨column, hmem, hname⟩ := List.mem_map.1 hmem
    exact Option.isSome_iff_exists.1 (List.find?_isSome.2 ⟨column, hmem, by simp [hname]⟩)
  simp only [numericErrors, hcolumn, Option.mem_some_iff, forall_eq']
  -- only a value of the column's type is compared
  by_cases hcompared : valueOf values entry.1 ≠ .null ∧
      matchesArrowType (valueOf values entry.1) column.type = true
  · rw [if_pos hcompared]
    have hreturns : (∃ b, (valueOf values entry.1).lessThan entry.2 = .ok b) ↔ _ := lessThan_returns
    constructor
    · rintro ⟨errors, h⟩ ⟨-, hnan⟩
      obtain ⟨b, hb, -⟩ := bind_eq_ok.1 h
      exact hreturns.1 ⟨b, hb⟩ hnan
    · intro hnumber
      have hne : valueOf values entry.1 ≠ .decimal .nan := by
        intro hnan
        refine hnumber ⟨?_, hnan⟩
        have htype := hcompared.2
        rw [hnan] at htype
        cases hcase : column.type <;> rw [hcase] at htype <;> first | rfl | cases htype
      obtain ⟨b, hb⟩ := hreturns.2 hne
      exact ⟨_, bind_eq_ok.2 ⟨b, hb, rfl⟩⟩
  · rw [if_neg hcompared]
    refine iff_of_true ⟨[], rfl⟩ ?_
    rintro ⟨htype, hnan⟩
    exact hcompared (by simp [htype, hnan, matchesArrowType])

/-- The checks of domains and minimums return unless they meet a NaN. -/
theorem domainAndNumericErrors_returns {values : List (String × SourceValue)} :
    (∃ errors, domainAndNumericErrors config values = .ok errors) ↔
      ¬ NanAtMinimum config values := by
  have hmapM : (∃ errors, domainAndNumericErrors config values = .ok errors) ↔
      ∃ numeric, config.numericMinimums.mapM (numericErrors config values) = .ok numeric := by
    constructor
    · rintro ⟨errors, h⟩
      obtain ⟨numeric, hnumeric, -⟩ := bind_eq_ok.1 h
      exact ⟨numeric, hnumeric⟩
    · rintro ⟨numeric, h⟩
      exact ⟨_, bind_eq_ok.2 ⟨numeric, h, rfl⟩⟩
  rw [hmapM, mapM_returns]
  constructor
  · rintro h ⟨entry, hentry, column, hcolumn, hnan⟩
    exact (numericErrors_returns hentry).1 (h entry hentry) column hcolumn hnan
  · intro h entry hentry
    exact (numericErrors_returns hentry).2 fun column hcolumn hnan =>
      h ⟨entry, hentry, column, hcolumn, hnan⟩

variable (config)

/-- A primary key column is null. -/
def keyIsNull (r : SourceRecord config) : Bool :=
  config.primaryKeyColumns.any fun column => r.value column = .null

/-- The tuples of the primary key are equal. -/
def keysEqual (a b : SourceRecord config) : Bool :=
  config.primaryKeyColumns.all fun column => (a.value column).eqv (b.value column)

/-- `_child_reference_column`. -/
def childReferenceColumn : Except Raised String :=
  if config.sourceTable = "order_items" ∨ config.sourceTable = "order_payments" then .ok "order_id"
  else .error ⟨.valueError, "BROKEN_REFERENCE requires a child table record"⟩

/-- `CorruptionPlan.apply` of a kind, at an ordinal; a kind that does not fit the table raises. -/
def applyKind (kind : CorruptionKind) (ordinal : Nat) (r : SourceRecord config) :
    Except Raised (SourceRecord config) :=
  match kind with
  | .nullPrimaryKey => .ok (r.withValue (config.primaryKeyColumns.head config.keyed) .null)
  | .invalidStatus =>
    match config.statusDomains with
    | [] => .error ⟨.valueError, "INVALID_STATUS requires a configured status domain"⟩
    | entry :: _ => .ok (r.withValue entry.1 (.text "__invalid_status__"))
  | .negativeNumeric =>
    match config.numericMinimums with
    | [] => .error ⟨.valueError, "NEGATIVE_NUMERIC requires a configured numeric minimum"⟩
    | entry :: _ => .ok (r.withValue entry.1 (.int (-1)))
  | .typeMismatch =>
    .ok (r.withValue (config.primaryKeyColumns.getLast config.keyed) (.object ordinal))
  | .brokenReference => do
    let column ← childReferenceColumn config
    return r.withValue column (.text "__missing_parent__")
  | .duplicatePrimaryKey =>
    .error ⟨.valueError, "DUPLICATE_PRIMARY_KEY needs the previous record; use apply_page"⟩

/-- `_with_primary_key_of`. -/
def copyPrimaryKey (record previous : SourceRecord config) : SourceRecord config :=
  config.primaryKeyColumns.foldl (fun r column => r.withValue column (previous.value column)) record

end Validation

/-! What `pa.Table.from_pylist` accepts of a value of its column's type. -/

/-- The value can be stored under the Arrow type. -/
def fitsArrowType : ColumnType → SourceValue → Bool
  | .int32, .int n => -2 ^ 31 ≤ n && n < 2 ^ 31
  | .decimal, .decimal (.finite c s) => s ≤ 2 && c.natAbs * 10 ^ (2 - s) < 10 ^ 14
  | .decimal, .decimal .nan => false
  | _, _ => true

/-- `_source_record_row` under the schema of the table. -/
def arrowRow (config : TableConfig) (r : SourceRecord config) : Except Raised Unit :=
  require (config.sourceColumns.all fun column => fitsArrowType column.type (r.value column.name))
    ⟨.otherException, "Value does not fit its Arrow type"⟩

/-- A character inside a JSON string, as `json.dumps(ensure_ascii=False)` writes it. -/
def jsonChar (c : Char) : List Char :=
  match c.toNat with
  | 0x22 => ['\\', '"']
  | 0x5C => ['\\', '\\']
  | 0x08 => ['\\', 'b']
  | 0x09 => ['\\', 't']
  | 0x0A => ['\\', 'n']
  | 0x0C => ['\\', 'f']
  | 0x0D => ['\\', 'r']
  | n => if n < 0x20 then ['\\', 'u', '0', '0', Nat.digitChar (n / 16), Nat.digitChar (n % 16)]
    else [c]

/-- A JSON string. -/
def jsonString (s : String) : String :=
  String.ofList ('"' :: s.toList.flatMap jsonChar ++ ['"'])

/-- A value of the payload: the basic types as `json.dumps` writes them, the others by
`_json_default`. -/
def jsonValue : SourceValue → Except Raised String
  | .null => .ok "null"
  | .text s => .ok (jsonString s)
  | .int n => .ok (toString n)
  | .bool b => .ok (if b then "true" else "false")
  | .timestamp t => .ok (jsonString (isoformat t))
  | .decimal d => .ok (jsonString d.fixed)
  | value => .error ⟨.typeError, "Unsupported quarantine value: " ++ value.typeName⟩

/-- One member of the payload. -/
def jsonMember (e : String × SourceValue) : Except Raised String := do
  let value ← jsonValue e.2
  return jsonString e.1 ++ ":" ++ value

/-- `_canonical_json(dict(values))`, with sorted keys. -/
def canonicalJson (values : List (String × SourceValue)) : Except Raised String := do
  let members ← (values.insertionSort fun a b => a.1 ≤ b.1).mapM jsonMember
  return "\x7b" ++ String.intercalate "," members ++ "\x7d"

/-- The checks and conversions of the records of a table. -/
def tableRules (config : TableConfig) : RecordRules (SourceRecord config) where
  cursor := SourceRecord.cursor
  schemaErrors := fun r => schemaAndTypeErrors config r.values
  nullKey := keyIsNull config
  sameKey := keysEqual config
  domainErrors := fun r => domainAndNumericErrors config r.values
  corrupt := applyKind config
  withPrimaryKeyOf := copyPrimaryKey config
  arrowRow := arrowRow config
  rawPayload := fun r => canonicalJson r.values

/-- `ParentReference`. -/
structure ParentReference where
  childColumn : String
  parentTable : String
  parentColumn : String

/-- `CHILD_PARENT_REFERENCES`. -/
def childParentReferences (sourceTable : String) : List ParentReference :=
  if sourceTable = "order_items" then [
    ⟨"order_id", "orders", "order_id"⟩,
    ⟨"product_id", "products", "product_id"⟩,
    ⟨"seller_id", "sellers", "seller_id"⟩]
  else if sourceTable = "order_payments" then [⟨"order_id", "orders", "order_id"⟩]
  else []

/-- `_parent_keys`: `SELECT parent_column FROM parent_table WHERE parent_column = ANY(keys)`,
in the snapshot. The parent columns are texts, so a key that is neither a text nor null
makes the driver or the database refuse the query. -/
def parentKeys (parents : ParentReference → List String) (reference : ParentReference)
    (keys : List SourceValue) : Except Raised (List String) := do
  require (keys.all fun key => key matches .null | .text _)
    ⟨.otherException, "cannot compare the keys with a text column"⟩
  return (parents reference).filter fun key => .text key ∈ keys

/-- The cursor of a record whose parent key is missing. -/
def brokenCursor {config : TableConfig} (reference : ParentReference) (present : List String)
    (r : SourceRecord config) : Except Raised (List (List CursorKey)) :=
  match r.value reference.childColumn with
  | .text key => .ok (if key ∈ present then [] else [r.cursor.keys])
  | .int _ => .ok [r.cursor.keys]
  | _ => .error ⟨.typeError, "Parent reference keys must be strings or integers"⟩

/-- `find_broken_parent_references`, by the cursors of the children: one query for each reference
of the table, then one pass over the page. -/
def findBrokenParentReferences (config : TableConfig) (parents : ParentReference → List String)
    (records : List (SourceRecord config)) : Except Raised (List (List CursorKey)) := do
  let broken ← (childParentReferences config.sourceTable).mapM fun reference => do
    let present ← parentKeys parents reference (records.map fun r => r.value reference.childColumn)
    let cursors ← records.mapM (brokenCursor reference present)
    return cursors.flatten
  return broken.flatten

example : jsonValue (.timestamp 1000000) = .ok "\"1970-01-01T00:00:01+00:00\"" := by decide

example : jsonValue (.decimal (.finite (-150) 2)) = .ok "\"-1.50\"" := by decide

end CommercePlatform
