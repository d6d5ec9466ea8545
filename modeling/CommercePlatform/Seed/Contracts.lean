import CommercePlatform.Common.Raised
import CommercePlatform.Lib.Csv
import CommercePlatform.Lib.Traverse
/-!
# The raw files of a seed

`src/seed/contracts.py` and `_read_raw_rows` of `src/seed/loader.py`. A seed reads six
CSV files twice. The validator opens each file as `utf-8-sig`, which drops a byte order
mark, and compares the first row of `csv.reader` with the expected header. The loader
opens the same file as `utf-8`, which keeps the mark, and reads it with
`csv.DictReader`, whose field names are the first row as it finds it.

So a file saved with a byte order mark, as spreadsheet programs save it, passes the
validator, and the loader sees a first field name that begins with the mark. The lookup
of the first column then raises at the first row. What the two functions agree on is
said exactly:

> `readRawRows_readable_iff`: for every directory the validator accepts, the loader reads
> every row of every file, each value from the column of its header, iff each file has no
> byte order mark, or no data row, and no field over the size limit of the `csv` module.

The last part is about both readers. `csv` raises at a field of more than
`field_size_limit` characters, and the validator reads the first row only.

The reader itself is `Lib.Csv`, in the default dialect both callers use. It yields rows
one at a time with an error in its place, because the validator stops after one row and
the loader after the first that raises. The proof compares the two readings of one text.
Without a mark they are the same text (`readable_iff_of_unmarked`); with one the
loader's text is the validator's behind one more character, which goes into the first
field of the first row and into no other (`Lib.rows_mark_field`), so the rest of the
rows are the same and only the field names differ (`marked_header`).

A file is valid UTF-8 here and is the list of its characters, the mark included; bytes
that do not decode raise in both functions before anything is compared.

All contracts are alike in what the proof needs (`TableContract.WellFormed`), which is
checked once for the six.
-/

namespace CommercePlatform.Seed

open Lib

/-- The characters of a file, a byte order mark included. -/
abbrev Text := List Char

/-- The files of the input directory, by name, and the texts of their paths `input_dir / name`,
which the errors show. -/
structure InputDirectory where
  file : String → Option Text
  path : String → String

structure TableContract where
  tableName : String
  fileName : String
  rawHeader : List String
  selectedColumns : List String
  primaryKey : List String
deriving DecidableEq, Repr

def customersContract : TableContract where
  tableName := "customers"
  fileName := "olist_customers_dataset.csv"
  rawHeader := ["customer_id", "customer_unique_id", "customer_zip_code_prefix", "customer_city",
    "customer_state"]
  selectedColumns := ["customer_id", "customer_unique_id", "customer_city", "customer_state"]
  primaryKey := ["customer_id"]

def ordersContract : TableContract where
  tableName := "orders"
  fileName := "olist_orders_dataset.csv"
  rawHeader := ["order_id", "customer_id", "order_status", "order_purchase_timestamp",
    "order_approved_at", "order_delivered_carrier_date", "order_delivered_customer_date",
    "order_estimated_delivery_date"]
  selectedColumns := ["order_id", "customer_id", "order_status", "order_purchase_timestamp",
    "order_approved_at", "order_delivered_carrier_date", "order_delivered_customer_date",
    "order_estimated_delivery_date"]
  primaryKey := ["order_id"]

def orderItemsContract : TableContract where
  tableName := "order_items"
  fileName := "olist_order_items_dataset.csv"
  rawHeader := ["order_id", "order_item_id", "product_id", "seller_id", "shipping_limit_date",
    "price", "freight_value"]
  selectedColumns := ["order_id", "order_item_id", "product_id", "seller_id",
    "shipping_limit_date", "price", "freight_value"]
  primaryKey := ["order_id", "order_item_id"]

def orderPaymentsContract : TableContract where
  tableName := "order_payments"
  fileName := "olist_order_payments_dataset.csv"
  rawHeader := ["order_id", "payment_sequential", "payment_type", "payment_installments",
    "payment_value"]
  selectedColumns := ["order_id", "payment_sequential", "payment_type", "payment_installments",
    "payment_value"]
  primaryKey := ["order_id", "payment_sequential"]

def productsContract : TableContract where
  tableName := "products"
  fileName := "olist_products_dataset.csv"
  rawHeader := ["product_id", "product_category_name", "product_name_lenght",
    "product_description_lenght", "product_photos_qty", "product_weight_g", "product_length_cm",
    "product_height_cm", "product_width_cm"]
  selectedColumns := ["product_id", "product_category_name", "product_weight_g",
    "product_length_cm", "product_height_cm", "product_width_cm"]
  primaryKey := ["product_id"]

def sellersContract : TableContract where
  tableName := "sellers"
  fileName := "olist_sellers_dataset.csv"
  rawHeader := ["seller_id", "seller_zip_code_prefix", "seller_city", "seller_state"]
  selectedColumns := ["seller_id", "seller_city", "seller_state"]
  primaryKey := ["seller_id"]

/-- `TABLE_CONTRACTS`, in loading order. -/
def tableContracts : List TableContract :=
  [customersContract, ordersContract, orderItemsContract, orderPaymentsContract,
    productsContract, sellersContract]

/-- `CONTRACT_BY_TABLE`. -/
def contractByTable (tableName : String) : Option TableContract :=
  tableContracts.find? fun contract => contract.tableName = tableName

/-- U+FEFF, the byte order mark. -/
def byteOrderMark : Char := '\uFEFF'

/-- The text as `encoding="utf-8-sig"` reads it: one mark at the beginning is dropped, a second
one is a character. -/
def decodeUtf8Sig : Text → Text
  | [] => []
  | c :: text => if c = byteOrderMark then text else c :: text

/-- `csv.field_size_limit()`. -/
def fieldSizeLimit : Nat := 131072

/-- `csv.Error`. -/
def csvError : Csv.Error → Raised
  | .fieldLimit => ⟨.otherException, "field larger than field limit (131072)"⟩
  | .newLine => ⟨.otherException, "new-line character seen in unquoted field"⟩

/-- `next(csv.reader(file), ())`: an empty file has the empty row. -/
def firstRow (text : Text) : Except Raised (List String) :=
  match Csv.csvReader (some fieldSizeLimit) text with
  | (row :: _, _) => .ok (row.map String.ofList)
  | ([], some e) => .error (csvError e)
  | ([], none) => .ok []

/-- A character in the `repr` of a text. Beyond Latin-1 every character is taken to be
printable; CPython escapes those that are not. -/
def reprChar (quote c : Char) : List Char :=
  let n := c.toNat
  if c = quote ∨ c = '\\' then ['\\', c]
  else if n = 0x0A then ['\\', 'n']
  else if n = 0x0D then ['\\', 'r']
  else if n = 0x09 then ['\\', 't']
  else if n < 0x20 ∨ (0x7F ≤ n ∧ n ≤ 0xA0) ∨ n = 0xAD then
    ['\\', 'x', Nat.digitChar (n / 16), Nat.digitChar (n % 16)]
  else [c]

/-- `repr` of a text: in single quotes, unless it has some and no double ones. -/
def reprText (text : String) : String :=
  let single := Char.ofNat 0x27
  let double := Char.ofNat 0x22
  let quote := if single ∈ text.toList ∧ double ∉ text.toList then double else single
  String.ofList (quote :: text.toList.flatMap (reprChar quote) ++ [quote])

/-- A tuple of texts in an f-string. -/
def tupleText : List String → String
  | [name] => "(" ++ reprText name ++ ",)"
  | names => "(" ++ ", ".intercalate (names.map reprText) ++ ")"

/-- `validate_input_directory`, with the checksum of every file: file by file in loading order,
whether it is there and what its header is. It reads no data row. -/
def validateInputDirectory (sha256 : Text → String) (inputDir : InputDirectory) :
    Except Raised (List (String × String)) :=
  tableContracts.mapM fun contract =>
    match inputDir.file contract.fileName with
    | none => .error ⟨.valueError, "Required dataset file is missing: " ++ inputDir.path contract.fileName⟩
    | some text => do
      let header ← firstRow (decodeUtf8Sig text)
      require (header = contract.rawHeader)
        ⟨.valueError, "Unexpected header for " ++ contract.fileName ++ ": expected " ++
          tupleText contract.rawHeader ++ ", got " ++ tupleText header⟩
      return (contract.fileName, sha256 text)

/-- The `dict` that `csv.DictReader` makes of a row: fields that the row lacks are `None`. -/
def dictRow (fieldnames row : List String) : List (String × Option String) :=
  fieldnames.zip (row.map some) ++ (fieldnames.drop row.length).map fun name => (name, none)

/-- `record[column]`: a later item of one key replaces an earlier one, as in the `dict` the
reader builds. -/
def item (record : List (String × Option String)) (column : String) :
    Except Raised (Option String) :=
  match record.reverse.lookup column with
  | none => .error ⟨.otherException, column⟩
  | some value => .ok value

/-- `value or None`. -/
def orNone : Option String → Option String
  | some "" => none
  | value => value

/-- A row of `_read_raw_rows`: the selected columns with their values. -/
abbrev RawRow := List (String × Option String)

def selectColumns (contract : TableContract) (record : List (String × Option String)) :
    Except Raised RawRow :=
  contract.selectedColumns.mapM fun column => do
    let value ← item record column
    return (column, orNone value)

/-- The records of `csv.DictReader`: the first row names the fields, and rows without fields are
passed over. -/
def dictRecords : List Csv.Row → List (List (String × Option String))
  | [] => []
  | fieldnames :: data => (data.filter fun row => row ≠ []).map fun row =>
    dictRow (fieldnames.map String.ofList) (row.map String.ofList)

/-- `_read_raw_rows`: the selected columns of every row, or the first exception. An error of the
reader comes after the rows before it. -/
def readRawRows (inputDir : InputDirectory) (tableName : String) : Except Raised (List RawRow) :=
  match contractByTable tableName with
  | none => .error ⟨.otherException, tableName⟩
  | some contract =>
    match inputDir.file contract.fileName with
    | none => .error ⟨.fileNotFoundError,
      "[Errno 2] No such file or directory: " ++ reprText (inputDir.path contract.fileName)⟩
    | some text => do
      let selected ← (dictRecords (Csv.csvReader (some fieldSizeLimit) text).1).mapM
        (selectColumns contract)
      match (Csv.csvReader (some fieldSizeLimit) text).2 with
      | some e => .error (csvError e)
      | none => .ok selected

/-! ## What the loader should read -/

/-- The data rows of a file: what follows the first row in the validator's reading, without
rows that have no fields. -/
def dataRows (text : Text) : List (List String) :=
  ((Csv.csvReader none (decodeUtf8Sig text)).1.tail.filter fun row => row ≠ []).map
    fun row => row.map String.ofList

/-- The values of the selected columns at their positions in the header; an empty or missing
value is `None`. -/
def located (contract : TableContract) (row : List String) : RawRow :=
  contract.selectedColumns.map fun column =>
    (column, orNone row[contract.rawHeader.idxOf column]?)

/-- The loader reads every row of the file, each value where the header has its column: what the
validator is there for. -/
def Readable (inputDir : InputDirectory) (contract : TableContract) : Prop :=
  ∃ text ∈ inputDir.file contract.fileName,
    readRawRows inputDir contract.tableName = .ok ((dataRows text).map (located contract))

/-- The file has no byte order mark, or no data row, and no field is larger than the limit of the
`csv` module. It speaks of the file and the reader only. -/
def ReadsAlike (text : Text) : Prop :=
  (text.head? ≠ some byteOrderMark ∨ dataRows text = []) ∧
    Csv.FieldsFit fieldSizeLimit (Csv.csvReader none (decodeUtf8Sig text)).1

/-- A character of a header: no comma, newline or mark. -/
def isHeaderChar (c : Char) : Bool := c != ',' && !Csv.isNewline c && c != byteOrderMark

/-- What is the same for every contract: the header has no column twice, two columns at least,
the first of which is selected, has no mark, comma or newline, and is short. -/
structure TableContract.WellFormed (contract : TableContract) : Prop where
  nodup : contract.rawHeader.Nodup
  selected : ∀ column ∈ contract.selectedColumns, column ∈ contract.rawHeader
  first : ∃ first second others rest, contract.rawHeader = first :: second :: others ∧
    contract.selectedColumns = first :: rest ∧
    first.toList.all isHeaderChar = true ∧ first.toList ≠ [] ∧ 2 * first.toList.length + 3 < fieldSizeLimit

theorem wellFormed_of_mem {contract : TableContract} (h : contract ∈ tableContracts) :
    contract.WellFormed := by
  fin_cases h <;>
    exact ⟨by decide, by decide, _, _, _, _, rfl, rfl, by decide, by decide, by decide⟩

theorem contractByTable_of_mem {contract : TableContract} (h : contract ∈ tableContracts) :
    contractByTable contract.tableName = some contract := by
  fin_cases h <;> rfl

section Records

variable {contract : TableContract} {fieldnames row : List String} {column : String}

/-- A record begins with the first field name and goes on with the others. -/
theorem dictRow_cons (name : String) (fieldnames row : List String) :
    dictRow (name :: fieldnames) row = (name, row.head?) :: dictRow fieldnames row.tail := by
  cases row with
  | nil => simp [dictRow]
  | cons value row => simp [dictRow]

/-- A column that is no field name raises. -/
theorem lookup_dictRow_eq_none (hmem : column ∉ fieldnames) :
    (dictRow fieldnames row).reverse.lookup column = none := by
  induction fieldnames generalizing row with
  | nil => simp [dictRow]
  | cons name fieldnames ih =>
    rw [List.mem_cons, not_or] at hmem
    obtain ⟨hne, hmem⟩ := hmem
    rw [dictRow_cons, List.reverse_cons, List.lookup_append, ih hmem]
    simp [hne]

/-- Without the column among the field names the lookup raises `KeyError`. -/
theorem item_dictRow_error (hmem : column ∉ fieldnames) :
    item (dictRow fieldnames row) column = .error ⟨.otherException, column⟩ := by
  rw [item, lookup_dictRow_eq_none hmem]

/-- The value of a field name that stands once. -/
theorem item_dictRow (hnodup : fieldnames.Nodup) (hmem : column ∈ fieldnames) :
    item (dictRow fieldnames row) column = .ok row[fieldnames.idxOf column]? := by
  suffices h : (dictRow fieldnames row).reverse.lookup column =
      some row[fieldnames.idxOf column]? by rw [item, h]
  induction fieldnames generalizing row with
  | nil => cases hmem
  | cons name fieldnames ih =>
    obtain ⟨hnot, hnodup⟩ := List.nodup_cons.1 hnodup
    rw [dictRow_cons, List.reverse_cons, List.lookup_append]
    by_cases hname : column = name
    · subst hname
      rw [lookup_dictRow_eq_none hnot]
      simp [List.head?_eq_getElem?]
    · rw [ih hnodup ((List.mem_cons.1 hmem).resolve_left hname),
        List.idxOf_cons_ne _ (Ne.symm hname)]
      simp

theorem selectColumns_eq_located (hwf : contract.WellFormed) (row : List String) :
    selectColumns contract (dictRow contract.rawHeader row) = .ok (located contract row) := by
  unfold selectColumns located
  rw [mapM_eq_ok, List.forall₂_map_right_iff, List.forall₂_same]
  intro column hcolumn
  rw [item_dictRow hwf.nodup (hwf.selected column hcolumn)]
  rfl

/-- Without the first field name of the header no row can be read. -/
theorem selectColumns_error {first : String} {rest : List String}
    (hselected : contract.selectedColumns = first :: rest) (hmem : first ∉ fieldnames) :
    ∃ e, selectColumns contract (dictRow fieldnames row) = .error e := by
  unfold selectColumns
  rw [hselected, List.mapM_cons, item_dictRow_error hmem]
  exact ⟨_, rfl⟩

end Records

section Reading

variable {contract : TableContract} {inputDir : InputDirectory} {text : Text}

/-- What the validator's reading of an accepted file begins with. -/
theorem firstRow_eq_ok {header : List String} {data : Text} (h : firstRow data = .ok header)
    (hne : header ≠ []) : ∃ row rows ending,
      Csv.csvReader (some fieldSizeLimit) data = (row :: rows, ending) ∧
        row.map String.ofList = header := by
  unfold firstRow at h
  split at h
  next row rows ending hread => exact ⟨row, rows, ending, hread, Except.ok.inj h⟩
  next => cases h
  next => exact absurd (Except.ok.inj h).symm hne

/-- An accepted file exists, and its first row is the expected header. -/
theorem accepted {sha256 : Text → String} {checksums : List (String × String)}
    (h : validateInputDirectory sha256 inputDir = .ok checksums)
    (hcontract : contract ∈ tableContracts) :
    ∃ text, inputDir.file contract.fileName = some text ∧
      firstRow (decodeUtf8Sig text) = .ok contract.rawHeader := by
  obtain ⟨y, hy⟩ := (mapM_returns.1 ⟨checksums, h⟩) contract hcontract
  split at hy
  next => cases hy
  next text htext =>
    obtain ⟨header, hheader, hy⟩ := bind_eq_ok.1 hy
    obtain ⟨_, heq, _⟩ := bind_eq_ok.1 hy
    rw [require_eq_ok] at heq
    exact ⟨text, htext, heq ▸ hheader⟩

/-- The loader's reading of a file, from what `csv.reader` makes of it: the file is there, and
its rows become records one by one. -/
theorem readRawRows_eq (hcontract : contract ∈ tableContracts)
    (htext : inputDir.file contract.fileName = some text) :
    readRawRows inputDir contract.tableName = (do
      let selected ← (dictRecords (Csv.csvReader (some fieldSizeLimit) text).1).mapM
        (selectColumns contract)
      match (Csv.csvReader (some fieldSizeLimit) text).2 with
      | some e => .error (csvError e)
      | none => .ok selected) := by
  simp only [readRawRows, contractByTable_of_mem hcontract, htext]

/-- The rows of the validator's reading, where no field exceeds the limit. -/
theorem dataRows_eq {row : Csv.Row} {rows : List Csv.Row} {ending : Option Csv.Error}
    (hread : Csv.csvReader (some fieldSizeLimit) (decodeUtf8Sig text) = (row :: rows, ending))
    (hfit : Csv.FieldsFit fieldSizeLimit (Csv.csvReader none (decodeUtf8Sig text)).1) :
    dataRows text = (rows.filter fun row => row ≠ []).map fun row => row.map String.ofList := by
  unfold dataRows
  rw [← (Csv.csvReader_limit fieldSizeLimit _).2 hfit, hread]
  rfl

/-- A reading that ended met no field over the limit. -/
theorem fieldsFit_iff {row : Csv.Row} {rows : List Csv.Row} {ending : Option Csv.Error}
    (hread : Csv.csvReader (some fieldSizeLimit) (decodeUtf8Sig text) = (row :: rows, ending)) :
    Csv.FieldsFit fieldSizeLimit (Csv.csvReader none (decodeUtf8Sig text)).1 ↔ ending = none := by
  rw [← (Csv.csvReader_limit fieldSizeLimit _).1, hread]

/-- Without a mark the two readings are one: the loader reads all rows unless a field exceeds the
limit. -/
theorem readable_iff_of_unmarked (hcontract : contract ∈ tableContracts)
    (htext : inputDir.file contract.fileName = some text) (hmark : decodeUtf8Sig text = text)
    {row : Csv.Row} {rows : List Csv.Row} {ending : Option Csv.Error}
    (hread : Csv.csvReader (some fieldSizeLimit) text = (row :: rows, ending))
    (hrow : row.map String.ofList = contract.rawHeader) :
    Readable inputDir contract ↔
      Csv.FieldsFit fieldSizeLimit (Csv.csvReader none (decodeUtf8Sig text)).1 := by
  -- without the mark both readers are given the same text, the validator with the field limit
  have hsig : Csv.csvReader (some fieldSizeLimit) (decodeUtf8Sig text) = (row :: rows, ending) := by
    rw [hmark, hread]
  -- every column of the contract is in the header, so the selection of columns never raises
  have hselected : (dictRecords (row :: rows)).mapM (selectColumns contract) =
      .ok (((rows.filter fun row => row ≠ []).map fun row => row.map String.ofList).map
        (located contract)) := by
    rw [dictRecords, hrow, mapM_eq_ok, List.map_map, List.forall₂_map_left_iff,
      List.forall₂_map_right_iff, List.forall₂_same]
    exact fun row _ => selectColumns_eq_located (wellFormed_of_mem hcontract) _
  have hloader := readRawRows_eq hcontract htext
  -- what is left to decide is whether the reader stopped at a field that is too long
  rw [hread, hselected] at hloader
  rw [fieldsFit_iff hsig]
  constructor
  · rintro ⟨text', htext', hreadable⟩
    rw [hloader] at hreadable
    cases ending with
    | none => rfl
    | some e => cases hreadable
  · rintro rfl
    refine ⟨text, htext, ?_⟩
    rw [hloader, dataRows_eq hsig ((fieldsFit_iff hsig).2 rfl)]
    rfl

/-- Behind a mark the first field of the header is another text, so the header the loader reads
lacks the first column it selects. -/
theorem marked_header (hcontract : contract ∈ tableContracts) {row : Csv.Row} {rows : List Csv.Row}
    {ending : Option Csv.Error}
    (hread : Csv.csvReader (some fieldSizeLimit) text = (row :: rows, ending))
    (hrow : row.map String.ofList = contract.rawHeader) :
    ∃ header first rest, contract.selectedColumns = first :: rest ∧
      first ∉ header.map String.ofList ∧
      Csv.csvReader (some fieldSizeLimit) (byteOrderMark :: text) = (header :: rows, ending) := by
  have hwf := wellFormed_of_mem hcontract
  obtain ⟨first, second, others, rest, hheader, hselected, hall, hne, hshort⟩ := hwf.first
  -- no character of the first field means anything to the reader of the file
  have hchars : ∀ c ∈ first.toList, c ≠ ',' ∧ Csv.isNewline c = false ∧ c ≠ byteOrderMark := by
    intro c hc
    have hheaderChar : isHeaderChar c = true := List.all_eq_true.1 hall c hc
    simpa [isHeaderChar, and_assoc] using hheaderChar
  obtain ⟨firstField, otherFields, rfl⟩ : ∃ firstField otherFields, row = firstField :: otherFields := by
    cases row with
    | nil => rw [hheader] at hrow; cases hrow
    | cons firstField otherFields => exact ⟨_, _, rfl⟩
  rw [hheader, List.map_cons, List.cons_eq_cons] at hrow
  obtain ⟨hfirst, hothers⟩ := hrow
  have hfirstField : firstField = first.toList := by
    rw [← hfirst, String.toList_ofList]
  have hmark : Csv.isNewline byteOrderMark = false ∧ byteOrderMark ≠ '"' ∧ byteOrderMark ≠ ',' := by
    decide
  have hlimit : ∀ n ∈ some fieldSizeLimit, 2 * firstField.length + 3 < n := by
    intro n hn
    cases hn
    rw [hfirstField]
    exact hshort
  obtain ⟨tail, hmarked⟩ := Csv.csvReader_mark hmark hread (by rintro rfl; cases hothers)
    (fun c hc => ⟨(hchars c (hfirstField ▸ hc)).1, (hchars c (hfirstField ▸ hc)).2.1⟩) hlimit
  refine ⟨(byteOrderMark :: tail) :: otherFields, first, rest, hselected, ?_, hmarked⟩
  rw [List.map_cons, hothers, List.mem_cons, not_or]
  constructor
  · intro heq
    have hmem : byteOrderMark ∈ first.toList := by
      rw [heq, String.toList_ofList]
      exact List.mem_cons_self ..
    exact (hchars _ hmem).2.2 rfl
  · have hnodup := hwf.nodup
    rw [hheader] at hnodup
    exact (List.nodup_cons.1 hnodup).1

/-- Under such a header a data row is refused. -/
theorem dictRecords_refused {header : Csv.Row} {rows : List Csv.Row} {first : String}
    {rest : List String} (hselected : contract.selectedColumns = first :: rest)
    (hmissing : first ∉ header.map String.ofList) {selected : List RawRow}
    (hselect : (dictRecords (header :: rows)).mapM (selectColumns contract) = .ok selected) :
    rows.filter (fun row => row ≠ []) = [] := by
  cases hrows : rows.filter fun row => row ≠ [] with
  | nil => rfl
  | cons data rest' =>
    exfalso
    have hmem : dictRow (header.map String.ofList) (data.map String.ofList) ∈
        dictRecords (header :: rows) := by
      rw [dictRecords, hrows]
      exact List.mem_map_of_mem (List.mem_cons_self ..)
    obtain ⟨y, hy⟩ := (mapM_returns.1 ⟨selected, hselect⟩) _ hmem
    obtain ⟨e, he⟩ : ∃ e, selectColumns contract (dictRow (header.map String.ofList)
        (data.map String.ofList)) = .error e := selectColumns_error hselected hmissing
    rw [he] at hy
    cases hy

/-- Behind a mark the loader misses the first column: it reads nothing, where there is no data
row, or raises. -/
theorem readable_iff_of_marked (hcontract : contract ∈ tableContracts)
    (htext : inputDir.file contract.fileName = some (byteOrderMark :: text))
    {row : Csv.Row} {rows : List Csv.Row} {ending : Option Csv.Error}
    (hread : Csv.csvReader (some fieldSizeLimit) text = (row :: rows, ending))
    (hrow : row.map String.ofList = contract.rawHeader) :
    Readable inputDir contract ↔ ReadsAlike (byteOrderMark :: text) := by
  have hdecode : decodeUtf8Sig (byteOrderMark :: text) = text := rfl
  have hsig : Csv.csvReader (some fieldSizeLimit) (decodeUtf8Sig (byteOrderMark :: text)) =
      (row :: rows, ending) := by rw [hdecode, hread]
  obtain ⟨header, first, rest, hselected, hmissing, hmarked⟩ := marked_header hcontract hread hrow
  have hloader := readRawRows_eq hcontract htext
  rw [hmarked] at hloader
  constructor
  · rintro ⟨text', htext', hreadable⟩
    rw [hloader] at hreadable
    obtain ⟨selected, hselect, hreadable⟩ := bind_eq_ok.1 hreadable
    -- the loader read everything, although each data row would raise
    have hending : ending = none := by
      cases ending with
      | none => rfl
      | some e => cases hreadable
    have hfit := (fieldsFit_iff hsig).2 hending
    refine ⟨.inr ?_, hfit⟩
    rw [dataRows_eq hsig hfit, dictRecords_refused hselected hmissing hselect]
    rfl
  · rintro ⟨hrows, hfit⟩
    have hempty : dataRows (byteOrderMark :: text) = [] := hrows.resolve_left (fun h => h rfl)
    refine ⟨_, htext, ?_⟩
    rw [hloader, hempty]
    rw [dataRows_eq hsig hfit, List.map_eq_nil_iff] at hempty
    obtain rfl := (fieldsFit_iff hsig).1 hfit
    -- without a data row no column is looked up
    rw [dictRecords, hempty]
    rfl

/-- The loader reads every row of an accepted directory exactly where each file has no byte order
mark, or no data row, and no field over the limit. -/
theorem readRawRows_readable_iff {sha256 : Text → String} {checksums : List (String × String)}
    (haccepted : validateInputDirectory sha256 inputDir = .ok checksums) :
    (∀ contract ∈ tableContracts, Readable inputDir contract) ↔
      ∀ contract ∈ tableContracts, ∀ text ∈ inputDir.file contract.fileName, ReadsAlike text := by
  have heach : ∀ contract ∈ tableContracts, ∀ text ∈ inputDir.file contract.fileName,
      (Readable inputDir contract ↔ ReadsAlike text) := by
    intro contract hcontract text htext
    obtain ⟨text', htext', hfirst⟩ := accepted haccepted hcontract
    obtain rfl : text' = text := Option.some.inj (htext'.symm.trans htext)
    have hne : contract.rawHeader ≠ [] := by
      obtain ⟨first, second, others, rest, hheader, -⟩ := (wellFormed_of_mem hcontract).first
      simp [hheader]
    obtain ⟨row, rows, ending, hread, hrow⟩ := firstRow_eq_ok hfirst hne
    -- the two readings differ only behind a mark
    by_cases hmark : text'.head? = some byteOrderMark
    · cases text' with
      | nil => cases hmark
      | cons c text =>
        cases hmark
        exact readable_iff_of_marked hcontract htext hread hrow
    · have hdecode : decodeUtf8Sig text' = text' := by
        cases text' with
        | nil => rfl
        | cons c text => exact if_neg fun hc => hmark (congrArg some hc)
      rw [hdecode] at hread
      rw [readable_iff_of_unmarked hcontract htext hdecode hread hrow]
      exact ⟨fun hfit => ⟨.inl hmark, hfit⟩, fun h => h.2⟩
  constructor
  · intro h contract hcontract text htext
    exact (heach contract hcontract text htext).1 (h contract hcontract)
  · intro h contract hcontract
    obtain ⟨text, htext, -⟩ := accepted haccepted hcontract
    exact (heach contract hcontract text htext).2 (h contract hcontract text htext)

end Reading

/-- A file with its header and the given lines. -/
def fileOf (contract : TableContract) (lines : List Char) : Text :=
  [','].intercalate (contract.rawHeader.map String.toList) ++ '\n' :: lines

/-- A directory of six files; `customers` is the text of the first. -/
def directoryOf (customers : Text) : InputDirectory where
  file name :=
    if name = customersContract.fileName then some customers
    else (tableContracts.find? fun contract => contract.fileName = name).map (fileOf · [])
  path name := "data/" ++ name

/-- Five values behind a byte order mark. -/
def markedDirectory : InputDirectory :=
  directoryOf (byteOrderMark :: fileOf customersContract "a,b,1,c,SP\n".toList)

/-- Five values. -/
def plainDirectory : InputDirectory :=
  directoryOf (fileOf customersContract "a,b,1,c,SP\n".toList)

/-- The validator accepts the marked file; the loader misses the column `customer_id`. -/
theorem readRawRows_marked :
    ∃ (inputDir : InputDirectory) (checksums : List (String × String)),
      validateInputDirectory (fun _ => "") inputDir = .ok checksums ∧
      ¬ ∀ contract ∈ tableContracts, Readable inputDir contract := by
  refine ⟨markedDirectory, tableContracts.map fun contract => (contract.fileName, ""),
    by decide +kernel, fun h => ?_⟩
  obtain ⟨text, -, hread⟩ := h customersContract (List.mem_cons_self ..)
  have herror : readRawRows markedDirectory "customers" = .error ⟨.otherException, "customer_id"⟩ := by
    decide +kernel
  exact absurd (herror.symm.trans hread) (by simp)

/-- Without the mark it reads the row. -/
theorem readRawRows_plain :
    Readable plainDirectory customersContract ∧ Readable plainDirectory productsContract := by
  have haccepted : validateInputDirectory (fun _ => "") plainDirectory =
      .ok (tableContracts.map fun contract => (contract.fileName, "")) := by decide +kernel
  have hplain : ∀ contract ∈ tableContracts, ∀ text ∈ plainDirectory.file contract.fileName,
      text.head? ≠ some byteOrderMark ∧
        Csv.FieldsFit fieldSizeLimit (Csv.csvReader none (decodeUtf8Sig text)).1 := by
    decide +kernel
  have hread := (readRawRows_readable_iff haccepted).2 fun contract hcontract text htext =>
    ⟨.inl (hplain contract hcontract text htext).1, (hplain contract hcontract text htext).2⟩
  exact ⟨hread _ (by simp [tableContracts]), hread _ (by simp [tableContracts])⟩

end CommercePlatform.Seed
