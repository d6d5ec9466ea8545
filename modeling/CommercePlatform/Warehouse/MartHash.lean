import CommercePlatform.Common.RowHash
import CommercePlatform.Extraction.SqlOrder
import CommercePlatform.Warehouse.Publish
/-!
# Mart hashes

`src/warehouse/mart_hash.py`: one hash and one row count for each mart, taken of its
rows in the order of its key, and the relations in which two warehouses differ. The
hashes are recorded with every publish, and `changed_relations` is what a reader of the
outcome learns of it. So they should be equal exactly when the rows are:

> `mismatchedRelations_eq_nil_iff`: with unique order keys, no column that is a date or a
> time without zone, and no collision, no relation is mismatched iff each has the same
> rows in both warehouses, and the counts are the numbers of rows.

The proof goes from the bytes back to the rows. The bytes of a relation are its rows'
payloads, one line each, and no payload has a newline; the payload of a row is JSON of
its columns, which can be read back (`Common.RowHash`); and what Python writes for a
value determines the value it fetched (`jsonDefault_injective`). The order takes no part
in it: the reader sorts by a key that tells the rows apart, so rows of one set are read
in one order (`MartReader.select_eq_iff`). A digest is not injective; `NoCollision` asks
it of the two relations that are compared and of nothing else.

The database is what `MartReader` says of it: `SELECT * ... ORDER BY` gives the rows of
the relation in the order of the key columns. What Python gets for a value is
`MartValue.fetched`, and that is where different values can meet. An infinite instant
comes as a naive `datetime.max` or `datetime.min`, which `json_default` tells from every
other value; an infinite date comes as `date.max` or `date.min`, which are dates too. So
over columns whose values are fetched one to one (`MartType.Faithful`) the hashes
compare the rows, and over others what was fetched of them.
-/

namespace CommercePlatform.Warehouse

open Lib

/-- A value, or one of the two beyond all. -/
inductive Extended (α : Type) where
  | finite (value : α)
  | negInfinity
  | infinity
deriving DecidableEq

/-- The type of a column. -/
inductive MartType where
  | boolean
  | integer
  | double
  | varchar
  | decimal (scale : Nat)
  | date
  | timestamp
  | timestamptz
  | uuid
deriving DecidableEq, Repr

/-- A value of a column. -/
inductive MartValue where
  | null
  | boolean (value : Bool)
  | integer (value : Int)
  | double (value : FloatRepr)
  | varchar (value : String)
  | decimal (coefficient : Int) (scale : Nat)
  | date (day : Extended Int)
  | timestamp (time : Extended Timestamp)
  | timestamptz (instant : Extended Timestamp)
  | uuid (value : Uuid)

/-- A finite value is one Python has. -/
def Extended.Within {α : Type} (p : α → Prop) : Extended α → Prop
  | .finite value => p value
  | _ => True

/-- The value is one of its column. Finite days and times are those Python has. -/
inductive MartValue.HasType : MartValue → MartType → Prop where
  | null {type : MartType} : HasType .null type
  | boolean {b : Bool} : HasType (.boolean b) .boolean
  | integer {n : Int} : HasType (.integer n) .integer
  | double {f : FloatRepr} : HasType (.double f) .double
  | varchar {s : String} : HasType (.varchar s) .varchar
  | decimal {c : Int} {scale : Nat} : HasType (.decimal c scale) (.decimal scale)
  | date {e : Extended Int} (h : e.Within fun n => minDay ≤ n ∧ n ≤ maxDay) : HasType (.date e) .date
  | timestamp {e : Extended Timestamp} (h : e.Within IsDatetime) : HasType (.timestamp e) .timestamp
  | timestamptz {e : Extended Timestamp} (h : e.Within IsDatetime) :
    HasType (.timestamptz e) .timestamptz
  | uuid {u : Uuid} : HasType (.uuid u) .uuid

/-- What `fetchmany` hands over. -/
def MartValue.fetched : MartValue → FetchedValue
  | .null => .null
  | .boolean b => .bool b
  | .integer n => .int n
  | .double f => .float f
  | .varchar s => .text s
  | .decimal c scale => .decimal (.finite c scale)
  | .date (.finite day) => .date day
  | .date .negInfinity => .date minDay
  | .date .infinity => .date maxDay
  | .timestamp (.finite time) => .naive time
  | .timestamptz (.finite instant) => .aware instant
  | .timestamp .negInfinity | .timestamptz .negInfinity => .naive datetimeMin
  | .timestamp .infinity | .timestamptz .infinity => .naive datetimeMax
  | .uuid u => .uuid u

/-- A type whose values are fetched one to one. -/
def MartType.Faithful (type : MartType) : Prop := type ≠ .date ∧ type ≠ .timestamp

/-- The finite dates have texts of their own: what is lost is infinity. -/
theorem dateIsoformat_injective {m n : Int} (hm : minDay ≤ m ∧ m ≤ maxDay)
    (hn : minDay ≤ n ∧ n ≤ maxDay) (h : dateIsoformat m = dateIsoformat n) : m = n := by
  have hday : ∀ k : Int, dayOf (k * microsPerDay) = k := fun k => by
    unfold dayOf microsPerDay
    omega
  -- the text of a date is read back as the date
  have hread : ∀ k : Int, minDay ≤ k ∧ k ≤ maxDay →
      parseIsoformatDate (points (dateIsoformat k)) = some (civilOfDay k) := by
    intro k hk
    have hdatetime : IsDatetime (k * microsPerDay) := by
      unfold IsDatetime
      rwa [hday]
    obtain ⟨hy, hy', hmo, hmo', hd, hd'⟩ := civilOfDay_exists hk.1 hk.2
    have hd31 : (civilOfDay k).day ≤ 31 := by
      refine hd'.trans ?_
      unfold daysInMonth
      repeat' split
      all_goals omega
    rw [dateIsoformat, points_isoDate hdatetime, hday,
      parseIsoformatDate_dateText (by omega) (by omega) (by omega)]
    have hcast : ((civilOfDay k).year.toNat : Int) = (civilOfDay k).year ∧
        ((civilOfDay k).month.toNat : Int) = (civilOfDay k).month ∧
        ((civilOfDay k).day.toNat : Int) = (civilOfDay k).day := by omega
    rw [hcast.1, hcast.2.1, hcast.2.2]
  have heq := hread m hm
  rw [h, hread n hn] at heq
  exact civilOfDay_injective (Option.some.inj heq).symm

/-- The text of an instant is none of the two words for infinity. -/
theorem isoformat_ne_word {t : Timestamp} (h : IsDatetime t) {word : String}
    (hword : fromisoformat (points word) = none) : isoformat t ≠ word := by
  intro heq
  have hread := fromisoformat_isoformat h
  rw [heq, hword] at hread
  cases hread

/-- The JSON of a naive datetime is one of two words. -/
theorem jsonDefault_naive {t : Timestamp} {j : Json} (h : jsonDefault (.naive t) = .ok j) :
    t = datetimeMin ∧ j = .str (points "-infinity") ∨ t = datetimeMax ∧ j = .str (points "infinity") := by
  rw [jsonDefault] at h
  split at h
  next hmin =>
    cases h
    exact .inl ⟨hmin, rfl⟩
  next =>
    split at h
    next hmax =>
      cases h
      exact .inr ⟨hmax, rfl⟩
    next => cases h

theorem points_word_ne : points "-infinity" ≠ points "infinity" := by decide

/-- What an instant of a column is written as: its text, or the word of an infinite one. -/
theorem jsonDefault_timestamptz {e : Extended Timestamp} (he : e.Within IsDatetime) {j : Json}
    (h : jsonDefault (MartValue.timestamptz e).fetched = .ok j) :
    (∃ t, e = .finite t ∧ IsDatetime t ∧ j = .str (points (isoformat t))) ∨
      (e = .negInfinity ∧ j = .str (points "-infinity")) ∨
        (e = .infinity ∧ j = .str (points "infinity")) := by
  cases e with
  | finite t =>
    cases h
    exact .inl ⟨t, rfl, he, rfl⟩
  | negInfinity =>
    rcases jsonDefault_naive h with ⟨-, hj⟩ | ⟨hmax, -⟩
    · exact .inr (.inl ⟨rfl, hj⟩)
    · exact absurd hmax (by decide)
  | infinity =>
    rcases jsonDefault_naive h with ⟨hmin, -⟩ | ⟨-, hj⟩
    · exact absurd hmin (by decide)
    · exact .inr (.inr ⟨rfl, hj⟩)

theorem timestamptz_injective {e e' : Extended Timestamp} (he : e.Within IsDatetime)
    (he' : e'.Within IsDatetime) {j : Json}
    (h : jsonDefault (MartValue.timestamptz e).fetched = .ok j)
    (h' : jsonDefault (MartValue.timestamptz e').fetched = .ok j) : e = e' := by
  have hneg : ∀ {t}, IsDatetime t → points (isoformat t) ≠ points "-infinity" := fun ht heq =>
    isoformat_ne_word ht (by decide) (points_injective heq)
  have hpos : ∀ {t}, IsDatetime t → points (isoformat t) ≠ points "infinity" := fun ht heq =>
    isoformat_ne_word ht (by decide) (points_injective heq)
  rcases jsonDefault_timestamptz he h with ⟨t, rfl, ht, rfl⟩ | ⟨rfl, rfl⟩ | ⟨rfl, rfl⟩ <;>
    rcases jsonDefault_timestamptz he' h' with ⟨t', rfl, ht', hj⟩ | ⟨rfl, hj⟩ | ⟨rfl, hj⟩
  · rw [isoformat_injective ht ht' (points_injective (Json.str.inj hj))]
  · exact absurd (Json.str.inj hj) (hneg ht)
  · exact absurd (Json.str.inj hj) (hpos ht)
  · exact absurd (Json.str.inj hj).symm (hneg ht')
  · rfl
  · exact absurd (Json.str.inj hj) points_word_ne
  · exact absurd (Json.str.inj hj).symm (hpos ht')
  · exact absurd (Json.str.inj hj).symm points_word_ne
  · rfl

/-- Only null is written as null. -/
theorem jsonDefault_null {v : MartValue} (h : jsonDefault v.fetched = .ok .null) : v = .null := by
  cases v with
  | null => rfl
  | boolean b => cases h
  | integer n => cases h
  | double f => cases h
  | varchar s => cases h
  | decimal c scale => cases h
  | uuid u => cases h
  | date e => cases e <;> cases h
  | timestamp e =>
    cases e <;> rcases jsonDefault_naive h with ⟨-, hj⟩ | ⟨-, hj⟩ <;> cases hj
  | timestamptz e =>
    cases e with
    | finite t => cases h
    | negInfinity => rcases jsonDefault_naive h with ⟨-, hj⟩ | ⟨-, hj⟩ <;> cases hj
    | infinity => rcases jsonDefault_naive h with ⟨-, hj⟩ | ⟨-, hj⟩ <;> cases hj

/-- Values of a column whose type is fetched one to one are told apart by what is written: a case
for each type, and `NULL` is written as no value is. -/
theorem jsonDefault_injective {type : MartType} (htype : type.Faithful) {v w : MartValue}
    (hv : v.HasType type) (hw : w.HasType type) {j : Json} (hj : jsonDefault v.fetched = .ok j)
    (hj' : jsonDefault w.fetched = .ok j) : v = w := by
  cases hv with
  | null =>
    cases hj
    exact (jsonDefault_null hj').symm
  -- what was written is of the shape of the column, and `NULL` has a shape of its own
  | boolean =>
    cases hj
    cases hw <;> cases hj'
    rfl
  | integer =>
    cases hj
    cases hw <;> cases hj'
    rfl
  | @double f =>
    cases hj
    cases hw with
    | null => cases hj'
    | @double f' =>
      have hliteral : f'.literal = f.literal := Json.float.inj (Except.ok.inj hj')
      cases f
      cases f'
      cases hliteral
      rfl
  | varchar =>
    cases hj
    cases hw with
    | null => cases hj'
    | varchar => rw [points_injective (Json.str.inj (Except.ok.inj hj'))]
  | decimal =>
    cases hj
    cases hw with
    | null => cases hj'
    | decimal =>
      rw [DecimalValue.fixed_injective (points_injective (Json.str.inj (Except.ok.inj hj')))]
  -- these are the two types whose infinite values meet finite ones
  | date => exact absurd rfl htype.1
  | timestamp => exact absurd rfl htype.2
  | timestamptz he =>
    cases hw with
    | null =>
      cases hj'
      exact jsonDefault_null hj
    | timestamptz he' => rw [timestamptz_injective he he' hj hj']
  | uuid =>
    cases hj
    cases hw with
    | null => cases hj'
    | uuid => rw [Uuid.text_injective (points_injective (Json.str.inj (Except.ok.inj hj')))]

/-- An infinite date is written as the last finite one. -/
theorem jsonDefault_infinite_date :
    jsonDefault (MartValue.date .infinity).fetched = jsonDefault (MartValue.date (.finite maxDay)).fetched :=
  rfl

/-- The columns of the relations: names and types. -/
abbrev MartColumns := String → List (String × MartType)

/-- The marts of a warehouse: every relation with rows of its columns. -/
structure Marts (columns : MartColumns) where
  rows : String → List (List MartValue)
  typed : ∀ relation, ∀ row ∈ rows relation,
    List.Forall₂ MartValue.HasType row ((columns relation).map (·.2))

/-- `MartTarget`. -/
structure MartTarget where
  schema : String
  model : String
  orderBy : List String
deriving DecidableEq

/-- `relation`. -/
def MartTarget.relation (t : MartTarget) : String := t.schema ++ "." ++ t.model

/-- `MART_HASH_TARGETS`. -/
def martHashTargets : List MartTarget := [
  ⟨"dimensions", "dim_customer", ["customer_key"]⟩,
  ⟨"dimensions", "dim_date", ["date_key"]⟩,
  ⟨"dimensions", "dim_product", ["product_id"]⟩,
  ⟨"dimensions", "dim_seller", ["seller_id"]⟩,
  ⟨"dimensions", "dim_subscription", ["subscription_key"]⟩,
  ⟨"facts", "fct_order", ["order_id"]⟩,
  ⟨"facts", "fct_order_item", ["order_id", "order_item_id"]⟩,
  ⟨"facts", "fct_order_payment", ["order_id", "payment_sequence"]⟩,
  ⟨"facts", "fct_subscription_payment", ["payment_id"]⟩]

variable {columns : MartColumns}

/-- The values of the order key in a row. -/
def MartTarget.keyOf (columns : MartColumns) (t : MartTarget) (row : List MartValue) :
    List MartValue :=
  t.orderBy.map fun column =>
    ((((columns t.relation).map (·.1)).zip row).lookup column).getD .null

/-- `SELECT * FROM relation ORDER BY key`: the rows of the relation, none missing and none twice,
in the order of their keys, which tells different keys apart. -/
structure MartReader (columns : MartColumns) where
  select : MartTarget → List (List MartValue) → List (List MartValue)
  keyLe : List MartValue → List MartValue → Prop
  perm : ∀ t rows, (select t rows).Perm rows
  sorted : ∀ t rows, (select t rows).Pairwise fun a b => keyLe (t.keyOf columns a) (t.keyOf columns b)
  antisymm : ∀ a b, keyLe a b → keyLe b a → a = b

/-- Rows of one set are selected in one order, where their keys differ. -/
theorem MartReader.select_eq_iff (reader : MartReader columns) {t : MartTarget}
    {rows rows' : List (List MartValue)} (hkeys : (rows.map (t.keyOf columns)).Nodup)
    (hkeys' : (rows'.map (t.keyOf columns)).Nodup) :
    reader.select t rows = reader.select t rows' ↔ ∀ row, row ∈ rows ↔ row ∈ rows' := by
  constructor
  · intro h row
    rw [← (reader.perm t rows).mem_iff, h, (reader.perm t rows').mem_iff]
  · intro h
    have hperm : rows.Perm rows' :=
      (List.perm_ext_iff_of_nodup (List.Nodup.of_map _ hkeys) (List.Nodup.of_map _ hkeys')).2 h
    have hall : (reader.select t rows).Perm (reader.select t rows') :=
      (reader.perm t rows).trans (hperm.trans (reader.perm t rows').symm)
    refine hall.eq_of_pairwise (fun a b ha hb hab hba => ?_) (reader.sorted t rows)
      (reader.sorted t rows')
    -- two rows of the relation with one key are one row
    have hkey := reader.antisymm _ _ hab hba
    have ha' : a ∈ rows := (reader.perm t rows).mem_iff.1 ha
    have hb' : b ∈ rows := (h b).2 ((reader.perm t rows').mem_iff.1 hb)
    exact List.inj_on_of_nodup_map hkeys ha' hb' hkey

/-! ## Hashes of relations -/

/-- `_hash_and_count`. -/
def hashAndCount (reader : MartReader columns) (hexdigest : List UInt8 → String)
    (marts : Marts columns) (t : MartTarget) : Except Raised (String × Nat) :=
  hashCursorRows hexdigest ((columns t.relation).map (·.1))
    ((reader.select t (marts.rows t.relation)).map (·.map MartValue.fetched)) rowBatchSize

/-- The bytes fed to the digest of a relation, and the number of its rows. -/
def digested (reader : MartReader columns) (marts : Marts columns) (t : MartTarget) :
    Except Raised (List UInt8 × Nat) :=
  hashBatches ((columns t.relation).map (·.1)) rowBatchSize ([], 0)
    ((reader.select t (marts.rows t.relation)).map (·.map MartValue.fetched))

/-- The digest tells what is hashed of a relation in two warehouses apart, where it differs: a
hypothesis about two byte strings a relation. -/
def NoCollision (reader : MartReader columns) (hexdigest : List UInt8 → String)
    (left right : Marts columns) (t : MartTarget) : Prop :=
  ∀ l r, digested reader left t = .ok l → digested reader right t = .ok r →
    hexdigest l.1 = hexdigest r.1 → l.1 = r.1

/-- `dict[key] = value`. -/
def setItem {α : Type} (dict : List (String × α)) (key : String) (value : α) : List (String × α) :=
  if key ∈ dict.map (·.1) then dict.map fun e => if e.1 = key then (key, value) else e
  else dict ++ [(key, value)]

/-- `mart_hashes_and_row_counts`. -/
def martHashesAndRowCounts (reader : MartReader columns) (hexdigest : List UInt8 → String)
    (marts : Marts columns) (targets : List MartTarget) : Except Raised MartHashes :=
  targets.foldlM (fun result t => do
    let (hash, count) ← hashAndCount reader hexdigest marts t
    return (setItem result.1 t.relation hash, setItem result.2 t.relation count)) ([], [])

/-- Typed rows of instants with one payload are one row. -/
theorem row_of_payload {relation : String} (hnames : ((columns relation).map (·.1)).Nodup)
    (hfaithful : ∀ c ∈ columns relation, c.2.Faithful) {row row' : List MartValue}
    (hrow : List.Forall₂ MartValue.HasType row ((columns relation).map (·.2)))
    (hrow' : List.Forall₂ MartValue.HasType row' ((columns relation).map (·.2)))
    {payload : CodePoints}
    (h : canonicalRowJson (((columns relation).map (·.1)).zip (row.map MartValue.fetched)) = .ok payload)
    (h' : canonicalRowJson (((columns relation).map (·.1)).zip (row'.map MartValue.fetched)) = .ok payload) :
    row = row' := by
  have hlength : ∀ {r : List MartValue},
      List.Forall₂ MartValue.HasType r ((columns relation).map (·.2)) →
        (((columns relation).map (·.1)).zip (r.map MartValue.fetched)).map (·.1) =
          (columns relation).map (·.1) := fun hr => by
    rw [List.map_fst_zip]
    have := hr.length_eq
    simp only [List.length_map] at this ⊢
    omega
  have hmembers := canonicalRowJson_injective ((hlength hrow).trans (hlength hrow').symm)
    (by rw [hlength hrow]; exact hnames) h h'
  -- value by value along the columns
  have hwalk : ∀ (cs : List (String × MartType)) {r r' : List MartValue}, (∀ c ∈ cs, c.2.Faithful) →
      List.Forall₂ MartValue.HasType r (cs.map (·.2)) →
      List.Forall₂ MartValue.HasType r' (cs.map (·.2)) →
      List.Forall₂ (fun (e e' : String × FetchedValue) =>
          ∃ j, jsonDefault e.2 = .ok j ∧ jsonDefault e'.2 = .ok j)
        ((cs.map (·.1)).zip (r.map MartValue.fetched)) ((cs.map (·.1)).zip (r'.map MartValue.fetched)) →
      r = r' := by
    intro cs
    induction cs with
    | nil =>
      intro r r' _ hr hr' _
      cases hr
      cases hr'
      rfl
    | cons c cs ih =>
      intro r r' hfaithful hr hr' hall
      cases hr with
      | cons hv hr =>
        cases hr' with
        | cons hw hr' =>
          cases hall with
          | cons hvalue hall =>
            obtain ⟨j, hj, hj'⟩ := hvalue
            rw [jsonDefault_injective (hfaithful c List.mem_cons_self) hv hw hj hj',
              ih (fun c hc => hfaithful c (List.mem_cons_of_mem _ hc)) hr hr' hall]
  exact hwalk _ hfaithful hrow hrow' hmembers

/-- The same bytes, the same list of rows: the lines are read back one by one. -/
theorem digest_injective {relation : String} (hnames : ((columns relation).map (·.1)).Nodup)
    (hfaithful : ∀ c ∈ columns relation, c.2.Faithful) {rows rows' : List (List MartValue)}
    (hrows : ∀ row ∈ rows, List.Forall₂ MartValue.HasType row ((columns relation).map (·.2)))
    (hrows' : ∀ row ∈ rows', List.Forall₂ MartValue.HasType row ((columns relation).map (·.2)))
    {fed fed' : List UInt8 × Nat}
    (h : hashBatches ((columns relation).map (·.1)) rowBatchSize ([], 0)
      (rows.map (·.map MartValue.fetched)) = .ok fed)
    (h' : hashBatches ((columns relation).map (·.1)) rowBatchSize ([], 0)
      (rows'.map (·.map MartValue.fetched)) = .ok fed')
    (hsame : fed.1 = fed'.1) : rows = rows' := by
  obtain ⟨payloads, hpayloads, hlengths, htexts, hfed, -⟩ := hashBatches_eq_ok (by decide) h
  obtain ⟨payloads', hpayloads', hlengths', htexts', hfed', -⟩ := hashBatches_eq_ok (by decide) h'
  have hlines : ∀ {rows : List (List MartValue)} {payloads : List CodePoints},
      (∀ row ∈ rows, List.Forall₂ MartValue.HasType row ((columns relation).map (·.2))) →
      (rows.map (·.map MartValue.fetched)).mapM
        (fun row => canonicalRowJson (((columns relation).map (·.1)).zip row)) = .ok payloads →
      ∀ payload ∈ payloads, 0x0A ∉ payload := by
    intro rows payloads hrows hpayloads payload hmem
    obtain ⟨fetched, hfetched, hpayload⟩ := (mem_mapM hpayloads).1 hmem
    obtain ⟨row, hrow, rfl⟩ := List.mem_map.1 hfetched
    refine canonicalRowJson_oneLine ?_ hpayload
    have hlength := (hrows row hrow).length_eq
    rw [List.map_fst_zip (by simp only [List.length_map] at hlength ⊢; omega)]
    exact hnames
  have hsame : payloads = payloads' := utf8_lines_injective
    (fun t ht => ⟨htexts t ht, hlines hrows hpayloads t ht⟩)
    (fun t ht => ⟨htexts' t ht, hlines hrows' hpayloads' t ht⟩)
    (hfed.symm.trans (hsame.trans hfed'))
  subst hsame
  -- row by row along the payloads
  have hfront := List.forall₂_map_left_iff.1 (mapM_eq_ok.1 hpayloads)
  have hback := List.forall₂_map_left_iff.1 (mapM_eq_ok.1 hpayloads')
  clear h h' hpayloads hpayloads' hlengths hlengths' htexts htexts' hfed hfed'
  induction hfront generalizing rows' with
  | nil =>
    cases hback
    rfl
  | cons hrow _ ih =>
    cases hback with
    | cons hrow' hback =>
      rw [row_of_payload hnames hfaithful (hrows _ List.mem_cons_self)
          (hrows' _ List.mem_cons_self) hrow hrow',
        ih (fun r hr => hrows r (List.mem_cons_of_mem _ hr))
          (fun r hr => hrows' r (List.mem_cons_of_mem _ hr)) hback]

/-! ## Two warehouses -/

/-- Where the relations differ in name, the loop over the targets gives each its own
entry, in the order of the targets. -/
theorem martHashes_entries {reader : MartReader columns} {hexdigest : List UInt8 → String}
    {marts : Marts columns} {targets : List MartTarget} {result : MartHashes}
    (hnames : (targets.map MartTarget.relation).Nodup)
    (h : martHashesAndRowCounts reader hexdigest marts targets = .ok result) :
    ∃ hashes, targets.mapM (hashAndCount reader hexdigest marts) = .ok hashes ∧
      result.1 = (targets.zip hashes).map (fun e => (e.1.relation, e.2.1)) ∧
      result.2 = (targets.zip hashes).map (fun e => (e.1.relation, e.2.2)) := by
  -- from any entries that lack the names to come: each target then adds an entry of its own
  have hloop : ∀ (targets : List MartTarget) (start result : MartHashes),
      (targets.map MartTarget.relation).Nodup →
      (∀ t ∈ targets, t.relation ∉ start.1.map (·.1) ∧ t.relation ∉ start.2.map (·.1)) →
      targets.foldlM (fun result t => do
        let (hash, count) ← hashAndCount reader hexdigest marts t
        return (setItem result.1 t.relation hash, setItem result.2 t.relation count)) start =
          .ok result →
      ∃ hashes, targets.mapM (hashAndCount reader hexdigest marts) = .ok hashes ∧
        result.1 = start.1 ++ (targets.zip hashes).map (fun e => (e.1.relation, e.2.1)) ∧
        result.2 = start.2 ++ (targets.zip hashes).map (fun e => (e.1.relation, e.2.2)) := by
    intro targets
    induction targets with
    | nil =>
      intro start result _ _ h
      cases h
      exact ⟨[], rfl, by simp, by simp⟩
    | cons t targets ih =>
      intro start result hnodup hfresh h
      rw [List.foldlM_cons, bind_eq_ok] at h
      obtain ⟨next, hnext, hmore⟩ := h
      rw [bind_eq_ok] at hnext
      obtain ⟨⟨hash, count⟩, hhash, hnext⟩ := hnext
      obtain ⟨hnew, hnodup'⟩ := List.nodup_cons.1 hnodup
      obtain ⟨hfirst, hsecond⟩ := hfresh t List.mem_cons_self
      -- `dict[key] = value` appends, as the key is new
      have hnext' : next = (start.1 ++ [(t.relation, hash)], start.2 ++ [(t.relation, count)]) := by
        rw [← Except.ok.inj hnext, setItem, setItem, if_neg hfirst, if_neg hsecond]
      have hfresh' : ∀ u ∈ targets, u.relation ∉ next.1.map (·.1) ∧ u.relation ∉ next.2.map (·.1) := by
        intro u hu
        have hne : u.relation ≠ t.relation := fun heq =>
          hnew (heq ▸ List.mem_map_of_mem (f := MartTarget.relation) hu)
        obtain ⟨hu₁, hu₂⟩ := hfresh u (List.mem_cons_of_mem _ hu)
        rw [hnext']
        simp only [List.map_append, List.map_cons, List.map_nil, List.mem_append, List.mem_singleton]
        exact ⟨fun h => h.elim hu₁ hne, fun h => h.elim hu₂ hne⟩
      obtain ⟨hashes, hhashes, hl, hc⟩ := ih next result hnodup' hfresh' hmore
      refine ⟨(hash, count) :: hashes, ?_, ?_, ?_⟩
      · rw [List.mapM_cons, hhash]
        exact bind_eq_ok.2 ⟨_, rfl, bind_eq_ok.2 ⟨hashes, hhashes, rfl⟩⟩
      · rw [hl, hnext', List.zip_cons_cons, List.map_cons, List.append_assoc,
          List.singleton_append]
      · rw [hc, hnext', List.zip_cons_cons, List.map_cons, List.append_assoc,
          List.singleton_append]
  exact hloop targets ([], []) result hnames (by simp) h

/-- Names that no entry lacks are looked up alike only where the entries are equal. -/
theorem lookup_ext {α : Type} [DecidableEq α] : ∀ {l r : List (String × α)},
    l.map (·.1) = r.map (·.1) → (l.map (·.1)).Nodup →
      ((∀ name ∈ l.map (·.1), l.lookup name = r.lookup name) ↔ l = r)
  | [], r, hkeys, _ => by
    have hnil : r = [] := List.map_eq_nil_iff.1 hkeys.symm
    simp [hnil]
  | (k, a) :: l, [], hkeys, _ => by simp at hkeys
  | (k, a) :: l, (k', b) :: r, hkeys, hnodup => by
    obtain ⟨hk, hmore⟩ := List.cons.inj hkeys
    obtain rfl : k = k' := hk
    obtain ⟨hnew, hnodup'⟩ := List.nodup_cons.1 hnodup
    -- the first name is not among the others, so their lookups pass it
    have hskip : ∀ (c : α) (more : List (String × α)), ∀ name ∈ l.map (·.1),
        ((k, c) :: more).lookup name = more.lookup name := fun c more name hname => by
      have hne : (name == k) = false := beq_eq_false_iff_ne.2 fun heq => hnew (heq ▸ hname)
      rw [List.lookup_cons, hne]
    constructor
    · intro h
      have hab : a = b := by
        have hfirst := h k List.mem_cons_self
        rw [List.lookup_cons_self, List.lookup_cons_self] at hfirst
        exact Option.some.inj hfirst
      rw [hab, (lookup_ext hmore hnodup').1 fun name hname => by
        have hname' := h name (List.mem_cons_of_mem _ hname)
        rwa [hskip _ _ name hname, hskip _ _ name hname] at hname']
    · intro h
      rw [h]
      exact fun _ _ => rfl

theorem mismatchedRelations_eq_nil {l r : List (String × String)}
    (hkeys : l.map (·.1) = r.map (·.1)) (hnodup : (l.map (·.1)).Nodup) :
    mismatchedRelations l r = [] ↔ l = r := by
  rw [← lookup_ext hkeys hnodup, mismatchedRelations, List.filter_eq_nil_iff]
  refine forall_congr' fun name => ?_
  rw [List.mem_insertionSort, mem_distinct, List.mem_append, decide_eq_true_iff, not_not]
  have hsame : (name ∈ l.map Prod.fst ∨ name ∈ r.map Prod.fst) ↔ name ∈ l.map (·.1) :=
    ⟨fun h => h.elim id fun h => hkeys ▸ h, .inl⟩
  rw [hsame]

section Compare

variable {reader : MartReader columns} {hexdigest : List UInt8 → String}
  {left right : Marts columns} {targets : List MartTarget}

/-- Two relations of one hash have the same rows, and of the same rows one hash. -/
theorem hashAndCount_eq_iff {t : MartTarget} (hfree : NoCollision reader hexdigest left right t)
    (hcolumns : ((columns t.relation).map (·.1)).Nodup)
    (hfaithful : ∀ c ∈ columns t.relation, c.2.Faithful)
    (hkeys : ((left.rows t.relation).map (t.keyOf columns)).Nodup)
    (hkeys' : ((right.rows t.relation).map (t.keyOf columns)).Nodup) {l r : String × Nat}
    (hl : hashAndCount reader hexdigest left t = .ok l)
    (hr : hashAndCount reader hexdigest right t = .ok r) :
    l.1 = r.1 ↔ ∀ row, row ∈ left.rows t.relation ↔ row ∈ right.rows t.relation := by
  rw [← reader.select_eq_iff hkeys hkeys']
  have htyped : ∀ marts : Marts columns, ∀ row ∈ reader.select t (marts.rows t.relation),
      List.Forall₂ MartValue.HasType row ((columns t.relation).map (·.2)) := fun marts row hrow =>
    marts.typed t.relation row ((reader.perm t _).mem_iff.1 hrow)
  constructor
  · intro h
    obtain ⟨digest, hfed, hhash⟩ := hashCursorRows_eq_ok.1 hl
    obtain ⟨digest', hfed', hhash'⟩ := hashCursorRows_eq_ok.1 hr
    exact digest_injective hcolumns hfaithful (htyped left) (htyped right) hfed hfed'
      (hfree _ _ hfed hfed' (hhash.symm.trans (h.trans hhash')))
  · intro h
    rw [hashAndCount, h] at hl
    rw [hashAndCount, hl] at hr
    exact congrArg Prod.fst (Except.ok.inj hr)

/-- The hashes of two warehouses show every difference between their marts and no other: with
unique order keys, no column that is a date or a time without zone, and no collision, no
relation is mismatched exactly when each has the same rows in both, and the counts are the
numbers of rows. -/
theorem mismatchedRelations_eq_nil_iff
    (hfree : ∀ t ∈ targets, NoCollision reader hexdigest left right t)
    (hnames : (targets.map MartTarget.relation).Nodup)
    (hcolumns : ∀ t ∈ targets, ((columns t.relation).map (·.1)).Nodup)
    (hfaithful : ∀ t ∈ targets, ∀ c ∈ columns t.relation, c.2.Faithful)
    (hkeys : ∀ t ∈ targets, ((left.rows t.relation).map (t.keyOf columns)).Nodup)
    (hkeys' : ∀ t ∈ targets, ((right.rows t.relation).map (t.keyOf columns)).Nodup)
    {l r : MartHashes} (hl : martHashesAndRowCounts reader hexdigest left targets = .ok l)
    (hr : martHashesAndRowCounts reader hexdigest right targets = .ok r) :
    (mismatchedRelations l.1 r.1 = [] ↔
      ∀ t ∈ targets, ∀ row, row ∈ left.rows t.relation ↔ row ∈ right.rows t.relation) ∧
    l.2 = targets.map fun t => (t.relation, (left.rows t.relation).length) := by
  obtain ⟨hashes, hhashes, hl₁, hl₂⟩ := martHashes_entries hnames hl
  obtain ⟨hashes', hhashes', hr₁, -⟩ := martHashes_entries hnames hr
  have hall := mapM_eq_ok.1 hhashes
  have hall' := mapM_eq_ok.1 hhashes'
  -- both dictionaries have the names of the targets, so a lookup compares entry with entry
  have hfst : ∀ {hs : List (String × Nat)}, hs.length = targets.length →
      ((targets.zip hs).map fun e => (e.1.relation, e.2.1)).map (·.1) =
        targets.map MartTarget.relation := fun {hs} hlength => by
    rw [List.map_map]
    show (targets.zip hs).map (MartTarget.relation ∘ Prod.fst) = _
    rw [← List.map_map (f := Prod.fst) (g := MartTarget.relation), List.map_fst_zip (by omega)]
  constructor
  · have hsame := (hfst (mapM_length hhashes)).trans (hfst (mapM_length hhashes')).symm
    rw [hl₁, hr₁, mismatchedRelations_eq_nil hsame
      (by rw [hfst (mapM_length hhashes)]; exact hnames)]
    clear hl hr hl₁ hl₂ hr₁ hhashes hhashes' hfst hsame hnames
    -- target by target: equal hashes are equal rows, by `hashAndCount_eq_iff`
    induction hall generalizing hashes' with
    | nil =>
      cases hall'
      simp
    | @cons t a targets hashes ha _ ih =>
      cases hall' with
      | @cons _ b _ hashes' hb hall' =>
        rw [List.zip_cons_cons, List.zip_cons_cons, List.map_cons, List.map_cons,
          List.cons.injEq, List.forall_mem_cons, Prod.mk.injEq]
        have hone := hashAndCount_eq_iff (hfree t List.mem_cons_self) (hcolumns t List.mem_cons_self)
          (hfaithful t List.mem_cons_self) (hkeys t List.mem_cons_self)
          (hkeys' t List.mem_cons_self) ha hb
        have hmore := ih (fun u hu => hfree u (List.mem_cons_of_mem _ hu))
          (fun u hu => hcolumns u (List.mem_cons_of_mem _ hu))
          (fun u hu => hfaithful u (List.mem_cons_of_mem _ hu))
          (fun u hu => hkeys u (List.mem_cons_of_mem _ hu))
          (fun u hu => hkeys' u (List.mem_cons_of_mem _ hu)) hashes' hall'
        rw [hone]
        exact and_congr (and_iff_right rfl) hmore
  · rw [hl₂]
    clear hl hr hl₁ hl₂ hr₁ hhashes hhashes' hall' hfst hnames hfree hcolumns hfaithful hkeys hkeys'
    induction hall with
    | nil => rfl
    | @cons t a targets hashes ha _ ih =>
      obtain ⟨digest, hfed, -⟩ := hashCursorRows_eq_ok.1 ha
      -- the count is taken of the rows as they are fed
      obtain ⟨-, -, -, -, -, (hcount : a.2 = _)⟩ := hashBatches_eq_ok (by decide) hfed
      rw [List.zip_cons_cons, List.map_cons, List.map_cons, ih]
      have hlength : a.2 = (left.rows t.relation).length := by
        rw [hcount, List.length_map, (reader.perm t _).length_eq]
      rw [hlength]

end Compare

/-! Null last, and within a type the order of its values. -/

/-- The place of a value: its type, a number, a text. -/
def MartValue.rank : MartValue → Nat × Int × CodePoints
  | .boolean b => (0, if b then 1 else 0, [])
  | .integer n => (1, n, [])
  | .double f => (2, 0, f.literal)
  | .varchar s => (3, 0, points s)
  | .decimal c scale => (4, c, [scale])
  | .date .negInfinity => (5, 0, [])
  | .date (.finite day) => (6, day, [])
  | .date .infinity => (7, 0, [])
  | .timestamp .negInfinity => (8, 0, [])
  | .timestamp (.finite time) => (9, time, [])
  | .timestamp .infinity => (10, 0, [])
  | .timestamptz .negInfinity => (11, 0, [])
  | .timestamptz (.finite instant) => (12, instant, [])
  | .timestamptz .infinity => (13, 0, [])
  | .uuid u => (14, 0, u.octets.map Fin.val)
  | .null => (15, 0, [])

theorem MartValue.rank_injective : Function.Injective MartValue.rank := by
  have huuid : ∀ {u v : Uuid}, u.octets.map Fin.val = v.octets.map Fin.val → u = v := by
    intro u v h
    have hoctets := List.map_injective_iff.2 Fin.val_injective h
    cases u
    cases v
    cases hoctets
    rfl
  have hdouble : ∀ {f g : FloatRepr}, f.literal = g.literal → f = g := by
    intro f g h
    cases f
    cases g
    cases h
    rfl
  intro v w h
  -- the tag tells the types and the infinite values apart, the rest the values of one type
  obtain ⟨htag, hnumber, htext⟩ : v.rank.1 = w.rank.1 ∧ v.rank.2.1 = w.rank.2.1 ∧
      v.rank.2.2 = w.rank.2.2 := by rw [h]; exact ⟨rfl, rfl, rfl⟩
  clear h
  rcases v with _ | b | n | f | s | ⟨c, k⟩ | (d | _ | _) | (d | _ | _) | (d | _ | _) | u <;>
    rcases w with _ | b' | n' | f' | s' | ⟨c', k'⟩ | (d' | _ | _) | (d' | _ | _) | (d' | _ | _) | u' <;>
      try cases htag
  all_goals simp only [MartValue.rank] at hnumber htext
  · rfl
  · cases b <;> cases b' <;> first | rfl | cases hnumber
  · rw [hnumber]
  · rw [hdouble htext]
  · rw [points_injective htext]
  · rw [hnumber, (List.cons.inj htext).1]
  · rw [hnumber]
  · rfl
  · rfl
  · rw [hnumber]
  · rfl
  · rfl
  · rw [hnumber]
  · rfl
  · rfl
  · rw [huuid htext]

/-- The place of a key. -/
def keyRank (key : List MartValue) : List (ℕ ×ₗ ℤ ×ₗ List ℕ) :=
  key.map fun v => toLex (v.rank.1, toLex (v.rank.2.1, v.rank.2.2))

theorem keyRank_injective : Function.Injective keyRank := by
  refine List.map_injective_iff.2 fun v w h => MartValue.rank_injective ?_
  obtain ⟨htag, hrest⟩ := Prod.mk.inj (toLex_inj.1 h)
  obtain ⟨hnumber, htext⟩ := Prod.mk.inj (toLex_inj.1 hrest)
  exact Prod.ext htag (Prod.ext hnumber htext)

/-- The rows sorted by the places of their keys. -/
def sortingReader (columns : MartColumns) : MartReader columns where
  select t rows := rows.insertionSort fun row row' =>
    keyRank (t.keyOf columns row) ≤ keyRank (t.keyOf columns row')
  keyLe a b := keyRank a ≤ keyRank b
  perm _ rows := List.perm_insertionSort _ rows
  sorted _ rows := List.pairwise_insertionSort _ rows
  antisymm _ _ h h' := keyRank_injective (le_antisymm h h')

/-- An integer key and a text. -/
def labelColumns : MartColumns := fun _ => [("id", .integer), ("label", .varchar)]

/-- Two relations, in the order of their integers. -/
def labelTarget : MartTarget := ⟨"facts", "label", ["id"]⟩

def placeTarget : MartTarget := ⟨"dimensions", "place", ["id"]⟩

private def labelRow (id : Int) (label : String) : List MartValue := [.integer id, .varchar label]

/-- Two rows in each relation; the first label and the order of the places vary. -/
def labelMarts (label : String) (turned : Bool) : Marts labelColumns where
  rows relation :=
    if relation = "facts.label" then [labelRow 2 "a", labelRow 1 label]
    else if turned then [labelRow 7 "sp", labelRow 3 "rj"] else [labelRow 3 "rj", labelRow 7 "sp"]
  typed relation row hrow := by
    have hlabelled : ∃ id text, row = labelRow id text := by
      split_ifs at hrow <;> simp only [List.mem_cons, List.not_mem_nil, or_false] at hrow <;>
        rcases hrow with rfl | rfl <;> exact ⟨_, _, rfl⟩
    obtain ⟨id, text, rfl⟩ := hlabelled
    exact .cons .integer (.cons .varchar .nil)

/-- The lines of the labels, where the first is `b`. -/
def linesOfB : List UInt8 :=
  Lib.utf8 (points "\x7b\"id\":1,\"label\":\"b\"\x7d\n\x7b\"id\":2,\"label\":\"a\"\x7d\n")

/-- The lines of the labels, where the first is `c`. -/
def linesOfC : List UInt8 :=
  Lib.utf8 (points "\x7b\"id\":1,\"label\":\"c\"\x7d\n\x7b\"id\":2,\"label\":\"a\"\x7d\n")

def linesOfPlaces : List UInt8 :=
  Lib.utf8 (points "\x7b\"id\":3,\"label\":\"rj\"\x7d\n\x7b\"id\":7,\"label\":\"sp\"\x7d\n")

def hashOfB : String := "2b20b0c95eec96279591b2aab87912943f8555742bedf6b94088651a4e9b6173"

def hashOfC : String := "c1c12234843e64e850f8fa09666c3d2fb8162375996974c71bc83c543b842363"

def hashOfPlaces : String := "c4033bc1d94d09414186ea935d18dbd53c3af5bd2edcd83c7106d979d2277f1d"

/-- SHA-256 of the three texts. -/
def sha256OfLines (data : List UInt8) : String :=
  if data = linesOfB then hashOfB else if data = linesOfC then hashOfC
  else if data = linesOfPlaces then hashOfPlaces else ""

theorem digested_b : digested (sortingReader labelColumns) (labelMarts "b" false) labelTarget =
    .ok (linesOfB, 2) := by
  rw [digested, hashBatches_eq (by decide)]
  rfl

theorem digested_c : digested (sortingReader labelColumns) (labelMarts "c" true) labelTarget =
    .ok (linesOfC, 2) := by
  rw [digested, hashBatches_eq (by decide)]
  rfl

/-- The places come in two orders, and are read in one. -/
theorem digested_places (label : String) (turned : Bool) :
    digested (sortingReader labelColumns) (labelMarts label turned) placeTarget =
      .ok (linesOfPlaces, 2) := by
  rw [digested, hashBatches_eq (by decide)]
  cases turned <;> rfl

private theorem sha256OfLines_c : sha256OfLines linesOfC = hashOfC := by
  have hother : linesOfC ≠ linesOfB := by decide
  rw [sha256OfLines, if_neg hother, if_pos rfl]

private theorem sha256OfLines_places : sha256OfLines linesOfPlaces = hashOfPlaces := by
  have hother : linesOfPlaces ≠ linesOfB := by decide
  have hother' : linesOfPlaces ≠ linesOfC := by decide
  rw [sha256OfLines, if_neg hother, if_neg hother', if_pos rfl]

/-- The hashes and counts of both relations, from the hash of the labels. -/
private theorem martHashes_label {label hash : String} {turned : Bool} {lines : List UInt8}
    (hlines : digested (sortingReader labelColumns) (labelMarts label turned) labelTarget =
      .ok (lines, 2)) (hhash : hash = sha256OfLines lines) :
    martHashesAndRowCounts (sortingReader labelColumns) sha256OfLines (labelMarts label turned)
      [labelTarget, placeTarget] = .ok ([("facts.label", hash), ("dimensions.place", hashOfPlaces)],
        [("facts.label", 2), ("dimensions.place", 2)]) := by
  have hlabels : hashAndCount (sortingReader labelColumns) sha256OfLines (labelMarts label turned)
      labelTarget = .ok (hash, 2) := hashCursorRows_eq_ok.2 ⟨lines, hlines, hhash⟩
  have hplaces : hashAndCount (sortingReader labelColumns) sha256OfLines (labelMarts label turned)
      placeTarget = .ok (hashOfPlaces, 2) :=
    hashCursorRows_eq_ok.2 ⟨linesOfPlaces, digested_places label turned, sha256OfLines_places.symm⟩
  simp only [martHashesAndRowCounts, List.foldlM_cons, hlabels, hplaces]
  rfl

/-- The labels are mismatched, the places, which come in another order, are not. -/
theorem mismatchedRelations_label :
    mismatchedRelations [("facts.label", hashOfB), ("dimensions.place", hashOfPlaces)]
        [("facts.label", hashOfC), ("dimensions.place", hashOfPlaces)] ≠ [] ∧
      [("facts.label", 2), ("dimensions.place", 2)] = [labelTarget, placeTarget].map fun t =>
        (t.relation, ((labelMarts "b" false).rows t.relation).length) := by
  have hfree : ∀ t ∈ [labelTarget, placeTarget], NoCollision (sortingReader labelColumns)
      sha256OfLines (labelMarts "b" false) (labelMarts "c" true) t := by
    intro t ht l r hl hr hhash
    simp only [List.mem_cons, List.not_mem_nil, or_false] at ht
    rcases ht with rfl | rfl
    · rw [digested_b] at hl
      rw [digested_c] at hr
      cases hl
      cases hr
      rw [sha256OfLines_c, sha256OfLines, if_pos rfl] at hhash
      exact absurd hhash (by decide)
    · rw [digested_places] at hl hr
      rw [← Except.ok.inj hl, ← Except.ok.inj hr]
  have hkeys : ∀ label turned, ∀ t ∈ [labelTarget, placeTarget],
      (((labelMarts label turned).rows t.relation).map (t.keyOf labelColumns)).Nodup := by
    intro label turned t ht
    simp only [List.mem_cons, List.not_mem_nil, or_false] at ht
    rcases ht with rfl | rfl
    · show [[MartValue.integer 2], [.integer 1]].Nodup
      simp
    · cases turned
      · show [[MartValue.integer 3], [.integer 7]].Nodup
        simp
      · show [[MartValue.integer 7], [.integer 3]].Nodup
        simp
  have hcolumns : ∀ t ∈ [labelTarget, placeTarget], ((labelColumns t.relation).map (·.1)).Nodup :=
    fun _ _ => by
      show ["id", "label"].Nodup
      decide
  have hfaithful : ∀ t ∈ [labelTarget, placeTarget], ∀ c ∈ labelColumns t.relation, c.2.Faithful := by
    intro t _ c hc
    simp only [labelColumns, List.mem_cons, List.not_mem_nil, or_false] at hc
    rcases hc with rfl | rfl <;> exact ⟨by simp, by simp⟩
  have hcompare := mismatchedRelations_eq_nil_iff hfree (by decide) hcolumns hfaithful
    (hkeys "b" false) (hkeys "c" true) (martHashes_label digested_b (if_pos rfl).symm)
    (martHashes_label digested_c sha256OfLines_c.symm)
  refine ⟨fun hnil => ?_, hcompare.2⟩
  -- the row labelled `b` would be one of the other warehouse
  have hrow := (hcompare.1.1 hnil labelTarget List.mem_cons_self (labelRow 1 "b")).1
    (List.mem_cons_of_mem _ (List.mem_singleton.2 rfl))
  have hnone : labelRow 1 "b" ∉ [labelRow 2 "a", labelRow 1 "c"] := by simp [labelRow]
  exact hnone hrow

end CommercePlatform.Warehouse
