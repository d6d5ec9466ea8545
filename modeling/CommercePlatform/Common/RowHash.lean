import CommercePlatform.Common.Isoformat
import CommercePlatform.Extraction.SourceValue
import CommercePlatform.Lib.JsonDumps
import CommercePlatform.Lib.Traverse
/-!
# Row hashes

`src/common/row_hash.py`: the canonical JSON of a fetched row and the hash that
accumulates over the rows of a cursor, batch by batch. The digest is the bytes fed to
it; `hexdigest` is a function of them, so a statement about equal hashes is one about
equal bytes, and that SHA-256 tells two inputs apart is a hypothesis where it is needed.

However a cursor is cut into batches, the bytes are the same
(`hashCursorRows_batchSize`), because the loop only cuts the list of rows: the payloads
and the count of the whole are those of the parts one after the other
(`foldlM_hashRow`). In the other direction rows under the same distinct columns with one
payload have the same members (`canonicalRowJson_injective`), and payloads are lines, so
the bytes of a cursor tell its rows (`utf8_lines_injective`).

Mirroring notes vs the source:
- `jsonDefault` is `json_default` together with the types `json.dumps` writes by itself;
  a naive datetime raises, but for the two infinities DuckDB returns as `datetime.min`
  and `datetime.max`.
- A float is its `repr` (`FloatRepr`), the shortest text that reads back; the digits
  themselves are not computed here.
- The first row whose payload raises ends the hash: nothing is returned, and what was
  fed before is lost with the digest.
-/

namespace CommercePlatform

open Lib

/-- `ROW_BATCH_SIZE`. -/
def rowBatchSize : Nat := 10000

/-- The text of a float that is one in JSON: what `float.__repr__` writes, which the reader takes
as a number with a fraction or an exponent, or as an infinite one. -/
structure FloatRepr where
  literal : CodePoints
  isLiteral : Json.IsFloatLiteral maxStrDigits literal
  isText : Json.IsText literal

/-- A value of a fetched row: the types of JSON (a float is its `repr`), and those that
`json_default` knows. An aware datetime is its instant, a naive one the time it names. The
nested values of DuckDB (lists and structs) are not represented; no mart column has one. -/
inductive FetchedValue where
  | null
  | bool (value : Bool)
  | int (value : Int)
  | float (value : FloatRepr)
  | text (value : String)
  | aware (instant : Timestamp)
  | naive (time : Timestamp)
  | date (day : Int)
  | decimal (value : DecimalValue)
  | uuid (value : Uuid)
  | other (typeName : String)

/-- `datetime.min`. -/
def datetimeMin : Timestamp := minDay * microsPerDay

/-- `datetime.max`. -/
def datetimeMax : Timestamp := maxDay * microsPerDay + (microsPerDay - 1)

/-- `date.isoformat()`. -/
def dateIsoformat (day : Int) : String := isoDate (day * microsPerDay)

/-- `json_default`, and the types that need none. -/
def jsonDefault : FetchedValue → Except Raised Json
  | .null => .ok .null
  | .bool b => .ok (.bool b)
  | .int n => .ok (.int n)
  | .float f => .ok (.float f.literal)
  | .text s => .ok (.str (points s))
  | .naive time =>
    if time = datetimeMin then .ok (.str (points "-infinity"))
    else if time = datetimeMax then .ok (.str (points "infinity"))
    else .error ⟨.valueError, "Mart timestamp must include a UTC offset"⟩
  | .aware instant => .ok (.str (points (isoformat instant)))
  | .date day => .ok (.str (points (dateIsoformat day)))
  | .decimal d => .ok (.str (points d.fixed))
  | .uuid u => .ok (.str (points u.text))
  | .other typeName => .error ⟨.typeError, "Unsupported mart value: " ++ typeName⟩

/-- One member of a row. -/
def rowMember (entry : String × FetchedValue) : Except Raised (CodePoints × Json) := do
  let value ← jsonDefault entry.2
  return (points entry.1, value)

/-- What `json.dumps` raises for an integer it cannot convert. -/
def tooManyDigits : Raised :=
  ⟨.valueError, "Exceeds the limit (4300 digits) for integer string conversion"⟩

/-- `json.dumps` of a value, with the exceptions of the interpreter. -/
def dumpsText (value : Json) : Except Raised CodePoints :=
  match Json.dumps maxStrDigits value with
  | .ok text => .ok text
  | .error _ => .error tooManyDigits

/-- `canonical_row_json`: the members sorted by name, and the exceptions of values that have no
JSON. -/
def canonicalRowJson (row : List (String × FetchedValue)) : Except Raised CodePoints := do
  let members ← row.mapM rowMember
  dumpsText (.obj members)

/-- `digest.update(payload.encode("utf-8")); digest.update(b"\n")`. -/
def updateLine (digest : List UInt8) (payload : CodePoints) : Except Raised (List UInt8) :=
  match encodeUtf8 payload with
  | some data => .ok (digest ++ data ++ [0x0A])
  | none => .error ⟨.valueError, "surrogates not allowed"⟩

/-- The body of the inner loop. `dict(zip(...))` keeps one item of a repeated column name,
the members here keep both: cursors with a repeated name are not represented. -/
def hashRow (columnNames : List String) (state : List UInt8 × Nat) (row : List FetchedValue) :
    Except Raised (List UInt8 × Nat) := do
  require (columnNames.length = row.length)
    ⟨.valueError, "zip() argument 2 differs in length from argument 1"⟩
  let payload ← canonicalRowJson (columnNames.zip row)
  let digest ← updateLine state.1 payload
  return (digest, state.2 + 1)

/-- `while True: rows = cursor.fetchmany(batch_size)`; the cursor is the rows it has left. -/
def hashBatches (columnNames : List String) (batchSize : Nat) (state : List UInt8 × Nat)
    (cursor : List (List FetchedValue)) : Except Raised (List UInt8 × Nat) :=
  if _h : cursor.take batchSize = [] then .ok state
  else
    match (cursor.take batchSize).foldlM (hashRow columnNames) state with
    | .error e => .error e
    | .ok state => hashBatches columnNames batchSize state (cursor.drop batchSize)
termination_by cursor.length
decreasing_by
  have hne : batchSize ≠ 0 ∧ cursor ≠ [] := by
    simpa [List.take_eq_nil_iff] using _h
  have hlength := List.length_pos_iff.2 hne.2
  rw [List.length_drop]
  omega

/-- `hash_cursor_rows`: the hash of the lines of all rows and their number, for any batch size. -/
def hashCursorRows (hexdigest : List UInt8 → String) (columnNames : List String)
    (cursor : List (List FetchedValue)) (batchSize : Nat) : Except Raised (String × Nat) := do
  let (digest, rowCount) ← hashBatches columnNames batchSize ([], 0) cursor
  return (hexdigest digest, rowCount)

/-! ## Batches do not matter -/

theorem hashBatches_eq {columnNames : List String} {batchSize : Nat} (hsize : 0 < batchSize)
    (state : List UInt8 × Nat) (cursor : List (List FetchedValue)) :
    hashBatches columnNames batchSize state cursor = cursor.foldlM (hashRow columnNames) state := by
  induction hn : cursor.length using Nat.strongRecOn generalizing state cursor with
  | ind n ih =>
    rw [hashBatches]
    by_cases hnil : cursor = []
    · rw [hnil, dif_pos (List.take_nil ..)]
      rfl
    · have hlength := List.length_pos_iff.2 hnil
      have htake : ¬ cursor.take batchSize = [] := fun htake =>
        (List.take_eq_nil_iff.1 htake).elim (Nat.ne_of_gt hsize) hnil
      have hsplit : cursor.foldlM (hashRow columnNames) state =
          (cursor.take batchSize).foldlM (hashRow columnNames) state >>= fun state =>
            (cursor.drop batchSize).foldlM (hashRow columnNames) state := by
        rw [← List.foldlM_append, List.take_append_drop]
      rw [dif_neg htake, hsplit]
      cases (cursor.take batchSize).foldlM (hashRow columnNames) state with
      | error e => rfl
      | ok state' =>
        exact ih _ (by rw [List.length_drop]; omega) state' (cursor.drop batchSize) rfl

/-- Every batch size feeds the same bytes: the same hash and count, or the same exception. -/
theorem hashCursorRows_batchSize {hexdigest : List UInt8 → String} {columnNames : List String}
    {cursor : List (List FetchedValue)} {m n : Nat} (hm : 0 < m) (hn : 0 < n) :
    hashCursorRows hexdigest columnNames cursor m = hashCursorRows hexdigest columnNames cursor n := by
  rw [hashCursorRows, hashCursorRows, hashBatches_eq hm, hashBatches_eq hn]

/-- The bytes themselves as the digest, which tells all inputs apart. -/
private def bytesText (data : List UInt8) : String :=
  String.ofList (data.map fun b => Char.ofNat b.toNat)

private def labelledRow (id : Int) (label : String) : List FetchedValue := [.int id, .text label]

/-- Three rows, fetched in twos or together, have one digest; with another last row it is
another one. -/
theorem hashCursorRows_three :
    hashCursorRows bytesText ["id", "label"]
        [labelledRow 1 "a", labelledRow 2 "b", labelledRow 3 "c"] 2 =
      hashCursorRows bytesText ["id", "label"]
        [labelledRow 1 "a", labelledRow 2 "b", labelledRow 3 "c"] rowBatchSize ∧
    hashCursorRows bytesText ["id", "label"]
        [labelledRow 1 "a", labelledRow 2 "b", labelledRow 3 "c"] 2 ≠
      hashCursorRows bytesText ["id", "label"]
        [labelledRow 1 "a", labelledRow 2 "b", labelledRow 3 "d"] 2 := by
  refine ⟨hashCursorRows_batchSize Nat.two_pos (by decide), ?_⟩
  rw [hashCursorRows, hashCursorRows, hashBatches_eq Nat.two_pos, hashBatches_eq Nat.two_pos]
  decide +kernel

/-- What hashing a list of rows fed and counted: their lines. -/
theorem foldlM_hashRow {columnNames : List String} : ∀ {cursor : List (List FetchedValue)}
    {state result : List UInt8 × Nat},
    cursor.foldlM (hashRow columnNames) state = .ok result →
      ∃ payloads, cursor.mapM (fun row => canonicalRowJson (columnNames.zip row)) = .ok payloads ∧
        (∀ row ∈ cursor, columnNames.length = row.length) ∧
        (∀ payload ∈ payloads, Json.IsText payload) ∧
        result = (state.1 ++ Lib.utf8 (Json.lines payloads), state.2 + cursor.length)
  | [], state, result, h => by
    cases h
    exact ⟨[], rfl, by simp, by simp, by simp [Json.lines, Lib.utf8]⟩
  | row :: cursor, state, result, h => by
    rw [List.foldlM_cons] at h
    obtain ⟨state', hrow, hmore⟩ := bind_eq_ok.1 h
    simp only [hashRow, bind_eq_ok, require_eq_ok, exists_const] at hrow
    obtain ⟨hlength, payload, hpayload, digest, hdigest, hstate⟩ := hrow
    obtain ⟨payloads, hpayloads, hlengths, htexts, hresult⟩ := foldlM_hashRow hmore
    -- the payload is a text of UTF-8, or the row raised
    rw [updateLine] at hdigest
    split at hdigest
    next data hdata =>
      rw [encodeUtf8] at hdata
      split at hdata
      next htext =>
        cases hdata
        cases hdigest
        cases hstate
        refine ⟨payload :: payloads, ?_, ?_, ?_, ?_⟩
        · rw [List.mapM_cons, hpayload]
          exact bind_eq_ok.2 ⟨payload, rfl, bind_eq_ok.2 ⟨payloads, hpayloads, rfl⟩⟩
        · exact List.forall_mem_cons.2 ⟨hlength, hlengths⟩
        · exact List.forall_mem_cons.2 ⟨htext, htexts⟩
        · have hlines : Json.lines (payload :: payloads) =
              payload ++ 0x0A :: Json.lines payloads := by
            rw [Json.lines, List.flatMap_cons, List.append_assoc, List.singleton_append]
            rfl
          have hbreak : Lib.utf8 (0x0A :: Json.lines payloads) =
              0x0A :: Lib.utf8 (Json.lines payloads) := rfl
          rw [hresult, hlines, Lib.utf8_append, hbreak, List.length_cons]
          simp only [List.append_assoc, List.singleton_append]
          rw [Nat.add_assoc, Nat.add_comm 1]
      next => cases hdata
    next => cases hdigest

theorem jsonDefault_bare {v : FetchedValue} {j : Json} (h : jsonDefault v = .ok j) :
    Json.Bare maxStrDigits j := by
  cases v with
  | float f =>
    cases h
    exact f.isLiteral
  | naive time =>
    rw [jsonDefault] at h
    split at h
    · cases h
      trivial
    · split at h <;> cases h
      trivial
  | other typeName => cases h
  | _ =>
    cases h
    trivial

/-- The payload of a row: its members, under the names of the columns. -/
theorem canonicalRowJson_eq_ok {row : List (String × FetchedValue)} {payload : CodePoints} :
    canonicalRowJson row = .ok payload ↔ ∃ members, row.mapM rowMember = .ok members ∧
      Json.fitsDigits maxStrDigits (.obj members) = true ∧
      payload = Json.encode (Json.sortKeys (.obj members)) := by
  rw [canonicalRowJson, bind_eq_ok]
  refine exists_congr fun members => and_congr_right fun _ => ?_
  rw [dumpsText, Json.dumps]
  by_cases hfits : Json.fitsDigits maxStrDigits (.obj members) = true
  · rw [if_pos hfits]
    constructor
    · intro h
      exact ⟨hfits, (Except.ok.inj h).symm⟩
    · intro h
      rw [h.2]
  · rw [if_neg hfits]
    constructor
    · intro h
      cases h
    · intro h
      exact absurd h.1 hfits

theorem rowMember_eq_ok {e : String × FetchedValue} {m : CodePoints × Json} :
    rowMember e = .ok m ↔ m.1 = points e.1 ∧ jsonDefault e.2 = .ok m.2 := by
  rw [rowMember, bind_eq_ok]
  constructor
  · rintro ⟨value, hvalue, h⟩
    cases h
    exact ⟨rfl, hvalue⟩
  · rintro ⟨hname, hvalue⟩
    exact ⟨m.2, hvalue, by rw [← hname]; rfl⟩

theorem mapM_rowMember {row : List (String × FetchedValue)} {members : List (CodePoints × Json)}
    (h : row.mapM rowMember = .ok members) : members.map (·.1) = row.map (fun e => points e.1) ∧
      List.Forall₂ (fun e m => jsonDefault e.2 = .ok m.2) row members := by
  have hall := mapM_eq_ok.1 h
  clear h
  induction hall with
  | nil => exact ⟨rfl, .nil⟩
  | cons hmember _ ih =>
    obtain ⟨hname, hvalue⟩ := rowMember_eq_ok.1 hmember
    exact ⟨by rw [List.map_cons, List.map_cons, ih.1, hname], .cons hvalue ih.2⟩

/-- The members of a row of distinct columns are a plain object. -/
theorem plain_members {row : List (String × FetchedValue)} {members : List (CodePoints × Json)}
    (hnames : (row.map (·.1)).Nodup) (h : row.mapM rowMember = .ok members)
    (hfits : Json.fitsDigits maxStrDigits (.obj members) = true) :
    (Json.obj members).Plain maxStrDigits 1 ∧ Json.Flat members ∧ (members.map (·.1)).Nodup := by
  have hkeys := (mapM_rowMember h).1
  have hbare : ∀ m ∈ members, Json.Bare maxStrDigits m.2 := by
    intro m hm
    obtain ⟨e, -, he⟩ := (mem_mapM h).1 hm
    exact jsonDefault_bare (rowMember_eq_ok.1 he).2
  have hnodup : (members.map (·.1)).Nodup := by
    rw [hkeys]
    have hmap : row.map (fun e => points e.1) = (row.map (·.1)).map points := by
      rw [List.map_map]
      rfl
    rw [hmap]
    exact hnames.map points_injective
  exact ⟨Json.plain_row hbare hnodup hfits, fun m hm => Json.sortKeys_bare (hbare m hm), hnodup⟩

theorem forall₂_comp {α β γ : Type} {r : α → β → Prop} {s : β → γ → Prop} {t : α → γ → Prop} :
    ∀ {as : List α} {bs : List β} {cs : List γ}, List.Forall₂ r as bs → List.Forall₂ s bs cs →
      (∀ a b c, r a b → s b c → t a c) → List.Forall₂ t as cs
  | [], [], [], _, _, _ => .nil
  | _ :: _, _ :: _, _ :: _, .cons ha has, .cons hb hbs, h => .cons (h _ _ _ ha hb) (forall₂_comp has hbs h)

/-- Rows under the same distinct columns with one payload have the same members, so a payload is
as good as the row. -/
theorem canonicalRowJson_injective {row row' : List (String × FetchedValue)} {payload : CodePoints}
    (hcolumns : row.map (·.1) = row'.map (·.1)) (hnames : (row.map (·.1)).Nodup)
    (h : canonicalRowJson row = .ok payload) (h' : canonicalRowJson row' = .ok payload) :
    List.Forall₂ (fun e e' => ∃ j, jsonDefault e.2 = .ok j ∧ jsonDefault e'.2 = .ok j) row row' := by
  obtain ⟨members, hmembers, hfits, hpayload⟩ := canonicalRowJson_eq_ok.1 h
  obtain ⟨members', hmembers', hfits', hpayload'⟩ := canonicalRowJson_eq_ok.1 h'
  obtain ⟨hplain, hflat, hnodup⟩ := plain_members hnames hmembers hfits
  obtain ⟨hplain', hflat', -⟩ := plain_members (hcolumns ▸ hnames) hmembers' hfits'
  have hkeys : members.map (·.1) = members'.map (·.1) := by
    have hmap : ∀ r : List (String × FetchedValue), r.map (fun e => points e.1) =
        (r.map (·.1)).map points := fun r => by
      rw [List.map_map]
      rfl
    rw [(mapM_rowMember hmembers).1, (mapM_rowMember hmembers').1, hmap, hmap, hcolumns]
  have hsame : members = members' :=
    Json.row_injective hplain hplain' hflat hflat' hkeys hnodup (hpayload.symm.trans hpayload')
  subst hsame
  have hback : List.Forall₂ (fun m e' => jsonDefault e'.2 = .ok m.2) members row' :=
    (mapM_rowMember hmembers').2.flip
  exact forall₂_comp (mapM_rowMember hmembers).2 hback fun e m e' he he' => ⟨m.2, he, he'⟩

/-- A payload of distinct columns is one line. -/
theorem canonicalRowJson_oneLine {row : List (String × FetchedValue)} {payload : CodePoints}
    (hnames : (row.map (·.1)).Nodup) (h : canonicalRowJson row = .ok payload) :
    0x0A ∉ payload := by
  obtain ⟨members, hmembers, hfits, rfl⟩ := canonicalRowJson_eq_ok.1 h
  exact Json.encode_oneLine (Json.plain_sortKeys _ (plain_members hnames hmembers hfits).1)

/-- The bytes of lines tell the lines. -/
theorem utf8_lines_injective {a b : List CodePoints} (ha : ∀ t ∈ a, Json.IsText t ∧ 0x0A ∉ t)
    (hb : ∀ t ∈ b, Json.IsText t ∧ 0x0A ∉ t)
    (h : Lib.utf8 (Json.lines a) = Lib.utf8 (Json.lines b)) : a = b := by
  have hpoints : ∀ {texts : List CodePoints}, (∀ t ∈ texts, Json.IsText t ∧ 0x0A ∉ t) →
      ∀ n ∈ Json.lines texts, n < 0x110000 := by
    intro texts htexts n hn
    obtain ⟨t, ht, hn⟩ := List.mem_flatMap.1 hn
    rcases List.mem_append.1 hn with hn | hn
    · exact ((htexts t ht).1 n hn).1
    · rw [List.mem_singleton.1 hn]
      decide
  exact Json.lines_injective (fun t ht => (ha t ht).2) (fun t ht => (hb t ht).2)
    (Lib.utf8_injective (hpoints ha) (hpoints hb) h)

/-- What the batches of a cursor feed to the digest: the lines of the rows. -/
theorem hashBatches_eq_ok {columnNames : List String} {cursor : List (List FetchedValue)}
    {batchSize : Nat} (hsize : 0 < batchSize) {result : List UInt8 × Nat}
    (h : hashBatches columnNames batchSize ([], 0) cursor = .ok result) :
    ∃ payloads, cursor.mapM (fun row => canonicalRowJson (columnNames.zip row)) = .ok payloads ∧
      (∀ row ∈ cursor, columnNames.length = row.length) ∧
      (∀ payload ∈ payloads, Json.IsText payload) ∧
      result.1 = Lib.utf8 (Json.lines payloads) ∧ result.2 = cursor.length := by
  rw [hashBatches_eq hsize] at h
  obtain ⟨payloads, hpayloads, hlengths, htexts, rfl⟩ := foldlM_hashRow h
  exact ⟨payloads, hpayloads, hlengths, htexts, List.nil_append _, Nat.zero_add _⟩

/-- What `hash_cursor_rows` returns: the hash of these bytes, and the number of rows. -/
theorem hashCursorRows_eq_ok {hexdigest : List UInt8 → String} {columnNames : List String}
    {cursor : List (List FetchedValue)} {batchSize : Nat} {result : String × Nat} :
    hashCursorRows hexdigest columnNames cursor batchSize = .ok result ↔
      ∃ digest, hashBatches columnNames batchSize ([], 0) cursor = .ok (digest, result.2) ∧
        result.1 = hexdigest digest := by
  rw [hashCursorRows, bind_eq_ok]
  constructor
  · rintro ⟨⟨digest, count⟩, hbatches, hresult⟩
    cases hresult
    exact ⟨digest, hbatches, rfl⟩
  · rintro ⟨digest, hbatches, hhash⟩
    obtain ⟨hash, count⟩ := result
    obtain rfl : hash = hexdigest digest := hhash
    exact ⟨_, hbatches, rfl⟩

end CommercePlatform
