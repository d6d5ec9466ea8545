import CommercePlatform.Bronze.Manifest
import CommercePlatform.Common.RowHash
import CommercePlatform.Common.UuidText
import CommercePlatform.Lib.JsonBytes
import CommercePlatform.Lib.Traverse
/-!
# The bytes of a manifest

`BronzeManifest.to_bytes` and `parse_bronze_manifest_payload` of
`src/ingestion/bronze/manifest.py`, and `_cursor_from_metadata` of
`src/ingestion/control/batch.py`, on the bytes of the stored object.

The parser accepts exactly the objects of `IsManifest` and otherwise raises
`ValueError`, but for two exceptions that its `except` clause does not name
(`parseBronzeManifestPayload_total`): `RecursionError`, for brackets nested deeper than
the interpreter goes, and `AttributeError`, for a `run_id` that has no `replace`. What
`to_bytes` writes it accepts, and it gives back what `as_dict` holds, with the cursors
both decoders agree on (`parse_toBytes`).

The contract is stated apart from the parser: `IsManifest` says which members an object
has and what they are, in no order. `parseBronzeManifestPayload_eq_ok` shows the two
equal, check by check, for every check the lemma what it lets through (`…Value_eq_ok`).
For the exceptions the same walk is made once more with the class of what is raised
(`Caught`), and what is not caught is found in two places only.

Mirroring notes vs the source:
- The order of the checks is kept, since it decides which exception is raised first; all
  of those caught end in one `ValueError` with one message.
- `==` between JSON values crosses types as in Python: `True` and `1.0` equal the
  version 1.
- `localOffset` is the offset of the machine from UTC, which `astimezone` takes for a
  time without one; no result depends on it, since written times carry theirs.
- `_cursor_from_metadata` reads a cursor that PostgreSQL hands over as JSON; the two
  decoders are the same on written cursors and differ in what else they take.
-/

namespace CommercePlatform

open Lib Lib.Json

/-- `MANIFEST_VERSION`. -/
def manifestVersion : Nat := 1

/-- `VERIFIED_OBJECT_STATE`. -/
def verifiedObjectState : String := "VERIFIED"

/-- `_REQUIRED_BRONZE_MANIFEST_FIELDS`. -/
def requiredBronzeManifestFields : List String :=
  ["batch_id", "run_id", "source_table", "logical_date", "watermark_before", "extract_upper_bound",
    "object_key", "object_size", "content_sha256", "logical_hash", "row_count", "schema_version"]

/-- The classes of the exceptions below. -/
inductive FaultClass where
  | keyError
  | typeError
  | valueError
  | attributeError
  | overflowError
  | recursionError
deriving DecidableEq, Repr

structure ManifestFault where
  cls : FaultClass
  message : String
deriving DecidableEq, Repr

/-- A `dict` that `json.loads` gave. -/
abbrev JsonDict := List (CodePoints × Json)

def valueFault (message : String) : ManifestFault := ⟨.valueError, message⟩

/-- `if not p: raise`. -/
def demand (p : Bool) (fault : ManifestFault) : Except ManifestFault Unit :=
  if p then .ok () else .error fault

theorem demand_eq_ok {p : Bool} {fault : ManifestFault} {u : Unit} : demand p fault = .ok u ↔ p = true := by
  cases p with
  | false => exact iff_of_false (fun h => by cases h) Bool.false_ne_true
  | true => exact iff_of_true rfl rfl

/-- `payload[name]`. -/
def payloadItem (payload : JsonDict) (name : String) : Except ManifestFault Json :=
  match payload.lookup (points name) with
  | some v => .ok v
  | none => .error ⟨.keyError, name⟩

theorem payloadItem_eq_ok {payload : JsonDict} {name : String} {v : Json} :
    payloadItem payload name = .ok v ↔ payload.lookup (points name) = some v := by
  rw [payloadItem]
  cases payload.lookup (points name) with
  | none => exact iff_of_false (fun h => by cases h) fun h => by cases h
  | some w => rw [Except.ok.injEq, Option.some.injEq]

/-- The sign and the digits of an exponent. -/
def exponentValue (exponent : CodePoints) : Int :=
  match exponent.drop 1 with
  | [] => 0
  | c :: digits =>
    if c = 0x2D then -natOf digits else if c = 0x2B then natOf digits else natOf (c :: digits)

/-- `float(literal) == 1.0`: the nearest double is 1, ties going to the even one. -/
def floatIsOne (literal : CodePoints) : Bool :=
  match integerPart literal with
  | none => false
  | some (digits, rest) =>
    let (fraction, rest) := fractionPart rest
    let (exponent, _) := exponentPart rest
    let decimals := fraction.drop 1
    let e := exponentValue exponent - decimals.length
    let up := natOf (digits ++ decimals) * 10 ^ e.toNat * 2 ^ 54
    let down := 10 ^ (-e).toNat
    (2 ^ 54 - 1) * down ≤ up && up ≤ (2 ^ 54 + 2) * down

/-- `value == MANIFEST_VERSION`: `True` and `1.0` are equal to 1 as well. -/
def equalsVersion : Json → Bool
  | .int n => n = manifestVersion
  | .bool b => b
  | .float literal => floatIsOne literal
  | _ => false

/-- `value == text`. -/
def equalsText (text : String) : Json → Bool
  | .str s => s = points text
  | _ => false

/-- `str.isspace` of one character. -/
def isSpacePoint (n : Nat) : Bool :=
  (9 ≤ n && n ≤ 13) || (28 ≤ n && n ≤ 32) || isWideSpace n

/-- `not text.strip()`. -/
def isBlankText (text : CodePoints) : Bool := text.all isSpacePoint

/-- `len(value) == 64`, and every character a lowercase hexadecimal digit. -/
def isSha256Text (text : CodePoints) : Bool :=
  text.length = 64 && text.all fun c => (points "0123456789abcdef").contains c

/-- `type(value).__name__`. -/
def typeNameOf : Json → String
  | .null => "NoneType"
  | .bool _ => "bool"
  | .int _ => "int"
  | .float _ => "float"
  | .str _ => "str"
  | .arr _ => "list"
  | .obj _ => "dict"

/-- `uuid.UUID(value)`. -/
def uuidValue : Json → Except ManifestFault Nat
  | .str s =>
    match uuidOf s with
    | some n => .ok n
    | none => .error (valueFault "badly formed hexadecimal UUID string")
  | .null =>
    .error ⟨.typeError, "one of the hex, bytes, bytes_le, fields, or int arguments must be given"⟩
  | value => .error ⟨.attributeError, "'" ++ typeNameOf value ++ "' object has no attribute 'replace'"⟩

/-- A text with a property. -/
def strValue (p : CodePoints → Bool) (message : String) : Json → Except ManifestFault CodePoints
  | .str s => if p s then .ok s else .error (valueFault message)
  | _ => .error (valueFault message)

/-- An integer with a property; `True` and `False` are none here. -/
def intValue (p : Int → Bool) (message : String) : Json → Except ManifestFault Int
  | .int n => if p n then .ok n else .error (valueFault message)
  | _ => .error (valueFault message)

def textValue : Json → Except ManifestFault CodePoints :=
  strValue (fun s => !isBlankText s) "manifest identifiers must be non-empty strings"

def countValue : Json → Except ManifestFault Int :=
  intValue (fun n => 0 ≤ n) "manifest size and row_count must be non-negative integers"

def schemaVersionValue : Json → Except ManifestFault Int :=
  intValue (fun n => 0 < n) "manifest schema_version must be a positive integer"

def sha256Value (name : String) : Json → Except ManifestFault CodePoints :=
  strValue isSha256Text ("manifest " ++ name ++ " must be a lowercase SHA-256 hex")

/-- The table a text names. -/
def tableNamed (text : CodePoints) : Option TableConfig :=
  tableConfigs.find? fun c => points c.sourceTable = text

/-- A key of a cursor that was read: its text may have lone surrogates. -/
inductive KeyPoints where
  | text (value : CodePoints)
  | int (value : Int)
deriving DecidableEq

/-- A cursor that was read. -/
structure CursorPoints where
  timestamp : Option Timestamp
  keys : List KeyPoints
  complete : timestamp = none ↔ keys = []
deriving DecidableEq

def keyPoints : Json → Except ManifestFault KeyPoints
  | .str s => .ok (.text s)
  | .int n => .ok (.int n)
  | _ => .error ⟨.typeError, "Cursor keys must be strings or integers"⟩

/-- `CursorPosition(timestamp, tuple(keys))`. -/
def makeCursor : Option Timestamp → List Json → Except ManifestFault CursorPoints
  | none, [] => .ok ⟨none, [], iff_of_true rfl rfl⟩
  | none, _ :: _ => .error (valueFault "Initial cursor cannot contain keys")
  | some _, [] =>
    .error (valueFault "Non-initial cursor requires complete primary-key tie-breakers")
  | some t, k :: ks => do
    let key ← keyPoints k
    let keys ← ks.mapM keyPoints
    return ⟨some t, key :: keys, iff_of_false (Option.some_ne_none t) (List.cons_ne_nil key keys)⟩

/-- `_utc_datetime_from_manifest`. -/
def utcDatetimeFromManifest (text : CodePoints) : Except ManifestFault Timestamp :=
  match fromisoformat text with
  | none => .error (valueFault "Invalid isoformat string")
  | some (t, offset) =>
    if offset = some 0 then .ok t
    else .error (valueFault "manifest timestamps must be normalized to UTC")

/-- `set(value) == {"timestamp", "keys"}`. -/
def hasCursorKeys (members : JsonDict) : Bool :=
  (members.map (·.1)).contains (points "timestamp") && (members.map (·.1)).contains (points "keys") &&
    members.all fun m => m.1 = points "timestamp" || m.1 = points "keys"

/-- The timestamp of a cursor, still a text. -/
def timestampText : Json → Except ManifestFault (Option CodePoints)
  | .null => .ok none
  | .str s => .ok (some s)
  | _ => .error (valueFault "manifest cursor timestamp must be a UTC string or null")

def keysArray : Json → Except ManifestFault (List Json)
  | .arr keys => .ok keys
  | _ => .error ⟨.typeError, "manifest cursor keys must be an array"⟩

/-- `_cursor_from_manifest_payload`. -/
def cursorFromManifestPayload : Json → Except ManifestFault CursorPoints
  | .obj members => do
    demand (hasCursorKeys members) (valueFault "manifest cursor must contain timestamp and keys")
    let timestamp ← payloadItem members "timestamp" >>= timestampText
    let keys ← payloadItem members "keys" >>= keysArray
    match timestamp with
    | none => makeCursor none keys
    | some text => do
      let t ← utcDatetimeFromManifest text
      makeCursor (some t) keys
  | _ => .error (valueFault "manifest cursor must contain timestamp and keys")

/-- `_cursor_from_metadata`. `localOffset` is the offset of the machine from UTC, which
`astimezone` takes for a time without one. -/
def cursorFromMetadata (localOffset : Timestamp → Int) (value : JsonDict) :
    Except ManifestFault CursorPoints :=
  match value.lookup (points "timestamp"), value.lookup (points "keys") with
  | none, _ => makeCursor none []
  | some .null, _ => makeCursor none []
  | some (.str text), some (.arr keys) =>
    match fromisoformat text with
    | none => .error (valueFault "Invalid isoformat string")
    | some (t, offset) =>
      let utc := t - offset.getD (localOffset t)
      if IsDatetime utc then makeCursor (some utc) keys
      else .error ⟨.overflowError, "date value out of range"⟩
  | _, _ => .error ⟨.typeError, "Invalid committed batch cursor metadata"⟩

/-! ## The parser -/

/-- The three comparisons, from left to right. -/
def assertIdentity (payload : JsonDict) (expectedObjectKey : String) : Except ManifestFault Unit := do
  let version ← payloadItem payload "manifest_version"
  demand (equalsVersion version) (valueFault "manifest object identity is invalid")
  let state ← payloadItem payload "object_state"
  demand (equalsText verifiedObjectState state) (valueFault "manifest object identity is invalid")
  let key ← payloadItem payload "object_key"
  demand (equalsText expectedObjectKey key) (valueFault "manifest object identity is invalid")

/-- The fields `_assert_bronze_manifest_types` wants to be non-blank texts. -/
def textFields : List String :=
  ["batch_id", "source_table", "logical_date", "object_key", "content_sha256", "logical_hash"]

/-- `_assert_bronze_manifest_types`. -/
def assertBronzeManifestTypes (payload : JsonDict) : Except ManifestFault Unit := do
  textFields.forM fun name => payloadItem payload name >>= textValue >>= fun _ => pure ()
  ["object_size", "row_count"].forM fun name => payloadItem payload name >>= countValue >>= fun _ => pure ()
  let _ ← payloadItem payload "schema_version" >>= schemaVersionValue
  ["content_sha256", "logical_hash"].forM fun name =>
    payloadItem payload name >>= sha256Value name >>= fun _ => pure ()
  let table ← payloadItem payload "source_table" >>= textValue
  demand (tableNamed table).isSome (valueFault "Unsupported source table")
  let _ ← payloadItem payload "watermark_before" >>= cursorFromManifestPayload
  let _ ← payloadItem payload "extract_upper_bound" >>= cursorFromManifestPayload
  let logicalDate ← payloadItem payload "logical_date" >>= textValue
  let _ ← utcDatetimeFromManifest logicalDate
  return ()

/-- The object in the bytes. -/
def loadsDict (depth : Nat) (data : List UInt8) : Except ManifestFault JsonDict :=
  match loads maxStrDigits depth data with
  | .ok (.obj payload) => .ok payload
  | .ok _ => .error ⟨.typeError, "manifest must be a JSON object"⟩
  | .error .recursion => .error ⟨.recursionError, "maximum recursion depth exceeded"⟩
  | .error _ => .error (valueFault "manifest is not JSON")

/-- What follows the comparisons of the identity. -/
def assertContents (payload : JsonDict) : Except ManifestFault Unit := do
  let _ ← payloadItem payload "run_id" >>= uuidValue
  demand (requiredBronzeManifestFields.all fun name => (payload.lookup (points name)).isSome)
    (valueFault "manifest fields are incomplete")
  assertBronzeManifestTypes payload

/-- The body of the `try`, in the order of the source: the JSON, the three comparisons of the
identity, the run id, the required fields, their types. -/
def readManifest (depth : Nat) (data : List UInt8) (expectedObjectKey : String) :
    Except ManifestFault JsonDict := do
  let payload ← loadsDict depth data
  assertIdentity payload expectedObjectKey
  assertContents payload
  return payload

/-- `except (KeyError, TypeError, ValueError, json.JSONDecodeError)`: the last is a `ValueError`. -/
def isCaught : FaultClass → Bool
  | .keyError => true
  | .typeError => true
  | .valueError => true
  | _ => false

/-- `parse_bronze_manifest_payload`; the interpreter nests `depth` deep. -/
def parseBronzeManifestPayload (depth : Nat) (manifestBytes : List UInt8) (expectedObjectKey : String) :
    Except ManifestFault JsonDict :=
  match readManifest depth manifestBytes expectedObjectKey with
  | .ok payload => .ok payload
  | .error fault => .error (if isCaught fault.cls then valueFault "Bronze manifest is invalid" else fault)

/-! ## What the parser accepts -/

/-- The object is a cursor. -/
structure IsCursor (members : JsonDict) (c : CursorPoints) : Prop where
  named : hasCursorKeys members = true
  keys : ∃ keys, members.lookup (points "keys") = some (.arr keys) ∧
    List.Forall₂ (fun k key => keyPoints k = .ok key) keys c.keys
  timestamp : (members.lookup (points "timestamp") = some .null ∧ c.timestamp = none) ∨
    ∃ s t, members.lookup (points "timestamp") = some (.str s) ∧
      fromisoformat s = some (t, some 0) ∧ c.timestamp = some t

/-- The version, the state and the key are those the parser looks for. -/
structure HasIdentity (payload : JsonDict) (expectedObjectKey : String) : Prop where
  version : ∃ v, payload.lookup (points "manifest_version") = some v ∧ equalsVersion v = true
  state : payload.lookup (points "object_state") = some (.str (points verifiedObjectState))
  key : payload.lookup (points "object_key") = some (.str (points expectedObjectKey))

/-- The contract of a manifest: the identity the parser looks for, and every field with its type
and its range, in any order of the members. -/
structure IsManifest (payload : JsonDict) (expectedObjectKey : String) : Prop where
  identity : HasIdentity payload expectedObjectKey
  runId : ∃ s n, payload.lookup (points "run_id") = some (.str s) ∧ uuidOf s = some n
  texts : ∀ name ∈ textFields, ∃ s, payload.lookup (points name) = some (.str s) ∧
    isBlankText s = false
  counts : ∀ name ∈ ["object_size", "row_count"], ∃ n : Int,
    payload.lookup (points name) = some (.int n) ∧ 0 ≤ n
  schemaVersion : ∃ n : Int, payload.lookup (points "schema_version") = some (.int n) ∧ 0 < n
  hashes : ∀ name ∈ ["content_sha256", "logical_hash"], ∃ s,
    payload.lookup (points name) = some (.str s) ∧ isSha256Text s = true
  table : ∃ config ∈ tableConfigs,
    payload.lookup (points "source_table") = some (.str (points config.sourceTable))
  cursors : ∀ name ∈ ["watermark_before", "extract_upper_bound"], ∃ members c,
    payload.lookup (points name) = some (.obj members) ∧ IsCursor members c
  logicalDate : ∃ s t, payload.lookup (points "logical_date") = some (.str s) ∧
    fromisoformat s = some (t, some 0)

theorem uuidValue_eq_ok {v : Json} {n : Nat} :
    uuidValue v = .ok n ↔ ∃ s, v = .str s ∧ uuidOf s = some n := by
  cases v with
  | str s =>
    simp only [uuidValue, Json.str.injEq, exists_eq_left']
    cases uuidOf s with
    | none => simp
    | some m => simp
  | _ => simp [uuidValue]

theorem strValue_eq_ok {p : CodePoints → Bool} {message : String} {v : Json} {s : CodePoints} :
    strValue p message v = .ok s ↔ v = .str s ∧ p s = true := by
  cases v with
  | str t =>
    simp only [strValue, Json.str.injEq]
    by_cases ht : p t = true
    · rw [if_pos ht, Except.ok.injEq]
      exact ⟨fun h => ⟨h, h ▸ ht⟩, And.left⟩
    · rw [if_neg ht]
      refine iff_of_false (fun h => by cases h) fun h => ?_
      rw [h.1] at ht
      exact ht h.2
  | _ => simp [strValue]

theorem intValue_eq_ok {p : Int → Bool} {message : String} {v : Json} {n : Int} :
    intValue p message v = .ok n ↔ v = .int n ∧ p n = true := by
  cases v with
  | int m =>
    simp only [intValue, Json.int.injEq]
    by_cases hm : p m = true
    · rw [if_pos hm, Except.ok.injEq]
      exact ⟨fun h => ⟨h, h ▸ hm⟩, And.left⟩
    · rw [if_neg hm]
      refine iff_of_false (fun h => by cases h) fun h => ?_
      rw [h.1] at hm
      exact hm h.2
  | _ => simp [intValue]

theorem textValue_eq_ok {v : Json} {s : CodePoints} :
    textValue v = .ok s ↔ v = .str s ∧ isBlankText s = false := by
  rw [textValue, strValue_eq_ok, Bool.not_eq_true']

theorem countValue_eq_ok {v : Json} {n : Int} : countValue v = .ok n ↔ v = .int n ∧ 0 ≤ n := by
  rw [countValue, intValue_eq_ok, decide_eq_true_eq]

theorem schemaVersionValue_eq_ok {v : Json} {n : Int} :
    schemaVersionValue v = .ok n ↔ v = .int n ∧ 0 < n := by
  rw [schemaVersionValue, intValue_eq_ok, decide_eq_true_eq]

theorem sha256Value_eq_ok {name : String} {v : Json} {s : CodePoints} :
    sha256Value name v = .ok s ↔ v = .str s ∧ isSha256Text s = true := strValue_eq_ok

theorem equalsText_iff {text : String} {v : Json} :
    equalsText text v = true ↔ v = .str (points text) := by
  cases v with
  | str s => simp [equalsText]
  | _ => simp [equalsText]

theorem tableNamed_isSome {text : CodePoints} :
    (tableNamed text).isSome = true ↔ ∃ config ∈ tableConfigs, points config.sourceTable = text := by
  rw [tableNamed, List.find?_isSome]
  simp only [decide_eq_true_eq]

theorem utcDatetimeFromManifest_eq_ok {text : CodePoints} {t : Timestamp} :
    utcDatetimeFromManifest text = .ok t ↔ fromisoformat text = some (t, some 0) := by
  rw [utcDatetimeFromManifest]
  cases fromisoformat text with
  | none => exact iff_of_false (fun h => by cases h) fun h => by cases h
  | some found =>
    obtain ⟨u, offset⟩ := found
    dsimp only
    rw [Option.some.injEq, Prod.mk.injEq]
    by_cases hoffset : offset = some 0
    · rw [if_pos hoffset, Except.ok.injEq, and_iff_left hoffset]
    · rw [if_neg hoffset]
      exact iff_of_false (fun h => by cases h) fun h => hoffset h.2

theorem makeCursor_eq_ok {timestamp : Option Timestamp} {keys : List Json} {c : CursorPoints} :
    makeCursor timestamp keys = .ok c ↔ c.timestamp = timestamp ∧
      List.Forall₂ (fun k key => keyPoints k = .ok key) keys c.keys := by
  obtain ⟨at', found, hcomplete⟩ := c
  dsimp only
  cases timestamp with
  | none =>
    cases keys with
    | nil =>
      rw [makeCursor, Except.ok.injEq, CursorPoints.mk.injEq, List.forall₂_nil_left_iff]
      exact ⟨fun h => ⟨h.1.symm, h.2.symm⟩, fun h => ⟨h.1.symm, h.2.symm⟩⟩
    -- keys without a timestamp, or a timestamp without keys, make no cursor
    | cons k ks =>
      refine iff_of_false (fun h => by cases h) ?_
      rintro ⟨rfl, hkeys⟩
      rw [hcomplete.1 rfl] at hkeys
      cases hkeys
  | some t =>
    cases keys with
    | nil =>
      refine iff_of_false (fun h => by cases h) ?_
      rintro ⟨rfl, hkeys⟩
      rw [List.forall₂_nil_left_iff] at hkeys
      exact absurd (hcomplete.2 hkeys) (Option.some_ne_none t)
    | cons k ks =>
      rw [makeCursor]
      constructor
      · intro h
        obtain ⟨key, hkey, h⟩ := except_bind_eq_ok.1 h
        obtain ⟨more, hmore, h⟩ := except_bind_eq_ok.1 h
        cases h
        exact ⟨rfl, .cons hkey (mapM_eq_ok.1 hmore)⟩
      · rintro ⟨rfl, hkeys⟩
        obtain ⟨key, more, hkey, hmore, rfl⟩ := List.forall₂_cons_left_iff.1 hkeys
        rw [hkey, mapM_eq_ok.2 hmore]
        rfl

theorem timestampText_eq_ok {v : Json} {timestamp : Option CodePoints} :
    timestampText v = .ok timestamp ↔
      (v = .null ∧ timestamp = none) ∨ ∃ s, v = .str s ∧ timestamp = some s := by
  cases v with
  | null => simp [timestampText, eq_comm]
  | str s => simp [timestampText, eq_comm]
  | _ => simp [timestampText]

theorem keysArray_eq_ok {v : Json} {keys : List Json} : keysArray v = .ok keys ↔ v = .arr keys := by
  cases v with
  | arr found => simp [keysArray]
  | _ => simp [keysArray]

theorem read_eq_ok {α : Type} {payload : JsonDict} {name : String} {f : Json → Except ManifestFault α}
    {a : α} : (payloadItem payload name >>= f) = .ok a ↔
      ∃ v, payload.lookup (points name) = some v ∧ f v = .ok a := by
  rw [except_bind_eq_ok]
  simp only [payloadItem_eq_ok]

theorem isCursor_of_cursorFromManifestPayload {members : JsonDict} {c : CursorPoints}
    (h : cursorFromManifestPayload (.obj members) = .ok c) : IsCursor members c := by
  rw [cursorFromManifestPayload] at h
  obtain ⟨_, hnamed, h⟩ := except_bind_eq_ok.1 h
  obtain ⟨timestamp, htimestamp, h⟩ := except_bind_eq_ok.1 h
  obtain ⟨keys, hkeys, h⟩ := except_bind_eq_ok.1 h
  obtain ⟨w, hw, htext⟩ := read_eq_ok.1 htimestamp
  obtain ⟨x, hx, harray⟩ := read_eq_ok.1 hkeys
  rw [keysArray_eq_ok.1 harray] at hx
  obtain ⟨hnull, hnone⟩ | ⟨text, hstr, hsome⟩ := timestampText_eq_ok.1 htext
  · rw [hnone] at h
    rw [hnull] at hw
    obtain ⟨htime, hall⟩ := makeCursor_eq_ok.1 h
    exact ⟨demand_eq_ok.1 hnamed, ⟨keys, hx, hall⟩, .inl ⟨hw, htime⟩⟩
  · rw [hsome] at h
    rw [hstr] at hw
    obtain ⟨t, ht, h⟩ := except_bind_eq_ok.1 h
    obtain ⟨htime, hall⟩ := makeCursor_eq_ok.1 h
    exact ⟨demand_eq_ok.1 hnamed, ⟨keys, hx, hall⟩,
      .inr ⟨text, t, hw, utcDatetimeFromManifest_eq_ok.1 ht, htime⟩⟩

theorem cursorFromManifestPayload_of_isCursor {members : JsonDict} {c : CursorPoints}
    (h : IsCursor members c) : cursorFromManifestPayload (.obj members) = .ok c := by
  obtain ⟨hnamed, ⟨keys, hkeys, hall⟩, htimestamp⟩ := h
  have harray : payloadItem members "keys" >>= keysArray = .ok keys :=
    read_eq_ok.2 ⟨_, hkeys, keysArray_eq_ok.2 rfl⟩
  rw [cursorFromManifestPayload]
  refine except_bind_eq_ok.2 ⟨(), demand_eq_ok.2 hnamed, ?_⟩
  obtain ⟨hnull, htime⟩ | ⟨s, t, hs, ht, htime⟩ := htimestamp
  · have hread : payloadItem members "timestamp" >>= timestampText = .ok none :=
      read_eq_ok.2 ⟨_, hnull, rfl⟩
    refine except_bind_eq_ok.2 ⟨none, hread, except_bind_eq_ok.2 ⟨keys, harray, ?_⟩⟩
    exact makeCursor_eq_ok.2 ⟨htime, hall⟩
  · have hread : payloadItem members "timestamp" >>= timestampText = .ok (some s) :=
      read_eq_ok.2 ⟨_, hs, rfl⟩
    refine except_bind_eq_ok.2 ⟨some s, hread, except_bind_eq_ok.2 ⟨keys, harray, ?_⟩⟩
    refine except_bind_eq_ok.2 ⟨t, utcDatetimeFromManifest_eq_ok.2 ht, ?_⟩
    exact makeCursor_eq_ok.2 ⟨htime, hall⟩

theorem cursorFromManifestPayload_eq_ok {v : Json} {c : CursorPoints} :
    cursorFromManifestPayload v = .ok c ↔ ∃ members, v = .obj members ∧ IsCursor members c := by
  cases v with
  | obj members =>
    simp only [Json.obj.injEq, exists_eq_left']
    exact ⟨isCursor_of_cursorFromManifestPayload, cursorFromManifestPayload_of_isCursor⟩
  | _ => exact iff_of_false (fun h => by cases h) fun ⟨_, h, _⟩ => by cases h

/-- A value that is only looked at. -/
theorem passes_eq_ok {α : Type} {payload : JsonDict} {name : String}
    {f : Json → Except ManifestFault α} {u : Unit} :
    (payloadItem payload name >>= f >>= fun _ => pure ()) = .ok u ↔
      ∃ v a, payload.lookup (points name) = some v ∧ f v = .ok a := by
  rw [except_bind_eq_ok]
  simp only [read_eq_ok]
  exact ⟨fun ⟨a, ⟨v, hv, ha⟩, _⟩ => ⟨v, a, hv, ha⟩, fun ⟨v, a, hv, ha⟩ => ⟨a, ⟨v, hv, ha⟩, rfl⟩⟩

theorem isCursor_of_read {payload : JsonDict} {name : String} {c : CursorPoints}
    (h : (payloadItem payload name >>= cursorFromManifestPayload) = .ok c) :
    ∃ members c, payload.lookup (points name) = some (.obj members) ∧ IsCursor members c := by
  obtain ⟨v, hv, hc⟩ := read_eq_ok.1 h
  obtain ⟨members, rfl, hcursor⟩ := cursorFromManifestPayload_eq_ok.1 hc
  exact ⟨members, c, hv, hcursor⟩

theorem assertIdentity_eq_ok {payload : JsonDict} {expectedObjectKey : String} :
    assertIdentity payload expectedObjectKey = .ok () ↔ HasIdentity payload expectedObjectKey := by
  rw [assertIdentity]
  constructor
  · intro h
    obtain ⟨version, hversion, h⟩ := except_bind_eq_ok.1 h
    obtain ⟨_, hone, h⟩ := except_bind_eq_ok.1 h
    obtain ⟨state, hstate, h⟩ := except_bind_eq_ok.1 h
    obtain ⟨_, hverified, h⟩ := except_bind_eq_ok.1 h
    obtain ⟨key, hkey, h⟩ := except_bind_eq_ok.1 h
    rw [payloadItem_eq_ok] at hversion hstate hkey
    exact ⟨⟨version, hversion, demand_eq_ok.1 hone⟩,
      equalsText_iff.1 (demand_eq_ok.1 hverified) ▸ hstate, equalsText_iff.1 (demand_eq_ok.1 h) ▸ hkey⟩
  · rintro ⟨⟨version, hversion, hone⟩, hstate, hkey⟩
    refine except_bind_eq_ok.2 ⟨version, payloadItem_eq_ok.2 hversion, ?_⟩
    refine except_bind_eq_ok.2 ⟨(), demand_eq_ok.2 hone, ?_⟩
    refine except_bind_eq_ok.2 ⟨_, payloadItem_eq_ok.2 hstate, ?_⟩
    refine except_bind_eq_ok.2 ⟨(), demand_eq_ok.2 (equalsText_iff.2 rfl), ?_⟩
    refine except_bind_eq_ok.2 ⟨_, payloadItem_eq_ok.2 hkey, ?_⟩
    exact demand_eq_ok.2 (equalsText_iff.2 rfl)

theorem isManifest_of_assertContents {payload : JsonDict} {expectedObjectKey : String}
    (hidentity : HasIdentity payload expectedObjectKey) (h : assertContents payload = .ok ()) :
    IsManifest payload expectedObjectKey := by
  -- the contract is what the parser read, in the order in which it was read
  rw [assertContents] at h
  obtain ⟨n, hrun, h⟩ := except_bind_eq_ok.1 h
  obtain ⟨_, -, h⟩ := except_bind_eq_ok.1 h
  rw [assertBronzeManifestTypes] at h
  obtain ⟨_, htexts, h⟩ := except_bind_eq_ok.1 h
  obtain ⟨_, hcounts, h⟩ := except_bind_eq_ok.1 h
  obtain ⟨m, hschema, h⟩ := except_bind_eq_ok.1 h
  obtain ⟨_, hhashes, h⟩ := except_bind_eq_ok.1 h
  obtain ⟨table, htable, h⟩ := except_bind_eq_ok.1 h
  obtain ⟨_, hregistered, h⟩ := except_bind_eq_ok.1 h
  obtain ⟨before, hbefore, h⟩ := except_bind_eq_ok.1 h
  obtain ⟨upper, hupper, h⟩ := except_bind_eq_ok.1 h
  obtain ⟨date, hdate, h⟩ := except_bind_eq_ok.1 h
  obtain ⟨t, ht, -⟩ := except_bind_eq_ok.1 h
  obtain ⟨v, hv, hrun⟩ := read_eq_ok.1 hrun
  obtain ⟨s, rfl, hs⟩ := uuidValue_eq_ok.1 hrun
  obtain ⟨w, hw, hschema⟩ := read_eq_ok.1 hschema
  obtain ⟨rfl, hpositive⟩ := schemaVersionValue_eq_ok.1 hschema
  obtain ⟨x, hx, htable⟩ := read_eq_ok.1 htable
  obtain ⟨rfl, -⟩ := textValue_eq_ok.1 htable
  obtain ⟨config, hconfig, rfl⟩ := tableNamed_isSome.1 (demand_eq_ok.1 hregistered)
  obtain ⟨y, hy, hdate⟩ := read_eq_ok.1 hdate
  obtain ⟨rfl, -⟩ := textValue_eq_ok.1 hdate
  refine ⟨hidentity, ⟨s, n, hv, hs⟩, ?_, ?_, ⟨m, hw, hpositive⟩, ?_, ⟨config, hconfig, hx⟩, ?_,
    ⟨date, t, hy, utcDatetimeFromManifest_eq_ok.1 ht⟩⟩
  · intro name hname
    obtain ⟨v, s, hv, hs⟩ := passes_eq_ok.1 (forM_returns.1 htexts name hname)
    obtain ⟨rfl, hblank⟩ := textValue_eq_ok.1 hs
    exact ⟨s, hv, hblank⟩
  · intro name hname
    obtain ⟨v, n, hv, hn⟩ := passes_eq_ok.1 (forM_returns.1 hcounts name hname)
    obtain ⟨rfl, hpos⟩ := countValue_eq_ok.1 hn
    exact ⟨n, hv, hpos⟩
  · intro name hname
    obtain ⟨v, s, hv, hs⟩ := passes_eq_ok.1 (forM_returns.1 hhashes name hname)
    obtain ⟨rfl, hsha⟩ := sha256Value_eq_ok.1 hs
    exact ⟨s, hv, hsha⟩
  · intro name hname
    rw [List.mem_cons, List.mem_singleton] at hname
    rcases hname with rfl | rfl
    · exact isCursor_of_read hbefore
    · exact isCursor_of_read hupper

namespace IsManifest

variable {payload : JsonDict} {expectedObjectKey : String}

/-- A text that was read under its name is not blank. -/
theorem readsText (h : IsManifest payload expectedObjectKey) {name : String} {s : CodePoints}
    (hname : name ∈ textFields) (hs : payload.lookup (points name) = some (.str s)) :
    textValue (.str s) = .ok s := by
  obtain ⟨found, hfound, hblank⟩ := h.texts name hname
  rw [hs] at hfound
  have hsame : s = found := Json.str.inj (Option.some.inj hfound)
  exact textValue_eq_ok.2 ⟨rfl, hsame ▸ hblank⟩

theorem hasText (h : IsManifest payload expectedObjectKey) {name : String} (hname : name ∈ textFields) :
    (payload.lookup (points name)).isSome = true := by
  obtain ⟨s, hs, -⟩ := h.texts name hname
  rw [hs, Option.isSome_some]

theorem hasCount (h : IsManifest payload expectedObjectKey) {name : String}
    (hname : name ∈ ["object_size", "row_count"]) : (payload.lookup (points name)).isSome = true := by
  obtain ⟨n, hn, -⟩ := h.counts name hname
  rw [hn, Option.isSome_some]

theorem hasCursor (h : IsManifest payload expectedObjectKey) {name : String}
    (hname : name ∈ ["watermark_before", "extract_upper_bound"]) :
    (payload.lookup (points name)).isSome = true := by
  obtain ⟨members, c, hmembers, -⟩ := h.cursors name hname
  rw [hmembers, Option.isSome_some]

/-- No field is missing. -/
theorem complete (h : IsManifest payload expectedObjectKey) :
    (requiredBronzeManifestFields.all fun name => (payload.lookup (points name)).isSome) = true := by
  obtain ⟨s, n, hs, -⟩ := h.runId
  obtain ⟨m, hm, -⟩ := h.schemaVersion
  rw [List.all_eq_true]
  intro name hname
  simp only [requiredBronzeManifestFields, List.mem_cons, List.not_mem_nil, or_false] at hname
  rcases hname with rfl | rfl | rfl | rfl | rfl | rfl | rfl | rfl | rfl | rfl | rfl | rfl
  · exact h.hasText (by decide)
  · rw [hs, Option.isSome_some]
  · exact h.hasText (by decide)
  · exact h.hasText (by decide)
  · exact h.hasCursor (by decide)
  · exact h.hasCursor (by decide)
  · exact h.hasText (by decide)
  · exact h.hasCount (by decide)
  · exact h.hasText (by decide)
  · exact h.hasText (by decide)
  · exact h.hasCount (by decide)
  · rw [hm, Option.isSome_some]

end IsManifest

theorem assertContents_of_isManifest {payload : JsonDict} {expectedObjectKey : String}
    (h : IsManifest payload expectedObjectKey) : assertContents payload = .ok () := by
  obtain ⟨s, n, hs, hn⟩ := h.runId
  obtain ⟨m, hm, hpositive⟩ := h.schemaVersion
  obtain ⟨config, hconfig, htable⟩ := h.table
  obtain ⟨before, c, hbefore, hc⟩ := h.cursors "watermark_before" List.mem_cons_self
  obtain ⟨upper, d, hupper, hd⟩ :=
    h.cursors "extract_upper_bound" (List.mem_cons_of_mem _ List.mem_cons_self)
  obtain ⟨date, t, hdate, ht⟩ := h.logicalDate
  have htableText := h.readsText (by decide) htable
  have hdateText := h.readsText (by decide) hdate
  rw [assertContents]
  -- the checks in the order of the source, each answered by its part of the contract
  refine except_bind_eq_ok.2 ⟨n, read_eq_ok.2 ⟨_, hs, uuidValue_eq_ok.2 ⟨s, rfl, hn⟩⟩, ?_⟩
  refine except_bind_eq_ok.2 ⟨(), demand_eq_ok.2 h.complete, ?_⟩
  rw [assertBronzeManifestTypes]
  refine except_bind_eq_ok.2 ⟨(), forM_returns.2 fun name hname => ?_, ?_⟩
  · obtain ⟨s, hs, hblank⟩ := h.texts name hname
    exact passes_eq_ok.2 ⟨_, s, hs, textValue_eq_ok.2 ⟨rfl, hblank⟩⟩
  refine except_bind_eq_ok.2 ⟨(), forM_returns.2 fun name hname => ?_, ?_⟩
  · obtain ⟨n, hn, hpos⟩ := h.counts name hname
    exact passes_eq_ok.2 ⟨_, n, hn, countValue_eq_ok.2 ⟨rfl, hpos⟩⟩
  refine except_bind_eq_ok.2 ⟨m, read_eq_ok.2 ⟨_, hm, schemaVersionValue_eq_ok.2 ⟨rfl, hpositive⟩⟩, ?_⟩
  refine except_bind_eq_ok.2 ⟨(), forM_returns.2 fun name hname => ?_, ?_⟩
  · obtain ⟨s, hs, hsha⟩ := h.hashes name hname
    exact passes_eq_ok.2 ⟨_, s, hs, sha256Value_eq_ok.2 ⟨rfl, hsha⟩⟩
  refine except_bind_eq_ok.2 ⟨_, read_eq_ok.2 ⟨_, htable, htableText⟩, ?_⟩
  refine except_bind_eq_ok.2 ⟨(), demand_eq_ok.2 (tableNamed_isSome.2 ⟨config, hconfig, rfl⟩), ?_⟩
  refine except_bind_eq_ok.2 ⟨c, read_eq_ok.2 ⟨_, hbefore, cursorFromManifestPayload_of_isCursor hc⟩, ?_⟩
  refine except_bind_eq_ok.2 ⟨d, read_eq_ok.2 ⟨_, hupper, cursorFromManifestPayload_of_isCursor hd⟩, ?_⟩
  refine except_bind_eq_ok.2 ⟨date, read_eq_ok.2 ⟨_, hdate, hdateText⟩, ?_⟩
  exact except_bind_eq_ok.2 ⟨t, utcDatetimeFromManifest_eq_ok.2 ht, rfl⟩

/-- What follows the identity accepts the rest of the contract. -/
theorem assertContents_eq_ok {payload : JsonDict} {expectedObjectKey : String}
    (hidentity : HasIdentity payload expectedObjectKey) :
    assertContents payload = .ok () ↔ IsManifest payload expectedObjectKey :=
  ⟨isManifest_of_assertContents hidentity, assertContents_of_isManifest⟩

theorem loadsDict_eq_ok {depth : Nat} {data : List UInt8} {payload : JsonDict} :
    loadsDict depth data = .ok payload ↔ loads maxStrDigits depth data = .ok (.obj payload) := by
  rw [loadsDict]
  cases hloads : loads maxStrDigits depth data with
  | error fault => cases fault <;> simp
  | ok j => cases j <;> simp

/-- The parser accepts the manifests of the key and gives the object back unchanged. -/
theorem parseBronzeManifestPayload_eq_ok {depth : Nat} {data : List UInt8} {expectedObjectKey : String}
    {payload : JsonDict} : parseBronzeManifestPayload depth data expectedObjectKey = .ok payload ↔
      loads maxStrDigits depth data = .ok (.obj payload) ∧ IsManifest payload expectedObjectKey := by
  have hread : readManifest depth data expectedObjectKey = .ok payload ↔
      loads maxStrDigits depth data = .ok (.obj payload) ∧ IsManifest payload expectedObjectKey := by
    rw [readManifest]
    constructor
    · intro h
      obtain ⟨found, hfound, h⟩ := except_bind_eq_ok.1 h
      obtain ⟨_, hidentity, h⟩ := except_bind_eq_ok.1 h
      obtain ⟨_, hcontents, h⟩ := except_bind_eq_ok.1 h
      cases h
      exact ⟨loadsDict_eq_ok.1 hfound, (assertContents_eq_ok (assertIdentity_eq_ok.1 hidentity)).1 hcontents⟩
    · rintro ⟨hloads, h⟩
      refine except_bind_eq_ok.2 ⟨payload, loadsDict_eq_ok.2 hloads, ?_⟩
      refine except_bind_eq_ok.2 ⟨(), assertIdentity_eq_ok.2 h.identity, ?_⟩
      exact except_bind_eq_ok.2 ⟨(), (assertContents_eq_ok h.identity).2 h, rfl⟩
  rw [parseBronzeManifestPayload, ← hread]
  cases readManifest depth data expectedObjectKey with
  | ok found => rfl
  | error fault => exact iff_of_false (fun h => by cases h) fun h => by cases h

/-! ## What the parser raises -/

/-- Whatever it raises, the `except` clause catches. -/
def Caught {α : Type} (x : Except ManifestFault α) : Prop :=
  ∀ fault, x = .error fault → isCaught fault.cls = true

theorem caught_ok {α : Type} (a : α) : Caught (.ok a : Except ManifestFault α) := fun _ h => by cases h

theorem caught_error {α : Type} {fault : ManifestFault} (h : isCaught fault.cls = true) :
    Caught (.error fault : Except ManifestFault α) := fun _ heq => Except.error.inj heq ▸ h

theorem caught_bind {α β : Type} {x : Except ManifestFault α} {f : α → Except ManifestFault β}
    (hx : Caught x) (hf : ∀ a, x = .ok a → Caught (f a)) : Caught (x >>= f) := by
  cases x with
  | error fault =>
    intro g hg
    have hsame : fault = g := Except.error.inj hg
    exact hx g (congrArg Except.error hsame)
  | ok a => exact hf a rfl

theorem caught_demand {p : Bool} {fault : ManifestFault} (h : isCaught fault.cls = true) :
    Caught (demand p fault) := by
  cases p with
  | false => exact caught_error h
  | true => exact caught_ok ()

theorem caught_payloadItem (payload : JsonDict) (name : String) : Caught (payloadItem payload name) := by
  rw [payloadItem]
  cases payload.lookup (points name) with
  | none => exact caught_error rfl
  | some v => exact caught_ok v

theorem caught_forM {α : Type} {f : α → Except ManifestFault Unit} (hf : ∀ x, Caught (f x)) :
    ∀ xs : List α, Caught (xs.forM f)
  | [] => caught_ok ()
  | x :: xs => caught_bind (hf x) fun _ _ => caught_forM hf xs

theorem caught_mapM {α β : Type} {f : α → Except ManifestFault β} (hf : ∀ x, Caught (f x)) :
    ∀ xs : List α, Caught (xs.mapM f)
  | [] => caught_ok []
  | x :: xs => by
    rw [List.mapM_cons]
    exact caught_bind (hf x) fun y _ => caught_bind (caught_mapM hf xs) fun ys _ => caught_ok (y :: ys)

theorem caught_strValue {p : CodePoints → Bool} {message : String} (v : Json) :
    Caught (strValue p message v) := by
  cases v with
  | str s =>
    rw [strValue]
    split
    · exact caught_ok s
    · exact caught_error rfl
  | _ => exact caught_error rfl

theorem caught_intValue {p : Int → Bool} {message : String} (v : Json) :
    Caught (intValue p message v) := by
  cases v with
  | int n =>
    rw [intValue]
    split
    · exact caught_ok n
    · exact caught_error rfl
  | _ => exact caught_error rfl

theorem caught_keyPoints (v : Json) : Caught (keyPoints v) := by
  cases v with
  | str s => exact caught_ok _
  | int n => exact caught_ok _
  | _ => exact caught_error rfl

theorem caught_makeCursor (timestamp : Option Timestamp) (keys : List Json) :
    Caught (makeCursor timestamp keys) := by
  cases timestamp with
  | none =>
    cases keys with
    | nil => exact caught_ok _
    | cons k ks => exact caught_error rfl
  | some t =>
    cases keys with
    | nil => exact caught_error rfl
    | cons k ks =>
      rw [makeCursor]
      exact caught_bind (caught_keyPoints k) fun key _ =>
        caught_bind (caught_mapM caught_keyPoints ks) fun keys _ => caught_ok _

theorem caught_utcDatetimeFromManifest (text : CodePoints) : Caught (utcDatetimeFromManifest text) := by
  rw [utcDatetimeFromManifest]
  cases fromisoformat text with
  | none => exact caught_error rfl
  | some found =>
    obtain ⟨t, offset⟩ := found
    dsimp only
    split
    · exact caught_ok t
    · exact caught_error rfl

theorem caught_timestampText (v : Json) : Caught (timestampText v) := by
  cases v with
  | null => exact caught_ok _
  | str s => exact caught_ok _
  | _ => exact caught_error rfl

theorem caught_keysArray (v : Json) : Caught (keysArray v) := by
  cases v with
  | arr keys => exact caught_ok _
  | _ => exact caught_error rfl

theorem caught_cursorFromManifestPayload (v : Json) : Caught (cursorFromManifestPayload v) := by
  cases v with
  | obj members =>
    rw [cursorFromManifestPayload]
    refine caught_bind (caught_demand rfl) fun _ _ => ?_
    refine caught_bind (caught_bind (caught_payloadItem _ _) fun w _ => caught_timestampText w) ?_
    intro timestamp _
    refine caught_bind (caught_bind (caught_payloadItem _ _) fun w _ => caught_keysArray w) ?_
    intro keys _
    cases timestamp with
    | none => exact caught_makeCursor _ _
    | some text =>
      exact caught_bind (caught_utcDatetimeFromManifest text) fun t _ => caught_makeCursor _ _
  | _ => exact caught_error rfl

theorem caught_read {α : Type} {payload : JsonDict} {name : String} {f : Json → Except ManifestFault α}
    (hf : ∀ v, Caught (f v)) : Caught (payloadItem payload name >>= f) :=
  caught_bind (caught_payloadItem payload name) fun v _ => hf v

theorem caught_passes {α : Type} {payload : JsonDict} {name : String}
    {f : Json → Except ManifestFault α} (hf : ∀ v, Caught (f v)) :
    Caught (payloadItem payload name >>= f >>= fun _ => pure ()) :=
  caught_bind (caught_read hf) fun _ _ => caught_ok ()

theorem caught_assertBronzeManifestTypes (payload : JsonDict) :
    Caught (assertBronzeManifestTypes payload) := by
  rw [assertBronzeManifestTypes]
  refine caught_bind (caught_forM (fun _ => caught_passes caught_strValue) _) fun _ _ => ?_
  refine caught_bind (caught_forM (fun _ => caught_passes caught_intValue) _) fun _ _ => ?_
  refine caught_bind (caught_read caught_intValue) fun _ _ => ?_
  refine caught_bind (caught_forM (fun _ => caught_passes caught_strValue) _) fun _ _ => ?_
  refine caught_bind (caught_read caught_strValue) fun _ _ => ?_
  refine caught_bind (caught_demand rfl) fun _ _ => ?_
  refine caught_bind (caught_read caught_cursorFromManifestPayload) fun _ _ => ?_
  refine caught_bind (caught_read caught_cursorFromManifestPayload) fun _ _ => ?_
  refine caught_bind (caught_read caught_strValue) fun date _ => ?_
  exact caught_bind (caught_utcDatetimeFromManifest date) fun _ _ => caught_ok ()

theorem caught_assertIdentity (payload : JsonDict) (expectedObjectKey : String) :
    Caught (assertIdentity payload expectedObjectKey) := by
  rw [assertIdentity]
  refine caught_bind (caught_payloadItem _ _) fun _ _ => caught_bind (caught_demand rfl) fun _ _ => ?_
  refine caught_bind (caught_payloadItem _ _) fun _ _ => caught_bind (caught_demand rfl) fun _ _ => ?_
  exact caught_bind (caught_payloadItem _ _) fun _ _ => caught_demand rfl

/-- A `run_id` that is neither a text nor `null` has no `replace`. -/
def HasNoReplace (v : Json) : Prop := v ≠ .null ∧ ∀ s, v ≠ .str s

theorem caught_uuidValue {v : Json} (h : ¬ HasNoReplace v) : Caught (uuidValue v) := by
  cases v with
  | str s =>
    rw [uuidValue]
    cases uuidOf s with
    | none => exact caught_error rfl
    | some n => exact caught_ok n
  | null => exact caught_error rfl
  | _ => exact absurd ⟨by simp, by simp⟩ h

theorem uuidValue_escapes {v : Json} (h : HasNoReplace v) :
    ∃ message, uuidValue v = .error ⟨.attributeError, message⟩ := by
  cases v with
  | null => exact absurd rfl h.1
  | str s => exact absurd rfl (h.2 s)
  | _ => exact ⟨_, rfl⟩

theorem caught_assertContents {payload : JsonDict}
    (h : ∀ v, payload.lookup (points "run_id") = some v → ¬ HasNoReplace v) :
    Caught (assertContents payload) := by
  rw [assertContents]
  refine caught_bind (caught_bind (caught_payloadItem _ _) fun v hv => ?_) fun _ _ => ?_
  · exact caught_uuidValue (h v (payloadItem_eq_ok.1 hv))
  · exact caught_bind (caught_demand rfl) fun _ _ => caught_assertBronzeManifestTypes payload

theorem caught_loadsDict {depth : Nat} {data : List UInt8}
    (h : loads maxStrDigits depth data ≠ .error .recursion) : Caught (loadsDict depth data) := by
  rw [loadsDict]
  cases hloads : loads maxStrDigits depth data with
  | error fault =>
    cases fault with
    | recursion => exact absurd hloads h
    | malformed => exact caught_error rfl
    | digits => exact caught_error rfl
  | ok j =>
    cases j with
    | obj payload => exact caught_ok payload
    | _ => exact caught_error rfl

/-- The bytes whose parsing raises something else than `ValueError`: nested too deep, or a
manifest of the key with a `run_id` of another type. -/
def Escapes (depth : Nat) (data : List UInt8) (expectedObjectKey : String) : Prop :=
  loads maxStrDigits depth data = .error .recursion ∨
    ∃ payload v, loads maxStrDigits depth data = .ok (.obj payload) ∧
      HasIdentity payload expectedObjectKey ∧ payload.lookup (points "run_id") = some v ∧
      HasNoReplace v

theorem readManifest_escapes {depth : Nat} {data : List UInt8} {expectedObjectKey : String} :
    Escapes depth data expectedObjectKey ↔ ∃ fault,
      readManifest depth data expectedObjectKey = .error fault ∧ isCaught fault.cls = false := by
  constructor
  · rintro (hdeep | ⟨payload, v, hloads, hidentity, hv, hother⟩)
    · have hdict : loadsDict depth data =
          .error ⟨.recursionError, "maximum recursion depth exceeded"⟩ := by
        rw [loadsDict, hdeep]
      rw [readManifest, hdict]
      exact ⟨_, rfl, rfl⟩
    · -- the run is read after the identity, so only a manifest of the key gets as far
      obtain ⟨message, hmessage⟩ := uuidValue_escapes hother
      have hitem : payloadItem payload "run_id" = .ok v := payloadItem_eq_ok.2 hv
      rw [readManifest, loadsDict_eq_ok.2 hloads]
      show ∃ fault, (assertIdentity payload expectedObjectKey >>= fun _ =>
        assertContents payload >>= fun _ => pure payload) = .error fault ∧ _
      rw [assertIdentity_eq_ok.2 hidentity, assertContents, hitem]
      refine ⟨⟨.attributeError, message⟩, ?_, rfl⟩
      show ((uuidValue v >>= fun _ => _) >>= fun _ => pure payload) = _
      rw [hmessage]
      rfl
  · rintro ⟨fault, hfault, hescapes⟩
    by_contra hnot
    obtain ⟨hdeep, hother⟩ := not_or.1 hnot
    -- all other faults are of the classes the clause names
    have hcaught : Caught (readManifest depth data expectedObjectKey) := by
      rw [readManifest]
      refine caught_bind (caught_loadsDict hdeep) fun payload hpayload => ?_
      refine caught_bind (caught_assertIdentity _ _) fun _ hidentity => ?_
      refine caught_bind (caught_assertContents fun v hv hreplace => hother ?_) fun _ _ => caught_ok _
      exact ⟨payload, v, loadsDict_eq_ok.1 hpayload, assertIdentity_eq_ok.1 hidentity, hv, hreplace⟩
    rw [hcaught fault hfault] at hescapes
    cases hescapes

/-- One bracket more than the interpreter nests escapes, also where it is never closed. -/
theorem escapes_deep (depth : Nat) {rest : CodePoints} (hrest : ∀ n ∈ rest, n < 0x110000)
    (expectedObjectKey : String) :
    Escapes (depth + 1) (Lib.utf8 (List.replicate (depth + 2) 0x5B ++ rest)) expectedObjectKey :=
  .inl (loads_deep maxStrDigits depth hrest)

/-- `parse_bronze_manifest_payload` on every byte string: it accepts the manifests of the key,
and refuses all else with one `ValueError` but for the bytes of `Escapes`. -/
theorem parseBronzeManifestPayload_total (depth : Nat) (data : List UInt8) (expectedObjectKey : String) :
    (∀ payload, parseBronzeManifestPayload depth data expectedObjectKey = .ok payload ↔
      loads maxStrDigits depth data = .ok (.obj payload) ∧ IsManifest payload expectedObjectKey) ∧
    (∀ fault, parseBronzeManifestPayload depth data expectedObjectKey = .error fault →
      fault = valueFault "Bronze manifest is invalid" ∨ fault.cls ≠ .valueError) ∧
    ((∃ fault, parseBronzeManifestPayload depth data expectedObjectKey = .error fault ∧
      fault.cls ≠ .valueError) ↔ Escapes depth data expectedObjectKey) := by
  refine ⟨fun payload => parseBronzeManifestPayload_eq_ok, ?_, ?_⟩
  · intro fault h
    rw [parseBronzeManifestPayload] at h
    cases hread : readManifest depth data expectedObjectKey with
    | ok payload =>
      rw [hread] at h
      cases h
    | error found =>
      rw [hread] at h
      cases h
      -- the clause is the only place where the fault is exchanged
      by_cases hcaught : isCaught found.cls = true
      · -- every class the clause names gets the one message
        rw [if_pos hcaught]
        exact .inl rfl
      · rw [if_neg hcaught]
        refine .inr fun hvalue => hcaught ?_
        rw [hvalue]
        rfl
  · rw [readManifest_escapes, parseBronzeManifestPayload]
    cases readManifest depth data expectedObjectKey with
    | ok payload => exact iff_of_false (fun ⟨_, h, _⟩ => by cases h) fun ⟨_, h, _⟩ => by cases h
    | error found =>
      dsimp only
      constructor
      · rintro ⟨fault, h, hcls⟩
        refine ⟨found, rfl, ?_⟩
        by_contra hcaught
        rw [if_pos (by simpa using hcaught)] at h
        cases h
        exact hcls rfl
      · rintro ⟨fault, h, hcaught⟩
        cases h
        rw [if_neg (by rw [hcaught]; exact Bool.false_ne_true)]
        refine ⟨found, rfl, fun hvalue => ?_⟩
        rw [hvalue] at hcaught
        cases hcaught

/-! ## What is written -/

def CursorKey.json : CursorKey → Json
  | .text s => .str (points s)
  | .int n => .int n

def CursorKey.points : CursorKey → KeyPoints
  | .text s => .text (Lib.points s)
  | .int n => .int n

namespace CursorPosition

def timestampJson (c : CursorPosition) : Json :=
  match c.timestamp with
  | none => .null
  | some t => .str (Lib.points (isoformat t))

/-- `as_metadata_json`. -/
def members (c : CursorPosition) : JsonDict :=
  [(Lib.points "timestamp", c.timestampJson), (Lib.points "keys", .arr (c.keys.map CursorKey.json))]

/-- The cursor as it is read. -/
def points (c : CursorPosition) : CursorPoints :=
  ⟨c.timestamp, c.keys.map CursorKey.points, by rw [List.map_eq_nil_iff]; exact c.complete⟩

/-- Its timestamp is a `datetime`. -/
def Written (c : CursorPosition) : Prop := ∀ t, c.timestamp = some t → IsDatetime t

/-- Its integers have no more digits than the interpreter converts. -/
def Convertible (c : CursorPosition) : Prop :=
  ∀ n, CursorKey.int n ∈ c.keys → (writeNat n.natAbs).length ≤ maxStrDigits

end CursorPosition

/-- `json.dumps(…).encode("utf-8")`. -/
def dumpsBytes (value : Json) : Except Raised (List UInt8) := do
  let text ← dumpsText value
  match encodeUtf8 text with
  | some data => return data
  | none => .error ⟨.valueError, "surrogates not allowed"⟩

namespace BronzeManifest

/-- `as_dict`. -/
def asJson (m : BronzeManifest) : JsonDict :=
  [(points "manifest_version", .int manifestVersion), (points "schema_version", .int m.schemaVersion),
    (points "object_state", .str (points verifiedObjectState)),
    (points "batch_id", .str (points m.batchId)), (points "run_id", .str (uuidText m.runId)),
    (points "source_table", .str (points m.sourceTable)),
    (points "logical_date", .str (points (isoformat m.logicalDate))),
    (points "watermark_before", .obj m.watermarkBefore.members),
    (points "extract_upper_bound", .obj m.extractUpperBound.members),
    (points "object_key", .str (points m.objectKey)), (points "object_size", .int m.objectSize),
    (points "content_sha256", .str (points m.contentSha256)),
    (points "logical_hash", .str (points m.logicalHash)), (points "row_count", .int m.rowCount),
    (points "created_at", .str (points (isoformat m.createdAt)))]

/-- `to_bytes`. -/
def toBytes (m : BronzeManifest) : Except Raised (List UInt8) := dumpsBytes (.obj m.asJson)

/-- A manifest of a registered table. Its run is a UUID, its times are those of `datetime`,
and its integers have no more digits than the interpreter converts. -/
structure Written (m : BronzeManifest) : Prop where
  runId : m.runId < 2 ^ 128
  logicalDate : IsDatetime m.logicalDate
  watermarkBefore : m.watermarkBefore.Written
  extractUpperBound : m.extractUpperBound.Written
  watermarkKeys : m.watermarkBefore.Convertible
  boundKeys : m.extractUpperBound.Convertible
  table : ∃ config ∈ tableConfigs, m.sourceTable = config.sourceTable
  objectSize : (writeNat m.objectSize).length ≤ maxStrDigits
  rowCount : (writeNat m.rowCount).length ≤ maxStrDigits
  schemaVersion : (writeNat m.schemaVersion).length ≤ maxStrDigits

end BronzeManifest

theorem keyPoints_json (k : CursorKey) : keyPoints k.json = .ok k.points := by
  cases k <;> rfl

theorem forall₂_keyPoints (ks : List CursorKey) :
    List.Forall₂ (fun k key => keyPoints k = .ok key) (ks.map CursorKey.json) (ks.map CursorKey.points) := by
  induction ks with
  | nil => exact .nil
  | cons k ks ih => exact .cons (keyPoints_json k) ih

/-- Members in any order are the cursor they were written from. -/
theorem isCursor_of_lookup {c : CursorPosition} (hc : c.Written) {members : JsonDict}
    (hnamed : hasCursorKeys members = true)
    (htimestamp : members.lookup (points "timestamp") = some c.timestampJson)
    (hkeys : members.lookup (points "keys") = some (.arr (c.keys.map CursorKey.json))) :
    IsCursor members c.points := by
  refine ⟨hnamed, ⟨_, hkeys, forall₂_keyPoints c.keys⟩, ?_⟩
  rw [htimestamp, CursorPosition.timestampJson]
  cases htime : c.timestamp with
  | none => exact .inl ⟨rfl, htime⟩
  | some t => exact .inr ⟨_, t, rfl, fromisoformat_isoformat (hc t htime), htime⟩

theorem sortKeysItems_json (ks : List CursorKey) :
    sortKeysItems (ks.map CursorKey.json) = ks.map CursorKey.json := by
  induction ks with
  | nil => rfl
  | cons k ks ih =>
    have hone : sortKeys k.json = k.json := by cases k <;> rfl
    rw [List.map_cons, sortKeysItems, hone, ih]

/-- The keys stand before the timestamp in the bytes. -/
theorem sortKeys_members (c : CursorPosition) : sortKeys (.obj c.members) =
    .obj [(points "keys", .arr (c.keys.map CursorKey.json)), (points "timestamp", c.timestampJson)] := by
  have htime : sortKeys c.timestampJson = c.timestampJson := by
    rw [CursorPosition.timestampJson]
    cases c.timestamp <;> rfl
  rw [CursorPosition.members, sortKeys, sortKeysMembers, sortKeysMembers, sortKeysMembers, htime, sortKeys,
    sortKeysItems_json]
  rfl

theorem isCursor_members {c : CursorPosition} (hc : c.Written) : IsCursor c.members c.points :=
  isCursor_of_lookup hc rfl rfl rfl

theorem isCursor_sorted {c : CursorPosition} (hc : c.Written) :
    IsCursor [(points "keys", .arr (c.keys.map CursorKey.json)), (points "timestamp", c.timestampJson)]
      c.points :=
  isCursor_of_lookup hc rfl rfl rfl

theorem points_injective_cursor : Function.Injective CursorPosition.points := by
  intro c d h
  have hkey : Function.Injective CursorKey.points := by
    intro a b hab
    cases a with
    | text s =>
      cases b with
      | text t => rw [points_injective (KeyPoints.text.inj hab)]
      | int n => cases hab
    | int n =>
      cases b with
      | text t => cases hab
      | int m => rw [KeyPoints.int.inj hab]
  obtain ⟨htime, hkeys⟩ := CursorPoints.mk.inj h
  exact CursorPosition.ext htime (List.map_injective_iff.2 hkey hkeys)

/-- Both decoders give a cursor back from the JSON it was written as, and no two cursors are
written as equal JSON. -/
theorem cursor_decoders (localOffset : Timestamp → Int) {c : CursorPosition} (hc : c.Written) :
    cursorFromManifestPayload (.obj c.members) = .ok c.points ∧
      cursorFromMetadata localOffset c.members = .ok c.points ∧
      ∀ d : CursorPosition, d.Written → (Json.Same (.obj c.members) (.obj d.members) ↔ c = d) := by
  have hread : ∀ {c : CursorPosition}, c.Written →
      cursorFromManifestPayload (.obj c.members) = .ok c.points := fun hc =>
    cursorFromManifestPayload_of_isCursor (isCursor_members hc)
  refine ⟨hread hc, ?_, ?_⟩
  · have htimestamp : c.members.lookup (points "timestamp") = some c.timestampJson := rfl
    have hkeys : c.members.lookup (points "keys") = some (.arr (c.keys.map CursorKey.json)) := rfl
    rw [cursorFromMetadata, htimestamp, hkeys, CursorPosition.timestampJson]
    cases htime : c.timestamp with
    | none =>
      have hnone : c.keys = [] := c.complete.1 htime
      refine makeCursor_eq_ok.2 ⟨htime, ?_⟩
      show List.Forall₂ _ [] (c.keys.map CursorKey.points)
      rw [hnone]
      exact .nil
    | some t =>
      have hdatetime := hc t htime
      dsimp only
      rw [fromisoformat_isoformat hdatetime]
      simp only [Option.getD_some, sub_zero, if_pos hdatetime]
      exact makeCursor_eq_ok.2 ⟨htime, forall₂_keyPoints c.keys⟩
  · intro d hd
    constructor
    · intro h
      -- equal JSON is read as one cursor
      rw [Json.Same, sortKeys_members, sortKeys_members] at h
      have hcursor : ∀ {c : CursorPosition}, c.Written → cursorFromManifestPayload
          (.obj [(points "keys", .arr (c.keys.map CursorKey.json)), (points "timestamp", c.timestampJson)]) =
            .ok c.points := fun hc => cursorFromManifestPayload_of_isCursor (isCursor_sorted hc)
      have hleft := hcursor hc
      rw [h, hcursor hd] at hleft
      exact (points_injective_cursor (Except.ok.inj hleft)).symm
    · rintro rfl
      rfl

theorem plain_cursor {c : CursorPosition} (hc : c.Convertible) (depth : Nat) :
    (Json.obj c.members).Plain maxStrDigits (depth + 2) := by
  have hitems : ∀ ks : List CursorKey,
      (∀ n, CursorKey.int n ∈ ks → (writeNat n.natAbs).length ≤ maxStrDigits) →
        PlainItems maxStrDigits depth (ks.map CursorKey.json) := by
    intro ks
    induction ks with
    | nil => exact fun _ => trivial
    | cons k ks ih =>
      intro h
      refine ⟨?_, ih fun n hn => h n (List.mem_cons_of_mem _ hn)⟩
      cases k with
      | text s => simp only [CursorKey.json, Plain]
      | int n =>
        simp only [CursorKey.json, Plain]
        exact h n List.mem_cons_self
  have htime : c.timestampJson.Plain maxStrDigits (depth + 1) := by
    rw [CursorPosition.timestampJson]
    cases c.timestamp <;> simp only [Plain]
  have hnodup : (c.members.map (·.1)).Nodup := by
    show [points "timestamp", points "keys"].Nodup
    decide
  simp only [Plain]
  refine ⟨hnodup, ?_⟩
  simp only [CursorPosition.members, PlainMembers, Plain]
  exact ⟨htime, hitems c.keys hc, trivial⟩

theorem nodup_asJson (m : BronzeManifest) : (m.asJson.map (·.1)).Nodup := by
  show (["manifest_version", "schema_version", "object_state", "batch_id", "run_id", "source_table",
    "logical_date", "watermark_before", "extract_upper_bound", "object_key", "object_size",
    "content_sha256", "logical_hash", "row_count", "created_at"].map points).Nodup
  exact (List.nodup_map_iff points_injective).2 (by decide)

theorem plain_asJson {m : BronzeManifest} (hm : m.Written) (depth : Nat) :
    (Json.obj m.asJson).Plain maxStrDigits (depth + 3) := by
  have hversion : (writeNat (manifestVersion : Int).natAbs).length ≤ maxStrDigits := by decide
  simp only [Plain]
  refine ⟨nodup_asJson m, ?_⟩
  simp only [BronzeManifest.asJson, PlainMembers, Plain, Int.natAbs_natCast, true_and, and_true]
  refine ⟨hversion, hm.schemaVersion, ?_, ?_, hm.objectSize, hm.rowCount⟩
  · simpa only [Plain] using plain_cursor hm.watermarkKeys depth
  · simpa only [Plain] using plain_cursor hm.boundKeys depth

theorem isScalar_padHex {w n : Nat} : ∀ c ∈ padHex w n, IsScalar c := by
  intro c hc
  have hdigit := isHexDigit_padHex hc
  simp only [isHexDigit, isDigit, Bool.or_eq_true, Bool.and_eq_true, decide_eq_true_eq] at hdigit
  exact isScalar_of_lt (by omega)

theorem isText_uuidText (n : Nat) : IsText (uuidText n) := by
  have hdash : IsScalar 0x2D := isScalar_of_lt (by decide)
  simp only [uuidText]
  refine isText_append (isText_append (isText_append (isText_append isScalar_padHex ?_) ?_) ?_) ?_
  all_goals exact isText_cons hdash isScalar_padHex

theorem clean_cursor (c : CursorPosition) : Clean (.obj c.members) := by
  have hitems : ∀ ks : List CursorKey, CleanItems (ks.map CursorKey.json) := by
    intro ks
    induction ks with
    | nil => trivial
    | cons k ks ih =>
      refine ⟨?_, ih⟩
      cases k with
      | text s => exact isText_points s
      | int n => trivial
  have htime : Clean c.timestampJson := by
    rw [CursorPosition.timestampJson]
    cases c.timestamp with
    | none => trivial
    | some t => exact isText_points _
  exact ⟨isText_points _, htime, isText_points _, hitems c.keys, trivial⟩

theorem clean_asJson (m : BronzeManifest) : Clean (.obj m.asJson) := by
  refine cleanMembers_iff.2 fun e he => ?_
  simp only [BronzeManifest.asJson, List.mem_cons, List.not_mem_nil, or_false] at he
  rcases he with rfl | rfl | rfl | rfl | rfl | rfl | rfl | rfl | rfl | rfl | rfl | rfl | rfl | rfl | rfl
  all_goals refine ⟨isText_points _, ?_⟩
  all_goals first
    | exact isText_points _
    | exact isText_uuidText _
    | exact clean_cursor _
    | trivial

/-- The timestamps of a `ManifestPayload` as texts. -/
def TimestampText.text : TimestampText → CodePoints
  | .isoformat t => points (CommercePlatform.isoformat t)
  | .other s => points s

/-- A cursor of a `ManifestPayload` as JSON. -/
def CursorJson.members (j : CursorJson) : JsonDict :=
  [(points "timestamp", (j.timestamp.map fun t => Json.str t.text).getD .null),
    (points "keys", .arr (j.keys.map CursorKey.json))]

/-- The object that was read is the payload `reconcile_orphan` works on, field by field. -/
structure Represents (payload : JsonDict) (p : ManifestPayload) : Prop where
  texts : ∀ e ∈ [("batch_id", p.batchId), ("source_table", p.sourceTable), ("object_key", p.objectKey),
    ("content_sha256", p.contentSha256), ("logical_hash", p.logicalHash)],
    payload.lookup (points e.1) = some (.str (points e.2))
  counts : ∀ e ∈ [("object_size", p.objectSize), ("row_count", p.rowCount),
    ("schema_version", p.schemaVersion)], payload.lookup (points e.1) = some (.int (e.2 : Nat))
  runId : ∃ s, payload.lookup (points "run_id") = some (.str s) ∧ uuidOf s = some p.runId
  logicalDate : ∃ s, payload.lookup (points "logical_date") = some (.str s) ∧
    fromisoformat s = some (p.logicalDate, some 0)
  cursors : ∀ e ∈ [("watermark_before", p.watermarkBefore), ("extract_upper_bound", p.extractUpperBound)],
    ∃ v, payload.lookup (points e.1) = some v ∧ Json.Same v (.obj e.2.members)

theorem members_asMetadataJson (c : CursorPosition) : c.asMetadataJson.members = c.members := by
  rw [CursorJson.members, CursorPosition.members, CursorPosition.timestampJson,
    CursorPosition.asMetadataJson]
  cases c.timestamp <;> rfl

theorem isBlankText_points {s : String} (h : isBlank s = false) : isBlankText (points s) = false := by
  have hone : ∀ c : Char, isSpacePoint c.toNat = isSpace c := fun _ => by
    simp only [isSpacePoint, isSpace, isWideSpace, Bool.or_assoc]
  rw [← h, isBlankText, isBlank, points, List.all_map]
  exact congrArg (List.all s.toList) (funext hone)

theorem isSha256Text_points {s : String} (h : IsSha256 s) : isSha256Text (points s) = true := by
  rw [isSha256Text, Bool.and_eq_true, decide_eq_true_eq, points, List.length_map, String.length_toList,
    List.all_map]
  refine ⟨h.1, List.all_eq_true.2 fun c hc => ?_⟩
  have hdigit := List.all_eq_true.1 h.2 c hc
  rw [List.contains_iff_mem] at hdigit
  show ((points "0123456789abcdef").contains c.toNat) = true
  rw [List.contains_iff_mem]
  exact List.mem_map_of_mem hdigit

theorem isBlankText_of_mem {text : CodePoints} {c : Nat} (h : c ∈ text) (hc : isSpacePoint c = false) :
    isBlankText text = false := by
  rw [isBlankText, List.all_eq_false]
  exact ⟨c, h, by rw [hc]; exact Bool.false_ne_true⟩

theorem isBlankText_sha256 {s : String} (h : IsSha256 s) : isBlankText (points s) = false := by
  have hsha := isSha256Text_points h
  rw [isSha256Text, Bool.and_eq_true, decide_eq_true_eq] at hsha
  cases htext : points s with
  | nil =>
    rw [htext] at hsha
    exact absurd hsha.1 (by decide)
  | cons c text =>
    rw [htext] at hsha
    have hdigit := List.all_eq_true.1 hsha.2 c List.mem_cons_self
    rw [List.contains_iff_mem] at hdigit
    have hspace : ∀ d ∈ points "0123456789abcdef", isSpacePoint d = false := by decide
    exact isBlankText_of_mem List.mem_cons_self (hspace c hdigit)

theorem isBlankText_isoformat (t : Timestamp) : isBlankText (points (isoformat t)) = false := by
  refine isBlankText_of_mem (c := 0x54) ?_ (by decide)
  rw [points_isoformat]
  exact List.mem_append_right _ List.mem_cons_self

theorem dumpsBytes_eq {depth : Nat} {ms : JsonDict} (h : (Json.obj ms).Plain maxStrDigits depth)
    (hclean : Clean (.obj ms)) :
    dumpsBytes (.obj ms) = .ok (Lib.utf8 (encode (sortKeys (.obj ms)))) := by
  have htext : dumpsText (.obj ms) = .ok (encode (sortKeys (.obj ms))) := by
    rw [dumpsText, (dumps_plain h).1]
  rw [dumpsBytes, htext, except_bind_eq_ok]
  exact ⟨_, rfl, by rw [encodeUtf8_encode hclean]; rfl⟩

/-- A member is found under its key, sorted inside. -/
theorem lookup_sorted {m : BronzeManifest} {name : String} {v : Json}
    (h : (points name, v) ∈ m.asJson) :
    (byKey (sortKeysMembers m.asJson)).lookup (points name) = some (sortKeys v) :=
  lookup_byKey (nodup_asJson m) ((lookup_eq_some_iff (nodup_asJson m)).2 h)

section Written

variable {m : BronzeManifest}

theorem lookup_text {name : String} {s : CodePoints} (h : (points name, Json.str s) ∈ m.asJson) :
    (byKey (sortKeysMembers m.asJson)).lookup (points name) = some (.str s) := lookup_sorted h

theorem lookup_int {name : String} {n : Int} (h : (points name, Json.int n) ∈ m.asJson) :
    (byKey (sortKeysMembers m.asJson)).lookup (points name) = some (.int n) := lookup_sorted h

theorem lookup_cursor {name : String} {c : CursorPosition}
    (h : (points name, Json.obj c.members) ∈ m.asJson) :
    (byKey (sortKeysMembers m.asJson)).lookup (points name) = some (.obj
      [(points "keys", .arr (c.keys.map CursorKey.json)), (points "timestamp", c.timestampJson)]) := by
  rw [← sortKeys_members]
  exact lookup_sorted h

/-- The texts of a manifest. -/
theorem text_mem : ∀ e ∈ [("object_state", verifiedObjectState), ("batch_id", m.batchId),
    ("source_table", m.sourceTable), ("logical_date", isoformat m.logicalDate),
    ("object_key", m.objectKey), ("content_sha256", m.contentSha256), ("logical_hash", m.logicalHash)],
    (points e.1, Json.str (points e.2)) ∈ m.asJson := by
  intro e he
  simp only [List.mem_cons, List.not_mem_nil, or_false] at he
  rcases he with rfl | rfl | rfl | rfl | rfl | rfl | rfl
  all_goals simp only [BronzeManifest.asJson, List.mem_cons, true_or, or_true]

/-- Its counts. -/
theorem count_mem : ∀ e ∈ [("object_size", m.objectSize), ("row_count", m.rowCount),
    ("schema_version", m.schemaVersion)], (points e.1, Json.int (e.2 : Nat)) ∈ m.asJson := by
  intro e he
  simp only [List.mem_cons, List.not_mem_nil, or_false] at he
  rcases he with rfl | rfl | rfl
  all_goals simp only [BronzeManifest.asJson, List.mem_cons, true_or, or_true]

/-- And its cursors. -/
theorem cursor_mem : ∀ e ∈ [("watermark_before", m.watermarkBefore),
    ("extract_upper_bound", m.extractUpperBound)], (points e.1, Json.obj e.2.members) ∈ m.asJson := by
  intro e he
  simp only [List.mem_cons, List.not_mem_nil, or_false] at he
  rcases he with rfl | rfl
  all_goals simp only [BronzeManifest.asJson, List.mem_cons, true_or, or_true]

theorem runId_mem : (points "run_id", Json.str (uuidText m.runId)) ∈ m.asJson := by
  simp only [BronzeManifest.asJson, List.mem_cons, true_or, or_true]

theorem version_mem : (points "manifest_version", Json.int manifestVersion) ∈ m.asJson := by
  simp only [BronzeManifest.asJson, List.mem_cons, true_or]

/-- The texts that must not be blank are not. -/
theorem text_notBlank : ∀ name ∈ textFields, ∃ s, (points name, Json.str s) ∈ m.asJson ∧
    isBlankText s = false := by
  intro name hname
  simp only [textFields, List.mem_cons, List.not_mem_nil, or_false] at hname
  rcases hname with rfl | rfl | rfl | rfl | rfl | rfl
  · exact ⟨_, text_mem ("batch_id", m.batchId) (by simp), isBlankText_points m.batchNamed⟩
  · exact ⟨_, text_mem ("source_table", m.sourceTable) (by simp), isBlankText_points m.tableNamed⟩
  · exact ⟨_, text_mem ("logical_date", isoformat m.logicalDate) (by simp),
      isBlankText_isoformat m.logicalDate⟩
  · exact ⟨_, text_mem ("object_key", m.objectKey) (by simp), isBlankText_points m.objectNamed⟩
  · exact ⟨_, text_mem ("content_sha256", m.contentSha256) (by simp),
      isBlankText_sha256 m.contentHashed⟩
  · exact ⟨_, text_mem ("logical_hash", m.logicalHash) (by simp), isBlankText_sha256 m.logicalHashed⟩

/-- What is written keeps the contract. -/
theorem isManifest_asJson (hm : m.Written) :
    IsManifest (byKey (sortKeysMembers m.asJson)) m.objectKey where
  -- each part of the contract, from the pair that was written for it
  identity :=
    ⟨⟨_, lookup_int version_mem, rfl⟩,
      lookup_text (text_mem ("object_state", verifiedObjectState) (by simp)),
      lookup_text (text_mem ("object_key", m.objectKey) (by simp))⟩
  runId := ⟨_, _, lookup_text runId_mem, uuidOf_uuidText hm.runId⟩
  texts := fun name hname => by
    obtain ⟨s, hs, hblank⟩ := text_notBlank (m := m) name hname
    exact ⟨s, lookup_text hs, hblank⟩
  counts := fun name hname => by
    simp only [List.mem_cons, List.not_mem_nil, or_false] at hname
    rcases hname with rfl | rfl
    · exact ⟨_, lookup_int (count_mem ("object_size", m.objectSize) (by simp)), Int.natCast_nonneg _⟩
    · exact ⟨_, lookup_int (count_mem ("row_count", m.rowCount) (by simp)), Int.natCast_nonneg _⟩
  schemaVersion := ⟨_, lookup_int (count_mem ("schema_version", m.schemaVersion) (by simp)),
    Int.natCast_pos.2 m.versioned⟩
  hashes := fun name hname => by
    simp only [List.mem_cons, List.not_mem_nil, or_false] at hname
    rcases hname with rfl | rfl
    · exact ⟨_, lookup_text (text_mem ("content_sha256", m.contentSha256) (by simp)),
        isSha256Text_points m.contentHashed⟩
    · exact ⟨_, lookup_text (text_mem ("logical_hash", m.logicalHash) (by simp)),
        isSha256Text_points m.logicalHashed⟩
  table := by
    obtain ⟨config, hconfig, htable⟩ := hm.table
    refine ⟨config, hconfig, ?_⟩
    rw [← htable]
    exact lookup_text (text_mem ("source_table", m.sourceTable) (by simp))
  cursors := fun name hname => by
    simp only [List.mem_cons, List.not_mem_nil, or_false] at hname
    rcases hname with rfl | rfl
    · exact ⟨_, _, lookup_cursor (cursor_mem ("watermark_before", m.watermarkBefore) (by simp)),
        isCursor_sorted hm.watermarkBefore⟩
    · exact ⟨_, _, lookup_cursor (cursor_mem ("extract_upper_bound", m.extractUpperBound) (by simp)),
        isCursor_sorted hm.extractUpperBound⟩
  logicalDate :=
    ⟨_, _, lookup_text (text_mem ("logical_date", isoformat m.logicalDate) (by simp)),
      fromisoformat_isoformat hm.logicalDate⟩

theorem represents_asJson (hm : m.Written) :
    Represents (byKey (sortKeysMembers m.asJson)) m.asDict where
  texts := fun e he => by
    refine lookup_text (text_mem e ?_)
    simp only [List.mem_cons, List.not_mem_nil, or_false] at he ⊢
    rcases he with rfl | rfl | rfl | rfl | rfl
    all_goals simp only [BronzeManifest.asDict, true_or, or_true]
  counts := fun e he => lookup_int (count_mem e he)
  runId := ⟨_, lookup_text runId_mem, uuidOf_uuidText hm.runId⟩
  logicalDate :=
    ⟨_, lookup_text (text_mem ("logical_date", isoformat m.logicalDate) (by simp)),
      fromisoformat_isoformat hm.logicalDate⟩
  cursors := fun e he => by
    have hone : ∀ {name : String} {c : CursorPosition}, (points name, Json.obj c.members) ∈ m.asJson →
        ∃ v, (byKey (sortKeysMembers m.asJson)).lookup (points name) = some v ∧
          Json.Same v (.obj c.asMetadataJson.members) := fun {name c} hc => by
      refine ⟨_, lookup_sorted hc, ?_⟩
      rw [members_asMetadataJson]
      exact same_sortKeys _
    simp only [List.mem_cons, List.not_mem_nil, or_false] at he
    rcases he with rfl | rfl
    · exact hone (cursor_mem ("watermark_before", m.watermarkBefore) (by simp))
    · exact hone (cursor_mem ("extract_upper_bound", m.extractUpperBound) (by simp))

/-- `to_bytes` and the parser: what is read is what was written, in another order of the
members. -/
theorem parse_toBytes (hm : m.Written) {depth : Nat} (hdepth : 3 ≤ depth) :
    ∃ data payload, m.toBytes = .ok data ∧
      parseBronzeManifestPayload depth data m.objectKey = .ok payload ∧
      Json.Same (.obj payload) (.obj m.asJson) ∧ Represents payload m.asDict ∧
      (payloadItem payload "watermark_before" >>= cursorFromManifestPayload) =
        .ok m.watermarkBefore.points ∧
      (payloadItem payload "extract_upper_bound" >>= cursorFromManifestPayload) =
        .ok m.extractUpperBound.points := by
  obtain ⟨nested, rfl⟩ := Nat.exists_eq_add_of_le' hdepth
  have hplain := plain_asJson hm nested
  have hclean := clean_asJson m
  have hsorted : ∀ ms : JsonDict, sortKeys (.obj ms) = .obj (byKey (sortKeysMembers ms)) := fun ms => by
    rw [sortKeys]
  -- the bytes decode to the manifest's members in the order of their keys
  have hloads := loads_utf8 hplain hclean
  rw [hsorted] at hloads
  have hsame := same_sortKeys (.obj m.asJson)
  rw [hsorted] at hsame
  -- a cursor is read back whatever the order of its members
  have hcursor : ∀ {name : String} {c : CursorPosition}, c.Written →
      (points name, Json.obj c.members) ∈ m.asJson →
        (payloadItem (byKey (sortKeysMembers m.asJson)) name >>= cursorFromManifestPayload) =
          .ok c.points := fun hc hmem =>
    read_eq_ok.2 ⟨_, lookup_cursor hmem, cursorFromManifestPayload_of_isCursor (isCursor_sorted hc)⟩
  have hbytes : m.toBytes = .ok (Lib.utf8 (encode (.obj (byKey (sortKeysMembers m.asJson))))) := by
    rw [BronzeManifest.toBytes, dumpsBytes_eq hplain hclean, hsorted]
  exact ⟨_, _, hbytes, parseBronzeManifestPayload_eq_ok.2 ⟨hloads, isManifest_asJson hm⟩, hsame,
    represents_asJson hm,
    hcursor hm.watermarkBefore (cursor_mem ("watermark_before", m.watermarkBefore) (by simp)),
    hcursor hm.extractUpperBound (cursor_mem ("extract_upper_bound", m.extractUpperBound) (by simp))⟩

end Written

theorem bronzeSchemaVersion_pos : 0 < bronzeSchemaVersion := by decide

theorem sellersBatch_named : isBlank "d__20240102T000000Z" = false := by decide

theorem sellersName_named : isBlank "sellers" = false := by decide

theorem sellersObject_named : isBlank "bronze/sellers/data.parquet" = false := by decide

theorem sellersContent_hashed :
    IsSha256 "4bf5122f344554c53bde2ebb8cd2b7e3d1600ad631c385a5d7cce23c7785459a" := by decide

theorem sellersRows_hashed :
    IsSha256 "81feffb186211a2608584fef29a508a9491e6b15c148481b4827b2101f1262cd" := by decide

def sellersUpperBound : CursorPosition := .of 86400000000 (.text "s-1")

def sellersManifest : BronzeManifest where
  batchId := "d__20240102T000000Z"
  runId := 1
  sourceTable := "sellers"
  logicalDate := 1704153600000000
  watermarkBefore := .initial
  extractUpperBound := sellersUpperBound
  objectKey := "bronze/sellers/data.parquet"
  objectSize := 2048
  contentSha256 := "4bf5122f344554c53bde2ebb8cd2b7e3d1600ad631c385a5d7cce23c7785459a"
  logicalHash := "81feffb186211a2608584fef29a508a9491e6b15c148481b4827b2101f1262cd"
  rowCount := 1
  createdAt := 1704153600000000
  schemaVersion := bronzeSchemaVersion
  batchNamed := sellersBatch_named
  tableNamed := sellersName_named
  objectNamed := sellersObject_named
  versioned := bronzeSchemaVersion_pos
  contentHashed := sellersContent_hashed
  logicalHashed := sellersRows_hashed

theorem written_initial : CursorPosition.initial.Written := fun _ h => by cases h

theorem written_sellersUpperBound : sellersUpperBound.Written := fun t h => by
  cases h
  decide

theorem convertible_sellersUpperBound : sellersUpperBound.Convertible := fun n h => by
  cases h with
  | tail _ h => cases h

theorem cursor_decoders_sellers :
    cursorFromManifestPayload (.obj sellersUpperBound.members) = .ok sellersUpperBound.points ∧
      cursorFromMetadata (fun _ => 0) sellersUpperBound.members = .ok sellersUpperBound.points ∧
      ¬ Json.Same (.obj sellersUpperBound.members) (.obj CursorPosition.initial.members) := by
  obtain ⟨hmanifest, hmetadata, hsame⟩ := cursor_decoders (fun _ => 0) written_sellersUpperBound
  refine ⟨hmanifest, hmetadata, fun h => ?_⟩
  have heq := (hsame _ written_initial).1 h
  exact absurd (congrArg CursorPosition.timestamp heq) (by decide)

theorem written_sellersManifest : sellersManifest.Written where
  runId := by
    show 1 < 2 ^ 128
    norm_num
  logicalDate := by decide
  watermarkBefore := written_initial
  extractUpperBound := written_sellersUpperBound
  watermarkKeys := fun _ h => by cases h
  boundKeys := convertible_sellersUpperBound
  table := ⟨sellersTable, by simp [tableConfigs], rfl⟩
  objectSize := by decide
  rowCount := by decide
  schemaVersion := by decide

theorem parse_toBytes_sellers : ∃ data payload, sellersManifest.toBytes = .ok data ∧
    parseBronzeManifestPayload 3 data "bronze/sellers/data.parquet" = .ok payload ∧
    payload.lookup (points "row_count") = some (.int 1) := by
  obtain ⟨data, payload, hbytes, hparse, -, hpayload, -⟩ :=
    parse_toBytes written_sellersManifest (Nat.le_refl 3)
  exact ⟨data, payload, hbytes, hparse, hpayload.counts ("row_count", 1) (by decide)⟩

end CommercePlatform
