import CommercePlatform.Extraction.SourceValue
import CommercePlatform.Lib.OrderedCode
/-!
# The order of the database and the order of the code

The rows of a page come in the order of the database: `ORDER BY "updated_at", key` with
`COLLATE "C"` on the text columns. The position a page ends at is compared in the code,
as a `CursorPosition` of normalised values: a text stays a text, a UUID becomes the text
it prints. Keyset pagination is exact only where the two orders are one, and nothing in
the source says so; this file does.

PostgreSQL compares a text under `COLLATE "C"` by its bytes, in UTF-8, and a UUID by its
sixteen bytes. Python compares two strings by their code points. The bridge is
`Lib.OrderedCode`: a writing that sends each symbol to a word such that no word begins
another and the words are in the order of their symbols keeps the lexicographic order of
lists of symbols. Two writings of this development are of that kind:

- the octets of a character (`utf8Octets_ordered`): the first octet decides how many
  follow, and a character of more octets has the greater code point, which makes
  `utf8_strictMono`;
- the two hexadecimal digits of a byte (`hexPair_ordered`), which with the dashes in
  fixed places make `Uuid.text_lt`.

`SqlCursor config` is the cursor of a row as the columns of a table hold it, with the
types of the table's own key columns, so two cursors of one table are always comparable.
`SqlCursor.normalized` is the `CursorPosition` the code makes of it. The main result is
`normalized_strictMono`: for every table the code orders the cursors of its rows as the
database does. `Extraction.Paging` needs nothing else of the database's order.

A UUID that the code reads from a stored cursor would be compared as whatever text is
stored there. The texts `Uuid.text` prints are the canonical lower-case ones, which is
what `str(uuid)` prints.
-/

namespace CommercePlatform

open Lib

/-- The bytes of a character with code point `v`: one below `0x80`, two below `0x800`, three
below `0x10000` and four from there on. -/
def octetsOf (v : Nat) : List Nat :=
  if v ≤ 0x7f then [v]
  else if v ≤ 0x7ff then [v / 64 % 0x20 + 0xc0, v % 0x40 + 0x80]
  else if v ≤ 0xffff then [v / 4096 % 0x10 + 0xe0, v / 64 % 0x40 + 0x80, v % 0x40 + 0x80]
  else [v / 262144 % 0x08 + 0xf0, v / 4096 % 0x40 + 0x80, v / 64 % 0x40 + 0x80, v % 0x40 + 0x80]

/-- The bytes of a character. -/
def utf8Octets (c : Char) : List Nat := (String.utf8EncodeChar c).map UInt8.toNat

theorem utf8Octets_eq (c : Char) : utf8Octets c = octetsOf c.val.toNat := by
  have hof : ∀ k, k < 256 → (UInt8.ofNat k).toNat = k := fun k hk => UInt8.toNat_ofNat_of_lt hk
  unfold utf8Octets String.utf8EncodeChar octetsOf
  generalize c.val.toNat = v
  dsimp only
  split_ifs <;> simp only [List.map_cons, List.map_nil] <;> repeat rw [hof _ (by omega)]

theorem octetsOf_below {m n : Nat} (h : m < n) (hn : n < 0x110000) :
    Below (octetsOf m) (octetsOf n) := by
  -- each byte is the next one's quotient by 64
  have h4096 : ∀ v, v / 4096 = v / 64 / 64 := fun v => by omega
  have h262144 : ∀ v, v / 262144 = v / 64 / 64 / 64 := fun v => by omega
  unfold octetsOf
  split_ifs <;> simp only [Below, h4096, h262144] <;> omega

theorem utf8Octets_ordered : OrderedCode utf8Octets := by
  intro c d h
  have hd : d.val.toNat < 0x110000 := by
    rcases d.valid with h | h
    · exact h.trans (by decide)
    · exact h.2
  rw [utf8Octets_eq, utf8Octets_eq]
  exact octetsOf_below h hd

theorem utf8Octets_ne_nil (c : Char) : utf8Octets c ≠ [] := by
  unfold utf8Octets
  simp [String.utf8EncodeChar_ne_nil]

/-- The bytes of a text. -/
def utf8 (s : String) : List Nat := s.toList.flatMap utf8Octets

/-- The order of the bytes is the order of the code points: `COLLATE "C"` compares two texts as
Python compares the two strings. -/
theorem utf8_strictMono : StrictMono utf8 := by
  intro s t h
  exact utf8Octets_ordered.strictMono utf8Octets_ne_nil (String.lt_iff_toList_lt.1 h)

theorem hexPair_ordered : OrderedCode hexPair := by
  have hdigit : ∀ i j : Fin 16, i < j → Nat.digitChar i < Nat.digitChar j := by decide
  intro a b h
  have ha := a.isLt
  have hb := b.isLt
  show _ ∨ _ ∧ (_ ∨ _ ∧ False)
  rcases lt_or_eq_of_le (Nat.div_le_div_right (c := 16) (Nat.le_of_lt h)) with hhigh | hhigh
  · exact .inl (hdigit ⟨a / 16, by omega⟩ ⟨b / 16, by omega⟩ hhigh)
  · refine .inr ⟨by rw [hhigh], .inl ?_⟩
    have hlow : (a : Nat) % 16 < b % 16 := by
      have : (a : Nat) < b := h
      omega
    exact hdigit ⟨a % 16, by omega⟩ ⟨b % 16, by omega⟩ hlow

theorem dashed_below (groups : List Nat) : ∀ {bs cs : List (Fin 256)}, Below bs cs →
    Below (dashed groups bs) (dashed groups cs) := by
  induction groups with
  | nil => exact fun h => hexPair_ordered.below h
  | cons n groups ih =>
    intro bs cs h
    rw [dashed, dashed]
    rcases h.split n with hfront | ⟨hfront, hback⟩
    · exact (hexPair_ordered.below hfront).append _ _
    · rw [hfront]
      exact Below.append_left _ (.inr ⟨rfl, ih hback⟩)

/-- Texts of UUIDs compare as their bytes: the dashes stand at the same places in every text, and
between them two digits a byte. -/
theorem Uuid.text_lt {u v : Uuid} (h : u.octets < v.octets) : u.text < v.text := by
  rw [String.lt_iff_toList_lt, Uuid.text, Uuid.text, String.toList_ofList, String.toList_ofList]
  exact (dashed_below _ (Below.of_lt (by rw [u.sized, v.sized]) h)).lt

/-- So different UUIDs have different texts. -/
theorem Uuid.text_injective : Function.Injective Uuid.text := by
  intro u v h
  have hoctets : u.octets = v.octets := by
    rcases lt_trichotomy u.octets v.octets with hlt | heq | hlt
    · exact absurd h (ne_of_lt (Uuid.text_lt hlt))
    · exact heq
    · exact absurd h.symm (ne_of_lt (Uuid.text_lt hlt))
  cases u
  cases v
  cases hoctets
  rfl

/-! ## Keys and cursors -/

/-- The types of key columns. -/
inductive KeyType where
  | text
  | int
  | uuid
deriving DecidableEq, Repr

/-- The type of a column that may be part of a key. -/
def SourceColumn.keyType (column : SourceColumn) : Option KeyType :=
  match column.type with
  | .string => some (if column.postgresUuid then .uuid else .text)
  | .int32 => if column.postgresUuid then none else some .int
  | _ => none

/-- `columns[name]`. -/
def TableConfig.column (config : TableConfig) (name : String) : Option SourceColumn :=
  config.sourceColumns.find? fun column => column.name = name

/-- The types of the key columns, in order. -/
def TableConfig.keyTypes (config : TableConfig) : List (Option KeyType) :=
  config.cursorKeyColumns.map fun name => (config.column name).bind SourceColumn.keyType

/-- A value of a key column. -/
inductive SqlKey where
  | text (value : String)
  | int (value : Int)
  | uuid (value : Uuid)
deriving DecidableEq

namespace SqlKey

def type : SqlKey → KeyType
  | text _ => .text
  | int _ => .int
  | uuid _ => .uuid

/-- What the driver returns for it. -/
def value : SqlKey → SourceValue
  | text s => .text s
  | int n => .int n
  | uuid u => .uuid u

/-- What `_cursor_key_values` makes of it: `str` of a UUID, and the value itself otherwise. -/
def normalized : SqlKey → CursorKey
  | text s => .text s
  | int n => .int n
  | uuid u => .text u.text

/-- A key in the order of the database, as a value of one linear order for every type: an integer
by itself, a text and a UUID by their bytes. -/
def rank : SqlKey → List Nat ⊕ₗ (Int ⊕ₗ List (Fin 256))
  | text s => Sum.inlₗ (utf8 s)
  | int n => Sum.inrₗ (Sum.inlₗ n)
  | uuid u => Sum.inrₗ (Sum.inrₗ u.octets)

theorem rank_injective : Function.Injective rank := by
  intro k l h
  cases k with
  | text s =>
    cases l with
    | text t => rw [utf8_strictMono.injective (Sum.inl.inj h)]
    | int n => cases h
    | uuid v => cases h
  | int m =>
    cases l with
    | text t => cases h
    | int n =>
      cases h
      rfl
    | uuid v => cases h
  | uuid u =>
    cases l with
    | text t => cases h
    | int n => cases h
    | uuid v =>
      obtain ⟨bs, hu⟩ := u
      obtain ⟨cs, hv⟩ := v
      cases h
      rfl

/-- Values of one column: the database and the code order them alike. One case per type of
column; where the code compares another value than the database, the two are ordered codes of
each other. -/
theorem normalized_lt {k l : SqlKey} (htype : k.type = l.type) (h : k.rank < l.rank) :
    k.normalized.rank < l.normalized.rank := by
  cases k with
  | text s =>
    cases l with
    | text t =>
      have hst : utf8 s < utf8 t := by simpa [rank] using h
      simpa [normalized, CursorKey.rank] using utf8_strictMono.lt_iff_lt.1 hst
    | int n => cases htype
    | uuid v => cases htype
  | int m =>
    cases l with
    | text t => cases htype
    | int n =>
      have hmn : m < n := by simpa [rank] using h
      simpa [normalized, CursorKey.rank] using hmn
    | uuid v => cases htype
  | uuid u =>
    cases l with
    | text t => cases htype
    | int n => cases htype
    | uuid v =>
      have huv : u.octets < v.octets := by simpa [rank] using h
      simpa [normalized, CursorKey.rank] using Uuid.text_lt huv

/-- The same for the keys of several columns, compared left to right. -/
theorem normalized_keys_lt : ∀ {ks ls : List SqlKey}, ks.map type = ls.map type →
    ks.map rank < ls.map rank →
    (ks.map normalized).map CursorKey.rank < (ls.map normalized).map CursorKey.rank
  | [], [], _, h => absurd h (by simp)
  | k :: ks, l :: ls, htypes, h => by
    obtain ⟨htype, htypes⟩ := List.cons.inj htypes
    simp only [List.map_cons, List.cons_lt_cons_iff] at h ⊢
    rcases h with h | ⟨h, hrest⟩
    · exact .inl (normalized_lt htype h)
    · rw [rank_injective h]
      exact .inr ⟨rfl, normalized_keys_lt htypes hrest⟩

end SqlKey

/-- The cursor columns of a row: a timestamp and a key of the types of the table. -/
structure SqlCursor (config : TableConfig) where
  timestamp : Timestamp
  keys : List SqlKey
  typed : keys.map (fun k => some k.type) = config.keyTypes

namespace SqlCursor

variable {config : TableConfig}

/-- A cursor in the order of the row comparison `(updated_at, key…)`: the timestamp first, then
the keys from left to right. -/
def rank (c : SqlCursor config) : Int ×ₗ List (List Nat ⊕ₗ (Int ⊕ₗ List (Fin 256))) :=
  toLex (c.timestamp, c.keys.map SqlKey.rank)

theorem rank_injective : Function.Injective (@rank config) := by
  intro c d h
  obtain ⟨t, ks, hc⟩ := c
  obtain ⟨u, ls, hd⟩ := d
  obtain ⟨ht, hk⟩ := Prod.mk.inj (toLex_inj.1 h)
  obtain rfl : t = u := ht
  obtain rfl : ks = ls := List.map_injective_iff.2 SqlKey.rank_injective hk
  rfl

instance : LinearOrder (SqlCursor config) := LinearOrder.lift' rank rank_injective

theorem keys_ne_nil (c : SqlCursor config) : c.keys ≠ [] := by
  intro h
  have htyped := c.typed
  rw [h, TableConfig.keyTypes, List.map_nil, eq_comm, List.map_eq_nil_iff,
    ← config.cursorIsKey] at htyped
  exact config.keyed htyped

/-- The `CursorPosition` of a row. -/
def position (c : SqlCursor config) : CursorPosition :=
  ⟨some c.timestamp, c.keys.map SqlKey.normalized, by simp [c.keys_ne_nil]⟩

/-- The `CursorPosition` of a watermark, which may be the initial one. -/
def normalized : WithBot (SqlCursor config) → CursorPosition
  | none => .initial
  | some c => c.position

/-- The code orders the cursors of a table as the database does, the initial position of a
watermark below all of them. -/
theorem normalized_strictMono : StrictMono (@normalized config) := by
  intro c d h
  cases d with
  | bot => exact absurd h not_lt_bot
  | coe d =>
    cases c with
    | bot => exact CursorPosition.initial_lt (t := d.timestamp) rfl
    | coe c =>
      have hcd : c < d := WithBot.coe_lt_coe.1 h
      have hrank : c.rank < d.rank := hcd
      show c.position < d.position
      rw [CursorPosition.lt_iff, CursorPosition.rank_some (t := c.timestamp) rfl,
        CursorPosition.rank_some (t := d.timestamp) rfl, WithBot.coe_lt_coe,
        Prod.Lex.toLex_lt_toLex]
      rcases Prod.Lex.toLex_lt_toLex.1 hrank with ht | ⟨ht, hk⟩
      · exact .inl ht
      · refine .inr ⟨ht, SqlKey.normalized_keys_lt ?_ hk⟩
        have htypes : (c.keys.map SqlKey.type).map some = (d.keys.map SqlKey.type).map some := by
          rw [List.map_map, List.map_map]
          exact c.typed.trans d.typed.symm
        exact List.map_injective_iff.2 (Option.some_injective _) htypes

end SqlCursor

end CommercePlatform
