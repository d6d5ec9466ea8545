import CommercePlatform.Common.Raised
import Mathlib
/-!
# Composite cursors

`CursorPosition` of `src/ingestion/control/metadata.py`: the timestamp and the complete
primary key of a row, or the initial cursor that lies below every row. The rule of
`__post_init__` (no keys without a timestamp, no timestamp without keys) is a field, so
an invalid cursor cannot be built.

A timestamp is its count of microseconds since the epoch, in UTC: every datetime the
code accepts is normalised to UTC (`_assert_utc`).

Two orders appear. `cursorIsEarlier` is the comparison the code runs, on Python tuples,
where a text key against an integer key raises `TypeError`. The `LinearOrder` instance
is the order it computes wherever it returns: initial cursor first, then timestamp, then
keys left to right. It is defined through `rank`, an embedding into a product of linear
orders, so that all of its laws are inherited; the bridge between the two is
`cursorIsEarlier_eq`, an induction on the keys in which the exceptional case is excluded
by the hypothesis that the comparison returned.

Mirroring notes vs the source:
- Keys are texts and integers; `bool` is refused by `__post_init__` and is no key here.
- A text key compares by its code points, which is how Python compares `str` and how
  `CursorKey` is ranked.
- The database holds a cursor as a timestamp column and a JSON array; the check
  `watermarks_initial_cursor_check` is the same rule as that of `__post_init__`.
-/

namespace CommercePlatform

/-- A UTC datetime, in microseconds since the epoch. -/
abbrev Timestamp := Int

/-- One primary-key component of a cursor. -/
inductive CursorKey where
  | text (value : String)
  | int (value : Int)
deriving DecidableEq, Repr

/-- A stored composite cursor: a timestamp with the keys of a row, or neither. -/
structure CursorPosition where
  timestamp : Option Timestamp
  keys : List CursorKey
  complete : timestamp = none ↔ keys = []
deriving DecidableEq

namespace CursorPosition

/-- `CursorPosition(None)`. -/
def initial : CursorPosition := ⟨none, [], by simp⟩

/-- The cursor of a row with a single-column key. -/
def of (timestamp : Timestamp) (key : CursorKey) : CursorPosition :=
  ⟨some timestamp, [key], by simp⟩

theorem eq_initial {c : CursorPosition} (h : c.timestamp = none) : c = initial := by
  obtain ⟨t, ks, hc⟩ := c
  obtain rfl : t = none := h
  obtain rfl : ks = [] := hc.1 rfl
  rfl

@[ext] theorem ext {c d : CursorPosition} (ht : c.timestamp = d.timestamp)
    (hk : c.keys = d.keys) : c = d := by
  obtain ⟨t, ks, hc⟩ := c
  obtain ⟨t', ks', hd⟩ := d
  obtain rfl : t = t' := ht
  obtain rfl : ks = ks' := hk
  rfl

end CursorPosition

/-! `as_metadata_json` writes `{"timestamp": isoformat or null, "keys": [...]}`.
Two such values are compared as JSON, so a manifest whose timestamp is spelled
another way differs although it denotes the same instant. A timestamp text is
therefore either the `isoformat` of an instant or some other text. -/

/-- The text of a JSON timestamp. -/
inductive TimestampText where
  | isoformat (value : Timestamp)
  | other (text : String)
deriving DecidableEq, Repr

/-- A cursor as JSON. -/
structure CursorJson where
  timestamp : Option TimestampText
  keys : List CursorKey
deriving DecidableEq, Repr

/-- `CursorPosition.as_metadata_json`. -/
def CursorPosition.asMetadataJson (c : CursorPosition) : CursorJson :=
  ⟨c.timestamp.map .isoformat, c.keys⟩

theorem CursorPosition.asMetadataJson_inj {c d : CursorPosition} :
    c.asMetadataJson = d.asMetadataJson ↔ c = d := by
  constructor
  · intro h
    have ht : c.timestamp.map TimestampText.isoformat
        = d.timestamp.map TimestampText.isoformat := congrArg CursorJson.timestamp h
    have hinj : Function.Injective TimestampText.isoformat := fun a b hab => by
      injection hab
    exact CursorPosition.ext (Option.map_injective hinj ht)
      (congrArg CursorJson.keys h)
  · rintro rfl
    rfl

/-! ## The order of cursors -/

/-- A key component in the order of Python's tuples, where it is defined. -/
def CursorKey.rank : CursorKey → String ⊕ₗ Int
  | .text s => Sum.inlₗ s
  | .int n => Sum.inrₗ n

theorem CursorKey.rank_inj {a b : CursorKey} (h : a.rank = b.rank) : a = b := by
  cases a <;> cases b <;> simp_all [CursorKey.rank, Sum.inlₗ, Sum.inrₗ]

/-- A cursor's place in the order: below everything, or by timestamp and keys. -/
def CursorPosition.rank (c : CursorPosition) : WithBot (Int ×ₗ List (String ⊕ₗ Int)) :=
  match c.timestamp with
  | none => ⊥
  | some t => ((toLex (t, c.keys.map CursorKey.rank) : Int ×ₗ List (String ⊕ₗ Int)) :
      WithBot (Int ×ₗ List (String ⊕ₗ Int)))

theorem CursorPosition.rank_some {c : CursorPosition} {t : Timestamp}
    (h : c.timestamp = some t) : c.rank = (toLex (t, c.keys.map CursorKey.rank) :
      Int ×ₗ List (String ⊕ₗ Int)) := by
  simp [rank, h]

theorem CursorPosition.rank_initial : CursorPosition.initial.rank = ⊥ := rfl

theorem CursorPosition.rank_injective : Function.Injective CursorPosition.rank := by
  intro c d h
  cases hc : c.timestamp with
  | none =>
    obtain rfl := eq_initial hc
    cases hd : d.timestamp with
    | none => rw [eq_initial hd]
    | some t' =>
      rw [rank_initial, rank_some hd] at h
      exact absurd h.symm (WithBot.coe_ne_bot)
  | some t =>
    cases hd : d.timestamp with
    | none =>
      rw [eq_initial hd, rank_initial, rank_some hc] at h
      exact absurd h (WithBot.coe_ne_bot)
    | some t' =>
      rw [rank_some hc, rank_some hd, WithBot.coe_inj, toLex_inj] at h
      obtain ⟨ht, hk⟩ := Prod.mk.inj h
      have hinj : Function.Injective CursorKey.rank := fun a b hab => CursorKey.rank_inj hab
      exact CursorPosition.ext (by rw [hc, hd, ht]) (List.map_injective_iff.2 hinj hk)

instance : LinearOrder CursorPosition :=
  LinearOrder.lift' CursorPosition.rank CursorPosition.rank_injective

theorem CursorPosition.lt_iff {c d : CursorPosition} : c < d ↔ c.rank < d.rank := Iff.rfl

theorem CursorPosition.not_lt_initial (c : CursorPosition) : ¬ c < initial := by
  rw [lt_iff, rank_initial]
  exact not_lt_bot

theorem CursorPosition.initial_lt {c : CursorPosition} {t : Timestamp}
    (h : c.timestamp = some t) : initial < c := by
  rw [lt_iff, rank_initial, rank_some h]
  exact WithBot.bot_lt_coe _

/-- `<` on tuples of keys: the first components that differ decide. -/
def keysLt : List CursorKey → List CursorKey → Except Raised Bool
  | [], [] => .ok false
  | [], _ :: _ => .ok true
  | _ :: _, [] => .ok false
  | a :: as, b :: bs =>
    if a = b then keysLt as bs
    else match a, b with
      | .text s, .text t => .ok (decide (s < t))
      | .int m, .int n => .ok (decide (m < n))
      | .text _, .int _ =>
        .error ⟨.typeError, "'<' not supported between instances of 'str' and 'int'"⟩
      | .int _, .text _ =>
        .error ⟨.typeError, "'<' not supported between instances of 'int' and 'str'"⟩

/-- `_cursor_is_earlier`: the initial cursor is earlier than any other and nothing is earlier
than it; between two others the tuples are compared. -/
def cursorIsEarlier (candidate current : CursorPosition) : Except Raised Bool :=
  match current.timestamp with
  | none => .ok false
  | some t =>
    match candidate.timestamp with
    | none => .ok true
    | some s =>
      if s = t then keysLt candidate.keys current.keys
      else .ok (decide (s < t))

/-- Where the tuple comparison returns, it is the lexicographic order. -/
theorem keysLt_eq : ∀ {as bs : List CursorKey} {b : Bool}, keysLt as bs = .ok b →
    (b = true ↔ as.map CursorKey.rank < bs.map CursorKey.rank)
  | [], [], b, h => by
    cases h
    simp
  | [], y :: ys, b, h => by
    cases h
    simp
  | x :: xs, [], b, h => by
    cases h
    simp
  | x :: xs, y :: ys, b, h => by
    unfold keysLt at h
    simp only [List.map_cons, List.cons_lt_cons_iff]
    split at h
    next hxy =>
      subst hxy
      simpa using keysLt_eq h
    next hxy =>
      -- the first keys differ, so they decide; comparing a text with an integer would have raised
      have hr : ¬ x.rank = y.rank := fun he => hxy (CursorKey.rank_inj he)
      simp only [hr, false_and, or_false]
      cases x with
      | text s =>
        cases y with
        | text t =>
          cases h
          simp [CursorKey.rank]
        | int n => cases h
      | int m =>
        cases y with
        | text t => cases h
        | int n =>
          cases h
          simp [CursorKey.rank]

/-- Where `_cursor_is_earlier` returns, it decides the order of cursors; it raises only for keys
of different types. -/
theorem cursorIsEarlier_eq {candidate current : CursorPosition} {b : Bool}
    (h : cursorIsEarlier candidate current = .ok b) : b = true ↔ candidate < current := by
  unfold cursorIsEarlier at h
  split at h
  next hn =>
    cases h
    rw [CursorPosition.eq_initial hn]
    simpa using CursorPosition.not_lt_initial candidate
  next t ht =>
    split at h
    next hn =>
      cases h
      rw [CursorPosition.eq_initial hn]
      simpa using CursorPosition.initial_lt ht
    next s hs =>
      rw [CursorPosition.lt_iff, CursorPosition.rank_some hs, CursorPosition.rank_some ht,
        WithBot.coe_lt_coe, Prod.Lex.toLex_lt_toLex]
      split at h
      next hst =>
        rw [keysLt_eq h]
        simp [hst]
      next hst =>
        cases h
        simp [hst]

end CommercePlatform
