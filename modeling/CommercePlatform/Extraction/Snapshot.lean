import CommercePlatform.Contract.Tables
import CommercePlatform.Control.Cursor
/-!
# Table snapshots

`src/ingestion/extraction/extract.py`: the rows of a Source table in one `REPEATABLE
READ` snapshot, the upper bound frozen in it, and the keyset pages between the watermark
and that bound. A table is the list of its rows; what a row is stays open, but for its
cursor, and so does the order of cursors.

The queries are what PostgreSQL evaluates on the snapshot: the last cursor above the
watermark (`fetchUpperBound`), and the first `page_size` rows of the range in cursor
order (`fetchPage`). The order of the list, which stands for the order on disk, is in
none of them.

Mirroring notes vs the source:
- A snapshot does not change while it is open, so it is a value and not a state; that it
  is the tables of one moment is the isolation level.
- The loop runs for as many rounds as there are rows and one more, which
  `Extraction/Paging` shows to be enough.
- `page_size` is positive, as `open_table_snapshot` checks.
-/

namespace CommercePlatform

variable {ρ κ : Type} [LinearOrder κ]

/-- A row of the fixed range: its cursor lies in `(lower, upper]`. -/
def InRange (cursor : ρ → κ) (lower upper : κ) (r : ρ) : Prop :=
  lower < cursor r ∧ cursor r ≤ upper

instance (cursor : ρ → κ) (lower upper : κ) : DecidablePred (InRange cursor lower upper) :=
  fun _ => inferInstanceAs (Decidable (_ ∧ _))

/-- `_fetch_upper_bound`: the last cursor above the watermark, or nothing. -/
def fetchUpperBound (cursor : ρ → κ) (rows : List ρ) (watermarkBefore : κ) : Option κ :=
  ((rows.map cursor).filter fun c => watermarkBefore < c).max?

/-- The rows of the range in cursor order. -/
def orderedRange (cursor : ρ → κ) (rows : List ρ) (lower upper : κ) : List ρ :=
  (rows.filter fun r => InRange cursor lower upper r).insertionSort fun a b => cursor a ≤ cursor b

/-- `_fetch_page`. -/
def fetchPage (cursor : ρ → κ) (rows : List ρ) (lower upper : κ) (pageSize : Nat) : List ρ :=
  (orderedRange cursor rows lower upper).take pageSize

/-- The loop of `TableSnapshot.pages`, for at most `fuel` pages. -/
def pagesFrom (cursor : ρ → κ) (rows : List ρ) (upper : κ) (pageSize : Nat) :
    Nat → κ → List (List ρ)
  | 0, _ => []
  | fuel + 1, lower =>
    let records := fetchPage cursor rows lower upper pageSize
    match records.getLast? with
    | none => []
    | some last =>
      if records.length < pageSize then [records]
      else records :: pagesFrom cursor rows upper pageSize fuel (cursor last)

/-- `TableSnapshot.pages`. Every page but the last one holds a row, so there are fewer pages than
rows and one, and the number of rounds is no restriction. -/
def pages (cursor : ρ → κ) (rows : List ρ) (watermarkBefore upper : κ) (pageSize : Nat) :
    List (List ρ) :=
  pagesFrom cursor rows upper pageSize (rows.length + 1) watermarkBefore

end CommercePlatform
