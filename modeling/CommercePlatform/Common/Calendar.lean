import CommercePlatform.Control.Cursor
/-!
# Calendar dates of timestamps

The texts and integers the code derives from UTC timestamps: the ISO form, the date in
an object key (`date().isoformat()`), the time part of a batch id (`%Y%m%dT%H%M%SZ`),
the date key of a fact (`%Y%m%d` as an integer) and the difference of two dates in days.
The civil date of a day number is the usual proleptic Gregorian computation, by eras of
400 years whose years start in March.

Only the texts are here; that they tell timestamps apart, and that a date exists, is
shown in `Common/CivilDates` and `Common/Isoformat`.

Mirroring notes vs the source:
- A timestamp is its number of microseconds since the epoch, so every function starts
  from the day number (`dayOf`) and the microseconds of that day.
- `batchStamp` follows the C library: `%Y` is not padded, so a year before 1000 has a
  shorter text. Everything else is padded.
- `dateKey` and `dayDiff` are the SQL of the marts, on the same day numbers; DuckDB's
  timestamps are UTC there.
-/

namespace CommercePlatform

/-- Microseconds in a day. -/
def microsPerDay : Int := 86400000000

/-- The day of a timestamp, counted from 1970-01-01. -/
def dayOf (t : Timestamp) : Int := t / microsPerDay

/-- A civil date. -/
structure CivilDate where
  year : Int
  month : Int
  day : Int
deriving DecidableEq, Repr

/-- The civil date of a day number. Years start in March here, so that the leap day is the last
day of a year and no month before it moves. -/
def civilOfDay (n : Int) : CivilDate :=
  let z := n + 719468
  let era := z / 146097
  let doe := z - era * 146097
  let yoe := (doe - doe / 1460 + doe / 36524 - doe / 146096) / 365
  let doy := doe - (365 * yoe + yoe / 4 - yoe / 100)
  let mp := (5 * doy + 2) / 153
  let day := doy - (153 * mp + 2) / 5 + 1
  let month := if mp < 10 then mp + 3 else mp - 9
  let year := yoe + era * 400 + if month ≤ 2 then 1 else 0
  ⟨year, month, day⟩

/-- Decimal digits of `n`, padded with zeros to width `w`. -/
def padded (w : Nat) (n : Int) : String :=
  let digits := toString n.toNat
  String.ofList (List.replicate (w - digits.length) '0') ++ digits

/-- `value.date().isoformat()`. -/
def isoDate (t : Timestamp) : String :=
  let d := civilOfDay (dayOf t)
  padded 4 d.year ++ "-" ++ padded 2 d.month ++ "-" ++ padded 2 d.day

/-- `value.isoformat()` of a UTC datetime: microseconds only where there are any. -/
def isoformat (t : Timestamp) : String :=
  let micros := t - dayOf t * microsPerDay
  let second := micros / 1000000
  let fraction := micros % 1000000
  isoDate t ++ "T" ++ padded 2 (second / 3600) ++ ":" ++ padded 2 (second / 60 % 60) ++ ":" ++
    padded 2 (second % 60) ++ (if fraction = 0 then "" else "." ++ padded 6 fraction) ++ "+00:00"

/-- `%Y%m%dT%H%M%SZ`. The C library does not pad `%Y`, so a year before 1000 has fewer digits. -/
def batchStamp (t : Timestamp) : String :=
  let d := civilOfDay (dayOf t)
  let second := (t - dayOf t * microsPerDay) / 1000000
  padded 1 d.year ++ padded 2 d.month ++ padded 2 d.day ++ "T" ++
    padded 2 (second / 3600) ++ padded 2 (second / 60 % 60) ++ padded 2 (second % 60) ++ "Z"

/-- `cast(strftime(date_trunc('day', t), '%Y%m%d') as integer)`. -/
def dateKey (t : Timestamp) : Int :=
  let d := civilOfDay (dayOf t)
  d.year * 10000 + d.month * 100 + d.day

/-- `date_diff('day', a, b)`: the number of midnights between the two, negative where `b` is the
earlier one. -/
def dayDiff (a b : Timestamp) : Int := dayOf b - dayOf a

example : batchStamp 1704153599000000 = "20240101T235959Z" := by decide

example : dateKey 951782400000000 = 20000229 := by decide

end CommercePlatform
