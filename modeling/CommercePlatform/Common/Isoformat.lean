import CommercePlatform.Common.CivilDates
import CommercePlatform.Lib.JsonRead
/-!
# `isoformat` and `fromisoformat`

The two texts of a timestamp in the code: `datetime.isoformat` of a UTC datetime (the
model of it stands in `Common/Calendar`) and `datetime.fromisoformat`, here as the
reference implementation of the standard library reads it, with ASCII digits. A datetime
read is the time its fields name and its offset from UTC, if it has one.

Every datetime between `datetime.min` and `datetime.max` is read back from its text
(`fromisoformat_isoformat`), with or without microseconds. The proof follows the reader:
the separator stands behind the ten characters of a date (`datetimeSeparator_dateText`),
the date part is read digit by digit (`parseIsoformatDate_dateText`), and the clock part
stops at the sign of its offset (`parseIsoformatTime_clockText`). Every number was
padded when it was written, so reading it is reading leading zeros and its digits
(`zeros_writeNat`). That `isoformat` tells datetimes apart is a consequence.

Mirroring notes vs the interpreter:
- CPython runs the C implementation, which differs from the reference one on texts that
  `isoformat` never writes. In front of an offset it also takes a separator with nothing
  behind it (`12:30:+00:00`), where the reference implementation and the documented
  grammar want a field.
- The week dates of ISO 8601 and the basic format without separators are read as well,
  since a manifest written by another program may hold them.
- `ValueError` is `none`; its message is left out, as the callers only let it pass.
-/

namespace CommercePlatform

open Lib Lib.Json

/-- A UTC datetime of Python: from year 1 to year 9999. -/
def IsDatetime (t : Timestamp) : Prop := minDay ≤ dayOf t ∧ dayOf t ≤ maxDay

instance : DecidablePred IsDatetime := fun t =>
  inferInstanceAs (Decidable (minDay ≤ dayOf t ∧ dayOf t ≤ maxDay))

/-! ## Reading -/

/-- `int(text[:2])`, and the text behind. -/
def twoDigits : CodePoints → Option (Nat × CodePoints)
  | a :: b :: rest =>
    if isDigit a && isDigit b then some ((a - 0x30) * 10 + (b - 0x30), rest) else none
  | _ => none

/-- `int(text[:4])`, and the text behind. -/
def fourDigits (text : CodePoints) : Option (Nat × CodePoints) := do
  let (a, rest) ← twoDigits text
  let (b, rest) ← twoDigits rest
  return (a * 100 + b, rest)

/-- The fraction of a second, in microseconds; digits past the sixth are dropped. -/
def fractionOf : CodePoints → Option Nat
  | [] => some 0
  | c :: rest =>
    let parsed := rest.take 6
    if (c = 0x2E ∨ c = 0x2C) ∧ parsed ≠ [] ∧ rest.all isDigit then
      some (natOf parsed * 10 ^ (6 - parsed.length))
    else none

/-- `_parse_hh_mm_ss_ff`: `HH[:?MM[:?SS[{.,}fff[fff]]]]`, in microseconds, if the fields
are those of a clock. -/
structure ClockFields where
  hour : Nat
  minute : Nat
  second : Nat
  microsecond : Nat

def parseHhMmSsFf (text : CodePoints) : Option ClockFields := do
  let (hour, rest) ← twoDigits text
  match rest with
  | [] => return ⟨hour, 0, 0, 0⟩
  | c :: behind =>
    let hasSep := decide (c = 0x3A)
    let (minute, rest) ← twoDigits (if hasSep then behind else rest)
    match rest with
    | [] => return ⟨hour, minute, 0, 0⟩
    | c :: behind =>
      if hasSep ∧ c ≠ 0x3A then none
      else do
        let (second, rest) ← twoDigits (if hasSep then behind else rest)
        let microsecond ← fractionOf rest
        return ⟨hour, minute, second, microsecond⟩

/-- The microseconds the fields add up to. -/
def ClockFields.micros (f : ClockFields) : Int :=
  ((f.hour * 60 + f.minute) * 60 + f.second : Nat) * 1000000 + f.microsecond

/-- `tstr.find('-') + 1 or tstr.find('+') + 1 or tstr.find('Z') + 1`, less one. -/
def zonePosition (tstr : CodePoints) : Option Nat :=
  (tstr.findIdx? (· = 0x2D)).or ((tstr.findIdx? (· = 0x2B)).or (tstr.findIdx? (· = 0x5A)))

/-- `_parse_isoformat_time`: the clock and the offset. -/
def parseIsoformatTime (tstr : CodePoints) : Option (ClockFields × Option Int) :=
  if tstr.length < 2 then none
  else match zonePosition tstr with
    | none => (parseHhMmSsFf tstr).map (·, none)
    | some pos => do
      let clock ← parseHhMmSsFf (tstr.take pos)
      let tzstr := tstr.drop (pos + 1)
      if tzstr = [] ∧ tstr.getLast? = some 0x5A then return (clock, some 0)
      else if tzstr.length = 0 ∨ tzstr.length = 1 ∨ tzstr.length = 3 then none
      else do
        let zone ← parseHhMmSsFf tzstr
        -- `timezone` refuses a day and more
        if zone.micros < microsPerDay then
          return (clock, some (if tstr[pos]? = some 0x2D then -zone.micros else zone.micros))
        else none

/-- `_find_isoformat_datetime_separator`, of a text of at least seven characters. -/
def datetimeSeparator (text : CodePoints) : Nat :=
  if text.length = 7 then 7
  else if text[4]? = some 0x2D then
    if text[5]? = some 0x57 then
      if text.length > 8 ∧ text[8]? = some 0x2D then
        if text.length > 10 ∧ (text[10]?.any isDigit) then 8 else 10
      else 8
    else 10
  else if text[4]? = some 0x57 then
    let idx := 7 + ((text.drop 7).takeWhile isDigit).length
    if idx < 9 then idx else if idx % 2 = 0 then 7 else 8
  else 8

/-- The Monday of the first week of an ISO year, as a day number. -/
def isoweek1monday (year : Int) : Int :=
  let first := dayOfCivil ⟨year, 1, 1⟩
  -- the epoch is a Thursday
  let weekday := (first + 3) % 7
  first - weekday + if weekday > 3 then 7 else 0

/-- `_isoweek_to_gregorian`. -/
def isoweekToGregorian (year week day : Nat) : Option CivilDate :=
  let weekday := (dayOfCivil ⟨year, 1, 1⟩ + 3) % 7
  let long := weekday = 3 ∨ (weekday = 2 ∧ isLeap year)
  if 1 ≤ year ∧ (0 < week ∧ week < 53 ∨ week = 53 ∧ long) ∧ 0 < day ∧ day < 8 then
    some (civilOfDay (isoweek1monday year + ((week - 1) * 7 + (day - 1) : Nat)))
  else none

/-- `_parse_isoformat_date`. -/
def parseIsoformatDate (text : CodePoints) : Option CivilDate := do
  let (year, rest) ← fourDigits text
  let hasSep := decide (rest.head? = some 0x2D)
  let rest := if hasSep then rest.tail else rest
  if rest.head? = some 0x57 then do
    let (week, rest) ← twoDigits rest.tail
    if rest = [] then isoweekToGregorian year week 1
    else if decide (rest.head? = some 0x2D) ≠ hasSep then none
    else match (if hasSep then rest.tail else rest) with
      | day :: _ => if isDigit day then isoweekToGregorian year week (day - 0x30) else none
      | [] => none
  else do
    let (month, rest) ← twoDigits rest
    if decide (rest.head? = some 0x2D) ≠ hasSep then none
    else do
      let (day, _) ← twoDigits (if hasSep then rest.tail else rest)
      return ⟨year, month, day⟩

/-- The clock is one of a day. -/
def ClockFields.Valid (f : ClockFields) : Prop :=
  f.hour ≤ 23 ∧ f.minute ≤ 59 ∧ f.second ≤ 59 ∧ f.microsecond ≤ 999999

instance (f : ClockFields) : Decidable f.Valid :=
  inferInstanceAs (Decidable (f.hour ≤ 23 ∧ f.minute ≤ 59 ∧ f.second ≤ 59 ∧
    f.microsecond ≤ 999999))

/-- `datetime.fromisoformat(text)`: the local time and the offset; nothing where it raises
`ValueError`. -/
def fromisoformat (text : CodePoints) : Option (Timestamp × Option Int) :=
  if text.length < 7 then none
  else do
    let sep := datetimeSeparator text
    let date ← parseIsoformatDate (text.take sep)
    let tstr := text.drop (sep + 1)
    let (clock, offset) ← if tstr = [] then some (⟨0, 0, 0, 0⟩, none) else parseIsoformatTime tstr
    if date.Exists ∧ clock.Valid then
      return (dayOfCivil date * microsPerDay + clock.micros, offset)
    else none

/-- `n` in `w` digits. -/
def padDigits : Nat → Nat → CodePoints
  | 0, _ => []
  | w + 1, n => padDigits w (n / 10) ++ [0x30 + n % 10]

theorem points_append (s t : String) : points (s ++ t) = points s ++ points t := by
  rw [points, String.toList_append, List.map_append]
  rfl

theorem points_ofList (cs : List Char) : points (String.ofList cs) = cs.map Char.toNat := by
  rw [points, String.toList_ofList]

/-- Leading zeros and the digits of a number that fits are its padded digits, so that reading a
padded field is reading a number. -/
theorem zeros_writeNat : ∀ {w n : Nat}, n < 10 ^ (w + 1) →
    List.replicate (w + 1 - (writeNat n).length) 0x30 ++ writeNat n = padDigits (w + 1) n
  | 0, n, h => by
    have hdigits : writeNat n = [0x30 + n] := by
      rw [writeNat, Nat.toDigits_of_lt_base (by omega), List.map_singleton,
        Nat.toNat_digitChar_of_lt_ten (by omega)]
    rw [hdigits, padDigits, padDigits, Nat.mod_eq_of_lt (by omega)]
    rfl
  | w + 1, n, h => by
    by_cases hn : n < 10
    -- one digit, and zeros in front of it
    · have hdigits : writeNat n = [0x30 + n] := by
        rw [writeNat, Nat.toDigits_of_lt_base hn, List.map_singleton,
          Nat.toNat_digitChar_of_lt_ten hn]
      have hzero : List.replicate (w + 1 - (writeNat 0).length) 0x30 ++ writeNat 0 =
          padDigits (w + 1) 0 := zeros_writeNat (by positivity)
      have hall : List.replicate (w + 1) 0x30 = padDigits (w + 1) 0 := by
        rw [← hzero, show writeNat 0 = [0x30] by decide, List.length_singleton, Nat.add_sub_cancel]
        exact List.replicate_succ'
      rw [hdigits, padDigits, Nat.mod_eq_of_lt hn, Nat.div_eq_of_lt hn, ← hall]
      rfl
    -- the last digit is put off, and the rest is one digit shorter
    · have hdigits : writeNat n = writeNat (n / 10) ++ [0x30 + n % 10] := by
        rw [writeNat, Nat.toDigits_of_base_le (by decide) (by omega), List.map_append,
          List.map_singleton, Nat.toNat_digitChar_of_lt_ten (by omega), writeNat]
      have hfit : n / 10 < 10 ^ (w + 1) := by
        rw [pow_succ] at h
        omega
      rw [hdigits, List.length_append, List.length_singleton, padDigits, ← zeros_writeNat hfit,
        List.append_assoc, show w + 1 + 1 - ((writeNat (n / 10)).length + 1) =
          w + 1 - (writeNat (n / 10)).length by omega]

theorem points_padded {w : Nat} {n : Int} (h : n.toNat < 10 ^ (w + 1)) :
    points (padded (w + 1) n) = padDigits (w + 1) n.toNat := by
  have hdigits : points (toString n.toNat) = writeNat n.toNat := by
    rw [points, writeNat]
    exact congrArg _ Nat.toList_repr
  have hlength : (toString n.toNat).length = (writeNat n.toNat).length := by
    rw [← hdigits, points, List.length_map, String.length_toList]
  rw [← zeros_writeNat h, padded, points_append, points_ofList, List.map_replicate, hdigits,
    hlength]
  rfl

theorem isDigit_padDigits : ∀ {w n c : Nat}, c ∈ padDigits w n → isDigit c = true
  | 0, _, _, h => by cases h
  | w + 1, n, c, h => by
    rw [padDigits, List.mem_append, List.mem_singleton] at h
    rcases h with h | rfl
    · exact isDigit_padDigits h
    · simp only [isDigit, Bool.and_eq_true, decide_eq_true_eq]
      omega

theorem length_padDigits : ∀ {w n : Nat}, (padDigits w n).length = w
  | 0, _ => rfl
  | w + 1, n => by
    rw [padDigits, List.length_append, List.length_singleton, length_padDigits]

theorem natOf_padDigits : ∀ {w n : Nat}, n < 10 ^ w → natOf (padDigits w n) = n
  | 0, n, h => by
    obtain rfl : n = 0 := by omega
    rfl
  | w + 1, n, h => by
    have hfit : n / 10 < 10 ^ w := by
      rw [pow_succ] at h
      omega
    have ih : natOf (padDigits w (n / 10)) = n / 10 := natOf_padDigits hfit
    rw [natOf] at ih
    rw [padDigits, natOf, List.foldl_append, ih, List.foldl_cons, List.foldl_nil]
    omega

/-! ## Reading what was written -/

theorem twoDigits_padDigits {n : Nat} (h : n < 100) (rest : CodePoints) :
    twoDigits (padDigits 2 n ++ rest) = some (n, rest) := by
  have htext : padDigits 2 n ++ rest = (0x30 + n / 10 % 10) :: (0x30 + n % 10) :: rest := rfl
  have hfirst : isDigit (0x30 + n / 10 % 10) = true := by
    simp only [isDigit, Bool.and_eq_true, decide_eq_true_eq]
    omega
  have hsecond : isDigit (0x30 + n % 10) = true := by
    simp only [isDigit, Bool.and_eq_true, decide_eq_true_eq]
    omega
  rw [htext, twoDigits, hfirst, hsecond]
  show some ((0x30 + n / 10 % 10 - 0x30) * 10 + (0x30 + n % 10 - 0x30), rest) = some (n, rest)
  rw [show (0x30 + n / 10 % 10 - 0x30) * 10 + (0x30 + n % 10 - 0x30) = n by omega]

theorem fourDigits_padDigits {n : Nat} (h : n < 10000) (rest : CodePoints) :
    fourDigits (padDigits 4 n ++ rest) = some (n, rest) := by
  have htext : padDigits 4 n ++ rest = padDigits 2 (n / 10 / 10) ++ (padDigits 2 n ++ rest) := rfl
  have hsecond : padDigits 2 n = padDigits 2 (n % 100) := by
    show [0x30 + n / 10 % 10, 0x30 + n % 10] = [0x30 + n % 100 / 10 % 10, 0x30 + n % 100 % 10]
    rw [show n / 10 % 10 = n % 100 / 10 % 10 by omega, show n % 10 = n % 100 % 10 by omega]
  rw [fourDigits, htext, twoDigits_padDigits (by omega), hsecond]
  simp only [Option.bind_eq_bind, Option.bind_some, twoDigits_padDigits (show n % 100 < 100 by omega)]
  rw [show n / 10 / 10 * 100 + n % 100 = n by omega]
  rfl

/-- `YYYY-MM-DD` -/
def dateText (year month day : Nat) : CodePoints :=
  padDigits 4 year ++ 0x2D :: (padDigits 2 month ++ 0x2D :: padDigits 2 day)

theorem parseIsoformatDate_dateText {year month day : Nat} (hyear : year < 10000)
    (hmonth : month < 100) (hday : day < 100) :
    parseIsoformatDate (dateText year month day) = some ⟨year, month, day⟩ := by
  have hmonthText : ∀ rest, (padDigits 2 month ++ rest).head? ≠ some 0x57 := by
    intro rest h
    have hhead : (0x30 + month / 10 % 10) = 0x57 := Option.some.inj h
    omega
  have hday' := twoDigits_padDigits hday []
  rw [List.append_nil] at hday'
  rw [parseIsoformatDate, dateText, fourDigits_padDigits hyear]
  simp only [Option.bind_eq_bind, Option.bind_some, List.head?_cons, decide_true, if_true,
    List.tail_cons, if_neg (hmonthText _), twoDigits_padDigits hmonth, ne_eq, not_true_eq_false,
    if_false, hday']
  rfl

/-- `HH:MM:SS[.ffffff]` -/
def clockText (f : ClockFields) : CodePoints :=
  padDigits 2 f.hour ++ 0x3A :: (padDigits 2 f.minute ++ 0x3A :: (padDigits 2 f.second ++
    if f.microsecond = 0 then [] else 0x2E :: padDigits 6 f.microsecond))

theorem fractionOf_padDigits {n : Nat} (h : n < 1000000) :
    fractionOf (if n = 0 then [] else 0x2E :: padDigits 6 n) = some n := by
  split
  next h0 => rw [h0, fractionOf]
  next h0 =>
    have htake : (padDigits 6 n).take 6 = padDigits 6 n :=
      List.take_of_length_le (by rw [length_padDigits])
    have hne : padDigits 6 n ≠ [] := by
      intro hnil
      have hlength : (padDigits 6 n).length = 6 := length_padDigits
      rw [hnil] at hlength
      cases hlength
    have hall : (padDigits 6 n).all isDigit = true :=
      List.all_eq_true.2 fun c hc => isDigit_padDigits hc
    rw [fractionOf]
    simp only [htake]
    rw [if_pos ⟨.inl trivial, hne, hall⟩, length_padDigits, natOf_padDigits h]
    rw [Nat.sub_self, pow_zero, Nat.mul_one]

theorem parseHhMmSsFf_clockText {f : ClockFields} (h : f.Valid) :
    parseHhMmSsFf (clockText f) = some f := by
  obtain ⟨hhour, hminute, hsecond, hmicro⟩ := h
  rw [parseHhMmSsFf, clockText, twoDigits_padDigits (by omega)]
  simp only [Option.bind_eq_bind, Option.bind_some, decide_true, if_true,
    twoDigits_padDigits (show f.minute < 100 by omega),
    twoDigits_padDigits (show f.second < 100 by omega), ne_eq, not_true_eq_false, and_false,
    if_false, fractionOf_padDigits (show f.microsecond < 1000000 by omega)]
  rfl

theorem clockText_chars {f : ClockFields} : ∀ c ∈ clockText f, c ≠ 0x2D ∧ c ≠ 0x2B ∧ c ≠ 0x5A := by
  have hdigit : ∀ {w n c}, c ∈ padDigits w n → c ≠ 0x2D ∧ c ≠ 0x2B ∧ c ≠ 0x5A := fun hc => by
    have hrange := isDigit_padDigits hc
    simp only [isDigit, Bool.and_eq_true, decide_eq_true_eq] at hrange
    omega
  intro c hc
  simp only [clockText, List.mem_append, List.mem_cons] at hc
  rcases hc with hc | rfl | hc | rfl | hc | hc
  · exact hdigit hc
  · decide
  · exact hdigit hc
  · decide
  · exact hdigit hc
  · split at hc
    · cases hc
    · rcases List.mem_cons.1 hc with rfl | hc
      · decide
      · exact hdigit hc

theorem findIdx?_mem {c : Nat} : ∀ {front : CodePoints} (rest : CodePoints), c ∉ front →
    (front ++ c :: rest).findIdx? (· = c) = some front.length
  | [], rest, _ => by
    rw [List.nil_append, List.findIdx?_cons, if_pos (decide_eq_true rfl)]
    rfl
  | d :: front, rest, h => by
    have hd : d ≠ c := fun hdc => h (hdc ▸ List.mem_cons_self)
    rw [List.cons_append, List.findIdx?_cons, if_neg (by simp [hd]),
      findIdx?_mem rest fun hc => h (List.mem_cons_of_mem _ hc)]
    rfl

/-- The clock and a zero offset. -/
theorem parseIsoformatTime_clockText {f : ClockFields} (h : f.Valid) :
    parseIsoformatTime (clockText f ++ points "+00:00") = some (f, some 0) := by
  have hzone : points "+00:00" = [0x2B, 0x30, 0x30, 0x3A, 0x30, 0x30] := by decide
  have hchars : ∀ c ∈ clockText f, c ≠ 0x2D ∧ c ≠ 0x2B ∧ c ≠ 0x5A := clockText_chars
  have hlong : ¬ (clockText f ++ points "+00:00").length < 2 := by
    rw [hzone, List.length_append]
    simp
  -- the offset begins at the plus, as the clock has neither sign
  have hnodash : (clockText f ++ points "+00:00").findIdx? (· = 0x2D) = none := by
    rw [List.findIdx?_eq_none_iff]
    intro c hc
    rcases List.mem_append.1 hc with hc | hc
    · simpa using (hchars c hc).1
    · have hall : ∀ c ∈ points "+00:00", decide (c = 0x2D) = false := by decide
      exact hall c hc
  have hplus : (clockText f ++ points "+00:00").findIdx? (· = 0x2B) = some (clockText f).length := by
    rw [hzone]
    exact findIdx?_mem _ fun hmem => (hchars _ hmem).2.1 rfl
  have hpos : zonePosition (clockText f ++ points "+00:00") = some (clockText f).length := by
    rw [zonePosition, hnodash, hplus]
    rfl
  have htake : (clockText f ++ points "+00:00").take (clockText f).length = clockText f :=
    List.take_left
  have hdrop : (clockText f ++ points "+00:00").drop ((clockText f).length + 1) =
      [0x30, 0x30, 0x3A, 0x30, 0x30] := by
    rw [hzone, ← List.drop_drop, List.drop_left]
    rfl
  have hat : (clockText f ++ points "+00:00")[(clockText f).length]? = some 0x2B := by
    rw [hzone, List.getElem?_append_right (Nat.le_refl _), Nat.sub_self]
    rfl
  -- the offset is zero, which Python reads as UTC
  have hzero : parseHhMmSsFf [0x30, 0x30, 0x3A, 0x30, 0x30] = some ⟨0, 0, 0, 0⟩ := rfl
  have hmicros : (⟨0, 0, 0, 0⟩ : ClockFields).micros = 0 := rfl
  rw [parseIsoformatTime, if_neg hlong, hpos]
  simp only [htake, hdrop, hat, parseHhMmSsFf_clockText h, Option.bind_eq_bind, Option.bind_some,
    hzero, hmicros]
  rw [if_neg (by simp), if_neg (by simp), if_pos (by decide), if_neg (by decide)]
  rfl

/-- Ten characters of a date come before the separator. -/
theorem datetimeSeparator_dateText {year month day : Nat} (c : Nat) (rest : CodePoints) :
    datetimeSeparator (dateText year month day ++ c :: rest) = 10 := by
  have htext : dateText year month day ++ c :: rest =
      (0x30 + year / 10 / 10 / 10 % 10) :: (0x30 + year / 10 / 10 % 10) :: (0x30 + year / 10 % 10) ::
        (0x30 + year % 10) :: 0x2D :: (0x30 + month / 10 % 10) :: (0x30 + month % 10) :: 0x2D ::
          (0x30 + day / 10 % 10) :: (0x30 + day % 10) :: c :: rest := rfl
  have hlength : (dateText year month day ++ c :: rest).length ≠ 7 := by
    rw [htext]
    simp
  have hdash : (dateText year month day ++ c :: rest)[4]? = some 0x2D := by rw [htext]; rfl
  have hmonth : (dateText year month day ++ c :: rest)[5]? ≠ some 0x57 := by
    rw [htext]
    intro h
    have hchar : 0x30 + month / 10 % 10 = 0x57 := Option.some.inj h
    omega
  rw [datetimeSeparator, if_neg hlength, if_pos hdash, if_neg hmonth]

/-- The clock after so many microseconds of a day. -/
def clockOf (micros : Int) : ClockFields :=
  let second := micros.toNat / 1000000
  ⟨second / 3600, second / 60 % 60, second % 60, micros.toNat % 1000000⟩

/-- The microseconds of a timestamp since midnight. -/
def microsOf (t : Timestamp) : Int := t - dayOf t * microsPerDay

theorem microsOf_range (t : Timestamp) : 0 ≤ microsOf t ∧ microsOf t < 86400000000 := by
  have hrange : ∀ n : Int, 0 ≤ n - n / 86400000000 * 86400000000 ∧
      n - n / 86400000000 * 86400000000 < 86400000000 := fun n => by omega
  exact hrange t

theorem clockOf_valid {micros : Int} (hlow : 0 ≤ micros) (hhigh : micros < 86400000000) :
    (clockOf micros).Valid := by
  unfold clockOf ClockFields.Valid
  dsimp only
  omega

theorem clockOf_micros {micros : Int} (hlow : 0 ≤ micros) : (clockOf micros).micros = micros := by
  unfold clockOf ClockFields.micros
  dsimp only
  omega

theorem points_isoDate {t : Timestamp} (h : IsDatetime t) :
    points (isoDate t) = dateText (civilOfDay (dayOf t)).year.toNat
      (civilOfDay (dayOf t)).month.toNat (civilOfDay (dayOf t)).day.toNat := by
  obtain ⟨hy, hy', hm, hm', hd, hd'⟩ := civilOfDay_exists h.1 h.2
  have hd31 : (civilOfDay (dayOf t)).day ≤ 31 := by
    refine hd'.trans ?_
    unfold daysInMonth
    repeat' split
    all_goals omega
  have hdash : points "-" = [0x2D] := by decide
  rw [isoDate]
  simp only [points_append, hdash]
  rw [points_padded (w := 3) (by omega), points_padded (w := 1) (by omega),
    points_padded (w := 1) (by omega), dateText]
  simp only [List.append_assoc, List.cons_append, List.nil_append]

theorem points_fraction {micros : Int} (hlow : 0 ≤ micros) :
    points (if micros % 1000000 = 0 then "" else "." ++ padded 6 (micros % 1000000)) =
      if (clockOf micros).microsecond = 0 then []
      else 0x2E :: padDigits 6 (clockOf micros).microsecond := by
  have hdot : points "." = [0x2E] := by decide
  have hmicro : (micros % 1000000).toNat = (clockOf micros).microsecond := by
    unfold clockOf
    dsimp only
    omega
  by_cases h0 : micros % 1000000 = 0
  · rw [if_pos h0, if_pos (by omega)]
    decide
  · rw [if_neg h0, if_neg (by omega), points_append, hdot, points_padded (w := 5) (by omega), hmicro]
    rfl

theorem points_isoformat {t : Timestamp} :
    points (isoformat t) =
      points (isoDate t) ++ 0x54 :: (clockText (clockOf (microsOf t)) ++ points "+00:00") := by
  obtain ⟨hlow, hhigh⟩ := microsOf_range t
  have hT : points "T" = [0x54] := by decide
  have hcolon : points ":" = [0x3A] := by decide
  have htext : isoformat t = isoDate t ++ "T" ++ padded 2 (microsOf t / 1000000 / 3600) ++ ":" ++
      padded 2 (microsOf t / 1000000 / 60 % 60) ++ ":" ++ padded 2 (microsOf t / 1000000 % 60) ++
      (if microsOf t % 1000000 = 0 then "" else "." ++ padded 6 (microsOf t % 1000000)) ++
      "+00:00" := rfl
  rw [htext]
  generalize microsOf t = micros at hlow hhigh
  -- the fields of the clock are counted from midnight, so none of them is negative
  have hhour : (micros / 1000000 / 3600).toNat = (clockOf micros).hour := by
    unfold clockOf
    dsimp only
    omega
  have hminute : (micros / 1000000 / 60 % 60).toNat = (clockOf micros).minute := by
    unfold clockOf
    dsimp only
    omega
  have hsecond : (micros / 1000000 % 60).toNat = (clockOf micros).second := by
    unfold clockOf
    dsimp only
    omega
  simp only [points_append, hT, hcolon]
  rw [points_fraction hlow, points_padded (w := 1) (by omega), points_padded (w := 1) (by omega),
    points_padded (w := 1) (by omega), hhour, hminute, hsecond, clockText]
  simp only [List.append_assoc, List.cons_append, List.nil_append]

/-- A UTC datetime is read back from its text: the same local time, and the offset zero. -/
theorem fromisoformat_isoformat {t : Timestamp} (h : IsDatetime t) :
    fromisoformat (points (isoformat t)) = some (t, some 0) := by
  obtain ⟨hy, hy', hm, hm', hd, hd'⟩ := civilOfDay_exists h.1 h.2
  have hexists := civilOfDay_exists h.1 h.2
  have hd31 : (civilOfDay (dayOf t)).day ≤ 31 := by
    refine hd'.trans ?_
    unfold daysInMonth
    repeat' split
    all_goals omega
  obtain ⟨hlow, hhigh⟩ := microsOf_range t
  rw [points_isoformat, points_isoDate h]
  generalize hyear : (civilOfDay (dayOf t)).year.toNat = year
  generalize hmonth : (civilOfDay (dayOf t)).month.toNat = month
  generalize hday : (civilOfDay (dayOf t)).day.toNat = day
  have hdate : (⟨year, month, day⟩ : CivilDate) = civilOfDay (dayOf t) := by
    have hcast : (year : Int) = (civilOfDay (dayOf t)).year ∧
        (month : Int) = (civilOfDay (dayOf t)).month ∧
        (day : Int) = (civilOfDay (dayOf t)).day := by omega
    rw [hcast.1, hcast.2.1, hcast.2.2]
  have hlength : (dateText year month day).length = 10 := rfl
  -- ten characters of a date, the separator, and the clock with its offset behind
  have hlong : ¬ (dateText year month day ++
      0x54 :: (clockText (clockOf (microsOf t)) ++ points "+00:00")).length < 7 := by
    rw [List.length_append, hlength]
    omega
  have htake : (dateText year month day ++
      0x54 :: (clockText (clockOf (microsOf t)) ++ points "+00:00")).take 10 = dateText year month day :=
    List.take_left' hlength
  have hdrop : (dateText year month day ++
      0x54 :: (clockText (clockOf (microsOf t)) ++ points "+00:00")).drop (10 + 1) =
        clockText (clockOf (microsOf t)) ++ points "+00:00" := by
    rw [← List.drop_drop, List.drop_left' hlength]
    rfl
  have hsome : clockText (clockOf (microsOf t)) ++ points "+00:00" ≠ [] := by
    rw [show points "+00:00" = [0x2B, 0x30, 0x30, 0x3A, 0x30, 0x30] by decide]
    simp
  have hread : parseIsoformatDate (dateText year month day) = some ⟨year, month, day⟩ :=
    parseIsoformatDate_dateText (by omega) (by omega) (by omega)
  rw [fromisoformat, if_neg hlong]
  simp only [datetimeSeparator_dateText, htake, hdrop, hread, Option.bind_eq_bind, Option.bind_some,
    if_neg hsome, parseIsoformatTime_clockText (clockOf_valid hlow hhigh), hdate]
  -- day and clock put together again
  have ht : dayOf t * microsPerDay + microsOf t = t := by
    have hsum : ∀ m n : Int, m + (n - m) = n := fun m n => by omega
    exact hsum _ _
  rw [if_pos ⟨hexists, clockOf_valid hlow hhigh⟩, dayOfCivil_civilOfDay, clockOf_micros hlow, ht]
  rfl

/-- `isoformat` tells datetimes apart. -/
theorem isoformat_injective {t u : Timestamp} (ht : IsDatetime t) (hu : IsDatetime u)
    (h : isoformat t = isoformat u) : t = u := by
  have hread := fromisoformat_isoformat ht
  rw [h, fromisoformat_isoformat hu] at hread
  exact (congrArg Prod.fst (Option.some.inj hread)).symm

end CommercePlatform
