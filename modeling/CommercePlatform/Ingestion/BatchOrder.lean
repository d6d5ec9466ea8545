import CommercePlatform.Ingestion.Identity
import CommercePlatform.Lib.OrderedCode
/-!
# Batch ids in the order of time

The warehouse compares batch ids as texts: the recomputation boundary is the greatest
`_batch_id` text of the staging tables, and a row is recomputed when its own is greater.
The design note on the boundary rests on one property of these texts, that within one
DAG their order is the order of the logical dates. `batchId_lt_iff` is that property:

> `batchId_lt_iff`: for two logical dates of one DAG, in years from 1000 on, the id of
> the one is below the id of the other iff its second is earlier.

Both limits come from the format `%Y%m%dT%H%M%SZ`. `%Y` is not padded, so before the
year 1000 a text may be shorter and the fields no longer stand below each other. And the
stamp stops at the second, so two logical dates within one second have one id.

The proof goes down the fields of the stamp. A later second has a later day or, on the
same day, a later clock (`day_lt_or_clock_lt`); a later day has a later year, month or
day of the month (`civilOfDay_lt`); and a smaller number in a field of fixed width is a
text that is smaller before either field ends (`padDigits_below`), so what follows the
field does not matter. `field_below` is the step from one field to the fields behind it.

`civilOfDay_lt` is the one argument about the calendar. It works in years that begin in
March, where the leap day is the last day of a year, and goes through era, year, day of
the year and month in this order; each of them is a division, which keeps the order.

What `Warehouse.Boundary` does with the result is compare the batches of two DAGs as
well. There the texts compare by the DAG ids first and say nothing about time.
-/

namespace CommercePlatform

open Lib Lib.Json Ingestion

/-- Numbers of one width are written in their order: by induction on the width, over the last
digit. -/
theorem padDigits_below : ∀ {w m n : Nat}, m < n → n < 10 ^ w →
    Below (padDigits w m) (padDigits w n)
  | 0, m, n, h, hn => by simp at hn; omega
  | w + 1, m, n, h, hn => by
    rw [padDigits, padDigits]
    rcases Nat.lt_or_ge (m / 10) (n / 10) with hlt | hge
    · have hfit : n / 10 < 10 ^ w := by
        rw [pow_succ] at hn
        omega
      exact (padDigits_below hlt hfit).append _ _
    · have hsame : m / 10 = n / 10 := by omega
      rw [hsame]
      refine Below.append_left _ (.inl ?_)
      omega

/-- A smaller number in a field decides, an equal one leaves it to the fields behind. -/
theorem field_below {w m n : Nat} {us vs : CodePoints} (hn : n < 10 ^ w)
    (h : m < n ∨ m = n ∧ Below us vs) : Below (padDigits w m ++ us) (padDigits w n ++ vs) := by
  rcases h with h | ⟨rfl, h⟩
  · exact (padDigits_below h hn).append us vs
  · exact h.append_left _

theorem below_of_map_toNat : ∀ {cs ds : List Char},
    Below (cs.map Char.toNat) (ds.map Char.toNat) → Below cs ds
  | c :: cs, d :: ds, h => by
    rcases h with h | ⟨h, hrest⟩
    · exact .inl h
    · exact .inr ⟨Char.toNat_inj.1 h, below_of_map_toNat hrest⟩

/-- Texts compare as their code points do. -/
theorem lt_of_points {s t : String} {us vs : CodePoints} (hs : points s = us) (ht : points t = vs)
    (h : Below us vs) : s < t := by
  rw [← hs, ← ht] at h
  exact String.lt_iff_toList_lt.2 (below_of_map_toNat h).lt

/-- A later day has a later date: a greater year, or in one year a greater month, or in one month
a greater day. -/
theorem civilOfDay_lt {n m : Int} (h : n < m) :
    (civilOfDay n).year < (civilOfDay m).year ∨
      (civilOfDay n).year = (civilOfDay m).year ∧
        ((civilOfDay n).month < (civilOfDay m).month ∨
          (civilOfDay n).month = (civilOfDay m).month ∧ (civilOfDay n).day < (civilOfDay m).day) := by
  -- in years that start in March: the era, the year of the era, the month, the day
  have hera : eraOf n < eraOf m ∨ eraOf n = eraOf m ∧ dayOfEra n < dayOfEra m := by
    unfold dayOfEra eraOf
    omega
  have hyear : yearOfEra n + eraOf n * 400 < yearOfEra m + eraOf m * 400 ∨
      yearOfEra n + eraOf n * 400 = yearOfEra m + eraOf m * 400 ∧ dayOfYear n < dayOfYear m := by
    obtain ⟨hn, hn'⟩ := yearOfEra_bounds n
    obtain ⟨hm, hm'⟩ := yearOfEra_bounds m
    rcases hera with hlt | ⟨heq, hday⟩
    · exact .inl (by omega)
    · have hmono : yearOfEra n ≤ yearOfEra m :=
        Int.ediv_le_ediv (by decide) (withoutLeapDays_mono (Int.le_of_lt hday))
      rcases Int.lt_or_eq_of_le hmono with hlt | hsame
      · exact .inl (by omega)
      · refine .inr ⟨by rw [hsame, heq], ?_⟩
        unfold dayOfYear
        rw [hsame]
        omega
  obtain ⟨hn, hn'⟩ := dayOfYear_bounds n
  obtain ⟨hm, hm'⟩ := dayOfYear_bounds m
  rw [civilOfDay_eq, civilOfDay_eq]
  dsimp only
  unfold monthOfYear
  generalize yearOfEra n + eraOf n * 400 = y at *
  generalize yearOfEra m + eraOf m * 400 = y' at *
  generalize dayOfYear n = d at *
  generalize dayOfYear m = d' at *
  split_ifs <;> omega

/-- From the year 1000 on all fields of a stamp have their width, although `%Y` pads nothing. -/
theorem points_batchStamp_padded {t : Timestamp} (h : IsDatetime t) (hy : 1000 ≤ yearOf t) :
    points (batchStamp t) = padDigits 4 (yearOf t).toNat ++ stampTail t := by
  obtain ⟨-, hyear, -⟩ := civilOfDay_exists h.1 h.2
  have hfit : (yearOf t).toNat < 10 ^ (3 + 1) := by
    unfold yearOf
    omega
  have hfour := (length_writeNat hfit).2 (by omega)
  rw [points_batchStamp h, ← zeros_writeNat hfit, hfour]
  rfl

/-- A later clock of one day has a later tail behind the date. The clocks are taken at whole
seconds, as the stamp shows no more. -/
theorem clock_below {m n : Int} (hm : 0 ≤ m) (hn : n < 86400000000)
    (h : m / 1000000 < n / 1000000) :
    Below (padDigits 2 (clockOf m).hour ++ (padDigits 2 (clockOf m).minute ++
        (padDigits 2 (clockOf m).second ++ [0x5A])))
      (padDigits 2 (clockOf n).hour ++ (padDigits 2 (clockOf n).minute ++
        (padDigits 2 (clockOf n).second ++ [0x5A]))) := by
  unfold clockOf
  dsimp only
  have hhour : m.toNat / 1000000 / 3600 < n.toNat / 1000000 / 3600 ∨
      m.toNat / 1000000 / 3600 = n.toNat / 1000000 / 3600 ∧
        (m.toNat / 1000000 / 60 % 60 < n.toNat / 1000000 / 60 % 60 ∨
          m.toNat / 1000000 / 60 % 60 = n.toNat / 1000000 / 60 % 60 ∧
            m.toNat / 1000000 % 60 < n.toNat / 1000000 % 60) := by omega
  refine field_below (by omega) (hhour.imp id fun ⟨heq, hminute⟩ => ⟨heq, ?_⟩)
  refine field_below (by omega) (hminute.imp id fun ⟨heq, hlast⟩ => ⟨heq, ?_⟩)
  exact field_below (by omega) (.inl hlast)

/-- A later second is one of a later day, or of a later clock on the same day. -/
theorem day_lt_or_clock_lt {t u : Timestamp} (h : secondOf t < secondOf u) :
    dayOf t < dayOf u ∨ dayOf t = dayOf u ∧ microsOf t / 1000000 < microsOf u / 1000000 := by
  have hsplit : ∀ m n : Int, m / 1000000 < n / 1000000 →
      m / 86400000000 < n / 86400000000 ∨ m / 86400000000 = n / 86400000000 ∧
        (m - m / 86400000000 * 86400000000) / 1000000 <
          (n - n / 86400000000 * 86400000000) / 1000000 := fun m n hmn => by omega
  exact hsplit t u h

/-- A later second has a later stamp. -/
theorem batchStamp_lt {t u : Timestamp} (ht : IsDatetime t) (hu : IsDatetime u)
    (hty : 1000 ≤ yearOf t) (huy : 1000 ≤ yearOf u) (h : secondOf t < secondOf u) :
    batchStamp t < batchStamp u := by
  obtain ⟨-, -, htm, htm', htd, -⟩ := civilOfDay_exists ht.1 ht.2
  obtain ⟨-, huy', hum, hum', hud, -⟩ := civilOfDay_exists hu.1 hu.2
  have hud31 := day_le_31 hu
  refine lt_of_points (points_batchStamp_padded ht hty) (points_batchStamp_padded hu huy) ?_
  rw [stampTail, stampTail, List.append_assoc, List.append_assoc]
  unfold yearOf at hty huy ⊢
  refine field_below (by omega) ?_
  rcases day_lt_or_clock_lt h with hlt | ⟨heq, hmicros⟩
  · rcases civilOfDay_lt hlt with hyear | ⟨hyear, hmonth⟩
    · exact .inl (by omega)
    refine .inr ⟨by rw [hyear], field_below (by omega) ?_⟩
    rcases hmonth with hmonth | ⟨hmonth, hlast⟩
    · exact .inl (by omega)
    · exact .inr ⟨by rw [hmonth], field_below (by omega) (.inl (by omega))⟩
  · rw [heq]
    refine .inr ⟨rfl, field_below (by omega) (.inr ⟨rfl, field_below (by omega) (.inr ⟨rfl, ?_⟩)⟩)⟩
    simp only [List.append_assoc]
    exact .inr ⟨rfl, clock_below (microsOf_range t).1 (microsOf_range u).2 hmicros⟩

/-- Of two batches of one DAG the later has the greater id: the ids begin alike and the stamps
decide. -/
theorem batchId_lt {b b' : BatchIdentity} (hdag : b.dagId = b'.dagId)
    (ht : IsDatetime b.logicalDate) (ht' : IsDatetime b'.logicalDate)
    (hy : 1000 ≤ yearOf b.logicalDate) (hy' : 1000 ≤ yearOf b'.logicalDate)
    (h : secondOf b.logicalDate < secondOf b'.logicalDate) : b.batchId < b'.batchId := by
  have hstamp := String.lt_iff_toList_lt.1 (batchStamp_lt ht ht' hy hy' h)
  rw [String.lt_iff_toList_lt, BatchIdentity.batchId, BatchIdentity.batchId, hdag]
  simp only [String.toList_append]
  exact List.append_left_lt hstamp

/-- The batch ids of a DAG sort in the order of their logical dates, second by second, from the
year 1000 on. -/
theorem batchId_lt_iff {b b' : BatchIdentity} (hdag : b.dagId = b'.dagId)
    (ht : IsDatetime b.logicalDate) (ht' : IsDatetime b'.logicalDate)
    (hy : 1000 ≤ yearOf b.logicalDate) (hy' : 1000 ≤ yearOf b'.logicalDate) :
    b.batchId < b'.batchId ↔ secondOf b.logicalDate < secondOf b'.logicalDate := by
  refine ⟨fun h => ?_, batchId_lt hdag ht ht' hy hy'⟩
  rcases lt_trichotomy (secondOf b.logicalDate) (secondOf b'.logicalDate) with h' | h' | h'
  · exact h'
  · rw [(batchId_eq_iff ht ht').2 ⟨hdag, h'⟩] at h
    exact absurd h (lt_irrefl _)
  · exact absurd h (lt_asymm (batchId_lt hdag.symm ht' ht hy' hy h'))

end CommercePlatform
