import CommercePlatform.Common.Isoformat
import CommercePlatform.Platform.Player
/-!
# Batches have names of their own

A table batch is named by its DAG, its logical date and its table,
`{dag_id}__{stamp}__{table}`, and its four objects have keys made of the same parts. The
names are the identity of a batch everywhere: the key of `bronze_objects`, the object
key that must not exist yet when an object is uploaded, the id that tells a rerun from a
new batch. If two batches shared a name, one would be taken for the other; if two
requests for one batch had different names, it would be ingested twice.

A DAG may have any characters in its name, also `__` and digits that look like a stamp.
The names tell their parts apart all the same, because the table has no `__`, the time
no `_`, and neither has a `/`:

- `tableBatchId_eq_iff` reads a table batch id from its end. Behind the last `__` stands
  a text without another (`rpartitionUnderscores_single`), which is the table, and
  before it in the same way the stamp;
- `objectKeys_shared` reads a key by its slashes. The first three parts have none
  (`keyText_injective`), and no two of the four kinds of key share a prefix and a file
  name.

The time is cut to the second, so logical dates within one second share their names. And
`%Y` is not padded: the stamp of a year before 1000 is shorter than the 16 characters
that `_dag_id_from_batch_id` asks for, which therefore reads the DAG of a later year
only (`dagIdFromBatchId_batchId`). With it, `tableBatchIdentity_eq_ok` says exactly
which requests `_table_batch_identity` lets through.

The dates are those of `Common.Isoformat`; that a stamp determines its second is that
the fields of a date determine the day (`Common.CivilDates`).
-/

namespace CommercePlatform

open Lib Lib.Json Ingestion Platform

/-- The second of a time: what is left of it in a stamp. -/
def secondOf (t : Timestamp) : Int := t / 1000000

/-- The year of a time. -/
def yearOf (t : Timestamp) : Int := (civilOfDay (dayOf t)).year

/-- The fields of a stamp behind the year. -/
def stampTail (t : Timestamp) : CodePoints :=
  padDigits 2 (civilOfDay (dayOf t)).month.toNat ++ padDigits 2 (civilOfDay (dayOf t)).day.toNat ++
    0x54 :: (padDigits 2 (clockOf (microsOf t)).hour ++ padDigits 2 (clockOf (microsOf t)).minute ++
      padDigits 2 (clockOf (microsOf t)).second ++ [0x5A])

theorem points_padded_one (n : Int) : points (padded 1 n) = writeNat n.toNat := by
  have hdigits : points (toString n.toNat) = writeNat n.toNat := by
    rw [points, writeNat]
    exact congrArg _ Nat.toList_repr
  have hlength : 0 < (toString n.toNat).length := by
    have hpos : 0 < (writeNat n.toNat).length := by
      obtain ⟨d, rest, heq, -⟩ := writeNat_cons n.toNat
      rw [heq]
      exact Nat.succ_pos _
    rwa [← hdigits, points, List.length_map, String.length_toList] at hpos
  rw [padded, points_append, points_ofList, hdigits, Nat.sub_eq_zero_of_le hlength]
  rfl

theorem day_le_31 {t : Timestamp} (h : IsDatetime t) : (civilOfDay (dayOf t)).day ≤ 31 := by
  obtain ⟨-, -, -, -, -, hd⟩ := civilOfDay_exists h.1 h.2
  refine hd.trans ?_
  unfold daysInMonth
  repeat' split
  all_goals omega

theorem points_batchStamp {t : Timestamp} (h : IsDatetime t) :
    points (batchStamp t) = writeNat (yearOf t).toNat ++ stampTail t := by
  obtain ⟨-, -, hm, hm', hd, -⟩ := civilOfDay_exists h.1 h.2
  have hd31 := day_le_31 h
  obtain ⟨hlow, hhigh⟩ := microsOf_range t
  have hT : points "T" = [0x54] := by decide
  have hZ : points "Z" = [0x5A] := by decide
  have htext : batchStamp t = padded 1 (yearOf t) ++ padded 2 (civilOfDay (dayOf t)).month ++
      padded 2 (civilOfDay (dayOf t)).day ++ "T" ++ padded 2 (microsOf t / 1000000 / 3600) ++
      padded 2 (microsOf t / 1000000 / 60 % 60) ++ padded 2 (microsOf t / 1000000 % 60) ++ "Z" := rfl
  -- `%Y` is the year without padding, and the other fields have two digits
  rw [htext, stampTail]
  generalize microsOf t = micros at hlow hhigh
  have hhour : (micros / 1000000 / 3600).toNat = (clockOf micros).hour := by
    unfold clockOf
    dsimp only
    omega
  have hminute : (micros / 1000000 / 60 % 60).toNat = (clockOf micros).minute := by
    unfold clockOf
    dsimp only
    omega
  have hsecond : (micros / 1000000 % 60).toNat = (clockOf micros).second := by
    unfold clockOf
    dsimp only
    omega
  simp only [points_append, hT, hZ, points_padded_one]
  rw [points_padded (w := 1) (by omega), points_padded (w := 1) (by omega),
    points_padded (w := 1) (by omega), points_padded (w := 1) (by omega),
    points_padded (w := 1) (by omega), hhour, hminute, hsecond]
  simp only [List.append_assoc, List.cons_append, List.nil_append]

theorem length_stampTail (t : Timestamp) : (stampTail t).length = 12 := by
  simp [stampTail, length_padDigits]

/-- A field of two digits, and what is behind it. -/
theorem padDigits_two_append {m n : Nat} (hm : m < 100) (hn : n < 100) {s s' : CodePoints}
    (h : padDigits 2 m ++ s = padDigits 2 n ++ s') : m = n ∧ s = s' := by
  have hread := twoDigits_padDigits hm s
  rw [h, twoDigits_padDigits hn] at hread
  obtain ⟨hnumber, hrest⟩ := Prod.mk.inj (Option.some.inj hread)
  exact ⟨hnumber.symm, hrest.symm⟩

/-- The tail tells the month, the day and the second of the day: all its fields have two digits. -/
theorem stampTail_injective {t u : Timestamp} (ht : IsDatetime t) (hu : IsDatetime u)
    (h : stampTail t = stampTail u) :
    (civilOfDay (dayOf t)).month = (civilOfDay (dayOf u)).month ∧
      (civilOfDay (dayOf t)).day = (civilOfDay (dayOf u)).day ∧
      microsOf t / 1000000 = microsOf u / 1000000 := by
  obtain ⟨-, -, htm, htm', htd, -⟩ := civilOfDay_exists ht.1 ht.2
  obtain ⟨-, -, hum, hum', hud, -⟩ := civilOfDay_exists hu.1 hu.2
  have htd31 := day_le_31 ht
  have hud31 := day_le_31 hu
  obtain ⟨htlow, hthigh⟩ := microsOf_range t
  obtain ⟨hulow, huhigh⟩ := microsOf_range u
  unfold stampTail at h
  generalize microsOf t = m at htlow hthigh h ⊢
  generalize microsOf u = n at hulow huhigh h ⊢
  obtain ⟨hth, htmin, hts, -⟩ := clockOf_valid htlow hthigh
  obtain ⟨huh, humin, hus, -⟩ := clockOf_valid hulow huhigh
  -- field by field from the left
  simp only [List.append_assoc] at h
  obtain ⟨hmonth, h⟩ := padDigits_two_append (by omega) (by omega) h
  obtain ⟨hday, h⟩ := padDigits_two_append (by omega) (by omega) h
  obtain ⟨hhour, h⟩ := padDigits_two_append (by omega) (by omega) (List.cons.inj h).2
  obtain ⟨hminute, h⟩ := padDigits_two_append (by omega) (by omega) h
  obtain ⟨hsecond, -⟩ := padDigits_two_append (by omega) (by omega) h
  refine ⟨by omega, by omega, ?_⟩
  unfold clockOf at hhour hminute hsecond
  dsimp only at hhour hminute hsecond
  omega

theorem batchStamp_eq_iff {t u : Timestamp} (ht : IsDatetime t) (hu : IsDatetime u) :
    batchStamp t = batchStamp u ↔ secondOf t = secondOf u := by
  have hsplit : ∀ n : Int, n / 1000000 =
      n / 86400000000 * 86400 + (n - n / 86400000000 * 86400000000) / 1000000 := fun n => by omega
  have hsecond : ∀ v : Timestamp, secondOf v = dayOf v * 86400 + microsOf v / 1000000 := fun v =>
    hsplit v
  have hbound : ∀ v : Timestamp, 0 ≤ microsOf v / 1000000 ∧ microsOf v / 1000000 < 86400 := by
    intro v
    obtain ⟨hlow, hhigh⟩ := microsOf_range v
    omega
  rw [hsecond, hsecond]
  constructor
  · intro h
    have hpoints := congrArg points h
    rw [points_batchStamp ht, points_batchStamp hu] at hpoints
    -- all but the year has a fixed width, so the texts are cut behind the year
    obtain ⟨hyears, htails⟩ := List.append_inj' hpoints
      ((length_stampTail t).trans (length_stampTail u).symm)
    obtain ⟨hmonth, hday, hmicros⟩ := stampTail_injective ht hu htails
    obtain ⟨hty, -⟩ := civilOfDay_exists ht.1 ht.2
    obtain ⟨huy, -⟩ := civilOfDay_exists hu.1 hu.2
    have hyear : (yearOf t).toNat = (yearOf u).toNat := by
      rw [← natOf_writeNat (yearOf t).toNat, hyears, natOf_writeNat]
    -- equal fields are an equal date, and a date is of one day
    have hdate : civilOfDay (dayOf t) = civilOfDay (dayOf u) := by
      have hy : (civilOfDay (dayOf t)).year = (civilOfDay (dayOf u)).year := by
        unfold yearOf at hyear
        omega
      generalize civilOfDay (dayOf t) = d at *
      generalize civilOfDay (dayOf u) = e at *
      cases d
      cases e
      simp only [CivilDate.mk.injEq]
      exact ⟨hy, hmonth, hday⟩
    rw [civilOfDay_injective hdate, hmicros]
  · intro h
    have htb := hbound t
    have hub := hbound u
    -- one second is one day and one clock
    have hday : dayOf t = dayOf u := by omega
    have hmicros : microsOf t / 1000000 = microsOf u / 1000000 := by omega
    unfold microsOf at hmicros
    unfold batchStamp
    dsimp only
    rw [hmicros, hday]

theorem length_writeNat {n : Nat} (h : n < 10000) : (writeNat n).length = 4 ↔ 1000 ≤ n := by
  have hthree : (writeNat n).length ≤ 3 ↔ n < 10 ^ 3 := by
    rw [writeNat, List.length_map]
    exact Nat.length_toDigits_le_iff (by decide) (by decide)
  have hfour : (writeNat n).length ≤ 4 ↔ n < 10 ^ 4 := by
    rw [writeNat, List.length_map]
    exact Nat.length_toDigits_le_iff (by decide) (by decide)
  omega

/-- A stamp has the 16 characters of the standard form exactly from the year 1000 on. -/
theorem length_batchStamp {t : Timestamp} (h : IsDatetime t) :
    (batchStamp t).toList.length = 16 ↔ 1000 ≤ yearOf t := by
  obtain ⟨hy, hy', -⟩ := civilOfDay_exists h.1 h.2
  have hyear : 1 ≤ yearOf t ∧ yearOf t ≤ 9999 := ⟨hy, hy'⟩
  have hlength : (batchStamp t).toList.length = (writeNat (yearOf t).toNat).length + 12 := by
    rw [← length_stampTail t, ← List.length_append, ← points_batchStamp h, points, List.length_map]
  have hfour := length_writeNat (n := (yearOf t).toNat) (by omega)
  omega

/-- A text, read from its end, without two underscores side by side and not starting with one.
Such a text cannot take part in the `__` before it. -/
def single : List Char → Bool
  | [] => true
  | '_' :: rest =>
    match rest with
    | [] => false
    | c :: _ => c ≠ '_' && single rest
  | _ :: rest => single rest

theorem single_of_notMem : ∀ {rest : List Char}, '_' ∉ rest → single rest = true
  | [], _ => rfl
  | c :: rest, h => by
    obtain ⟨hc, hrest⟩ := not_or.1 (mt List.mem_cons.2 h)
    have hmore : single (c :: rest) = single rest := by
      rw [single]
      exact fun hc' => hc hc'.symm
    rw [hmore, single_of_notMem hrest]

/-- Behind the last `__` stands a text without another: `str.rpartition` finds the separator the
name was made with. -/
theorem rpartitionUnderscores_single : ∀ {rest : List Char} (before after : List Char),
    single rest = true →
      rpartitionUnderscores (rest ++ '_' :: '_' :: before) after =
        some (before.reverse, rest.reverse ++ after)
  | [], before, after, _ => rfl
  | c :: rest, before, after, h => by
    have hmore : single rest = true ∧ rpartitionUnderscores (c :: rest ++ '_' :: '_' :: before) after =
        rpartitionUnderscores (rest ++ '_' :: '_' :: before) (c :: after) := by
      -- an underscore of the rest has no second one behind it, so the search goes on
      by_cases hc : c = '_'
      · subst hc
        cases rest with
        | nil => cases h
        | cons d rest =>
          have hd : d ≠ '_' ∧ single (d :: rest) = true := by
            rw [single] at h
            simpa using h
          refine ⟨hd.2, ?_⟩
          rw [List.cons_append, rpartitionUnderscores]
          intro more _ heq
          exact hd.1 (List.cons.inj heq).1
      · constructor
        · rw [single] at h
          · exact h
          · exact hc
        · rw [List.cons_append, rpartitionUnderscores]
          intro more heq _
          exact hc heq
    rw [hmore.2, rpartitionUnderscores_single before (c :: after) hmore.1, List.reverse_cons,
      List.append_assoc]
    rfl

/-- Texts with a last part without `__` have the same parts. -/
theorem parts_of_underscores {a a' b b' : String} (hb : single b.toList.reverse = true)
    (hb' : single b'.toList.reverse = true) (h : a ++ "__" ++ b = a' ++ "__" ++ b') :
    a = a' ∧ b = b' := by
  have hparts : ∀ {x y : String}, single y.toList.reverse = true →
      rpartitionUnderscores (x ++ "__" ++ y).toList.reverse [] = some (x.toList, y.toList) := by
    intro x y hy
    have hlist : (x ++ "__" ++ y).toList.reverse =
        y.toList.reverse ++ '_' :: '_' :: x.toList.reverse := by
      simp [String.toList_append]
    rw [hlist, rpartitionUnderscores_single _ _ hy, List.reverse_reverse, List.reverse_reverse,
      List.append_nil]
  have hsame := hparts (x := a) hb
  rw [h, hparts hb'] at hsame
  obtain ⟨ha, hb⟩ := Prod.mk.inj (Option.some.inj hsame)
  exact ⟨(String.toList_inj.1 ha).symm, (String.toList_inj.1 hb).symm⟩

theorem mem_tableConfigs {table : String} {c : TableConfig} (h : tableConfig table = .ok c) :
    c ∈ tableConfigs := by
  unfold tableConfig at h
  split at h
  next config hf =>
    cases h
    exact List.mem_of_find?_eq_some hf
  next => cases h

/-- No two underscores side by side in the name of a table. -/
theorem single_sourceTable {table : String} {c : TableConfig} (h : tableConfig table = .ok c) :
    single c.sourceTable.toList.reverse = true ∧ '/' ∉ c.sourceTable.toList := by
  have hall : ∀ c ∈ tableConfigs,
      single c.sourceTable.toList.reverse = true ∧ '/' ∉ c.sourceTable.toList := by decide
  exact hall c (mem_tableConfigs h)

/-- Only digits and two letters. -/
theorem batchStamp_chars {t : Timestamp} (h : IsDatetime t) {c : Char}
    (hc : c ∈ (batchStamp t).toList) : c ≠ '_' ∧ c ≠ '/' := by
  have hmem : c.toNat ∈ points (batchStamp t) := List.mem_map.2 ⟨c, hc, rfl⟩
  have hrange : isDigit c.toNat = true ∨ c.toNat = 0x54 ∨ c.toNat = 0x5A := by
    rw [points_batchStamp h, stampTail] at hmem
    simp only [List.mem_append, List.mem_cons, List.not_mem_nil, or_false] at hmem
    rcases hmem with hmem | (hmem | hmem) | hmem | ((hmem | hmem) | hmem) | hmem
    · exact .inl (isDigit_writeNat hmem)
    · exact .inl (isDigit_padDigits hmem)
    · exact .inl (isDigit_padDigits hmem)
    · exact .inr (.inl hmem)
    · exact .inl (isDigit_padDigits hmem)
    · exact .inl (isDigit_padDigits hmem)
    · exact .inl (isDigit_padDigits hmem)
    · exact .inr (.inr hmem)
  constructor
  all_goals
    rintro rfl
    revert hrange
    decide

/-! ## Batch ids -/

section Ids

variable {b b' : BatchIdentity} (ht : IsDatetime b.logicalDate) (ht' : IsDatetime b'.logicalDate)

include ht ht'

theorem batchId_eq_iff :
    b.batchId = b'.batchId ↔ b.dagId = b'.dagId ∧ secondOf b.logicalDate = secondOf b'.logicalDate := by
  have hsingle : ∀ {t : Timestamp}, IsDatetime t → single (batchStamp t).toList.reverse = true :=
    fun h => single_of_notMem fun hc => (batchStamp_chars h (List.mem_reverse.1 hc)).1 rfl
  rw [← batchStamp_eq_iff ht ht']
  constructor
  · intro h
    exact parts_of_underscores (hsingle ht) (hsingle ht') h
  · rintro ⟨hdag, hstamp⟩
    rw [BatchIdentity.batchId, BatchIdentity.batchId, hdag, hstamp]

/-- Table batches share their id only within one second of one DAG and table, for any DAG ids and
any years. -/
theorem tableBatchId_eq_iff {table table' : String} {c c' : TableConfig}
    (hc : tableConfig table = .ok c) (hc' : tableConfig table' = .ok c') :
    b.tableBatchId c = b'.tableBatchId c' ↔ b.dagId = b'.dagId ∧
      secondOf b.logicalDate = secondOf b'.logicalDate ∧ c.sourceTable = c'.sourceTable := by
  constructor
  · intro h
    obtain ⟨hbatch, htable⟩ := parts_of_underscores (single_sourceTable hc).1
      (single_sourceTable hc').1 h
    obtain ⟨hdag, hsecond⟩ := (batchId_eq_iff ht ht').1 hbatch
    exact ⟨hdag, hsecond, htable⟩
  · rintro ⟨hdag, hsecond, htable⟩
    rw [BatchIdentity.tableBatchId, BatchIdentity.tableBatchId, htable,
      (batchId_eq_iff ht ht').2 ⟨hdag, hsecond⟩]

end Ids

/-- Of the second day of 1970. -/
def hourly : BatchIdentity := ⟨"hourly", 86400000000, by decide⟩

/-- A DAG whose name ends like an id of the other. -/
def hourlyLike : BatchIdentity := ⟨"hourly__19700102T000000Z", 86400000000, by decide⟩

theorem ordersTable_registered : tableConfig "orders" = .ok ordersTable := rfl

theorem tableBatchId_hourly_ne :
    hourly.tableBatchId ordersTable ≠ hourlyLike.tableBatchId ordersTable := by decide

theorem tableBatchId_eq_iff_hourly :
    ¬ (hourly.dagId = hourlyLike.dagId ∧
      secondOf hourly.logicalDate = secondOf hourlyLike.logicalDate ∧
        ordersTable.sourceTable = ordersTable.sourceTable) :=
  mt (tableBatchId_eq_iff (by decide) (by decide) ordersTable_registered
    ordersTable_registered).2 tableBatchId_hourly_ne

/-! ## Object keys -/

/-- The keys of the four objects a table batch may have: the Bronze data and its manifest, the
quarantine records and theirs. -/
def objectKeys (sourceTable batchId : String) (logicalDate : Timestamp) : List String :=
  let (data, manifest) := tableObjectKeys sourceTable batchId logicalDate
  let (records, rejectManifest) := quarantineObjectKeys sourceTable batchId logicalDate
  [data, manifest, records, rejectManifest]

/-- A key is made of its prefix, the table, the date, the batch and the file. -/
def keyText (stem table date batchId file : String) : String :=
  stem ++ "/" ++ table ++ "/ingestion_date=" ++ date ++ "/batch_id=" ++ batchId ++ file

/-- The prefixes and the files of the four. -/
def keyKinds : List (String × String) :=
  [("bronze", "/data.parquet"), ("bronze", "/manifest.json"), ("quarantine", "/records.parquet"),
    ("quarantine", "/manifest.json")]

theorem objectKeys_eq (sourceTable batchId : String) (logicalDate : Timestamp) :
    objectKeys sourceTable batchId logicalDate =
      keyKinds.map fun kind => keyText kind.1 sourceTable (isoDate logicalDate) batchId kind.2 := rfl

/-- Two files of one prefix that may end a key alike are one. -/
theorem file_of_end : ∀ k ∈ keyKinds, ∀ k' ∈ keyKinds, k.1 = k'.1 →
    k.2.toList.getLast? = k'.2.toList.getLast? → k = k' := by decide

theorem stem_chars : ∀ k ∈ keyKinds, '/' ∉ k.1.toList := by decide

theorem file_nonempty : ∀ k ∈ keyKinds, k.2.toList ≠ [] := by decide

/-- Before the first separator stands one part only. -/
theorem part_of_separator {sep : Char} : ∀ {a a' b b' : List Char}, sep ∉ a → sep ∉ a' →
    a ++ sep :: b = a' ++ sep :: b' → a = a' ∧ b = b'
  | [], [], _, _, _, _, h => ⟨rfl, (List.cons.inj h).2⟩
  | [], d :: a', _, _, _, h', h => absurd (List.mem_cons.2 (.inl (List.cons.inj h).1)) h'
  | c :: a, [], _, _, h, _, heq => absurd (List.mem_cons.2 (.inl (List.cons.inj heq).1.symm)) h
  | c :: a, d :: a', b, b', h, h', heq => by
    obtain ⟨rfl, hmore⟩ := List.cons.inj heq
    obtain ⟨rfl, rfl⟩ := part_of_separator (fun hc => h (List.mem_cons_of_mem _ hc))
      (fun hc => h' (List.mem_cons_of_mem _ hc)) hmore
    exact ⟨rfl, rfl⟩

/-- The parts between the slashes, where the first three have none. The batch id behind them may
have any character. -/
theorem keyText_injective {k k' : String × String} (hk : k ∈ keyKinds) (hk' : k' ∈ keyKinds)
    {table table' date date' batchId batchId' : String} (ht : '/' ∉ table.toList)
    (ht' : '/' ∉ table'.toList) (hd : '/' ∉ date.toList) (hd' : '/' ∉ date'.toList)
    (h : keyText k.1 table date batchId k.2 = keyText k'.1 table' date' batchId' k'.2) :
    k = k' ∧ table = table' ∧ batchId = batchId' := by
  have hlist : ∀ stem table date batchId file : String,
      (keyText stem table date batchId file).toList = stem.toList ++ '/' :: (table.toList ++ '/' ::
        ("ingestion_date=".toList ++ date.toList ++ '/' ::
          ("batch_id=".toList ++ batchId.toList ++ file.toList))) := by
    intro stem table date batchId file
    simp [keyText, String.toList_append]
  have hdate : ∀ {date : String}, '/' ∉ date.toList →
      '/' ∉ "ingestion_date=".toList ++ date.toList := by
    intro date hdate hmem
    rcases List.mem_append.1 hmem with hmem | hmem
    · exact absurd hmem (by decide)
    · exact hdate hmem
  have htext := congrArg String.toList h
  rw [hlist, hlist] at htext
  -- the separators split the key into its parts, none of which holds a separator
  obtain ⟨hstem, htext⟩ := part_of_separator (stem_chars k hk) (stem_chars k' hk') htext
  obtain ⟨htable, htext⟩ := part_of_separator ht ht' htext
  obtain ⟨-, hrest⟩ := part_of_separator (hdate hd) (hdate hd') htext
  -- the file name is told by the last character, as it follows the batch id without a separator
  have hlast : k.2.toList.getLast? = k'.2.toList.getLast? := by
    have hends := congrArg List.getLast? hrest
    rwa [List.getLast?_append_of_ne_nil _ (file_nonempty k hk),
      List.getLast?_append_of_ne_nil _ (file_nonempty k' hk')] at hends
  obtain rfl := file_of_end k hk k' hk' (String.toList_inj.1 hstem) hlast
  refine ⟨rfl, String.toList_inj.1 htable, String.toList_inj.1 ?_⟩
  exact List.append_cancel_left (List.append_cancel_right hrest)

theorem isoDate_chars {t : Timestamp} (h : IsDatetime t) : '/' ∉ (isoDate t).toList := by
  intro hc
  have hmem : '/'.toNat ∈ points (isoDate t) := List.mem_map.2 ⟨'/', hc, rfl⟩
  rw [points_isoDate h, dateText] at hmem
  simp only [List.mem_append, List.mem_cons] at hmem
  have hdigit : ∀ {w n : Nat}, '/'.toNat ∉ padDigits w n := fun hd =>
    absurd (isDigit_padDigits hd) (by decide)
  rcases hmem with hmem | hmem | hmem | hmem | hmem
  · exact hdigit hmem
  · exact absurd hmem (by decide)
  · exact hdigit hmem
  · exact absurd hmem (by decide)
  · exact hdigit hmem

/-- A key belongs to one table batch only, and is one of its four objects only: if two batches
share a key, they are one table batch and the key is at one place of the four. -/
theorem objectKeys_shared {b b' : BatchIdentity} (ht : IsDatetime b.logicalDate)
    (ht' : IsDatetime b'.logicalDate) {table table' : String} {c c' : TableConfig}
    (hc : tableConfig table = .ok c) (hc' : tableConfig table' = .ok c') :
    (objectKeys c.sourceTable b.batchId b.logicalDate).Nodup ∧
      ∀ key ∈ objectKeys c.sourceTable b.batchId b.logicalDate,
        key ∈ objectKeys c'.sourceTable b'.batchId b'.logicalDate →
          b.tableBatchId c = b'.tableBatchId c' := by
  rw [objectKeys_eq, objectKeys_eq]
  constructor
  · refine List.Nodup.map_on (fun k hk k' hk' h => ?_) (by decide)
    exact (keyText_injective hk hk' (single_sourceTable hc).2 (single_sourceTable hc).2
      (isoDate_chars ht) (isoDate_chars ht) h).1
  · intro key hkey hkey'
    obtain ⟨k, hk, rfl⟩ := List.mem_map.1 hkey
    obtain ⟨k', hk', h⟩ := List.mem_map.1 hkey'
    obtain ⟨-, htable, hbatch⟩ := keyText_injective hk' hk (single_sourceTable hc').2
      (single_sourceTable hc).2 (isoDate_chars ht') (isoDate_chars ht) h
    rw [BatchIdentity.tableBatchId, BatchIdentity.tableBatchId, hbatch, htable]

theorem objectKeys_shared_hourly :
    (objectKeys "orders" hourly.batchId hourly.logicalDate).Nodup ∧
      ¬ ∃ key ∈ objectKeys "orders" hourly.batchId hourly.logicalDate,
        key ∈ objectKeys "orders" hourlyLike.batchId hourlyLike.logicalDate := by
  have hdate : IsDatetime hourly.logicalDate := by decide
  have hdate' : IsDatetime hourlyLike.logicalDate := by decide
  obtain ⟨hdistinct, hshared⟩ :=
    objectKeys_shared hdate hdate' ordersTable_registered ordersTable_registered
  exact ⟨hdistinct, fun ⟨key, hkey, hkey'⟩ => tableBatchId_hourly_ne (hshared key hkey hkey')⟩

/-- The DAG of a standard id is read back from the year 1000 on, and from no id before: there the
stamp has fewer characters than the check asks for. -/
theorem dagIdFromBatchId_batchId {b : BatchIdentity} (ht : IsDatetime b.logicalDate) :
    dagIdFromBatchId b.batchId = if 1000 ≤ yearOf b.logicalDate then .ok b.dagId
      else .error ⟨.valueError, "batch_id must use the standard DAG logical-date format"⟩ := by
  have hsingle : single (batchStamp b.logicalDate).toList.reverse = true :=
    single_of_notMem fun hc => (batchStamp_chars ht (List.mem_reverse.1 hc)).1 rfl
  have hlist : b.batchId.toList.reverse =
      (batchStamp b.logicalDate).toList.reverse ++ '_' :: '_' :: b.dagId.toList.reverse := by
    simp [BatchIdentity.batchId, String.toList_append]
  have hparts : rpartitionUnderscores b.batchId.toList.reverse [] =
      some (b.dagId.toList, (batchStamp b.logicalDate).toList) := by
    rw [hlist, rpartitionUnderscores_single _ _ hsingle, List.reverse_reverse, List.reverse_reverse,
      List.append_nil]
  rw [dagIdFromBatchId, hparts]
  dsimp only
  by_cases hyear : 1000 ≤ yearOf b.logicalDate
  · rw [if_pos hyear, if_pos ((length_batchStamp ht).2 hyear), String.ofList_toList]
  · rw [if_neg hyear, if_neg (mt (length_batchStamp ht).1 hyear)]

/-- `_table_batch_identity` accepts a request exactly where its id is the standard one of some
DAG and its logical date, of a year from 1000 on; what it gives is that identity. -/
theorem tableBatchIdentity_eq_ok {request : TableIngestionRequest}
    (ht : IsDatetime request.logicalDate) {b : BatchIdentity} :
    tableBatchIdentity request = .ok b ↔ b.batchId = request.batchId ∧
      b.logicalDate = request.logicalDate ∧ 1000 ≤ yearOf request.logicalDate := by
  rw [tableBatchIdentity, bind_eq_ok]
  constructor
  · rintro ⟨dagId, hdag, h⟩
    obtain ⟨standard, hstandard, h⟩ := bind_eq_ok.1 h
    obtain ⟨u, hid, h⟩ := bind_eq_ok.1 h
    have hstandardId : standard.batchId = request.batchId := require_eq_ok.1 hid
    obtain rfl : standard = b := Except.ok.inj h
    have hdate : standard.logicalDate = request.logicalDate := by
      rw [BatchIdentity.make] at hstandard
      split at hstandard
      · cases hstandard
        rfl
      · cases hstandard
    refine ⟨hstandardId, hdate, ?_⟩
    by_contra hyear
    rw [← hstandardId, dagIdFromBatchId_batchId (hdate ▸ ht), if_neg (hdate ▸ hyear)] at hdag
    cases hdag
  · rintro ⟨hid, hdate, hyear⟩
    refine ⟨b.dagId, ?_, bind_eq_ok.2 ⟨b, ?_, bind_eq_ok.2 ⟨(), require_eq_ok.2 hid, rfl⟩⟩⟩
    · rw [← hid, dagIdFromBatchId_batchId (hdate ▸ ht), if_pos (hdate ▸ hyear)]
    · rw [BatchIdentity.make, dif_pos b.named, ← hdate]

theorem tableBatchIdentity_eq_ok_sample :
    tableBatchIdentity (sampleRequest "orders" ⟨_, ordersTable_registered⟩) =
      .ok ⟨"d", 86400000000, by decide⟩ :=
  (tableBatchIdentity_eq_ok (by decide)).2 ⟨by decide, rfl, by decide⟩

end CommercePlatform
