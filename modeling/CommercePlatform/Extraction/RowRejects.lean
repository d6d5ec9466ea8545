import CommercePlatform.Extraction.Partition
/-!
# When a reject fails the batch

A record that breaks a row rule is meant to end in the quarantine file. On its way there
it passes the parent lookup, the comparison with a minimum and the JSON encoder, and
each of them raises on values that are themselves what the record is rejected for, or
that every record of its table holds: a null parent key, a NaN, a `uuid.UUID` or an
`object()` in the payload.

`rowRejects_iff` says exactly which batches are written: those that are `Writable`, page
by page. The condition is about the records a page has after its corruption: parent keys
are texts, no NaN meets a minimum, and a record that breaks a rule can be encoded.

The proof has one lemma for each function a record passes, saying exactly when it
returns (`findBroken_returns`, `domainAndNumericErrors_returns`,
`quarantineRow_returns`, `arrowRow_returns`), and one for what a page is rejected for
(`validatePage_rejected`), since the payload is only built of rejected records.
`page_returns` puts them together for one page; the batch is an induction on its pages,
with the records before a page as what a repeated key can be found in.

That a record fits the Arrow schema of the Bronze file follows from its types, but for
the range of a number: values are those the driver returns for a column or a corruption
makes (`DriverValue`), and every decimal column has a minimum.
-/

namespace CommercePlatform

open Lib

/-- `_json_default` knows no other type than `datetime` and `Decimal`. -/
def JsonEncodable : SourceValue → Prop
  | .uuid _ | .object _ => False
  | _ => True

instance (v : SourceValue) : Decidable (JsonEncodable v) := by
  cases v <;> unfold JsonEncodable <;> infer_instance

theorem jsonMember_returns {e : String × SourceValue} :
    (∃ s, jsonMember e = .ok s) ↔ JsonEncodable e.2 := by
  obtain ⟨name, v⟩ := e
  cases v <;> simp [jsonMember, jsonValue, JsonEncodable, Bind.bind, Except.bind, pure, Except.pure]

theorem canonicalJson_returns {values : List (String × SourceValue)} :
    (∃ s, canonicalJson values = .ok s) ↔ ∀ e ∈ values, JsonEncodable e.2 := by
  have hmapM : (∃ s, canonicalJson values = .ok s) ↔
      ∃ members, (values.insertionSort fun a b => a.1 ≤ b.1).mapM jsonMember = .ok members := by
    constructor
    · rintro ⟨s, h⟩
      obtain ⟨members, hmembers, -⟩ := bind_eq_ok.1 h
      exact ⟨members, hmembers⟩
    · rintro ⟨members, h⟩
      exact ⟨_, bind_eq_ok.2 ⟨members, h, rfl⟩⟩
  rw [hmapM, mapM_returns]
  simp only [jsonMember_returns, (List.perm_insertionSort _ values).mem_iff]

/-- A quarantine row is built wherever its payload is. -/
theorem quarantineRow_returns {ρ : Type} {rules : RecordRules ρ} {uuid5 : String → String}
    {context : QuarantineWriteContext} {rejected : RejectedRecord ρ} :
    (∃ row, quarantineRow rules uuid5 context rejected = .ok row) ↔
      ∃ s, rules.rawPayload rejected.record = .ok s := by
  have hid : isBlank context.tableBatchId = false := by
    rw [Bool.eq_false_iff]
    intro h
    have hall : ∀ c ∈ context.tableBatchId.toList, isSpace c = true := List.all_eq_true.1 h
    have hspace := hall '_' (by simp [QuarantineWriteContext.tableBatchId])
    revert hspace
    decide
  simp only [quarantineRow, quarantineRecordId, require, hid, if_true, bind_eq_ok]
  constructor
  · rintro ⟨row, id, -, payload, hpayload, -⟩
    exact ⟨payload, hpayload⟩
  · rintro ⟨payload, hpayload⟩
    exact ⟨_, _, ⟨(), trivial, rfl⟩, payload, hpayload, rfl⟩

section Parents

variable {config : TableConfig} {parents : ParentReference → List String}

/-- A parent of the record is not in the snapshot. -/
def MissesParent (config : TableConfig) (parents : ParentReference → List String)
    (r : SourceRecord config) : Prop :=
  ∃ reference ∈ childParentReferences config.sourceTable, ∃ key,
    r.value reference.childColumn = .text key ∧ key ∉ parents reference

/-- Every parent key of the record is a text. -/
def HasParentKeys (config : TableConfig) (r : SourceRecord config) : Prop :=
  ∀ reference ∈ childParentReferences config.sourceTable, ∃ key,
    r.value reference.childColumn = .text key

/-- The lookup of one reference. -/
def lookUp (parents : ParentReference → List String) (records : List (SourceRecord config))
    (reference : ParentReference) : Except Raised (List (List CursorKey)) := do
  let present ← parentKeys parents reference (records.map fun r => r.value reference.childColumn)
  let cursors ← records.mapM (brokenCursor reference present)
  return cursors.flatten

theorem lookUp_returns {records : List (SourceRecord config)} {reference : ParentReference} :
    (∃ cursors, lookUp parents records reference = .ok cursors) ↔
      ∀ r ∈ records, ∃ key, r.value reference.childColumn = .text key := by
  simp only [lookUp, parentKeys, bind_eq_ok, require_eq_ok]
  constructor
  · rintro ⟨-, present, ⟨-, hkeys, hpresent⟩, cursors, hcursors, -⟩ r hr
    have hkey := List.all_eq_true.1 hkeys _ (List.mem_map_of_mem hr)
    obtain ⟨cs, hcs⟩ := mapM_returns.1 ⟨cursors, hcursors⟩ r hr
    -- the query wants null or a text, the loop a text or an integer
    unfold brokenCursor at hcs
    cases hvalue : r.value reference.childColumn with
    | text key => exact ⟨key, rfl⟩
    | null => simp [hvalue] at hcs
    | int n => simp [hvalue] at hkey
    | bool b => simp [hvalue] at hkey
    | decimal d => simp [hvalue] at hkey
    | timestamp t => simp [hvalue] at hkey
    | uuid u => simp [hvalue] at hkey
    | object n => simp [hvalue] at hkey
  · intro h
    obtain ⟨cursors, hcursors⟩ : ∃ cursors, records.mapM (brokenCursor reference
        ((parents reference).filter fun key => .text key ∈
          records.map fun r => r.value reference.childColumn)) = .ok cursors := by
      refine mapM_returns.2 fun r hr => ?_
      obtain ⟨key, hkey⟩ := h r hr
      unfold brokenCursor
      rw [hkey]
      exact ⟨_, rfl⟩
    refine ⟨_, _, ⟨(), List.all_eq_true.2 fun v hv => ?_, rfl⟩, cursors, hcursors, rfl⟩
    obtain ⟨r, hr, rfl⟩ := List.mem_map.1 hv
    obtain ⟨key, hkey⟩ := h r hr
    rw [hkey]

/-- Where the lookup of a reference returns, it found the children without that parent. -/
theorem mem_lookUp {records : List (SourceRecord config)} {reference : ParentReference}
    {cursors : List (List CursorKey)} (h : lookUp parents records reference = .ok cursors)
    {keys : List CursorKey} :
    keys ∈ cursors ↔ ∃ r ∈ records, r.cursor.keys = keys ∧ ∃ key,
      r.value reference.childColumn = .text key ∧ key ∉ parents reference := by
  have htexts := lookUp_returns.1 ⟨cursors, h⟩
  simp only [lookUp, parentKeys, bind_eq_ok, require_eq_ok] at h
  obtain ⟨present, ⟨-, -, hpresent⟩, parts, hparts, hret⟩ := h
  cases hpresent
  cases hret
  -- one record: its key was asked for, so what is not among the answers is not in the parent table
  have hone : ∀ r ∈ records, ∀ part, brokenCursor reference
      ((parents reference).filter fun key => .text key ∈
        records.map fun r => r.value reference.childColumn) r = .ok part →
      (keys ∈ part ↔ r.cursor.keys = keys ∧ ∃ key,
        r.value reference.childColumn = .text key ∧ key ∉ parents reference) := by
    intro r hr part hpart
    obtain ⟨key, hkey⟩ := htexts r hr
    have hasked : SourceValue.text key ∈ records.map fun r => r.value reference.childColumn :=
      List.mem_map.2 ⟨r, hr, hkey⟩
    have hpresent : key ∈ ((parents reference).filter fun key => .text key ∈
        records.map fun r => r.value reference.childColumn) ↔ key ∈ parents reference := by
      rw [List.mem_filter, decide_eq_true_iff]
      exact and_iff_left hasked
    unfold brokenCursor at hpart
    simp only [hkey, hpresent] at hpart
    cases hpart
    by_cases hmem : key ∈ parents reference
    · simp [hmem, hkey]
    · simp [hmem, hkey, eq_comm]
  rw [List.mem_flatten]
  constructor
  · rintro ⟨part, hpart, hkeys⟩
    obtain ⟨r, hr, hrpart⟩ := (mem_mapM hparts).1 hpart
    exact ⟨r, hr, (hone r hr part hrpart).1 hkeys⟩
  · rintro ⟨r, hr, hbroken⟩
    obtain ⟨part, hrpart⟩ := mapM_returns.1 ⟨parts, hparts⟩ r hr
    exact ⟨part, (mem_mapM hparts).2 ⟨r, hr, hrpart⟩, (hone r hr part hrpart).2 hbroken⟩

/-- The parent lookup of a page returns exactly when all its parent keys are texts: a null in the
query is compared in Python, and anything else is refused by the driver. -/
theorem findBroken_returns {records : List (SourceRecord config)} :
    (∃ broken, findBrokenParentReferences config parents records = .ok broken) ↔
      ∀ r ∈ records, HasParentKeys config r := by
  have hmapM : (∃ broken, findBrokenParentReferences config parents records = .ok broken) ↔
      ∃ parts, (childParentReferences config.sourceTable).mapM (lookUp parents records) =
        .ok parts := by
    constructor
    · rintro ⟨broken, h⟩
      obtain ⟨parts, hparts, -⟩ := bind_eq_ok.1 h
      exact ⟨parts, hparts⟩
    · rintro ⟨parts, h⟩
      exact ⟨_, bind_eq_ok.2 ⟨parts, h, rfl⟩⟩
  rw [hmapM, mapM_returns]
  simp only [lookUp_returns, HasParentKeys]
  exact ⟨fun h r hr reference href => h reference href r hr,
    fun h reference href r hr => h r hr reference href⟩

theorem mem_findBroken {records : List (SourceRecord config)} {broken : List (List CursorKey)}
    (h : findBrokenParentReferences config parents records = .ok broken) {keys : List CursorKey} :
    keys ∈ broken ↔ ∃ r ∈ records, r.cursor.keys = keys ∧ MissesParent config parents r := by
  obtain ⟨parts, hparts, hret⟩ := bind_eq_ok.1 h
  cases hret
  have hparts : (childParentReferences config.sourceTable).mapM (lookUp parents records) =
      .ok parts := hparts
  rw [List.mem_flatten]
  constructor
  · rintro ⟨part, hpart, hkeys⟩
    obtain ⟨reference, href, hlookUp⟩ := (mem_mapM hparts).1 hpart
    obtain ⟨r, hr, hcursor, hmiss⟩ := (mem_lookUp hlookUp).1 hkeys
    exact ⟨r, hr, hcursor, reference, href, hmiss⟩
  · rintro ⟨r, hr, hcursor, reference, href, hmiss⟩
    obtain ⟨part, hlookUp⟩ := mapM_returns.1 ⟨parts, hparts⟩ reference href
    exact ⟨part, (mem_mapM hparts).2 ⟨reference, href, hlookUp⟩,
      (mem_lookUp hlookUp).2 ⟨r, hr, hcursor, hmiss⟩⟩

end Parents

/-! ## What a record is rejected for -/

section Rejected

variable {config : TableConfig}

theorem keysEqual_trans {a b c : SourceRecord config} (hab : keysEqual config a b = true)
    (hbc : keysEqual config b c = true) : keysEqual config a c = true := by
  unfold keysEqual at *
  rw [List.all_eq_true] at *
  exact fun column hcolumn => SourceValue.eqv_trans (hab column hcolumn) (hbc column hcolumn)

/-- The key of an earlier record, which had one, comes again. -/
def RepeatsKey (earlier : List (SourceRecord config)) (r : SourceRecord config) : Prop :=
  ∃ e ∈ earlier, keyIsNull config e = false ∧ keysEqual config r e = true

/-- A record breaks a row rule: by its own values, by its key, which `earlier` holds, or by its
cursor, which is that of a broken reference. -/
def BreaksRule (broken : List CursorKey → Prop) (earlier : List (SourceRecord config))
    (r : SourceRecord config) : Prop :=
  schemaAndTypeErrors config r.values ≠ [] ∨ keyIsNull config r = true ∨ RepeatsKey earlier r ∨
    domainAndNumericErrors config r.values ≠ .ok [] ∨ broken r.cursor.keys

/-- The keys seen are those of the earlier records. -/
def SeenKeys (seen earlier : List (SourceRecord config)) : Prop :=
  ∀ r, seen.any (keysEqual config r) = true ↔ RepeatsKey earlier r

variable {lower upper : CursorPosition} {broken : List (List CursorKey)}
  {seen seen' earlier : List (SourceRecord config)} {r : SourceRecord config}

theorem seenKeys_nil : @SeenKeys config [] [] := fun r => by simp [RepeatsKey]

/-- A record without a code breaks no rule, and what is remembered of it is its key. -/
theorem validateRecord_codes {errorCodes : List String} (hseen : SeenKeys seen earlier)
    (h : validateRecord (tableRules config) lower upper broken seen r = .ok (errorCodes, seen')) :
    (errorCodes = [] ↔ ¬ BreaksRule (· ∈ broken) earlier r) ∧ SeenKeys seen' (earlier ++ [r]) := by
  have hrepeats : ∀ q, RepeatsKey (earlier ++ [r]) q ↔
      RepeatsKey earlier q ∨ keyIsNull config r = false ∧ keysEqual config q r = true := by
    intro q
    simp only [RepeatsKey, List.mem_append, List.mem_singleton]
    constructor
    · rintro ⟨e, he | rfl, hkey⟩
      · exact .inl ⟨e, he, hkey⟩
      · exact .inr hkey
    · rintro (⟨e, he, hkey⟩ | hkey)
      · exact ⟨e, .inl he, hkey⟩
      · exact ⟨r, .inr rfl, hkey⟩
  unfold validateRecord at h
  simp only [bind_eq_ok] at h
  obtain ⟨-, -, inRange, -, -, -, hrest⟩ := h
  have hbroken : ∀ {codes : List String},
      (codes ++ if (r.cursor).keys ∈ broken then ["BROKEN_REFERENCE"] else []) = [] ↔
        codes = [] ∧ r.cursor.keys ∉ broken := by
    intro codes
    rw [List.append_eq_nil_iff]
    by_cases hb : r.cursor.keys ∈ broken <;> simp [hb]
  have hseen' : ∀ q, seen.any (keysEqual config q) = true ↔ RepeatsKey earlier q := hseen
  split at hrest
  next hnull =>
    obtain ⟨errors, herrors, hret⟩ := hrest
    obtain ⟨rfl, rfl⟩ := Prod.mk.inj (Except.ok.inj hret)
    have hnull : keyIsNull config r = true := hnull
    refine ⟨iff_of_false (by simp) (not_not.2 (.inr (.inl hnull))), fun q => ?_⟩
    rw [hseen' q, hrepeats]
    simp [hnull]
  next hnull =>
    have hnull : keyIsNull config r = false := Bool.eq_false_iff.2 hnull
    split at hrest
    next hdup =>
      obtain ⟨errors, herrors, hret⟩ := hrest
      obtain ⟨rfl, rfl⟩ := Prod.mk.inj (Except.ok.inj hret)
      have hrep := (hseen' r).1 hdup
      refine ⟨iff_of_false (by simp) (not_not.2 (.inr (.inr (.inl hrep)))), fun q => ?_⟩
      -- a key equal to this one is equal to the one seen before
      rw [hseen' q, hrepeats]
      refine ⟨.inl, ?_⟩
      rintro (h | ⟨-, hqr⟩)
      · exact h
      · obtain ⟨e, he, hkey, hre⟩ := hrep
        exact ⟨e, he, hkey, keysEqual_trans hqr hre⟩
    next hdup =>
      obtain ⟨errors, herrors, hret⟩ := hrest
      obtain ⟨rfl, rfl⟩ := Prod.mk.inj (Except.ok.inj hret)
      have hrep : ¬ RepeatsKey earlier r := fun h => hdup ((hseen' r).2 h)
      have herrors : domainAndNumericErrors config r.values = .ok errors := herrors
      refine ⟨?_, fun q => ?_⟩
      · have herrors' : domainAndNumericErrors config r.values = .ok [] ↔ errors = [] := by
          rw [herrors]
          exact ⟨fun h => Except.ok.inj h, fun h => by rw [h]⟩
        refine hbroken.trans ?_
        rw [List.append_nil, List.append_eq_nil_iff]
        show (schemaAndTypeErrors config r.values = [] ∧ errors = []) ∧ _ ↔ _
        simp [BreaksRule, hnull, hrep, herrors', and_assoc]
      · rw [List.any_cons, Bool.or_eq_true, hseen' q, hrepeats]
        simp [hnull, or_comm]

/-- A page that was validated: every record's own checks returned. -/
theorem validatePage_domain {page : List (SourceRecord config)} {ordinal : Nat}
    {v : ValidatedPage (SourceRecord config)}
    (h : validatePage (tableRules config) lower upper broken page ordinal seen = .ok v) :
    ∀ r ∈ page, ∃ errors, domainAndNumericErrors config r.values = .ok errors := by
  induction page generalizing ordinal seen v with
  | nil => exact fun r hr => absurd hr List.not_mem_nil
  | cons record page ih =>
    simp only [validatePage, bind_eq_ok] at h
    obtain ⟨⟨errorCodes, seen'⟩, hrecord, rest, hrest, -⟩ := h
    refine List.forall_mem_cons.2 ⟨?_, ih hrest⟩
    unfold validateRecord at hrecord
    simp only [bind_eq_ok] at hrecord
    obtain ⟨-, -, inRange, -, -, -, hkey⟩ := hrecord
    split at hkey
    next =>
      obtain ⟨errors, herrors, -⟩ := hkey
      exact ⟨errors, herrors⟩
    next =>
      split at hkey <;> obtain ⟨errors, herrors, -⟩ := hkey <;> exact ⟨errors, herrors⟩

/-- The rejected records of a page are those that break a rule after the ones before them;
the others are valid. -/
theorem validatePage_rejected {page : List (SourceRecord config)} {ordinal : Nat}
    {v : ValidatedPage (SourceRecord config)} (hseen : SeenKeys seen earlier)
    (h : validatePage (tableRules config) lower upper broken page ordinal seen = .ok v) :
    (∀ r, (∃ x ∈ v.rejectedRecords, x.record = r) ↔
      ∃ xs ys, page = xs ++ r :: ys ∧ BreaksRule (· ∈ broken) (earlier ++ xs) r) ∧
    (∀ r ∈ v.validRecords, ∃ xs ys, page = xs ++ r :: ys ∧ ¬ BreaksRule (· ∈ broken) (earlier ++ xs) r) ∧
    SeenKeys v.seen (earlier ++ page) := by
  induction page generalizing ordinal seen earlier v with
  | nil =>
    cases h
    refine ⟨fun r => by simp, fun r hr => absurd hr List.not_mem_nil, ?_⟩
    rw [List.append_nil]
    exact hseen
  | cons record page ih =>
    simp only [validatePage, bind_eq_ok] at h
    obtain ⟨⟨errorCodes, seen'⟩, hrecord, rest, hrest, hret⟩ := h
    obtain ⟨hcodes, hseen'⟩ := validateRecord_codes hseen hrecord
    obtain ⟨hrejected, hvalid, hfinal⟩ := ih hseen' hrest
    simp only [List.append_assoc, List.singleton_append] at hrejected hvalid hfinal
    -- a cut of the longer page is at its first record or behind it
    have hcut : ∀ {r : SourceRecord config} {P : List (SourceRecord config) → Prop},
        (∃ xs ys, record :: page = xs ++ r :: ys ∧ P xs) ↔
          (r = record ∧ P []) ∨ ∃ xs ys, page = xs ++ r :: ys ∧ P (record :: xs) := by
      intro r P
      constructor
      · rintro ⟨xs, ys, heq, hP⟩
        cases xs with
        | nil =>
          obtain ⟨rfl, rfl⟩ := List.cons.inj heq
          exact .inl ⟨rfl, hP⟩
        | cons x xs =>
          obtain ⟨rfl, rfl⟩ := List.cons.inj heq
          exact .inr ⟨xs, ys, rfl, hP⟩
      · rintro (⟨rfl, hP⟩ | ⟨xs, ys, rfl, hP⟩)
        · exact ⟨[], page, rfl, hP⟩
        · exact ⟨record :: xs, ys, rfl, hP⟩
    by_cases hempty : errorCodes = []
    · rw [if_pos hempty] at hret
      cases hret
      have hkept : ¬ BreaksRule (· ∈ broken) (earlier ++ []) record := by
        rw [List.append_nil]
        exact hcodes.1 hempty
      refine ⟨fun r => ?_, fun r hr => ?_, hfinal⟩
      · rw [hcut (P := fun xs => BreaksRule (· ∈ broken) (earlier ++ xs) r), ← hrejected r]
        refine ⟨.inr, ?_⟩
        rintro (⟨rfl, hbreaks⟩ | h)
        · exact absurd hbreaks hkept
        · exact h
      · rw [hcut (P := fun xs => ¬ BreaksRule (· ∈ broken) (earlier ++ xs) r)]
        rcases List.mem_cons.1 hr with rfl | hr
        · exact .inl ⟨rfl, hkept⟩
        · exact .inr (hvalid r hr)
    · rw [if_neg hempty] at hret
      cases hret
      have hbreaks : BreaksRule (· ∈ broken) (earlier ++ []) record := by
        rw [List.append_nil]
        exact not_not.1 fun h => hempty (hcodes.2 h)
      refine ⟨fun r => ?_, fun r hr => ?_, hfinal⟩
      · rw [hcut (P := fun xs => BreaksRule (· ∈ broken) (earlier ++ xs) r), ← hrejected r,
          List.exists_mem_cons_iff]
        refine or_congr ⟨?_, fun h => h.1.symm⟩ Iff.rfl
        rintro rfl
        exact ⟨rfl, hbreaks⟩
      · exact hcut.2 (.inr (hvalid r hr))

end Rejected

section Batch

variable {config : TableConfig}

/-- The records a plan makes of the pages. -/
def corruptPages {ρ : Type} (rules : RecordRules ρ) (plan : Option CorruptionPlan) :
    List (List ρ) → Nat → Except Raised (List (List ρ))
  | [], _ => .ok []
  | page :: pages, ordinal => do
    let (records, _) ← injectCorruption rules plan page ordinal
    let rest ← corruptPages rules plan pages (ordinal + page.length)
    return records :: rest

/-- A value as a column of the Source database or a corruption yields it: an `INTEGER`, a
`NUMERIC(14, 2)`, or any other. -/
def DriverValue : SourceValue → Prop
  | .int n => -2 ^ 31 ≤ n ∧ n < 2 ^ 31
  | .decimal (.finite c s) => s = 2 ∧ c.natAbs < 10 ^ 14
  | _ => True

instance (v : SourceValue) : Decidable (DriverValue v) := by
  unfold DriverValue
  split <;> infer_instance

/-- A page that can be written, behind the records of the pages before it: the conditions of the
lookup, of the checks and of the two writers. -/
structure Writable (config : TableConfig) (parents : ParentReference → List String)
    (earlier page : List (SourceRecord config)) : Prop where
  /-- Every parent key is a text. -/
  parentKeys : ∀ r ∈ page, HasParentKeys config r
  /-- No NaN is compared with a minimum. -/
  numbers : ∀ r ∈ page, ¬ NanAtMinimum config r.values
  /-- A record that breaks a rule holds no UUID and no `object()`. -/
  payloads : ∀ xs r ys, page = xs ++ r :: ys →
    BreaksRule (fun keys => ∃ q ∈ page, q.cursor.keys = keys ∧ MissesParent config parents q)
      (earlier ++ xs) r →
    ∀ e ∈ r.values, JsonEncodable e.2

/-- In the registered tables every decimal column has a minimum. -/
private theorem decimal_minimum : ∀ config ∈ tableConfigs, ∀ column ∈ config.sourceColumns,
    column.type = .decimal → ∃ entry ∈ config.numericMinimums,
      entry.1 = column.name ∧ config.column entry.1 = some column := by
  decide

/-- A record fits the Arrow schema of its table but for the types validation rejects. -/
theorem arrowRow_returns (hconfig : config ∈ tableConfigs) {r : SourceRecord config}
    (hvalues : ∀ e ∈ r.values, DriverValue e.2) (hnumbers : ¬ NanAtMinimum config r.values) :
    arrowRow config r = .ok () := by
  refine require_eq_ok.2 (List.all_eq_true.2 fun column hcolumn => ?_)
  -- a value that is there came from the driver, so its Python type is that of its column
  have hdriver : ∀ v, r.value column.name = v → v ≠ .null → DriverValue v := by
    rintro v rfl hnull
    obtain ⟨e, he, hvalue⟩ := valueOf_mem hnull
    have := hvalues e he
    rwa [hvalue] at this
  -- every decimal column has a minimum, so a NaN in it was rejected before
  have hnan : column.type = .decimal → r.value column.name ≠ .decimal .nan := by
    intro htype hnan
    obtain ⟨entry, hentry, hname, hfound⟩ := decimal_minimum config hconfig column hcolumn htype
    exact hnumbers ⟨entry, hentry, column, hfound, htype, by rw [hname]; exact hnan⟩
  cases hv : r.value column.name with
  | int n =>
    have hn : -2 ^ 31 ≤ n ∧ n < 2 ^ 31 := hdriver _ hv SourceValue.noConfusion
    cases column.type <;> simp [fitsArrowType]
    omega
  | decimal d =>
    cases d with
    | finite c s =>
      obtain ⟨rfl, hc⟩ : s = 2 ∧ c.natAbs < 10 ^ 14 := hdriver _ hv SourceValue.noConfusion
      cases column.type <;> simp [fitsArrowType]
      omega
    | nan =>
      cases htype : column.type with
      | decimal => exact absurd hv (hnan htype)
      | string | int32 | bool | timestampUs => rfl
  | null | text _ | bool _ | timestamp _ | uuid _ | object _ => cases column.type <;> rfl

/-- What the file of a batch holds: a row for each rejected record, in order. -/
theorem writePages_rows {ρ : Type} {rules : RecordRules ρ} {lower upper : CursorPosition}
    {plan : Option CorruptionPlan} {brokenCursors : List ρ → Except Raised (List (List CursorKey))}
    {toRow : RejectedRecord ρ → Except Raised QuarantineRow} {pages : List (List ρ)}
    {rowsExtracted : Nat} {seen : List ρ} {a : LocalArtifacts ρ}
    (h : writePages rules lower upper plan brokenCursors toRow pages rowsExtracted seen = .ok a) :
    a.rejectedRecords.mapM toRow = .ok a.quarantineRows := by
  induction pages generalizing rowsExtracted seen a with
  | nil =>
    cases h
    rfl
  | cons page pages ih =>
    simp only [writePages, bind_eq_ok] at h
    obtain ⟨_, -, _, -, validated, -, _, -, rows, hrows, rest, hrest, hret⟩ := h
    cases hret
    exact mapM_append_eq_ok hrows (ih hrest)

variable {parents : ParentReference → List String} {uuid5 : String → String}
  {context : QuarantineWriteContext} {lower upper : CursorPosition}

/-- One page, after its corruption: the lookup, the validation and the two writers return exactly
where the page is writable. -/
theorem page_returns (hconfig : config ∈ tableConfigs)
    {seen earlier page : List (SourceRecord config)} {ordinal : Nat}
    (hseen : SeenKeys seen earlier)
    (hrange : ∀ r ∈ page, cursorInRange r.cursor lower upper = .ok true)
    (hvalues : ∀ r ∈ page, ∀ e ∈ r.values, DriverValue e.2) :
    (∃ broken v rows, findBrokenParentReferences config parents page = .ok broken ∧
      validatePage (tableRules config) lower upper broken page ordinal seen = .ok v ∧
      v.validRecords.forM (arrowRow config) = .ok () ∧
      v.rejectedRecords.mapM (quarantineRow (tableRules config) uuid5 context) = .ok rows) ↔
    Writable config parents earlier page := by
  have hbroken : ∀ {broken}, findBrokenParentReferences config parents page = .ok broken →
      (fun keys => ∃ q ∈ page, q.cursor.keys = keys ∧ MissesParent config parents q) =
        (· ∈ broken) := by
    intro broken h
    funext keys
    exact propext (mem_findBroken h).symm
  constructor
  · rintro ⟨broken, v, rows, hlookUp, hvalidate, -, hrows⟩
    -- a rejected record is written with its values as JSON, an accepted one as an Arrow row
    obtain ⟨hrejected, -, -⟩ := validatePage_rejected hseen hvalidate
    refine ⟨findBroken_returns.1 ⟨broken, hlookUp⟩, ?_, ?_⟩
    · exact fun r hr => domainAndNumericErrors_returns.1 (validatePage_domain hvalidate r hr)
    · intro xs r ys hpage hbreaks
      rw [hbroken hlookUp] at hbreaks
      obtain ⟨x, hx, rfl⟩ := (hrejected r).2 ⟨xs, ys, hpage, hbreaks⟩
      exact canonicalJson_returns.1 (quarantineRow_returns.1 (mapM_returns.1 ⟨rows, hrows⟩ x hx))
  · rintro ⟨hparents, hnumbers, hpayloads⟩
    -- the four calls in their order, each of which returns on a writable page
    obtain ⟨broken, hlookUp⟩ := findBroken_returns.2 hparents
    obtain ⟨v, hvalidate⟩ : ∃ v,
        validatePage (tableRules config) lower upper broken page ordinal seen = .ok v :=
      validatePage_returns fun r hr => ⟨schemaMismatch_notMem r, hrange r hr,
        domainAndNumericErrors_returns.2 (hnumbers r hr)⟩
    obtain ⟨hrejected, hvalid, -⟩ := validatePage_rejected hseen hvalidate
    have harrow : v.validRecords.forM (arrowRow config) = .ok () := by
      refine forM_returns.2 fun r hr => ?_
      obtain ⟨xs, ys, rfl, -⟩ := hvalid r hr
      have hmem : r ∈ xs ++ r :: ys := by simp
      exact arrowRow_returns hconfig (hvalues r hmem) (hnumbers r hmem)
    obtain ⟨rows, hrows⟩ : ∃ rows, v.rejectedRecords.mapM
        (quarantineRow (tableRules config) uuid5 context) = .ok rows := by
      refine mapM_returns.2 fun x hx => quarantineRow_returns.2 (canonicalJson_returns.2 ?_)
      obtain ⟨xs, ys, hpage, hbreaks⟩ := (hrejected x.record).1 ⟨x, hx, rfl⟩
      rw [← hbroken hlookUp] at hbreaks
      exact hpayloads xs x.record ys hpage hbreaks
    exact ⟨broken, v, rows, hlookUp, hvalidate, harrow, hrows⟩

/-- Every page can be written, behind the records of the pages before it. -/
def WritablePages (config : TableConfig) (parents : ParentReference → List String)
    (earlier : List (SourceRecord config)) (pages : List (List (SourceRecord config))) : Prop :=
  ∀ front page back, pages = front ++ page :: back →
    Writable config parents (earlier ++ front.flatten) page

theorem writablePages_cons {earlier page : List (SourceRecord config)}
    {pages : List (List (SourceRecord config))} :
    WritablePages config parents earlier (page :: pages) ↔
      Writable config parents earlier page ∧ WritablePages config parents (earlier ++ page) pages := by
  constructor
  · intro h
    refine ⟨by simpa using h [] page pages rfl, fun front p back heq => ?_⟩
    have hp := h (page :: front) p back (by rw [heq, List.cons_append])
    rwa [List.flatten_cons, ← List.append_assoc] at hp
  · rintro ⟨hpage, hpages⟩ front p back heq
    cases front with
    | nil =>
      obtain ⟨rfl, rfl⟩ := List.cons.inj heq
      simpa using hpage
    | cons q front =>
      obtain ⟨rfl, rfl⟩ := List.cons.inj heq
      rw [List.flatten_cons, ← List.append_assoc]
      exact hpages front p back rfl

theorem writePages_returns (hconfig : config ∈ tableConfigs) {plan : Option CorruptionPlan}
    {pages pages' : List (List (SourceRecord config))} {ordinal : Nat}
    {seen earlier : List (SourceRecord config)} (hseen : SeenKeys seen earlier)
    (hplan : corruptPages (tableRules config) plan pages ordinal = .ok pages')
    (hrange : ∀ page ∈ pages', ∀ r ∈ page, cursorInRange r.cursor lower upper = .ok true)
    (hvalues : ∀ page ∈ pages', ∀ r ∈ page, ∀ e ∈ r.values, DriverValue e.2) :
    (∃ a, writePages (tableRules config) lower upper plan
        (findBrokenParentReferences config parents)
        (quarantineRow (tableRules config) uuid5 context) pages ordinal seen = .ok a) ↔
      WritablePages config parents earlier pages' := by
  induction pages generalizing pages' ordinal seen earlier with
  | nil =>
    cases hplan
    exact iff_of_true ⟨_, rfl⟩ fun front page back heq => absurd heq (by simp)
  | cons page pages ih =>
    simp only [corruptPages, bind_eq_ok] at hplan
    obtain ⟨⟨records, corrupted⟩, hinject, pages', hpages', hret⟩ := hplan
    cases hret
    obtain ⟨hrangePage, hrange⟩ := List.forall_mem_cons.1 hrange
    obtain ⟨hvaluesPage, hvalues⟩ := List.forall_mem_cons.1 hvalues
    -- the first page by itself, the others behind its records
    have hpage : (∃ broken v rows, findBrokenParentReferences config parents records = .ok broken ∧
        validatePage (tableRules config) lower upper broken records ordinal seen = .ok v ∧
        v.validRecords.forM (arrowRow config) = .ok () ∧
        v.rejectedRecords.mapM (quarantineRow (tableRules config) uuid5 context) = .ok rows) ↔
          Writable config parents earlier records :=
      page_returns hconfig hseen hrangePage hvaluesPage
    rw [writablePages_cons, ← hpage]
    simp only [writePages, bind_eq_ok]
    constructor
    · rintro ⟨a, ⟨written, n⟩, hwritten, broken, hbroken, v, hv, u, harrow, rows, hrows, rest,
        hrest, -⟩
      obtain ⟨rfl, -⟩ := Prod.mk.inj (Except.ok.inj (hinject.symm.trans hwritten))
      have hfinal := (validatePage_rejected hseen hv).2.2
      exact ⟨⟨broken, v, rows, hbroken, hv, harrow, hrows⟩,
        (ih hfinal hpages' hrange hvalues).1 ⟨rest, hrest⟩⟩
    · rintro ⟨⟨broken, v, rows, hbroken, hv, harrow, hrows⟩, hwritable⟩
      have hfinal := (validatePage_rejected hseen hv).2.2
      obtain ⟨rest, hrest⟩ := (ih hfinal hpages' hrange hvalues).2 hwritable
      exact ⟨_, _, hinject, broken, hbroken, v, hv, (), harrow, rows, hrows, rest, hrest, rfl⟩

/-- The batch is written: there is one quarantine row for each rejected record. -/
def WritesEveryReject (config : TableConfig) (parents : ParentReference → List String)
    (uuid5 : String → String) (context : QuarantineWriteContext) (lower upper : CursorPosition)
    (plan : Option CorruptionPlan) (pages : List (List (SourceRecord config))) : Prop :=
  ∃ a, writePages (tableRules config) lower upper plan (findBrokenParentReferences config parents)
      (quarantineRow (tableRules config) uuid5 context) pages 0 [] = .ok a ∧
    a.rejectedRecords.mapM (quarantineRow (tableRules config) uuid5 context) =
      .ok a.quarantineRows ∧
    a.quarantineRows.length = a.rowsRejected

/-- A batch of records in range, of values the driver returns or the plan makes, is written
exactly when every page is writable: no record that breaks a rule holds a UUID or an
`object()`, no parent key is anything but a text, and no NaN meets a minimum. -/
theorem rowRejects_iff (hconfig : config ∈ tableConfigs) {plan : Option CorruptionPlan}
    {pages pages' : List (List (SourceRecord config))}
    (hplan : corruptPages (tableRules config) plan pages 0 = .ok pages')
    (hrange : ∀ page ∈ pages', ∀ r ∈ page, cursorInRange r.cursor lower upper = .ok true)
    (hvalues : ∀ page ∈ pages', ∀ r ∈ page, ∀ e ∈ r.values, DriverValue e.2) :
    WritesEveryReject config parents uuid5 context lower upper plan pages ↔
      WritablePages config parents [] pages' := by
  have hreturns : (∃ a, writePages (tableRules config) lower upper plan
      (findBrokenParentReferences config parents)
      (quarantineRow (tableRules config) uuid5 context) pages 0 [] = .ok a) ↔
        WritablePages config parents [] pages' :=
    writePages_returns hconfig seenKeys_nil hplan hrange hvalues
  rw [← hreturns]
  constructor
  · rintro ⟨a, ha, -⟩
    exact ⟨a, ha⟩
  · rintro ⟨a, ha⟩
    have hrows := writePages_rows ha
    exact ⟨a, ha, hrows, mapM_length hrows⟩

/-- An item with a negative number: the batch is written exactly if its pages are writable. -/
theorem negativeItem_iff :
    WritesEveryReject orderItemsTable (fun _ => ["a", "p", "s"]) id
        ⟨"d__20240101T000000Z", 1, 0, "order_items"⟩ .initial
        (SourceTable.itemRow "a" 9).cursor.position (some fun _ => some .negativeNumeric)
        [[(SourceTable.itemRow "a" 9).record]] ↔
      WritablePages orderItemsTable (fun _ => ["a", "p", "s"]) []
        [[(SourceTable.itemRow "a" 9).record.withValue "order_item_id" (.int (-1))]] :=
  rowRejects_iff (by simp [tableConfigs]) rfl (by decide) (by decide)

/-! A plan that makes the first subscription's status invalid: the record is rejected, and
its payload is refused for the UUID of its key. -/

/-- A subscription as the driver returns it. -/
def subscriptionRow : StoredRow customerSubscriptionsTable where
  values := [
    ("subscription_id", .uuid ⟨List.replicate 16 0, rfl⟩),
    ("customer_unique_id", .text "c"), ("subscription_status", .text "ACTIVE"),
    ("auto_renew_enabled", .bool true), ("subscription_started_at", .timestamp 0),
    ("current_period_started_at", .timestamp 0), ("current_period_ends_at", .timestamp 9),
    ("billing_due_at", .timestamp 9), ("next_payment_attempt_at", .timestamp 9),
    ("payment_failed_at", .null), ("cancel_requested_at", .null), ("ended_at", .null),
    ("status_changed_at", .timestamp 0), ("created_at", .timestamp 0), ("updated_at", .timestamp 5)]
  columns := rfl
  cursor := ⟨5, [.uuid ⟨List.replicate 16 0, rfl⟩], rfl⟩
  timestampColumn := rfl
  keyColumns := rfl

/-- `CorruptionPlan({0: INVALID_STATUS})`. -/
def firstStatusInvalid : CorruptionPlan := fun ordinal =>
  if ordinal = 0 then some .invalidStatus else none

/-- The context of the quarantine file. -/
def subscriptionContext : QuarantineWriteContext := ⟨"d__20240101T000000Z", 1, 0, "customer_subscriptions"⟩

private theorem subscription_artifacts :
    writePages (tableRules customerSubscriptionsTable) .initial subscriptionRow.cursor.position
      (some firstStatusInvalid)
      (findBrokenParentReferences customerSubscriptionsTable fun _ => [])
      (quarantineRow (tableRules customerSubscriptionsTable) id subscriptionContext)
      [[subscriptionRow.record]] 0 [] =
    .error ⟨.typeError, "Unsupported quarantine value: UUID"⟩ := by
  rfl

/-- Not every batch whose records only break row rules is written. -/
theorem subscription_reject_fails :
    ¬ ∀ (config : TableConfig) (parents : ParentReference → List String) (uuid5 : String → String)
      (context : QuarantineWriteContext) (lower upper : CursorPosition)
      (plan : Option CorruptionPlan) (pages pages' : List (List (SourceRecord config))),
      config ∈ tableConfigs → corruptPages (tableRules config) plan pages 0 = .ok pages' →
      (∀ page ∈ pages', ∀ r ∈ page, cursorInRange r.cursor lower upper = .ok true) →
      (∀ page ∈ pages', ∀ r ∈ page, ∀ e ∈ r.values, DriverValue e.2) →
      WritesEveryReject config parents uuid5 context lower upper plan pages := by
  intro h
  obtain ⟨a, ha, -⟩ := h customerSubscriptionsTable (fun _ => []) id subscriptionContext .initial
    subscriptionRow.cursor.position (some firstStatusInvalid) [[subscriptionRow.record]]
    [[subscriptionRow.record.withValue "subscription_status" (.text "__invalid_status__")]]
    (by simp [tableConfigs]) rfl (by decide) (by decide)
  rw [subscription_artifacts] at ha
  cases ha

end Batch

end CommercePlatform
