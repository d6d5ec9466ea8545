import Mathlib.Data.List.Basic
import Mathlib.Tactic.Common
import Mathlib.Tactic.FinCases
/-!
# The CSV reader of Python's `csv` module

The `excel` dialect of `csv.reader` over a text file opened with `newline=''`: a state
machine over the characters of each line and an end-of-line signal after it. A reader is
never strict, so quotes may stand anywhere; what it refuses is a field longer than the
field size limit.

Two readings of one file are compared with it, one by a validator and one by a loader,
so the results are about what *changes* between two readings:

* `rows_prepend` — what was read of a row before is only put in front of it, so the
  reader can be followed field by field;
* `csvReader_mark` — a character in front of the first field that the reader takes as
  text (a byte order mark left by the decoder) changes that field and nothing else;
* `csvReader_limit` — the limit stops the reader exactly where a field of the file, read
  without a limit, exceeds it; where it does not, it makes no difference.

The second one is a simulation: reading on with the mark in an unquoted field against
reading from the start of the field. The two readers are in different states, since the
quotes that open a field are text behind a mark; `rawBound` bounds how much longer the
raw text can be, and they meet again at the comma that ends the field in both
(`rows_mark_field`).

Mirroring notes vs `Modules/_csv.c`:
- Only the states and branches of the `excel` dialect are here: no escape character, no
  `skipinitialspace`, `QUOTE_MINIMAL` and not strict.
- `lineSignals` is the iteration over the file. A line is what Python's universal
  newlines with `newline=''` give, so it keeps its line break, and `none` stands for the
  `EOL` the reader processes after each line.
- The exception is a value: `rows` gives the rows yielded before it, since `for row in
  reader` has used them by then.
-/

namespace CommercePlatform.Lib.Csv

/-- The states of `Modules/_csv.c` that the `excel` dialect reaches. -/
inductive ReaderState where
  | startRecord | startField | inField | inQuotedField | quoteInQuotedField | eatCrnl
deriving DecidableEq, Repr

inductive Error where
  /-- `field larger than field limit`. -/
  | fieldLimit
  /-- `new-line character seen in unquoted field`. -/
  | newLine
deriving DecidableEq, Repr

/-- The reader within a record: its state, the field being read and the fields saved before it in
this row. -/
structure Reader where
  state : ReaderState
  field : List Char
  fields : List (List Char)
deriving DecidableEq, Repr

/-- `parse_reset`. -/
def Reader.start : Reader := ⟨.startRecord, [], []⟩

def isNewline (c : Char) : Bool := c == '\n' || c == '\r'

/-- `parse_save_field`, and the state to go on in. -/
def Reader.save (r : Reader) (state : ReaderState) : Reader := ⟨state, [], r.fields ++ [r.field]⟩

/-- `parse_add_char`, and the state to go on in. This is the one place the field size limit is
checked: before the character is added, against the length the field has then. -/
def Reader.add (limit : Option Nat) (r : Reader) (c : Char) (state : ReaderState) :
    Except Error Reader :=
  if ∀ n ∈ limit, r.field.length < n then .ok ⟨state, r.field ++ [c], r.fields⟩
  else .error .fieldLimit

/-- The state `START_FIELD`. -/
def processStartField (limit : Option Nat) (r : Reader) : Option Char → Except Error Reader
  | none => .ok (r.save .startRecord)
  | some c =>
    if isNewline c then .ok (r.save .eatCrnl)
    else if c = '"' then .ok { r with state := .inQuotedField }
    else if c = ',' then .ok (r.save .startField)
    else r.add limit c .inField

/-- `parse_process_char`; `none` is the end of a line. -/
def processChar (limit : Option Nat) (r : Reader) (c : Option Char) : Except Error Reader :=
  match r.state, c with
  | .startRecord, none => .ok r
  | .startRecord, some c =>
    if isNewline c then .ok { r with state := .eatCrnl } else processStartField limit r (some c)
  | .startField, c => processStartField limit r c
  | .inField, none => .ok (r.save .startRecord)
  | .inField, some c =>
    if isNewline c then .ok (r.save .eatCrnl)
    else if c = ',' then .ok (r.save .startField)
    else r.add limit c .inField
  | .inQuotedField, none => .ok r
  | .inQuotedField, some c =>
    if c = '"' then .ok { r with state := .quoteInQuotedField } else r.add limit c .inQuotedField
  | .quoteInQuotedField, none => .ok (r.save .startRecord)
  | .quoteInQuotedField, some c =>
    if c = '"' then r.add limit c .inQuotedField
    else if c = ',' then .ok (r.save .startField)
    else if isNewline c then .ok (r.save .eatCrnl)
    else r.add limit c .inField
  | .eatCrnl, none => .ok { r with state := .startRecord }
  | .eatCrnl, some c => if isNewline c then .ok r else .error .newLine

/-- The characters of a text file in turn, with `none` after each line. Lines end after `\n`,
`\r\n` or a `\r` on its own, and at the end of the file; an empty file has no line. -/
def lineSignals : List Char → List (Option Char)
  | [] => []
  | c :: cs =>
    if c = '\n' ∨ (c = '\r' ∧ cs.head? ≠ some '\n') ∨ cs = [] then some c :: none :: lineSignals cs
    else some c :: lineSignals cs

/-- A character within a line, or the last one of the file. -/
theorem lineSignals_cons {c : Char} {cs : List Char} (hc : ¬ isNewline c = true) :
    lineSignals (c :: cs) = some c :: if cs = [] then [none] else lineSignals cs := by
  have hne : c ≠ '\n' ∧ c ≠ '\r' := by simpa [isNewline] using hc
  rw [lineSignals]
  by_cases hempty : cs = []
  · simp [hempty, lineSignals]
  · simp [hempty, hne]

abbrev Row := List (List Char)

/-- The rows a reader yields, and the error it stops with. A quoted field that the end of the
file leaves open is saved, as `Reader_iternext` does where the dialect is not strict. -/
def rows (limit : Option Nat) : List (Option Char) → Reader → List Row × Option Error
  | [], r =>
    (if r.field ≠ [] ∨ r.state = .inQuotedField then [r.fields ++ [r.field]] else [], none)
  | c :: signals, r =>
    match processChar limit r c with
    | .error e => ([], some e)
    | .ok r' =>
      if c = none ∧ r'.state = .startRecord then
        (r'.fields :: (rows limit signals .start).1, (rows limit signals .start).2)
      else rows limit signals r'

/-- `csv.reader(file)` of a text. -/
def csvReader (limit : Option Nat) (text : List Char) : List Row × Option Error :=
  rows limit (lineSignals text) .start

example : csvReader (some 131072) "a,\"b\"\"c\"\r\n\r\nd,\"e\nf".toList =
    ([["a".toList, "b\"c".toList], [], ["d".toList, "e\nf".toList]], none) := by decide

variable {limit : Option Nat} {r r' : Reader} {c : Char} {signals : List (Option Char)}
  {row : Row} {data : List Row} {e : Option Error}

theorem rows_cons_error {c : Option Char} {e : Error} (h : processChar limit r c = .error e) :
    rows limit (c :: signals) r = ([], some e) := by
  simp only [rows, h]

theorem rows_some (h : processChar limit r (some c) = .ok r') :
    rows limit (some c :: signals) r = rows limit signals r' := by
  simp [rows, h]

theorem rows_none_continue (h : processChar limit r none = .ok r') (hstate : r'.state ≠ .startRecord) :
    rows limit (none :: signals) r = rows limit signals r' := by
  simp [rows, h, hstate]

theorem rows_none_record (h : processChar limit r none = .ok r') (hstate : r'.state = .startRecord) :
    rows limit (none :: signals) r =
      (r'.fields :: (rows limit signals .start).1, (rows limit signals .start).2) := by
  simp [rows, h, hstate]

/-- Put fields in front. -/
def Reader.prepend (p : Row) (r : Reader) : Reader := { r with fields := p ++ r.fields }

/-- Put fields in front of the first row. -/
def prependRow (p : Row) : List Row × Option Error → List Row × Option Error
  | ([], e) => ([], e)
  | (row :: data, e) => ((p ++ row) :: data, e)

theorem add_prepend (p : Row) (r : Reader) (c : Char) (state : ReaderState) :
    (r.prepend p).add limit c state = (r.add limit c state).map (Reader.prepend p) := by
  unfold Reader.add Reader.prepend
  split <;> rfl

theorem save_prepend (p : Row) (r : Reader) (state : ReaderState) :
    (r.prepend p).save state = (r.save state).prepend p := by
  simp [Reader.save, Reader.prepend]

theorem processChar_prepend (p : Row) (r : Reader) (c : Option Char) :
    processChar limit (r.prepend p) c = (processChar limit r c).map (Reader.prepend p) := by
  have hadd : ∀ c state, (r.prepend p).add limit c state =
      (r.add limit c state).map (Reader.prepend p) := fun c state => add_prepend p r c state
  have hsave := fun state => save_prepend p r state
  have hstart : ∀ c, processStartField limit (r.prepend p) c =
      (processStartField limit r c).map (Reader.prepend p) := by
    intro c
    cases c with
    | none => simp only [processStartField, hsave]; rfl
    | some c =>
      simp only [processStartField, hadd, hsave]
      split_ifs <;> rfl
  have hstate : (r.prepend p).state = r.state := rfl
  unfold processChar
  rw [hstate]
  cases r.state <;> cases c <;> simp only [hadd, hsave, hstart] <;> (try split_ifs) <;> rfl

/-- What was read of a row before is only put in front of it: no state of the machine looks at
the fields already saved. -/
theorem rows_prepend (p : Row) (signals : List (Option Char)) (r : Reader) :
    rows limit signals (r.prepend p) = prependRow p (rows limit signals r) := by
  induction signals generalizing r with
  | nil =>
    show (if r.field ≠ [] ∨ r.state = .inQuotedField then [p ++ r.fields ++ [r.field]] else [],
      none) = prependRow p
        (if r.field ≠ [] ∨ r.state = .inQuotedField then [r.fields ++ [r.field]] else [], none)
    by_cases h : r.field ≠ [] ∨ r.state = .inQuotedField
    · rw [if_pos h, if_pos h, List.append_assoc]
      rfl
    · rw [if_neg h, if_neg h]
      rfl
  | cons c signals ih =>
    simp only [rows, processChar_prepend]
    cases processChar limit r c with
    | error e => rfl
    | ok r' =>
      have hstate : (r'.prepend p).state = r'.state := rfl
      simp only [Except.map, hstate]
      by_cases h : c = none ∧ r'.state = .startRecord
      · simp only [if_pos h, prependRow, Reader.prepend]
      · simp only [if_neg h, ih]

/-- After the fields `p` a reader yields them first: the same reading from no fields, with `p`
put in front of its first row. -/
theorem rows_fields (p : Row) (state : ReaderState) (field : List Char) :
    rows limit signals ⟨state, field, p⟩ = prependRow p (rows limit signals ⟨state, field, []⟩) := by
  rw [← rows_prepend]
  simp [Reader.prepend]

theorem first_of_prependRow {p : Row} {out : List Row × Option Error}
    (h : prependRow p out = (row :: data, e)) :
    ∃ rest, out = (rest :: data, e) ∧ row = p ++ rest := by
  obtain ⟨rowList, e'⟩ := out
  cases rowList with
  | nil => cases h
  | cons first others =>
    cases h
    exact ⟨first, rfl, rfl⟩

/-- In the middle of a field a row is not over: the field goes on to be its first one, with what
was read of it as a prefix. -/
theorem exists_first {state : ReaderState} {field : List Char}
    (hstate : state ∈ [ReaderState.inField, .inQuotedField, .quoteInQuotedField])
    (h : rows limit signals ⟨state, field, []⟩ = (row :: data, e)) :
    ∃ first others, row = first :: others ∧ field <+: first := by
  induction signals generalizing state field with
  | nil =>
    simp only [rows] at h
    split at h
    next =>
      cases h
      exact ⟨field, [], rfl, List.prefix_rfl⟩
    next => cases h
  | cons c signals ih =>
    -- a saved field is the first one
    have hsaved : ∀ state, rows limit signals ⟨state, [], [field]⟩ = (row :: data, e) →
        ∃ first others, row = first :: others ∧ field <+: first := by
      intro state h
      rw [rows_fields] at h
      obtain ⟨rest, -, hrow⟩ := first_of_prependRow h
      exact ⟨field, rest, hrow, List.prefix_rfl⟩
    have hadded : ∀ {c state}, state ∈ [ReaderState.inField, .inQuotedField, .quoteInQuotedField] →
        rows limit signals ⟨state, field ++ [c], []⟩ = (row :: data, e) →
        ∃ first others, row = first :: others ∧ field <+: first := by
      intro c state hstate h
      obtain ⟨first, others, hrow, hprefix⟩ := ih hstate h
      exact ⟨first, others, hrow, (List.prefix_append _ _).trans hprefix⟩
    cases c with
    | none =>
      fin_cases hstate
      · rw [rows_none_record rfl rfl] at h
        cases h
        exact ⟨field, [], rfl, List.prefix_rfl⟩
      · rw [rows_none_continue rfl (by simp)] at h
        exact ih (by simp) h
      · rw [rows_none_record rfl rfl] at h
        cases h
        exact ⟨field, [], rfl, List.prefix_rfl⟩
    | some c =>
      cases hp : processChar limit ⟨state, field, []⟩ (some c) with
      | error err =>
        rw [rows_cons_error hp] at h
        cases h
      | ok r' =>
        rw [rows_some hp] at h
        fin_cases hstate <;> simp only [processChar, Reader.add, Reader.save] at hp <;>
          split_ifs at hp <;> cases hp
        all_goals first
          | exact hsaved _ h
          | exact hadded (by simp) h
          | exact ih (by simp) h

theorem field_isPrefix {state : ReaderState} {field first : List Char} {others : Row}
    (hstate : state ∈ [ReaderState.inField, .inQuotedField, .quoteInQuotedField])
    (h : rows limit signals ⟨state, field, []⟩ = ((first :: others) :: data, e)) :
    field <+: first := by
  obtain ⟨first', others', hrow, hprefix⟩ := exists_first hstate h
  cases hrow
  exact hprefix

/-- At the end of a line the fields saved are the row the reader yields next: only the rest of
the line break can stand before it. -/
theorem row_of_eatCrnl {fields : Row}
    (h : rows limit signals ⟨.eatCrnl, [], fields⟩ = (row :: data, e)) : row = fields := by
  induction signals with
  | nil => cases h
  | cons c signals ih =>
    cases c with
    | none =>
      rw [rows_none_record rfl rfl] at h
      cases h
      rfl
    | some c =>
      by_cases hc : isNewline c = true
      · have hp : processChar limit ⟨.eatCrnl, [], fields⟩ (some c) = .ok ⟨.eatCrnl, [], fields⟩ := by
          simp only [processChar, hc, if_true]
        rw [rows_some hp] at h
        exact ih h
      · have hp : processChar limit ⟨.eatCrnl, [], fields⟩ (some c) = .error .newLine := by
          simp only [processChar, hc]
          rfl
        rw [rows_cons_error hp] at h
        cases h

/-! ## A mark in front of the first field -/

/-- How far the raw text of a field, after a mark, can be ahead of the field itself: every
character of the field takes two at most, and the quotes around it take two. -/
def rawBound : ReaderState → Nat
  | .startRecord => 1
  | .inQuotedField => 2
  | _ => 3

/-- The states in which the first field is being read. At its start nothing has been read of it,
since a field that has characters has left `START_FIELD`. -/
def InFirstField (state : ReaderState) (field : List Char) : Prop :=
  state = .startRecord ∧ field = [] ∨
    state ∈ [ReaderState.inField, .inQuotedField, .quoteInQuotedField]

/-- A line that ends within the first field is the whole row. -/
theorem others_eq_nil {state : ReaderState} {field first : List Char} {others : Row}
    (hstate : state ∈ [ReaderState.inField, .inQuotedField, .quoteInQuotedField])
    (h : rows limit [none] ⟨state, field, []⟩ = ((first :: others) :: data, e)) : others = [] := by
  fin_cases hstate
  · rw [rows_none_record rfl rfl] at h
    cases h
    rfl
  · rw [rows_none_continue rfl (by simp)] at h
    simp only [rows, or_true, if_true] at h
    cases h
    rfl
  · rw [rows_none_record rfl rfl] at h
    cases h
    rfl

/-- A newline in the first field ends the row, or is part of the field. -/
theorem not_newline {state : ReaderState} {field first : List Char} {others : Row}
    (hstate : InFirstField state field) (hc : isNewline c = true)
    (h : rows limit (some c :: signals) ⟨state, field, []⟩ = ((first :: others) :: data, e))
    (hothers : others ≠ []) : ∃ c ∈ first, isNewline c = true := by
  -- the row would end with at most one field, but it has another one
  have hsaved : ∀ fields : Row, fields.length ≤ 1 →
      rows limit signals ⟨.eatCrnl, [], fields⟩ = ((first :: others) :: data, e) → False := by
    rintro fields hlength h
    have hrow := row_of_eatCrnl h
    rw [← hrow] at hlength
    cases others with
    | nil => exact hothers rfl
    | cons other others => simp at hlength
  -- at the beginning of a row, and in the three states inside a field
  rcases hstate with ⟨rfl, rfl⟩ | hstate
  · have hp : processChar limit ⟨.startRecord, [], []⟩ (some c) = .ok ⟨.eatCrnl, [], []⟩ := by
      simp only [processChar, hc, if_true]
    rw [rows_some hp] at h
    exact (hsaved [] (by simp) h).elim
  · have hquote : c ≠ '"' := by
      rintro rfl
      exact absurd hc (by decide)
    have hcomma : c ≠ ',' := by
      rintro rfl
      exact absurd hc (by decide)
    fin_cases hstate
    · have hp : processChar limit ⟨.inField, field, []⟩ (some c) = .ok ⟨.eatCrnl, [], [field]⟩ := by
        simp only [processChar, hc, if_true]
        rfl
      rw [rows_some hp] at h
      exact (hsaved [field] (by simp) h).elim
    · cases hp : processChar limit ⟨.inQuotedField, field, []⟩ (some c) with
      | error err =>
        rw [rows_cons_error hp] at h
        cases h
      | ok r' =>
        rw [rows_some hp] at h
        simp only [processChar, hquote, if_false, Reader.add] at hp
        split at hp
        next =>
          cases hp
          -- only in quotes the newline is part of the field
          have hprefix := field_isPrefix (by simp) h
          exact ⟨c, hprefix.subset (by simp), hc⟩
        next => cases hp
    · have hp : processChar limit ⟨.quoteInQuotedField, field, []⟩ (some c) =
          .ok ⟨.eatCrnl, [], [field]⟩ := by
        simp only [processChar, hquote, hcomma, hc, if_false, if_true]
        rfl
      rw [rows_some hp] at h
      exact (hsaved [field] (by simp) h).elim

theorem add_eq_ok {state : ReaderState} (h : r.add limit c state = .ok r') :
    r' = ⟨state, r.field ++ [c], r.fields⟩ := by
  unfold Reader.add at h
  split at h
  next =>
    cases h
    rfl
  next => cases h

/-- Neither a newline nor a comma ends the first field; the raw text stays within its bound. -/
theorem process_within {state : ReaderState} {field : List Char} (hstate : InFirstField state field)
    (hc : ¬ isNewline c = true) (hcomma : c ≠ ',')
    (h : processChar limit ⟨state, field, []⟩ (some c) = .ok r') :
    ∃ state' field', r' = ⟨state', field', []⟩ ∧
      state' ∈ [ReaderState.inField, .inQuotedField, .quoteInQuotedField] ∧
      2 * field.length + rawBound state + 1 ≤ 2 * field'.length + rawBound state' := by
  -- the character is added to the field
  have hadd : ∀ state', state' ∈ [ReaderState.inField, .inQuotedField, .quoteInQuotedField] →
      rawBound state ≤ rawBound state' + 1 →
      (⟨state, field, []⟩ : Reader).add limit c state' = .ok r' →
      ∃ state' field', r' = ⟨state', field', []⟩ ∧
        state' ∈ [ReaderState.inField, .inQuotedField, .quoteInQuotedField] ∧
        2 * field.length + rawBound state + 1 ≤ 2 * field'.length + rawBound state' := by
    intro state' hstate' hbound hadd
    refine ⟨state', field ++ [c], add_eq_ok hadd, hstate', ?_⟩
    rw [List.length_append, List.length_singleton]
    omega
  rcases hstate with ⟨rfl, rfl⟩ | hstate
  · by_cases hquote : c = '"'
    · subst hquote
      cases h
      exact ⟨_, _, rfl, by simp, by simp [rawBound]⟩
    · simp only [processChar, processStartField, hc, hcomma, hquote, if_false] at h
      exact hadd _ (by simp) (by decide) h
  · by_cases hquote : c = '"'
    · subst hquote
      fin_cases hstate
      · exact hadd .inField (by simp) (by decide) h
      · cases h
        exact ⟨_, _, rfl, by simp, by simp [rawBound]⟩
      · exact hadd .inQuotedField (by simp) (by decide) h
    · fin_cases hstate <;> simp only [processChar, hc, hcomma, hquote, if_false] at h
      · exact hadd _ (by simp) (by decide) h
      · exact hadd _ (by simp) (by decide) h
      · exact hadd _ (by simp) (by decide) h

/-- The first signal of a text is its first character. -/
theorem lineSignals_head (c : Char) (cs : List Char) :
    ∃ signals, lineSignals (c :: cs) = some c :: signals := by
  unfold lineSignals
  split <;> exact ⟨_, rfl⟩

/-- A comma ends the first field: between quotes it would be one of its characters. -/
theorem process_comma {state : ReaderState} {field first : List Char} {others : Row}
    {signals : List (Option Char)} (hstate : InFirstField state field)
    (h : rows limit (some ',' :: signals) ⟨state, field, []⟩ = ((first :: others) :: data, e))
    (hfirst : ',' ∉ first) :
    processChar limit ⟨state, field, []⟩ (some ',') = .ok ⟨.startField, [], [field]⟩ := by
  rcases hstate with ⟨rfl, rfl⟩ | hstate
  · rfl
  · fin_cases hstate
    · rfl
    · cases hp : processChar limit ⟨.inQuotedField, field, []⟩ (some ',') with
      | error err =>
        rw [rows_cons_error hp] at h
        cases h
      | ok r' =>
        rw [rows_some hp] at h
        obtain rfl := add_eq_ok hp
        exact absurd ((field_isPrefix (by simp) h).subset (by simp)) hfirst
    · rfl

/-- Where the first field ends at a comma, it ends with any text in it. -/
theorem rows_mark_comma {state : ReaderState} {field marked first : List Char} {others : Row}
    {signals : List (Option Char)}
    (hp : processChar limit ⟨state, field, []⟩ (some ',') = .ok ⟨.startField, [], [field]⟩)
    (h : rows limit (some ',' :: signals) ⟨state, field, []⟩ = ((first :: others) :: data, e)) :
    rows limit (some ',' :: signals) ⟨.inField, marked, []⟩ = ((marked :: others) :: data, e) := by
  rw [rows_some hp, rows_fields] at h
  obtain ⟨row, hrow, hfields⟩ := first_of_prependRow h
  obtain ⟨rfl, rfl⟩ := List.cons_eq_cons.1 hfields
  have hp' : processChar limit ⟨.inField, marked, []⟩ (some ',') =
      .ok ⟨.startField, [], [marked]⟩ := rfl
  rw [rows_some hp', rows_fields, hrow]
  rfl

/-- There is room for the text in the first field, whose raw text is bounded. -/
theorem marked_lt {state : ReaderState} {field marked first : List Char} {others : Row}
    {signals : List (Option Char)} (hstate : InFirstField state field)
    (hbound : marked.length ≤ 2 * field.length + rawBound state)
    (h : rows limit signals ⟨state, field, []⟩ = ((first :: others) :: data, e))
    (hlimit : ∀ n ∈ limit, 2 * first.length + 3 < n) : ∀ n ∈ limit, marked.length < n := by
  intro n hn
  have hfield : field.length ≤ first.length := by
    rcases hstate with ⟨-, rfl⟩ | hstate
    · exact Nat.zero_le _
    · exact (field_isPrefix hstate h).length_le
  have hraw : rawBound state ≤ 3 := by cases state <;> decide
  have hn' := hlimit n hn
  omega

/-- Reading the first field with the text `marked` already in it, instead of from its start. By
induction on the text: a newline would end the row, a comma ends the field in both readings, and
every other character is added to both. -/
theorem rows_mark_field (text : List Char) {state : ReaderState} {field marked first : List Char}
    {others : Row} (hstate : InFirstField state field)
    (hbound : marked.length ≤ 2 * field.length + rawBound state)
    (h : rows limit (lineSignals text) ⟨state, field, []⟩ = ((first :: others) :: data, e))
    (hothers : others ≠ []) (hfirst : ∀ c ∈ first, c ≠ ',' ∧ isNewline c = false)
    (hlimit : ∀ n ∈ limit, 2 * first.length + 3 < n) :
    ∃ rest, rows limit (lineSignals text) ⟨.inField, marked, []⟩ =
      (((marked ++ rest) :: others) :: data, e) := by
  induction text generalizing state field marked with
  | nil =>
    rcases hstate with ⟨rfl, rfl⟩ | hstate
    · cases h
    · simp only [lineSignals, rows] at h
      split at h
      next =>
        cases h
        exact absurd rfl hothers
      next => cases h
  | cons c cs ih =>
    by_cases hc : isNewline c = true
    · -- the first field has no newline and is not the whole row
      obtain ⟨signals, hsignals⟩ := lineSignals_head c cs
      rw [hsignals] at h
      obtain ⟨c', hc', hnl⟩ := not_newline hstate hc h hothers
      exact absurd ((hfirst c' hc').2) (by simp [hnl])
    · rw [lineSignals_cons hc] at h ⊢
      generalize hrest : (if cs = [] then [none] else lineSignals cs) = signals at h ⊢
      by_cases hcomma : c = ','
      · subst hcomma
        have hp := process_comma hstate h fun hmem => (hfirst ',' hmem).1 rfl
        exact ⟨[], by rw [List.append_nil]; exact rows_mark_comma hp h⟩
      · have hmarked : processChar limit ⟨.inField, marked, []⟩ (some c) =
            .ok ⟨.inField, marked ++ [c], []⟩ := by
          simp only [processChar, hc, hcomma, Reader.add, if_false]
          rw [if_pos (marked_lt hstate hbound h hlimit)]
          rfl
        rw [rows_some hmarked]
        cases hp : processChar limit ⟨state, field, []⟩ (some c) with
        | error err =>
          rw [rows_cons_error hp] at h
          cases h
        | ok r' =>
          rw [rows_some hp] at h
          obtain ⟨state', field', rfl, hstate', hgrows⟩ := process_within hstate hc hcomma hp
          -- the rest of the text is read in the same field
          by_cases hempty : cs = []
          · rw [if_pos hempty] at hrest
            rw [← hrest] at h
            exact absurd (others_eq_nil hstate' h) hothers
          · rw [if_neg hempty] at hrest
            rw [← hrest] at h ⊢
            have hbound' : (marked ++ [c]).length ≤ 2 * field'.length + rawBound state' := by
              rw [List.length_append, List.length_singleton]
              omega
            obtain ⟨rest, hread⟩ := ih (.inr hstate') hbound' h
            exact ⟨c :: rest, by simpa using hread⟩

/-- A character in front of a text that the reader takes as part of the first field: it and the
raw text of that field are the new first field, and the rest is read as before. -/
theorem csvReader_mark {mark : Char} {text first : List Char} {others : Row}
    (hmark : isNewline mark = false ∧ mark ≠ '"' ∧ mark ≠ ',')
    (h : csvReader limit text = ((first :: others) :: data, e)) (hothers : others ≠ [])
    (hfirst : ∀ c ∈ first, c ≠ ',' ∧ isNewline c = false)
    (hlimit : ∀ n ∈ limit, 2 * first.length + 3 < n) :
    ∃ rest, csvReader limit (mark :: text) = (((mark :: rest) :: others) :: data, e) := by
  obtain ⟨hnewline, hquote, hcomma⟩ := hmark
  have htext : text ≠ [] := by
    rintro rfl
    cases h
  -- the mark opens an unquoted field, of which the first column name is then the rest
  have hstart : processChar limit .start (some mark) = .ok ⟨.inField, [mark], []⟩ := by
    have hroom : ∀ n ∈ limit, (Reader.start).field.length < n := by
      intro n hn
      have hn' := hlimit n hn
      show 0 < n
      omega
    show (if isNewline mark then _ else processStartField limit .start (some mark)) = _
    rw [if_neg (by simp [hnewline])]
    dsimp only [processStartField]
    rw [if_neg (by simp [hnewline]), if_neg hquote, if_neg hcomma]
    exact if_pos hroom
  have hbound : [mark].length ≤ 2 * ([] : List Char).length + rawBound .startRecord :=
    Nat.le_refl 1
  -- a quoted first name keeps its quotes, so what the field holds is not the name itself
  obtain ⟨rest, hrest⟩ := rows_mark_field text (.inl ⟨rfl, rfl⟩) hbound h hothers hfirst hlimit
  refine ⟨rest, ?_⟩
  unfold csvReader
  rw [lineSignals_cons (by simp [hnewline]), if_neg htext, rows_some hstart, hrest]
  rfl

/-! ## The field size limit -/

/-- Every field of the rows has at most `n` characters. -/
def FieldsFit (n : Nat) (data : List Row) : Prop := ∀ row ∈ data, ∀ field ∈ row, field.length ≤ n

instance (n : Nat) (data : List Row) : Decidable (FieldsFit n data) :=
  inferInstanceAs (Decidable (∀ row ∈ data, ∀ field ∈ row, field.length ≤ n))

theorem add_none (r : Reader) (c : Char) (state : ReaderState) :
    r.add none c state = .ok ⟨state, r.field ++ [c], r.fields⟩ := by
  simp [Reader.add]

/-- What one character does under the limit `n`, next to what it does without one. -/
theorem processChar_limit (n : Nat) (r : Reader) (c : Option Char) :
    processChar (some n) r c = processChar none r c ∨
      (processChar (some n) r c = .error .fieldLimit ∧ n ≤ r.field.length ∧ ∃ c' state,
        state ∈ [ReaderState.inField, .inQuotedField, .quoteInQuotedField] ∧
        processChar none r c = .ok ⟨state, r.field ++ [c'], r.fields⟩) := by
  have hadd : ∀ c state, state ∈ [ReaderState.inField, .inQuotedField, .quoteInQuotedField] →
      r.add (some n) c state = r.add none c state ∨
        (r.add (some n) c state = .error .fieldLimit ∧ n ≤ r.field.length ∧ ∃ c' state',
          state' ∈ [ReaderState.inField, .inQuotedField, .quoteInQuotedField] ∧
          r.add none c state = .ok ⟨state', r.field ++ [c'], r.fields⟩) := by
    intro c state hstate
    by_cases hroom : r.field.length < n
    · left
      simp [Reader.add, hroom]
    · right
      exact ⟨by simp [Reader.add, hroom], Nat.le_of_not_lt hroom, c, state, hstate,
        add_none r c state⟩
  cases c with
  | none => left; unfold processChar; cases r.state <;> rfl
  | some c =>
    unfold processChar
    cases r.state <;> dsimp only [processStartField] <;> split_ifs <;>
      first
        | exact .inl rfl
        | exact hadd c _ (by simp)

/-- What was added to a field within the limit stays within it. -/
theorem processChar_fits {n : Nat} {c : Option Char} (h : processChar (some n) r c = .ok r')
    (hfield : r.field.length ≤ n) (hfields : ∀ field ∈ r.fields, field.length ≤ n) :
    r'.field.length ≤ n ∧ ∀ field ∈ r'.fields, field.length ≤ n := by
  have hsave : ∀ state, r' = r.save state →
      r'.field.length ≤ n ∧ ∀ field ∈ r'.fields, field.length ≤ n := by
    rintro state rfl
    refine ⟨Nat.zero_le _, fun field hmem => ?_⟩
    rcases List.mem_append.1 hmem with hold | hnew
    · exact hfields field hold
    · rw [List.mem_singleton.1 hnew]
      exact hfield
  have hadd : ∀ c state, r.add (some n) c state = .ok r' →
      r'.field.length ≤ n ∧ ∀ field ∈ r'.fields, field.length ≤ n := by
    intro c state hadd
    unfold Reader.add at hadd
    split at hadd
    next hroom =>
      cases hadd
      have hlt : r.field.length < n := hroom n rfl
      exact ⟨by rw [List.length_append, List.length_singleton]; exact hlt, hfields⟩
    next => cases hadd
  have hsame : ∀ state, r' = { r with state := state } →
      r'.field.length ≤ n ∧ ∀ field ∈ r'.fields, field.length ≤ n := by
    rintro state rfl
    exact ⟨hfield, hfields⟩
  -- every branch saves the field, adds to it within the limit, or leaves it
  unfold processChar at h
  cases hstate : r.state <;> cases c <;> rw [hstate] at h <;>
    simp only [processStartField] at h <;> (try split_ifs at h) <;>
    first
      | exact hadd _ _ h
      | exact hsave _ (Except.ok.inj h).symm
      | exact hsame _ (Except.ok.inj h).symm

/-- A reader that ends without error under the limit never met it. -/
theorem rows_of_limit {n : Nat} (hfield : r.field.length ≤ n)
    (hfields : ∀ field ∈ r.fields, field.length ≤ n) (h : (rows (some n) signals r).2 = none) :
    rows (some n) signals r = rows none signals r ∧ FieldsFit n (rows none signals r).1 := by
  induction signals generalizing r with
  | nil =>
    refine ⟨rfl, ?_⟩
    simp only [rows]
    split
    next =>
      intro row hrow field hmem
      rw [List.mem_singleton.1 hrow] at hmem
      rcases List.mem_append.1 hmem with hold | hnew
      · exact hfields field hold
      · rw [List.mem_singleton.1 hnew]
        exact hfield
    next => intro row hrow; cases hrow
  | cons c signals ih =>
    cases hp : processChar (some n) r c with
    | error err =>
      rw [rows_cons_error hp] at h
      cases h
    | ok r' =>
      -- the limit matters only where it raises
      have hp' : processChar none r c = .ok r' := by
        rcases processChar_limit n r c with hsame | ⟨herror, -⟩
        · rw [← hsame, hp]
        · rw [herror] at hp
          cases hp
      obtain ⟨hfield', hfields'⟩ := processChar_fits hp hfield hfields
      simp only [rows, hp, hp'] at h ⊢
      by_cases hrecord : c = none ∧ r'.state = .startRecord
      · simp only [if_pos hrecord] at h ⊢
        obtain ⟨hsame, hfit⟩ := ih (r := .start) (Nat.zero_le _) (by simp [Reader.start]) h
        refine ⟨by rw [hsame], fun row hrow => ?_⟩
        rcases List.mem_cons.1 hrow with rfl | hrow
        · exact hfields'
        · exact hfit row hrow
      · simp only [if_neg hrecord] at h ⊢
        exact ih hfield' hfields' h

/-- The text ended: no signal is left, or the last one is the end of a line. -/
def Closed (signals : List (Option Char)) : Prop := signals = [] ∨ signals.getLast? = some none

theorem Closed.tail {c : Option Char} (h : Closed (c :: signals)) : Closed signals := by
  cases signals with
  | nil => exact .inl rfl
  | cons c' signals =>
    refine .inr ?_
    rcases h with h | h
    · cases h
    · simpa using h

theorem closed_lineSignals (text : List Char) : Closed (lineSignals text) := by
  induction text with
  | nil => exact .inl rfl
  | cons c cs ih =>
    rw [lineSignals]
    split
    next =>
      -- an end of line is put behind the character, and it is the last signal or is behind more
      rcases ih with hnil | hlast
      · exact .inr (by simp [hnil])
      · refine .inr ?_
        cases hs : lineSignals cs with
        | nil => simp
        | cons s signals =>
          rw [hs] at hlast
          simpa using hlast
    next hcs =>
      have hne : cs ≠ [] := fun hnil => hcs (.inr (.inr hnil))
      rcases ih with hnil | hlast
      · cases cs with
        | nil => exact absurd rfl hne
        | cons c' cs =>
          rw [lineSignals] at hnil
          split at hnil <;> cases hnil
      · refine .inr ?_
        cases hs : lineSignals cs with
        | nil =>
          rw [hs] at hlast
          cases hlast
        | cons s signals =>
          rw [hs] at hlast
          simpa using hlast

/-- A reader with something to read, or in a field, yields a row if it yields no error: what was
read of a row when the text ended is saved as one. -/
theorem exists_row (hclosed : Closed signals)
    (hsome : signals ≠ [] ∨ r.field ≠ [] ∨ r.state = .inQuotedField)
    (h : (rows limit signals r).2 = none) : ∃ row data, rows limit signals r = (row :: data, none) := by
  induction signals generalizing r with
  -- what is in the field at the end of the input is a last row without a newline
  | nil =>
    have hfield : r.field ≠ [] ∨ r.state = .inQuotedField := hsome.resolve_left (by simp)
    refine ⟨r.fields ++ [r.field], [], ?_⟩
    simp only [rows, if_pos hfield]
  | cons c signals ih =>
    cases hp : processChar limit r c with
    | error err =>
      rw [rows_cons_error hp] at h
      cases h
    | ok r' =>
      simp only [rows, hp] at h ⊢
      -- this signal ends the row, or the rest of the signals does
      by_cases hrecord : c = none ∧ r'.state = .startRecord
      · simp only [if_pos hrecord] at h ⊢
        exact ⟨_, _, by rw [h]⟩
      · simp only [if_neg hrecord] at h ⊢
        refine ih hclosed.tail ?_ h
        by_cases hsignals : signals = []
        · -- the last signal is the end of a line, and only a quoted field goes on after it
          subst hsignals
          obtain rfl : c = none := by simpa [Closed] using hclosed
          refine .inr (.inr ?_)
          unfold processChar at hp
          cases hstate : r.state <;> rw [hstate] at hp <;> cases hp <;>
            first
              | exact hstate
              | exact absurd ⟨rfl, rfl⟩ hrecord
              | exact absurd ⟨rfl, hstate⟩ hrecord
        · exact .inl hsignals

/-- A reader the limit stops would have yielded a field that exceeds it. -/
theorem not_fieldsFit {n : Nat} (hclosed : Closed signals) (h : (rows none signals r).2 = none)
    (hlimit : (rows (some n) signals r).2 ≠ none) : ¬ FieldsFit n (rows none signals r).1 := by
  induction signals generalizing r with
  | nil => exact absurd rfl hlimit
  | cons c signals ih =>
    cases hp : processChar none r c with
    | error err =>
      rw [rows_cons_error hp] at h
      cases h
    | ok r' =>
      rcases processChar_limit n r c with hsame | ⟨-, hlong, c', state, hstate, hadd⟩
      -- up to the field that is too long both readers do the same
      · rw [hp] at hsame
        simp only [rows, hp, hsame] at h hlimit ⊢
        by_cases hrecord : c = none ∧ r'.state = .startRecord
        · simp only [if_pos hrecord] at h hlimit ⊢
          intro hfit
          exact ih hclosed.tail h hlimit fun row hrow => hfit row (List.mem_cons_of_mem _ hrow)
        · simp only [if_neg hrecord] at h hlimit ⊢
          exact ih hclosed.tail h hlimit
      · -- the field that met the limit goes on
        have hrecord : ¬ (c = none ∧ state = .startRecord) := by
          rintro ⟨-, rfl⟩
          simp at hstate
        simp only [rows, hadd, if_neg hrecord] at h ⊢
        have hfield : r.field ++ [c'] ≠ [] := by simp
        obtain ⟨row, data, hrows⟩ := exists_row hclosed.tail (.inr (.inl hfield)) h
        rw [hrows]
        intro hfit
        rw [rows_fields] at hrows
        obtain ⟨rest, hrest, rfl⟩ := first_of_prependRow hrows
        obtain ⟨first, others, rfl, hprefix⟩ := exists_first hstate hrest
        have hle := hfit _ (List.mem_cons_self ..) first (by simp)
        have hlonger := hprefix.length_le
        rw [List.length_append, List.length_singleton] at hlonger
        omega

/-- Without a limit a text file is read to its end: after a newline the line is over, or the
newline is the `\r` of a `\r\n`. -/
theorem lineSignals_read (text : List Char) (r : Reader)
    (hcr : r.state = .eatCrnl → text.head? = some '\n') :
    (rows none (lineSignals text) r).2 = none := by
  induction text generalizing r with
  | nil => rfl
  | cons c cs ih =>
    have hchar : ∃ r', processChar none r (some c) = .ok r' ∧
        (r'.state = .eatCrnl → isNewline c = true) := by
      unfold processChar
      cases hstate : r.state <;> dsimp only [processStartField] <;> (try simp only [add_none]) <;>
        split_ifs with h₁
      all_goals first
        | exact ⟨_, rfl, fun _ => by assumption⟩
        | exact ⟨_, rfl, fun h => ReaderState.noConfusion h⟩
        | skip
      -- a `\r` on its own ended its line
      obtain rfl : c = '\n' := by simpa using hcr hstate
      exact absurd rfl h₁
    have hend : ∀ r : Reader, ∃ r', processChar none r none = .ok r' ∧ r'.state ≠ .eatCrnl := by
      intro r
      unfold processChar
      cases hstate : r.state <;> dsimp only [processStartField] <;>
        exact ⟨_, rfl, by simp [Reader.save, hstate]⟩
    obtain ⟨r', hr', heat⟩ := hchar
    rw [lineSignals]
    split
    next =>
      obtain ⟨r'', hr'', hne⟩ := hend r'
      rw [rows_some hr']
      by_cases hrecord : r''.state = .startRecord
      · rw [rows_none_record hr'' hrecord]
        exact ih .start (by simp [Reader.start])
      · rw [rows_none_continue hr'' hrecord]
        exact ih r'' fun h => absurd h hne
    next hends =>
      rw [rows_some hr']
      refine ih r' fun h => ?_
      have hnl := heat h
      simp only [isNewline, Bool.or_eq_true, beq_iff_eq] at hnl
      rcases hnl with rfl | rfl
      · exact absurd (.inl rfl) hends
      · by_contra hhead
        exact hends (.inr (.inl ⟨rfl, hhead⟩))

/-- The limit stops the reader exactly where a field of the file exceeds it; where it does not,
it makes no difference. -/
theorem csvReader_limit (n : Nat) (text : List Char) :
    ((csvReader (some n) text).2 = none ↔ FieldsFit n (csvReader none text).1) ∧
      (FieldsFit n (csvReader none text).1 → csvReader (some n) text = csvReader none text) := by
  have hread : (rows none (lineSignals text) .start).2 = none :=
    lineSignals_read text .start (by simp [Reader.start])
  have hof : (csvReader (some n) text).2 = none →
      csvReader (some n) text = csvReader none text ∧ FieldsFit n (csvReader none text).1 :=
    fun h => rows_of_limit (Nat.zero_le _) (by simp [Reader.start]) h
  have hfit : FieldsFit n (csvReader none text).1 → (csvReader (some n) text).2 = none := by
    intro hfit
    by_contra h
    exact not_fieldsFit (closed_lineSignals text) hread h hfit
  exact ⟨⟨fun h => (hof h).2, hfit⟩, fun h => (hof (hfit h)).1⟩

end CommercePlatform.Lib.Csv
