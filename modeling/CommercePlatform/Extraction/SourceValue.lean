import CommercePlatform.Contract.Tables
import CommercePlatform.Control.Cursor
/-!
# Values of Source rows

What the database driver hands over for a column, and what a planned corruption may put
in its place: Python's `None`, `str`, `int`, `bool`, `Decimal`, aware `datetime`,
`uuid.UUID`, and the bare `object()` of a `TYPE_MISMATCH`.

The operations on them are those the checks use: equality across the number types, the
comparison with a minimum, the test of a type, and the texts that go into a key or a
payload. Equality is an equivalence on these values (`eqv_trans`), which the bookkeeping
of seen keys relies on, and the text of a decimal tells it apart within one scale
(`DecimalValue.fixed_injective`).

Mirroring notes vs Python:
- A `Decimal` is a coefficient and a scale, or NaN; an exponent above zero, which
  `NUMERIC(14, 2)` does not return, is not represented. A NaN equals itself here and not
  in Python: what is compared are keys, and no key column is a decimal.
- `isinstance(value, bool)` is asked before `int` where the source asks it; as numbers
  they are equal.
- Two `object()`s are never equal. A corruption makes one for each record, so an object
  is known by the ordinal of the record it was made for.
-/

namespace CommercePlatform

/-- A UUID, as the sixteen bytes PostgreSQL compares. -/
structure Uuid where
  octets : List (Fin 256)
  sized : octets.length = 16
deriving DecidableEq

/-- Two hexadecimal digits. -/
def hexPair (b : Fin 256) : List Char := [Nat.digitChar (b / 16), Nat.digitChar (b % 16)]

/-- Hexadecimal digits with a dash after each of the first groups. -/
def dashed : List Nat → List (Fin 256) → List Char
  | [], bs => bs.flatMap hexPair
  | n :: groups, bs => (bs.take n).flatMap hexPair ++ '-' :: dashed groups (bs.drop n)

/-- `str(value)`. -/
def Uuid.text (u : Uuid) : String := String.ofList (dashed [4, 2, 2, 2] u.octets)

/-- A `Decimal`: `coefficient / 10 ^ scale`, or not a number. Two of them are one number where
their fractions agree. -/
inductive DecimalValue where
  | finite (coefficient : Int) (scale : Nat)
  | nan
deriving DecidableEq, Repr

/-- The decimal digits of a number below its sign, with `scale` of them behind the point. -/
def fixedDigits (n scale : Nat) : String :=
  let digits := (toString n).toList
  let digits := List.replicate (scale + 1 - digits.length) '0' ++ digits
  let whole := String.ofList (digits.take (digits.length - scale))
  if scale = 0 then whole
  else whole ++ "." ++ String.ofList (digits.drop (digits.length - scale))

/-- `format(value, "f")`. -/
def DecimalValue.fixed : DecimalValue → String
  | .nan => "NaN"
  | .finite c s => (if c < 0 then "-" else "") ++ fixedDigits c.natAbs s

/-- The digits of a number, with leading zeros for the places behind the point. -/
theorem fixedDigits_digits (n scale : Nat) :
    ((fixedDigits n scale).toList.filter Char.isDigit) =
      List.replicate (scale + 1 - (Nat.toDigits 10 n).length) '0' ++ Nat.toDigits 10 n := by
  have htext : (toString n).toList = Nat.toDigits 10 n := Nat.toList_repr
  have hdigits : ∀ ch ∈ List.replicate (scale + 1 - (Nat.toDigits 10 n).length) '0' ++
      Nat.toDigits 10 n, ch.isDigit = true := by
    intro ch hch
    rcases List.mem_append.1 hch with hch | hch
    · rw [List.eq_of_mem_replicate hch]
      rfl
    · exact Nat.isDigit_of_mem_toDigits (by decide) (by decide) hch
  unfold fixedDigits
  simp only [htext]
  generalize hall : List.replicate (scale + 1 - (Nat.toDigits 10 n).length) '0' ++
    Nat.toDigits 10 n = digits at hdigits ⊢
  by_cases h0 : scale = 0
  · rw [if_pos h0, String.toList_ofList, h0, Nat.sub_zero, List.take_length,
      List.filter_eq_self.2 hdigits]
  · rw [if_neg h0]
    simp only [String.toList_append, String.toList_ofList]
    rw [List.filter_append, List.filter_append,
      List.filter_eq_self.2 fun ch hch => hdigits ch (List.mem_of_mem_take hch),
      List.filter_eq_self.2 fun ch hch => hdigits ch (List.mem_of_mem_drop hch),
      show ".".toList.filter Char.isDigit = [] by decide, List.append_nil,
      List.take_append_drop]

theorem ofDigitChars_fixedDigits (n scale : Nat) :
    Nat.ofDigitChars 10 ((fixedDigits n scale).toList.filter Char.isDigit) 0 = n := by
  rw [fixedDigits_digits, Nat.ofDigitChars_append, Nat.ofDigitChars_replicate_zero, Nat.mul_zero,
    Nat.ofDigitChars_ten_toDigits]

/-- A number below its sign has none. -/
theorem fixedDigits_unsigned (n scale : Nat) : '-' ∉ (fixedDigits n scale).toList := by
  have htext : (toString n).toList = Nat.toDigits 10 n := Nat.toList_repr
  have hdigits : '-' ∉ List.replicate (scale + 1 - (Nat.toDigits 10 n).length) '0' ++
      Nat.toDigits 10 n := by
    intro hmem
    rcases List.mem_append.1 hmem with hmem | hmem
    · exact absurd (List.eq_of_mem_replicate hmem) (by decide)
    · exact absurd (Nat.isDigit_of_mem_toDigits (by decide) (by decide) hmem) (by decide)
  unfold fixedDigits
  simp only [htext]
  split
  · rw [String.toList_ofList]
    exact fun hmem => hdigits (List.mem_of_mem_take hmem)
  · simp only [String.toList_append, String.toList_ofList]
    intro hmem
    rcases List.mem_append.1 hmem with hmem | hmem
    · rcases List.mem_append.1 hmem with hmem | hmem
      · exact hdigits (List.mem_of_mem_take hmem)
      · exact absurd hmem (by decide)
    · exact hdigits (List.mem_of_mem_drop hmem)

/-- Decimals of one scale are told apart by their texts. -/
theorem DecimalValue.fixed_injective {c d : Int} {scale : Nat}
    (h : (DecimalValue.finite c scale).fixed = (DecimalValue.finite d scale).fixed) : c = d := by
  have hlist := congrArg String.toList h
  simp only [DecimalValue.fixed, String.toList_append] at hlist
  have hminus : "-".toList = ['-'] := by decide
  have hempty : "".toList = [] := by decide
  by_cases hc : c < 0
  · by_cases hd : d < 0
    · rw [if_pos hc, if_pos hd, hminus] at hlist
      have habs : c.natAbs = d.natAbs := by
        rw [← ofDigitChars_fixedDigits c.natAbs scale, List.append_cancel_left hlist,
          ofDigitChars_fixedDigits]
      omega
    · rw [if_pos hc, if_neg hd, hminus, hempty, List.nil_append] at hlist
      exact absurd (hlist ▸ List.mem_cons_self) (fixedDigits_unsigned d.natAbs scale)
  · by_cases hd : d < 0
    · rw [if_neg hc, if_pos hd, hminus, hempty, List.nil_append] at hlist
      exact absurd (hlist ▸ List.mem_cons_self) (fixedDigits_unsigned c.natAbs scale)
    · rw [if_neg hc, if_neg hd, hempty, List.nil_append, List.nil_append] at hlist
      have habs : c.natAbs = d.natAbs := by
        rw [← ofDigitChars_fixedDigits c.natAbs scale, hlist, ofDigitChars_fixedDigits]
      omega

/-! ## Values -/

/-- A value of a record. An `object()` is known by the ordinal of the record it was made for: two
of them are never equal. -/
inductive SourceValue where
  | null
  | text (value : String)
  | int (value : Int)
  | bool (value : Bool)
  | decimal (value : DecimalValue)
  | timestamp (value : Timestamp)
  | uuid (value : Uuid)
  | object (ordinal : Nat)
deriving DecidableEq

namespace SourceValue

/-- `type(value).__name__`. -/
def typeName : SourceValue → String
  | null => "NoneType"
  | text _ => "str"
  | int _ => "int"
  | bool _ => "bool"
  | decimal _ => "Decimal"
  | timestamp _ => "datetime"
  | uuid _ => "UUID"
  | object _ => "object"

/-- The number a value is, as coefficient and scale. -/
def number : SourceValue → Option (Int × Nat)
  | int n => some (n, 0)
  | bool b => some (if b then 1 else 0, 0)
  | decimal (.finite c s) => some (c, s)
  | _ => none

/-- `a == b`: numbers of different types are compared as numbers. -/
def eqv (a b : SourceValue) : Bool :=
  match a.number, b.number with
  | some (c, s), some (d, t) => c * 10 ^ t = d * 10 ^ s
  | none, none => a = b
  | _, _ => false

theorem eqv_comm (a b : SourceValue) : a.eqv b = b.eqv a := by
  unfold eqv
  cases a.number with
  | none =>
    cases b.number with
    | none => exact decide_eq_decide.2 eq_comm
    | some y => rfl
  | some x =>
    cases b.number with
    | none => rfl
    | some y => exact decide_eq_decide.2 eq_comm

/-- Equality of the Python values is transitive, across the types of numbers too. -/
theorem eqv_trans {a b c : SourceValue} (hab : a.eqv b = true) (hbc : b.eqv c = true) :
    a.eqv c = true := by
  unfold eqv at *
  cases ha : a.number with
  | none =>
    cases hb : b.number with
    | none =>
      cases hc : c.number with
      | none => simp_all
      | some z => simp [hb, hc] at hbc
    | some y => simp [ha, hb] at hab
  | some x =>
    cases hb : b.number with
    | none => simp [ha, hb] at hab
    | some y =>
      cases hc : c.number with
      | none => simp [hb, hc] at hbc
      | some z =>
        obtain ⟨m, i⟩ := x
        obtain ⟨n, j⟩ := y
        obtain ⟨o, k⟩ := z
        simp only [ha, hb, hc, decide_eq_true_eq] at hab hbc ⊢
        -- clear the common denominator
        have hpos : (10 : Int) ^ j ≠ 0 := pow_ne_zero j (by norm_num)
        apply mul_right_cancel₀ hpos
        calc m * 10 ^ k * 10 ^ j = m * 10 ^ j * 10 ^ k := by ring
          _ = n * 10 ^ i * 10 ^ k := by rw [hab]
          _ = n * 10 ^ k * 10 ^ i := by ring
          _ = o * 10 ^ j * 10 ^ i := by rw [hbc]
          _ = o * 10 ^ i * 10 ^ j := by ring

/-- `value < minimum`, which raises `InvalidOperation` for a NaN. -/
def lessThan (minimum : Int) : SourceValue → Except Raised Bool
  | decimal .nan => .error ⟨.otherException, "[<class 'decimal.InvalidOperation'>]"⟩
  | v => .ok (v.number.any fun n => n.1 < minimum * 10 ^ n.2)

end SourceValue

/-- `_matches_arrow_type`. -/
def matchesArrowType : SourceValue → ColumnType → Bool
  | .text _, .string | .int _, .int32 | .bool _, .bool | .decimal _, .decimal
  | .timestamp _, .timestampUs => true
  | _, _ => false

/-- `_matches_source_column_type`. -/
def matchesSourceColumnType (value : SourceValue) (column : SourceColumn) : Bool :=
  (column.postgresUuid && value matches .uuid _) || matchesArrowType value column.type

end CommercePlatform
