import CommercePlatform.Lib.Json
import Mathlib
/-!
# UUIDs as text

`uuid.UUID(text)` and `str(value)` of Python. The reader takes more than the writer
writes: `urn:` and `uuid:` anywhere, braces around, dashes anywhere, and between them
whatever `int(text, 16)` takes in 32 characters. A UUID is its 128-bit number.

What is written is read back (`uuidOf_uuidText`): the text has no `urn:` or `uuid:`, its
four dashes are removed, and the 32 digits are the number in base 16. The digits are
those `padHex` writes, group by group, so the proof first joins the groups into one
number (`padHex_add`) and then reads it back digit by digit (`intBase16_padHex`).

Mirroring notes vs `uuid.UUID.__init__` and `int`:
- `text.replace("urn:", "").replace("uuid:", "")` removes from left to right without
  overlaps (`removeFrom`), then `strip("{}")`, then the dashes.
- `int(text, 16)` strips white space, takes a sign, `0x` in front, single underscores
  between digits and decimal digits of any script. The 32 characters are counted before
  that, so a text with a sign or spaces still names a UUID.
- A number that does not fit 128 bits cannot come from 32 characters.
-/

namespace CommercePlatform

open Lib Lib.Json

/-- The zeros among the decimal digits of Unicode; the other nine follow each. -/
def decimalZeros : List Nat :=
  [0x30, 0x660, 0x6F0, 0x7C0, 0x966, 0x9E6, 0xA66, 0xAE6, 0xB66, 0xBE6, 0xC66, 0xCE6, 0xD66, 0xDE6,
    0xE50, 0xED0, 0xF20, 0x1040, 0x1090, 0x17E0, 0x1810, 0x1946, 0x19D0, 0x1A80, 0x1A90, 0x1B50,
    0x1BB0, 0x1C40, 0x1C50, 0xA620, 0xA8D0, 0xA900, 0xA9D0, 0xA9F0, 0xAA50, 0xABF0, 0xFF10, 0x104A0,
    0x10D30, 0x11066, 0x110F0, 0x11136, 0x111D0, 0x112F0, 0x11450, 0x114D0, 0x11650, 0x116C0,
    0x11730, 0x118E0, 0x11950, 0x11C50, 0x11D50, 0x11DA0, 0x11F50, 0x16A60, 0x16AC0, 0x16B50,
    0x1D7CE, 0x1D7D8, 0x1D7E2, 0x1D7EC, 0x1D7F6, 0x1E140, 0x1E2F0, 0x1E4F0, 0x1E950, 0x1FBF0]

/-- `unicodedata.decimal`. -/
def decimalDigit (c : Nat) : Option Nat :=
  (decimalZeros.find? fun first => first ≤ c && c < first + 10).map (c - ·)

/-- `str.isspace` of a character outside ASCII. -/
def isWideSpace (c : Nat) : Bool :=
  c == 0x85 || c == 0xA0 || c == 0x1680 || (0x2000 ≤ c && c ≤ 0x200A) || c == 0x2028 || c == 0x2029
    || c == 0x202F || c == 0x205F || c == 0x3000

/-- A text with other than ASCII characters, its digits and spaces turned into those of
ASCII. -/
def toAscii (text : CodePoints) : CodePoints :=
  if ∀ c ∈ text, c < 0x80 then text
  else text.map fun c =>
    if c < 0x7F then c
    else if isWideSpace c then 0x20
    else match decimalDigit c with
      | some d => 0x30 + d
      | none => 0x3F

def isAsciiSpace (c : Nat) : Bool := (9 ≤ c && c ≤ 13) || c == 0x20

/-- Hexadecimal digits behind one that was read, single underscores between them. -/
def scanHex (acc : Nat) : CodePoints → Option (Nat × CodePoints)
  | [] => some (acc, [])
  | [c] =>
    match hexValue c with
    | some d => some (16 * acc + d, [])
    | none => if c = 0x5F then none else some (acc, [c])
  | c :: d :: rest =>
    match hexValue c with
    | some v => scanHex (16 * acc + v) (d :: rest)
    | none =>
      if c = 0x5F then
        match hexValue d with
        | some v => scanHex (16 * acc + v) rest
        | none => none
      else some (acc, c :: d :: rest)

/-- The digits of a number, `0x` in front or not. -/
def hexNumber (text : CodePoints) : Option (Nat × CodePoints) :=
  let text :=
    if (points "0x").isPrefixOf text || (points "0X").isPrefixOf text then
      if (text.drop 2).head? = some 0x5F then text.drop 3 else text.drop 2
    else text
  match text with
  | [] => none
  | c :: rest => (hexValue c).bind fun d => scanHex d rest

/-- `int(text, 16)`; nothing where it raises `ValueError`. It takes more than hexadecimal digits:
white space around, a sign, `0x`, and underscores. -/
def intBase16 (text : CodePoints) : Option Int := do
  let text := (toAscii text).dropWhile isAsciiSpace
  let signed := text.head? = some 0x2B ∨ text.head? = some 0x2D
  let (n, rest) ← hexNumber (if signed then text.tail else text)
  if rest.all isAsciiSpace then return if text.head? = some 0x2D then -n else n else none

/-- `text.replace(pattern, "")`: `skip` characters still belong to the last place found. -/
def removeFrom (pattern : CodePoints) : Nat → CodePoints → CodePoints
  | _, [] => []
  | skip + 1, _ :: rest => removeFrom pattern skip rest
  | 0, c :: rest =>
    if pattern.isPrefixOf (c :: rest) then removeFrom pattern (pattern.length - 1) rest
    else c :: removeFrom pattern 0 rest

def isBrace (c : Nat) : Bool := c == 0x7B || c == 0x7D

/-- `uuid.UUID(text).int`; nothing where it raises `ValueError`. -/
def uuidOf (text : CodePoints) : Option Nat :=
  let hex := removeFrom (points "uuid:") 0 (removeFrom (points "urn:") 0 text)
  let hex := ((hex.dropWhile isBrace).rdropWhile isBrace).filter (· ≠ 0x2D)
  if hex.length ≠ 32 then none
  else (intBase16 hex).bind fun n => if 0 ≤ n ∧ n < 2 ^ 128 then some n.toNat else none

/-- `n` in `w` hexadecimal digits. -/
def padHex : Nat → Nat → CodePoints
  | 0, _ => []
  | w + 1, n => padHex w (n / 16) ++ [hexDigit (n % 16)]

/-- `str(value)`: groups of 8, 4, 4, 4 and 12 digits. -/
def uuidText (n : Nat) : CodePoints :=
  padHex 8 (n / 16 ^ 24) ++ 0x2D :: padHex 4 (n / 16 ^ 20) ++ 0x2D :: padHex 4 (n / 16 ^ 16) ++
    0x2D :: padHex 4 (n / 16 ^ 12) ++ 0x2D :: padHex 12 n

/-- A digit that is written. -/
def isHexDigit (c : Nat) : Bool := isDigit c || (0x61 ≤ c && c < 0x67)

theorem isHexDigit_hexDigit {n : Nat} (h : n < 16) : isHexDigit (hexDigit n) = true := by
  rw [hexDigit]
  split
  · simp only [isHexDigit, isDigit, Bool.or_eq_true, Bool.and_eq_true, decide_eq_true_eq]
    omega
  · simp only [isHexDigit, isDigit, Bool.or_eq_true, Bool.and_eq_true, decide_eq_true_eq]
    omega

theorem hexValue_hexDigit {n : Nat} (h : n < 16) : hexValue (hexDigit n) = some n := by
  rw [hexDigit]
  split
  · rw [hexValue, if_pos (by omega), Nat.add_sub_cancel_left]
  · rw [hexValue, if_neg (by omega), if_neg (by omega), if_pos (by omega), Nat.add_sub_cancel_left]

theorem isHexDigit_padHex : ∀ {w n c : Nat}, c ∈ padHex w n → isHexDigit c = true
  | 0, _, _, h => by cases h
  | w + 1, n, c, h => by
    rw [padHex, List.mem_append, List.mem_singleton] at h
    rcases h with h | rfl
    · exact isHexDigit_padHex h
    · exact isHexDigit_hexDigit (Nat.mod_lt _ (by decide))

theorem length_padHex : ∀ {w n : Nat}, (padHex w n).length = w
  | 0, _ => rfl
  | w + 1, n => by rw [padHex, List.length_append, List.length_singleton, length_padHex]

/-- The leading digits are those of the quotient: writing a number in groups is writing it at
once. -/
theorem padHex_add : ∀ {v w n : Nat}, padHex (v + w) n = padHex v (n / 16 ^ w) ++ padHex w n
  | v, 0, n => by rw [Nat.pow_zero, Nat.div_one, padHex, List.append_nil, Nat.add_zero]
  | v, w + 1, n => by
    rw [← Nat.add_assoc, padHex, padHex_add, padHex, List.append_assoc, Nat.div_div_eq_div_mul,
      Nat.pow_succ']

/-! ## What is written is read -/

theorem removeFrom_eq {p : Nat} {pattern text : CodePoints} (h : p ∉ text) :
    removeFrom (p :: pattern) 0 text = text := by
  induction text with
  | nil => rfl
  | cons c rest ih =>
    have hhead : (p :: pattern).isPrefixOf (c :: rest) = false := by
      simp only [List.isPrefixOf, Bool.and_eq_false_imp, beq_iff_eq]
      intro heq
      exact absurd (heq ▸ List.mem_cons_self) h
    rw [removeFrom, hhead, ih fun hp => h (List.mem_cons_of_mem _ hp)]
    rfl

theorem scanHex_append : ∀ (digits : List Nat) {acc : Nat}, (∀ d ∈ digits, d < 16) →
    scanHex acc (digits.map hexDigit) = some (digits.foldl (fun n d => 16 * n + d) acc, [])
  | [], _, _ => rfl
  | [d], acc, h => by
    rw [List.map_singleton, scanHex, hexValue_hexDigit (h d List.mem_cons_self)]
    rfl
  | d :: e :: digits, acc, h => by
    rw [List.map_cons, List.map_cons, scanHex, hexValue_hexDigit (h d List.mem_cons_self)]
    exact scanHex_append (e :: digits) fun x hx => h x (List.mem_cons_of_mem _ hx)

/-- The digits that `padHex` writes. -/
def hexDigits : Nat → Nat → List Nat
  | 0, _ => []
  | w + 1, n => hexDigits w (n / 16) ++ [n % 16]

theorem padHex_eq : ∀ {w n : Nat}, padHex w n = (hexDigits w n).map hexDigit
  | 0, _ => rfl
  | w + 1, n => by rw [padHex, hexDigits, List.map_append, padHex_eq, List.map_singleton]

theorem hexDigits_lt : ∀ {w n d : Nat}, d ∈ hexDigits w n → d < 16
  | 0, _, _, h => by cases h
  | w + 1, n, d, h => by
    rw [hexDigits, List.mem_append, List.mem_singleton] at h
    rcases h with h | rfl
    · exact hexDigits_lt h
    · exact Nat.mod_lt _ (by decide)

theorem foldl_hexDigits : ∀ {w n : Nat}, n < 16 ^ w →
    (hexDigits w n).foldl (fun n d => 16 * n + d) 0 = n
  | 0, n, h => by
    rw [Nat.pow_zero, Nat.lt_one_iff] at h
    rw [h]
    rfl
  | w + 1, n, h => by
    have hfit : n / 16 < 16 ^ w := by
      rw [Nat.pow_succ] at h
      omega
    rw [hexDigits, List.foldl_append, foldl_hexDigits hfit, List.foldl_cons, List.foldl_nil]
    exact Nat.div_add_mod n 16

theorem intBase16_padHex {w n : Nat} (h : n < 16 ^ (w + 1)) :
    intBase16 (padHex (w + 1) n) = some (n : Int) := by
  have hdigit : ∀ c ∈ padHex (w + 1) n, isHexDigit c = true := fun c hc => isHexDigit_padHex hc
  have hsmall : ∀ c, isHexDigit c = true → c < 0x80 ∧ isAsciiSpace c = false ∧ c ≠ 0x2B ∧
      c ≠ 0x2D ∧ c ≠ 0x78 ∧ c ≠ 0x58 := by
    intro c hc
    simp only [isHexDigit, isDigit, Bool.or_eq_true, Bool.and_eq_true, decide_eq_true_eq] at hc
    simp only [isAsciiSpace, Bool.or_eq_false_iff, Bool.and_eq_false_iff, decide_eq_false_iff_not,
      beq_eq_false_iff_ne]
    omega
  obtain ⟨d, digits, hdigits⟩ : ∃ d digits, hexDigits (w + 1) n = d :: digits := by
    cases hdigits : hexDigits (w + 1) n with
    | nil =>
      have hlength := @length_padHex (w + 1) n
      rw [padHex_eq, hdigits] at hlength
      exact absurd hlength (by simp)
    | cons d digits => exact ⟨d, digits, rfl⟩
  have htext : padHex (w + 1) n = hexDigit d :: digits.map hexDigit := by
    rw [padHex_eq, hdigits, List.map_cons]
  have hhead := hsmall (hexDigit d) (hdigit _ (htext ▸ List.mem_cons_self))
  have hascii : toAscii (padHex (w + 1) n) = padHex (w + 1) n :=
    if_pos fun c hc => (hsmall c (hdigit c hc)).1
  -- neither of the first two characters is a letter of a prefix
  have hprefix : ∀ letter, letter = 0x78 ∨ letter = 0x58 →
      [0x30, letter].isPrefixOf (hexDigit d :: digits.map hexDigit) = false := by
    intro letter hletter
    cases hmore : digits.map hexDigit with
    | nil => simp [List.isPrefixOf]
    | cons c more =>
      have hc := hsmall c (hdigit c (by
        rw [htext, hmore]
        exact List.mem_cons_of_mem _ List.mem_cons_self))
      have hne : (letter == c) = false := by
        rw [beq_eq_false_iff_ne]
        omega
      simp only [List.isPrefixOf, hne, Bool.false_and, Bool.and_false]
  have hnumber : hexNumber (hexDigit d :: digits.map hexDigit) = some (n, []) := by
    have hx : (points "0x").isPrefixOf (hexDigit d :: digits.map hexDigit) = false :=
      hprefix 0x78 (.inl rfl)
    have hX : (points "0X").isPrefixOf (hexDigit d :: digits.map hexDigit) = false :=
      hprefix 0x58 (.inr rfl)
    have hd : d < 16 := hexDigits_lt (hdigits ▸ List.mem_cons_self)
    rw [hexNumber, hx, hX]
    show (hexValue (hexDigit d)).bind _ = _
    rw [hexValue_hexDigit hd, Option.bind_some, scanHex_append digits fun e he =>
      hexDigits_lt (hdigits ▸ List.mem_cons_of_mem _ he)]
    have hvalue := foldl_hexDigits h
    rw [hdigits, List.foldl_cons, Nat.mul_zero, Nat.zero_add] at hvalue
    rw [hvalue]
  rw [intBase16, hascii, htext, List.dropWhile_cons_of_neg (by rw [hhead.2.1]; exact Bool.false_ne_true)]
  simp only [List.head?_cons, Option.some.injEq, hhead.2.2.1, hhead.2.2.2.1, or_self, if_false, hnumber]
  rfl

/-- `uuid.UUID(str(value))`. -/
theorem uuidOf_uuidText {n : Nat} (h : n < 2 ^ 128) : uuidOf (uuidText n) = some n := by
  have hchars : ∀ c ∈ uuidText n, isHexDigit c = true ∨ c = 0x2D := by
    intro c hc
    simp only [uuidText, List.mem_append, List.mem_cons] at hc
    rcases hc with (((hc | rfl | hc) | rfl | hc) | rfl | hc) | rfl | hc
    all_goals first | exact .inr rfl | exact .inl (isHexDigit_padHex hc)
  have hu : ∀ c, c = 0x75 → c ∉ uuidText n := by
    rintro c rfl hc
    exact absurd (hchars _ hc) (by decide)
  -- none of the decorations `UUID` takes off is there
  have hurn : removeFrom (points "urn:") 0 (uuidText n) = uuidText n := removeFrom_eq (hu _ rfl)
  have huuid : removeFrom (points "uuid:") 0 (uuidText n) = uuidText n := removeFrom_eq (hu _ rfl)
  have hbrace : ∀ c ∈ uuidText n, ¬ isBrace c = true := by
    intro c hc
    simp only [isBrace, Bool.or_eq_true, beq_iff_eq]
    rcases hchars c hc with hc | rfl
    · simp only [isHexDigit, isDigit, Bool.or_eq_true, Bool.and_eq_true, decide_eq_true_eq] at hc
      omega
    · decide
  have hfront : (uuidText n).dropWhile isBrace = uuidText n :=
    List.dropWhile_eq_self_iff.2 fun hlength => hbrace _ (List.getElem_mem hlength)
  have hback : (uuidText n).rdropWhile isBrace = uuidText n :=
    List.rdropWhile_eq_self_iff.2 fun hne => hbrace _ (List.getLast_mem hne)
  have hkept : ∀ {w m : Nat}, (padHex w m).filter (· ≠ 0x2D) = padHex w m := by
    intro w m
    refine List.filter_eq_self.2 fun c hc => ?_
    have hdigit := isHexDigit_padHex hc
    simp only [isHexDigit, isDigit, Bool.or_eq_true, Bool.and_eq_true, decide_eq_true_eq] at hdigit
    rw [decide_eq_true_eq]
    omega
  -- without the dashes the five groups are the digits of one number
  have hdashes : (uuidText n).filter (· ≠ 0x2D) = padHex 32 n := by
    have hsplit : padHex 32 n = padHex 8 (n / 16 ^ 24) ++ padHex 4 (n / 16 ^ 20) ++
        padHex 4 (n / 16 ^ 16) ++ padHex 4 (n / 16 ^ 12) ++ padHex 12 n := by
      rw [show (32 : Nat) = 8 + 4 + 4 + 4 + 12 from rfl]
      simp only [padHex_add, Nat.div_div_eq_div_mul, ← Nat.pow_add]
    simp only [uuidText, List.filter_append, List.filter_cons_of_neg (p := fun c => decide (c ≠ 0x2D))
      (a := 0x2D) (by decide), hkept, hsplit]
  rw [uuidOf, hurn, huuid, hfront, hback, hdashes, length_padHex]
  have hint : intBase16 (padHex 32 n) = some (n : Int) := intBase16_padHex (by
    have hbits : (16 : Nat) ^ (31 + 1) = 2 ^ 128 := by decide
    rw [hbits]
    exact h)
  rw [if_neg (by decide), hint]
  have hrange : (0 : Int) ≤ n ∧ (n : Int) < 2 ^ 128 := ⟨by omega, by exact_mod_cast h⟩
  rw [Option.bind_some, if_pos hrange, Int.toNat_natCast]

end CommercePlatform
