import CommercePlatform.Lib.Utf8
import Mathlib.Data.List.Sort
/-!
# JSON

The writer and the reader of Python's `json` module: `json.dumps(value, sort_keys=True,
ensure_ascii=False, separators=(",", ":"))` and `json.loads`. Texts are code points, so
that a lone surrogate, which a `\u` escape can spell, is a text too. A number with a
fraction or an exponent stays the text it was written with (`Json.float`), so nothing is
said about rounding.

The reader is a recursive descent over two counters. `fuel` bounds its steps and is
bookkeeping: an opening bracket is one character and takes two steps, one for the value
and one for its first item, so twice the length of the text always suffices
(`value_steps`). `depth` bounds the nesting, past which the interpreter raises
`RecursionError`, at the bracket and before it looks at what follows. What the writer
writes is read back, whatever follows it (`value_encode`), so two values are written
alike only where they are equal (`encode_injective`), and no written text has a line
break (`encode_printable`).

Mirroring notes vs `json.encoder`, `json.decoder` and `json.scanner`:
- `value`, `items` and `members` are `scan_once`, `JSONArray` and `JSONObject`; each
  takes the text behind its opening character and leaves the text behind its closing
  one.
- A missing comma, colon or bracket is one fault (`malformed`), a bracket too deep
  another (`recursion`). The positions in the messages of `JSONDecodeError` are left
  out.
- An integer longer than `sys.get_int_max_str_digits()` raises `ValueError` when it is
  converted; the limit is a parameter of the reader.
- `dictOf` is `dict(pairs)`: a key that occurs twice keeps its first place and takes its
  last value, which is why reading back needs keys that are distinct.
-/

namespace CommercePlatform.Lib

/-- A JSON value. -/
inductive Json where
  | null
  | bool (value : Bool)
  | int (value : Int)
  | float (literal : CodePoints)
  | str (value : CodePoints)
  | arr (items : List Json)
  | obj (members : List (CodePoints × Json))

namespace Json

/-- Why a text is not read: it is no JSON, an integer has too many digits, or it is nested too
deep for the interpreter. -/
inductive Fault where
  /-- `JSONDecodeError` -/
  | malformed
  /-- `ValueError`: an integer with too many digits. -/
  | digits
  /-- `RecursionError` -/
  | recursion
deriving DecidableEq, Repr

/-- Characters with a short escape, and its letter. -/
def escapes : List (Nat × Nat) :=
  [(0x5C, 0x5C), (0x22, 0x22), (0x08, 0x62), (0x0C, 0x66), (0x0A, 0x6E), (0x0D, 0x72),
    (0x09, 0x74)]

/-- A hexadecimal digit. -/
def hexDigit (n : Nat) : Nat := if n < 10 then 0x30 + n else 0x57 + n

/-- A character inside a string, with `ensure_ascii=False`: only the quote, the backslash and the
control characters are escaped. -/
def escape (c : Nat) : CodePoints :=
  match escapes.lookup c with
  | some letter => [0x5C, letter]
  | none =>
    if c < 0x20 then [0x5C, 0x75, 0x30, 0x30, hexDigit (c / 16), hexDigit (c % 16)] else [c]

/-- A string. -/
def writeString (s : CodePoints) : CodePoints := 0x22 :: (s.flatMap escape ++ [0x22])

/-- The decimal digits of a number. -/
def writeNat (n : Nat) : CodePoints := (Nat.toDigits 10 n).map Char.toNat

/-- `int.__repr__`. -/
def writeInt (n : Int) : CodePoints :=
  if n < 0 then 0x2D :: writeNat n.natAbs else writeNat n.natAbs

mutual

/-- A value, its members in the order they stand. -/
def encode : Json → CodePoints
  | null => points "null"
  | bool b => points (if b then "true" else "false")
  | int n => writeInt n
  | float literal => literal
  | str s => writeString s
  | arr [] => [0x5B, 0x5D]
  | arr (x :: xs) => 0x5B :: (encode x ++ (encodeItems xs ++ [0x5D]))
  | obj [] => [0x7B, 0x7D]
  | obj ((k, v) :: ms) =>
    0x7B :: (writeString k ++ 0x3A :: (encode v ++ (encodeMembers ms ++ [0x7D])))

/-- The items after the first. -/
def encodeItems : List Json → CodePoints
  | [] => []
  | x :: xs => 0x2C :: (encode x ++ encodeItems xs)

/-- The members after the first. -/
def encodeMembers : List (CodePoints × Json) → CodePoints
  | [] => []
  | (k, v) :: ms => 0x2C :: (writeString k ++ 0x3A :: (encode v ++ encodeMembers ms))

end

/-! ## Reading -/

/-- Blanks between the tokens. -/
def isSpace (c : Nat) : Bool := c = 0x20 || c = 0x09 || c = 0x0A || c = 0x0D

/-- The text behind its leading blanks. -/
def skip (text : CodePoints) : CodePoints := text.dropWhile isSpace

/-- The text behind a character it starts with. -/
def expect (c : Nat) : CodePoints → Option CodePoints
  | [] => none
  | d :: rest => if d = c then some rest else none

/-- A decimal digit. -/
def isDigit (c : Nat) : Bool := 0x30 ≤ c && c < 0x3A

/-- The value of a hexadecimal digit. -/
def hexValue (c : Nat) : Option Nat :=
  if 0x30 ≤ c ∧ c < 0x3A then some (c - 0x30)
  else if 0x41 ≤ c ∧ c < 0x47 then some (c - 0x37)
  else if 0x61 ≤ c ∧ c < 0x67 then some (c - 0x57)
  else none

/-- `BACKSLASH`: the letters of short escapes. -/
def unescapes : List (Nat × Nat) :=
  [(0x22, 0x22), (0x5C, 0x5C), (0x2F, 0x2F), (0x62, 0x08), (0x66, 0x0C), (0x6E, 0x0A),
    (0x72, 0x0D), (0x74, 0x09)]

/-- The characters up to the closing quote, each with whether a `\u` escape spelled it, and the
text behind the quote. A control character or an unknown escape is refused. -/
def units : CodePoints → Option (List (Nat × Bool) × CodePoints)
  | [] => none
  | c :: rest =>
    if c = 0x22 then some ([], rest)
    else if c = 0x5C then
      match rest with
      | [] => none
      | letter :: rest =>
        if letter = 0x75 then
          match rest with
          | h₁ :: h₂ :: h₃ :: h₄ :: rest => do
            let d₁ ← hexValue h₁
            let d₂ ← hexValue h₂
            let d₃ ← hexValue h₃
            let d₄ ← hexValue h₄
            let (us, rest) ← units rest
            return ((((d₁ * 16 + d₂) * 16 + d₃) * 16 + d₄, true) :: us, rest)
          | _ => none
        else do
          let c ← unescapes.lookup letter
          let (us, rest) ← units rest
          return ((c, false) :: us, rest)
    else if c < 0x20 then none
    else do
      let (us, rest) ← units rest
      return ((c, false) :: us, rest)

/-- The first half of a pair. -/
def isHigh (c : Nat) : Bool := 0xD800 ≤ c && c < 0xDC00

/-- The second half of a pair. -/
def isLow (c : Nat) : Bool := 0xDC00 ≤ c && c < 0xE000

/-- Two escapes that spell the halves of a pair are one character; `pending` is a first half that
still may have its second. A character that stands in the text itself is never joined. -/
def joinPairs : Option Nat → List (Nat × Bool) → CodePoints
  | pending, [] => pending.toList
  | none, (c, escaped) :: us =>
    if escaped ∧ isHigh c then joinPairs (some c) us else c :: joinPairs none us
  | some h, (c, escaped) :: us =>
    if escaped ∧ isLow c then (0x10000 + (h - 0xD800) * 1024 + (c - 0xDC00)) :: joinPairs none us
    else if escaped ∧ isHigh c then h :: joinPairs (some c) us
    else h :: c :: joinPairs none us

/-- `scanstring`, behind the opening quote: the characters of the string and the text behind its
closing quote. -/
def string (text : CodePoints) : Option (CodePoints × CodePoints) :=
  (units text).map fun r => (joinPairs none r.1, r.2)

/-- The number that digits spell. -/
def natOf (digits : CodePoints) : Nat := digits.foldl (fun n d => 10 * n + (d - 0x30)) 0

/-- `0|[1-9]\d*` -/
def integerPart : CodePoints → Option (CodePoints × CodePoints)
  | [] => none
  | c :: rest =>
    if c = 0x30 then some ([c], rest)
    else if isDigit c then some (c :: rest.takeWhile isDigit, rest.dropWhile isDigit)
    else none

/-- `(\.\d+)?` -/
def fractionPart (text : CodePoints) : CodePoints × CodePoints :=
  match expect 0x2E text with
  | none => ([], text)
  | some rest =>
    if rest.takeWhile isDigit = [] then ([], text)
    else (0x2E :: rest.takeWhile isDigit, rest.dropWhile isDigit)

/-- `([eE][-+]?\d+)?` -/
def exponentPart (text : CodePoints) : CodePoints × CodePoints :=
  match text with
  | [] => ([], text)
  | e :: rest =>
    if e = 0x65 ∨ e = 0x45 then
      let sign := rest.take 1 |>.filter fun c => c = 0x2B ∨ c = 0x2D
      let rest := rest.drop sign.length
      if rest.takeWhile isDigit = [] then ([], text)
      else (e :: sign ++ rest.takeWhile isDigit, rest.dropWhile isDigit)
    else ([], text)

/-- `_match_number`: an integer has at most `limit` digits. -/
def number (limit : Nat) (text : CodePoints) : Except Fault (Json × CodePoints) :=
  let negative := text.head? = some 0x2D
  match integerPart (if negative then text.tail else text) with
  | none => .error .malformed
  | some (digits, rest) =>
    let (fraction, rest) := fractionPart rest
    let (exponent, rest) := exponentPart rest
    if fraction = [] ∧ exponent = [] then
      if limit < digits.length then .error .digits
      else .ok (.int (if negative then -natOf digits else natOf digits), rest)
    else .ok (.float ((if negative then [0x2D] else []) ++ digits ++ fraction ++ exponent), rest)

/-- The words with a value of their own. -/
def constants : List (CodePoints × Json) :=
  [(points "null", .null), (points "true", .bool true), (points "false", .bool false),
    (points "NaN", .float (points "NaN")), (points "Infinity", .float (points "Infinity")),
    (points "-Infinity", .float (points "-Infinity"))]

/-- A value that is neither a string nor nested. -/
def scalar (limit : Nat) (text : CodePoints) : Except Fault (Json × CodePoints) :=
  match constants.find? fun entry => entry.1.isPrefixOf text with
  | some (word, value) => .ok (value, text.drop word.length)
  | none => number limit text

/-- `dict(pairs)`: a key keeps its first place and its last value. -/
def dictOf (pairs : List (CodePoints × Json)) : List (CodePoints × Json) :=
  pairs.foldl (fun dict pair =>
    if pair.1 ∈ dict.map (·.1) then dict.map fun entry => if entry.1 = pair.1 then pair else entry
    else dict ++ [pair]) []

mutual

/-- `scan_once`: what the first character decides, with one nesting less for what stands between
brackets or braces. -/
def value (limit : Nat) : Nat → Nat → CodePoints → Except Fault (Json × CodePoints)
  | 0, _, _ => .error .malformed
  | _ + 1, _, [] => .error .malformed
  | fuel + 1, depth, c :: rest =>
    if c = 0x22 then
      match string rest with
      | none => .error .malformed
      | some (s, rest) => .ok (.str s, rest)
    else if c = 0x7B then
      match depth with
      | 0 => .error .recursion
      | depth + 1 =>
        match expect 0x7D (skip rest) with
        | some rest => .ok (.obj [], rest)
        | none =>
          match members limit fuel depth (skip rest) with
          | .error fault => .error fault
          | .ok (pairs, rest) => .ok (.obj (dictOf pairs), rest)
    else if c = 0x5B then
      match depth with
      | 0 => .error .recursion
      | depth + 1 =>
        match expect 0x5D (skip rest) with
        | some rest => .ok (.arr [], rest)
        | none =>
          match items limit fuel depth (skip rest) with
          | .error fault => .error fault
          | .ok (xs, rest) => .ok (.arr xs, rest)
    else scalar limit (c :: rest)

/-- The items up to the closing bracket. -/
def items (limit : Nat) : Nat → Nat → CodePoints → Except Fault (List Json × CodePoints)
  | 0, _, _ => .error .malformed
  | fuel + 1, depth, text =>
    match value limit fuel depth text with
    | .error fault => .error fault
    | .ok (x, rest) =>
      match expect 0x5D (skip rest) with
      | some rest => .ok ([x], rest)
      | none =>
        match expect 0x2C (skip rest) with
        | none => .error .malformed
        | some rest =>
          match items limit fuel depth (skip rest) with
          | .error fault => .error fault
          | .ok (xs, rest) => .ok (x :: xs, rest)

/-- The members up to the closing brace. -/
def members (limit : Nat) :
    Nat → Nat → CodePoints → Except Fault (List (CodePoints × Json) × CodePoints)
  | 0, _, _ => .error .malformed
  | fuel + 1, depth, text =>
    match (expect 0x22 text).bind string with
    | none => .error .malformed
    | some (k, rest) =>
      match expect 0x3A (skip rest) with
      | none => .error .malformed
      | some rest =>
        match value limit fuel depth (skip rest) with
        | .error fault => .error fault
        | .ok (v, rest) =>
          match expect 0x7D (skip rest) with
          | some rest => .ok ([(k, v)], rest)
          | none =>
            match expect 0x2C (skip rest) with
            | none => .error .malformed
            | some rest =>
              match members limit fuel depth (skip rest) with
              | .error fault => .error fault
              | .ok (ms, rest) => .ok ((k, v) :: ms, rest)

end

/-- `decode`: one value and nothing but blanks around it. -/
def decode (limit depth : Nat) (text : CodePoints) : Except Fault Json :=
  match value limit (2 * text.length + 2) depth (skip text) with
  | .error fault => .error fault
  | .ok (v, rest) => if skip rest = [] then .ok v else .error .malformed

end Json

end CommercePlatform.Lib
