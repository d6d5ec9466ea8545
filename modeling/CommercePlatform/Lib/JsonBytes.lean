import CommercePlatform.Lib.JsonDumps
import CommercePlatform.Lib.JsonSteps
/-!
# JSON in bytes

`json.loads` of bytes. The first bytes show which encoding they are in
(`detect_encoding`), with a mark or without one; the text is decoded with
`surrogatepass`, so that a lone surrogate is a character of its own. Bytes that
`json.dumps(…).encode("utf-8")` made of an object are read as UTF-8 and give the object
back (`loads_utf8`).

The detection looks at the zeros among the first four bytes, so the point of the round
trip is that an object starts with two characters of ASCII, the brace and a quote or the
closing brace: bytes like these are taken as UTF-8 (`detectEncoding_ascii`), and a text
of scalar values is decoded from them as it was encoded (`Lib/Utf8`).

`loads_deep` is the other result: brackets that open deeper than the interpreter nests
raise `RecursionError`, whether they are ever closed or not, since the bracket is
counted before what follows it is read.

Mirroring notes vs `json.loads` and `json.detect_encoding`:
- UTF-8, UTF-16 and UTF-32 in both byte orders, each with or without a mark; the mark is
  dropped by its length, as the codecs `utf-8-sig`, `utf-16` and `utf-32` drop it.
- The argument is bytes. A `str` that starts with U+FEFF is refused by `json.loads`,
  which does not occur here.
- Bytes that cannot be decoded raise `UnicodeDecodeError`, a `ValueError` like
  `JSONDecodeError`; both are `malformed`, and the messages are left out.
-/

namespace CommercePlatform.Lib

/-- The numbers of two bytes each. -/
def pairsOf (bigEndian : Bool) : List UInt8 → Option (List Nat)
  | [] => some []
  | [_] => none
  | a :: b :: rest =>
    (pairsOf bigEndian rest).map
      ((if bigEndian then a.toNat * 256 + b.toNat else b.toNat * 256 + a.toNat) :: ·)

/-- A high unit before a low one is a pair; any other stands for itself, which is what
`surrogatepass` makes of a lone half. -/
def joinUnits : List Nat → CodePoints
  | [] => []
  | [u] => [u]
  | u :: v :: rest =>
    if Json.isHigh u && Json.isLow v then
      (0x10000 + (u - 0xD800) * 1024 + (v - 0xDC00)) :: joinUnits rest
    else u :: joinUnits (v :: rest)

/-- The code points of four bytes each. -/
def quadsOf (bigEndian : Bool) : List UInt8 → Option CodePoints
  | [] => some []
  | a :: b :: c :: d :: rest =>
    let n := if bigEndian then ((a.toNat * 256 + b.toNat) * 256 + c.toNat) * 256 + d.toNat
      else ((d.toNat * 256 + c.toNat) * 256 + b.toNat) * 256 + a.toNat
    if n < 0x110000 then (quadsOf bigEndian rest).map (n :: ·) else none
  | _ => none

inductive Encoding where
  | utf8
  | utf16 (bigEndian : Bool)
  | utf32 (bigEndian : Bool)
deriving DecidableEq, Repr

/-- `data.decode(encoding, "surrogatepass")`; nothing where it raises `UnicodeDecodeError`, for
bytes that end within a character or spell no code point. -/
def Encoding.decode : Encoding → List UInt8 → Option CodePoints
  | utf8, data => decodeUtf8 data
  | utf16 bigEndian, data => (pairsOf bigEndian data).map joinUnits
  | utf32 bigEndian, data => quadsOf bigEndian data

namespace Json

/-- `detect_encoding`, and the length of the mark in front. -/
def detectEncoding (data : List UInt8) : Encoding × Nat :=
  if [0x00, 0x00, 0xFE, 0xFF].isPrefixOf data then (.utf32 true, 4)
  else if [0xFF, 0xFE, 0x00, 0x00].isPrefixOf data then (.utf32 false, 4)
  else if [0xFE, 0xFF].isPrefixOf data then (.utf16 true, 2)
  else if [0xFF, 0xFE].isPrefixOf data then (.utf16 false, 2)
  else if [0xEF, 0xBB, 0xBF].isPrefixOf data then (.utf8, 3)
  else match data with
    | [a, b] =>
      if a = 0 then (.utf16 true, 0) else if b = 0 then (.utf16 false, 0) else (.utf8, 0)
    | a :: b :: c :: d :: _ =>
      if a = 0 then if b = 0 then (.utf32 true, 0) else (.utf16 true, 0)
      else if b = 0 then if c = 0 ∧ d = 0 then (.utf32 false, 0) else (.utf16 false, 0)
      else (.utf8, 0)
    | _ => (.utf8, 0)

/-- The text of the bytes. -/
def textOf (data : List UInt8) : Option CodePoints :=
  (detectEncoding data).1.decode (data.drop (detectEncoding data).2)

/-- `json.loads` of bytes: the encoding, the text, and then the reader under the limits of the
interpreter. -/
def loads (limit depth : Nat) (data : List UInt8) : Except Fault Json :=
  match textOf data with
  | none => .error .malformed
  | some text => decode limit depth text

theorem detectEncoding_ascii {a b : UInt8} {rest : List UInt8} (ha : 0 < a.toNat ∧ a.toNat < 0x80)
    (hb : b ≠ 0) : detectEncoding (a :: b :: rest) = (.utf8, 0) := by
  have hne : ∀ n : UInt8, (n.toNat = 0 ∨ 0x80 ≤ n.toNat) → (n == a) = false := by
    intro n hn
    rw [beq_eq_false_iff_ne]
    rintro rfl
    omega
  have hzero : ¬ a = 0 := by
    rintro rfl
    exact absurd ha.1 (by decide)
  simp only [detectEncoding, List.isPrefixOf, hne 0x00 (by decide), hne 0xFF (by decide),
    hne 0xFE (by decide), hne 0xEF (by decide), Bool.false_and, Bool.false_eq_true, if_false]
  rcases rest with _ | ⟨c, _ | ⟨d, more⟩⟩
  · dsimp only
    rw [if_neg hzero, if_neg hb]
  · rfl
  · dsimp only
    rw [if_neg hzero, if_neg hb]

theorem utf8Point_head {n : Nat} (hpos : 0 < n) (hn : n < 0x110000) :
    ∃ b rest, utf8Point n = b :: rest ∧ b ≠ 0 := by
  have hbyte : ∀ {k : Nat}, 0 < k → k < 256 → UInt8.ofNat k ≠ 0 := by
    intro k hk hlt h
    have hval := toNat_byte hlt
    rw [h] at hval
    exact absurd hval (by simp; omega)
  rw [utf8Point]
  split
  · exact ⟨_, _, rfl, hbyte hpos (by omega)⟩
  · split
    · exact ⟨_, _, rfl, hbyte (by omega) (by omega)⟩
    · split
      · exact ⟨_, _, rfl, hbyte (by omega) (by omega)⟩
      · exact ⟨_, _, rfl, hbyte (by omega) (by omega)⟩

/-- A text that begins with two characters, the first one of ASCII, is read as it is. -/
theorem textOf_utf8 {c d : Nat} {text : CodePoints} (hc : 0 < c ∧ c < 0x80) (hd : 0 < d)
    (htext : ∀ n ∈ c :: d :: text, n < 0x110000) :
    textOf (utf8 (c :: d :: text)) = some (c :: d :: text) := by
  obtain ⟨b, more, hpoint, hb⟩ := utf8Point_head hd
    (htext d (List.mem_cons_of_mem _ List.mem_cons_self))
  have hbytes : utf8 (c :: d :: text) = UInt8.ofNat c :: b :: (more ++ utf8 text) := by
    rw [utf8, List.flatMap_cons, List.flatMap_cons, hpoint, utf8Point, if_pos hc.2]
    rfl
  have hfirst : (UInt8.ofNat c).toNat = c := toNat_byte (by omega)
  have hencoding : detectEncoding (utf8 (c :: d :: text)) = (.utf8, 0) := by
    rw [hbytes]
    exact detectEncoding_ascii (by rw [hfirst]; exact hc) hb
  rw [textOf, hencoding]
  exact decodeUtf8_utf8 htext

/-- `json.loads` of an object that `json.dumps` wrote. -/
theorem loads_utf8 {limit depth : Nat} {ms : List (CodePoints × Json)}
    (h : (Json.obj ms).Plain limit depth) (hclean : Clean (.obj ms)) :
    loads limit depth (utf8 (encode (sortKeys (.obj ms)))) = .ok (sortKeys (.obj ms)) := by
  have hplain := plain_sortKeys _ h
  have hscalar := isText_encode _ (clean_sortKeys _ hclean)
  have hprintable := encode_printable _ hplain
  have hread := decode_encode hplain
  obtain ⟨d, text, hwritten⟩ : ∃ d text, encode (sortKeys (.obj ms)) = 0x7B :: d :: text := by
    rw [sortKeys]
    cases byKey (sortKeysMembers ms) with
    | nil => exact ⟨_, _, rfl⟩
    | cons m more =>
      obtain ⟨k, v⟩ := m
      exact ⟨_, _, rfl⟩
  rw [hwritten] at hscalar hprintable hread ⊢
  have hd : 0 < d :=
    Nat.lt_of_lt_of_le (by decide) (hprintable d (List.mem_cons_of_mem _ List.mem_cons_self))
  rw [loads, textOf_utf8 ⟨by decide, by decide⟩ hd fun n hn => (hscalar n hn).1]
  exact hread

/-- `json.loads` of one bracket more than the nesting allows, closed or not. -/
theorem loads_deep (limit depth : Nat) {rest : CodePoints} (hrest : ∀ n ∈ rest, n < 0x110000) :
    loads limit (depth + 1) (utf8 (List.replicate (depth + 2) 0x5B ++ rest)) =
      .error .recursion := by
  have htext : ∀ n ∈ List.replicate (depth + 2) 0x5B ++ rest, n < 0x110000 := by
    intro n hn
    rcases List.mem_append.1 hn with hn | hn
    · rw [(List.mem_replicate.1 hn).2]
      decide
    · exact hrest n hn
  have hbrackets : List.replicate (depth + 2) 0x5B ++ rest =
      0x5B :: 0x5B :: (List.replicate depth 0x5B ++ rest) := rfl
  have hread := decode_deep limit (depth + 1) rest
  rw [hbrackets] at htext hread ⊢
  rw [loads, textOf_utf8 ⟨by decide, by decide⟩ (by decide) htext]
  exact hread

end Json

end CommercePlatform.Lib
