import Mathlib.Data.List.Basic
import Mathlib.Tactic.Common
/-!
# Text and its bytes

A text is the list of its code points, as Python holds it: a lone surrogate is a code
point too. `encodeUtf8` is `str.encode("utf-8")`, which refuses surrogates; `decodeUtf8`
is `bytes.decode("utf-8", "surrogatepass")`, which accepts their three bytes. What the
first writes the second reads back (`decodeUtf8_utf8`), so the bytes of two texts
are equal only where the texts are (`utf8_injective`).

The decoder reads one code point at a time, so the round trip is one statement about a
single point with anything behind it (`decodeUtf8_point`) and an induction on the text.
The statement about a point is four cases, one for each length of its bytes, in which
the bits the encoder distributed are collected again.

Mirroring notes vs the codecs:
- The shortest form is required when reading: an overlong sequence or a point past
  `0x10FFFF` is refused.
- Where the two disagree about surrogates the code's own arguments are followed: strict
  when writing, `surrogatepass` when reading, which is what `json.loads` passes.
- A `String` of Lean has no surrogates; `points` embeds it, and what it gives can always
  be encoded (`isScalar_points`).
-/

namespace CommercePlatform.Lib

/-- Code points, one after the other. -/
abbrev CodePoints := List Nat

/-- The code points of a text without surrogates. -/
def points (s : String) : CodePoints := s.toList.map Char.toNat

theorem points_injective : Function.Injective points := by
  intro s t h
  have htoNat : Function.Injective Char.toNat := fun a b hab => Char.toNat_inj.1 hab
  exact String.toList_inj.1 (List.map_injective_iff.2 htoNat h)

/-- Half of a pair of UTF-16. -/
def isSurrogate (n : Nat) : Bool := 0xD800 ≤ n && n < 0xE000

/-- A code point that a UTF encoding can hold. -/
def IsScalar (n : Nat) : Prop := n < 0x110000 ∧ isSurrogate n = false

instance : DecidablePred IsScalar := fun n =>
  inferInstanceAs (Decidable (n < 0x110000 ∧ isSurrogate n = false))

theorem isScalar_points {s : String} : ∀ n ∈ points s, IsScalar n := by
  intro n hn
  obtain ⟨c, -, rfl⟩ := List.mem_map.1 hn
  have hvalid : c.toNat < 0xD800 ∨ (0xDFFF < c.toNat ∧ c.toNat < 0x110000) := c.valid
  constructor
  · omega
  · simp only [isSurrogate, Bool.and_eq_false_iff, decide_eq_false_iff_not]
    omega

/-- A byte that continues a character, with six bits of it. -/
def continuation (bits : Nat) : UInt8 := .ofNat (0x80 + bits % 64)

/-- The bytes of a code point: one below `0x80`, then two, three and four. -/
def utf8Point (n : Nat) : List UInt8 :=
  if n < 0x80 then [.ofNat n]
  else if n < 0x800 then [.ofNat (0xC0 + n / 64), continuation n]
  else if n < 0x10000 then [.ofNat (0xE0 + n / 4096), continuation (n / 64), continuation n]
  else [.ofNat (0xF0 + n / 262144), continuation (n / 4096), continuation (n / 64), continuation n]

/-- The bytes of code points that have some. -/
def utf8 (text : CodePoints) : List UInt8 := text.flatMap utf8Point

/-- `text.encode("utf-8")`; a surrogate raises `UnicodeEncodeError`, for which this is `none`. -/
def encodeUtf8 (text : CodePoints) : Option (List UInt8) :=
  if ∀ n ∈ text, IsScalar n then some (utf8 text) else none

/-- The six bits of a continuation byte. -/
def continued (b : UInt8) : Option Nat :=
  if 0x80 ≤ b.toNat ∧ b.toNat < 0xC0 then some (b.toNat - 0x80) else none

/-- `data.decode("utf-8", "surrogatepass")`: the shortest form of each code point only. -/
def decodeUtf8 : List UInt8 → Option CodePoints
  | [] => some []
  | a :: rest =>
    if a.toNat < 0x80 then (decodeUtf8 rest).map (a.toNat :: ·)
    else match rest with
      | [] => none
      | b :: rest => do
        let y ← continued b
        if 0xC2 ≤ a.toNat ∧ a.toNat < 0xE0 then
          (decodeUtf8 rest).map (((a.toNat - 0xC0) * 64 + y) :: ·)
        else match rest with
          | [] => none
          | c :: rest => do
            let z ← continued c
            if 0xE0 ≤ a.toNat ∧ a.toNat < 0xF0 then
              let n := (a.toNat - 0xE0) * 4096 + y * 64 + z
              if n < 0x800 then none else (decodeUtf8 rest).map (n :: ·)
            else match rest with
              | [] => none
              | d :: rest => do
                let w ← continued d
                let n := (a.toNat - 0xF0) * 262144 + y * 4096 + z * 64 + w
                if 0xF0 ≤ a.toNat ∧ 0x10000 ≤ n ∧ n < 0x110000 then
                  (decodeUtf8 rest).map (n :: ·)
                else none

theorem toNat_byte {n : Nat} (h : n < 256) : (UInt8.ofNat n).toNat = n := by
  rw [UInt8.toNat_ofNat']
  exact Nat.mod_eq_of_lt h

theorem continued_continuation (bits : Nat) : continued (continuation bits) = some (bits % 64) := by
  have hbits : (continuation bits).toNat = 0x80 + bits % 64 := toNat_byte (by omega)
  unfold continued
  rw [hbits, if_pos (by omega), Nat.add_sub_cancel_left]

/-- One code point is read back, whatever follows: its first byte says how many belong to it. -/
theorem decodeUtf8_point {n : Nat} (hn : n < 0x110000) (rest : List UInt8) :
    decodeUtf8 (utf8Point n ++ rest) = (decodeUtf8 rest).map (n :: ·) := by
  -- one case per length of the sequence; the range check of each excludes an overlong form
  by_cases h1 : n < 0x80
  · have hlead : (UInt8.ofNat n).toNat = n := toNat_byte (by omega)
    rw [utf8Point, if_pos h1, List.singleton_append, decodeUtf8.eq_def]
    simp only [hlead]
    rw [if_pos h1]
  by_cases h2 : n < 0x800
  · have hlead : (UInt8.ofNat (0xC0 + n / 64)).toNat = 0xC0 + n / 64 := toNat_byte (by omega)
    rw [utf8Point, if_neg h1, if_pos h2, List.cons_append, List.singleton_append, decodeUtf8.eq_def]
    simp only [hlead, continued_continuation, Option.bind_eq_bind, Option.bind_some]
    rw [if_neg (by omega), if_pos (by omega),
      show (0xC0 + n / 64 - 0xC0) * 64 + n % 64 = n by omega]
  -- a surrogate is encoded like any point of three bytes, as under `surrogatepass`
  by_cases h3 : n < 0x10000
  · have hlead : (UInt8.ofNat (0xE0 + n / 4096)).toNat = 0xE0 + n / 4096 := toNat_byte (by omega)
    rw [utf8Point, if_neg h1, if_neg h2, if_pos h3, List.cons_append, List.cons_append,
      List.singleton_append, decodeUtf8.eq_def]
    simp only [hlead, continued_continuation, Option.bind_eq_bind, Option.bind_some]
    rw [if_neg (by omega), if_neg (by omega), if_pos (by omega),
      show (0xE0 + n / 4096 - 0xE0) * 4096 + n / 64 % 64 * 64 + n % 64 = n by omega, if_neg h2]
  · have hlead : (UInt8.ofNat (0xF0 + n / 262144)).toNat = 0xF0 + n / 262144 :=
      toNat_byte (by omega)
    rw [utf8Point, if_neg h1, if_neg h2, if_neg h3, List.cons_append, List.cons_append,
      List.cons_append, List.singleton_append, decodeUtf8.eq_def]
    simp only [hlead, continued_continuation, Option.bind_eq_bind, Option.bind_some]
    rw [if_neg (by omega), if_neg (by omega), if_neg (by omega),
      show (0xF0 + n / 262144 - 0xF0) * 262144 + n / 4096 % 64 * 4096 + n / 64 % 64 * 64 + n % 64
        = n by omega, if_pos (by omega)]

/-- The bytes of a text are read back. -/
theorem decodeUtf8_utf8 : ∀ {text : CodePoints}, (∀ n ∈ text, n < 0x110000) →
    decodeUtf8 (utf8 text) = some text
  | [], _ => rfl
  | n :: text, h => by
    have ih : decodeUtf8 (utf8 text) = some text :=
      decodeUtf8_utf8 fun m hm => h m (List.mem_cons_of_mem n hm)
    show decodeUtf8 (utf8Point n ++ utf8 text) = some (n :: text)
    rw [decodeUtf8_point (h n List.mem_cons_self), ih, Option.map_some]

/-- Texts with equal bytes are equal. -/
theorem utf8_injective {a b : CodePoints} (ha : ∀ n ∈ a, n < 0x110000)
    (hb : ∀ n ∈ b, n < 0x110000) (h : utf8 a = utf8 b) : a = b := by
  have hdecode : some a = some b := by
    rw [← decodeUtf8_utf8 ha, ← decodeUtf8_utf8 hb, h]
  exact Option.some.inj hdecode

@[simp] theorem utf8_append (a b : CodePoints) : utf8 (a ++ b) = utf8 a ++ utf8 b :=
  List.flatMap_append

end CommercePlatform.Lib
