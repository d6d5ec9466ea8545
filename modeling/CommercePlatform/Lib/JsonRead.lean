import CommercePlatform.Lib.Json
/-!
# What JSON text reads as

The reader of `Lib/Json` against its writer, token by token and then for whole values.
The statement for each token is of one form: the reader takes exactly the text the
writer made and leaves what follows it, *whatever* follows (`string_writeString`,
`number_writeInt`, `value_encode`). Only a number needs to know where it stops, since
its digits could go on (`Stops`); a comma, a bracket, a brace and the end of the text
stop it.

`value_encode` is the main lemma, a mutual induction on the value with the items of an
array (`items_encode`) and the members of an object (`members_encode`), one case for
each constructor. The number of steps only has to cover the length of what was written,
and the nesting that of the value (`Plain`).

From it come the two results the rest of the development uses: what is written is read
back (`decode_encode`), so two values are written alike only where they are equal
(`encode_injective`); and a written value is one line (`encode_printable`), since every
control character inside a string is escaped.
-/

namespace CommercePlatform.Lib.Json

/-- Only a control character without a short escape is spelled by its number. -/
def spelled (c : Nat) : Bool := (escapes.lookup c).isNone && c < 0x20

theorem units_short {letter c : Nat} (hu : letter ≠ 0x75) (hc : unescapes.lookup letter = some c)
    (rest : CodePoints) :
    units (0x5C :: letter :: rest) = (units rest).map fun r => ((c, false) :: r.1, r.2) := by
  rw [units.eq_def]
  simp only [show ¬ (0x5C : Nat) = 0x22 by decide, if_false, if_true, if_neg hu, hc]
  cases units rest <;> rfl

theorem units_control {c : Nat} (hc : c < 0x20) (rest : CodePoints) :
    units (0x5C :: 0x75 :: 0x30 :: 0x30 :: hexDigit (c / 16) :: hexDigit (c % 16) :: rest) =
      (units rest).map fun r => ((c, true) :: r.1, r.2) := by
  have hdigit : ∀ n < 16, hexValue (hexDigit n) = some n := by decide
  rw [units.eq_def]
  simp only [show ¬ (0x5C : Nat) = 0x22 by decide, if_false, hdigit (c / 16) (by omega), hdigit (c % 16) (by omega),
    show hexValue 0x30 = some 0 by decide, Option.bind_eq_bind, Option.bind_some, if_true]
  rw [show ((0 * 16 + 0) * 16 + c / 16) * 16 + c % 16 = c by omega]
  cases units rest <;> rfl

theorem units_plain {c : Nat} (hquote : c ≠ 0x22) (hslash : c ≠ 0x5C) (hc : ¬ c < 0x20)
    (rest : CodePoints) :
    units (c :: rest) = (units rest).map fun r => ((c, false) :: r.1, r.2) := by
  rw [units.eq_def]
  simp only [if_neg hquote, if_neg hslash, if_neg hc]
  cases units rest <;> rfl

/-- A written character is read back: itself, by its short escape, or by its number. -/
theorem units_escape (c : Nat) (rest : CodePoints) :
    units (escape c ++ rest) = (units rest).map fun r => ((c, spelled c) :: r.1, r.2) := by
  cases hlookup : escapes.lookup c with
  | some letter =>
    have htable : ∀ e ∈ escapes, e.2 ≠ 0x75 ∧ unescapes.lookup e.2 = some e.1 := by decide
    obtain ⟨l₁, l₂, heq, -⟩ := List.lookup_eq_some_iff.1 hlookup
    obtain ⟨hu, hback⟩ := htable (c, letter) (by rw [heq]; simp)
    rw [escape, hlookup, spelled, hlookup]
    exact units_short hu hback rest
  | none =>
    by_cases hc : c < 0x20
    · rw [escape, hlookup, spelled, hlookup, if_pos hc, decide_eq_true hc]
      exact units_control hc rest
    · have hnot : ∀ e ∈ escapes, c ≠ e.1 := fun e he => by
        simpa using List.lookup_eq_none_iff.1 hlookup e he
      rw [escape, hlookup, spelled, hlookup, if_neg hc, decide_eq_false hc]
      exact units_plain (hnot (0x22, 0x22) (by decide)) (hnot (0x5C, 0x5C) (by decide)) hc rest

theorem units_string (s rest : CodePoints) :
    units (s.flatMap escape ++ 0x22 :: rest) = some (s.map fun c => (c, spelled c), rest) := by
  induction s with
  | nil =>
    rw [List.flatMap_nil, List.nil_append, units.eq_def]
    rfl
  | cons c s ih =>
    rw [List.flatMap_cons, List.append_assoc, units_escape, ih]
    rfl

/-- Where no first half of a pair was spelled, the characters are the units: the writer spells
control characters only. -/
theorem joinPairs_eq : ∀ {us : List (Nat × Bool)}, (∀ u ∈ us, ¬ (u.2 = true ∧ isHigh u.1 = true)) →
    joinPairs none us = us.map (·.1)
  | [], _ => rfl
  | (c, escaped) :: us, h => by
    rw [joinPairs, if_neg (h (c, escaped) List.mem_cons_self), List.map_cons,
      joinPairs_eq fun u hu => h u (List.mem_cons_of_mem _ hu)]

/-- A written string is read back. -/
theorem string_writeString (s rest : CodePoints) :
    string (s.flatMap escape ++ 0x22 :: rest) = some (s, rest) := by
  have hjoin : joinPairs none (s.map fun c => (c, spelled c)) = s := by
    rw [joinPairs_eq, List.map_map]
    · exact List.map_id s
    · intro u hu hhigh
      obtain ⟨c, -, rfl⟩ := List.mem_map.1 hu
      simp only [spelled, isHigh, Bool.and_eq_true, decide_eq_true_eq] at hhigh
      omega
  rw [string, units_string, Option.map_some, hjoin]

theorem natOf_writeNat (n : Nat) : natOf (writeNat n) = n := by
  rw [natOf, writeNat, List.foldl_map]
  exact Nat.ofDigitChars_ten_toDigits

theorem isDigit_toNat {c : Char} (h : c.isDigit = true) : isDigit c.toNat = true := by
  have hrange : 0x30 ≤ c.toNat ∧ c.toNat ≤ 0x39 := by
    simpa [Char.isDigit, UInt32.le_iff_toNat_le] using h
  simp only [isDigit, Bool.and_eq_true, decide_eq_true_eq]
  omega

theorem isDigit_writeNat {n c : Nat} (h : c ∈ writeNat n) : isDigit c = true := by
  obtain ⟨d, hd, rfl⟩ := List.mem_map.1 h
  exact isDigit_toNat (Nat.isDigit_of_mem_toDigits (by decide) (by decide) hd)

/-- A number starts with a digit, which is not a zero before others. -/
theorem writeNat_cons (n : Nat) : ∃ d rest, writeNat n = d :: rest ∧ isDigit d = true ∧
    (d = 0x30 → rest = []) := by
  induction n using Nat.strongRecOn with
  | ind n ih =>
    by_cases hn : n < 10
    · refine ⟨n.digitChar.toNat, [], by rw [writeNat, Nat.toDigits_of_lt_base hn]; rfl, ?_,
        fun _ => rfl⟩
      rw [Nat.toNat_digitChar_of_lt_ten hn]
      simp only [isDigit, Bool.and_eq_true, decide_eq_true_eq]
      omega
    · obtain ⟨d, rest, heq, hd, hzero⟩ := ih (n / 10) (by omega)
      have hmore : writeNat n = d :: (rest ++ [(n % 10).digitChar.toNat]) := by
        rw [writeNat, Nat.toDigits_of_base_le (by decide) (by omega), List.map_append]
        show writeNat (n / 10) ++ _ = _
        rw [heq]
        rfl
      refine ⟨d, _, hmore, hd, fun h0 => ?_⟩
      -- a leading zero would make all of it zero
      have hquot : n / 10 = 0 := by
        rw [← natOf_writeNat (n / 10), heq, hzero h0, h0]
        rfl
      omega

/-- No number goes on with this text. -/
def Stops (text : CodePoints) : Prop :=
  ∀ c ∈ text.head?, isDigit c = false ∧ c ≠ 0x2E ∧ c ≠ 0x65 ∧ c ≠ 0x45

theorem stops_nil : Stops [] := by
  intro c hc
  cases hc

theorem stops_cons {c : Nat} {text : CodePoints} (hdigit : isDigit c = false) (hdot : c ≠ 0x2E)
    (he : c ≠ 0x65) (hE : c ≠ 0x45) : Stops (c :: text) := by
  intro d hd
  cases hd
  exact ⟨hdigit, hdot, he, hE⟩

theorem takeWhile_digits {digits rest : CodePoints} (hdigits : ∀ d ∈ digits, isDigit d = true)
    (hrest : Stops rest) : (digits ++ rest).takeWhile isDigit = digits ∧
      (digits ++ rest).dropWhile isDigit = rest := by
  have hstop : rest.takeWhile isDigit = [] ∧ rest.dropWhile isDigit = rest := by
    cases rest with
    | nil => exact ⟨rfl, rfl⟩
    | cons c rest =>
      have hc : isDigit c = false := (hrest c rfl).1
      rw [List.takeWhile_cons, List.dropWhile_cons, hc]
      exact ⟨rfl, rfl⟩
  rw [List.takeWhile_append_of_pos hdigits, List.dropWhile_append_of_pos hdigits, hstop.1, hstop.2,
    List.append_nil]
  exact ⟨rfl, rfl⟩

theorem integerPart_writeNat (n : Nat) {rest : CodePoints} (hrest : Stops rest) :
    integerPart (writeNat n ++ rest) = some (writeNat n, rest) := by
  obtain ⟨d, more, heq, hd, hzero⟩ := writeNat_cons n
  have hmore : ∀ c ∈ more, isDigit c = true := fun c hc =>
    isDigit_writeNat (n := n) (by rw [heq]; exact List.mem_cons_of_mem _ hc)
  rw [heq, List.cons_append, integerPart]
  by_cases h0 : d = 0x30
  · rw [if_pos h0, hzero h0, List.nil_append]
  · rw [if_neg h0, if_pos hd, (takeWhile_digits hmore hrest).1, (takeWhile_digits hmore hrest).2]

theorem fractionPart_stops {rest : CodePoints} (hrest : Stops rest) :
    fractionPart rest = ([], rest) := by
  cases rest with
  | nil => rfl
  | cons c rest => rw [fractionPart, expect, if_neg (hrest c rfl).2.1]

theorem exponentPart_stops {rest : CodePoints} (hrest : Stops rest) :
    exponentPart rest = ([], rest) := by
  cases rest with
  | nil => rfl
  | cons c rest =>
    obtain ⟨-, -, he, hE⟩ := hrest c rfl
    rw [exponentPart, if_neg (by simp [he, hE])]

/-- A written integer is read back. -/
theorem number_writeInt {limit : Nat} {n : Int} (hfit : (writeNat n.natAbs).length ≤ limit)
    {rest : CodePoints} (hrest : Stops rest) :
    number limit (writeInt n ++ rest) = .ok (.int n, rest) := by
  obtain ⟨d, more, heq, hd, -⟩ := writeNat_cons n.natAbs
  have hdash : d ≠ 0x2D := by
    rintro rfl
    cases hd
  by_cases hn : n < 0
  · have htext : writeInt n ++ rest = 0x2D :: (writeNat n.natAbs ++ rest) := by
      rw [writeInt, if_pos hn, List.cons_append]
    rw [number, htext]
    simp only [List.head?_cons, if_true, List.tail_cons, integerPart_writeNat _ hrest,
      fractionPart_stops hrest, exponentPart_stops hrest, and_self, natOf_writeNat]
    rw [if_neg (by omega), show -(n.natAbs : Int) = n by omega]
  · have htext : writeInt n ++ rest = writeNat n.natAbs ++ rest := by
      rw [writeInt, if_neg hn]
    have hhead : (writeNat n.natAbs ++ rest).head? ≠ some 0x2D := by
      rw [heq]
      simpa using hdash
    rw [number, htext]
    simp only [hhead, if_false, integerPart_writeNat _ hrest, fractionPart_stops hrest,
      exponentPart_stops hrest, and_self, if_true, natOf_writeNat]
    rw [if_neg (by omega), show (n.natAbs : Int) = n by omega]

/-- A word that starts neither with a digit nor with a sign and a digit. -/
def apart : CodePoints → Bool
  | a :: b :: _ => (a ≠ 0x2D || !isDigit b) && !isDigit a
  | _ => false

/-- An integer does not start like a word. -/
theorem constants_writeInt (n : Int) (rest : CodePoints) :
    (constants.find? fun entry => entry.1.isPrefixOf (writeInt n ++ rest)) = none := by
  obtain ⟨d, more, heq, hd, -⟩ := writeNat_cons n.natAbs
  have hrange : 0x30 ≤ d ∧ d < 0x3A := by simpa [isDigit] using hd
  rw [List.find?_eq_none]
  -- a word starts with a letter, or with a minus and a letter
  have hwords : ∀ entry ∈ constants, ∃ a b word, entry.1 = a :: b :: word ∧
      (a ≠ 0x2D ∨ isDigit b = false) ∧ isDigit a = false := by
    intro entry hentry
    have hall : constants.all fun entry => apart entry.1 := by decide
    have hone := List.all_eq_true.1 hall entry hentry
    generalize entry.1 = word at hone
    cases word with
    | nil => cases hone
    | cons a word =>
      cases word with
      | nil => cases hone
      | cons b word => exact ⟨a, b, word, rfl, by simpa [apart] using hone⟩
  intro entry hentry
  obtain ⟨a, b, word, hword, hsign, ha⟩ := hwords entry hentry
  rw [hword, writeInt]
  split
  · rw [heq, List.cons_append, List.cons_append]
    have hne : ¬ (a = 0x2D ∧ b = d) := by
      rintro ⟨rfl, rfl⟩
      rcases hsign with h | h
      · exact h rfl
      · rw [hd] at h
        cases h
    simp only [List.isPrefixOf, Bool.and_eq_true, beq_iff_eq]
    exact fun h => hne ⟨h.1, h.2.1⟩
  · rw [heq, List.cons_append]
    have hne : a ≠ d := by
      rintro rfl
      rw [hd] at ha
      cases ha
    simp only [List.isPrefixOf, Bool.and_eq_true, beq_iff_eq]
    exact fun h => hne h.1

/-! ## Values -/

/-- The text of a number with a fraction or an exponent, or of an infinite one: what the reader
takes as such, whatever follows, and how it starts. -/
structure IsFloatLiteral (limit : Nat) (literal : CodePoints) : Prop where
  head : ∃ c rest, literal = c :: rest ∧ (isDigit c = true ∨ c = 0x2D ∨ c = 0x4E ∨ c = 0x49)
  printable : ∀ c ∈ literal, 0x20 ≤ c
  reads : ∀ rest, Stops rest → scalar limit (literal ++ rest) = .ok (.float literal, rest)

mutual

/-- A value within the limits: integers of at most `limit` digits, nested at most `depth`
deep, and no key twice in one object. -/
def Plain (limit : Nat) : Nat → Json → Prop
  | _, .null => True
  | _, .bool _ => True
  | _, .int n => (writeNat n.natAbs).length ≤ limit
  | _, .float literal => IsFloatLiteral limit literal
  | _, .str _ => True
  | 0, .arr _ => False
  | depth + 1, .arr xs => PlainItems limit depth xs
  | 0, .obj _ => False
  | depth + 1, .obj ms => (ms.map (·.1)).Nodup ∧ PlainMembers limit depth ms

/-- Every item is. -/
def PlainItems (limit : Nat) : Nat → List Json → Prop
  | _, [] => True
  | depth, x :: xs => Plain limit depth x ∧ PlainItems limit depth xs

/-- Every member is. -/
def PlainMembers (limit : Nat) : Nat → List (CodePoints × Json) → Prop
  | _, [] => True
  | depth, (_, v) :: ms => Plain limit depth v ∧ PlainMembers limit depth ms

end

/-- A dictionary of pairs with distinct keys is these pairs, in their order. -/
theorem dictOf_eq {pairs : List (CodePoints × Json)} (h : (pairs.map (·.1)).Nodup) :
    dictOf pairs = pairs := by
  have hfold : ∀ (pairs dict : List (CodePoints × Json)), ((dict ++ pairs).map (·.1)).Nodup →
      pairs.foldl (fun dict pair =>
        if pair.1 ∈ dict.map (·.1) then
          dict.map fun entry => if entry.1 = pair.1 then pair else entry
        else dict ++ [pair]) dict = dict ++ pairs := by
    intro pairs
    induction pairs with
    | nil =>
      intro dict _
      rw [List.foldl_nil, List.append_nil]
    | cons pair pairs ih =>
      intro dict hnodup
      have hnew : pair.1 ∉ dict.map (·.1) := by
        rw [List.map_append, List.map_cons] at hnodup
        intro hmem
        exact (List.nodup_append.1 hnodup).2.2 _ hmem _ List.mem_cons_self rfl
      rw [List.foldl_cons, if_neg hnew, ih]
      · rw [List.append_assoc, List.singleton_append]
      · rwa [List.append_assoc, List.singleton_append]
  exact hfold pairs [] h

/-- How a written value starts: not with a blank, which would be skipped, and not with what would
close the array or the object it stands in. -/
def Starts (c : Nat) : Prop := isSpace c = false ∧ c ≠ 0x5D ∧ c ≠ 0x7D

instance : DecidablePred Starts := fun c =>
  inferInstanceAs (Decidable (isSpace c = false ∧ c ≠ 0x5D ∧ c ≠ 0x7D))

/-- A written value starts with one of its own characters. -/
theorem encode_cons {limit depth : Nat} {j : Json} (h : j.Plain limit depth) :
    ∃ c rest, encode j = c :: rest ∧ Starts c := by
  cases j with
  | null => exact ⟨0x6E, [0x75, 0x6C, 0x6C], by decide, by decide⟩
  | bool b =>
    cases b
    · exact ⟨0x66, [0x61, 0x6C, 0x73, 0x65], by decide, by decide⟩
    · exact ⟨0x74, [0x72, 0x75, 0x65], by decide, by decide⟩
  | int n =>
    obtain ⟨d, more, heq, hd, -⟩ := writeNat_cons n.natAbs
    -- a sign or a digit
    by_cases hn : n < 0
    · refine ⟨0x2D, writeNat n.natAbs, ?_, by decide⟩
      rw [encode, writeInt, if_pos hn]
    · refine ⟨d, more, ?_, ?_⟩
      · rw [encode, writeInt, if_neg hn, heq]
      · simp only [isDigit, Bool.and_eq_true, decide_eq_true_eq] at hd
        simp only [Starts, isSpace, Bool.or_eq_false_iff, decide_eq_false_iff_not]
        omega
  | float literal =>
    obtain ⟨c, rest, heq, hc⟩ := IsFloatLiteral.head (by simpa [Plain] using h)
    refine ⟨c, rest, by rw [encode, heq], ?_⟩
    simp only [isDigit, Bool.and_eq_true, decide_eq_true_eq] at hc
    simp only [Starts, isSpace, Bool.or_eq_false_iff, decide_eq_false_iff_not]
    omega
  | str s => exact ⟨_, _, by rw [encode, writeString], by decide⟩
  | arr xs =>
    cases xs with
    | nil => exact ⟨_, _, by rw [encode], by decide⟩
    | cons x xs => exact ⟨_, _, by rw [encode], by decide⟩
  | obj ms =>
    cases ms with
    | nil => exact ⟨_, _, by rw [encode], by decide⟩
    | cons m ms => exact ⟨_, _, by rw [encode], by decide⟩

theorem skip_cons {c : Nat} (h : isSpace c = false) (rest : CodePoints) :
    skip (c :: rest) = c :: rest := by
  rw [skip, List.dropWhile_cons, h]
  rfl

theorem expect_ne {c d : Nat} (h : c ≠ d) (rest : CodePoints) : expect d (c :: rest) = none := by
  rw [expect, if_neg h]

theorem expect_self (c : Nat) (rest : CodePoints) : expect c (c :: rest) = some rest := by
  rw [expect, if_pos rfl]

/-- A word or an integer is read back. -/
theorem value_scalar {limit fuel depth c : Nat} {rest : CodePoints} (hquote : c ≠ 0x22)
    (hbrace : c ≠ 0x7B) (hbracket : c ≠ 0x5B) :
    value limit (fuel + 1) depth (c :: rest) = scalar limit (c :: rest) := by
  rw [value.eq_def]
  simp only [if_neg hquote, if_neg hbrace, if_neg hbracket]

theorem scalar_writeInt {limit : Nat} {n : Int} (hfit : (writeNat n.natAbs).length ≤ limit)
    {rest : CodePoints} (hrest : Stops rest) :
    scalar limit (writeInt n ++ rest) = .ok (.int n, rest) := by
  rw [scalar, constants_writeInt]
  exact number_writeInt hfit hrest

theorem writeInt_cons (n : Int) : ∃ c rest, writeInt n = c :: rest ∧ (isDigit c = true ∨ c = 0x2D) := by
  obtain ⟨d, more, heq, hd, -⟩ := writeNat_cons n.natAbs
  by_cases hn : n < 0
  · exact ⟨0x2D, writeNat n.natAbs, by rw [writeInt, if_pos hn], .inr rfl⟩
  · exact ⟨d, more, by rw [writeInt, if_neg hn, heq], .inl hd⟩

theorem stops_comma (rest : CodePoints) : Stops (0x2C :: rest) :=
  stops_cons (by decide) (by decide) (by decide) (by decide)

theorem stops_bracket (rest : CodePoints) : Stops (0x5D :: rest) :=
  stops_cons (by decide) (by decide) (by decide) (by decide)

theorem stops_brace (rest : CodePoints) : Stops (0x7D :: rest) :=
  stops_cons (by decide) (by decide) (by decide) (by decide)

mutual

/-- A written value is read back, whatever follows it. -/
theorem value_encode {limit : Nat} : ∀ (j : Json) (fuel : Nat) {depth : Nat} {rest : CodePoints},
    j.Plain limit depth → (encode j).length ≤ fuel → Stops rest →
      value limit fuel depth (encode j ++ rest) = .ok (j, rest)
  -- no value is written as the empty text, so fuel is left
  | j, 0, depth, rest, h, hfuel, hrest => by
    obtain ⟨c, more, heq, -⟩ := encode_cons h
    rw [heq] at hfuel
    cases hfuel
  | .null, fuel + 1, depth, rest, h, hfuel, hrest => by
    have htext : encode .null ++ rest = 0x6E :: 0x75 :: 0x6C :: 0x6C :: rest := rfl
    rw [htext, value_scalar (by decide) (by decide) (by decide)]
    rfl
  | .bool false, fuel + 1, depth, rest, h, hfuel, hrest => by
    have htext : encode (.bool false) ++ rest = 0x66 :: 0x61 :: 0x6C :: 0x73 :: 0x65 :: rest := rfl
    rw [htext, value_scalar (by decide) (by decide) (by decide)]
    rfl
  | .bool true, fuel + 1, depth, rest, h, hfuel, hrest => by
    have htext : encode (.bool true) ++ rest = 0x74 :: 0x72 :: 0x75 :: 0x65 :: rest := rfl
    rw [htext, value_scalar (by decide) (by decide) (by decide)]
    rfl
  | .int n, fuel + 1, depth, rest, h, hfuel, hrest => by
    -- the first character of a number chooses the branch, the reader of numbers does the rest
    obtain ⟨c, more, heq, hc⟩ := writeInt_cons n
    simp only [isDigit, Bool.and_eq_true, decide_eq_true_eq] at hc
    have hread := scalar_writeInt (by simpa only [Plain] using h) hrest
    rw [encode]
    rw [heq, List.cons_append] at hread ⊢
    rw [value_scalar (by omega) (by omega) (by omega), hread]
  | .float literal, fuel + 1, depth, rest, h, hfuel, hrest => by
    have hliteral : IsFloatLiteral limit literal := by simpa only [Plain] using h
    obtain ⟨c, more, heq, hc⟩ := hliteral.head
    simp only [isDigit, Bool.and_eq_true, decide_eq_true_eq] at hc
    have hread := hliteral.reads rest hrest
    rw [encode]
    rw [heq, List.cons_append] at hread ⊢
    rw [value_scalar (by omega) (by omega) (by omega), hread]
  | .str s, fuel + 1, depth, rest, h, hfuel, hrest => by
    have htext : encode (.str s) ++ rest = 0x22 :: (s.flatMap escape ++ 0x22 :: rest) := by
      rw [encode, writeString, List.cons_append, List.append_assoc, List.singleton_append]
    rw [htext, value.eq_def]
    simp only [if_true, string_writeString]
  -- a plain value is not nested deeper than the limit
  | .arr xs, fuel + 1, 0, rest, h, hfuel, hrest => by simp only [Plain] at h
  | .arr [], fuel + 1, depth + 1, rest, h, hfuel, hrest => by
    have htext : encode (.arr []) ++ rest = 0x5B :: 0x5D :: rest := rfl
    rw [htext, value.eq_def]
    simp only [show ¬ (0x5B : Nat) = 0x22 by decide, show ¬ (0x5B : Nat) = 0x7B by decide,
      if_false, if_true, skip_cons (show isSpace 0x5D = false by decide), expect_self]
  | .arr (x :: xs), fuel + 1, depth + 1, rest, h, hfuel, hrest => by
    simp only [Plain] at h
    have htext : encode (.arr (x :: xs)) ++ rest =
        0x5B :: (encode x ++ (encodeItems xs ++ 0x5D :: rest)) := by
      rw [encode, List.cons_append, List.append_assoc, List.append_assoc, List.singleton_append]
    -- the bracket has been read, so the fuel still covers what is left
    have hlength : (encode x ++ encodeItems xs).length < fuel := by
      rw [encode] at hfuel
      simp only [List.length_cons, List.length_append] at hfuel ⊢
      omega
    have hitems := items_encode (x :: xs) x xs rfl fuel rest h hlength
    obtain ⟨c, more, heq, hspace, hbracket, -⟩ := encode_cons h.1
    rw [htext, value.eq_def]
    rw [heq, List.cons_append] at hitems ⊢
    simp only [show ¬ (0x5B : Nat) = 0x22 by decide, show ¬ (0x5B : Nat) = 0x7B by decide,
      if_false, if_true, skip_cons hspace, expect_ne hbracket, hitems]
  | .obj ms, fuel + 1, 0, rest, h, hfuel, hrest => by simp only [Plain] at h
  | .obj [], fuel + 1, depth + 1, rest, h, hfuel, hrest => by
    have htext : encode (.obj []) ++ rest = 0x7B :: 0x7D :: rest := rfl
    rw [htext, value.eq_def]
    simp only [show ¬ (0x7B : Nat) = 0x22 by decide, if_false, if_true,
      skip_cons (show isSpace 0x7D = false by decide), expect_self]
  | .obj ((k, v) :: ms), fuel + 1, depth + 1, rest, h, hfuel, hrest => by
    simp only [Plain] at h
    have htext : encode (.obj ((k, v) :: ms)) ++ rest =
        0x7B :: (writeString k ++ 0x3A :: (encode v ++ (encodeMembers ms ++ 0x7D :: rest))) := by
      rw [encode]
      simp only [List.cons_append, List.append_assoc, List.nil_append]
    have hlength : (encode v ++ encodeMembers ms).length + 1 < fuel := by
      rw [encode] at hfuel
      simp only [List.length_cons, List.length_append] at hfuel ⊢
      omega
    have hmembers := members_encode ((k, v) :: ms) k v ms rfl fuel rest h.2 hlength
    rw [htext, value.eq_def]
    rw [writeString, List.cons_append] at hmembers ⊢
    simp only [show ¬ (0x7B : Nat) = 0x22 by decide, if_false, if_true,
      skip_cons (show isSpace 0x22 = false by decide), expect_ne (show 0x22 ≠ 0x7D by decide),
      hmembers, dictOf_eq h.1]

/-- Written items are read back up to the bracket. -/
theorem items_encode {limit : Nat} : ∀ (l : List Json) (x : Json) (xs : List Json),
    l = x :: xs → ∀ (fuel : Nat) {depth : Nat} (rest : CodePoints),
    PlainItems limit depth (x :: xs) → (encode x ++ encodeItems xs).length < fuel →
      items limit fuel depth (encode x ++ (encodeItems xs ++ 0x5D :: rest)) = .ok (x :: xs, rest)
  | _, x, xs, rfl, 0, depth, rest, h, hfuel => absurd hfuel (Nat.not_lt_zero _)
  | _, x, [], rfl, fuel + 1, depth, rest, h, hfuel => by
    have hx := value_encode x fuel h.1 (by simp [encodeItems] at hfuel; omega) (stops_bracket rest)
    rw [items.eq_def]
    simp only [encodeItems, List.nil_append, hx,
      skip_cons (show isSpace 0x5D = false by decide), expect_self]
  | _, x, y :: ys, rfl, fuel + 1, depth, rest, h, hfuel => by
    simp only [encodeItems, List.length_append, List.length_cons] at hfuel
    have hx := value_encode x fuel h.1 (by omega)
      (stops_comma (encode y ++ (encodeItems ys ++ 0x5D :: rest)))
    have hmore := items_encode (y :: ys) y ys rfl fuel rest h.2
      (by simp only [List.length_append]; omega)
    obtain ⟨c, more, heq, hspace, -, -⟩ := encode_cons h.2.1
    rw [items.eq_def]
    simp only [encodeItems, List.cons_append, List.append_assoc, hx,
      skip_cons (show isSpace 0x2C = false by decide), expect_ne (show 0x2C ≠ 0x5D by decide),
      expect_self]
    rw [heq, List.cons_append] at hmore ⊢
    simp only [skip_cons hspace, hmore]

/-- Written members are read back up to the brace. -/
theorem members_encode {limit : Nat} : ∀ (l : List (CodePoints × Json)) (k : CodePoints) (v : Json)
    (ms : List (CodePoints × Json)), l = (k, v) :: ms → ∀ (fuel : Nat) {depth : Nat} (rest : CodePoints),
    PlainMembers limit depth ((k, v) :: ms) → (encode v ++ encodeMembers ms).length + 1 < fuel →
      members limit fuel depth
        (writeString k ++ 0x3A :: (encode v ++ (encodeMembers ms ++ 0x7D :: rest))) =
          .ok ((k, v) :: ms, rest)
  | _, k, v, ms, rfl, 0, depth, rest, h, hfuel => absurd hfuel (Nat.not_lt_zero _)
  -- the last member ends at the brace, the others at a comma
  | _, k, v, [], rfl, fuel + 1, depth, rest, h, hfuel => by
    have hv := value_encode v fuel h.1 (by simp [encodeMembers] at hfuel; omega) (stops_brace rest)
    obtain ⟨c, more, heq, hspace, -, -⟩ := encode_cons h.1
    rw [members.eq_def]
    simp only [writeString, encodeMembers, List.cons_append, List.append_assoc, List.nil_append,
      expect_self, Option.bind_some, string_writeString,
      skip_cons (show isSpace 0x3A = false by decide)]
    rw [heq, List.cons_append] at hv ⊢
    simp only [skip_cons hspace, hv, skip_cons (show isSpace 0x7D = false by decide), expect_self]
  | _, k, v, (k', v') :: ms, rfl, fuel + 1, depth, rest, h, hfuel => by
    simp only [encodeMembers, List.length_append, List.length_cons] at hfuel
    have hv := value_encode v fuel h.1 (by omega) (stops_comma
      (writeString k' ++ 0x3A :: (encode v' ++ (encodeMembers ms ++ 0x7D :: rest))))
    have hmore := members_encode ((k', v') :: ms) k' v' ms rfl fuel rest h.2
      (by simp only [List.length_append]; omega)
    obtain ⟨c, more, heq, hspace, -, -⟩ := encode_cons h.1
    rw [members.eq_def]
    simp only [writeString, encodeMembers, List.cons_append, List.append_assoc, List.nil_append,
      expect_self, Option.bind_some, string_writeString,
      skip_cons (show isSpace 0x3A = false by decide)] at hv hmore ⊢
    rw [heq, List.cons_append] at hv ⊢
    simp only [skip_cons hspace, hv, skip_cons (show isSpace 0x2C = false by decide),
      expect_ne (show 0x2C ≠ 0x7D by decide), expect_self,
      skip_cons (show isSpace 0x22 = false by decide), hmore]

end

/-- `json.loads` of a written value. -/
theorem decode_encode {limit depth : Nat} {j : Json} (h : j.Plain limit depth) :
    decode limit depth (encode j) = .ok j := by
  obtain ⟨c, more, heq, hspace, -, -⟩ := encode_cons h
  have hread := value_encode j (2 * (encode j).length + 2) h (by omega) stops_nil
  rw [List.append_nil] at hread
  have hskip : skip (encode j) = encode j := by rw [heq, skip_cons hspace]
  rw [decode, hskip, hread]
  rfl

/-- Values are written alike only where they are equal. -/
theorem encode_injective {limit depth : Nat} {j j' : Json} (h : j.Plain limit depth)
    (h' : j'.Plain limit depth) (heq : encode j = encode j') : j = j' := by
  have hread := decode_encode h
  rw [heq, decode_encode h'] at hread
  exact (Except.ok.inj hread).symm

theorem escape_printable (c : Nat) : ∀ d ∈ escape c, 0x20 ≤ d := by
  intro d hd
  rw [escape] at hd
  split at hd
  next letter hlookup =>
    obtain ⟨l₁, l₂, heq, -⟩ := List.lookup_eq_some_iff.1 hlookup
    have hletters : ∀ e ∈ escapes, 0x20 ≤ e.2 := by decide
    have hletter : 0x20 ≤ letter := hletters (c, letter) (by rw [heq]; simp)
    simp only [List.mem_cons, List.not_mem_nil, or_false] at hd
    omega
  next =>
    split at hd
    next hc =>
      have hdigit : ∀ n < 16, 0x20 ≤ hexDigit n := by decide
      have h₁ := hdigit (c / 16) (by omega)
      have h₂ := hdigit (c % 16) (by omega)
      simp only [List.mem_cons, List.not_mem_nil, or_false] at hd
      omega
    next hc =>
      simp only [List.mem_cons, List.not_mem_nil, or_false] at hd
      omega

theorem writeString_printable (s : CodePoints) : ∀ d ∈ writeString s, 0x20 ≤ d := by
  intro d hd
  simp only [writeString, List.mem_cons, List.mem_append, List.mem_flatMap, List.not_mem_nil,
    or_false] at hd
  rcases hd with rfl | ⟨c, -, hd⟩ | rfl
  · decide
  · exact escape_printable c d hd
  · decide

theorem writeInt_printable (n : Int) : ∀ d ∈ writeInt n, 0x20 ≤ d := by
  have hdigits : ∀ d ∈ writeNat n.natAbs, 0x20 ≤ d := fun d hd => by
    have hdigit := isDigit_writeNat hd
    simp only [isDigit, Bool.and_eq_true, decide_eq_true_eq] at hdigit
    omega
  intro d hd
  rw [writeInt] at hd
  split at hd
  · rcases List.mem_cons.1 hd with rfl | hd
    · decide
    · exact hdigits d hd
  · exact hdigits d hd

mutual

/-- A written value has no control characters, so no line break. -/
theorem encode_printable {limit : Nat} : ∀ (j : Json) {depth : Nat}, j.Plain limit depth →
    ∀ d ∈ encode j, 0x20 ≤ d
  | .null, _, _ => by decide
  | .bool b, _, _ => by cases b <;> decide
  | .int n, _, _ => by
    rw [encode]
    exact writeInt_printable n
  | .float literal, _, h => by
    rw [encode]
    exact IsFloatLiteral.printable (by simpa only [Plain] using h)
  -- `escape` writes every control character in six others
  | .str s, _, _ => by
    rw [encode]
    exact writeString_printable s
  | .arr [], _, _ => by decide
  | .arr _, 0, h => by simp only [Plain] at h
  | .arr (x :: xs), depth + 1, h => by
    simp only [Plain] at h
    have hx := encode_printable x h.1
    have hxs := encodeItems_printable xs h.2
    intro d hd
    simp only [encode, List.mem_cons, List.mem_append, List.not_mem_nil, or_false] at hd
    rcases hd with rfl | hd | hd | rfl
    · decide
    · exact hx d hd
    · exact hxs d hd
    · decide
  | .obj [], _, _ => by decide
  | .obj _, 0, h => by simp only [Plain] at h
  | .obj ((k, v) :: ms), depth + 1, h => by
    simp only [Plain] at h
    have hv := encode_printable v h.2.1
    have hms := encodeMembers_printable ms h.2.2
    intro d hd
    simp only [encode, List.mem_cons, List.mem_append, List.not_mem_nil, or_false] at hd
    rcases hd with rfl | hd | rfl | hd | hd | rfl
    · decide
    · exact writeString_printable k d hd
    · decide
    · exact hv d hd
    · exact hms d hd
    · decide

theorem encodeItems_printable {limit : Nat} : ∀ (xs : List Json) {depth : Nat},
    PlainItems limit depth xs → ∀ d ∈ encodeItems xs, 0x20 ≤ d
  | [], _, _ => by
    intro d hd
    rw [encodeItems] at hd
    cases hd
  | x :: xs, _, h => by
    have hx := encode_printable x h.1
    have hxs := encodeItems_printable xs h.2
    intro d hd
    simp only [encodeItems, List.mem_cons, List.mem_append] at hd
    rcases hd with rfl | hd | hd
    · decide
    · exact hx d hd
    · exact hxs d hd

theorem encodeMembers_printable {limit : Nat} : ∀ (ms : List (CodePoints × Json)) {depth : Nat},
    PlainMembers limit depth ms → ∀ d ∈ encodeMembers ms, 0x20 ≤ d
  | [], _, _ => by
    intro d hd
    rw [encodeMembers] at hd
    cases hd
  | (k, v) :: ms, _, h => by
    have hv := encode_printable v h.1
    have hms := encodeMembers_printable ms h.2
    intro d hd
    simp only [encodeMembers, List.mem_cons, List.mem_append] at hd
    rcases hd with rfl | hd | rfl | hd | hd
    · decide
    · exact writeString_printable k d hd
    · decide
    · exact hv d hd
    · exact hms d hd

end

end CommercePlatform.Lib.Json
