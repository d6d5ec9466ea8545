import CommercePlatform.Lib.Json
/-!
# The steps of the reader

`value`, `items` and `members` of `Lib/Json` count their steps down, since they are not
recursive in the text. The count is bookkeeping: this module shows that the result does not
depend on it from twice the length of the text on (`value_steps`), so no text is refused
because the steps ran out, and in particular a text that is nested too deep is always
reported as such (`decode_deep`).

The argument has two halves, each an induction on the number of steps with one lemma for
each of the three readers. First, every reader takes at least one character
(`consumes_reads`), which covers what stands behind a value, an item or a member. Then one
step more changes nothing where the text that is left has two steps for each of its
characters (`reads_succ`): a value that opens a bracket passes on a text shorter by that
bracket, and its items need only one step more than their first value.
-/

namespace CommercePlatform.Lib.Json

theorem skip_length (text : CodePoints) : (skip text).length ≤ text.length :=
  (List.dropWhile_sublist isSpace).length_le

theorem expect_length {c : Nat} {text rest : CodePoints} (h : expect c text = some rest) :
    rest.length < text.length := by
  cases text with
  | nil => cases h
  | cons d more =>
    rw [expect] at h
    split at h
    · cases h
      exact Nat.lt_succ_self _
    · cases h

/-- What follows a string is shorter than what it starts with. -/
theorem units_length {text rest : CodePoints} {us : List (Nat × Bool)}
    (h : units text = some (us, rest)) : rest.length < text.length := by
  fun_induction units text generalizing us rest
  all_goals simp only [Option.bind_eq_bind, Option.bind_eq_some_iff, Option.pure_def,
    Option.some.injEq, Prod.mk.injEq, Prod.exists, reduceCtorEq] at h
  case case2 more =>
    obtain ⟨-, rfl⟩ := h
    exact Nat.lt_succ_self _
  case case4 ih =>
    obtain ⟨_, -, _, -, _, -, _, -, _, _, hmore, -, rfl⟩ := h
    have hshort := ih hmore
    simp only [List.length_cons]
    omega
  case case6 ih =>
    obtain ⟨_, -, _, _, hmore, -, rfl⟩ := h
    have hshort := ih hmore
    simp only [List.length_cons]
    omega
  case case8 ih =>
    obtain ⟨_, _, hmore, -, rfl⟩ := h
    have hshort := ih hmore
    simp only [List.length_cons]
    omega

theorem string_length {text rest s : CodePoints} (h : string text = some (s, rest)) :
    rest.length < text.length := by
  rw [string, Option.map_eq_some_iff] at h
  obtain ⟨⟨us, more⟩, hunits, heq⟩ := h
  cases heq
  exact units_length hunits

theorem integerPart_length {text digits rest : CodePoints}
    (h : integerPart text = some (digits, rest)) : rest.length < text.length := by
  cases text with
  | nil => cases h
  | cons c more =>
    have hdrop := (List.dropWhile_sublist isDigit (l := more)).length_le
    rw [integerPart] at h
    rw [List.length_cons]
    split at h
    · cases h
      exact Nat.lt_succ_self _
    · split at h
      · cases h
        omega
      · cases h

theorem fractionPart_length (text : CodePoints) : (fractionPart text).2.length ≤ text.length := by
  rw [fractionPart]
  cases hdot : expect 0x2E text with
  | none => exact Nat.le_refl _
  | some rest =>
    have hshort := expect_length hdot
    have hdrop := (List.dropWhile_sublist isDigit (l := rest)).length_le
    dsimp only
    split
    · exact Nat.le_refl _
    · exact Nat.le_trans hdrop (Nat.le_of_lt hshort)

theorem exponentPart_length (text : CodePoints) : (exponentPart text).2.length ≤ text.length := by
  cases text with
  | nil => exact Nat.le_refl _
  | cons e rest =>
    rw [exponentPart]
    split
    · dsimp only
      split
      · exact Nat.le_refl _
      · refine Nat.le_trans (List.dropWhile_sublist isDigit).length_le ?_
        rw [List.length_drop, List.length_cons]
        omega
    · exact Nat.le_refl _

theorem number_length {limit : Nat} {text rest : CodePoints} {v : Json}
    (h : number limit text = .ok (v, rest)) : rest.length < text.length := by
  have htail : (if text.head? = some 0x2D then text.tail else text).length ≤ text.length := by
    split
    · rw [List.length_tail]
      omega
    · exact Nat.le_refl _
  rw [number] at h
  dsimp only at h
  cases hdigits : integerPart (if text.head? = some 0x2D then text.tail else text) with
  | none =>
    simp only [hdigits, reduceCtorEq] at h
  | some found =>
    obtain ⟨digits, more⟩ := found
    have hshort := integerPart_length hdigits
    have hfraction := fractionPart_length more
    have hexponent := exponentPart_length (fractionPart more).2
    simp only [hdigits] at h
    split at h
    · split at h
      · cases h
      · cases h
        omega
    · cases h
      omega

theorem scalar_length {limit c : Nat} {text rest : CodePoints} {v : Json}
    (h : scalar limit (c :: text) = .ok (v, rest)) : rest.length < (c :: text).length := by
  rw [scalar] at h
  split at h
  next word value hfind =>
    cases h
    have hwords : ∀ entry ∈ constants, 0 < entry.1.length := by decide
    have hword := hwords _ (List.mem_of_find?_eq_some hfind)
    rw [List.length_drop, List.length_cons]
    dsimp only at hword
    omega
  next => exact number_length h

/-- What a reader leaves is shorter than what it was given. -/
def Consumes {α : Type} (text : CodePoints) (x : Except Fault (α × CodePoints)) : Prop :=
  ∀ a rest, x = .ok (a, rest) → rest.length < text.length

theorem consumes_error {α : Type} {text : CodePoints} (fault : Fault) :
    Consumes text (.error fault : Except Fault (α × CodePoints)) := fun _ _ h => by cases h

theorem consumes_ok {α : Type} {text rest : CodePoints} {a : α} (h : rest.length < text.length) :
    Consumes text (.ok (a, rest) : Except Fault (α × CodePoints)) := fun _ _ heq => by
  cases heq
  exact h

section Consumes

variable {limit fuel : Nat}

theorem consumes_value (hitems : ∀ depth text, Consumes text (items limit fuel depth text))
    (hmembers : ∀ depth text, Consumes text (members limit fuel depth text)) (depth : Nat)
    (text : CodePoints) : Consumes text (value limit (fuel + 1) depth text) := by
  cases text with
  | nil =>
    rw [value.eq_def]
    exact consumes_error _
  | cons c rest =>
    have hskip := skip_length rest
    rw [value.eq_def]
    dsimp only
    -- the branches of the reader, each of which has passed the first character
    by_cases hquote : c = 0x22
    · rw [if_pos hquote]
      cases hstring : string rest with
      | none => exact consumes_error _
      | some found => exact consumes_ok (Nat.lt_succ_of_lt (string_length hstring))
    rw [if_neg hquote]
    by_cases hbrace : c = 0x7B
    · rw [if_pos hbrace]
      cases depth with
      | zero => exact consumes_error _
      | succ depth =>
        dsimp only
        cases hclose : expect 0x7D (skip rest) with
        | some more =>
          have hshort := expect_length hclose
          exact consumes_ok (by rw [List.length_cons]; omega)
        | none =>
          dsimp only
          cases hread : members limit fuel depth (skip rest) with
          | error fault => exact consumes_error _
          | ok found =>
            have hshort := hmembers depth (skip rest) _ _ hread
            exact consumes_ok (by rw [List.length_cons]; omega)
    rw [if_neg hbrace]
    by_cases hbracket : c = 0x5B
    · rw [if_pos hbracket]
      cases depth with
      | zero => exact consumes_error _
      | succ depth =>
        dsimp only
        cases hclose : expect 0x5D (skip rest) with
        | some more =>
          have hshort := expect_length hclose
          exact consumes_ok (by rw [List.length_cons]; omega)
        | none =>
          dsimp only
          cases hread : items limit fuel depth (skip rest) with
          | error fault => exact consumes_error _
          | ok found =>
            have hshort := hitems depth (skip rest) _ _ hread
            exact consumes_ok (by rw [List.length_cons]; omega)
    rw [if_neg hbracket]
    -- a number or a word reads at least that character too
    exact fun v more h => scalar_length h

theorem consumes_items (hvalue : ∀ depth text, Consumes text (value limit fuel depth text))
    (hitems : ∀ depth text, Consumes text (items limit fuel depth text)) (depth : Nat)
    (text : CodePoints) : Consumes text (items limit (fuel + 1) depth text) := by
  rw [items.eq_def]
  dsimp only
  cases hread : value limit fuel depth text with
  | error fault => exact consumes_error _
  | ok found =>
    obtain ⟨x, rest⟩ := found
    -- the value took at least one character, and so did the comma after it
    have hshort := hvalue depth text _ _ hread
    have hskip := skip_length rest
    dsimp only
    cases hclose : expect 0x5D (skip rest) with
    | some more =>
      have hclosed := expect_length hclose
      exact consumes_ok (by omega)
    | none =>
      dsimp only
      cases hcomma : expect 0x2C (skip rest) with
      | none => exact consumes_error _
      | some more =>
        have hcut := expect_length hcomma
        have hmore := skip_length more
        dsimp only
        cases hrest : items limit fuel depth (skip more) with
        | error fault => exact consumes_error _
        | ok found =>
          have hlast := hitems depth (skip more) _ _ hrest
          exact consumes_ok (by omega)

theorem consumes_members (hvalue : ∀ depth text, Consumes text (value limit fuel depth text))
    (hmembers : ∀ depth text, Consumes text (members limit fuel depth text)) (depth : Nat)
    (text : CodePoints) : Consumes text (members limit (fuel + 1) depth text) := by
  rw [members.eq_def]
  dsimp only
  cases hkey : (expect 0x22 text).bind string with
  | none => exact consumes_error _
  | some found =>
    obtain ⟨k, rest⟩ := found
    obtain ⟨behind, hquote, hstring⟩ := Option.bind_eq_some_iff.1 hkey
    -- each part of a member makes the text that is left shorter
    have hopen := expect_length hquote
    have hname := string_length hstring
    have hskip := skip_length rest
    dsimp only
    cases hcolon : expect 0x3A (skip rest) with
    | none => exact consumes_error _
    | some after =>
      have hcut := expect_length hcolon
      have hafter := skip_length after
      dsimp only
      cases hread : value limit fuel depth (skip after) with
      | error fault => exact consumes_error _
      | ok found =>
        obtain ⟨v, last⟩ := found
        have hshort := hvalue depth (skip after) _ _ hread
        have hlast := skip_length last
        dsimp only
        cases hclose : expect 0x7D (skip last) with
        | some more =>
          have hclosed := expect_length hclose
          exact consumes_ok (by omega)
        | none =>
          dsimp only
          cases hcomma : expect 0x2C (skip last) with
          | none => exact consumes_error _
          | some more =>
            have hcomma := expect_length hcomma
            have hmore := skip_length more
            dsimp only
            cases hrest : members limit fuel depth (skip more) with
            | error fault => exact consumes_error _
            | ok found =>
              have hend := hmembers depth (skip more) _ _ hrest
              exact consumes_ok (by omega)

end Consumes

/-- A value, the items of an array and the members of an object, read with some number of
steps, take at least one character. -/
theorem consumes_reads (limit : Nat) : ∀ fuel : Nat,
    (∀ depth text, Consumes text (value limit fuel depth text)) ∧
      (∀ depth text, Consumes text (items limit fuel depth text)) ∧
      ∀ depth text, Consumes text (members limit fuel depth text) := by
  intro fuel
  induction fuel with
  | zero =>
    refine ⟨fun depth text => ?_, fun depth text => ?_, fun depth text => ?_⟩
    · rw [value.eq_def]
      exact consumes_error _
    · rw [items.eq_def]
      exact consumes_error _
    · rw [members.eq_def]
      exact consumes_error _
  | succ fuel ih =>
    obtain ⟨hvalue, hitems, hmembers⟩ := ih
    exact ⟨consumes_value hitems hmembers, consumes_items hvalue hitems,
      consumes_members hvalue hmembers⟩

/-- A value under one step more, where its items and members read alike. -/
theorem value_succ {limit fuel : Nat}
    (ihitems : ∀ depth text, 2 * text.length + 2 ≤ fuel →
      items limit (fuel + 1) depth text = items limit fuel depth text)
    (ihmembers : ∀ depth text, 2 * text.length + 2 ≤ fuel →
      members limit (fuel + 1) depth text = members limit fuel depth text)
    {depth : Nat} {text : CodePoints} (h : 2 * text.length + 1 ≤ fuel + 1) :
    value limit (fuel + 2) depth text = value limit (fuel + 1) depth text := by
  cases text with
  | nil => rw [value.eq_def, value.eq_def]
  | cons c rest =>
    have hskip := skip_length rest
    rw [List.length_cons] at h
    have hitems : ∀ depth, items limit (fuel + 1) depth (skip rest) =
        items limit fuel depth (skip rest) := fun depth => ihitems depth _ (by omega)
    have hmembers : ∀ depth, members limit (fuel + 1) depth (skip rest) =
        members limit fuel depth (skip rest) := fun depth => ihmembers depth _ (by omega)
    rw [value.eq_def, value.eq_def limit (fuel + 1)]
    simp only [hitems, hmembers]

/-- Items under one step more: each is shorter than the text, so the rest of them reads alike. -/
theorem items_succ {limit fuel : Nat}
    (ihvalue : ∀ depth text, 2 * text.length + 1 ≤ fuel →
      value limit (fuel + 1) depth text = value limit fuel depth text)
    (ihitems : ∀ depth text, 2 * text.length + 2 ≤ fuel →
      items limit (fuel + 1) depth text = items limit fuel depth text)
    {depth : Nat} {text : CodePoints} (h : 2 * text.length + 2 ≤ fuel + 1) :
    items limit (fuel + 2) depth text = items limit (fuel + 1) depth text := by
  rw [items.eq_def, items.eq_def limit (fuel + 1)]
  dsimp only
  rw [ihvalue depth text (by omega)]
  cases hread : value limit fuel depth text with
  | error fault => rfl
  | ok found =>
    obtain ⟨x, rest⟩ := found
    have hshort := (consumes_reads limit fuel).1 depth text _ _ hread
    have hskip := skip_length rest
    dsimp only
    cases hcomma : expect 0x2C (skip rest) with
    | none => rfl
    | some more =>
      have hcut := expect_length hcomma
      have hmore := skip_length more
      dsimp only
      rw [ihitems depth (skip more) (by omega)]

/-- Members under one step more: the name and the value before the comma are shorter too. -/
theorem members_succ {limit fuel : Nat}
    (ihvalue : ∀ depth text, 2 * text.length + 1 ≤ fuel →
      value limit (fuel + 1) depth text = value limit fuel depth text)
    (ihmembers : ∀ depth text, 2 * text.length + 2 ≤ fuel →
      members limit (fuel + 1) depth text = members limit fuel depth text)
    {depth : Nat} {text : CodePoints} (h : 2 * text.length + 2 ≤ fuel + 1) :
    members limit (fuel + 2) depth text = members limit (fuel + 1) depth text := by
  rw [members.eq_def, members.eq_def limit (fuel + 1)]
  dsimp only
  cases hkey : (expect 0x22 text).bind string with
  | none => rfl
  | some found =>
    obtain ⟨k, rest⟩ := found
    obtain ⟨behind, hquote, hstring⟩ := Option.bind_eq_some_iff.1 hkey
    have hopen := expect_length hquote
    have hname := string_length hstring
    have hskip := skip_length rest
    dsimp only
    cases hcolon : expect 0x3A (skip rest) with
    | none => rfl
    | some after =>
      have hcut := expect_length hcolon
      have hafter := skip_length after
      dsimp only
      -- the value begins behind the name and the colon, so one step less covers it
      rw [ihvalue depth (skip after) (by omega)]
      cases hread : value limit fuel depth (skip after) with
      | error fault => rfl
      | ok found =>
        obtain ⟨v, last⟩ := found
        have hshort := (consumes_reads limit fuel).1 depth (skip after) _ _ hread
        have hlast := skip_length last
        dsimp only
        cases hcomma : expect 0x2C (skip last) with
        | none => rfl
        | some more =>
          have hcut := expect_length hcomma
          have hmore := skip_length more
          dsimp only
          -- and the members behind the comma begin further on
          rw [ihmembers depth (skip more) (by omega)]

/-- One step more changes nothing where the steps suffice: two for each character, and one
for the items or the members the text starts with. -/
theorem reads_succ (limit : Nat) : ∀ fuel : Nat,
    (∀ depth text, 2 * text.length + 1 ≤ fuel →
      value limit (fuel + 1) depth text = value limit fuel depth text) ∧
    (∀ depth text, 2 * text.length + 2 ≤ fuel →
      items limit (fuel + 1) depth text = items limit fuel depth text) ∧
    ∀ depth text, 2 * text.length + 2 ≤ fuel →
      members limit (fuel + 1) depth text = members limit fuel depth text := by
  intro fuel
  induction fuel with
  | zero => exact ⟨fun _ _ h => by omega, fun _ _ h => by omega, fun _ _ h => by omega⟩
  | succ fuel ih =>
    obtain ⟨ihvalue, ihitems, ihmembers⟩ := ih
    exact ⟨fun _ _ h => value_succ ihitems ihmembers h, fun _ _ h => items_succ ihvalue ihitems h,
      fun _ _ h => members_succ ihvalue ihmembers h⟩

/-- The number of steps is bookkeeping: any number from twice the length of the text on
gives the same reading. -/
theorem value_steps {limit depth fuel : Nat} {text : CodePoints} (h : 2 * text.length + 1 ≤ fuel) :
    value limit fuel depth text = value limit (2 * text.length + 1) depth text := by
  induction fuel with
  | zero => omega
  | succ fuel ih =>
    by_cases hmore : 2 * text.length + 1 ≤ fuel
    · rw [(reads_succ limit fuel).1 depth text hmore]
      exact ih hmore
    · have hsame : fuel + 1 = 2 * text.length + 1 := by omega
      rw [hsame]

/-- One bracket more than the nesting allows is too deep, whatever follows it. -/
theorem value_deep (limit : Nat) (rest : CodePoints) : ∀ {depth fuel : Nat}, 2 * depth + 1 ≤ fuel →
    value limit fuel depth (List.replicate (depth + 1) 0x5B ++ rest) = .error .recursion := by
  intro depth
  induction depth with
  | zero =>
    intro fuel h
    obtain ⟨fuel, rfl⟩ := Nat.exists_eq_add_of_le' h
    rw [value.eq_def]
    rfl
  | succ depth ih =>
    intro fuel h
    obtain ⟨fuel, rfl⟩ := Nat.exists_eq_add_of_le' (show 2 ≤ fuel by omega)
    have hbracket : List.replicate (depth + 1 + 1) 0x5B ++ rest =
        0x5B :: 0x5B :: (List.replicate depth 0x5B ++ rest) := rfl
    -- the inner arrays are one level less deep, with two units of fuel less
    have hinner : value limit fuel depth (0x5B :: (List.replicate depth 0x5B ++ rest)) =
        .error .recursion := ih (by omega)
    have hitems : items limit (fuel + 1) depth (0x5B :: (List.replicate depth 0x5B ++ rest)) =
        .error .recursion := by
      rw [items.eq_def]
      simp only [hinner]
    have hskip : skip (0x5B :: (List.replicate depth 0x5B ++ rest)) =
        0x5B :: (List.replicate depth 0x5B ++ rest) := rfl
    have hopen : expect 0x5D (0x5B :: (List.replicate depth 0x5B ++ rest)) = none := rfl
    rw [hbracket, value.eq_def]
    simp only [show ¬ (0x5B : Nat) = 0x22 by decide, show ¬ (0x5B : Nat) = 0x7B by decide,
      if_false, if_true, hskip, hopen, hitems]

/-- `json.loads` raises `RecursionError` on them, also where they are never closed. -/
theorem decode_deep (limit depth : Nat) (rest : CodePoints) :
    decode limit depth (List.replicate (depth + 1) 0x5B ++ rest) = .error .recursion := by
  have hskip : skip (List.replicate (depth + 1) 0x5B ++ rest) =
      List.replicate (depth + 1) 0x5B ++ rest := rfl
  have hlength : 2 * depth + 1 ≤ 2 * (List.replicate (depth + 1) 0x5B ++ rest).length + 2 := by
    rw [List.length_append, List.length_replicate]
    omega
  rw [decode, hskip, value_deep limit rest hlength]

end CommercePlatform.Lib.Json
