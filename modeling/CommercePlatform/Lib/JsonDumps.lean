import CommercePlatform.Lib.JsonRead
/-!
# Canonical JSON

`json.dumps` with `sort_keys=True`: the members of every object in the order of their
keys (`sortKeys`), so that two dictionaries with the same members are one text. A row is
an object whose values are not nested; rows with the same columns are written alike only
where they are equal (`row_injective`), and so are lists of rows, each behind the other
and ended by a line break (`lines_injective`).

The injectivity goes through the reader: a written value is read back up to the order of
its members (`dumps_plain`, `same_sortKeys`), so equal texts have equal sorted values,
and for two rows over the same columns equal sorted members are equal members
(`eq_of_perm`). Lines are told apart because no written value contains a line break
(`encode_oneLine`).

What is hashed is the UTF-8 of such texts, so the module also says which of them can be
encoded: `Clean` values, whose strings, keys and numbers hold no lone surrogate, are
written as texts of UTF-8 (`isText_encode`).

Mirroring notes vs `json.dumps`:
- Keys are texts. `sort_keys` compares code points, which is `keyLe`; a dictionary whose
  keys are not all texts does not occur here.
- An integer beyond the digit limit raises `ValueError` in `int.__repr__`, before
  anything is written (`fitsDigits`); `NaN` and infinities are texts of `Json.float`, as
  the default `allow_nan` writes them.
- The nesting a writer recurses through is not bounded: what is written here comes from
  rows and manifests, which are nested three deep at most.
-/

namespace CommercePlatform.Lib.Json

/-- `a <= b` for texts: the first code points that differ decide, and a prefix comes first. -/
def keyLe : CodePoints → CodePoints → Bool
  | [], _ => true
  | _ :: _, [] => false
  | a :: as, b :: bs => a < b || (a = b && keyLe as bs)

theorem keyLe_total : ∀ a b : CodePoints, keyLe a b = true ∨ keyLe b a = true
  | [], _ => .inl (by rw [keyLe])
  | _ :: _, [] => .inr (by rw [keyLe])
  | a :: as, b :: bs => by
    simp only [keyLe, Bool.or_eq_true, Bool.and_eq_true, decide_eq_true_eq]
    rcases Nat.lt_trichotomy a b with h | h | h
    · exact .inl (.inl h)
    · exact (keyLe_total as bs).imp (fun hle => .inr ⟨h, hle⟩) fun hle => .inr ⟨h.symm, hle⟩
    · exact .inr (.inl h)

theorem keyLe_trans : ∀ {a b c : CodePoints}, keyLe a b = true → keyLe b c = true → keyLe a c = true
  | [], _, _, _, _ => by rw [keyLe]
  | _ :: _, [], _, h, _ => by simp [keyLe] at h
  | _ :: _, _ :: _, [], _, h => by simp [keyLe] at h
  | a :: as, b :: bs, c :: cs, hab, hbc => by
    simp only [keyLe, Bool.or_eq_true, Bool.and_eq_true, decide_eq_true_eq] at hab hbc ⊢
    rcases hab with hab | ⟨rfl, hab⟩
    · rcases hbc with hbc | ⟨rfl, -⟩
      · exact .inl (by omega)
      · exact .inl hab
    · rcases hbc with hbc | ⟨rfl, hbc⟩
      · exact .inl hbc
      · exact .inr ⟨rfl, keyLe_trans hab hbc⟩

/-- One member before another. -/
def Before (a b : CodePoints × Json) : Prop := keyLe a.1 b.1 = true

instance : DecidableRel Before := fun a b => inferInstanceAs (Decidable (keyLe a.1 b.1 = true))

instance : Std.Total Before := ⟨fun a b => keyLe_total a.1 b.1⟩

instance : IsTrans (CodePoints × Json) Before := ⟨fun _ _ _ => keyLe_trans⟩

/-- `sorted(dict.items())`: by key, which decides since no key occurs twice. -/
def byKey (ms : List (CodePoints × Json)) : List (CodePoints × Json) := ms.insertionSort Before

mutual

/-- The value with the members of every object in the order of their keys, at every depth. -/
def sortKeys : Json → Json
  | null => null
  | bool b => bool b
  | int n => int n
  | float literal => float literal
  | str s => str s
  | arr xs => arr (sortKeysItems xs)
  | obj ms => obj (byKey (sortKeysMembers ms))

def sortKeysItems : List Json → List Json
  | [] => []
  | x :: xs => sortKeys x :: sortKeysItems xs

def sortKeysMembers : List (CodePoints × Json) → List (CodePoints × Json)
  | [] => []
  | (k, v) :: ms => (k, sortKeys v) :: sortKeysMembers ms

end

/-- `a == b`: dictionaries are equal when their members are, in any order; lists item by item. -/
def Same (a b : Json) : Prop := sortKeys a = sortKeys b

mutual

/-- Every integer has at most `limit` digits. -/
def fitsDigits (limit : Nat) : Json → Bool
  | int n => (writeNat n.natAbs).length ≤ limit
  | arr xs => fitsDigitsItems limit xs
  | obj ms => fitsDigitsMembers limit ms
  | _ => true

def fitsDigitsItems (limit : Nat) : List Json → Bool
  | [] => true
  | x :: xs => fitsDigits limit x && fitsDigitsItems limit xs

def fitsDigitsMembers (limit : Nat) : List (CodePoints × Json) → Bool
  | [] => true
  | (_, v) :: ms => fitsDigits limit v && fitsDigitsMembers limit ms

end

/-- `json.dumps(value, ensure_ascii=False, separators=(",", ":"), sort_keys=True)`. An
integer with more digits than the interpreter converts raises `ValueError`. -/
def dumps (limit : Nat) (j : Json) : Except Fault CodePoints :=
  if fitsDigits limit j then .ok (encode (sortKeys j)) else .error .digits

theorem keys_sortKeysMembers : ∀ ms : List (CodePoints × Json),
    (sortKeysMembers ms).map (·.1) = ms.map (·.1)
  | [] => rfl
  | (k, v) :: ms => by
    rw [sortKeysMembers, List.map_cons, List.map_cons, keys_sortKeysMembers ms]

theorem plainMembers_iff {limit depth : Nat} : ∀ {ms : List (CodePoints × Json)},
    PlainMembers limit depth ms ↔ ∀ m ∈ ms, m.2.Plain limit depth
  | [] => by simp [PlainMembers]
  | (k, v) :: ms => by
    rw [PlainMembers, plainMembers_iff, List.forall_mem_cons]

mutual

theorem plain_sortKeys {limit : Nat} : ∀ (j : Json) {depth : Nat}, j.Plain limit depth →
    (sortKeys j).Plain limit depth
  | .null, _, h => by rwa [sortKeys]
  | .bool _, _, h => by rwa [sortKeys]
  | .int _, _, h => by rwa [sortKeys]
  | .float _, _, h => by rwa [sortKeys]
  | .str _, _, h => by rwa [sortKeys]
  | .arr _, 0, h => by simp only [Plain] at h
  | .arr xs, depth + 1, h => by
    simp only [sortKeys, Plain] at h ⊢
    exact plainItems_sortKeys xs h
  | .obj _, 0, h => by simp only [Plain] at h
  | .obj ms, depth + 1, h => by
    simp only [sortKeys, Plain] at h ⊢
    have hperm : (byKey (sortKeysMembers ms)).Perm (sortKeysMembers ms) :=
      List.perm_insertionSort _ _
    constructor
    · rw [(hperm.map (·.1)).nodup_iff, keys_sortKeysMembers]
      exact h.1
    · have hmembers := plainMembers_iff.1 (plainMembers_sortKeys ms h.2)
      exact plainMembers_iff.2 fun m hm => hmembers m (hperm.mem_iff.1 hm)

theorem plainItems_sortKeys {limit : Nat} : ∀ (xs : List Json) {depth : Nat},
    PlainItems limit depth xs → PlainItems limit depth (sortKeysItems xs)
  | [], _, h => h
  | x :: xs, _, h => by
    simp only [sortKeysItems, PlainItems] at h ⊢
    exact ⟨plain_sortKeys x h.1, plainItems_sortKeys xs h.2⟩

theorem plainMembers_sortKeys {limit : Nat} : ∀ (ms : List (CodePoints × Json)) {depth : Nat},
    PlainMembers limit depth ms → PlainMembers limit depth (sortKeysMembers ms)
  | [], _, h => h
  | (k, v) :: ms, _, h => by
    simp only [sortKeysMembers, PlainMembers] at h ⊢
    exact ⟨plain_sortKeys v h.1, plainMembers_sortKeys ms h.2⟩

end

mutual

theorem fitsDigits_of_plain {limit : Nat} : ∀ (j : Json) {depth : Nat}, j.Plain limit depth →
    fitsDigits limit j = true
  | .null, _, _ => by rw [fitsDigits] <;> simp
  | .bool _, _, _ => by rw [fitsDigits] <;> simp
  | .float _, _, _ => by rw [fitsDigits] <;> simp
  | .str _, _, _ => by rw [fitsDigits] <;> simp
  | .int n, _, h => by
    simp only [Plain] at h
    rw [fitsDigits, decide_eq_true h]
  | .arr _, 0, h => by simp only [Plain] at h
  | .arr xs, depth + 1, h => by
    simp only [Plain] at h
    rw [fitsDigits]
    exact fitsDigitsItems_of_plain xs h
  | .obj _, 0, h => by simp only [Plain] at h
  | .obj ms, depth + 1, h => by
    simp only [Plain] at h
    rw [fitsDigits]
    exact fitsDigitsMembers_of_plain ms h.2

theorem fitsDigitsItems_of_plain {limit : Nat} : ∀ (xs : List Json) {depth : Nat},
    PlainItems limit depth xs → fitsDigitsItems limit xs = true
  | [], _, _ => rfl
  | x :: xs, _, h => by
    rw [fitsDigitsItems, fitsDigits_of_plain x h.1, fitsDigitsItems_of_plain xs h.2]
    rfl

theorem fitsDigitsMembers_of_plain {limit : Nat} : ∀ (ms : List (CodePoints × Json)) {depth : Nat},
    PlainMembers limit depth ms → fitsDigitsMembers limit ms = true
  | [], _, _ => rfl
  | (k, v) :: ms, _, h => by
    rw [fitsDigitsMembers, fitsDigits_of_plain v h.1, fitsDigitsMembers_of_plain ms h.2]
    rfl

end

/-- A value within the limits is written, and read back up to the order of its members: the
reader gives the value with its keys sorted. -/
theorem dumps_plain {limit depth : Nat} {j : Json} (h : j.Plain limit depth) :
    dumps limit j = .ok (encode (sortKeys j)) ∧
      decode limit depth (encode (sortKeys j)) = .ok (sortKeys j) := by
  refine ⟨?_, decode_encode (plain_sortKeys j h)⟩
  rw [dumps, if_pos (fitsDigits_of_plain j h)]

mutual

/-- Sorting sorts once. -/
theorem sortKeys_sortKeys : ∀ j : Json, sortKeys (sortKeys j) = sortKeys j
  | .null => rfl
  | .bool _ => rfl
  | .int _ => rfl
  | .float _ => rfl
  | .str _ => rfl
  | .arr xs => by simp only [sortKeys, sortKeysItems_sortKeysItems xs]
  | .obj ms => by
    simp only [sortKeys]
    have hsorted : sortKeysMembers (byKey (sortKeysMembers ms)) = byKey (sortKeysMembers ms) :=
      sortKeysMembers_eq fun m hm => by
        have hmem : m ∈ sortKeysMembers ms := (List.perm_insertionSort _ _).mem_iff.1 hm
        exact sortKeysMembers_sortKeys ms m hmem
    rw [hsorted]
    congr 1
    exact List.Pairwise.insertionSort_eq (List.pairwise_insertionSort _ _)

theorem sortKeysItems_sortKeysItems : ∀ xs : List Json,
    sortKeysItems (sortKeysItems xs) = sortKeysItems xs
  | [] => rfl
  | x :: xs => by
    simp only [sortKeysItems, sortKeys_sortKeys x, sortKeysItems_sortKeysItems xs]

theorem sortKeysMembers_sortKeys : ∀ (ms : List (CodePoints × Json)),
    ∀ m ∈ sortKeysMembers ms, sortKeys m.2 = m.2
  | [], _, h => by cases h
  | (k, v) :: ms, m, h => by
    simp only [sortKeysMembers, List.mem_cons] at h
    rcases h with rfl | h
    · exact sortKeys_sortKeys v
    · exact sortKeysMembers_sortKeys ms m h

/-- Members that are sorted inside stay. -/
theorem sortKeysMembers_eq : ∀ {ms : List (CodePoints × Json)},
    (∀ m ∈ ms, sortKeys m.2 = m.2) → sortKeysMembers ms = ms
  | [], _ => rfl
  | (k, v) :: ms, h => by
    rw [sortKeysMembers, h (k, v) List.mem_cons_self,
      sortKeysMembers_eq fun m hm => h m (List.mem_cons_of_mem _ hm)]

end

/-- What is read back equals what was written. -/
theorem same_sortKeys (j : Json) : Same (sortKeys j) j := sortKeys_sortKeys j

/-- Looking a key up finds its member, where no key stands twice. -/
theorem lookup_eq_some_iff {ms : List (CodePoints × Json)} (h : (ms.map (·.1)).Nodup) {k : CodePoints}
    {v : Json} : ms.lookup k = some v ↔ (k, v) ∈ ms := by
  induction ms with
  | nil => simp
  | cons m ms ih =>
    obtain ⟨l, w⟩ := m
    obtain ⟨hnew, hrest⟩ := List.nodup_cons.1 h
    rw [List.lookup_cons, List.mem_cons, Prod.mk.injEq]
    by_cases hk : k = l
    · rw [hk, beq_self_eq_true]
      dsimp only
      rw [Option.some.injEq]
      constructor
      · exact fun hw => .inl ⟨rfl, hw.symm⟩
      · rintro (⟨-, hv⟩ | hmem)
        · exact hv.symm
        · exact absurd (List.mem_map_of_mem (f := (·.1)) hmem) hnew
    · rw [beq_eq_false_iff_ne.2 hk]
      dsimp only
      rw [ih hrest]
      exact ⟨.inr, fun hor => hor.resolve_left fun heq => hk heq.1⟩

theorem mem_sortKeysMembers {k : CodePoints} {w : Json} : ∀ {ms : List (CodePoints × Json)},
    (k, w) ∈ sortKeysMembers ms ↔ ∃ v, (k, v) ∈ ms ∧ sortKeys v = w
  | [] => by simp [sortKeysMembers]
  | (l, v) :: ms => by
    rw [sortKeysMembers, List.mem_cons, mem_sortKeysMembers, Prod.mk.injEq]
    constructor
    · rintro (⟨rfl, rfl⟩ | ⟨v', hv', heq⟩)
      · exact ⟨v, List.mem_cons_self, rfl⟩
      · exact ⟨v', List.mem_cons_of_mem _ hv', heq⟩
    · rintro ⟨v', hv', rfl⟩
      rcases List.mem_cons.1 hv' with heq | hv'
      · obtain ⟨rfl, rfl⟩ := Prod.mk.inj heq
        exact .inl ⟨rfl, rfl⟩
      · exact .inr ⟨v', hv', rfl⟩

/-- A sorted object has the same keys, with sorted values. -/
theorem lookup_byKey {ms : List (CodePoints × Json)} (h : (ms.map (·.1)).Nodup) {k : CodePoints}
    {v : Json} (hv : ms.lookup k = some v) :
    (byKey (sortKeysMembers ms)).lookup k = some (sortKeys v) := by
  have hperm : (byKey (sortKeysMembers ms)).Perm (sortKeysMembers ms) := List.perm_insertionSort _ _
  have hnodup : ((byKey (sortKeysMembers ms)).map (·.1)).Nodup := by
    rw [(hperm.map (·.1)).nodup_iff, keys_sortKeysMembers]
    exact h
  rw [lookup_eq_some_iff hnodup, hperm.mem_iff, mem_sortKeysMembers]
  exact ⟨v, (lookup_eq_some_iff h).1 hv, rfl⟩

/-- Values without members to sort. -/
def Flat (ms : List (CodePoints × Json)) : Prop := ∀ m ∈ ms, sortKeys m.2 = m.2

theorem sortKeys_row {ms : List (CodePoints × Json)} (h : Flat ms) :
    sortKeys (obj ms) = obj (byKey ms) := by
  rw [sortKeys, sortKeysMembers_eq h]

/-- Members under the same keys, in the same order of keys, are equal when they are the
same in some order. -/
theorem eq_of_perm : ∀ {ms ms' : List (CodePoints × Json)}, ms.map (·.1) = ms'.map (·.1) →
    (ms.map (·.1)).Nodup → ms.Perm ms' → ms = ms'
  | [], ms', hkeys, _, _ => by
    have hnil : ms'.map (·.1) = [] := hkeys.symm
    exact (List.map_eq_nil_iff.1 hnil).symm
  | m :: ms, [], _, _, hperm => absurd hperm.length_eq (by simp)
  | (k, v) :: ms, (k', v') :: ms', hkeys, hnodup, hperm => by
    obtain ⟨hk, hmore⟩ := List.cons.inj hkeys
    simp only at hk
    obtain rfl := hk
    obtain ⟨hnew, hnodup'⟩ := List.nodup_cons.1 hnodup
    -- the first member of the one stands in the other, and its key only in front
    have hmem : (k, v') ∈ (k, v) :: ms := hperm.symm.mem_iff.1 List.mem_cons_self
    have hv : v' = v := by
      rcases List.mem_cons.1 hmem with h | h
      · exact (Prod.mk.inj h).2
      · exact absurd (List.mem_map_of_mem (f := (·.1)) h) hnew
    rw [hv] at hperm ⊢
    rw [eq_of_perm hmore hnodup' hperm.cons_inv]

/-- Rows with the same columns are written alike only where they are equal: the texts give the
sorted rows, and sorting permutes the members of both in the same way. -/
theorem row_injective {limit depth : Nat} {ms ms' : List (CodePoints × Json)}
    (h : (obj ms).Plain limit depth) (h' : (obj ms').Plain limit depth) (hflat : Flat ms)
    (hflat' : Flat ms') (hkeys : ms.map (·.1) = ms'.map (·.1)) (hnodup : (ms.map (·.1)).Nodup)
    (heq : encode (sortKeys (obj ms)) = encode (sortKeys (obj ms'))) : ms = ms' := by
  have hsorted := encode_injective (plain_sortKeys _ h) (plain_sortKeys _ h') heq
  rw [sortKeys_row hflat, sortKeys_row hflat'] at hsorted
  have hperm : ms.Perm ms' := by
    have hfront : (byKey ms).Perm ms := List.perm_insertionSort _ _
    have hback : (byKey ms').Perm ms' := List.perm_insertionSort _ _
    rw [Json.obj.inj hsorted] at hfront
    exact hfront.symm.trans hback
  exact eq_of_perm hkeys hnodup hperm

/-- A value that is not nested. -/
def Bare (limit : Nat) : Json → Prop
  | arr _ => False
  | obj _ => False
  | float literal => IsFloatLiteral limit literal
  | _ => True

theorem sortKeys_bare {limit : Nat} {j : Json} (h : Bare limit j) : sortKeys j = j := by
  cases j with
  | arr xs => exact absurd h (by simp [Bare])
  | obj ms => exact absurd h (by simp [Bare])
  | _ => rfl

theorem plain_bare {limit depth : Nat} {j : Json} (h : Bare limit j)
    (hfits : fitsDigits limit j = true) : j.Plain limit depth := by
  cases j with
  | arr xs => exact absurd h (by simp [Bare])
  | obj ms => exact absurd h (by simp [Bare])
  | int n =>
    rw [fitsDigits] at hfits
    simpa only [Plain] using of_decide_eq_true hfits
  | float literal => simpa only [Plain, Bare] using h
  | null => simp only [Plain]
  | bool b => simp only [Plain]
  | str s => simp only [Plain]

theorem fitsDigitsMembers_iff {limit : Nat} : ∀ {ms : List (CodePoints × Json)},
    fitsDigitsMembers limit ms = true ↔ ∀ m ∈ ms, fitsDigits limit m.2 = true
  | [] => by simp [fitsDigitsMembers]
  | (k, v) :: ms => by
    rw [fitsDigitsMembers, Bool.and_eq_true, fitsDigitsMembers_iff, List.forall_mem_cons]

/-- A row of values that are not nested. -/
theorem plain_row {limit : Nat} {ms : List (CodePoints × Json)} (hbare : ∀ m ∈ ms, Bare limit m.2)
    (hnodup : (ms.map (·.1)).Nodup) (hfits : fitsDigits limit (obj ms) = true) :
    (obj ms).Plain limit 1 := by
  rw [fitsDigits, fitsDigitsMembers_iff] at hfits
  simp only [Plain]
  exact ⟨hnodup, plainMembers_iff.2 fun m hm => plain_bare (hbare m hm) (hfits m hm)⟩

/-! ## Lines -/

/-- Texts one after the other, each ended by a line break. -/
def lines (texts : List CodePoints) : CodePoints := texts.flatMap (· ++ [0x0A])

theorem takeWhile_line {t : CodePoints} (h : 0x0A ∉ t) (rest : CodePoints) :
    (t ++ 0x0A :: rest).takeWhile (· ≠ 0x0A) = t := by
  have hall : ∀ c ∈ t, (decide (c ≠ 0x0A)) = true := fun c hc =>
    decide_eq_true fun heq => h (heq ▸ hc)
  rw [List.takeWhile_append_of_pos hall, List.takeWhile_cons]
  simp

/-- Texts without line breaks are told from their lines: the first line break ends the first. -/
theorem lines_injective : ∀ {a b : List CodePoints}, (∀ t ∈ a, 0x0A ∉ t) → (∀ t ∈ b, 0x0A ∉ t) →
    lines a = lines b → a = b
  | [], [], _, _, _ => rfl
  | [], t :: b, _, _, h => by simp [lines] at h
  | t :: a, [], _, _, h => by simp [lines] at h
  | t :: a, u :: b, ha, hb, h => by
    have hcons : ∀ (t : CodePoints) (more : List CodePoints),
        lines (t :: more) = t ++ 0x0A :: lines more := fun t more => by
      rw [lines, List.flatMap_cons, List.append_assoc, List.singleton_append]
      rfl
    rw [hcons, hcons] at h
    have htu : t = u := by
      rw [← takeWhile_line (ha t List.mem_cons_self) (lines a), h,
        takeWhile_line (hb u List.mem_cons_self)]
    rw [htu] at h ⊢
    have hmore : lines a = lines b := (List.cons.inj (List.append_cancel_left h)).2
    rw [lines_injective (fun t ht => ha t (List.mem_cons_of_mem _ ht))
      (fun t ht => hb t (List.mem_cons_of_mem _ ht)) hmore]

/-- A written value is one line. -/
theorem encode_oneLine {limit depth : Nat} {j : Json} (h : j.Plain limit depth) :
    0x0A ∉ encode j := fun hmem => by
  have hprintable := encode_printable j h 0x0A hmem
  omega

/-- Every code point is one of UTF-8. -/
def IsText (t : CodePoints) : Prop := ∀ c ∈ t, IsScalar c

theorem isText_points (s : String) : IsText (points s) := isScalar_points

theorem isText_append {a b : CodePoints} (ha : IsText a) (hb : IsText b) : IsText (a ++ b) :=
  fun c hc => (List.mem_append.1 hc).elim (ha c) (hb c)

theorem isText_cons {c : Nat} {t : CodePoints} (hc : IsScalar c) (ht : IsText t) : IsText (c :: t) :=
  List.forall_mem_cons.2 ⟨hc, ht⟩

theorem isText_nil : IsText [] := fun _ hc => by cases hc

theorem isScalar_of_lt {c : Nat} (h : c < 0x80) : IsScalar c := by
  refine ⟨by omega, ?_⟩
  simp only [isSurrogate, Bool.and_eq_false_iff, decide_eq_false_iff_not]
  omega

mutual

/-- The strings, keys and numbers of a value are. -/
def Clean : Json → Prop
  | float literal => IsText literal
  | str s => IsText s
  | arr xs => CleanItems xs
  | obj ms => CleanMembers ms
  | _ => True

def CleanItems : List Json → Prop
  | [] => True
  | x :: xs => Clean x ∧ CleanItems xs

def CleanMembers : List (CodePoints × Json) → Prop
  | [] => True
  | (k, v) :: ms => IsText k ∧ Clean v ∧ CleanMembers ms

end

theorem isText_writeString {s : CodePoints} (h : IsText s) : IsText (writeString s) := by
  have hescape : ∀ c, IsScalar c → IsText (escape c) := by
    intro c hc d hd
    rw [escape] at hd
    split at hd
    -- an escape is ASCII
    next letter hlookup =>
      obtain ⟨l₁, l₂, heq, -⟩ := List.lookup_eq_some_iff.1 hlookup
      have hletters : ∀ e ∈ escapes, e.2 < 0x80 := by decide
      have hletter : letter < 0x80 := hletters (c, letter) (by rw [heq]; simp)
      simp only [List.mem_cons, List.not_mem_nil, or_false] at hd
      exact isScalar_of_lt (by omega)
    next =>
      split at hd
      next hc =>
        have hdigit : ∀ n < 16, hexDigit n < 0x80 := by decide
        have h₁ := hdigit (c / 16) (by omega)
        have h₂ := hdigit (c % 16) (by omega)
        simp only [List.mem_cons, List.not_mem_nil, or_false] at hd
        exact isScalar_of_lt (by omega)
      next =>
        rw [List.mem_singleton] at hd
        -- what is not escaped stands for itself
        rwa [hd]
  refine isText_cons (isScalar_of_lt (by decide)) (isText_append ?_ ?_)
  · intro d hd
    obtain ⟨c, hc, hd⟩ := List.mem_flatMap.1 hd
    exact hescape c (h c hc) d hd
  · exact isText_cons (isScalar_of_lt (by decide)) isText_nil

theorem isText_writeInt (n : Int) : IsText (writeInt n) := by
  have hdigits : IsText (writeNat n.natAbs) := fun c hc => by
    have hdigit := isDigit_writeNat hc
    simp only [isDigit, Bool.and_eq_true, decide_eq_true_eq] at hdigit
    exact isScalar_of_lt (by omega)
  rw [writeInt]
  split
  · exact isText_cons (isScalar_of_lt (by decide)) hdigits
  · exact hdigits

mutual

/-- What is written of them is a text of UTF-8. -/
theorem isText_encode : ∀ (j : Json), Clean j → IsText (encode j)
  | .null, _ => isText_points _
  | .bool _, _ => isText_points _
  | .int n, _ => by
    rw [encode]
    exact isText_writeInt n
  | .float literal, h => by
    rw [encode]
    simpa only [Clean] using h
  | .str s, h => by
    rw [encode]
    exact isText_writeString (by simpa only [Clean] using h)
  | .arr [], _ => by
    rw [encode]
    exact isText_cons (isScalar_of_lt (by decide))
      (isText_cons (isScalar_of_lt (by decide)) isText_nil)
  -- brackets and braces are texts, and texts behind each other are one
  | .arr (x :: xs), h => by
    simp only [Clean, CleanItems] at h
    rw [encode]
    exact isText_cons (isScalar_of_lt (by decide)) (isText_append (isText_encode x h.1)
      (isText_append (isText_encodeItems xs h.2)
        (isText_cons (isScalar_of_lt (by decide)) isText_nil)))
  | .obj [], _ => by
    rw [encode]
    exact isText_cons (isScalar_of_lt (by decide))
      (isText_cons (isScalar_of_lt (by decide)) isText_nil)
  | .obj ((k, v) :: ms), h => by
    simp only [Clean, CleanMembers] at h
    rw [encode]
    exact isText_cons (isScalar_of_lt (by decide)) (isText_append (isText_writeString h.1)
      (isText_cons (isScalar_of_lt (by decide)) (isText_append (isText_encode v h.2.1)
        (isText_append (isText_encodeMembers ms h.2.2)
          (isText_cons (isScalar_of_lt (by decide)) isText_nil)))))

theorem isText_encodeItems : ∀ (xs : List Json), CleanItems xs → IsText (encodeItems xs)
  | [], _ => isText_nil
  | x :: xs, h => by
    simp only [CleanItems] at h
    rw [encodeItems]
    exact isText_cons (isScalar_of_lt (by decide))
      (isText_append (isText_encode x h.1) (isText_encodeItems xs h.2))

theorem isText_encodeMembers : ∀ (ms : List (CodePoints × Json)), CleanMembers ms →
    IsText (encodeMembers ms)
  | [], _ => isText_nil
  | (k, v) :: ms, h => by
    simp only [CleanMembers] at h
    rw [encodeMembers]
    exact isText_cons (isScalar_of_lt (by decide)) (isText_append (isText_writeString h.1)
      (isText_cons (isScalar_of_lt (by decide))
        (isText_append (isText_encode v h.2.1) (isText_encodeMembers ms h.2.2))))

end

theorem cleanMembers_iff : ∀ {ms : List (CodePoints × Json)},
    CleanMembers ms ↔ ∀ m ∈ ms, IsText m.1 ∧ Clean m.2
  | [] => by simp [CleanMembers]
  | (k, v) :: ms => by rw [CleanMembers, cleanMembers_iff, List.forall_mem_cons, and_assoc]

mutual

theorem clean_sortKeys : ∀ (j : Json), Clean j → Clean (sortKeys j)
  | .null, h => h
  | .bool _, h => h
  | .int _, h => h
  | .float _, h => h
  | .str _, h => h
  | .arr xs, h => by
    simp only [sortKeys, Clean] at h ⊢
    exact cleanItems_sortKeys xs h
  | .obj ms, h => by
    simp only [sortKeys, Clean] at h ⊢
    have hmembers := cleanMembers_iff.1 (cleanMembers_sortKeys ms h)
    have hperm : (byKey (sortKeysMembers ms)).Perm (sortKeysMembers ms) :=
      List.perm_insertionSort _ _
    exact cleanMembers_iff.2 fun m hm => hmembers m (hperm.mem_iff.1 hm)

theorem cleanItems_sortKeys : ∀ (xs : List Json), CleanItems xs → CleanItems (sortKeysItems xs)
  | [], h => h
  | x :: xs, h => by
    simp only [sortKeysItems, CleanItems] at h ⊢
    exact ⟨clean_sortKeys x h.1, cleanItems_sortKeys xs h.2⟩

theorem cleanMembers_sortKeys : ∀ (ms : List (CodePoints × Json)), CleanMembers ms →
    CleanMembers (sortKeysMembers ms)
  | [], h => h
  | (k, v) :: ms, h => by
    simp only [sortKeysMembers, CleanMembers] at h ⊢
    exact ⟨h.1, clean_sortKeys v h.2.1, cleanMembers_sortKeys ms h.2.2⟩

end

/-- The bytes of what is written. -/
theorem encodeUtf8_encode {j : Json} (h : Clean j) :
    encodeUtf8 (encode (sortKeys j)) = some (utf8 (encode (sortKeys j))) :=
  if_pos (isText_encode _ (clean_sortKeys j h))

end CommercePlatform.Lib.Json
