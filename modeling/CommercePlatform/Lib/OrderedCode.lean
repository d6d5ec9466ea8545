import Mathlib.Data.List.Lex
import Mathlib.Order.Lattice
import Mathlib.Order.Monotone.Basic
/-!
# Codes that keep an order

Two words are compared symbol by symbol. When each symbol is written as a word of
another alphabet, the written texts compare as the words do, provided the code of a
smaller symbol is smaller *before either ends* (`Below`): then neither is the beginning
of the other, so what follows them cannot change the result.

This is why a database that compares the bytes of a text and a program that compares its
characters agree: UTF-8 is such a code. It is also why the texts of UUIDs compare as
their numbers do, two hexadecimal digits for each byte.

The proof is by induction on the word whose code is the larger one's prefix so far: at
the first symbol where two words differ their codes are `Below` each other and
everything behind is irrelevant (`Below.append`); before it the codes are equal and can
be cancelled (`Below.append_left`).
-/

namespace CommercePlatform.Lib

variable {α β : Type}

section Below

variable [LT β]

/-- The words differ at a position both have, and there the first is smaller. Unlike the
lexicographic order it says nothing of a word and its own beginning. -/
def Below : List β → List β → Prop
  | x :: xs, y :: ys => x < y ∨ x = y ∧ Below xs ys
  | _, _ => False

theorem Below.lt : ∀ {xs ys : List β}, Below xs ys → xs < ys
  | x :: xs, y :: ys, h => by
    rw [List.cons_lt_cons_iff]
    rcases h with h | ⟨h, hrest⟩
    · exact .inl h
    · exact .inr ⟨h, hrest.lt⟩

/-- What follows does not matter: the position where they differ stays. -/
theorem Below.append : ∀ {xs ys : List β} (us vs : List β), Below xs ys →
    Below (xs ++ us) (ys ++ vs)
  | x :: xs, y :: ys, us, vs, h => by
    show x < y ∨ x = y ∧ Below (xs ++ us) (ys ++ vs)
    rcases h with h | ⟨h, hrest⟩
    · exact .inl h
    · exact .inr ⟨h, hrest.append us vs⟩

theorem Below.append_left (ws : List β) {xs ys : List β} (h : Below xs ys) :
    Below (ws ++ xs) (ws ++ ys) := by
  induction ws with
  | nil => exact h
  | cons w ws ih => exact .inr ⟨rfl, ih⟩

/-- Of two words of one length the smaller is below the other. -/
theorem Below.of_lt : ∀ {xs ys : List β}, xs.length = ys.length → xs < ys → Below xs ys
  | [], [], _, h => absurd h (by simp)
  | x :: xs, y :: ys, hlength, h => by
    rcases List.cons_lt_cons_iff.1 h with h | ⟨h, hrest⟩
    · exact .inl h
    · exact .inr ⟨h, Below.of_lt (by simpa using hlength) hrest⟩

/-- Cut two words at one position: they differ before the cut or after it. -/
theorem Below.split : ∀ {xs ys : List β} (n : Nat), Below xs ys →
    Below (xs.take n) (ys.take n) ∨ xs.take n = ys.take n ∧ Below (xs.drop n) (ys.drop n)
  | _, _, 0, h => .inr ⟨rfl, h⟩
  | x :: xs, y :: ys, n + 1, h => by
    rcases h with h | ⟨rfl, hrest⟩
    · exact .inl (.inl h)
    · rcases hrest.split n with hfront | ⟨heq, hback⟩
      · exact .inl (.inr ⟨rfl, hfront⟩)
      · exact .inr ⟨by simp [heq], hback⟩

end Below

section Code

variable [LT α] [LT β]

/-- The code of a smaller symbol is below. -/
def OrderedCode (code : α → List β) : Prop := ∀ a b, a < b → Below (code a) (code b)

variable {code : α → List β}

/-- Written words that differ before either ends still do. -/
theorem OrderedCode.below (hcode : OrderedCode code) : ∀ {xs ys : List α}, Below xs ys →
    Below (xs.flatMap code) (ys.flatMap code)
  | x :: xs, y :: ys, h => by
    rw [List.flatMap_cons, List.flatMap_cons]
    rcases h with h | ⟨rfl, hrest⟩
    · exact (hcode x y h).append _ _
    · exact (hcode.below hrest).append_left _

/-- A smaller word is written as a smaller text. -/
theorem OrderedCode.lt (hcode : OrderedCode code) (hne : ∀ a, code a ≠ []) :
    ∀ {xs ys : List α}, xs < ys → xs.flatMap code < ys.flatMap code
  | [], [], h => absurd h (by simp)
  | x :: xs, [], h => absurd h (by simp)
  | [], y :: ys, _ => by
    rw [List.flatMap_nil, List.flatMap_cons]
    obtain ⟨b, bs, hb⟩ := List.exists_cons_of_ne_nil (hne y)
    rw [hb]
    exact List.nil_lt_cons _ _
  | x :: xs, y :: ys, h => by
    rw [List.flatMap_cons, List.flatMap_cons]
    rcases List.cons_lt_cons_iff.1 h with h | ⟨rfl, hrest⟩
    · exact ((hcode x y h).append _ _).lt
    · exact List.append_left_lt (hcode.lt hne hrest)

end Code

/-- Writing words in an ordered code is strictly monotone, so two texts compare as the words they
are written from. -/
theorem OrderedCode.strictMono [LinearOrder α] [LinearOrder β] {code : α → List β}
    (hcode : OrderedCode code) (hne : ∀ a, code a ≠ []) :
    StrictMono fun xs : List α => xs.flatMap code :=
  fun _ _ h => hcode.lt hne h

end CommercePlatform.Lib
