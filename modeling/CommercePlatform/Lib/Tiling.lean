import Mathlib
/-!
# Linked half-open spans

A list of spans `(lo, hi]` over a linear order is *linked* from `a` to `b` when each
span starts where the one before it ended, the first at `a` and the last ending at `b`.
When every span runs upward, a linked list tiles `(a, b]`: the spans are pairwise
disjoint and together they are the whole range.

Being linked is the local form of the statement, a relation between neighbours that an
operation at the end keeps (`Linked.snoc`); disjointness and the union are what a reader
wants to know and follow from it once (`Linked.tiles`). The empty list is linked from a
point to itself, which is a history in which nothing was read yet.

Upward is strict: an empty span would have no point of its own, and a span that runs
downward would let two others overlap.
-/

namespace CommercePlatform.Lib

/-- The bounds of a half-open range `(lo, hi]`. -/
structure Span (α : Type) where
  lo : α
  hi : α
deriving DecidableEq

variable {α : Type}

/-- The spans follow one another from `a` to `b`, each starting where the one before ended. -/
def Linked (a : α) : List (Span α) → α → Prop
  | [], b => b = a
  | s :: l, b => s.lo = a ∧ Linked s.hi l b

/-- A linked list grows at the end by a span that starts at its end. -/
theorem Linked.snoc {b : α} :
    ∀ {l : List (Span α)} {a : α} (s : Span α), Linked a l b → s.lo = b →
      Linked a (l ++ [s]) s.hi
  | [], _, s, h, hs => by
    cases h
    exact ⟨hs, rfl⟩
  | _ :: l, _, s, h, hs => ⟨h.1, Linked.snoc (l := l) s h.2 hs⟩

section Order

variable [LinearOrder α]

/-- The points of the half-open range. -/
def Span.range (s : Span α) : Set α := Set.Ioc s.lo s.hi

theorem Linked.le {b : α} :
    ∀ {l : List (Span α)} {a : α}, Linked a l b → (∀ s ∈ l, s.lo < s.hi) → a ≤ b
  | [], _, h, _ => le_of_eq h.symm
  | s :: l, a, h, hup => by
    have hs : s.lo < s.hi := hup s List.mem_cons_self
    have hl : s.hi ≤ b := Linked.le h.2 fun t ht => hup t (List.mem_cons_of_mem _ ht)
    rw [← h.1]
    exact le_of_lt (lt_of_lt_of_le hs hl)

/-- Linked upward spans cover exactly the range between their two ends: a point of the range is
in the span at whose end it is first passed. -/
theorem Linked.covers {b : α} :
    ∀ {l : List (Span α)} {a : α}, Linked a l b → (∀ s ∈ l, s.lo < s.hi) →
      ∀ x, (∃ s ∈ l, x ∈ s.range) ↔ x ∈ Set.Ioc a b
  | [], a, h, _, x => by
    cases h
    simp
  | s :: l, a, h, hup, x => by
    have hl : ∀ t ∈ l, t.lo < t.hi := fun t ht => hup t (List.mem_cons_of_mem _ ht)
    have hs : s.lo < s.hi := hup s List.mem_cons_self
    have hb : s.hi ≤ b := h.2.le hl
    have hrest := Linked.covers h.2 hl x
    have hsplit : Set.Ioc s.lo s.hi ∪ Set.Ioc s.hi b = Set.Ioc s.lo b :=
      Set.Ioc_union_Ioc_eq_Ioc (le_of_lt hs) hb
    rw [← h.1, ← hsplit]
    simp only [List.mem_cons, exists_eq_or_imp, hrest]
    rfl

/-- Linked upward spans do not overlap. -/
theorem Linked.disjoint {b : α} :
    ∀ {l : List (Span α)} {a : α}, Linked a l b → (∀ s ∈ l, s.lo < s.hi) →
      l.Pairwise fun s t => Disjoint s.range t.range
  | [], _, _, _ => List.Pairwise.nil
  | s :: l, a, h, hup => by
    have hl : ∀ t ∈ l, t.lo < t.hi := fun t ht => hup t (List.mem_cons_of_mem _ ht)
    refine List.Pairwise.cons ?_ (Linked.disjoint h.2 hl)
    intro t ht
    -- every point of a later span lies above the end of this one
    refine Set.disjoint_left.2 fun x hx hxt => ?_
    have hx' : x ∈ Set.Ioc s.hi b := (h.2.covers hl x).1 ⟨t, ht, hxt⟩
    exact absurd hx.2 (not_le_of_gt hx'.1)

/-- The spans tile `(a, b]`: disjoint, and every point of the range is in one of them, which then
is the only one. -/
structure Tiles (a : α) (l : List (Span α)) (b : α) : Prop where
  disjoint : l.Pairwise fun s t => Disjoint s.range t.range
  covers : ∀ x, (∃ s ∈ l, x ∈ s.range) ↔ x ∈ Set.Ioc a b

theorem Linked.tiles {a b : α} {l : List (Span α)} (h : Linked a l b)
    (hup : ∀ s ∈ l, s.lo < s.hi) : Tiles a l b :=
  ⟨h.disjoint hup, h.covers hup⟩

end Order

end CommercePlatform.Lib
