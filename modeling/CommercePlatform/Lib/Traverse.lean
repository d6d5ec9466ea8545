import Mathlib.Data.List.Basic
import Mathlib.Data.List.Forall2
/-!
# Lists of computations that may fail

`mapM` and `forM` in `Except`: they return exactly when every element does, and over a
concatenation they are the parts one after the other. Loops of the source that raise at
the first bad element are such computations, and a statement about a loop that returned
is then one about each of its elements (`mapM_eq_ok`, `mapM_returns`, `forM_returns`).

`mapM_append_eq_ok` is the rule for a list that was cut into pages or batches: reading
the parts one after the other gives the same results in the same order.

Only the `Except` instances are treated. Where the loop also carries a state the
development uses a fold of its own, with the invariant of that fold.
-/

namespace CommercePlatform.Lib

variable {α β ε : Type} {f : α → Except ε β}

theorem except_bind_eq_ok {γ : Type} {x : Except ε α} {g : α → Except ε γ} {c : γ} :
    (x >>= g) = .ok c ↔ ∃ a, x = .ok a ∧ g a = .ok c := by
  cases x with
  | error e => simp [bind, Except.bind]
  | ok a => simp [bind, Except.bind]

/-- The results stand in the order of the elements: `mapM` returned them exactly when each is the
result of its element. -/
theorem mapM_eq_ok : ∀ {xs : List α} {ys : List β},
    xs.mapM f = .ok ys ↔ List.Forall₂ (fun x y => f x = .ok y) xs ys
  | [], ys => by
    rw [List.mapM_nil, List.forall₂_nil_left_iff]
    exact ⟨fun h => (Except.ok.inj h).symm, fun h => h ▸ rfl⟩
  | x :: xs, ys => by
    rw [List.mapM_cons, List.forall₂_cons_left_iff]
    simp only [except_bind_eq_ok, mapM_eq_ok]
    constructor
    · rintro ⟨y, hy, ys', hys, h⟩
      exact ⟨y, ys', hy, hys, (Except.ok.inj h).symm⟩
    · rintro ⟨y, ys', hy, hys, rfl⟩
      exact ⟨y, hy, ys', hys, rfl⟩

theorem mapM_congr {g : α → Except ε β} {xs : List α} (h : ∀ x ∈ xs, f x = g x) :
    xs.mapM f = xs.mapM g := by
  induction xs with
  | nil => rfl
  | cons x xs ih =>
    rw [List.mapM_cons, List.mapM_cons, h x List.mem_cons_self,
      ih fun y hy => h y (List.mem_cons_of_mem _ hy)]

/-- `mapM` returns exactly when every element does. -/
theorem mapM_returns {xs : List α} :
    (∃ ys, xs.mapM f = .ok ys) ↔ ∀ x ∈ xs, ∃ y, f x = .ok y := by
  induction xs with
  | nil => exact ⟨fun _ x hx => absurd hx List.not_mem_nil, fun _ => ⟨[], rfl⟩⟩
  | cons x xs ih =>
    rw [List.forall_mem_cons, ← ih, List.mapM_cons]
    simp only [except_bind_eq_ok]
    constructor
    · rintro ⟨ys, y, hy, ys', hys, -⟩
      exact ⟨⟨y, hy⟩, ys', hys⟩
    · rintro ⟨⟨y, hy⟩, ys, hys⟩
      exact ⟨y :: ys, y, hy, ys, hys, rfl⟩

/-- The results are those of the elements: every one of them is the result of some element. -/
theorem mem_mapM {xs : List α} {ys : List β} (h : xs.mapM f = .ok ys) {y : β} :
    y ∈ ys ↔ ∃ x ∈ xs, f x = .ok y := by
  have hall := mapM_eq_ok.1 h
  clear h
  induction hall with
  | nil => simp
  | cons hx _ ih =>
    rw [List.mem_cons, List.exists_mem_cons_iff, hx]
    exact or_congr ⟨fun h => by rw [h], fun h => (Except.ok.inj h).symm⟩ ih

theorem mapM_length {xs : List α} {ys : List β} (h : xs.mapM f = .ok ys) :
    ys.length = xs.length := (mapM_eq_ok.1 h).length_eq.symm

/-- Over a concatenation: the parts one after the other. -/
theorem mapM_append_eq_ok {xs xs' : List α} {ys ys' : List β} (h : xs.mapM f = .ok ys)
    (h' : xs'.mapM f = .ok ys') : (xs ++ xs').mapM f = .ok (ys ++ ys') :=
  mapM_eq_ok.2 (List.rel_append (mapM_eq_ok.1 h) (mapM_eq_ok.1 h'))

theorem forM_returns {f : α → Except ε Unit} {xs : List α} :
    xs.forM f = .ok () ↔ ∀ x ∈ xs, f x = .ok () := by
  induction xs with
  | nil => exact ⟨fun _ x hx => absurd hx List.not_mem_nil, fun _ => rfl⟩
  | cons x xs ih =>
    rw [List.forall_mem_cons, ← ih]
    show (f x >>= fun _ => xs.forM f) = .ok () ↔ _
    rw [except_bind_eq_ok]
    exact ⟨fun ⟨_, hx, hxs⟩ => ⟨hx, hxs⟩, fun ⟨hx, hxs⟩ => ⟨(), hx, hxs⟩⟩

end CommercePlatform.Lib
