import CommercePlatform.Lib.Script
/-!
# One script among others

A program of the platform does not run alone: between two of its statements other
processes commit, leases expire and rows move on. A statement about what one call leaves
behind is therefore one about its operations *among* the steps of everybody else. `Among
exec env x s tr out s'` says that the script `x` runs from `s` to `s'` and ends in
`out`, where before each of its operations the surroundings take any number of steps of
`env`. The notes `tr` list both kinds of steps in order, the script's own with the state
they met, so that a statement can speak of the state one operation saw and of another
one's effect.

Nothing is assumed of the surroundings here. What a user of this module knows of them
(an invariant, a version that only grows) is a fact about `env`, carried along the notes
by the induction over `Run` of `Lib/Machine`.

The rules take the notes of a run apart the way the program is put together. The general
one is `among_andThen`: the first part raised, or it returned and the second part went
on from the state it left. For a script that *returned* there is only one way through,
so `among_bind_ok`, `among_always_ok`, `among_perform_ok` and `among_ofExcept_ok` give
the states between the parts directly; a proof about a long function applies them once
for each of its lines.
-/

namespace CommercePlatform.Lib

/-- An entry of a run: an operation of the script, with the state it met and its answer, or a
step of the surroundings. -/
inductive Note (σ Op : Type) (Resp : Op → Type) (ε η : Type) where
  | own (state : σ) (op : Op) (r : Except ε (Resp op))
  | other (e : η)

/-- The notes of steps of the surroundings, as they stand between two operations of the script. -/
def others {σ Op : Type} {Resp : Op → Type} {ε η : Type} (es : List η) :
    List (Note σ Op Resp ε η) := es.map .other

section Among

variable {σ Op : Type} {Resp : Op → Type} {ε η α β : Type}

/-- The script runs from one state to another, with these notes, and ends like that. The
surroundings step before an operation and never after the last one: what happens after a
script has ended is not part of its run. -/
inductive Among (exec : σ → (op : Op) → Except ε (Resp op) → σ → Prop) (env : σ → η → σ → Prop) :
    Script Op Resp ε α → σ → List (Note σ Op Resp ε η) → Except ε α → σ → Prop where
  | ret (a : α) (s : σ) : Among exec env (.ret a) s [] (.ok a) s
  | raise (e : ε) (s : σ) : Among exec env (.raise e) s [] (.error e) s
  | call {op : Op} {k : Except ε (Resp op) → Script Op Resp ε α} {s t u v : σ} {es : List η}
      {r : Except ε (Resp op)} {tr : List (Note σ Op Resp ε η)} {out : Except ε α}
      (henv : Run env s es t) (hexec : exec t op r u) (hrest : Among exec env (k r) u tr out v) :
      Among exec env (.call op k) s (others es ++ .own t op r :: tr) out v

variable {exec : σ → (op : Op) → Except ε (Resp op) → σ → Prop} {env : σ → η → σ → Prop}
  {x : Script Op Resp ε α} {s s' : σ} {tr : List (Note σ Op Resp ε η)}

theorem among_ret {a : α} {out : Except ε α} (h : Among exec env (.ret a) s tr out s') :
    out = .ok a ∧ tr = [] ∧ s' = s := by
  cases h
  exact ⟨rfl, rfl, rfl⟩

theorem among_raise {e : ε} {out : Except ε α} (h : Among exec env (.raise e) s tr out s') :
    out = .error e ∧ tr = [] ∧ s' = s := by
  cases h
  exact ⟨rfl, rfl, rfl⟩

/-- Sequencing: the first script raised, and its exception is the end of the whole; or it
returned and the second one went on, from the state and behind the notes of the first. -/
theorem among_andThen {f : α → Script Op Resp ε β} {out : Except ε β}
    (h : Among exec env (x.andThen f) s tr out s') :
    (∃ e, out = .error e ∧ Among exec env x s tr (.error e) s') ∨
      ∃ a t tr₁ tr₂, tr = tr₁ ++ tr₂ ∧ Among exec env x s tr₁ (.ok a) t ∧
        Among exec env (f a) t tr₂ out s' := by
  induction x generalizing s tr with
  | ret a => exact .inr ⟨a, s, [], tr, rfl, .ret a s, h⟩
  | raise e =>
    obtain ⟨rfl, rfl, rfl⟩ := among_raise h
    exact .inl ⟨e, rfl, .raise e s'⟩
  | call op k ih =>
    cases h with
    | call henv hexec hrest =>
      rcases ih _ hrest with ⟨e, rfl, hx⟩ | ⟨a, t, tr₁, tr₂, rfl, hx, hf⟩
      · exact .inl ⟨e, rfl, .call henv hexec hx⟩
      · exact .inr ⟨a, t, _, tr₂, by simp, .call henv hexec hx, hf⟩

/-- A sequence that returned: both parts did. -/
theorem among_bind_ok {f : α → Script Op Resp ε β} {b : β}
    (h : Among exec env (x >>= f) s tr (.ok b) s') :
    ∃ a t tr₁ tr₂, tr = tr₁ ++ tr₂ ∧ Among exec env x s tr₁ (.ok a) t ∧
      Among exec env (f a) t tr₂ (.ok b) s' := by
  rcases among_andThen h with ⟨e, he, -⟩ | hok
  · cases he
  · exact hok

theorem among_pure_ok {a b : α} (h : Among exec env (pure a) s tr (.ok b) s') :
    b = a ∧ tr = [] ∧ s' = s := by
  obtain ⟨hout, htr, hs⟩ := among_ret h
  cases hout
  exact ⟨rfl, htr, hs⟩

theorem among_ofExcept_ok {r : Except ε α} {a : α}
    (h : Among exec env (.ofExcept r) s tr (.ok a) s') : r = .ok a ∧ tr = [] ∧ s' = s := by
  cases r with
  | ok b =>
    obtain ⟨hout, htr, hs⟩ := among_ret h
    exact ⟨hout.symm, htr, hs⟩
  | error e =>
    obtain ⟨hout, -, -⟩ := among_raise h
    cases hout

/-- One operation that returned, after some steps of the surroundings: the only entry of the
script itself among the notes is this operation. -/
theorem among_perform_ok {op : Op} {a : Resp op}
    (h : Among exec env (.perform op) s tr (.ok a) s') :
    ∃ es t, tr = others es ++ [.own t op (.ok a)] ∧ Run env s es t ∧ exec t op (.ok a) s' := by
  cases h with
  | @call _ _ _ _ _ _ _ r _ _ henv hexec hrest =>
    cases r with
    | ok b =>
      obtain ⟨hout, rfl, rfl⟩ := among_ret hrest
      cases hout
      exact ⟨_, _, rfl, henv, hexec⟩
    | error e =>
      obtain ⟨hout, -, -⟩ := among_raise hrest
      cases hout

theorem among_attempt {out : Except ε (Except ε α)} (h : Among exec env x.attempt s tr out s') :
    ∃ r, out = .ok r ∧ Among exec env x s tr r s' := by
  induction x generalizing s tr with
  | ret a =>
    obtain ⟨rfl, rfl, rfl⟩ := among_ret h
    exact ⟨_, rfl, .ret a s'⟩
  | raise e =>
    obtain ⟨rfl, rfl, rfl⟩ := among_ret h
    exact ⟨_, rfl, .raise e s'⟩
  | call op k ih =>
    cases h with
    | call henv hexec hrest =>
      obtain ⟨r, rfl, hx⟩ := ih _ hrest
      exact ⟨r, rfl, .call henv hexec hx⟩

/-- `try … finally` that returned: the block returned, and then the cleanup did, which may itself
have run among others. -/
theorem among_always_ok {cleanup : Script Op Resp ε Unit} {a : α}
    (h : Among exec env (x.always cleanup) s tr (.ok a) s') :
    ∃ t tr₁ tr₂, tr = tr₁ ++ tr₂ ∧ Among exec env x s tr₁ (.ok a) t ∧
      Among exec env cleanup t tr₂ (.ok ()) s' := by
  obtain ⟨r, t, tr₁, tr₂, rfl, hx, hrest⟩ := among_bind_ok h
  obtain ⟨r', hr, hx⟩ := among_attempt hx
  cases hr
  obtain ⟨⟨⟩, u, tr₃, tr₄, rfl, hcleanup, hout⟩ := among_bind_ok hrest
  obtain ⟨rfl, rfl, rfl⟩ := among_ofExcept_ok hout
  exact ⟨t, tr₁, tr₃, by simp, hx, hcleanup⟩

end Among

end CommercePlatform.Lib
