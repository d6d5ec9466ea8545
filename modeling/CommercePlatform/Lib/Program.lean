import Mathlib.Logic.Basic
/-!
# Programs struck by at most one failure

A program reads and changes a state, raises or returns, and may be struck by a failure
it did not cause: a lost connection, a refused request. The *plan* says which operation
is struck: `some (n, fault)` is the operation after `n` more, `none` is a run without
failure. Once the failure has struck the plan is spent, so no run is struck twice; what
a handler then does is the code's own answer to it.

A struck operation raises. Whether its effect took place first is part of the failure
(`applied`): a request can be lost on its way or on the way back.

`Sat x s p Q E` says what a run of `x` ends in: `Q` when it returns, `E` when it raises.
`Ends` is the same under every plan, which is the form of a statement about a function:
whatever strikes it, and wherever. The rules below follow the program, one for
sequencing, one for an operation, one for each kind of handler, so a proof about a
function reads like the function (`Ends.bind`, `ends_op`, `Ends.onError`,
`ends_forEach`).

What an operation itself may raise, a refused rename or a condition it checks, is in its
own meaning and needs no plan. The plan is for the rest: that *any* operation of the
program may fail at *any* point.
-/

namespace CommercePlatform.Lib

/-- A failure from outside: what is raised, and whether the effect of the struck operation took
place before it was raised. -/
structure Fault (ε : Type) where
  error : ε
  applied : Bool

/-- Which operation is struck, counted from here: `some (n, fault)` after `n` more of them. -/
abbrev Plan (ε : Type) := Option (Nat × Fault ε)

/-- A program over the state `σ` that returns an `α` or raises an `ε`. -/
def Prog (σ ε α : Type) : Type := σ → Plan ε → Except ε α × σ × Plan ε

namespace Prog

variable {σ ε α β : Type}

/-- Return. -/
def ret (a : α) : Prog σ ε α := fun s p => (.ok a, s, p)

/-- Sequencing: a raise ends the program. -/
def andThen (x : Prog σ ε α) (f : α → Prog σ ε β) : Prog σ ε β := fun s p =>
  match x s p with
  | (.ok a, s', p') => f a s' p'
  | (.error e, s', p') => (.error e, s', p')

instance : Monad (Prog σ ε) where
  pure := ret
  bind := andThen

/-- `raise e`. -/
def raise (e : ε) : Prog σ ε α := fun s p => (.error e, s, p)

/-- An operation no failure strikes. -/
def exec (f : σ → Except ε α × σ) : Prog σ ε α := fun s p => ((f s).1, (f s).2, p)

/-- An operation the plan may strike: unstruck it does what it does; struck it raises, with its
effect or without. -/
def op (f : σ → Except ε α × σ) : Prog σ ε α := fun s p =>
  match p with
  | none => ((f s).1, (f s).2, none)
  | some (n + 1, fault) => ((f s).1, (f s).2, some (n, fault))
  | some (0, fault) => (.error fault.error, if fault.applied then (f s).2 else s, none)

/-- `try: x` / `except Exception as e: handler(e); raise`. An exception of the handler itself
takes the place of the one it handles. -/
def onError (x : Prog σ ε α) (handler : ε → Prog σ ε Unit) : Prog σ ε α := fun s p =>
  match x s p with
  | (.ok a, s', p') => (.ok a, s', p')
  | (.error e, s', p') => andThen (handler e) (fun _ => raise e) s' p'

/-- `try: x` / `finally: cleanup`. An exception of the cleanup takes the place of what `x`
returned or raised. -/
def always (x : Prog σ ε α) (cleanup : Prog σ ε Unit) : Prog σ ε α := fun s p =>
  match x s p with
  | (.ok a, s', p') => andThen cleanup (fun _ => ret a) s' p'
  | (.error e, s', p') => andThen cleanup (fun _ => raise e) s' p'

/-- `for a in as: f(a)`. -/
def forEach (as : List α) (f : α → Prog σ ε Unit) : Prog σ ε Unit :=
  match as with
  | [] => ret ()
  | a :: as => andThen (f a) fun _ => forEach as f

/-! ## What a run ends in -/

/-- The outcome of an operation: `Q` when it returned, `E` when it raised. -/
def Post (Q : α → σ → Prop) (E : ε → σ → Prop) : Except ε α × σ → Prop
  | (.ok a, s) => Q a s
  | (.error e, s) => E e s

/-- A state that is good either way. -/
theorem post_of_both {Q : α → σ → Prop} {E : ε → σ → Prop} {r : Except ε α} {s : σ}
    (hQ : ∀ a, Q a s) (hE : ∀ e, E e s) : Post Q E (r, s) := by
  cases r with
  | ok a => exact hQ a
  | error e => exact hE e

/-- A run of `x` from `s` under the plan `p` returns in `Q` or raises in `E`, each with the plan
that is left. -/
def Sat (x : Prog σ ε α) (s : σ) (p : Plan ε) (Q : α → σ → Plan ε → Prop)
    (E : ε → σ → Plan ε → Prop) : Prop :=
  match x s p with
  | (.ok a, s', p') => Q a s' p'
  | (.error e, s', p') => E e s' p'

variable {x : Prog σ ε α} {s : σ} {p : Plan ε} {Q Q' : α → σ → Plan ε → Prop}
  {E E' : ε → σ → Plan ε → Prop}

/-- The rule of consequence. -/
theorem Sat.imp (h : Sat x s p Q E) (hQ : ∀ a s' p', Q a s' p' → Q' a s' p')
    (hE : ∀ e s' p', E e s' p' → E' e s' p') : Sat x s p Q' E' := by
  unfold Sat at h ⊢
  split at h
  · exact hQ _ _ _ h
  · exact hE _ _ _ h

theorem sat_bind {f : α → Prog σ ε β} {R : β → σ → Plan ε → Prop} :
    Sat (x >>= f) s p R E ↔ Sat x s p (fun a s' p' => Sat (f a) s' p' R E) E := by
  show Sat (andThen x f) s p R E ↔ _
  unfold Sat andThen
  cases hx : x s p with
  | mk r rest =>
    cases r with
    | ok a => rfl
    | error e => rfl

theorem sat_exec {f : σ → Except ε α × σ} :
    Sat (exec f) s p Q E ↔ Post (fun a s' => Q a s' p) (fun e s' => E e s' p) (f s) := by
  unfold Sat exec
  cases hf : f s with
  | mk r s' => cases r <;> rfl

/-- An operation: what it does when it is not struck, and what the failure leaves where it is
struck before its effect and where it is struck after it. -/
theorem sat_op {f : σ → Except ε α × σ}
    (hrun : ∀ p', Post (fun a s' => Q a s' p') (fun e s' => E e s' p') (f s))
    (hbefore : ∀ e, E e s none) (hafter : ∀ e, E e (f s).2 none) : Sat (op f) s p Q E := by
  have hexec : ∀ p', Sat (exec f) s p' Q E := fun p' => sat_exec.2 (hrun p')
  cases p with
  | none => exact hexec none
  | some planned =>
    obtain ⟨n, fault⟩ := planned
    cases n with
    | succ n => exact hexec (some (n, fault))
    | zero =>
      show E fault.error (if fault.applied then (f s).2 else s) none
      split
      · exact hafter _
      · exact hbefore _

theorem sat_onError {handler : ε → Prog σ ε Unit} :
    Sat (onError x handler) s p Q E ↔
      Sat x s p Q fun e s' p' => Sat (handler e) s' p' (fun _ => E e) E := by
  unfold Sat onError
  cases hx : x s p with
  | mk r rest =>
    cases r with
    | ok a => rfl
    | error e =>
      show Sat (handler e >>= fun _ => (raise e : Prog σ ε α)) rest.1 rest.2 Q E ↔ _
      rw [sat_bind]
      rfl

/-- Under every plan a run of `x` from `s` returns in `Q` or raises in `E`: what holds wherever
the failure strikes. -/
def Ends (x : Prog σ ε α) (s : σ) (Q : α → σ → Prop) (E : ε → σ → Prop) : Prop :=
  ∀ p, Sat x s p (fun a s _ => Q a s) (fun e s _ => E e s)

section Ends

variable {Q Q' : α → σ → Prop} {E E' : ε → σ → Prop}

theorem Ends.imp (h : Ends x s Q E) (hQ : ∀ a s', Q a s' → Q' a s')
    (hE : ∀ e s', E e s' → E' e s') : Ends x s Q' E' :=
  fun p => (h p).imp (fun a s' _ => hQ a s') fun e s' _ => hE e s'

theorem ends_pure {a : α} (h : Q a s) : Ends (pure a : Prog σ ε α) s Q E := fun _ => h

theorem ends_raise {e : ε} (h : E e s) : Ends (raise e : Prog σ ε α) s Q E := fun _ => h

/-- The rule of composition, with what holds in between. -/
theorem Ends.bind {f : α → Prog σ ε β} {R : β → σ → Prop} (h : Ends x s Q E)
    (hf : ∀ a s', Q a s' → Ends (f a) s' R E) : Ends (x >>= f) s R E := by
  intro p
  rw [sat_bind]
  exact (h p).imp (fun a s' p' hQ => hf a s' hQ p') fun _ _ _ hE => hE

theorem ends_exec {f : σ → Except ε α × σ} (h : Post Q E (f s)) : Ends (exec f) s Q E :=
  fun _ => sat_exec.2 h

theorem ends_op {f : σ → Except ε α × σ} (hrun : Post Q E (f s)) (hbefore : ∀ e, E e s)
    (hafter : ∀ e, E e (f s).2) : Ends (op f) s Q E :=
  fun _ => sat_op (fun _ => hrun) hbefore hafter

/-- What holds at every end holds at the end. -/
theorem Ends.final {P : σ → Prop} (h : Ends x s (fun _ => P) (fun _ => P)) (p : Plan ε) :
    P (x s p).2.1 := by
  have hp := h p
  unfold Sat at hp
  split at hp
  next heq => rw [heq]; exact hp
  next heq => rw [heq]; exact hp

/-- A handler that does not raise turns what holds at the raise into what holds after it. -/
theorem Ends.onError {handler : ε → Prog σ ε Unit} {F : ε → σ → Prop} (h : Ends x s Q F)
    (hhandler : ∀ e s', F e s' → Ends (handler e) s' (fun _ => E e) E) :
    Ends (onError x handler) s Q E := by
  intro p
  rw [sat_onError]
  exact (h p).imp (fun _ _ _ hQ => hQ) fun e s' p' hE => hhandler e s' hE p'

/-- A loop keeps what each of its rounds keeps. -/
theorem ends_forEach {as : List α} {f : α → Prog σ ε Unit} {I : σ → Prop} (hI : I s)
    (hf : ∀ a ∈ as, ∀ s, I s → Ends (f a) s (fun _ => I) E) :
    Ends (forEach as f) s (fun _ => I) E := by
  induction as generalizing s with
  | nil => exact ends_pure hI
  | cons a as ih =>
    show Ends (f a >>= fun _ => forEach as f) s (fun _ => I) E
    refine (hf a List.mem_cons_self s hI).bind fun _ s' hI' => ?_
    exact ih hI' fun b hb => hf b (List.mem_cons_of_mem _ hb)

end Ends

end Prog

end CommercePlatform.Lib
