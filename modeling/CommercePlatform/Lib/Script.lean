import CommercePlatform.Lib.Machine
import Mathlib.Logic.Function.Basic
/-!
# Scripts and pools of scripts

A script is a program before it runs: it returns, raises, or calls an operation and goes
on with what comes back, a value or an exception. It gives its operations no meaning. A
pool runs any number of scripts over one state, one operation of one script at a time,
so every interleaving of them is a run of the pool.

What a process knows of the state while the others move is the *knowledge* `κ` of a
`Protocol`: which operations it may call, and what it knows after an answer. `Follows`
says that a script keeps to a protocol whatever the answers are. It is checked once,
along the text of the script (`follows_bind`, `follows_attempt`, `follows_perform`), and
there is no state in it: the knowledge is what a program can infer from its answers.

`Pool.traced` turns this into an invariant of the pool. The state and the knowledge of
all processes satisfy `I` in every run when each operation a process may call, with what
it then knows, keeps `I`; the scripts are not looked at again. So a proof about
concurrent programs comes in two halves that do not mix: the programs against the
protocol, sequentially, and the protocol against the state, one operation at a time.

A process may die between any two operations (`crash`), which is a step like any other.
An operation that raises is an answer, so handlers are part of the script; whether its
effect took place is for the meaning of the operation to say.

`Script.Runs` is the other way to run a script: alone, with a list of what raised on the
way. It is used where a statement is about one call and its failures
(`Script.Runs.ends`).
-/

namespace CommercePlatform.Lib

/-- A program that returns an `α`, raises an `ε`, or calls an operation and goes on with its
answer, a value or an exception. -/
inductive Script (Op : Type) (Resp : Op → Type) (ε α : Type) where
  | ret (a : α)
  | raise (e : ε)
  | call (op : Op) (k : Except ε (Resp op) → Script Op Resp ε α)

namespace Script

variable {Op : Type} {Resp : Op → Type} {ε α β : Type}

/-- Sequencing: a raise ends the script. -/
def andThen : Script Op Resp ε α → (α → Script Op Resp ε β) → Script Op Resp ε β
  | ret a, f => f a
  | raise e, _ => raise e
  | call op k, f => call op fun r => andThen (k r) f

instance : Monad (Script Op Resp ε) where
  pure := ret
  bind := andThen

/-- Call an operation; an exception it answers is raised. -/
def perform (op : Op) : Script Op Resp ε (Resp op) :=
  call op fun
    | .ok a => ret a
    | .error e => raise e

/-- A computation without operations. -/
def ofExcept : Except ε α → Script Op Resp ε α
  | .ok a => ret a
  | .error e => raise e

/-- `try: x` with the outcome as a value. -/
def attempt : Script Op Resp ε α → Script Op Resp ε (Except ε α)
  | ret a => ret (.ok a)
  | raise e => ret (.error e)
  | call op k => call op fun r => attempt (k r)

/-- `with suppress(Exception): x`. -/
def suppress (x : Script Op Resp ε α) : Script Op Resp ε Unit :=
  andThen x.attempt fun _ => ret ()

/-- `try: x` / `except Exception as e: handler(e); raise`. -/
def onError (x : Script Op Resp ε α) (handler : ε → Script Op Resp ε Unit) :
    Script Op Resp ε α :=
  andThen x.attempt fun
    | .ok a => ret a
    | .error e => andThen (handler e) fun _ => raise e

/-- `try: x` / `finally: cleanup`. -/
def always (x : Script Op Resp ε α) (cleanup : Script Op Resp ε Unit) : Script Op Resp ε α :=
  andThen x.attempt fun r => andThen cleanup fun _ => ofExcept r

end Script

/-! ## Protocols -/

/-- What a process that knows `q` may call, and what it knows after an answer. The relation
`next` may leave several possibilities; all of them have to be good. -/
structure Protocol (Op : Type) (Resp : Op → Type) (ε κ : Type) where
  allowed : κ → Op → Prop
  next : κ → (op : Op) → Except ε (Resp op) → κ → Prop

section Follows

variable {Op : Type} {Resp : Op → Type} {ε α β κ : Type}

/-- Started with the knowledge `q`, the script calls only what it may; it returns in `Q` or
raises in `E`, whatever the operations answer. -/
def Follows (P : Protocol Op Resp ε κ) (Q : α → κ → Prop) (E : ε → κ → Prop) :
    κ → Script Op Resp ε α → Prop
  | q, .ret a => Q a q
  | q, .raise e => E e q
  | q, .call op k => P.allowed q op ∧ ∀ r q', P.next q op r q' → Follows P Q E q' (k r)

variable {P : Protocol Op Resp ε κ} {Q Q' : α → κ → Prop} {E E' : ε → κ → Prop} {q : κ}
  {x : Script Op Resp ε α}

/-- The rule of consequence. -/
theorem Follows.imp (h : Follows P Q E q x) (hQ : ∀ a q, Q a q → Q' a q)
    (hE : ∀ e q, E e q → E' e q) : Follows P Q' E' q x := by
  induction x generalizing q with
  | ret a => exact hQ _ _ h
  | raise e => exact hE _ _ h
  | call op k ih => exact ⟨h.1, fun r q' hnext => ih r (h.2 r q' hnext)⟩

theorem follows_pure {a : α} : Follows P Q E q (pure a) ↔ Q a q := Iff.rfl

/-- Sequencing: the second script starts where the first one returned. -/
theorem follows_andThen {Q : β → κ → Prop} {f : α → Script Op Resp ε β} :
    Follows P Q E q (x.andThen f) ↔ Follows P (fun a q' => Follows P Q E q' (f a)) E q x := by
  induction x generalizing q with
  | ret a => exact Iff.rfl
  | raise e => exact Iff.rfl
  | call op k ih =>
    show _ ∧ _ ↔ _ ∧ _
    simp only [ih]

theorem follows_bind {Q : β → κ → Prop} {f : α → Script Op Resp ε β} :
    Follows P Q E q (x >>= f) ↔ Follows P (fun a q' => Follows P Q E q' (f a)) E q x :=
  follows_andThen

theorem follows_attempt {Q : Except ε α → κ → Prop} :
    Follows P Q E q x.attempt ↔
      Follows P (fun a q' => Q (.ok a) q') (fun e q' => Q (.error e) q') q x := by
  induction x generalizing q with
  | ret a => exact Iff.rfl
  | raise e => exact Iff.rfl
  | call op k ih =>
    show _ ∧ _ ↔ _ ∧ _
    simp only [ih]

/-- One operation: it may be called, and every answer is as it should be. -/
theorem follows_perform {op : Op} {Q : Resp op → κ → Prop} :
    Follows P Q E q (.perform op) ↔ P.allowed q op ∧
      (∀ a q', P.next q op (.ok a) q' → Q a q') ∧ ∀ e q', P.next q op (.error e) q' → E e q' := by
  refine and_congr_right fun _ => ?_
  constructor
  · intro h
    exact ⟨fun a q' => h (.ok a) q', fun e q' => h (.error e) q'⟩
  · rintro ⟨hok, herror⟩ r q'
    cases r with
    | ok a => exact hok a q'
    | error e => exact herror e q'

theorem follows_ofExcept {r : Except ε α} :
    Follows P Q E q (.ofExcept r) ↔ (∀ a, r = .ok a → Q a q) ∧ ∀ e, r = .error e → E e q := by
  cases r with
  | ok a =>
    refine ⟨fun h => ⟨fun b hb => ?_, fun e he => ?_⟩, fun h => h.1 a rfl⟩
    · cases hb
      exact h
    · cases he
  | error e =>
    refine ⟨fun h => ⟨fun a ha => ?_, fun e' he => ?_⟩, fun h => h.2 e rfl⟩
    · cases ha
    · cases he
      exact h

theorem follows_suppress {Q : Unit → κ → Prop} :
    Follows P Q E q x.suppress ↔ Follows P (fun _ => Q ()) (fun _ => Q ()) q x := by
  unfold Script.suppress
  rw [follows_andThen, follows_attempt]
  exact Iff.rfl

theorem follows_onError {handler : ε → Script Op Resp ε Unit} :
    Follows P Q E q (x.onError handler) ↔
      Follows P Q (fun e q' => Follows P (fun _ => E e) E q' (handler e)) q x := by
  unfold Script.onError
  rw [follows_andThen, follows_attempt]
  simp only [follows_andThen]
  exact Iff.rfl

theorem follows_always {cleanup : Script Op Resp ε Unit} :
    Follows P Q E q (x.always cleanup) ↔
      Follows P (fun a q' => Follows P (fun _ => Q a) E q' cleanup)
        (fun e q' => Follows P (fun _ => E e) E q' cleanup) q x := by
  unfold Script.always
  rw [follows_andThen, follows_attempt]
  simp only [follows_andThen]
  exact Iff.rfl

end Follows

section Calls

variable {Op : Type} {Resp : Op → Type} {ε α β κ : Type}

/-- Every operation the script may come to satisfies `S`: a protocol without knowledge. -/
def Script.Calls (S : Op → Prop) : Script Op Resp ε α → Prop
  | .ret _ => True
  | .raise _ => True
  | .call op k => S op ∧ ∀ r, Script.Calls S (k r)

variable {S : Op → Prop} {x : Script Op Resp ε α}

theorem calls_andThen {f : α → Script Op Resp ε β} (hx : x.Calls S) (hf : ∀ a, (f a).Calls S) :
    (x.andThen f).Calls S := by
  induction x with
  | ret a => exact hf a
  | raise e => trivial
  | call op k ih => exact ⟨hx.1, fun r => ih r (hx.2 r)⟩

theorem calls_bind {f : α → Script Op Resp ε β} (hx : x.Calls S) (hf : ∀ a, (f a).Calls S) :
    (x >>= f).Calls S := calls_andThen hx hf

theorem calls_attempt (hx : x.Calls S) : x.attempt.Calls S := by
  induction x with
  | ret a => trivial
  | raise e => trivial
  | call op k ih => exact ⟨hx.1, fun r => ih r (hx.2 r)⟩

theorem calls_perform {op : Op} (h : S op) :
    (Script.perform op : Script Op Resp ε (Resp op)).Calls S :=
  ⟨h, fun r => by cases r <;> trivial⟩

theorem calls_ofExcept (r : Except ε α) :
    (Script.ofExcept r : Script Op Resp ε α).Calls S := by
  cases r <;> trivial

theorem calls_suppress (hx : x.Calls S) : x.suppress.Calls S :=
  calls_andThen (calls_attempt hx) fun _ => trivial

theorem calls_onError {handler : ε → Script Op Resp ε Unit} (hx : x.Calls S)
    (hh : ∀ e, (handler e).Calls S) : (x.onError handler).Calls S := by
  refine calls_andThen (calls_attempt hx) fun r => ?_
  cases r with
  | ok a => trivial
  | error e => exact calls_andThen (hh e) fun _ => trivial

theorem calls_always {cleanup : Script Op Resp ε Unit} (hx : x.Calls S)
    (hc : cleanup.Calls S) : (x.always cleanup).Calls S :=
  calls_andThen (calls_attempt hx) fun r => calls_andThen hc fun _ => calls_ofExcept r

theorem Script.Calls.imp {S' : Op → Prop} (hx : x.Calls S) (h : ∀ op, S op → S' op) :
    x.Calls S' := by
  induction x with
  | ret a => trivial
  | raise e => trivial
  | call op k ih => exact ⟨h op hx.1, fun r => ih r (hx.2 r)⟩

/-- A script whose operations all keep `I` follows the protocol and ends in `I`. -/
theorem Script.Calls.keeps {P : Protocol Op Resp ε κ} {I : κ → Prop} (hx : x.Calls S)
    (hallowed : ∀ op q, S op → I q → P.allowed q op)
    (hnext : ∀ op q r q', S op → I q → P.next q op r q' → I q') {q : κ} (hq : I q) :
    Follows P (fun _ => I) (fun _ => I) q x := by
  induction x generalizing q with
  | ret a => exact hq
  | raise e => exact hq
  | call op k ih =>
    exact ⟨hallowed op q hx.1 hq, fun r q' hq' => ih r (hx.2 r) (hnext op q r q' hx.1 hq hq')⟩

/-- A script whose operations all leave the knowledge `q` as it is follows the protocol. -/
theorem Script.Calls.follows {P : Protocol Op Resp ε κ} {q : κ} (hx : x.Calls S)
    (hallowed : ∀ op, S op → P.allowed q op)
    (hnext : ∀ op r q', S op → P.next q op r q' → q' = q) :
    Follows P (fun _ q' => q' = q) (fun _ q' => q' = q) q x :=
  hx.keeps (I := (· = q)) (fun op _ hop hq => hq ▸ hallowed op hop)
    (fun op _ r q' hop hq hnext' => hnext op r q' hop (hq ▸ hnext')) rfl

end Calls

section Runs

variable {σ Op : Type} {Resp : Op → Type} {ε α β : Type}

/-- Note an operation that raised. -/
def noteRaised (op : Op) : Except ε (Resp op) → List Op → List Op
  | .ok _, raised => raised
  | .error _, raised => raised ++ [op]

/-- `x.Runs exec s raised out s' raised'`: started in `s`, the script may end in `s'` with the
outcome `out`; the operations that raised on the way are added to `raised`. -/
inductive Script.Runs (exec : σ → (op : Op) → Except ε (Resp op) → σ → Prop) :
    Script Op Resp ε α → σ → List Op → Except ε α → σ → List Op → Prop where
  | ret (a : α) (s : σ) (raised : List Op) : Runs exec (.ret a) s raised (.ok a) s raised
  | raise (e : ε) (s : σ) (raised : List Op) : Runs exec (.raise e) s raised (.error e) s raised
  | call {op : Op} {k : Except ε (Resp op) → Script Op Resp ε α} {s s' s'' : σ}
      {raised raised' : List Op} {r : Except ε (Resp op)} {out : Except ε α}
      (hexec : exec s op r s') (hrest : Runs exec (k r) s' (noteRaised op r raised) out s'' raised') :
      Runs exec (.call op k) s raised out s'' raised'

/-- The protocol in which a process knows the state and what raised so far. -/
def runProtocol (exec : σ → (op : Op) → Except ε (Resp op) → σ → Prop) :
    Protocol Op Resp ε (σ × List Op) where
  allowed := fun _ _ => True
  next := fun q op r q' => exec q.1 op r q'.1 ∧ q'.2 = noteRaised op r q.2

/-- What follows the text of a script holds at the end of its runs. -/
theorem Script.Runs.ends {exec : σ → (op : Op) → Except ε (Resp op) → σ → Prop}
    {x : Script Op Resp ε α} {s s' : σ} {raised raised' : List Op} {out : Except ε α}
    {Q : α → σ × List Op → Prop} {E : ε → σ × List Op → Prop}
    (h : x.Runs exec s raised out s' raised')
    (hfollows : Follows (runProtocol exec) Q E (s, raised) x) :
    (∀ a, out = .ok a → Q a (s', raised')) ∧ ∀ e, out = .error e → E e (s', raised') := by
  induction h with
  | ret a s raised =>
    refine ⟨fun b hb => ?_, fun e he => by cases he⟩
    cases hb
    exact hfollows
  | raise e s raised =>
    refine ⟨fun a ha => (by cases ha), fun e' he => ?_⟩
    cases he
    exact hfollows
  | call hexec hrest ih => exact ih (hfollows.2 _ _ ⟨hexec, rfl⟩)

/-- Run a script on its own with the operation at this position refused with `e`. -/
def Script.evalFault (run : (op : Op) → σ → Except ε (Resp op) × σ) (e : ε) :
    Script Op Resp ε α → Option Nat → σ → List Op → Except ε α × σ × List Op
  | .ret a, _, s, raised => (.ok a, s, raised)
  | .raise e', _, s, raised => (.error e', s, raised)
  | .call op k, some 0, s, raised => evalFault run e (k (.error e)) none s (raised ++ [op])
  | .call op k, some (n + 1), s, raised =>
    evalFault run e (k (run op s).1) (some n) (run op s).2 (noteRaised op (run op s).1 raised)
  | .call op k, none, s, raised =>
    evalFault run e (k (run op s).1) none (run op s).2 (noteRaised op (run op s).1 raised)

/-- Running with a refused operation is a run where operations may be done or refused. -/
theorem Script.runs_evalFault {exec : σ → (op : Op) → Except ε (Resp op) → σ → Prop}
    {run : (op : Op) → σ → Except ε (Resp op) × σ} {e : ε}
    (hdone : ∀ op s, exec s op (run op s).1 (run op s).2)
    (hrefused : ∀ op s, exec s op (.error e) s) (x : Script Op Resp ε α) (fault : Option Nat)
    (s : σ) (raised : List Op) :
    x.Runs exec s raised (x.evalFault run e fault s raised).1
      (x.evalFault run e fault s raised).2.1 (x.evalFault run e fault s raised).2.2 := by
  induction x generalizing fault s raised with
  | ret a => exact .ret a s raised
  | raise e' => exact .raise e' s raised
  | call op k ih =>
    match fault with
    | some 0 => exact .call (hrefused op s) (ih _ none s (raised ++ [op]))
    | some (n + 1) => exact .call (hdone op s) (ih _ (some n) _ _)
    | none => exact .call (hdone op s) (ih _ none _ _)

end Runs

/-! ## Pools -/

/-- A shared state and the scripts of the processes. -/
structure Pool (σ Op : Type) (Resp : Op → Type) (ε α : Type) where
  state : σ
  scripts : Nat → Option (Script Op Resp ε α)

/-- What may happen in a pool. -/
inductive PoolAct (Op : Type) (Resp : Op → Type) (ε τ η : Type) where
  /-- A new process begins a task. -/
  | start (p : Nat) (task : τ)
  /-- A process calls an operation and gets an answer. -/
  | call (p : Nat) (op : Op) (r : Except ε (Resp op))
  /-- A process is gone. -/
  | crash (p : Nat)
  /-- Something else happens. -/
  | other (e : η)

/-- The meaning of the operations and of everything else. -/
structure Semantics (σ Op : Type) (Resp : Op → Type) (ε α τ η : Type) where
  script : τ → Script Op Resp ε α
  /-- The tasks a new process may begin. -/
  starts : Nat → σ → τ → Prop
  exec : Nat → σ → (op : Op) → Except ε (Resp op) → σ → Prop
  crash : Nat → σ → σ
  other : σ → η → σ → Prop

section Pool

variable {σ Op : Type} {Resp : Op → Type} {ε α τ η κ : Type}

/-- Set the script of one process. -/
def Pool.set (pool : Pool σ Op Resp ε α) (p : Nat) (s : Option (Script Op Resp ε α))
    (state : σ) : Pool σ Op Resp ε α :=
  ⟨state, Function.update pool.scripts p s⟩

/-- One step of the pool. -/
inductive PoolStep (M : Semantics σ Op Resp ε α τ η) :
    Pool σ Op Resp ε α → PoolAct Op Resp ε τ η → Pool σ Op Resp ε α → Prop where
  | start {pool : Pool σ Op Resp ε α} (p : Nat) (task : τ)
      (hfree : pool.scripts p = none) (hstart : M.starts p pool.state task) :
      PoolStep M pool (.start p task) (pool.set p (some (M.script task)) pool.state)
  | call {pool : Pool σ Op Resp ε α} (p : Nat) (op : Op)
      (k : Except ε (Resp op) → Script Op Resp ε α) (r : Except ε (Resp op)) (state : σ)
      (hscript : pool.scripts p = some (.call op k)) (hexec : M.exec p pool.state op r state) :
      PoolStep M pool (.call p op r) (pool.set p (some (k r)) state)
  | crash {pool : Pool σ Op Resp ε α} (p : Nat) :
      PoolStep M pool (.crash p) (pool.set p none (M.crash p pool.state))
  | other {pool : Pool σ Op Resp ε α} (e : η) (state : σ) (hother : M.other pool.state e state) :
      PoolStep M pool (.other e) { pool with state := state }

/-- Every process follows the protocol from what it knows. -/
def Pool.Tracked (P : Protocol Op Resp ε κ) (Q : α → κ → Prop) (E : ε → κ → Prop)
    (pool : Pool σ Op Resp ε α) (knows : Nat → Option κ) : Prop :=
  ∀ p s, pool.scripts p = some s → ∃ q, knows p = some q ∧ Follows P Q E q s

/-- What every kind of step must keep: `I` of the actions so far, the state and what the
processes know. There is one field for each kind of step of a pool. -/
structure Keeps (M : Semantics σ Op Resp ε α τ η) (P : Protocol Op Resp ε κ)
    (Q : α → κ → Prop) (E : ε → κ → Prop)
    (I : List (PoolAct Op Resp ε τ η) → σ → (Nat → Option κ) → Prop) : Prop where
  start : ∀ as state knows p task, I as state knows → M.starts p state task →
    ∃ q, Follows P Q E q (M.script task) ∧
      I (as ++ [.start p task]) state (Function.update knows p (some q))
  call : ∀ as state knows p q op r state', I as state knows → knows p = some q →
    P.allowed q op → M.exec p state op r state' →
    ∃ q', P.next q op r q' ∧
      I (as ++ [.call p op r]) state' (Function.update knows p (some q'))
  crash : ∀ as state knows p, I as state knows →
    I (as ++ [.crash p]) (M.crash p state) (Function.update knows p none)
  other : ∀ as state knows e state', I as state knows → M.other state e state' →
    I (as ++ [.other e]) state' knows

variable {M : Semantics σ Op Resp ε α τ η} {P : Protocol Op Resp ε κ} {Q : α → κ → Prop}
  {E : ε → κ → Prop} {I : List (PoolAct Op Resp ε τ η) → σ → (Nat → Option κ) → Prop}
  {pool pool' : Pool σ Op Resp ε α}

theorem Pool.set_scripts_self (p : Nat) (s : Option (Script Op Resp ε α)) (state : σ) :
    (pool.set p s state).scripts p = s := Function.update_self ..

theorem Pool.set_scripts_ne {p p' : Nat} (h : p' ≠ p) (s : Option (Script Op Resp ε α))
    (state : σ) : (pool.set p s state).scripts p' = pool.scripts p' :=
  Function.update_of_ne h ..

/-- The process at `p` runs `s` and knows `q`; the others are as they were. -/
theorem Pool.Tracked.set {knows : Nat → Option κ} (h : pool.Tracked P Q E knows) {p : Nat}
    {s : Script Op Resp ε α} {q : κ} (hs : Follows P Q E q s) (state : σ) :
    (pool.set p (some s) state).Tracked P Q E (Function.update knows p (some q)) := by
  intro p' s' hp'
  by_cases hp : p' = p
  · subst hp
    rw [Pool.set_scripts_self] at hp'
    cases hp'
    exact ⟨q, Function.update_self .., hs⟩
  · rw [Pool.set_scripts_ne hp] at hp'
    obtain ⟨q', hq', hs'⟩ := h p' s' hp'
    exact ⟨q', by rw [Function.update_of_ne hp, hq'], hs'⟩

theorem Pool.set_set (p : Nat) (s s' : Option (Script Op Resp ε α)) (state state' : σ) :
    (pool.set p s state).set p s' state' = pool.set p s' state' := by
  unfold Pool.set
  rw [Function.update_idem]

/-- Nothing happened to a process that is where it was. -/
theorem Pool.run_nil {p : Nat} {x : Script Op Resp ε α} (hx : pool.scripts p = some x) :
    Run (PoolStep M) pool [] (pool.set p (some x) pool.state) := by
  have hsame : pool.set p (some x) pool.state = pool := by
    unfold Pool.set
    rw [← hx, Function.update_eq_self]
  rw [hsame]
  exact Run.nil

/-- A script after `n` operations of its own, and the state they leave. -/
def Script.steps (run : (op : Op) → σ → Except ε (Resp op) × σ) :
    Nat → Script Op Resp ε α → σ → Script Op Resp ε α × σ
  | n + 1, .call op k, state => steps run n (k (run op state).1) (run op state).2
  | _, x, state => (x, state)

/-- A process may take its next `n` operations while the others wait. -/
theorem Pool.runs_steps {run : (op : Op) → σ → Except ε (Resp op) × σ} {p : Nat}
    (hexec : ∀ op s, M.exec p s op (run op s).1 (run op s).2) :
    ∀ (n : Nat) (x : Script Op Resp ε α) {pool : Pool σ Op Resp ε α},
      pool.scripts p = some x → ∃ as, Run (PoolStep M) pool as
        (pool.set p (some (x.steps run n pool.state).1) (x.steps run n pool.state).2) := by
  intro n
  induction n with
  | zero =>
    intro x pool hx
    exact ⟨[], Pool.run_nil hx⟩
  | succ n ih =>
    intro x pool hx
    cases x with
    | ret a => exact ⟨[], Pool.run_nil hx⟩
    | raise e => exact ⟨[], Pool.run_nil hx⟩
    | call op k =>
      have hstep := PoolStep.call (M := M) p op k _ _ hx (hexec op pool.state)
      have hnext : (pool.set p (some (k (run op pool.state).1)) (run op pool.state).2).scripts p =
          some (k (run op pool.state).1) := Pool.set_scripts_self ..
      obtain ⟨as, has⟩ := ih (k (run op pool.state).1) hnext
      refine ⟨_ :: as, Run.cons hstep ?_⟩
      rw [Pool.set_set] at has
      exact has

/-- The machine in which an operation is called only where `G` allows it, for statements about
the runs whose steps meet a condition. -/
def Semantics.guarded (M : Semantics σ Op Resp ε α τ η) (G : Nat → σ → Op → Prop) :
    Semantics σ Op Resp ε α τ η :=
  { M with exec := fun p s op r s' => G p s op ∧ M.exec p s op r s' }

/-- The condition `G` on a step of a pool. -/
def Guarded (G : Nat → σ → Op → Prop) : PoolAct Op Resp ε τ η → Pool σ Op Resp ε α → Prop
  | .call p op _, pool => G p pool.state op
  | _, _ => True

theorem PoolStep.guarded {G : Nat → σ → Op → Prop} {a : PoolAct Op Resp ε τ η}
    (h : PoolStep M pool a pool') (hG : Guarded G a pool) :
    PoolStep (M.guarded G) pool a pool' := by
  cases h with
  | start p task hfree hstart => exact .start p task hfree hstart
  | call p op k r state hscript hexec => exact .call p op k r state hscript ⟨hG, hexec⟩
  | crash p => exact .crash p
  | other e state hother => exact .other e state hother

/-- A run whose steps all meet the condition is a run of the guarded machine. -/
theorem Run.guarded {G : Nat → σ → Op → Prop} {as : List (PoolAct Op Resp ε τ η)}
    (h : Run (PoolStep M) pool as pool')
    (heach : EachStep (PoolStep M) (Guarded G) pool as pool') :
    Run (PoolStep (M.guarded G)) pool as pool' := by
  induction h with
  | nil => exact .nil
  | snoc hr hs ih =>
    refine (ih fun before a after u v has hu ha hv => ?_).snoc ?_
    · exact heach before a (after ++ [_]) u v (by simp [has]) hu ha (hv.snoc hs)
    · exact hs.guarded (heach _ _ [] _ _ rfl hr hs .nil)

/-- The invariant rule of pools: in every run from a pool whose scripts follow the protocol, `I`
holds of the actions, the state and what the processes know. -/
theorem Pool.traced {as : List (PoolAct Op Resp ε τ η)} (h : Run (PoolStep M) pool as pool')
    (hkeeps : Keeps M P Q E I)
    (h0 : ∃ knows, I [] pool.state knows ∧ pool.Tracked P Q E knows) :
    ∃ knows, I as pool'.state knows ∧ pool'.Tracked P Q E knows := by
  refine h.traced (P := fun as t => ∃ knows, I as t.state knows ∧ t.Tracked P Q E knows) h0 ?_
  rintro as a t u - ⟨knows, hI, htracked⟩ hstep
  cases hstep with
  | start p task hfree hstart =>
    obtain ⟨q, hs, hI'⟩ := hkeeps.start as _ knows p task hI hstart
    exact ⟨_, hI', htracked.set hs _⟩
  | call p op k r state hscript hexec =>
    obtain ⟨q, hq, hallowed, hk⟩ := htracked p _ hscript
    obtain ⟨q', hnext, hI'⟩ := hkeeps.call as _ knows p q op r state hI hq hallowed hexec
    exact ⟨_, hI', htracked.set (hk r q' hnext) _⟩
  | crash p =>
    refine ⟨_, hkeeps.crash as _ knows p hI, fun p' s' hp' => ?_⟩
    by_cases hp : p' = p
    · subst hp
      rw [Pool.set_scripts_self] at hp'
      cases hp'
    · rw [Pool.set_scripts_ne hp] at hp'
      obtain ⟨q', hq', hs'⟩ := htracked p' s' hp'
      exact ⟨q', by rw [Function.update_of_ne hp, hq'], hs'⟩
  | other e state hother =>
    exact ⟨knows, hkeeps.other as _ knows e state hI hother, fun p' s' hp' => htracked p' s' hp'⟩

end Pool

end CommercePlatform.Lib
