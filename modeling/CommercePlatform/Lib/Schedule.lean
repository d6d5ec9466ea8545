import CommercePlatform.Lib.Script
/-!
# Schedules

A run of a pool given by a list of moves: which process acts next, which operation
fails, what happens outside. A `Player` computes the pool after a schedule; what it
computes is a run of the machine (`playAll_eq_some`). Concrete runs, of witnesses and
counterexamples, are evaluated this way: the run is a list of turns one can read, and
the proof that it is a run is the evaluation of that list.

A turn is one move of the machine or several operations of one process in a row, since
most of a schedule is one process going on with its program. What the schedule leaves
open, the meaning of the operations and of what happens outside, the player supplies as
functions that answer `none` where a move is not possible; the soundness of each is a
hypothesis of the player, proved once for a machine.

`tasksAfter` says which task every process is at after some actions. It is a function of
the actions alone, so a statement about the task of a process does not have to look into
its script.
-/

namespace CommercePlatform.Lib

variable {σ Op : Type} {Resp : Op → Type} {ε α τ η : Type}

/-- A process that begins a task with this action, or is gone. -/
def PoolAct.lifecycle : PoolAct Op Resp ε τ η → Option (Nat × Option τ)
  | .start p task => some (p, some task)
  | .crash p => some (p, none)
  | _ => none

/-- The task of every process after these actions. -/
def tasksAfter (tasks : Nat → Option τ) (acts : List (PoolAct Op Resp ε τ η)) : Nat → Option τ :=
  (acts.filterMap PoolAct.lifecycle).foldl (fun tasks e => Function.update tasks e.1 e.2) tasks

theorem tasksAfter_append (tasks : Nat → Option τ) (acts acts' : List (PoolAct Op Resp ε τ η)) :
    tasksAfter tasks (acts ++ acts') = tasksAfter (tasksAfter tasks acts) acts' := by
  rw [tasksAfter, List.filterMap_append, List.foldl_append]
  rfl

/-- One entry of a schedule: a process begins a task, goes on for `n` operations, has its next
one refused or the answer of it lost, or dies; or something else happens. -/
inductive Turn (ε τ η : Type) where
  /-- A new process begins a task. -/
  | start (p : Nat) (task : τ)
  /-- The next `n` operations of a process are done. -/
  | go (p n : Nat)
  /-- The next operation of a process is refused. -/
  | refuse (p : Nat) (e : ε)
  /-- The next operation of a process takes effect, but raises. -/
  | lose (p : Nat) (e : ε)
  | crash (p : Nat)
  | other (e : η)

/-- A process that begins a task with this turn, or is gone. -/
def Turn.lifecycle : Turn ε τ η → Option (Nat × Option τ)
  | .start p task => some (p, some task)
  | .crash p => some (p, none)
  | _ => none

/-- How to compute the steps of a machine, with the proofs that what is computed is a step. -/
structure Player (M : Semantics σ Op Resp ε α τ η) where
  starts : Nat → σ → τ → Bool
  run : Nat → σ → (op : Op) → Option (Except ε (Resp op) × σ)
  refuse : Op → ε → Bool
  lose : Nat → σ → Op → ε → Option σ
  other : σ → η → Option σ
  starts_spec : ∀ p s task, starts p s task = true → M.starts p s task
  run_spec : ∀ p s op r s', run p s op = some (r, s') → M.exec p s op r s'
  refuse_spec : ∀ p s op e, refuse op e = true → M.exec p s op (.error e) s
  lose_spec : ∀ p s op e s', lose p s op e = some s' → M.exec p s op (.error e) s'
  other_spec : ∀ s e s', other s e = some s' → M.other s e s'

namespace Player

variable {M : Semantics σ Op Resp ε α τ η} (P : Player M)

/-- One operation of process `p`. -/
def stepOf (pool : Pool σ Op Resp ε α) (p : Nat) : Option (Pool σ Op Resp ε α) :=
  match pool.scripts p with
  | some (.call op k) => (P.run p pool.state op).map fun r => pool.set p (some (k r.1)) r.2
  | _ => none

/-- `n` operations of process `p`. -/
def stepsOf (pool : Pool σ Op Resp ε α) (p : Nat) : Nat → Option (Pool σ Op Resp ε α)
  | 0 => some pool
  | n + 1 => (P.stepOf pool p).bind fun pool' => stepsOf pool' p n

/-- The pool after one turn. -/
def play (pool : Pool σ Op Resp ε α) : Turn ε τ η → Option (Pool σ Op Resp ε α)
  | .start p task =>
    match pool.scripts p with
    | none => if P.starts p pool.state task then
        some (pool.set p (some (M.script task)) pool.state) else none
    | some _ => none
  | .go p n => P.stepsOf pool p n
  | .refuse p e =>
    match pool.scripts p with
    | some (.call op k) => if P.refuse op e then
        some (pool.set p (some (k (.error e))) pool.state) else none
    | _ => none
  | .lose p e =>
    match pool.scripts p with
    | some (.call op k) => (P.lose p pool.state op e).map fun state =>
        pool.set p (some (k (.error e))) state
    | _ => none
  | .crash p => some (pool.set p none (M.crash p pool.state))
  | .other e => (P.other pool.state e).map fun state => { pool with state := state }

/-- The pool after a schedule. -/
def playAll (pool : Pool σ Op Resp ε α) : List (Turn ε τ η) → Option (Pool σ Op Resp ε α)
  | [] => some pool
  | t :: ts => (P.play pool t).bind fun pool' => playAll pool' ts

variable {P} {pool pool' : Pool σ Op Resp ε α}

/-- Actions of a run from `pool` to `pool'`, with these beginnings and ends of tasks: what a
schedule comes to. -/
def Played (M : Semantics σ Op Resp ε α τ η) (pool pool' : Pool σ Op Resp ε α)
    (cycle : List (Nat × Option τ)) : Prop :=
  ∃ as, Run (PoolStep M) pool as pool' ∧ as.filterMap PoolAct.lifecycle = cycle

theorem Played.append {mid : Pool σ Op Resp ε α} {cycle cycle' : List (Nat × Option τ)}
    (h : Played M pool mid cycle) (h' : Played M mid pool' cycle') :
    Played M pool pool' (cycle ++ cycle') := by
  obtain ⟨as, has, rfl⟩ := h
  obtain ⟨bs, hbs, rfl⟩ := h'
  exact ⟨as ++ bs, has.append hbs, List.filterMap_append⟩

theorem played_step {a : PoolAct Op Resp ε τ η} (h : PoolStep M pool a pool') :
    Played M pool pool' a.lifecycle.toList := by
  refine ⟨[a], Run.cons h Run.nil, ?_⟩
  cases ha : a.lifecycle <;> simp [ha]

theorem stepOf_eq_some {p : Nat} (h : P.stepOf pool p = some pool') : Played M pool pool' [] := by
  unfold stepOf at h
  split at h
  next op k hscript =>
    obtain ⟨⟨r, state⟩, hrun, rfl⟩ := Option.map_eq_some_iff.1 h
    exact played_step (PoolStep.call p op k r state hscript (P.run_spec _ _ _ _ _ hrun))
  next => cases h

theorem stepsOf_eq_some {p n : Nat} (h : P.stepsOf pool p n = some pool') :
    Played M pool pool' [] := by
  induction n generalizing pool with
  | zero =>
    cases h
    exact ⟨[], Run.nil, rfl⟩
  | succ n ih =>
    obtain ⟨mid, hmid, hrest⟩ := Option.bind_eq_some_iff.1 h
    exact (stepOf_eq_some hmid).append (ih hrest)

/-- A turn is a run. -/
theorem play_eq_some {t : Turn ε τ η} (h : P.play pool t = some pool') :
    Played M pool pool' t.lifecycle.toList := by
  cases t with
  -- the slot is free and the task is one that may be started
  | start p task =>
    simp only [play] at h
    split at h
    next hfree =>
      split at h
      next hstarts =>
        cases h
        exact played_step (.start p task hfree (P.starts_spec _ _ _ hstarts))
      next => cases h
    next => cases h
  -- a whole stretch of calls of one script
  | go p n => exact stepsOf_eq_some h
  -- the call raises with nothing done, or its answer is lost with everything done
  | refuse p e =>
    simp only [play] at h
    split at h
    next op k hscript =>
      split at h
      next hrefuse =>
        cases h
        exact played_step (.call p op k _ _ hscript (P.refuse_spec _ _ _ _ hrefuse))
      next => cases h
    next => cases h
  | lose p e =>
    simp only [play] at h
    split at h
    next op k hscript =>
      obtain ⟨state, hstate, rfl⟩ := Option.map_eq_some_iff.1 h
      exact played_step (.call p op k _ _ hscript (P.lose_spec _ _ _ _ _ hstate))
    next => cases h
  | crash p =>
    cases h
    exact played_step (.crash p)
  | other e =>
    obtain ⟨state, hstate, rfl⟩ := Option.map_eq_some_iff.1 h
    exact played_step (.other e state (P.other_spec _ _ _ hstate))

/-- What a schedule computes is a run, with the beginnings and ends of the schedule. -/
theorem playAll_eq_some {ts : List (Turn ε τ η)} (h : P.playAll pool ts = some pool') :
    Played M pool pool' (ts.filterMap Turn.lifecycle) := by
  induction ts generalizing pool with
  | nil =>
    cases h
    exact ⟨[], Run.nil, rfl⟩
  | cons t ts ih =>
    obtain ⟨mid, hmid, hrest⟩ := Option.bind_eq_some_iff.1 h
    have hcycle : (t :: ts).filterMap Turn.lifecycle =
        t.lifecycle.toList ++ ts.filterMap Turn.lifecycle := by
      cases ht : t.lifecycle <;> simp [ht]
    rw [hcycle]
    exact (play_eq_some hmid).append (ih hrest)

end Player

end CommercePlatform.Lib
