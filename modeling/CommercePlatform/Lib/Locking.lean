import CommercePlatform.Lib.Machine
import Mathlib.Logic.Function.Basic
import Mathlib.Logic.Relation
/-!
# Transactions that lock rows

A transaction takes its row locks in the order of its statements and holds them to its
end. `LockScript` is the order in which it asks for them; which row comes next may
depend on what the rows locked so far hold. Any number of transactions run over one
database, and one may be rolled back at any time.

Deadlock is a cycle of transactions each waiting for a row the next one holds. There is
none where every transaction locks upward in a rank of the rows (`not_deadlocked`), but
for rows it may hold out of turn, as long as nobody who holds a lock himself waits for
such a row.

The proof is the usual one for ordered resources. Two invariants hold of every run: no
row is held twice (`Exclusive`) and every transaction goes on asking as its script says
(`Disciplined`). With them a wait leads from a wanted rank to a larger one as soon as
the waiting transaction itself is waited for, so a cycle would make a rank larger than
itself (`no_cycle`).

Beyond the order of the locks the model has no statement-level effect: a commit applies
its task at once, and a lock is granted whenever the row is free. That is enough for
waiting, which only the locks decide. Lock modes other than exclusive ones, lock
escalation and a database that breaks a cycle by itself are not modelled; the last is
what the absence of a cycle makes unnecessary.

The last part fixes the two transactions of a counterexample and gives their steps one
lemma each, so that a run on concrete rows is a list of named steps.
-/

namespace CommercePlatform.Lib

/-- The locks a transaction asks for, and where it raises. What it asks for next is a function of
the database at the time the lock is granted. -/
inductive LockScript (σ κ : Type) where
  /-- The end of the block. -/
  | done
  | raise
  /-- A statement that locks a row, and goes on with what it finds then. -/
  | lock (row : κ) (k : σ → LockScript σ κ)
  /-- A statement that locks nothing. -/
  | read (k : σ → LockScript σ κ)

section Locking

variable {σ κ τ : Type}

/-- Whether the transaction comes to its end when nobody else runs. -/
def LockScript.passes (db : σ) : LockScript σ κ → Bool
  | done => true
  | raise => false
  | lock _ k => (k db).passes db
  | read k => (k db).passes db

/-- Every lock the script asks for, with the rows held then, satisfies `P`. -/
def LockScript.Locks (P : List κ → κ → Prop) : List κ → LockScript σ κ → Prop
  | _, done => True
  | _, raise => True
  | held, lock row k => P held row ∧ ∀ db, (k db).Locks P (row :: held)
  | held, read k => ∀ db, (k db).Locks P held

/-- `if not p: raise`. -/
def LockScript.ensure (p : Prop) [Decidable p] (next : LockScript σ κ) : LockScript σ κ :=
  if p then next else raise

theorem LockScript.passes_ensure {p : Prop} [Decidable p] {next : LockScript σ κ} {db : σ} :
    (ensure p next).passes db = true ↔ p ∧ next.passes db = true := by
  unfold ensure
  by_cases hp : p
  · simp [hp]
  · simp [hp, passes]

theorem LockScript.Locks.ensure {P : List κ → κ → Prop} {held : List κ} {p : Prop} [Decidable p]
    {next : LockScript σ κ} (h : p → next.Locks P held) : (ensure p next).Locks P held := by
  unfold LockScript.ensure
  by_cases hp : p
  · rw [if_pos hp]
    exact h hp
  · rw [if_neg hp]
    trivial

theorem LockScript.Locks.imp {P Q : List κ → κ → Prop} (hPQ : ∀ held row, P held row → Q held row)
    {x : LockScript σ κ} {held : List κ} (h : x.Locks P held) : x.Locks Q held := by
  induction x generalizing held with
  | done => trivial
  | raise => trivial
  | lock row k ih => exact ⟨hPQ _ _ h.1, fun db => ih db (h.2 db)⟩
  | read k ih => exact fun db => ih db (h db)

/-- A transaction on its way. -/
structure Active (σ κ τ : Type) where
  task : τ
  held : List κ
  rest : LockScript σ κ

/-- The database and the transactions on it, by process; a process without one is idle. -/
structure LockState (σ κ τ : Type) where
  db : σ
  active : Nat → Option (Active σ κ τ)

/-- What may happen: a transaction starts, locks or reads its next row, commits, or is rolled
back. -/
inductive LockAct (τ : Type) where
  | start (p : Nat) (task : τ)
  /-- The next statement of a transaction is done. -/
  | statement (p : Nat)
  | commit (p : Nat)
  /-- It raises, or its connection is lost. -/
  | rollback (p : Nat)

/-- Replace the transaction of `p`. -/
def LockState.set (s : LockState σ κ τ) (p : Nat) (a : Option (Active σ κ τ)) :
    LockState σ κ τ := { s with active := Function.update s.active p a }

/-- The row is not held by another transaction than that of `p`. -/
def LockState.FreeFor (s : LockState σ κ τ) (p : Nat) (row : κ) : Prop :=
  ∀ q b, s.active q = some b → q ≠ p → row ∉ b.held

/-- One step. `body` gives the statements of a task, `effect` what its commit does. -/
inductive LockStep (body : τ → LockScript σ κ) (effect : τ → σ → σ) :
    LockState σ κ τ → LockAct τ → LockState σ κ τ → Prop where
  | start {s : LockState σ κ τ} (p : Nat) (task : τ) (hfree : s.active p = none) :
      LockStep body effect s (.start p task) (s.set p (some ⟨task, [], body task⟩))
  | lock {s : LockState σ κ τ} (p : Nat) {task : τ} {held : List κ} {row : κ}
      {k : σ → LockScript σ κ} (hp : s.active p = some ⟨task, held, .lock row k⟩)
      (hfree : s.FreeFor p row) :
      LockStep body effect s (.statement p) (s.set p (some ⟨task, row :: held, k s.db⟩))
  | read {s : LockState σ κ τ} (p : Nat) {task : τ} {held : List κ}
      {k : σ → LockScript σ κ} (hp : s.active p = some ⟨task, held, .read k⟩) :
      LockStep body effect s (.statement p) (s.set p (some ⟨task, held, k s.db⟩))
  | commit {s : LockState σ κ τ} (p : Nat) {task : τ} {held : List κ}
      (hp : s.active p = some ⟨task, held, .done⟩) :
      LockStep body effect s (.commit p) ({ s with db := effect task s.db }.set p none)
  | rollback {s : LockState σ κ τ} (p : Nat) : LockStep body effect s (.rollback p) (s.set p none)

/-- `p` waits for the row, which `q` holds: the next statement of `p` locks a row of `q`. -/
def Waits (s : LockState σ κ τ) (p q : Nat) (row : κ) : Prop :=
  ∃ a b, s.active p = some a ∧ s.active q = some b ∧ q ≠ p ∧
    (∃ k, a.rest = .lock row k) ∧ row ∈ b.held

/-- `p` waits for `q`. -/
def WaitsFor (s : LockState σ κ τ) (p q : Nat) : Prop := ∃ row, Waits s p q row

/-- A cycle of transactions each waiting for the next. -/
def Deadlocked (s : LockState σ κ τ) : Prop := ∃ p, Relation.TransGen (WaitsFor s) p p

/-- No row is held twice. It is what makes "the transaction that holds the row" meaningful. -/
def Exclusive (s : LockState σ κ τ) : Prop :=
  ∀ p q a b row, s.active p = some a → s.active q = some b → row ∈ a.held → row ∈ b.held → p = q

/-- Every transaction asks for its next locks as it should, whatever it finds; the property is
one of the rest of its script and so survives each of its steps. -/
def Disciplined (P : τ → List κ → κ → Prop) (s : LockState σ κ τ) : Prop :=
  ∀ p a, s.active p = some a → a.rest.Locks (P a.task) a.held

variable {body : τ → LockScript σ κ} {effect : τ → σ → σ} {s s' : LockState σ κ τ}
  {act : LockAct τ}

/-- The transaction of `p` after its step, and the others. -/
theorem LockState.active_set {p q : Nat} {a : Option (Active σ κ τ)} {b : Active σ κ τ}
    (h : (s.set p a).active q = some b) : q = p ∧ a = some b ∨ q ≠ p ∧ s.active q = some b := by
  have hupdate : Function.update s.active p a q = some b := h
  by_cases hq : q = p
  · subst hq
    rw [Function.update_self] at hupdate
    exact .inl ⟨rfl, hupdate⟩
  · rw [Function.update_of_ne hq] at hupdate
    exact .inr ⟨hq, hupdate⟩

/-- A transaction that holds only rows that are free for it keeps the locks exclusive. -/
theorem Exclusive.set (h : Exclusive s) {p : Nat} {a : Option (Active σ κ τ)}
    (hfree : ∀ b ∈ a, ∀ row ∈ b.held, s.FreeFor p row) : Exclusive (s.set p a) := by
  intro q r b c row hq' hr' hb hc
  rcases LockState.active_set hq' with ⟨rfl, ha⟩ | ⟨hqp, hq⟩
  · rcases LockState.active_set hr' with ⟨rfl, -⟩ | ⟨hrp, hr⟩
    · rfl
    · exact absurd hc (hfree b ha row hb r c hr hrp)
  · rcases LockState.active_set hr' with ⟨rfl, ha⟩ | ⟨hrp, hr⟩
    · exact absurd hb (hfree c ha row hc q b hq hqp)
    · exact h q r b c row hq hr hb hc

theorem exclusive_step (h : Exclusive s) (hstep : LockStep body effect s act s') :
    Exclusive s' := by
  -- what a transaction held before is free for it
  have hheld : ∀ {p a}, s.active p = some a → ∀ row ∈ a.held, s.FreeFor p row := by
    intro p a hp row hrow q b hq hne hb
    exact hne (h q p b a row hq hp hb hrow)
  cases hstep with
  | start p task hfree =>
    refine h.set fun b hb => ?_
    cases hb
    exact fun row hrow => absurd hrow List.not_mem_nil
  | lock p hp hfree =>
    refine h.set fun b hb => ?_
    cases hb
    intro row hrow
    rcases List.mem_cons.1 hrow with rfl | hrow
    · exact hfree
    · exact hheld hp row hrow
  | read p hp =>
    refine h.set fun b hb => ?_
    cases hb
    intro row hrow
    exact hheld hp row hrow
  | commit p hp => exact Exclusive.set h fun b hb => by cases hb
  | rollback p => exact h.set fun b hb => by cases hb

theorem Disciplined.set {P : τ → List κ → κ → Prop} (h : Disciplined P s) {p : Nat}
    {a : Option (Active σ κ τ)} (ha : ∀ b ∈ a, b.rest.Locks (P b.task) b.held) :
    Disciplined P (s.set p a) := by
  intro q b hq
  rcases LockState.active_set hq with ⟨-, hb⟩ | ⟨-, hq⟩
  · exact ha b hb
  · exact h q b hq

theorem disciplined_step {P : τ → List κ → κ → Prop}
    (hbody : ∀ task, (body task).Locks (P task) []) (h : Disciplined P s)
    (hstep : LockStep body effect s act s') : Disciplined P s' := by
  cases hstep with
  | start p task hfree =>
    refine h.set fun b hb => ?_
    cases hb
    exact hbody task
  | lock p hp hfree =>
    refine h.set fun b hb => ?_
    cases hb
    exact (h p _ hp).2 s.db
  | read p hp =>
    refine h.set fun b hb => ?_
    cases hb
    exact h p _ hp s.db
  | commit p hp => exact Disciplined.set h fun b hb => by cases hb
  | rollback p => exact h.set fun b hb => by cases hb

/-! ## No cycle -/

/-- A lock in turn: the row is held already, or lies above all that is held, but for rows held
out of turn. -/
def InTurn (rank : κ → Nat) (outOfTurn : κ → Prop) (held : List κ) (row : κ) : Prop :=
  row ∈ held ∨ ∀ h ∈ held, outOfTurn h ∨ rank h < rank row

/-- The rank of the row a transaction is about to lock. -/
def LockState.wanted (s : LockState σ κ τ) (rank : κ → Nat) (p : Nat) : Nat :=
  match s.active p with
  | some ⟨_, _, .lock row _⟩ => rank row
  | _ => 0

theorem Waits.wanted {rank : κ → Nat} {p q : Nat} {row : κ} (h : Waits s p q row) :
    s.wanted rank p = rank row := by
  obtain ⟨⟨task, held, rest⟩, b, hp, -, -, ⟨k, hk⟩, -⟩ := h
  obtain rfl : rest = .lock row k := hk
  rw [LockState.wanted, hp]

/-- Where waits only lead upward once somebody waits behind, there is no cycle: going once around
it would find a rank above itself. -/
private theorem no_cycle {W : Nat → Nat → Prop} {f : Nat → Nat}
    (hgrow : ∀ n o x y, W n o → W o x → W x y → f o < f x) (p : Nat) :
    ¬ Relation.TransGen W p p := by
  have hlast : ∀ {x y}, Relation.TransGen W x y → ∃ n, W n y := by
    intro x y h
    cases h with
    | single h => exact ⟨_, h⟩
    | tail _ h => exact ⟨_, h⟩
  have hpath : ∀ {x y}, Relation.TransGen W x y → (∃ n, W n x) → ∀ z, W y z → f x < f y := by
    intro x y h hbehind
    induction h with
    | single hxy =>
      intro z hyz
      obtain ⟨n, hn⟩ := hbehind
      exact hgrow n _ _ z hn hxy hyz
    | tail hxb hbc ih =>
      intro z hcz
      obtain ⟨n, hn⟩ := hlast hxb
      exact Nat.lt_trans (ih _ hbc) (hgrow n _ _ z hn hbc hcz)
  intro h
  obtain ⟨z, hpz, -⟩ := Relation.TransGen.head'_iff.1 h
  exact absurd (hpath h (hlast h) z hpz) (Nat.lt_irrefl _)

/-- Where all lock upward, and nobody who holds a lock waits for a row held out of turn, there is
no deadlock in any state of any run. -/
theorem not_deadlocked {rank : κ → Nat} {outOfTurn : τ → κ → Prop} (hexclusive : Exclusive s)
    (hdisciplined : Disciplined (fun task => InTurn rank (outOfTurn task)) s)
    (hwaits : ∀ p q row a b, Waits s p q row → s.active p = some a → s.active q = some b →
      outOfTurn b.task row → a.held = []) : ¬ Deadlocked s := by
  rintro ⟨p, hcycle⟩
  refine no_cycle (f := s.wanted rank) ?_ p hcycle
  rintro n o x y ⟨first, hno⟩ ⟨row, hox⟩ ⟨row', hxy⟩
  rw [hox.wanted, hxy.wanted]
  obtain ⟨a, b, ha, hb, hne, -, hrow⟩ := id hox
  obtain ⟨b', c, hb', hc, hne', ⟨k, hk⟩, hrow'⟩ := hxy
  obtain rfl : b = b' := Option.some.inj (hb.symm.trans hb')
  have hlocks := hdisciplined x b hb
  rw [hk] at hlocks
  -- the row `x` waits for is not its own, so it lies above the one `o` waits for
  have hnotHeld : row' ∉ b.held := fun h => hne' (hexclusive y x c b row' hc hb hrow' h)
  have hturn := (hlocks.1.resolve_left hnotHeld) row hrow
  refine hturn.resolve_left fun hout => ?_
  obtain ⟨-, a', -, ha', -, -, hfirst⟩ := hno
  obtain rfl : a = a' := Option.some.inj (ha.symm.trans ha')
  rw [hwaits o x row a b hox ha hb hout] at hfirst
  exact absurd hfirst List.not_mem_nil

/-! ## Two transactions -/

/-- The state with the transactions of `1` and `2` and no others. -/
def LockState.two (db : σ) (a b : Option (Active σ κ τ)) : LockState σ κ τ :=
  ((⟨db, fun _ => none⟩ : LockState σ κ τ).set 1 a).set 2 b

section Two

variable {db : σ} {a b : Option (Active σ κ τ)} {task : τ} {held : List κ} {row : κ}
  {k : σ → LockScript σ κ}

theorem LockState.two_set_first (c : Option (Active σ κ τ)) : (two db a b).set 1 c = two db c b := by
  refine congrArg (LockState.mk db) ?_
  show Function.update (Function.update (Function.update (fun _ => none) 1 a) 2 b) 1 c =
    Function.update (Function.update (fun _ => none) 1 c) 2 b
  rw [Function.update_comm (by decide), Function.update_idem]

theorem LockState.two_set_second (c : Option (Active σ κ τ)) : (two db a b).set 2 c = two db a c := by
  refine congrArg (LockState.mk db) ?_
  show Function.update (Function.update (Function.update (fun _ => none) 1 a) 2 b) 2 c =
    Function.update (Function.update (fun _ => none) 1 a) 2 c
  rw [Function.update_idem]

theorem LockState.two_active {q : Nat} {x : Active σ κ τ} (h : (two db a b).active q = some x) :
    q = 1 ∧ a = some x ∨ q = 2 ∧ b = some x := by
  rcases LockState.active_set h with ⟨rfl, hb⟩ | ⟨-, hq⟩
  · exact .inr ⟨rfl, hb⟩
  · rcases LockState.active_set hq with ⟨rfl, ha⟩ | ⟨-, hnone⟩
    · exact .inl ⟨rfl, ha⟩
    · cases hnone

theorem LockStep.first_start (task : τ) : LockStep body effect (LockState.two db none b)
    (.start 1 task) (LockState.two db (some ⟨task, [], body task⟩) b) := by
  have hstep : LockStep body effect (LockState.two db none b) (.start 1 task)
      ((LockState.two db none b).set 1 (some ⟨task, [], body task⟩)) := .start 1 task rfl
  rwa [LockState.two_set_first] at hstep

theorem LockStep.second_start (task : τ) : LockStep body effect (LockState.two db a none)
    (.start 2 task) (LockState.two db a (some ⟨task, [], body task⟩)) := by
  have hstep : LockStep body effect (LockState.two db a none) (.start 2 task)
      ((LockState.two db a none).set 2 (some ⟨task, [], body task⟩)) := .start 2 task rfl
  rwa [LockState.two_set_second] at hstep

theorem LockStep.first_lock (hfree : ∀ x ∈ b, row ∉ x.held) :
    LockStep body effect (LockState.two db (some ⟨task, held, .lock row k⟩) b) (.statement 1)
      (LockState.two db (some ⟨task, row :: held, k db⟩) b) := by
  have hother : (LockState.two db (some ⟨task, held, .lock row k⟩) b).FreeFor 1 row := by
    intro q x hq hne
    rcases LockState.two_active hq with ⟨rfl, -⟩ | ⟨-, hx⟩
    · exact absurd rfl hne
    · exact hfree x hx
  have hstep : LockStep body effect _ (.statement 1) _ := .lock 1 rfl hother
  rwa [LockState.two_set_first] at hstep

theorem LockStep.second_lock (hfree : ∀ x ∈ a, row ∉ x.held) :
    LockStep body effect (LockState.two db a (some ⟨task, held, .lock row k⟩)) (.statement 2)
      (LockState.two db a (some ⟨task, row :: held, k db⟩)) := by
  have hother : (LockState.two db a (some ⟨task, held, .lock row k⟩)).FreeFor 2 row := by
    intro q x hq hne
    rcases LockState.two_active hq with ⟨-, hx⟩ | ⟨rfl, -⟩
    · exact hfree x hx
    · exact absurd rfl hne
  have hstep : LockStep body effect _ (.statement 2) _ := .lock 2 rfl hother
  rwa [LockState.two_set_second] at hstep

theorem LockStep.first_commit :
    LockStep body effect (LockState.two db (some ⟨task, held, .done⟩) b) (.commit 1)
      (LockState.two (effect task db) none b) := by
  have hstep : LockStep body effect (LockState.two db (some ⟨task, held, .done⟩) b) (.commit 1)
      ((LockState.two (effect task db) (some ⟨task, held, .done⟩) b).set 1 none) := .commit 1 rfl
  rwa [LockState.two_set_first] at hstep

theorem LockStep.second_rollback :
    LockStep body effect (LockState.two db a b) (.rollback 2) (LockState.two db a none) := by
  have hstep : LockStep body effect (LockState.two db a b) (.rollback 2)
      ((LockState.two db a b).set 2 none) := .rollback 2
  rwa [LockState.two_set_second] at hstep

/-- The first waits for a row of the second. -/
theorem waitsFor_first {held' : List κ} {task' : τ} {rest : LockScript σ κ} (hrow : row ∈ held') :
    WaitsFor (LockState.two db (some ⟨task, held, .lock row k⟩) (some ⟨task', held', rest⟩)) 1 2 :=
  ⟨row, _, _, rfl, rfl, by decide, ⟨k, rfl⟩, hrow⟩

/-- The second waits for a row of the first. -/
theorem waitsFor_second {held' : List κ} {task' : τ} {rest : LockScript σ κ} (hrow : row ∈ held') :
    WaitsFor (LockState.two db (some ⟨task', held', rest⟩) (some ⟨task, held, .lock row k⟩)) 2 1 :=
  ⟨row, _, _, rfl, rfl, by decide, ⟨k, rfl⟩, hrow⟩

end Two

end Locking

end CommercePlatform.Lib
