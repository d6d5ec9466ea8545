import Mathlib.Data.List.Induction
/-!
# Runs of a labelled machine

A machine is a relation `step s a t`: in state `s` the action `a` may lead to `t`. `Run
step s as t` is a finite execution with its actions in order, grown at the end (`snoc`),
so an induction on a run sees the last step taken and the state before it is one an
invariant already covers.

The rules below are the only inductions on runs the development needs:

* `Run.traced` — a predicate on the state and the actions taken so far (a ghost log is a
  function of that list);
* `Run.invariant` — a step-preserved predicate holds at the end of a run;
* `Run.mono` — a measure no step decreases;
* `Run.split`, `Run.split_at` — cut a run at a position of its action list;
* `alwaysOn_iff` — a predicate holds on all of a run exactly when each of its steps
  meets the condition under which a step keeps it;
* `Run.under`, `alwaysOn_of_under` — steps that are only taken under a condition;
* `Run.of_enabled`, `eachStep_of_checked` — a run that is computed, and a condition
  checked along it.

The two kinds of conclusion serve different statements. What holds in every reachable
state needs `Run.invariant` alone. A statement that some runs break is settled by the
condition under which a step keeps it: `AlwaysOn` and `EachStep` quantify over the
splits of one run, so that "in every state on the way" and "every step on the way" have
the same shape and one can be traded for the other step by step.

The last group turns a computation into a run: where the next state is a function, a
list of actions that `Enabled` accepts is a run, so that a concrete run of a witness is
checked by evaluating it.
-/

namespace CommercePlatform.Lib

variable {σ α : Type}

/-- A finite run: the actions it took, oldest first, between two states. -/
inductive Run (step : σ → α → σ → Prop) (s : σ) : List α → σ → Prop where
  | nil : Run step s [] s
  | snoc {t u : σ} {as : List α} {a : α} :
      Run step s as t → step t a u → Run step s (as ++ [a]) u

variable {step : σ → α → σ → Prop} {s t u : σ} {as bs : List α} {a : α}

theorem Run.nil_inv (h : Run step s [] t) : t = s := by
  generalize hl : ([] : List α) = l at h
  cases h with
  | nil => rfl
  | snoc _ _ => exact absurd hl (by simp)

/-- The last step of a run whose action list ends in `a`. -/
theorem Run.snoc_inv (h : Run step s (as ++ [a]) u) :
    ∃ t, Run step s as t ∧ step t a u := by
  generalize hl : as ++ [a] = l at h
  cases h with
  | nil => exact absurd hl (by simp)
  | snoc hr hs =>
    obtain ⟨rfl, hla⟩ := List.append_inj' hl rfl
    cases hla
    exact ⟨_, hr, hs⟩

/-- A predicate on states and the actions taken so far, carried by every step. The other rules
are cases of it. -/
theorem Run.traced {P : List α → σ → Prop} (h : Run step s as t) (h0 : P [] s)
    (hstep : ∀ as a t u, Run step s as t → P as t → step t a u → P (as ++ [a]) u) :
    P as t := by
  induction h with
  | nil => exact h0
  | snoc hr hs ih => exact hstep _ _ _ _ hr ih hs

/-- A predicate every step preserves holds at the end of every run that starts in it. -/
theorem Run.invariant {I : σ → Prop} (h : Run step s as t) (h0 : I s)
    (hstep : ∀ t a u, I t → step t a u → I u) : I t :=
  h.traced (P := fun _ s => I s) h0 fun _ a t u _ hI hs => hstep t a u hI hs

/-- A measure no step decreases is not decreased by a run. -/
theorem Run.mono {f : σ → Nat} (h : Run step s as t)
    (hstep : ∀ t a u, step t a u → f t ≤ f u) : f s ≤ f t :=
  h.invariant (I := fun t => f s ≤ f t) (Nat.le_refl _)
    fun t a u hI hs => Nat.le_trans hI (hstep t a u hs)

/-- A run of a machine is a run of any machine that takes its steps. -/
theorem Run.imp {step' : σ → α → σ → Prop} (h : Run step s as t)
    (himp : ∀ s a t, step s a t → step' s a t) : Run step' s as t := by
  induction h with
  | nil => exact .nil
  | snoc _ hs ih => exact ih.snoc (himp _ _ _ hs)

/-- Two runs compose. -/
theorem Run.append (h : Run step s as t) (h' : Run step t bs u) :
    Run step s (as ++ bs) u := by
  induction h' with
  | nil => simpa using h
  | snoc _ hs ih =>
    rw [← List.append_assoc]
    exact ih.snoc hs

/-- A run splits at every position of its action list, with a state between the parts. -/
theorem Run.split (h : Run step s (as ++ bs) u) :
    ∃ t, Run step s as t ∧ Run step t bs u := by
  induction bs using List.reverseRecOn generalizing u with
  | nil => exact ⟨u, by simpa using h, .nil⟩
  | append_singleton bs b ih =>
    rw [← List.append_assoc] at h
    obtain ⟨v, hv, hb⟩ := h.snoc_inv
    obtain ⟨t, ht, htv⟩ := ih hv
    exact ⟨t, ht, htv.snoc hb⟩

/-- A run split around one of its actions. -/
theorem Run.split_at (h : Run step s (as ++ a :: bs) u) :
    ∃ t t', Run step s as t ∧ step t a t' ∧ Run step t' bs u := by
  rw [show as ++ a :: bs = (as ++ [a]) ++ bs by simp] at h
  obtain ⟨t', ht', hbs⟩ := h.split
  obtain ⟨t, ht, ha⟩ := ht'.snoc_inv
  exact ⟨t, t', ht, ha, hbs⟩

/-- A run grown at the front. -/
theorem Run.cons (hstep : step s a t) (h : Run step t as u) : Run step s (a :: as) u := by
  induction h with
  | nil => exact Run.nil.snoc hstep
  | snoc _ hs ih => exact ih.snoc hs

/-- `I` holds in every state on the way from `s` to `t`, both ends included. -/
def AlwaysOn (step : σ → α → σ → Prop) (I : σ → Prop) (s : σ) (as : List α) (t : σ) : Prop :=
  ∀ before after u, as = before ++ after → Run step s before u → Run step u after t → I u

/-- Every step on the way from `s` to `t` is taken under `C`, in the state it is taken in. -/
def EachStep (step : σ → α → σ → Prop) (C : α → σ → Prop) (s : σ) (as : List α) (t : σ) :
    Prop :=
  ∀ before a after u v, as = before ++ a :: after → Run step s before u → step u a v →
    Run step v after t → C a u

/-- The machine in which steps are taken under `C` only. -/
def Under (step : σ → α → σ → Prop) (C : α → σ → Prop) (s : σ) (a : α) (t : σ) : Prop :=
  step s a t ∧ C a s

/-- A run whose steps are all taken under `C` is a run of that machine. -/
theorem Run.under {C : α → σ → Prop} (h : Run step s as t) (heach : EachStep step C s as t) :
    Run (Under step C) s as t := by
  induction h with
  | nil => exact .nil
  | snoc hr hs ih =>
    refine (ih fun before a after u v has hu ha hv => ?_).snoc ⟨hs, ?_⟩
    · exact heach before a (after ++ [_]) u v (by simp [has]) hu ha (hv.snoc hs)
    · exact heach _ _ [] _ _ rfl hr hs .nil

/-- What holds at the end of every run under `C` holds on the way of such a run. -/
theorem alwaysOn_of_under {I : σ → Prop} {C : α → σ → Prop} (heach : EachStep step C s as t)
    (h : ∀ as u, Run (Under step C) s as u → I u) : AlwaysOn step I s as t := by
  intro before after u has hbefore hafter
  refine h before u (hbefore.under fun pre a post v w hpre hv ha hw => ?_)
  exact heach pre a (post ++ after) v w (by simp [has, hpre]) hv ha (hw.append hafter)

theorem alwaysOn_iff {I : σ → Prop} {C : α → σ → Prop} (h0 : I s)
    (hstep : ∀ u a v, I u → step u a v → (I v ↔ C a u)) :
    AlwaysOn step I s as t ↔ EachStep step C s as t := by
  constructor
  · intro halways before a after u v has hbefore ha hafter
    have hu : I u := halways before (a :: after) u has hbefore (Run.cons ha hafter)
    have hv : I v := halways (before ++ [a]) after v (by simp [has]) (hbefore.snoc ha) hafter
    exact (hstep u a v hu ha).1 hv
  · intro heach before
    -- the state before the last step of the prefix comes first
    induction before using List.reverseRecOn with
    | nil =>
      intro after u _ hbefore _
      rw [hbefore.nil_inv]
      exact h0
    | append_singleton before a ih =>
      intro after v has hbefore hafter
      obtain ⟨u, hu, ha⟩ := hbefore.snoc_inv
      have has' : as = before ++ a :: after := by simp [has]
      have hIu : I u := ih (a :: after) u has' hu (Run.cons ha hafter)
      exact (hstep u a v hIu ha).2 (heach before a after u v has' hu ha hafter)

/-- The actions can be taken one after the other, where `next` computes the state
after each. -/
def Enabled (step : σ → α → σ → Prop) (next : σ → α → σ) : σ → List α → Prop
  | _, [] => True
  | s, a :: as => step s a (next s a) ∧ Enabled step next (next s a) as

theorem Run.of_enabled {next : σ → α → σ} :
    ∀ {as : List α} {s : σ}, Enabled step next s as → Run step s as (as.foldl next s)
  | [], _, _ => Run.nil
  | _ :: _, _, ⟨hstep, h⟩ => Run.cons hstep (Run.of_enabled h)

/-- `C` holds of every action in the state in which it is taken, where `next` computes the
state after each. -/
def Checked (C : α → σ → Prop) (next : σ → α → σ) : σ → List α → Prop
  | _, [] => True
  | s, a :: as => C a s ∧ Checked C next (next s a) as

theorem Checked.at {C : α → σ → Prop} {next : σ → α → σ} :
    ∀ {before after : List α} {s : σ}, Checked C next s (before ++ a :: after) →
      C a (before.foldl next s)
  | [], _, _, h => h.1
  | _ :: _, _, _, h => h.2.at

/-- In a machine whose steps are computed there is only one run to look at, so a condition
checked along it holds on the way of every run with these actions. -/
theorem eachStep_of_checked {C : α → σ → Prop} {next : σ → α → σ}
    (hnext : ∀ s a t, step s a t → t = next s a) (h : Checked C next s as) :
    EachStep step C s as t := by
  have hstate : ∀ {bs : List α} {u : σ}, Run step s bs u → u = bs.foldl next s := by
    intro bs u hrun
    induction hrun with
    | nil => rfl
    | snoc _ hs ih =>
      rw [List.foldl_append, ← ih]
      exact hnext _ _ _ hs
  rintro before a after u v rfl hu - -
  rw [hstate hu]
  exact h.at

end CommercePlatform.Lib
