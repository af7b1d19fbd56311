/-! # Machines driven by their environment

A machine has one initial state and one step for each action of the
environment; an action that makes no sense in a state leaves the state alone.
Runs may be restricted to steps that meet a condition on the state before the
step and the action taken.
-/

namespace Transition

universe u v

structure Machine (σ : Type u) (α : Type v) where
  init : σ
  step : σ → α → σ

namespace Machine

variable {σ : Type u} {α : Type v} {M : Machine σ α} {ok : σ → α → Prop}

/-- The states reached by runs whose every step meets `ok`. -/
inductive Reach (M : Machine σ α) (ok : σ → α → Prop) : σ → Prop where
  | init : Reach M ok M.init
  | step {s : σ} (a : α) (before : Reach M ok s) (meets : ok s a) : Reach M ok (M.step s a)

abbrev Reachable (M : Machine σ α) : σ → Prop := M.Reach fun _ _ => True

def run (M : Machine σ α) (s : σ) (actions : List α) : σ := actions.foldl M.step s

theorem Reach.weaken {ok' : σ → α → Prop} (hok : ∀ s a, ok s a → ok' s a) {s : σ}
    (h : M.Reach ok s) : M.Reach ok' s := by
  induction h with
  | init => exact .init
  | step a _ meets ih => exact .step a ih (hok _ a meets)

theorem Reach.reachable {s : σ} (h : M.Reach ok s) : M.Reachable s :=
  h.weaken fun _ _ _ => trivial

/-- Each action meets `ok` in the state it is taken in. -/
def Meets (M : Machine σ α) (ok : σ → α → Prop) (s : σ) : List α → Prop
  | [] => True
  | a :: actions => ok s a ∧ M.Meets ok (M.step s a) actions

instance Meets.decidable [∀ s a, Decidable (ok s a)] :
    (s : σ) → (actions : List α) → Decidable (M.Meets ok s actions)
  | _, [] => inferInstanceAs (Decidable True)
  | s, a :: actions =>
    have : Decidable (M.Meets ok (M.step s a) actions) := Meets.decidable (M.step s a) actions
    inferInstanceAs (Decidable (ok s a ∧ M.Meets ok (M.step s a) actions))

theorem Reach.run {s : σ} (h : M.Reach ok s) {actions : List α} (hMeets : M.Meets ok s actions) :
    M.Reach ok (M.run s actions) := by
  induction actions generalizing s with
  | nil => exact h
  | cons a actions ih => exact ih (.step a h hMeets.1) hMeets.2

theorem Meets.mono {ok' : σ → α → Prop} (hok : ∀ s a, ok s a → ok' s a) {s : σ}
    {actions : List α} (h : M.Meets ok s actions) : M.Meets ok' s actions := by
  induction actions generalizing s with
  | nil => trivial
  | cons a actions ih => exact ⟨hok s a h.1, ih h.2⟩

theorem meets_true (s : σ) (actions : List α) : M.Meets (fun _ _ => True) s actions := by
  induction actions generalizing s with
  | nil => trivial
  | cons a actions ih => exact ⟨trivial, ih _⟩

theorem reachable_run (actions : List α) : M.Reachable (M.run M.init actions) :=
  Reach.run .init (meets_true _ _)

theorem meets_append {s : σ} {actions actions' : List α} (h : M.Meets ok s actions)
    (h' : M.Meets ok (M.run s actions) actions') : M.Meets ok s (actions ++ actions') := by
  induction actions generalizing s with
  | nil => exact h'
  | cons a actions ih => exact ⟨h.1, ih h.2 h'⟩

theorem run_append (s : σ) (actions actions' : List α) :
    M.run s (actions ++ actions') = M.run (M.run s actions) actions' := List.foldl_append ..

/-- A change of the state that no step sees or undoes can as well be made at the end of a run. -/
theorem run_frame {f : σ → σ} (hStep : ∀ s a, M.step (f s) a = f (M.step s a)) (s : σ)
    (actions : List α) : M.run (f s) actions = f (M.run s actions) := by
  induction actions generalizing s with
  | nil => rfl
  | cons a actions ih =>
    change M.run (M.step (f s) a) actions = f (M.run (M.step s a) actions)
    rw [hStep, ih]

theorem meets_frame {f : σ → σ} (hStep : ∀ s a, M.step (f s) a = f (M.step s a))
    (hMeets : ∀ s a, ok s a → ok (f s) a) {s : σ} {actions : List α} (h : M.Meets ok s actions) :
    M.Meets ok (f s) actions := by
  induction actions generalizing s with
  | nil => trivial
  | cons a actions ih => exact ⟨hMeets s a h.1, hStep s a ▸ ih h.2⟩

section Outputs

variable {β : Type v} {out : σ → α → List β}

/-- What a run shows, when a step shows `out`. -/
def outputs (M : Machine σ α) (out : σ → α → List β) : σ → List α → List β
  | _, [] => []
  | s, a :: actions => out s a ++ M.outputs out (M.step s a) actions

theorem outputs_append (s : σ) (actions actions' : List α) :
    M.outputs out s (actions ++ actions') =
      M.outputs out s actions ++ M.outputs out (M.run s actions) actions' := by
  induction actions generalizing s with
  | nil => rfl
  | cons a actions ih =>
    rw [List.cons_append, outputs, outputs, List.append_assoc, ih]
    rfl

theorem outputs_frame {f : σ → σ} (hStep : ∀ s a, M.step (f s) a = f (M.step s a))
    (hOut : ∀ s a, out (f s) a = out s a) (s : σ) (actions : List α) :
    M.outputs out (f s) actions = M.outputs out s actions := by
  induction actions generalizing s with
  | nil => rfl
  | cons a actions ih => rw [outputs, outputs, hOut, hStep, ih]

end Outputs

/-- Two conditions that an invariant makes the same are met by the same runs. -/
theorem meets_iff {inv : σ → Prop} {ok' : σ → α → Prop}
    (hStep : ∀ s a, inv s → inv (M.step s a)) (hIff : ∀ s a, inv s → (ok s a ↔ ok' s a)) {s : σ}
    (h : inv s) (actions : List α) : M.Meets ok s actions ↔ M.Meets ok' s actions := by
  induction actions generalizing s with
  | nil => rfl
  | cons a actions ih => exact and_congr (hIff s a h) (ih (hStep s a h))

/-- The invariant rule: what holds at the start and is kept by each step that
meets `ok` holds of every state reached. The step may use everything already
known of the reached states. -/
theorem Reach.invariant {inv : σ → Prop} (hInit : inv M.init)
    (hStep : ∀ s a, M.Reach ok s → inv s → ok s a → inv (M.step s a)) {s : σ}
    (h : M.Reach ok s) : inv s := by
  induction h with
  | init => exact hInit
  | step a before meets ih => exact hStep _ a before ih meets

end Machine

end Transition
