import Mathlib.Data.List.Basic

/-! # Logs with their newest entry first

What holds of each entry of a log together with the entries before it.
-/

namespace Log

universe u

variable {α : Type u} {P Q : α → List α → Prop}

def Everywhere (P : α → List α → Prop) (log : List α) : Prop :=
  ∀ later x earlier, log = later ++ x :: earlier → P x earlier

@[simp] theorem everywhere_nil : Everywhere P [] := by
  intro later x earlier h
  cases later <;> cases h

@[simp] theorem everywhere_cons (x : α) (log : List α) :
    Everywhere P (x :: log) ↔ P x log ∧ Everywhere P log := by
  constructor
  · intro h
    refine ⟨h [] x log rfl, ?_⟩
    rintro later y earlier rfl
    exact h (x :: later) y earlier rfl
  · rintro ⟨hHead, hTail⟩ later y earlier h
    cases later with
    | nil =>
      obtain ⟨rfl, rfl⟩ := List.cons.inj h
      exact hHead
    | cons z later =>
      obtain ⟨-, hLog⟩ := List.cons.inj h
      exact hTail later y earlier hLog

end Log
