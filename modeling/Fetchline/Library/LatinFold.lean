import Mathlib.Data.List.Basic
import Mathlib.Logic.Function.Basic

/-! # Folds that notice a substitution

A step that is injective in the state and in the symbol carries every single
substitution through to the end of the fold.
-/

/-- The table of the step is a Latin rectangle: no entry twice in a row or in a column. -/
structure LatinStep {σ α : Type*} (step : σ → α → σ) : Prop where
  state : ∀ x, Function.Injective fun s => step s x
  symbol : ∀ s, Function.Injective (step s)

namespace LatinStep

variable {σ α : Type*} {step : σ → α → σ}

theorem foldl_injective (h : LatinStep step) (word : List α) :
    Function.Injective fun s => word.foldl step s := by
  induction word with
  | nil => exact fun _ _ hEq => hEq
  | cons x word ih => exact fun _ _ hEq => h.state x (ih hEq)

theorem foldl_substitute (h : LatinStep step) (before after : List α) (x y : α) (s : σ) :
    (before ++ x :: after).foldl step s = (before ++ y :: after).foldl step s ↔ x = y := by
  rw [List.foldl_append, List.foldl_append]
  constructor
  · intro hEq
    exact h.symbol _ (h.foldl_injective after hEq)
  · rintro rfl
    rfl

theorem foldl_set (h : LatinStep step) {word : List α} {i : Nat} {x : α} (s : σ)
    (hi : i < word.length) (hx : word[i]? ≠ some x) :
    (word.set i x).foldl step s ≠ word.foldl step s := by
  have hWord : word = word.take i ++ word[i] :: word.drop (i + 1) := by
    rw [← List.drop_eq_getElem_cons hi, List.take_append_drop]
  have hSet : word.set i x = word.take i ++ x :: word.drop (i + 1) :=
    List.set_eq_take_append_cons_drop.trans (if_pos hi)
  intro hEq
  rw [hSet] at hEq
  nth_rewrite 3 [hWord] at hEq
  have hSame := (h.foldl_substitute _ _ _ _ s).mp hEq
  exact hx (by rw [List.getElem?_eq_getElem hi, hSame])

end LatinStep
