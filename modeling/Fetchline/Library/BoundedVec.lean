/-! # Vectors with a fixed capacity -/

namespace Bounded

universe u

structure BoundedVec (α : Type u) (capacity : Nat) where
  toList : List α
  bounded : toList.length ≤ capacity
deriving DecidableEq

namespace BoundedVec

variable {α : Type u} {capacity : Nat}

def empty : BoundedVec α capacity := ⟨[], Nat.zero_le _⟩

def push (v : BoundedVec α capacity) (a : α) : Option (BoundedVec α capacity) :=
  if h : v.toList.length < capacity then some ⟨v.toList ++ [a], by simpa using Nat.succ_le_of_lt h⟩ else none

theorem toList_of_push {v w : BoundedVec α capacity} {a : α} (h : v.push a = some w) :
    w.toList = v.toList ++ [a] := by
  rw [push] at h
  split at h
  · cases h
    rfl
  · cases h

end BoundedVec

end Bounded
