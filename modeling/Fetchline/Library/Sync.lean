/-! # Watch channels and mutexes of a cooperative executor

Both are plain values: no two tasks run at once, so an operation is a function
on the channel or the lock, and waiting is left to whoever polls.
-/

namespace Sync

universe u

/-- A single-value broadcast. Values are numbered from one, and a receiver is the
number of the last value it has seen. -/
structure Watch (α : Type u) where
  value : Option α := none
  sent : Nat := 0
deriving DecidableEq, Repr

def Watch.send {α : Type u} (self : Watch α) (a : α) : Watch α := ⟨some a, self.sent + 1⟩

/-- `changed()` of a receiver is ready. -/
def Watch.Unread {α : Type u} (self : Watch α) (seen : Nat) : Prop := seen < self.sent

instance {α : Type u} (self : Watch α) (seen : Nat) : Decidable (self.Unread seen) :=
  inferInstanceAs (Decidable (seen < self.sent))

@[simp] theorem Watch.send_value {α : Type u} (self : Watch α) (a : α) :
    (self.send a).value = some a := rfl

@[simp] theorem Watch.send_sent {α : Type u} (self : Watch α) (a : α) :
    (self.send a).sent = self.sent + 1 := rfl

theorem Watch.not_unread {α : Type u} {self : Watch α} {seen : Nat} (h : ¬ self.Unread seen)
    (hSeen : seen ≤ self.sent) : seen = self.sent := by
  have h : self.sent ≤ seen := Nat.not_lt.mp h
  omega

structure Mutex (κ : Type u) where
  holder : Option κ := none
deriving DecidableEq, Repr

namespace Mutex

variable {κ : Type u}

/-- A free lock goes to whoever polls it first. -/
def acquire (self : Mutex κ) (k : κ) : Option (Mutex κ) :=
  if self.holder = none then some ⟨some k⟩ else none

/-- Dropping the guard of `k`, if `k` has one. -/
def release [DecidableEq κ] (self : Mutex κ) (k : κ) : Mutex κ :=
  if self.holder = some k then ⟨none⟩ else self

theorem acquire_eq_some_iff {self other : Mutex κ} {k : κ} :
    self.acquire k = some other ↔ self.holder = none ∧ other = ⟨some k⟩ := by
  unfold acquire
  split
  · rename_i h
    simp [h, eq_comm]
  · rename_i h
    simp [h]

theorem acquire_eq_none_iff {self : Mutex κ} {k : κ} :
    self.acquire k = none ↔ self.holder ≠ none := by
  unfold acquire
  split <;> simp_all

theorem release_holder_eq_some [DecidableEq κ] {self : Mutex κ} {k j : κ} :
    (self.release k).holder = some j ↔ self.holder = some j ∧ j ≠ k := by
  unfold release
  split
  · rename_i h
    simp [h, eq_comm]
  · rename_i h
    constructor
    · intro hHolder
      refine ⟨hHolder, ?_⟩
      rintro rfl
      exact h hHolder
    · exact And.left

end Mutex

end Sync
