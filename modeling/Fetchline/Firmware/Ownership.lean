import Fetchline.Controller.Admission
import Fetchline.Library.Sync

/-! # Shared firmware state: controller ownership and the raw tunnel switch

Each function below is one critical section of the source; the awaits between
them belong to the tasks.
-/

namespace Fetchline

open Sync

inductive RawTunnelCommand where
  | enable
  | disable
deriving DecidableEq, Repr

/-- `command` is a one-slot signal: a second value replaces one not yet taken. -/
structure RawTunnelControl where
  enabled : Bool := false
  command : Option RawTunnelCommand := none
deriving DecidableEq, Repr

namespace RawTunnelControl

def enable (self : RawTunnelControl) : RawTunnelControl :=
  if self.enabled then self else ⟨true, some .enable⟩

def disable (self : RawTunnelControl) : RawTunnelControl :=
  if self.enabled then ⟨false, some .disable⟩ else self

end RawTunnelControl

structure ControllerOwnership where
  current : ControllerAdmission := .new
  changes : Watch UInt64 := {}
  listenerChanges : Watch UInt64 := {}
  listenerChange : UInt64 := 0
deriving DecidableEq, Repr

namespace ControllerOwnership

/-- One round of the loop in `claim`: the granted generation, and whether it
replaces an active session. -/
def attemptClaim (self : ControllerOwnership) : Option (UInt64 × Bool) × ControllerOwnership :=
  match self.current.tryClaim with
  | (.granted generation replacesActive, admission) =>
    (some (generation, replacesActive),
      { self with current := admission, changes := self.changes.send generation })
  | (.waitForListener, admission) => (none, { self with current := admission })

def release (self : ControllerOwnership) (generation : UInt64) : ControllerOwnership :=
  { self with current := self.current.release generation }

def listenerReady (self : ControllerOwnership) : ControllerOwnership :=
  let (unblocked, admission) := self.current.listenerReady
  if unblocked then
    { self with
      current := admission
      listenerChange := self.listenerChange + 1
      listenerChanges := self.listenerChanges.send (self.listenerChange + 1) }
  else { self with current := admission }

def isCurrent (self : ControllerOwnership) (generation : UInt64) : Bool :=
  self.current.isCurrent generation

theorem attemptClaim_cases (self : ControllerOwnership) :
    (self.current.listenerRequired = true ∧ self.attemptClaim = (none, self)) ∨
    (self.current.listenerRequired = false ∧ self.attemptClaim =
      (some (self.current.epoch.value + 1, self.current.active),
        { self with
          current := ⟨⟨self.current.epoch.value + 1⟩, true, self.current.active⟩
          changes := self.changes.send (self.current.epoch.value + 1) })) := by
  unfold attemptClaim
  rcases self.current.tryClaim_cases with ⟨hRequired, hClaim⟩ | ⟨hRequired, hClaim⟩
  · left
    simp [hRequired, hClaim]
  · right
    simp [hRequired, hClaim]

theorem attemptClaim_some {self ownership : ControllerOwnership} {generation : UInt64}
    {replacesActive : Bool}
    (h : self.attemptClaim = (some (generation, replacesActive), ownership)) :
    self.current.listenerRequired = false ∧ generation = self.current.epoch.value + 1 ∧
      replacesActive = self.current.active ∧ ownership =
        { self with
          current := ⟨⟨self.current.epoch.value + 1⟩, true, self.current.active⟩
          changes := self.changes.send (self.current.epoch.value + 1) } := by
  rcases self.attemptClaim_cases with ⟨-, hNone⟩ | ⟨hRequired, hSome⟩
  · rw [hNone] at h
    cases h
  · rw [hSome] at h
    cases h
    exact ⟨hRequired, rfl, rfl, rfl⟩

theorem attemptClaim_none {self ownership : ControllerOwnership}
    (h : self.attemptClaim = (none, ownership)) :
    self.current.listenerRequired = true ∧ ownership = self := by
  rcases self.attemptClaim_cases with ⟨hRequired, hNone⟩ | ⟨-, hSome⟩
  · rw [hNone] at h
    cases h
    exact ⟨hRequired, rfl⟩
  · rw [hSome] at h
    cases h

@[simp] theorem listenerReady_current (self : ControllerOwnership) :
    self.listenerReady.current = { self.current with listenerRequired := false } := by
  unfold listenerReady ControllerAdmission.listenerReady
  dsimp only
  split <;> rfl

theorem listenerReady_epoch (self : ControllerOwnership) :
    self.listenerReady.current.epoch = self.current.epoch := by rw [listenerReady_current]

@[simp] theorem listenerReady_changes (self : ControllerOwnership) :
    self.listenerReady.changes = self.changes := by
  unfold listenerReady ControllerAdmission.listenerReady
  dsimp only
  split <;> rfl

theorem listenerReady_sent (self : ControllerOwnership) :
    self.listenerReady.listenerChanges.sent =
      self.listenerChanges.sent + if self.current.listenerRequired then 1 else 0 := by
  unfold listenerReady ControllerAdmission.listenerReady
  dsimp only
  split <;> simp_all

theorem isCurrent_eq_true_iff (self : ControllerOwnership) (generation : UInt64) :
    self.isCurrent generation = true ↔ self.current.epoch.value = generation :=
  ControllerEpoch.isCurrent_eq_true_iff _ _

end ControllerOwnership

end Fetchline
