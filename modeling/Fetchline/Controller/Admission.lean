/-! # Controller epochs and admission

The ownership half of `src/controller.rs`. Generations are `u64` values that
wrap; zero is never granted before the first wrap.
-/

namespace Fetchline

structure ControllerEpoch where
  value : UInt64
deriving DecidableEq, Repr

namespace ControllerEpoch

def new : ControllerEpoch := ⟨0⟩

def claim (self : ControllerEpoch) : UInt64 × ControllerEpoch := (self.value + 1, ⟨self.value + 1⟩)

def isCurrent (self : ControllerEpoch) (epoch : UInt64) : Bool := self.value == epoch

@[simp] theorem isCurrent_eq_true_iff (self : ControllerEpoch) (epoch : UInt64) :
    self.isCurrent epoch = true ↔ self.value = epoch := by simp [isCurrent]

end ControllerEpoch

structure ControllerAdmission where
  epoch : ControllerEpoch
  active : Bool
  listenerRequired : Bool
deriving DecidableEq, Repr

inductive ControllerAdmissionResult where
  | granted (generation : UInt64) (replacesActive : Bool)
  | waitForListener
deriving DecidableEq, Repr

namespace ControllerAdmission

def new : ControllerAdmission := ⟨.new, false, false⟩

def tryClaim (self : ControllerAdmission) : ControllerAdmissionResult × ControllerAdmission :=
  if self.listenerRequired then (.waitForListener, self)
  else
    let replacesActive := self.active
    let (generation, epoch) := self.epoch.claim
    (.granted generation replacesActive, ⟨epoch, true, replacesActive⟩)

def release (self : ControllerAdmission) (generation : UInt64) : ControllerAdmission :=
  if self.epoch.isCurrent generation then { self with active := false } else self

def listenerReady (self : ControllerAdmission) : Bool × ControllerAdmission :=
  (self.listenerRequired, { self with listenerRequired := false })

def isCurrent (self : ControllerAdmission) (generation : UInt64) : Bool :=
  self.epoch.isCurrent generation

theorem tryClaim_of_required {self : ControllerAdmission} (h : self.listenerRequired = true) :
    self.tryClaim = (.waitForListener, self) := by simp [tryClaim, h]

theorem tryClaim_of_not_required {self : ControllerAdmission} (h : self.listenerRequired = false) :
    self.tryClaim = (.granted (self.epoch.value + 1) self.active,
      ⟨⟨self.epoch.value + 1⟩, true, self.active⟩) := by simp [tryClaim, h, ControllerEpoch.claim]

theorem tryClaim_cases (self : ControllerAdmission) :
    (self.listenerRequired = true ∧ self.tryClaim = (.waitForListener, self)) ∨
    (self.listenerRequired = false ∧ self.tryClaim =
      (.granted (self.epoch.value + 1) self.active,
        ⟨⟨self.epoch.value + 1⟩, true, self.active⟩)) := by
  cases h : self.listenerRequired
  · exact .inr ⟨rfl, tryClaim_of_not_required h⟩
  · exact .inl ⟨rfl, tryClaim_of_required h⟩

@[simp] theorem release_epoch (self : ControllerAdmission) (generation : UInt64) :
    (self.release generation).epoch = self.epoch := by
  unfold release
  split <;> rfl

@[simp] theorem release_listenerRequired (self : ControllerAdmission) (generation : UInt64) :
    (self.release generation).listenerRequired = self.listenerRequired := by
  unfold release
  split <;> rfl

theorem release_active (self : ControllerAdmission) (generation : UInt64) :
    (self.release generation).active = (self.active && self.epoch.value != generation) := by
  unfold release
  split <;> rename_i h <;> simp_all

theorem release_of_stale {self : ControllerAdmission} {generation : UInt64}
    (h : self.epoch.value ≠ generation) : self.release generation = self := by
  simp [release, ControllerEpoch.isCurrent, h]

end ControllerAdmission

end Fetchline
