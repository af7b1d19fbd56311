import Fetchline.Controller.Admission
import Fetchline.Library.Machine
import Mathlib.Data.List.Chain
import Mathlib.Data.UInt

/-! # Admission as a function of its call history

What `ControllerAdmission` answers is fixed by the calls made so far, although
it keeps only a counter and two bits. The specification speaks of the history
alone; the counter and the bits are its abstraction.
-/

namespace Fetchline.AdmissionHistory

open Transition

inductive Call where
  | tryClaim
  | release (generation : UInt64)
  | listenerReady
deriving DecidableEq, Repr

/-- A call together with its answer. -/
inductive Entry where
  | granted (generation : UInt64) (replacesActive : Bool)
  | waiting
  | released (generation : UInt64)
  | listening (unblocked : Bool)
deriving DecidableEq, Repr

abbrev History := List Entry

def Entry.ofClaim : ControllerAdmissionResult → Entry
  | .granted generation replacesActive => .granted generation replacesActive
  | .waitForListener => .waiting

structure Recorded where
  admission : ControllerAdmission
  history : History
deriving DecidableEq, Repr

def perform (s : Recorded) : Call → Recorded
  | .tryClaim => ⟨s.admission.tryClaim.2, Entry.ofClaim s.admission.tryClaim.1 :: s.history⟩
  | .release generation => ⟨s.admission.release generation, .released generation :: s.history⟩
  | .listenerReady => ⟨s.admission.listenerReady.2, .listening s.admission.listenerReady.1 :: s.history⟩

def machine : Machine Recorded Call := ⟨⟨.new, []⟩, perform⟩

def grants : History → List UInt64
  | [] => []
  | .granted generation _ :: h => generation :: grants h
  | _ :: h => grants h

def lastGrant (h : History) : Option UInt64 := (grants h).head?

/-- Some replacing grant has had no `listener_ready` call after it. -/
def Pending (h : History) : Prop :=
  ∃ later earlier generation, h = later ++ .granted generation true :: earlier ∧
    ∀ unblocked, .listening unblocked ∉ later

/-- The last grant exists and its generation has not been released since. -/
def Held (h : History) : Prop :=
  ∃ later earlier generation replacesActive,
    h = later ++ .granted generation replacesActive :: earlier ∧
      grants later = [] ∧ .released generation ∉ later

@[simp] theorem grants_append (later earlier : History) :
    grants (later ++ earlier) = grants later ++ grants earlier := by
  induction later with
  | nil => rfl
  | cons e later ih => cases e <;> simp [grants, ih]

theorem lastGrant_of_no_later {later earlier : History} {g : UInt64} {r : Bool}
    (hl : grants later = []) : lastGrant (later ++ .granted g r :: earlier) = some g := by
  simp [lastGrant, hl, grants]

theorem pending_cons (e : Entry) (h : History) :
    Pending (e :: h) ↔ (∃ g, e = .granted g true) ∨ ((∀ u, e ≠ .listening u) ∧ Pending h) := by
  constructor
  · rintro ⟨_ | ⟨x, later⟩, earlier, g, he, hl⟩
    · exact .inl ⟨g, (List.cons.inj he).1⟩
    · simp only [List.cons_append, List.cons.injEq] at he
      obtain ⟨rfl, rfl⟩ := he
      refine .inr ⟨?_, later, earlier, g, rfl, fun u hu => hl u (List.mem_cons_of_mem _ hu)⟩
      rintro u rfl
      exact hl u List.mem_cons_self
  · rintro (⟨g, rfl⟩ | ⟨hne, later, earlier, g, rfl, hl⟩)
    · exact ⟨[], h, g, rfl, by simp⟩
    · refine ⟨e :: later, earlier, g, rfl, ?_⟩
      intro u hu
      rcases List.mem_cons.mp hu with hu | hu
      · exact hne u hu.symm
      · exact hl u hu

@[simp] theorem not_pending_nil : ¬ Pending [] := by
  rintro ⟨later, earlier, g, h, -⟩
  simp at h

@[simp] theorem not_held_nil : ¬ Held [] := by
  rintro ⟨later, earlier, g, r, h, -⟩
  simp at h

theorem held_granted (g : UInt64) (r : Bool) (h : History) : Held (.granted g r :: h) :=
  ⟨[], h, g, r, rfl, rfl, by simp⟩

theorem held_cons {e : Entry} {h : History} (hGrant : ∀ g r, e ≠ .granted g r) :
    Held (e :: h) ↔ Held h ∧ ∀ g, lastGrant h = some g → e ≠ .released g := by
  constructor
  · rintro ⟨_ | ⟨x, later⟩, earlier, g, r, he, hl, hr⟩
    · exact absurd (List.cons.inj he).1 (hGrant g r)
    · simp only [List.cons_append, List.cons.injEq] at he
      obtain ⟨rfl, rfl⟩ := he
      have hLater : grants later = [] := by cases e <;> simp_all [grants]
      refine ⟨⟨later, earlier, g, r, rfl, hLater, fun hm => hr (List.mem_cons_of_mem _ hm)⟩, ?_⟩
      rintro g' hg' rfl
      rw [lastGrant_of_no_later hLater] at hg'
      obtain rfl := Option.some.inj hg'
      exact hr List.mem_cons_self
  · rintro ⟨⟨later, earlier, g, r, rfl, hl, hr⟩, hne⟩
    refine ⟨e :: later, earlier, g, r, rfl, ?_, ?_⟩
    · cases e <;> simp_all [grants]
    · intro hm
      rcases List.mem_cons.mp hm with hm | hm
      · exact hne g (lastGrant_of_no_later hl) hm.symm
      · exact hr hm

theorem Held.lastGrant {h : History} (hh : Held h) : ∃ g, lastGrant h = some g := by
  obtain ⟨later, earlier, g, r, rfl, hl, -⟩ := hh
  exact ⟨g, lastGrant_of_no_later hl⟩

/-- The counter counts the grants and each bit says what the history says. -/
structure Abstracts (s : Recorded) : Prop where
  epoch : s.admission.epoch.value = UInt64.ofNat (grants s.history).length
  counted : grants s.history =
    ((List.range (grants s.history).length).map fun k => UInt64.ofNat (k + 1)).reverse
  active : s.admission.active = true ↔ Held s.history
  required : s.admission.listenerRequired = true ↔ Pending s.history

theorem Abstracts.epoch_of_lastGrant {s : Recorded} (h : Abstracts s) {g : UInt64}
    (hg : lastGrant s.history = some g) : s.admission.epoch.value = g := by
  rw [h.epoch]
  rw [lastGrant] at hg
  cases hn : (grants s.history).length with
  | zero => simp [List.eq_nil_of_length_eq_zero hn] at hg
  | succ n =>
    rw [h.counted, hn, List.range_succ] at hg
    simpa using hg

theorem abstracts_init : Abstracts machine.init where
  epoch := rfl
  counted := rfl
  active := by simp [machine, ControllerAdmission.new]
  required := by simp [machine, ControllerAdmission.new]

theorem abstracts_step {s : Recorded} (c : Call) (h : Abstracts s) : Abstracts (machine.step s c) := by
  cases c with
  | tryClaim =>
    rcases s.admission.tryClaim_cases with ⟨hr, hc⟩ | ⟨hr, hc⟩
    · -- A refused claim leaves the admission alone and only adds an entry.
      have hs : machine.step s .tryClaim = ⟨s.admission, .waiting :: s.history⟩ := by
        simp [machine, perform, hc, Entry.ofClaim]
      rw [hs]
      refine ⟨h.epoch, h.counted, ?_, ?_⟩
      · rw [held_cons (by simp)]
        simpa using h.active
      · rw [pending_cons]
        simpa using h.required
    · have hs : machine.step s .tryClaim = ⟨⟨⟨s.admission.epoch.value + 1⟩, true, s.admission.active⟩,
          .granted (s.admission.epoch.value + 1) s.admission.active :: s.history⟩ := by
        simp [machine, perform, hc, Entry.ofClaim]
      rw [hs]
      have hnext : s.admission.epoch.value + 1 = UInt64.ofNat ((grants s.history).length + 1) := by
        rw [h.epoch, UInt64.ofNat_add]
        rfl
      refine ⟨hnext, ?_, ?_, ?_⟩
      · simp only [grants, List.length_cons]
        rw [List.range_succ, List.map_append, List.reverse_append, ← h.counted, hnext]
        rfl
      · simp [held_granted]
      · rw [pending_cons]
        have hp : ¬ Pending s.history := fun hp => by simp [h.required.mpr hp] at hr
        cases s.admission.active <;> simp [hp]
  | release g =>
    refine ⟨?_, h.counted, ?_, ?_⟩
    · exact (congrArg ControllerEpoch.value (s.admission.release_epoch g)).trans h.epoch
    · change (s.admission.release g).active = true ↔ Held (.released g :: s.history)
      rw [held_cons (by simp), ControllerAdmission.release_active, Bool.and_eq_true, h.active]
      apply and_congr_right
      intro hHeld
      obtain ⟨last, hLast⟩ := hHeld.lastGrant
      rw [h.epoch_of_lastGrant hLast, hLast]
      simp only [bne_iff_ne, Option.some.injEq, forall_eq', ne_eq, Entry.released.injEq]
      exact ne_comm
    · change (s.admission.release g).listenerRequired = true ↔ Pending (.released g :: s.history)
      rw [ControllerAdmission.release_listenerRequired, h.required, pending_cons]
      simp
  | listenerReady =>
    refine ⟨h.epoch, h.counted, ?_, ?_⟩
    · change s.admission.active = true ↔ Held (.listening _ :: s.history)
      rw [held_cons (by simp)]
      simpa using h.active
    · change false = true ↔ Pending (.listening _ :: s.history)
      rw [pending_cons]
      simp

theorem abstracts {s : Recorded} (h : machine.Reachable s) : Abstracts s :=
  h.invariant abstracts_init fun _ c _ ih _ => abstracts_step c ih

theorem Abstracts.isCurrent_iff {s : Recorded} (h : Abstracts s) {g : UInt64}
    (hg : g ∈ grants s.history) :
    s.admission.isCurrent g = true ↔ lastGrant s.history = some g := by
  obtain ⟨last, hLast⟩ : ∃ last, lastGrant s.history = some last := by
    rw [lastGrant]
    cases hs : grants s.history with
    | nil => simp [hs] at hg
    | cons last _ => exact ⟨last, rfl⟩
  rw [ControllerAdmission.isCurrent, ControllerEpoch.isCurrent_eq_true_iff,
    h.epoch_of_lastGrant hLast, hLast, Option.some.injEq]

theorem Abstracts.grants_descending {s : Recorded} (h : Abstracts s)
    (hGrants : (grants s.history).length < 2 ^ 64) : (grants s.history).Pairwise (· > ·) := by
  rw [h.counted, List.pairwise_reverse, List.pairwise_map]
  refine List.pairwise_lt_range.imp_of_mem ?_
  intro j k hj hk hjk
  have hj := List.mem_range.mp hj
  have hk := List.mem_range.mp hk
  change UInt64.ofNat (j + 1) < UInt64.ofNat (k + 1)
  rw [UInt64.lt_iff_toNat_lt, UInt64.toNat_ofNat_of_lt' (by simpa [UInt64.size] using by omega),
    UInt64.toNat_ofNat_of_lt' (by simpa [UInt64.size] using by omega)]
  omega

theorem Abstracts.tryClaim_waits_iff {s : Recorded} (h : Abstracts s) :
    s.admission.tryClaim.1 = .waitForListener ↔ Pending s.history := by
  rw [← h.required]
  rcases s.admission.tryClaim_cases with ⟨hr, hc⟩ | ⟨hr, hc⟩ <;> simp [hr, hc]

theorem Abstracts.tryClaim_grants {s : Recorded} (h : Abstracts s) (hp : ¬ Pending s.history) :
    ∃ g r, s.admission.tryClaim.1 = .granted g r ∧ (r = true ↔ Held s.history) := by
  rcases s.admission.tryClaim_cases with ⟨hr, -⟩ | ⟨-, hc⟩
  · exact absurd (h.required.mp hr) hp
  · exact ⟨_, _, by rw [hc], h.active⟩

/-- Each answer of `ControllerAdmission`, and what it changes, read off the
calls made before. -/
theorem admission_refines_history (calls : List Call)
    (hGrants : (grants (machine.run machine.init calls).history).length < 2 ^ 64) :
    let s := machine.run machine.init calls
    (grants s.history).Pairwise (· > ·) ∧
    (∀ g ∈ grants s.history, s.admission.isCurrent g = true ↔ lastGrant s.history = some g) ∧
    (s.admission.tryClaim.1 = .waitForListener ↔ Pending s.history) ∧
    (Pending s.history → s.admission.tryClaim.2 = s.admission) ∧
    (¬ Pending s.history →
      ∃ g r, s.admission.tryClaim.1 = .granted g r ∧ (r = true ↔ Held s.history)) ∧
    (∀ g ∈ grants s.history, lastGrant s.history ≠ some g → s.admission.release g = s.admission) ∧
    (s.admission.listenerReady.1 = true ↔
      Pending s.history ∧ ¬ Pending (machine.step s .listenerReady).history) := by
  intro s
  have h : Abstracts s := abstracts (Machine.reachable_run calls)
  refine ⟨h.grants_descending hGrants, fun g hg => h.isCurrent_iff hg, h.tryClaim_waits_iff, ?_,
    h.tryClaim_grants, ?_, ?_⟩
  · intro hp
    rw [ControllerAdmission.tryClaim_of_required (h.required.mpr hp)]
  · intro g hg hne
    apply ControllerAdmission.release_of_stale
    intro hc
    exact hne ((h.isCurrent_iff hg).mp ((ControllerEpoch.isCurrent_eq_true_iff _ _).mpr hc))
  · have hNext : ¬ Pending (machine.step s .listenerReady).history := by
      change ¬ Pending (.listening _ :: s.history)
      simp [pending_cons]
    rw [and_iff_left hNext]
    exact h.required

/-- A takeover, the listener coming back, and the next takeover. -/
theorem admission_refines_history_takeover :
    let s := machine.run machine.init [.tryClaim, .tryClaim, .tryClaim, .listenerReady, .tryClaim]
    grants s.history = [3, 2, 1] ∧ (grants s.history).Pairwise (· > ·) := by
  intro s
  have hs : grants s.history = [3, 2, 1] := by decide
  exact ⟨hs, (admission_refines_history
    [.tryClaim, .tryClaim, .tryClaim, .listenerReady, .tryClaim]
    (by change (grants s.history).length < 2 ^ 64; rw [hs]; decide)).1⟩

end Fetchline.AdmissionHistory
