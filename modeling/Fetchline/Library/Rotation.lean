import Fetchline.Library.Directory
import Mathlib.Order.Basic

/-! # Files moved along a chain of names

Slot 0 is the newest name. A file leaves its slot for the next older one, which is then
either vacant or the last of the chain, where the oldest file falls off.
-/

namespace Directory

section Chain

variable {ν : Type} (slot : Nat → ν)

/-- What the files named by slots `n` down to 0 hold, oldest first. -/
def chain (d : Directory ν) : Nat → List UInt8
  | 0 => d.read (slot 0)
  | n + 1 => d.read (slot (n + 1)) ++ chain d n

/-- `file` has a slot, and no newer slot has a file. -/
def IsNewest (d : Directory ν) (last file : Nat) : Prop :=
  ∃ k ≤ last, d.names (slot k) = some file ∧ ∀ j < k, d.names (slot j) = none

/-- A step along the chain keeps the newest file newest and drops bytes only from the old end. -/
structure Advances (last : Nat) (d d' : Directory ν) : Prop where
  chain_suffix : chain slot d' last <:+ chain slot d last
  newest : ∀ {file : Nat}, IsNewest slot d last file → IsNewest slot d' last file
  contents : d'.contents = d.contents

variable {slot} {d d' : Directory ν}

theorem Advances.refl (last : Nat) (d : Directory ν) : Advances slot last d d :=
  ⟨List.suffix_refl _, id, rfl⟩

theorem Advances.trans {last : Nat} {d'' : Directory ν} (h : Advances slot last d d')
    (h' : Advances slot last d' d'') : Advances slot last d d'' :=
  ⟨h'.chain_suffix.trans h.chain_suffix, h'.newest ∘ h.newest, h'.contents.trans h.contents⟩

theorem chain_congr {n : Nat} (h : ∀ k ≤ n, d'.read (slot k) = d.read (slot k)) :
    chain slot d' n = chain slot d n := by
  induction n with
  | zero => exact h 0 (Nat.le_refl 0)
  | succ n ih =>
    rw [chain, chain, h (n + 1) (Nat.le_refl _), ih fun k hk => h k (Nat.le_succ_of_le hk)]

theorem chain_of_none {n : Nat} (h : ∀ k ≤ n, d.names (slot k) = none) :
    chain slot d n = [] := by
  induction n with
  | zero => exact d.read_of_none (h 0 (Nat.le_refl 0))
  | succ n ih =>
    rw [chain, d.read_of_none (h (n + 1) (Nat.le_refl _)),
      ih fun k hk => h k (Nat.le_succ_of_le hk)]
    rfl

/-- What is appended to the newest file comes last in the chain. -/
theorem chain_append (hSlot : Function.Injective slot) {last file : Nat}
    (h : IsNewest slot d last file) (bytes : List UInt8) :
    chain slot (d.append file bytes) last = chain slot d last ++ bytes := by
  obtain ⟨k, hk, hName, hNewer⟩ := h
  induction last with
  | zero =>
    obtain rfl := Nat.le_zero.mp hk
    exact read_append d hName bytes
  | succ n ih =>
    rcases Nat.lt_or_eq_of_le hk with hLower | rfl
    · have hNe : slot (n + 1) ≠ slot k := hSlot.ne (by omega)
      rw [chain, chain, read_append_other d hName hNe, ih (Nat.le_of_lt_succ hLower),
        List.append_assoc]
    · have hNone : ∀ j ≤ n, d.names (slot j) = none := fun j hj => hNewer j (by omega)
      have hNone' : ∀ j ≤ n, (d.append file bytes).names (slot j) = none := hNone
      rw [chain, chain, read_append d hName, chain_of_none hNone, chain_of_none hNone',
        List.append_nil, List.append_nil]

end Chain

section Rename

variable {ν : Type} [DecidableEq ν] {slot : Nat → ν} (hSlot : Function.Injective slot)
  {d : Directory ν} {k moved : Nat}

include hSlot

theorem rename_slot {j : Nat} (h : j ≠ k) (h' : j ≠ k + 1) :
    (d.rename (slot k) (slot (k + 1))).names (slot j) = d.names (slot j) :=
  rename_other d (hSlot.ne h) (hSlot.ne h')

theorem read_rename_slot {j : Nat} (h : j ≠ k) (h' : j ≠ k + 1) :
    (d.rename (slot k) (slot (k + 1))).read (slot j) = d.read (slot j) :=
  read_congr (rename_contents d _ _) (rename_slot hSlot h h')

theorem rename_slot_vacates (h : d.names (slot k) = some moved) :
    (d.rename (slot k) (slot (k + 1))).names (slot k) = none :=
  rename_source d h (hSlot.ne (by omega))

theorem chain_rename_top (h : d.names (slot k) = some moved) :
    chain slot (d.rename (slot k) (slot (k + 1))) (k + 1) = chain slot d k := by
  have hTarget : (d.rename (slot k) (slot (k + 1))).read (slot (k + 1)) = d.read (slot k) :=
    read_congr (rename_contents d _ _) ((rename_target d h).trans h.symm)
  have hVacant := read_of_none _ (rename_slot_vacates hSlot h)
  rw [chain, hTarget]
  cases k with
  | zero => rw [chain, hVacant, List.append_nil, chain]
  | succ k =>
    have hNewer : chain slot (d.rename (slot (k + 1)) (slot (k + 2))) k = chain slot d k :=
      chain_congr fun j hj => read_rename_slot hSlot (by omega) (by omega)
    rw [chain, hVacant, List.nil_append, hNewer, chain]

theorem chain_rename_vacant {n : Nat} (hn : k + 1 ≤ n) (h : d.names (slot k) = some moved)
    (hVacant : d.names (slot (k + 1)) = none) :
    chain slot (d.rename (slot k) (slot (k + 1))) n = chain slot d n := by
  induction hn with
  | refl => rw [chain_rename_top hSlot h, chain, d.read_of_none hVacant, List.nil_append]
  | @step n hn ih =>
    have hn' : k + 1 ≤ n := hn
    rw [chain, chain, read_rename_slot hSlot (by omega) (by omega), ih]

theorem IsNewest.rename {last file : Nat} (h : IsNewest slot d last file) (hk : k < last)
    (hSource : d.names (slot k) = some moved) :
    IsNewest slot (d.rename (slot k) (slot (k + 1))) last file := by
  obtain ⟨p, hp, hName, hNewer⟩ := h
  rcases Nat.lt_trichotomy p k with hLt | rfl | hGt
  · have hKept {j : Nat} (hj : j ≤ p) := rename_slot hSlot (d := d) (j := j) (k := k)
      (by omega) (by omega)
    refine ⟨p, hp, (hKept (Nat.le_refl p)).trans hName, fun j hj => ?_⟩
    exact (hKept (Nat.le_of_lt hj)).trans (hNewer j hj)
  · refine ⟨p + 1, hk, (rename_target d hSource).trans (hSource.symm.trans hName), fun j hj => ?_⟩
    rcases Nat.lt_or_eq_of_le (Nat.le_of_lt_succ hj) with hLt | rfl
    · exact (rename_slot hSlot (by omega) (by omega)).trans (hNewer j hLt)
    · exact rename_slot_vacates hSlot hSource
  · cases (hNewer k hGt).symm.trans hSource

theorem advances_rename {last : Nat} (hk : k < last) (hSource : d.names (slot k) = some moved)
    (hTarget : k + 1 = last ∨ d.names (slot (k + 1)) = none) :
    Advances slot last d (d.rename (slot k) (slot (k + 1))) where
  chain_suffix := by
    rcases hTarget with rfl | hVacant
    · rw [chain_rename_top hSlot hSource]
      exact List.suffix_append _ _
    · exact ⟨[], chain_rename_vacant hSlot hk hSource hVacant⟩
  newest h := h.rename hSlot hk hSource
  contents := rename_contents d _ _

end Rename

end Directory
