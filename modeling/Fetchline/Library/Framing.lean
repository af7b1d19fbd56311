import Mathlib.Data.List.Basic

/-! # Self-delimiting frames

A reader of one item that stops where the item's frame ends. What it reads of a
sequence of frames, and that a stream splits into such frames in one way only.
-/

namespace Framing

variable {α β : Type*} (read : List β → Option (α × List β))

/-- Whatever follows it, the reader takes this frame for this item. -/
def Delimits (frame : List β) (item : α) : Prop :=
  ∀ rest, read (frame ++ rest) = some (item, rest)

def readMany : Nat → List β → Option (List α × List β)
  | 0, stream => some ([], stream)
  | n + 1, stream =>
    match read stream with
    | none => none
    | some (item, stream) => (readMany n stream).map fun (items, rest) => (item :: items, rest)

theorem readMany_flatMap {encode : α → List β} {items : List α}
    (h : ∀ item ∈ items, Delimits read (encode item) item) (rest : List β) :
    readMany read items.length (items.flatMap encode ++ rest) = some (items, rest) := by
  induction items with
  | nil => rfl
  | cons item items ih =>
    obtain ⟨hItem, hItems⟩ := List.forall_mem_cons.mp h
    rw [List.length_cons, readMany, List.flatMap_cons, List.append_assoc, hItem]
    simp only [ih hItems, Option.map_some]

theorem Delimits.ne_nil {read : List β → Option (α × List β)} (hNil : read [] = none)
    {frame : List β} {item : α} (h : Delimits read frame item) : frame ≠ [] := by
  rintro rfl
  have hRead := h []
  rw [List.append_nil, hNil] at hRead
  cases hRead

theorem flatten_unique (hNil : read [] = none) {left right : List (List β)}
    (hLeft : ∀ frame ∈ left, ∃ item, Delimits read frame item)
    (hRight : ∀ frame ∈ right, ∃ item, Delimits read frame item)
    (h : left.flatten = right.flatten) : left = right := by
  induction left generalizing right with
  | nil =>
    cases right with
    | nil => rfl
    | cons frame right =>
      obtain ⟨item, hFrame⟩ := hRight frame List.mem_cons_self
      exact absurd (List.append_eq_nil_iff.mp h.symm).1 (hFrame.ne_nil hNil)
  | cons frame left ih =>
    obtain ⟨⟨item, hFrame⟩, hLeft⟩ := List.forall_mem_cons.mp hLeft
    cases right with
    | nil => exact absurd (List.append_eq_nil_iff.mp h).1 (hFrame.ne_nil hNil)
    | cons other right =>
      obtain ⟨⟨item', hOther⟩, hRight⟩ := List.forall_mem_cons.mp hRight
      rw [List.flatten_cons, List.flatten_cons] at h
      have hRead := hFrame left.flatten
      rw [h, hOther] at hRead
      obtain ⟨-, hRest⟩ := Prod.mk.inj (Option.some.inj hRead)
      rw [hRest] at h
      rw [List.append_cancel_right h, ih hLeft hRight hRest.symm]

end Framing
