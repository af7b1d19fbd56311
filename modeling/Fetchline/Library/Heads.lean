import Mathlib.Data.List.Basic

/-! # Heads: lines up to the first empty one

The lines of a head each end in the same two items, and an empty line ends the head. Nothing else
in it looks like that end.
-/

namespace Heads

variable {α β : Type*} {cr lf : α} {lines : List (List α)}

def head (cr lf : α) (lines : List (List α)) : List α :=
  lines.flatMap (· ++ [cr, lf]) ++ [cr, lf]

theorem head_cons (line : List α) (lines : List (List α)) :
    head cr lf (line :: lines) = line ++ cr :: lf :: head cr lf lines := by
  simp only [head, List.flatMap_cons, List.append_assoc, List.cons_append, List.nil_append]

theorem map_head (f : α → β) (lines : List (List α)) :
    (head cr lf lines).map f = head (f cr) (f lf) (lines.map (List.map f)) := by
  simp only [head, List.map_append, List.map_flatMap, List.flatMap_map, List.map_cons, List.map_nil]

theorem head_ends (h : lines ≠ []) : [cr, lf, cr, lf] <:+ head cr lf lines := by
  obtain ⟨front, last, rfl⟩ := (List.eq_nil_or_concat lines).resolve_left h
  refine ⟨front.flatMap (· ++ [cr, lf]) ++ last, ?_⟩
  simp only [head, List.concat_eq_append, List.flatMap_append, List.flatMap_singleton,
    List.append_assoc, List.cons_append, List.nil_append]

/-- No line but the last is empty, and none holds the item that the ends of lines begin with. -/
def Plain (cr : α) (lines : List (List α)) : Prop := ∀ line ∈ lines, line ≠ [] ∧ cr ∉ line

theorem head_begins (hPlain : Plain cr lines) {rest : List α}
    (h : head cr lf lines = cr :: lf :: rest) : rest = [] := by
  cases lines with
  | nil => exact (List.cons.inj (List.cons.inj h).2).2.symm
  | cons line lines =>
    obtain ⟨hLine, hCr⟩ := hPlain line List.mem_cons_self
    obtain ⟨first, line, rfl⟩ := List.exists_cons_of_ne_nil hLine
    rw [head_cons] at h
    obtain ⟨rfl, -⟩ := List.cons.inj h
    exact absurd List.mem_cons_self hCr

/-- The induction is on the lines: an end is either in the line at hand, or behind it. -/
theorem head_first (hEnds : cr ≠ lf) (hPlain : Plain cr lines) {before after : List α}
    (h : head cr lf lines = before ++ [cr, lf, cr, lf] ++ after) : after = [] := by
  induction lines generalizing before with
  | nil =>
    have hLength := congrArg List.length h
    simp only [head, List.flatMap_nil, List.length_append, List.length_cons, List.length_nil]
      at hLength
    omega
  | cons line lines ih =>
    obtain ⟨⟨-, hCr⟩, hLines⟩ := List.forall_mem_cons.mp hPlain
    rw [head_cons, List.append_assoc] at h
    rcases List.append_eq_append_iff.mp h with ⟨rest, rfl, hRest⟩ | ⟨rest, rfl, hRest⟩
    · rcases rest with _ | ⟨first, _ | ⟨second, before⟩⟩
      · obtain ⟨-, hTail⟩ := List.cons.inj hRest
        exact head_begins hLines (List.cons.inj hTail).2
      · exact absurd (List.cons.inj (List.cons.inj hRest).2).1.symm hEnds
      · obtain ⟨-, hTail⟩ := List.cons.inj (List.cons.inj hRest).2
        exact ih hLines (hTail.trans (List.append_assoc _ _ _).symm)
    · rcases rest with _ | ⟨first, rest⟩
      · obtain ⟨-, hTail⟩ := List.cons.inj hRest
        exact head_begins hLines (List.cons.inj hTail).2.symm
      · obtain ⟨rfl, -⟩ := List.cons.inj hRest
        exact absurd (List.mem_append_right _ List.mem_cons_self) hCr

/-- Before it is complete, a head has no empty line. -/
theorem head_prefix (hEnds : cr ≠ lf) (hPlain : Plain cr lines) {front back : List α}
    (h : head cr lf lines = front ++ back) (hBack : back ≠ []) : ¬ [cr, lf, cr, lf] <:+: front := by
  rintro ⟨before, after, rfl⟩
  rw [List.append_assoc] at h
  exact hBack (List.append_eq_nil_iff.mp (head_first hEnds hPlain h)).2

end Heads
