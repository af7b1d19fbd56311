import Fetchline.Library.Recording
import Fetchline.Modes.Readers

/-! # Reading several positions

The servos are read one by one. What each read gives is left to the environment, in
either mode.
-/

namespace Fetchline.Modes

open Effects Effects.Program Host

variable (serde : Serde) {σ : Type} (H : Handler NetOp NetOp.Reply σ)

/-- Successive reads: the id of each with what it gave, and the state before and after. -/
inductive Reads : List (UInt8 × Except String Int) → BridgeConnection × σ → BridgeConnection × σ →
    Prop where
  | nil (t : BridgeConnection × σ) : Reads [] t t
  | cons {id : UInt8} {result : Except String Int} {c c' : BridgeConnection} {s s' : σ}
      {later : List (UInt8 × Except String Int)} {t : BridgeConnection × σ}
      (read : outcome H (Host.readPosition serde id) c s = ((result, c'), s'))
      (tail : Reads later (c', s') t) : Reads ((id, result) :: later) (c, s) t

/-- The read has not broken the connection. -/
def Usable : Except String Int → Prop
  | .ok _ => True
  | .error error => connectionIsUsableAfter error = true

def positionOf : UInt8 × Except String Int → Option Position
  | (id, .ok position) => some ⟨id, position⟩
  | (_, .error _) => none

def errorOf : UInt8 × Except String Int → Option String
  | (_, .ok _) => none
  | (id, .error error) => some s!"Servo {id}: {error}"

theorem readPositionsFrom_cons (id : UInt8) (ids : List UInt8) (positions : List Position)
    (errors : List String) (c : BridgeConnection) (s : σ) :
    outcome H (Host.readPositionsFrom serde (id :: ids) positions errors) c s =
      match outcome H (Host.readPosition serde id) c s with
      | ((.ok position, c'), s') =>
        outcome H (Host.readPositionsFrom serde ids (positions ++ [⟨id, position⟩]) errors) c' s'
      | ((.error error, c'), s') =>
        if connectionIsUsableAfter error then
          outcome H (Host.readPositionsFrom serde ids positions (errors ++ [s!"Servo {id}: {error}"])) c' s'
        else ((.error error, c'), s') := by
  unfold outcome
  rw [Host.readPositionsFrom, ExceptT.run_mk, StateT.run_bind, run_bind]
  rcases ((Host.readPosition serde id).run.run c).run H s with ⟨⟨error | position, c'⟩, s'⟩
  · simp only
    split <;> rfl
  · rfl

/-- How reading these ids ends, positions and errors already noted: either each id is
read and none breaks the connection, or the last id read does. -/
def Ends (ids : List UInt8) (positions : List Position) (errors : List String)
    (t : BridgeConnection × σ) (ending : (Except String ServerMessage × BridgeConnection) × σ) :
    Prop :=
  (∃ outcomes t', Reads serde H outcomes t t' ∧ outcomes.map Prod.fst = ids ∧
    (∀ read ∈ outcomes, Usable read.2) ∧
    ending = ((.ok (.positions (positions ++ outcomes.filterMap positionOf)
      (errors ++ outcomes.filterMap errorOf)), t'.1), t'.2)) ∨
  ∃ earlier id error later t', Reads serde H (earlier ++ [(id, .error error)]) t t' ∧
    ids = earlier.map Prod.fst ++ id :: later ∧ (∀ read ∈ earlier, Usable read.2) ∧
    connectionIsUsableAfter error = false ∧ ending = ((.error error, t'.1), t'.2)

variable {serde} {H}

theorem filterMap_cons_toList {α β : Type} (f : α → Option β) (a : α) (l : List α) :
    (a :: l).filterMap f = (f a).toList ++ l.filterMap f := by
  rw [List.filterMap_cons]
  cases f a <;> rfl

theorem Ends.cons {id : UInt8} {ids : List UInt8} {positions : List Position}
    {errors : List String} {result : Except String Int} {c c' : BridgeConnection} {s s' : σ}
    {ending : (Except String ServerMessage × BridgeConnection) × σ}
    (hRead : outcome H (Host.readPosition serde id) c s = ((result, c'), s'))
    (hUsable : Usable result)
    (h : Ends serde H ids (positions ++ (positionOf (id, result)).toList)
      (errors ++ (errorOf (id, result)).toList) (c', s') ending) :
    Ends serde H (id :: ids) positions errors (c, s) ending := by
  rcases h with ⟨outcomes, t, hReads, hIds, hAll, hEnding⟩ |
    ⟨earlier, other, error, later, t, hReads, hIds, hAll, hBroken, hEnding⟩
  · refine .inl ⟨(id, result) :: outcomes, t, .cons hRead hReads, ?_,
      List.forall_mem_cons.mpr ⟨hUsable, hAll⟩, ?_⟩
    · rw [List.map_cons, hIds]
    · rw [hEnding, List.append_assoc, List.append_assoc, filterMap_cons_toList positionOf,
        filterMap_cons_toList errorOf]
  · refine .inr ⟨(id, result) :: earlier, other, error, later, t, .cons hRead hReads, ?_,
      List.forall_mem_cons.mpr ⟨hUsable, hAll⟩, hBroken, hEnding⟩
    rw [hIds, List.map_cons, List.cons_append]

theorem readPositionsFrom_ends (ids : List UInt8) (positions : List Position)
    (errors : List String) (c : BridgeConnection) (s : σ) :
    Ends serde H ids positions errors (c, s)
      (outcome H (Host.readPositionsFrom serde ids positions errors) c s) := by
  induction ids generalizing positions errors c s with
  | nil =>
    refine .inl ⟨[], (c, s), .nil _, rfl, List.forall_mem_nil _, ?_⟩
    rw [List.filterMap_nil, List.filterMap_nil, List.append_nil, List.append_nil]
    rfl
  | cons id ids ih =>
    rw [readPositionsFrom_cons]
    rcases hRead : outcome H (Host.readPosition serde id) c s with ⟨⟨error | position, c'⟩, s'⟩
    · simp only
      by_cases hUsable : connectionIsUsableAfter error
      · rw [if_pos hUsable]
        refine .cons hRead hUsable ?_
        rw [positionOf, Option.toList_none, List.append_nil]
        exact ih positions _ c' s'
      · rw [if_neg hUsable]
        exact .inr ⟨[], id, error, ids, (c', s'), .cons hRead (.nil _), rfl, List.forall_mem_nil _,
          eq_false_of_ne_true hUsable, rfl⟩
    · refine .cons hRead trivial ?_
      rw [errorOf, Option.toList_none, List.append_nil]
      exact ih _ errors c' s'

/-- Whatever the servos and the network do: more than six ids are refused before anything
is sent, else every id has its entry unless a read breaks the connection. -/
theorem one_faulty_servo_hides_no_other (ids : List UInt8) (c : BridgeConnection) (s : σ) :
    (6 < ids.length →
      outcome H (Host.readPositions serde ids) c s =
        ((.error "At most six position servos can be read at once", c), s) ∧
      ((Host.readPositions serde ids).run.run c).requests H s = []) ∧
    (ids.length ≤ 6 →
      Ends serde H ids [] [] (c, s) (outcome H (Host.readPositions serde ids) c s)) := by
  constructor
  · intro h
    rw [Host.readPositions, if_pos h]
    exact ⟨rfl, rfl⟩
  · intro h
    rw [Host.readPositions, if_neg (Nat.not_lt.mpr h)]
    exact readPositionsFrom_ends ids [] [] c s

theorem one_faulty_servo_hides_no_other_silent :
    ((Host.readPositions responseReader [1, 2, 3, 4, 5, 6, 1]).run.run ⟨"", .debugRaw, 0⟩).requests
      (tunnel fun _ => []) ⟨[], []⟩ = [] ∧
    Ends responseReader (tunnel fun _ => []) [1, 2, 1] [] [] (⟨"", .debugRaw, 0⟩, ⟨[], []⟩)
      (outcome (tunnel fun _ => []) (Host.readPositions responseReader [1, 2, 1])
        ⟨"", .debugRaw, 0⟩ ⟨[], []⟩) :=
  ⟨((one_faulty_servo_hides_no_other [1, 2, 3, 4, 5, 6, 1] ⟨"", .debugRaw, 0⟩
      (⟨[], []⟩ : Wire)).1 (by decide)).2,
    (one_faulty_servo_hides_no_other [1, 2, 1] ⟨"", .debugRaw, 0⟩ (⟨[], []⟩ : Wire)).2 (by decide)⟩

end Fetchline.Modes
