import Fetchline.Library.Json
import Mathlib.Algebra.Order.BigOperators.Group.List
import Mathlib.Algebra.Order.Group.Nat
import Mathlib.Algebra.Ring.Nat

/-! # How many bytes a JSON text takes -/

namespace Json

def byteSize (cs : List Char) : Nat := (cs.map Char.utf8Size).sum

@[simp] theorem byteSize_nil : byteSize [] = 0 := rfl

@[simp] theorem byteSize_cons (c : Char) (cs : List Char) :
    byteSize (c :: cs) = c.utf8Size + byteSize cs := by simp [byteSize]

@[simp] theorem byteSize_append (cs ds : List Char) :
    byteSize (cs ++ ds) = byteSize cs + byteSize ds := by simp [byteSize]

theorem utf8ByteSize_eq_byteSize (cs : List Char) :
    (String.ofList cs).utf8ByteSize = byteSize cs := by
  induction cs with
  | nil => rfl
  | cons c cs ih =>
    rw [String.ofList_cons, String.utf8ByteSize_append, String.utf8ByteSize_singleton, ih,
      byteSize_cons]

/-- Each element with a comma behind it; the last comma is not there. -/
theorem byteSize_separated_le (xs : List (List Char)) :
    byteSize (separated xs) ≤ (xs.map fun x => byteSize x + 1).sum := by
  fun_induction separated xs with
  | case1 => exact Nat.le_refl 0
  | case2 x => simp
  | case3 x y rest ih =>
    rw [byteSize_append, byteSize_cons, show Char.utf8Size ',' = 1 from rfl, List.map_cons,
      List.sum_cons]
    omega

theorem itemChars_eq (items : List Value) : itemChars items = items.map Value.chars := by
  induction items with
  | nil => rfl
  | cons v rest ih => rw [itemChars, ih, List.map_cons]

theorem fieldChars_eq (fields : List (String × Value)) :
    fieldChars fields = fields.map fun field => quoted field.1 ++ ':' :: field.2.chars := by
  induction fields with
  | nil => rfl
  | cons field rest ih => rw [fieldChars, ih, List.map_cons]

theorem byteSize_array_le (items : List Value) :
    byteSize (Value.array items).chars ≤ (items.map fun v => byteSize v.chars + 1).sum + 2 := by
  have h := byteSize_separated_le (itemChars items)
  rw [itemChars_eq, List.map_map] at h
  rw [Value.chars, itemChars_eq]
  simp only [List.cons_append, byteSize_cons, byteSize_append, byteSize_nil,
    show Char.utf8Size '[' = 1 from rfl, show Char.utf8Size ']' = 1 from rfl]
  exact Nat.le_trans (by omega) (Nat.add_le_add_right h 2)

theorem byteSize_object_le (fields : List (String × Value)) :
    byteSize (Value.object fields).chars ≤
      (fields.map fun field => byteSize (quoted field.1) + byteSize field.2.chars + 2).sum + 2 := by
  have h := byteSize_separated_le (fieldChars fields)
  rw [fieldChars_eq, List.map_map] at h
  have hField : (fun x => byteSize x + 1) ∘ (fun field : String × Value =>
      quoted field.1 ++ ':' :: field.2.chars) =
      fun field => byteSize (quoted field.1) + byteSize field.2.chars + 2 := by
    funext field
    simp only [Function.comp, byteSize_append, byteSize_cons, show Char.utf8Size ':' = 1 from rfl]
    omega
  rw [hField] at h
  rw [Value.chars, fieldChars_eq]
  simp only [List.cons_append, byteSize_cons, byteSize_append, byteSize_nil,
    show Char.utf8Size '\x7b' = 1 from rfl, show Char.utf8Size '\x7d' = 1 from rfl]
  omega

theorem byteSize_eq_length {cs : List Char} (h : ∀ c ∈ cs, c.utf8Size = 1) :
    byteSize cs = cs.length := by
  induction cs with
  | nil => rfl
  | cons c cs ih =>
    obtain ⟨hHead, hTail⟩ := List.forall_mem_cons.mp h
    rw [byteSize_cons, hHead, ih hTail, List.length_cons, Nat.add_comm]

theorem utf8Size_of_isDigit {c : Char} (h : c.isDigit = true) : c.utf8Size = 1 := by
  rw [Char.utf8Size_eq_one_iff]
  simp only [Char.isDigit, Bool.and_eq_true, decide_eq_true_eq] at h
  exact UInt32.le_trans h.2 (by decide)

theorem byteSize_repr (n : Nat) : byteSize n.repr.toList = n.repr.toList.length := by
  apply byteSize_eq_length
  intro c hc
  rw [Nat.toList_repr] at hc
  exact utf8Size_of_isDigit (Nat.isDigit_of_mem_toDigits (by decide) (by decide) hc)

theorem byteSize_natural_le {n k : Nat} (hk : 0 < k) (h : n < 10 ^ k) :
    byteSize (Value.number n).chars ≤ k := by
  change byteSize n.repr.toList ≤ k
  rw [byteSize_repr, Nat.toList_repr]
  exact (Nat.length_toDigits_le_iff (by decide) hk).mpr h

theorem byteSize_number_le {n : Int} {k : Nat} (hk : 0 < k) (h : n.natAbs < 10 ^ k) :
    byteSize (Value.number n).chars ≤ k + 1 := by
  cases n with
  | ofNat n => exact Nat.le_succ_of_le (byteSize_natural_le hk h)
  | negSucc n =>
    change byteSize ("-" ++ (n + 1).repr).toList ≤ k + 1
    rw [String.toList_append, byteSize_append]
    have hDigits := byteSize_natural_le hk (n := n + 1) h
    change byteSize (n + 1).repr.toList ≤ k at hDigits
    change 1 + _ ≤ _
    omega

end Json
