import Mathlib.Data.List.DropRight

/-! # Texts as the standard library of the source cuts them up -/

namespace Text

/-- The Unicode characters with the `White_Space` property. -/
def isWhitespace (c : Char) : Bool :=
  ('\t' ≤ c && c ≤ '\r') || c == ' ' || c.toNat == 0x85 || c.toNat == 0xa0 ||
    c.toNat == 0x1680 || (0x2000 ≤ c.toNat && c.toNat ≤ 0x200a) || c.toNat == 0x2028 ||
    c.toNat == 0x2029 || c.toNat == 0x202f || c.toNat == 0x205f || c.toNat == 0x3000

def trimEnds (p : Char → Bool) (chars : List Char) : List Char :=
  (chars.dropWhile p).rdropWhile p

def trim (s : String) : String := String.ofList (trimEnds isWhitespace s.toList)

example : trim " \t192.168.1.123\r\n" = "192.168.1.123" := by decide +kernel

theorem trimEnds_trimEnds (p : Char → Bool) (chars : List Char) :
    trimEnds p (trimEnds p chars) = trimEnds p chars := by
  have hFront : (trimEnds p chars).dropWhile p = trimEnds p chars := by
    rw [List.dropWhile_eq_self_iff]
    intro hLength hFirst
    obtain ⟨rest, hPrefix⟩ := List.rdropWhile_prefix p (chars.dropWhile p)
    have hDropped : 0 < (chars.dropWhile p).length := by
      rw [← hPrefix, List.length_append]
      exact Nat.lt_of_lt_of_le hLength (Nat.le_add_right _ _)
    have hHead : (chars.dropWhile p)[0] = (trimEnds p chars)[0] := by
      rw [List.getElem_of_eq hPrefix.symm]
      exact List.getElem_append_left hLength
    exact List.dropWhile_get_zero_not p chars hDropped (by rw [List.get_eq_getElem, hHead]; exact hFirst)
  rw [trimEnds, hFront]
  exact List.rdropWhile_idempotent p _

theorem trim_trim (s : String) : trim (trim s) = trim s := by
  rw [trim, trim, String.toList_ofList, trimEnds_trimEnds]

/-- `str::split("\r\n")`. -/
def splitCrlf : List Char → List (List Char)
  | [] => [[]]
  | '\r' :: '\n' :: rest => [] :: splitCrlf rest
  | c :: rest =>
    match splitCrlf rest with
    | line :: lines => (c :: line) :: lines
    | [] => [[c]]

def splitOnce (separator : Char) : List Char → Option (List Char × List Char)
  | [] => none
  | c :: rest =>
    if c = separator then some ([], rest)
    else (splitOnce separator rest).map fun (before, after) => (c :: before, after)

def eqIgnoreAsciiCase (left right : List Char) : Bool :=
  left.map Char.toLower == right.map Char.toLower

theorem splitOnce_eq_some_iff {separator : Char} {chars before after : List Char} :
    splitOnce separator chars = some (before, after) ↔
      chars = before ++ separator :: after ∧ separator ∉ before := by
  induction chars generalizing before with
  | nil => exact iff_of_false nofun fun h => by cases before <;> cases h.1
  | cons c rest ih =>
    rw [splitOnce]
    rcases eq_or_ne c separator with rfl | hc
    · rw [if_pos rfl]
      constructor
      · intro h
        cases h
        exact ⟨rfl, nofun⟩
      · rintro ⟨hEq, hNot⟩
        cases before with
        | nil =>
          cases hEq
          rfl
        | cons b before => exact absurd ((List.cons.inj hEq).1 ▸ List.mem_cons_self) hNot
    · rw [if_neg hc]
      constructor
      · intro h
        obtain ⟨⟨before', after'⟩, hRest, hPair⟩ := Option.map_eq_some_iff.mp h
        cases hPair
        obtain ⟨rfl, hNot⟩ := ih.mp hRest
        refine ⟨rfl, ?_⟩
        rw [List.mem_cons]
        exact not_or.mpr ⟨fun h => hc h.symm, hNot⟩
      · rintro ⟨hEq, hNot⟩
        cases before with
        | nil => exact absurd (List.cons.inj hEq).1 hc
        | cons b before =>
          obtain ⟨rfl, rfl⟩ := List.cons.inj hEq
          rw [ih.mpr ⟨rfl, fun h => hNot (List.mem_cons_of_mem _ h)⟩]
          rfl

theorem splitCrlf_line {line : List Char} (h : '\r' ∉ line) (rest : List Char) :
    splitCrlf (line ++ '\r' :: '\n' :: rest) = line :: splitCrlf rest := by
  induction line with
  | nil => rfl
  | cons c line ih =>
    rw [List.mem_cons, not_or] at h
    rw [List.cons_append, splitCrlf, ih h.2]
    rintro tail rfl -
    exact h.1 rfl

end Text
