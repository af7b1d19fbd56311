import Mathlib.Data.List.Basic
import Mathlib.Data.List.GetD
import Mathlib.Data.UInt

/-! # The USB scanner

How `scan-sts-servos.py` finds a status frame in what the serial line has brought so
far. Each round of the loop in `extract_status` is a function of its own.
-/

namespace Fetchline.Scanner

/-- `(~sum(values)) & 0xFF`. -/
def checksum (values : List UInt8) : Nat := 255 - (values.map UInt8.toNat).sum % 256

/-- `buffer.find(STS_HEADER)`. -/
def findHeader : List UInt8 → Option Nat
  | a :: b :: rest =>
    if a = 0xff ∧ b = 0xff then some 0 else (findHeader (b :: rest)).map (· + 1)
  | _ => none

/-- How a round ends, with the buffer as it leaves it. -/
inductive Round where
  | continues (buffer : List UInt8)
  | returns (status : Option UInt8) (buffer : List UInt8)
deriving DecidableEq

/-- The rest of a round once the buffer starts with a header. -/
def extractFrame (expectedId : Int) (buffer : List UInt8) : Round :=
  if buffer.length < 4 then .returns none buffer
  else
    let length := (buffer.getD 3 0).toNat
    if ¬ (2 ≤ length ∧ length ≤ 66) then .continues (buffer.drop 1)
    else
      let frameLength := 4 + length
      if buffer.length < frameLength then .returns none buffer
      else
        let frame := buffer.take frameLength
        let buffer := buffer.drop frameLength
        if ((frame.getD 2 0).toNat : Int) ≠ expectedId ∨
            checksum (frame.drop 2).dropLast ≠ (frame.getLastD 0).toNat then .continues buffer
        else .returns (some (frame.getD 4 0)) buffer

def extractRound (expectedId : Int) (buffer : List UInt8) : Round :=
  match findHeader buffer with
  | none => .returns none (if buffer.getLast? = some 0xff then [0xff] else [])
  | some headerOffset => extractFrame expectedId (buffer.drop headerOffset)

/-- `none` when the loop has not ended within this many rounds. -/
def extractRounds (expectedId : Int) : Nat → List UInt8 → Option (Option UInt8 × List UInt8)
  | 0, _ => none
  | rounds + 1, buffer =>
    match extractRound expectedId buffer with
    | .continues buffer => extractRounds expectedId rounds buffer
    | .returns status buffer => some (status, buffer)

theorem extractFrame_shrinks {expectedId : Int} {buffer buffer' : List UInt8}
    (h : extractFrame expectedId buffer = .continues buffer') : buffer'.length < buffer.length := by
  simp only [extractFrame] at h
  split at h
  · cases h
  split at h
  · cases h
    rw [List.length_drop]
    omega
  split at h
  · cases h
  split at h
  · cases h
    rw [List.length_drop]
    omega
  · cases h

theorem extractRound_shrinks {expectedId : Int} {buffer buffer' : List UInt8}
    (h : extractRound expectedId buffer = .continues buffer') : buffer'.length < buffer.length := by
  rw [extractRound] at h
  split at h
  · cases h
  · rename_i headerOffset _
    have hShorter := extractFrame_shrinks h
    rw [List.length_drop] at hShorter
    omega

/-- As many rounds as the buffer has bytes, and one more, are enough. -/
theorem extractRounds_ends (expectedId : Int) {rounds : Nat} {buffer : List UInt8}
    (h : buffer.length < rounds) :
    extractRounds expectedId rounds buffer =
      extractRounds expectedId (buffer.length + 1) buffer ∧
    (extractRounds expectedId rounds buffer).isSome := by
  induction hLength : buffer.length using Nat.strongRecOn generalizing buffer rounds with
  | ind n ih =>
    subst hLength
    obtain ⟨rounds, rfl⟩ : ∃ m, rounds = m + 1 := ⟨rounds - 1, by omega⟩
    rw [extractRounds, extractRounds]
    cases hRound : extractRound expectedId buffer with
    | returns status buffer' => exact ⟨rfl, rfl⟩
    | continues buffer' =>
      have hShorter := extractRound_shrinks hRound
      obtain ⟨hEq, hSome⟩ := ih _ hShorter (by omega : buffer'.length < rounds) rfl
      obtain ⟨hEq', -⟩ := ih _ hShorter hShorter rfl
      exact ⟨hEq.trans hEq'.symm, hSome⟩

def extractStatus (expectedId : Int) (buffer : List UInt8) : Option UInt8 × List UInt8 :=
  (extractRounds expectedId (buffer.length + 1) buffer).getD (none, buffer)

theorem extractStatus_ends (expectedId : Int) {rounds : Nat} {buffer : List UInt8}
    (h : buffer.length < rounds) :
    extractRounds expectedId rounds buffer = some (extractStatus expectedId buffer) := by
  obtain ⟨hEq, hSome⟩ := extractRounds_ends expectedId h
  rw [hEq] at hSome ⊢
  obtain ⟨result, hResult⟩ := Option.isSome_iff_exists.mp hSome
  rw [extractStatus, hResult]
  rfl

/-- A call is its first round and, if that goes on, a call on what it leaves. -/
theorem extractStatus_eq (expectedId : Int) (buffer : List UInt8) :
    extractStatus expectedId buffer =
      match extractRound expectedId buffer with
      | .continues buffer' => extractStatus expectedId buffer'
      | .returns status buffer' => (status, buffer') := by
  have hEnds := extractStatus_ends expectedId (Nat.lt_succ_self buffer.length)
  rw [extractRounds] at hEnds
  cases hRound : extractRound expectedId buffer with
  | returns status buffer' =>
    rw [hRound] at hEnds
    exact (Option.some.inj hEnds).symm
  | continues buffer' =>
    rw [hRound] at hEnds
    simp only [extractStatus_ends expectedId (extractRound_shrinks hRound)] at hEnds
    exact (Option.some.inj hEnds).symm

theorem findHeader_append {buffer : List UInt8} {n : Nat} (h : findHeader buffer = some n)
    (more : List UInt8) : n ≤ buffer.length ∧ findHeader (buffer ++ more) = some n := by
  induction buffer using findHeader.induct generalizing n with
  | case1 a b rest hHeader =>
    rw [findHeader, if_pos hHeader] at h
    cases h
    exact ⟨Nat.zero_le _, if_pos hHeader⟩
  | case2 a b rest hHeader ih =>
    rw [findHeader, if_neg hHeader] at h
    obtain ⟨m, hRest, rfl⟩ := Option.map_eq_some_iff.mp h
    obtain ⟨hLength, hMore⟩ := ih hRest
    refine ⟨Nat.succ_le_succ hLength, ?_⟩
    rw [List.cons_append] at hMore
    rw [List.cons_append, List.cons_append, findHeader, if_neg hHeader, hMore]
    rfl
  | case3 buffer hShort =>
    unfold findHeader at h
    split at h
    · exact absurd rfl (hShort _ _ _)
    · cases h

theorem findHeader_drop {buffer : List UInt8} {n : Nat} (h : findHeader buffer = some n) :
    findHeader (buffer.drop n) = some 0 := by
  induction buffer using findHeader.induct generalizing n with
  | case1 a b rest hHeader =>
    rw [findHeader, if_pos hHeader] at h
    cases h
    exact if_pos hHeader
  | case2 a b rest hHeader ih =>
    rw [findHeader, if_neg hHeader] at h
    obtain ⟨m, hRest, rfl⟩ := Option.map_eq_some_iff.mp h
    exact ih hRest
  | case3 buffer hShort =>
    unfold findHeader at h
    split at h
    · exact absurd rfl (hShort _ _ _)
    · cases h

/-- A byte that starts no header is dropped sooner or later. -/
theorem extractRound_skip (expectedId : Int) {a : UInt8} {buffer : List UInt8}
    (hLast : buffer = [] → a ≠ 0xff) (hHeader : ¬ (a = 0xff ∧ buffer.head? = some 0xff)) :
    extractRound expectedId (a :: buffer) = extractRound expectedId buffer := by
  cases buffer with
  | nil =>
    rw [extractRound, extractRound]
    change Round.returns none (if some a = some 0xff then [0xff] else []) = _
    rw [if_neg fun h => hLast rfl (Option.some.inj h)]
    rfl
  | cons b rest =>
    have hHeader : ¬ (a = 0xff ∧ b = 0xff) := fun ⟨ha, hb⟩ => hHeader ⟨ha, congrArg some hb⟩
    rw [extractRound, extractRound, findHeader, if_neg hHeader]
    cases findHeader (b :: rest) with
    | none =>
      rw [Option.map_none]
      simp only [List.getLast?_cons_cons]
    | some n => rfl

/-- Noise leaves at most a last `0xff` behind. -/
theorem extractRound_noise (expectedId : Int) {buffer : List UInt8}
    (h : findHeader buffer = none) (more : List UInt8) :
    extractRound expectedId (buffer ++ more) =
      extractRound expectedId ((if buffer.getLast? = some 0xff then [0xff] else []) ++ more) := by
  induction buffer using findHeader.induct with
  | case1 a b rest hHeader =>
    rw [findHeader, if_pos hHeader] at h
    cases h
  | case2 a b rest hHeader ih =>
    rw [findHeader, if_neg hHeader, Option.map_eq_none_iff] at h
    rw [List.getLast?_cons_cons, ← ih h]
    exact extractRound_skip expectedId nofun fun ⟨ha, hb⟩ => hHeader ⟨ha, Option.some.inj hb⟩
  | case3 buffer hShort =>
    match buffer, hShort with
    | [], _ => rfl
    | [a], _ =>
      by_cases ha : a = 0xff
      · rw [ha]
        rfl
      · have hLast : ¬ [a].getLast? = some 0xff := fun hEq => ha (Option.some.inj hEq)
        rw [if_neg hLast]
        exact extractRound_skip expectedId (fun _ => ha) fun hBoth => ha hBoth.1
    | a :: b :: rest, hShort => exact absurd rfl (hShort a b rest)

theorem extractFrame_append {expectedId : Int} {buffer buffer' : List UInt8}
    (h : extractFrame expectedId buffer = .continues buffer') (more : List UInt8) :
    extractFrame expectedId (buffer ++ more) = .continues (buffer' ++ more) := by
  simp only [extractFrame] at h ⊢
  by_cases hHead : buffer.length < 4
  · rw [if_pos hHead] at h
    cases h
  have hByte : (buffer ++ more).getD 3 0 = buffer.getD 3 0 :=
    List.getD_append _ _ _ _ (by omega)
  rw [if_neg hHead] at h
  rw [if_neg (by rw [List.length_append]; omega), hByte]
  by_cases hRange : 2 ≤ (buffer.getD 3 0).toNat ∧ (buffer.getD 3 0).toNat ≤ 66
  case neg =>
    rw [if_pos hRange] at h ⊢
    cases h
    rw [List.drop_append_of_le_length (by omega)]
  rw [if_neg (not_not_intro hRange)] at h ⊢
  by_cases hFrame : buffer.length < 4 + (buffer.getD 3 0).toNat
  · rw [if_pos hFrame] at h
    cases h
  rw [if_neg hFrame] at h
  rw [if_neg (by rw [List.length_append]; omega), List.take_append_of_le_length (by omega),
    List.drop_append_of_le_length (by omega)]
  split at h
  · rename_i hWrong
    cases h
    rw [if_pos hWrong]
  · cases h

theorem extractFrame_waits {expectedId : Int} {buffer buffer' : List UInt8}
    (h : extractFrame expectedId buffer = .returns none buffer') : buffer' = buffer := by
  simp only [extractFrame] at h
  split at h
  · cases h
    rfl
  split at h
  · cases h
  split at h
  · cases h
    rfl
  split at h <;> cases h

theorem extractRound_append {expectedId : Int} {buffer buffer' : List UInt8}
    (h : extractRound expectedId buffer = .continues buffer') (more : List UInt8) :
    extractRound expectedId (buffer ++ more) = .continues (buffer' ++ more) := by
  rw [extractRound] at h
  cases hFound : findHeader buffer with
  | none =>
    rw [hFound] at h
    cases h
  | some n =>
    rw [hFound] at h
    obtain ⟨hLength, hMore⟩ := findHeader_append hFound more
    rw [extractRound, hMore]
    simp only
    rw [List.drop_append_of_le_length hLength]
    exact extractFrame_append h more

/-- A round that waits for more bytes has lost nothing that they could complete. -/
theorem extractRound_resumes {expectedId : Int} {buffer buffer' : List UInt8}
    (h : extractRound expectedId buffer = .returns none buffer') (more : List UInt8) :
    extractRound expectedId (buffer ++ more) = extractRound expectedId (buffer' ++ more) := by
  rw [extractRound] at h
  cases hFound : findHeader buffer with
  | none =>
    rw [hFound] at h
    cases h
    exact extractRound_noise expectedId hFound more
  | some n =>
    rw [hFound] at h
    obtain rfl := extractFrame_waits h
    obtain ⟨hLength, hMore⟩ := findHeader_append hFound more
    obtain ⟨-, hAgain⟩ := findHeader_append (findHeader_drop hFound) more
    rw [extractRound, hMore, extractRound, hAgain]
    simp only [List.drop_append_of_le_length hLength, List.drop_zero]

theorem extractStatus_resumes {expectedId : Int} {buffer buffer' : List UInt8}
    (h : extractStatus expectedId buffer = (none, buffer')) (more : List UInt8) :
    extractStatus expectedId (buffer ++ more) = extractStatus expectedId (buffer' ++ more) := by
  induction hLength : buffer.length using Nat.strongRecOn generalizing buffer with
  | ind n ih =>
    subst hLength
    rw [extractStatus_eq] at h
    cases hRound : extractRound expectedId buffer with
    | continues shorter =>
      rw [hRound] at h
      rw [extractStatus_eq, extractRound_append hRound more]
      exact ih _ (extractRound_shrinks hRound) h rfl
    | returns status rest =>
      rw [hRound] at h
      obtain ⟨rfl, rfl⟩ := Prod.mk.inj h
      rw [extractStatus_eq, extractRound_resumes hRound more, ← extractStatus_eq]

/-- `extract_status` after each chunk, until it returns a status; the chunks left over. -/
def feed (expectedId : Int) : List UInt8 → List (List UInt8) →
    (Option UInt8 × List UInt8) × List (List UInt8)
  | buffer, [] => ((none, buffer), [])
  | buffer, chunk :: chunks =>
    match extractStatus expectedId (buffer ++ chunk) with
    | (some status, buffer) => ((some status, buffer), chunks)
    | (none, buffer) => feed expectedId buffer chunks

/-- `read_status` on what the reads give before the deadline. -/
def readStatus (expectedId : Int) : List UInt8 → List (List UInt8) → Option UInt8
  | _, [] => none
  | buffer, chunk :: chunks =>
    if chunk = [] then readStatus expectedId buffer chunks
    else
      match extractStatus expectedId (buffer ++ chunk) with
      | (some status, _) => some status
      | (none, buffer) => readStatus expectedId buffer chunks

theorem feed_eq {expectedId : Int} {read buffer : List UInt8}
    (h : extractStatus expectedId read = (none, buffer)) (chunks : List (List UInt8)) :
    ∃ used left, chunks = used ++ left ∧
      feed expectedId buffer chunks = (extractStatus expectedId (read ++ used.flatten), left) ∧
      ((extractStatus expectedId (read ++ used.flatten)).1 = none → left = []) := by
  induction chunks generalizing read buffer with
  | nil =>
    refine ⟨[], [], rfl, ?_, fun _ => rfl⟩
    rw [List.flatten_nil, List.append_nil, h]
    rfl
  | cons chunk chunks ih =>
    have hResumes := extractStatus_resumes h chunk
    rw [feed, ← hResumes]
    rcases hChunk : extractStatus expectedId (read ++ chunk) with ⟨_ | status, buffer'⟩
    · obtain ⟨used, left, rfl, hFeed, hLeft⟩ := ih hChunk
      rw [List.append_assoc, ← List.flatten_cons] at hFeed hLeft
      exact ⟨chunk :: used, left, rfl, hFeed, hLeft⟩
    · refine ⟨[chunk], chunks, rfl, ?_, ?_⟩
      · rw [List.flatten_singleton, hChunk]
      · rw [List.flatten_singleton, hChunk]
        nofun

theorem extractStatus_nil (expectedId : Int) : extractStatus expectedId [] = (none, []) := rfl

theorem extractStatus_again {expectedId : Int} {read buffer : List UInt8}
    (h : extractStatus expectedId read = (none, buffer)) :
    extractStatus expectedId buffer = (none, buffer) := by
  have hResumes := extractStatus_resumes h []
  rwa [List.append_nil, List.append_nil, h, eq_comm] at hResumes

theorem readStatus_eq_feed {expectedId : Int} {buffer : List UInt8}
    (h : extractStatus expectedId buffer = (none, buffer)) (chunks : List (List UInt8)) :
    readStatus expectedId buffer chunks = (feed expectedId buffer chunks).1.1 := by
  induction chunks generalizing buffer with
  | nil => rfl
  | cons chunk chunks ih =>
    rw [readStatus, feed]
    by_cases hEmpty : chunk = []
    · rw [if_pos hEmpty, hEmpty, List.append_nil, h]
      exact ih h
    · rw [if_neg hEmpty]
      rcases hChunk : extractStatus expectedId (buffer ++ chunk) with ⟨_ | status, buffer'⟩
      · exact ih (extractStatus_again hChunk)
      · rfl

/-- However the serial line cuts the stream up, the scanner finds what one call on the
bytes read so far finds, and no call goes on for ever. -/
theorem chunks_make_no_difference (expectedId : Int) :
    (∀ chunks : List (List UInt8), ∃ used left, chunks = used ++ left ∧
      feed expectedId [] chunks = (extractStatus expectedId used.flatten, left) ∧
      ((extractStatus expectedId used.flatten).1 = none → left = [])) ∧
    (∀ chunks : List (List UInt8),
      readStatus expectedId [] chunks = (feed expectedId [] chunks).1.1) ∧
    ∀ (buffer : List UInt8) (more : Nat),
      extractRounds expectedId (buffer.length + 1 + more) buffer =
        some (extractStatus expectedId buffer) := by
  refine ⟨fun chunks => ?_, readStatus_eq_feed (extractStatus_nil expectedId), fun buffer more =>
    extractStatus_ends expectedId (by omega)⟩
  simpa only [List.nil_append] using feed_eq (extractStatus_nil expectedId) chunks

example : feed 7 [] [[0x00, 0xff], [0xff, 7, 2], [0x20, 0xd6], [0xff]] = ((some 0x20, []), [[0xff]]) := by
  decide +kernel

end Fetchline.Scanner
