import Fetchline.Controller.StatusGrammar
import Fetchline.Scripts.Scanner

/-!
# Where the USB scanner hears a status

What is on the line is split into frames and single bytes, without the buffer of the script.
`extract_status` returns the error byte of the first status frame that this comes to.
-/

namespace Fetchline.Scanner

/-- ID, length byte, and as many bytes as that says: a frame without its header. -/
def IsFrame (packet : List UInt8) : Prop :=
  ∃ servoId length body, packet = servoId :: length :: body ∧
    2 ≤ length.toNat ∧ length.toNat ≤ 66 ∧ body.length = length.toNat

/-- A header, an ID and a length byte in range, whether the frame is complete or not. -/
def StartsFrame (bytes : List UInt8) : Prop :=
  ∃ servoId length more, bytes = 0xff :: 0xff :: servoId :: length :: more ∧
    2 ≤ length.toNat ∧ length.toNat ≤ 66

def IsStatus (servoId error : UInt8) (packet : List UInt8) : Prop :=
  ∃ parameters, parameters.length ≤ 64 ∧ packet = statusFrame servoId error parameters

/-- A byte at which no frame starts is passed over, and a frame that is no status of this servo
is passed over whole, with what looks like a header inside it. -/
inductive Heard (servoId error : UInt8) : List UInt8 → Prop
  | status {packet : List UInt8} (rest : List UInt8) :
    IsStatus servoId error packet → Heard servoId error (0xff :: 0xff :: (packet ++ rest))
  | noise {byte : UInt8} {rest : List UInt8} :
    ¬ StartsFrame (byte :: rest) → Heard servoId error rest → Heard servoId error (byte :: rest)
  | otherFrame {packet rest : List UInt8} :
    IsFrame packet → (∀ error, ¬ IsStatus servoId error packet) → Heard servoId error rest →
      Heard servoId error (0xff :: 0xff :: (packet ++ rest))

theorem checksum_eq (bytes : List UInt8) : checksum bytes = (Fetchline.checksum bytes).toNat := by
  rw [Fetchline.checksum_eq, UInt8.toNat_not, UInt8.toNat_ofNat', checksum]
  rfl

theorem IsFrame.fields {packet : List UInt8} (h : IsFrame packet) :
    ∃ id length error parameters c, packet = id :: length :: error :: (parameters ++ [c]) ∧
      length.toNat = parameters.length + 2 ∧ parameters.length ≤ 64 := by
  obtain ⟨servoId, length, body, rfl, hLow, hHigh, hBody⟩ := h
  have hLong : 4 ≤ (servoId :: length :: body).length := by
    simp only [List.length_cons]
    omega
  obtain ⟨id, length', error, parameters, c, hFields⟩ := exists_fields hLong
  obtain ⟨rfl, hTail⟩ := List.cons.inj hFields
  obtain ⟨rfl, rfl⟩ := List.cons.inj hTail
  simp only [List.length_cons, List.length_append, List.length_nil] at hBody
  exact ⟨servoId, length, error, parameters, c, rfl, by omega, by omega⟩

section Fields

variable {id length error c : UInt8} {parameters : List UInt8}

theorem isStatus_fields (hLength : length.toNat = parameters.length + 2)
    (hShort : parameters.length ≤ 64) (servoId error' : UInt8) :
    IsStatus servoId error' (id :: length :: error :: (parameters ++ [c])) ↔
      id = servoId ∧ Fetchline.checksum (id :: length :: error :: parameters) = c ∧
        error = error' := by
  have hStatus : IsStatus servoId error' (id :: length :: error :: (parameters ++ [c])) ↔
      ∃ parameters', decodeStatusPacket (id :: length :: error :: (parameters ++ [c])) servoId =
        .ok ⟨error', parameters'⟩ :=
    exists_congr fun parameters' => (decodeStatusPacket_ok_iff _ servoId error' parameters').symm
  rw [hStatus, decodeStatusPacket_cons, if_neg (by omega)]
  constructor
  · rintro ⟨parameters', hDecoded⟩
    split at hDecoded
    · cases hDecoded
    rename_i hId
    split at hDecoded
    · cases hDecoded
    rename_i hSum
    exact ⟨not_not.mp hId, not_not.mp hSum, congrArg StatusPacket.error (Except.ok.inj hDecoded)⟩
  · rintro ⟨rfl, rfl, rfl⟩
    refine ⟨parameters, ?_⟩
    rw [if_neg (not_not_intro rfl), if_neg (not_not_intro rfl)]

theorem extractFrame_fields (hLength : length.toNat = parameters.length + 2)
    (hShort : parameters.length ≤ 64) (servoId : UInt8) (rest : List UInt8) :
    extractFrame servoId.toNat
        (0xff :: 0xff :: (id :: length :: error :: (parameters ++ [c]) ++ rest)) =
      if id = servoId ∧ Fetchline.checksum (id :: length :: error :: parameters) = c then
        .returns (some error) rest
      else .continues rest := by
  have hFrame : (0xff :: 0xff :: id :: length :: error :: (parameters ++ [c])).length =
      4 + length.toNat := by
    simp only [List.length_cons, List.length_append, List.length_nil]
    omega
  have hTake : (0xff :: 0xff :: (id :: length :: error :: (parameters ++ [c]) ++ rest)).take
      (4 + length.toNat) = 0xff :: 0xff :: id :: length :: error :: (parameters ++ [c]) :=
    List.take_left' hFrame
  have hDrop : (0xff :: 0xff :: (id :: length :: error :: (parameters ++ [c]) ++ rest)).drop
      (4 + length.toNat) = rest := List.drop_left' hFrame
  have hAll : (0xff :: 0xff :: (id :: length :: error :: (parameters ++ [c]) ++ rest)).length =
      4 + length.toNat + rest.length := by
    rw [← hFrame, ← List.length_append]
    rfl
  have hByte : (0xff :: 0xff :: (id :: length :: error :: (parameters ++ [c]) ++ rest)).getD 3 0 =
      length := rfl
  have hBody : (id :: length :: error :: (parameters ++ [c])).dropLast =
      id :: length :: error :: parameters := by
    rw [← List.cons_append, ← List.cons_append, ← List.cons_append, List.dropLast_concat]
  have hLast : (0xff :: 0xff :: id :: length :: error :: (parameters ++ [c])).getLastD 0 = c := by
    change (0xff :: 0xff :: id :: length :: error :: parameters ++ [c]).getLastD 0 = c
    rw [List.getLastD_concat]
  simp only [extractFrame, hByte, hTake, hDrop, hLast]
  rw [if_neg (by omega), if_neg (by omega), if_neg (by omega)]
  change (if (id.toNat : Int) ≠ servoId.toNat ∨ checksum (id :: length :: error ::
    (parameters ++ [c])).dropLast ≠ c.toNat then _ else _) = _
  rw [hBody, checksum_eq]
  by_cases hRight : id = servoId ∧ Fetchline.checksum (id :: length :: error :: parameters) = c
  · rw [if_pos hRight, if_neg]
    · rfl
    · rw [hRight.2, hRight.1]
      simp
  · rw [if_neg hRight, if_pos]
    by_contra hNeither
    rw [not_or, not_not, not_not, Int.natCast_inj, UInt8.toNat_inj, UInt8.toNat_inj] at hNeither
    exact hRight hNeither

end Fields

section Rounds

variable {servoId error : UInt8} {packet : List UInt8}

theorem extractRound_header (bytes : List UInt8) :
    extractRound servoId.toNat (0xff :: 0xff :: bytes) =
      extractFrame servoId.toNat (0xff :: 0xff :: bytes) := rfl

theorem IsStatus.isFrame (h : IsStatus servoId error packet) : IsFrame packet := by
  obtain ⟨parameters, hShort, rfl⟩ := h
  have hByte : (UInt8.ofNat (parameters.length + 2)).toNat = parameters.length + 2 :=
    UInt8.toNat_ofNat_of_lt' (by change _ < 256; omega)
  rw [statusFrame_eq]
  refine ⟨servoId, UInt8.ofNat (parameters.length + 2), error :: (parameters ++ [_]), rfl, ?_⟩
  rw [hByte]
  refine ⟨Nat.le_add_left 2 _, Nat.add_le_add_right hShort 2, ?_⟩
  rw [List.length_cons, List.length_append]
  rfl

theorem extractRound_status (h : IsStatus servoId error packet) (rest : List UInt8) :
    extractRound servoId.toNat (0xff :: 0xff :: (packet ++ rest)) = .returns (some error) rest := by
  obtain ⟨id, length, error', parameters, c, rfl, hLength, hShort⟩ := h.isFrame.fields
  obtain ⟨hId, hSum, rfl⟩ := (isStatus_fields hLength hShort servoId error).mp h
  rw [extractRound_header, extractFrame_fields hLength hShort, if_pos ⟨hId, hSum⟩]

theorem extractRound_otherFrame (hFrame : IsFrame packet)
    (h : ∀ error, ¬ IsStatus servoId error packet) (rest : List UInt8) :
    extractRound servoId.toNat (0xff :: 0xff :: (packet ++ rest)) = .continues rest := by
  obtain ⟨id, length, error, parameters, c, rfl, hLength, hShort⟩ := hFrame.fields
  rw [extractRound_header, extractFrame_fields hLength hShort, if_neg]
  rintro ⟨hId, hSum⟩
  exact h error ((isStatus_fields hLength hShort servoId error).mpr ⟨hId, hSum, rfl⟩)

theorem extractStatus_short {buffer : List UInt8} (h : buffer.length < 4) :
    (extractStatus servoId.toNat buffer).1 = none := by
  rw [extractStatus_eq, extractRound]
  cases findHeader buffer with
  | none => rfl
  | some n =>
    have hShort : (buffer.drop n).length < 4 := by
      rw [List.length_drop]
      omega
    simp only [extractFrame, if_pos hShort]

theorem extractStatus_noise {byte : UInt8} {rest : List UInt8} (h : ¬ StartsFrame (byte :: rest)) :
    (extractStatus servoId.toNat (byte :: rest)).1 = (extractStatus servoId.toNat rest).1 := by
  by_cases hShort : (byte :: rest).length < 4
  · rw [extractStatus_short hShort, extractStatus_short (Nat.lt_of_succ_lt hShort)]
  obtain _ | ⟨b, _ | ⟨id, _ | ⟨length, more⟩⟩⟩ := rest
  · exact absurd (by decide : 1 < 4) hShort
  · exact absurd (by decide : 2 < 4) hShort
  · exact absurd (by decide : 3 < 4) hShort
  by_cases hHeader : byte = 0xff ∧ b = 0xff
  · obtain ⟨rfl, rfl⟩ := hHeader
    have hRange : ¬ (2 ≤ length.toNat ∧ length.toNat ≤ 66) :=
      fun hRange => h ⟨id, length, more, rfl, hRange⟩
    rw [extractStatus_eq, extractRound_header]
    simp only [extractFrame]
    rw [if_neg hShort]
    have hByte : (0xff :: 0xff :: id :: length :: more).getD 3 0 = length := rfl
    rw [hByte, if_pos hRange]
    rfl
  · have hSkip : extractRound servoId.toNat (byte :: b :: id :: length :: more) =
        extractRound servoId.toNat (b :: id :: length :: more) :=
      extractRound_skip _ (absurd · (List.cons_ne_nil _ _)) fun hBoth => hHeader ⟨hBoth.1, Option.some.inj hBoth.2⟩
    rw [extractStatus_eq, hSkip, ← extractStatus_eq]

theorem extractStatus_incomplete {id length : UInt8} {more : List UInt8}
    (hLow : 2 ≤ length.toNat) (hHigh : length.toNat ≤ 66) (h : more.length < length.toNat) :
    (extractStatus servoId.toNat (0xff :: 0xff :: id :: length :: more)).1 = none := by
  have hByte : (0xff :: 0xff :: id :: length :: more).getD 3 0 = length := rfl
  rw [extractStatus_eq, extractRound_header]
  simp only [extractFrame, hByte, List.length_cons]
  rw [if_neg (by omega), if_neg (not_not_intro ⟨hLow, hHigh⟩), if_pos (by omega)]

/-- The script returns a status just where one is to be heard. -/
theorem extractStatus_iff_heard (bytes : List UInt8) :
    (extractStatus servoId.toNat bytes).1 = some error ↔ Heard servoId error bytes := by
  constructor
  · intro h
    induction hLength : bytes.length using Nat.strongRecOn generalizing bytes with
    | ind n ih =>
      subst hLength
      obtain _ | ⟨byte, rest⟩ := bytes
      · cases h
      by_cases hStarts : StartsFrame (byte :: rest)
      · obtain ⟨id, length, more, hBytes, hLow, hHigh⟩ := hStarts
        rw [hBytes] at h ih ⊢
        by_cases hMore : more.length < length.toNat
        · rw [extractStatus_incomplete hLow hHigh hMore] at h
          cases h
        have hFrame : IsFrame (id :: length :: more.take length.toNat) :=
          ⟨id, length, _, rfl, hLow, hHigh, List.length_take_of_le (Nat.le_of_not_lt hMore)⟩
        have hSplit : id :: length :: more =
            (id :: length :: more.take length.toNat) ++ more.drop length.toNat := by
          rw [List.cons_append, List.cons_append, List.take_append_drop]
        rw [hSplit] at h ⊢
        by_cases hStatus : ∃ error', IsStatus servoId error' (id :: length :: more.take length.toNat)
        · obtain ⟨error', hStatus⟩ := hStatus
          rw [extractStatus_eq, extractRound_status hStatus] at h
          obtain rfl := Option.some.inj h
          exact .status _ hStatus
        · have hOther := not_exists.mp hStatus
          rw [extractStatus_eq, extractRound_otherFrame hFrame hOther] at h
          refine .otherFrame hFrame hOther (ih _ ?_ _ h rfl)
          simp only [List.length_drop, List.length_cons]
          omega
      · rw [extractStatus_noise hStarts] at h
        exact .noise hStarts (ih _ (Nat.lt_succ_self rest.length) rest h rfl)
  · intro h
    induction h with
    | status rest hStatus => rw [extractStatus_eq, extractRound_status hStatus]
    | noise hStarts _ ih => rwa [extractStatus_noise hStarts]
    | otherFrame hFrame hOther _ ih =>
      rwa [extractStatus_eq, extractRound_otherFrame hFrame hOther]

end Rounds

end Fetchline.Scanner
