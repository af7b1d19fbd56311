import Fetchline.Controller.Packet
import Fetchline.Library.LatinFold

/-! # The grammar of status packets

What the decoder accepts, and what a single wrong byte does to it.
-/

namespace Fetchline

/-- A status frame after its header: id, length, error, parameters, and the complement
of the sum of all of these. -/
def statusFrame (id error : UInt8) (parameters : List UInt8) : List UInt8 :=
  let body := [id, UInt8.ofNat (parameters.length + 2), error] ++ parameters
  body ++ [~~~ UInt8.ofNat (body.map UInt8.toNat).sum]

theorem foldl_add_eq (bytes : List UInt8) (sum : UInt8) :
    bytes.foldl (· + ·) sum = sum + UInt8.ofNat (bytes.map UInt8.toNat).sum := by
  induction bytes generalizing sum with
  | nil =>
    rw [List.foldl_nil, List.map_nil, List.sum_nil]
    exact (UInt8.add_zero sum).symm
  | cons byte bytes ih =>
    rw [List.foldl_cons, ih, List.map_cons, List.sum_cons, UInt8.ofNat_add, UInt8.ofNat_toNat,
      UInt8.add_assoc]

theorem checksum_eq (bytes : List UInt8) :
    checksum bytes = ~~~ UInt8.ofNat (bytes.map UInt8.toNat).sum := by
  rw [checksum, foldl_add_eq, UInt8.zero_add]

theorem addByte_latin : LatinStep fun sum byte : UInt8 => sum + byte := by
  constructor
  · intro byte left right h
    exact (UInt8.add_left_inj byte).mp h
  · intro sum left right h
    exact (UInt8.add_right_inj sum).mp h

/-- A frame sums up to `0xff`. -/
theorem foldl_checksum (bytes : List UInt8) :
    (bytes ++ [checksum bytes]).foldl (· + ·) 0 = 0xff := by
  rw [List.foldl_append, checksum]
  apply UInt8.toBitVec_inj.mp
  exact BitVec.add_not_self _

theorem decodeStatusPacket_cons (id length error c expectedId : UInt8) (parameters : List UInt8) :
    decodeStatusPacket (id :: length :: error :: (parameters ++ [c])) expectedId =
      if ¬ (2 ≤ length.toNat ∧ length.toNat ≤ 66) ∨ parameters.length + 4 ≠ length.toNat + 2 then
        .error .invalidLength
      else if id ≠ expectedId then .error .unexpectedId
      else if checksum (id :: length :: error :: parameters) ≠ c then .error .invalidChecksum
      else .ok ⟨error, parameters⟩ := by
  have hLength : (id :: length :: error :: (parameters ++ [c])).length = parameters.length + 4 := by
    simp only [List.length_cons, List.length_append, List.length_nil]
  have hDropLast : (id :: length :: error :: (parameters ++ [c])).dropLast =
      id :: length :: error :: parameters := by
    rw [← List.cons_append, ← List.cons_append, ← List.cons_append, List.dropLast_concat]
  have hLast : (id :: length :: error :: (parameters ++ [c])).getD (parameters.length + 4 - 1) 0 = c := by
    change (parameters ++ [c]).getD parameters.length 0 = c
    rw [List.getD_eq_getElem?_getD, List.getElem?_concat_length]
    rfl
  rw [decodeStatusPacket, hLength, if_neg (by omega), hDropLast, hLast]
  change (if _ then _ else if _ then _ else if _ then _ else
    Except.ok (StatusPacket.mk error (parameters ++ [c]).dropLast)) = _
  rw [List.dropLast_concat]
  rfl

theorem exists_fields {packet : List UInt8} (h : 4 ≤ packet.length) :
    ∃ id length error parameters c, packet = id :: length :: error :: (parameters ++ [c]) := by
  obtain _ | ⟨id, _ | ⟨length, _ | ⟨error, tail⟩⟩⟩ := packet
  · simp only [List.length_nil] at h
    omega
  · simp only [List.length_cons, List.length_nil] at h
    omega
  · simp only [List.length_cons, List.length_nil] at h
    omega
  · obtain rfl | ⟨parameters, c, rfl⟩ := List.eq_nil_or_concat tail
    · simp only [List.length_cons, List.length_nil] at h
      omega
    · exact ⟨id, length, error, parameters, c, by rw [List.concat_eq_append]⟩

theorem statusFrame_eq (id error : UInt8) (parameters : List UInt8) :
    statusFrame id error parameters = instructionBody id error parameters ++
      [checksum (instructionBody id error parameters)] := by
  rw [checksum_eq]
  rfl

theorem decodeStatusPacket_ok_iff (packet : List UInt8) (expectedId error : UInt8)
    (parameters : List UInt8) :
    decodeStatusPacket packet expectedId = .ok ⟨error, parameters⟩ ↔
      parameters.length ≤ 64 ∧ packet = statusFrame expectedId error parameters := by
  rw [statusFrame_eq]
  constructor
  · intro h
    by_cases hShort : packet.length < 4
    · rw [decodeStatusPacket, if_pos hShort] at h
      cases h
    obtain ⟨id, length, error', parameters', c, rfl⟩ := exists_fields (Nat.le_of_not_lt hShort)
    rw [decodeStatusPacket_cons] at h
    split at h
    · cases h
    rename_i hLength
    split at h
    · cases h
    rename_i hId
    split at h
    · cases h
    rename_i hSum
    obtain ⟨rfl, rfl⟩ := StatusPacket.mk.inj (Except.ok.inj h)
    have hByte : UInt8.ofNat (parameters'.length + 2) = length := by
      rw [show parameters'.length + 2 = length.toNat by omega, UInt8.ofNat_toNat]
    refine ⟨by omega, ?_⟩
    rw [instructionBody, hByte, ← not_not.mp hId, ← not_not.mp hSum]
    rfl
  · rintro ⟨hLength, rfl⟩
    have hByte : (UInt8.ofNat (parameters.length + 2)).toNat = parameters.length + 2 :=
      UInt8.toNat_ofNat_of_lt' (by change _ < 256; omega)
    change decodeStatusPacket (expectedId :: UInt8.ofNat (parameters.length + 2) :: error ::
      (parameters ++ [checksum (instructionBody expectedId error parameters)])) expectedId = _
    rw [decodeStatusPacket_cons, hByte, if_neg (by omega), if_neg (not_not_intro rfl)]
    exact if_neg (not_not_intro rfl)

theorem foldl_of_decodeStatusPacket {packet : List UInt8} {expectedId : UInt8}
    {status : StatusPacket} (h : decodeStatusPacket packet expectedId = .ok status) :
    packet.foldl (· + ·) 0 = 0xff := by
  obtain ⟨-, rfl⟩ := (decodeStatusPacket_ok_iff packet expectedId _ _).mp h
  rw [statusFrame_eq]
  exact foldl_checksum _

/-- The decoder accepts the status frames of up to 64 parameters, and none of these
with one byte replaced. -/
theorem status_grammar :
    (∀ (packet : List UInt8) (expectedId error : UInt8) (parameters : List UInt8),
      decodeStatusPacket packet expectedId = .ok ⟨error, parameters⟩ ↔
        parameters.length ≤ 64 ∧ packet = statusFrame expectedId error parameters) ∧
    ∀ (packet : List UInt8) (expectedId : UInt8) (status : StatusPacket),
      decodeStatusPacket packet expectedId = .ok status →
      ∀ (i : Nat) (x : UInt8), i < packet.length → packet[i]? ≠ some x →
        ∃ error, decodeStatusPacket (packet.set i x) expectedId = .error error := by
  refine ⟨decodeStatusPacket_ok_iff, ?_⟩
  intro packet expectedId status hAccepted i x hi hx
  rcases hAltered : decodeStatusPacket (packet.set i x) expectedId with error | other
  · exact ⟨error, rfl⟩
  · have hSum := foldl_of_decodeStatusPacket hAltered
    rw [← foldl_of_decodeStatusPacket hAccepted] at hSum
    exact absurd hSum (addByte_latin.foldl_set 0 hi hx)

theorem status_grammar_ping : ∃ error,
    decodeStatusPacket ([0x01, 0x02, 0x00, 0xfc].set 2 0x20) 0x01 = .error error :=
  status_grammar.2 [0x01, 0x02, 0x00, 0xfc] 0x01 ⟨0x00, []⟩ (by decide) 2 0x20 (by decide) (by decide)

end Fetchline
