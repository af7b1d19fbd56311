import Fetchline.Firmware.Envelope
import Fetchline.Firmware.Responses
import Fetchline.Modes.Noise

/-! # Which servos a scan finds

The scan against a UART on which bytes that are not read stay unread: the reply
to a ping arrives behind what earlier replies have left.
-/

namespace Fetchline.Modes

open Effects Effects.Program Bounded

def line (replies : UInt8 → List UInt8) : Handler BusOp BusOp.Reply Wire
  | wire, .writeAll packet =>
    ((), ⟨wire.packets ++ [packet], wire.unread ++ replies (packetId packet)⟩)
  | wire, op => uart (fun _ => []) wire op

variable (replies : UInt8 → List UInt8) (wire : Wire)

/-- Reading and nothing else. -/
def reading : Discipline BusOp BusOp.Reply Unit where
  allowed _ op := op = .readByte
  next _ _ _ := ()

theorem readStsStatus_line (expectedId : UInt8) :
    (readStsStatus expectedId).run.run (line replies) wire =
      (acceptStatus (readReply expectedId wire.unread).1,
        { wire with unread := (readReply expectedId wire.unread).2 }) := by
  rw [← readStsStatus_reads (fun _ => []) wire expectedId]
  have hReads := readStsStatus_keeps (D := reading) (fun _ => True) (fun _ _ => rfl)
    (fun _ _ _ => trivial) expectedId (s := ()) trivial
  apply hReads.run_congr
  rintro _ _ rfl _
  rfl

theorem discardReads_line (n : Nat) :
    (discardReads n).run (line replies) wire =
      ((), { wire with unread := wire.unread.drop (64 * n) }) := by
  induction n generalizing wire with
  | zero => rfl
  | succ n ih =>
    obtain ⟨packets, _ | ⟨byte, unread⟩⟩ := wire
    · change ((), Wire.mk packets []) = _
      rw [List.drop_nil]
    · change (discardReads n).run (line replies) ⟨packets, (byte :: unread).drop 64⟩ = _
      rw [ih, List.drop_drop, Nat.mul_succ, Nat.add_comm 64]

theorem resynchronizeUart_line :
    resynchronizeUart.run (line replies) wire =
      ((), { wire with unread := wire.unread.drop 256 }) := by
  rw [resynchronizeUart, run_bind, discardReads_line]
  rfl

def pingPacket (id : UInt8) : List UInt8 := instructionPacket id stsInstructionPing []

theorem pingServo_line {id : UInt8} (hId : isUnicastServoId id = true) :
    (pingServo id).run.run (line replies) wire =
      ((acceptStatus (readReply id (wire.unread ++ replies id)).1).map fun _ => (),
        ⟨wire.packets ++ [pingPacket id], (readReply id (wire.unread ++ replies id)).2⟩) := by
  have hSend : (sendStsPacket id stsInstructionPing []).run.run (line replies) wire =
      (acceptStatus (readReply id (wire.unread ++ replies id)).1,
        ⟨wire.packets ++ [pingPacket id], (readReply id (wire.unread ++ replies id)).2⟩) := by
    rw [sendStsPacket_eq id stsInstructionPing (by decide),
      concludeTransaction_run wire _ fun _ _ => rfl, servo_bind_run]
    exact readStsStatus_line replies ⟨wire.packets ++ [pingPacket id], wire.unread ++ replies id⟩ id
  rw [pingServo, validateServoId, if_neg (not_not_intro hId), pure_bind, servo_bind_run, hSend]
  cases acceptStatus (readReply id (wire.unread ++ replies id)).1 <;> rfl

/-- The scan takes this address for that of a servo. -/
def accepts (id : UInt8) (unread : List UInt8) : Bool :=
  match acceptStatus (readReply id unread).1 with
  | .ok _ => true
  | .error _ => false

/-- What a probe leaves unread, its drain included. -/
def leftBehind (id : UInt8) (unread : List UInt8) : List UInt8 :=
  if accepts id unread then (readReply id unread).2 else (readReply id unread).2.drop 256

theorem acceptStatus_ne_transport (id : UInt8) (unread : List UInt8) :
    acceptStatus (readReply id unread).1 ≠ .error .transport := by
  have hReply : (readReply id unread).1 ≠ .error .transport := by
    rw [readReply]
    split
    · rename_i frame _
      rcases frame with _ | ⟨first, _ | ⟨length, rest⟩⟩
      · simp [readFrame]
      · simp [readFrame]
      · rw [readFrame]
        split
        · simp
        · split
          · split <;> simp
          · simp
    · simp
    · simp
  intro h
  cases hStatus : (readReply id unread).1 with
  | error failure =>
    rw [hStatus, acceptStatus] at h
    exact hReply (hStatus.trans (congrArg _ (Except.error.inj h)))
  | ok status =>
    rw [hStatus, acceptStatus] at h
    split at h <;> cases h

/-- What the scan does after a ping with this outcome. -/
def afterPing (id : UInt8) (ids : BoundedVec UInt8 maxScanResults) :
    Except ServoFailure Unit → Bus (Except ServoFailure (BoundedVec UInt8 maxScanResults))
  | .ok () => match ids.push id with
    | none => pure (.error .invalidArgument)
    | some ids => pure (.ok ids)
  | .error .transport => do
    resynchronizeUart
    pure (.error .transport)
  | .error _ => do
    resynchronizeUart
    pure (.ok ids)

theorem probeServo_eq (id : UInt8) (ids : BoundedVec UInt8 maxScanResults) :
    (probeServo id ids).run = (pingServo id).run >>= afterPing id ids := by
  rw [probeServo]
  change ((pingServo id).run >>= _) = _
  congr 1

theorem afterPing_refused (id : UInt8) (ids : BoundedVec UInt8 maxScanResults)
    {failure : ServoFailure} (h : failure ≠ .transport) :
    (afterPing id ids (.error failure)).run (line replies) wire =
      (.ok ids, { wire with unread := wire.unread.drop 256 }) := by
  have hAfter : afterPing id ids (.error failure) =
      (do resynchronizeUart; pure (.ok ids)) := by
    cases failure
    case transport => exact absurd rfl h
    all_goals rfl
  rw [hAfter, run_bind, resynchronizeUart_line]
  rfl

theorem probeServo_line {id : UInt8} (hId : isUnicastServoId id = true)
    (ids : BoundedVec UInt8 maxScanResults) (hRoom : ids.toList.length < maxScanResults) :
    ∃ ids', (probeServo id ids).run.run (line replies) wire =
        (.ok ids', ⟨wire.packets ++ [pingPacket id], leftBehind id (wire.unread ++ replies id)⟩) ∧
      ids'.toList = ids.toList ++
        if accepts id (wire.unread ++ replies id) then [id] else [] := by
  have hTransport := acceptStatus_ne_transport id (wire.unread ++ replies id)
  rw [probeServo_eq, run_bind, pingServo_line replies wire hId, leftBehind, accepts]
  cases hStatus : acceptStatus (readReply id (wire.unread ++ replies id)).1 with
  | ok status =>
    obtain ⟨ids', hPush⟩ : ∃ ids', ids.push id = some ids' := ⟨_, dif_pos hRoom⟩
    refine ⟨ids', ?_, BoundedVec.toList_of_push hPush⟩
    simp only [Except.map, afterPing, hPush]
    rfl
  | error failure =>
    have hFailure : failure ≠ .transport := fun h => hTransport (h ▸ hStatus)
    refine ⟨ids, ?_, (List.append_nil _).symm⟩
    exact afterPing_refused replies ⟨wire.packets ++ [pingPacket id], _⟩ id ids hFailure

/-- What the pings of these addresses leave unread. -/
def carried : List UInt8 → List UInt8 → List UInt8
  | [], unread => unread
  | id :: ids, unread => carried ids (leftBehind id (unread ++ replies id))

/-- The addresses among these that the scan takes for those of servos. -/
def found : List UInt8 → List UInt8 → List UInt8
  | [], _ => []
  | id :: ids, unread =>
    (if accepts id (unread ++ replies id) then [id] else []) ++
      found ids (leftBehind id (unread ++ replies id))

theorem scanFrom_line (rawIds : List Nat) (ids : BoundedVec UInt8 maxScanResults)
    (h : Ascending ids.toList rawIds) :
    ∃ ids', (scanFrom rawIds ids).run.run (line replies) wire =
        (.ok ids', ⟨wire.packets ++ (rawIds.map UInt8.ofNat).map pingPacket,
          carried replies (rawIds.map UInt8.ofNat) wire.unread⟩) ∧
      ids'.toList = ids.toList ++ found replies (rawIds.map UInt8.ofNat) wire.unread := by
  induction rawIds generalizing ids wire with
  | nil => exact ⟨ids, by simp [scanFrom, carried]; rfl, by simp [found]⟩
  | cons rawId rawIds ih =>
    have hId : isUnicastServoId (UInt8.ofNat rawId) = true := by
      have hRange := h.range rawId (List.mem_append_right _ List.mem_cons_self)
      rw [isUnicastServoId_iff, UInt8.le_iff_toNat_le, UInt8.le_iff_toNat_le, h.toNat_next]
      exact hRange
    obtain ⟨ids', hProbe, hFound⟩ := probeServo_line replies wire hId ids h.room
    have hNext : Ascending ids'.toList rawIds := by
      rw [hFound]
      split
      · exact h.found
      · rw [List.append_nil]
        exact h.skip
    obtain ⟨ids'', hScan, hRest⟩ :=
      ih ⟨wire.packets ++ [pingPacket (UInt8.ofNat rawId)],
        leftBehind (UInt8.ofNat rawId) (wire.unread ++ replies (UInt8.ofNat rawId))⟩ ids' hNext
    refine ⟨ids'', ?_, ?_⟩
    · rw [scanFrom, if_neg (not_not_intro hId), servo_bind_run, hProbe]
      simp only [hScan]
      simp [carried]
    · rw [hRest, hFound, List.append_assoc]
      rfl

theorem status_body_split {body : List UInt8} (h : 2 ≤ body.length) :
    ∃ error parameters last, body = error :: (parameters ++ [last]) := by
  obtain _ | ⟨error, tail⟩ := body
  · exact absurd h (by decide)
  · have hTail : tail ≠ [] := List.length_pos_iff.mp (Nat.le_of_succ_le_succ h)
    exact ⟨error, tail.dropLast, tail.getLast hTail, by rw [List.dropLast_append_getLast hTail]⟩

theorem statusBody_of_readFrame {id : UInt8} {frame : List UInt8} {status : StatusPacket}
    (h : (readFrame id frame).1 = .ok status) :
    status.parameters.length ≤ 64 ∧ ∃ rest, frame =
      statusBody id status.error status.parameters ++
        [Fetchline.checksum (statusBody id status.error status.parameters)] ++ rest := by
  obtain _ | ⟨first, _ | ⟨length, rest⟩⟩ := frame
  · cases h
  · cases h
  rw [readFrame] at h
  split at h
  · cases h
  rename_i hRange
  obtain ⟨hLow, hHigh⟩ := not_not.mp hRange
  split at h
  case isFalse => cases h
  rename_i hRest
  have hBody : (rest.take length.toNat).length = length.toNat := List.length_take_of_le hRest
  rw [decodeStatusPacket_body id hBody hLow hHigh] at h
  obtain ⟨error, parameters, last, hSplit⟩ := status_body_split (hBody.symm ▸ hLow)
  have hLength : length.toNat = parameters.length + 2 := by
    rw [← hBody, hSplit]
    simp
  have hByte : UInt8.ofNat (parameters.length + 2) = length := by
    rw [← hLength, UInt8.ofNat_toNat]
  have hFields : (error :: (parameters ++ [last])).take (length.toNat - 1) = error :: parameters := by
    rw [hLength, show parameters.length + 2 - 1 = parameters.length + 1 from rfl,
      List.take_succ_cons, List.take_left]
  have hLast : (error :: (parameters ++ [last])).getD (length.toNat - 1) 0 = last := by
    rw [hLength]
    simp
  rw [hSplit, hFields, hLast] at h
  obtain rfl : first = id := by
    by_contra hFirst
    rw [if_pos hFirst] at h
    cases h
  rw [if_neg (not_not_intro rfl)] at h
  have hChecksum : Fetchline.checksum (first :: length :: error :: parameters) = last := by
    by_contra hChecksum
    rw [if_pos hChecksum] at h
    cases h
  rw [if_neg (not_not_intro hChecksum)] at h
  obtain rfl : status = ⟨error, parameters⟩ := (Except.ok.inj h).symm
  refine ⟨Nat.le_of_add_le_add_right (hLength ▸ hHigh), rest.drop length.toNat, ?_⟩
  rw [statusBody, hByte]
  calc first :: length :: rest
      = first :: length :: (rest.take length.toNat ++ rest.drop length.toNat) := by
        rw [List.take_append_drop]
    _ = _ := by
        rw [hSplit, ← hChecksum]
        simp

/-- The first frame that the header search finds here is a status of this servo
with a right length and checksum. -/
def FirstStatus (id error : UInt8) (bytes : List UInt8) : Prop :=
  ∃ parameters rest, parameters.length ≤ 64 ∧
    headerSearch 128 0 bytes = .found (statusBody id error parameters ++
      [Fetchline.checksum (statusBody id error parameters)] ++ rest)

theorem readReply_ok_iff (id : UInt8) (bytes : List UInt8) (error : UInt8) :
    (∃ parameters, (readReply id bytes).1 = .ok ⟨error, parameters⟩) ↔ FirstStatus id error bytes := by
  rw [readReply]
  constructor
  · rintro ⟨parameters, hReply⟩
    split at hReply
    · rename_i frame hFound
      obtain ⟨hLength, rest, rfl⟩ := statusBody_of_readFrame hReply
      exact ⟨parameters, rest, hLength, hFound⟩
    · cases hReply
    · cases hReply
  · rintro ⟨parameters, rest, hLength, hFound⟩
    rw [hFound]
    simp only
    rw [readFrame_statusFrame id error rest hLength]
    exact ⟨parameters, rfl⟩

theorem accepts_iff (id : UInt8) (bytes : List UInt8) :
    accepts id bytes = true ↔ FirstStatus id 0 bytes := by
  rw [accepts, ← readReply_ok_iff]
  cases (readReply id bytes).1 with
  | error failure => simp [acceptStatus]
  | ok status =>
    obtain ⟨error, parameters⟩ := status
    by_cases hError : error = 0 <;> simp [acceptStatus, hError]

def IsScanRange (startId endId : UInt8) : Prop := 1 ≤ startId ∧ startId ≤ endId ∧ endId ≤ 253

instance (startId endId : UInt8) : Decidable (IsScanRange startId endId) :=
  inferInstanceAs (Decidable (_ ∧ _ ∧ _))

theorem isScanRange_iff (startId endId : UInt8) :
    IsScanRange startId endId ↔ ¬ (startId = 0 ∨ startId > endId ∨ endId > maxServoId) := by
  have hMax : maxServoId = 253 := rfl
  have hZero : (1 : UInt8) ≤ startId ↔ startId ≠ 0 := by
    rw [UInt8.le_iff_toNat_le, ne_eq, ← UInt8.toNat_inj]
    exact Nat.pos_iff_ne_zero
  rw [IsScanRange, hZero, hMax, not_or, not_or, gt_iff_lt, gt_iff_lt, UInt8.not_lt, UInt8.not_lt]

def addresses (startId endId : UInt8) : List UInt8 :=
  (List.range' startId.toNat (endId.toNat + 1 - startId.toNat)).map UInt8.ofNat

/-- The bytes on the line when this address is pinged. -/
def lineAt (startId : UInt8) (unread : List UInt8) (id : UInt8) : List UInt8 :=
  carried replies ((List.range' startId.toNat (id.toNat - startId.toNat)).map UInt8.ofNat) unread

theorem found_sublist (ids unread : List UInt8) : (found replies ids unread).Sublist ids := by
  induction ids generalizing unread with
  | nil => exact .slnil
  | cons id ids ih =>
    rw [found]
    split
    · exact (ih _).cons_cons id
    · exact (ih _).cons id

theorem addresses_pairwise (startId endId : UInt8) (h : IsScanRange startId endId) :
    (addresses startId endId).Pairwise (· < ·) := by
  have hEnd : endId.toNat ≤ 253 := UInt8.le_iff_toNat_le.mp h.2.2
  have hOrder : startId.toNat ≤ endId.toNat := UInt8.le_iff_toNat_le.mp h.2.1
  rw [addresses, List.pairwise_map]
  apply List.Pairwise.imp_of_mem _ List.pairwise_lt_range'
  intro a b hA hB hLess
  rw [List.mem_range'_1] at hA hB
  rw [UInt8.lt_iff_toNat_lt, UInt8.toNat_ofNat_of_lt' (by change a < 256; omega),
    UInt8.toNat_ofNat_of_lt' (by change b < 256; omega)]
  exact hLess

theorem mem_found {start n : Nat} (hRange : start + n ≤ 254) (unread : List UInt8) (id : UInt8) :
    id ∈ found replies ((List.range' start n).map UInt8.ofNat) unread ↔
      start ≤ id.toNat ∧ id.toNat < start + n ∧
        accepts id (carried replies ((List.range' start (id.toNat - start)).map UInt8.ofNat) unread ++
          replies id) = true := by
  induction n generalizing start unread with
  | zero =>
    apply iff_of_false List.not_mem_nil
    rintro ⟨hLow, hHigh, -⟩
    omega
  | succ n ih =>
    have hStart : (UInt8.ofNat start).toNat = start :=
      UInt8.toNat_ofNat_of_lt' (by change start < 256; omega)
    rw [List.range'_succ, List.map_cons, found, List.mem_append, ih (by omega)]
    rcases eq_or_ne id (UInt8.ofNat start) with rfl | hId
    · rw [hStart, Nat.sub_self]
      have hHead : (UInt8.ofNat start ∈ if accepts (UInt8.ofNat start)
          (unread ++ replies (UInt8.ofNat start)) then [UInt8.ofNat start] else []) ↔
            accepts (UInt8.ofNat start) (unread ++ replies (UInt8.ofNat start)) = true := by
        split <;> simp [*]
      rw [hHead]
      constructor
      · rintro (hAccepts | ⟨hLow, -⟩)
        · exact ⟨Nat.le_refl start, by omega, hAccepts⟩
        · omega
      · rintro ⟨-, -, hAccepts⟩
        exact .inl hAccepts
    · have hNe : id.toNat ≠ start := fun h => hId (UInt8.toNat_inj.mp (h.trans hStart.symm))
      have hHead : id ∉ if accepts (UInt8.ofNat start) (unread ++ replies (UInt8.ofNat start))
          then [UInt8.ofNat start] else [] := by
        split <;> simp [hId]
      constructor
      · rintro (hMem | ⟨hLow, hHigh, hAccepts⟩)
        · exact absurd hMem hHead
        · refine ⟨by omega, by omega, ?_⟩
          rw [show id.toNat - start = id.toNat - (start + 1) + 1 by omega]
          exact hAccepts
      · rintro ⟨hLow, hHigh, hAccepts⟩
        rw [show id.toNat - start = id.toNat - (start + 1) + 1 by omega] at hAccepts
        exact .inr ⟨by omega, by omega, hAccepts⟩

theorem scanServos_line {startId endId : UInt8} (h : IsScanRange startId endId) :
    ∃ ids unread, (scanServos startId endId).run.run (line replies) wire =
        (.ok ids, ⟨wire.packets ++ (addresses startId endId).map pingPacket, unread⟩) ∧
      ids.toList.Pairwise (· < ·) ∧
      ∀ id, id ∈ ids.toList ↔ startId ≤ id ∧ id ≤ endId ∧
        FirstStatus id 0 (lineAt replies startId wire.unread id ++ replies id) := by
  have hRange := (isScanRange_iff startId endId).mp h
  obtain ⟨ids, hScan, hFound⟩ :=
    scanFrom_line replies wire _ .empty (scanRange_ascending hRange)
  refine ⟨ids, carried replies (addresses startId endId) wire.unread, ?_, ?_, ?_⟩
  · rw [scanServos, if_neg hRange]
    exact hScan
  · rw [hFound]
    exact (addresses_pairwise startId endId h).sublist (found_sublist replies _ _)
  · intro id
    have hEnd : endId.toNat ≤ 253 := UInt8.le_iff_toNat_le.mp h.2.2
    have hOrder : startId.toNat ≤ endId.toNat := UInt8.le_iff_toNat_le.mp h.2.1
    rw [hFound]
    change id ∈ found replies _ wire.unread ↔ _
    rw [mem_found replies (by omega), accepts_iff, UInt8.le_iff_toNat_le, UInt8.le_iff_toNat_le]
    refine and_congr_right fun _ => and_congr_left fun _ => ?_
    omega

/-- A reply that one probe takes off the line whole: a good status with nothing
behind it, or no good status and no more bytes than a drain takes. -/
def FitsProbe (id : UInt8) (reply : List UInt8) : Prop :=
  (∃ parameters, parameters.length ≤ 64 ∧
    headerSearch 128 0 reply = .found (statusBody id 0 parameters ++
      [Fetchline.checksum (statusBody id 0 parameters)])) ∨
  (¬ FirstStatus id 0 reply ∧ reply.length ≤ 256)

theorem readFrame_length_le (id : UInt8) (frame : List UInt8) :
    (readFrame id frame).2.length ≤ frame.length := by
  obtain _ | ⟨first, _ | ⟨length, rest⟩⟩ := frame
  · exact Nat.le_refl 0
  · exact Nat.zero_le 1
  rw [readFrame]
  split
  · exact Nat.le_add_right rest.length 2
  split
  · have hDrop : (rest.drop length.toNat).length ≤ (first :: length :: rest).length := by
      simp only [List.length_drop, List.length_cons]
      omega
    split
    · exact hDrop
    · exact hDrop
  · exact Nat.zero_le _

theorem readReply_length_le (id : UInt8) (reply : List UInt8) :
    (readReply id reply).2.length ≤ reply.length := by
  rw [readReply]
  split
  · rename_i frame hFound
    have hFrame : frame.length ≤ reply.length := by
      have hLength := (found_length hFound).1
      omega
    exact (readFrame_length_le id frame).trans hFrame
  · exact Nat.zero_le _
  · exact List.length_drop.trans_le (Nat.sub_le reply.length 128)

theorem leftBehind_fits {id : UInt8} {reply : List UInt8} (h : FitsProbe id reply) :
    leftBehind id reply = [] := by
  obtain ⟨parameters, hLength, hFound⟩ | ⟨hFirst, hLength⟩ := h
  · have hRead : (readReply id reply).2 = [] := by
      have hFrame := readFrame_statusFrame id 0 [] hLength
      rw [List.append_nil] at hFrame
      rw [readReply, hFound]
      simp only [hFrame]
    rw [leftBehind, hRead]
    split <;> rfl
  · have hAccepts : ¬ accepts id reply = true := fun h => hFirst ((accepts_iff id reply).mp h)
    rw [leftBehind, if_neg hAccepts]
    exact List.drop_eq_nil_of_le ((readReply_length_le id reply).trans hLength)

theorem carried_fits {ids : List UInt8} (h : ∀ id ∈ ids, FitsProbe id (replies id)) :
    carried replies ids [] = [] := by
  induction ids with
  | nil => rfl
  | cons id ids ih =>
    rw [List.forall_mem_cons] at h
    rw [carried, List.nil_append, leftBehind_fits h.1]
    exact ih h.2

theorem FirstStatus.error_unique {id error error' : UInt8} {bytes : List UInt8}
    (h : FirstStatus id error bytes) (h' : FirstStatus id error' bytes) : error = error' := by
  obtain ⟨parameters, rest, -, hFound⟩ := h
  obtain ⟨parameters', rest', -, hFound'⟩ := h'
  have hFrame := Search.found.inj (hFound.symm.trans hFound')
  exact (List.cons.inj (List.cons.inj (List.cons.inj hFrame).2).2).1

/-- A servo that sends one status or nothing. -/
def SingleStatus (id : UInt8) (reply : List UInt8) : Prop :=
  reply = [] ∨ ∃ error parameters, parameters.length ≤ 64 ∧ reply = statusFrame id error parameters

theorem SingleStatus.fitsProbe {id : UInt8} {reply : List UInt8} (h : SingleStatus id reply) :
    FitsProbe id reply := by
  obtain rfl | ⟨error, parameters, hLength, rfl⟩ := h
  · refine .inr ⟨?_, Nat.zero_le 256⟩
    rintro ⟨parameters, rest, -, hFound⟩
    cases hFound
  have hFound : headerSearch 128 0 (statusFrame id error parameters) =
      .found (statusBody id error parameters ++
        [Fetchline.checksum (statusBody id error parameters)]) := rfl
  rcases eq_or_ne error 0 with rfl | hError
  · exact .inl ⟨parameters, hLength, hFound⟩
  · have hFirst : FirstStatus id error (statusFrame id error parameters) :=
      ⟨parameters, [], hLength, by rw [hFound, List.append_nil]⟩
    refine .inr ⟨fun h => hError (hFirst.error_unique h), ?_⟩
    have hHeader : stsHeader.length = 2 := rfl
    simp only [statusFrame, statusBody, List.length_append, List.length_cons, List.length_nil]
    omega

end Fetchline.Modes
