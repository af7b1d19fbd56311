import Fetchline.Firmware.BusRules

/-! # Which bytes a status is made of

The header search on the bytes alone, and the proof that an accepted status is
the stretch of bytes read since its packet was written that begins at the first
header.
-/

namespace Fetchline

open Effects Effects.Program

inductive Search where
  | found (rest : List UInt8)
  | searching (left : Nat) (previous : UInt8)
  | exhausted
deriving DecidableEq, Repr

/-- The search over bytes already there: `n` more may be read, and the one before
them was `previous`. -/
def headerSearch : Nat → UInt8 → List UInt8 → Search
  | 0, _, _ => .exhausted
  | n + 1, previous, [] => .searching (n + 1) previous
  | n + 1, previous, byte :: bytes =>
    if previous = 0xff ∧ byte = 0xff then .found bytes else headerSearch n byte bytes

theorem headerSearch_append (n : Nat) (previous : UInt8) (bytes more : List UInt8) :
    headerSearch n previous (bytes ++ more) =
      match headerSearch n previous bytes with
      | .found rest => .found (rest ++ more)
      | .searching left previous => headerSearch left previous more
      | .exhausted => .exhausted := by
  induction bytes generalizing n previous with
  | nil => cases n <;> rfl
  | cons byte bytes ih =>
    cases n with
    | zero => rfl
    | succ n =>
      rw [List.cons_append, headerSearch, headerSearch]
      split
      · rfl
      · exact ih n byte

theorem found_length {n : Nat} {previous : UInt8} {bytes rest : List UInt8}
    (h : headerSearch n previous bytes = .found rest) :
    rest.length + 1 ≤ bytes.length ∧ (previous ≠ 0xff → rest.length + 2 ≤ bytes.length) := by
  induction bytes generalizing n previous with
  | nil => cases n <;> cases h
  | cons byte bytes ih =>
    cases n with
    | zero => cases h
    | succ n =>
      rw [headerSearch] at h
      split at h
      · rename_i hHeader
        cases h
        exact ⟨Nat.le_refl _, fun hPrevious => absurd hHeader.1 hPrevious⟩
      · obtain ⟨hLength, -⟩ := ih h
        rw [List.length_cons]
        omega

/-- No header begins in these bytes, whatever follows them. -/
def cannotBegin (bytes : List UInt8) : Bool :=
  match headerSearch 128 0 bytes with
  | .found _ => false
  | .searching _ previous => previous != 0xff
  | .exhausted => true

/-- A frame found in `leftover` and what came after it lies in what came after it. -/
theorem frame_after_leftover {leftover later bytes rx rest : List UInt8}
    (hLeftover : cannotBegin leftover = true) (hBytes : leftover ++ later = bytes ++ rx)
    (hFound : headerSearch 128 0 bytes = .found rest) :
    leftover.length + (rest.length + 2) ≤ bytes.length := by
  have hAll : headerSearch 128 0 (leftover ++ later) = .found (rest ++ rx) := by
    rw [hBytes, headerSearch_append, hFound]
  rw [headerSearch_append] at hAll
  have hLengths := congrArg List.length hBytes
  simp only [List.length_append] at hLengths
  cases hSearch : headerSearch 128 0 leftover with
  | found rest' => simp [cannotBegin, hSearch] at hLeftover
  | exhausted =>
    rw [hSearch] at hAll
    cases hAll
  | searching left previous =>
    rw [hSearch] at hAll
    have hPrevious : previous ≠ 0xff := by simpa [cannotBegin, hSearch] using hLeftover
    have hLater := (found_length hAll).2 hPrevious
    rw [List.length_append] at hLater
    omega

/-- `reading bytes` is within a transaction: `bytes` have been read since its
packet was written. -/
inductive Reading where
  | idle
  | reading (bytes : List UInt8)

def frames : Discipline BusOp BusOp.Reply Reading where
  allowed
    | .reading _, .readByte => True
    | .reading bytes, .observe (.statusAccepted frameLen) =>
      ∃ rest, headerSearch 128 0 bytes = .found rest ∧ frameLen = rest.length + 2
    | .reading _, .observe (.statusRejected _) => True
    | .reading _, _ => False
    | .idle, .readByte | .idle, .observe (.statusAccepted _) => False
    | .idle, _ => True
  next
    | .idle, .written, written => bif written then .reading [] else .idle
    | .reading bytes, .readByte, some byte => .reading (bytes ++ [byte])
    | .reading _, .observe _, _ => .idle
    | state, _, _ => state

theorem seekHeader_frames (n : Nat) (previous : UInt8) (bytes : List UInt8)
    (h : ∀ more, headerSearch 128 0 (bytes ++ more) = headerSearch n previous more) :
    (seekHeader n previous).run.Obeys frames (.reading bytes)
      (exits (fun _ state => ∃ bytes', state = .reading bytes' ∧
          headerSearch 128 0 bytes' = .found [])
        fun _ state => ∃ bytes', state = .reading bytes') := by
  induction n generalizing previous bytes with
  | zero => exact ⟨bytes, rfl⟩
  | succ n ih =>
    rw [seekHeader, obeys_throwing_bind, obeys_readUartByte]
    refine ⟨trivial, ?_, ⟨bytes, rfl⟩⟩
    intro byte
    have hByte : headerSearch 128 0 (bytes ++ [byte]) = headerSearch (n + 1) previous [byte] := h _
    split
    · rename_i hHeader
      refine ⟨bytes ++ [byte], rfl, ?_⟩
      rw [hByte, headerSearch, if_pos hHeader]
    · rename_i hHeader
      apply ih byte
      intro more
      rw [List.append_assoc, h, List.singleton_append, headerSearch, if_neg hHeader]

theorem readUartBytes_frames (n : Nat) (bytes rest : List UInt8)
    (h : headerSearch 128 0 bytes = .found rest) :
    (readUartBytes n).run.Obeys frames (.reading bytes)
      (exits (fun body state => body.length = n ∧ ∃ bytes', state = .reading bytes' ∧
          headerSearch 128 0 bytes' = .found (rest ++ body))
        fun _ state => ∃ bytes', state = .reading bytes') := by
  induction n generalizing bytes rest with
  | zero => exact ⟨rfl, bytes, rfl, by rw [h, List.append_nil]⟩
  | succ n ih =>
    rw [readUartBytes, obeys_throwing_bind, obeys_readUartByte]
    refine ⟨trivial, ?_, ⟨bytes, rfl⟩⟩
    intro byte
    have hByte : headerSearch 128 0 (bytes ++ [byte]) = .found (rest ++ [byte]) := by
      rw [headerSearch_append, h]
    apply (ih (bytes ++ [byte]) (rest ++ [byte]) hByte).andThen
    rintro body state ⟨hLength, bytes', rfl, hFound⟩
    refine ⟨by rw [List.length_cons, hLength], bytes', rfl, ?_⟩
    rw [hFound, List.append_assoc, List.singleton_append]

theorem decodeStatusPacket_length {packet : List UInt8} {expectedId : UInt8} {status : StatusPacket}
    (h : decodeStatusPacket packet expectedId = .ok status) :
    packet.length = status.parameters.length + 4 := by
  rw [decodeStatusPacket] at h
  split at h
  · cases h
  · dsimp only at h
    split at h
    · cases h
    · split at h
      · cases h
      · split at h
        · cases h
        · cases h
          rw [List.length_dropLast, List.length_drop]
          omega

theorem readStsStatus_frames (expectedId : UInt8) :
    (readStsStatus expectedId).run.Obeys frames (.reading [])
      (exits (fun status state => ∃ bytes rest, state = .reading bytes ∧
          headerSearch 128 0 bytes = .found rest ∧ status.payload.length + 6 = rest.length + 2)
        fun _ state => ∃ bytes, state = .reading bytes) := by
  apply (seekHeader_frames 128 0 [] fun more => rfl).andThen
  rintro _ state ⟨bytes, rfl, hFound⟩
  have hId (id : UInt8) : headerSearch 128 0 (bytes ++ [id]) = .found [id] := by
    rw [headerSearch_append, hFound]
    rfl
  have hLength (id length : UInt8) :
      headerSearch 128 0 (bytes ++ [id] ++ [length]) = .found [id, length] := by
    rw [headerSearch_append, hId]
    rfl
  rw [obeys_throwing_bind, obeys_readUartByte]
  refine ⟨trivial, ?_, ⟨bytes, rfl⟩⟩
  intro id
  rw [obeys_throwing_bind, obeys_readUartByte]
  refine ⟨trivial, ?_, ⟨bytes ++ [id], rfl⟩⟩
  intro length
  split
  · exact ⟨bytes ++ [id] ++ [length], rfl⟩
  · apply (readUartBytes_frames length.toNat _ _ (hLength id length)).andThen
    rintro body state ⟨hBody, bytes', rfl, hFound'⟩
    split
    · exact ⟨bytes', rfl⟩
    · rename_i status hDecoded
      split
      · exact ⟨bytes', rfl⟩
      · have hStatus := decodeStatusPacket_length hDecoded
        refine ⟨bytes', _, rfl, hFound', ?_⟩
        change status.parameters.length + 6 = body.length + 2 + 2
        simp only [List.length_cons] at hStatus
        omega

theorem frames_transacts : Transacts frames (fun state => state = .idle) fun state => state = .idle where
  weaken _ h := h
  send := by
    rintro id instruction parameters _ rfl
    rw [sendStsPacket]
    split
    · exact rfl
    · rw [obeys_concludeTransaction, obeys_throwing_bind, obeys_writeAll]
      refine ⟨trivial, trivial, ?_, trivial, rfl⟩
      apply (readStsStatus_frames id).mono
      rintro (failure | status) state h
      · obtain ⟨bytes, rfl⟩ := h
        exact ⟨trivial, rfl⟩
      · obtain ⟨bytes, rest, rfl, hFound, hLength⟩ := h
        exact ⟨⟨rest, hFound, hLength⟩, rfl⟩
  drain := by
    rintro _ rfl
    refine Obeys.bind (discardReads_keeps (fun state => state = Reading.idle) ?_ ?_ 4 rfl) ?_
    · rintro _ rfl
      trivial
    · rintro _ reply rfl
      rfl
    · rintro _ _ rfl
      exact ⟨trivial, fun _ => rfl⟩

theorem handleJsonRpc_frames (fromSlice : String → Option JsonRpcRequest) (capacity : Nat)
    (text : String) :
    (handleJsonRpc fromSlice capacity text).Obeys frames .idle fun _ _ => True := by
  refine handleJsonRpc_obeys (fun _ => trivial) (fun _ _ _ => trivial) fun request _ _ => ?_
  refine Serves.serveMethod ⟨trivial, ⟨trivial, trivial⟩, ⟨trivial, trivial⟩, trivial, trivial,
    fun _ _ => trivial, fun command => ?_⟩
  exact Obeys.mono (frames_transacts.executeCommand command trivial trivial rfl) fun _ _ _ => trivial

end Fetchline
