import Fetchline.Firmware.ClientStream
import Fetchline.Library.Framing
import Mathlib.Data.UInt

/-! # The frames of the server

What `write_frame` puts on the wire, and what a client's reader makes of it.
-/

namespace Fetchline.WebSocket

open Effects Framing

/-- `none` while the stream is too short. -/
abbrev Parser (α : Type) := StateT (List UInt8) Option α

theorem parser_bind {α β : Type} (p : Parser α) (f : α → Parser β) (stream : List UInt8) :
    (p >>= f) stream = (p stream).bind fun item => f item.1 item.2 := rfl

/-- `read_exact` of the takeover script. -/
def takeExact (count : Nat) : Parser (List UInt8) := fun stream =>
  if count ≤ stream.length then some (stream.take count, stream.drop count) else none

/-- The big-endian formats of `struct.unpack`. -/
def beNat (bytes : List UInt8) : Nat := bytes.foldl (fun value byte => 256 * value + byte.toNat) 0

/-- The length of the payload, from the seven bits in the second byte. -/
def receiveLength (length : UInt8) : Parser Nat :=
  if length = 126 then do
    let bytes ← takeExact 2
    pure (beNat bytes)
  else if length = 127 then do
    let bytes ← takeExact 8
    pure (beNat bytes)
  else pure length.toNat

/-- `receive_frame` of the takeover script. -/
def receiveFrame : Parser (UInt8 × List UInt8) := do
  let header ← takeExact 2
  let first := header.getD 0 0
  let second := header.getD 1 0
  let opcode := first &&& 0x0f
  let length ← receiveLength (second &&& 0x7f)
  let payload ← takeExact length
  pure (opcode, payload)

theorem takeExact_append (count : Nat) {bytes : List UInt8} (h : bytes.length = count)
    (rest : List UInt8) : takeExact count (bytes ++ rest) = some (bytes, rest) := by
  rw [takeExact, if_pos (by rw [List.length_append]; omega), List.take_left' h, List.drop_left' h]

theorem receiveFrame_cons {first second : UInt8} (extended : List UInt8) {payload : List UInt8}
    (hLength : ∀ rest, receiveLength (second &&& 0x7f) (extended ++ rest) =
      some (payload.length, rest)) :
    Delimits receiveFrame (first :: second :: (extended ++ payload)) (first &&& 0x0f, payload) := by
  intro rest
  change receiveFrame ([first, second] ++ (extended ++ payload ++ rest)) = _
  rw [receiveFrame, parser_bind, takeExact_append 2 rfl, Option.bind_some, List.append_assoc]
  simp only [List.getD_cons_zero, List.getD_cons_succ]
  rw [parser_bind, hLength, Option.bind_some, parser_bind, takeExact_append payload.length rfl]
  rfl

def frameHeader (opcode : UInt8) (length : Nat) : List UInt8 :=
  if length ≤ 125 then [0x80 ||| opcode, UInt8.ofNat length]
  else [0x80 ||| opcode, 126, UInt8.ofNat (length / 256), UInt8.ofNat (length % 256)]

def serverFrame (opcode : UInt8) (payload : List UInt8) : List UInt8 :=
  frameHeader opcode payload.length ++ payload

theorem writeFrame_sends (opcode : UInt8) {payload : List UInt8} (h : payload.length ≤ 65535) :
    Takes (writeFrame opcode payload) [] (.ok ()) (serverFrame opcode payload) := by
  rw [writeFrame, serverFrame, frameHeader]
  by_cases hShort : payload.length ≤ 125
  · rw [if_pos hShort, if_pos hShort]
    exact .bind (writeAll_takes _) (writeAll_takes payload)
  · rw [if_neg hShort, if_neg hShort, if_pos (by omega)]
    exact .bind (writeAll_takes _) (writeAll_takes payload)

theorem writeFrame_tooLarge (opcode : UInt8) {payload : List UInt8} (h : 65535 < payload.length) :
    (writeFrame opcode payload).run = .done (.error .messageTooLarge) := by
  rw [writeFrame, if_neg (by omega), if_neg (by omega)]
  rfl

theorem opcode_of_first {opcode : UInt8} (h : opcode < 16) : (0x80 ||| opcode) &&& 0x0f = opcode := by
  have hAll : ∀ n : Fin 16, (0x80 ||| UInt8.ofNat n) &&& 0x0f = UInt8.ofNat n := by decide
  have hOpcode := hAll ⟨opcode.toNat, UInt8.lt_iff_toNat_lt.mp h⟩
  rwa [UInt8.ofNat_toNat] at hOpcode

theorem length_of_second {n : Nat} (h : n ≤ 125) : UInt8.ofNat n &&& 0x7f = UInt8.ofNat n := by
  have hAll : ∀ n : Fin 126, UInt8.ofNat n &&& 0x7f = UInt8.ofNat n := by decide
  exact hAll ⟨n, Nat.lt_succ_of_le h⟩

theorem beNat_length {n : Nat} (h : n ≤ 65535) :
    beNat [UInt8.ofNat (n / 256), UInt8.ofNat (n % 256)] = n := by
  simp only [beNat, List.foldl_cons, List.foldl_nil, UInt8.toNat_ofNat']
  omega

theorem receiveLength_short {n : Nat} (h : n ≤ 125) (stream : List UInt8) :
    receiveLength (UInt8.ofNat n) stream = some (n, stream) := by
  have hByte : (UInt8.ofNat n).toNat = n := UInt8.toNat_ofNat_of_lt' (by change _ < 256; omega)
  have hNot (value : UInt8) (hValue : n ≠ value.toNat) : UInt8.ofNat n ≠ value := by
    rintro rfl
    exact hValue hByte.symm
  rw [receiveLength, if_neg (hNot 126 (by change n ≠ 126; omega)),
    if_neg (hNot 127 (by change n ≠ 127; omega)), hByte]
  rfl

theorem receiveLength_long {n : Nat} (h : n ≤ 65535) (stream : List UInt8) :
    receiveLength 126 ([UInt8.ofNat (n / 256), UInt8.ofNat (n % 256)] ++ stream) =
      some (n, stream) := by
  rw [receiveLength, if_pos rfl, parser_bind, takeExact_append 2 rfl, Option.bind_some,
    beNat_length h]
  rfl

theorem receiveFrame_serverFrame {opcode : UInt8} {payload : List UInt8} (hOpcode : opcode < 16)
    (hLength : payload.length ≤ 65535) :
    Delimits receiveFrame (serverFrame opcode payload) (opcode, payload) := by
  nth_rewrite 2 [← opcode_of_first hOpcode]
  rw [serverFrame, frameHeader]
  by_cases hShort : payload.length ≤ 125
  · rw [if_pos hShort]
    refine receiveFrame_cons [] fun rest => ?_
    rw [length_of_second hShort]
    exact receiveLength_short hShort rest
  · rw [if_neg hShort]
    exact receiveFrame_cons [UInt8.ofNat (payload.length / 256),
      UInt8.ofNat (payload.length % 256)] (receiveLength_long hLength)

def writeText (text : List UInt8) : Socket Unit := writeFrame 0x01 text

def writeFrames : List (UInt8 × List UInt8) → Socket Unit
  | [] => pure ()
  | (opcode, payload) :: frames => do
    writeFrame opcode payload
    writeFrames frames

theorem writeFrames_sends {frames : List (UInt8 × List UInt8)}
    (h : ∀ frame ∈ frames, frame.2.length ≤ 65535) :
    Takes (writeFrames frames) [] (.ok ()) (frames.flatMap fun (opcode, payload) =>
      serverFrame opcode payload) := by
  induction frames with
  | nil => exact .pure ()
  | cons frame frames ih =>
    obtain ⟨hFrame, hFrames⟩ := List.forall_mem_cons.mp h
    exact .bind (writeFrame_sends frame.1 hFrame) (ih hFrames)

/-- A client reads the frames back as they were written, and what is too long for a
frame is not written at all. -/
theorem server_frames_are_read :
    (∀ frames : List (UInt8 × List UInt8),
      (∀ frame ∈ frames, frame.1 < 16 ∧ frame.2.length ≤ 65535) →
      ∃ bytes, Takes (writeFrames frames) [] (.ok ()) bytes ∧
        ∀ rest, readMany receiveFrame frames.length (bytes ++ rest) = some (frames, rest)) ∧
    ∀ (opcode : UInt8) (payload : List UInt8), 65535 < payload.length →
      (writeFrame opcode payload).run = .done (.error .messageTooLarge) := by
  refine ⟨?_, fun opcode _ h => writeFrame_tooLarge opcode h⟩
  intro frames hFrames
  exact ⟨_, writeFrames_sends fun frame hFrame => (hFrames frame hFrame).2,
    readMany_flatMap receiveFrame fun frame hFrame =>
      receiveFrame_serverFrame (hFrames frame hFrame).1 (hFrames frame hFrame).2⟩

theorem server_frames_are_read_pong : ∃ bytes,
    Takes (writeFrames [(0x01, [0x68, 0x69]), (0x0a, [])]) [] (.ok ()) bytes ∧
      readMany receiveFrame 2 (bytes ++ [0x88]) = some ([(0x01, [0x68, 0x69]), (0x0a, [])], [0x88]) := by
  obtain ⟨bytes, hWritten, hRead⟩ :=
    server_frames_are_read.1 [(0x01, [0x68, 0x69]), (0x0a, [])] (by decide)
  exact ⟨bytes, hWritten, hRead [0x88]⟩

end Fetchline.WebSocket
