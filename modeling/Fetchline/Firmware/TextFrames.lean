import Fetchline.Firmware.ServerOutput

/-! # The texts that `read_text` accepts

A call returns a text when the stream begins with control frames and one text frame, all masked,
whole and within the buffer, and on nothing else; then it has taken exactly these bytes.
-/

namespace Fetchline.WebSocket

open Effects Effects.Program

/-- A whole frame of a client with FIN set and no reserved bit; the length may stand in 16 bits
where seven would do. -/
structure MaskedFrame where
  opcode : UInt8
  mask : List UInt8
  masked : List UInt8
  long : Bool
  nibble : opcode < 16
  mask_length : mask.length = 4
  fits : masked.length ≤ 65535
  short : long = false → masked.length ≤ 125

namespace MaskedFrame

variable (frame : MaskedFrame)

def payload : List UInt8 := applyMask frame.mask frame.masked

def lengthBytes : List UInt8 :=
  if frame.long then [0x80 ||| 126, UInt8.ofNat (frame.masked.length / 256),
    UInt8.ofNat (frame.masked.length % 256)]
  else [0x80 ||| UInt8.ofNat frame.masked.length]

def encode : List UInt8 :=
  [0x80 ||| frame.opcode] ++ frame.lengthBytes ++ frame.mask ++ frame.masked

def received : ReceivedFrame := ⟨frame.opcode, frame.masked.length, frame.mask, frame.masked⟩

end MaskedFrame

theorem takeExact_eq_some_iff {count : Nat} {stream bytes rest : List UInt8} :
    takeExact count stream = some (bytes, rest) ↔ bytes.length = count ∧ stream = bytes ++ rest := by
  constructor
  · intro h
    refine ⟨takeExact_length h, ?_⟩
    rw [takeExact] at h
    split at h
    · cases h
      exact (List.take_append_drop count stream).symm
    · cases h
  · rintro ⟨hLength, rfl⟩
    exact takeExact_append count hLength rest

/-- The two bytes of a header that passes the checks. -/
theorem header_bits (first second : UInt8) :
    ¬ (first &&& 0x70 ≠ 0 ∨ first &&& 0x80 = 0 ∨ second &&& 0x80 = 0) ↔
      first = 0x80 ||| (first &&& 0x0f) ∧ second = 0x80 ||| (second &&& 0x7f) := by
  have hFirst : ∀ n : Fin 256, ¬ (UInt8.ofNat n &&& 0x70 ≠ 0 ∨ UInt8.ofNat n &&& 0x80 = 0) ↔
      UInt8.ofNat n = 0x80 ||| (UInt8.ofNat n &&& 0x0f) := by decide +kernel
  have hSecond : ∀ n : Fin 256, ¬ UInt8.ofNat n &&& 0x80 = 0 ↔
      UInt8.ofNat n = 0x80 ||| (UInt8.ofNat n &&& 0x7f) := by decide +kernel
  have hByte (byte : UInt8) : UInt8.ofNat byte.toNat = byte := UInt8.ofNat_toNat
  have hFirst := hFirst ⟨first.toNat, first.toNat_lt⟩
  have hSecond := hSecond ⟨second.toNat, second.toNat_lt⟩
  rw [hByte] at hFirst hSecond
  rw [← or_assoc, not_or, hFirst, hSecond]

theorem nibble_lt (byte : UInt8) : byte &&& 0x0f < 16 := by
  have hAll : ∀ n : Fin 256, UInt8.ofNat n &&& 0x0f < 16 := by decide +kernel
  have h := hAll ⟨byte.toNat, byte.toNat_lt⟩
  rwa [UInt8.ofNat_toNat] at h

theorem seven_bits {n : Nat} (h : n ≤ 126) :
    (0x80 ||| UInt8.ofNat n) &&& 0x80 ≠ 0 ∧ (0x80 ||| UInt8.ofNat n) &&& 0x7f = UInt8.ofNat n := by
  have hAll : ∀ n : Fin 127, (0x80 ||| UInt8.ofNat n) &&& 0x80 ≠ 0 ∧
      (0x80 ||| UInt8.ofNat n) &&& 0x7f = UInt8.ofNat n := by decide +kernel
  exact hAll ⟨n, Nat.lt_succ_of_le h⟩

theorem first_bits {opcode : UInt8} (h : opcode < 16) :
    (0x80 ||| opcode) &&& 0x70 = 0 ∧ (0x80 ||| opcode) &&& 0x80 ≠ 0 := by
  have hAll : ∀ n : Fin 16, (0x80 ||| UInt8.ofNat n) &&& 0x70 = 0 ∧
      (0x80 ||| UInt8.ofNat n) &&& 0x80 ≠ 0 := by decide +kernel
  have hOpcode := hAll ⟨opcode.toNat, UInt8.lt_iff_toNat_lt.mp h⟩
  rwa [UInt8.ofNat_toNat] at hOpcode

namespace MaskedFrame

/-- The length bytes without the mask bit: what stands in the second byte, and what follows it. -/
def firstLen (frame : MaskedFrame) : UInt8 :=
  if frame.long then 126 else UInt8.ofNat frame.masked.length

def extended (frame : MaskedFrame) : List UInt8 :=
  if frame.long then [UInt8.ofNat (frame.masked.length / 256), UInt8.ofNat (frame.masked.length % 256)]
  else []

theorem lengthBytes_eq (frame : MaskedFrame) :
    frame.lengthBytes = (0x80 ||| frame.firstLen) :: frame.extended := by
  rw [lengthBytes, firstLen, extended]
  split <;> rfl

theorem encode_eq (frame : MaskedFrame) (rest : List UInt8) :
    frame.encode ++ rest = [0x80 ||| frame.opcode, 0x80 ||| frame.firstLen] ++
      (frame.extended ++ (frame.mask ++ (frame.masked ++ rest))) := by
  simp only [encode, lengthBytes_eq, List.append_assoc, List.cons_append, List.nil_append]

theorem firstLen_bits (frame : MaskedFrame) :
    (0x80 ||| frame.firstLen) &&& 0x80 ≠ 0 ∧
      (0x80 ||| frame.firstLen) &&& 0x7f = frame.firstLen := by
  rw [firstLen]
  split
  · decide
  · rename_i hLong
    exact seven_bits ((frame.short (Bool.eq_false_iff.mpr hLong)).trans (by decide))

theorem parse_length (frame : MaskedFrame) (rest : List UInt8) :
    parsePayloadLen frame.firstLen (frame.extended ++ rest) = some (frame.masked.length, rest) := by
  rw [parsePayloadLen, firstLen, extended]
  cases hLong : frame.long with
  | false =>
    have hShort := frame.short hLong
    have hNat : (UInt8.ofNat frame.masked.length).toNat = frame.masked.length :=
      UInt8.toNat_ofNat_of_lt' (Nat.lt_of_le_of_lt hShort (by decide))
    simp only [Bool.false_eq_true, if_false]
    rw [if_pos (UInt8.le_iff_toNat_le.mpr (by rw [hNat]; exact hShort)), hNat]
    rfl
  | true =>
    have hFits := frame.fits
    have hValue : 256 * (UInt8.ofNat (frame.masked.length / 256)).toNat +
        (UInt8.ofNat (frame.masked.length % 256)).toNat = frame.masked.length := by
      rw [UInt8.toNat_ofNat', UInt8.toNat_ofNat']
      omega
    simp only [if_true]
    rw [if_neg (by decide), parser_bind, takeExact_append 2 rfl, Option.bind_some]
    simp only [List.getD_cons_zero, List.getD_cons_succ, hValue]
    rfl

end MaskedFrame

/-- The parser takes these frames, -/
theorem parseFrame_encode (frame : MaskedFrame) {size : Nat} (hSize : frame.masked.length ≤ size)
    (rest : List UInt8) : parseFrame size (frame.encode ++ rest) = some (frame.received, rest) := by
  obtain ⟨hReserved, hFin⟩ := first_bits frame.nibble
  obtain ⟨hMask, hLen⟩ := frame.firstLen_bits
  rw [frame.encode_eq, parseFrame, parser_bind, takeExact_append 2 rfl, Option.bind_some]
  simp only [List.getD_cons_zero, List.getD_cons_succ]
  rw [if_neg (not_or.mpr ⟨not_not.mpr hReserved, not_or.mpr ⟨hFin, hMask⟩⟩), parser_bind, hLen,
    frame.parse_length, Option.bind_some]
  rw [if_neg (Nat.not_lt.mpr hSize), parser_bind, takeExact_append 4 frame.mask_length,
    Option.bind_some, parser_bind, takeExact_append _ rfl, Option.bind_some]
  simp only [opcode_of_first frame.nibble]
  rfl

/-- and no others. -/
theorem parseFrame_sound {size : Nat} {stream rest : List UInt8} {received : ReceivedFrame}
    (h : parseFrame size stream = some (received, rest)) :
    ∃ frame : MaskedFrame, frame.masked.length ≤ size ∧ received = frame.received ∧
      stream = frame.encode ++ rest := by
  rw [parseFrame, parser_bind] at h
  obtain ⟨⟨header, afterHeader⟩, hHeader, hChecked⟩ := Option.bind_eq_some_iff.mp h
  obtain ⟨hTwo, rfl⟩ := takeExact_eq_some_iff.mp hHeader
  obtain ⟨first, second, rfl⟩ := List.length_eq_two.mp hTwo
  simp only [List.getD_cons_zero, List.getD_cons_succ] at hChecked
  split at hChecked
  · cases hChecked
  rename_i hBits
  obtain ⟨hFirst, hSecond⟩ := (header_bits first second).mp hBits
  rw [parser_bind] at hChecked
  obtain ⟨⟨payloadLen, afterLength⟩, hLength, hSized⟩ := Option.bind_eq_some_iff.mp hChecked
  dsimp only at hSized
  split at hSized
  · cases hSized
  rename_i hSize
  rw [parser_bind] at hSized
  obtain ⟨⟨mask, afterMask⟩, hMask, hPayload⟩ := Option.bind_eq_some_iff.mp hSized
  rw [parser_bind] at hPayload
  obtain ⟨⟨masked, afterMasked⟩, hMasked, hEnd⟩ := Option.bind_eq_some_iff.mp hPayload
  cases hEnd
  obtain ⟨hMaskLength, rfl⟩ := takeExact_eq_some_iff.mp hMask
  obtain ⟨rfl, rfl⟩ := takeExact_eq_some_iff.mp hMasked
  have hFits := parsePayloadLen_le hLength
  rw [parsePayloadLen] at hLength
  split at hLength
  · rename_i hShort
    have hNat := UInt8.le_iff_toNat_le.mp hShort
    obtain ⟨hSame, rfl⟩ := Prod.mk.inj (Option.some.inj hLength)
    refine ⟨⟨first &&& 0x0f, mask, masked, false, nibble_lt first, hMaskLength, hFits,
      fun _ => hSame ▸ hNat⟩, Nat.le_of_not_lt hSize, rfl, ?_⟩
    rw [MaskedFrame.encode_eq, MaskedFrame.firstLen, MaskedFrame.extended]
    simp only [Bool.false_eq_true, if_false, List.nil_append]
    rw [← hSame, UInt8.ofNat_toNat, ← hFirst, ← hSecond]
  split at hLength
  · rename_i hLong
    rw [parser_bind] at hLength
    obtain ⟨⟨extended, afterExtended⟩, hExtended, hValue⟩ := Option.bind_eq_some_iff.mp hLength
    obtain ⟨hTwo, rfl⟩ := takeExact_eq_some_iff.mp hExtended
    obtain ⟨high, low, rfl⟩ := List.length_eq_two.mp hTwo
    obtain ⟨hSame, rfl⟩ := Prod.mk.inj (Option.some.inj hValue)
    simp only [List.getD_cons_zero, List.getD_cons_succ] at hSame
    have hLow := low.toNat_lt
    refine ⟨⟨first &&& 0x0f, mask, masked, true, nibble_lt first, hMaskLength, hFits,
      fun h => by cases h⟩,
      Nat.le_of_not_lt hSize, rfl, ?_⟩
    rw [MaskedFrame.encode_eq, MaskedFrame.firstLen, MaskedFrame.extended]
    simp only [if_true]
    rw [← hSame, show (256 * high.toNat + low.toNat) / 256 = high.toNat by omega,
      show (256 * high.toNat + low.toNat) % 256 = low.toNat by omega, UInt8.ofNat_toNat,
      UInt8.ofNat_toNat, ← hFirst, ← hLong, ← hSecond]
  · cases hLength

/-- How a round of the loop ends on a frame. -/
def ReceivedFrame.outcome (frame : ReceivedFrame) : Except Error (Option String) :=
  if frame.opcode = 0x01 then
    match Utf8.decode frame.payload with
    | some text => .ok (some text)
    | none => .error .invalidText
  else if frame.opcode = 0x08 then .error .closed
  else if frame.opcode = 0x09 ∨ frame.opcode = 0x0a then .ok none
  else .error .invalidFrame

theorem answerFrame_outcome (frame : ReceivedFrame) (h : frame.payload.length ≤ 65535) :
    Takes (answerFrame frame.opcode frame.payload) [] frame.outcome (frameBytes frame.answer) := by
  rw [answerFrame, ReceivedFrame.answer, ReceivedFrame.outcome]
  by_cases hText : frame.opcode = 0x01
  · rw [if_pos hText, if_pos hText, hText, if_neg (by decide), if_neg (by decide)]
    cases Utf8.decode frame.payload with
    | some text => exact .pure _
    | none => exact .throw _
  rw [if_neg hText, if_neg hText]
  by_cases hClose : frame.opcode = 0x08
  · rw [if_pos hClose, if_pos hClose, if_pos hClose]
    exact (writeFrame_sends 0x08 (by decide : [].length ≤ 65535)).bind_nil (.throw .closed)
  rw [if_neg hClose, if_neg hClose, if_neg hClose]
  by_cases hPing : frame.opcode = 0x09
  · rw [if_pos hPing, if_pos hPing, if_pos (.inl hPing), frameBytes, List.flatMap_singleton]
    exact (writeFrame_sends 0x0a h).bind_nil (.pure none)
  rw [if_neg hPing, if_neg hPing]
  by_cases hPong : frame.opcode = 0x0a
  · rw [if_pos hPong, if_pos (.inr hPong)]
    exact .pure none
  · rw [if_neg hPong, if_neg (not_or.mpr ⟨hPing, hPong⟩)]
    exact .throw _

namespace MaskedFrame

theorem payload_length (frame : MaskedFrame) :
    frame.received.payload.length = frame.masked.length := by
  rw [ReceivedFrame.payload, applyMask, List.length_mapIdx]
  rfl

/-- One round on a frame that fits. -/
theorem readMessage_takes (frame : MaskedFrame) {buffer : List UInt8}
    (hSize : frame.masked.length ≤ buffer.length) :
    ∃ buffer' : List UInt8, buffer'.length = buffer.length ∧
      Takes (readMessage buffer) frame.encode (frame.received.outcome.map (buffer', ·))
        (frameBytes frame.received.answer) := by
  have hParse := parseFrame_encode frame hSize []
  obtain ⟨bytes, hBytes, hRead⟩ := (readFrame_parses buffer.length).takes hParse
  rw [List.append_nil, List.append_nil] at hBytes
  subst hBytes
  have hPayload := frame.payload_length
  refine ⟨frame.received.payload ++ buffer.drop frame.received.payloadLen, ?_, ?_⟩
  · rw [List.length_append, List.length_drop, hPayload]
    exact Nat.add_sub_of_le hSize
  · rw [readMessage_eq, ← List.append_nil frame.encode]
    refine hRead.reads ?_
    have hTake : (frame.received.payload ++ buffer.drop frame.received.payloadLen).take
        frame.received.payloadLen = frame.received.payload := List.take_left' hPayload
    simp only [hTake]
    exact (answerFrame_outcome frame.received (hPayload.trans_le frame.fits)).map _

end MaskedFrame

/-- Fewer control frames than this, then a frame with this text; none is larger than the buffer. -/
structure BringsText (size rounds : Nat) (controls : List MaskedFrame) (last : MaskedFrame)
    (text : String) : Prop where
  few : controls.length < rounds
  control : ∀ frame ∈ controls, frame.opcode = 0x09 ∨ frame.opcode = 0x0a
  control_fits : ∀ frame ∈ controls, frame.masked.length ≤ size
  opcode : last.opcode = 0x01
  fits : last.masked.length ≤ size
  decodes : Utf8.decode last.payload = some text

/-- A pong for each ping. -/
def pongs (controls : List MaskedFrame) : List UInt8 :=
  frameBytes (controls.flatMap (·.received.answer))

/-- The call returns this text, and leaves the socket with this to read and that sent. -/
def ReturnsText (p : Socket (List UInt8 × Option String)) (tcp : Tcp) (text : String)
    (rest sent : List UInt8) : Prop :=
  ∃ buffer incoming, p.run.run segmented tcp = (.ok (buffer, some text), ⟨incoming, sent⟩) ∧
    incoming.flatten = rest

theorem outcome_none_iff (frame : ReceivedFrame) :
    frame.outcome = .ok none ↔ frame.opcode = 0x09 ∨ frame.opcode = 0x0a := by
  rw [ReceivedFrame.outcome]
  by_cases hText : frame.opcode = 0x01
  · rw [if_pos hText, hText]
    cases Utf8.decode frame.payload <;> simp
  by_cases hClose : frame.opcode = 0x08
  · simp [hClose]
  · rw [if_neg hText, if_neg hClose]
    split <;> simp_all

theorem outcome_some_iff (frame : ReceivedFrame) (text : String) :
    frame.outcome = .ok (some text) ↔
      frame.opcode = 0x01 ∧ Utf8.decode frame.payload = some text := by
  rw [ReceivedFrame.outcome]
  by_cases hText : frame.opcode = 0x01
  · rw [if_pos hText]
    cases Utf8.decode frame.payload <;> simp [hText]
  · rw [if_neg hText]
    by_cases hClose : frame.opcode = 0x08
    · simp [hClose]
    · rw [if_neg hClose]
      split <;> simp [hText]

theorem pongs_cons (frame : MaskedFrame) (controls : List MaskedFrame) :
    pongs (frame :: controls) = frameBytes frame.received.answer ++ pongs controls := by
  simp only [pongs, frameBytes, List.flatMap_cons, List.flatMap_append]

variable {rounds : Nat} {buffer rest sent : List UInt8} {tcp : Tcp} {text : String}

/-- The induction is on the rounds: the first frame of the stream is a control frame of the call, or
its last. -/
theorem returnsText_sound (h : ReturnsText (readText rounds buffer) tcp text rest sent) :
    ∃ controls last, BringsText buffer.length rounds controls last text ∧
      tcp.incoming.flatten = controls.flatMap MaskedFrame.encode ++ (last.encode ++ rest) ∧
      sent = tcp.sent ++ pongs controls := by
  induction rounds generalizing buffer tcp with
  | zero =>
    obtain ⟨buffer', incoming, hRun, -⟩ := h
    cases hRun
  | succ rounds ih =>
    obtain ⟨buffer', incoming, hRun, hRest⟩ := h
    cases hParse : parseFrame buffer.length tcp.incoming.flatten with
    | none =>
      have hFails : Fails (readText (rounds + 1) buffer) tcp.incoming.flatten := by
        rw [readText, readMessage_eq]
        exact (((readFrame_parses buffer.length).fails hParse).bind _).bind _
      obtain ⟨error, incoming', hError⟩ := hFails tcp rfl
      rw [hRun] at hError
      cases hError
    | some item =>
      obtain ⟨received, left⟩ := item
      obtain ⟨frame, hSize, rfl, hStream⟩ := parseFrame_sound hParse
      obtain ⟨next, hNext, hTakes⟩ := frame.readMessage_takes hSize
      obtain ⟨incoming', hRead, hLeft⟩ := hTakes tcp left hStream
      rw [readText, ExceptT.run_bind, run_bind, hRead] at hRun
      cases hOutcome : frame.received.outcome with
      | error error =>
        rw [hOutcome] at hRun
        cases hRun
      | ok message =>
        rw [hOutcome] at hRun
        cases message with
        | some read =>
          obtain ⟨hOpcode, hDecodes⟩ := (outcome_some_iff _ _).mp hOutcome
          cases hRun
          refine ⟨[], frame, ⟨Nat.succ_pos _, List.forall_mem_nil _, List.forall_mem_nil _, hOpcode,
            hSize, hDecodes⟩, ?_, ?_⟩
          · rw [hStream, ← hLeft, hRest]
            rfl
          · rw [ReceivedFrame.answer, hOpcode]
            rfl
        | none =>
          have hControl := (outcome_none_iff _).mp hOutcome
          obtain ⟨controls, last, hBrings, hSplit, rfl⟩ := ih ⟨buffer', incoming, hRun, hRest⟩
          refine ⟨frame :: controls, last, ⟨Nat.succ_lt_succ hBrings.few,
            List.forall_mem_cons.mpr ⟨hControl, hBrings.control⟩,
            List.forall_mem_cons.mpr ⟨hSize, hNext ▸ hBrings.control_fits⟩, hBrings.opcode,
            hNext ▸ hBrings.fits, hBrings.decodes⟩, ?_, ?_⟩
          · rw [hStream, ← hLeft, hSplit, List.flatMap_cons, List.append_assoc]
          · rw [pongs_cons, List.append_assoc]

/-- The induction is on the control frames. -/
theorem returnsText_complete {controls : List MaskedFrame} {last : MaskedFrame}
    (h : BringsText buffer.length rounds controls last text)
    (hStream : tcp.incoming.flatten =
      controls.flatMap MaskedFrame.encode ++ (last.encode ++ rest)) :
    ReturnsText (readText rounds buffer) tcp text rest (tcp.sent ++ pongs controls) := by
  induction controls generalizing rounds buffer tcp with
  | nil =>
    obtain ⟨rounds, rfl⟩ : ∃ n, rounds = n + 1 := ⟨rounds - 1, (Nat.sub_add_cancel h.few).symm⟩
    obtain ⟨next, hNext, hTakes⟩ := last.readMessage_takes h.fits
    rw [(outcome_some_iff last.received text).mpr ⟨h.opcode, h.decodes⟩] at hTakes
    obtain ⟨incoming, hRead, hRest⟩ := hTakes tcp rest hStream
    refine ⟨next, incoming, ?_, hRest⟩
    have hAnswer : last.received.answer = [] := by
      have hOpcode : last.received.opcode = 0x01 := h.opcode
      rw [ReceivedFrame.answer, hOpcode]
      rfl
    rw [readText, ExceptT.run_bind, run_bind, hRead, hAnswer]
    rfl
  | cons frame controls ih =>
    obtain ⟨hControl, hControls⟩ := List.forall_mem_cons.mp h.control
    obtain ⟨hSize, hSizes⟩ := List.forall_mem_cons.mp h.control_fits
    have hFew := h.few
    rw [List.length_cons] at hFew
    obtain ⟨rounds, rfl⟩ : ∃ n, rounds = n + 1 := ⟨rounds - 1, by omega⟩
    obtain ⟨next, hNext, hTakes⟩ := frame.readMessage_takes hSize
    rw [(outcome_none_iff frame.received).mpr hControl] at hTakes
    rw [List.flatMap_cons, List.append_assoc] at hStream
    obtain ⟨incoming, hRead, hRest⟩ := hTakes tcp _ hStream
    have hLater : BringsText next.length rounds controls last text :=
      ⟨by omega, hControls, hNext ▸ hSizes, h.opcode, hNext ▸ h.fits, h.decodes⟩
    have hReturns : ReturnsText (readText rounds next)
        ⟨incoming, tcp.sent ++ frameBytes frame.received.answer⟩ text rest _ := ih hLater hRest
    obtain ⟨buffer', incoming', hRun, hEnd⟩ := hReturns
    refine ⟨buffer', incoming', ?_, hEnd⟩
    rw [readText, ExceptT.run_bind, run_bind, hRead, pongs_cons, ← List.append_assoc]
    exact hRun

/-- The call returns a text exactly when the stream begins with control frames and a frame that
carries it; it takes these and writes a pong for each ping. -/
theorem readText_returns_iff (rounds : Nat) (buffer : List UInt8) (tcp : Tcp) (text : String)
    (rest sent : List UInt8) :
    (∃ buffer' incoming, (readText rounds buffer).run.run segmented tcp =
        (.ok (buffer', some text), ⟨incoming, sent⟩) ∧ incoming.flatten = rest) ↔
      ∃ controls last, BringsText buffer.length rounds controls last text ∧
        tcp.incoming.flatten = controls.flatMap MaskedFrame.encode ++ (last.encode ++ rest) ∧
        sent = tcp.sent ++ pongs controls := by
  constructor
  · exact returnsText_sound
  · rintro ⟨controls, last, hBrings, hStream, rfl⟩
    exact returnsText_complete hBrings hStream

end Fetchline.WebSocket
