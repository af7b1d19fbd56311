import Fetchline.Firmware.ServerFrames

/-! # What the server writes in answer to a client

The frames that a call of `read_text` writes on any stream, well formed or not, and
when they are frames a server may send.
-/

namespace Fetchline.WebSocket

open Effects Effects.Program Framing

/-- The shortest form of a payload length: what the second byte says, and the bytes
that follow it. -/
inductive LengthForm : UInt8 → List UInt8 → Nat → Prop where
  | seven {n : Nat} (h : n ≤ 125) : LengthForm (UInt8.ofNat n) [] n
  | sixteen {extended : List UInt8} (hBytes : extended.length = 2) (h : 126 ≤ beNat extended) :
      LengthForm 126 extended (beNat extended)
  | sixtyFour {extended : List UInt8} (hBytes : extended.length = 8) (h : 65536 ≤ beNat extended) :
      LengthForm 127 extended (beNat extended)

def isControl (opcode : UInt8) : Prop := opcode = 0x08 ∨ opcode = 0x09 ∨ opcode = 0x0a

instance (opcode : UInt8) : Decidable (isControl opcode) :=
  inferInstanceAs (Decidable (_ ∨ _ ∨ _))

/-- FIN set, no reserved bit, no mask, the shortest form of the length, and a control
frame that carries at most 125 bytes. -/
structure IsServerFrame (first second : UInt8) (extended payload : List UInt8) : Prop where
  fin : first &&& 0x80 ≠ 0
  reserved : first &&& 0x70 = 0
  unmasked : second &&& 0x80 = 0
  length : LengthForm second extended payload.length
  control : isControl (first &&& 0x0f) → payload.length ≤ 125

/-- The bytes are frames that a server may send, one after the other. -/
def IsServerOutput (bytes : List UInt8) : Prop :=
  ∃ frames : List (List UInt8), bytes = frames.flatten ∧ ∀ frame ∈ frames,
    ∃ first second extended payload, frame = first :: second :: (extended ++ payload) ∧
      IsServerFrame first second extended payload

theorem receiveLength_form {second : UInt8} {extended : List UInt8} {n : Nat}
    (h : LengthForm second extended n) (rest : List UInt8) :
    receiveLength (second &&& 0x7f) (extended ++ rest) = some (n, rest) := by
  cases h with
  | seven h =>
    rw [length_of_second h]
    exact receiveLength_short h rest
  | sixteen hBytes h =>
    rw [receiveLength, if_pos (by decide), parser_bind, takeExact_append 2 hBytes]
    rfl
  | sixtyFour hBytes h =>
    rw [receiveLength, if_neg (by decide), if_pos (by decide), parser_bind,
      takeExact_append 8 hBytes]
    rfl

theorem opcode_bits_of_first {opcode : UInt8} (h : opcode < 16) :
    (0x80 ||| opcode) &&& 0x80 ≠ 0 ∧ (0x80 ||| opcode) &&& 0x70 = 0 := by
  have hAll : ∀ n : Fin 16, (0x80 ||| UInt8.ofNat n) &&& 0x80 ≠ 0 ∧
      (0x80 ||| UInt8.ofNat n) &&& 0x70 = 0 := by decide
  have hOpcode := hAll ⟨opcode.toNat, UInt8.lt_iff_toNat_lt.mp h⟩
  rwa [UInt8.ofNat_toNat] at hOpcode

theorem unmasked_of_second {n : Nat} (h : n ≤ 125) : UInt8.ofNat n &&& 0x80 = 0 := by
  have hAll : ∀ n : Fin 126, UInt8.ofNat n &&& 0x80 = 0 := by decide
  exact hAll ⟨n, Nat.lt_succ_of_le h⟩

theorem serverFrame_fields {opcode : UInt8} {payload : List UInt8} (hOpcode : opcode < 16)
    (hLength : payload.length ≤ 65535) (hControl : isControl opcode → payload.length ≤ 125) :
    ∃ first second extended payload',
      serverFrame opcode payload = first :: second :: (extended ++ payload') ∧
        IsServerFrame first second extended payload' := by
  obtain ⟨hFin, hReserved⟩ := opcode_bits_of_first hOpcode
  rw [← opcode_of_first hOpcode] at hControl
  rw [serverFrame, frameHeader]
  by_cases hShort : payload.length ≤ 125
  · rw [if_pos hShort]
    exact ⟨_, _, [], payload, rfl, hFin, hReserved, unmasked_of_second hShort, .seven hShort,
      hControl⟩
  · rw [if_neg hShort]
    refine ⟨_, _, [UInt8.ofNat (payload.length / 256), UInt8.ofNat (payload.length % 256)], payload,
      rfl, hFin, hReserved, by decide, ?_, hControl⟩
    have hValue := beNat_length hLength
    have hBytes : [UInt8.ofNat (payload.length / 256), UInt8.ofNat (payload.length % 256)].length = 2 :=
      rfl
    have hForm := LengthForm.sixteen hBytes (by omega)
    rwa [hValue] at hForm

theorem isServerOutput_iff {frames : List (UInt8 × List UInt8)}
    (hFrames : ∀ frame ∈ frames, frame.1 < 16 ∧ frame.2.length ≤ 65535) :
    IsServerOutput (frames.flatMap fun (opcode, payload) => serverFrame opcode payload) ↔
      ∀ frame ∈ frames, isControl frame.1 → frame.2.length ≤ 125 := by
  rw [List.flatMap_def]
  constructor
  · rintro ⟨others, hEq, hOthers⟩ frame hFrame hControl
    -- Both ways of cutting the bytes up are the client's, so they are the same.
    have hSame : frames.map (fun (opcode, payload) => serverFrame opcode payload) = others := by
      refine flatten_unique receiveFrame rfl ?_ ?_ hEq
      · intro bytes hBytes
        obtain ⟨other, hOther, rfl⟩ := List.mem_map.mp hBytes
        exact ⟨_, receiveFrame_serverFrame (hFrames other hOther).1 (hFrames other hOther).2⟩
      · intro bytes hBytes
        obtain ⟨first, second, extended, payload, rfl, hFields⟩ := hOthers bytes hBytes
        exact ⟨_, receiveFrame_cons extended (receiveLength_form hFields.length)⟩
    have hMem : serverFrame frame.1 frame.2 ∈ others := hSame ▸ List.mem_map.mpr ⟨frame, hFrame, rfl⟩
    obtain ⟨first, second, extended, payload, hBytes, hFields⟩ := hOthers _ hMem
    have hRead := receiveFrame_serverFrame (hFrames frame hFrame).1 (hFrames frame hFrame).2 []
    rw [hBytes, receiveFrame_cons extended (receiveLength_form hFields.length)] at hRead
    obtain ⟨hItem, -⟩ := Prod.mk.inj (Option.some.inj hRead)
    obtain ⟨hOpcode, hPayload⟩ := Prod.mk.inj hItem
    rw [← hPayload]
    exact hFields.control (hOpcode ▸ hControl)
  · intro hControl
    refine ⟨_, rfl, ?_⟩
    intro bytes hBytes
    obtain ⟨frame, hFrame, rfl⟩ := List.mem_map.mp hBytes
    exact serverFrame_fields (hFrames frame hFrame).1 (hFrames frame hFrame).2
      (hControl frame hFrame)

/-- On this stream the program ends in an error and writes nothing. -/
def Fails {α : Type} (p : Socket α) (stream : List UInt8) : Prop :=
  ∀ tcp, tcp.incoming.flatten = stream →
    ∃ error incoming, p.run.run segmented tcp = (.error error, ⟨incoming, tcp.sent⟩)

/-- The program reads what the parser does. -/
structure Parses {α : Type} (p : Socket α) (parse : Parser α) : Prop where
  fails : ∀ {stream}, parse stream = none → Fails p stream
  takes : ∀ {stream a rest}, parse stream = some (a, rest) →
    ∃ bytes, stream = bytes ++ rest ∧ Takes p bytes (.ok a) []

section Parses

variable {α β : Type}

theorem Fails.bind {p : Socket α} {stream : List UInt8} (h : Fails p stream) (f : α → Socket β) :
    Fails (p >>= f) stream := by
  intro tcp hStream
  obtain ⟨error, incoming, hRun⟩ := h tcp hStream
  refine ⟨error, incoming, ?_⟩
  rw [ExceptT.run_bind, run_bind, hRun]
  rfl

theorem Takes.fails {p : Socket α} {f : α → Socket β} {a : α} {bytes rest : List UInt8}
    (hp : Takes p bytes (.ok a) []) (hf : Fails (f a) rest) : Fails (p >>= f) (bytes ++ rest) := by
  intro tcp hStream
  obtain ⟨incoming, hRun, hRest⟩ := hp tcp rest hStream
  obtain ⟨error, incoming', hRun'⟩ := hf ⟨incoming, tcp.sent ++ []⟩ hRest
  refine ⟨error, incoming', ?_⟩
  rw [ExceptT.run_bind, run_bind, hRun]
  rw [List.append_nil] at hRun'
  simp only [List.append_nil, hRun']

theorem Parses.pure (a : α) : Parses (Pure.pure a) (Pure.pure a) where
  fails := nofun
  takes h := by
    cases h
    exact ⟨[], rfl, .pure a⟩

theorem Parses.throw (error : Error) : Parses (throw error : Socket α) failure where
  fails _ tcp _ := ⟨error, tcp.incoming, rfl⟩
  takes := nofun

theorem Parses.bind {p : Socket α} {parse : Parser α} {f : α → Socket β} {next : α → Parser β}
    (hp : Parses p parse) (hf : ∀ a, Parses (f a) (next a)) : Parses (p >>= f) (parse >>= next) where
  fails {stream} h := by
    rw [parser_bind] at h
    cases hParse : parse stream with
    | none => exact (hp.fails hParse).bind f
    | some item =>
      rw [hParse] at h
      obtain ⟨bytes, rfl, hTakes⟩ := hp.takes hParse
      exact hTakes.fails ((hf item.1).fails h)
  takes {stream b rest} h := by
    rw [parser_bind] at h
    obtain ⟨item, hParse, hNext⟩ := Option.bind_eq_some_iff.mp h
    obtain ⟨bytes, rfl, hTakes⟩ := hp.takes hParse
    obtain ⟨bytes', hRest, hTakes'⟩ := (hf item.1).takes hNext
    exact ⟨bytes ++ bytes', by rw [hRest, List.append_assoc], hTakes.reads hTakes'⟩

theorem Parses.ite {c : Prop} [Decidable c] {p q : Socket α} {parse parse' : Parser α}
    (hp : Parses p parse) (hq : Parses q parse') :
    Parses (if c then p else q) (if c then parse else parse') := by
  split
  · exact hp
  · exact hq

end Parses

theorem readSome_fails {limit : Nat} : Fails (readSome limit) [] := by
  intro tcp hStream
  have hNil := takeSegment_flatten limit tcp.incoming
  rw [hStream] at hNil
  obtain ⟨hTaken, -⟩ := List.append_eq_nil_iff.mp hNil
  exact ⟨.closed, (takeSegment limit tcp.incoming).2, readSome_closed hTaken⟩

theorem fill_fails {reads count : Nat} (hReads : count ≤ reads) {stream : List UInt8}
    (hShort : stream.length < count) : Fails (fill reads count) stream := by
  induction reads generalizing count stream with
  | zero => omega
  | succ reads ih =>
    rw [fill, if_neg (by omega)]
    rcases eq_or_ne stream [] with rfl | hNil
    · exact readSome_fails.bind _
    · intro tcp hStream
      have hIncoming : tcp.incoming.flatten ≠ [] := by rwa [hStream]
      obtain ⟨chunk, incoming, hRun, hPos, hLength, hFlatten⟩ :=
        readSome_run (by omega : 0 < count) hIncoming
      have hLeft : incoming.flatten.length < count - chunk.length := by
        have hSum := congrArg List.length hFlatten
        rw [List.length_append, hStream] at hSum
        omega
      obtain ⟨error, incoming', hRun'⟩ :=
        (ih (by omega) hLeft).bind (fun rest => Pure.pure (chunk ++ rest)) ⟨incoming, tcp.sent⟩ rfl
      refine ⟨error, incoming', ?_⟩
      rw [ExceptT.run_bind, run_bind, hRun]
      exact hRun'

theorem readExact_parses (count : Nat) : Parses (readExact count) (takeExact count) where
  fails {stream} h := by
    rw [takeExact] at h
    split at h
    · cases h
    · rename_i hShort
      exact fill_fails (Nat.le_refl count) (Nat.lt_of_not_le hShort)
  takes {stream bytes rest} h := by
    rw [takeExact] at h
    split at h
    · rename_i hCount
      cases h
      exact ⟨_, (List.take_append_drop count stream).symm,
        readExact_takes (List.length_take_of_le hCount)⟩
    · cases h

def parsePayloadLen (firstLen : UInt8) : Parser Nat :=
  if firstLen ≤ 125 then pure firstLen.toNat
  else if firstLen = 126 then do
    let bytes ← takeExact 2
    pure (256 * (bytes.getD 0 0).toNat + (bytes.getD 1 0).toNat)
  else failure

structure ReceivedFrame where
  opcode : UInt8
  payloadLen : Nat
  mask : List UInt8
  masked : List UInt8
deriving DecidableEq

def ReceivedFrame.payload (frame : ReceivedFrame) : List UInt8 := applyMask frame.mask frame.masked

/-- A client's frame that fits a buffer of this size. -/
def parseFrame (size : Nat) : Parser ReceivedFrame := do
  let header ← takeExact 2
  if header.getD 0 0 &&& 0x70 ≠ 0 ∨ header.getD 0 0 &&& 0x80 = 0 ∨
      header.getD 1 0 &&& 0x80 = 0 then failure
  else
    let payloadLen ← parsePayloadLen (header.getD 1 0 &&& 0x7f)
    if payloadLen > size then failure
    else
      let mask ← takeExact 4
      let masked ← takeExact payloadLen
      pure ⟨header.getD 0 0 &&& 0x0f, payloadLen, mask, masked⟩

/-- What a round of the loop does before it answers. -/
def readFrame (size : Nat) : Socket ReceivedFrame := do
  let header ← readExact 2
  if header.getD 0 0 &&& 0x70 ≠ 0 ∨ header.getD 0 0 &&& 0x80 = 0 ∨
      header.getD 1 0 &&& 0x80 = 0 then throw .invalidFrame
  else
    let payloadLen ← readPayloadLen (header.getD 1 0 &&& 0x7f)
    if payloadLen > size then throw .messageTooLarge
    else
      let mask ← readExact 4
      let masked ← readExact payloadLen
      pure ⟨header.getD 0 0 &&& 0x0f, payloadLen, mask, masked⟩

theorem readPayloadLen_parses (firstLen : UInt8) :
    Parses (readPayloadLen firstLen) (parsePayloadLen firstLen) :=
  .ite (.pure _) (.ite ((readExact_parses 2).bind fun _ => .pure _) (.throw _))

theorem readFrame_parses (size : Nat) : Parses (readFrame size) (parseFrame size) :=
  (readExact_parses 2).bind fun _ => .ite (.throw _) <|
    (readPayloadLen_parses _).bind fun _ => .ite (.throw _) <|
      (readExact_parses 4).bind fun _ => (readExact_parses _).bind fun _ => .pure _

theorem readMessage_eq (buffer : List UInt8) :
    readMessage buffer = (do
      let frame ← readFrame buffer.length
      let buffer := frame.payload ++ buffer.drop frame.payloadLen
      let message ← answerFrame frame.opcode (buffer.take frame.payloadLen)
      pure (buffer, message)) := by
  simp only [readMessage, readFrame, LawfulMonad.bind_assoc]
  congr 1
  funext header
  split
  · rfl
  · simp only [LawfulMonad.bind_assoc]
    congr 1
    funext payloadLen
    split
    · rfl
    · simp only [LawfulMonad.bind_assoc, LawfulMonad.pure_bind]
      rfl

theorem takeExact_length {count : Nat} {stream bytes rest : List UInt8}
    (h : takeExact count stream = some (bytes, rest)) : bytes.length = count := by
  rw [takeExact] at h
  split at h
  · rename_i hCount
    cases h
    exact List.length_take_of_le hCount
  · cases h

theorem parsePayloadLen_le {firstLen : UInt8} {stream rest : List UInt8} {n : Nat}
    (h : parsePayloadLen firstLen stream = some (n, rest)) : n ≤ 65535 := by
  rw [parsePayloadLen] at h
  split at h
  · cases h
    exact Nat.le_trans (Nat.le_of_lt firstLen.toNat_lt) (by decide)
  split at h
  · rw [parser_bind] at h
    obtain ⟨item, -, hPure⟩ := Option.bind_eq_some_iff.mp h
    have hHigh := (item.1.getD 0 0).toNat_lt
    have hLow := (item.1.getD 1 0).toNat_lt
    cases hPure
    omega
  · cases h

theorem parseFrame_bounds {size : Nat} {stream rest : List UInt8} {frame : ReceivedFrame}
    (h : parseFrame size stream = some (frame, rest)) :
    frame.masked.length = frame.payloadLen ∧ frame.payloadLen ≤ size ∧ frame.payloadLen ≤ 65535 := by
  rw [parseFrame, parser_bind] at h
  obtain ⟨header, -, h⟩ := Option.bind_eq_some_iff.mp h
  split at h
  · cases h
  rw [parser_bind] at h
  obtain ⟨payloadLen, hPayloadLen, h⟩ := Option.bind_eq_some_iff.mp h
  split at h
  · cases h
  rename_i hSize
  rw [parser_bind] at h
  obtain ⟨mask, -, h⟩ := Option.bind_eq_some_iff.mp h
  rw [parser_bind] at h
  obtain ⟨masked, hMasked, h⟩ := Option.bind_eq_some_iff.mp h
  cases h
  exact ⟨takeExact_length hMasked, Nat.le_of_not_lt hSize, parsePayloadLen_le hPayloadLen⟩

/-- The frames that `read_text` gets to in so many rounds: no further than the first one
that is not a ping or a pong. -/
def framesRead (size : Nat) : Nat → List UInt8 → List ReceivedFrame
  | 0, _ => []
  | rounds + 1, stream =>
    match parseFrame size stream with
    | none => []
    | some (frame, stream) =>
      frame :: if frame.opcode = 0x09 ∨ frame.opcode = 0x0a then framesRead size rounds stream
        else []

def ReceivedFrame.answer (frame : ReceivedFrame) : List (UInt8 × List UInt8) :=
  if frame.opcode = 0x08 then [(0x08, [])]
  else if frame.opcode = 0x09 then [(0x0a, frame.payload)]
  else []

def frameBytes (frames : List (UInt8 × List UInt8)) : List UInt8 :=
  frames.flatMap fun (opcode, payload) => serverFrame opcode payload

theorem answerFrame_sends (frame : ReceivedFrame) (h : frame.payload.length ≤ 65535) :
    ∃ result, Takes (answerFrame frame.opcode frame.payload) [] result (frameBytes frame.answer) ∧
      (result = .ok none ↔ frame.opcode = 0x09 ∨ frame.opcode = 0x0a) := by
  rw [answerFrame, ReceivedFrame.answer]
  by_cases hText : frame.opcode = 0x01
  · rw [if_pos hText, hText, if_neg (by decide), if_neg (by decide)]
    cases Utf8.decode frame.payload with
    | some text => exact ⟨_, .pure _, iff_of_false nofun (by decide)⟩
    | none => exact ⟨_, .throw _, iff_of_false nofun (by decide)⟩
  rw [if_neg hText]
  by_cases hClose : frame.opcode = 0x08
  · rw [if_pos hClose, if_pos hClose, hClose]
    exact ⟨_, (writeFrame_sends 0x08 (by decide : [].length ≤ 65535)).bind_nil (.throw .closed),
      iff_of_false nofun (by decide)⟩
  rw [if_neg hClose, if_neg hClose]
  by_cases hPing : frame.opcode = 0x09
  · rw [if_pos hPing, if_pos hPing, hPing, frameBytes, List.flatMap_singleton]
    exact ⟨_, (writeFrame_sends 0x0a h).bind_nil (.pure none), iff_of_true rfl (by decide)⟩
  rw [if_neg hPing, if_neg hPing]
  by_cases hPong : frame.opcode = 0x0a
  · rw [if_pos hPong]
    exact ⟨_, .pure none, iff_of_true rfl (.inr hPong)⟩
  · rw [if_neg hPong]
    exact ⟨_, .throw _, iff_of_false nofun (not_or.mpr ⟨hPing, hPong⟩)⟩

theorem readMessage_parsed {buffer stream rest : List UInt8} {frame : ReceivedFrame}
    (h : parseFrame buffer.length stream = some (frame, rest)) :
    ∃ (bytes buffer' : List UInt8) (result : Except Error (Option String)),
      stream = bytes ++ rest ∧ buffer'.length = buffer.length ∧
      Takes (readMessage buffer) bytes (result.map (buffer', ·)) (frameBytes frame.answer) ∧
      (result = .ok none ↔ frame.opcode = 0x09 ∨ frame.opcode = 0x0a) := by
  obtain ⟨hMasked, hSize, hLong⟩ := parseFrame_bounds h
  have hPayload : frame.payload.length = frame.payloadLen := by
    rw [ReceivedFrame.payload, applyMask, List.length_mapIdx, hMasked]
  obtain ⟨bytes, rfl, hRead⟩ := (readFrame_parses buffer.length).takes h
  obtain ⟨result, hAnswer, hResult⟩ := answerFrame_sends frame (by omega)
  refine ⟨bytes, frame.payload ++ buffer.drop frame.payloadLen, result, rfl, ?_, ?_, hResult⟩
  · rw [List.length_append, List.length_drop]
    omega
  · rw [readMessage_eq, ← List.append_nil bytes]
    refine hRead.reads ?_
    simp only [← hPayload, List.take_left]
    exact hAnswer.map _

theorem readText_sent (rounds : Nat) (buffer : List UInt8) (tcp : Tcp) :
    ((readText rounds buffer).run.run segmented tcp).2.sent = tcp.sent ++
      frameBytes ((framesRead buffer.length rounds tcp.incoming.flatten).flatMap (·.answer)) := by
  induction rounds generalizing buffer tcp with
  | zero => exact (List.append_nil tcp.sent).symm
  | succ rounds ih =>
    rw [framesRead]
    cases hParse : parseFrame buffer.length tcp.incoming.flatten with
    | none =>
      have hFails : Fails (readText (rounds + 1) buffer) tcp.incoming.flatten := by
        rw [readText, readMessage_eq]
        exact (((readFrame_parses buffer.length).fails hParse).bind _).bind _
      obtain ⟨error, incoming, hRun⟩ := hFails tcp rfl
      rw [hRun]
      exact (List.append_nil tcp.sent).symm
    | some item =>
      obtain ⟨frame, rest⟩ := item
      obtain ⟨bytes, buffer', result, hStream, hBuffer, hTakes, hResult⟩ := readMessage_parsed hParse
      obtain ⟨incoming, hRun, hRest⟩ := hTakes tcp rest hStream
      simp only [List.flatMap_cons]
      rw [readText, ExceptT.run_bind, run_bind, hRun]
      have hStop : tcp.sent ++ frameBytes frame.answer =
          tcp.sent ++ frameBytes (frame.answer ++ [].flatMap ReceivedFrame.answer) :=
        congrArg (fun answer => tcp.sent ++ frameBytes answer) (List.append_nil frame.answer).symm
      match result, hResult with
      | .error error, hResult =>
        rw [if_neg fun h => nomatch hResult.mpr h]
        exact hStop
      | .ok (some text), hResult =>
        rw [if_neg fun h => nomatch hResult.mpr h]
        exact hStop
      | .ok none, hResult =>
        rw [if_pos (hResult.mp rfl)]
        have hLater := ih buffer' ⟨incoming, tcp.sent ++ frameBytes frame.answer⟩
        rw [hRest, hBuffer] at hLater
        refine hLater.trans ?_
        simp only [frameBytes, List.flatMap_append, List.append_assoc]

theorem framesRead_bounds {size rounds : Nat} {stream : List UInt8} :
    ∀ frame ∈ framesRead size rounds stream, frame.payload.length ≤ 65535 := by
  induction rounds generalizing stream with
  | zero => exact List.forall_mem_nil _
  | succ rounds ih =>
    rw [framesRead]
    cases hParse : parseFrame size stream with
    | none => exact List.forall_mem_nil _
    | some item =>
      obtain ⟨hMasked, -, hLong⟩ := parseFrame_bounds hParse
      refine List.forall_mem_cons.mpr ⟨?_, ?_⟩
      · rw [ReceivedFrame.payload, applyMask, List.length_mapIdx, hMasked]
        exact hLong
      · split
        · exact ih
        · exact List.forall_mem_nil _

theorem answer_mem_iff {frame : ReceivedFrame} {opcode : UInt8} {payload : List UInt8} :
    (opcode, payload) ∈ frame.answer ↔ frame.opcode = 0x08 ∧ opcode = 0x08 ∧ payload = [] ∨
      frame.opcode = 0x09 ∧ opcode = 0x0a ∧ payload = frame.payload := by
  rw [ReceivedFrame.answer]
  by_cases hClose : frame.opcode = 0x08
  · simp [hClose]
  by_cases hPing : frame.opcode = 0x09
  · simp [hPing]
  · simp [hClose, hPing]

theorem answers_are_valid_iff (size rounds : Nat) (stream : List UInt8) :
    IsServerOutput (frameBytes ((framesRead size rounds stream).flatMap (·.answer))) ↔
      ∀ frame ∈ framesRead size rounds stream, frame.opcode = 0x09 → frame.payload.length ≤ 125 := by
  rw [frameBytes, isServerOutput_iff]
  · constructor
    · intro h frame hFrame hPing
      exact h (0x0a, frame.payload) (List.mem_flatMap.mpr ⟨frame, hFrame,
        answer_mem_iff.mpr (.inr ⟨hPing, rfl, rfl⟩)⟩) (.inr (.inr rfl))
    · rintro h ⟨opcode, payload⟩ hAnswer -
      obtain ⟨frame, hFrame, hAnswer⟩ := List.mem_flatMap.mp hAnswer
      rcases answer_mem_iff.mp hAnswer with ⟨-, -, rfl⟩ | ⟨hPing, -, rfl⟩
      · exact Nat.zero_le 125
      · exact h frame hFrame hPing
  · rintro ⟨opcode, payload⟩ hAnswer
    obtain ⟨frame, hFrame, hAnswer⟩ := List.mem_flatMap.mp hAnswer
    rcases answer_mem_iff.mp hAnswer with ⟨-, rfl, rfl⟩ | ⟨-, rfl, rfl⟩
    · decide
    · exact ⟨(by decide : (0x0a : UInt8) < 16), framesRead_bounds frame hFrame⟩

theorem writeText_sent (text : List UInt8) (tcp : Tcp) :
    ∃ written, ((writeText text).run.run segmented tcp).2.sent = tcp.sent ++ written ∧
      IsServerOutput written := by
  by_cases hLength : text.length ≤ 65535
  · obtain ⟨incoming, hRun, -⟩ := writeFrame_sends 0x01 hLength tcp _ rfl
    have hFrames : ∀ frame ∈ [((0x01 : UInt8), text)], frame.1 < 16 ∧ frame.2.length ≤ 65535 :=
      List.forall_mem_singleton.mpr ⟨(by decide : (0x01 : UInt8) < 16), hLength⟩
    have hValid := (isServerOutput_iff hFrames).mpr
      (List.forall_mem_singleton.mpr fun h => absurd h (by decide : ¬ isControl 0x01))
    rw [List.flatMap_singleton] at hValid
    exact ⟨_, by rw [writeText, hRun], hValid⟩
  · refine ⟨[], ?_, [], rfl, List.forall_mem_nil _⟩
    rw [writeText, writeFrame_tooLarge 0x01 (Nat.lt_of_not_le hLength)]
    exact (List.append_nil tcp.sent).symm

/-- A pong repeats its ping, and a ping may be as long as the buffer. -/
theorem server_output_is_valid_iff (rounds : Nat) (buffer text : List UInt8) (tcp : Tcp) :
    (∃ written, ((readText rounds buffer).run.run segmented tcp).2.sent = tcp.sent ++ written ∧
      (IsServerOutput written ↔
        ∀ frame ∈ framesRead buffer.length rounds tcp.incoming.flatten,
          frame.opcode = 0x09 → frame.payload.length ≤ 125)) ∧
    ∃ written, ((writeText text).run.run segmented tcp).2.sent = tcp.sent ++ written ∧
      IsServerOutput written :=
  ⟨⟨_, readText_sent rounds buffer tcp,
    answers_are_valid_iff buffer.length rounds tcp.incoming.flatten⟩, writeText_sent text tcp⟩

/-- A masked ping with a payload of 126 bytes. -/
def longPing : List UInt8 := [0x89, 0xfe, 0, 126, 1, 2, 3, 4] ++ List.replicate 126 0

theorem long_ping_is_answered :
    ∃ written, ((readText 1 (List.replicate 1024 0)).run.run segmented ⟨[longPing], []⟩).2.sent =
      written ∧ ¬ IsServerOutput written := by
  refine ⟨_, readText_sent 1 _ _, ?_⟩
  rw [List.nil_append, answers_are_valid_iff, List.length_replicate]
  have hParse : parseFrame 1024 [longPing].flatten =
      some (⟨0x09, 126, [1, 2, 3, 4], List.replicate 126 0⟩, []) := by decide +kernel
  rw [framesRead, hParse]
  intro h
  have hLong := h _ List.mem_cons_self rfl
  exact absurd hLong (by decide +kernel)

end Fetchline.WebSocket
