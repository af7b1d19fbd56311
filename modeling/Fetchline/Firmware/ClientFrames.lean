import Fetchline.Firmware.ClientStream

/-! # Decoding a WebSocket client's frames

A client's frames in the format of RFC 6455, what each of them asks of the
server, and the calls of `read_text` on a stream of them.
-/

namespace Fetchline.WebSocket

open Effects

theorem readHttpRequestFrom_takes {n : Nat} (request : List UInt8) {bytes : List UInt8}
    (hBytes : bytes ≠ [])
    (hLength : bytes.length ≤ n) (hEnd : crlfCrlf <:+ request ++ bytes)
    (hOnly : ∀ before after, request ++ bytes = before ++ crlfCrlf ++ after → after = []) :
    Takes (readHttpRequestFrom n request) bytes (.ok (request ++ bytes)) [] := by
  induction bytes generalizing n request with
  | nil => exact absurd rfl hBytes
  | cons byte bytes ih =>
    obtain ⟨n, rfl⟩ : ∃ m, n = m + 1 := ⟨n - 1, by rw [List.length_cons] at hLength; omega⟩
    rw [List.append_cons] at hEnd hOnly ⊢
    have hByte : Takes (readExact 1) [byte] (.ok [byte]) [] := readExact_takes rfl
    refine hByte.reads ?_
    simp only
    split
    · rename_i hFound
      -- What has been read ends in an empty line, so nothing follows it.
      have hNil : bytes = [] := hOnly _ bytes (by
        rw [← hFound.2, List.take_append_drop])
      subst hNil
      rw [List.append_nil]
      exact .pure _
    · rename_i hFound
      refine ih _ ?_ (by rw [List.length_cons] at hLength; omega) hEnd hOnly
      rintro rfl
      rw [List.append_nil] at hEnd
      exact hFound ⟨hEnd.length_le, (List.suffix_iff_eq_drop.mp hEnd).symm⟩

theorem readHttpRequest_takes {request : List UInt8} (hLength : request.length ≤ httpRequestMaxLen)
    (hEnd : crlfCrlf <:+ request)
    (hOnly : ∀ before after, request = before ++ crlfCrlf ++ after → after = []) :
    Takes (readHttpRequest httpRequestMaxLen) request (.ok request) [] := by
  refine readHttpRequestFrom_takes [] ?_ hLength hEnd hOnly
  rintro rfl
  exact absurd (List.suffix_nil.mp hEnd) (List.cons_ne_nil _ _)

inductive Message where
  | text (content : String)
  | ping (payload : List UInt8)
  | pong (payload : List UInt8)
  | close (payload : List UInt8)

namespace Message

def opcode : Message → UInt8
  | .text _ => 0x01
  | .close _ => 0x08
  | .ping _ => 0x09
  | .pong _ => 0x0a

def payload : Message → List UInt8
  | .text content => Utf8.encode content
  | .ping payload | .pong payload | .close payload => payload

def limit : Message → Nat
  | .text _ => 1024
  | _ => 125

/-- What the server writes for it: an unmasked pong or close frame. -/
def answer : Message → List UInt8
  | .ping payload => [0x8a, UInt8.ofNat payload.length] ++ payload
  | .close _ => [0x88, 0]
  | _ => []

/-- How a round of the loop ends on it. -/
def outcome : Message → Except Error (Option String)
  | .text content => .ok (some content)
  | .close _ => .error .closed
  | _ => .ok none

end Message

/-- A frame with FIN set, no reserved bit, and its payload masked. -/
structure ClientFrame where
  message : Message
  key : Fin 4 → UInt8
  /-- Whether the length stands in 16 bits after the second byte. -/
  long : Bool
  fits : message.payload.length ≤ message.limit
  short : long = false → message.payload.length ≤ 125

namespace ClientFrame

variable (frame : ClientFrame)

def length : Nat := frame.message.payload.length

def firstLen : UInt8 := if frame.long then 126 else UInt8.ofNat frame.length

def extendedLen : List UInt8 :=
  if frame.long then [UInt8.ofNat (frame.length / 256), UInt8.ofNat (frame.length % 256)] else []

def maskedPayload : List UInt8 :=
  frame.message.payload.mapIdx fun j octet => octet ^^^ frame.key (Fin.ofNat 4 j)

def encode : List UInt8 :=
  [0x80 ||| frame.message.opcode, 0x80 ||| frame.firstLen] ++ frame.extendedLen ++
    List.ofFn frame.key ++ frame.maskedPayload

end ClientFrame

theorem length_le_messageBufferSize (frame : ClientFrame) : frame.length ≤ messageBufferSize := by
  refine Nat.le_trans frame.fits ?_
  cases frame.message <;> simp only [Message.limit, messageBufferSize] <;> decide

@[simp] theorem maskedPayload_length (frame : ClientFrame) :
    frame.maskedPayload.length = frame.length := by
  rw [ClientFrame.maskedPayload, List.length_mapIdx]
  rfl

theorem applyMask_maskedPayload (frame : ClientFrame) :
    applyMask (List.ofFn frame.key) frame.maskedPayload = frame.message.payload := by
  refine List.ext_getElem (by rw [applyMask, List.length_mapIdx, maskedPayload_length]; rfl) ?_
  intro j _ hj
  have hKey : (List.ofFn frame.key).getD (j % 4) 0 = frame.key (Fin.ofNat 4 j) := by
    have hIndex : j % 4 < (List.ofFn frame.key).length := by
      rw [List.length_ofFn]
      exact Nat.mod_lt j (by decide)
    rw [List.getD_eq_getElem?_getD, List.getElem?_eq_getElem hIndex, List.getElem_ofFn]
    rfl
  simp only [applyMask, ClientFrame.maskedPayload, List.getElem_mapIdx, hKey]
  rw [UInt8.xor_assoc, UInt8.xor_self, UInt8.xor_zero]

theorem opcode_bits (message : Message) :
    (0x80 ||| message.opcode) &&& 0x70 = 0 ∧ (0x80 ||| message.opcode) &&& 0x80 ≠ 0 ∧
      (0x80 ||| message.opcode) &&& 0x0f = message.opcode := by
  cases message <;> simp only [Message.opcode] <;> decide

theorem length_bits (n : Fin 128) :
    (0x80 ||| UInt8.ofNat n) &&& 0x80 ≠ 0 ∧ (0x80 ||| UInt8.ofNat n) &&& 0x7f = UInt8.ofNat n := by
  revert n
  decide

theorem firstLen_bits (frame : ClientFrame) :
    (0x80 ||| frame.firstLen) &&& 0x80 ≠ 0 ∧ (0x80 ||| frame.firstLen) &&& 0x7f = frame.firstLen := by
  rw [ClientFrame.firstLen]
  split
  · decide
  · rename_i hLong
    have hShort := frame.short (Bool.eq_false_iff.mpr hLong)
    exact length_bits ⟨frame.length, Nat.lt_of_le_of_lt hShort (by decide)⟩

theorem readPayloadLen_takes (frame : ClientFrame) :
    Takes (readPayloadLen frame.firstLen) frame.extendedLen (.ok frame.length) [] := by
  rw [readPayloadLen, ClientFrame.firstLen, ClientFrame.extendedLen]
  cases hLong : frame.long with
  | false =>
    have hShort : frame.length ≤ 125 := frame.short hLong
    have hNat : (UInt8.ofNat frame.length).toNat = frame.length :=
      UInt8.toNat_ofNat_of_lt' (Nat.lt_of_le_of_lt hShort (by decide))
    simp only [Bool.false_eq_true, if_false]
    rw [if_pos (UInt8.le_iff_toNat_le.mpr (by rw [hNat]; exact hShort)), hNat]
    exact .pure _
  | true =>
    have hLength : frame.length ≤ 1024 := length_le_messageBufferSize frame
    have hValue : 256 * (UInt8.ofNat (frame.length / 256)).toNat +
        (UInt8.ofNat (frame.length % 256)).toNat = frame.length := by
      rw [UInt8.toNat_ofNat', UInt8.toNat_ofNat']
      omega
    simp only [if_true]
    rw [if_neg (by decide)]
    have hRead : Takes (readExact 2 >>= fun bytes =>
        (pure (256 * (bytes.getD 0 0).toNat + (bytes.getD 1 0).toNat) : Socket Nat))
        [UInt8.ofNat (frame.length / 256), UInt8.ofNat (frame.length % 256)] _ [] :=
      .bind_nil (readExact_takes rfl) (.pure (256 * (UInt8.ofNat (frame.length / 256)).toNat +
        (UInt8.ofNat (frame.length % 256)).toNat))
    rw [hValue] at hRead
    exact hRead

theorem writeFrame_takes (opcode : UInt8) {payload : List UInt8} (h : payload.length ≤ 125) :
    Takes (writeFrame opcode payload) [] (.ok ())
      ([0x80 ||| opcode, UInt8.ofNat payload.length] ++ payload) := by
  rw [writeFrame, if_pos h]
  exact .bind (writeAll_takes _) (writeAll_takes payload)

theorem answerFrame_takes (message : Message) (hFits : message.payload.length ≤ message.limit) :
    Takes (answerFrame message.opcode message.payload) [] message.outcome message.answer := by
  cases message with
  | text content =>
    simp only [answerFrame, Message.opcode, Message.payload, Utf8.decode_encode, if_true]
    exact .pure _
  | ping payload =>
    exact .bind_nil (writeFrame_takes 0x0a hFits) (.pure none)
  | pong payload => exact .pure none
  | close payload =>
    exact .bind_nil (writeFrame_takes 0x08 (Nat.zero_le 125)) (.throw .closed)

/-- The buffer with the frame's payload in it. -/
def ClientFrame.fill (frame : ClientFrame) (buffer : List UInt8) : List UInt8 :=
  frame.message.payload ++ buffer.drop frame.length

theorem fill_length (frame : ClientFrame) {buffer : List UInt8}
    (hBuffer : buffer.length = messageBufferSize) :
    (frame.fill buffer).length = messageBufferSize := by
  have hLength := length_le_messageBufferSize frame
  rw [ClientFrame.fill, List.length_append, List.length_drop, hBuffer]
  exact Nat.add_sub_of_le hLength

theorem readMessage_takes (frame : ClientFrame) {buffer : List UInt8}
    (hBuffer : buffer.length = messageBufferSize) :
    Takes (readMessage buffer) frame.encode (frame.message.outcome.map (frame.fill buffer, ·))
      frame.message.answer := by
  obtain ⟨hReserved, hFin, hOpcode⟩ := opcode_bits frame.message
  obtain ⟨hMasked, hFirstLen⟩ := firstLen_bits frame
  have hEncode : frame.encode = [0x80 ||| frame.message.opcode, 0x80 ||| frame.firstLen] ++
      (frame.extendedLen ++ (List.ofFn frame.key ++ (frame.maskedPayload ++ []))) := by
    simp only [ClientFrame.encode, List.append_assoc, List.append_nil]
  rw [hEncode]
  refine .reads (readExact_takes rfl) ?_
  simp only [List.getD_cons_zero, List.getD_cons_succ]
  rw [if_neg (by rw [hReserved]; simp only [hFin, hMasked]; decide), hFirstLen, hOpcode]
  refine .reads (readPayloadLen_takes frame) ?_
  rw [if_neg (Nat.not_lt.mpr (hBuffer ▸ length_le_messageBufferSize frame))]
  refine .reads (readExact_takes (List.length_ofFn)) ?_
  refine .reads (readExact_takes (maskedPayload_length frame)) ?_
  have hTake : (frame.message.payload ++ buffer.drop frame.length).take frame.length =
      frame.message.payload := List.take_left' rfl
  rw [applyMask_maskedPayload, hTake]
  exact (answerFrame_takes frame.message frame.fits).map _

/-- How a call of `read_text` ends. -/
inductive Ending where
  | returned (text : String)
  | closed
  /-- The call still waits for bytes. -/
  | waiting

/-- A call of `read_text`, with the frames it reads and those it leaves. -/
structure Call where
  frames : List ClientFrame
  ending : Ending
  left : List ClientFrame

def Call.written (call : Call) : List UInt8 := call.frames.flatMap (·.message.answer)

/-- The calls on a stream of frames, when the first one has already read some. -/
def calls (read : List ClientFrame) : List ClientFrame → List Call
  | [] => [⟨read, .waiting, []⟩]
  | frame :: frames =>
    match frame.message with
    | .text content => ⟨read ++ [frame], .returned content, frames⟩ :: calls [] frames
    | .close _ => [⟨read ++ [frame], .closed, frames⟩]
    | .ping _ | .pong _ => calls (read ++ [frame]) frames

def Ending.result (buffer : List UInt8) : Ending → Except Error (List UInt8 × Option String)
  | .returned text => .ok (buffer, some text)
  | .closed => .error .closed
  | .waiting => .ok (buffer, none)

/-- Rounds enough for the call to end; one that waits has gone a round for each frame. -/
def Call.Suffices (call : Call) (rounds : Nat) : Prop :=
  match call.ending with
  | .waiting => rounds = call.frames.length
  | _ => call.frames.length ≤ rounds

/-- The call is what `read_text` does on this socket, and this input is left. -/
def Call.Happens (call : Call) (buffer : List UInt8) (tcp : Tcp) (incoming : List (List UInt8)) :
    Prop :=
  ∃ buffer' : List UInt8, buffer'.length = buffer.length ∧ ∀ rounds, call.Suffices rounds →
    (readText rounds buffer).run.run segmented tcp =
      (call.ending.result buffer', ⟨incoming, tcp.sent ++ call.written⟩)

/-- The calls of a session, one after the other. In between the server may have
sent anything, and the buffer may hold anything. -/
def Conducts (tail : List UInt8) : List Call → List (List UInt8) → Prop
  | [], _ => True
  | call :: later, incoming =>
    ∀ buffer sent, buffer.length = messageBufferSize → ∃ incoming',
      call.Happens buffer ⟨incoming, sent⟩ incoming' ∧
        incoming'.flatten = call.left.flatMap ClientFrame.encode ++ tail ∧
        Conducts tail later incoming'

theorem readText_run_of_le {rounds more : Nat} (hMore : rounds ≤ more) {buffer : List UInt8}
    {tcp : Tcp} (hDone : ∀ buffer', ((readText rounds buffer).run.run segmented tcp).1 ≠
      .ok (buffer', none)) :
    (readText more buffer).run.run segmented tcp = (readText rounds buffer).run.run segmented tcp := by
  induction rounds generalizing more buffer tcp with
  | zero => exact absurd rfl (hDone buffer)
  | succ rounds ih =>
    obtain ⟨more, rfl⟩ : ∃ m, more = m + 1 := ⟨more - 1, by omega⟩
    rw [readText, ExceptT.run_bind, Program.run_bind] at hDone ⊢
    rw [readText, ExceptT.run_bind, Program.run_bind]
    generalize (readMessage buffer).run.run segmented tcp = message at hDone ⊢
    match message with
    | (.error error, tcp') => rfl
    | (.ok (buffer', some text), tcp') => rfl
    | (.ok (buffer', none), tcp') => exact ih (Nat.le_of_succ_le_succ hMore) hDone

theorem readText_takes_text (frame : ClientFrame) {text : String} {buffer : List UInt8}
    (hBuffer : buffer.length = messageBufferSize) (hText : frame.message.outcome = .ok (some text)) :
    Takes (readText 1 buffer) frame.encode (.ok (frame.fill buffer, some text))
      frame.message.answer := by
  have hMessage := readMessage_takes frame hBuffer
  rw [hText] at hMessage
  exact hMessage.bind_nil (.pure _)

theorem readText_takes_close (frame : ClientFrame) {buffer : List UInt8}
    (hBuffer : buffer.length = messageBufferSize) (hClose : frame.message.outcome = .error .closed) :
    Takes (readText 1 buffer) frame.encode (.error .closed) frame.message.answer := by
  have hMessage := readMessage_takes frame hBuffer
  rw [hClose] at hMessage
  exact hMessage.bind_error

theorem readText_takes_control (frame : ClientFrame) {rounds : Nat} {buffer bytes written : List UInt8}
    {result : Except Error (List UInt8 × Option String)}
    (hBuffer : buffer.length = messageBufferSize) (hControl : frame.message.outcome = .ok none)
    (hRest : Takes (readText rounds (frame.fill buffer)) bytes result written) :
    Takes (readText (rounds + 1) buffer) (frame.encode ++ bytes) result
      (frame.message.answer ++ written) := by
  have hMessage := readMessage_takes frame hBuffer
  rw [hControl] at hMessage
  exact hMessage.bind hRest

theorem readText_takes_controls {read : List ClientFrame}
    (hRead : ∀ frame ∈ read, frame.message.outcome = .ok none) {buffer : List UInt8}
    (hBuffer : buffer.length = messageBufferSize) :
    ∃ buffer', buffer'.length = messageBufferSize ∧ ∀ {rounds bytes result written},
      Takes (readText rounds buffer') bytes result written →
        Takes (readText (read.length + rounds) buffer) (read.flatMap ClientFrame.encode ++ bytes)
          result (read.flatMap (·.message.answer) ++ written) := by
  induction read generalizing buffer with
  | nil =>
    refine ⟨buffer, hBuffer, fun {rounds} _ _ _ h => ?_⟩
    rw [List.length_nil, Nat.zero_add]
    exact h
  | cons frame read ih =>
    obtain ⟨hControl, hRead⟩ := List.forall_mem_cons.mp hRead
    obtain ⟨buffer', hBuffer', hTakes⟩ := ih hRead (fill_length frame hBuffer)
    refine ⟨buffer', hBuffer', fun {rounds} _ _ _ h => ?_⟩
    have hFrame := readText_takes_control frame hBuffer hControl (hTakes h)
    rw [← List.append_assoc, ← List.append_assoc] at hFrame
    rw [List.length_cons, Nat.add_right_comm]
    exact hFrame

theorem happens_of_takes (call : Call) {buffer buffer' : List UInt8}
    (hLength : buffer'.length = buffer.length)
    (hTakes : Takes (readText call.frames.length buffer)
      (call.frames.flatMap ClientFrame.encode) (call.ending.result buffer') call.written)
    (tcp : Tcp) {rest : List UInt8}
    (hStream : tcp.incoming.flatten = call.frames.flatMap ClientFrame.encode ++ rest) :
    ∃ incoming, call.Happens buffer tcp incoming ∧ incoming.flatten = rest := by
  obtain ⟨incoming, hRun, hRest⟩ := hTakes tcp rest hStream
  refine ⟨incoming, ⟨buffer', hLength, fun rounds hRounds => ?_⟩, hRest⟩
  rw [← hRun]
  rw [Call.Suffices] at hRounds
  cases hEnding : call.ending with
  | returned text =>
    rw [hEnding] at hRounds hRun
    exact readText_run_of_le hRounds (by rw [hRun]; rintro _ ⟨⟩)
  | closed =>
    rw [hEnding] at hRounds hRun
    exact readText_run_of_le hRounds (by rw [hRun]; rintro _ ⟨⟩)
  | waiting =>
    rw [hEnding] at hRounds
    rw [hRounds]

theorem last_frame_happens {read : List ClientFrame}
    (hRead : ∀ frame ∈ read, frame.message.outcome = .ok none) {frame : ClientFrame}
    (ending : Ending) (hLast : ∀ buffer : List UInt8, buffer.length = messageBufferSize →
      Takes (readText 1 buffer) frame.encode (ending.result (frame.fill buffer)) frame.message.answer)
    (left : List ClientFrame) {buffer : List UInt8} (hBuffer : buffer.length = messageBufferSize)
    (tcp : Tcp) {rest : List UInt8}
    (hStream : tcp.incoming.flatten = read.flatMap ClientFrame.encode ++ (frame.encode ++ rest)) :
    ∃ incoming, Call.Happens ⟨read ++ [frame], ending, left⟩ buffer tcp incoming ∧
      incoming.flatten = rest := by
  obtain ⟨buffer', hBuffer', hTakes⟩ := readText_takes_controls hRead hBuffer
  refine happens_of_takes ⟨read ++ [frame], ending, left⟩
    ((fill_length frame hBuffer').trans hBuffer.symm) ?_ tcp ?_
  · simp only [Call.written, List.length_append, List.flatMap_append, List.flatMap_singleton]
    exact hTakes (hLast buffer' hBuffer')
  · rw [hStream, List.flatMap_append, List.flatMap_singleton, List.append_assoc]

theorem conducts_calls (tail : List UInt8) {read : List ClientFrame}
    (hRead : ∀ frame ∈ read, frame.message.outcome = .ok none) {frames : List ClientFrame}
    {incoming : List (List UInt8)}
    (hStream : incoming.flatten =
      read.flatMap ClientFrame.encode ++ (frames.flatMap ClientFrame.encode ++ tail)) :
    Conducts tail (calls read frames) incoming := by
  induction frames generalizing read incoming with
  | nil =>
    intro buffer sent hBuffer
    obtain ⟨buffer', hBuffer', hTakes⟩ := readText_takes_controls hRead hBuffer
    have hNone : Takes (readText 0 buffer') [] (.ok (buffer', none)) [] := .pure _
    have hWait := hTakes hNone
    rw [List.append_nil, List.append_nil] at hWait
    obtain ⟨incoming', hHappens, hRest⟩ := happens_of_takes ⟨read, .waiting, []⟩
      (hBuffer'.trans hBuffer.symm) hWait ⟨incoming, sent⟩ hStream
    exact ⟨incoming', hHappens, hRest, trivial⟩
  | cons frame frames ih =>
    rw [List.flatMap_cons, List.append_assoc] at hStream
    have hControl (h : frame.message.outcome = .ok none) :
        Conducts tail (calls (read ++ [frame]) frames) incoming := by
      refine ih (List.forall_mem_append.mpr ⟨hRead, List.forall_mem_singleton.mpr h⟩) ?_
      rw [hStream, List.flatMap_append, List.flatMap_singleton, List.append_assoc]
    rw [calls]
    cases hMessage : frame.message with
    | text content =>
      intro buffer sent hBuffer
      obtain ⟨incoming', hHappens, hRest⟩ := last_frame_happens hRead (.returned content)
        (fun _ h => readText_takes_text frame h (by rw [hMessage]; rfl)) frames hBuffer
        ⟨incoming, sent⟩ hStream
      exact ⟨incoming', hHappens, hRest, ih (List.forall_mem_nil _) hRest⟩
    | close payload =>
      intro buffer sent hBuffer
      obtain ⟨incoming', hHappens, hRest⟩ := last_frame_happens hRead .closed
        (fun _ h => readText_takes_close frame h (by rw [hMessage]; rfl)) frames hBuffer
        ⟨incoming, sent⟩ hStream
      exact ⟨incoming', hHappens, hRest, trivial⟩
    | ping payload => exact hControl (by rw [hMessage]; rfl)
    | pong payload => exact hControl (by rw [hMessage]; rfl)

def Ending.text? : Ending → Option String
  | .returned text => some text
  | _ => none

def Message.text? : Message → Option String
  | .text content => some content
  | _ => none

/-- The frames of the session: those up to the first close frame. -/
def upToClose : List ClientFrame → List ClientFrame
  | [] => []
  | frame :: frames =>
    match frame.message with
    | .close _ => [frame]
    | _ => frame :: upToClose frames

theorem calls_frames (read frames : List ClientFrame) :
    (calls read frames).flatMap (·.frames) = read ++ upToClose frames := by
  induction frames generalizing read with
  | nil => rfl
  | cons frame frames ih =>
    rw [calls, upToClose]
    cases frame.message with
    | text content =>
      simp only [List.flatMap_cons, ih, List.nil_append, List.append_assoc, List.singleton_append]
    | close payload => exact List.append_nil (read ++ [frame])
    | ping payload => exact (ih _).trans (List.append_assoc read [frame] _)
    | pong payload => exact (ih _).trans (List.append_assoc read [frame] _)

theorem calls_texts (read frames : List ClientFrame) :
    (calls read frames).filterMap (·.ending.text?) =
      (upToClose frames).filterMap (·.message.text?) := by
  induction frames generalizing read with
  | nil => rfl
  | cons frame frames ih =>
    have hSkip (rest : List ClientFrame) (h : frame.message.text? = none) :
        (frame :: rest).filterMap (·.message.text?) = rest.filterMap (·.message.text?) :=
      List.filterMap_cons_none h
    rw [calls, upToClose]
    cases hMessage : frame.message with
    | text content =>
      have hText : frame.message.text? = some content := by rw [hMessage]; rfl
      exact (congrArg (content :: ·) (ih [])).trans
        (List.filterMap_cons_some (f := fun frame : ClientFrame => frame.message.text?) hText).symm
    | close payload => exact (hSkip [] (by rw [hMessage]; rfl)).symm
    | ping payload => exact (ih _).trans (hSkip _ (by rw [hMessage]; rfl)).symm
    | pong payload => exact (ih _).trans (hSkip _ (by rw [hMessage]; rfl)).symm

theorem calls_written (frames : List ClientFrame) :
    (calls [] frames).flatMap Call.written = (upToClose frames).flatMap (·.message.answer) := by
  rw [← List.nil_append (upToClose frames), ← calls_frames, List.flatMap_assoc]
  rfl

/-- The request and the frames are read as the client meant them, however TCP
splits their bytes. -/
theorem client_stream_is_decoded {request : List UInt8} (frames : List ClientFrame)
    (tail : List UInt8) (hLength : request.length ≤ httpRequestMaxLen)
    (hEnd : crlfCrlf <:+ request)
    (hOnly : ∀ before after, request = before ++ crlfCrlf ++ after → after = []) {tcp : Tcp}
    (hStream : tcp.incoming.flatten = request ++ (frames.flatMap ClientFrame.encode ++ tail)) :
    (∃ incoming, (readHttpRequest httpRequestMaxLen).run.run segmented tcp =
        (.ok request, ⟨incoming, tcp.sent⟩) ∧
      incoming.flatten = frames.flatMap ClientFrame.encode ++ tail ∧
      Conducts tail (calls [] frames) incoming) ∧
    (calls [] frames).filterMap (·.ending.text?) = (upToClose frames).filterMap (·.message.text?) ∧
    (calls [] frames).flatMap Call.written = (upToClose frames).flatMap (·.message.answer) := by
  obtain ⟨incoming, hRun, hRest⟩ := readHttpRequest_takes hLength hEnd hOnly tcp _ hStream
  rw [List.append_nil] at hRun
  exact ⟨⟨incoming, hRun, hRest, conducts_calls tail (List.forall_mem_nil _) hRest⟩,
    calls_texts [] frames, calls_written frames⟩

def pingSeven : ClientFrame :=
  ⟨.ping [7], fun i => UInt8.ofNat (i + 1), false, by decide, by decide⟩

def longHi : ClientFrame :=
  ⟨.text "hi", fun i => UInt8.ofNat (i + 1), true, by decide, by decide⟩

def goodbye : ClientFrame := ⟨.close [], fun i => UInt8.ofNat (i + 1), false, by decide, by decide⟩

theorem client_stream_is_decoded_hi :
    (∃ incoming, (readHttpRequest httpRequestMaxLen).run.run segmented
        ⟨[[0x47, 0x0d], [0x0a, 0x0d, 0x0a, 0x89, 0x81, 1], [2, 3, 4, 6, 0x81],
          [0xfe, 0, 2, 1, 2, 3, 4, 0x69, 0x6b, 0x88, 0x80, 1, 2, 3, 4]], []⟩ =
          (.ok (0x47 :: crlfCrlf), ⟨incoming, []⟩) ∧
      incoming.flatten = [pingSeven, longHi, goodbye].flatMap ClientFrame.encode ++ [] ∧
      Conducts [] (calls [] [pingSeven, longHi, goodbye]) incoming) ∧
    (calls [] [pingSeven, longHi, goodbye]).filterMap (·.ending.text?) = ["hi"] ∧
    (calls [] [pingSeven, longHi, goodbye]).flatMap Call.written = [0x8a, 1, 7, 0x88, 0] := by
  refine client_stream_is_decoded [pingSeven, longHi, goodbye] [] (by decide) ⟨[0x47], rfl⟩ ?_
    (by decide)
  intro before after h
  match before with
  | [] => cases h
  | [_] =>
    injection h with _ h
    have hAfter : crlfCrlf ++ after = crlfCrlf ++ [] := h.symm
    exact List.append_cancel_left hAfter
  | _ :: _ :: before =>
    have hLength := congrArg List.length h
    simp only [List.length_append, List.length_cons, crlfCrlf, List.length_nil] at hLength
    omega

end Fetchline.WebSocket
