import Fetchline.Firmware.ControllerSession

/-! # What a client gets for what it sends

A session that keeps the controller answers its client's frames one after the other. A
takeover, whenever it comes, only cuts the answers short.
-/

namespace Fetchline

open Effects Effects.Program WebSocket

variable {σ : Type} {fromSlice : String → Option JsonRpcRequest} {H : Handler BusOp BusOp.Reply σ}
variable {generation : UInt64} {tcp : Tcp} {bus : σ} {reads requests : Nat}

theorem readMessage_at_end (buffer : List UInt8) (h : tcp.incoming.flatten = []) :
    ∃ incoming, (readMessage buffer).run.run segmented tcp = (.error .closed, ⟨incoming, tcp.sent⟩) ∧
      incoming.flatten = [] := by
  have hParts := takeSegment_flatten 2 tcp.incoming
  rw [h] at hParts
  obtain ⟨hTaken, hRest⟩ := List.append_eq_nil_iff.mp hParts
  refine ⟨(takeSegment 2 tcp.incoming).2, ?_, hRest⟩
  rw [readMessage, readExact, fill, if_neg (by decide), ExceptT.run_bind, run_bind, ExceptT.run_bind,
    run_bind, readSome_closed hTaken]
  rfl

/-- A call of `read_text` on control frames that nothing follows. -/
theorem readText_at_end {read : List ClientFrame}
    (hRead : ∀ frame ∈ read, frame.message.outcome = .ok none) (hReads : read.length < reads)
    {buffer : List UInt8} (hBuffer : buffer.length = messageBufferSize)
    (hStream : tcp.incoming.flatten = read.flatMap ClientFrame.encode) :
    ∃ incoming, (readText reads buffer).run.run segmented tcp =
        (.error .closed, ⟨incoming, tcp.sent ++ read.flatMap (·.message.answer)⟩) ∧
      incoming.flatten = [] := by
  induction read generalizing reads buffer tcp with
  | nil =>
    obtain ⟨reads, rfl⟩ : ∃ m, reads = m + 1 := ⟨reads - 1, by omega⟩
    obtain ⟨incoming, hRun, hRest⟩ := readMessage_at_end buffer hStream
    refine ⟨incoming, ?_, hRest⟩
    rw [readText, ExceptT.run_bind, run_bind, hRun, List.flatMap_nil, List.append_nil]
    rfl
  | cons frame read ih =>
    obtain ⟨hControl, hRead⟩ := List.forall_mem_cons.mp hRead
    rw [List.length_cons] at hReads
    obtain ⟨reads, rfl⟩ : ∃ m, reads = m + 1 := ⟨reads - 1, by omega⟩
    have hMessage := readMessage_takes frame hBuffer
    rw [hControl] at hMessage
    obtain ⟨incoming, hRun, hRest⟩ := hMessage tcp _ (hStream.trans List.flatMap_cons)
    have hNext : ∃ incoming', (readText reads (frame.fill buffer)).run.run segmented
        ⟨incoming, tcp.sent ++ frame.message.answer⟩ = (.error .closed,
          ⟨incoming', tcp.sent ++ frame.message.answer ++ read.flatMap (·.message.answer)⟩) ∧
        incoming'.flatten = [] :=
      ih hRead (Nat.lt_of_succ_lt_succ hReads) (fill_length frame hBuffer) hRest
    obtain ⟨incoming', hRun', hRest'⟩ := hNext
    refine ⟨incoming', ?_, hRest'⟩
    rw [readText, ExceptT.run_bind, run_bind, hRun, List.flatMap_cons, ← List.append_assoc]
    exact hRun'

theorem writeResponse_takes (response : EncodedResponse jsonRpcBufferSize) :
    Takes (writeResponse response) [] (.ok ())
      (serverFrame 0x01 (Utf8.encode response.response.text)) := by
  apply writeFrame_sends 0x01
  rw [Utf8.encode_length]
  exact response.fits.trans (by decide)

theorem serveRequest_run (request : String) (next : SessionProgram (Option SessionEnd)) (tcp : Tcp)
    (bus : σ) :
    ∃ incoming, incoming.flatten = tcp.incoming.flatten ∧
      (serveRequest fromSlice request next).run (uncontested generation H) (tcp, bus) =
        next.run (uncontested generation H)
          (⟨incoming, tcp.sent ++ (exchange fromSlice H bus (.text request)).1⟩,
            (exchange fromSlice H bus (.text request)).2) := by
  have hCurrent (s : Tcp × σ) : isCurrent.run (uncontested generation H) s = (true, s) := rfl
  rw [exchange, serveRequest, run_bind, hCurrent]
  simp only [if_true]
  rw [run_bind, selectCommand_run]
  rcases (handleJsonRpc fromSlice jsonRpcBufferSize request).run H bus with ⟨_ | response, bus'⟩
  · refine ⟨tcp.incoming, rfl, ?_⟩
    simp only [Option.map_none, Option.getD_none, List.append_nil]
  · obtain ⟨incoming, hRun, hRest⟩ := writeResponse_takes response tcp _ (List.nil_append _).symm
    refine ⟨incoming, hRest, ?_⟩
    simp only [Option.map_some, Option.getD_some]
    rw [run_bind, hCurrent]
    simp only [if_true]
    rw [run_bind, respond_run, hRun]

theorem conversation_append (messages messages' : List Message) :
    conversation fromSlice H bus (messages ++ messages') =
      ((conversation fromSlice H bus messages).1 ++
          (conversation fromSlice H (conversation fromSlice H bus messages).2 messages').1,
        (conversation fromSlice H (conversation fromSlice H bus messages).2 messages').2) := by
  induction messages generalizing bus with
  | nil => rfl
  | cons message messages ih =>
    simp only [List.cons_append, conversation, ih, List.append_assoc]

theorem exchange_of_not_text {message : Message} (h : message.text? = none) :
    exchange fromSlice H bus message = (message.answer, bus) := by
  cases message with
  | text content => cases h
  | _ => rfl

theorem text?_of_control {message : Message} (h : message.outcome = .ok none) :
    message.text? = none := by
  cases message with
  | text content => cases h
  | _ => rfl

theorem conversation_of_controls {read : List ClientFrame}
    (hRead : ∀ frame ∈ read, frame.message.outcome = .ok none) :
    conversation fromSlice H bus (read.map (·.message)) = (read.flatMap (·.message.answer), bus) := by
  induction read with
  | nil => rfl
  | cons frame read ih =>
    obtain ⟨hControl, hRead⟩ := List.forall_mem_cons.mp hRead
    rw [List.map_cons, conversation, exchange_of_not_text (text?_of_control hControl), ih hRead]
    rfl

/-- The conversation up to a message, and from there on. -/
theorem conversation_after_controls {read : List ClientFrame}
    (hRead : ∀ frame ∈ read, frame.message.outcome = .ok none) (frame : ClientFrame)
    (later : List ClientFrame) :
    conversation fromSlice H bus ((read ++ frame :: later).map (·.message)) =
      (read.flatMap (·.message.answer) ++ ((exchange fromSlice H bus frame.message).1 ++
          (conversation fromSlice H (exchange fromSlice H bus frame.message).2
            (later.map (·.message))).1),
        (conversation fromSlice H (exchange fromSlice H bus frame.message).2
          (later.map (·.message))).2) := by
  rw [List.map_append, conversation_append, conversation_of_controls hRead, List.map_cons,
    conversation]

/-- The loop ends when the client has left, and has answered these messages. -/
def AnswersAll (fromSlice : String → Option JsonRpcRequest) (H : Handler BusOp BusOp.Reply σ)
    (generation : UInt64) (loop : SessionProgram (Option SessionEnd)) (tcp : Tcp) (bus : σ)
    (frames : List ClientFrame) : Prop :=
  ∃ incoming, loop.run (uncontested generation H) (tcp, bus) = (some .disconnected,
    ⟨incoming, tcp.sent ++ (conversation fromSlice H bus (frames.map (·.message))).1⟩,
      (conversation fromSlice H bus (frames.map (·.message))).2)

theorem serveRequests_answers {read : List ClientFrame}
    (hRead : ∀ frame ∈ read, frame.message.outcome = .ok none) {frames : List ClientFrame}
    (hReads : read.length + frames.length < reads) (hRequests : frames.length < requests)
    {buffer : List UInt8} (hBuffer : buffer.length = messageBufferSize)
    (hStream : tcp.incoming.flatten =
      read.flatMap ClientFrame.encode ++ frames.flatMap ClientFrame.encode) :
    AnswersAll fromSlice H generation (serveRequests fromSlice reads requests buffer) tcp bus
      (read ++ upToClose frames) := by
  induction frames generalizing read requests buffer tcp bus with
  | nil =>
    obtain ⟨requests, rfl⟩ : ∃ m, requests = m + 1 := ⟨requests - 1, by omega⟩
    rw [List.flatMap_nil, List.append_nil] at hStream
    obtain ⟨incoming, hRun, -⟩ := readText_at_end hRead hReads hBuffer hStream
    refine ⟨incoming, ?_⟩
    rw [serveRequests, run_bind, selectRead_run, hRun, upToClose, List.append_nil,
      conversation_of_controls hRead]
    rfl
  | cons frame frames ih =>
    rw [List.flatMap_cons] at hStream
    rw [List.length_cons] at hReads hRequests
    obtain ⟨requests, rfl⟩ : ∃ m, requests = m + 1 := ⟨requests - 1, by omega⟩
    have hLength : (read ++ [frame]).length ≤ reads := by
      rw [List.length_append, List.length_singleton]
      omega
    have hControl (h : frame.message.outcome = .ok none)
        (hSame : upToClose (frame :: frames) = frame :: upToClose frames) :
        AnswersAll fromSlice H generation (serveRequests fromSlice reads (requests + 1) buffer) tcp bus
          (read ++ upToClose (frame :: frames)) := by
      rw [hSame, List.append_cons]
      refine ih (List.forall_mem_append.mpr ⟨hRead, List.forall_mem_singleton.mpr h⟩) ?_
        (by omega) hBuffer ?_
      · rw [List.length_append, List.length_singleton]
        omega
      · rw [hStream, List.flatMap_append, List.flatMap_singleton, List.append_assoc]
    cases hMessage : frame.message with
    | text content =>
      obtain ⟨incoming, ⟨buffer', hBuffer', hHappens⟩, hRest⟩ := last_frame_happens hRead
        (.returned content) (fun _ h => readText_takes_text frame h (by rw [hMessage]; rfl)) frames
        hBuffer tcp hStream
      obtain ⟨incoming', hIncoming, hServed⟩ := serveRequest_run content
        (serveRequests fromSlice reads requests buffer') ⟨incoming, _⟩ bus
      have hLater (sent : List UInt8) (bus' : σ) : AnswersAll fromSlice H generation
          (serveRequests fromSlice reads requests buffer') ⟨incoming', sent⟩ bus'
          (upToClose frames) :=
        ih (List.forall_mem_nil _) (by rw [List.length_nil]; omega)
          (Nat.lt_of_succ_lt_succ hRequests) (hBuffer'.trans hBuffer) (hIncoming.trans hRest)
      obtain ⟨incoming'', hLater⟩ := hLater _ _
      have hSame : upToClose (frame :: frames) = frame :: upToClose frames := by
        rw [upToClose, hMessage]
      have hWritten : (read ++ [frame]).flatMap (·.message.answer) =
          read.flatMap (·.message.answer) := by
        rw [List.flatMap_append, List.flatMap_singleton, hMessage]
        exact List.append_nil _
      refine ⟨incoming'', ?_⟩
      rw [serveRequests, run_bind, selectRead_run, hHappens reads hLength]
      simp only [Ending.result]
      rw [hServed, hLater, hSame, conversation_after_controls hRead, hMessage]
      simp only [Call.written, hWritten, List.append_assoc]
    | close payload =>
      obtain ⟨incoming, ⟨buffer', hBuffer', hHappens⟩, -⟩ := last_frame_happens hRead .closed
        (fun _ h => readText_takes_close frame h (by rw [hMessage]; rfl)) frames hBuffer tcp hStream
      have hSame : upToClose (frame :: frames) = [frame] := by rw [upToClose, hMessage]
      refine ⟨incoming, ?_⟩
      rw [serveRequests, run_bind, selectRead_run, hHappens reads hLength]
      simp only [Ending.result]
      rw [hSame, conversation_after_controls hRead, hMessage,
        exchange_of_not_text (by rfl : (Message.close payload).text? = none)]
      simp only [Call.written, List.flatMap_append, List.flatMap_singleton, hMessage, List.map_nil,
        conversation, List.append_nil]
      rfl
    | ping payload => exact hControl (by rw [hMessage]; rfl) (by rw [upToClose, hMessage])
    | pong payload => exact hControl (by rw [hMessage]; rfl) (by rw [upToClose, hMessage])

theorem controllerSession_answers {frames : List ClientFrame} (hReads : frames.length < reads)
    (hRequests : frames.length < requests)
    (hStream : tcp.incoming.flatten = frames.flatMap ClientFrame.encode) :
    AnswersAll fromSlice H generation (controllerSession fromSlice reads requests generation) tcp bus
      (upToClose frames) := by
  have hLoop : AnswersAll fromSlice H generation
      (serveRequests fromSlice reads requests (List.replicate jsonRpcBufferSize 0)) tcp bus
      ([] ++ upToClose frames) :=
    serveRequests_answers (List.forall_mem_nil _) (by rw [List.length_nil]; omega) hRequests
      List.length_replicate hStream
  obtain ⟨incoming, hRun⟩ := hLoop
  refine ⟨incoming, ?_⟩
  have hAnnounced : announcedGeneration.run (uncontested generation H) (tcp, bus) =
      (generation, tcp, bus) := rfl
  rw [controllerSession, run_bind, hAnnounced]
  simp only [ne_eq, not_true_eq_false, if_false]
  exact hRun

/-- The automaton knows whether the session has noticed the takeover; from then on the session
does nothing but drain the bus. -/
def retiring (generation : UInt64) : Discipline SessionOp SessionOp.Reply Bool where
  allowed retired op := retired = true → ∃ drained, op = .draining drained
  next
    | retired, .announcedGeneration, (announced : UInt64) => retired || announced != generation
    | retired, .isCurrent, current => retired || !current
    | retired, .reading _, read => retired || Option.isNone read
    | retired, .commanding _, performed => retired || Option.isNone performed
    | retired, .responding _, _ => retired
    | retired, .draining _, _ => retired

theorem retiring_allowed (op : SessionOp) : (retiring generation).allowed false op := nofun

theorem denied_retires {op : SessionOp} {reply : op.Reply} (h : denied generation op = some reply) :
    (retiring generation).next false op reply = true := by
  cases op with
  | announcedGeneration =>
    cases h
    have hNe : generation + 1 ≠ generation := by simp
    exact bne_iff_ne.mpr hNe
  | responding op => cases h
  | draining op => cases h
  | _ =>
    cases h
    rfl

theorem uncontested_stays (s : Tcp × σ) (op : SessionOp) :
    (retiring generation).next false op (uncontested generation H s op).1 = false := by
  cases op with
  | announcedGeneration => exact bne_self_eq_false generation
  | _ => rfl

theorem uncontested_sends (s : Tcp × σ) (op : SessionOp) :
    s.1.sent <+: (uncontested generation H s op).2.1.sent := by
  have hSegmented (tcp : Tcp) (op : SocketOp) : tcp.sent <+: (segmented tcp op).2.sent := by
    cases op with
    | read limit => exact List.prefix_rfl
    | writeAll bytes => exact List.prefix_append _ _
  cases op with
  | reading op => exact hSegmented s.1 op
  | responding op => exact hSegmented s.1 op
  | _ => exact List.prefix_rfl

theorem uncontested_run_sends {α : Type} (p : SessionProgram α) (s : Tcp × σ) :
    s.1.sent <+: (p.run (uncontested generation H) s).2.1.sent := by
  induction p generalizing s with
  | done a => exact List.prefix_rfl
  | call op next ih => exact (uncontested_sends s op).trans (ih _ _)

theorem underWay_sends (out : Nat) (s : Tcp × σ) (op : SessionOp) :
    (underWay H out s op).1.sent <+: (uncontested generation H s op).2.1.sent := by
  cases op with
  | reading op =>
    cases op with
    | read limit => exact List.prefix_rfl
    | writeAll bytes => exact (List.prefix_append_right_inj _).mpr (List.take_prefix _ _)
  | responding op => exact uncontested_sends s (.responding op)
  | commanding op => cases op <;> exact List.prefix_rfl
  | _ => exact List.prefix_rfl

theorem retired_sends_nothing {α : Type} {p : SessionProgram α} {Q : α → Bool → Prop}
    (h : p.Obeys (retiring generation) true Q) (changed : Nat → Option Nat) (s : Tcp × σ) (n : Nat) :
    (p.run (contested generation changed H) (s, n)).2.1.1.sent = s.1.sent := by
  induction p generalizing s n with
  | done a => rfl
  | call op next ih =>
    obtain ⟨drained, rfl⟩ := h.1 rfl
    have hSame : contested generation changed H (s, n) (.draining drained) =
        ((uncontested generation H s (.draining drained)).1,
          (uncontested generation H s (.draining drained)).2, n + 1) := by
      rw [contested]
      cases changed n <;> rfl
    rw [run_call, hSame]
    exact ih _ (h.2 _) _ _

theorem obeys_retiring_sends {α : Type} {p : SessionProgram α} {Q : α → Bool → Prop}
    (h : p.Obeys (retiring generation) false Q) (changed : Nat → Option Nat) (s : Tcp × σ) (n : Nat) :
    (p.run (contested generation changed H) (s, n)).2.1.1.sent <+:
      (p.run (uncontested generation H) s).2.1.sent := by
  induction p generalizing s n with
  | done a => exact List.prefix_rfl
  | call op next ih =>
    have hKept : (((next (uncontested generation H s op).1).run (contested generation changed H)
        ((uncontested generation H s op).2, n + 1))).2.1.1.sent <+:
        ((next (uncontested generation H s op).1).run (uncontested generation H)
          (uncontested generation H s op).2).2.1.sent := by
      have hNext := h.2 (uncontested generation H s op).1
      rw [uncontested_stays] at hNext
      exact ih _ hNext _ _
    rw [run_call, run_call, contested]
    cases changed n with
    | none => exact hKept
    | some out =>
      cases hDenied : denied generation op with
      | none => exact hKept
      | some reply =>
        have hNext := h.2 reply
        rw [denied_retires hDenied] at hNext
        simp only
        rw [retired_sends_nothing hNext]
        exact (underWay_sends out s op).trans (uncontested_run_sends _ _)

theorem selectRead_retires {α : Type} (p : Socket α) :
    (selectRead p).Obeys (retiring generation) false fun read retired => retired = read.isNone := by
  rw [selectRead]
  refine obeys_interruptible (fun _ => retiring_allowed _) ?_ ?_ (fun _ => rfl) p.run
  · intro op reply hReply
    cases reply with
    | none => exact absurd rfl hReply
    | some reply => rfl
  · intro op reply hReply
    obtain rfl : reply = none := hReply
    rfl

theorem selectCommand_retires {α : Type} (p : Bus α) :
    (selectCommand p).Obeys (retiring generation) false fun done retired =>
      retired = done.isNone := by
  rw [selectCommand]
  refine obeys_interruptible (fun _ => retiring_allowed _) ?_ ?_ (fun _ => rfl) p
  · intro op reply hReply
    cases reply with
    | none => exact absurd rfl hReply
    | some reply => rfl
  · intro op reply hReply
    obtain rfl : reply = none := hReply
    rfl

theorem serveRequest_retires {request : String} {next : SessionProgram (Option SessionEnd)}
    (hNext : next.Obeys (retiring generation) false fun _ _ => True) :
    (serveRequest fromSlice request next).Obeys (retiring generation) false fun _ _ => True := by
  have hCurrent : isCurrent.Obeys (retiring generation) false fun current retired =>
      retired = !current := ⟨nofun, fun _ => rfl⟩
  rw [serveRequest]
  apply hCurrent.bind
  rintro (_ | _) _ rfl
  · trivial
  refine (selectCommand_retires _).bind ?_
  rintro (_ | _ | response) _ rfl
  · have hDrain : (drain (lockUartRx >>= fun _ => resynchronizeUart)).Obeys (retiring generation)
        true fun _ retired => retired = true := by
      rw [drain]
      refine obeys_embed ?_ ?_ ?_ _
      · exact fun op _ => ⟨op, rfl⟩
      · exact fun _ _ => rfl
      · exact fun _ => rfl
    exact hDrain.bind fun _ _ _ => trivial
  · exact hNext
  apply hCurrent.bind
  rintro (_ | _) _ rfl
  · trivial
  have hRespond : (respond (writeResponse response)).Obeys (retiring generation) false
      fun _ retired => retired = false := by
    rw [respond]
    refine obeys_embed ?_ ?_ ?_ _
    · exact fun _ => retiring_allowed _
    · exact fun _ _ => rfl
    · exact fun _ => rfl
  apply hRespond.bind
  rintro (error | _) _ rfl
  · trivial
  · exact hNext

theorem serveRequests_retires (buffer : List UInt8) :
    (serveRequests fromSlice reads requests buffer).Obeys (retiring generation) false
      fun _ _ => True := by
  induction requests generalizing buffer with
  | zero => trivial
  | succ requests ih =>
    rw [serveRequests]
    refine (selectRead_retires _).bind ?_
    rintro (_ | error | ⟨buffer, _ | request⟩) _ rfl
    · trivial
    · cases error <;> trivial
    · trivial
    · exact serveRequest_retires (ih buffer)

theorem controllerSession_retires :
    (controllerSession fromSlice reads requests generation).Obeys (retiring generation) false
      fun _ _ => True := by
  have hAnnounced : announcedGeneration.Obeys (retiring generation) false fun announced retired =>
      retired = (announced != generation) := ⟨nofun, fun _ => rfl⟩
  rw [controllerSession]
  apply hAnnounced.bind
  rintro announced _ rfl
  split
  · trivial
  · rename_i hSame
    rw [bne_eq_false_iff_eq.mpr (not_not.mp hSame)]
    exact serveRequests_retires _

/-- Every message of a client is answered once and in its turn, until the client closes. A
takeover, whenever it comes, only cuts these answers short. -/
theorem session_answers_client (frames : List ClientFrame)
    (hStream : tcp.incoming.flatten = frames.flatMap ClientFrame.encode)
    (hReads : frames.length < reads) (hRequests : frames.length < requests) :
    (∃ incoming, (controllerSession fromSlice reads requests generation).run
        (uncontested generation H) (tcp, bus) = (some .disconnected,
          ⟨incoming, tcp.sent ++
            (conversation fromSlice H bus ((upToClose frames).map (·.message))).1⟩,
          (conversation fromSlice H bus ((upToClose frames).map (·.message))).2)) ∧
    ∀ changed : Nat → Option Nat, ((controllerSession fromSlice reads requests generation).run
        (contested generation changed H) ((tcp, bus), 0)).2.1.1.sent <+:
      tcp.sent ++ (conversation fromSlice H bus ((upToClose frames).map (·.message))).1 := by
  have hAnswers : AnswersAll fromSlice H generation
      (controllerSession fromSlice reads requests generation) tcp bus (upToClose frames) :=
    controllerSession_answers hReads hRequests hStream
  refine ⟨hAnswers, fun changed => ?_⟩
  obtain ⟨incoming, hRun⟩ := hAnswers
  have hRetires : (controllerSession fromSlice reads requests generation).Obeys
      (retiring generation) false fun _ _ => True := controllerSession_retires
  have hPrefix := obeys_retiring_sends (H := H) hRetires changed (tcp, bus) 0
  rwa [hRun] at hPrefix

/-- A bus without servos. -/
def silent : Handler BusOp BusOp.Reply Unit
  | _, .written => (true, ())
  | _, .readByte => (none, ())
  | _, .discard | _, .isTunnelEnabled => (false, ())
  | _, .lockUartRx | _, .lockUartTx | _, .writeAll _ | _, .enableTunnel | _, .disableTunnel
  | _, .observe _ => ((), ())

def pingRequest : ClientFrame :=
  ⟨.text "\x7b\"jsonrpc\":\"2.0\",\"id\":7,\"method\":\"system.ping\"\x7d",
    fun i => UInt8.ofNat (i + 1), false, by decide, by decide⟩

def readPing (text : String) : Option JsonRpcRequest :=
  if text = "\x7b\"jsonrpc\":\"2.0\",\"id\":7,\"method\":\"system.ping\"\x7d" then
    some { jsonrpc := "2.0", method := "system.ping", id := some 7 }
  else none

theorem session_answers_client_ping :
    (∃ incoming, (controllerSession readPing 4 4 3).run (uncontested 3 silent)
        (⟨[pingSeven, pingRequest, goodbye].map ClientFrame.encode, []⟩, ()) = (some .disconnected,
          ⟨incoming, [0x8a, 1, 7] ++ (serverFrame 0x01
            (Utf8.encode "\x7b\"jsonrpc\":\"2.0\",\"result\":\x7b\"ready\":true\x7d,\"id\":7\x7d") ++
              [0x88, 0])⟩, ())) ∧
    ∀ changed : Nat → Option Nat, ((controllerSession readPing 4 4 3).run (contested 3 changed silent)
        ((⟨[pingSeven, pingRequest, goodbye].map ClientFrame.encode, []⟩, ()), 0)).2.1.1.sent <+:
      [0x8a, 1, 7] ++ (serverFrame 0x01
        (Utf8.encode "\x7b\"jsonrpc\":\"2.0\",\"result\":\x7b\"ready\":true\x7d,\"id\":7\x7d") ++
          [0x88, 0]) := by
  exact session_answers_client [pingSeven, pingRequest, goodbye] rfl (by decide) (by decide)

end Fetchline
