import Fetchline.Firmware.SessionAnswers
import Fetchline.Firmware.SocketTurns
import Fetchline.Firmware.Upgrade

/-! # One client of the controller service

A round of `controller_service` once a client is accepted: the upgrade, then the session. What a
client and the firmware are to say to each other is a dialogue, and the firmware keeps to it. Time
does not pass here: neither the limit on the handshake nor the keep-alive plays a part.
-/

namespace Fetchline

open Effects Effects.Program Effects.Turn WebSocket

inductive ConnectionEnd where
  | rejected (error : WebSocket.Error)
  | served (how : Option SessionEnd)
deriving DecidableEq, Repr

/-- `generation` is what the claim after the upgrade returns. -/
def serveClient (crypto : Crypto) (fromSlice : String → Option JsonRpcRequest) (reads requests : Nat)
    (generation : UInt64) : SessionProgram ConnectionEnd := do
  let upgraded ← respond (upgrade crypto)
  match upgraded with
  | .error error => pure (.rejected error)
  | .ok _ => do
    let how ← controllerSession fromSlice reads requests generation
    pure (.served how)

section Port

variable {σ : Type}

/-- A session that keeps the controller, seen from its connection. -/
def sessionPort (generation : UInt64) (H : Handler BusOp BusOp.Reply σ) :
    Port SessionOp SessionOp.Reply UInt8 σ
  | bus, .announcedGeneration => .inward generation bus
  | bus, .isCurrent => .inward true bus
  | _, .reading (.read limit) => .receive limit fun chunk => some (arrived limit chunk)
  | _, .reading (.writeAll bytes) => .send bytes (some (allWritten bytes))
  | bus, .commanding op => .inward (some (H bus op).1) (H bus op).2
  | _, .responding (.read limit) => .receive limit fun chunk => arrived limit chunk
  | _, .responding (.writeAll bytes) => .send bytes (allWritten bytes)
  | bus, .draining op => .inward (H bus op).1 (H bus op).2

variable {generation : UInt64} {H : Handler BusOp BusOp.Reply σ} {bus : σ}
variable {K : SessionProgram ConnectionEnd → σ → Prop} {turns : List (Turn UInt8)} {α : Type}

theorem responding_carries :
    Carries (sessionPort generation H) bus .responding fun _ reply => reply where
  read _ := rfl
  write _ := rfl

theorem reading_carries :
    Carries (sessionPort generation H) bus .reading fun _ reply => some reply where
  read _ := rfl
  write _ := rfl

theorem respond_keeps {p : Socket α} {bytes written : List UInt8} {result : Except WebSocket.Error α}
    (hTakes : Takes p bytes result written) (hOrder : ReadsFirst p)
    {f : Except WebSocket.Error α → SessionProgram ConnectionEnd}
    (hNext : (f result).Keeps (sessionPort generation H) K bus turns) :
    (respond p >>= f).Keeps (sessionPort generation H) K bus
      (heard bytes ++ (spoken written ++ turns)) :=
  hTakes.keeps hOrder (inside_embed fun _ _ => rfl) responding_carries hNext

theorem selectRead_inside : Inside SessionOp.reading (fun _ reply => some reply) some
    (fun p : Program SocketOp SocketOp.Reply (Except WebSocket.Error α) => selectRead p) where
  done _ := rfl
  call _ _ := ⟨_, rfl, fun _ => rfl⟩

theorem selectRead_keeps {p : Socket α} {bytes written : List UInt8}
    {result : Except WebSocket.Error α} (hTakes : Takes p bytes result written)
    (hOrder : ReadsFirst p)
    {f : Option (Except WebSocket.Error α) → SessionProgram ConnectionEnd}
    (hNext : (f (some result)).Keeps (sessionPort generation H) K bus turns) :
    (selectRead p >>= f).Keeps (sessionPort generation H) K bus
      (heard bytes ++ (spoken written ++ turns)) :=
  hTakes.keeps hOrder selectRead_inside reading_carries hNext

theorem isCurrent_keeps {f : Bool → SessionProgram ConnectionEnd}
    (hNext : (f true).Keeps (sessionPort generation H) K bus turns) :
    (isCurrent >>= f).Keeps (sessionPort generation H) K bus turns := .inward rfl hNext

theorem announcedGeneration_keeps {f : UInt64 → SessionProgram ConnectionEnd}
    (hNext : (f generation).Keeps (sessionPort generation H) K bus turns) :
    (announcedGeneration >>= f).Keeps (sessionPort generation H) K bus turns := .inward rfl hNext

theorem selectCommand_keeps (p : Bus α) {f : Option α → SessionProgram ConnectionEnd}
    (hNext : (f (some (p.run H bus).1)).Keeps (sessionPort generation H) K (p.run H bus).2 turns) :
    (selectCommand p >>= f).Keeps (sessionPort generation H) K bus turns := by
  induction p generalizing bus with
  | done a => exact hNext
  | call op next ih =>
    refine .inward rfl ?_
    exact ih (H bus op).1 hNext

end Port

section Dialogue

variable {σ : Type} (fromSlice : String → Option JsonRpcRequest) (H : Handler BusOp BusOp.Reply σ)

/-- The client's frames and what it gets for each, as the firmware sees them. -/
def dialogue (bus : σ) : List ClientFrame → List (Turn UInt8)
  | [] => []
  | frame :: frames =>
    heard frame.encode ++ (spoken (exchange fromSlice H bus frame.message).1 ++
      dialogue (exchange fromSlice H bus frame.message).2 frames)

/-- The firmware has answered everything and waits, with the bus in this state, or is done. -/
def Rests (generation : UInt64) (H : Handler BusOp BusOp.Reply σ) (bus : σ)
    (p : SessionProgram ConnectionEnd) (s : σ) : Prop :=
  p.Quiet (sessionPort generation H) s ∧ s = bus

end Dialogue

variable {σ : Type} {fromSlice : String → Option JsonRpcRequest} {H : Handler BusOp BusOp.Reply σ}
variable {generation : UInt64} {reads requests rounds : Nat} {bus : σ}

theorem selectRead_bind {α β : Type} (p : Socket α) (f : α → Socket β) :
    selectRead (p >>= f) = selectRead p >>= fun read =>
      match read with
      | none => pure none
      | some (.error error) => pure (some (.error error))
      | some (.ok a) => selectRead (f a) := by
  refine (interruptible_bind p.run _).trans ?_
  rw [selectRead]
  congr 1
  funext read
  rcases read with _ | error | a
  · rfl
  · rfl
  · rfl

def served (session : SessionProgram (Option SessionEnd)) : SessionProgram ConnectionEnd :=
  session >>= fun how => pure (.served how)

/-- The loop once `read_text` has come to an end. -/
def afterRead (fromSlice : String → Option JsonRpcRequest) (reads requests : Nat) :
    Option (Except WebSocket.Error (List UInt8 × Option String)) →
      SessionProgram (Option SessionEnd)
  | none => pure (some .replaced)
  | some (.error .closed) => pure (some .disconnected)
  | some (.error error) => pure (some (.ended error))
  | some (.ok (_, none)) => pure none
  | some (.ok (buffer, some request)) =>
    serveRequest fromSlice request (serveRequests fromSlice reads requests buffer)

/-- The loop while `read_text` has this many rounds left. -/
def serveFrom (fromSlice : String → Option JsonRpcRequest) (reads requests rounds : Nat)
    (buffer : List UInt8) : SessionProgram ConnectionEnd :=
  served (selectRead (readText rounds buffer) >>= afterRead fromSlice reads requests)

theorem serveRequests_eq (buffer : List UInt8) :
    served (serveRequests fromSlice reads (requests + 1) buffer) =
      serveFrom fromSlice reads requests reads buffer := by
  rw [serveFrom, serveRequests]
  rfl

theorem serveFrom_succ (buffer : List UInt8) :
    serveFrom fromSlice reads requests (rounds + 1) buffer =
      selectRead (readMessage buffer) >>= fun read =>
        match read with
        | none => served (pure (some .replaced))
        | some (.error error) => served (afterRead fromSlice reads requests (some (.error error)))
        | some (.ok (buffer, none)) => serveFrom fromSlice reads requests rounds buffer
        | some (.ok (buffer, some request)) =>
          served (serveRequest fromSlice request (serveRequests fromSlice reads requests buffer)) := by
  rw [serveFrom, readText, selectRead_bind, served, LawfulMonad.bind_assoc, LawfulMonad.bind_assoc]
  congr 1
  funext read
  rcases read with _ | error | ⟨buffer, _ | request⟩
  · rfl
  · rfl
  · exact (LawfulMonad.bind_assoc _ _ _).symm
  · rfl

theorem serveFrom_step {frame : ClientFrame} {buffer : List UInt8}
    (hBuffer : buffer.length = messageBufferSize) {K : SessionProgram ConnectionEnd → σ → Prop}
    {turns : List (Turn UInt8)} {text : Option String} (hText : frame.message.outcome = .ok text)
    (hNext : (text.elim (serveFrom fromSlice reads requests rounds (frame.fill buffer))
      fun request => served (serveRequest fromSlice request
        (serveRequests fromSlice reads requests (frame.fill buffer)))).Keeps
          (sessionPort generation H) K bus turns) :
    (serveFrom fromSlice reads requests (rounds + 1) buffer).Keeps (sessionPort generation H) K bus
      (heard frame.encode ++ (spoken frame.message.answer ++ turns)) := by
  have hMessage := readMessage_takes frame hBuffer
  rw [hText] at hMessage
  rw [serveFrom_succ]
  refine selectRead_keeps hMessage (readMessage_first buffer) ?_
  cases text with
  | none => exact hNext
  | some request => exact hNext

theorem serveFrom_close {frame : ClientFrame} {buffer : List UInt8}
    (hBuffer : buffer.length = messageBufferSize) (hClose : frame.message.outcome = .error .closed) :
    (serveFrom fromSlice reads requests (rounds + 1) buffer).Keeps (sessionPort generation H)
      (Rests generation H bus) bus (heard frame.encode ++ spoken frame.message.answer) := by
  have hMessage := readMessage_takes frame hBuffer
  rw [hClose] at hMessage
  rw [serveFrom_succ, ← List.append_nil (spoken frame.message.answer)]
  exact selectRead_keeps hMessage (readMessage_first buffer) (.settled ⟨trivial, rfl⟩)

theorem writeResponse_last (response : EncodedResponse jsonRpcBufferSize) :
    ReadsFirst (writeResponse response) := writeFrame_last _ _

theorem serveRequest_keeps (request : String) {next : SessionProgram (Option SessionEnd)}
    {K : SessionProgram ConnectionEnd → σ → Prop} {turns : List (Turn UInt8)}
    (hNext : (served next).Keeps (sessionPort generation H) K
      (exchange fromSlice H bus (.text request)).2 turns) :
    (served (serveRequest fromSlice request next)).Keeps (sessionPort generation H) K bus
      (spoken (exchange fromSlice H bus (.text request)).1 ++ turns) := by
  rw [exchange] at hNext ⊢
  rw [served, serveRequest, LawfulMonad.bind_assoc]
  refine isCurrent_keeps ?_
  simp only [if_true]
  rw [LawfulMonad.bind_assoc]
  refine selectCommand_keeps _ ?_
  generalize (handleJsonRpc fromSlice jsonRpcBufferSize request).run H bus = answered at hNext ⊢
  obtain ⟨_ | response, bus'⟩ := answered
  · exact hNext
  · rw [LawfulMonad.bind_assoc]
    refine isCurrent_keeps ?_
    simp only [if_true]
    rw [LawfulMonad.bind_assoc]
    exact respond_keeps (writeResponse_takes response) (writeResponse_last response) hNext

/-- What the firmware waits for next is the header of a frame. -/
theorem serveFrom_rests {buffer : List UInt8} (hRounds : 0 < rounds) :
    (serveFrom fromSlice reads requests rounds buffer).Quiet (sessionPort generation H) bus := by
  obtain ⟨rounds, rfl⟩ : ∃ n, rounds = n + 1 := ⟨rounds - 1, by omega⟩
  exact ⟨_, _, rfl⟩

theorem serveFrom_keeps {frames : List ClientFrame} (hRounds : frames.length < rounds)
    (hReads : frames.length < reads) (hRequests : frames.length ≤ requests) {buffer : List UInt8}
    (hBuffer : buffer.length = messageBufferSize) :
    (serveFrom fromSlice reads requests rounds buffer).Keeps (sessionPort generation H)
      (Rests generation H (conversation fromSlice H bus ((upToClose frames).map (·.message))).2) bus
      (dialogue fromSlice H bus (upToClose frames)) := by
  induction frames generalizing rounds requests buffer bus with
  | nil => exact .settled ⟨serveFrom_rests hRounds, rfl⟩
  | cons frame frames ih =>
    rw [List.length_cons] at hRounds hReads hRequests
    obtain ⟨rounds, rfl⟩ : ∃ n, rounds = n + 1 := ⟨rounds - 1, by omega⟩
    obtain ⟨requests, rfl⟩ : ∃ n, requests = n + 1 := ⟨requests - 1, by omega⟩
    have hControl (hOutcome : frame.message.outcome = .ok none)
        (hSame : upToClose (frame :: frames) = frame :: upToClose frames) :
        (serveFrom fromSlice reads (requests + 1) (rounds + 1) buffer).Keeps (sessionPort generation H)
          (Rests generation H
            (conversation fromSlice H bus ((upToClose (frame :: frames)).map (·.message))).2) bus
          (dialogue fromSlice H bus (upToClose (frame :: frames))) := by
      rw [hSame, List.map_cons, conversation, dialogue,
        exchange_of_not_text (text?_of_control hOutcome)]
      refine serveFrom_step hBuffer hOutcome ?_
      exact ih (by omega) (by omega) (by omega) (fill_length frame hBuffer)
    cases hMessage : frame.message with
    | text content =>
      have hSame : upToClose (frame :: frames) = frame :: upToClose frames := by
        rw [upToClose, hMessage]
      have hAnswer : spoken frame.message.answer = [] := by
        rw [hMessage]
        rfl
      rw [hSame, List.map_cons, conversation, dialogue, hMessage]
      have hOutcome : frame.message.outcome = .ok (some content) := by
        rw [hMessage]
        rfl
      have hServed : (serveFrom fromSlice reads (requests + 1) (rounds + 1) buffer).Keeps
          (sessionPort generation H) (Rests generation H (conversation fromSlice H
            (exchange fromSlice H bus (.text content)).2 ((upToClose frames).map (·.message))).2) bus
          (heard frame.encode ++ (spoken frame.message.answer ++
            (spoken (exchange fromSlice H bus (.text content)).1 ++ dialogue fromSlice H
              (exchange fromSlice H bus (.text content)).2 (upToClose frames)))) := by
        refine serveFrom_step hBuffer hOutcome (serveRequest_keeps content ?_)
        rw [serveRequests_eq]
        exact ih (by omega) (by omega) (by omega) (fill_length frame hBuffer)
      rwa [hAnswer, List.nil_append] at hServed
    | close payload =>
      have hSame : upToClose (frame :: frames) = [frame] := by rw [upToClose, hMessage]
      rw [hSame, List.map_singleton, conversation, conversation, dialogue, dialogue, hMessage,
        exchange_of_not_text (by rfl : (Message.close payload).text? = none), ← hMessage]
      dsimp only
      rw [List.append_nil]
      exact serveFrom_close hBuffer (by rw [hMessage]; rfl)
    | ping payload => exact hControl (by rw [hMessage]; rfl) (by rw [upToClose, hMessage])
    | pong payload => exact hControl (by rw [hMessage]; rfl) (by rw [upToClose, hMessage])

/-- The run lemma of the firmware: after the upgrade, frame for frame, until the client closes. -/
theorem serveClient_keeps {crypto : Crypto} (hCrypto : crypto.Faithful) {request : List UInt8}
    {key : String} {bytes : List UInt8} (hOpening : Opening request request key bytes)
    {frames : List ClientFrame} (hReads : frames.length < reads)
    (hRequests : frames.length < requests) :
    (serveClient crypto fromSlice reads requests generation).Keeps (sessionPort generation H)
      (Rests generation H (conversation fromSlice H bus ((upToClose frames).map (·.message))).2) bus
      (heard request ++ (spoken (switchingProtocols (crypto.acceptOf key)) ++
        dialogue fromSlice H bus (upToClose frames))) := by
  obtain ⟨requests, rfl⟩ : ∃ n, requests = n + 1 := ⟨requests - 1, by omega⟩
  rw [serveClient]
  refine respond_keeps (upgrade_takes hCrypto hOpening) (upgrade_first crypto) ?_
  change (served (controllerSession fromSlice reads (requests + 1) generation)).Keeps _ _ _ _
  rw [served, controllerSession, LawfulMonad.bind_assoc]
  refine announcedGeneration_keeps ?_
  simp only [ne_eq, not_true_eq_false, if_false]
  change (served (serveRequests fromSlice reads (requests + 1) _)).Keeps _ _ _ _
  rw [serveRequests_eq]
  exact serveFrom_keeps hReads hReads (Nat.le_of_lt_succ hRequests) List.length_replicate

end Fetchline
