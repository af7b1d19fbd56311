import Fetchline.Firmware.ClientFrames
import Fetchline.Firmware.Rpc
import Fetchline.Firmware.ServerFrames
import Fetchline.Library.Select

/-! # One WebSocket session

The loop of `controller_session` over the socket, the bus and the ownership of the
controller. A change of ownership ends the read or the command that is pending, but not a
response that is being written.
-/

namespace Fetchline

open Effects Effects.Program WebSocket

inductive SessionOp where
  /-- `ownership_updates.get()`. -/
  | announcedGeneration
  | isCurrent
  /-- An effect of `read_text`; no reply when the ownership changes while it is pending. -/
  | reading (op : SocketOp)
  /-- An effect of `handle_json_rpc`, likewise. -/
  | commanding (op : BusOp)
  | responding (op : SocketOp)
  | draining (op : BusOp)

def SessionOp.Reply : SessionOp → Type
  | .announcedGeneration => UInt64
  | .isCurrent => Bool
  | .reading op => Option op.Reply
  | .commanding op => Option op.Reply
  | .responding op => op.Reply
  | .draining op => op.Reply

abbrev SessionProgram := Program SessionOp SessionOp.Reply

/-- How `controller_session` comes to return. -/
inductive SessionEnd where
  | supersededDuringSetup
  | disconnected
  | ended (error : WebSocket.Error)
  | replaced
  | lostOwnership
  | notSent (error : WebSocket.Error)
deriving DecidableEq, Repr

def selectRead {α : Type} (p : Socket α) : SessionProgram (Option (Except WebSocket.Error α)) :=
  p.run.interruptible .reading fun _ => id

def selectCommand {α : Type} (p : Bus α) : SessionProgram (Option α) :=
  p.interruptible .commanding fun _ => id

def respond {α : Type} (p : Socket α) : SessionProgram (Except WebSocket.Error α) :=
  p.run.embed .responding fun _ => id

def drain {α : Type} (p : Bus α) : SessionProgram α := p.embed .draining fun _ => id

def announcedGeneration : SessionProgram UInt64 := .call .announcedGeneration .done

def isCurrent : SessionProgram Bool := .call .isCurrent .done

def writeResponse (response : EncodedResponse jsonRpcBufferSize) : Socket Unit :=
  writeText (Utf8.encode response.response.text)

section Session

variable (fromSlice : String → Option JsonRpcRequest) (reads : Nat)

/-- What the loop does with a request; `next` is its next round. -/
def serveRequest (request : String) (next : SessionProgram (Option SessionEnd)) :
    SessionProgram (Option SessionEnd) := do
  if ← isCurrent then
    let answer ← selectCommand (handleJsonRpc fromSlice jsonRpcBufferSize request)
    match answer with
    | none => do
      drain (lockUartRx >>= fun _ => resynchronizeUart)
      pure (some .replaced)
    | some none => next
    | some (some response) =>
      if ← isCurrent then
        let written ← respond (writeResponse response)
        match written with
        | .error error => pure (some (.notSent error))
        | .ok _ => next
      else pure (some .lostOwnership)
  else pure (some .lostOwnership)

/-- The loop, for at most this many requests, each after at most `reads` frames; `none` when it
has not ended by then. -/
def serveRequests : Nat → List UInt8 → SessionProgram (Option SessionEnd)
  | 0, _ => pure none
  | requests + 1, buffer => do
    let request ← selectRead (readText reads buffer)
    match request with
    | none => pure (some .replaced)
    | some (.error .closed) => pure (some .disconnected)
    | some (.error error) => pure (some (.ended error))
    | some (.ok (_, none)) => pure none
    | some (.ok (buffer, some request)) =>
      serveRequest fromSlice request (serveRequests requests buffer)

def controllerSession (requests : Nat) (generation : UInt64) :
    SessionProgram (Option SessionEnd) := do
  let announced ← announcedGeneration
  if announced ≠ generation then pure (some .supersededDuringSetup)
  else serveRequests fromSlice reads requests (List.replicate jsonRpcBufferSize 0)

end Session

variable {σ : Type}

def uncontested (generation : UInt64) (H : Handler BusOp BusOp.Reply σ) :
    Handler SessionOp SessionOp.Reply (Tcp × σ)
  | s, .announcedGeneration => (generation, s)
  | s, .isCurrent => (true, s)
  | (tcp, bus), .reading op => (some (segmented tcp op).1, (segmented tcp op).2, bus)
  | (tcp, bus), .commanding op => (some (H bus op).1, tcp, (H bus op).2)
  | (tcp, bus), .responding op => ((segmented tcp op).1, (segmented tcp op).2, bus)
  | (tcp, bus), .draining op => ((H bus op).1, tcp, (H bus op).2)

/-- What the environment has to say to an effect once the ownership has changed. -/
def denied (generation : UInt64) : (op : SessionOp) → Option op.Reply
  | .announcedGeneration => some (generation + 1)
  | .isCurrent => some false
  | .reading _ => some none
  | .commanding _ => some none
  | .responding _ => none
  | .draining _ => none

/-- What an interrupted effect has done by then: a write is partly out. -/
def underWay (H : Handler BusOp BusOp.Reply σ) (out : Nat) : Tcp × σ → SessionOp → Tcp × σ
  | (tcp, bus), .reading (.writeAll bytes) =>
    ((segmented tcp (.writeAll (bytes.take out))).2, bus)
  | (tcp, bus), .commanding (.writeAll bytes) => (tcp, (H bus (.writeAll (bytes.take out))).2)
  | s, _ => s

/-- Whether an effect finds the ownership changed depends on how many have been before it; the
number is that of the bytes an interrupted write has sent. -/
def contested (generation : UInt64) (changed : Nat → Option Nat) (H : Handler BusOp BusOp.Reply σ) :
    Handler SessionOp SessionOp.Reply ((Tcp × σ) × Nat)
  | (s, n), op =>
    match changed n, denied generation op with
    | some out, some reply => (reply, underWay H out s op, n + 1)
    | _, _ => ((uncontested generation H s op).1, (uncontested generation H s op).2, n + 1)

section Exchange

variable (fromSlice : String → Option JsonRpcRequest) (H : Handler BusOp BusOp.Reply σ)

/-- What the client gets for a message, and the bus after it. -/
def exchange (bus : σ) : Message → List UInt8 × σ
  | .text request =>
    let answered := (handleJsonRpc fromSlice jsonRpcBufferSize request).run H bus
    ((answered.1.map fun e => serverFrame 0x01 (Utf8.encode e.response.text)).getD [], answered.2)
  | message => (message.answer, bus)

/-- What the client gets for its messages, one after the other. -/
def conversation (bus : σ) : List Message → List UInt8 × σ
  | [] => ([], bus)
  | message :: messages =>
    let answered := exchange fromSlice H bus message
    let rest := conversation answered.2 messages
    (answered.1 ++ rest.1, rest.2)

end Exchange

variable {fromSlice : String → Option JsonRpcRequest} {H : Handler BusOp BusOp.Reply σ}
variable {generation : UInt64}

theorem selectRead_run {α : Type} (p : Socket α) (tcp : Tcp) (bus : σ) :
    (selectRead p).run (uncontested generation H) (tcp, bus) =
      (some (p.run.run segmented tcp).1, (p.run.run segmented tcp).2, bus) := by
  rw [selectRead]
  exact run_interruptible (fun tcp => (tcp, bus)) (fun _ _ => rfl) (fun _ _ => rfl) p.run tcp

theorem selectCommand_run {α : Type} (p : Bus α) (tcp : Tcp) (bus : σ) :
    (selectCommand p).run (uncontested generation H) (tcp, bus) =
      (some (p.run H bus).1, tcp, (p.run H bus).2) := by
  rw [selectCommand]
  exact run_interruptible (fun bus => (tcp, bus)) (fun _ _ => rfl) (fun _ _ => rfl) p bus

theorem respond_run {α : Type} (p : Socket α) (tcp : Tcp) (bus : σ) :
    (respond p).run (uncontested generation H) (tcp, bus) =
      ((p.run.run segmented tcp).1, (p.run.run segmented tcp).2, bus) := by
  rw [respond]
  exact run_embed (H := segmented) (fun tcp => (tcp, bus)) (fun _ _ => rfl) (fun _ _ => rfl) p.run tcp

end Fetchline
