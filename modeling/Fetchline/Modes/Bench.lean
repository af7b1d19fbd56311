import Fetchline.Firmware.Frames
import Fetchline.Host.Servos
import Fetchline.Library.Related

/-! # A bus that answers each packet

The servos are an oracle: for the packets sent so far, the bytes that follow the
last one, after which comes silence. The same oracle answers the firmware on its
UART and the host on the raw tunnel.
-/

namespace Fetchline.Modes

open Effects Effects.Program Host

abbrev Oracle := List (List UInt8) → List UInt8

structure Wire where
  packets : List (List UInt8)
  unread : List UInt8
deriving DecidableEq

/-- Reply bytes still unread are discarded. -/
def Wire.write (oracle : Oracle) (wire : Wire) (packet : List UInt8) : Wire where
  packets := wire.packets ++ [packet]
  unread := oracle (wire.packets ++ [packet])

/-- The UART of the firmware, with the raw tunnel disabled. -/
def uart (oracle : Oracle) : Handler BusOp BusOp.Reply Wire
  | wire, .writeAll packet => ((), wire.write oracle packet)
  | wire, .written => (true, wire)
  | wire, .readByte => (wire.unread.head?, { wire with unread := wire.unread.tail })
  | wire, .discard => (!wire.unread.isEmpty, { wire with unread := wire.unread.drop 64 })
  | wire, .isTunnelEnabled => (false, wire)
  | wire, .lockUartRx | wire, .lockUartTx | wire, .enableTunnel | wire, .disableTunnel
  | wire, .observe _ => ((), wire)

/-- The raw tunnel of the host. -/
def tunnel (oracle : Oracle) : Handler NetOp NetOp.Reply Wire
  | wire, .writeStream bytes => (Timed.done (), wire.write oracle bytes)
  | wire, .readExact count =>
    if h : count ≤ wire.unread.length then
      (Timed.done ⟨wire.unread.take count, List.length_take_of_le h⟩,
        { wire with unread := wire.unread.drop count })
    else (Timed.timedOut, { wire with unread := [] })
  | wire, .sendText _ | wire, .nextMessage _ => (Timed.timedOut, wire)
  | wire, .sendPong _ => (Except.ok (), wire)

/-- The firmware at the other end of the WebSocket, and the responses it has sent. -/
structure Session where
  wire : Wire
  inbox : List String
deriving DecidableEq

def mcu (fromSlice : String → Option JsonRpcRequest) (oracle : Oracle) :
    Handler NetOp NetOp.Reply Session
  | session, .sendText text =>
    let (response, wire) :=
      (handleJsonRpc fromSlice jsonRpcBufferSize text).run (uart oracle) session.wire
    (Timed.done (),
      { wire, inbox := session.inbox ++ (response.map fun r => r.response.text).toList })
  | session, .nextMessage _ =>
    match session.inbox with
    | [] => (Timed.timedOut, session)
    | text :: inbox => (Timed.done (some (.text text)), { session with inbox })
  | session, .sendPong _ => (Except.ok (), session)
  | session, .writeStream _ | session, .readExact _ => (Timed.timedOut, session)

/-- The payload in the bytes after id and length: error, parameters, checksum. -/
def bodyPayload (id length : UInt8) (body : List UInt8) : Option (List UInt8) :=
  let fields := body.take (length.toNat - 1)
  if body.getD (length.toNat - 1) 0 = Fetchline.checksum (id :: length :: fields) ∧
      body.getD 0 0 = 0 then some (fields.drop 1)
  else none

/-- The payload of the status frame at the start of these bytes, header left out. -/
def framePayload (expectedId : UInt8) : List UInt8 → Option (List UInt8)
  | id :: length :: rest =>
    if id = expectedId ∧ (2 ≤ length.toNat ∧ length.toNat ≤ 66) ∧ length.toNat ≤ rest.length then
      bodyPayload id length (rest.take length.toNat)
    else none
  | _ => none

/-- The payload of the status in a reply, if there is one. -/
def statusPayload (expectedId : UInt8) (reply : List UInt8) : Option (List UInt8) :=
  match headerSearch 128 0 reply with
  | .found frame => framePayload expectedId frame
  | _ => none

variable (oracle : Oracle) (wire : Wire)

theorem readUartByte_run : readUartByte.run.run (uart oracle) wire =
    match wire.unread with
    | [] => (.error .timeout, { wire with unread := [] })
    | byte :: unread => (.ok byte, { wire with unread }) := by
  obtain ⟨packets, _ | ⟨byte, unread⟩⟩ := wire <;> rfl

theorem servo_bind_run {α β : Type} (H : Handler BusOp BusOp.Reply Wire) (p : Servo α)
    (f : α → Servo β) :
    (p >>= f).run.run H wire =
      match p.run.run H wire with
      | (.ok a, wire') => (f a).run.run H wire'
      | (.error failure, wire') => (.error failure, wire') := by
  rw [ExceptT.run_bind, run_bind]
  rcases p.run.run H wire with ⟨failure | a, wire'⟩ <;> rfl

theorem seekHeader_run (n : Nat) (previous : UInt8) :
    (seekHeader n previous).run.run (uart oracle) wire =
      match headerSearch n previous wire.unread with
      | .found unread => (.ok (), { wire with unread })
      | .searching _ _ => (.error .timeout, { wire with unread := [] })
      | .exhausted => (.error .invalidReply, { wire with unread := wire.unread.drop n }) := by
  induction n generalizing previous wire with
  | zero => rfl
  | succ n ih =>
    rw [seekHeader, servo_bind_run, readUartByte_run]
    obtain ⟨packets, _ | ⟨byte, unread⟩⟩ := wire
    · rfl
    · simp only [headerSearch]
      split
      · rfl
      · rw [ih]
        rfl

theorem readUartBytes_run (n : Nat) :
    (readUartBytes n).run.run (uart oracle) wire =
      if n ≤ wire.unread.length then
        (.ok (wire.unread.take n), { wire with unread := wire.unread.drop n })
      else (.error .timeout, { wire with unread := [] }) := by
  induction n generalizing wire with
  | zero => rfl
  | succ n ih =>
    rw [readUartBytes, servo_bind_run, readUartByte_run]
    obtain ⟨packets, _ | ⟨byte, unread⟩⟩ := wire
    · rfl
    · simp only [servo_bind_run, ih, List.length_cons, Nat.add_le_add_iff_right]
      by_cases h : n ≤ unread.length
      · rw [if_pos h, if_pos h]
        rfl
      · rw [if_neg h, if_neg h]

end Fetchline.Modes
