import Fetchline.Controller.Packet
import Fetchline.Library.BoundedVec
import Fetchline.Library.Discipline

/-! # STS transactions on the servo UART

The firmware functions that talk to the servo bus, as programs over what they
ask of the UART, its two mutexes and the raw tunnel flag. `Observation` requests
change nothing and wait for nothing: they mark the points of a run that the
statements about the bus speak of.
-/

namespace Fetchline

open Effects Bounded

inductive ServoFailure where
  | invalidServoId
  | invalidArgument
  | timeout
  | invalidReply
  | reportedError
  | transport
deriving DecidableEq, Repr

inductive Observation where
  /-- `send_sts_packet` returns `Ok`; its status frame, header included, has this many bytes. -/
  | statusAccepted (frameLen : Nat)
  /-- `send_sts_packet` returns an error. -/
  | statusRejected (failure : ServoFailure)
  | resynchronized
deriving DecidableEq, Repr

inductive BusOp where
  | lockUartRx
  | lockUartTx
  /-- The call of `write_all`: from here on the packet is on the bus. -/
  | writeAll (packet : List UInt8)
  /-- The return of `write_all`. -/
  | written
  /-- One byte from `read_async`, while the 50 ms response deadline runs. -/
  | readByte
  /-- One `read_async` of up to 64 bytes under the 2 ms quiet interval. -/
  | discard
  | isTunnelEnabled
  | enableTunnel
  | disableTunnel
  | observe (observation : Observation)
deriving DecidableEq, Repr

/-- `written` replies whether the write succeeded, `readByte` replies `none` when
the deadline ends the transaction, `discard` replies `false` for a quiet interval. -/
def BusOp.Reply : BusOp → Type
  | .written => Bool
  | .readByte => Option UInt8
  | .discard => Bool
  | .isTunnelEnabled => Bool
  | _ => Unit

abbrev Bus := Program BusOp BusOp.Reply

abbrev Servo := ExceptT ServoFailure Bus

def lockUartRx : Bus Unit := .call .lockUartRx .done

def lockUartTx : Bus Unit := .call .lockUartTx .done

def observe (observation : Observation) : Bus Unit := .call (.observe observation) .done

def stsBroadcastId : UInt8 := 0xfe
def maxServoId : UInt8 := stsBroadcastId - 1
def maxPositionBatch : Nat := 6
def maxScanResults : Nat := maxServoId.toNat
def stsInstructionPing : UInt8 := 0x01
def stsInstructionRead : UInt8 := 0x02
def stsInstructionWrite : UInt8 := 0x03
def stsMode : UInt8 := 33
def stsTorqueEnable : UInt8 := 40
def stsAcceleration : UInt8 := 41
def stsTorqueLimit : UInt8 := 48
def stsPresentPosition : UInt8 := 56

/-- `payload` is the used part of the source's 64-byte buffer. -/
structure StsStatus where
  payload : List UInt8
deriving DecidableEq, Repr

/-- Empty reads and transient RX errors only repeat the read, so they are no
replies of `readByte`. -/
def readUartByte : Servo UInt8 :=
  ExceptT.mk (.call .readByte fun
    | some byte => .done (.ok byte)
    | none => .done (.error .timeout))

/-- The header search: at most `n` more bytes, the last one read was `previous`. -/
def seekHeader : Nat → UInt8 → Servo Unit
  | 0, _ => throw .invalidReply
  | n + 1, previous => do
    let byte ← readUartByte
    if previous = 0xff ∧ byte = 0xff then pure () else seekHeader n byte

def readUartBytes : Nat → Servo (List UInt8)
  | 0 => pure []
  | n + 1 => do
    let byte ← readUartByte
    let rest ← readUartBytes n
    pure (byte :: rest)

def readStsStatus (expectedId : UInt8) : Servo StsStatus := do
  seekHeader 128 0
  let id ← readUartByte
  let length ← readUartByte
  if ¬ (2 ≤ length.toNat ∧ length.toNat ≤ 66) then throw .invalidReply
  else
    let body ← readUartBytes length.toNat
    match decodeStatusPacket (id :: length :: body) expectedId with
    | .error _ => throw .invalidReply
    | .ok status => if status.error ≠ 0 then throw .reportedError else pure ⟨status.parameters⟩

def writeAll (packet : List UInt8) : Servo Unit :=
  ExceptT.mk (.call (.writeAll packet) fun _ => .call .written fun (written : Bool) =>
    .done (if written then .ok () else .error .transport))

/-- Marks how `send_sts_packet` ends. -/
def concludeTransaction (transaction : Servo StsStatus) : Servo StsStatus :=
  ExceptT.mk do
    let result ← transaction.run
    match result with
    | .ok status => observe (.statusAccepted (status.payload.length + 6))
    | .error failure => observe (.statusRejected failure)
    pure result

def sendStsPacket (id instruction : UInt8) (parameters : List UInt8) : Servo StsStatus :=
  match encodeInstructionPacket (List.replicate 16 0) id instruction parameters with
  | (.error _, _) => throw .invalidArgument
  | (.ok packetLen, packet) => concludeTransaction do
    writeAll (packet.take packetLen)
    readStsStatus id

/-- At most `n` more reads of the drain. -/
def discardReads : Nat → Bus Unit
  | 0 => pure ()
  | n + 1 => .call .discard fun (read : Bool) => if read then discardReads n else pure ()

def resynchronizeUart : Bus Unit := do
  discardReads 4
  observe .resynchronized

def isUnicastServoId (id : UInt8) : Bool := id != 0 && id ≤ maxServoId

def validateServoId (id : UInt8) : Servo Unit :=
  if ¬ isUnicastServoId id then throw .invalidServoId else pure ()

/-- The `i16` result as an integer; neither branch overflows. -/
def decodeSigned15 (value : UInt16) : Int :=
  if value &&& 0x8000 ≠ 0 then -((value &&& 0x7fff).toNat : Int) else value.toNat

def toLeBytes (value : UInt16) : List UInt8 :=
  [UInt8.ofNat (value.toNat % 256), UInt8.ofNat (value.toNat / 256)]

def fromLeBytes (low high : UInt8) : UInt16 := UInt16.ofNat (low.toNat + 256 * high.toNat)

@[simp] theorem fromLeBytes_toLeBytes (value : UInt16) :
    fromLeBytes (UInt8.ofNat (value.toNat % 256)) (UInt8.ofNat (value.toNat / 256)) = value := by
  have h := value.toNat_lt
  apply UInt16.toNat_inj.mp
  simp only [fromLeBytes, UInt8.toNat_ofNat', UInt16.toNat_ofNat']
  omega

def writeRegister (id address : UInt8) (data : List UInt8) : Servo Unit :=
  if data.length > 7 then throw .invalidArgument
  else do
    let status ← sendStsPacket id stsInstructionWrite (address :: data)
    if status.payload.length = 0 then pure () else throw .invalidReply

def pingServo (id : UInt8) : Servo Unit := do
  validateServoId id
  let _ ← sendStsPacket id stsInstructionPing []
  pure ()

def readPosition (id : UInt8) : Servo Int := do
  validateServoId id
  let status ← sendStsPacket id stsInstructionRead [stsPresentPosition, 2]
  match status.payload with
  | [low, high] => pure (decodeSigned15 (fromLeBytes low high))
  | _ => throw .invalidReply

/-- The payload of one write to the acceleration register and the six bytes
after it: acceleration, goal position, goal time, speed. -/
def motionCommand (acceleration : UInt8) (position speed : UInt16) : List UInt8 :=
  acceleration :: toLeBytes position ++ [0, 0] ++ toLeBytes speed

def startMotor (id : UInt8) (counterClockwise : Bool) (speed : UInt16) (acceleration : UInt8) :
    Servo Unit := do
  validateServoId id
  if speed > 4095 then throw .invalidArgument
  else
    writeRegister id stsMode [1]
    writeRegister id stsTorqueEnable [1]
    let signedSpeed := if counterClockwise then speed ||| 0x8000 else speed
    writeRegister id stsAcceleration (motionCommand acceleration 0 signedSpeed)

def stopMotor (id : UInt8) : Servo Unit := do
  validateServoId id
  writeRegister id stsAcceleration (List.replicate 7 0)

def movePosition (id : UInt8) (position : UInt16) (acceleration : UInt8) (torqueLimit : UInt16) :
    Servo Unit := do
  validateServoId id
  if position > 4095 ∨ torqueLimit > 1000 then throw .invalidArgument
  else
    writeRegister id stsTorqueEnable [1]
    writeRegister id stsTorqueLimit (toLeBytes torqueLimit)
    writeRegister id stsAcceleration (motionCommand acceleration position 0)

structure PositionResult where
  id : UInt8
  position : Int
deriving DecidableEq, Repr

def readPositionsFrom : List UInt8 → BoundedVec PositionResult maxPositionBatch →
    Servo (BoundedVec PositionResult maxPositionBatch)
  | [], positions => pure positions
  | id :: ids, positions => do
    let position ← readPosition id
    match positions.push ⟨id, position⟩ with
    | none => throw .invalidArgument
    | some positions => readPositionsFrom ids positions

def readPositions (ids : BoundedVec UInt8 maxPositionBatch) :
    Servo (BoundedVec PositionResult maxPositionBatch) := readPositionsFrom ids.toList .empty

/-- What one probe of the scan does to the ids found so far. -/
def probeServo (id : UInt8) (ids : BoundedVec UInt8 maxScanResults) :
    Servo (BoundedVec UInt8 maxScanResults) := ExceptT.mk do
  let reply ← (pingServo id).run
  match reply with
  | .ok () => match ids.push id with
    | none => pure (.error .invalidArgument)
    | some ids => pure (.ok ids)
  | .error .transport => do
    resynchronizeUart
    pure (.error .transport)
  | .error _ => do
    resynchronizeUart
    pure (.ok ids)

def scanFrom : List Nat → BoundedVec UInt8 maxScanResults → Servo (BoundedVec UInt8 maxScanResults)
  | [], ids => pure ids
  | rawId :: rawIds, ids =>
    if ¬ isUnicastServoId (UInt8.ofNat rawId) then scanFrom rawIds ids
    else do
      let ids ← probeServo (UInt8.ofNat rawId) ids
      scanFrom rawIds ids

def scanServos (startId endId : UInt8) : Servo (BoundedVec UInt8 maxScanResults) :=
  if startId = 0 ∨ startId > endId ∨ endId > maxServoId then throw .invalidArgument
  else scanFrom (List.range' startId.toNat (endId.toNat + 1 - startId.toNat)) .empty

end Fetchline
