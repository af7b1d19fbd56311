import Fetchline.Firmware.Bus
import Fetchline.Host.Config
import Fetchline.Library.Program

/-! # The host's connection to the MCU

The two transports of the bridge as programs over what they ask of the network:
JSON-RPC calls over a WebSocket, and STS packets written straight into the raw
tunnel. Texts are read by an external crate, so the readers are parameters.
-/

namespace Fetchline.Host

open Effects

def servoTimeoutMs : Nat := 750
def servoScanTimeoutMs : Nat := 20000
def maxStaleControllerResponses : Nat := 32
def stsHeader : List UInt8 := [0xff, 0xff]
def stsInstructionRead : UInt8 := 0x02
def stsInstructionWrite : UInt8 := 0x03
def stsMode : UInt8 := 33
def stsTorqueEnable : UInt8 := 40
def stsAcceleration : UInt8 := 41
def stsTorqueLimit : UInt8 := 48
def stsPresentPosition : UInt8 := 56

def checksum (bytes : List UInt8) : UInt8 := ~~~ bytes.foldl (· + ·) 0

/-- How a network operation under a deadline ends. -/
inductive Timed (α : Type) where
  | timedOut
  | failed (error : String)
  | done (a : α)

inductive WebSocketMessage where
  | text (text : String)
  | ping (payload : List UInt8)
  | pong
  | close
  | binary
deriving DecidableEq

inductive NetOp where
  | sendText (text : String)
  /-- The next message of the WebSocket; `none` when the stream has ended. -/
  | nextMessage (timeoutMs : Nat)
  | sendPong (payload : List UInt8)
  | writeStream (bytes : List UInt8)
  | readExact (count : Nat)
deriving DecidableEq

def NetOp.Reply : NetOp → Type
  | .sendText _ => Timed Unit
  | .nextMessage _ => Timed (Option WebSocketMessage)
  | .sendPong _ => Except String Unit
  | .writeStream _ => Timed Unit
  | .readExact count => Timed { bytes : List UInt8 // bytes.length = count }

abbrev Net := Program NetOp NetOp.Reply

inductive BridgeTransport where
  | controller
  | debugRaw
deriving DecidableEq, Repr

structure BridgeConnection where
  peer : String
  transport : BridgeTransport
  nextRequestId : UInt32
deriving DecidableEq

abbrev Bridge := ExceptT String (StateT BridgeConnection Net)

def perform (op : NetOp) : Bridge op.Reply :=
  ExceptT.mk fun connection => .call op fun reply => .done (.ok reply, connection)

def sendText (text : String) : Bridge (Timed Unit) := perform (.sendText text)

def nextMessage (timeoutMs : Nat) : Bridge (Timed (Option WebSocketMessage)) :=
  perform (.nextMessage timeoutMs)

def sendPong (payload : List UInt8) : Bridge (Except String Unit) := perform (.sendPong payload)

def writeStream (bytes : List UInt8) : Bridge (Timed Unit) := perform (.writeStream bytes)

def readExact (count : Nat) : Bridge (Timed { bytes : List UInt8 // bytes.length = count }) :=
  perform (.readExact count)

def connection : Bridge BridgeConnection :=
  ExceptT.mk fun connection => .done (.ok connection, connection)

def isController : Bridge Bool := do
  let connection ← connection
  pure (connection.transport = .controller)

/-- `raw_stream_mut`. -/
def rawStream : Bridge Unit := do
  if ← isController then throw "the MCU connection is in JSON-RPC controller mode"

def writeWithTimeout (bytes : List UInt8) : Bridge Unit := do
  let written ← writeStream bytes
  match written with
  | .timedOut => throw "Timed out sending command to the MCU"
  | .failed error => throw ("Could not send command to the MCU: " ++ error)
  | .done _ => pure ()

def readExactWithTimeout (count : Nat) : Bridge { bytes : List UInt8 // bytes.length = count } := do
  let read ← readExact count
  match read with
  | .timedOut => throw "Timed out waiting for an STS servo reply"
  | .failed error => throw ("Could not read STS servo reply: " ++ error)
  | .done bytes => pure bytes

/-- The header search: at most `n` more bytes, the last one read was `previous`. -/
def findHeader : Nat → UInt8 → Bridge Unit
  | 0, _ => throw "Could not find an STS response header"
  | n + 1, previous => do
    let byte ← readExactWithTimeout 1
    if previous = 0xff ∧ byte.1.getD 0 0 = 0xff then pure ()
    else findHeader n (byte.1.getD 0 0)

def checksumForStatus (id length : UInt8) (bodyWithoutChecksum : List UInt8) : UInt8 :=
  ~~~ bodyWithoutChecksum.foldl (· + ·) (id + length)

/-- Two hexadecimal digits, as `{:02x}` prints a byte. -/
def hexByte (byte : UInt8) : String :=
  String.ofList [Nat.digitChar (byte.toNat / 16), Nat.digitChar (byte.toNat % 16)]

/-- The end of `read_status`, once the body is there. -/
def checkStatusBody (dataLength : Nat) (id length : UInt8) (body : List UInt8) :
    Except String (List UInt8) :=
  let checksumIndex := length.toNat - 1
  let expectedChecksum := checksumForStatus id length (body.take checksumIndex)
  if body.getD checksumIndex 0 ≠ expectedChecksum then .error "STS reply checksum did not match"
  else
    let error := body.getD 0 0
    if error ≠ 0 then .error (s!"Servo {id} reported STS error 0x" ++ hexByte error)
    else
      let payload := (body.take checksumIndex).drop 1
      let returned := payload.length
      if returned ≠ dataLength then
        .error s!"Servo {id} returned {returned} data bytes; expected {dataLength}"
      else .ok payload

/-- What `read_status` does after the header, the id and the length. -/
def readStatusBody (expectedId : UInt8) (dataLength : Nat) (id length : UInt8) :
    Bridge (List UInt8) := do
  if id ≠ expectedId then
    throw s!"STS reply came from servo {id}, but servo {expectedId} was addressed"
  else if ¬ (2 ≤ length.toNat ∧ length.toNat ≤ 66) then
    throw s!"STS reply has an invalid length ({length})"
  else
    let body ← readExactWithTimeout length.toNat
    ExceptT.mk (pure (checkStatusBody dataLength id length body.1))

def readStatus (expectedId : UInt8) (dataLength : Nat) : Bridge (List UInt8) := do
  rawStream
  findHeader 128 0
  let fixed ← readExactWithTimeout 2
  readStatusBody expectedId dataLength (fixed.1.getD 0 0) (fixed.1.getD 1 0)

def writePacket (id instruction : UInt8) (parameters : List UInt8) : Bridge Unit := do
  let length := parameters.length + 2
  if 255 < length then throw "STS command is too long"
  else
    let packet := stsHeader ++ [id, UInt8.ofNat length, instruction] ++ parameters
    rawStream
    writeWithTimeout (packet ++ [checksum (packet.drop 2)])

def writeRegister (id address : UInt8) (data : List UInt8) : Bridge Unit := do
  writePacket id stsInstructionWrite (address :: data)
  let _ ← readStatus id 0

def readRegister (id address length : UInt8) : Bridge (List UInt8) := do
  writePacket id stsInstructionRead [address, length]
  readStatus id length.toNat

structure ControllerJsonRpcError where
  code : Int
  message : String
deriving DecidableEq

structure ControllerJsonRpcResponse where
  jsonrpc : String
  id : Option UInt32
  result : Option Json.Value
  error : Option ControllerJsonRpcError

structure Position where
  id : UInt8
  position : Int
deriving DecidableEq, Repr

/-- What the host leaves to `serde_json`. -/
structure Serde where
  response : String → Except String ControllerJsonRpcResponse
  position : Json.Value → Except String Position
  scan : Json.Value → Except String (List UInt8)

/-- The text of a request; the map of `json!` keeps its keys sorted. -/
def requestText (requestId : UInt32) (method : String) (params : Json.Value) : String :=
  (Json.Value.object [("id", .number requestId.toNat), ("jsonrpc", .string "2.0"),
    ("method", .string method), ("params", params)]).compact

def controllerResult (response : ControllerJsonRpcResponse) : Except String Json.Value :=
  match response.result, response.error with
  | some result, none => .ok result
  | none, some error =>
    let code := error.code
    let message := error.message
    .error s!"MCU JSON-RPC error {code}: {message}"
  | _, _ => .error "MCU returned an invalid JSON-RPC result/error combination"

variable (serde : Serde)

/-- At most `n` more messages are looked at. -/
def awaitResponse (requestId : UInt32) (timeoutMs : Nat) : Nat → Bridge Json.Value
  | 0 => throw "MCU sent too many stale JSON-RPC responses"
  | n + 1 => do
    let message ← nextMessage timeoutMs
    match message with
    | .timedOut => throw "Timed out waiting for an MCU JSON-RPC response"
    | .failed error => throw ("Could not read an MCU JSON-RPC response: " ++ error)
    | .done none => throw "MCU closed the JSON-RPC WebSocket"
    | .done (some (.text text)) =>
      match serde.response text with
      | .error error => throw ("MCU sent invalid JSON-RPC: " ++ error)
      | .ok response =>
        if response.jsonrpc ≠ "2.0" then
          throw "MCU sent a JSON-RPC response with an unsupported version"
        else if response.id ≠ some requestId then awaitResponse requestId timeoutMs n
        else ExceptT.mk (pure (controllerResult response))
    | .done (some (.ping payload)) =>
      let ponged ← sendPong payload
      match ponged with
      | .error error => throw ("Could not answer MCU WebSocket ping: " ++ error)
      | .ok _ => awaitResponse requestId timeoutMs n
    | .done (some .pong) => awaitResponse requestId timeoutMs n
    | .done (some .close) => throw "MCU closed the JSON-RPC WebSocket"
    | .done (some .binary) => throw "MCU sent an unsupported WebSocket message"

/-- The id of the next request; `wrapping_add`. -/
def nextRequestId : Bridge UInt32 :=
  ExceptT.mk fun connection => .done
    (.ok connection.nextRequestId, { connection with nextRequestId := connection.nextRequestId + 1 })

def controllerRequestWithTimeout (method : String) (params : Json.Value) (responseTimeoutMs : Nat) :
    Bridge Json.Value := do
  let requestId ← nextRequestId
  if ← isController then
    let sent ← sendText (requestText requestId method params)
    match sent with
    | .timedOut => throw "Timed out sending a JSON-RPC command to the MCU"
    | .failed error => throw ("Could not send a JSON-RPC command to the MCU: " ++ error)
    | .done _ => awaitResponse serde requestId responseTimeoutMs maxStaleControllerResponses
  else throw "the MCU connection is in debug raw-tunnel mode"

def controllerRequest (method : String) (params : Json.Value) : Bridge Json.Value :=
  controllerRequestWithTimeout serde method params servoTimeoutMs

def expectControllerReady (result : Json.Value) : Bridge Unit :=
  if (result.get "ready").bind Json.Value.asBool = some true then pure ()
  else throw "MCU returned an unexpected result to system.ping"

def expectControllerAccepted (result : Json.Value) : Bridge Unit :=
  if (result.get "accepted").bind Json.Value.asBool = some true then pure ()
  else throw "MCU rejected the controller command without an accepted result"

def brokenConnectionPrefixes : List String := [
  "Timed out sending command to the MCU",
  "Could not send command to the MCU",
  "Could not read STS servo reply",
  "Timed out sending a JSON-RPC command to the MCU",
  "Could not send a JSON-RPC command to the MCU",
  "Timed out waiting for an MCU JSON-RPC response",
  "MCU closed the JSON-RPC WebSocket",
  "Could not read an MCU JSON-RPC response",
  "MCU sent invalid JSON-RPC",
  "MCU sent a JSON-RPC response with an unsupported version",
  "Could not answer MCU WebSocket ping",
  "MCU sent an unsupported WebSocket message",
  "MCU sent too many stale JSON-RPC responses"]

def connectionIsUsableAfter (error : String) : Bool :=
  !brokenConnectionPrefixes.any fun text => text.toList.isPrefixOf error.toList

end Fetchline.Host
