import Fetchline.Firmware.Bus
import Fetchline.Library.Json

/-! # JSON-RPC requests on the firmware

From the text of one request to its response. Parsing is the business of an
external crate, so the parser is a parameter; the compact response text is
written out here because it has to fit the response buffer.
-/

namespace Fetchline

open Effects Bounded

def jsonRpcBufferSize : Nat := 1024
def rawTunnelTcpPort : Nat := 3334

inductive MotorDirection where
  | clockwise
  | counterclockwise
deriving DecidableEq, Repr

/-- Absent parameters are `none`. -/
structure JsonRpcParams where
  id : Option UInt8 := none
  speed : Option UInt16 := none
  acceleration : Option UInt8 := none
  direction : Option MotorDirection := none
  position : Option UInt16 := none
  torqueLimit : Option UInt16 := none
  ids : Option (BoundedVec UInt8 maxPositionBatch) := none
  startId : Option UInt8 := none
  endId : Option UInt8 := none
deriving DecidableEq

structure JsonRpcRequest where
  jsonrpc : String
  method : String
  params : JsonRpcParams := {}
  id : Option UInt32 := none
deriving DecidableEq

inductive ControllerCommand where
  | startMotor (id : UInt8) (counterClockwise : Bool) (speed : UInt16) (acceleration : UInt8)
  | stopMotor (id : UInt8)
  | setPosition (id : UInt8) (position : UInt16) (acceleration : UInt8) (torqueLimit : UInt16)
  | getPosition (id : UInt8)
  | getPositions (ids : BoundedVec UInt8 maxPositionBatch)
  | scanServos (startId endId : UInt8)
deriving DecidableEq

inductive ControllerResult where
  | ready
  | accepted
  | position (position : PositionResult)
  | positions (positions : BoundedVec PositionResult maxPositionBatch)
  | servos (ids : BoundedVec UInt8 maxScanResults)
  | rawTunnel (active : Bool)
deriving DecidableEq

structure RpcFailure where
  code : Int
  message : String
deriving DecidableEq, Repr

namespace RpcFailure

def parseError : RpcFailure := ⟨-32700, "Parse error"⟩
def invalidRequest : RpcFailure := ⟨-32600, "Invalid Request"⟩
def methodNotFound : RpcFailure := ⟨-32601, "Method not found"⟩
def invalidParams : RpcFailure := ⟨-32602, "Invalid params"⟩
def rawTunnelActive : RpcFailure := ⟨-32010, "Raw tunnel is active"⟩
def servoTimeout : RpcFailure := ⟨-32001, "STS servo timeout"⟩
def servoReply : RpcFailure := ⟨-32002, "Invalid STS servo reply"⟩
def servoReportedError : RpcFailure := ⟨-32003, "Servo reported STS error"⟩
def servoTransport : RpcFailure := ⟨-32004, "STS UART transport failure"⟩

end RpcFailure

def ServoFailure.rpcFailure : ServoFailure → RpcFailure
  | .invalidServoId | .invalidArgument => .invalidParams
  | .timeout => .servoTimeout
  | .invalidReply => .servoReply
  | .reportedError => .servoReportedError
  | .transport => .servoTransport

def PositionResult.toJson (p : PositionResult) : Json.Value :=
  .object [("id", .number p.id.toNat), ("position", .number p.position)]

def ControllerResult.toJson : ControllerResult → Json.Value
  | .ready => .object [("ready", .bool true)]
  | .accepted => .object [("accepted", .bool true)]
  | .position p => p.toJson
  | .positions ps => .object [("positions", .array (ps.toList.map PositionResult.toJson))]
  | .servos ids => .object [("ids", .array (ids.toList.map fun id => .number id.toNat))]
  | .rawTunnel true => .object [("port", .number rawTunnelTcpPort), ("active", .bool true)]
  | .rawTunnel false => .object [("active", .bool false)]

inductive Response where
  | success (result : ControllerResult) (id : UInt32)
  | error (failure : RpcFailure) (id : Option UInt32)
deriving DecidableEq

def Response.toJson : Response → Json.Value
  | .success result id => .object
      [("jsonrpc", .string "2.0"), ("result", result.toJson), ("id", .number id.toNat)]
  | .error failure id => .object
      [("jsonrpc", .string "2.0"),
        ("error", .object [("code", .number failure.code), ("message", .string failure.message)]),
        ("id", (id.map fun id => Json.Value.number id.toNat).getD .null)]

def Response.text (r : Response) : String := r.toJson.compact

/-- A response that has been written into a buffer of `capacity` bytes. -/
structure EncodedResponse (capacity : Nat) where
  response : Response
  fits : response.text.utf8ByteSize ≤ capacity
deriving DecidableEq

/-- `serde_json_core::to_slice`, which fails when the buffer is too small. -/
def Response.toSlice (capacity : Nat) (r : Response) : Option (EncodedResponse capacity) :=
  if h : r.text.utf8ByteSize ≤ capacity then some ⟨r, h⟩ else none

def encodeSuccess (capacity : Nat) (id : UInt32) (result : ControllerResult) :
    Option (EncodedResponse capacity) := (Response.success result id).toSlice capacity

def encodeError (capacity : Nat) (id : Option UInt32) (failure : RpcFailure) :
    Option (EncodedResponse capacity) := (Response.error failure id).toSlice capacity

/-- `Option::ok_or(RpcFailure::INVALID_PARAMS)`. -/
def required {α : Type} : Option α → Except RpcFailure α
  | some a => .ok a
  | none => .error .invalidParams

def commandFromRequest (method : String) (params : JsonRpcParams) :
    Except RpcFailure ControllerCommand :=
  match method with
  | "motor.start" => do
    let id ← required params.id
    let direction ← required params.direction
    let speed ← required params.speed
    let acceleration ← required params.acceleration
    pure (.startMotor id (direction = .counterclockwise) speed acceleration)
  | "motor.stop" => do
    let id ← required params.id
    pure (.stopMotor id)
  | "servo.setPosition" => do
    let id ← required params.id
    let position ← required params.position
    let acceleration ← required params.acceleration
    let torqueLimit ← required params.torqueLimit
    pure (.setPosition id position acceleration torqueLimit)
  | "servo.getPosition" => do
    let id ← required params.id
    pure (.getPosition id)
  | "servo.getPositions" => do
    let ids ← required params.ids
    pure (.getPositions ids)
  | "servo.scan" => do
    let startId ← required params.startId
    let endId ← required params.endId
    pure (.scanServos startId endId)
  | _ => .error .methodNotFound

/-- The command itself, once both UART mutexes are held. -/
def runCommand : ControllerCommand → Servo ControllerResult
  | .startMotor id counterClockwise speed acceleration => do
    startMotor id counterClockwise speed acceleration
    pure .accepted
  | .stopMotor id => do
    stopMotor id
    pure .accepted
  | .setPosition id position acceleration torqueLimit => do
    movePosition id position acceleration torqueLimit
    pure .accepted
  | .getPosition id => do
    let position ← readPosition id
    pure (.position ⟨id, position⟩)
  | .getPositions ids => do
    let positions ← readPositions ids
    pure (.positions positions)
  | .scanServos startId endId => do
    let ids ← scanServos startId endId
    pure (.servos ids)

/-- Both mutex guards are dropped when this program has finished. -/
def executeCommand (command : ControllerCommand) : Bus (Except ServoFailure ControllerResult) := do
  lockUartRx
  lockUartTx
  let result ← (runCommand command).run
  match result with
  | .error failure => do
    resynchronizeUart
    pure (.error failure)
  | .ok result => pure (.ok result)

/-- The methods other than `system.ping` and the two tunnel switches. -/
def serveCommand (request : JsonRpcRequest) : Bus (Except RpcFailure ControllerResult) :=
  .call .isTunnelEnabled fun (enabled : Bool) =>
    if enabled then pure (.error .rawTunnelActive)
    else match commandFromRequest request.method request.params with
      | .ok command => do
        let result ← executeCommand command
        pure (result.mapError ServoFailure.rpcFailure)
      | .error failure => pure (.error failure)

def serveMethod (request : JsonRpcRequest) : Bus (Except RpcFailure ControllerResult) :=
  match request.method with
  | "system.ping" => pure (.ok .ready)
  | "debug.enableRawTunnel" => .call .enableTunnel fun _ => pure (.ok (.rawTunnel true))
  | "debug.disableRawTunnel" => .call .disableTunnel fun _ => pure (.ok (.rawTunnel false))
  | _ => serveCommand request

/-- The end of `handle_json_rpc`: a request without an id gets no response. -/
def encodeResult (capacity : Nat) (id : Option UInt32) (result : Except RpcFailure ControllerResult) :
    Option (EncodedResponse capacity) :=
  match id, result with
  | none, _ => none
  | some id, .ok result => encodeSuccess capacity id result
  | some id, .error failure => encodeError capacity (some id) failure

def handleJsonRpc (fromSlice : String → Option JsonRpcRequest) (capacity : Nat) (text : String) :
    Bus (Option (EncodedResponse capacity)) :=
  match fromSlice text with
  | none => pure (encodeError capacity none .parseError)
  | some request =>
    if request.jsonrpc ≠ "2.0" then pure (encodeError capacity request.id .invalidRequest)
    else do
      let result ← serveMethod request
      pure (encodeResult capacity request.id result)

theorem Response.response_of_toSlice {capacity : Nat} {r : Response} {e : EncodedResponse capacity}
    (h : r.toSlice capacity = some e) : e.response = r := by
  rw [toSlice] at h
  split at h
  · exact (congrArg EncodedResponse.response (Option.some.inj h)).symm
  · cases h

theorem error_of_encodeResult {capacity : Nat} {id : Option UInt32}
    {result : Except RpcFailure ControllerResult} {e : EncodedResponse capacity}
    (h : encodeResult capacity id result = some e) {failure : RpcFailure} {id' : Option UInt32}
    (hError : e.response = .error failure id') : result = .error failure := by
  rcases id with _ | id
  · cases h
  · rcases result with actual | result
    · rw [Response.response_of_toSlice h] at hError
      rw [(Response.error.inj hError).1]
    · rw [Response.response_of_toSlice h] at hError
      cases hError

end Fetchline
