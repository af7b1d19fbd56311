import Fetchline.Host.Bridge

/-! # Servo requests of the browser

Each request is served over JSON-RPC when the connection is in controller mode,
and by writing the STS packets itself when it is in raw mode.
-/

namespace Fetchline.Host

open Effects

inductive Direction where
  | clockwise
  | counterclockwise
deriving DecidableEq, Repr

/-- The client messages other than `connect`: those that need a bridge. -/
inductive ServoMessage where
  | startMotor (id : UInt8) (speed : UInt16) (acceleration : UInt8) (direction : Direction)
  | stopMotor (id : UInt8)
  | movePosition (id : UInt8) (position : UInt16) (acceleration : UInt8) (torqueLimit : UInt16)
  | readPosition (id : UInt8)
  | readPositions (ids : List UInt8)
  | scanServos (startId endId : UInt8)
deriving DecidableEq

inductive ServerMessage where
  | connected (address : String)
  | complete (action : String)
  | position (id : UInt8) (position : Int)
  | positions (positions : List Position) (errors : List String)
  | servoScan (startId endId : UInt8) (ids : List UInt8)
  | error (message : String) (bridgeConnected : Bool)
deriving DecidableEq

def validateId (id : UInt8) : Bridge Unit :=
  if !isUnicastServoId id then throw "Servo ID must be between 1 and 253" else pure ()

def validateScanRange (startId endId : UInt8) : Bridge Unit :=
  if startId = 0 ∨ startId > endId ∨ endId > maxServoId then
    throw "Servo search IDs must be between 1 and 253, with a start no greater than the end"
  else pure ()

def toLeBytes (value : UInt16) : List UInt8 :=
  [UInt8.ofNat (value.toNat % 256), UInt8.ofNat (value.toNat / 256)]

def fromLeBytes (low high : UInt8) : UInt16 := UInt16.ofNat (low.toNat + 256 * high.toNat)

/-- The `i16` result as an integer; neither branch overflows. -/
def decodeSigned15 (value : UInt16) : Int :=
  if value &&& 0x8000 ≠ 0 then -((value &&& 0x7fff).toNat : Int) else value.toNat

variable (serde : Serde)

def rawStartMotor (id : UInt8) (speed : UInt16) (acceleration : UInt8) (direction : Direction) :
    Bridge ServerMessage := do
  writeRegister id stsMode [1]
  writeRegister id stsTorqueEnable [1]
  let signedSpeed := match direction with
    | .clockwise => speed
    | .counterclockwise => speed ||| 0x8000
  writeRegister id stsAcceleration ([acceleration, 0, 0, 0, 0] ++ toLeBytes signedSpeed)
  pure (.complete "motor_started")

/-- The parameters of `motor.start`; the map of `json!` keeps its keys sorted. -/
def startMotorParams (id : UInt8) (speed : UInt16) (acceleration : UInt8) (direction : Direction) :
    Json.Value := .object [
  ("acceleration", .number acceleration.toNat),
  ("direction", .string (match direction with
    | .clockwise => "clockwise"
    | .counterclockwise => "counterclockwise")),
  ("id", .number id.toNat),
  ("speed", .number speed.toNat)]

def startMotor (id : UInt8) (speed : UInt16) (acceleration : UInt8) (direction : Direction) :
    Bridge ServerMessage := do
  validateId id
  if speed > 4095 then throw "Motor speed must be between 0 and 4095"
  else if ← isController then
    let result ← controllerRequest serde "motor.start"
      (startMotorParams id speed acceleration direction)
    expectControllerAccepted result
    pure (.complete "motor_started")
  else rawStartMotor id speed acceleration direction

def rawStopMotor (id : UInt8) : Bridge ServerMessage := do
  writeRegister id stsAcceleration (List.replicate 7 0)
  pure (.complete "motor_stopped")

def servoIdParams (id : UInt8) : Json.Value := .object [("id", .number id.toNat)]

def stopMotor (id : UInt8) : Bridge ServerMessage := do
  validateId id
  if ← isController then
    let result ← controllerRequest serde "motor.stop" (servoIdParams id)
    expectControllerAccepted result
    pure (.complete "motor_stopped")
  else rawStopMotor id

def rawMovePosition (id : UInt8) (position : UInt16) (acceleration : UInt8) (torqueLimit : UInt16) :
    Bridge ServerMessage := do
  writeRegister id stsTorqueEnable [1]
  writeRegister id stsTorqueLimit (toLeBytes torqueLimit)
  writeRegister id stsAcceleration (acceleration :: toLeBytes position ++ [0, 0, 0, 0])
  pure (.complete "position_commanded")

def movePositionParams (id : UInt8) (position : UInt16) (acceleration : UInt8)
    (torqueLimit : UInt16) : Json.Value := .object [
  ("acceleration", .number acceleration.toNat),
  ("id", .number id.toNat),
  ("position", .number position.toNat),
  ("torqueLimit", .number torqueLimit.toNat)]

def movePosition (id : UInt8) (position : UInt16) (acceleration : UInt8) (torqueLimit : UInt16) :
    Bridge ServerMessage := do
  validateId id
  if position > 4095 then throw "Position must be between 0 and 4095"
  else if torqueLimit > 1000 then throw "Torque limit must be between 0 and 1000"
  else if ← isController then
    let result ← controllerRequest serde "servo.setPosition"
      (movePositionParams id position acceleration torqueLimit)
    expectControllerAccepted result
    pure (.complete "position_commanded")
  else rawMovePosition id position acceleration torqueLimit

def rawReadPosition (id : UInt8) : Bridge Int := do
  let bytes ← readRegister id stsPresentPosition 2
  pure (decodeSigned15 (fromLeBytes (bytes.getD 0 0) (bytes.getD 1 0)))

def readPosition (id : UInt8) : Bridge Int := do
  validateId id
  if ← isController then
    let response ← controllerRequest serde "servo.getPosition" (servoIdParams id)
    match serde.position response with
    | .error error => throw ("MCU returned an invalid position result: " ++ error)
    | .ok position =>
      if position.id ≠ id then
        let other := position.id
        throw s!"MCU returned a position for servo {other}, but servo {id} was requested"
      else pure position.position
  else rawReadPosition id

/-- The loop of `read_positions`: an error that leaves the connection usable is
noted and the next servo is read. -/
def readPositionsFrom : List UInt8 → List Position → List String → Bridge ServerMessage
  | [], positions, errors => pure (.positions positions errors)
  | id :: ids, positions, errors => ExceptT.mk do
    let outcome ← (readPosition serde id).run
    match outcome with
    | .ok position => (readPositionsFrom ids (positions ++ [⟨id, position⟩]) errors).run
    | .error error =>
      if connectionIsUsableAfter error then
        (readPositionsFrom ids positions (errors ++ [s!"Servo {id}: {error}"])).run
      else pure (.error error)

def readPositions (ids : List UInt8) : Bridge ServerMessage :=
  if ids.length > 6 then throw "At most six position servos can be read at once"
  else readPositionsFrom serde ids [] []

def firstInvalidScanId (startId endId : UInt8) (ids : List UInt8) : Option UInt8 :=
  ids.find? fun id => id < startId || id > endId || !isUnicastServoId id

def scanServos (startId endId : UInt8) : Bridge ServerMessage := do
  validateScanRange startId endId
  if ← isController then
    let response ← controllerRequestWithTimeout serde "servo.scan"
      (.object [("endId", .number endId.toNat), ("startId", .number startId.toNat)])
      servoScanTimeoutMs
    match serde.scan response with
    | .error error => throw ("MCU returned an invalid servo-scan result: " ++ error)
    | .ok ids =>
      match firstInvalidScanId startId endId ids with
      | some id => throw s!"MCU returned an invalid scanned servo ID {id}"
      | none => pure (.servoScan startId endId ids)
  else
    throw ("Servo search is available only in JSON-RPC controller mode, " ++
      "not through the raw debug tunnel")

/-- What `handle_request` does with a message once it has a connection. -/
def serveMessage : ServoMessage → Bridge ServerMessage
  | .startMotor id speed acceleration direction => startMotor serde id speed acceleration direction
  | .stopMotor id => stopMotor serde id
  | .movePosition id position acceleration torqueLimit =>
    movePosition serde id position acceleration torqueLimit
  | .readPosition id => do
    let position ← readPosition serde id
    pure (.position id position)
  | .readPositions ids => readPositions serde ids
  | .scanServos startId endId => scanServos serde startId endId

end Fetchline.Host
