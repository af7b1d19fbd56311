import Fetchline.Browser.Reading
import Fetchline.Modes.Readers

/-!
# Readers of what a page writes

Decoders of the host's messages and of its configuration, over the reader of compact texts,
that do what is asked of the derived ones.
-/

namespace Fetchline.Browser

open Host Modes

def readHostDirection (v : Json.Value) : Option Direction :=
  match v.asString with
  | some "clockwise" => some .clockwise
  | some "counterclockwise" => some .counterclockwise
  | _ => none

def readClientMessage (v : Json.Value) : Option ClientMessage :=
  match (v.get "type").bind Json.Value.asString with
  | some "connect" => do
    let host ← (v.get "host").bind Json.Value.asString
    let port ← (v.get "port").bind readU16
    some (.connect host port)
  | some "start_motor" => do
    let id ← (v.get "id").bind readU8
    let speed ← (v.get "speed").bind readU16
    let acceleration ← (v.get "acceleration").bind readU8
    let direction ← (v.get "direction").bind readHostDirection
    some (.servo (.startMotor id speed acceleration direction))
  | some "stop_motor" => do
    let id ← (v.get "id").bind readU8
    some (.servo (.stopMotor id))
  | some "move_position" => do
    let id ← (v.get "id").bind readU8
    let position ← (v.get "position").bind readU16
    let acceleration ← (v.get "acceleration").bind readU8
    let torqueLimit ← (v.get "torque_limit").bind readU16
    some (.servo (.movePosition id position acceleration torqueLimit))
  | some "read_position" => do
    let id ← (v.get "id").bind readU8
    some (.servo (.readPosition id))
  | some "read_positions" => do
    let ids ← ((v.get "ids").bind Json.Value.asArray).bind fun items => items.mapM readU8
    some (.servo (.readPositions ids))
  | some "scan_servos" => do
    let startId ← (v.get "start_id").bind readU8
    let endId ← (v.get "end_id").bind readU8
    some (.servo (.scanServos startId endId))
  | _ => none

def clientReader (text : String) : Except String ClientMessage :=
  orInvalid ((Json.parse text).bind readClientMessage)

def readEndpointConfig (v : Json.Value) : Option EndpointConfig := do
  let host ← (v.get "host").bind Json.Value.asString
  let port ← (v.get "port").bind readU16
  some { host, port }

def readMotorConfig (v : Json.Value) : Option MotorConfig := do
  let id ← (v.get "id").bind readU8
  let enabled ← (v.get "enabled").bind Json.Value.asBool
  let speedPercent ← (v.get "speedPercent").bind readU8
  let acceleration ← (v.get "acceleration").bind readU8
  some { id, enabled, speedPercent, acceleration }

def readJointConfig (v : Json.Value) : Option JointConfig := do
  let id ← (v.get "id").bind readU8
  let enabled ← (v.get "enabled").bind Json.Value.asBool
  let acceleration ← (v.get "acceleration").bind readU8
  let torquePercent ← (v.get "torquePercent").bind readU8
  some { id, enabled, acceleration, torquePercent }

def readHostConfig (v : Json.Value) : Option HostConfig := do
  let endpoint ← (v.get "endpoint").bind readEndpointConfig
  let motor ← (v.get "motor").bind readMotorConfig
  let joints ← ((v.get "joints").bind Json.Value.asArray).bind fun items =>
    items.mapM readJointConfig
  some { endpoint, motor, joints }

def configReader (text : String) : Option HostConfig := (Json.parse text).bind readHostConfig

theorem readUnsigned_int {α : Type} {size : Nat} {ofNat : Nat → α} {n : Int} (hLow : 0 ≤ n)
    (hHigh : n < size) : readUnsigned size ofNat (.number n) = some (ofNat n.toNat) := by
  obtain ⟨m, rfl⟩ := Int.eq_ofNat_of_zero_le hLow
  rw [readUnsigned_number (Int.ofNat_lt.mp hHigh), Int.toNat_natCast]

theorem readU8_byte {n : Int} (h : IsByte n) : readU8 (.number n) = some (byte n) :=
  readUnsigned_int h.1 (Int.lt_add_one_of_le h.2)

theorem readU16_word {n : Int} (h : IsWord n) : readU16 (.number n) = some (word n) :=
  readUnsigned_int h.1 (Int.lt_add_one_of_le h.2)

theorem readU16_outside {n : Int} (h : ¬ IsWord n) : readU16 (.number n) = none := by
  refine if_neg fun hWord => h ⟨hWord.1, ?_⟩
  have hHigh : n < 65536 := hWord.2
  omega

theorem readIds_page {ids : List Int} (h : ∀ id ∈ ids, IsByte id) :
    (ids.map Json.Value.number).mapM readU8 = some (ids.map byte) := by
  induction ids with
  | nil => rfl
  | cons id ids ih =>
    obtain ⟨hId, hIds⟩ := List.forall_mem_cons.mp h
    rw [List.map_cons, List.mapM_cons, readU8_byte hId, ih hIds]
    rfl

theorem clientReader_read {message : PageMessage} {read : ClientMessage}
    (h : readClientMessage message.toJson = some read) :
    clientReader message.toJson.compact = .ok read := by
  rw [clientReader, Json.parse_compact, Option.bind_some, h]
  rfl

theorem readHostDirection_name (direction : Direction) :
    readHostDirection (.string (directionName direction)) = some direction := by
  cases direction <;> rfl

theorem clientReader_reads : ReadsMessages clientReader where
  connect host hPort := clientReader_read <| by
    simp [PageMessage.toJson, Outgoing.toJson, readClientMessage, Json.Value.get, List.lookup_cons,
      Json.Value.asString, readU16_word hPort]
  readPositions hIds := clientReader_read <| by
    simp [PageMessage.toJson, Outgoing.toJson, readClientMessage, Json.Value.get, List.lookup_cons,
      Json.Value.asString, Json.Value.asArray, readIds_page hIds]
  movePosition hId hTarget hAcceleration hLimit := clientReader_read <| by
    simp [PageMessage.toJson, Outgoing.toJson, readClientMessage, Json.Value.get, List.lookup_cons,
      Json.Value.asString, readU8_byte hId, readU16_word hTarget, readU8_byte hAcceleration,
      readU16_word hLimit]
  badPosition {id position acceleration torqueLimit} hId hPosition := by
    have hNone : readClientMessage (PageMessage.joints
        (.movePosition id position acceleration torqueLimit)).toJson = none := by
      cases position with
      | none =>
        simp [PageMessage.toJson, Outgoing.toJson, readClientMessage, Json.Value.get,
          List.lookup_cons, Json.Value.asString, readU8_byte hId]
      | some target =>
        simp [PageMessage.toJson, Outgoing.toJson, readClientMessage, Json.Value.get,
          List.lookup_cons, Json.Value.asString, readU8_byte hId,
          readU16_outside (hPosition target rfl)]
    exact ⟨_, by rw [clientReader, Json.parse_compact, Option.bind_some, hNone]; rfl⟩
  startMotor direction hId hSpeed hAcceleration := clientReader_read <| by
    simp [PageMessage.toJson, readClientMessage, Json.Value.get, List.lookup_cons,
      Json.Value.asString, readU8_byte hId, readU16_word hSpeed, readU8_byte hAcceleration,
      readHostDirection_name]
  stopMotor hId := clientReader_read <| by
    simp [PageMessage.toJson, readClientMessage, Json.Value.get, List.lookup_cons,
      Json.Value.asString, readU8_byte hId]
  scanServos hStart hEnd := clientReader_read <| by
    simp [PageMessage.toJson, readClientMessage, Json.Value.get, List.lookup_cons,
      Json.Value.asString, readU8_byte hStart, readU8_byte hEnd]

theorem readJointConfig_object (joint : JointConfig) :
    readJointConfig (.object [
      ("id", .number joint.id.toNat), ("enabled", .bool joint.enabled),
      ("acceleration", .number joint.acceleration.toNat),
      ("torquePercent", .number joint.torquePercent.toNat)]) = some joint := by
  simp [readJointConfig, Json.Value.get, List.lookup_cons, Json.Value.asBool]

theorem readMotorConfig_object (motor : MotorConfig) :
    readMotorConfig (.object [
      ("id", .number motor.id.toNat), ("enabled", .bool motor.enabled),
      ("speedPercent", .number motor.speedPercent.toNat),
      ("acceleration", .number motor.acceleration.toNat)]) = some motor := by
  simp [readMotorConfig, Json.Value.get, List.lookup_cons, Json.Value.asBool]

theorem readEndpointConfig_object (endpoint : EndpointConfig) :
    readEndpointConfig (.object [
      ("host", .string endpoint.host), ("port", .number endpoint.port.toNat)]) = some endpoint := by
  have hHost : (Json.Value.object [("host", .string endpoint.host),
      ("port", .number endpoint.port.toNat)]).get "host" = some (.string endpoint.host) := rfl
  have hPort : (Json.Value.object [("host", .string endpoint.host),
      ("port", .number endpoint.port.toNat)]).get "port" = some (.number endpoint.port.toNat) := rfl
  rw [readEndpointConfig, hHost, hPort, Option.bind_some, Option.bind_some, readU16_number]
  rfl

theorem readHostConfig_toJson (config : HostConfig) : readHostConfig config.toJson = some config := by
  have hJoints (joints : List JointConfig) :
      (joints.map fun joint => Json.Value.object [
        ("id", .number joint.id.toNat), ("enabled", .bool joint.enabled),
        ("acceleration", .number joint.acceleration.toNat),
        ("torquePercent", .number joint.torquePercent.toNat)]).mapM readJointConfig =
          some joints := by
    induction joints with
    | nil => rfl
    | cons joint joints ih =>
      rw [List.map_cons, List.mapM_cons, readJointConfig_object, ih]
      rfl
  have hEndpoint : config.toJson.get "endpoint" = some (.object [
      ("host", .string config.endpoint.host), ("port", .number config.endpoint.port.toNat)]) := rfl
  have hMotor : config.toJson.get "motor" = some (.object [
      ("id", .number config.motor.id.toNat), ("enabled", .bool config.motor.enabled),
      ("speedPercent", .number config.motor.speedPercent.toNat),
      ("acceleration", .number config.motor.acceleration.toNat)]) := rfl
  have hItems : (config.toJson.get "joints").bind Json.Value.asArray =
      some (config.joints.map fun joint => Json.Value.object [
        ("id", .number joint.id.toNat), ("enabled", .bool joint.enabled),
        ("acceleration", .number joint.acceleration.toNat),
        ("torquePercent", .number joint.torquePercent.toNat)]) := rfl
  rw [readHostConfig, hEndpoint, hMotor, hItems, Option.bind_some, Option.bind_some,
    Option.bind_some, readEndpointConfig_object, readMotorConfig_object, hJoints]
  rfl

theorem configReader_reads (config : HostConfig) : configReader config.toJson.compact = some config := by
  rw [configReader, Json.parse_compact, Option.bind_some, readHostConfig_toJson]

end Fetchline.Browser
