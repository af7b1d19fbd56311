import Mathlib.Data.UInt
import Fetchline.Library.Json
import Fetchline.Library.Text

/-! # The host configuration

What the host serves to every browser and keeps in one file. The text of the
file is written out here; reading it back is the business of an external crate,
so the reader is a parameter.
-/

namespace Fetchline.Host

def stsBroadcastId : UInt8 := 0xfe
def maxServoId : UInt8 := stsBroadcastId - 1

def isUnicastServoId (id : UInt8) : Bool := id ≠ 0 && id ≤ maxServoId

structure EndpointConfig where
  host : String
  port : UInt16
deriving DecidableEq

structure MotorConfig where
  id : UInt8
  enabled : Bool
  speedPercent : UInt8
  acceleration : UInt8
deriving DecidableEq

structure JointConfig where
  id : UInt8
  enabled : Bool
  acceleration : UInt8
  torquePercent : UInt8
deriving DecidableEq

structure HostConfig where
  endpoint : EndpointConfig
  motor : MotorConfig
  joints : List JointConfig
deriving DecidableEq

namespace HostConfig

def default : HostConfig where
  endpoint := { host := "192.168.1.123", port := 3333 }
  motor := { id := 1, enabled := true, speedPercent := 25, acceleration := 20 }
  joints := [2, 3, 4, 5, 6, 7].map fun id =>
    { id, enabled := true, acceleration := 20, torquePercent := 100 }

def toJson (config : HostConfig) : Json.Value :=
  .object [
    ("endpoint", .object [
      ("host", .string config.endpoint.host),
      ("port", .number config.endpoint.port.toNat)]),
    ("motor", .object [
      ("id", .number config.motor.id.toNat),
      ("enabled", .bool config.motor.enabled),
      ("speedPercent", .number config.motor.speedPercent.toNat),
      ("acceleration", .number config.motor.acceleration.toNat)]),
    ("joints", .array (config.joints.map fun joint => .object [
      ("id", .number joint.id.toNat),
      ("enabled", .bool joint.enabled),
      ("acceleration", .number joint.acceleration.toNat),
      ("torquePercent", .number joint.torquePercent.toNat)]))]

def toVecPretty (config : HostConfig) : ByteArray := config.toJson.pretty.toUTF8

end HostConfig

def validateJoints : List JointConfig → Except String Unit
  | [] => .ok ()
  | joint :: joints =>
    if !isUnicastServoId joint.id then .error "servo IDs must be between 1 and 253"
    else if 100 < joint.torquePercent then
      .error "holding torque percentage must be between 0 and 100"
    else validateJoints joints

def validateHostConfig (config : HostConfig) : Except String Unit :=
  if Text.trim config.endpoint.host = "" ∨ config.endpoint.port = 0 then
    .error "MCU host and TCP port are required"
  else if !isUnicastServoId config.motor.id then .error "motor ID must be between 1 and 253"
  else if 100 < config.motor.speedPercent then
    .error "motor speed percentage must be between 0 and 100"
  else if config.joints.length ≠ 6 then
    .error "exactly six position servo configurations are required"
  else validateJoints config.joints

/-- What the body of an update becomes before it is checked. -/
def HostConfig.trimmed (config : HostConfig) : HostConfig :=
  { config with endpoint.host := Text.trim config.endpoint.host }

/-- The configuration of an update whose body has passed the checks. -/
structure Admitted (body : HostConfig) where
  config : HostConfig
  trimmed : config = body.trimmed
  valid : validateHostConfig config = .ok ()
deriving DecidableEq

def admitBody (body : HostConfig) : Except String (Admitted body) :=
  match h : validateHostConfig body.trimmed with
  | .ok _ => .ok { config := body.trimmed, trimmed := rfl, valid := h }
  | .error error => .error error

theorem admitBody_admitted {body : HostConfig} (admitted : Admitted body) :
    admitBody body = .ok admitted := by
  obtain ⟨config, rfl, hValid⟩ := admitted
  unfold admitBody
  split
  · rfl
  · rename_i error hError
    exact absurd (hError.symm.trans hValid) nofun

/-- A file that is absent, not UTF-8, unreadable or invalid counts for the defaults. -/
def loadHostConfig (fromStr : String → Option HostConfig) (stored : Option ByteArray) :
    HostConfig :=
  match stored.bind String.fromUTF8? with
  | none => .default
  | some contents =>
    match fromStr contents with
    | none => .default
    | some config =>
      match validateHostConfig config with
      | .ok _ => config
      | .error _ => .default

theorem fromUTF8?_toUTF8 (s : String) : String.fromUTF8? s.toUTF8 = some s := by
  have hValid : s.toUTF8.IsValidUTF8 := s.isValidUTF8
  simp only [String.fromUTF8?, dif_pos hValid]
  rfl

variable {fromStr : String → Option HostConfig}

theorem validateHostConfig_default : validateHostConfig .default = .ok () := by decide +kernel

theorem loadHostConfig_valid (stored : Option ByteArray) :
    validateHostConfig (loadHostConfig fromStr stored) = .ok () := by
  unfold loadHostConfig
  split
  · exact validateHostConfig_default
  · split
    · exact validateHostConfig_default
    · split
      · assumption
      · exact validateHostConfig_default

theorem loadHostConfig_stored {body : HostConfig} (admitted : Admitted body)
    (hRead : fromStr admitted.config.toJson.pretty = some admitted.config) :
    loadHostConfig fromStr (some admitted.config.toVecPretty) = admitted.config := by
  simp only [loadHostConfig, HostConfig.toVecPretty, Option.bind_some, fromUTF8?_toUTF8, hRead,
    admitted.valid]

end Fetchline.Host
