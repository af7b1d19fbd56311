import Fetchline.Browser.Joints
import Fetchline.Host.Config

/-!
# The settings on the browser page

The page puts what it loads from the host into its own ranges, and sends all of its settings
back whenever one of them changes.
-/

namespace Fetchline.Browser

open Host

structure Motor where
  id : Int
  enabled : Bool
  speedPercent : Int
  acceleration : Int
deriving DecidableEq

/-- `config`. -/
structure Settings where
  host : String
  port : Int
  motor : Motor
  joints : JointIndex → Joint

namespace Settings

def defaults : Settings where
  host := "192.168.1.123"
  port := 3333
  motor := { id := 1, enabled := true, speedPercent := 25, acceleration := 20 }
  joints index := { id := index.val + 2, enabled := true, acceleration := 20, torquePercent := 100 }

/-- `value?.name`. -/
def property (value : Option Json.Value) (name : String) : Option Json.Value :=
  value.bind fun v => v.get name

/-- `value?.[index]`. -/
def element (value : Option Json.Value) (index : Nat) : Option Json.Value :=
  match value with
  | some (.array items) => items[index]?
  | _ => property value (toString index)

/-- `value !== false`. -/
def notFalse : Option Json.Value → Bool
  | some (.bool false) => false
  | _ => true

/-- `number` is JavaScript's `Number`, rounded, where it is finite. -/
def normalizeMotor (number : Option Json.Value → Option Int) (motor : Option Json.Value) : Motor where
  id := clampNumber (number (property motor "id")) 1 253 defaults.motor.id
  enabled := notFalse (property motor "enabled")
  speedPercent := clampNumber (number (property motor "speedPercent")) 0 100
    defaults.motor.speedPercent
  acceleration := clampNumber (number (property motor "acceleration")) 0 254
    defaults.motor.acceleration

/-- The holding torque has no fallback: without a number it stays undefined, `none` here. -/
def normalizeJoint (number : Option Json.Value → Option Int) (index : JointIndex)
    (joint : Option Json.Value) : Option Joint :=
  (number (property joint "torquePercent")).map fun torquePercent =>
    { id := clampNumber (number (property joint "id")) 1 253 (index.val + 2)
      enabled := notFalse (property joint "enabled")
      acceleration := clampNumber (number (property joint "acceleration")) 0 254 20
      torquePercent := min 100 (max 0 torquePercent) }

def normalizeJoints (number : Option Json.Value → Option Int) (joints : Option Json.Value) :
    Option (JointIndex → Joint) :=
  if h : ∀ index : JointIndex, (normalizeJoint number index (element joints index.val)).isSome then
    some fun index => (normalizeJoint number index (element joints index.val)).get (h index)
  else none

def normalizeConfig (number : Option Json.Value → Option Int) (stored : Json.Value) :
    Option Settings := do
  let endpoint := stored.get "endpoint"
  let joints ← normalizeJoints number (stored.get "joints")
  some {
    host := ((property endpoint "host").bind Json.Value.asString).getD defaults.host
    port := clampNumber (number (property endpoint "port")) 1 65535 defaults.port
    motor := normalizeMotor number (stored.get "motor")
    joints }

theorem normalizeJoints_of {number : Option Json.Value → Option Int} {joints : Option Json.Value}
    {joint : JointIndex → Joint}
    (h : ∀ index, normalizeJoint number index (element joints index.val) = some (joint index)) :
    normalizeJoints number joints = some joint := by
  rw [normalizeJoints, dif_pos fun index => by rw [h]; rfl]
  exact congrArg some (funext fun index => Option.get_of_eq_some _ (h index))

/-- What `JSON.stringify` writes out. -/
def toJson (settings : Settings) : Json.Value :=
  .object [
    ("endpoint", .object [
      ("host", .string settings.host),
      ("port", .number settings.port)]),
    ("motor", .object [
      ("id", .number settings.motor.id),
      ("enabled", .bool settings.motor.enabled),
      ("speedPercent", .number settings.motor.speedPercent),
      ("acceleration", .number settings.motor.acceleration)]),
    ("joints", .array ((List.finRange 6).map fun index => .object [
      ("id", .number (settings.joints index).id),
      ("enabled", .bool (settings.joints index).enabled),
      ("acceleration", .number (settings.joints index).acceleration),
      ("torquePercent", .number (settings.joints index).torquePercent)]))]

end Settings

structure Joint.InRange (joint : Joint) : Prop where
  id : 1 ≤ joint.id ∧ joint.id ≤ 253
  acceleration : 0 ≤ joint.acceleration ∧ joint.acceleration ≤ 254
  torquePercent : 0 ≤ joint.torquePercent ∧ joint.torquePercent ≤ 100

structure Motor.InRange (motor : Motor) : Prop where
  id : 1 ≤ motor.id ∧ motor.id ≤ 253
  speedPercent : 0 ≤ motor.speedPercent ∧ motor.speedPercent ≤ 100
  acceleration : 0 ≤ motor.acceleration ∧ motor.acceleration ≤ 254

structure Settings.InRange (settings : Settings) : Prop where
  port : 1 ≤ settings.port ∧ settings.port ≤ 65535
  motor : settings.motor.InRange
  joints : ∀ index, (settings.joints index).InRange

def Joint.toHost (joint : Joint) : JointConfig where
  id := UInt8.ofNat joint.id.toNat
  enabled := joint.enabled
  acceleration := UInt8.ofNat joint.acceleration.toNat
  torquePercent := UInt8.ofNat joint.torquePercent.toNat

def Motor.toHost (motor : Motor) : MotorConfig where
  id := UInt8.ofNat motor.id.toNat
  enabled := motor.enabled
  speedPercent := UInt8.ofNat motor.speedPercent.toNat
  acceleration := UInt8.ofNat motor.acceleration.toNat

def Settings.toHost (settings : Settings) : HostConfig where
  endpoint := { host := settings.host, port := UInt16.ofNat settings.port.toNat }
  motor := settings.motor.toHost
  joints := (List.finRange 6).map fun index => (settings.joints index).toHost

theorem byte_back {n : Int} (hLow : 0 ≤ n) (hHigh : n < 256) :
    ((UInt8.ofNat n.toNat).toNat : Int) = n := by
  rw [UInt8.toNat_ofNat_of_lt' (by change n.toNat < 256; omega)]
  omega

/-- The page writes its settings as the host would write them. -/
theorem Settings.InRange.toJson_eq {settings : Settings} (h : settings.InRange) :
    settings.toJson = settings.toHost.toJson := by
  have hPort : ((UInt16.ofNat settings.port.toNat).toNat : Int) = settings.port := by
    obtain ⟨hLow, hHigh⟩ := h.port
    rw [UInt16.toNat_ofNat_of_lt' (by change settings.port.toNat < 65536; omega)]
    omega
  obtain ⟨hId, hSpeed, hAcceleration⟩ := h.motor
  have hJoint (index : JointIndex) :
      ((settings.joints index).toHost.id.toNat : Int) = (settings.joints index).id ∧
      ((settings.joints index).toHost.acceleration.toNat : Int) =
        (settings.joints index).acceleration ∧
      ((settings.joints index).toHost.torquePercent.toNat : Int) =
        (settings.joints index).torquePercent := by
    obtain ⟨hId, hAcceleration, hTorque⟩ := h.joints index
    exact ⟨byte_back (by omega) (by omega), byte_back (by omega) (by omega),
      byte_back (by omega) (by omega)⟩
  have hJoints : (List.finRange 6).map (fun index => Json.Value.object [
        ("id", .number (settings.joints index).id),
        ("enabled", .bool (settings.joints index).enabled),
        ("acceleration", .number (settings.joints index).acceleration),
        ("torquePercent", .number (settings.joints index).torquePercent)]) =
      (settings.toHost.joints.map fun joint => Json.Value.object [
        ("id", .number joint.id.toNat), ("enabled", .bool joint.enabled),
        ("acceleration", .number joint.acceleration.toNat),
        ("torquePercent", .number joint.torquePercent.toNat)]) := by
    rw [Settings.toHost, List.map_map]
    refine List.map_congr_left fun index _ => ?_
    obtain ⟨hId, hAcceleration, hTorque⟩ := hJoint index
    simp only [Function.comp_apply, hId, hAcceleration, hTorque]
    rfl
  rw [Settings.toJson, HostConfig.toJson, hJoints]
  simp only [Settings.toHost, Motor.toHost, hPort, byte_back (by omega : 0 ≤ settings.motor.id)
    (by omega), byte_back hSpeed.1 (by omega), byte_back hAcceleration.1 (by omega)]

/-- The host writes no two configurations alike. -/
theorem HostConfig.toJson_inj {config config' : HostConfig} (h : config.toJson = config'.toJson) :
    config = config' := by
  obtain ⟨⟨host, port⟩, ⟨id, enabled, speedPercent, acceleration⟩, joints⟩ := config
  obtain ⟨⟨host', port'⟩, ⟨id', enabled', speedPercent', acceleration'⟩, joints'⟩ := config'
  simp only [HostConfig.toJson, Json.Value.object.injEq, Json.Value.array.injEq,
    Json.Value.string.injEq, Json.Value.number.injEq, Json.Value.bool.injEq, List.cons.injEq,
    Prod.mk.injEq, true_and, and_true, Int.natCast_inj, UInt8.toNat_inj, UInt16.toNat_inj] at h
  obtain ⟨⟨rfl, rfl⟩, ⟨rfl, rfl, rfl, rfl⟩, hJoints⟩ := h
  have hInjective : Function.Injective fun joint : JointConfig => Json.Value.object [
      ("id", .number joint.id.toNat), ("enabled", .bool joint.enabled),
      ("acceleration", .number joint.acceleration.toNat),
      ("torquePercent", .number joint.torquePercent.toNat)] := by
    rintro ⟨id, enabled, acceleration, torquePercent⟩ ⟨id', enabled', acceleration', torquePercent'⟩
    simp only [Json.Value.object.injEq, Json.Value.number.injEq, Json.Value.bool.injEq,
      List.cons.injEq, Prod.mk.injEq, true_and, and_true, Int.natCast_inj, UInt8.toNat_inj]
    rintro ⟨rfl, rfl, rfl, rfl⟩
    rfl
  rw [List.map_injective_iff.mpr hInjective hJoints]

theorem isUnicastServoId_iff (id : UInt8) :
    Host.isUnicastServoId id = true ↔ 1 ≤ id.toNat ∧ id.toNat ≤ 253 := by
  rw [Host.isUnicastServoId, Bool.and_eq_true, decide_eq_true_eq, decide_eq_true_eq, ne_eq,
    ← UInt8.toNat_inj, UInt8.le_iff_toNat_le]
  change id.toNat ≠ 0 ∧ id.toNat ≤ 253 ↔ _
  omega

theorem validateJoints_iff (joints : List JointConfig) :
    validateJoints joints = .ok () ↔ ∀ joint ∈ joints,
      (1 ≤ joint.id.toNat ∧ joint.id.toNat ≤ 253) ∧ joint.torquePercent.toNat ≤ 100 := by
  induction joints with
  | nil => simp [validateJoints]
  | cons joint joints ih =>
    rw [List.forall_mem_cons, ← ih, validateJoints, ← isUnicastServoId_iff]
    cases hId : Host.isUnicastServoId joint.id with
    | false => simp
    | true =>
      by_cases hTorque : 100 < joint.torquePercent
      · have hNot : ¬ joint.torquePercent.toNat ≤ 100 := by
          rw [UInt8.lt_iff_toNat_lt] at hTorque
          exact Nat.not_le.mpr hTorque
        simp [hTorque, hNot]
      · have hTorque' : joint.torquePercent.toNat ≤ 100 := by
          rw [UInt8.lt_iff_toNat_lt] at hTorque
          exact Nat.not_lt.mp hTorque
        simp [hTorque, hTorque']

structure ValidConfig (config : HostConfig) : Prop where
  host : Text.trim config.endpoint.host ≠ ""
  port : config.endpoint.port ≠ 0
  motorId : 1 ≤ config.motor.id.toNat ∧ config.motor.id.toNat ≤ 253
  speedPercent : config.motor.speedPercent.toNat ≤ 100
  six : config.joints.length = 6
  joints : ∀ joint ∈ config.joints,
    (1 ≤ joint.id.toNat ∧ joint.id.toNat ≤ 253) ∧ joint.torquePercent.toNat ≤ 100

theorem validateHostConfig_iff (config : HostConfig) :
    validateHostConfig config = .ok () ↔ ValidConfig config := by
  have hSpeed : (100 : UInt8) < config.motor.speedPercent ↔
      ¬ config.motor.speedPercent.toNat ≤ 100 := by
    rw [UInt8.lt_iff_toNat_lt]
    exact Nat.not_le.symm
  constructor
  · intro h
    rw [validateHostConfig] at h
    split at h
    · cases h
    rename_i hEndpoint
    split at h
    · cases h
    rename_i hMotor
    split at h
    · cases h
    rename_i hLow
    split at h
    · cases h
    rename_i hSix
    rw [not_or] at hEndpoint
    rw [Bool.not_eq_true', Bool.not_eq_false, isUnicastServoId_iff] at hMotor
    rw [hSpeed, not_not] at hLow
    exact ⟨hEndpoint.1, hEndpoint.2, hMotor, hLow, not_not.mp hSix, (validateJoints_iff _).mp h⟩
  · rintro ⟨hHost, hPort, hMotor, hLow, hSix, hJoints⟩
    rw [validateHostConfig, if_neg (not_or.mpr ⟨hHost, hPort⟩), if_neg, if_neg, if_neg]
    · exact (validateJoints_iff _).mpr hJoints
    · exact not_not_intro hSix
    · exact fun h => hSpeed.mp h hLow
    · rw [(isUnicastServoId_iff _).mpr hMotor]
      decide

theorem Settings.InRange.valid {settings : Settings} (h : settings.InRange)
    (hHost : Text.trim settings.host ≠ "") : ValidConfig settings.toHost.trimmed := by
  have hByte {n : Int} (hLow : 0 ≤ n) (hHigh : n < 256) : (UInt8.ofNat n.toNat).toNat = n.toNat :=
    UInt8.toNat_ofNat_of_lt' (by change n.toNat < 256; omega)
  refine ⟨?_, ?_, ?_, ?_, ?_, ?_⟩
  · change Text.trim (Text.trim settings.host) ≠ ""
    rwa [Text.trim_trim]
  · intro hZero
    obtain ⟨hLow, hHigh⟩ := h.port
    have hPort : (UInt16.ofNat settings.port.toNat).toNat = settings.port.toNat :=
      UInt16.toNat_ofNat_of_lt' (by change settings.port.toNat < 65536; omega)
    rw [show UInt16.ofNat settings.port.toNat = 0 from hZero] at hPort
    change 0 = _ at hPort
    omega
  · obtain ⟨hLow, hHigh⟩ := h.motor.id
    change 1 ≤ (UInt8.ofNat settings.motor.id.toNat).toNat ∧
      (UInt8.ofNat settings.motor.id.toNat).toNat ≤ 253
    rw [hByte (by omega) (by omega)]
    omega
  · obtain ⟨hLow, hHigh⟩ := h.motor.speedPercent
    change (UInt8.ofNat settings.motor.speedPercent.toNat).toNat ≤ 100
    rw [hByte (by omega) (by omega)]
    omega
  · change ((List.finRange 6).map _).length = 6
    rw [List.length_map, List.length_finRange]
  · intro joint hMem
    obtain ⟨index, -, rfl⟩ := List.mem_map.mp hMem
    obtain ⟨⟨hLow, hHigh⟩, -, hNone, hFull⟩ := h.joints index
    change (1 ≤ (UInt8.ofNat (settings.joints index).id.toNat).toNat ∧
      (UInt8.ofNat (settings.joints index).id.toNat).toNat ≤ 253) ∧
      (UInt8.ofNat (settings.joints index).torquePercent.toNat).toNat ≤ 100
    rw [hByte (by omega) (by omega), hByte (by omega) (by omega)]
    omega

/-- `Number` leaves the whole numbers up to the largest port as they are. -/
def ReadsWholeNumbers (number : Option Json.Value → Option Int) : Prop :=
  ∀ n : Int, 0 ≤ n → n ≤ 65535 → number (some (.number n)) = some n

theorem ReadsWholeNumbers.byte {number : Option Json.Value → Option Int}
    (h : ReadsWholeNumbers number) (n : UInt8) :
    number (some (.number n.toNat)) = some (n.toNat : Int) := by
  have hByte : n.toNat < 256 := n.toNat_lt
  exact h n.toNat (by omega) (by omega)

/-- The page knows accelerations up to 254. -/
def capped (acceleration : UInt8) : UInt8 := if acceleration ≤ 254 then acceleration else 254

def JointConfig.capped (joint : JointConfig) : JointConfig :=
  { joint with acceleration := Browser.capped joint.acceleration }

def MotorConfig.capped (motor : MotorConfig) : MotorConfig :=
  { motor with acceleration := Browser.capped motor.acceleration }

def HostConfig.capped (config : HostConfig) : HostConfig :=
  { config with
    motor := MotorConfig.capped config.motor
    joints := config.joints.map JointConfig.capped }

def Joint.ofHost (joint : JointConfig) : Joint where
  id := joint.id.toNat
  enabled := joint.enabled
  acceleration := min 254 joint.acceleration.toNat
  torquePercent := joint.torquePercent.toNat

def Motor.ofHost (motor : MotorConfig) : Motor where
  id := motor.id.toNat
  enabled := motor.enabled
  speedPercent := motor.speedPercent.toNat
  acceleration := min 254 motor.acceleration.toNat

theorem clampNumber_within {value minimum maximum : Int} (fallback : Int) (hLow : minimum ≤ value)
    (hHigh : value ≤ maximum) : clampNumber (some value) minimum maximum fallback = value := by
  rw [clampNumber, max_eq_right hLow, min_eq_right hHigh]

section Loading

variable {number : Option Json.Value → Option Int}
variable (hNumber : ReadsWholeNumbers number)

include hNumber

theorem normalizeMotor_host {motor : MotorConfig}
    (hId : 1 ≤ motor.id.toNat ∧ motor.id.toNat ≤ 253) (hSpeed : motor.speedPercent.toNat ≤ 100) :
    Settings.normalizeMotor number (some (.object [
      ("id", .number motor.id.toNat), ("enabled", .bool motor.enabled),
      ("speedPercent", .number motor.speedPercent.toNat),
      ("acceleration", .number motor.acceleration.toNat)])) = Motor.ofHost motor := by
  have hEnabled : Settings.notFalse (some (.bool motor.enabled)) = motor.enabled := by
    cases motor.enabled <;> rfl
  simp only [Settings.normalizeMotor, Settings.property, Json.Value.get, Option.bind_some,
    List.lookup_cons, String.reduceBEq, hNumber.byte, hEnabled]
  rw [clampNumber_within _ (by omega) (by omega), clampNumber_within _ (by omega) (by omega),
    clampNumber, max_eq_right (by omega)]
  rfl

theorem normalizeJoint_host {joint : JointConfig}
    (hId : 1 ≤ joint.id.toNat ∧ joint.id.toNat ≤ 253) (hTorque : joint.torquePercent.toNat ≤ 100)
    (index : JointIndex) :
    Settings.normalizeJoint number index (some (.object [
      ("id", .number joint.id.toNat), ("enabled", .bool joint.enabled),
      ("acceleration", .number joint.acceleration.toNat),
      ("torquePercent", .number joint.torquePercent.toNat)])) = some (Joint.ofHost joint) := by
  have hEnabled : Settings.notFalse (some (.bool joint.enabled)) = joint.enabled := by
    cases joint.enabled <;> rfl
  simp only [Settings.normalizeJoint, Settings.property, Json.Value.get, Option.bind_some,
    List.lookup_cons, String.reduceBEq, hNumber.byte, hEnabled, Option.map_some]
  rw [clampNumber_within _ (by omega) (by omega), clampNumber, max_eq_right (by omega),
    max_eq_right (by omega), min_eq_right (a := 100) (by omega)]
  rfl

omit hNumber in
theorem Motor.ofHost_inRange {motor : MotorConfig}
    (hId : 1 ≤ motor.id.toNat ∧ motor.id.toNat ≤ 253) (hSpeed : motor.speedPercent.toNat ≤ 100) :
    (Motor.ofHost motor).InRange := by
  refine ⟨?_, ?_, ?_⟩ <;> simp only [Motor.ofHost] <;> omega

omit hNumber in
theorem Joint.ofHost_inRange {joint : JointConfig}
    (hId : 1 ≤ joint.id.toNat ∧ joint.id.toNat ≤ 253) (hTorque : joint.torquePercent.toNat ≤ 100) :
    (Joint.ofHost joint).InRange := by
  refine ⟨?_, ?_, ?_⟩ <;> simp only [Joint.ofHost] <;> omega

omit hNumber in
theorem byte_capped (acceleration : UInt8) :
    UInt8.ofNat (min 254 (acceleration.toNat : Int)).toNat = capped acceleration := by
  have hNat : acceleration ≤ 254 ↔ acceleration.toNat ≤ 254 := UInt8.le_iff_toNat_le
  rw [capped]
  split
  · rename_i hKept
    have hLow := hNat.mp hKept
    rw [min_eq_right (by omega), Int.toNat_natCast, UInt8.ofNat_toNat]
  · rename_i hCut
    have hHigh := hNat.not.mp hCut
    rw [min_eq_left (by omega)]
    rfl

omit hNumber in
theorem Motor.toHost_ofHost (motor : MotorConfig) :
    (Motor.ofHost motor).toHost = MotorConfig.capped motor := by
  simp only [Motor.ofHost, Motor.toHost, Int.toNat_natCast, UInt8.ofNat_toNat, byte_capped,
    MotorConfig.capped]

omit hNumber in
theorem Joint.toHost_ofHost (joint : JointConfig) :
    (Joint.ofHost joint).toHost = JointConfig.capped joint := by
  simp only [Joint.ofHost, Joint.toHost, Int.toNat_natCast, UInt8.ofNat_toNat, byte_capped,
    JointConfig.capped]

theorem normalizeConfig_host {config : HostConfig} (h : ValidConfig config) :
    ∃ settings, Settings.normalizeConfig number config.toJson = some settings ∧
      settings.InRange ∧ settings.toHost = HostConfig.capped config := by
  have hIndex (index : JointIndex) : index.val < config.joints.length := by
    rw [h.six]
    exact index.isLt
  let joint (index : JointIndex) := config.joints.get ⟨index.val, hIndex index⟩
  have hJoint (index : JointIndex) := h.joints (joint index) (List.get_mem _ _)
  have hLoaded (index : JointIndex) : Settings.normalizeJoint number index
      (Settings.element (config.toJson.get "joints") index.val) =
        some (Joint.ofHost (joint index)) := by
    rw [← normalizeJoint_host hNumber (hJoint index).1 (hJoint index).2 index]
    apply congrArg _
    change (config.joints.map fun joint => Json.Value.object [
      ("id", .number joint.id.toNat), ("enabled", .bool joint.enabled),
      ("acceleration", .number joint.acceleration.toNat),
      ("torquePercent", .number joint.torquePercent.toNat)])[index.val]? = _
    rw [List.getElem?_map, List.getElem?_eq_getElem (hIndex index)]
    rfl
  have hLow : (1 : Int) ≤ config.endpoint.port.toNat := by
    have hZero : config.endpoint.port.toNat ≠ 0 := fun hZero => h.port (UInt16.toNat_inj.mp hZero)
    omega
  have hHigh : (config.endpoint.port.toNat : Int) ≤ 65535 := by
    have hLess : config.endpoint.port.toNat < 65536 := config.endpoint.port.toNat_lt
    omega
  refine ⟨⟨config.endpoint.host, config.endpoint.port.toNat, Motor.ofHost config.motor,
    fun index => Joint.ofHost (joint index)⟩, ?_, ?_, ?_⟩
  · have hPort : Settings.property (config.toJson.get "endpoint") "port" =
        some (.number config.endpoint.port.toNat) := rfl
    rw [Settings.normalizeConfig, Settings.normalizeJoints_of hLoaded]
    simp only [hPort, hNumber _ (by omega : 0 ≤ (config.endpoint.port.toNat : Int)) hHigh]
    rw [clampNumber_within _ hLow hHigh]
    apply congrArg some
    rw [← normalizeMotor_host hNumber h.motorId h.speedPercent]
    rfl
  · exact ⟨⟨hLow, hHigh⟩, Motor.ofHost_inRange h.motorId h.speedPercent,
      fun index => Joint.ofHost_inRange (hJoint index).1 (hJoint index).2⟩
  · have hJoints : ((List.finRange 6).map fun index => (Joint.ofHost (joint index)).toHost) =
        config.joints.map JointConfig.capped := by
      apply List.ext_getElem
      · rw [List.length_map, List.length_map, List.length_finRange, h.six]
      · intro index _ _
        rw [List.getElem_map, List.getElem_map, Joint.toHost_ofHost, List.getElem_finRange]
        rfl
    simp only [Settings.toHost, hJoints, Motor.toHost_ofHost, Int.toNat_natCast, UInt16.ofNat_toNat,
      HostConfig.capped]

end Loading

theorem byte_inj {m n : Int} (hm : 0 ≤ m ∧ m < 256) (hn : 0 ≤ n ∧ n < 256)
    (h : UInt8.ofNat m.toNat = UInt8.ofNat n.toNat) : m = n := by
  have hNat := congrArg UInt8.toNat h
  rw [UInt8.toNat_ofNat_of_lt' (by change m.toNat < 256; omega),
    UInt8.toNat_ofNat_of_lt' (by change n.toNat < 256; omega)] at hNat
  omega

theorem Joint.toHost_inj {joint joint' : Joint} (h : joint.InRange) (h' : joint'.InRange)
    (hHost : joint.toHost = joint'.toHost) : joint = joint' := by
  obtain ⟨id, enabled, acceleration, torquePercent⟩ := joint
  obtain ⟨id', enabled', acceleration', torquePercent'⟩ := joint'
  obtain ⟨⟨_, _⟩, ⟨_, _⟩, _, _⟩ := h
  obtain ⟨⟨_, _⟩, ⟨_, _⟩, _, _⟩ := h'
  obtain ⟨hId, hEnabled, hAcceleration, hTorque⟩ := JointConfig.mk.inj hHost
  simp only at *
  rw [byte_inj (by omega) (by omega) hId, hEnabled, byte_inj (by omega) (by omega) hAcceleration,
    byte_inj (by omega) (by omega) hTorque]

theorem Motor.toHost_inj {motor motor' : Motor} (h : motor.InRange) (h' : motor'.InRange)
    (hHost : motor.toHost = motor'.toHost) : motor = motor' := by
  obtain ⟨id, enabled, speedPercent, acceleration⟩ := motor
  obtain ⟨id', enabled', speedPercent', acceleration'⟩ := motor'
  obtain ⟨⟨_, _⟩, ⟨_, _⟩, _, _⟩ := h
  obtain ⟨⟨_, _⟩, ⟨_, _⟩, _, _⟩ := h'
  obtain ⟨hId, hEnabled, hSpeed, hAcceleration⟩ := MotorConfig.mk.inj hHost
  simp only at *
  rw [byte_inj (by omega) (by omega) hId, hEnabled, byte_inj (by omega) (by omega) hSpeed,
    byte_inj (by omega) (by omega) hAcceleration]

theorem Settings.toHost_inj {settings settings' : Settings} (h : settings.InRange)
    (h' : settings'.InRange) (hHost : settings.toHost = settings'.toHost) : settings = settings' := by
  obtain ⟨hEndpoint, hMotor, hJoints⟩ := HostConfig.mk.inj hHost
  obtain ⟨hName, hPort⟩ := EndpointConfig.mk.inj hEndpoint
  have hPorts : settings.port = settings'.port := by
    obtain ⟨_, _⟩ := h.port
    obtain ⟨_, _⟩ := h'.port
    have hNat := congrArg UInt16.toNat hPort
    rw [UInt16.toNat_ofNat_of_lt' (by change settings.port.toNat < 65536; omega),
      UInt16.toNat_ofNat_of_lt' (by change settings'.port.toNat < 65536; omega)] at hNat
    omega
  have hMotors := Motor.toHost_inj h.motor h'.motor hMotor
  have hAll : settings.joints = settings'.joints := by
    funext index
    exact Joint.toHost_inj (h.joints index) (h'.joints index)
      (List.map_inj_left.mp hJoints index (List.mem_finRange index))
  obtain ⟨host, port, motor, joints⟩ := settings
  obtain rfl : host = settings'.host := hName
  obtain rfl : port = settings'.port := hPorts
  obtain rfl : motor = settings'.motor := hMotors
  obtain rfl : joints = settings'.joints := hAll
  rfl

theorem capped_eq_iff (acceleration : UInt8) :
    capped acceleration = acceleration ↔ acceleration ≤ 254 := by
  rw [capped]
  split
  · exact iff_of_true rfl ‹_›
  · rename_i hCut
    refine iff_of_false (fun hEq => hCut ?_) hCut
    rw [← hEq]
    decide

theorem JointConfig.capped_eq_iff (joint : JointConfig) :
    JointConfig.capped joint = joint ↔ joint.acceleration ≤ 254 := by
  obtain ⟨id, enabled, acceleration, torquePercent⟩ := joint
  rw [← Browser.capped_eq_iff, JointConfig.capped, JointConfig.mk.injEq]
  simp

theorem MotorConfig.capped_eq_iff (motor : MotorConfig) :
    MotorConfig.capped motor = motor ↔ motor.acceleration ≤ 254 := by
  obtain ⟨id, enabled, speedPercent, acceleration⟩ := motor
  rw [← Browser.capped_eq_iff, MotorConfig.capped, MotorConfig.mk.injEq]
  simp

theorem HostConfig.capped_eq_iff (config : HostConfig) :
    HostConfig.capped config = config ↔
      config.motor.acceleration ≤ 254 ∧ ∀ joint ∈ config.joints, joint.acceleration ≤ 254 := by
  have hJoints : config.joints.map JointConfig.capped = config.joints ↔
      ∀ joint ∈ config.joints, joint.acceleration ≤ 254 := by
    nth_rewrite 2 [← List.map_id config.joints]
    rw [List.map_inj_left]
    exact forall₂_congr fun joint _ => JointConfig.capped_eq_iff joint
  rw [← hJoints, ← MotorConfig.capped_eq_iff]
  obtain ⟨endpoint, motor, joints⟩ := config
  rw [HostConfig.capped, HostConfig.mk.injEq]
  simp

theorem Settings.InRange.capped_toHost {settings : Settings} (h : settings.InRange) :
    HostConfig.capped settings.toHost = settings.toHost := by
  have hByte {n : Int} (hLow : 0 ≤ n) (hHigh : n ≤ 254) : UInt8.ofNat n.toNat ≤ 254 := by
    rw [UInt8.le_iff_toNat_le, UInt8.toNat_ofNat_of_lt' (by change n.toNat < 256; omega)]
    change n.toNat ≤ 254
    omega
  rw [HostConfig.capped_eq_iff]
  refine ⟨hByte h.motor.acceleration.1 h.motor.acceleration.2, fun joint hMem => ?_⟩
  obtain ⟨index, -, rfl⟩ := List.mem_map.mp hMem
  exact hByte (h.joints index).acceleration.1 (h.joints index).acceleration.2

section Saving

variable {number : Option Json.Value → Option Int}
variable (hNumber : ReadsWholeNumbers number)

include hNumber

/-- What one page saves is what another page loads. -/
theorem Settings.InRange.loadedAgain {settings : Settings} (h : settings.InRange)
    (hHost : Text.trim settings.host ≠ "") :
    Settings.normalizeConfig number settings.toHost.trimmed.toJson =
      some { settings with host := Text.trim settings.host } := by
  have hTrimmed : Settings.InRange { settings with host := Text.trim settings.host } :=
    ⟨h.port, h.motor, h.joints⟩
  obtain ⟨loaded, hLoaded, hRange, hConfig⟩ := normalizeConfig_host hNumber (h.valid hHost)
  have hSame : loaded.toHost = Settings.toHost { settings with host := Text.trim settings.host } :=
    hConfig.trans hTrimmed.capped_toHost
  rw [hLoaded, Settings.toHost_inj hRange hTrimmed hSame]

/-- A page that loads the host's configuration and saves it unchanged leaves it as it was,
unless one of its accelerations is 255, which the page lowers. -/
theorem loading_keeps_the_configuration_iff {config : HostConfig}
    (hValid : validateHostConfig config = .ok ()) :
    ∃ settings, Settings.normalizeConfig number config.toJson = some settings ∧
      settings.toJson = (HostConfig.capped config).toJson ∧
      (settings.toJson = config.toJson ↔
        config.motor.acceleration ≠ 255 ∧ ∀ joint ∈ config.joints, joint.acceleration ≠ 255) := by
  have hMax (acceleration : UInt8) : acceleration ≤ 254 ↔ acceleration ≠ 255 := by
    rw [UInt8.le_iff_toNat_le, ne_eq, ← UInt8.toNat_inj]
    have := acceleration.toNat_lt
    change acceleration.toNat ≤ 254 ↔ ¬ acceleration.toNat = 255
    omega
  obtain ⟨settings, hLoaded, hRange, hConfig⟩ :=
    normalizeConfig_host hNumber ((validateHostConfig_iff config).mp hValid)
  have hSaved : settings.toJson = (HostConfig.capped config).toJson := by
    rw [hRange.toJson_eq, hConfig]
  refine ⟨settings, hLoaded, hSaved, ?_⟩
  simp only [← hMax]
  rw [hSaved, ← HostConfig.capped_eq_iff]
  exact ⟨HostConfig.toJson_inj, congrArg HostConfig.toJson⟩

end Saving

/-- A reader of the numbers that the host writes. -/
def wholeNumber (value : Option Json.Value) : Option Int := value.bind Json.Value.asInt

theorem wholeNumber_reads : ReadsWholeNumbers wholeNumber := fun _ _ _ => rfl

theorem loading_keeps_the_configuration_iff_steep :
    ∃ settings, Settings.normalizeConfig wholeNumber
        { HostConfig.default with motor.acceleration := 255 }.toJson = some settings ∧
      settings.toJson = { HostConfig.default with motor.acceleration := 254 }.toJson ∧
      settings.toJson ≠ { HostConfig.default with motor.acceleration := 255 }.toJson := by
  have hValid : validateHostConfig { HostConfig.default with motor.acceleration := 255 } = .ok () := by
    decide +kernel
  obtain ⟨settings, hLoaded, hSaved, hKept⟩ :=
    loading_keeps_the_configuration_iff wholeNumber_reads hValid
  exact ⟨settings, hLoaded, hSaved, fun hSame => (hKept.mp hSame).1 rfl⟩

end Fetchline.Browser
