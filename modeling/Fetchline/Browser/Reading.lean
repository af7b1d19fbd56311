import Fetchline.Browser.Ranges

/-!
# The page's messages as the host reads them

The host's decoder of `ClientMessage` is derived by an external crate, so it is a parameter.
What is asked of it is stated on the texts that pages write.
-/

namespace Fetchline.Browser

open Host

def byte (n : Int) : UInt8 := UInt8.ofNat n.toNat

def word (n : Int) : UInt16 := UInt16.ofNat n.toNat

def IsByte (n : Int) : Prop := 0 ≤ n ∧ n ≤ 255

def IsWord (n : Int) : Prop := 0 ≤ n ∧ n ≤ 65535

instance (n : Int) : Decidable (IsWord n) := inferInstanceAs (Decidable (_ ∧ _))

theorem byte_toNat {n : Int} (hLow : 0 ≤ n) (hHigh : n < 256) : (byte n).toNat = n.toNat :=
  UInt8.toNat_ofNat_of_lt' (by change n.toNat < 256; omega)

theorem byte_unicast {n : Int} (h : 1 ≤ n ∧ n ≤ 253) : 1 ≤ (byte n).toNat ∧ (byte n).toNat ≤ 253 := by
  rw [byte_toNat (by omega) (by omega)]
  omega

theorem word_toNat {n : Int} (h : IsWord n) : (word n).toNat = n.toNat := by
  obtain ⟨hLow, hHigh⟩ := h
  exact UInt16.toNat_ofNat_of_lt' (by change n.toNat < 65536; omega)

theorem motorSpeed_inRange {percent : Int} (hLow : 0 ≤ percent) (hHigh : percent ≤ 100) :
    0 ≤ motorSpeed percent ∧ motorSpeed percent ≤ 4095 := by
  rw [motorSpeed]
  omega

theorem torqueLimit_inRange {percent : Int} (hLow : 0 ≤ percent) (hHigh : percent ≤ 100) :
    0 ≤ torqueLimit percent ∧ torqueLimit percent ≤ 1000 := by
  rw [torqueLimit]
  omega

/-- What the host takes the message for. A position below zero, or none at all, is no position
to it. -/
def PageMessage.read : PageMessage → Option ClientMessage
  | .joints (.connect host port) => some (.connect host (word port))
  | .joints (.readPositions ids) => some (.servo (.readPositions (ids.map byte)))
  | .joints (.movePosition id position acceleration torqueLimit) =>
    position.bind fun target =>
      if IsWord target then
        some (.servo (.movePosition (byte id) (word target) (byte acceleration) (word torqueLimit)))
      else none
  | .startMotor id speed acceleration direction =>
    some (.servo (.startMotor (byte id) (word speed) (byte acceleration) direction))
  | .stopMotor id => some (.servo (.stopMotor (byte id)))
  | .scanServos startId endId => some (.servo (.scanServos (byte startId) (byte endId)))

/-- Numbers that fit the types of their fields are read; a field that is missing, or a number
that does not fit, is an error. -/
structure ReadsMessages (fromStr : String → Except String ClientMessage) : Prop where
  connect : ∀ {port} host, IsWord port →
    fromStr (PageMessage.joints (.connect host port)).toJson.compact =
      .ok (.connect host (word port))
  readPositions : ∀ {ids}, (∀ id ∈ ids, IsByte id) →
    fromStr (PageMessage.joints (.readPositions ids)).toJson.compact =
      .ok (.servo (.readPositions (ids.map byte)))
  movePosition : ∀ {id target acceleration torqueLimit}, IsByte id → IsWord target →
    IsByte acceleration → IsWord torqueLimit →
    fromStr (PageMessage.joints
        (.movePosition id (some target) acceleration torqueLimit)).toJson.compact =
      .ok (.servo (.movePosition (byte id) (word target) (byte acceleration) (word torqueLimit)))
  badPosition : ∀ {id position acceleration torqueLimit}, IsByte id →
    (∀ target ∈ position, ¬ IsWord target) → ∃ error,
    fromStr (PageMessage.joints
      (.movePosition id position acceleration torqueLimit)).toJson.compact = .error error
  startMotor : ∀ {id speed acceleration} direction, IsByte id → IsWord speed →
    IsByte acceleration →
    fromStr (PageMessage.startMotor id speed acceleration direction).toJson.compact =
      .ok (.servo (.startMotor (byte id) (word speed) (byte acceleration) direction))
  stopMotor : ∀ {id}, IsByte id →
    fromStr (PageMessage.stopMotor id).toJson.compact = .ok (.servo (.stopMotor (byte id)))
  scanServos : ∀ {startId endId}, IsByte startId → IsByte endId →
    fromStr (PageMessage.scanServos startId endId).toJson.compact =
      .ok (.servo (.scanServos (byte startId) (byte endId)))

/-- The host takes the message for this, or cannot read it. -/
def IsReadAs (result : Except String ClientMessage) : Option ClientMessage → Prop
  | some message => result = .ok message
  | none => ∃ error, result = .error error

section Reading

variable {fromStr : String → Except String ClientMessage} (hReads : ReadsMessages fromStr)

include hReads

theorem movePosition_read {joint : Joint} (h : joint.InRange) (position : Option Int) :
    IsReadAs (fromStr (PageMessage.joints (.movePosition joint.id position joint.acceleration
      (torqueLimit joint.torquePercent))).toJson.compact)
    (PageMessage.read (.joints (.movePosition joint.id position joint.acceleration
      (torqueLimit joint.torquePercent)))) := by
  obtain ⟨hId, hAcceleration, hTorque⟩ := h
  have hLimit := torqueLimit_inRange hTorque.1 hTorque.2
  have hByte : IsByte joint.id := ⟨by omega, by omega⟩
  cases position with
  | none => exact hReads.badPosition hByte nofun
  | some target =>
    rw [PageMessage.read, Option.bind_some]
    by_cases hWord : IsWord target
    · rw [if_pos hWord]
      exact hReads.movePosition hByte hWord ⟨hAcceleration.1, by omega⟩ ⟨hLimit.1, by omega⟩
    · rw [if_neg hWord]
      refine hReads.badPosition hByte fun other hOther => ?_
      rwa [← Option.some.inj hOther]

theorem Ui.Sends.read {s : Ui} (h : s.InRange) {message : Outgoing} (hSends : s.Sends message) :
    IsReadAs (fromStr (PageMessage.joints message).toJson.compact)
      (PageMessage.joints message).read := by
  cases hSends with
  | connect => exact hReads.connect s.host ⟨by have := h.port; omega, h.port.2⟩
  | readPositions hSome hSix =>
    refine hReads.readPositions fun id hMem => ?_
    obtain ⟨index, -, rfl⟩ := List.mem_map.mp hMem
    have hId := (h.joints index).id
    exact ⟨by omega, by omega⟩
  | movePosition index position => exact movePosition_read hReads (h.joints index) position

theorem Page.Sends.read {s : Page} (h : s.settings.InRange) {message : PageMessage}
    (hSends : s.Sends message) : IsReadAs (fromStr message.toJson.compact) message.read := by
  obtain ⟨hUi, hMotor⟩ := inRange_settings_iff.mp h
  obtain ⟨hId, hSpeed, hAcceleration⟩ := hMotor
  cases hSends with
  | joints hSends => exact hSends.read hReads hUi
  | startMotor direction =>
    have hMotorSpeed := motorSpeed_inRange hSpeed.1 hSpeed.2
    exact hReads.startMotor direction ⟨by omega, by omega⟩ ⟨hMotorSpeed.1, by omega⟩
      ⟨hAcceleration.1, by omega⟩
  | stopMotor => exact hReads.stopMotor ⟨by omega, by omega⟩
  | scanServos hLow hOrder hHigh =>
    exact hReads.scanServos ⟨by omega, by omega⟩ ⟨by omega, by omega⟩

end Reading

end Fetchline.Browser
