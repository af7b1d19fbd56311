import Fetchline.Browser.Page

/-!
# What a page holds and sends

However it is used, a page keeps its settings within the ranges that it loads them in, and
makes its messages of them.
-/

namespace Fetchline.Browser

open Host Transition

/-- What a page can have loaded: the defaults, or what it makes of some JSON. -/
inductive Loaded (number : Option Json.Value → Option Int) : Settings → Prop where
  | defaults : Loaded number .defaults
  | config {stored : Json.Value} {settings : Settings}
    (h : Settings.normalizeConfig number stored = some settings) : Loaded number settings

theorem clampNumber_inRange (value : Option Int) {minimum maximum fallback : Int}
    (hLow : minimum ≤ fallback) (hHigh : fallback ≤ maximum) :
    minimum ≤ clampNumber value minimum maximum fallback ∧
      clampNumber value minimum maximum fallback ≤ maximum := by
  cases value with
  | none => exact ⟨hLow, hHigh⟩
  | some number => exact ⟨le_min (hLow.trans hHigh) (le_max_left _ _), min_le_left _ _⟩

section Loaded

variable {number : Option Json.Value → Option Int}

theorem normalizeMotor_inRange (motor : Option Json.Value) :
    (Settings.normalizeMotor number motor).InRange :=
  ⟨clampNumber_inRange _ (by decide) (by decide), clampNumber_inRange _ (by decide) (by decide),
    clampNumber_inRange _ (by decide) (by decide)⟩

theorem normalizeJoint_inRange {index : JointIndex} {stored : Option Json.Value} {joint : Joint}
    (h : Settings.normalizeJoint number index stored = some joint) : joint.InRange := by
  obtain ⟨torquePercent, -, rfl⟩ := Option.map_eq_some_iff.mp h
  have hIndex := index.isLt
  refine ⟨clampNumber_inRange _ (by omega) (by omega), clampNumber_inRange _ (by decide) (by decide),
    ?_⟩
  dsimp only
  omega

theorem normalizeJoints_inRange {stored : Option Json.Value} {joints : JointIndex → Joint}
    (h : Settings.normalizeJoints number stored = some joints) (index : JointIndex) :
    (joints index).InRange := by
  rw [Settings.normalizeJoints] at h
  split at h
  · cases h
    exact normalizeJoint_inRange (Option.some_get _).symm
  · cases h

theorem Loaded.inRange {settings : Settings} (h : Loaded number settings) : settings.InRange := by
  cases h with
  | defaults =>
    refine ⟨by decide, ⟨by decide, by decide, by decide⟩, fun index => ⟨?_, ?_, ?_⟩⟩ <;>
      decide +revert
  | config h =>
    obtain ⟨joints, hJoints, hSettings⟩ := Option.bind_eq_some_iff.mp h
    cases hSettings
    exact ⟨clampNumber_inRange _ (by decide) (by decide), normalizeMotor_inRange _,
      normalizeJoints_inRange hJoints⟩

end Loaded

structure Ui.InRange (s : Ui) : Prop where
  port : 1 ≤ s.port ∧ s.port ≤ 65535
  joints : ∀ index, (s.joints index).InRange

namespace Ui

variable {s s' : Ui}

theorem InRange.keeps (h : s.InRange) (hKeeps : KeepsSettings s s') : s'.InRange := by
  refine ⟨?_, ?_⟩
  · rw [hKeeps.port]
    exact h.port
  · rw [hKeeps.joints]
    exact h.joints

theorem InRange.setJoint (h : s.InRange) {index : JointIndex} {joint : Joint}
    (hJoint : joint.InRange) : (s.setJoint index joint).InRange := by
  refine ⟨h.port, fun other => ?_⟩
  rcases eq_or_ne other index with rfl | hOther
  · simpa [Ui.setJoint] using hJoint
  · simpa [Ui.setJoint, hOther] using h.joints other

theorem InRange.step (h : s.InRange) (event : Event) : (s.step event).1.InRange := by
  cases hSaves : event.saves with
  | false => exact h.keeps (step_keeps hSaves)
  | true =>
    cases event with
    | setEnabled index checked =>
      have hSet : (s.setJoint index { s.joints index with enabled := checked }).InRange :=
        h.setJoint ⟨(h.joints index).id, (h.joints index).acceleration, (h.joints index).torquePercent⟩
      rw [Ui.step, Ui.setEnabled]
      cases checked with
      | true => exact hSet
      | false => exact (hSet.keeps (clearTimeout_keeps _)).keeps ⟨rfl, rfl, rfl⟩
    | setId index value =>
      obtain ⟨hId, hAcceleration, hTorque⟩ := h.joints index
      exact h.setJoint ⟨clampNumber_inRange value hId.1 hId.2, hAcceleration, hTorque⟩
    | setAcceleration index value =>
      obtain ⟨hId, hAcceleration, hTorque⟩ := h.joints index
      exact h.setJoint ⟨hId, clampNumber_inRange value hAcceleration.1 hAcceleration.2, hTorque⟩
    | setTorque index value =>
      obtain ⟨hId, hAcceleration, hTorque⟩ := h.joints index
      exact h.setJoint ⟨hId, hAcceleration, clampNumber_inRange value hTorque.1 hTorque.2⟩
    | submitConnection host port =>
      exact ⟨clampNumber_inRange port h.port.1 h.port.2, h.joints⟩
    | _ => cases hSaves

end Ui

namespace Page

variable {s : Page}

@[simp] theorem motor_handleScanMessage (message : ServerMessage) :
    (s.handleScanMessage message).1.motor = s.motor := by
  cases message with
  | error text bridgeConnected =>
    rw [handleScanMessage]
    split <;> rfl
  | _ => rfl

@[simp] theorem motor_jointsEvent (event : Event) : (s.jointsEvent event).1.motor = s.motor := by
  cases event with
  | message message => exact motor_handleScanMessage message
  | _ => rfl

@[simp] theorem settings_scanServos (startValue endValue : Option Int) :
    (s.scanServos startValue endValue).1.settings = s.settings := by
  rw [scanServos]
  dsimp only
  split
  · rfl
  split
  · rfl
  · dsimp only
    split <;> rfl

theorem inRange_settings_iff : s.settings.InRange ↔ s.ui.InRange ∧ s.motor.InRange :=
  ⟨fun h => ⟨⟨h.port, h.joints⟩, h.motor⟩, fun h => ⟨h.1.port, h.2, h.1.joints⟩⟩

theorem step_inRange (h : s.settings.InRange) (event : PageEvent) :
    (s.step event).1.settings.InRange := by
  obtain ⟨hUi, hMotor⟩ := inRange_settings_iff.mp h
  cases event with
  | joints event =>
    refine inRange_settings_iff.mpr ⟨hUi.step event, ?_⟩
    rw [step, motor_jointsEvent]
    exact hMotor
  | setMotorId value =>
    obtain ⟨hId, hSpeed, hAcceleration⟩ := hMotor
    exact ⟨h.port, ⟨clampNumber_inRange value hId.1 hId.2, hSpeed, hAcceleration⟩, h.joints⟩
  | setMotorEnabled checked =>
    exact ⟨h.port, ⟨hMotor.id, hMotor.speedPercent, hMotor.acceleration⟩, h.joints⟩
  | setMotorSpeed speedPercent =>
    exact ⟨h.port, ⟨hMotor.id, ⟨speedPercent.atLeast, speedPercent.atMost⟩, hMotor.acceleration⟩,
      h.joints⟩
  | setMotorAcceleration acceleration =>
    exact ⟨h.port, ⟨hMotor.id, hMotor.speedPercent, acceleration.atLeast, acceleration.atMost⟩,
      h.joints⟩
  | run direction => exact h
  | stop => exact h
  | search startValue endValue =>
    rw [step, settings_scanServos]
    exact h

theorem reachable_inRange {number : Option Json.Value → Option Int} {loaded : Settings}
    (hLoaded : Loaded number loaded) (hReach : (page loaded).Reachable s) : s.settings.InRange := by
  induction hReach with
  | init => exact hLoaded.inRange
  | step event _ _ ih => exact step_inRange ih event

/-- The messages that can go out with the settings as they are. -/
inductive Sends (s : Page) : PageMessage → Prop where
  | joints {message : Outgoing} (h : s.ui.Sends message) : Sends s (.joints message)
  | startMotor (direction : Direction) :
    Sends s (.startMotor s.motor.id (motorSpeed s.motor.speedPercent) s.motor.acceleration direction)
  | stopMotor : Sends s (.stopMotor s.motor.id)
  | scanServos {startId endId : Int} (hLow : 1 ≤ startId) (hOrder : startId ≤ endId)
    (hHigh : endId ≤ 253) : Sends s (.scanServos startId endId)

theorem of_send {message : PageMessage} {output : PageOutput} (h : output ∈ (s.send message).2) :
    output = .sent message ∨ ∃ text kind, output = .status text kind := by
  rw [send] at h
  split at h
  · exact .inr ⟨_, _, List.mem_singleton.mp h⟩
  split at h
  · exact .inr ⟨_, _, List.mem_singleton.mp h⟩
  · exact .inl (List.mem_singleton.mp h)

theorem sent_of_send {message message' : PageMessage}
    (h : .sent message ∈ (s.send message').2) : message = message' := by
  rcases of_send h with hSent | ⟨text, kind, hStatus⟩
  · exact PageOutput.sent.inj hSent
  · cases hStatus

theorem sent_of_onPage {message : PageMessage} {outputs : List Output}
    (h : .sent message ∈ outputs.map Output.onPage) :
    ∃ outgoing, message = .joints outgoing ∧ .sent outgoing ∈ outputs := by
  obtain ⟨output, hMem, hOutput⟩ := List.mem_map.mp h
  cases output with
  | sent outgoing =>
    cases hOutput
    exact ⟨outgoing, rfl, hMem⟩
  | status text kind => cases hOutput
  | shown index position => cases hOutput

theorem handleScanMessage_shows {received : ServerMessage} {output : PageOutput}
    (h : output ∈ (s.handleScanMessage received).2) : ∃ text kind, output = .scanResult text kind := by
  cases received with
  | servoScan startId endId ids =>
    rw [handleScanMessage, List.mem_singleton, scanText] at h
    split at h
    · exact ⟨_, _, h⟩
    · exact ⟨_, _, h⟩
  | _ => cases h

theorem jointsEvent_sends {event : Event} {message : PageMessage}
    (h : .sent message ∈ (s.jointsEvent event).2) : (s.jointsEvent event).1.Sends message := by
  rcases List.mem_append.mp h with hPage | hJoints
  · rcases List.mem_append.mp hPage with hSaved | hScan
    · cases hSaves : event.saves <;> simp [hSaves] at hSaved
    · cases event with
      | message received =>
        obtain ⟨text, kind, hResult⟩ := handleScanMessage_shows hScan
        cases hResult
      | _ => cases hScan
  · obtain ⟨outgoing, rfl, hSent⟩ := sent_of_onPage hJoints
    exact .joints (Ui.step_sends hSent)

theorem scanServos_sends {startValue endValue : Option Int} {message : PageMessage}
    (h : .sent message ∈ (s.scanServos startValue endValue).2) :
    (s.scanServos startValue endValue).1.Sends message := by
  have hStart : 1 ≤ clampNumber startValue 1 253 1 ∧ _ :=
    clampNumber_inRange startValue (by decide) (by decide)
  have hEnd : _ ∧ clampNumber endValue 1 253 10 ≤ 253 :=
    clampNumber_inRange endValue (by decide) (by decide)
  generalize hPage : (s.scanServos startValue endValue).1 = s'
  rw [scanServos] at h
  dsimp only at h
  split at h
  · simp at h
  rename_i hOrder
  split at h
  · cases h
  rcases List.mem_cons.mp h with hSearching | hSent
  · cases hSearching
  · rw [sent_of_send hSent]
    exact .scanServos hStart.1 (not_lt.mp hOrder) hEnd.2

/-- Whatever the event, a message that goes out is made of the settings after it. -/
theorem step_sends {event : PageEvent} {message : PageMessage}
    (h : .sent message ∈ (s.step event).2) : (s.step event).1.Sends message := by
  cases event with
  | joints event => exact jointsEvent_sends h
  | run direction =>
    rw [step] at h ⊢
    rw [startMotor] at h
    split at h
    · rw [sent_of_send h]
      exact .startMotor direction
    · cases h
  | stop =>
    rw [step] at h ⊢
    dsimp only at h
    split at h
    · rw [sent_of_send h]
      exact .stopMotor
    · cases h
  | search startValue endValue => exact scanServos_sends h
  | _ => simp [step, setMotor] at h

end Page

end Fetchline.Browser
