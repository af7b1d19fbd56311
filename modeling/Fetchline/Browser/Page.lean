import Fetchline.Browser.Settings
import Fetchline.Browser.SliderMoves
import Fetchline.Host.Sessions

/-!
# The whole page

The motor, the settings and the search for servos beside the joints. Each change of a setting
is saved at once.
-/

namespace Fetchline.Browser

open Host Transition

/-- What a range input between two bounds can hold. -/
structure RangeInput (minimum maximum : Int) where
  value : Int
  atLeast : minimum ≤ value
  atMost : value ≤ maximum

/-- `Math.round` takes halves up, and the quotients of the whole percents are either exact
halves or well away from them. -/
def motorSpeed (percent : Int) : Int := (percent * 4095 * 2 + 100) / 200

inductive PageMessage where
  | joints (message : Outgoing)
  | startMotor (id speed acceleration : Int) (direction : Direction)
  | stopMotor (id : Int)
  | scanServos (startId endId : Int)

inductive PageOutput where
  | sent (message : PageMessage)
  | status (text kind : String)
  | shown (index : JointIndex) (position : Int)
  | scanResult (text kind : String)
  /-- The `PUT` request of `saveConfig`, with the settings in its body. -/
  | saved (settings : Settings)

def Output.onPage : Output → PageOutput
  | .sent message => .sent (.joints message)
  | .status text kind => .status text kind
  | .shown index position => .shown index position

structure Page where
  ui : Ui
  motor : Motor
  servoScanInProgress : Bool

inductive PageEvent where
  | joints (event : Event)
  | setMotorId (value : Option Int)
  | setMotorEnabled (checked : Bool)
  | setMotorSpeed (speedPercent : RangeInput 0 100)
  | setMotorAcceleration (acceleration : RangeInput 0 254)
  | run (direction : Direction)
  | stop
  | search (startValue endValue : Option Int)

/-- The settings in which the event changes something are saved. -/
def Event.saves : Event → Bool
  | .setEnabled .. | .setId .. | .setAcceleration .. | .setTorque .. | .submitConnection .. => true
  | _ => false

namespace Page

def load (settings : Settings) : Page where
  ui := .load settings.host settings.port settings.joints
  motor := settings.motor
  servoScanInProgress := false

def settings (s : Page) : Settings where
  host := s.ui.host
  port := s.ui.port
  motor := s.motor
  joints := s.ui.joints

/-- Whether the message has gone out, and what the page shows or sends. -/
def send (s : Page) (message : PageMessage) : Bool × List PageOutput :=
  if s.ui.socketOpen = false then (false, [.status "Local host is not connected" "error"])
  else if s.ui.connectedToMcu = false then (false, [.status "Connect to the MCU first" "error"])
  else (true, [.sent message])

def startMotor (s : Page) (direction : Direction) : List PageOutput :=
  if s.motor.enabled then
    (s.send (.startMotor s.motor.id (motorSpeed s.motor.speedPercent) s.motor.acceleration
      direction)).2
  else []

def finishServoScan (s : Page) : Page := { s with servoScanInProgress := false }

def scanServos (s : Page) (startValue endValue : Option Int) : Page × List PageOutput :=
  let startId := clampNumber startValue 1 253 1
  let endId := clampNumber endValue 1 253 10
  if startId > endId then (s, [.scanResult "Start ID must not exceed end ID." "error"])
  else if s.servoScanInProgress then (s, [])
  else
    let s := { s with servoScanInProgress := true }
    let searching := PageOutput.scanResult s!"Searching IDs {startId}–{endId} on the MCU…" ""
    let sent := s.send (.scanServos startId endId)
    (if sent.1 then s else s.finishServoScan, searching :: sent.2)

def scanText (startId endId : UInt8) (ids : List UInt8) : PageOutput :=
  if ids.length = 0 then
    .scanResult s!"No servos found in IDs {startId.toNat}–{endId.toNat}." ""
  else
    let found := ", ".intercalate (ids.map fun id => toString id.toNat)
    .scanResult s!"Found {ids.length}: {found}" "good"

/-- What `handleServerMessage` does about the search. -/
def handleScanMessage (s : Page) : ServerMessage → Page × List PageOutput
  | .servoScan startId endId ids => (s.finishServoScan, [scanText startId endId ids])
  | .error .. => (if s.servoScanInProgress then s.finishServoScan else s, [])
  | _ => (s, [])

def jointsEvent (s : Page) (event : Event) : Page × List PageOutput :=
  let (ui, outputs) := s.ui.step event
  let (s, results) := match event with
    | .message message => s.handleScanMessage message
    | _ => (s, [])
  let s := { s with ui }
  let saved := if event.saves then [.saved s.settings] else []
  (s, saved ++ results ++ outputs.map Output.onPage)

def setMotor (s : Page) (motor : Motor) : Page × List PageOutput :=
  let s := { s with motor }
  (s, [.saved s.settings])

def step (s : Page) : PageEvent → Page × List PageOutput
  | .joints event => s.jointsEvent event
  | .setMotorId value =>
    s.setMotor { s.motor with id := clampNumber value 1 253 s.motor.id }
  | .setMotorEnabled checked => s.setMotor { s.motor with enabled := checked }
  | .setMotorSpeed speedPercent => s.setMotor { s.motor with speedPercent := speedPercent.value }
  | .setMotorAcceleration acceleration =>
    s.setMotor { s.motor with acceleration := acceleration.value }
  | .run direction => (s, s.startMotor direction)
  -- The button is disabled with the motor.
  | .stop => (s, if s.motor.enabled then (s.send (.stopMotor s.motor.id)).2 else [])
  | .search startValue endValue => s.scanServos startValue endValue

end Page

/-- The page once it has loaded these settings. -/
def page (settings : Settings) : Machine Page PageEvent where
  init := .load settings
  step s event := (s.step event).1

def Outgoing.toJson : Outgoing → Json.Value
  | .connect host port => .object
      [("type", .string "connect"), ("host", .string host), ("port", .number port)]
  | .readPositions ids => .object
      [("type", .string "read_positions"), ("ids", .array (ids.map .number))]
  -- An undefined position is left out.
  | .movePosition id position acceleration torqueLimit => .object
      ([("type", .string "move_position"), ("id", .number id)] ++
        (position.map fun position => ("position", Json.Value.number position)).toList ++
        [("acceleration", .number acceleration), ("torque_limit", .number torqueLimit)])

def directionName : Direction → String
  | .clockwise => "clockwise"
  | .counterclockwise => "counterclockwise"

def PageMessage.toJson : PageMessage → Json.Value
  | .joints message => message.toJson
  | .startMotor id speed acceleration direction => .object
      [("type", .string "start_motor"), ("id", .number id), ("speed", .number speed),
        ("acceleration", .number acceleration),
        ("direction", .string (directionName direction))]
  | .stopMotor id => .object [("type", .string "stop_motor"), ("id", .number id)]
  | .scanServos startId endId => .object
      [("type", .string "scan_servos"), ("start_id", .number startId), ("end_id", .number endId)]

namespace Ui

variable {s s' : Ui}

structure KeepsSettings (s s' : Ui) : Prop where
  host : s'.host = s.host
  port : s'.port = s.port
  joints : s'.joints = s.joints

theorem KeepsSettings.refl (s : Ui) : KeepsSettings s s := ⟨rfl, rfl, rfl⟩

theorem KeepsSettings.trans {s'' : Ui} (h : KeepsSettings s s') (h' : KeepsSettings s' s'') :
    KeepsSettings s s'' :=
  ⟨h'.host.trans h.host, h'.port.trans h.port, h'.joints.trans h.joints⟩

theorem KeepsSettings.symm (h : KeepsSettings s s') : KeepsSettings s' s :=
  ⟨h.host.symm, h.port.symm, h.joints.symm⟩

theorem sendMove_keeps (index : JointIndex) : KeepsSettings s (s.sendMove index).1 := by
  rw [sendMove]
  split <;> exact ⟨rfl, rfl, rfl⟩

theorem clearTimeout_keeps (pending : Option Nat) : KeepsSettings s (s.clearTimeout pending) := by
  cases pending <;> exact ⟨rfl, rfl, rfl⟩

theorem queuePositionMove_keeps (index : JointIndex) (position : SliderPosition) (flush : Bool) :
    KeepsSettings s (s.queuePositionMove index position flush).1 := by
  rw [queuePositionMove]
  split
  · dsimp only
    split
    · refine .trans ?_ (clearTimeout_keeps _)
      exact ⟨rfl, rfl, rfl⟩
    split
    · refine .trans ?_ (sendMove_keeps index)
      refine .trans ?_ (clearTimeout_keeps _)
      exact ⟨rfl, rfl, rfl⟩
    · refine KeepsSettings.trans (.trans ?_ (clearTimeout_keeps _)) ⟨rfl, rfl, rfl⟩
      exact ⟨rfl, rfl, rfl⟩
  · exact .refl s

theorem handleServerMessage_keeps (message : ServerMessage) :
    KeepsSettings s (s.handleServerMessage message).1 := by
  cases message with
  | position id position =>
    rw [handleServerMessage, updatePosition_eq]
    exact ⟨rfl, rfl, rfl⟩
  | positions positions errors =>
    rw [handleServerMessage]
    dsimp only
    rw [updatePositions_eq]
    exact ⟨rfl, rfl, rfl⟩
  | _ => exact ⟨rfl, rfl, rfl⟩

theorem step_keeps {event : Event} (h : event.saves = false) : KeepsSettings s (s.step event).1 := by
  cases event with
  | input index position => exact queuePositionMove_keeps index position false
  | change index position => exact queuePositionMove_keeps index position true
  | expire timer =>
    rw [step]
    split
    · rename_i index _
      refine .trans ?_ (sendMove_keeps index)
      exact ⟨rfl, rfl, rfl⟩
    · exact .refl s
  | refresh => exact .refl s
  | socketOpened => exact ⟨rfl, rfl, rfl⟩
  | socketClosed => exact ⟨rfl, rfl, rfl⟩
  | message message => exact handleServerMessage_keeps message
  | _ => cases h

/-- The messages that can go out with the settings as they are. -/
inductive Sends (s : Ui) : Outgoing → Prop where
  | connect : Sends s (.connect s.host s.port)
  | readPositions {indices : List JointIndex} (hSome : indices ≠ []) (hSix : indices.length ≤ 6) :
    Sends s (.readPositions (indices.map fun index => (s.joints index).id))
  | movePosition (index : JointIndex) (position : Option Int) :
    Sends s (.movePosition (s.joints index).id position (s.joints index).acceleration
      (torqueLimit (s.joints index).torquePercent))

theorem sent_of_send {message message' : Outgoing} {allowed : Bool}
    (h : .sent message ∈ s.send message' allowed) : message = message' := by
  rw [send] at h
  split at h
  · simp at h
  split at h
  · simp at h
  · simpa using h

theorem sendMove_sends {index : JointIndex} {message : Outgoing}
    (h : .sent message ∈ (s.sendMove index).2) : Sends s message := by
  rw [sendMove] at h
  dsimp only at h
  split at h
  · rw [sent_of_send h]
    exact .movePosition index _
  · cases h

theorem refreshPositions_sends {message : Outgoing} (h : .sent message ∈ s.refreshPositions) :
    Sends s message := by
  rw [refreshPositions] at h
  split at h
  · rename_i hSome
    rw [sent_of_send h]
    refine .readPositions ?_ ?_
    · rw [List.length_map] at hSome
      exact List.length_pos_iff.mp hSome
    · exact (List.length_filter_le _ _).trans (by rw [List.length_finRange])
  · cases h

theorem connectMcu_sends {message : Outgoing} (h : .sent message ∈ s.connectMcu.2) :
    Sends s message := by
  rw [connectMcu] at h
  rcases List.mem_cons.mp h with hStatus | hSent
  · cases hStatus
  · rw [sent_of_send hSent]
    exact .connect

theorem Sends.keeps {message : Outgoing} (h : Sends s message) (hKeeps : KeepsSettings s' s) :
    Sends s' message := by
  cases h with
  | connect =>
    rw [hKeeps.host, hKeeps.port]
    exact .connect
  | readPositions hSome hSix =>
    rw [hKeeps.joints]
    exact .readPositions hSome hSix
  | movePosition index position =>
    rw [hKeeps.joints]
    exact .movePosition index position

theorem queuePositionMove_sends {index : JointIndex} {position : SliderPosition} {flush : Bool}
    {message : Outgoing} (h : .sent message ∈ (s.queuePositionMove index position flush).2) :
    Sends s message := by
  rw [queuePositionMove] at h
  split at h
  · dsimp only at h
    split at h
    · simp at h
    split at h
    · rcases List.mem_cons.mp h with hShown | hSent
      · cases hShown
      · refine (sendMove_sends hSent).keeps ?_
        refine .trans ?_ (clearTimeout_keeps _)
        exact ⟨rfl, rfl, rfl⟩
    · simp at h
  · cases h

theorem updatePosition_shows {report : Host.Position} {message : Outgoing} :
    .sent message ∉ (s.updatePosition report).2 := by
  rw [updatePosition]
  split <;> simp

theorem updatePositions_shows {reports : List Host.Position} {message : Outgoing} :
    .sent message ∉ (s.updatePositions reports).2 := by
  induction reports generalizing s with
  | nil => simp [updatePositions]
  | cons report reports ih =>
    rw [updatePositions]
    exact fun h => (List.mem_append.mp h).elim updatePosition_shows ih

theorem handleServerMessage_sends {received : ServerMessage} {message : Outgoing}
    (h : .sent message ∈ (s.handleServerMessage received).2) : Sends s message := by
  cases received with
  | connected address =>
    rcases List.mem_cons.mp h with hStatus | hSent
    · cases hStatus
    · exact (refreshPositions_sends hSent).keeps ⟨rfl, rfl, rfl⟩
  | position id position => exact absurd h updatePosition_shows
  | positions positions errors =>
    rw [handleServerMessage] at h
    rcases List.mem_append.mp h with hShown | hStatus
    · exact absurd hShown updatePositions_shows
    · split at hStatus <;> simp at hStatus
  | error text bridgeConnected => simp [handleServerMessage] at h
  | servoScan startId endId ids => cases h
  | complete action => cases h

/-- Whatever the event, a message that goes out is made of the settings after it. -/
theorem step_sends {event : Event} {message : Outgoing} (h : .sent message ∈ (s.step event).2) :
    Sends (s.step event).1 message := by
  cases event with
  | input index position =>
    exact (queuePositionMove_sends h).keeps
      (queuePositionMove_keeps index position false).symm
  | change index position =>
    exact (queuePositionMove_sends h).keeps (queuePositionMove_keeps index position true).symm
  | expire timer =>
    rw [step] at h ⊢
    split at h
    · exact (sendMove_sends h).keeps (sendMove_keeps _).symm
    · cases h
  | setEnabled index checked => cases h
  | setId index value => cases h
  | setAcceleration index value => cases h
  | setTorque index value => cases h
  | submitConnection host port => exact (connectMcu_sends h).keeps ⟨rfl, rfl, rfl⟩
  | refresh => exact refreshPositions_sends h
  | socketOpened => exact (connectMcu_sends h).keeps ⟨rfl, rfl, rfl⟩
  | socketClosed => simp [step] at h
  | message received =>
    exact (handleServerMessage_sends h).keeps (handleServerMessage_keeps received).symm

end Ui

end Fetchline.Browser
