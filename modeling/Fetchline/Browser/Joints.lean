import Fetchline.Host.Servos
import Mathlib.Data.List.FinRange
import Mathlib.Logic.Function.Basic

/-!
# The joints on the browser page

The page keeps one map of positions for what the sliders ask and for what the servos
report. A slider that moves queues a move, sent when its timer fires; one that is let go
sends it at once.
-/

namespace Fetchline.Browser

open Function (update)

def positionMin : Int := 0
def positionMax : Int := 4095

/-- What a range input between the two bounds can hold. -/
structure SliderPosition where
  value : Int
  atLeast : positionMin ≤ value
  atMost : value ≤ positionMax
deriving DecidableEq

abbrev JointIndex := Fin 6

structure Joint where
  id : Int
  enabled : Bool
  acceleration : Int
  torquePercent : Int
deriving DecidableEq

/-- `value` is the rounded number of a text field, if it holds one. -/
def clampNumber (value : Option Int) (minimum maximum fallback : Int) : Int :=
  match value with
  | some number => min maximum (max minimum number)
  | none => fallback

/-- A tenth of a percent is one unit, and percentages are whole: the rounding is exact. -/
def torqueLimit (percent : Int) : Int := percent * 10

/-- The messages to the host that concern the joints. -/
inductive Outgoing
  | connect (host : String) (port : Int)
  | readPositions (ids : List Int)
  | movePosition (id : Int) (position : Option Int) (acceleration torqueLimit : Int)
deriving DecidableEq

inductive Output
  | sent (message : Outgoing)
  | status (text kind : String)
  /-- The read-out of a joint's position. -/
  | shown (index : JointIndex) (position : Int)
deriving DecidableEq

structure Ui where
  host : String
  port : Int
  joints : JointIndex → Joint
  currentPositions : JointIndex → Option Int
  queuedMoves : JointIndex → Option Nat
  lastSentPositions : JointIndex → Option Int
  /-- The timers that are running, each with the joint that its callback moves. -/
  timers : Nat → Option JointIndex
  nextTimer : Nat
  socketOpen : Bool
  connectedToMcu : Bool

/-- The page after it has loaded the configuration. -/
def Ui.load (host : String) (port : Int) (joints : JointIndex → Joint) : Ui where
  host
  port
  joints
  currentPositions _ := none
  queuedMoves _ := none
  lastSentPositions _ := none
  timers _ := none
  nextTimer := 1
  socketOpen := false
  connectedToMcu := false

namespace Ui

def send (s : Ui) (message : Outgoing) (allowedBeforeMcuConnect : Bool) : List Output :=
  if s.socketOpen = false then [.status "Local host is not connected" "error"]
  else if allowedBeforeMcuConnect = false ∧ s.connectedToMcu = false then
    [.status "Connect to the MCU first" "error"]
  else [.sent message]

def clearTimeout (s : Ui) : Option Nat → Ui
  | some timer => { s with timers := update s.timers timer none }
  | none => s

def sendMove (s : Ui) (index : JointIndex) : Ui × List Output :=
  let s := { s with queuedMoves := update s.queuedMoves index none }
  let joint := s.joints index
  if joint.enabled then
    let target := s.currentPositions index
    let s := { s with lastSentPositions := update s.lastSentPositions index target }
    let move := .movePosition joint.id target joint.acceleration (torqueLimit joint.torquePercent)
    (s, s.send move false)
  else
    (s, [])

/-- The timer's callback is `sendMove` for the joint, with nothing of the event in it. -/
def queueMove (s : Ui) (index : JointIndex) : Ui :=
  { s with
    queuedMoves := update s.queuedMoves index (some s.nextTimer)
    timers := update s.timers s.nextTimer (some index)
    nextTimer := s.nextTimer + 1 }

def queuePositionMove (s : Ui) (index : JointIndex) (position : SliderPosition) (flush : Bool) :
    Ui × List Output :=
  if (s.joints index).enabled then
    let s := { s with currentPositions := update s.currentPositions index (some position.value) }
    let shown := Output.shown index position.value
    let pending := s.queuedMoves index
    let s := s.clearTimeout pending
    if flush = true ∧ pending = none ∧ s.lastSentPositions index = some position.value then
      (s, [shown])
    else if flush then
      ((s.sendMove index).1, shown :: (s.sendMove index).2)
    else
      (s.queueMove index, [shown])
  else
    (s, [])

/-- The first joint that has the servo's ID. -/
def jointWithId (joints : JointIndex → Joint) (id : Int) : Option JointIndex :=
  (List.finRange 6).find? fun index => (joints index).id = id

def updatePosition (s : Ui) (report : Host.Position) : Ui × List Output :=
  match jointWithId s.joints report.id.toNat with
  | none => (s, [])
  | some index =>
    ({ s with currentPositions := update s.currentPositions index (some report.position) },
      [.shown index report.position])

def updatePositions (s : Ui) : List Host.Position → Ui × List Output
  | [] => (s, [])
  | report :: reports =>
    let (s, shown) := s.updatePosition report
    let (s, rest) := s.updatePositions reports
    (s, shown ++ rest)

def refreshPositions (s : Ui) : List Output :=
  let ids := ((List.finRange 6).filter fun index => (s.joints index).enabled).map
    fun index => (s.joints index).id
  if ids.length > 0 then s.send (.readPositions ids) false else []

def connectMcu (s : Ui) : Ui × List Output :=
  let s := { s with connectedToMcu := false }
  (s, .status "Connecting to MCU…" "" :: s.send (.connect s.host s.port) true)

def handleServerMessage (s : Ui) : Host.ServerMessage → Ui × List Output
  | .connected address =>
    let s := { s with connectedToMcu := true }
    (s, .status ("Connected to " ++ address) "good" :: s.refreshPositions)
  | .position id position => s.updatePosition ⟨id, position⟩
  | .positions positions errors =>
    let (s, shown) := s.updatePositions positions
    let status := if errors.length > 0 then
        [.status (" · ".intercalate errors ++ " — MCU connection retained") "error"]
      else []
    (s, shown ++ status)
  | .error message bridgeConnected =>
    let text := if bridgeConnected then message ++ " — MCU connection retained" else message
    ({ s with connectedToMcu := bridgeConnected }, [.status text "error"])
  -- A scan's result goes to its own part of the page, and `complete` to none.
  | .servoScan .. | .complete _ => (s, [])

end Ui

inductive Event
  | input (index : JointIndex) (position : SliderPosition)
  | change (index : JointIndex) (position : SliderPosition)
  | expire (timer : Nat)
  | setEnabled (index : JointIndex) (checked : Bool)
  | setId (index : JointIndex) (value : Option Int)
  | setAcceleration (index : JointIndex) (value : Option Int)
  | setTorque (index : JointIndex) (value : Option Int)
  | submitConnection (host : String) (port : Option Int)
  | refresh
  | socketOpened
  | socketClosed
  | message (message : Host.ServerMessage)

namespace Ui

def setJoint (s : Ui) (index : JointIndex) (joint : Joint) : Ui :=
  { s with joints := update s.joints index joint }

def setEnabled (s : Ui) (index : JointIndex) (checked : Bool) : Ui :=
  let s := s.setJoint index { s.joints index with enabled := checked }
  if checked then s
  else { s.clearTimeout (s.queuedMoves index) with
    queuedMoves := update s.queuedMoves index none }

def step (s : Ui) : Event → Ui × List Output
  | .input index position => s.queuePositionMove index position false
  | .change index position => s.queuePositionMove index position true
  | .expire timer =>
    match s.timers timer with
    | some index => { s with timers := update s.timers timer none }.sendMove index
    | none => (s, [])
  | .setEnabled index checked => (s.setEnabled index checked, [])
  | .setId index value =>
    let joint := s.joints index
    (s.setJoint index { joint with id := clampNumber value 1 253 joint.id }, [])
  | .setAcceleration index value =>
    let joint := s.joints index
    (s.setJoint index { joint with acceleration := clampNumber value 0 254 joint.acceleration }, [])
  | .setTorque index value =>
    let joint := s.joints index
    (s.setJoint index { joint with
      torquePercent := clampNumber value 0 100 joint.torquePercent }, [])
  | .submitConnection host port =>
    { s with host, port := clampNumber port 1 65535 s.port }.connectMcu
  | .refresh => (s, s.refreshPositions)
  | .socketOpened => { s with socketOpen := true }.connectMcu
  | .socketClosed =>
    ({ s with socketOpen := false, connectedToMcu := false },
      [.status "Local host disconnected — retrying…" "error"])
  | .message message => s.handleServerMessage message

end Ui

end Fetchline.Browser
