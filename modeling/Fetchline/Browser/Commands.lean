import Fetchline.Browser.Readers
import Fetchline.Modes.Orders

/-!
# From the page to the bus

What a page makes the servos do is in the commands that its messages mean, with the values of
its own settings in them.
-/

namespace Fetchline.Browser

open Effects Effects.Program Host Modes Transition

def PageMessage.commands : PageMessage → List ControllerCommand
  | .joints (.connect ..) => []
  | .joints (.readPositions ids) => ids.map fun id => .getPosition (byte id)
  | .joints (.movePosition id position acceleration torqueLimit) =>
    match position with
    | none => []
    | some target =>
      -- Only where a slider can be.
      if 0 ≤ target ∧ target ≤ 4095 then
        [.setPosition (byte id) (word target) (byte acceleration) (word torqueLimit)]
      else []
  | .startMotor id speed acceleration direction =>
    [.startMotor (byte id) (direction = .counterclockwise) (word speed) (byte acceleration)]
  | .stopMotor id => [.stopMotor (byte id)]
  | .scanServos startId endId => [.scanServos (byte startId) (byte endId)]

def PageMessage.isConnect : PageMessage → Bool
  | .joints (.connect ..) => true
  | _ => false

section Delivery

variable {σ : Type} (fromSlice : String → Option JsonRpcRequest)
variable (fromStr : String → Except String ClientMessage) (serde : Serde) (mode : TransportMode)
variable (H : Handler BusOp BusOp.Reply σ)

/-- The bridge of the host, and the MCU at its other end. -/
structure Linked (σ : Type) where
  bridge : Option BridgeConnection
  remote : Remote σ

/-- The host's effects while one message is handled at a time. -/
def linked : Handler HostOp HostOp.Reply (Linked σ)
  | s, .lockBridge => (s.bridge, s)
  | s, .setBridge bridge => ((), { s with bridge })
  | s, .net op =>
    let (reply, remote) := controller fromSlice H s.remote op
    (reply, { s with remote })
  -- No message about the servos opens a connection.
  | s, .connectController _ | s, .connectRawTunnel _ => (.error "No other MCU", s)

/-- What the host does with a message of a browser. -/
def deliver (s : Linked σ) (message : PageMessage) : Linked σ :=
  match HostState.answer serde fromStr mode (.text message.toJson.compact) with
  | some program => (program.run (linked fromSlice H) s).2
  | none => s

def deliverAll (s : Linked σ) (messages : List PageMessage) : Linked σ :=
  messages.foldl (deliver fromSlice fromStr serde mode H) s

end Delivery

theorem proper_unicast {id : Int} (h : 1 ≤ id ∧ id ≤ 253) : Host.isUnicastServoId (byte id) = true :=
  (isUnicastServoId_iff _).mpr (byte_unicast h)

theorem startMotor_proper {motor : Motor} (h : motor.InRange) (direction : Direction) :
    Proper (.startMotor (byte motor.id) (word (motorSpeed motor.speedPercent))
      (byte motor.acceleration) direction) := by
  have hSpeed := motorSpeed_inRange h.speedPercent.1 h.speedPercent.2
  refine ⟨proper_unicast h.id, fun hFast => ?_⟩
  rw [gt_iff_lt, UInt16.lt_iff_toNat_lt, word_toNat ⟨hSpeed.1, by omega⟩] at hFast
  change 4095 < (motorSpeed motor.speedPercent).toNat at hFast
  omega

theorem movePosition_proper_iff {joint : Joint} (h : joint.InRange) {target : Int}
    (hWord : IsWord target) :
    Proper (.movePosition (byte joint.id) (word target) (byte joint.acceleration)
      (word (torqueLimit joint.torquePercent))) ↔ target ≤ 4095 := by
  have hLimit := torqueLimit_inRange h.torquePercent.1 h.torquePercent.2
  have hTorque : ¬ word (torqueLimit joint.torquePercent) > 1000 := by
    rw [gt_iff_lt, UInt16.lt_iff_toNat_lt, word_toNat ⟨hLimit.1, by omega⟩]
    change ¬ 1000 < (torqueLimit joint.torquePercent).toNat
    omega
  have hTarget : ¬ word target > 4095 ↔ target ≤ 4095 := by
    rw [gt_iff_lt, UInt16.lt_iff_toNat_lt, word_toNat hWord]
    have hLow := hWord.1
    change ¬ 4095 < target.toNat ↔ _
    omega
  rw [← hTarget]
  exact ⟨fun h => h.2.1, fun hLow => ⟨proper_unicast h.id, hLow, hTorque⟩⟩

theorem scanServos_proper {startId endId : Int} (hLow : 1 ≤ startId) (hOrder : startId ≤ endId)
    (hHigh : endId ≤ 253) : Proper (.scanServos (byte startId) (byte endId)) := by
  change 1 ≤ byte startId ∧ byte startId ≤ byte endId ∧ byte endId ≤ 253
  rw [UInt8.le_iff_toNat_le, UInt8.le_iff_toNat_le, UInt8.le_iff_toNat_le,
    byte_toNat (by omega) (by omega), byte_toNat (by omega) (by omega)]
  change 1 ≤ startId.toNat ∧ _ ∧ endId.toNat ≤ 253
  omega

section Delivery

variable {σ : Type} {fromSlice : String → Option JsonRpcRequest}
variable {fromStr : String → Except String ClientMessage} {serde : Serde} {mode : TransportMode}
variable (H : Handler BusOp BusOp.Reply σ)

theorem obeyAll_append (commands commands' : List ControllerCommand) (bus : σ) :
    (obeyAll H (commands ++ commands') bus).2 =
      (obeyAll H commands' (obeyAll H commands bus).2).2 := by
  induction commands generalizing bus with
  | nil => rfl
  | cons command commands ih => exact ih _

/-- The host and its MCU after the commands. -/
def obeyed (c : BridgeConnection) (bus : σ) (commands : List ControllerCommand) : Linked σ where
  bridge := some { c with nextRequestId := c.nextRequestId + UInt32.ofNat commands.length }
  remote := ⟨(obeyAll H commands bus).2, []⟩

theorem obeyed_nil (c : BridgeConnection) (bus : σ) : obeyed H c bus [] = ⟨some c, ⟨bus, []⟩⟩ := by
  simp [obeyed, obeyAll]

theorem obeyed_append (c : BridgeConnection) (bus : σ) (commands commands' : List ControllerCommand) :
    obeyed H { c with nextRequestId := c.nextRequestId + UInt32.ofNat commands.length }
        (obeyAll H commands bus).2 commands' =
      obeyed H c bus (commands ++ commands') := by
  simp only [obeyed, obeyAll_append, List.length_append, UInt32.ofNat_add, UInt32.add_assoc]

theorem onNet_linked {α : Type} (p : Net α) (s : Linked σ) :
    (onNet p).run (linked fromSlice H) s =
      ((p.run (controller fromSlice H) s.remote).1,
        { s with remote := (p.run (controller fromSlice H) s.remote).2 }) := by
  induction p generalizing s with
  | done a => rfl
  | call op next ih => exact ih _ _

theorem useBridge_linked {α : Type} (q : Bridge α) (c : BridgeConnection) (s : Linked σ) :
    (useBridge q c).run (linked fromSlice H) s =
      ((outcome (controller fromSlice H) q c s.remote).1.1,
        ⟨some (outcome (controller fromSlice H) q c s.remote).1.2,
          (outcome (controller fromSlice H) q c s.remote).2⟩) := by
  rw [useBridge, run_bind, onNet_linked]
  rfl

section Outcomes

variable {message : ServoMessage} {reply : Except String ServerMessage}
variable {c c' : BridgeConnection} {remote remote' : Remote σ}

/-- The bridge is kept as long as the reply does not report it broken. -/
theorem serveLocked_linked
    (h : outcome (controller fromSlice H) (serveMessage serde message) c remote =
      ((reply, c'), remote'))
    (hUsable : ∀ error, reply = .error error → connectionIsUsableAfter error = true) :
    ((serveLocked serde message (some c)).run (linked fromSlice H) ⟨some c, remote⟩).2 =
      ⟨some c', remote'⟩ := by
  rw [serveLocked, run_bind, useBridge_linked, h]
  cases reply with
  | ok response => rfl
  | error error =>
    simp only [hUsable error rfl, if_true]
    rfl

theorem deliver_read {sent : PageMessage}
    (hRead : fromStr sent.toJson.compact = .ok (.servo message))
    (h : outcome (controller fromSlice H) (serveMessage serde message) c remote =
      ((reply, c'), remote'))
    (hUsable : ∀ error, reply = .error error → connectionIsUsableAfter error = true) :
    deliver fromSlice fromStr serde mode H ⟨some c, remote⟩ sent = ⟨some c', remote'⟩ := by
  rw [deliver, HostState.answer, hRead]
  exact serveLocked_linked H h hUsable

theorem deliver_unread {sent : PageMessage} {error : String}
    (hRead : fromStr sent.toJson.compact = .error error) (s : Linked σ) :
    deliver fromSlice fromStr serde mode H s sent = s := by
  rw [deliver, HostState.answer, hRead]
  rfl

end Outcomes

theorem movePosition_beyond {joint : Joint} (h : joint.InRange) {target : Int}
    (hWord : IsWord target) (hBeyond : ¬ target ≤ 4095) (c : BridgeConnection)
    (remote : Remote σ) :
    outcome (controller fromSlice H) (serveMessage serde (.movePosition (byte joint.id)
        (word target) (byte joint.acceleration) (word (torqueLimit joint.torquePercent)))) c remote =
      ((.error "Position must be between 0 and 4095", c), remote) := by
  have hHigh : word target > 4095 := by
    rw [gt_iff_lt, UInt16.lt_iff_toNat_lt, word_toNat hWord]
    change 4095 < target.toNat
    omega
  rw [serveMessage]
  unfold Host.movePosition
  rw [validated_outcome H (proper_unicast h.id)]
  simp only [if_pos hHigh]
  rfl

variable (hReads : ResponsesRead serde) (hUnderstood : Understood fromSlice serde)
variable (hScan : ∀ startId endId n,
  fromSlice (requestText n "servo.scan" (scanParams startId endId)) =
    some { jsonrpc := "2.0", method := "servo.scan",
           params := { startId := some startId, endId := some endId }, id := some n })

include hReads hUnderstood hScan

theorem deliver_proper {message : PageMessage} {read : ServoMessage}
    (hRead : fromStr message.toJson.compact = .ok (.servo read)) (hProper : Proper read)
    {c : BridgeConnection} (hController : c.transport = .controller) (bus : σ) :
    deliver fromSlice fromStr serde mode H ⟨some c, ⟨bus, []⟩⟩ message =
      obeyed H c bus (orders read) := by
  obtain ⟨reply, hReply, hOutcome⟩ :=
    serveMessage_orders H hReads hUnderstood hScan hProper hController bus
  refine deliver_read H hRead hOutcome fun error hError => ?_
  rw [hError] at hReply
  exact hReply.usable

variable (hMessages : ReadsMessages fromStr)

include hMessages

theorem deliver_move {s : Page} (h : s.settings.InRange) (index : JointIndex)
    (position : Option Int) {c : BridgeConnection} (hController : c.transport = .controller)
    (bus : σ) :
    let message := PageMessage.joints (.movePosition (s.ui.joints index).id position
      (s.ui.joints index).acceleration (torqueLimit (s.ui.joints index).torquePercent))
    deliver fromSlice fromStr serde mode H ⟨some c, ⟨bus, []⟩⟩ message =
      obeyed H c bus message.commands := by
  intro message
  have hJoint : (s.ui.joints index).InRange := h.joints index
  have hRead : IsReadAs (fromStr message.toJson.compact) message.read :=
    movePosition_read hMessages hJoint position
  cases position with
  | none =>
    obtain ⟨error, hUnread⟩ := hRead
    rw [deliver_unread H hUnread]
    exact (obeyed_nil H c bus).symm
  | some target =>
    by_cases hWord : IsWord target
    · have hSome : message.read = some (.servo (.movePosition (byte (s.ui.joints index).id)
          (word target) (byte (s.ui.joints index).acceleration)
          (word (torqueLimit (s.ui.joints index).torquePercent)))) := by
        simp only [message, PageMessage.read, Option.bind_some, if_pos hWord]
      rw [hSome] at hRead
      by_cases hLow : target ≤ 4095
      · have hCommands : message.commands = orders (.movePosition (byte (s.ui.joints index).id)
            (word target) (byte (s.ui.joints index).acceleration)
            (word (torqueLimit (s.ui.joints index).torquePercent))) := by
          simp only [message, PageMessage.commands, if_pos (And.intro hWord.1 hLow)]
          rfl
        rw [hCommands]
        exact deliver_proper H hReads hUnderstood hScan hRead
          ((movePosition_proper_iff hJoint hWord).mpr hLow) hController bus
      · have hCommands : message.commands = [] := by
          simp only [message, PageMessage.commands, if_neg fun h : _ ∧ _ => hLow h.2]
        have hUsable : connectionIsUsableAfter "Position must be between 0 and 4095" = true :=
          usable_of_start "Position" (by simp [usableStarts]) ⟨_, rfl⟩
        rw [hCommands, obeyed_nil]
        apply deliver_read H hRead (movePosition_beyond H hJoint hWord hLow c ⟨bus, []⟩)
        intro error hError
        rwa [← Except.error.inj hError]
    · have hNone : message.read = none := by
        simp only [message, PageMessage.read, Option.bind_some, if_neg hWord]
      have hCommands : message.commands = [] := by
        simp only [message, PageMessage.commands]
        exact if_neg fun h => hWord ⟨h.1, by omega⟩
      rw [hNone] at hRead
      obtain ⟨error, hUnread⟩ := hRead
      rw [deliver_unread H hUnread, hCommands]
      exact (obeyed_nil H c bus).symm

theorem deliver_sent {s : Page} (h : s.settings.InRange) {message : PageMessage}
    (hSends : s.Sends message) (hServo : message.isConnect = false) {c : BridgeConnection}
    (hController : c.transport = .controller) (bus : σ) :
    deliver fromSlice fromStr serde mode H ⟨some c, ⟨bus, []⟩⟩ message =
      obeyed H c bus message.commands := by
  obtain ⟨hUi, hMotor⟩ := Page.inRange_settings_iff.mp h
  have hRead := hSends.read hMessages h
  cases hSends with
  | joints hSends =>
    cases hSends with
    | connect => cases hServo
    | readPositions hSome hSix =>
      rename_i indices
      have hProper : Proper (.readPositions
          ((indices.map fun index => (s.ui.joints index).id).map byte)) := by
        refine ⟨by simpa using hSix, fun id hMem => ?_⟩
        obtain ⟨settingsId, hId, rfl⟩ := List.mem_map.mp hMem
        obtain ⟨index, -, rfl⟩ := List.mem_map.mp hId
        exact proper_unicast (hUi.joints index).id
      rw [deliver_proper H hReads hUnderstood hScan hRead hProper hController]
      simp only [orders, PageMessage.commands, List.map_map]
      rfl
    | movePosition index position =>
      exact deliver_move H hReads hUnderstood hScan hMessages h index position hController bus
  | startMotor direction =>
    exact deliver_proper H hReads hUnderstood hScan hRead (startMotor_proper hMotor direction)
      hController bus
  | stopMotor =>
    exact deliver_proper H hReads hUnderstood hScan hRead (proper_unicast hMotor.id) hController bus
  | scanServos hLow hOrder hHigh =>
    exact deliver_proper H hReads hUnderstood hScan hRead (scanServos_proper hLow hOrder hHigh)
      hController bus

/-- Some page sends the message, after some use of it. -/
def SentByPage (number : Option Json.Value → Option Int) (message : PageMessage) : Prop :=
  ∃ loaded s event, Loaded number loaded ∧ (page loaded).Reachable s ∧
    .sent message ∈ (s.step event).2

/-- What any pages have any servos do, in any order: the host keeps its connection throughout,
and the bus is left as the pages' own commands leave it, run one after the other. -/
theorem messages_are_commands {number : Option Json.Value → Option Int}
    {messages : List PageMessage}
    (hSent : ∀ message ∈ messages, SentByPage number message ∧ message.isConnect = false)
    {c : BridgeConnection} (hController : c.transport = .controller) (bus : σ) :
    deliverAll fromSlice fromStr serde mode H ⟨some c, ⟨bus, []⟩⟩ messages =
      obeyed H c bus (messages.flatMap PageMessage.commands) := by
  induction messages generalizing c bus with
  | nil => exact (obeyed_nil H c bus).symm
  | cons message messages ih =>
    obtain ⟨⟨⟨loaded, s, event, hLoaded, hReach, hMessage⟩, hServo⟩, hRest⟩ :=
      List.forall_mem_cons.mp hSent
    have hRange : (s.step event).1.settings.InRange :=
      Page.reachable_inRange hLoaded (hReach.step event trivial)
    have hFirst : deliver fromSlice fromStr serde mode H ⟨some c, ⟨bus, []⟩⟩ message =
        obeyed H c bus message.commands :=
      deliver_sent H hReads hUnderstood hScan hMessages hRange (Page.step_sends hMessage) hServo
        hController bus
    rw [deliverAll, List.foldl_cons, hFirst, List.flatMap_cons, ← obeyed_append]
    refine ih hRest ?_ _
    exact hController

end Delivery

/-- A page asks for the positions, and has the first joint moved to the middle. -/
def centred : List PageMessage := [
  .joints (.readPositions [2, 3, 4, 5, 6, 7]),
  .joints (.movePosition 2 (some 2048) 20 1000)]

theorem centred_sent : ∀ message ∈ centred,
    SentByPage (fun _ => none) message ∧ message.isConnect = false := by
  let opened : List PageEvent := [.joints .socketOpened]
  let answered : List PageEvent := opened ++ [.joints (.message (.connected "192.168.1.123:3333"))]
  have hRead : SentByPage (fun _ => none) (.joints (.readPositions [2, 3, 4, 5, 6, 7])) :=
    ⟨.defaults, _, .joints (.message (.connected "192.168.1.123:3333")), .defaults,
      Machine.reachable_run opened, List.Mem.tail _ (List.Mem.head _)⟩
  have hMoved : SentByPage (fun _ => none) (.joints (.movePosition 2 (some 2048) 20 1000)) :=
    ⟨.defaults, _, .joints (.change 0 ⟨2048, by decide, by decide⟩), .defaults,
      Machine.reachable_run answered, List.Mem.tail _ (List.Mem.head _)⟩
  exact List.forall_mem_cons.mpr ⟨⟨hRead, rfl⟩, List.forall_mem_cons.mpr ⟨⟨hMoved, rfl⟩, by simp⟩⟩

theorem messages_are_commands_centred :
    deliverAll requestReader clientReader responseReader .controller (line secondServo)
        ⟨some ⟨"mcu:3333", .controller, 1⟩, ⟨⟨[], []⟩, []⟩⟩ centred =
      obeyed (line secondServo) ⟨"mcu:3333", .controller, 1⟩ ⟨[], []⟩
        ([2, 3, 4, 5, 6, 7].map .getPosition ++ [.setPosition 2 2048 20 1000]) :=
  messages_are_commands (line secondServo) responses_read readers_understand requestReader_scan
    clientReader_reads centred_sent rfl _

end Fetchline.Browser
