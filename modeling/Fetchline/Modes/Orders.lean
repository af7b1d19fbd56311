import Fetchline.Modes.OneMachine
import Fetchline.Modes.ReadPositions
import Fetchline.Modes.RemoteCall

/-! # What a message of the browser has the firmware do

In controller mode the host turns each message into commands of the firmware, and puts its
reply together from their results.
-/

namespace Fetchline.Modes

open Effects Effects.Program Bounded Host

variable {σ : Type}

/-- What the firmware does for a command that has come over the network. -/
def obey (command : ControllerCommand) : Bus (Except RpcFailure ControllerResult) :=
  .call .isTunnelEnabled fun (enabled : Bool) =>
    if enabled then pure (.error .rawTunnelActive)
    else do
      let result ← executeCommand command
      pure (result.mapError ServoFailure.rpcFailure)

def obeyAll (H : Handler BusOp BusOp.Reply σ) :
    List ControllerCommand → σ → List (Except RpcFailure ControllerResult) × σ
  | [], bus => ([], bus)
  | command :: commands, bus =>
    let rest := obeyAll H commands ((obey command).run H bus).2
    (((obey command).run H bus).1 :: rest.1, rest.2)

/-- The commands that a message stands for. -/
def orders : ServoMessage → List ControllerCommand
  | .startMotor id speed acceleration direction =>
    [.startMotor id (direction = .counterclockwise) speed acceleration]
  | .stopMotor id => [.stopMotor id]
  | .movePosition id position acceleration torqueLimit =>
    [.setPosition id position acceleration torqueLimit]
  | .readPosition id => [.getPosition id]
  | .readPositions ids => ids.map .getPosition
  | .scanServos startId endId => [.scanServos startId endId]

/-- What the host checks before it turns to the MCU. -/
def Proper : ServoMessage → Prop
  | .startMotor id speed _ _ => Host.isUnicastServoId id = true ∧ ¬ speed > 4095
  | .stopMotor id | .readPosition id => Host.isUnicastServoId id = true
  | .movePosition id position _ torqueLimit =>
    Host.isUnicastServoId id = true ∧ ¬ position > 4095 ∧ ¬ torqueLimit > 1000
  | .readPositions ids => ids.length ≤ 6 ∧ ∀ id ∈ ids, Host.isUnicastServoId id = true
  | .scanServos startId endId => IsScanRange startId endId

def failureText (failure : RpcFailure) : String :=
  let code := failure.code
  let message := failure.message
  s!"MCU JSON-RPC error {code}: {message}"

def foundIn : List (Except RpcFailure ControllerResult) → List Position
  | [] => []
  | .ok (.position p) :: results => ⟨p.id, p.position⟩ :: foundIn results
  | _ :: results => foundIn results

def faultsIn : List UInt8 → List (Except RpcFailure ControllerResult) → List String
  | id :: ids, .error failure :: results =>
    let error := failureText failure
    s!"Servo {id}: {error}" :: faultsIn ids results
  | _ :: ids, .ok _ :: results => faultsIn ids results
  | _, _ => []

/-- The host's reply to a message whose commands end so. -/
inductive Replies : ServoMessage → List (Except RpcFailure ControllerResult) →
    Except String ServerMessage → Prop where
  | started {id speed acceleration direction} :
    Replies (.startMotor id speed acceleration direction) [.ok .accepted]
      (.ok (.complete "motor_started"))
  | stopped {id} : Replies (.stopMotor id) [.ok .accepted] (.ok (.complete "motor_stopped"))
  | moved {id position acceleration torqueLimit} :
    Replies (.movePosition id position acceleration torqueLimit) [.ok .accepted]
      (.ok (.complete "position_commanded"))
  | position {id position} :
    Replies (.readPosition id) [.ok (.position ⟨id, position⟩)] (.ok (.position id position))
  | positions {ids results} :
    Replies (.readPositions ids) results (.ok (.positions (foundIn results) (faultsIn ids results)))
  | scanned {startId endId ids} :
    Replies (.scanServos startId endId) [.ok (.servos ids)]
      (.ok (.servoScan startId endId ids.toList))
  | failed {message failure} (h : ∀ ids, message ≠ .readPositions ids) :
    Replies message [.error failure] (.error (failureText failure))

theorem usable_failureText (failure : RpcFailure) :
    connectionIsUsableAfter (failureText failure) = true := by
  apply usable_of_start "MCU J" (by simp [usableStarts])
  exact prefix_append (prefix_append (prefix_append ⟨_, rfl⟩ _) _) _

theorem Replies.usable {message : ServoMessage}
    {results : List (Except RpcFailure ControllerResult)} {error : String}
    (h : Replies message results (.error error)) : connectionIsUsableAfter error = true := by
  cases h
  exact usable_failureText _

def Answers : ControllerCommand → ControllerResult → Prop
  | .startMotor .., result | .stopMotor _, result | .setPosition .., result => result = .accepted
  | .getPosition id, result => ∃ position, result = .position ⟨id, position⟩ ∧
      -32768 ≤ position ∧ position ≤ 32767
  | .getPositions _, _ => True
  | .scanServos startId endId, result => ∃ ids, result = .servos ids ∧
      ∀ id ∈ ids.toList, startId ≤ id ∧ id ≤ endId

theorem scanFrom_within (rawIds : List Nat) (ids : BoundedVec UInt8 maxScanResults) :
    (Fetchline.scanFrom rawIds ids).run.Obeys Discipline.free ()
      (exits (fun ids' _ => ∀ id ∈ ids'.toList, id ∈ ids.toList ∨ ∃ n ∈ rawIds, id = UInt8.ofNat n)
        fun _ _ => True) := by
  induction rawIds generalizing ids with
  | nil => exact fun id hMem => .inl hMem
  | cons rawId rawIds ih =>
    have hTail {id : UInt8} {ids' : BoundedVec UInt8 maxScanResults}
        (h : ∃ n ∈ rawIds, id = UInt8.ofNat n) : id ∈ ids'.toList ∨ ∃ n ∈ rawId :: rawIds,
          id = UInt8.ofNat n := by
      obtain ⟨n, hMem, rfl⟩ := h
      exact .inr ⟨n, List.mem_cons_of_mem rawId hMem, rfl⟩
    rw [Fetchline.scanFrom]
    split
    · refine (ih ids).mono ?_
      rintro (failure | ids') _ hWithin
      · trivial
      · exact fun id hMem => (hWithin id hMem).elim .inl hTail
    · apply (probeServo_found _ ids).andThen
      intro ids' _ hFound
      refine (ih ids').mono ?_
      rintro (failure | ids'') _ hWithin
      · trivial
      · intro id hMem
        rcases hWithin id hMem with hOld | hNew
        · rcases hFound with rfl | hFound
          · exact .inl hOld
          · rw [hFound] at hOld
            rcases List.mem_append.mp hOld with hOld | hLast
            · exact .inl hOld
            · exact .inr ⟨rawId, List.mem_cons_self, List.mem_singleton.mp hLast⟩
        · exact hTail hNew

theorem scanServos_within (startId endId : UInt8) :
    (Fetchline.scanServos startId endId).run.Obeys Discipline.free ()
      (exits (fun ids _ => ∀ id ∈ ids.toList, startId ≤ id ∧ id ≤ endId) fun _ _ => True) := by
  rw [Fetchline.scanServos]
  split
  · trivial
  · refine (scanFrom_within _ .empty).mono ?_
    rintro (failure | ids) _ hWithin
    · trivial
    · intro id hMem
      rcases hWithin id hMem with hEmpty | ⟨n, hRange, rfl⟩
      · cases hEmpty
      · rw [List.mem_range'_1] at hRange
        have hEnd := endId.toNat_lt
        rw [UInt8.le_iff_toNat_le, UInt8.le_iff_toNat_le,
          UInt8.toNat_ofNat_of_lt' (by change n < 256; omega)]
        omega

theorem runCommand_answers (command : ControllerCommand) :
    (runCommand command).run.Obeys Discipline.free ()
      (exits (fun result _ => Answers command result) fun _ _ => True) := by
  have hAny {α : Type} {p : Servo α} :
      p.run.Obeys (Discipline.free : Discipline BusOp BusOp.Reply Unit) ()
        (exits (fun _ _ => True) fun _ _ => True) :=
    obeys_free (by rintro (_ | _) <;> trivial)
  cases command with
  | startMotor => exact hAny.andThen fun _ _ _ => rfl
  | stopMotor => exact hAny.andThen fun _ _ _ => rfl
  | setPosition => exact hAny.andThen fun _ _ _ => rfl
  | getPosition id =>
    exact (readPosition_range id).andThen fun position _ hPosition => ⟨position, rfl, hPosition⟩
  | getPositions ids => exact hAny.andThen fun _ _ _ => trivial
  | scanServos startId endId =>
    exact (scanServos_within startId endId).andThen fun ids _ hWithin => ⟨ids, rfl, hWithin⟩

theorem executeCommand_answers (command : ControllerCommand) :
    (executeCommand command).Obeys Discipline.free ()
      (exits (fun result _ => Answers command result) fun _ _ => True) := by
  refine ⟨trivial, fun _ => ⟨trivial, fun _ => ?_⟩⟩
  apply (runCommand_answers command).bind
  rintro (failure | result) _ hResult
  · have hDrain : (resynchronizeUart : Bus Unit).Obeys
        (Discipline.free : Discipline BusOp BusOp.Reply Unit) () fun _ _ => True :=
      obeys_free fun _ => trivial
    exact hDrain.bind fun _ _ _ => trivial
  · exact hResult

theorem obey_answers (command : ControllerCommand) (H : Handler BusOp BusOp.Reply σ) (bus : σ)
    {result : ControllerResult} (h : ((obey command).run H bus).1 = .ok result) :
    Answers command result := by
  have hObeys : (obey command).Obeys (Discipline.free : Discipline BusOp BusOp.Reply Unit) ()
      (exits (fun result _ => Answers command result) fun _ _ => True) := by
    refine ⟨trivial, fun enabled => ?_⟩
    cases enabled with
    | true => trivial
    | false =>
      apply (executeCommand_answers command).bind
      rintro (failure | result) _ hResult
      · trivial
      · exact hResult
  obtain ⟨_, hAnswers⟩ := hObeys.ran H bus
  rw [h] at hAnswers
  exact hAnswers

section Host

variable {fromSlice : String → Option JsonRpcRequest} {serde : Serde}
variable (H : Handler BusOp BusOp.Reply σ) (hReads : ResponsesRead serde)

include hReads

theorem order_outcome (call : RemoteCall fromSlice) {command : ControllerCommand}
    (hProgram : call.program = obey command) {c : BridgeConnection}
    (hController : c.transport = .controller) (timeoutMs : Nat) (bus : σ) :
    outcome (controller fromSlice H)
        (controllerRequestWithTimeout serde call.method call.params timeoutMs) c ⟨bus, []⟩ =
      ((told ((obey command).run H bus).1, { c with nextRequestId := c.nextRequestId + 1 }),
        ⟨((obey command).run H bus).2, []⟩) := by
  rw [call_outcome H hReads call hController, hProgram]

variable (hUnderstood : Understood fromSlice serde)

include hUnderstood

theorem request_outcome {method : String} {params : Json.Value} {typed : JsonRpcParams}
    {command : ControllerCommand} (hRequest : ServoRequest method params typed command)
    {c : BridgeConnection} (hController : c.transport = .controller) (bus : σ) :
    outcome (controller fromSlice H) (controllerRequest serde method params) c ⟨bus, []⟩ =
      ((told ((obey command).run H bus).1, { c with nextRequestId := c.nextRequestId + 1 }),
        ⟨((obey command).run H bus).2, []⟩) := by
  refine order_outcome H hReads ⟨method, params, typed, hUnderstood.request hRequest⟩ ?_
    hController _ bus
  change serveMethod { jsonrpc := "2.0", method, params := typed, id := none } = _
  rw [hRequest.serveMethod, serveCommand, hRequest.commandFromRequest]
  rfl

theorem accepted_outcome {method : String} {params : Json.Value} {typed : JsonRpcParams}
    {command : ControllerCommand} (hRequest : ServoRequest method params typed command)
    (hAccepted : ∀ result, Answers command result → result = .accepted) {message : ServoMessage}
    (hMessage : ∀ ids, message ≠ .readPositions ids) {action : String}
    (hReply : Replies message [.ok .accepted] (.ok (.complete action))) {c : BridgeConnection}
    (hController : c.transport = .controller) (bus : σ) :
    ∃ reply, Replies message [((obey command).run H bus).1] reply ∧
      outcome (controller fromSlice H)
          (do
            let result ← controllerRequest serde method params
            expectControllerAccepted result
            pure (ServerMessage.complete action)) c ⟨bus, []⟩ =
        ((reply, { c with nextRequestId := c.nextRequestId + 1 }),
          ⟨((obey command).run H bus).2, []⟩) := by
  rw [outcome_bind, request_outcome H hReads hUnderstood hRequest hController]
  generalize hResult : ((obey command).run H bus).1 = result
  cases result with
  | error failure => exact ⟨_, .failed hMessage, rfl⟩
  | ok result =>
    obtain rfl := hAccepted result (obey_answers command H bus hResult)
    exact ⟨_, hReply, rfl⟩

theorem position_outcome {id : UInt8} (hId : Host.isUnicastServoId id = true)
    {c : BridgeConnection} (hController : c.transport = .controller) (bus : σ) :
    ∃ answer : Except RpcFailure Int,
      ((obey (.getPosition id)).run H bus).1 =
        answer.map (fun position => .position ⟨id, position⟩) ∧
      outcome (controller fromSlice H) (Host.readPosition serde id) c ⟨bus, []⟩ =
        ((answer.mapError failureText, { c with nextRequestId := c.nextRequestId + 1 }),
          ⟨((obey (.getPosition id)).run H bus).2, []⟩) := by
  have hValid : validateId id = pure () := by
    rw [validateId, hId]
    rfl
  unfold Host.readPosition
  rw [hValid, pure_bind, outcome_bind, outcome_isController, hController]
  simp only [decide_true, if_true]
  rw [outcome_bind, request_outcome H hReads hUnderstood (.readPosition id) hController]
  generalize hResult : ((obey (.getPosition id)).run H bus).1 = result
  cases result with
  | error failure =>
    refine ⟨.error failure, rfl, ?_⟩
    rw [← hController]
    rfl
  | ok result =>
    obtain ⟨position, rfl, hRange⟩ := obey_answers _ H bus hResult
    have hPosition : serde.position (ControllerResult.toJson (.position ⟨id, position⟩)) =
        .ok ⟨id, position⟩ := hUnderstood.position hRange
    refine ⟨.ok position, rfl, ?_⟩
    simp only [told, hPosition, ne_eq, not_true_eq_false, if_false]
    rw [← hController]
    rfl

theorem positions_outcome {ids : List UInt8} (hIds : ∀ id ∈ ids, Host.isUnicastServoId id = true)
    (positions : List Position) (errors : List String) {c : BridgeConnection}
    (hController : c.transport = .controller) (bus : σ) :
    outcome (controller fromSlice H) (Host.readPositionsFrom serde ids positions errors)
        c ⟨bus, []⟩ =
      ((.ok (.positions (positions ++ foundIn (obeyAll H (ids.map .getPosition) bus).1)
          (errors ++ faultsIn ids (obeyAll H (ids.map .getPosition) bus).1)),
        { c with nextRequestId := c.nextRequestId + UInt32.ofNat ids.length }),
        ⟨(obeyAll H (ids.map .getPosition) bus).2, []⟩) := by
  induction ids generalizing positions errors c bus with
  | nil =>
    simp only [List.map_nil, obeyAll, foundIn, faultsIn, List.append_nil]
    rw [Host.readPositionsFrom]
    simp
    rfl
  | cons id ids ih =>
    obtain ⟨answer, hResult, hRead⟩ := position_outcome H hReads hUnderstood
      (hIds id List.mem_cons_self) hController bus
    have hRest := ih (fun id hMem => hIds id (List.mem_cons_of_mem _ hMem))
    have hNext : ({ c with nextRequestId := c.nextRequestId + 1 } : BridgeConnection).transport =
        .controller := hController
    have hId : c.nextRequestId + 1 + UInt32.ofNat ids.length =
        c.nextRequestId + UInt32.ofNat (ids.length + 1) := by
      rw [UInt32.ofNat_add, UInt32.add_assoc, UInt32.add_comm 1]
      rfl
    rw [List.map_cons, obeyAll, readPositionsFrom_cons, hRead, hResult]
    cases answer with
    | ok position =>
      change outcome _
        (Host.readPositionsFrom serde ids (positions ++ [⟨id, position⟩]) errors) _ _ = _
      rw [hRest _ _ hNext, hId]
      simp [foundIn, faultsIn, Except.map]
    | error failure =>
      have hUsable := usable_failureText failure
      change (if connectionIsUsableAfter (failureText failure) = true then _ else _) = _
      rw [if_pos hUsable, hRest _ _ hNext, hId]
      simp [foundIn, faultsIn, Except.map]

omit hReads hUnderstood in
theorem validated_outcome {α : Type} {id : UInt8} (hId : Host.isUnicastServoId id = true)
    {p : Bridge α} {c : BridgeConnection} (s : Remote σ) :
    outcome (controller fromSlice H) (validateId id >>= fun _ => p) c s =
      outcome (controller fromSlice H) p c s := by
  rw [validateId, hId]
  rfl

omit hReads hUnderstood in
theorem byController_outcome {α : Type} {p q : Bridge α} {c : BridgeConnection}
    (hController : c.transport = .controller) (s : Remote σ) :
    outcome (controller fromSlice H) (do if ← isController then p else q) c s =
      outcome (controller fromSlice H) p c s := by
  rw [outcome_bind, outcome_isController, hController]
  simp only [decide_true, if_true]

variable (hScan : ∀ startId endId n,
  fromSlice (requestText n "servo.scan" (scanParams startId endId)) =
    some { jsonrpc := "2.0", method := "servo.scan",
           params := { startId := some startId, endId := some endId }, id := some n })

include hScan

omit hUnderstood in
theorem scan_outcome {startId endId : UInt8} (hRange : IsScanRange startId endId)
    {c : BridgeConnection} (hController : c.transport = .controller) (bus : σ) :
    ∃ reply, Replies (.scanServos startId endId)
        [((obey (.scanServos startId endId)).run H bus).1] reply ∧
      outcome (controller fromSlice H) (Host.scanServos serde startId endId) c ⟨bus, []⟩ =
        ((reply, { c with nextRequestId := c.nextRequestId + 1 }),
          ⟨((obey (.scanServos startId endId)).run H bus).2, []⟩) := by
  have hValid : validateScanRange startId endId = pure () :=
    if_neg ((isScanRange_iff startId endId).mp hRange)
  let call : RemoteCall fromSlice :=
    ⟨"servo.scan", scanParams startId endId, _, hScan startId endId⟩
  have hProgram : call.program = obey (.scanServos startId endId) := rfl
  have hCall := order_outcome H hReads call hProgram hController servoScanTimeoutMs bus
  dsimp only [call, scanParams] at hCall
  unfold Host.scanServos
  rw [hValid, pure_bind, byController_outcome H hController, outcome_bind, hCall]
  generalize hResult : ((obey (.scanServos startId endId)).run H bus).1 = result
  cases result with
  | error failure => exact ⟨_, .failed (by simp), rfl⟩
  | ok result =>
    obtain ⟨ids, rfl, hWithin⟩ := obey_answers _ H bus hResult
    refine ⟨_, .scanned, ?_⟩
    simp only [told, hReads.scan, firstInvalidScanId_none hRange hWithin]
    rfl

/-- Between the browser's side of the host and the servos a message is the commands it stands
for: the bus is left as they leave it, and the reply is made of their results. -/
theorem serveMessage_orders {message : ServoMessage} (hProper : Proper message)
    {c : BridgeConnection} (hController : c.transport = .controller) (bus : σ) :
    ∃ reply, Replies message (obeyAll H (orders message) bus).1 reply ∧
      outcome (controller fromSlice H) (serveMessage serde message) c ⟨bus, []⟩ =
        ((reply,
          { c with nextRequestId := c.nextRequestId + UInt32.ofNat (orders message).length }),
          ⟨(obeyAll H (orders message) bus).2, []⟩) := by
  cases message with
  | startMotor id speed acceleration direction =>
    obtain ⟨hId, hSpeed⟩ := hProper
    rw [serveMessage]
    unfold Host.startMotor
    rw [validated_outcome H hId]
    simp only [if_neg hSpeed]
    rw [byController_outcome H hController]
    exact accepted_outcome H hReads hUnderstood (.startMotor id speed acceleration direction)
      (fun _ h => h) (by simp) .started hController bus
  | stopMotor id =>
    rw [serveMessage]
    unfold Host.stopMotor
    rw [validated_outcome H hProper, byController_outcome H hController]
    exact accepted_outcome H hReads hUnderstood (.stopMotor id) (fun _ h => h) (by simp) .stopped
      hController bus
  | movePosition id position acceleration torqueLimit =>
    obtain ⟨hId, hPosition, hTorque⟩ := hProper
    rw [serveMessage]
    unfold Host.movePosition
    rw [validated_outcome H hId]
    simp only [if_neg hPosition, if_neg hTorque]
    rw [byController_outcome H hController]
    exact accepted_outcome H hReads hUnderstood (.movePosition id position acceleration torqueLimit)
      (fun _ h => h) (by simp) .moved hController bus
  | readPosition id =>
    obtain ⟨answer, hResult, hRead⟩ := position_outcome H hReads hUnderstood hProper hController bus
    rw [serveMessage, outcome_bind, hRead]
    simp only [orders, obeyAll, hResult]
    cases answer with
    | error failure => exact ⟨_, .failed (by simp), rfl⟩
    | ok position => exact ⟨_, .position, rfl⟩
  | readPositions ids =>
    obtain ⟨hSix, hIds⟩ := hProper
    refine ⟨_, .positions, ?_⟩
    rw [serveMessage, Host.readPositions, if_neg (Nat.not_lt.mpr hSix),
      positions_outcome H hReads hUnderstood hIds [] [] hController]
    simp [orders]
  | scanServos startId endId => exact scan_outcome H hReads hScan hProper hController bus

end Host

end Fetchline.Modes
