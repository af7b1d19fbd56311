import Fetchline.Library.Recording
import Fetchline.Modes.Readers
import Fetchline.Modes.Scan

/-! # Calls of the host over any bus

Whatever the bus of the firmware is like, a call of the host comes back with what
the command of the firmware did on it.
-/

namespace Fetchline.Modes

open Effects Effects.Program Bounded Host

variable {σ : Type} (fromSlice : String → Option JsonRpcRequest)

/-- The firmware over its bus, and the responses it has sent. -/
structure Remote (σ : Type) where
  bus : σ
  inbox : List String

/-- The firmware behind a network that loses nothing and is never late. -/
def controller (H : Handler BusOp BusOp.Reply σ) : Handler NetOp NetOp.Reply (Remote σ)
  | remote, .sendText text =>
    let (response, bus) := (handleJsonRpc fromSlice jsonRpcBufferSize text).run H remote.bus
    (Timed.done (),
      { bus, inbox := remote.inbox ++ (response.map fun r => r.response.text).toList })
  | remote, .nextMessage _ =>
    match remote.inbox with
    | [] => (Timed.timedOut, remote)
    | text :: inbox => (Timed.done (some (.text text)), { remote with inbox })
  | remote, .sendPong _ => (Except.ok (), remote)
  | remote, .writeStream _ | remote, .readExact _ => (Timed.timedOut, remote)

/-- A call that the firmware reads as `typed`. -/
structure RemoteCall where
  method : String
  params : Json.Value
  typed : JsonRpcParams
  read : ∀ n, fromSlice (requestText n method params) =
    some { jsonrpc := "2.0", method, params := typed, id := some n }

/-- What the firmware does for a call. -/
def RemoteCall.program {fromSlice : String → Option JsonRpcRequest} (call : RemoteCall fromSlice) :
    Bus (Except RpcFailure ControllerResult) :=
  serveMethod { jsonrpc := "2.0", method := call.method, params := call.typed, id := none }

/-- The host reads each response of the firmware as what it was written from. -/
structure ResponsesRead (serde : Serde) : Prop where
  success : ∀ {result}, Producible result → ∀ n,
    serde.response (Response.success result n).text =
      .ok { jsonrpc := "2.0", id := some n, result := some result.toJson, error := none }
  error : ∀ {failure}, failure ∈ RpcFailure.all → ∀ n,
    serde.response (Response.error failure (some n)).text =
      .ok { jsonrpc := "2.0", id := some n, result := none,
            error := some ⟨failure.code, failure.message⟩ }
  scan : ∀ ids, serde.scan (ControllerResult.servos ids).toJson = .ok ids.toList

def scanParams (startId endId : UInt8) : Json.Value :=
  .object [("endId", .number endId.toNat), ("startId", .number startId.toNat)]

/-- What the host makes of the answer to a call. -/
def told : Except RpcFailure ControllerResult → Except String Json.Value
  | .ok result => .ok result.toJson
  | .error failure =>
    let code := failure.code
    let message := failure.message
    .error s!"MCU JSON-RPC error {code}: {message}"

section Calls

variable {fromSlice} {serde : Serde} (H : Handler BusOp BusOp.Reply σ)

theorem RemoteCall.answerable (call : RemoteCall fromSlice) (bus : σ) :
    Answerable (call.program.run H bus).1 := by
  obtain ⟨-, hAnswerable⟩ := (serveMethod_answerable _).ran H bus
  exact hAnswerable

theorem RemoteCall.handleJsonRpc_run (call : RemoteCall fromSlice) (n : UInt32) (bus : σ) :
    (handleJsonRpc fromSlice jsonRpcBufferSize (requestText n call.method call.params)).run H bus =
      (encodeResult jsonRpcBufferSize (some n) (call.program.run H bus).1,
        (call.program.run H bus).2) := by
  rw [handleJsonRpc, call.read n]
  simp only [ne_eq, not_true_eq_false, if_false]
  rw [run_bind]
  rfl

theorem encodeResult_reads (hReads : ResponsesRead serde) (n : UInt32)
    {result : Except RpcFailure ControllerResult} (h : Answerable result) :
    ∃ encoded response, encodeResult jsonRpcBufferSize (some n) result = some encoded ∧
      serde.response encoded.response.text = .ok response ∧ response.jsonrpc = "2.0" ∧
      response.id = some n ∧ controllerResult response = told result := by
  cases result with
  | ok result =>
    exact ⟨⟨_, success_fits h n⟩, _, dif_pos (success_fits h n), hReads.success h n, rfl, rfl, rfl⟩
  | error failure =>
    exact ⟨⟨_, error_fits h (some n)⟩, _, dif_pos (error_fits h (some n)), hReads.error h n, rfl,
      rfl, rfl⟩

theorem awaitResponse_controller {text : String} {response : ControllerJsonRpcResponse} {n : UInt32}
    (hText : serde.response text = .ok response) (hVersion : response.jsonrpc = "2.0")
    (hId : response.id = some n) (timeoutMs budget : Nat) (c : BridgeConnection) (bus : σ) :
    outcome (controller fromSlice H) (awaitResponse serde n timeoutMs (budget + 1)) c ⟨bus, [text]⟩ =
      ((controllerResult response, c), ⟨bus, []⟩) := by
  have hMessage : outcome (controller fromSlice H) (nextMessage timeoutMs) c ⟨bus, [text]⟩ =
      ((.ok (.done (some (.text text))), c), ⟨bus, []⟩) := rfl
  rw [awaitResponse, outcome_bind, hMessage]
  simp only [hText, hVersion, hId, ne_eq, not_true_eq_false, if_false]
  rfl

theorem call_outcome (hReads : ResponsesRead serde) (call : RemoteCall fromSlice)
    {c : BridgeConnection} (hController : c.transport = .controller) (timeoutMs : Nat) (bus : σ) :
    outcome (controller fromSlice H)
        (controllerRequestWithTimeout serde call.method call.params timeoutMs) c ⟨bus, []⟩ =
      ((told (call.program.run H bus).1, { c with nextRequestId := c.nextRequestId + 1 }),
        ⟨(call.program.run H bus).2, []⟩) := by
  have hId : outcome (controller fromSlice H) nextRequestId c ⟨bus, []⟩ =
      ((.ok c.nextRequestId, { c with nextRequestId := c.nextRequestId + 1 }), ⟨bus, []⟩) := rfl
  obtain ⟨encoded, response, hEncoded, hText, hVersion, hResponse, hTold⟩ :=
    encodeResult_reads hReads c.nextRequestId (call.answerable H bus)
  have hHandled := call.handleJsonRpc_run H c.nextRequestId bus
  rw [hEncoded] at hHandled
  have hSent (c' : BridgeConnection) : outcome (controller fromSlice H)
      (sendText (requestText c.nextRequestId call.method call.params)) c' ⟨bus, []⟩ =
        ((.ok (.done ()), c'), ⟨(call.program.run H bus).2, [encoded.response.text]⟩) := by
    have hRemote : controller fromSlice H ⟨bus, []⟩
        (.sendText (requestText c.nextRequestId call.method call.params)) =
          (Timed.done (), ⟨(call.program.run H bus).2, [encoded.response.text]⟩) := by
      simp only [controller, hHandled, List.nil_append]
      rfl
    exact congrArg (fun x : Timed Unit × Remote σ => ((Except.ok x.1, c'), x.2)) hRemote
  rw [controllerRequestWithTimeout, outcome_bind, hId]
  simp only
  rw [outcome_bind, outcome_isController, hController]
  simp only [decide_true, if_true]
  rw [outcome_bind, hSent]
  simp only
  rw [← hTold]
  exact awaitResponse_controller H hText hVersion hResponse _ _ _ _

end Calls

theorem readResponse_result (result : ControllerResult) (n : UInt32) :
    readResponse (Response.success result n).toJson =
      some { jsonrpc := "2.0", id := some n, result := some result.toJson, error := none } := by
  have hNull : result.toJson ≠ .null := by
    cases result with
    | rawTunnel active => cases active <;> simp [ControllerResult.toJson]
    | _ => simp [ControllerResult.toJson, PositionResult.toJson]
  have hResult : optionalField (Response.success result n).toJson "result" some =
      some (some result.toJson) := by
    have hField : (Response.success result n).toJson.get "result" = some result.toJson := by
      simp [Response.toJson, Json.Value.get, List.lookup_cons]
    rw [optionalField, hField]
    split
    · rename_i hNone
      cases hNone
    · rename_i hNull'
      exact absurd (Option.some.inj hNull') hNull
    · rename_i hSome
      rw [Option.map_some, Option.some.inj hSome]
  have hVersion : ((Response.success result n).toJson.get "jsonrpc").bind Json.Value.asString =
      some "2.0" := by
    simp [Response.toJson, Json.Value.get, Json.Value.asString]
  have hId : optionalField (Response.success result n).toJson "id" readU32 = some (some n) := by
    simp [Response.toJson, optionalField, Json.Value.get, List.lookup_cons]
  have hError : optionalField (Response.success result n).toJson "error" readError = some none := by
    simp [Response.toJson, optionalField, Json.Value.get, List.lookup_cons]
  simp [readResponse, hVersion, hId, hResult, hError]

theorem readResponse_failure {failure : RpcFailure} (h : failure ∈ RpcFailure.all) (n : UInt32) :
    readResponse (Response.error failure (some n)).toJson =
      some { jsonrpc := "2.0", id := some n, result := none,
             error := some ⟨failure.code, failure.message⟩ } := by
  have hCode : ∀ failure ∈ RpcFailure.all,
      -2147483648 ≤ failure.code ∧ failure.code ≤ 2147483647 := by
    decide +kernel
  simp [readResponse, readError, Response.toJson, Json.Value.get, List.lookup_cons,
    Json.Value.asString, Json.Value.asInt, optionalField, hCode failure h]

theorem readScan_servos (ids : BoundedVec UInt8 maxScanResults) :
    readScan (ControllerResult.servos ids).toJson = some ids.toList := by
  have hIds (ids : List UInt8) :
      (ids.map fun id => Json.Value.number id.toNat).mapM readU8 = some ids := by
    induction ids with
    | nil => rfl
    | cons id ids ih => simp [ih]
  simp [readScan, ControllerResult.toJson, Json.Value.get, Json.Value.asArray,
    hIds]

theorem responses_read : ResponsesRead responseReader where
  success _ n := responseReader_text (readResponse_result _ n)
  error h n := responseReader_text (readResponse_failure h n)
  scan ids := by simp only [responseReader, readScan_servos, orInvalid]

theorem requestReader_scan (startId endId : UInt8) (n : UInt32) :
    requestReader (requestText n "servo.scan" (scanParams startId endId)) =
      some { jsonrpc := "2.0", method := "servo.scan",
             params := { startId := some startId, endId := some endId }, id := some n } := by
  apply requestReader_requestText
  simp [readParams, scanParams, Json.Value.get, List.lookup_cons, optionalField]

section Calls

variable {fromSlice} {serde : Serde} (H : Handler BusOp BusOp.Reply σ)

/-- What the calls of a connection come back with, one after the other. -/
def callEach (serde : Serde) : List (RemoteCall fromSlice × Nat) → BridgeConnection → Remote σ →
    List (Except String Json.Value) × BridgeConnection × Remote σ
  | [], c, remote => ([], c, remote)
  | (first, timeoutMs) :: calls, c, remote =>
    let called := outcome (controller fromSlice H)
      (controllerRequestWithTimeout serde first.method first.params timeoutMs) c remote
    let rest := callEach serde calls called.1.2 called.2
    (called.1.1 :: rest.1, rest.2)

/-- The same commands, run one after the other on the bus. -/
def runEach : List (RemoteCall fromSlice × Nat) → σ →
    List (Except RpcFailure ControllerResult) × σ
  | [], bus => ([], bus)
  | (first, _) :: calls, bus =>
    let rest := runEach calls (first.program.run H bus).2
    ((first.program.run H bus).1 :: rest.1, rest.2)

/-- Between the host and its MCU the calls of a connection are the commands themselves, run
in their order on the bus: each call comes back with its own result, whatever the bus does
and however many calls there are. -/
theorem calls_are_commands (hReads : ResponsesRead serde)
    (calls : List (RemoteCall fromSlice × Nat)) {c : BridgeConnection}
    (hController : c.transport = .controller) (bus : σ) :
    callEach H serde calls c ⟨bus, []⟩ =
      ((runEach H calls bus).1.map told,
        { c with nextRequestId := c.nextRequestId + UInt32.ofNat calls.length },
        ⟨(runEach H calls bus).2, []⟩) := by
  induction calls generalizing c bus with
  | nil => simp [callEach, runEach]
  | cons first calls ih =>
    obtain ⟨first, timeoutMs⟩ := first
    have hCall := call_outcome H hReads first hController timeoutMs bus
    have hNext : ({ c with nextRequestId := c.nextRequestId + 1 } : BridgeConnection).transport =
        .controller := hController
    have hId : c.nextRequestId + 1 + UInt32.ofNat calls.length =
        c.nextRequestId + UInt32.ofNat (calls.length + 1) := by
      rw [UInt32.ofNat_add, UInt32.add_assoc, UInt32.add_comm 1]
      rfl
    rw [callEach, hCall]
    simp only
    rw [ih hNext]
    simp only [List.length_cons, hId]
    rfl

end Calls

def pingCall : RemoteCall requestReader where
  method := "system.ping"
  params := .object []
  typed := {}
  read n := requestReader_requestText (by simp [readParams, Json.Value.get, optionalField]) n

def scanCall (startId endId : UInt8) : RemoteCall requestReader where
  method := "servo.scan"
  params := scanParams startId endId
  typed := { startId := some startId, endId := some endId }
  read := requestReader_scan startId endId

/-- The only servo is the one at address 2. -/
def secondServo (id : UInt8) : List UInt8 := if id = 2 then statusFrame 2 0 [] else []

theorem calls_are_commands_scan :
    (callEach (line secondServo) responseReader
        [(pingCall, servoTimeoutMs), (scanCall 1 3, servoScanTimeoutMs)]
        ⟨"mcu:3333", .controller, 0xffffffff⟩ ⟨⟨[], []⟩, []⟩).1 =
      [.ok (.object [("ready", .bool true)]), .ok (.object [("ids", .array [.number 2])])] := by
  rw [calls_are_commands (line secondServo) responses_read _ rfl]
  rfl

section Scans

variable {fromSlice} {serde : Serde}

variable (replies : UInt8 → List UInt8) (wire : Wire)

theorem executeScan_line {startId endId : UInt8} {ids : BoundedVec UInt8 maxScanResults}
    {wire' : Wire} (h : (scanServos startId endId).run.run (line replies) wire = (.ok ids, wire')) :
    (executeCommand (.scanServos startId endId)).run (line replies) wire =
      (.ok (.servos ids), wire') := by
  have hCommand : (runCommand (.scanServos startId endId)).run.run (line replies) wire =
      (.ok (.servos ids), wire') := by
    rw [runCommand, servo_bind_run, h]
    rfl
  rw [executeCommand]
  change ((runCommand (.scanServos startId endId)).run >>= _).run (line replies) wire = _
  rw [run_bind, hCommand]
  rfl

theorem scanCall_line {call : RemoteCall fromSlice} {startId endId : UInt8}
    (hMethod : call.method = "servo.scan")
    (hTyped : call.typed = { startId := some startId, endId := some endId })
    {ids : BoundedVec UInt8 maxScanResults} {wire' : Wire}
    (h : (scanServos startId endId).run.run (line replies) wire = (.ok ids, wire')) :
    call.program.run (line replies) wire = (.ok (.servos ids), wire') := by
  have hExecuted := executeScan_line replies wire h
  rw [RemoteCall.program, hMethod, hTyped]
  change ((executeCommand (.scanServos startId endId)) >>= fun result =>
    pure (result.mapError ServoFailure.rpcFailure)).run (line replies) wire = _
  rw [run_bind, hExecuted]
  rfl

theorem firstInvalidScanId_none {startId endId : UInt8} (hRange : IsScanRange startId endId)
    {ids : List UInt8} (h : ∀ id ∈ ids, startId ≤ id ∧ id ≤ endId) :
    firstInvalidScanId startId endId ids = none := by
  rw [firstInvalidScanId, List.find?_eq_none]
  intro id hMem
  obtain ⟨hLow, hHigh⟩ := h id hMem
  have hUnicast : Host.isUnicastServoId id = true := by
    rw [← (isUnicastServoId_iff id).mpr
      ⟨UInt8.le_trans hRange.1 hLow, UInt8.le_trans hHigh hRange.2.2⟩]
    simp only [Fetchline.isUnicastServoId, Host.isUnicastServoId, bne, decide_not]
    rfl
  simp [UInt8.not_lt.mpr hLow, hUnicast, hHigh]

/-- A scan that the browser asks for goes through the host and the firmware to the bus: the
browser gets the addresses whose first status came without an error, in their order, and a
range that is none is turned down before anything is sent. -/
theorem scan_through_the_controller (hReads : ResponsesRead serde)
    (hScan : ∀ startId endId n,
      fromSlice (requestText n "servo.scan" (scanParams startId endId)) =
        some { jsonrpc := "2.0", method := "servo.scan",
               params := { startId := some startId, endId := some endId }, id := some n })
    {c : BridgeConnection} (hController : c.transport = .controller) (startId endId : UInt8) :
    (IsScanRange startId endId → ∃ ids unread,
      outcome (controller fromSlice (line replies)) (serveMessage serde (.scanServos startId endId))
          c ⟨wire, []⟩ =
        ((.ok (.servoScan startId endId ids), { c with nextRequestId := c.nextRequestId + 1 }),
          ⟨⟨wire.packets ++ (addresses startId endId).map pingPacket, unread⟩, []⟩) ∧
      ids.Pairwise (· < ·) ∧
      ∀ id, id ∈ ids ↔ startId ≤ id ∧ id ≤ endId ∧
        FirstStatus id 0 (lineAt replies startId wire.unread id ++ replies id)) ∧
    (¬ IsScanRange startId endId →
      outcome (controller fromSlice (line replies)) (serveMessage serde (.scanServos startId endId))
          c ⟨wire, []⟩ =
        ((.error "Servo search IDs must be between 1 and 253, with a start no greater than the end",
          c), ⟨wire, []⟩)) := by
  constructor
  · intro hRange
    obtain ⟨ids, unread, hRun, hSorted, hMem⟩ := scanServos_line replies wire hRange
    have hCall := call_outcome (line replies) hReads
      ⟨"servo.scan", scanParams startId endId, _, hScan startId endId⟩ hController
      servoScanTimeoutMs wire
    rw [scanCall_line replies wire rfl rfl hRun] at hCall
    dsimp only [scanParams] at hCall
    have hValid : validateScanRange startId endId = pure () :=
      if_neg ((isScanRange_iff startId endId).mp hRange)
    have hNone := firstInvalidScanId_none hRange fun id hId =>
      ⟨((hMem id).mp hId).1, ((hMem id).mp hId).2.1⟩
    refine ⟨ids.toList, unread, ?_, hSorted, hMem⟩
    rw [serveMessage, Host.scanServos, hValid, pure_bind, outcome_bind, outcome_isController,
      hController]
    simp only [decide_true, if_true]
    rw [outcome_bind]
    rw [hCall]
    simp only [told, hReads.scan, hNone]
    rw [← hController]
    rfl
  · intro hRange
    have hInvalid : validateScanRange startId endId = throw
        "Servo search IDs must be between 1 and 253, with a start no greater than the end" :=
      if_pos (not_not.mp ((isScanRange_iff startId endId).not.mp hRange))
    rw [serveMessage, Host.scanServos, hInvalid]
    rfl

end Scans

theorem scan_through_the_controller_second :
    ∃ ids unread, outcome (controller requestReader (line secondServo))
        (serveMessage responseReader (.scanServos 1 3)) ⟨"mcu:3333", .controller, 1⟩
          ⟨⟨[], []⟩, []⟩ =
      ((.ok (.servoScan 1 3 ids), ⟨"mcu:3333", .controller, 2⟩),
        ⟨⟨[] ++ (addresses 1 3).map pingPacket, unread⟩, []⟩) ∧ ids.Pairwise (· < ·) := by
  obtain ⟨ids, unread, hScan, hSorted, -⟩ := (scan_through_the_controller secondServo ⟨[], []⟩
    responses_read requestReader_scan (c := ⟨"mcu:3333", .controller, 1⟩) rfl 1 3).1 (by decide)
  exact ⟨ids, unread, hScan, hSorted⟩

end Fetchline.Modes
