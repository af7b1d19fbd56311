import Fetchline.Firmware.Responses
import Fetchline.Modes.Transaction

/-! # One JSON-RPC call in controller mode

A call of the host runs the firmware's command on the bus and comes back with
its result.
-/

namespace Fetchline.Modes

open Effects Effects.Program Host

/-- The requests of the host for servo commands, and what they are read as. -/
inductive ServoRequest : String → Json.Value → JsonRpcParams → ControllerCommand → Prop where
  | startMotor (id : UInt8) (speed : UInt16) (acceleration : UInt8) (direction : Direction) :
    ServoRequest "motor.start" (startMotorParams id speed acceleration direction)
      { id := some id, speed := some speed, acceleration := some acceleration,
        direction := some (match direction with
          | .clockwise => .clockwise
          | .counterclockwise => .counterclockwise) }
      (.startMotor id (direction = .counterclockwise) speed acceleration)
  | stopMotor (id : UInt8) :
    ServoRequest "motor.stop" (servoIdParams id) { id := some id } (.stopMotor id)
  | movePosition (id : UInt8) (position : UInt16) (acceleration : UInt8) (torqueLimit : UInt16) :
    ServoRequest "servo.setPosition" (movePositionParams id position acceleration torqueLimit)
      { id := some id, position := some position, acceleration := some acceleration,
        torqueLimit := some torqueLimit }
      (.setPosition id position acceleration torqueLimit)
  | readPosition (id : UInt8) :
    ServoRequest "servo.getPosition" (servoIdParams id) { id := some id } (.getPosition id)

/-- The results of these commands; positions are `i16`s. -/
def ServoResult : ControllerResult → Prop
  | .accepted => True
  | .position p => -32768 ≤ p.position ∧ p.position ≤ 32767
  | _ => False

/-- Each side reads the texts of the other side as what they were written from. -/
structure Understood (fromSlice : String → Option JsonRpcRequest) (serde : Serde) : Prop where
  request : ∀ {method params typed command}, ServoRequest method params typed command →
    ∀ n, fromSlice (requestText n method params) =
      some { jsonrpc := "2.0", method, params := typed, id := some n }
  success : ∀ {result}, ServoResult result → ∀ n,
    serde.response (Response.success result n).text =
      .ok { jsonrpc := "2.0", id := some n, result := some result.toJson, error := none }
  error : ∀ (failure : ServoFailure) n,
    serde.response (Response.error failure.rpcFailure (some n)).text =
      .ok { jsonrpc := "2.0", id := some n, result := none,
            error := some ⟨failure.rpcFailure.code, failure.rpcFailure.message⟩ }
  position : ∀ {p : PositionResult}, ServoResult (.position p) →
    serde.position p.toJson = .ok ⟨p.id, p.position⟩

theorem ServoResult.producible {result : ControllerResult} (h : ServoResult result) :
    Producible result := by
  cases result with
  | position p => exact h
  | accepted => trivial
  | _ => exact h.elim

theorem encodeSuccess_fits {result : ControllerResult} (h : ServoResult result) (n : UInt32) :
    ∃ response, encodeSuccess jsonRpcBufferSize n result = some response ∧
      response.response = .success result n :=
  ⟨⟨_, success_fits h.producible n⟩, dif_pos (success_fits h.producible n), rfl⟩

theorem encodeError_fits (failure : ServoFailure) (n : UInt32) :
    ∃ response, encodeError jsonRpcBufferSize (some n) failure.rpcFailure = some response ∧
      response.response = .error failure.rpcFailure (some n) :=
  ⟨⟨_, error_fits failure.rpcFailure_mem (some n)⟩,
    dif_pos (error_fits failure.rpcFailure_mem (some n)), rfl⟩

variable {fromSlice : String → Option JsonRpcRequest} {serde : Serde} {oracle : Oracle}
variable {method : String} {params : Json.Value} {typed : JsonRpcParams}
variable {command : ControllerCommand}

theorem ServoRequest.commandFromRequest (h : ServoRequest method params typed command) :
    Fetchline.commandFromRequest method typed = .ok command := by
  cases h with
  | startMotor id speed acceleration direction => cases direction <;> rfl
  | _ => rfl

theorem ServoRequest.serveMethod (h : ServoRequest method params typed command)
    (id : Option UInt32) :
    serveMethod { jsonrpc := "2.0", method, params := typed, id } =
      serveCommand { jsonrpc := "2.0", method, params := typed, id } := by
  cases h <;> rfl

theorem serveCommand_run {request : JsonRpcRequest}
    (hCommand : commandFromRequest request.method request.params = .ok command) {wire wire' : Wire}
    {result : Except ServoFailure ControllerResult}
    (hRun : (executeCommand command).run (uart oracle) wire = (result, wire')) :
    (serveCommand request).run (uart oracle) wire =
      (result.mapError ServoFailure.rpcFailure, wire') := by
  rw [serveCommand, hCommand]
  change ((executeCommand command >>= fun result =>
    pure (result.mapError ServoFailure.rpcFailure)) : Bus (Except RpcFailure ControllerResult)).run
      (uart oracle) wire = _
  rw [run_bind, hRun]
  rfl

/-- What the host makes of the result of a command. -/
def reported : Except ServoFailure ControllerResult → Except String Json.Value
  | .ok result => .ok result.toJson
  | .error failure =>
    let code := failure.rpcFailure.code
    let message := failure.rpcFailure.message
    .error s!"MCU JSON-RPC error {code}: {message}"

theorem handleJsonRpc_run (hUnderstood : Understood fromSlice serde)
    (h : ServoRequest method params typed command) (n : UInt32) {wire wire' : Wire}
    {result : Except ServoFailure ControllerResult}
    (hRun : (executeCommand command).run (uart oracle) wire = (result, wire')) :
    (handleJsonRpc fromSlice jsonRpcBufferSize (requestText n method params)).run (uart oracle) wire =
      (encodeResult jsonRpcBufferSize (some n) (result.mapError ServoFailure.rpcFailure), wire') := by
  rw [handleJsonRpc, hUnderstood.request h n]
  simp only [ne_eq, not_true_eq_false, if_false]
  rw [h.serveMethod, run_bind, serveCommand_run h.commandFromRequest hRun]
  rfl

theorem awaitResponse_outcome {text : String} {response : ControllerJsonRpcResponse} {n : UInt32}
    (hText : serde.response text = .ok response) (hVersion : response.jsonrpc = "2.0")
    (hId : response.id = some n) (timeoutMs budget : Nat) (c : BridgeConnection) (wire : Wire) :
    outcome (mcu fromSlice oracle) (awaitResponse serde n timeoutMs (budget + 1)) c ⟨wire, [text]⟩ =
      ((controllerResult response, c), ⟨wire, []⟩) := by
  have hMessage : outcome (mcu fromSlice oracle) (nextMessage timeoutMs) c ⟨wire, [text]⟩ =
      ((.ok (.done (some (.text text))), c), ⟨wire, []⟩) := rfl
  rw [awaitResponse, outcome_bind, hMessage]
  simp only [hText, hVersion, hId, ne_eq, not_true_eq_false, if_false]
  rfl

theorem controllerRequest_outcome (hUnderstood : Understood fromSlice serde)
    (h : ServoRequest method params typed command) {c : BridgeConnection}
    (hController : c.transport = .controller) {wire wire' : Wire}
    {result : Except ServoFailure ControllerResult}
    (hRun : (executeCommand command).run (uart oracle) wire = (result, wire'))
    (hResult : ∀ r, result = .ok r → ServoResult r) :
    outcome (mcu fromSlice oracle) (controllerRequest serde method params) c ⟨wire, []⟩ =
      ((reported result, { c with nextRequestId := c.nextRequestId + 1 }), ⟨wire', []⟩) := by
  have hHandled := handleJsonRpc_run hUnderstood h c.nextRequestId hRun
  have hId : outcome (mcu fromSlice oracle) nextRequestId c ⟨wire, []⟩ =
      ((.ok c.nextRequestId, { c with nextRequestId := c.nextRequestId + 1 }), ⟨wire, []⟩) := rfl
  have hSent (c' : BridgeConnection) : outcome (mcu fromSlice oracle)
      (sendText (requestText c.nextRequestId method params)) c' ⟨wire, []⟩ = ((.ok (.done ()), c'),
        ⟨wire', ((encodeResult jsonRpcBufferSize (some c.nextRequestId)
          (result.mapError ServoFailure.rpcFailure)).map fun r => r.response.text).toList⟩) := by
    have hMcu : mcu fromSlice oracle ⟨wire, []⟩
        (.sendText (requestText c.nextRequestId method params)) = (Timed.done (),
          ⟨wire', ((encodeResult jsonRpcBufferSize (some c.nextRequestId)
            (result.mapError ServoFailure.rpcFailure)).map fun r => r.response.text).toList⟩) := by
      simp only [mcu, hHandled, List.nil_append]
      rfl
    exact congrArg (fun x : Timed Unit × Session => ((Except.ok x.1, c'), x.2)) hMcu
  rw [controllerRequest, controllerRequestWithTimeout, outcome_bind, hId]
  simp only
  rw [outcome_bind, outcome_isController, hController]
  simp only [decide_true, if_true]
  rw [outcome_bind, hSent]
  simp only
  cases result with
  | ok r =>
    obtain ⟨response, hResponse, hText⟩ := encodeSuccess_fits (hResult r rfl) c.nextRequestId
    have hRead := hUnderstood.success (hResult r rfl) c.nextRequestId
    have hEncoded : encodeResult jsonRpcBufferSize (some c.nextRequestId)
      ((Except.ok r).mapError ServoFailure.rpcFailure) = some response := hResponse
    rw [hEncoded, Option.map_some, hText, Option.toList_some]
    exact awaitResponse_outcome hRead rfl rfl _ _ _ _
  | error failure =>
    obtain ⟨response, hResponse, hText⟩ := encodeError_fits failure c.nextRequestId
    have hRead := hUnderstood.error failure c.nextRequestId
    have hEncoded : encodeResult jsonRpcBufferSize (some c.nextRequestId)
      ((Except.error failure).mapError ServoFailure.rpcFailure) = some response := hResponse
    rw [hEncoded, Option.map_some, hText, Option.toList_some]
    exact awaitResponse_outcome hRead rfl rfl _ _ _ _

end Fetchline.Modes
