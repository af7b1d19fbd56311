import Fetchline.Library.JsonReader
import Fetchline.Modes.Call

/-! # Readers that understand the other side

The derived decoders of both programs, over the reader of compact texts. With
them every text that one side writes is read on the other side as what it was
written from.
-/

namespace Fetchline.Modes

open Bounded Host

/-- An optional field with a default; `null` counts as absent. -/
def optionalField {α : Type} (v : Json.Value) (name : String) (read : Json.Value → Option α) :
    Option (Option α) :=
  match v.get name with
  | none | some .null => some none
  | some field => (read field).map some

def readUnsigned {α : Type} (size : Nat) (ofNat : Nat → α) (v : Json.Value) : Option α :=
  v.asInt.bind fun n => if 0 ≤ n ∧ n < size then some (ofNat n.toNat) else none

def readU8 : Json.Value → Option UInt8 := readUnsigned UInt8.size UInt8.ofNat
def readU16 : Json.Value → Option UInt16 := readUnsigned UInt16.size UInt16.ofNat
def readU32 : Json.Value → Option UInt32 := readUnsigned UInt32.size UInt32.ofNat

def readDirection (v : Json.Value) : Option MotorDirection :=
  match v.asString with
  | some "clockwise" => some .clockwise
  | some "counterclockwise" => some .counterclockwise
  | _ => none

def readIds (v : Json.Value) : Option (BoundedVec UInt8 maxPositionBatch) :=
  (v.asArray.bind fun items => items.mapM readU8).bind fun ids =>
    if h : ids.length ≤ maxPositionBatch then some ⟨ids, h⟩ else none

def readParams (v : Json.Value) : Option JsonRpcParams := do
  let id ← optionalField v "id" readU8
  let speed ← optionalField v "speed" readU16
  let acceleration ← optionalField v "acceleration" readU8
  let direction ← optionalField v "direction" readDirection
  let position ← optionalField v "position" readU16
  let torqueLimit ← optionalField v "torqueLimit" readU16
  let ids ← optionalField v "ids" readIds
  let startId ← optionalField v "startId" readU8
  let endId ← optionalField v "endId" readU8
  some { id, speed, acceleration, direction, position, torqueLimit, ids, startId, endId }

def readRequest (v : Json.Value) : Option JsonRpcRequest := do
  let jsonrpc ← (v.get "jsonrpc").bind Json.Value.asString
  let method ← (v.get "method").bind Json.Value.asString
  let params ← match v.get "params" with
    | none => some {}
    | some params => readParams params
  let id ← optionalField v "id" readU32
  some { jsonrpc, method, params, id }

def requestReader (text : String) : Option JsonRpcRequest := (Json.parse text).bind readRequest

def readError (v : Json.Value) : Option ControllerJsonRpcError := do
  let code ← (v.get "code").bind Json.Value.asInt
  let message ← (v.get "message").bind Json.Value.asString
  if -2147483648 ≤ code ∧ code ≤ 2147483647 then some ⟨code, message⟩ else none

def readResponse (v : Json.Value) : Option ControllerJsonRpcResponse := do
  let jsonrpc ← (v.get "jsonrpc").bind Json.Value.asString
  let id ← optionalField v "id" readU32
  let result ← optionalField v "result" some
  let error ← optionalField v "error" readError
  some { jsonrpc, id, result, error }

def readPosition (v : Json.Value) : Option Position := do
  let id ← (v.get "id").bind readU8
  let position ← (v.get "position").bind Json.Value.asInt
  if -32768 ≤ position ∧ position ≤ 32767 then some ⟨id, position⟩ else none

def readScan (v : Json.Value) : Option (List UInt8) := do
  let ids ← (v.get "ids").bind Json.Value.asArray
  ids.mapM readU8

def orInvalid {α : Type} : Option α → Except String α
  | some a => .ok a
  | none => .error "invalid value"

def responseReader : Serde where
  response text := orInvalid ((Json.parse text).bind readResponse)
  position v := orInvalid (readPosition v)
  scan v := orInvalid (readScan v)

theorem readUnsigned_number {α : Type} {size : Nat} {ofNat : Nat → α} {n : Nat} (h : n < size) :
    readUnsigned size ofNat (.number n) = some (ofNat n) := by
  have hRange : 0 ≤ (n : Int) ∧ (n : Int) < size := ⟨Int.natCast_nonneg n, Int.ofNat_lt.mpr h⟩
  rw [readUnsigned, Json.Value.asInt, Option.bind_some, if_pos hRange, Int.toNat_natCast]

@[simp] theorem readU8_number (n : UInt8) : readU8 (.number n.toNat) = some n := by
  rw [readU8, readUnsigned_number n.toNat_lt, UInt8.ofNat_toNat]

@[simp] theorem readU16_number (n : UInt16) : readU16 (.number n.toNat) = some n := by
  rw [readU16, readUnsigned_number n.toNat_lt, UInt16.ofNat_toNat]

@[simp] theorem readU32_number (n : UInt32) : readU32 (.number n.toNat) = some n := by
  rw [readU32, readUnsigned_number n.toNat_lt, UInt32.ofNat_toNat]

theorem requestReader_requestText {method : String} {params : Json.Value} {typed : JsonRpcParams}
    (h : readParams params = some typed) (n : UInt32) :
    requestReader (requestText n method params) =
      some { jsonrpc := "2.0", method, params := typed, id := some n } := by
  rw [requestReader, requestText, Json.parse_compact, Option.bind_some]
  simp [readRequest, Json.Value.get, List.lookup_cons, Json.Value.asString, optionalField, h]

theorem readPosition_toJson {p : PositionResult} (h : ServoResult (.position p)) :
    readPosition p.toJson = some ⟨p.id, p.position⟩ := by
  obtain ⟨hLow, hHigh⟩ := h
  simp [readPosition, PositionResult.toJson, Json.Value.get, List.lookup_cons, Json.Value.asInt, hLow,
    hHigh]

theorem readResponse_success {result : ControllerResult} (h : ServoResult result) (n : UInt32) :
    readResponse (Response.success result n).toJson =
      some { jsonrpc := "2.0", id := some n, result := some result.toJson, error := none } := by
  cases result with
  | accepted =>
    simp [readResponse, Response.toJson, ControllerResult.toJson, Json.Value.get, List.lookup_cons,
      Json.Value.asString, optionalField]
  | position p =>
    simp [readResponse, Response.toJson, ControllerResult.toJson, PositionResult.toJson,
      Json.Value.get, List.lookup_cons, Json.Value.asString, optionalField]
  | _ => exact h.elim

theorem readResponse_error (failure : ServoFailure) (n : UInt32) :
    readResponse (Response.error failure.rpcFailure (some n)).toJson =
      some { jsonrpc := "2.0", id := some n, result := none,
             error := some ⟨failure.rpcFailure.code, failure.rpcFailure.message⟩ } := by
  have hCode : -2147483648 ≤ failure.rpcFailure.code ∧ failure.rpcFailure.code ≤ 2147483647 := by
    cases failure <;> decide
  simp [readResponse, readError, Response.toJson, Json.Value.get, List.lookup_cons, Json.Value.asString,
    Json.Value.asInt, optionalField, hCode]

theorem responseReader_text {response : Response} {read : ControllerJsonRpcResponse}
    (h : readResponse response.toJson = some read) :
    responseReader.response response.text = .ok read := by
  change orInvalid ((Json.parse response.toJson.compact).bind readResponse) = .ok read
  rw [Json.parse_compact, Option.bind_some, h]
  rfl

theorem requestReader_request {method : String} {params : Json.Value} {typed : JsonRpcParams}
    {command : ControllerCommand} (h : ServoRequest method params typed command) (n : UInt32) :
    requestReader (requestText n method params) =
      some { jsonrpc := "2.0", method, params := typed, id := some n } := by
  apply requestReader_requestText
  cases h with
  | startMotor id speed acceleration direction =>
    cases direction <;>
      simp [readParams, startMotorParams, Json.Value.get, List.lookup_cons, Json.Value.asString,
        optionalField, readDirection]
  | movePosition id position acceleration torqueLimit =>
    simp [readParams, movePositionParams, Json.Value.get, List.lookup_cons, optionalField]
  | _ => simp [readParams, servoIdParams, Json.Value.get, List.lookup_cons, optionalField]

theorem responseReader_position {p : PositionResult} (h : ServoResult (.position p)) :
    responseReader.position p.toJson = .ok ⟨p.id, p.position⟩ := by
  simp only [responseReader, readPosition_toJson h, orInvalid]

theorem readers_understand : Understood requestReader responseReader where
  request := requestReader_request
  success h n := responseReader_text (readResponse_success h n)
  error failure n := responseReader_text (readResponse_error failure n)
  position := responseReader_position

end Fetchline.Modes
