import Fetchline.Firmware.BusRules
import Fetchline.Library.JsonSize

/-! # Every request gets at most one response, and it fits

How many bytes a response can take, and what `handle_json_rpc` answers.
-/

namespace Fetchline

open Effects Effects.Program Bounded Json

/-- The results a command can produce: positions are `i16`s, and a scan finds each
address at most once. -/
def Producible : ControllerResult → Prop
  | .position p => -32768 ≤ p.position ∧ p.position ≤ 32767
  | .positions ps => ∀ p ∈ ps.toList, -32768 ≤ p.position ∧ p.position ≤ 32767
  | .servos ids => ids.toList.Nodup ∧ ∀ id ∈ ids.toList, 1 ≤ id ∧ id ≤ 253
  | _ => True

theorem byteSize_id (id : UInt8) : byteSize (Value.number id.toNat).chars ≤ 3 :=
  byteSize_natural_le (by decide) (Nat.lt_trans id.toNat_lt (by decide))

theorem byteSize_position {p : PositionResult} (h : -32768 ≤ p.position ∧ p.position ≤ 32767) :
    byteSize p.toJson.chars ≤ 29 := by
  have hId := byteSize_id p.id
  have hPosition : byteSize (Value.number p.position).chars ≤ 6 :=
    byteSize_number_le (by decide) (by omega)
  refine (byteSize_object_le _).trans ?_
  simp only [List.map_cons, List.map_nil, List.sum_cons, List.sum_nil,
    show byteSize (quoted "id") = 4 by decide,
    show byteSize (quoted "position") = 10 by decide]
  omega

theorem byteSize_addresses :
    ((List.range' 1 253).map fun n => byteSize (Value.number (n : Nat)).chars + 1).sum = 904 := by
  decide +kernel

theorem byteSize_scan {ids : List UInt8} (hNodup : ids.Nodup)
    (hRange : ∀ id ∈ ids, 1 ≤ id ∧ id ≤ 253) :
    (ids.map fun id => byteSize (Value.number id.toNat).chars + 1).sum ≤ 904 := by
  have hSubperm : (ids.map UInt8.toNat).Subperm (List.range' 1 253) := by
    apply List.subperm_of_subset (hNodup.map fun _ _ => UInt8.toNat_inj.mp)
    intro n hn
    obtain ⟨id, hId, rfl⟩ := List.mem_map.mp hn
    obtain ⟨hLow, hHigh⟩ := hRange id hId
    rw [UInt8.le_iff_toNat_le] at hLow hHigh
    rw [List.mem_range'_1]
    exact ⟨hLow, Nat.lt_succ_of_le hHigh⟩
  rw [← byteSize_addresses]
  obtain ⟨ids', hPerm, hSublist⟩ := hSubperm
  have hSum := (hSublist.map fun n => byteSize (Value.number (n : Nat)).chars + 1).sum_le_sum
    fun _ _ => Nat.zero_le _
  rw [(hPerm.map _).sum_eq, List.map_map] at hSum
  exact hSum

theorem byteSize_result {result : ControllerResult} (h : Producible result) :
    byteSize result.toJson.chars ≤ 917 := by
  cases result with
  | ready => decide
  | accepted => decide
  | position p => exact (byteSize_position h).trans (by decide)
  | positions ps =>
    have hItems : ((ps.toList.map PositionResult.toJson).map fun v => byteSize v.chars + 1).sum ≤
        (ps.toList.map PositionResult.toJson).length * 30 := by
      have hSum := List.sum_le_card_nsmul
        ((ps.toList.map PositionResult.toJson).map fun v => byteSize v.chars + 1) 30
      rw [List.length_map] at hSum
      apply hSum
      intro n hn
      obtain ⟨v, hv, rfl⟩ := List.mem_map.mp hn
      obtain ⟨p, hp, rfl⟩ := List.mem_map.mp hv
      exact Nat.succ_le_succ (byteSize_position (h p hp))
    have hLength : ps.toList.length ≤ 6 := ps.bounded
    have hArray := byteSize_array_le (ps.toList.map PositionResult.toJson)
    rw [List.length_map] at hItems
    refine (byteSize_object_le _).trans ?_
    simp only [List.map_cons, List.map_nil, List.sum_cons, List.sum_nil,
      show byteSize (quoted "positions") = 11 by decide]
    omega
  | servos ids =>
    have hArray := byteSize_array_le (ids.toList.map fun id => Value.number id.toNat)
    have hItems : ((ids.toList.map fun id => Value.number id.toNat).map
        fun v => byteSize v.chars + 1).sum ≤ 904 := by
      rw [List.map_map]
      exact byteSize_scan h.1 h.2
    refine (byteSize_object_le _).trans ?_
    simp only [List.map_cons, List.map_nil, List.sum_cons, List.sum_nil,
      show byteSize (quoted "ids") = 5 by decide]
    omega
  | rawTunnel active => cases active <;> decide

theorem byteSize_u32 (id : UInt32) : byteSize (Value.number id.toNat).chars ≤ 10 :=
  byteSize_natural_le (by decide) (Nat.lt_trans id.toNat_lt (by decide))

theorem byteSize_response (key : String) (value id : Value) :
    byteSize (Value.object [("jsonrpc", .string "2.0"), (key, value), ("id", id)]).chars ≤
      byteSize (quoted key) + byteSize value.chars + byteSize id.chars + 26 := by
  refine (byteSize_object_le _).trans ?_
  simp only [List.map_cons, List.map_nil, List.sum_cons, List.sum_nil,
    show byteSize (quoted "jsonrpc") = 9 by decide,
    show byteSize (quoted "id") = 4 by decide,
    show byteSize (Value.string "2.0").chars = 5 by decide]
  omega

theorem success_fits {result : ControllerResult} (h : Producible result) (id : UInt32) :
    (Response.success result id).text.utf8ByteSize ≤ jsonRpcBufferSize := by
  have hId := byteSize_u32 id
  have hResult := byteSize_result h
  rw [Response.text, Value.compact, utf8ByteSize_eq_byteSize]
  refine (byteSize_response "result" result.toJson (.number id.toNat)).trans ?_
  rw [show byteSize (quoted "result") = 8 by decide, jsonRpcBufferSize]
  omega

namespace RpcFailure

/-- The errors a request can end with. -/
def all : List RpcFailure := [parseError, invalidRequest, methodNotFound, invalidParams,
  rawTunnelActive, servoTimeout, servoReply, servoReportedError, servoTransport]

end RpcFailure

theorem ServoFailure.rpcFailure_mem (failure : ServoFailure) :
    failure.rpcFailure ∈ RpcFailure.all := by
  cases failure <;> decide

theorem byteSize_failure : ∀ failure ∈ RpcFailure.all,
    byteSize (Value.object [("code", .number failure.code),
      ("message", .string failure.message)]).chars ≤ 60 := by decide

theorem error_fits {failure : RpcFailure} (h : failure ∈ RpcFailure.all) (id : Option UInt32) :
    (Response.error failure id).text.utf8ByteSize ≤ jsonRpcBufferSize := by
  have hId : byteSize ((id.map fun id => Value.number id.toNat).getD .null).chars ≤ 10 := by
    cases id with
    | none => decide
    | some id => exact byteSize_u32 id
  have hFailure := byteSize_failure failure h
  rw [Response.text, Value.compact, utf8ByteSize_eq_byteSize]
  refine (byteSize_response "error" _ _).trans ?_
  rw [show byteSize (quoted "error") = 7 by decide, jsonRpcBufferSize]
  omega

theorem decodeSigned15_range (value : UInt16) :
    -32768 ≤ decodeSigned15 value ∧ decodeSigned15 value ≤ 32767 := by
  have hValue := value.toNat_lt
  rw [decodeSigned15]
  split
  · have hLow : (value &&& 0x7fff).toNat ≤ 0x7fff := by
      rw [UInt16.toNat_and]
      exact Nat.and_le_right
    omega
  · rename_i hSign
    have hBit : value.toNat &&& 2 ^ 15 = 0 := by
      have hNat := congrArg UInt16.toNat (not_not.mp hSign)
      rwa [UInt16.toNat_and] at hNat
    have hHigh : value.toNat.testBit 15 = false := by
      have hTest := congrArg (Nat.testBit · 15) hBit
      simpa only [Nat.testBit_and, Nat.testBit_two_pow_self, Bool.and_true, Nat.zero_testBit]
        using hTest
    rw [Nat.testBit_eq_decide_div_mod_eq, decide_eq_false_iff_not] at hHigh
    omega

theorem readPosition_range (id : UInt8) :
    (readPosition id).run.Obeys Discipline.free ()
      (exits (fun position _ => -32768 ≤ position ∧ position ≤ 32767) fun _ _ => True) := by
  have hAny {α : Type} {p : Servo α} : p.run.Obeys (Discipline.free : Discipline BusOp BusOp.Reply Unit)
      () (exits (fun _ _ => True) fun _ _ => True) := obeys_free (by rintro (_ | _) <;> trivial)
  apply hAny.andThen
  intro _ _ _
  apply hAny.andThen
  intro status _ _
  split
  · exact decodeSigned15_range _
  · trivial

theorem readPositionsFrom_range (ids : List UInt8)
    (positions : BoundedVec PositionResult maxPositionBatch)
    (h : ∀ p ∈ positions.toList, -32768 ≤ p.position ∧ p.position ≤ 32767) :
    (readPositionsFrom ids positions).run.Obeys Discipline.free ()
      (exits (fun positions _ => ∀ p ∈ positions.toList, -32768 ≤ p.position ∧ p.position ≤ 32767)
        fun _ _ => True) := by
  induction ids generalizing positions with
  | nil => exact h
  | cons id ids ih =>
    apply (readPosition_range id).andThen
    intro position _ hPosition
    split
    · trivial
    · rename_i positions' hPush
      apply ih
      rw [BoundedVec.toList_of_push hPush]
      intro p hp
      rcases List.mem_append.mp hp with hp | hp
      · exact h p hp
      · rw [List.mem_singleton.mp hp]
        exact hPosition

theorem probeServo_found (id : UInt8) (ids : BoundedVec UInt8 maxScanResults) :
    (probeServo id ids).run.Obeys Discipline.free ()
      (exits (fun ids' _ => ids' = ids ∨ ids'.toList = ids.toList ++ [id]) fun _ _ => True) := by
  have hPing : (pingServo id).run.Obeys Discipline.free () fun _ _ => True :=
    obeys_free fun _ => trivial
  have hDrain {Q : Except ServoFailure (BoundedVec UInt8 maxScanResults) → Unit → Prop}
      {result : Except ServoFailure (BoundedVec UInt8 maxScanResults)} (h : Q result ()) :
      (resynchronizeUart >>= fun _ => pure result).Obeys Discipline.free () Q :=
    Obeys.bind (obeys_free (Q := fun _ _ => True) fun _ => trivial) fun _ _ _ => h
  apply hPing.bind
  rintro (failure | _) _ _
  · cases failure
    case transport => exact hDrain trivial
    all_goals exact hDrain (.inl rfl)
  · dsimp only
    split
    · trivial
    · rename_i hPush
      exact .inr (BoundedVec.toList_of_push hPush)

/-- The addresses found so far and those still to be probed. -/
structure Ascending (ids : List UInt8) (rawIds : List Nat) : Prop where
  sorted : (ids.map UInt8.toNat ++ rawIds).Pairwise (· < ·)
  range : ∀ n ∈ ids.map UInt8.toNat ++ rawIds, 1 ≤ n ∧ n ≤ 253

theorem Ascending.skip {ids : List UInt8} {rawId : Nat} {rawIds : List Nat}
    (h : Ascending ids (rawId :: rawIds)) : Ascending ids rawIds := by
  have hSublist : (ids.map UInt8.toNat ++ rawIds).Sublist (ids.map UInt8.toNat ++ rawId :: rawIds) :=
    (List.sublist_cons_self rawId rawIds).append_left _
  exact ⟨h.sorted.sublist hSublist, fun n hn => h.range n (hSublist.subset hn)⟩

theorem Ascending.toNat_next {ids : List UInt8} {rawId : Nat} {rawIds : List Nat}
    (h : Ascending ids (rawId :: rawIds)) : (UInt8.ofNat rawId).toNat = rawId := by
  have hRange := h.range rawId (List.mem_append_right _ List.mem_cons_self)
  exact UInt8.toNat_ofNat_of_lt' (Nat.lt_of_le_of_lt hRange.2 (by decide))

theorem Ascending.found {ids : List UInt8} {rawId : Nat} {rawIds : List Nat}
    (h : Ascending ids (rawId :: rawIds)) : Ascending (ids ++ [UInt8.ofNat rawId]) rawIds := by
  have hSame : (ids ++ [UInt8.ofNat rawId]).map UInt8.toNat ++ rawIds =
      ids.map UInt8.toNat ++ rawId :: rawIds := by
    rw [List.map_append, List.map_cons, List.map_nil, h.toNat_next, List.append_assoc,
      List.singleton_append]
  exact ⟨hSame ▸ h.sorted, hSame ▸ h.range⟩

theorem Ascending.room {ids : BoundedVec UInt8 maxScanResults} {rawId : Nat} {rawIds : List Nat}
    (h : Ascending ids.toList (rawId :: rawIds)) : ids.toList.length < maxScanResults := by
  have hSubset : ids.toList.map UInt8.toNat ++ rawId :: rawIds ⊆ List.range' 1 253 := by
    intro n hn
    obtain ⟨hLow, hHigh⟩ := h.range n hn
    exact List.mem_range'_1.mpr ⟨hLow, by omega⟩
  have hLength := (List.subperm_of_subset (h.sorted.imp Nat.ne_of_lt) hSubset).length_le
  rw [List.length_append, List.length_map, List.length_cons, List.length_range'] at hLength
  change ids.toList.length < 253
  omega

theorem scanFrom_ascending (rawIds : List Nat) (ids : BoundedVec UInt8 maxScanResults)
    (h : Ascending ids.toList rawIds) :
    (scanFrom rawIds ids).run.Obeys Discipline.free ()
      (exits (fun ids' _ => Ascending ids'.toList []) fun _ _ => True) := by
  induction rawIds generalizing ids with
  | nil => exact h
  | cons rawId rawIds ih =>
    rw [scanFrom]
    split
    · exact ih ids h.skip
    · apply (probeServo_found _ ids).andThen
      rintro ids' _ (rfl | hFound)
      · exact ih ids' h.skip
      · apply ih
        rw [hFound]
        exact h.found

theorem scanRange_ascending {startId endId : UInt8}
    (h : ¬ (startId = 0 ∨ startId > endId ∨ endId > maxServoId)) :
    Ascending [] (List.range' startId.toNat (endId.toNat + 1 - startId.toNat)) where
  sorted := List.pairwise_lt_range'
  range := by
    obtain ⟨hStart, h⟩ := not_or.mp h
    obtain ⟨hOrder, hEnd⟩ := not_or.mp h
    intro n hn
    rw [List.map_nil, List.nil_append, List.mem_range'_1] at hn
    have hZero : startId.toNat ≠ 0 := fun hZero => hStart (UInt8.toNat_inj.mp hZero)
    have hOrder : startId.toNat ≤ endId.toNat := UInt8.le_iff_toNat_le.mp (UInt8.not_lt.mp hOrder)
    have hEnd : endId.toNat ≤ 253 := UInt8.le_iff_toNat_le.mp (UInt8.not_lt.mp hEnd)
    omega

theorem scanServos_ascending (startId endId : UInt8) :
    (scanServos startId endId).run.Obeys Discipline.free ()
      (exits (fun ids _ => Ascending ids.toList []) fun _ _ => True) := by
  rw [scanServos]
  split
  · trivial
  · rename_i hRange
    exact scanFrom_ascending _ .empty (scanRange_ascending hRange)

theorem Ascending.producible {ids : BoundedVec UInt8 maxScanResults}
    (h : Ascending ids.toList []) : Producible (.servos ids) := by
  obtain ⟨hSorted, hRange⟩ := h
  rw [List.append_nil] at hSorted hRange
  refine ⟨List.Nodup.of_map _ (hSorted.imp Nat.ne_of_lt), ?_⟩
  intro id hId
  exact hRange id.toNat (List.mem_map_of_mem hId)

theorem runCommand_producible (command : ControllerCommand) :
    (runCommand command).run.Obeys Discipline.free ()
      (exits (fun result _ => Producible result) fun _ _ => True) := by
  have hAny {α : Type} {p : Servo α} :
      p.run.Obeys Discipline.free () (exits (fun _ _ => True) fun _ _ => True) :=
    obeys_free (by rintro (_ | _) <;> trivial)
  cases command with
  | startMotor => exact hAny.andThen fun _ _ _ => trivial
  | stopMotor => exact hAny.andThen fun _ _ _ => trivial
  | setPosition => exact hAny.andThen fun _ _ _ => trivial
  | getPosition id => exact (readPosition_range id).andThen fun _ _ hPosition => hPosition
  | getPositions ids =>
    exact (readPositionsFrom_range ids.toList .empty (fun _ hp => nomatch hp)).andThen
      fun _ _ hPositions => hPositions
  | scanServos startId endId =>
    exact (scanServos_ascending startId endId).andThen fun _ _ hFound => hFound.producible

theorem executeCommand_producible (command : ControllerCommand) :
    (executeCommand command).Obeys Discipline.free ()
      (exits (fun result _ => Producible result) fun _ _ => True) := by
  refine ⟨trivial, fun _ => ⟨trivial, fun _ => ?_⟩⟩
  apply (runCommand_producible command).bind
  rintro (failure | result) _ hResult
  · exact (obeys_free (Q := fun _ _ => True) fun _ => trivial).bind fun _ _ _ => trivial
  · exact hResult

/-- What the methods of a request end with. -/
def Answerable : Except RpcFailure ControllerResult → Prop
  | .ok result => Producible result
  | .error failure => failure ∈ RpcFailure.all

theorem mem_of_required_bind {α β : Type} {o : Option α} {f : α → Except RpcFailure β}
    {failure : RpcFailure} (h : (required o >>= f) = .error failure)
    (hf : ∀ a, f a = .error failure → failure ∈ RpcFailure.all) : failure ∈ RpcFailure.all := by
  cases o with
  | some a => exact hf a h
  | none =>
    obtain rfl := Except.error.inj h
    decide

theorem commandFromRequest_mem {method : String} {params : JsonRpcParams} {failure : RpcFailure}
    (h : commandFromRequest method params = .error failure) : failure ∈ RpcFailure.all := by
  unfold commandFromRequest at h
  split at h
  case h_7 =>
    obtain rfl := Except.error.inj h
    decide
  all_goals
    repeat
      refine mem_of_required_bind h ?_
      clear h
      intro _ h
    cases h

theorem serveMethod_answerable (request : JsonRpcRequest) :
    (serveMethod request).Obeys Discipline.free () fun result _ => Answerable result := by
  have hActive : RpcFailure.rawTunnelActive ∈ RpcFailure.all := by decide
  refine Serves.serveMethod ⟨trivial, ⟨trivial, trivial⟩, ⟨trivial, trivial⟩, trivial, hActive,
    fun _ hCommand => commandFromRequest_mem hCommand, fun command => ?_⟩
  apply (executeCommand_producible command).mono
  rintro (failure | result) _ hResult
  · exact failure.rpcFailure_mem
  · exact hResult

/-- A JSON-RPC 2.0 response to a request with this id; without one the id is null. -/
structure CompleteResponse (v : Value) (id : Option UInt32) : Prop where
  jsonrpc : v.get "jsonrpc" = some (.string "2.0")
  oneOf : (v.get "result").isSome = !(v.get "error").isSome
  id : v.get "id" = some ((id.map fun id => Value.number id.toNat).getD .null)

/-- What `handle_json_rpc` may answer to a text that is parsed as `request`. -/
structure Answered (request : Option JsonRpcRequest)
    (answer : Option (EncodedResponse jsonRpcBufferSize)) : Prop where
  silent : answer = none ↔ ∃ r, request = some r ∧ r.jsonrpc = "2.0" ∧ r.id = none
  complete : ∀ encoded ∈ answer, ∃ v, encoded.response.text = v.compact ∧
    CompleteResponse v (request.bind (·.id))

theorem answered_of_toSlice {request : Option JsonRpcRequest} {r : Response}
    (hFits : r.text.utf8ByteSize ≤ jsonRpcBufferSize)
    (hLoud : ∀ q, request = some q → q.jsonrpc = "2.0" → q.id ≠ none)
    (hComplete : CompleteResponse r.toJson (request.bind (·.id))) :
    Answered request (r.toSlice jsonRpcBufferSize) := by
  rw [Response.toSlice, dif_pos hFits]
  constructor
  · simp only [reduceCtorEq, false_iff]
    rintro ⟨q, hq, hVersion, hId⟩
    exact hLoud q hq hVersion hId
  · rintro encoded ⟨⟩
    exact ⟨r.toJson, rfl, hComplete⟩

theorem error_complete (failure : RpcFailure) (id : Option UInt32) :
    CompleteResponse (Response.error failure id).toJson id := ⟨rfl, rfl, rfl⟩

theorem success_complete (result : ControllerResult) (id : UInt32) :
    CompleteResponse (Response.success result id).toJson (some id) := ⟨rfl, rfl, rfl⟩

theorem encodeResult_answered {request : JsonRpcRequest} (hVersion : request.jsonrpc = "2.0")
    {result : Except RpcFailure ControllerResult} (hResult : Answerable result) :
    Answered (some request) (encodeResult jsonRpcBufferSize request.id result) := by
  rcases hId : request.id with _ | id
  · rw [show encodeResult jsonRpcBufferSize none result = none by cases result <;> rfl]
    refine ⟨iff_of_true rfl ⟨request, rfl, hVersion, hId⟩, ?_⟩
    intro encoded hEncoded
    cases hEncoded
  · have hLoud : ∀ q, some request = some q → q.jsonrpc = "2.0" → q.id ≠ none := by
      rintro _ ⟨⟩ -
      rw [hId]
      nofun
    have hBind : (some request).bind (·.id) = some id := hId
    rcases result with failure | result
    · exact answered_of_toSlice (error_fits hResult (some id)) hLoud
        (hBind ▸ error_complete failure (some id))
    · exact answered_of_toSlice (success_fits hResult id) hLoud
        (hBind ▸ success_complete result id)

theorem handleJsonRpc_answered (fromSlice : String → Option JsonRpcRequest) (text : String) :
    (handleJsonRpc fromSlice jsonRpcBufferSize text).Obeys Discipline.free ()
      fun answer _ => Answered (fromSlice text) answer := by
  apply handleJsonRpc_obeys
  · intro hParsed
    rw [hParsed]
    have hParse : RpcFailure.parseError ∈ RpcFailure.all := by decide
    refine answered_of_toSlice (error_fits hParse none) ?_ (error_complete _ none)
    intro q hq
    cases hq
  · intro request hParsed hVersion
    rw [hParsed]
    have hInvalid : RpcFailure.invalidRequest ∈ RpcFailure.all := by decide
    refine answered_of_toSlice (error_fits hInvalid request.id) ?_ (error_complete _ request.id)
    rintro _ ⟨⟩ h
    exact absurd h hVersion
  · intro request hParsed hVersion
    rw [hParsed]
    apply (serveMethod_answerable request).mono
    intro result _ hResult
    exact encodeResult_answered hVersion hResult

theorem one_fitting_response (fromSlice : String → Option JsonRpcRequest) :
    (∀ text trace answer,
      Steps (handleJsonRpc fromSlice jsonRpcBufferSize text) trace (.done answer) →
      Answered (fromSlice text) answer) ∧
    (∀ command trace result, Steps (executeCommand command) trace (.done (.ok result)) →
      Producible result) ∧
    ∀ (result : ControllerResult) (id : UInt32), Producible result →
      ∃ encoded, encodeSuccess jsonRpcBufferSize id result = some encoded := by
  refine ⟨?_, ?_, ?_⟩
  · intro text trace answer hSteps
    exact (handleJsonRpc_answered fromSlice text).result hSteps
  · intro command trace result hSteps
    exact (executeCommand_producible command).result hSteps
  · intro result id hResult
    exact ⟨_, dif_pos (success_fits hResult id)⟩

theorem one_fitting_response_ping :
    let ping (id : Option UInt32) : String → Option JsonRpcRequest :=
      fun _ => some { jsonrpc := "2.0", method := "system.ping", id }
    (∃ encoded, Steps (handleJsonRpc (ping (some 7)) jsonRpcBufferSize "") []
        (.done (some encoded)) ∧
      Answered (ping (some 7) "") (some encoded)) ∧
    Steps (handleJsonRpc (ping none) jsonRpcBufferSize "") [] (.done none) ∧
    Answered (ping none "") none := by
  intro ping
  obtain ⟨encoded, hEncoded⟩ := (one_fitting_response (ping (some 7))).2.2 .ready 7 trivial
  have hLoud : handleJsonRpc (ping (some 7)) jsonRpcBufferSize "" = .done (some encoded) :=
    congrArg Program.done hEncoded
  have hSilent : handleJsonRpc (ping none) jsonRpcBufferSize "" = .done none := rfl
  refine ⟨⟨encoded, hLoud ▸ .refl _, ?_⟩, hSilent ▸ .refl _, ?_⟩
  · exact (one_fitting_response (ping (some 7))).1 "" [] _ (hLoud ▸ .refl _)
  · exact (one_fitting_response (ping none)).1 "" [] _ (hSilent ▸ .refl _)

end Fetchline
