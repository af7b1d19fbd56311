import Fetchline.Host.Calls

/-! # The calls of one connection

Any calls, one after the other on one connection, against any sequence of
incoming messages. Each message is taken by one call at most, and a call is
decided only by a response to it.
-/

namespace Fetchline.Host

open Effects Effects.Program

/-- Messages taken so far and texts sent so far. -/
structure Feed where
  taken : Nat
  sent : List String
deriving DecidableEq

/-- What arrives, in order, and how each attempt to send ends. -/
structure Script where
  incoming : Nat → Timed (Option WebSocketMessage)
  sending : Nat → Timed Unit
  ponging : Nat → Except String Unit

def Script.play (script : Script) : Handler NetOp NetOp.Reply Feed
  | feed, .nextMessage _ => (script.incoming feed.taken, { feed with taken := feed.taken + 1 })
  | feed, .sendText text =>
    (script.sending feed.sent.length, { feed with sent := feed.sent ++ [text] })
  | feed, .sendPong _ => (script.ponging feed.taken, feed)
  | feed, .writeStream _ | feed, .readExact _ => (Timed.timedOut, feed)

structure Request where
  method : String
  params : Json.Value
  timeoutMs : Nat

/-- A call that has returned: the counter's value when it began, what it sent, which
of the incoming messages it took (those from `first` to before `next`), its result. -/
structure CallRecord where
  request : Request
  id : UInt32
  sent : List String
  first : Nat
  next : Nat
  result : Except String Json.Value

section Conversation

variable (serde : Serde) (script : Script)

/-- The run of one call, with the connection and the feed it leaves behind. -/
def place (request : Request) (c : BridgeConnection) (feed : Feed) :
    (Except String Json.Value × BridgeConnection) × Feed :=
  ((controllerRequestWithTimeout serde request.method request.params request.timeoutMs).run.run c).run
    script.play feed

def converse : List Request → BridgeConnection → Feed → List CallRecord
  | [], _, _ => []
  | request :: requests, c, feed =>
    let placed := place serde script request c feed
    { request, id := c.nextRequestId, sent := placed.2.sent.drop feed.sent.length,
      first := feed.taken, next := placed.2.taken, result := placed.1.1 } ::
        converse requests placed.1.2 placed.2

end Conversation

/-- What the call returns comes from a response of the MCU. -/
def Decided (result : Except String Json.Value) : Prop :=
  match result with
  | .ok _ => True
  | .error error => "MCU JSON-RPC error".toList <+: error.toList

theorem not_decided_of_broken {error : String} (h : Broken error) : ¬ Decided (.error error) := by
  obtain ⟨text, hText, hPrefix⟩ := h
  intro hDecided
  have hDiffer : ∀ text ∈ brokenConnectionPrefixes,
      ¬ text.toList <+: "MCU JSON-RPC error".toList ∧
        ¬ "MCU JSON-RPC error".toList <+: text.toList := by
    decide +kernel
  obtain hShorter | hLonger := List.prefix_or_prefix_of_prefix hPrefix hDecided
  · exact (hDiffer text hText).1 hShorter
  · exact (hDiffer text hText).2 hLonger

variable {serde : Serde} {script : Script}

theorem follows_play {feed feed' : Feed} {exchanges : Log}
    (h : Follows script.play feed exchanges feed') :
    feed'.taken = feed.taken + (messages exchanges).length ∧
    feed'.sent = feed.sent ++ texts exchanges ∧
    messages exchanges =
      (List.range' feed.taken (messages exchanges).length).map script.incoming := by
  induction h with
  | nil feed => exact ⟨rfl, (List.append_nil _).symm, rfl⟩
  | @cons feed feed' op exchanges tail ih =>
    obtain ⟨hTaken, hSent, hMessages⟩ := ih
    cases op with
    | nextMessage timeoutMs =>
      refine ⟨hTaken.trans ?_, hSent, ?_⟩
      · exact Nat.succ_add_eq_add_succ _ _
      · change script.incoming feed.taken :: messages exchanges =
          (List.range' feed.taken ((messages exchanges).length + 1)).map script.incoming
        rw [List.range'_succ, List.map_cons]
        exact congrArg _ hMessages
    | sendText text =>
      refine ⟨hTaken, hSent.trans ?_, hMessages⟩
      change feed.sent ++ [text] ++ texts exchanges = feed.sent ++ text :: texts exchanges
      rw [List.append_assoc, List.singleton_append]
    | sendPong payload => exact ⟨hTaken, hSent, hMessages⟩
    | writeStream bytes => exact ⟨hTaken, hSent, hMessages⟩
    | readExact count => exact ⟨hTaken, hSent, hMessages⟩

/-- The message at this place decides the call. -/
structure DecidedBy (serde : Serde) (script : Script) (record : CallRecord) (k : Nat) : Prop where
  last : record.next = k + 1
  taken : record.first ≤ k
  response : ∃ text response, script.incoming k = .done (some (.text text)) ∧
    serde.response text = .ok response ∧ response.jsonrpc = "2.0" ∧
    response.id = some record.id ∧ controllerResult response = record.result
  stale : ∀ j, record.first ≤ j → j < k → ∀ text, script.incoming j = .done (some (.text text)) →
    ∃ response, serde.response text = .ok response ∧ response.id ≠ some record.id

/-- What is known of each call: the id it sends, how many messages it takes, and
what decides it. -/
structure CallRecord.Sound (serde : Serde) (script : Script) (record : CallRecord) : Prop where
  sent : record.sent = [requestText record.id record.request.method record.request.params]
  ordered : record.first ≤ record.next
  atMost : record.next ≤ record.first + maxStaleControllerResponses
  decided : Decided record.result → ∃ k, DecidedBy serde script record k

theorem decidedBy_of_answered {record : CallRecord} {exchanges : Log}
    (hNext : record.next = record.first + (messages exchanges).length)
    (hMessages : messages exchanges =
      (List.range' record.first (messages exchanges).length).map script.incoming)
    (h : AnsweredBy serde record.id (messages exchanges) record.result) :
    ∃ k, DecidedBy serde script record k := by
  obtain ⟨earlier, text, response, hLast, hRead, hVersion, hId, hResult, hStale⟩ := h
  rw [hLast, List.length_append, List.length_singleton] at hNext hMessages
  rw [List.range'_1_concat, List.map_append] at hMessages
  obtain ⟨hEarlier, hText⟩ := List.append_inj' hMessages rfl
  refine ⟨record.first + earlier.length, hNext, Nat.le_add_right _ _, ?_, ?_⟩
  · exact ⟨text, response, (List.cons.inj hText).1.symm, hRead, hVersion, hId, hResult⟩
  · intro j hFirst hLess stale hIncoming
    apply hStale stale
    rw [hEarlier, ← hIncoming]
    exact List.mem_map_of_mem (List.mem_range'_1.mpr ⟨hFirst, hLess⟩)

theorem place_sound (request : Request) {c : BridgeConnection} (feed : Feed)
    (hController : c.transport = .controller) :
    (place serde script request c feed).1.2.transport = .controller ∧
    (place serde script request c feed).1.2.nextRequestId = c.nextRequestId + 1 ∧
    CallRecord.Sound serde script
      { request, id := c.nextRequestId,
        sent := (place serde script request c feed).2.sent.drop feed.sent.length,
        first := feed.taken, next := (place serde script request c feed).2.taken,
        result := (place serde script request c feed).1.1 } := by
  obtain ⟨trace, hFollows, hConnection, sent, exchanges, hTrace, hWaited⟩ :=
    (controllerRequest_ends serde request.method request.params request.timeoutMs hController
      []).recorded script.play feed
  rw [List.nil_append, List.nil_append] at hTrace
  obtain ⟨hTaken, hSent, hMessages⟩ := follows_play hFollows
  have hMessagesTrace : messages trace = messages exchanges := by
    rw [hTrace]
    rfl
  have hTextsTrace : texts trace = [requestText c.nextRequestId request.method request.params] := by
    rw [hTrace]
    exact congrArg _ hWaited.noText
  rw [hMessagesTrace] at hTaken hMessages
  refine ⟨?_, congrArg BridgeConnection.nextRequestId hConnection, ?_, ?_, ?_, ?_⟩
  · exact (congrArg BridgeConnection.transport hConnection).trans hController
  · change List.drop _ (place serde script request c feed).2.sent = _
    rw [place, hSent, hTextsTrace, List.drop_left]
  · exact Nat.le.intro hTaken.symm
  · exact hTaken.trans_le (Nat.add_le_add_left hWaited.atMost _)
  · intro hDecided
    obtain hAnswered | ⟨error, hError, hBroken⟩ := hWaited.ending
    · exact decidedBy_of_answered hTaken hMessages hAnswered
    · exact absurd (hError ▸ hDecided) (not_decided_of_broken hBroken)

theorem converse_sound (requests : List Request) {c : BridgeConnection} (feed : Feed)
    (hController : c.transport = .controller) :
    ∀ record ∈ converse serde script requests c feed,
      record.Sound serde script ∧ feed.taken ≤ record.first := by
  induction requests generalizing c feed with
  | nil => nofun
  | cons request requests ih =>
    obtain ⟨hTransport, -, hSound⟩ := place_sound request feed hController
    intro record hMem
    obtain rfl | hTail := List.mem_cons.mp hMem
    · exact ⟨hSound, Nat.le_refl _⟩
    · obtain ⟨hRecord, hAfter⟩ := ih _ hTransport record hTail
      exact ⟨hRecord, hSound.ordered.trans hAfter⟩

/-- The messages that one call takes lie before those of the calls after it. -/
theorem converse_ordered (requests : List Request) {c : BridgeConnection} (feed : Feed)
    (hController : c.transport = .controller) :
    (converse serde script requests c feed).Pairwise fun earlier later =>
      earlier.next ≤ later.first := by
  induction requests generalizing c feed with
  | nil => exact .nil
  | cons request requests ih =>
    have hTransport : (place serde script request c feed).1.2.transport = .controller :=
      (place_sound request feed hController).1
    refine .cons (fun later hLater => ?_) (ih _ hTransport)
    exact (converse_sound requests _ hTransport later hLater).2

theorem converse_ids (requests : List Request) {c : BridgeConnection} (feed : Feed)
    (hController : c.transport = .controller) :
    (converse serde script requests c feed).map (·.id) =
      (List.range requests.length).map fun i => c.nextRequestId + UInt32.ofNat i := by
  induction requests generalizing c feed with
  | nil => rfl
  | cons request requests ih =>
    have hTransport : (place serde script request c feed).1.2.transport = .controller :=
      (place_sound request feed hController).1
    have hNext : (place serde script request c feed).1.2.nextRequestId = c.nextRequestId + 1 :=
      (place_sound request feed hController).2.1
    rw [converse, List.map_cons, ih _ hTransport, hNext, List.length_cons, List.range_succ_eq_map,
      List.map_cons, List.map_map]
    congr 1
    · exact (UInt32.add_zero _).symm
    · apply List.map_congr_left
      intro i _
      change c.nextRequestId + 1 + UInt32.ofNat i = c.nextRequestId + UInt32.ofNat (i + 1)
      rw [UInt32.ofNat_add, UInt32.add_assoc, UInt32.add_comm 1]
      rfl

theorem converse_before (requests : List Request) {c : BridgeConnection} (feed : Feed)
    (hController : c.transport = .controller) {i j : Nat} (h : i < j) {earlier later : CallRecord}
    (hEarlier : (converse serde script requests c feed)[i]? = some earlier)
    (hLater : (converse serde script requests c feed)[j]? = some later) :
    earlier.next ≤ later.first := by
  obtain ⟨hI, rfl⟩ := List.getElem?_eq_some_iff.mp hEarlier
  obtain ⟨hJ, rfl⟩ := List.getElem?_eq_some_iff.mp hLater
  exact List.pairwise_iff_getElem.mp (converse_ordered requests feed hController) i j hI hJ h

theorem converse_ids_nodup {requests : List Request} {c : BridgeConnection} (feed : Feed)
    (hController : c.transport = .controller) (hFew : requests.length < 2 ^ 32) :
    ((converse serde script requests c feed).map (·.id)).Nodup := by
  rw [converse_ids requests feed hController]
  refine List.Nodup.map_on ?_ List.nodup_range
  intro i hI j hJ hSame
  rw [List.mem_range] at hI hJ
  have hOffset : UInt32.ofNat i = UInt32.ofNat j := (UInt32.add_right_inj _).mp hSame
  have hToNat := congrArg UInt32.toNat hOffset
  rw [UInt32.toNat_ofNat_of_lt' (hI.trans hFew), UInt32.toNat_ofNat_of_lt' (hJ.trans hFew)] at hToNat
  exact hToNat

/-- A call that returns a result or an error of the MCU has been decided by the
response to its own request. -/
theorem response_answers_its_request (serde : Serde) (script : Script) (requests : List Request)
    (c : BridgeConnection) (feed : Feed) (hController : c.transport = .controller)
    (hFew : requests.length < 2 ^ 32) (i : Nat) (record : CallRecord)
    (hRecord : (converse serde script requests c feed)[i]? = some record) :
    record.sent = [requestText record.id record.request.method record.request.params] ∧
    record.next ≤ record.first + 32 ∧
    (Decided record.result → ∃ k, DecidedBy serde script record k ∧
      ∀ j other, j ≠ i → (converse serde script requests c feed)[j]? = some other →
        other.id ≠ record.id ∧ ¬ (other.first ≤ k ∧ k < other.next)) := by
  have hSound := (converse_sound requests feed hController record (List.mem_of_getElem? hRecord)).1
  refine ⟨hSound.sent, hSound.atMost, fun hDecided => ?_⟩
  obtain ⟨k, hDecidedBy⟩ := hSound.decided hDecided
  refine ⟨k, hDecidedBy, fun j other hOther hOtherRecord => ⟨?_, ?_⟩⟩
  · intro hSame
    have hNodup : ((converse serde script requests c feed).map (·.id)).Nodup :=
      converse_ids_nodup feed hController hFew
    have hIds {n : Nat} {r : CallRecord} (h : (converse serde script requests c feed)[n]? = some r) :
        ((converse serde script requests c feed).map (·.id))[n]? = some r.id := by
      rw [List.getElem?_map, h]
      rfl
    apply hOther
    refine (List.getElem?_inj ?_ hNodup).mp ((hIds hOtherRecord).trans ?_)
    · exact (List.getElem?_eq_some_iff.mp (hIds hOtherRecord)).1
    · rw [hSame, hIds hRecord]
  · rintro ⟨hFirst, hNext⟩
    have hLast := hDecidedBy.last
    have hTaken := hDecidedBy.taken
    obtain hEarlier | hLater := Nat.lt_or_gt_of_ne hOther
    · have hOrdered := converse_before requests feed hController hEarlier hOtherRecord hRecord
      omega
    · have hOrdered := converse_before requests feed hController hLater hRecord hOtherRecord
      omega

def readyResponse (id : UInt32) : ControllerJsonRpcResponse where
  jsonrpc := "2.0"
  id := some id
  result := some (.object [("ready", .bool true)])
  error := none

def readyText (id : String) : String :=
  "\x7b\"jsonrpc\":\"2.0\",\"id\":" ++ id ++ ",\"result\":\x7b\"ready\":true\x7d\x7d"

def readyReader : Serde where
  response text :=
    if text = readyText "1" then .ok (readyResponse 1)
    else if text = readyText "2" then .ok (readyResponse 2)
    else .error "expected value at line 1 column 1"
  position _ := .error "missing field"
  scan _ := .error "missing field"

/-- The first request runs into its deadline; the second one finds its response. -/
def lateScript : Script where
  incoming
    | 1 => .done (some (.text (readyText "1")))
    | 2 => .done (some (.text (readyText "2")))
    | _ => .timedOut
  sending _ := .done ()
  ponging _ := .ok ()

theorem response_answers_its_request_late :
    ∃ k, DecidedBy readyReader lateScript
      ⟨⟨"system.ping", .object [], 750⟩, 2, [requestText 2 "system.ping" (.object [])], 1, 3,
        .ok (.object [("ready", .bool true)])⟩ k := by
  obtain ⟨-, -, hDecided⟩ := response_answers_its_request readyReader lateScript
    [⟨"system.ping", .object [], 750⟩, ⟨"system.ping", .object [], 750⟩]
    ⟨"mcu:3333", .controller, 1⟩ ⟨0, []⟩ rfl (by decide) 1
    ⟨⟨"system.ping", .object [], 750⟩, 2, [requestText 2 "system.ping" (.object [])], 1, 3,
      .ok (.object [("ready", .bool true)])⟩ (by rfl)
  obtain ⟨k, hDecidedBy, -⟩ := hDecided trivial
  exact ⟨k, hDecidedBy⟩

end Fetchline.Host
