import Fetchline.Host.Bridge
import Fetchline.Library.Recording

/-! # What one JSON-RPC call exchanges with the MCU

Each call ends in one of two ways: with the response that carries its id, or
with an error that stands in the list of the broken connections.
-/

namespace Fetchline.Host

open Effects Effects.Program

abbrev Log := List (Exchange NetOp NetOp.Reply)

/-- Whatever the network replies, `q` ends with a result, a connection and a log such that `Q`. -/
def Ends {α : Type} (q : Bridge α) (c : BridgeConnection) (log : Log)
    (Q : Except String α → BridgeConnection → Log → Prop) : Prop :=
  (q.run.run c).Obeys Discipline.recording log fun r log' => Q r.1 r.2 log'

section Ends

variable {α β : Type} {c : BridgeConnection} {log : Log}

theorem ends_bind {q : Bridge α} {g : α → Bridge β}
    {Q : Except String β → BridgeConnection → Log → Prop} :
    Ends (q >>= g) c log Q ↔ Ends q c log fun r c' log' =>
      match r with
      | .ok a => Ends (g a) c' log' Q
      | .error error => Q (.error error) c' log' := by
  rw [Ends, ExceptT.run_bind, StateT.run_bind, obeys_bind]
  constructor <;> intro h <;> refine h.mono ?_ <;> rintro ⟨error | a, c'⟩ log' h' <;> exact h'

theorem ends_outcome {q : Bridge α} {k : Except String α → StateT BridgeConnection Net (Except String β)}
    {Q : Except String β → BridgeConnection → Log → Prop} :
    Ends (ExceptT.mk (q.run >>= k)) c log Q ↔
      Ends q c log fun r c' log' => Ends (ExceptT.mk (k r)) c' log' Q := by
  rw [Ends, ExceptT.run_mk, StateT.run_bind, obeys_bind]
  rfl

theorem Ends.mono {q : Bridge α} {Q R : Except String α → BridgeConnection → Log → Prop}
    (h : Ends q c log Q) (hQR : ∀ r c' log', Q r c' log' → R r c' log') : Ends q c log R :=
  Obeys.mono h fun r log' => hQR r.1 r.2 log'

@[simp] theorem ends_pure (a : α) (Q : Except String α → BridgeConnection → Log → Prop) :
    Ends (pure a) c log Q ↔ Q (.ok a) c log := Iff.rfl

@[simp] theorem ends_throw (error : String) (Q : Except String α → BridgeConnection → Log → Prop) :
    Ends (throw error) c log Q ↔ Q (.error error) c log := Iff.rfl

theorem ends_perform (op : NetOp) (Q : Except String op.Reply → BridgeConnection → Log → Prop) :
    Ends (perform op) c log Q ↔ ∀ reply, Q (.ok reply) c (log ++ [⟨op, reply⟩]) :=
  ⟨fun h => h.2, fun h => ⟨trivial, h⟩⟩

theorem ends_nextMessage (timeoutMs : Nat)
    (Q : Except String (Timed (Option WebSocketMessage)) → BridgeConnection → Log → Prop) :
    Ends (nextMessage timeoutMs) c log Q ↔
      ∀ message, Q (.ok message) c (log ++ [⟨.nextMessage timeoutMs, message⟩]) :=
  ends_perform (.nextMessage timeoutMs) Q

theorem ends_sendText (text : String)
    (Q : Except String (Timed Unit) → BridgeConnection → Log → Prop) :
    Ends (sendText text) c log Q ↔ ∀ sent, Q (.ok sent) c (log ++ [⟨.sendText text, sent⟩]) :=
  ends_perform (.sendText text) Q

theorem ends_sendPong (payload : List UInt8)
    (Q : Except String (Except String Unit) → BridgeConnection → Log → Prop) :
    Ends (sendPong payload) c log Q ↔
      ∀ ponged, Q (.ok ponged) c (log ++ [⟨.sendPong payload, ponged⟩]) :=
  ends_perform (.sendPong payload) Q

theorem ends_isController (Q : Except String Bool → BridgeConnection → Log → Prop) :
    Ends isController c log Q ↔ Q (.ok (c.transport = .controller)) c log := Iff.rfl

theorem ends_nextRequestId (Q : Except String UInt32 → BridgeConnection → Log → Prop) :
    Ends nextRequestId c log Q ↔
      Q (.ok c.nextRequestId) { c with nextRequestId := c.nextRequestId + 1 } log := Iff.rfl

end Ends

def received : Exchange NetOp NetOp.Reply → Option (Timed (Option WebSocketMessage))
  | ⟨.nextMessage _, reply⟩ => some reply
  | _ => none

def sentText : Exchange NetOp NetOp.Reply → Option String
  | ⟨.sendText text, _⟩ => some text
  | _ => none

/-- What has come out of the WebSocket, deadlines and failures included. -/
def messages (log : Log) : List (Timed (Option WebSocketMessage)) := log.filterMap received

/-- The texts given to the WebSocket, whether or not they got through. -/
def texts (log : Log) : List String := log.filterMap sentText

@[simp] theorem messages_append (log log' : Log) :
    messages (log ++ log') = messages log ++ messages log' := List.filterMap_append

@[simp] theorem texts_append (log log' : Log) : texts (log ++ log') = texts log ++ texts log' :=
  List.filterMap_append

def Broken (error : String) : Prop := ∃ text ∈ brokenConnectionPrefixes, text.toList <+: error.toList

theorem unusable_iff (error : String) : connectionIsUsableAfter error = false ↔ Broken error := by
  rw [connectionIsUsableAfter, Bool.not_eq_false', List.any_eq_true]
  simp only [Broken, List.isPrefixOf_iff_prefix]

theorem broken_text {error : String} (h : error ∈ brokenConnectionPrefixes) : Broken error :=
  ⟨error, h, List.prefix_rfl⟩

theorem broken_append (start : String) {text : String} (rest : String) (h : start ∈ brokenConnectionPrefixes)
    (hText : start.toList <+: text.toList) : Broken (text ++ rest) := by
  refine ⟨start, h, hText.trans ?_⟩
  rw [String.toList_append]
  exact List.prefix_append _ _

variable (serde : Serde)

/-- The last of these messages is a response with this id and decides the call;
no text before it has the id. -/
def AnsweredBy (requestId : UInt32) (messages : List (Timed (Option WebSocketMessage)))
    (result : Except String Json.Value) : Prop :=
  ∃ earlier text response, messages = earlier ++ [.done (some (.text text))] ∧
    serde.response text = .ok response ∧ response.jsonrpc = "2.0" ∧
    response.id = some requestId ∧ controllerResult response = result ∧
    ∀ stale, .done (some (.text stale)) ∈ earlier →
      ∃ other, serde.response stale = .ok other ∧ other.id ≠ some requestId

theorem AnsweredBy.cons {requestId : UInt32} {message : Timed (Option WebSocketMessage)}
    {messages : List (Timed (Option WebSocketMessage))} {result : Except String Json.Value}
    (h : AnsweredBy serde requestId messages result)
    (hStale : ∀ stale, message = .done (some (.text stale)) →
      ∃ other, serde.response stale = .ok other ∧ other.id ≠ some requestId) :
    AnsweredBy serde requestId (message :: messages) result := by
  obtain ⟨earlier, text, response, rfl, hRead, hVersion, hId, hResult, hEarlier⟩ := h
  refine ⟨message :: earlier, text, response, rfl, hRead, hVersion, hId, hResult, ?_⟩
  intro stale hMem
  obtain hHead | hTail := List.mem_cons.mp hMem
  · exact hStale stale hHead.symm
  · exact hEarlier stale hTail

/-- The exchanges of a wait for this id: no text is sent, at most `n` messages are taken. -/
structure Waited (requestId : UInt32) (n : Nat) (exchanges : Log)
    (result : Except String Json.Value) : Prop where
  noText : texts exchanges = []
  atMost : (messages exchanges).length ≤ n
  ending : AnsweredBy serde requestId (messages exchanges) result ∨
    ∃ error, result = .error error ∧ Broken error

theorem Waited.broken {requestId : UInt32} {n : Nat} {x : Exchange NetOp NetOp.Reply}
    {error : String} (hText : sentText x = none) (hBroken : Broken error) :
    Waited serde requestId (n + 1) [x] (.error error) where
  noText := List.filterMap_cons_none hText
  atMost := (List.length_filterMap_le received [x]).trans (Nat.succ_le_succ n.zero_le)
  ending := .inr ⟨error, rfl, hBroken⟩

theorem Waited.cons {requestId : UInt32} {n timeoutMs : Nat} {exchanges : Log}
    {message : Timed (Option WebSocketMessage)} {result : Except String Json.Value}
    (h : Waited serde requestId n exchanges result)
    (hStale : ∀ stale, message = .done (some (.text stale)) →
      ∃ other, serde.response stale = .ok other ∧ other.id ≠ some requestId) :
    Waited serde requestId (n + 1) (⟨.nextMessage timeoutMs, message⟩ :: exchanges) result where
  noText := h.noText
  atMost := Nat.succ_le_succ h.atMost
  ending := h.ending.imp (fun hAnswered => hAnswered.cons serde hStale) id

theorem awaitResponse_ends (requestId : UInt32) (timeoutMs n : Nat) (c : BridgeConnection)
    (log : Log) :
    Ends (awaitResponse serde requestId timeoutMs n) c log fun result c' log' =>
      c' = c ∧ ∃ exchanges, log' = log ++ exchanges ∧ Waited serde requestId n exchanges result := by
  induction n generalizing log with
  | zero =>
    refine ⟨rfl, [], (List.append_nil log).symm, rfl, Nat.le_refl 0, .inr ⟨_, rfl, ?_⟩⟩
    exact broken_text (by decide)
  | succ n ih =>
    rw [awaitResponse, ends_bind, ends_nextMessage]
    intro message
    have hBroken {error : String} (h : Broken error) : c = c ∧ ∃ exchanges,
        log ++ [⟨.nextMessage timeoutMs, message⟩] = log ++ exchanges ∧
          Waited serde requestId (n + 1) exchanges (.error error) :=
      ⟨rfl, _, rfl, Waited.broken serde rfl h⟩
    have hNext {more : Log} (hMore : texts more = [] ∧ messages more = [])
        (hStale : ∀ stale, message = .done (some (.text stale)) →
          ∃ other, serde.response stale = .ok other ∧ other.id ≠ some requestId) :
        Ends (awaitResponse serde requestId timeoutMs n) c
          (log ++ [⟨.nextMessage timeoutMs, message⟩] ++ more) fun result c' log' =>
          c' = c ∧ ∃ exchanges, log' = log ++ exchanges ∧
            Waited serde requestId (n + 1) exchanges result := by
      refine (ih _).mono ?_
      rintro result _ _ ⟨rfl, exchanges, rfl, hWaited⟩
      refine ⟨rfl, ⟨.nextMessage timeoutMs, message⟩ :: (more ++ exchanges), by simp, ?_⟩
      refine Waited.cons serde ?_ hStale
      exact { noText := by rw [texts_append, hMore.1, hWaited.noText]; rfl
              atMost := by rw [messages_append, hMore.2]; exact hWaited.atMost
              ending := by rw [messages_append, hMore.2]; exact hWaited.ending }
    obtain _ | error | _ | text | payload | _ | _ | _ := message
    · exact hBroken (broken_text (by simp [brokenConnectionPrefixes]))
    · exact hBroken (broken_append "Could not read an MCU JSON-RPC response" error
        (by simp [brokenConnectionPrefixes]) (by decide))
    · exact hBroken (broken_text (by simp [brokenConnectionPrefixes]))
    · cases hRead : serde.response text with
      | error error =>
        simp only [hRead]
        exact hBroken (broken_append "MCU sent invalid JSON-RPC" error
          (by simp [brokenConnectionPrefixes]) (by decide))
      | ok response =>
        simp only [hRead]
        by_cases hVersion : response.jsonrpc = "2.0"
        · rw [if_neg (not_not_intro hVersion)]
          by_cases hId : response.id = some requestId
          · rw [if_neg (not_not_intro hId)]
            refine ⟨rfl, _, rfl, rfl, Nat.succ_le_succ n.zero_le, .inl ?_⟩
            exact ⟨[], text, response, rfl, hRead, hVersion, hId, rfl, nofun⟩
          · rw [if_pos hId]
            rw [← List.append_nil (log ++ _)]
            refine hNext ⟨rfl, rfl⟩ ?_
            rintro _ ⟨⟩
            exact ⟨response, hRead, hId⟩
        · rw [if_pos hVersion]
          exact hBroken (broken_text (by simp [brokenConnectionPrefixes]))
    · simp only [ends_bind, ends_sendPong]
      rintro (error | _)
      · refine ⟨rfl, [⟨.nextMessage timeoutMs, .done (some (.ping payload))⟩,
          ⟨.sendPong payload, .error error⟩], by simp, ?_⟩
        refine ⟨rfl, Nat.succ_le_succ n.zero_le, .inr ⟨_, rfl, ?_⟩⟩
        exact broken_append "Could not answer MCU WebSocket ping" error
          (by simp [brokenConnectionPrefixes]) (by decide)
      · exact hNext ⟨rfl, rfl⟩ nofun
    · rw [← List.append_nil (log ++ _)]
      exact hNext ⟨rfl, rfl⟩ nofun
    · exact hBroken (broken_text (by simp [brokenConnectionPrefixes]))
    · exact hBroken (broken_text (by simp [brokenConnectionPrefixes]))

/-- A call of a connection in controller mode sends one text, and it carries the id. -/
theorem controllerRequest_ends (method : String) (params : Json.Value) (timeoutMs : Nat)
    {c : BridgeConnection} (hController : c.transport = .controller) (log : Log) :
    Ends (controllerRequestWithTimeout serde method params timeoutMs) c log fun result c' log' =>
      c' = { c with nextRequestId := c.nextRequestId + 1 } ∧ ∃ sent exchanges,
        log' = log ++ ⟨.sendText (requestText c.nextRequestId method params), sent⟩ :: exchanges ∧
        Waited serde c.nextRequestId maxStaleControllerResponses exchanges result := by
  rw [controllerRequestWithTimeout, ends_bind, ends_nextRequestId]
  simp only [ends_bind, ends_isController, hController, decide_true, if_true, ends_sendText]
  intro sent
  have hUnsent {error : String} (h : Broken error) :
      Waited serde c.nextRequestId maxStaleControllerResponses [] (.error error) :=
    ⟨rfl, Nat.zero_le _, .inr ⟨error, rfl, h⟩⟩
  obtain _ | error | _ := sent
  · exact ⟨rfl, _, [], rfl, hUnsent (broken_text (by simp [brokenConnectionPrefixes]))⟩
  · refine ⟨rfl, _, [], rfl, hUnsent ?_⟩
    exact broken_append "Could not send a JSON-RPC command to the MCU" error
      (by simp [brokenConnectionPrefixes]) (by decide)
  · refine (awaitResponse_ends serde c.nextRequestId timeoutMs _ _ _).mono ?_
    rintro result _ _ ⟨rfl, exchanges, rfl, hWaited⟩
    exact ⟨rfl, .done (), exchanges, by rw [List.append_assoc, List.singleton_append], hWaited⟩

end Fetchline.Host
