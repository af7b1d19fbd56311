import Fetchline.Host.Conversation
import Fetchline.Host.Guarded

/-! # A retained controller connection is in sync

Whether a connection is kept after an error is decided by the start of the
error's text. An error with another start comes only after the response to
everything that was sent has been taken.
-/

namespace Fetchline.Host

open Effects Effects.Program

section InSync

variable (serde : Serde)

/-- This text of the MCU carries the id of that request. -/
def Answers (text answer : String) : Prop :=
  ∃ requestId method params response, text = requestText requestId method params ∧
    serde.response answer = .ok response ∧ response.id = some requestId

/-- Each request on the connection has had the response with its id taken after it. -/
def InSync : Log → Prop
  | [] => True
  | x :: log => (∀ text, sentText x = some text →
      ∃ answer, .done (some (.text answer)) ∈ messages log ∧ Answers serde text answer) ∧ InSync log

variable {serde}

theorem InSync.append {log log' : Log} (h : InSync serde log) (h' : InSync serde log') :
    InSync serde (log ++ log') := by
  induction log with
  | nil => exact h'
  | cons x log ih =>
    refine ⟨fun text hText => ?_, ih h.2⟩
    obtain ⟨answer, hTaken, hAnswers⟩ := h.1 text hText
    exact ⟨answer, messages_append log log' ▸ List.mem_append_left _ hTaken, hAnswers⟩

theorem inSync_of_noText {log : Log} (h : texts log = []) : InSync serde log := by
  induction log with
  | nil => trivial
  | cons x log ih =>
    obtain ⟨hText, hTexts⟩ : sentText x = none ∧ texts log = [] := by
      rw [texts, List.filterMap_cons] at h
      split at h
      · exact ⟨‹_›, h⟩
      · cases h
    refine ⟨fun text hSent => ?_, ih hTexts⟩
    cases hText.symm.trans hSent

theorem inSync_call {exchanges : Log} {requestId : UInt32} {method : String} {params : Json.Value}
    {sent : Timed Unit} {result : Except String Json.Value} (hText : texts exchanges = [])
    (hAnswered : AnsweredBy serde requestId (messages exchanges) result) :
    InSync serde (⟨.sendText (requestText requestId method params), sent⟩ :: exchanges) := by
  obtain ⟨earlier, answer, response, hMessages, hRead, -, hId, -⟩ := hAnswered
  refine ⟨?_, inSync_of_noText hText⟩
  rintro _ ⟨⟩
  refine ⟨answer, ?_, requestId, method, params, response, rfl, hRead, hId⟩
  rw [hMessages]
  exact List.mem_append_right _ List.mem_cons_self

end InSync

section Requests

variable {serde : Serde} {α β : Type}

/-- From a connection in sync, `q` ends in sync unless with an error that breaks it. -/
def KeepsSync (serde : Serde) (q : Bridge α) : Prop :=
  ∀ c log, c.transport = .controller → InSync serde log →
    Ends q c log fun result c' log' => c'.transport = .controller ∧
      (InSync serde log' ∨ ∃ error, result = .error error ∧ Broken error)

theorem KeepsSync.pure (a : α) : KeepsSync serde (Pure.pure a) :=
  fun _ _ hController hSync => ⟨hController, .inl hSync⟩

theorem KeepsSync.throw (error : String) : KeepsSync serde (throw error : Bridge α) :=
  fun _ _ hController hSync => ⟨hController, .inl hSync⟩

theorem KeepsSync.bind {q : Bridge α} {g : α → Bridge β} (hq : KeepsSync serde q)
    (hg : ∀ a, KeepsSync serde (g a)) : KeepsSync serde (q >>= g) := by
  intro c log hController hSync
  refine ends_bind.mpr ((hq c log hController hSync).mono ?_)
  rintro (error | a) c' log' ⟨hController', hEnd⟩
  · refine ⟨hController', hEnd.imp_right ?_⟩
    rintro ⟨_, ⟨⟩, hBroken⟩
    exact ⟨error, rfl, hBroken⟩
  · obtain hSync' | ⟨_, ⟨⟩, -⟩ := hEnd
    exact hg a c' log' hController' hSync'

theorem KeepsSync.byMode {q r : Bridge α} (h : KeepsSync serde q) :
    KeepsSync serde (do if ← isController then q else r) := by
  intro c log hController hSync
  refine ends_bind.mpr ?_
  rw [ends_isController]
  simp only [hController, decide_true, if_true]
  exact h c log hController hSync

theorem keepsSync_request (method : String) (params : Json.Value) (timeoutMs : Nat) :
    KeepsSync serde (controllerRequestWithTimeout serde method params timeoutMs) := by
  intro c log hController hSync
  refine (controllerRequest_ends serde method params timeoutMs hController log).mono ?_
  rintro result _ _ ⟨rfl, sent, exchanges, rfl, hWaited⟩
  refine ⟨hController, ?_⟩
  obtain hAnswered | hBroken := hWaited.ending
  · exact .inl (hSync.append (inSync_call hWaited.noText hAnswered))
  · exact .inr hBroken

theorem keepsSync_accepted (result : Json.Value) : KeepsSync serde (expectControllerAccepted result) := by
  rw [expectControllerAccepted]
  split
  · exact .pure ()
  · exact .throw _

theorem keepsSync_ping : KeepsSync serde (systemPing serde) := by
  refine (keepsSync_request _ _ _).bind fun result => ?_
  rw [expectControllerReady]
  split
  · exact .pure ()
  · exact .throw _

theorem keepsSync_validateId (id : UInt8) : KeepsSync serde (validateId id) := by
  rw [validateId]
  split
  · exact .throw _
  · exact .pure ()

theorem keepsSync_readPosition (id : UInt8) : KeepsSync serde (readPosition serde id) := by
  refine (keepsSync_validateId id).bind fun _ => .byMode ?_
  refine (keepsSync_request _ _ _).bind fun response => ?_
  split
  · exact .throw _
  · split
    · exact .throw _
    · exact .pure _

/-- An error is noted and the next servo read only while the connection is usable. -/
theorem keepsSync_readPositionsFrom (ids : List UInt8) (positions : List Position)
    (errors : List String) : KeepsSync serde (readPositionsFrom serde ids positions errors) := by
  induction ids generalizing positions errors with
  | nil => exact .pure _
  | cons id ids ih =>
    intro c log hController hSync
    refine ends_outcome.mpr ((keepsSync_readPosition id c log hController hSync).mono ?_)
    rintro (error | position) c' log' ⟨hController', hEnd⟩
    · by_cases hUsable : connectionIsUsableAfter error = true
      · obtain hSync' | ⟨_, ⟨⟩, hBroken⟩ := hEnd
        · simp only [hUsable, if_true]
          exact ih _ _ c' log' hController' hSync'
        · cases ((unusable_iff error).mpr hBroken).symm.trans hUsable
      · simp only [hUsable]
        exact ⟨hController', hEnd.imp_right fun ⟨_, h, hBroken⟩ =>
          ⟨error, rfl, Except.error.inj h ▸ hBroken⟩⟩
    · obtain hSync' | ⟨_, ⟨⟩, -⟩ := hEnd
      exact ih _ _ c' log' hController' hSync'

theorem keepsSync_serveMessage (message : ServoMessage) :
    KeepsSync serde (serveMessage serde message) := by
  cases message with
  | startMotor id speed acceleration direction =>
    refine (keepsSync_validateId id).bind fun _ => ?_
    split
    · exact .throw _
    · refine .byMode ((keepsSync_request _ _ _).bind fun result => ?_)
      exact (keepsSync_accepted result).bind fun _ => .pure _
  | stopMotor id =>
    refine (keepsSync_validateId id).bind fun _ => .byMode ?_
    refine (keepsSync_request _ _ _).bind fun result => ?_
    exact (keepsSync_accepted result).bind fun _ => .pure _
  | movePosition id position acceleration torqueLimit =>
    refine (keepsSync_validateId id).bind fun _ => ?_
    split
    · exact .throw _
    · split
      · exact .throw _
      · refine .byMode ((keepsSync_request _ _ _).bind fun result => ?_)
        exact (keepsSync_accepted result).bind fun _ => .pure _
  | readPosition id => exact (keepsSync_readPosition id).bind fun _ => .pure _
  | readPositions ids =>
    change KeepsSync serde (readPositions serde ids)
    rw [readPositions]
    split
    · exact .throw _
    · exact keepsSync_readPositionsFrom ids [] []
  | scanServos startId endId =>
    have hRange : KeepsSync serde (validateScanRange startId endId) := by
      rw [validateScanRange]
      split
      · exact .throw _
      · exact .pure ()
    refine hRange.bind fun _ => .byMode ((keepsSync_request _ _ _).bind fun response => ?_)
    split
    · exact .throw _
    · split
      · exact .throw _
      · exact .pure _

end Requests

section Controller

variable {serde : Serde}

/-- The invariant of the bridge: a connection that is there is in sync. -/
def inSync (serde : Serde) : Keeping where
  kept bridge log := ∀ c, bridge = some c → c.transport = .controller ∧ InSync serde log
  said _ _ := True

/-- How a request ends: in sync, or with an error that drops the connection. -/
def Settled (serde : Serde) (response : ServerMessage)
    (state : Option BridgeConnection × Log) : Prop :=
  ((∀ c, state.1 = some c → c.transport = .controller) ∧ InSync serde state.2) ∨
    (state.1 = none ∧ ∃ error, response = .error error false ∧ Broken error)

theorem Settled.kept {response : ServerMessage} {state : Option BridgeConnection × Log}
    (h : Settled serde response state) : (inSync serde).kept state.1 state.2 := by
  intro c hBridge
  obtain ⟨hController, hSync⟩ | ⟨hNone, -⟩ := h
  · exact ⟨hController c hBridge, hSync⟩
  · cases hNone.symm.trans hBridge

theorem settled_some {response : ServerMessage} {c : BridgeConnection} {log : Log}
    (hController : c.transport = .controller) (hSync : InSync serde log) :
    Settled serde response (some c, log) := by
  refine .inl ⟨?_, hSync⟩
  rintro _ ⟨⟩
  exact hController

theorem settled_none {response : ServerMessage} {log : Log} (hSync : InSync serde log) :
    Settled serde response (none, log) := by
  refine .inl ⟨?_, hSync⟩
  rintro _ ⟨⟩

theorem serveLocked_settles (message : ServoMessage) {c : BridgeConnection} {log : Log}
    (hController : c.transport = .controller) (hSync : InSync serde log) :
    (serveLocked serde message (some c)).Obeys guarded (some c, log) (Settled serde) := by
  refine obeys_useBridge ((keepsSync_serveMessage message c log hController hSync).mono ?_)
  rintro (error | response) c' log' ⟨hController', hEnd⟩
  · by_cases hUsable : connectionIsUsableAfter error = true
    · simp only [hUsable, if_true]
      obtain hSync' | ⟨_, ⟨⟩, hBroken⟩ := hEnd
      · exact settled_some hController' hSync'
      · cases ((unusable_iff error).mpr hBroken).symm.trans hUsable
    · simp only [hUsable]
      have hBroken : Broken error := (unusable_iff error).mp (Bool.eq_false_iff.mpr hUsable)
      exact obeys_setBridge (.inr ⟨rfl, error, rfl, hBroken⟩)
  · obtain hSync' | ⟨_, ⟨⟩, -⟩ := hEnd
    exact settled_some hController' hSync'

theorem openBridge_settles (host peer : String) (bridge : Option BridgeConnection) (log : Log) :
    (openBridge serde .controller host peer).Obeys guarded (bridge, log) (Settled serde) := by
  refine obeys_setBridge ⟨nofun, ?_⟩
  rintro (error | _)
  · exact settled_none trivial
  · refine obeys_onNet (Obeys.mono (keepsSync_ping ⟨peer, .controller, 1⟩ [] rfl trivial) ?_)
    rintro ⟨error | _, c⟩ log' ⟨hController, hEnd⟩
    · obtain hSync | ⟨_, ⟨⟩, hBroken⟩ := hEnd
      · exact settled_none hSync
      · exact .inr ⟨rfl, error, rfl, hBroken⟩
    · obtain hSync | ⟨_, ⟨⟩, -⟩ := hEnd
      exact obeys_setBridge (settled_some hController hSync)

theorem connectLocked_settles (host peer : String) {c : BridgeConnection} {log : Log}
    (hController : c.transport = .controller) (hSync : InSync serde log) :
    (connectLocked serde .controller host peer (some c)).Obeys guarded (some c, log)
      (Settled serde) := by
  rw [connectLocked]
  split
  · refine obeys_useBridge ((KeepsSync.byMode keepsSync_ping c log hController hSync).mono ?_)
    rintro (error | _) c' log' ⟨hController', hEnd⟩
    · exact openBridge_settles host peer (some c') log'
    · obtain hSync' | ⟨_, ⟨⟩, -⟩ := hEnd
      exact settled_some hController' hSync'
  · exact openBridge_settles host peer (some c) log

theorem lockedRequest_settles {locked : Option BridgeConnection → HostProgram ServerMessage}
    (hLocked : LockedRequest serde .controller locked) {bridge : Option BridgeConnection} {log : Log}
    (hController : ∀ c, bridge = some c → c.transport = .controller) (hSync : InSync serde log) :
    (locked bridge).Obeys guarded (bridge, log) (Settled serde) := by
  cases bridge with
  | none =>
    cases hLocked with
    | serve message => exact settled_none hSync
    | connect host peer => exact openBridge_settles host peer none log
  | some c =>
    cases hLocked with
    | serve message => exact serveLocked_settles message (hController c rfl) hSync
    | connect host peer => exact connectLocked_settles host peer (hController c rfl) hSync

theorem inSync_holds : (inSync serde).Holds serde .controller := by
  intro locked hLocked bridge log hKept
  cases bridge with
  | none =>
    cases hLocked with
    | serve message => exact ⟨hKept, trivial⟩
    | connect host peer =>
      exact (openBridge_settles host peer none log).mono fun _ _ h => ⟨h.kept, trivial⟩
  | some c =>
    have hController : ∀ c', some c = some c' → c'.transport = .controller :=
      fun c' h => (hKept c' h).1
    exact (lockedRequest_settles hLocked hController (hKept c rfl).2).mono fun _ _ h =>
      ⟨h.kept, trivial⟩

/-- Whenever no request is under way, the connection that the host has retained is
in sync; a request that ends out of sync ends with an error that drops it. -/
theorem retained_connection_is_in_sync (serde : Serde)
    (readRequest : String → Except String ClientMessage) :
    (∀ s, (host serde readRequest .controller none).Reachable s → s.holder = none →
      ∀ c, s.bridge = some c → InSync serde s.log) ∧
    (∀ locked, LockedRequest serde .controller locked → ∀ bridge log trace response,
      (∀ c, bridge = some c → c.transport = .controller) → InSync serde log →
      Steps (locked bridge) trace (.done response) →
      ¬ InSync serde (guarded.after (bridge, log) trace).2 →
        (guarded.after (bridge, log) trace).1 = none ∧
        ∃ error, response = .error error false ∧ connectionIsUsableAfter error = false) := by
  constructor
  · intro s hReach hFree c hBridge
    have hInit : (inSync serde).kept none [] := by
      rintro _ ⟨⟩
    exact ((inSync_holds.sound hInit hReach).free hFree c hBridge).2
  · intro locked hLocked bridge log trace response hController hSync hSteps hNot
    obtain ⟨-, hSync'⟩ | ⟨hNone, error, hError, hBroken⟩ :=
      (lockedRequest_settles hLocked hController hSync).result hSteps
    · exact absurd hSync' hNot
    · exact ⟨hNone, error, hError, (unusable_iff error).mpr hBroken⟩

/-- A network on which every operation succeeds, and an MCU that is ready. -/
def readyNetwork : (op : HostOp) → op.Reply
  | .lockBridge => none
  | .setBridge _ => ()
  | .net (.sendText _) => Timed.done ()
  | .net (.nextMessage _) => Timed.done (some (.text (readyText "1")))
  | .net (.sendPong _) => Except.ok ()
  | .net (.writeStream _) => Timed.done ()
  | .net (.readExact count) => Timed.done ⟨List.replicate count 0, List.length_replicate⟩
  | .connectController _ | .connectRawTunnel _ => Except.ok ()

theorem retained_connection_is_in_sync_connect :
    ∃ s, (host readyReader (fun _ => .ok (.connect " mcu" 3333)) .controller none).Reachable s ∧
      s.holder = none ∧ s.bridge.isSome = true ∧ s.log.length = 2 ∧ InSync readyReader s.log := by
  let actions : List HostAction :=
    .receive 0 (.text "") :: List.replicate 7 (.advance 0 readyNetwork)
  let machine := host readyReader (fun _ => .ok (.connect " mcu" 3333)) .controller none
  have hReach : machine.Reachable (machine.run machine.init actions) :=
    Transition.Machine.reachable_run actions
  have hBridge : (machine.run machine.init actions).bridge.isSome = true := by rfl
  obtain ⟨c, hConnection⟩ := Option.isSome_iff_exists.mp hBridge
  have hSync := (retained_connection_is_in_sync readyReader
    (fun _ => .ok (.connect " mcu" 3333))).1 _ hReach (by rfl) c hConnection
  exact ⟨_, hReach, by rfl, hBridge, by rfl, hSync⟩

end Controller

end Fetchline.Host
