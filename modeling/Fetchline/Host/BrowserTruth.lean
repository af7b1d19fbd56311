import Fetchline.Host.InSync

/-! # What the browser is told about the MCU connection

Each `Error` says whether the bridge holds a connection. With the guard the host
says what is true; a message that it turns down without looking at the bridge is
always answered with "not connected".
-/

namespace Fetchline.Host

open Effects Effects.Program

section Requests

variable {α : Type}

/-- `q` succeeds with no `Error` message: errors leave it as errors. -/
def NoErrorMessage (q : Bridge ServerMessage) : Prop :=
  ∀ c log, Ends q c log fun result _ _ => ∀ text connected, result ≠ .ok (.error text connected)

theorem NoErrorMessage.pure {message : ServerMessage} (h : ∀ text connected, message ≠ .error text connected) :
    NoErrorMessage (Pure.pure message) :=
  fun _ _ text connected hMessage => h text connected (Except.ok.inj hMessage)

theorem NoErrorMessage.throw (error : String) : NoErrorMessage (throw error) :=
  fun _ _ _ _ hMessage => by cases hMessage

theorem NoErrorMessage.bind {q : Bridge α} {g : α → Bridge ServerMessage}
    (h : ∀ a, NoErrorMessage (g a)) : NoErrorMessage (q >>= g) := by
  intro c log
  refine ends_bind.mpr (obeys_recording ?_)
  rintro ⟨error | a, c'⟩ log'
  · exact fun text connected hMessage => by cases hMessage
  · exact h a c' log'

variable (serde : Serde)

theorem noErrorMessage_readPositionsFrom (ids : List UInt8) (positions : List Position)
    (errors : List String) : NoErrorMessage (readPositionsFrom serde ids positions errors) := by
  induction ids generalizing positions errors with
  | nil => exact .pure (by simp)
  | cons id ids ih =>
    intro c log
    refine ends_outcome.mpr (obeys_recording ?_)
    rintro ⟨error | position, c'⟩ log'
    · simp only
      split
      · exact ih _ _ c' log'
      · exact fun text connected hMessage => by cases hMessage
    · exact ih _ _ c' log'

theorem noErrorMessage_serveMessage (message : ServoMessage) :
    NoErrorMessage (serveMessage serde message) := by
  cases message with
  | startMotor id speed acceleration direction =>
    refine .bind fun _ => ?_
    split
    · exact .throw _
    · refine .bind fun controller => ?_
      split
      · exact .bind fun _ => .bind fun _ => .pure (by simp)
      · exact .bind fun _ => .bind fun _ => .bind fun _ => .pure (by simp)
  | stopMotor id =>
    refine .bind fun _ => .bind fun controller => ?_
    split
    · exact .bind fun _ => .bind fun _ => .pure (by simp)
    · exact .bind fun _ => .pure (by simp)
  | movePosition id position acceleration torqueLimit =>
    refine .bind fun _ => ?_
    split
    · exact .throw _
    · split
      · exact .throw _
      · refine .bind fun controller => ?_
        split
        · exact .bind fun _ => .bind fun _ => .pure (by simp)
        · exact .bind fun _ => .bind fun _ => .bind fun _ => .pure (by simp)
  | readPosition id => exact .bind fun _ => .pure (by simp)
  | readPositions ids =>
    change NoErrorMessage (readPositions serde ids)
    rw [readPositions]
    split
    · exact .throw _
    · exact noErrorMessage_readPositionsFrom serde ids [] []
  | scanServos startId endId =>
    refine .bind fun _ => .bind fun controller => ?_
    split
    · refine .bind fun response => ?_
      split
      · exact .throw _
      · split
        · exact .throw _
        · exact .pure (by simp)
    · exact .throw _

end Requests

section Sessions

variable {serde : Serde} {mode : TransportMode}

/-- An `Error` says whether there is a connection. -/
def SaysBridge (response : ServerMessage) (bridge : Option BridgeConnection) : Prop :=
  ∀ text connected, response = .error text connected → connected = bridge.isSome

def truthful : Keeping where
  kept _ _ := True
  said := SaysBridge

theorem saysBridge_error {bridge : Option BridgeConnection} {connected : Bool} (text : String)
    (h : connected = bridge.isSome) : SaysBridge (.error text connected) bridge := by
  rintro _ _ ⟨⟩
  exact h

theorem saysBridge_connected (address : String) (bridge : Option BridgeConnection) :
    SaysBridge (.connected address) bridge := by
  rintro _ _ ⟨⟩

theorem serveLocked_truthful (message : ServoMessage) (bridge : Option BridgeConnection) (log : Log) :
    (serveLocked serde message bridge).Obeys guarded (bridge, log) fun response g =>
      SaysBridge response g.1 := by
  cases bridge with
  | none => exact saysBridge_error _ rfl
  | some c =>
    refine obeys_useBridge ((noErrorMessage_serveMessage serde message c log).mono ?_)
    rintro (error | response) c' log' hNoError
    · by_cases hUsable : connectionIsUsableAfter error = true
      · simp only [hUsable, if_true]
        exact saysBridge_error _ rfl
      · simp only [hUsable]
        exact obeys_setBridge (saysBridge_error _ rfl)
    · exact fun text connected h => absurd (congrArg Except.ok h) (hNoError text connected)

theorem setUp_guarded {host : String} {c : BridgeConnection}
    {f : Except String Unit × BridgeConnection → HostProgram ServerMessage}
    {bridge : Option BridgeConnection} {log : Log}
    {Q : ServerMessage → Option BridgeConnection × Log → Prop}
    (h : ∀ result log', (f result).Obeys guarded (bridge, log') Q) :
    (setUp serde mode host c >>= f).Obeys guarded (bridge, log) Q := by
  cases mode with
  | controller => exact obeys_onNet (obeys_recording h)
  | debugRawTunnel =>
    rw [setUp, openRawTunnel, LawfulMonad.bind_assoc]
    refine obeys_onNet (obeys_recording ?_)
    rintro ⟨error | result, c'⟩ log'
    · exact h _ log'
    · simp only
      split
      · exact h _ log'
      · split
        · exact h _ log'
        · refine ⟨nofun, ?_⟩
          rintro (error | _)
          · exact h _ log'
          · exact h _ log'

theorem openBridge_truthful (host peer : String) (bridge : Option BridgeConnection) (log : Log) :
    (openBridge serde mode host peer).Obeys guarded (bridge, log) fun response g =>
      SaysBridge response g.1 := by
  refine obeys_setBridge ⟨nofun, ?_⟩
  rintro (error | _)
  · exact saysBridge_error _ rfl
  · refine setUp_guarded ?_
    rintro ⟨error | _, c⟩ log'
    · exact saysBridge_error _ rfl
    · exact obeys_setBridge (saysBridge_connected peer (some c))

theorem connectLocked_truthful (host peer : String) (bridge : Option BridgeConnection) (log : Log) :
    (connectLocked serde mode host peer bridge).Obeys guarded (bridge, log) fun response g =>
      SaysBridge response g.1 := by
  cases bridge with
  | none => exact openBridge_truthful host peer none log
  | some c =>
    rw [connectLocked]
    split
    · refine obeys_useBridge (obeys_recording ?_)
      rintro ⟨error | _, c'⟩ log'
      · exact openBridge_truthful host peer (some c') log'
      · exact saysBridge_connected peer (some c')
    · exact openBridge_truthful host peer (some c) log

theorem truthful_holds : truthful.Holds serde mode := by
  intro locked hLocked bridge log _
  cases hLocked with
  | serve message => exact (serveLocked_truthful message bridge log).mono fun _ _ h => ⟨trivial, h⟩
  | connect host peer =>
    exact (connectLocked_truthful host peer bridge log).mono fun _ _ h => ⟨trivial, h⟩

/-- In every run each `Error` is true exactly if the bridge was empty whenever a
message was turned down unseen. -/
theorem errors_tell_the_bridge_iff (serde : Serde)
    (readRequest : String → Except String ClientMessage) (mode : TransportMode)
    (bridge : Option BridgeConnection) (s : HostState)
    (hReach : (host serde readRequest mode bridge).Reachable s) :
    (∀ h ∈ s.handled, SaysBridge h.response h.bridge) ↔
      ∀ h ∈ s.handled, RejectedUnseen readRequest h.message → h.bridge = none := by
  have hSaid := (truthful_holds.sound trivial hReach).said
  refine forall₂_congr fun h hMem => ?_
  obtain ⟨hUnseen, error, hError⟩ | ⟨hSeen, hTrue⟩ := hSaid h hMem
  · rw [hError]
    constructor
    · intro hTold _
      have hNone : h.bridge.isSome = false := (hTold error false rfl).symm
      rwa [Option.isSome_eq_false_iff, Option.isNone_iff_eq_none] at hNone
    · intro hNone
      exact saysBridge_error error (by rw [hNone hUnseen]; rfl)
  · exact iff_of_true hTrue fun hUnseen => absurd hUnseen hSeen

/-- A connected host turns down a request for servo 0, and says that it is connected. -/
theorem errors_tell_the_bridge_bad_id :
    ∃ s, (host readyReader (fun _ => .ok (.servo (.stopMotor 0))) .controller
        (some ⟨"mcu:3333", .controller, 1⟩)).Reachable s ∧
      s.handled.map (·.response) = [.error "Servo ID must be between 1 and 253" true] ∧
      ∀ h ∈ s.handled, SaysBridge h.response h.bridge := by
  let actions : List HostAction := .receive 0 (.text "") :: List.replicate 3 (.advance 0 readyNetwork)
  let machine := host readyReader (fun _ => .ok (.servo (.stopMotor 0))) .controller
    (some ⟨"mcu:3333", .controller, 1⟩)
  have hReach : machine.Reachable (machine.run machine.init actions) :=
    Transition.Machine.reachable_run actions
  refine ⟨_, hReach, by rfl, (errors_tell_the_bridge_iff _ _ _ _ _ hReach).mpr ?_⟩
  exact List.forall_mem_singleton.mpr fun hUnseen => hUnseen.elim

/-- One browser connects to the MCU, another sends a binary frame: it is told that
the host is not connected. -/
theorem binary_frame_denies_the_bridge :
    ∃ s, (host readyReader (fun _ => .ok (.connect "mcu" 3333)) .controller none).Reachable s ∧
      s.bridge.isSome = true ∧
      s.handled.head?.map (·.response) =
        some (.error "Binary WebSocket messages are not supported" false) ∧
      ¬ ∀ h ∈ s.handled, SaysBridge h.response h.bridge := by
  let actions : List HostAction :=
    .receive 0 (.text "") :: List.replicate 7 (.advance 0 readyNetwork) ++
      [.receive 1 .binary, .advance 1 readyNetwork]
  let machine := host readyReader (fun _ => .ok (.connect "mcu" 3333)) .controller none
  have hReach : machine.Reachable (machine.run machine.init actions) :=
    Transition.Machine.reachable_run actions
  have hHandled : ∃ bridge, (machine.run machine.init actions).handled.head? =
      some ⟨1, .binary, .error "Binary WebSocket messages are not supported" false, bridge⟩ ∧
        bridge.isSome = true :=
    ⟨_, by rfl, by rfl⟩
  obtain ⟨bridge, hHead, hBridge⟩ := hHandled
  refine ⟨_, hReach, by rfl, by rw [hHead]; rfl, fun hTold => ?_⟩
  have hFlag : false = bridge.isSome := hTold _ (List.mem_of_mem_head? hHead) _ false rfl
  exact Bool.false_ne_true (hFlag.trans hBridge)

end Sessions

end Fetchline.Host
