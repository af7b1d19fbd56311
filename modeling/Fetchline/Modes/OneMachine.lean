import Fetchline.Modes.Agreement
import Fetchline.Modes.Readers

/-! # Controller mode and raw mode are the same machine

For one oracle, a servo request puts the same packets on the bus in either mode,
and the browser learns the same positions.
-/

namespace Fetchline.Modes

open Effects Effects.Program Host

variable {fromSlice : String → Option JsonRpcRequest} {serde : Serde} {oracle : Oracle}

theorem discardReads_packets (n : Nat) (wire : Wire) :
    ((discardReads n).run (uart oracle) wire).2.packets = wire.packets := by
  induction n generalizing wire with
  | zero => rfl
  | succ n ih =>
    change ((if (!wire.unread.isEmpty) = true then discardReads n else pure ()).run (uart oracle)
      { wire with unread := wire.unread.drop 64 }).2.packets = wire.packets
    split
    · exact ih _
    · rfl

theorem executeCommand_run {command : ControllerCommand} {wire wire' : Wire}
    {result : Except ServoFailure ControllerResult}
    (hRun : (runCommand command).run.run (uart oracle) wire = (result, wire')) :
    ∃ wire'', (executeCommand command).run (uart oracle) wire = (result, wire'') ∧
      wire''.packets = wire'.packets := by
  have hRx : lockUartRx.run (uart oracle) wire = ((), wire) := rfl
  have hTx : lockUartTx.run (uart oracle) wire = ((), wire) := rfl
  rw [executeCommand]
  simp only [run_bind, hRx, hTx, hRun]
  cases result with
  | ok result => exact ⟨wire', rfl, rfl⟩
  | error failure =>
    refine ⟨((discardReads 4).run (uart oracle) wire').2, ?_, discardReads_packets 4 wire'⟩
    change ((resynchronizeUart >>= fun _ => pure (.error failure)) :
      Bus (Except ServoFailure ControllerResult)).run (uart oracle) wire' = _
    rw [resynchronizeUart, run_bind, run_bind]
    rfl

def SameState (s : Session) (t : Wire) : Prop := s.wire.packets = t.packets ∧ s.inbox = []

/-- Both succeed, with results related by `R`, or both fail with errors that
leave the connection usable. -/
def SameResult {α β : Type} (R : α → β → Prop) : Except String α → Except String β → Prop
  | .ok a, .ok b => R a b
  | .error error, .error error' =>
    connectionIsUsableAfter error = true ∧ connectionIsUsableAfter error' = true
  | _, _ => False

/-- `p` over a connection in controller mode does what `q` does over one in raw mode. -/
def Simulates {α β : Type} (fromSlice : String → Option JsonRpcRequest) (oracle : Oracle)
    (p : Bridge α) (q : Bridge β) (R : α → β → Prop) : Prop :=
  ∀ c c' : BridgeConnection, c.transport = .controller → c'.transport = .debugRaw →
    Related (mcu fromSlice oracle) (tunnel oracle) SameState (p.run.run c) (q.run.run c')
      fun x y s t => SameState s t ∧ x.2.transport = .controller ∧ y.2.transport = .debugRaw ∧
        SameResult R x.1 y.1

theorem usable_reported (failure : ServoFailure) :
    let code := failure.rpcFailure.code
    let message := failure.rpcFailure.message
    connectionIsUsableAfter s!"MCU JSON-RPC error {code}: {message}" = true := by
  apply usable_of_start "MCU J" (by simp [usableStarts])
  exact prefix_append (prefix_append (prefix_append ⟨_, rfl⟩ _) _) _

/-- The same answer to the browser, but for the texts of errors. -/
def SameReply : Except String ServerMessage → Except String ServerMessage → Prop
  | .ok (.positions positions errors), .ok (.positions positions' errors') =>
    positions = positions' ∧ errors.length = errors'.length
  | .ok message, .ok message' => message = message'
  | .error _, .error _ => True
  | _, _ => False

namespace Simulates

variable {α β α' β' : Type} {p : Bridge α} {q : Bridge β} {R : α → β → Prop}

theorem pure {a : α} {b : β} (h : R a b) : Simulates fromSlice oracle (pure a) (pure b) R :=
  fun _ _ hController hRaw _ _ hSame => ⟨hSame, hController, hRaw, h⟩

theorem throw {error error' : String} (h : connectionIsUsableAfter error = true)
    (h' : connectionIsUsableAfter error' = true) :
    Simulates fromSlice oracle (throw error : Bridge α) (throw error' : Bridge β) R :=
  fun _ _ hController hRaw _ _ hSame => ⟨hSame, hController, hRaw, h, h'⟩

theorem bind {f : α → Bridge α'} {g : β → Bridge β'} {T : α' → β' → Prop}
    (h : Simulates fromSlice oracle p q R)
    (hNext : ∀ a b, R a b → Simulates fromSlice oracle (f a) (g b) T) :
    Simulates fromSlice oracle (p >>= f) (q >>= g) T := by
  intro c c' hController hRaw
  rw [ExceptT.run_bind, StateT.run_bind, ExceptT.run_bind, StateT.run_bind]
  refine Related.bind (h c c' hController hRaw) ?_
  rintro ⟨error | a, c⟩ ⟨error' | b, c'⟩ s t ⟨hSame, hController, hRaw, hResult⟩
  · exact ⟨hSame, hController, hRaw, hResult⟩
  · exact hResult.elim
  · exact hResult.elim
  · exact hNext a b hResult c c' hController hRaw s t hSame

theorem mono {T : α → β → Prop} (h : Simulates fromSlice oracle p q R)
    (hR : ∀ a b, R a b → T a b) : Simulates fromSlice oracle p q T := by
  intro c c' hController hRaw
  refine Related.mono (h c c' hController hRaw) ?_
  rintro ⟨error | a, c⟩ ⟨error' | b, c'⟩ s t ⟨hSame, hController, hRaw, hResult⟩
  · exact ⟨hSame, hController, hRaw, hResult⟩
  · exact hResult.elim
  · exact hResult.elim
  · exact ⟨hSame, hController, hRaw, hR a b hResult⟩

theorem byMode {p q : Bridge α} {R : α → α → Prop} (h : Simulates fromSlice oracle p q R) :
    Simulates fromSlice oracle (do if ← isController then p else q)
      (do if ← isController then p else q) R := by
  intro c c' hController hRaw
  have hMode (d : BridgeConnection) : (do if ← isController then p else q : Bridge α).run.run d =
      (if decide (d.transport = .controller) = true then p else q).run.run d := rfl
  rw [hMode, hMode, hController, hRaw]
  exact h c c' hController hRaw

theorem call (hUnderstood : Understood fromSlice serde) {method : String} {params : Json.Value}
    {typed : JsonRpcParams} {command : ControllerCommand}
    (hRequest : ServoRequest method params typed command) {R : ControllerResult → β → Prop}
    (hAgrees : Agrees oracle (runCommand command) q R) (hServo : ∀ r b, R r b → ServoResult r) :
    Simulates fromSlice oracle (controllerRequest serde method params) q
      fun value b => ∃ r, value = r.toJson ∧ R r b := by
  rintro c c' hController hRaw ⟨wire, inbox⟩ t ⟨hPackets, rfl⟩
  have hFirmware := hAgrees c' hRaw wire t hPackets
  obtain ⟨hPackets', hConnection, hOutcome⟩ := hFirmware
  generalize hRun : (runCommand command).run.run (uart oracle) wire = ran at *
  obtain ⟨result, wire'⟩ := ran
  obtain ⟨wire'', hExecuted, hResynchronized⟩ := executeCommand_run hRun
  generalize (q.run.run c').run (tunnel oracle) t = raw at *
  obtain ⟨⟨rawResult, rawConnection⟩, t'⟩ := raw
  have hResult : ∀ r, result = .ok r → ServoResult r := by
    rintro r rfl
    cases rawResult with
    | ok b => exact hServo r b hOutcome
    | error error => exact hOutcome.elim
  have hCall := controllerRequest_outcome hUnderstood hRequest hController hExecuted hResult
  rw [outcome] at hCall
  rw [hCall]
  refine ⟨⟨hResynchronized.trans hPackets', rfl⟩, hController, ?_, ?_⟩
  · change rawConnection.transport = .debugRaw
    rw [show rawConnection = c' from hConnection, hRaw]
  · cases result with
    | ok r =>
      cases rawResult with
      | ok b => exact ⟨r, rfl, hOutcome⟩
      | error error => exact hOutcome.elim
    | error failure =>
      cases rawResult with
      | ok b => exact hOutcome.elim
      | error error => exact ⟨usable_reported failure, hOutcome⟩

end Simulates

theorem simulates_validated {α β : Type} {id : UInt8} {p : Bridge α} {q : Bridge β}
    {R : α → β → Prop}
    (h : Host.isUnicastServoId id = true → Simulates fromSlice oracle p q R) :
    Simulates fromSlice oracle (validateId id >>= fun _ => p) (validateId id >>= fun _ => q) R := by
  cases hId : Host.isUnicastServoId id with
  | false =>
    have hInvalid : validateId id = throw "Servo ID must be between 1 and 253" := by
      rw [validateId, hId]
      rfl
    have hUsable : connectionIsUsableAfter "Servo ID must be between 1 and 253" = true :=
      usable_of_S ⟨_, rfl⟩
    rw [hInvalid]
    exact Simulates.throw hUsable hUsable
  | true =>
    have hValid : validateId id = pure () := by
      rw [validateId, hId]
      rfl
    rw [hValid, pure_bind, pure_bind]
    exact h hId

section Requests

variable (hUnderstood : Understood fromSlice serde)

include hUnderstood

theorem accepted_simulates {method : String} {params : Json.Value} {typed : JsonRpcParams}
    {command : ControllerCommand} (hRequest : ServoRequest method params typed command)
    {raw : Bridge ServerMessage} {action : String}
    (hAgrees : Agrees oracle (runCommand command) raw
      fun r m => r = .accepted ∧ m = .complete action) :
    Simulates fromSlice oracle
      (do
        let result ← controllerRequest serde method params
        expectControllerAccepted result
        pure (.complete action)) raw Eq := by
  have hCall := Simulates.call hUnderstood hRequest hAgrees (by
    rintro r m ⟨rfl, -⟩
    trivial)
  rw [← bind_pure raw]
  apply hCall.bind
  rintro value m ⟨r, rfl, rfl, rfl⟩
  exact .pure rfl

theorem startMotor_simulates (id : UInt8) (speed : UInt16) (acceleration : UInt8)
    (direction : Direction) :
    Simulates fromSlice oracle (Host.startMotor serde id speed acceleration direction)
      (Host.startMotor serde id speed acceleration direction) Eq := by
  unfold Host.startMotor
  apply simulates_validated
  intro hId
  by_cases hSpeed : speed > 4095
  · simp only [if_pos hSpeed]
    have hUsable : connectionIsUsableAfter "Motor speed must be between 0 and 4095" = true :=
      usable_of_start "Motor" (by simp [usableStarts]) ⟨_, rfl⟩
    exact Simulates.throw hUsable hUsable
  · simp only [if_neg hSpeed]
    apply Simulates.byMode
    exact accepted_simulates hUnderstood (.startMotor id speed acceleration direction)
      (startMotor_agrees hId hSpeed acceleration direction)

theorem stopMotor_simulates (id : UInt8) :
    Simulates fromSlice oracle (Host.stopMotor serde id) (Host.stopMotor serde id) Eq := by
  unfold Host.stopMotor
  apply simulates_validated
  intro hId
  apply Simulates.byMode
  exact accepted_simulates hUnderstood (.stopMotor id) (stopMotor_agrees hId)

theorem movePosition_simulates (id : UInt8) (position : UInt16) (acceleration : UInt8)
    (torqueLimit : UInt16) :
    Simulates fromSlice oracle (Host.movePosition serde id position acceleration torqueLimit)
      (Host.movePosition serde id position acceleration torqueLimit) Eq := by
  unfold Host.movePosition
  apply simulates_validated
  intro hId
  by_cases hPosition : position > 4095
  · simp only [if_pos hPosition]
    have hUsable : connectionIsUsableAfter "Position must be between 0 and 4095" = true :=
      usable_of_start "Position" (by simp [usableStarts]) ⟨_, rfl⟩
    exact Simulates.throw hUsable hUsable
  simp only [if_neg hPosition]
  by_cases hTorque : torqueLimit > 1000
  · simp only [if_pos hTorque]
    have hUsable : connectionIsUsableAfter "Torque limit must be between 0 and 1000" = true :=
      usable_of_start "Torque" (by simp [usableStarts]) ⟨_, rfl⟩
    exact Simulates.throw hUsable hUsable
  · simp only [if_neg hTorque]
    apply Simulates.byMode
    exact accepted_simulates hUnderstood (.movePosition id position acceleration torqueLimit)
      (movePosition_agrees hId hPosition hTorque acceleration)

theorem readPosition_simulates (id : UInt8) :
    Simulates fromSlice oracle (Host.readPosition serde id) (Host.readPosition serde id) Eq := by
  unfold Host.readPosition
  apply simulates_validated
  intro hId
  apply Simulates.byMode
  have hAgrees : Agrees oracle (runCommand (.getPosition id)) (rawReadPosition id) _ :=
    readPosition_agrees hId
  have hCall := Simulates.call hUnderstood (.readPosition id) hAgrees (by
    rintro r position ⟨rfl, hRange⟩
    exact hRange)
  rw [← bind_pure (rawReadPosition id)]
  apply hCall.bind
  rintro value position ⟨r, rfl, rfl, hRange⟩
  have hPosition : serde.position (ControllerResult.toJson (.position ⟨id, position⟩)) =
      .ok ⟨id, position⟩ := hUnderstood.position hRange
  simp only [hPosition, ne_eq, not_true_eq_false, if_false]
  exact .pure rfl

theorem readPositionsFrom_simulates (ids : List UInt8) (positions : List Position)
    {errors errors' : List String} (hErrors : errors.length = errors'.length) :
    Simulates fromSlice oracle (Host.readPositionsFrom serde ids positions errors)
      (Host.readPositionsFrom serde ids positions errors')
      fun m m' => ∃ positions errors errors', m = .positions positions errors ∧
        m' = .positions positions errors' ∧ errors.length = errors'.length := by
  induction ids generalizing positions errors errors' with
  | nil => exact .pure ⟨positions, errors, errors', rfl, rfl, hErrors⟩
  | cons id ids ih =>
    intro c c' hController hRaw
    refine Related.bind (readPosition_simulates hUnderstood id c c' hController hRaw) ?_
    rintro ⟨error | position, c⟩ ⟨error' | position', c'⟩ s t ⟨hSame, hController, hRaw, hResult⟩
    · obtain ⟨hUsable, hUsable'⟩ := hResult
      simp only [hUsable, hUsable', if_true]
      apply ih positions _ c c' hController hRaw s t hSame
      rw [List.length_append, List.length_append, hErrors]
      rfl
    · exact hResult.elim
    · exact hResult.elim
    · obtain rfl : position = position' := hResult
      exact ih _ hErrors c c' hController hRaw s t hSame

theorem serveMessage_simulates {message : ServoMessage}
    (hMessage : ∀ startId endId, message ≠ .scanServos startId endId) :
    Simulates fromSlice oracle (serveMessage serde message) (serveMessage serde message)
      fun m m' => SameReply (.ok m) (.ok m') := by
  have hEq {p : Bridge ServerMessage} (h : Simulates fromSlice oracle p p Eq) :
      Simulates fromSlice oracle p p fun m m' => SameReply (.ok m) (.ok m') := by
    apply h.mono
    rintro m _ rfl
    cases m <;> first | rfl | exact ⟨rfl, rfl⟩
  cases message with
  | startMotor id speed acceleration direction =>
    exact hEq (startMotor_simulates hUnderstood id speed acceleration direction)
  | stopMotor id => exact hEq (stopMotor_simulates hUnderstood id)
  | movePosition id position acceleration torqueLimit =>
    exact hEq (movePosition_simulates hUnderstood id position acceleration torqueLimit)
  | readPosition id =>
    apply (readPosition_simulates hUnderstood id).bind
    rintro position _ rfl
    exact .pure rfl
  | readPositions ids =>
    change Simulates fromSlice oracle (Host.readPositions serde ids) (Host.readPositions serde ids) _
    unfold Host.readPositions
    split
    · have hUsable : connectionIsUsableAfter
          "At most six position servos can be read at once" = true :=
        usable_of_start "At most" (by simp [usableStarts]) ⟨_, rfl⟩
      exact Simulates.throw hUsable hUsable
    · apply (readPositionsFrom_simulates hUnderstood ids [] (Eq.refl (List.length []))).mono
      rintro _ _ ⟨positions, errors, errors', rfl, rfl, hErrors⟩
      exact ⟨rfl, hErrors⟩
  | scanServos startId endId => exact absurd rfl (hMessage startId endId)

end Requests

theorem modes_are_the_same_machine (hUnderstood : Understood fromSlice serde) (oracle : Oracle)
    {message : ServoMessage} (hMessage : ∀ startId endId, message ≠ .scanServos startId endId)
    {c c' : BridgeConnection} (hController : c.transport = .controller)
    (hRaw : c'.transport = .debugRaw) (packets : List (List UInt8)) (unread unread' : List UInt8) :
    let controller := outcome (mcu fromSlice oracle) (serveMessage serde message) c
      ⟨⟨packets, unread⟩, []⟩
    let raw := outcome (tunnel oracle) (serveMessage serde message) c' ⟨packets, unread'⟩
    controller.2.wire.packets = raw.2.packets ∧ SameReply controller.1.1 raw.1.1 := by
  intro controller raw
  obtain ⟨⟨hPackets, -⟩, -, -, hResult⟩ := serveMessage_simulates hUnderstood hMessage c c'
    hController hRaw ⟨⟨packets, unread⟩, []⟩ ⟨packets, unread'⟩ ⟨rfl, rfl⟩
  refine ⟨hPackets, ?_⟩
  change SameResult _ controller.1.1 raw.1.1 at hResult
  generalize controller.1.1 = x at hResult ⊢
  generalize raw.1.1 = y at hResult ⊢
  cases x with
  | error error =>
    cases y with
    | error error' => trivial
    | ok m => exact hResult.elim
  | ok m =>
    cases y with
    | error error => exact hResult.elim
    | ok m' => exact hResult

theorem modes_are_the_same_machine_stop :
    let oracle : Oracle := fun _ => [0x00, 0xff, 0xff, 0x01, 0x02, 0x00, 0xfc]
    let controller := outcome (mcu requestReader oracle) (serveMessage responseReader (.stopMotor 1))
      ⟨"mcu:3333", .controller, 1⟩ ⟨⟨[], []⟩, []⟩
    let raw := outcome (tunnel oracle) (serveMessage responseReader (.stopMotor 1))
      ⟨"mcu:3333", .debugRaw, 1⟩ ⟨[], []⟩
    controller.2.wire.packets = raw.2.packets ∧ SameReply controller.1.1 raw.1.1 :=
  modes_are_the_same_machine readers_understand _ (by rintro _ _ ⟨⟩) rfl rfl [] [] []

end Fetchline.Modes
