import Fetchline.Firmware.BusRules
import Fetchline.Firmware.Rpc

/-! # The bus safety envelope

What may ever be put on the servo bus, stated on the bytes of a packet alone,
and the proof that no request gets a packet outside of it written.
-/

namespace Fetchline

open Effects Effects.Program Bounded

/-- Header, length byte and checksum of an instruction packet. -/
structure WellFormedPacket (packet : List UInt8) : Prop where
  header : packet.take 2 = stsHeader
  length : (packet.getD 3 0).toNat + 4 = packet.length
  atLeast : 6 ≤ packet.length
  checksum : packet.getLast? = some (checksum (packet.drop 2).dropLast)

def packetId (packet : List UInt8) : UInt8 := packet.getD 2 0
def packetInstruction (packet : List UInt8) : UInt8 := packet.getD 4 0
def packetParameters (packet : List UInt8) : List UInt8 := (packet.drop 5).dropLast

/-- The word that a WRITE with these parameters (the first register, then its
data) leaves in a register and its successor. -/
def registerWord (parameters : List UInt8) (register : UInt8) : Option UInt16 :=
  match parameters with
  | [] => none
  | address :: data =>
    if address ≤ register then
      match data.drop (register.toNat - address.toNat) with
      | low :: high :: _ => some (fromLeBytes low high)
      | _ => none
    else none

def stsGoalPosition : UInt8 := 42
def stsGoalSpeed : UInt8 := 46

structure SafeWrite (parameters : List UInt8) : Prop where
  register : ∃ address data, parameters = address :: data ∧
    address ∈ [stsMode, stsTorqueEnable, stsAcceleration, stsTorqueLimit]
  position : ∀ word, registerWord parameters stsGoalPosition = some word → word ≤ 4095
  speed : ∀ word, registerWord parameters stsGoalSpeed = some word → word &&& 0x7fff ≤ 4095
  torque : ∀ word, registerWord parameters stsTorqueLimit = some word → word ≤ 1000

/-- The instructions a packet may carry. -/
def SafeInstruction (instruction : UInt8) (parameters : List UInt8) : Prop :=
  (instruction = stsInstructionPing ∧ parameters = []) ∨
  (instruction = stsInstructionRead ∧ parameters = [stsPresentPosition, 2]) ∨
  (instruction = stsInstructionWrite ∧ SafeWrite parameters)

structure InEnvelope (packet : List UInt8) : Prop where
  wellFormed : WellFormedPacket packet
  unicast : 1 ≤ packetId packet ∧ packetId packet ≤ 253
  instruction : SafeInstruction (packetInstruction packet) (packetParameters packet)

@[simp] theorem packetId_instructionPacket (id instruction : UInt8) (parameters : List UInt8) :
    packetId (instructionPacket id instruction parameters) = id := rfl

@[simp] theorem packetInstruction_instructionPacket (id instruction : UInt8)
    (parameters : List UInt8) :
    packetInstruction (instructionPacket id instruction parameters) = instruction := rfl

@[simp] theorem packetParameters_instructionPacket (id instruction : UInt8)
    (parameters : List UInt8) :
    packetParameters (instructionPacket id instruction parameters) = parameters := by
  change (parameters ++ [_]).dropLast = parameters
  exact List.dropLast_concat

theorem wellFormed_instructionPacket (id instruction : UInt8) {parameters : List UInt8}
    (hLong : parameters.length ≤ 253) :
    WellFormedPacket (instructionPacket id instruction parameters) where
  header := rfl
  length := by
    change (UInt8.ofNat (parameters.length + 2)).toNat + 4 = _
    rw [instructionPacket_length, UInt8.toNat_ofNat']
    omega
  atLeast := by simp
  checksum := by
    change (_ ++ [_]).getLast? = some (checksum ((instructionBody id instruction parameters ++
      [checksum (instructionBody id instruction parameters)]).dropLast))
    rw [List.dropLast_concat, List.getLast?_concat]

theorem isUnicastServoId_iff (id : UInt8) : isUnicastServoId id = true ↔ 1 ≤ id ∧ id ≤ 253 := by
  rw [isUnicastServoId, Bool.and_eq_true, bne_iff_ne, decide_eq_true_eq,
    show maxServoId = 253 by decide]
  apply and_congr_left
  intro _
  rw [ne_eq, ← UInt8.toNat_inj, UInt8.le_iff_toNat_le]
  change id.toNat ≠ 0 ↔ 1 ≤ id.toNat
  omega

theorem inEnvelope_instructionPacket {id instruction : UInt8} {parameters : List UInt8}
    (hId : isUnicastServoId id = true) (hLong : parameters.length ≤ 253)
    (hSafe : SafeInstruction instruction parameters) :
    InEnvelope (instructionPacket id instruction parameters) where
  wellFormed := wellFormed_instructionPacket id instruction hLong
  unicast := (isUnicastServoId_iff id).mp hId
  instruction := by simpa using hSafe

theorem safeWrite_flag {address : UInt8} (hAddress : address = stsMode ∨ address = stsTorqueEnable)
    (flag : UInt8) : SafeWrite [address, flag] := by
  rcases hAddress with rfl | rfl <;> exact
    { register := ⟨_, _, rfl, by decide⟩
      position := by rintro word ⟨⟩
      speed := by rintro word ⟨⟩
      torque := by rintro word ⟨⟩ }

theorem safeWrite_torqueLimit {limit : UInt16} (h : limit ≤ 1000) :
    SafeWrite (stsTorqueLimit :: toLeBytes limit) where
  register := ⟨_, _, rfl, by decide⟩
  position := by rintro word ⟨⟩
  speed := by rintro word ⟨⟩
  torque := by
    intro word hWord
    change some (fromLeBytes _ _) = some word at hWord
    rw [fromLeBytes_toLeBytes] at hWord
    exact Option.some.inj hWord ▸ h

theorem safeWrite_motion (acceleration : UInt8) {position speed : UInt16}
    (hPosition : position ≤ 4095) (hSpeed : speed &&& 0x7fff ≤ 4095) :
    SafeWrite (stsAcceleration :: motionCommand acceleration position speed) where
  register := ⟨_, _, rfl, by decide⟩
  position := by
    intro word hWord
    change some (fromLeBytes _ _) = some word at hWord
    rw [fromLeBytes_toLeBytes] at hWord
    exact Option.some.inj hWord ▸ hPosition
  speed := by
    intro word hWord
    change some (fromLeBytes _ _) = some word at hWord
    rw [fromLeBytes_toLeBytes] at hWord
    exact Option.some.inj hWord ▸ hSpeed
  torque := by rintro word ⟨⟩

theorem signedSpeed_magnitude (counterClockwise : Bool) {speed : UInt16} (h : speed ≤ 4095) :
    (if counterClockwise then speed ||| 0x8000 else speed) &&& 0x7fff ≤ 4095 := by
  rw [UInt16.le_iff_toNat_le] at h ⊢
  rw [UInt16.toNat_and]
  cases counterClockwise with
  | false => exact Nat.and_le_left.trans h
  | true =>
    change (speed ||| 0x8000).toNat &&& 0x7fff ≤ 4095
    rw [UInt16.toNat_or, Nat.and_or_distrib_right]
    calc (speed.toNat &&& 0x7fff) ||| 0 = speed.toNat &&& 0x7fff := Nat.or_zero _
      _ ≤ speed.toNat := Nat.and_le_left
      _ ≤ 4095 := h

/-- The automaton's state says whether a WRITE packet has been put on the bus. -/
def envelope : Discipline BusOp BusOp.Reply Bool where
  allowed
    | _, .writeAll packet => InEnvelope packet
    | _, _ => True
  next
    | wrote, .writeAll packet, _ => wrote || packetInstruction packet == stsInstructionWrite
    | wrote, _, _ => wrote

theorem sendStsPacket_in_envelope {id instruction : UInt8} {parameters : List UInt8} (wrote : Bool)
    (hId : isUnicastServoId id = true) (hLong : parameters.length ≤ 10)
    (hSafe : SafeInstruction instruction parameters) :
    (sendStsPacket id instruction parameters).run.Obeys envelope wrote
      (exits (fun _ wrote' => wrote' = (wrote || instruction == stsInstructionWrite))
        fun failure wrote' => failure.onBus ∧
          wrote' = (wrote || instruction == stsInstructionWrite)) := by
  rw [sendStsPacket, encodeInstructionPacket_fits _ _ _ _ (by omega) (by simpa using by omega)]
  dsimp only
  rw [List.take_left' (instructionPacket_length _ _ _), obeys_concludeTransaction,
    obeys_throwing_bind, obeys_writeAll]
  refine ⟨inEnvelope_instructionPacket hId (by omega) hSafe, trivial, ?_, trivial, trivial, ?_⟩
  · refine (readStsStatus_keeps (· = (wrote || instruction == stsInstructionWrite))
      (fun _ _ => trivial) (fun _ _ h => h) id (by simp [envelope])).mono ?_
    rintro (failure | status) wrote' h
    · exact ⟨trivial, h⟩
    · exact ⟨trivial, h⟩
  · simp [envelope]

/-- Reads and pings leave the automaton alone, however they end. -/
def readsOnly {α : Type} (wrote : Bool) : Except ServoFailure α → Bool → Prop :=
  exits (fun _ wrote' => wrote' = wrote) fun _ wrote' => wrote' = wrote

theorem sendStsPacket_reads {id instruction : UInt8} {parameters : List UInt8} (wrote : Bool)
    (hRead : instruction ≠ stsInstructionWrite) (hId : isUnicastServoId id = true)
    (hLong : parameters.length ≤ 10) (hSafe : SafeInstruction instruction parameters) :
    (sendStsPacket id instruction parameters).run.Obeys envelope wrote (readsOnly wrote) := by
  have hSame : (wrote || instruction == stsInstructionWrite) = wrote := by simp [hRead]
  refine (sendStsPacket_in_envelope wrote hId hLong hSafe).mono ?_
  rintro (failure | status) wrote' h
  · exact h.2.trans hSame
  · exact h.trans hSame

/-- The postcondition of a command: an argument failure comes before any WRITE. -/
def argumentsFirst {α : Type} : Except ServoFailure α → Bool → Prop :=
  exits (fun _ _ => True) fun failure wrote => failure.onBus ∨ wrote = false

theorem writeRegister_in_envelope {id address : UInt8} {data : List UInt8} (wrote : Bool)
    (hId : isUnicastServoId id = true) (hLong : data.length ≤ 7)
    (hSafe : SafeWrite (address :: data)) :
    (writeRegister id address data).run.Obeys envelope wrote argumentsFirst := by
  rw [writeRegister, if_neg (by omega), argumentsFirst, obeys_throwing_bind]
  refine (sendStsPacket_in_envelope wrote hId (by simpa using by omega)
    (.inr (.inr ⟨rfl, hSafe⟩))).mono ?_
  rintro (failure | status) wrote' h
  · exact .inl h.1
  · simp only [exits_ok]
    split
    · trivial
    · exact .inl trivial

theorem validateServoId_in_envelope (id : UInt8) (wrote : Bool) :
    (validateServoId id).run.Obeys envelope wrote
      (exits (fun _ wrote' => wrote' = wrote ∧ isUnicastServoId id = true)
        fun _ wrote' => wrote' = wrote) := by
  rw [validateServoId]
  split
  · rfl
  · exact ⟨rfl, by simpa using ‹¬ ¬ isUnicastServoId id = true›⟩

/-- A command that validates its servo id first may do the rest knowing it. -/
theorem validated_in_envelope {α : Type} {id : UInt8} {command : Servo α} {wrote : Bool}
    {ok : α → Bool → Prop} {error : ServoFailure → Bool → Prop}
    (hRefused : ∀ failure, error failure wrote)
    (h : isUnicastServoId id = true → command.run.Obeys envelope wrote (exits ok error)) :
    (do validateServoId id; command : Servo α).run.Obeys envelope wrote (exits ok error) := by
  rw [obeys_throwing_bind]
  refine (validateServoId_in_envelope id wrote).mono ?_
  rintro (failure | _) wrote' hValid
  · rw [exits_error] at hValid ⊢
    exact hValid ▸ hRefused failure
  · rw [exits_ok] at hValid ⊢
    exact hValid.1 ▸ h hValid.2

theorem startMotor_in_envelope (id : UInt8) (counterClockwise : Bool) (speed : UInt16)
    (acceleration : UInt8) :
    (startMotor id counterClockwise speed acceleration).run.Obeys envelope false argumentsFirst := by
  refine validated_in_envelope (fun _ => .inr rfl) fun hId => ?_
  split
  · exact .inr rfl
  · rename_i hSpeed
    have hSpeed : speed ≤ 4095 := UInt16.not_lt.mp hSpeed
    refine (writeRegister_in_envelope false hId (by decide)
      (safeWrite_flag (.inl rfl) 1)).andThen fun _ wrote _ => ?_
    refine (writeRegister_in_envelope wrote hId (by decide)
      (safeWrite_flag (.inr rfl) 1)).andThen fun _ wrote _ => ?_
    exact writeRegister_in_envelope wrote hId (by simp [motionCommand, toLeBytes])
      (safeWrite_motion acceleration (by decide) (signedSpeed_magnitude counterClockwise hSpeed))

theorem stopMotor_in_envelope (id : UInt8) :
    (stopMotor id).run.Obeys envelope false argumentsFirst :=
  validated_in_envelope (fun _ => .inr rfl) fun hId =>
    writeRegister_in_envelope false hId (by decide)
      (safeWrite_motion 0 (by decide : (0 : UInt16) ≤ 4095) (by decide : (0 : UInt16) &&& 0x7fff ≤ 4095))

theorem movePosition_in_envelope (id : UInt8) (position : UInt16) (acceleration : UInt8)
    (torqueLimit : UInt16) :
    (movePosition id position acceleration torqueLimit).run.Obeys envelope false argumentsFirst := by
  refine validated_in_envelope (fun _ => .inr rfl) fun hId => ?_
  split
  · exact .inr rfl
  · rename_i hBounds
    obtain ⟨hPosition, hTorque⟩ := not_or.mp hBounds
    have hPosition : position ≤ 4095 := UInt16.not_lt.mp hPosition
    have hTorque : torqueLimit ≤ 1000 := UInt16.not_lt.mp hTorque
    refine (writeRegister_in_envelope false hId (by decide)
      (safeWrite_flag (.inr rfl) 1)).andThen fun _ wrote _ => ?_
    refine (writeRegister_in_envelope wrote hId (by simp [toLeBytes])
      (safeWrite_torqueLimit hTorque)).andThen fun _ wrote _ => ?_
    exact writeRegister_in_envelope wrote hId (by simp [motionCommand, toLeBytes])
      (safeWrite_motion acceleration hPosition (by decide))

theorem readPosition_in_envelope (id : UInt8) (wrote : Bool) :
    (readPosition id).run.Obeys envelope wrote (readsOnly wrote) := by
  refine validated_in_envelope (fun _ => rfl) fun hId => ?_
  refine (sendStsPacket_reads wrote (by decide) hId (by decide) (.inr (.inl ⟨rfl, rfl⟩))).andThen ?_
  intro status wrote' h
  split <;> exact h

theorem pingServo_in_envelope (id : UInt8) (wrote : Bool) :
    (pingServo id).run.Obeys envelope wrote (readsOnly wrote) := by
  refine validated_in_envelope (fun _ => rfl) fun hId => ?_
  exact (sendStsPacket_reads wrote (by decide) hId (by decide) (.inl ⟨rfl, rfl⟩)).andThen
    fun _ _ h => h

theorem readPositionsFrom_in_envelope (ids : List UInt8)
    (positions : BoundedVec PositionResult maxPositionBatch) (wrote : Bool) :
    (readPositionsFrom ids positions).run.Obeys envelope wrote (readsOnly wrote) := by
  induction ids generalizing positions with
  | nil => rfl
  | cons id ids ih =>
    refine (readPosition_in_envelope id wrote).andThen ?_
    rintro position wrote' rfl
    split
    · rfl
    · exact ih _

theorem resynchronizeUart_in_envelope (wrote : Bool) :
    resynchronizeUart.Obeys envelope wrote fun _ wrote' => wrote' = wrote :=
  (discardReads_keeps (· = wrote) (fun _ _ => trivial) (fun _ _ h => h) 4 rfl).bind
    fun _ _ h => ⟨trivial, fun _ => h⟩

theorem probeServo_in_envelope (id : UInt8) (ids : BoundedVec UInt8 maxScanResults) (wrote : Bool) :
    (probeServo id ids).run.Obeys envelope wrote (readsOnly wrote) := by
  refine (pingServo_in_envelope id wrote).bind ?_
  rintro (failure | _) wrote' h
  · replace h : wrote' = wrote := h
    subst h
    cases failure <;> exact (resynchronizeUart_in_envelope wrote').bind fun _ _ h => h
  · dsimp only
    split <;> exact h

theorem scanFrom_in_envelope (rawIds : List Nat) (ids : BoundedVec UInt8 maxScanResults)
    (wrote : Bool) : (scanFrom rawIds ids).run.Obeys envelope wrote (readsOnly wrote) := by
  induction rawIds generalizing ids with
  | nil => rfl
  | cons rawId rawIds ih =>
    rw [scanFrom]
    split
    · exact ih ids
    · refine (probeServo_in_envelope _ ids wrote).andThen ?_
      rintro ids wrote' rfl
      exact ih ids

theorem runCommand_in_envelope (command : ControllerCommand) :
    (runCommand command).run.Obeys envelope false argumentsFirst := by
  -- A command that only reads may fail anywhere: nothing has been written.
  have hReads {α : Type} {p : Servo α} {f : α → ControllerResult}
      (h : p.run.Obeys envelope false (readsOnly false)) :
      (do let a ← p; pure (f a) : Servo ControllerResult).run.Obeys envelope false argumentsFirst := by
    rw [argumentsFirst, obeys_throwing_bind]
    refine h.mono ?_
    rintro (failure | a) wrote h'
    · exact .inr h'
    · trivial
  cases command with
  | startMotor id counterClockwise speed acceleration =>
    exact (startMotor_in_envelope id counterClockwise speed acceleration).andThen fun _ _ h => h
  | stopMotor id => exact (stopMotor_in_envelope id).andThen fun _ _ h => h
  | setPosition id position acceleration torqueLimit =>
    exact (movePosition_in_envelope id position acceleration torqueLimit).andThen fun _ _ h => h
  | getPosition id => exact hReads (readPosition_in_envelope id false)
  | getPositions ids => exact hReads (readPositionsFrom_in_envelope ids.toList .empty false)
  | scanServos startId endId =>
    refine hReads ?_
    rw [scanServos]
    split
    · rfl
    · exact scanFrom_in_envelope _ .empty false

theorem executeCommand_in_envelope (command : ControllerCommand) :
    (executeCommand command).Obeys envelope false argumentsFirst := by
  refine ⟨trivial, fun _ => ⟨trivial, fun _ => (runCommand_in_envelope command).bind ?_⟩⟩
  rintro (failure | result) wrote h
  · exact (resynchronizeUart_in_envelope wrote).bind fun _ _ hSame => hSame ▸ h
  · trivial

theorem ServoFailure.rpcFailure_ne_invalidParams {failure : ServoFailure} (h : failure.onBus) :
    failure.rpcFailure ≠ .invalidParams := by
  cases failure <;> first | exact h.elim | decide

/-- The postcondition of a request: after a WRITE, no answer is Invalid params. -/
def answersParamsFirst {α : Type} : Except RpcFailure α → Bool → Prop :=
  exits (fun _ _ => True) fun failure wrote => failure = .invalidParams → wrote = false

theorem serveMethod_in_envelope (request : JsonRpcRequest) :
    (serveMethod request).Obeys envelope false answersParamsFirst := by
  refine Serves.serveMethod ⟨trivial, ⟨trivial, trivial⟩, ⟨trivial, trivial⟩, trivial,
    fun _ => rfl, fun _ _ _ => rfl, fun command => ?_⟩
  apply (executeCommand_in_envelope command).mono
  rintro (failure | result) wrote h
  · intro hParams
    exact h.resolve_left fun hBus => failure.rpcFailure_ne_invalidParams hBus hParams
  · trivial

theorem handleJsonRpc_in_envelope (fromSlice : String → Option JsonRpcRequest) (capacity : Nat)
    (text : String) :
    (handleJsonRpc fromSlice capacity text).Obeys envelope false fun answer wrote =>
      ∀ encoded id, answer = some encoded → encoded.response = .error .invalidParams id →
        wrote = false := by
  refine handleJsonRpc_obeys (fun _ _ _ _ _ => rfl) (fun _ _ _ _ _ _ _ => rfl)
    fun request _ _ => (serveMethod_in_envelope request).mono ?_
  intro result wrote h encoded id hAnswer hResponse
  rw [error_of_encodeResult hAnswer hResponse] at h
  exact h rfl

/-- The packets that some exchanges put on the bus, in order. -/
def writtenPackets : List (Exchange BusOp BusOp.Reply) → List (List UInt8)
  | [] => []
  | ⟨.writeAll packet, _⟩ :: trace => packet :: writtenPackets trace
  | _ :: trace => writtenPackets trace

theorem mem_writtenPackets {packet : List UInt8} {trace : List (Exchange BusOp BusOp.Reply)}
    (h : packet ∈ writtenPackets trace) :
    ∃ before written after, trace = before ++ ⟨.writeAll packet, written⟩ :: after := by
  induction trace with
  | nil => cases h
  | cons x trace ih =>
    -- Either the first exchange is the write, or it stays in front of it.
    have hLater (h : packet ∈ writtenPackets trace) :
        ∃ before written after, x :: trace = before ++ ⟨.writeAll packet, written⟩ :: after := by
      obtain ⟨before, written, after, rfl⟩ := ih h
      exact ⟨x :: before, written, after, rfl⟩
    obtain ⟨request, reply⟩ := x
    cases request with
    | writeAll first =>
      rcases List.mem_cons.mp h with rfl | h
      · exact ⟨[], reply, trace, rfl⟩
      · exact hLater h
    | _ => exact hLater h

theorem envelope_after (wrote : Bool) (trace : List (Exchange BusOp BusOp.Reply)) :
    envelope.after wrote trace =
      (wrote || (writtenPackets trace).any (packetInstruction · == stsInstructionWrite)) := by
  induction trace generalizing wrote with
  | nil => simp [Discipline.after, writtenPackets]
  | cons x trace ih =>
    obtain ⟨request, reply⟩ := x
    change envelope.after (envelope.next wrote request reply) trace = _
    rw [ih]
    cases request <;> simp [envelope, writtenPackets, Bool.or_assoc]

/-- Every packet of every run of a request, complete or cut short, lies in the
envelope, and no request that is answered with Invalid params has written. -/
theorem request_stays_in_envelope (fromSlice : String → Option JsonRpcRequest) (capacity : Nat)
    (text : String) (trace : List (Exchange BusOp BusOp.Reply))
    (rest : Bus (Option (EncodedResponse capacity)))
    (hRun : Steps (handleJsonRpc fromSlice capacity text) trace rest) :
    (∀ packet ∈ writtenPackets trace, InEnvelope packet) ∧
    (∀ encoded id, rest = .done (some encoded) → encoded.response = .error .invalidParams id →
      ∀ packet ∈ writtenPackets trace, packetInstruction packet ≠ stsInstructionWrite) := by
  have h := handleJsonRpc_in_envelope fromSlice capacity text
  constructor
  · intro packet hPacket
    obtain ⟨before, written, after, rfl⟩ := mem_writtenPackets hPacket
    exact h.allowed hRun
  · rintro encoded id rfl hResponse packet hPacket hWrite
    have hWrote := h.result hRun encoded id rfl hResponse
    rw [envelope_after, Bool.false_or, List.any_eq_false] at hWrote
    exact hWrote packet hPacket (by simp [hWrite])

/-- A motor stop that no servo answers. -/
theorem request_stays_in_envelope_stop :
    InEnvelope (instructionPacket 1 stsInstructionWrite (stsAcceleration :: List.replicate 7 0)) := by
  let request : JsonRpcRequest := ⟨"2.0", "motor.stop", { id := some 1 }, some 7⟩
  have hRun : Steps (handleJsonRpc (fun _ => some request) jsonRpcBufferSize
      "\x7b\"jsonrpc\":\"2.0\",\"id\":7,\"method\":\"motor.stop\",\"params\":\x7b\"id\":1\x7d\x7d")
      [⟨.isTunnelEnabled, false⟩, ⟨.lockUartRx, ()⟩, ⟨.lockUartTx, ()⟩,
        ⟨.writeAll (instructionPacket 1 stsInstructionWrite (stsAcceleration :: List.replicate 7 0)), ()⟩,
        ⟨.written, true⟩, ⟨.readByte, none⟩, ⟨.observe (.statusRejected .timeout), ()⟩, ⟨.discard, false⟩,
        ⟨.observe .resynchronized, ()⟩]
      (.done (encodeResult jsonRpcBufferSize (some 7) (.error .servoTimeout))) :=
    .call _ (.call _ (.call _ (.call _ (.call _ (.call _ (.call _ (.call _ (.call _ (.refl _)))))))))
  exact (request_stays_in_envelope _ _ _ _ _ hRun).1 _ List.mem_cons_self

end Fetchline
