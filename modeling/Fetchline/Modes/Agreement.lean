import Fetchline.Modes.Transaction
import Fetchline.Firmware.Responses

/-! # The firmware's commands and the host's raw commands

Both put the same packets on the bus and make the same of the replies.
-/

namespace Fetchline.Modes

open Effects Effects.Program Host

def SamePackets (s t : Wire) : Prop := s.packets = t.packets

/-- Both succeed, with results related by `R`, or both fail; the host's errors
leave its connection usable. -/
def SameOutcome {α β : Type} (R : α → β → Prop) :
    Except ServoFailure α → Except String β → Prop
  | .ok a, .ok b => R a b
  | .error _, .error error => connectionIsUsableAfter error = true
  | _, _ => False

/-- A program of the firmware and a raw program of the host, on the same oracle. -/
def Agrees {α β : Type} (oracle : Oracle) (p : Servo α) (q : Bridge β) (R : α → β → Prop) : Prop :=
  ∀ c : BridgeConnection, c.transport = .debugRaw →
    Related (uart oracle) (tunnel oracle) SamePackets p.run (q.run.run c) fun x y s t =>
      SamePackets s t ∧ y.2 = c ∧ SameOutcome R x y.1

variable {oracle : Oracle}

namespace Agrees

variable {α β α' β' : Type} {p : Servo α} {q : Bridge β} {R : α → β → Prop}

theorem pure {a : α} {b : β} (h : R a b) : Agrees oracle (pure a) (pure b) R :=
  fun _ _ _ _ hSame => ⟨hSame, rfl, h⟩

theorem bind {f : α → Servo α'} {g : β → Bridge β'} {T : α' → β' → Prop}
    (h : Agrees oracle p q R) (hNext : ∀ a b, R a b → Agrees oracle (f a) (g b) T) :
    Agrees oracle (p >>= f) (q >>= g) T := by
  intro c hRaw
  rw [ExceptT.run_bind, ExceptT.run_bind, StateT.run_bind]
  refine Related.bind (h c hRaw) ?_
  rintro (failure | a) ⟨error | b, c'⟩ s t ⟨hSame, rfl, hOutcome⟩
  · exact ⟨hSame, rfl, hOutcome⟩
  · exact hOutcome.elim
  · exact hOutcome.elim
  · exact hNext a b hOutcome c' hRaw s t hSame

end Agrees

/-- The payload of the status, if it has `n` bytes. -/
def sendForPayload (id instruction : UInt8) (parameters : List UInt8) (n : Nat) :
    Servo (List UInt8) := do
  let status ← sendStsPacket id instruction parameters
  if status.payload.length = n then pure status.payload else throw .invalidReply

theorem sendForPayload_agrees (id instruction : UInt8) {parameters : List UInt8}
    (hShort : parameters.length ≤ 10) (n : Nat) :
    Agrees oracle (sendForPayload id instruction parameters n)
      (do writePacket id instruction parameters; readStatus id n)
      fun a b => a = b ∧ a.length = n := by
  intro c hRaw s t hSame
  obtain ⟨result, s', hSend, hPackets, hPayload⟩ := sendStsPacket_run oracle s id instruction hShort
  obtain ⟨read, t', hRead, hPackets', hReads⟩ := readStatus_outcome oracle
    (t.write oracle (instructionPacket id instruction parameters)) c hRaw id n
  have hHost : outcome (tunnel oracle) (do writePacket id instruction parameters; readStatus id n)
      c t = ((read, c), t') := by
    rw [outcome_bind, writePacket_outcome oracle t c hRaw id instruction hShort]
    exact hRead
  have hPackets'' : s'.packets = t'.packets := by
    rw [hPackets, hPackets', hSame]
    rfl
  rw [hSame] at hPayload
  change HostReads (statusPayload id (oracle (t.packets ++ _))) n read at hReads
  rw [← hPayload] at hReads
  rw [outcome] at hHost
  rw [hHost, sendForPayload, servo_bind_run, hSend]
  cases result with
  | error failure =>
    cases read with
    | ok bytes => exact absurd hReads.1 nofun
    | error error => exact ⟨hPackets'', rfl, hReads.2⟩
  | ok status =>
    dsimp only
    by_cases hLength : status.payload.length = n
    · rw [if_pos hLength]
      cases read with
      | ok bytes => exact ⟨hPackets'', rfl, Option.some.inj hReads.1, hLength⟩
      | error error => exact absurd hLength (hReads.1 _ rfl)
    · rw [if_neg hLength]
      cases read with
      | ok bytes => exact absurd (Option.some.inj hReads.1 ▸ hReads.2) hLength
      | error error => exact ⟨hPackets'', rfl, hReads.2⟩

theorem sendForPayload_bind {α : Type} (id instruction : UInt8) (parameters : List UInt8) (n : Nat)
    (f : List UInt8 → Servo α) :
    sendForPayload id instruction parameters n >>= f =
      sendStsPacket id instruction parameters >>= fun status =>
        if status.payload.length = n then f status.payload else throw .invalidReply := by
  rw [sendForPayload, LawfulMonad.bind_assoc]
  congr 1
  funext status
  split
  · rw [pure_bind]
  · rfl

theorem writeRegister_agrees (id address : UInt8) {data : List UInt8} (hData : data.length ≤ 7) :
    Agrees oracle (Fetchline.writeRegister id address data) (Host.writeRegister id address data)
      fun _ _ => True := by
  have hFirmware : Fetchline.writeRegister id address data =
      sendForPayload id Fetchline.stsInstructionWrite (address :: data) 0 >>= fun _ => pure () := by
    rw [Fetchline.writeRegister, if_neg (by omega), sendForPayload_bind]
  have hHost : Host.writeRegister id address data =
      (do writePacket id Fetchline.stsInstructionWrite (address :: data); readStatus id 0) >>=
        fun _ => pure () := by
    rw [Host.writeRegister, LawfulMonad.bind_assoc]
    rfl
  have hShort : (address :: data).length ≤ 10 := by
    rw [List.length_cons]
    omega
  rw [hFirmware, hHost]
  apply (sendForPayload_agrees id _ hShort 0).bind
  intro _ _ _
  exact .pure trivial

theorem Agrees.writeRegister {α β : Type} {p : Servo α} {q : Bridge β} {R : α → β → Prop}
    {id address : UInt8} {data data' : List UInt8} (hData : data.length ≤ 7) (hSame : data = data')
    (hNext : Agrees oracle p q R) :
    Agrees oracle (Fetchline.writeRegister id address data >>= fun _ => p)
      (Host.writeRegister id address data' >>= fun _ => q) R := by
  subst hSame
  exact (writeRegister_agrees id address hData).bind fun _ _ _ => hNext

variable {id : UInt8}

theorem validateServoId_unicast (hId : Host.isUnicastServoId id = true) :
    validateServoId id = pure () := by
  have hFirmware : Fetchline.isUnicastServoId id = true := by
    rw [← hId]
    simp only [Fetchline.isUnicastServoId, Host.isUnicastServoId, bne, decide_not]
    rfl
  rw [validateServoId, hFirmware]
  rfl

theorem startMotor_agrees (hId : Host.isUnicastServoId id = true) {speed : UInt16}
    (hSpeed : ¬ speed > 4095) (acceleration : UInt8) (direction : Direction) :
    Agrees oracle
      (runCommand (.startMotor id (direction = .counterclockwise) speed acceleration))
      (rawStartMotor id speed acceleration direction)
      fun r m => r = .accepted ∧ m = .complete "motor_started" := by
  rw [runCommand, Fetchline.startMotor, validateServoId_unicast hId, pure_bind, if_neg hSpeed]
  unfold rawStartMotor
  simp only [LawfulMonad.bind_assoc]
  apply Agrees.writeRegister (by decide) rfl
  apply Agrees.writeRegister (by decide) rfl
  apply Agrees.writeRegister
  · exact Nat.le_refl 7
  · cases direction <;> rfl
  · exact .pure ⟨rfl, rfl⟩

theorem stopMotor_agrees (hId : Host.isUnicastServoId id = true) :
    Agrees oracle (runCommand (.stopMotor id)) (rawStopMotor id)
      fun r m => r = .accepted ∧ m = .complete "motor_stopped" := by
  rw [runCommand, Fetchline.stopMotor, validateServoId_unicast hId, pure_bind, rawStopMotor]
  apply Agrees.writeRegister (by decide) rfl
  exact .pure ⟨rfl, rfl⟩

theorem movePosition_agrees (hId : Host.isUnicastServoId id = true) {position torqueLimit : UInt16}
    (hPosition : ¬ position > 4095) (hTorque : ¬ torqueLimit > 1000) (acceleration : UInt8) :
    Agrees oracle (runCommand (.setPosition id position acceleration torqueLimit))
      (rawMovePosition id position acceleration torqueLimit)
      fun r m => r = .accepted ∧ m = .complete "position_commanded" := by
  have hArguments : ¬ (position > 4095 ∨ torqueLimit > 1000) := fun h => h.elim hPosition hTorque
  rw [runCommand, Fetchline.movePosition, validateServoId_unicast hId, pure_bind,
    if_neg hArguments, rawMovePosition]
  simp only [LawfulMonad.bind_assoc]
  apply Agrees.writeRegister (by decide) rfl
  apply Agrees.writeRegister
  · exact Nat.le_of_ble_eq_true rfl
  · rfl
  apply Agrees.writeRegister
  · exact Nat.le_refl 7
  · rfl
  · exact .pure ⟨rfl, rfl⟩

theorem readPosition_agrees (hId : Host.isUnicastServoId id = true) :
    Agrees oracle (runCommand (.getPosition id)) (rawReadPosition id)
      fun r position => r = .position ⟨id, position⟩ ∧ -32768 ≤ position ∧ position ≤ 32767 := by
  have hFirmware : runCommand (.getPosition id) =
      sendForPayload id Fetchline.stsInstructionRead [Fetchline.stsPresentPosition, 2] 2 >>=
        fun payload => pure (.position ⟨id, Fetchline.decodeSigned15
          (Fetchline.fromLeBytes (payload.getD 0 0) (payload.getD 1 0))⟩) := by
    rw [runCommand, Fetchline.readPosition, validateServoId_unicast hId, pure_bind,
      sendForPayload_bind, LawfulMonad.bind_assoc]
    congr 1
    funext status
    obtain ⟨payload⟩ := status
    obtain _ | ⟨low, _ | ⟨high, _ | ⟨other, rest⟩⟩⟩ := payload <;> rfl
  rw [hFirmware, rawReadPosition, readRegister]
  apply (sendForPayload_agrees id _ (by decide) 2).bind
  rintro payload _ ⟨rfl, -⟩
  exact .pure ⟨rfl, Fetchline.decodeSigned15_range _⟩

end Fetchline.Modes
