import Fetchline.Controller.StatusGrammar
import Fetchline.Firmware.WifiCredentials
import Fetchline.Library.Recording
import Fetchline.Modes.Transaction

/-! # The two instruction encoders

The firmware encodes into a buffer, the host into a packet of its own, and the decoder
of status packets reads what either wrote.
-/

namespace Fetchline.Modes

open Effects Effects.Program Host

variable {σ : Type} (H : Handler NetOp NetOp.Reply σ) (c : BridgeConnection) (s : σ)

/-- What the write of a packet ends with. -/
def writeResult : Timed Unit → Except String Unit
  | .timedOut => .error "Timed out sending command to the MCU"
  | .failed error => .error ("Could not send command to the MCU: " ++ error)
  | .done _ => .ok ()

def tooLong : String := "STS command is too long"

theorem writePacket_tooLong (id instruction : UInt8) {parameters : List UInt8}
    (h : 253 < parameters.length) :
    (writePacket id instruction parameters).run.run c = .done (.error tooLong, c) := by
  rw [writePacket, if_pos (by omega)]
  rfl

theorem writePacket_raw (id instruction : UInt8) {parameters : List UInt8}
    (hRaw : c.transport = .debugRaw) (h : parameters.length ≤ 253) :
    (writePacket id instruction parameters).run.run c =
      .call (.writeStream (instructionPacket id instruction parameters)) fun written =>
        .done (writeResult written, c) := by
  obtain ⟨peer, transport, nextRequestId⟩ := c
  obtain rfl : transport = .debugRaw := hRaw
  rw [writePacket, if_neg (by omega)]
  change Program.call _ _ = _
  congr 1
  funext written
  cases written <;> rfl

theorem writePacket_controller (id instruction : UInt8) {parameters : List UInt8}
    (hController : c.transport = .controller) (h : parameters.length ≤ 253) :
    (writePacket id instruction parameters).run.run c =
      .done (.error "the MCU connection is in JSON-RPC controller mode", c) := by
  obtain ⟨peer, transport, nextRequestId⟩ := c
  obtain rfl : transport = .controller := hController
  rw [writePacket, if_neg (by omega)]
  rfl

theorem writePacket_requests (id instruction : UInt8) (parameters : List UInt8)
    (hRaw : c.transport = .debugRaw) :
    ((writePacket id instruction parameters).run.run c).requests H s =
      if 253 < parameters.length then []
      else [.writeStream (instructionPacket id instruction parameters)] := by
  by_cases h : 253 < parameters.length
  · rw [writePacket_tooLong c id instruction h, if_pos h]
    rfl
  · rw [writePacket_raw c id instruction hRaw (by omega), if_neg h]
    rfl

theorem writeResult_ne_tooLong (written : Timed Unit) : writeResult written ≠ .error tooLong := by
  cases written with
  | timedOut => exact fun h => absurd (Except.error.inj h) (by decide)
  | done => exact nofun
  | failed error =>
    intro h
    have h := congrArg String.toList (Except.error.inj h)
    rw [String.toList_append] at h
    have hFirst : some 'C' = some 'S' := congrArg List.head? h
    exact absurd hFirst (by decide)

theorem writePacket_refuses_iff (id instruction : UInt8) (parameters : List UInt8) :
    (outcome H (writePacket id instruction parameters) c s).1.1 = .error tooLong ↔
      253 < parameters.length := by
  rw [outcome]
  by_cases h : 253 < parameters.length
  · rw [writePacket_tooLong c id instruction h]
    exact iff_of_true rfl h
  · refine iff_of_false ?_ h
    rcases hTransport : c.transport with _ | _
    · rw [writePacket_controller c id instruction hTransport (by omega)]
      exact fun hError => absurd (Except.error.inj hError) (by decide)
    · rw [writePacket_raw c id instruction hTransport (by omega)]
      exact writeResult_ne_tooLong _

theorem encodeInstructionPacket_error (output : List UInt8) (id instruction : UInt8)
    (parameters : List UInt8)
    (h : ¬ (parameters.length ≤ 253 ∧ parameters.length + 6 ≤ output.length)) :
    encodeInstructionPacket output id instruction parameters =
      (.error (if 253 < parameters.length then .parametersTooLong else .outputTooSmall), output) := by
  rw [encodeInstructionPacket]
  by_cases hLong : 253 < parameters.length
  · rw [if_pos (by omega), if_pos hLong]
  · rw [if_neg (by omega), if_pos (by omega), if_neg hLong]

theorem decode_instructionPacket (id instruction : UInt8) {parameters rest : List UInt8}
    (h : parameters.length ≤ 64) :
    decodeStatusPacket (slice (instructionPacket id instruction parameters ++ rest) 2
      (parameters.length + 6)) id = .ok ⟨instruction, parameters⟩ := by
  refine (decodeStatusPacket_ok_iff _ _ _ _).mpr ⟨h, ?_⟩
  rw [slice, ← instructionPacket_length id instruction parameters, List.take_left, statusFrame_eq]
  rfl

theorem encoders_agree (output : List UInt8) (id instruction : UInt8) (parameters : List UInt8) :
    (∀ n, (encodeInstructionPacket output id instruction parameters).1 = .ok n ↔
      (parameters.length ≤ 253 ∧ parameters.length + 6 ≤ output.length) ∧
        n = parameters.length + 6) ∧
    (∀ n, (encodeInstructionPacket output id instruction parameters).1 = .ok n →
      (∀ {σ : Type} (H : Handler NetOp NetOp.Reply σ) (c : BridgeConnection) (s : σ),
        c.transport = .debugRaw →
        ((writePacket id instruction parameters).run.run c).requests H s =
          [.writeStream ((encodeInstructionPacket output id instruction parameters).2.take n)]) ∧
      (encodeInstructionPacket output id instruction parameters).2.length = output.length ∧
      (encodeInstructionPacket output id instruction parameters).2.drop n = output.drop n ∧
      (parameters.length ≤ 64 →
        decodeStatusPacket
          (slice (encodeInstructionPacket output id instruction parameters).2 2 n) id =
            .ok ⟨instruction, parameters⟩)) ∧
    (∀ error, (encodeInstructionPacket output id instruction parameters).1 = .error error →
      (encodeInstructionPacket output id instruction parameters).2 = output) ∧
    ((encodeInstructionPacket output id instruction parameters).1 = .error .parametersTooLong ↔
      253 < parameters.length) ∧
    ∀ {σ : Type} (H : Handler NetOp NetOp.Reply σ) (c : BridgeConnection) (s : σ),
      (outcome H (writePacket id instruction parameters) c s).1.1 = .error tooLong ↔
        253 < parameters.length := by
  by_cases hFits : parameters.length ≤ 253 ∧ parameters.length + 6 ≤ output.length
  · obtain ⟨hShort, hRoom⟩ := hFits
    have hLong : ¬ 253 < parameters.length := by omega
    rw [encodeInstructionPacket_fits output id instruction parameters hShort hRoom]
    refine ⟨?_, ?_, nofun, iff_of_false nofun hLong, fun H c s =>
      writePacket_refuses_iff H c s id instruction parameters⟩
    · intro n
      constructor
      · intro h
        exact ⟨⟨hShort, hRoom⟩, (Except.ok.inj h).symm⟩
      · rintro ⟨-, rfl⟩
        rfl
    · intro n hn
      obtain rfl := Except.ok.inj hn
      have hLength := instructionPacket_length id instruction parameters
      refine ⟨?_, ?_, ?_, decode_instructionPacket id instruction⟩
      · intro σ H c s hRaw
        rw [writePacket_requests H c s id instruction parameters hRaw, if_neg hLong,
          List.take_left' hLength]
      · rw [List.length_append, List.length_drop, hLength]
        omega
      · rw [List.drop_left' hLength]
  · rw [encodeInstructionPacket_error output id instruction parameters hFits]
    refine ⟨?_, nofun, fun _ _ => rfl, ?_, fun H c s =>
      writePacket_refuses_iff H c s id instruction parameters⟩
    · intro n
      exact iff_of_false nofun fun h => hFits h.1
    · by_cases hLong : 253 < parameters.length
      · rw [if_pos hLong]
        exact iff_of_true rfl hLong
      · rw [if_neg hLong]
        exact iff_of_false nofun hLong

theorem encoders_agree_ping :
    ((writePacket 1 0x01 []).run.run ⟨"", .debugRaw, 0⟩).requests (tunnel fun _ => []) ⟨[], []⟩ =
      [.writeStream ((encodeInstructionPacket [0, 0, 0, 0, 0, 0, 0] 1 0x01 []).2.take 6)] :=
  ((encoders_agree [0, 0, 0, 0, 0, 0, 0] 1 0x01 []).2.1 6 rfl).1 (tunnel fun _ => [])
    ⟨"", .debugRaw, 0⟩ ⟨[], []⟩ rfl

end Fetchline.Modes
