import Mathlib.Data.List.Basic
import Mathlib.Data.UInt

/-! # STS packets

The packet half of `src/controller.rs`. Buffers are lists; an output buffer is
returned with what was written into it.
-/

namespace Fetchline

def stsHeader : List UInt8 := [0xff, 0xff]

inductive InstructionPacketError where
  | outputTooSmall
  | parametersTooLong
deriving DecidableEq, Repr

def checksum (bytes : List UInt8) : UInt8 := ~~~ bytes.foldl (· + ·) 0

/-- `output[start..start + data.len()].copy_from_slice(data)`. -/
def copyFromSlice (output : List UInt8) (start : Nat) (data : List UInt8) : List UInt8 :=
  output.take start ++ data ++ output.drop (start + data.length)

def encodeInstructionPacket (output : List UInt8) (id instruction : UInt8)
    (parameters : List UInt8) : Except InstructionPacketError Nat × List UInt8 :=
  let length := parameters.length + 2
  if 255 < length then (.error .parametersTooLong, output)
  else
    let packetLen := length + 4
    if output.length < packetLen then (.error .outputTooSmall, output)
    else
      let output := copyFromSlice output 0 stsHeader
      let output := output.set 2 id
      let output := output.set 3 (UInt8.ofNat length)
      let output := output.set 4 instruction
      let output := copyFromSlice output 5 parameters
      let output := output.set (packetLen - 1) (checksum ((output.take (packetLen - 1)).drop 2))
      (.ok packetLen, output)

/-- The bytes between the header and the checksum. -/
def instructionBody (id instruction : UInt8) (parameters : List UInt8) : List UInt8 :=
  [id, UInt8.ofNat (parameters.length + 2), instruction] ++ parameters

/-- The packet as it goes over the wire. -/
def instructionPacket (id instruction : UInt8) (parameters : List UInt8) : List UInt8 :=
  stsHeader ++ instructionBody id instruction parameters ++
    [checksum (instructionBody id instruction parameters)]

@[simp] theorem instructionPacket_length (id instruction : UInt8) (parameters : List UInt8) :
    (instructionPacket id instruction parameters).length = parameters.length + 6 := by
  simp [instructionPacket, instructionBody, stsHeader]

theorem set_append_cons (before after : List UInt8) (x y : UInt8) :
    (before ++ x :: after).set before.length y = before ++ y :: after := by simp

theorem encodeInstructionPacket_fits (output : List UInt8) (id instruction : UInt8)
    (parameters : List UInt8) (hLong : parameters.length ≤ 253)
    (hFits : parameters.length + 6 ≤ output.length) :
    encodeInstructionPacket output id instruction parameters =
      (.ok (parameters.length + 6),
        instructionPacket id instruction parameters ++ output.drop (parameters.length + 6)) := by
  -- The five bytes before the parameters and the checksum byte after them.
  obtain ⟨a, b, c, d, e, rest, rfl⟩ : ∃ a b c d e rest, output = a :: b :: c :: d :: e :: rest := by
    rcases output with _ | ⟨a, _ | ⟨b, _ | ⟨c, _ | ⟨d, _ | ⟨e, rest⟩⟩⟩⟩⟩ <;>
      simp only [List.length_nil, List.length_cons] at hFits <;> first | omega | exact ⟨a, b, c, d, e, rest, rfl⟩
  simp only [List.length_cons] at hFits
  obtain ⟨x, hDrop⟩ : ∃ x, rest.drop parameters.length = x :: rest.drop (parameters.length + 1) :=
    ⟨_, List.drop_eq_getElem_cons (by omega)⟩
  have hHead : copyFromSlice (0xff :: 0xff :: id :: UInt8.ofNat (parameters.length + 2) ::
      instruction :: rest) 5 parameters = (stsHeader ++ instructionBody id instruction parameters) ++
        x :: rest.drop (parameters.length + 1) := by
    rw [copyFromSlice, Nat.add_comm 5 parameters.length, ← hDrop]
    rfl
  have hLength : parameters.length + 2 + 4 - 1 =
      (stsHeader ++ instructionBody id instruction parameters).length := by
    simp only [stsHeader, instructionBody, List.length_append, List.length_cons, List.length_nil]
    omega
  rw [encodeInstructionPacket, if_neg (by omega), if_neg (by simp only [List.length_cons]; omega)]
  change (Except.ok (parameters.length + 2 + 4), (copyFromSlice (0xff :: 0xff :: id ::
    UInt8.ofNat (parameters.length + 2) :: instruction :: rest) 5 parameters).set
      (parameters.length + 2 + 4 - 1) (checksum (((copyFromSlice (0xff :: 0xff :: id ::
        UInt8.ofNat (parameters.length + 2) :: instruction :: rest) 5 parameters).take
          (parameters.length + 2 + 4 - 1)).drop 2))) = _
  rw [hHead, hLength, List.take_left, set_append_cons]
  simp [instructionPacket, stsHeader]

inductive StatusPacketError where
  | invalidLength
  | unexpectedId
  | invalidChecksum
deriving DecidableEq, Repr

structure StatusPacket where
  error : UInt8
  parameters : List UInt8
deriving DecidableEq, Repr

/-- `packet` starts after the header: id, length, error, parameters, checksum. -/
def decodeStatusPacket (packet : List UInt8) (expectedId : UInt8) :
    Except StatusPacketError StatusPacket :=
  if packet.length < 4 then .error .invalidLength
  else
    let id := packet.getD 0 0
    let length := (packet.getD 1 0).toNat
    if ¬ (2 ≤ length ∧ length ≤ 66) ∨ packet.length ≠ length + 2 then .error .invalidLength
    else if id ≠ expectedId then .error .unexpectedId
    else if checksum packet.dropLast ≠ packet.getD (packet.length - 1) 0 then .error .invalidChecksum
    else .ok ⟨packet.getD 2 0, (packet.drop 3).dropLast⟩

end Fetchline
