import Fetchline.Library.Program
import Fetchline.Library.Utf8

/-! # The WebSocket of the controller endpoint

The functions that read and write frames, as programs over what they ask of the
TCP socket. One read gives some of the bytes that have arrived, at least one
unless the peer has closed its side.
-/

namespace Fetchline.WebSocket

open Effects

inductive Error where
  | closed
  | io
  | invalidHandshake
  | invalidFrame
  | messageTooLarge
  | invalidText
deriving DecidableEq, Repr

inductive SocketOp where
  | read (limit : Nat)
  | writeAll (bytes : List UInt8)
deriving DecidableEq

/-- `read` replies `none` on a socket error, and no bytes at the end of the stream. -/
def SocketOp.Reply : SocketOp → Type
  | .read limit => Option { bytes : List UInt8 // bytes.length ≤ limit }
  | .writeAll _ => Bool

abbrev Socket := ExceptT Error (Program SocketOp SocketOp.Reply)

def httpRequestMaxLen : Nat := 1024
def messageBufferSize : Nat := 1024
def crlfCrlf : List UInt8 := [0x0d, 0x0a, 0x0d, 0x0a]

/-- One read into a buffer that is not empty. -/
def readSome (limit : Nat) : Socket (List UInt8) :=
  ExceptT.mk (.call (.read limit) fun reply =>
    .done (match reply.map (·.1) with
      | some (byte :: bytes) => .ok (byte :: bytes)
      | _ => .error .closed))

/-- `count` bytes in at most `reads` reads; each gives one at least. -/
def fill : Nat → Nat → Socket (List UInt8)
  | 0, _ => pure []
  | reads + 1, count =>
    if count = 0 then pure []
    else do
      let bytes ← readSome count
      let rest ← fill reads (count - bytes.length)
      pure (bytes ++ rest)

def readExact (count : Nat) : Socket (List UInt8) := fill count count

def writeAll (bytes : List UInt8) : Socket Unit :=
  ExceptT.mk (.call (.writeAll bytes) fun (written : Bool) =>
    .done (if written then .ok () else .error .io))

/-- At most `n` more bytes; `request` has those read so far. -/
def readHttpRequestFrom : Nat → List UInt8 → Socket (List UInt8)
  | 0, _ => throw .invalidHandshake
  | n + 1, request => do
    let byte ← readExact 1
    let request := request ++ byte
    if 4 ≤ request.length ∧ request.drop (request.length - 4) = crlfCrlf then pure request
    else readHttpRequestFrom n request

def readHttpRequest (bufferLen : Nat) : Socket (List UInt8) := readHttpRequestFrom bufferLen []

def readPayloadLen (firstLen : UInt8) : Socket Nat :=
  if firstLen ≤ 125 then pure firstLen.toNat
  else if firstLen = 126 then do
    let bytes ← readExact 2
    pure (256 * (bytes.getD 0 0).toNat + (bytes.getD 1 0).toNat)
  else throw .messageTooLarge

def writeFrame (opcode : UInt8) (payload : List UInt8) : Socket Unit :=
  if payload.length ≤ 125 then do
    writeAll [0x80 ||| opcode, UInt8.ofNat payload.length]
    writeAll payload
  else if payload.length < 65536 then do
    writeAll [0x80 ||| opcode, 126, UInt8.ofNat (payload.length / 256),
      UInt8.ofNat (payload.length % 256)]
    writeAll payload
  else throw .messageTooLarge

def applyMask (mask payload : List UInt8) : List UInt8 :=
  payload.mapIdx fun index byte => byte ^^^ mask.getD (index % 4) 0

/-- The end of the loop in `read_text`: `none` goes round again. -/
def answerFrame (opcode : UInt8) (payload : List UInt8) : Socket (Option String) :=
  if opcode = 0x01 then
    match Utf8.decode payload with
    | some text => pure (some text)
    | none => throw .invalidText
  else if opcode = 0x08 then do
    writeFrame 0x08 []
    throw .closed
  else if opcode = 0x09 then do
    writeFrame 0x0a payload
    pure none
  else if opcode = 0x0a then pure none
  else throw .invalidFrame

/-- One round of the loop in `read_text`, with the buffer as the round leaves it. -/
def readMessage (buffer : List UInt8) : Socket (List UInt8 × Option String) := do
  let header ← readExact 2
  let first := header.getD 0 0
  let second := header.getD 1 0
  if first &&& 0x70 ≠ 0 ∨ first &&& 0x80 = 0 ∨ second &&& 0x80 = 0 then throw .invalidFrame
  else
    let payloadLen ← readPayloadLen (second &&& 0x7f)
    if payloadLen > buffer.length then throw .messageTooLarge
    else
      let mask ← readExact 4
      let masked ← readExact payloadLen
      let buffer := applyMask mask masked ++ buffer.drop payloadLen
      let message ← answerFrame (first &&& 0x0f) (buffer.take payloadLen)
      pure (buffer, message)

/-- At most `rounds` rounds; no text when they have all been on control frames. -/
def readText : Nat → List UInt8 → Socket (List UInt8 × Option String)
  | 0, buffer => pure (buffer, none)
  | rounds + 1, buffer => do
    let (buffer, message) ← readMessage buffer
    match message with
    | some text => pure (buffer, some text)
    | none => readText rounds buffer

end Fetchline.WebSocket
