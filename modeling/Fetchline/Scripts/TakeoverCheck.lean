import Fetchline.Firmware.Connection
import Fetchline.Firmware.Responses
import Fetchline.Library.JsonReader

/-! # The takeover script against the firmware

`open_websocket`, `send_text`, `receive_frame` and `ping` of the script, on a connection to one
round of the controller service. The reader of JSON texts is a parameter.
-/

namespace Fetchline.TakeoverCheck

open Effects Effects.Program Effects.Turn WebSocket

inductive CheckOp where
  | urandom (count : Nat)
  | sendall (bytes : List UInt8)
  | recv (limit : Nat)
deriving DecidableEq

/-- `none` when two seconds have passed. -/
def CheckOp.Reply : CheckOp → Type
  | .urandom count => { bytes : List UInt8 // bytes.length = count }
  | .sendall _ => Option Unit
  | .recv limit => Option { bytes : List UInt8 // bytes.length ≤ limit }

inductive CheckError where
  | unicodeEncode
  | upgradeFailed (response : List UInt8)
  | endlessHead
  | unexpectedlyLarge
  | connectionClosed
  | timedOut
  | unexpectedOpcode (opcode : UInt8)
  | invalidJson
  | unexpectedReply
deriving DecidableEq

abbrev Check := ExceptT CheckError (Program CheckOp CheckOp.Reply)

def urandom (count : Nat) : Check (List UInt8) :=
  ExceptT.mk (.call (.urandom count) fun bytes => .done (.ok bytes.1))

/-- What the script goes on with, unless the socket has timed out. -/
def inTime {α : Type} : Option α → Except CheckError α
  | none => .error .timedOut
  | some a => .ok a

def sendall (bytes : List UInt8) : Check Unit :=
  ExceptT.mk (.call (.sendall bytes) fun sent => .done (inTime sent))

def recv (limit : Nat) : Check (List UInt8) :=
  ExceptT.mk (.call (.recv limit) fun bytes => .done ((inTime bytes).map Subtype.val))

/-- What is left of `read_exact` after some reads. -/
def readExactFrom : Nat → Nat → Check (List UInt8)
  | 0, _ => pure []
  | reads + 1, length => do
    if length = 0 then pure []
    else
      let chunk ← recv length
      if chunk = [] then throw .connectionClosed
      else
        let rest ← readExactFrom reads (length - chunk.length)
        pure (chunk ++ rest)

def readExact (length : Nat) : Check (List UInt8) := readExactFrom length length

/-- `str.encode("ascii")`. -/
def encodeAscii (text : String) : Option (List UInt8) :=
  if text.toList.all fun c => c.toNat < 128 then some (Utf8.encode text) else none

def requestText (host : String) (port : Int) (nonce : String) : String :=
  "GET /rpc HTTP/1.1\r\n" ++ ("Host: " ++ host ++ ":" ++ toString port ++ "\r\n") ++
    "Upgrade: websocket\r\n" ++ "Connection: Upgrade\r\n" ++
    ("Sec-WebSocket-Key: " ++ nonce ++ "\r\n") ++ "Sec-WebSocket-Version: 13\r\n\r\n"

/-- The loop that waits for an empty line, for at most this many reads. -/
def readHead : Nat → List UInt8 → Check (List UInt8)
  | 0, _ => throw .endlessHead
  | reads + 1, response =>
    if crlfCrlf <:+: response then pure response
    else do
      let chunk ← recv 1024
      readHead reads (response ++ chunk)

def openWebsocket (reads : Nat) (host : String) (port : Int) : Check Unit := do
  let random ← urandom 16
  match encodeAscii (requestText host port (String.ofList (Base64.encode random))) with
  | none => throw .unicodeEncode
  | some request => do
    sendall request
    let response ← readHead reads []
    if Utf8.encode "HTTP/1.1 101" <+: response then pure ()
    else throw (.upgradeFailed response)

/-- The values that are sent have no character that `json.dumps` writes differently. -/
def sendText (value : Json.Value) : Check Unit := do
  let payload := Utf8.encode value.compact
  if 126 ≤ payload.length then throw .unexpectedlyLarge
  else
    let mask ← urandom 4
    let masked := payload.mapIdx fun index byte => byte ^^^ mask.getD (index % 4) 0
    sendall ([0x81, 0x80 ||| UInt8.ofNat payload.length] ++ mask ++ masked)

/-- The part of `receive_frame` on the length, which reads on for the longer forms. -/
def receiveLength (length : UInt8) : Check Nat :=
  if length = 126 then do
    let bytes ← readExact 2
    pure (beNat bytes)
  else if length = 127 then do
    let bytes ← readExact 8
    pure (beNat bytes)
  else pure length.toNat

def receiveFrame : Check (UInt8 × List UInt8) := do
  let header ← readExact 2
  let first := header.getD 0 0
  let second := header.getD 1 0
  let opcode := first &&& 0x0f
  let length ← receiveLength (second &&& 0x7f)
  let payload ← readExact length
  pure (opcode, payload)

/-- The numbers that a value is equal to, truth values among them. -/
def asNumber : Json.Value → Option Int
  | .number n => some n
  | .bool b => some (if b then 1 else 0)
  | _ => none

/-- `dict.get`: the last field of that name. -/
def dictGet (value : Json.Value) (name : String) : Option Json.Value :=
  match value with
  | .object fields => fields.reverse.lookup name
  | _ => none

/-- Equality with `{"ready": True}`. -/
def isReady (value : Json.Value) : Bool :=
  match value with
  | .object fields => fields.all (fun field => field.1 == "ready") &&
      (dictGet value "ready").bind asNumber == some 1
  | _ => false

def pingValue (requestId : UInt32) : Json.Value :=
  .object [("jsonrpc", .string "2.0"), ("id", .number requestId.toNat),
    ("method", .string "system.ping"), ("params", .object [])]

def ping (loads : String → Option Json.Value) (requestId : UInt32) : Check Unit := do
  sendText (pingValue requestId)
  let frame ← receiveFrame
  if frame.1 ≠ 1 then throw (.unexpectedOpcode frame.1)
  else
    match (Utf8.decode frame.2).bind loads with
    | none => throw .invalidJson
    | some reply =>
      if (dictGet reply "id").bind asNumber = some (requestId.toNat : Int) ∧
          (dictGet reply "result").any isReady then pure ()
      else throw .unexpectedReply

/-- The script pings once on each of its connections. -/
def pings (loads : String → Option Json.Value) : List UInt32 → Check Unit
  | [] => pure ()
  | id :: ids => do
    ping loads id
    pings loads ids

def check (loads : String → Option Json.Value) (reads : Nat) (host : String) (port : Int)
    (ids : List UInt32) : Check Unit := do
  openWebsocket reads host port
  pings loads ids

abbrev Random (τ : Type) := τ → (count : Nat) → { bytes : List UInt8 // bytes.length = count } × τ

section Keeps

variable {τ : Type} {random : Random τ}

/-- Whatever the other side sends is there in time. -/
def checkPort (random : Random τ) : Port CheckOp CheckOp.Reply UInt8 τ
  | s, .urandom count => .inward (random s count).1 (random s count).2
  | _, .sendall bytes => .send bytes (some ())
  | _, .recv limit =>
    .receive limit fun chunk => some ⟨chunk.take limit, List.length_take_le limit chunk⟩

theorem says_urandom (count : Nat) (s : τ) :
    Says (checkPort random) (urandom count) s [] (random s count).1.1 (random s count).2 :=
  ⟨fun _ _ _ h => .inward rfl h⟩

theorem says_sendall (bytes : List UInt8) (s : τ) :
    Says (checkPort random) (sendall bytes) s (spoken bytes) () s := by
  refine ⟨fun K f rest h => ?_⟩
  have hSends : checkPort random s (.sendall bytes) = .send bytes (some ()) := rfl
  exact .send hSends h

theorem recv_keeps {limit : Nat} (hLimit : 0 < limit) {s : τ} {γ : Type}
    {K : Program CheckOp CheckOp.Reply γ → τ → Prop}
    {f : Except CheckError (List UInt8) → Program CheckOp CheckOp.Reply γ} {item : UInt8}
    {turns : List (Turn UInt8)}
    (hNext : ∀ chunk rest, chunk ≠ [] → chunk.length ≤ limit →
      .hears item :: turns = heard chunk ++ rest → (f (.ok chunk)).Keeps (checkPort random) K s rest) :
    ((recv limit).run >>= f).Keeps (checkPort random) K s (.hears item :: turns) := by
  refine .receive rfl hLimit fun chunk rest hChunk hLength hTurns => ?_
  have hLater := hNext chunk rest hChunk hLength hTurns
  rw [← List.take_of_length_le hLength] at hLater
  exact hLater

theorem says_readExactFrom {reads : Nat} {bytes : List UInt8} (hReads : bytes.length ≤ reads) (s : τ) :
    Says (checkPort random) (readExactFrom reads bytes.length) s (heard bytes) bytes s := by
  induction reads generalizing bytes with
  | zero =>
    obtain rfl := List.length_eq_zero_iff.mp (Nat.le_zero.mp hReads)
    exact .pure [] s
  | succ reads ih =>
    rcases bytes with _ | ⟨byte, bytes⟩
    · exact .pure [] s
    refine ⟨fun K f rest h => ?_⟩
    have hCons : (byte :: bytes).length ≠ 0 := Nat.succ_ne_zero _
    rw [readExactFrom, if_neg hCons, ExceptT.run_bind, LawfulMonad.bind_assoc]
    refine recv_keeps (Nat.pos_of_ne_zero hCons) fun chunk later hChunk hLength hTurns => ?_
    have hTurns : heard (byte :: bytes) ++ rest = heard chunk ++ later := hTurns
    rcases heard_split hTurns with
      ⟨left, hBytes, rfl⟩ | ⟨more, hMore, rfl, -⟩
    · have hCount : (byte :: bytes).length - chunk.length = left.length := by
        rw [hBytes, List.length_append, Nat.add_sub_cancel_left]
      have hLeft : left.length ≤ reads := by
        have hPos := List.length_pos_iff.mpr hChunk
        omega
      dsimp only
      rw [if_neg hChunk, hCount, ExceptT.run_bind, LawfulMonad.bind_assoc]
      refine (ih hLeft).keeps K _ rest ?_
      rw [hBytes] at h
      exact h
    · rw [List.length_append] at hLength
      have hPos := List.length_pos_iff.mpr hMore
      omega

theorem says_readExact {length : Nat} {bytes : List UInt8} (h : bytes.length = length) (s : τ) :
    Says (checkPort random) (readExact length) s (heard bytes) bytes s := by
  subst h
  exact says_readExactFrom (Nat.le_refl _) s

/-- The program takes what the parser does. -/
def Follows (random : Random τ) {α : Type} (p : Check α) (parse : Parser α) : Prop :=
  ∀ (s : τ) stream a rest, parse stream = some (a, rest) →
    ∃ bytes, stream = bytes ++ rest ∧ Says (checkPort random) p s (heard bytes) a s

section Follows

variable {α β : Type}

theorem Follows.pure (a : α) : Follows random (Pure.pure a) (Pure.pure a) := by
  intro s stream a' rest h
  cases h
  exact ⟨[], rfl, .pure a s⟩

theorem Follows.bind {p : Check α} {parse : Parser α} {f : α → Check β} {next : α → Parser β}
    (hp : Follows random p parse) (hf : ∀ a, Follows random (f a) (next a)) :
    Follows random (p >>= f) (parse >>= next) := by
  intro s stream b rest h
  rw [parser_bind] at h
  obtain ⟨⟨a, middle⟩, hParse, hNext⟩ := Option.bind_eq_some_iff.mp h
  obtain ⟨bytes, rfl, hSays⟩ := hp s stream a middle hParse
  obtain ⟨bytes', rfl, hSays'⟩ := hf a s middle b rest hNext
  refine ⟨bytes ++ bytes', (List.append_assoc _ _ _).symm, ?_⟩
  rw [heard_append]
  exact hSays.bind hSays'

theorem readExact_follows (length : Nat) :
    Follows random (readExact length) (takeExact length) := by
  intro s stream bytes rest h
  have hLength := takeExact_length h
  rw [takeExact] at h
  split at h
  · cases h
    exact ⟨_, (List.take_append_drop length stream).symm, says_readExact hLength s⟩
  · cases h

end Follows

theorem receiveLength_follows (length : UInt8) :
    Follows random (receiveLength length) (WebSocket.receiveLength length) := by
  rw [receiveLength, WebSocket.receiveLength]
  split
  · exact (readExact_follows 2).bind fun _ => .pure _
  split
  · exact (readExact_follows 8).bind fun _ => .pure _
  · exact .pure _

theorem receiveFrame_follows : Follows random receiveFrame WebSocket.receiveFrame :=
  (readExact_follows 2).bind fun _ => (receiveLength_follows _).bind fun _ =>
    (readExact_follows _).bind fun _ => .pure _

theorem says_receiveFrame {opcode : UInt8} {payload : List UInt8} (hOpcode : opcode < 16)
    (hLength : payload.length ≤ 65535) (s : τ) :
    Says (checkPort random) receiveFrame s (heard (serverFrame opcode payload)) (opcode, payload)
      s := by
  obtain ⟨bytes, hBytes, hSays⟩ := receiveFrame_follows s _ _ []
    (receiveFrame_serverFrame hOpcode hLength [])
  rw [List.append_nil, List.append_nil] at hBytes
  rwa [hBytes]

end Keeps

theorem pingValue_fits (id : UInt32) : (Utf8.encode (pingValue id).compact).length ≤ 125 := by
  rw [Utf8.encode_length, Json.Value.compact, Json.utf8ByteSize_eq_byteSize]
  have hId := byteSize_u32 id
  refine (Json.byteSize_object_le _).trans ?_
  simp only [List.map_cons, List.map_nil, List.sum_cons, List.sum_nil,
    show Json.byteSize (Json.quoted "jsonrpc") = 9 by decide,
    show Json.byteSize (Json.quoted "id") = 4 by decide,
    show Json.byteSize (Json.quoted "method") = 8 by decide,
    show Json.byteSize (Json.quoted "params") = 8 by decide,
    show Json.byteSize (Json.Value.string "2.0").chars = 5 by decide,
    show Json.byteSize (Json.Value.string "system.ping").chars = 13 by decide,
    show Json.byteSize (Json.Value.object []).chars = 2 by decide]
  omega

/-- The frame that carries a ping, masked with these bytes. -/
def pingFrame (mask : List UInt8) (id : UInt32) : ClientFrame where
  message := .text (pingValue id).compact
  key i := mask.getD i 0
  long := false
  fits := (pingValue_fits id).trans (show 125 ≤ 1024 by decide)
  short _ := pingValue_fits id

theorem pingFrame_encode {mask : List UInt8} (h : mask.length = 4) (id : UInt32) :
    (pingFrame mask id).encode =
      [0x81, 0x80 ||| UInt8.ofNat (Utf8.encode (pingValue id).compact).length] ++ mask ++
        (Utf8.encode (pingValue id).compact).mapIdx fun index byte =>
          byte ^^^ mask.getD (index % 4) 0 := by
  have hMask : List.ofFn (pingFrame mask id).key = mask := by
    refine List.ext_getElem (by rw [List.length_ofFn, h]) fun i _ hi => ?_
    rw [List.getElem_ofFn]
    change mask.getD i 0 = mask[i]
    rw [List.getD_eq_getElem?_getD, List.getElem?_eq_getElem hi, Option.getD_some]
  have hFirst : (0x80 : UInt8) ||| 0x01 = 0x81 := by decide
  rw [ClientFrame.encode, hMask, ← hFirst]
  rfl

def readyReply (id : UInt32) : List UInt8 := Utf8.encode (Response.success .ready id).text

theorem readyReply_fits (id : UInt32) :
    (Response.success .ready id).text.utf8ByteSize ≤ jsonRpcBufferSize := by
  refine success_fits ?_ id
  exact trivial

theorem readyReply_matches (id : UInt32) :
    (dictGet (Response.success .ready id).toJson "id").bind asNumber = some (id.toNat : Int) ∧
      (dictGet (Response.success .ready id).toJson "result").any isReady = true := by
  have hResult : dictGet (Response.success .ready id).toJson "result" =
      some (.object [("ready", .bool true)]) := by
    simp [dictGet, Response.toJson, ControllerResult.toJson, List.lookup_cons]
  have hId : dictGet (Response.success .ready id).toJson "id" = some (.number id.toNat) := by
    simp [dictGet, Response.toJson]
  rw [hResult, hId]
  exact ⟨rfl, by decide⟩

/-- What is relied on for the two readers: each reads what the other side writes for a ping. -/
structure ReadsTexts (loads : String → Option Json.Value)
    (fromSlice : String → Option JsonRpcRequest) : Prop where
  reply (id : UInt32) : loads (Response.success .ready id).text =
    some (Response.success .ready id).toJson
  request (id : UInt32) : fromSlice (pingValue id).compact =
    some { jsonrpc := "2.0", method := "system.ping", id := some id }

section Ping

variable {σ τ : Type} {random : Random τ} {loads : String → Option Json.Value}
variable {fromSlice : String → Option JsonRpcRequest} {H : Handler BusOp BusOp.Reply σ}

theorem exchange_ping (hReads : ReadsTexts loads fromSlice) (bus : σ) (mask : List UInt8)
    (id : UInt32) :
    exchange fromSlice H bus (pingFrame mask id).message =
      (serverFrame 0x01 (readyReply id), bus) := by
  have hFits := readyReply_fits id
  have hEncoded : encodeSuccess jsonRpcBufferSize id .ready =
      some ⟨.success .ready id, hFits⟩ := dif_pos hFits
  have hHandled : (handleJsonRpc fromSlice jsonRpcBufferSize (pingValue id).compact).run H bus =
      (some ⟨.success .ready id, hFits⟩, bus) := by
    rw [handleJsonRpc, hReads.request id, ← hEncoded]
    rfl
  change exchange fromSlice H bus (.text (pingValue id).compact) = _
  rw [exchange, hHandled]
  rfl

theorem says_ping (hReads : ReadsTexts loads fromSlice) (id : UInt32) (s : τ) :
    Says (checkPort random) (ping loads id) s
      (spoken (pingFrame (random s 4).1.1 id).encode ++ heard (serverFrame 0x01 (readyReply id))) ()
      (random s 4).2 := by
  have hSend : Says (checkPort random) (sendText (pingValue id)) s
      (spoken (pingFrame (random s 4).1.1 id).encode) () (random s 4).2 := by
    have hFits := pingValue_fits id
    rw [sendText, pingFrame_encode (random s 4).1.2]
    simp only
    rw [if_neg (by omega)]
    exact (says_urandom 4 s).bind_nil (says_sendall _ _)
  have hLength : (readyReply id).length ≤ 65535 := by
    rw [readyReply, Utf8.encode_length]
    exact (readyReply_fits id).trans (by decide)
  have hText : (Utf8.decode (readyReply id)).bind loads =
      some (Response.success .ready id).toJson := by
    rw [readyReply, Utf8.decode_encode, Option.bind_some]
    exact hReads.reply _
  rw [ping]
  refine hSend.bind ((says_receiveFrame (by decide) hLength _).bind_pure ?_)
  simp only [ne_eq, not_true_eq_false, if_false, hText]
  rw [if_pos (readyReply_matches id)]
  exact .pure () _

end Ping

end Fetchline.TakeoverCheck
