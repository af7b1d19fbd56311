import Fetchline.Firmware.ClientFrames
import Fetchline.Firmware.Handshake
import Fetchline.Firmware.ServerOutput
import Fetchline.Library.JsonSize

/-! # The upgrade of a connection

`upgrade` reads one request and either answers it with the protocol switch or says nothing.
The digest and the base64 codec are parameters; an encoder, like the decoder, is told the
length of its buffer.
-/

namespace Fetchline.WebSocket

open Effects Effects.Program

def websocketGuid : List UInt8 := Utf8.encode "258EAFA5-E914-47DA-95CA-C5AB0DC85B11"

def keyAndGuidSize : Nat := 64
def acceptSize : Nat := 28
def responseSize : Nat := 160

def responsePrefix : List UInt8 := Utf8.encode
  ("HTTP/1.1 101 Switching Protocols\r\nUpgrade: websocket\r\nConnection: Upgrade\r\n" ++
    "Sec-WebSocket-Accept: ")

def responseSuffix : List UInt8 := Utf8.encode "\r\n\r\n"

structure Crypto where
  sha1 : List UInt8 → List UInt8
  encode : List UInt8 → Nat → Option (List Char)
  decode : List Char → Nat → Option (List UInt8)

/-- The response with this accept value. A value that does not fit its buffer would be out of
bounds in the source, which is to panic. -/
def switchingProtocols (accept : List Char) : List UInt8 :=
  responsePrefix ++ Utf8.encode (String.ofList accept) ++ responseSuffix

def upgrade (crypto : Crypto) : Socket Unit := do
  let request ← readHttpRequest httpRequestMaxLen
  match Utf8.decode request with
  | none => throw .invalidHandshake
  | some request =>
    match validateHandshake crypto.decode request with
    | .error error => throw error
    | .ok key =>
      let keyBytes := Utf8.encode key
      if keyBytes.length + websocketGuid.length > keyAndGuidSize then throw .invalidHandshake
      else
        match crypto.encode (crypto.sha1 (keyBytes ++ websocketGuid)) acceptSize with
        | none => throw .invalidHandshake
        | some accept => writeAll (switchingProtocols accept)

/-- The digest has 20 bytes, and both directions of the codec are padded base64 that fails for
want of room only. -/
structure Crypto.Faithful (crypto : Crypto) : Prop where
  digest : ∀ bytes, (crypto.sha1 bytes).length = 20
  encodes : ∀ bytes size, crypto.encode bytes size =
    if (Base64.encode bytes).length ≤ size then some (Base64.encode bytes) else none
  decodes : DecodesPadded crypto.decode

/-- It ends with its first empty line, and the buffer holds it. -/
structure IsHead (request : List UInt8) : Prop where
  fits : request.length ≤ httpRequestMaxLen
  ends : crlfCrlf <:+ request
  first : ∀ before after, request = before ++ crlfCrlf ++ after → after = []

def parseHead : Nat → List UInt8 → Parser (List UInt8)
  | 0, _ => failure
  | n + 1, request => do
    let byte ← takeExact 1
    if 4 ≤ (request ++ byte).length ∧
        (request ++ byte).drop ((request ++ byte).length - 4) = crlfCrlf then pure (request ++ byte)
    else parseHead n (request ++ byte)

theorem readHttpRequestFrom_parses (n : Nat) (request : List UInt8) :
    Parses (readHttpRequestFrom n request) (parseHead n request) := by
  induction n generalizing request with
  | zero => exact .throw _
  | succ n ih => exact (readExact_parses 1).bind fun byte => .ite (.pure _) (ih _)

theorem parseHead_sound {n : Nat} {request stream head rest : List UInt8}
    (hRequest : ∀ before after, request ≠ before ++ crlfCrlf ++ after)
    (h : parseHead n request stream = some (head, rest)) :
    ∃ bytes, head = request ++ bytes ∧ bytes.length ≤ n ∧ stream = bytes ++ rest ∧
      crlfCrlf <:+ head ∧ ∀ before after, head = before ++ crlfCrlf ++ after → after = [] := by
  induction n generalizing request stream with
  | zero => cases h
  | succ n ih =>
    rw [parseHead, parser_bind] at h
    obtain ⟨⟨byte, left⟩, hByte, hNext⟩ := Option.bind_eq_some_iff.mp h
    have hOne : byte.length = 1 := takeExact_length hByte
    obtain rfl : stream = byte ++ left := by
      rw [takeExact] at hByte
      split at hByte
      · cases hByte
        exact (List.take_append_drop 1 stream).symm
      · cases hByte
    obtain ⟨b, rfl⟩ := List.length_eq_one_iff.mp hOne
    -- An empty line inside what is read so far can only be at its very end.
    have hOnly : ∀ before after, request ++ [b] = before ++ crlfCrlf ++ after → after = [] := by
      intro before after hSplit
      rcases List.eq_nil_or_concat after with rfl | ⟨front, last, rfl⟩
      · rfl
      · rw [List.concat_eq_append, ← List.append_assoc] at hSplit
        exact absurd (List.append_inj' hSplit rfl).1 (hRequest before front)
    split at hNext
    · rename_i hFound
      cases hNext
      refine ⟨[b], rfl, by rw [List.length_singleton]; omega, rfl, ?_, hOnly⟩
      rw [List.suffix_iff_eq_drop]
      exact hFound.2.symm
    · rename_i hFound
      have hNone : ∀ before after, request ++ [b] ≠ before ++ crlfCrlf ++ after := by
        intro before after hSplit
        obtain rfl := hOnly before after hSplit
        rw [List.append_nil] at hSplit
        have hEnd : crlfCrlf <:+ request ++ [b] := ⟨before, hSplit.symm⟩
        exact hFound ⟨hEnd.length_le, (List.suffix_iff_eq_drop.mp hEnd).symm⟩
      obtain ⟨bytes, rfl, hLength, rfl, hEnd, hFirst⟩ := ih hNone hNext
      refine ⟨b :: bytes, (List.append_cons ..).symm, ?_, rfl, hEnd, hFirst⟩
      rw [List.length_cons]
      omega

theorem parseHead_isHead {stream head rest : List UInt8}
    (h : parseHead httpRequestMaxLen [] stream = some (head, rest)) :
    IsHead head ∧ stream = head ++ rest := by
  have hNil : ∀ before after, ([] : List UInt8) ≠ before ++ crlfCrlf ++ after := by
    intro before after hSplit
    have hLength := congrArg List.length hSplit
    simp only [List.length_append, List.length_nil, crlfCrlf, List.length_cons] at hLength
    omega
  obtain ⟨bytes, rfl, hLength, hStream, hEnd, hFirst⟩ := parseHead_sound hNil h
  exact ⟨⟨hLength, hEnd, hFirst⟩, hStream⟩

/-- A stream that begins with an upgrade whose key encodes these bytes. -/
structure Opening (stream request : List UInt8) (key : String) (bytes : List UInt8) : Prop where
  head : IsHead request
  begins : request <+: stream
  asks : ∃ text, Utf8.decode request = some text ∧ IsUpgrade text key
  short : bytes.length ≤ 16
  keyed : key.toList = Base64.encode bytes

def Crypto.acceptOf (crypto : Crypto) (key : String) : List Char :=
  Base64.encode (crypto.sha1 (Utf8.encode key ++ websocketGuid))

variable {crypto : Crypto}

theorem encoded_utf8ByteSize (bytes : List UInt8) :
    (String.ofList (Base64.encode bytes)).utf8ByteSize = 4 * ((bytes.length + 2) / 3) := by
  rw [Json.utf8ByteSize_eq_byteSize, Json.byteSize_eq_length fun _ => Base64.utf8Size_of_mem_encode,
    Base64.encode_length]

theorem key_fits {key : String} {bytes : List UInt8} (hShort : bytes.length ≤ 16)
    (hKey : key.toList = Base64.encode bytes) :
    (Utf8.encode key).length + websocketGuid.length ≤ keyAndGuidSize := by
  have hGuid : websocketGuid.length = 36 := by decide
  rw [Utf8.encode_length, ← String.ofList_toList (s := key), hKey, encoded_utf8ByteSize, hGuid]
  change _ ≤ 64
  omega

theorem switchingProtocols_length (hCrypto : crypto.Faithful) (key : String) :
    (switchingProtocols (crypto.acceptOf key)).length = 129 := by
  have hPrefix : responsePrefix.length = 97 := by decide
  have hSuffix : responseSuffix.length = 4 := by decide
  rw [switchingProtocols, List.length_append, List.length_append, Utf8.encode_length,
    Crypto.acceptOf, encoded_utf8ByteSize, hCrypto.digest, hPrefix, hSuffix]

/-- What `upgrade` does once the head has been read. -/
def answerHead (crypto : Crypto) (request : List UInt8) : Socket Unit :=
  match Utf8.decode request with
  | none => throw .invalidHandshake
  | some request =>
    match validateHandshake crypto.decode request with
    | .error error => throw error
    | .ok key =>
      let keyBytes := Utf8.encode key
      if keyBytes.length + websocketGuid.length > keyAndGuidSize then throw .invalidHandshake
      else
        match crypto.encode (crypto.sha1 (keyBytes ++ websocketGuid)) acceptSize with
        | none => throw .invalidHandshake
        | some accept => writeAll (switchingProtocols accept)

theorem answerHead_accepts (hCrypto : crypto.Faithful) {stream request : List UInt8} {key : String}
    {bytes : List UInt8} (h : Opening stream request key bytes) :
    answerHead crypto request = writeAll (switchingProtocols (crypto.acceptOf key)) := by
  obtain ⟨text, hText, hUpgrade⟩ := h.asks
  have hValid : validateHandshake crypto.decode text = .ok key :=
    (validateHandshake_ok_iff crypto.decode text key).mpr
      ⟨hUpgrade, (hCrypto.decodes _ _).mpr ⟨bytes, h.short, h.keyed⟩⟩
  have hAccept : crypto.encode (crypto.sha1 (Utf8.encode key ++ websocketGuid)) acceptSize =
      some (crypto.acceptOf key) := by
    rw [hCrypto.encodes, Crypto.acceptOf, if_pos]
    rw [Base64.encode_length, hCrypto.digest]
    decide
  simp only [answerHead, hText, hValid, hAccept, if_neg (Nat.not_lt.mpr (key_fits h.short h.keyed))]

theorem answerHead_refuses (hCrypto : crypto.Faithful) {request : List UInt8}
    (h : ¬ ∃ text key bytes, Utf8.decode request = some text ∧ IsUpgrade text key ∧
      bytes.length ≤ 16 ∧ key.toList = Base64.encode bytes) :
    ∃ error, answerHead crypto request = throw error := by
  rw [answerHead]
  cases hText : Utf8.decode request with
  | none => exact ⟨_, rfl⟩
  | some text =>
    cases hValid : validateHandshake crypto.decode text with
    | error error => exact ⟨error, by simp only [hValid]⟩
    | ok key =>
      obtain ⟨hUpgrade, hDecoded⟩ := (validateHandshake_ok_iff crypto.decode text key).mp hValid
      obtain ⟨bytes, hShort, hKey⟩ := (hCrypto.decodes _ _).mp hDecoded
      exact absurd ⟨text, key, bytes, hText, hUpgrade, hShort, hKey⟩ h

theorem upgrade_takes (hCrypto : crypto.Faithful) {stream request : List UInt8} {key : String}
    {bytes : List UInt8} (h : Opening stream request key bytes) :
    Takes (upgrade crypto) request (.ok ()) (switchingProtocols (crypto.acceptOf key)) := by
  change Takes (readHttpRequest httpRequestMaxLen >>= answerHead crypto) _ _ _
  rw [← List.append_nil request]
  refine (readHttpRequest_takes h.head.fits h.head.ends h.head.first).reads ?_
  rw [answerHead_accepts hCrypto h]
  exact writeAll_takes _

/-- A stream that opens with an upgrade gets the switch with the digest of its key, and nothing
behind its head is taken; any other stream gets no byte. -/
theorem upgrade_answers_openings (hCrypto : crypto.Faithful) (tcp : Tcp) :
    (∀ request key bytes rest, Opening tcp.incoming.flatten request key bytes →
      tcp.incoming.flatten = request ++ rest →
      ∃ incoming, (upgrade crypto).run.run segmented tcp =
          (.ok (), ⟨incoming, tcp.sent ++ switchingProtocols (crypto.acceptOf key)⟩) ∧
        incoming.flatten = rest ∧
        (switchingProtocols (crypto.acceptOf key)).length ≤ responseSize) ∧
    ((∀ request key bytes, ¬ Opening tcp.incoming.flatten request key bytes) →
      ∃ error incoming, (upgrade crypto).run.run segmented tcp =
        (.error error, ⟨incoming, tcp.sent⟩)) := by
  have hUpgrade : upgrade crypto = readHttpRequest httpRequestMaxLen >>= answerHead crypto := rfl
  rw [hUpgrade]
  constructor
  · intro request key bytes rest hOpening hStream
    have hTakes := upgrade_takes hCrypto hOpening
    rw [hUpgrade] at hTakes
    obtain ⟨incoming, hRun, hRest⟩ := hTakes tcp rest hStream
    refine ⟨incoming, hRun, hRest, ?_⟩
    rw [switchingProtocols_length hCrypto]
    decide
  · intro hNone
    have hParses := readHttpRequestFrom_parses httpRequestMaxLen []
    cases hHead : parseHead httpRequestMaxLen [] tcp.incoming.flatten with
    | none => exact (hParses.fails hHead).bind _ tcp rfl
    | some item =>
      obtain ⟨head, rest⟩ := item
      obtain ⟨hIsHead, hStream⟩ := parseHead_isHead hHead
      have hRefused : ∃ error, answerHead crypto head = throw error := by
        refine answerHead_refuses hCrypto ?_
        rintro ⟨text, key, bytes, hText, hAsks, hShort, hKey⟩
        exact hNone head key bytes
          ⟨hIsHead, ⟨rest, hStream.symm⟩, ⟨text, hText, hAsks⟩, hShort, hKey⟩
      obtain ⟨error, hError⟩ := hRefused
      have hTakes : Takes (readHttpRequest httpRequestMaxLen) head (.ok head) [] :=
        readHttpRequest_takes hIsHead.fits hIsHead.ends hIsHead.first
      have hFails : Fails (readHttpRequest httpRequestMaxLen >>= answerHead crypto)
          (head ++ rest) := by
        refine hTakes.fails ?_
        rw [hError]
        exact fun tcp _ => ⟨error, tcp.incoming, rfl⟩
      exact hFails tcp hStream

def sampleNonce : List UInt8 := Utf8.encode "the sample nonce"

/-- The digest of the key that encodes the sample nonce. -/
def sampleDigest : List UInt8 :=
  [0xb3, 0x7a, 0x4f, 0x2c, 0xc0, 0x62, 0x4f, 0x16, 0x90, 0xf6, 0x46, 0x06, 0xcf, 0x38, 0x59, 0x45,
    0xb2, 0xbe, 0xc4, 0xea]

def sampleCrypto : Crypto where
  sha1 _ := sampleDigest
  encode bytes size :=
    if (Base64.encode bytes).length ≤ size then some (Base64.encode bytes) else none
  decode := decodeInto

theorem sampleCrypto_faithful : sampleCrypto.Faithful where
  digest _ := rfl
  encodes _ _ := rfl
  decodes := decodeInto_padded

def sampleKey : String := "dGhlIHNhbXBsZSBub25jZQ=="

theorem sample_opens (rest : List UInt8) :
    Opening (Utf8.encode (upgradeRequest sampleKey) ++ rest) (Utf8.encode (upgradeRequest sampleKey))
      sampleKey sampleNonce := by
  have hHead : parseHead httpRequestMaxLen [] (Utf8.encode (upgradeRequest sampleKey)) =
      some (Utf8.encode (upgradeRequest sampleKey), []) := by decide +kernel
  have hValid : validateHandshake decodeInto (upgradeRequest sampleKey) = .ok sampleKey := by
    decide +kernel
  exact ⟨(parseHead_isHead hHead).1, List.prefix_append _ _,
    ⟨_, Utf8.decode_encode _, ((validateHandshake_ok_iff _ _ _).mp hValid).1⟩, by decide,
    by decide⟩

theorem upgrade_answers_openings_sample :
    ∃ incoming, (upgrade sampleCrypto).run.run segmented
        ⟨[(Utf8.encode (upgradeRequest sampleKey)).take 40,
          (Utf8.encode (upgradeRequest sampleKey)).drop 40 ++ [0x81]], []⟩ =
        (.ok (), ⟨incoming, Utf8.encode ("HTTP/1.1 101 Switching Protocols\r\nUpgrade: websocket\r\n" ++
          "Connection: Upgrade\r\nSec-WebSocket-Accept: s3pPLMBiTxaQ9kYGzzhZRbK+xOo=\r\n\r\n")⟩) ∧
      incoming.flatten = [0x81] := by
  have hStream : [(Utf8.encode (upgradeRequest sampleKey)).take 40,
      (Utf8.encode (upgradeRequest sampleKey)).drop 40 ++ [0x81]].flatten =
        Utf8.encode (upgradeRequest sampleKey) ++ [0x81] := by
    rw [List.flatten_cons, List.flatten_singleton, ← List.append_assoc, List.take_append_drop]
  have hResponse : switchingProtocols (sampleCrypto.acceptOf sampleKey) =
      Utf8.encode ("HTTP/1.1 101 Switching Protocols\r\nUpgrade: websocket\r\n" ++
        "Connection: Upgrade\r\nSec-WebSocket-Accept: s3pPLMBiTxaQ9kYGzzhZRbK+xOo=\r\n\r\n") := by
    decide +kernel
  obtain ⟨incoming, hRun, hRest, -⟩ := (upgrade_answers_openings sampleCrypto_faithful
    ⟨[(Utf8.encode (upgradeRequest sampleKey)).take 40,
      (Utf8.encode (upgradeRequest sampleKey)).drop 40 ++ [0x81]], []⟩).1 _ _ _ [0x81]
    (by rw [hStream]; exact sample_opens _) hStream
  rw [hResponse] at hRun
  exact ⟨incoming, hRun, hRest⟩

end Fetchline.WebSocket
