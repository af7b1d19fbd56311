import Fetchline.Library.Heads
import Fetchline.Modes.Readers
import Fetchline.Scripts.TakeoverCheck

/-! # A connection of the takeover script is served

Its request is an upgrade for any name of a machine that fits, and what it finds in the answers is
what it looks for. Neither side takes longer than the other waits.
-/

namespace Fetchline.TakeoverCheck

open Effects Effects.Program Effects.Turn WebSocket

theorem byte_eq_cr {c : Char} (hAscii : c.utf8Size = 1) (h : Utf8.byte c = 13) : c = '\r' := by
  have hSmall : c.val.toNat ≤ 127 := UInt32.le_iff_toNat_le.mp (Char.utf8Size_eq_one_iff.mp hAscii)
  have hByte : c.val.toNat % 256 = 13 := by
    rw [← UInt32.toNat_toUInt8]
    exact congrArg UInt8.toNat h
  refine Char.ext (UInt32.toNat_inj.mp ?_)
  change c.val.toNat = 13
  omega

theorem head_ascii {lines : List (List Char)} (hAscii : ∀ line ∈ lines, ∀ c ∈ line, c.utf8Size = 1) :
    ∀ c ∈ Heads.head '\r' '\n' lines, c.utf8Size = 1 := by
  have hEnds : ∀ c ∈ ['\r', '\n'], c.utf8Size = 1 :=
    List.forall_mem_cons.mpr ⟨rfl, List.forall_mem_singleton.mpr rfl⟩
  intro c hc
  rw [Heads.head, List.mem_append, List.mem_flatMap] at hc
  rcases hc with ⟨line, hLine, hc⟩ | hc
  · rcases List.mem_append.mp hc with hc | hc
    · exact hAscii line hLine c hc
    · exact hEnds c hc
  · exact hEnds c hc

/-- A head of lines of ASCII characters, in bytes. -/
theorem encode_head {lines : List (List Char)} (hAscii : ∀ line ∈ lines, ∀ c ∈ line, c.utf8Size = 1) :
    Utf8.encode (String.ofList (Heads.head '\r' '\n' lines)) =
      Heads.head 13 10 (lines.map (List.map Utf8.byte)) := by
  rw [Utf8.encode_ascii, String.toList_ofList, Heads.map_head]
  · rfl
  · rw [String.toList_ofList]
    exact head_ascii hAscii

theorem plain_bytes {lines : List (List Char)} (hAscii : ∀ line ∈ lines, ∀ c ∈ line, c.utf8Size = 1)
    (hPlain : Heads.Plain '\r' lines) : Heads.Plain 13 (lines.map (List.map Utf8.byte)) := by
  intro bytes hBytes
  obtain ⟨line, hLine, rfl⟩ := List.mem_map.mp hBytes
  obtain ⟨hNil, hCr⟩ := hPlain line hLine
  refine ⟨fun h => hNil (List.map_eq_nil_iff.mp h), fun h => ?_⟩
  obtain ⟨c, hc, hByte⟩ := List.mem_map.mp h
  rw [byte_eq_cr (hAscii line hLine c hc) hByte] at hc
  exact hCr hc

theorem splitCrlf_head {lines : List (List Char)} (hPlain : Heads.Plain '\r' lines) :
    Text.splitCrlf (Heads.head '\r' '\n' lines) = lines ++ [[], []] := by
  induction lines with
  | nil => rfl
  | cons line lines ih =>
    obtain ⟨⟨-, hCr⟩, hLines⟩ := List.forall_mem_cons.mp hPlain
    rw [Heads.head_cons, Text.splitCrlf_line hCr, ih hLines]
    rfl

/-- What the name of the machine has to be. -/
structure IsHost (host : String) (port : Int) : Prop where
  ascii : ∀ c ∈ host.toList, c.toNat < 128
  oneLine : '\r' ∉ host.toList
  short : host.toList.length + (toString port).toList.length ≤ 881

def hostLine (host : String) (port : Int) : List Char :=
  "Host: ".toList ++ host.toList ++ ":".toList ++ (toString port).toList

def keyLine (random : List UInt8) : List Char :=
  "Sec-WebSocket-Key: ".toList ++ Base64.encode random

def requestLines (host : String) (port : Int) (random : List UInt8) : List (List Char) :=
  ["GET /rpc HTTP/1.1".toList, hostLine host port, "Upgrade: websocket".toList,
    "Connection: Upgrade".toList, keyLine random, "Sec-WebSocket-Version: 13".toList]

theorem requestText_eq (host : String) (port : Int) (random : List UInt8) :
    requestText host port (String.ofList (Base64.encode random)) =
      String.ofList (Heads.head '\r' '\n' (requestLines host port random)) := by
  have hGet : "GET /rpc HTTP/1.1\r\n".toList = "GET /rpc HTTP/1.1".toList ++ ['\r', '\n'] := by
    decide
  have hUpgrade : "Upgrade: websocket\r\n".toList = "Upgrade: websocket".toList ++ ['\r', '\n'] := by
    decide
  have hConnection : "Connection: Upgrade\r\n".toList =
      "Connection: Upgrade".toList ++ ['\r', '\n'] := by decide
  have hVersion : "Sec-WebSocket-Version: 13\r\n\r\n".toList =
      "Sec-WebSocket-Version: 13".toList ++ ['\r', '\n'] ++ ['\r', '\n'] := by decide
  have hEnd : "\r\n".toList = ['\r', '\n'] := by decide
  rw [← String.toList_inj, String.toList_ofList]
  unfold requestText requestLines hostLine keyLine
  generalize "GET /rpc HTTP/1.1\r\n" = get at hGet
  generalize "Upgrade: websocket\r\n" = upgrade at hUpgrade
  generalize "Connection: Upgrade\r\n" = connection at hConnection
  generalize "Sec-WebSocket-Version: 13\r\n\r\n" = version at hVersion
  generalize "\r\n" = crlf at hEnd
  generalize "Sec-WebSocket-Key: " = key
  generalize "Host: " = name
  generalize ":" = colon
  simp only [String.toList_append, String.toList_ofList, hGet, hUpgrade, hConnection, hVersion, hEnd]
  simp only [Heads.head, List.flatMap_cons, List.flatMap_nil, List.append_assoc, List.nil_append]
theorem encode_plain {bytes : List UInt8} {c : Char} (h : c ∈ Base64.encode bytes) :
    c ≠ '\r' ∧ Text.isWhitespace c = false := by
  have hAll : ('=' :: Base64.alphabet).all fun c => c ≠ '\r' ∧ Text.isWhitespace c = false := by
    decide
  exact of_decide_eq_true (List.all_eq_true.mp hAll c (Base64.mem_of_mem_encode h))

/-- ASCII characters, none of them a carriage return. -/
def PlainText (chars : List Char) : Prop := ∀ c ∈ chars, c.utf8Size = 1 ∧ c ≠ '\r'

-- Along the list: the characters are finitely many too, and far more of them.
instance (chars : List Char) : Decidable (PlainText chars) := List.decidableBAll _ chars

theorem PlainText.append {chars chars' : List Char} (h : PlainText chars) (h' : PlainText chars') :
    PlainText (chars ++ chars') := List.forall_mem_append.mpr ⟨h, h'⟩

theorem toString_plain (port : Int) : PlainText (toString port).toList := by
  have hDigits (n : Nat) : PlainText n.repr.toList := by
    intro c hc
    rw [Nat.toList_repr] at hc
    have hDigit := Nat.isDigit_of_mem_toDigits (by decide) (by decide) hc
    refine ⟨Json.utf8Size_of_isDigit hDigit, ?_⟩
    rintro rfl
    cases hDigit
  cases port with
  | ofNat n => exact hDigits n
  | negSucc n =>
    change PlainText ("-" ++ (n + 1).repr).toList
    have hMinus : PlainText "-".toList := by decide
    rw [String.toList_append]
    exact hMinus.append (hDigits (n + 1))

variable {host : String} {port : Int}

theorem hostLine_plain (hHost : IsHost host port) : PlainText (hostLine host port) := by
  have hName : PlainText "Host: ".toList := by decide
  have hColon : PlainText ":".toList := by decide
  refine ((hName.append fun c hc => ⟨?_, ?_⟩).append hColon).append (toString_plain port)
  · rw [Char.utf8Size_eq_one_iff]
    exact UInt32.le_iff_toNat_le.mpr (Nat.le_of_lt_succ (hHost.ascii c hc))
  · rintro rfl
    exact hHost.oneLine hc

theorem keyLine_plain (random : List UInt8) : PlainText (keyLine random) := by
  have hName : PlainText "Sec-WebSocket-Key: ".toList := by decide
  exact hName.append fun c hc => ⟨Base64.utf8Size_of_mem_encode hc, (encode_plain hc).1⟩

theorem requestLines_plain (hHost : IsHost host port) (random : List UInt8) :
    ∀ line ∈ requestLines host port random, line ≠ [] ∧ PlainText line := by
  have hColon : ':' ∈ ":".toList := by decide
  have hHostName : hostLine host port ≠ [] :=
    List.ne_nil_of_mem (List.mem_append_left _ (List.mem_append_right _ hColon))
  have hKeyName : keyLine random ≠ [] := List.append_ne_nil_of_left_ne_nil (by decide) _
  have hGet : "GET /rpc HTTP/1.1".toList ≠ [] ∧ PlainText "GET /rpc HTTP/1.1".toList := by
    decide
  have hFixed : ∀ line ∈ ["Upgrade: websocket".toList, "Connection: Upgrade".toList],
      line ≠ [] ∧ PlainText line := by decide
  have hVersion : "Sec-WebSocket-Version: 13".toList ≠ [] ∧
      PlainText "Sec-WebSocket-Version: 13".toList := by decide
  refine List.forall_mem_cons.mpr ⟨hGet, List.forall_mem_cons.mpr
    ⟨⟨hHostName, hostLine_plain hHost⟩, List.forall_mem_append.mpr ⟨hFixed, ?_⟩⟩⟩
  exact List.forall_mem_cons.mpr ⟨⟨hKeyName, keyLine_plain random⟩,
    List.forall_mem_singleton.mpr hVersion⟩

def requestBytes (host : String) (port : Int) (random : List UInt8) : List UInt8 :=
  Utf8.encode (requestText host port (String.ofList (Base64.encode random)))

theorem lines_plain {lines : List (List Char)} (h : ∀ line ∈ lines, line ≠ [] ∧ PlainText line) :
    Heads.Plain '\r' lines ∧ ∀ line ∈ lines, ∀ c ∈ line, c.utf8Size = 1 :=
  ⟨fun line hLine => ⟨(h line hLine).1, fun hc => ((h line hLine).2 _ hc).2 rfl⟩,
    fun line hLine c hc => ((h line hLine).2 c hc).1⟩

theorem requestBytes_eq (hHost : IsHost host port) (random : List UInt8) :
    requestBytes host port random =
      Heads.head 13 10 ((requestLines host port random).map (List.map Utf8.byte)) := by
  rw [requestBytes, requestText_eq]
  exact encode_head (lines_plain (requestLines_plain hHost random)).2

theorem requestBytes_length (hHost : IsHost host port) {random : List UInt8}
    (hRandom : random.length = 16) : (requestBytes host port random).length ≤ 1024 := by
  have hShort := hHost.short
  have hKey : (Base64.encode random).length = 24 := by rw [Base64.encode_length, hRandom]
  have hGet : "GET /rpc HTTP/1.1".toList.length = 17 := by decide
  have hName : "Host: ".toList.length = 6 := by decide
  have hColon : ":".toList.length = 1 := by decide
  have hUpgrade : "Upgrade: websocket".toList.length = 18 := by decide
  have hConnection : "Connection: Upgrade".toList.length = 19 := by decide
  have hKeyName : "Sec-WebSocket-Key: ".toList.length = 19 := by decide
  have hVersion : "Sec-WebSocket-Version: 13".toList.length = 25 := by decide
  refine (congrArg List.length (requestBytes_eq hHost random)).trans_le ?_
  unfold requestLines hostLine keyLine
  generalize "GET /rpc HTTP/1.1".toList = get at hGet
  generalize "Host: ".toList = name at hName
  generalize ":".toList = colon at hColon
  generalize "Upgrade: websocket".toList = upgrade at hUpgrade
  generalize "Connection: Upgrade".toList = connection at hConnection
  generalize "Sec-WebSocket-Key: ".toList = keyName at hKeyName
  generalize "Sec-WebSocket-Version: 13".toList = version at hVersion
  simp only [Heads.head, List.map_cons, List.map_nil, List.flatMap_cons, List.flatMap_nil,
    List.length_append, List.length_map, List.length_cons, List.length_nil, hGet, hName, hColon,
    hUpgrade, hConnection, hKeyName, hVersion, hKey]
  omega

theorem request_isHead (hHost : IsHost host port) {random : List UInt8}
    (hRandom : random.length = 16) : IsHead (requestBytes host port random) where
  fits := requestBytes_length hHost hRandom
  ends := by
    rw [requestBytes_eq hHost]
    exact Heads.head_ends (List.cons_ne_nil _ _)
  first before after h := by
    obtain ⟨hPlain, hAscii⟩ := lines_plain (requestLines_plain hHost random)
    rw [requestBytes_eq hHost] at h
    exact Heads.head_first (by decide) (plain_bytes hAscii hPlain) h

theorem trimEnds_key (random : List UInt8) :
    Text.trimEnds Text.isWhitespace (' ' :: Base64.encode random) = Base64.encode random := by
  have hBlank : Text.isWhitespace ' ' = true := by decide
  have hNone (chars : List Char) (h : ∀ c ∈ chars, Text.isWhitespace c = false) :
      chars.dropWhile Text.isWhitespace = chars ∧ chars.rdropWhile Text.isWhitespace = chars := by
    constructor
    · rw [List.dropWhile_eq_self_iff]
      intro hLength hWhitespace
      rw [h _ (List.getElem_mem hLength)] at hWhitespace
      cases hWhitespace
    · rw [List.rdropWhile_eq_self_iff]
      intro hNil hWhitespace
      rw [h _ (List.getLast_mem hNil)] at hWhitespace
      cases hWhitespace
  obtain ⟨hFront, hBack⟩ := hNone (Base64.encode random) fun c hc => (encode_plain hc).2
  rw [Text.trimEnds, List.dropWhile_cons_of_pos hBlank, hFront, hBack]

theorem request_isUpgrade (hHost : IsHost host port) (random : List UInt8) :
    IsUpgrade (requestText host port (String.ofList (Base64.encode random)))
      (String.ofList (Base64.encode random)) := by
  have hSplit := splitCrlf_head (lines_plain (requestLines_plain hHost random)).1
  refine ⟨(requestLines host port random).tail ++ [[], []], ?_, ?_⟩
  · rw [requestText_eq, String.toList_ofList, hSplit]
    rfl
  rw [String.toList_ofList]
  have hUpgrade : HasHeader "upgrade" (fun value => Text.eqIgnoreAsciiCase value "websocket".toList)
      "Upgrade: websocket".toList :=
    (hasHeader_iff _ _ _).mpr ⟨"websocket".toList, by decide, by decide⟩
  have hConnection : HasHeader "connection" (fun value => ∃ part ∈ value.splitOn ',',
      Text.eqIgnoreAsciiCase (Text.trimEnds Text.isWhitespace part) "upgrade".toList)
      "Connection: Upgrade".toList :=
    (hasHeader_iff _ _ _).mpr ⟨"Upgrade".toList, by decide, by decide⟩
  have hVersion : HasHeader "sec-websocket-version" (· = "13".toList)
      "Sec-WebSocket-Version: 13".toList :=
    (hasHeader_iff _ _ _).mpr ⟨"13".toList, by decide, rfl⟩
  have hKey : HasHeader "sec-websocket-key" (· = Base64.encode random) (keyLine random) := by
    have hName : "Sec-WebSocket-Key: ".toList = "Sec-WebSocket-Key".toList ++ [':', ' '] := by
      decide
    exact ⟨"Sec-WebSocket-Key".toList, ' ' :: Base64.encode random,
      (congrArg (· ++ Base64.encode random) hName).trans (List.append_assoc _ _ _),
      by decide, by decide, trimEnds_key random⟩
  have hLater : ∀ line ∈ ["Sec-WebSocket-Version: 13".toList, [], []],
      headerValue "sec-websocket-key" line = none := by decide
  constructor
  · exact ⟨_, List.mem_append_left _ (.tail _ (.head _)), hUpgrade⟩
  · exact ⟨_, List.mem_append_left _ (.tail _ (.tail _ (.head _))), hConnection⟩
  · exact ⟨_, List.mem_append_left _ (.tail _ (.tail _ (.tail _ (.tail _ (.head _))))), hVersion⟩
  · refine ⟨[hostLine host port, "Upgrade: websocket".toList, "Connection: Upgrade".toList],
      keyLine random, ["Sec-WebSocket-Version: 13".toList, [], []], rfl, hKey, ?_⟩
    intro line hLine hHeader
    obtain ⟨value, hValue, -⟩ := (hasHeader_iff _ _ _).mp hHeader
    rw [hLater line hLine] at hValue
    cases hValue

theorem request_opens (hHost : IsHost host port) {random : List UInt8}
    (hRandom : random.length = 16) :
    Opening (requestBytes host port random) (requestBytes host port random)
      (String.ofList (Base64.encode random)) random where
  head := request_isHead hHost hRandom
  begins := List.prefix_rfl
  asks := ⟨_, Utf8.decode_encode _, request_isUpgrade hHost random⟩
  short := Nat.le_of_eq hRandom
  keyed := String.toList_ofList

def responseLines (accept : List Char) : List (List Char) :=
  ["HTTP/1.1 101 Switching Protocols".toList, "Upgrade: websocket".toList,
    "Connection: Upgrade".toList, "Sec-WebSocket-Accept: ".toList ++ accept]

theorem switchingProtocols_eq (bytes : List UInt8) :
    switchingProtocols (Base64.encode bytes) =
      Heads.head 13 10 ((responseLines (Base64.encode bytes)).map (List.map Utf8.byte)) := by
  have hPrefix : responsePrefix = "HTTP/1.1 101 Switching Protocols".toList.map Utf8.byte ++
      ([13, 10] ++ ("Upgrade: websocket".toList.map Utf8.byte ++ ([13, 10] ++
        ("Connection: Upgrade".toList.map Utf8.byte ++ ([13, 10] ++
          "Sec-WebSocket-Accept: ".toList.map Utf8.byte))))) := by decide
  have hSuffix : responseSuffix = [13, 10] ++ [13, 10] := by decide
  have hAccept : Utf8.encode (String.ofList (Base64.encode bytes)) =
      (Base64.encode bytes).map Utf8.byte := by
    refine (Utf8.encode_ascii ?_).trans (by rw [String.toList_ofList])
    rw [String.toList_ofList]
    exact fun c hc => Base64.utf8Size_of_mem_encode hc
  unfold switchingProtocols responseLines
  rw [hAccept, hPrefix, hSuffix]
  generalize "HTTP/1.1 101 Switching Protocols".toList = status
  generalize "Upgrade: websocket".toList = upgrade
  generalize "Connection: Upgrade".toList = connection
  generalize "Sec-WebSocket-Accept: ".toList = name
  simp only [Heads.head, List.map_cons, List.map_nil, List.flatMap_cons, List.flatMap_nil,
    List.map_append, List.append_assoc, List.nil_append]

theorem responseLines_plain (bytes : List UInt8) :
    ∀ line ∈ responseLines (Base64.encode bytes), line ≠ [] ∧ PlainText line := by
  have hFixed : ∀ line ∈ ["HTTP/1.1 101 Switching Protocols".toList, "Upgrade: websocket".toList,
      "Connection: Upgrade".toList], line ≠ [] ∧ PlainText line := by decide
  have hName : "Sec-WebSocket-Accept: ".toList ≠ [] ∧ PlainText "Sec-WebSocket-Accept: ".toList := by
    decide
  refine List.forall_mem_append.mpr ⟨hFixed, List.forall_mem_singleton.mpr
    ⟨List.append_ne_nil_of_left_ne_nil hName.1 _, hName.2.append fun c hc => ?_⟩⟩
  exact ⟨Base64.utf8Size_of_mem_encode hc, (encode_plain hc).1⟩

section Open

variable {τ : Type} {random : Random τ} {s : τ} {γ : Type}
variable {K : Program CheckOp CheckOp.Reply γ → τ → Prop} {turns : List (Turn UInt8)}

/-- The loop stops at the end of the head when nothing has followed it by then. -/
theorem readHead_keeps {response : List UInt8} (hEnds : crlfCrlf <:+ response)
    (hFirst : ∀ front back, response = front ++ back → back ≠ [] → ¬ crlfCrlf <:+: front)
    (hTurns : ∀ item later, turns ≠ .hears item :: later)
    {f : Except CheckError (List UInt8) → Program CheckOp CheckOp.Reply γ}
    (hNext : (f (.ok response)).Keeps (checkPort random) K s turns) {reads : Nat}
    {front back : List UInt8} (hResponse : response = front ++ back) (hReads : back.length < reads) :
    ((readHead reads front).run >>= f).Keeps (checkPort random) K s (heard back ++ turns) := by
  induction reads generalizing front back with
  | zero => omega
  | succ reads ih =>
    rcases back with _ | ⟨byte, back⟩
    · rw [List.append_nil] at hResponse
      subst hResponse
      rw [readHead, if_pos hEnds.isInfix]
      exact hNext
    rw [readHead, if_neg (hFirst front _ hResponse (List.cons_ne_nil _ _)), ExceptT.run_bind,
      LawfulMonad.bind_assoc]
    refine recv_keeps (by decide) fun chunk rest hChunk hLength hSplit => ?_
    have hSplit : heard (byte :: back) ++ turns = heard chunk ++ rest := hSplit
    rcases heard_split hSplit with ⟨later, hBack, rfl⟩ | ⟨more, hMore, -, rfl⟩
    · have hPos := List.length_pos_iff.mpr hChunk
      rw [hBack, List.length_append] at hReads
      exact ih (by rw [hResponse, hBack, List.append_assoc]) (by omega)
    · obtain ⟨item, more, rfl⟩ := List.exists_cons_of_ne_nil hMore
      exact absurd rfl (hTurns item (heard more ++ rest))

theorem switchingProtocols_begins (accept : List Char) :
    Utf8.encode "HTTP/1.1 101" <+: switchingProtocols accept := by
  have hPrefix : Utf8.encode "HTTP/1.1 101" <+: responsePrefix := by decide
  rw [switchingProtocols, List.append_assoc]
  exact hPrefix.trans (List.prefix_append _ _)

theorem encodeAscii_request (hHost : IsHost host port) (random : List UInt8) :
    encodeAscii (requestText host port (String.ofList (Base64.encode random))) =
      some (requestBytes host port random) := by
  refine if_pos (List.all_eq_true.mpr fun c hc => decide_eq_true ?_)
  rw [requestText_eq, String.toList_ofList] at hc
  have hSize := head_ascii (lines_plain (requestLines_plain hHost random)).2 c hc
  exact Nat.lt_succ_of_le (UInt32.le_iff_toNat_le.mp (Char.utf8Size_eq_one_iff.mp hSize))

theorem openWebsocket_keeps {crypto : Crypto} (hCrypto : crypto.Faithful) (hHost : IsHost host port)
    {reads : Nat} (hReads : 129 < reads) (hTurns : ∀ item later, turns ≠ .hears item :: later)
    {f : Except CheckError Unit → Program CheckOp CheckOp.Reply γ}
    (hNext : (f (.ok ())).Keeps (checkPort random) K (random s 16).2 turns) :
    ((openWebsocket reads host port).run >>= f).Keeps (checkPort random) K s
      (spoken (requestBytes host port (random s 16).1.1) ++ (heard (switchingProtocols
        (crypto.acceptOf (String.ofList (Base64.encode (random s 16).1.1)))) ++ turns)) := by
  have hAscii := encodeAscii_request hHost (random s 16).1.1
  have hResponse := switchingProtocols_eq (crypto.sha1
    (Utf8.encode (String.ofList (Base64.encode (random s 16).1.1)) ++ websocketGuid))
  obtain ⟨hPlain, hLines⟩ := lines_plain (responseLines_plain (crypto.sha1
    (Utf8.encode (String.ofList (Base64.encode (random s 16).1.1)) ++ websocketGuid)))
  have hLength := switchingProtocols_length hCrypto
    (String.ofList (Base64.encode (random s 16).1.1))
  have hSwitched := switchingProtocols_begins
    (crypto.acceptOf (String.ofList (Base64.encode (random s 16).1.1)))
  rw [openWebsocket, ExceptT.run_bind, LawfulMonad.bind_assoc]
  refine (says_urandom 16 s).keeps K _ _ ?_
  simp only [hAscii]
  rw [ExceptT.run_bind, LawfulMonad.bind_assoc]
  refine (says_sendall _ _).keeps K _ _ ?_
  simp only
  rw [ExceptT.run_bind, LawfulMonad.bind_assoc]
  refine readHead_keeps ?_ ?_ hTurns ?_ (List.nil_append _).symm (by omega)
  · rw [Crypto.acceptOf, hResponse]
    exact Heads.head_ends (List.cons_ne_nil _ _)
  · intro front back hSplit hBack
    rw [Crypto.acceptOf, hResponse] at hSplit
    exact Heads.head_prefix (by decide) (plain_bytes hLines hPlain) hSplit hBack
  · simp only
    rw [if_pos hSwitched]
    exact hNext

end Open

section Both

variable {σ τ : Type} {random : Random τ} {loads : String → Option Json.Value}
variable {fromSlice : String → Option JsonRpcRequest} {H : Handler BusOp BusOp.Reply σ}

/-- The frames that carry the pings, with the masks that this source gives. -/
def pingFrames (random : Random τ) : τ → List UInt32 → List ClientFrame
  | _, [] => []
  | s, id :: ids => pingFrame (random s 4).1.1 id :: pingFrames random (random s 4).2 ids

def pingTurns (random : Random τ) : τ → List UInt32 → List (Turn UInt8)
  | _, [] => []
  | s, id :: ids => (spoken (pingFrame (random s 4).1.1 id).encode ++
      heard (serverFrame 0x01 (readyReply id))) ++ pingTurns random (random s 4).2 ids

theorem pings_say (hReads : ReadsTexts loads fromSlice) (ids : List UInt32) (s : τ) :
    ∃ s', Says (checkPort random) (pings loads ids) s (pingTurns random s ids) () s' := by
  induction ids generalizing s with
  | nil => exact ⟨s, .pure () s⟩
  | cons id ids ih =>
    obtain ⟨s', hLater⟩ := ih (random s 4).2
    exact ⟨s', (says_ping hReads id s).bind hLater⟩

/-- The two sides see one dialogue. -/
theorem dialogue_pings (hReads : ReadsTexts loads fromSlice) (bus : σ) (ids : List UInt32) (s : τ) :
    dialogue fromSlice H bus (pingFrames random s ids) = (pingTurns random s ids).map dual := by
  induction ids generalizing s with
  | nil => rfl
  | cons id ids ih =>
    rw [pingFrames, dialogue, exchange_ping hReads, ih, pingTurns, List.map_append, List.map_append,
      dual_spoken, dual_heard, List.append_assoc]

theorem conversation_pings (hReads : ReadsTexts loads fromSlice) (bus : σ) (ids : List UInt32)
    (s : τ) :
    (conversation fromSlice H bus ((pingFrames random s ids).map (·.message))).2 = bus := by
  induction ids generalizing s with
  | nil => rfl
  | cons id ids ih =>
    rw [pingFrames, List.map_cons, conversation, exchange_ping hReads]
    dsimp only
    exact ih _

theorem upToClose_pings (ids : List UInt32) (s : τ) :
    upToClose (pingFrames random s ids) = pingFrames random s ids := by
  induction ids generalizing s with
  | nil => rfl
  | cons id ids ih =>
    rw [pingFrames, upToClose, ih]
    rfl

theorem pingFrames_length (ids : List UInt32) (s : τ) :
    (pingFrames random s ids).length = ids.length := by
  induction ids generalizing s with
  | nil => rfl
  | cons id ids ih => rw [pingFrames, List.length_cons, List.length_cons, ih]

theorem pingTurns_speak (ids : List UInt32) (s : τ) (item : UInt8) (later : List (Turn UInt8)) :
    pingTurns random s ids ≠ .hears item :: later := by
  cases ids with
  | nil =>
    intro h
    cases h
  | cons id ids =>
    intro h
    cases (List.cons.inj h).1

abbrev CheckedConnection (σ τ : Type) :=
  Duplex CheckOp CheckOp.Reply (Except CheckError Unit) τ SessionOp SessionOp.Reply ConnectionEnd σ
    UInt8

/-- The script has just connected, and the firmware has accepted it. -/
def connected (loads : String → Option Json.Value) (crypto : Crypto)
    (fromSlice : String → Option JsonRpcRequest) (waits reads requests : Nat) (generation : UInt64)
    (host : String) (port : Int) (ids : List UInt32) (s : τ) (bus : σ) : CheckedConnection σ τ where
  left := ⟨(check loads waits host port ids).run, s, []⟩
  right := ⟨serveClient crypto fromSlice reads requests generation, bus, []⟩

def Passes (p : Program CheckOp CheckOp.Reply (Except CheckError Unit)) (_ : τ) : Prop :=
  p = .done (.ok ())

theorem connected_agrees {crypto : Crypto} (hCrypto : crypto.Faithful)
    (hTexts : ReadsTexts loads fromSlice) (hHost : IsHost host port) {ids : List UInt32}
    {waits reads requests : Nat} (hWaits : 129 < waits) (hReads : ids.length < reads)
    (hRequests : ids.length < requests) (generation : UInt64) (s : τ) (bus : σ) :
    (connected loads crypto fromSlice waits reads requests generation host port ids s bus).Agrees
      (checkPort random) (sessionPort generation H) Passes (Rests generation H bus) := by
  have hRight : (serveClient crypto fromSlice reads requests generation).Keeps
      (sessionPort generation H) (Rests generation H bus) bus
      (heard (requestBytes host port (random s 16).1.1) ++ (spoken (switchingProtocols
        (crypto.acceptOf (String.ofList (Base64.encode (random s 16).1.1)))) ++
          (pingTurns random (random s 16).2 ids).map dual)) := by
    have hLength : (pingFrames random (random s 16).2 ids).length = ids.length :=
      pingFrames_length ids _
    have hKeeps : (serveClient crypto fromSlice reads requests generation).Keeps
        (sessionPort generation H) (Rests generation H (conversation fromSlice H bus
          ((upToClose (pingFrames random (random s 16).2 ids)).map (·.message))).2) bus
        (heard (requestBytes host port (random s 16).1.1) ++ (spoken (switchingProtocols
          (crypto.acceptOf (String.ofList (Base64.encode (random s 16).1.1)))) ++
            dialogue fromSlice H bus (upToClose (pingFrames random (random s 16).2 ids)))) :=
      serveClient_keeps hCrypto (request_opens hHost (random s 16).1.2) (hLength.trans_lt hReads)
        (hLength.trans_lt hRequests)
    rwa [upToClose_pings, conversation_pings hTexts, dialogue_pings hTexts] at hKeeps
  have hLeft : (check loads waits host port ids).run.Keeps (checkPort random) Passes s
      (spoken (requestBytes host port (random s 16).1.1) ++ (heard (switchingProtocols
        (crypto.acceptOf (String.ofList (Base64.encode (random s 16).1.1)))) ++
          pingTurns random (random s 16).2 ids)) := by
    obtain ⟨s', hSays⟩ := pings_say hTexts ids (random s 16).2
    have hPings := hSays.keeps Passes pure [] (.settled rfl)
    rw [bind_pure, List.append_nil] at hPings
    rw [check, ExceptT.run_bind]
    exact openWebsocket_keeps hCrypto hHost hWaits (pingTurns_speak ids _) hPings
  refine ⟨_, _, hLeft, hRight, .inl ⟨rfl, ?_⟩⟩
  simp only [connected, heard_nil, List.nil_append, List.map_append, dual_spoken, dual_heard]

theorem passes_quiet (p : Program CheckOp CheckOp.Reply (Except CheckError Unit)) (s : τ)
    (h : Passes p s) : p.Quiet (checkPort random) s := by
  rw [Passes] at h
  subst h
  trivial

/-- However the script and the firmware take turns, and however TCP splits what they send: every
run comes to an end, and where it does the script has found nothing wrong. -/
theorem checked_connection_served {crypto : Crypto} (hCrypto : crypto.Faithful)
    (hTexts : ReadsTexts loads fromSlice) (hHost : IsHost host port) {ids : List UInt32}
    {waits reads requests : Nat} (hWaits : 129 < waits) (hReads : ids.length < reads)
    (hRequests : ids.length < requests) (generation : UInt64) (s : τ) (bus : σ) :
    Acc (fun d' d => Duplex.Step (checkPort random) (sessionPort generation H) d d')
      (connected loads crypto fromSlice waits reads requests generation host port ids s bus) ∧
    ∀ d, Relation.ReflTransGen (Duplex.Step (checkPort random) (sessionPort generation H))
        (connected loads crypto fromSlice waits reads requests generation host port ids s bus) d →
      (∃ d', Duplex.Step (checkPort random) (sessionPort generation H) d d') ∨
        d.left.program = .done (.ok ()) ∧ d.right.state = bus ∧
          d.left.inbox = [] ∧ d.right.inbox = [] := by
  have hAgrees : (connected loads crypto fromSlice waits reads requests generation host port ids s
      bus).Agrees (checkPort random) (sessionPort generation H) Passes (Rests generation H bus) :=
    connected_agrees hCrypto hTexts hHost hWaits hReads hRequests generation s bus
  refine ⟨(Duplex.step_wf _ _).apply _, fun d hRun => ?_⟩
  rcases hAgrees.runs passes_quiet (fun _ _ h => h.1) hRun with hStep | hFinished
  · exact .inl hStep
  · exact .inr ⟨hFinished.left, hFinished.right.2, hFinished.read⟩

end Both

def sampleRandom : Random Unit := fun _ count =>
  (⟨(sampleNonce ++ List.replicate count 0).take count, by simp⟩, ())

theorem sample_texts : ReadsTexts Json.parse Modes.requestReader where
  reply _ := Json.parse_compact _
  request id := by
    rw [Modes.requestReader, pingValue, Json.parse_compact, Option.bind_some]
    simp [Modes.readRequest, Json.Value.get, List.lookup_cons, Json.Value.asString,
      Modes.optionalField, Modes.readParams]

theorem checked_connection_served_sample :
    Acc (fun d' d => Duplex.Step (checkPort sampleRandom) (sessionPort 7 silent) d d')
      (connected Json.parse sampleCrypto Modes.requestReader 130 4 4 7 "192.168.1.123" 3333 [1, 2, 3]
        () ()) ∧
    ∀ d, Relation.ReflTransGen (Duplex.Step (checkPort sampleRandom) (sessionPort 7 silent))
        (connected Json.parse sampleCrypto Modes.requestReader 130 4 4 7 "192.168.1.123" 3333
          [1, 2, 3] () ()) d →
      (∃ d', Duplex.Step (checkPort sampleRandom) (sessionPort 7 silent) d d') ∨
        d.left.program = .done (.ok ()) ∧ d.right.state = () ∧
          d.left.inbox = [] ∧ d.right.inbox = [] := by
  have hAscii : "192.168.1.123".toList.all fun c => c.toNat < 128 := by decide
  have hHost : IsHost "192.168.1.123" 3333 :=
    ⟨fun c hc => of_decide_eq_true (List.all_eq_true.mp hAscii c hc), by decide,
      by decide⟩
  exact checked_connection_served sampleCrypto_faithful sample_texts hHost (by decide) (by decide)
    (by decide) 7 () ()

end Fetchline.TakeoverCheck
