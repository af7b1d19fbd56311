import Fetchline.Firmware.WebSocket
import Fetchline.Library.Base64
import Fetchline.Library.Text

/-! # The handshake request

What `validate_handshake` takes for a WebSocket upgrade. The base64 decoder is a
parameter: a text and the length of the buffer it decodes into.
-/

namespace Fetchline.WebSocket

open Text

def controllerWebsocketPath : String := "/rpc"

structure HandshakeLines where
  hasUpgrade : Bool
  hasConnectionUpgrade : Bool
  hasVersion : Bool
  key : Option (List Char)
deriving DecidableEq

def readHandshakeLine (s : HandshakeLines) (line : List Char) : HandshakeLines :=
  match splitOnce ':' line with
  | none => s
  | some (name, value) =>
    let value := trimEnds isWhitespace value
    if eqIgnoreAsciiCase name "upgrade".toList && eqIgnoreAsciiCase value "websocket".toList then
      { s with hasUpgrade := true }
    else if eqIgnoreAsciiCase name "connection".toList &&
        (value.splitOn ',').any fun part =>
          eqIgnoreAsciiCase (trimEnds isWhitespace part) "upgrade".toList then
      { s with hasConnectionUpgrade := true }
    else if eqIgnoreAsciiCase name "sec-websocket-version".toList && value == "13".toList then
      { s with hasVersion := true }
    else if eqIgnoreAsciiCase name "sec-websocket-key".toList then { s with key := some value }
    else s

def validateHandshake (decode : List Char → Nat → Option (List UInt8)) (request : String) :
    Except Error String :=
  match splitCrlf request.toList with
  | [] => .error .invalidHandshake
  | requestLine :: lines =>
    let expectedRequest :=
      if controllerWebsocketPath = "/" then "GET / HTTP/1.1" else "GET /rpc HTTP/1.1"
    if requestLine ≠ expectedRequest.toList then .error .invalidHandshake
    else
      let s := lines.foldl readHandshakeLine ⟨false, false, false, none⟩
      match s.key with
      | none => .error .invalidHandshake
      | some key =>
        if (decode key 16).isNone then .error .invalidHandshake
        else if ¬ s.hasUpgrade ∨ ¬ s.hasConnectionUpgrade ∨ ¬ s.hasVersion then
          .error .invalidHandshake
        else .ok (String.ofList key)

/-- A header line with this name, in either case of its letters, and a value that has `P`. -/
def HasHeader (name : String) (P : List Char → Prop) (line : List Char) : Prop :=
  ∃ spelled rest, line = spelled ++ ':' :: rest ∧ ':' ∉ spelled ∧
    eqIgnoreAsciiCase spelled name.toList ∧ P (trimEnds isWhitespace rest)

/-- The lines of a valid upgrade; `key` is the value of the last key line. -/
structure UpgradeLines (lines : List (List Char)) (key : List Char) : Prop where
  upgrade : ∃ line ∈ lines,
    HasHeader "upgrade" (fun value => eqIgnoreAsciiCase value "websocket".toList) line
  connection : ∃ line ∈ lines, HasHeader "connection" (fun value =>
    ∃ part ∈ value.splitOn ',',
      eqIgnoreAsciiCase (trimEnds isWhitespace part) "upgrade".toList) line
  version : ∃ line ∈ lines, HasHeader "sec-websocket-version" (· = "13".toList) line
  key : ∃ before line after, lines = before ++ line :: after ∧
    HasHeader "sec-websocket-key" (· = key) line ∧
    ∀ later ∈ after, ¬ HasHeader "sec-websocket-key" (fun _ => True) later

def IsUpgrade (request key : String) : Prop :=
  ∃ lines, splitCrlf request.toList = "GET /rpc HTTP/1.1".toList :: lines ∧
    UpgradeLines lines key.toList

/-- The header of a line with this name. -/
def headerValue (name : String) (line : List Char) : Option (List Char) :=
  match splitOnce ':' line with
  | none => none
  | some (spelled, rest) =>
    if eqIgnoreAsciiCase spelled name.toList then some (trimEnds isWhitespace rest) else none

theorem hasHeader_iff (name : String) (P : List Char → Prop) (line : List Char) :
    HasHeader name P line ↔ ∃ value, headerValue name line = some value ∧ P value := by
  constructor
  · rintro ⟨spelled, rest, hLine, hColon, hName, hP⟩
    refine ⟨_, ?_, hP⟩
    rw [headerValue, splitOnce_eq_some_iff.mpr ⟨hLine, hColon⟩]
    exact if_pos hName
  · rintro ⟨value, hValue, hP⟩
    rw [headerValue] at hValue
    split at hValue
    · cases hValue
    · rename_i spelled rest hSplit
      split at hValue
      · rename_i hName
        obtain ⟨hLine, hColon⟩ := splitOnce_eq_some_iff.mp hSplit
        cases hValue
        exact ⟨spelled, rest, hLine, hColon, hName, hP⟩
      · cases hValue

def isUpgradeLine (line : List Char) : Bool :=
  (headerValue "upgrade" line).any fun value => eqIgnoreAsciiCase value "websocket".toList

def isConnectionLine (line : List Char) : Bool :=
  (headerValue "connection" line).any fun value => (value.splitOn ',').any fun part =>
    eqIgnoreAsciiCase (trimEnds isWhitespace part) "upgrade".toList

def isVersionLine (line : List Char) : Bool :=
  (headerValue "sec-websocket-version" line).any (· == "13".toList)

theorem eqIgnoreAsciiCase_other {name left : List Char} (right : List Char)
    (h : eqIgnoreAsciiCase name left) (hOther : eqIgnoreAsciiCase left right = false) :
    eqIgnoreAsciiCase name right = false := by
  rw [eqIgnoreAsciiCase, beq_iff_eq] at h
  rwa [eqIgnoreAsciiCase, h]

/-- The chain of alternatives comes to four tests of their own, as no two of its names
are the same. -/
theorem readHandshakeLine_eq (s : HandshakeLines) (line : List Char) :
    readHandshakeLine s line =
      ⟨s.hasUpgrade || isUpgradeLine line, s.hasConnectionUpgrade || isConnectionLine line,
        s.hasVersion || isVersionLine line, (headerValue "sec-websocket-key" line).or s.key⟩ := by
  rw [readHandshakeLine, isUpgradeLine, isConnectionLine, isVersionLine]
  simp only [headerValue]
  cases hSplit : splitOnce ':' line with
  | none => simp
  | some header =>
    obtain ⟨name, rest⟩ := header
    simp only
    by_cases hUpgrade : eqIgnoreAsciiCase name "upgrade".toList
    · rw [hUpgrade, eqIgnoreAsciiCase_other "connection".toList hUpgrade (by decide),
        eqIgnoreAsciiCase_other "sec-websocket-version".toList hUpgrade (by decide),
        eqIgnoreAsciiCase_other "sec-websocket-key".toList hUpgrade (by decide)]
      simp only [Bool.true_and, Bool.false_and, Bool.false_eq_true, if_true, if_false,
        Option.any_some, Option.any_none, Bool.or_false, Option.none_or]
      generalize eqIgnoreAsciiCase (trimEnds isWhitespace rest) "websocket".toList = test
      cases test <;> simp
    by_cases hConnection : eqIgnoreAsciiCase name "connection".toList
    · rw [eq_false_of_ne_true hUpgrade, hConnection,
        eqIgnoreAsciiCase_other "sec-websocket-version".toList hConnection (by decide),
        eqIgnoreAsciiCase_other "sec-websocket-key".toList hConnection (by decide)]
      simp only [Bool.true_and, Bool.false_and, Bool.false_eq_true, if_true, if_false,
        Option.any_some, Option.any_none, Bool.or_false, Option.none_or]
      generalize List.any _ _ = test
      cases test <;> simp
    by_cases hVersion : eqIgnoreAsciiCase name "sec-websocket-version".toList
    · rw [eq_false_of_ne_true hUpgrade, eq_false_of_ne_true hConnection, hVersion,
        eqIgnoreAsciiCase_other "sec-websocket-key".toList hVersion (by decide)]
      simp only [Bool.true_and, Bool.false_and, Bool.false_eq_true, if_true, if_false,
        Option.any_some, Option.any_none, Bool.or_false, Option.none_or]
      generalize (trimEnds isWhitespace rest == "13".toList) = test
      cases test <;> simp
    · rw [eq_false_of_ne_true hUpgrade, eq_false_of_ne_true hConnection,
        eq_false_of_ne_true hVersion]
      simp only [Bool.false_and, Bool.false_eq_true, if_false, Option.any_none, Bool.or_false]
      split <;> simp

def lastKey (lines : List (List Char)) : Option (List Char) :=
  (lines.filterMap (headerValue "sec-websocket-key")).getLast?

theorem foldl_readHandshakeLine (lines : List (List Char)) (s : HandshakeLines) :
    lines.foldl readHandshakeLine s =
      ⟨s.hasUpgrade || lines.any isUpgradeLine,
        s.hasConnectionUpgrade || lines.any isConnectionLine,
        s.hasVersion || lines.any isVersionLine, (lastKey lines).or s.key⟩ := by
  induction lines generalizing s with
  | nil =>
    rw [lastKey]
    simp
  | cons line lines ih =>
    have hKey : (lastKey lines).or ((headerValue "sec-websocket-key" line).or s.key) =
        (lastKey (line :: lines)).or s.key := by
      rw [lastKey, lastKey, List.filterMap_cons]
      cases headerValue "sec-websocket-key" line with
      | none => rfl
      | some value =>
        simp only [List.getLast?_cons, Option.or_some, Option.some_or]
    rw [List.foldl_cons, ih, readHandshakeLine_eq, hKey]
    simp only [List.any_cons, Bool.or_assoc]

theorem lastKey_eq_some_iff (lines : List (List Char)) (key : List Char) :
    lastKey lines = some key ↔
      ∃ before line after, lines = before ++ line :: after ∧
        HasHeader "sec-websocket-key" (· = key) line ∧
        ∀ later ∈ after, ¬ HasHeader "sec-websocket-key" (fun _ => True) later := by
  rw [lastKey, List.getLast?_filterMap, List.findSome?_eq_some_iff]
  have hKey (line : List Char) : headerValue "sec-websocket-key" line = some key ↔
      HasHeader "sec-websocket-key" (· = key) line := by
    rw [hasHeader_iff]
    exact ⟨fun h => ⟨key, h, rfl⟩, fun ⟨_, h, hEq⟩ => hEq ▸ h⟩
  have hNone (line : List Char) : headerValue "sec-websocket-key" line = none ↔
      ¬ HasHeader "sec-websocket-key" (fun _ => True) line := by
    rw [hasHeader_iff]
    cases headerValue "sec-websocket-key" line with
    | none => exact iff_of_true rfl fun ⟨_, h, _⟩ => nomatch h
    | some value => exact iff_of_false nofun (not_not_intro ⟨value, rfl, trivial⟩)
  constructor
  · rintro ⟨after, line, before, hLines, hLine, hAfter⟩
    refine ⟨before.reverse, line, after.reverse, ?_, (hKey line).mp hLine, fun later hLater =>
      (hNone later).mp (hAfter later (List.mem_reverse.mp hLater))⟩
    rw [← List.reverse_reverse lines, hLines, List.reverse_append, List.reverse_cons,
      List.append_assoc, List.singleton_append]
  · rintro ⟨before, line, after, rfl, hLine, hAfter⟩
    refine ⟨after.reverse, line, before.reverse, ?_, (hKey line).mpr hLine, fun later hLater =>
      (hNone later).mpr (hAfter later (List.mem_reverse.mp hLater))⟩
    rw [List.reverse_append, List.reverse_cons, List.append_assoc, List.singleton_append]

theorem any_headerValue_iff (name : String) (test : List Char → Bool) (lines : List (List Char)) :
    (lines.any fun line => (headerValue name line).any test) = true ↔
      ∃ line ∈ lines, HasHeader name (fun value => test value = true) line := by
  simp only [List.any_eq_true, hasHeader_iff, Option.any_eq_true]

theorem upgradeLines_iff (lines : List (List Char)) (key : List Char) :
    UpgradeLines lines key ↔ lines.any isUpgradeLine ∧ lines.any isConnectionLine ∧
      lines.any isVersionLine ∧ lastKey lines = some key := by
  have hUpgrade : lines.any isUpgradeLine = true ↔ _ := any_headerValue_iff "upgrade" _ lines
  have hConnection : lines.any isConnectionLine = true ↔ ∃ line ∈ lines,
      HasHeader "connection" (fun value => ∃ part ∈ value.splitOn ',',
        eqIgnoreAsciiCase (trimEnds isWhitespace part) "upgrade".toList) line := by
    refine (any_headerValue_iff "connection" _ lines).trans ?_
    simp only [List.any_eq_true]
  have hVersion : lines.any isVersionLine = true ↔ ∃ line ∈ lines,
      HasHeader "sec-websocket-version" (· = "13".toList) line := by
    refine (any_headerValue_iff "sec-websocket-version" _ lines).trans ?_
    simp only [beq_iff_eq]
  rw [hUpgrade, hConnection, hVersion, lastKey_eq_some_iff]
  exact ⟨fun h => ⟨h.upgrade, h.connection, h.version, h.key⟩,
    fun ⟨hUpgrade, hConnection, hVersion, hKey⟩ => ⟨hUpgrade, hConnection, hVersion, hKey⟩⟩

theorem validateHandshake_ok_iff (decode : List Char → Nat → Option (List UInt8))
    (request key : String) :
    validateHandshake decode request = .ok key ↔
      IsUpgrade request key ∧ (decode key.toList 16).isSome := by
  have hExpected : (if controllerWebsocketPath = "/" then "GET / HTTP/1.1" else
      "GET /rpc HTTP/1.1") = "GET /rpc HTTP/1.1" := if_neg (by decide)
  simp only [validateHandshake, IsUpgrade, upgradeLines_iff, hExpected]
  obtain _ | ⟨requestLine, lines⟩ := splitCrlf request.toList
  · exact iff_of_false nofun fun ⟨⟨_, h, _⟩, _⟩ => nomatch h
  by_cases hLine : requestLine = "GET /rpc HTTP/1.1".toList
  case neg =>
    simp only [if_pos hLine]
    exact iff_of_false nofun fun ⟨⟨_, h, _⟩, _⟩ => hLine (List.cons.inj h).1
  subst hLine
  simp only [if_neg (not_not_intro rfl), foldl_readHandshakeLine, Bool.false_or, Option.or_none]
  constructor
  · intro h
    split at h
    · cases h
    rename_i value hKey
    by_cases hDecoded : (decode value 16).isNone
    · rw [if_pos hDecoded] at h
      cases h
    rw [if_neg hDecoded] at h
    by_cases hFlags : ¬ lines.any isUpgradeLine ∨ ¬ lines.any isConnectionLine ∨
        ¬ lines.any isVersionLine
    · rw [if_pos hFlags] at h
      cases h
    rw [if_neg hFlags] at h
    simp only [not_or, not_not] at hFlags
    cases h
    simp only [String.toList_ofList]
    exact ⟨⟨lines, rfl, hFlags.1, hFlags.2.1, hFlags.2.2, hKey⟩,
      Option.isNone_eq_false_iff.mp (eq_false_of_ne_true hDecoded)⟩
  · rintro ⟨⟨lines', hLines, hUpgrade, hConnection, hVersion, hKey⟩, hDecoded⟩
    obtain ⟨-, rfl⟩ := List.cons.inj hLines
    simp only [hUpgrade, hConnection, hVersion, hKey, Option.isNone_eq_false_iff.mpr hDecoded,
      Bool.false_eq_true, if_false, not_true_eq_false, or_self, String.ofList_toList]

/-- What the decoder is relied on for: it succeeds on the padded base64 of as many bytes
as the buffer holds, and on nothing else. -/
def DecodesPadded (decode : List Char → Nat → Option (List UInt8)) : Prop :=
  ∀ chars size, (decode chars size).isSome ↔
    ∃ bytes : List UInt8, bytes.length ≤ size ∧ chars = Base64.encode bytes

/-- A valid upgrade, its key the base64 of 16 bytes. -/
def IsKeyedUpgrade (request key : String) : Prop :=
  IsUpgrade request key ∧ ∃ bytes : List UInt8, bytes.length = 16 ∧ key.toList = Base64.encode bytes

/-- An upgrade but for its key, which is the base64 of fewer bytes. -/
def HasShortKey (request : String) : Prop :=
  ∃ key, IsUpgrade request key ∧
    ∃ bytes : List UInt8, bytes.length < 16 ∧ key.toList = Base64.encode bytes

/-- The buffer of the key bounds its length from above only. -/
theorem accepts_keyed_upgrades_iff {decode : List Char → Nat → Option (List UInt8)}
    (hDecode : DecodesPadded decode) (request : String) :
    (∀ key, validateHandshake decode request = .ok key ↔ IsKeyedUpgrade request key) ↔
      ¬ HasShortKey request := by
  simp only [validateHandshake_ok_iff, hDecode _ _]
  constructor
  · rintro hExact ⟨key, hUpgrade, bytes, hShort, hKey⟩
    obtain ⟨-, other, hOther, hSame⟩ :=
      (hExact key).mp ⟨hUpgrade, bytes, Nat.le_of_lt hShort, hKey⟩
    obtain rfl := Base64.encode_injective (hKey.symm.trans hSame)
    omega
  · intro hNone key
    constructor
    · rintro ⟨hUpgrade, bytes, hBytes, hKey⟩
      refine ⟨hUpgrade, bytes, ?_, hKey⟩
      by_contra hLength
      exact hNone ⟨key, hUpgrade, bytes, by omega, hKey⟩
    · rintro ⟨hUpgrade, bytes, hBytes, hKey⟩
      exact ⟨hUpgrade, bytes, Nat.le_of_eq hBytes, hKey⟩

/-- The decoder of the library, into a buffer of this size. -/
def decodeInto (chars : List Char) (size : Nat) : Option (List UInt8) :=
  (Base64.decode chars).filter fun bytes => bytes.length ≤ size

theorem decodeInto_padded : DecodesPadded decodeInto := by
  intro chars size
  rw [decodeInto, Option.isSome_filter, Option.any_eq_true]
  simp only [Base64.decode_eq_some_iff, decide_eq_true_eq]
  exact ⟨fun ⟨bytes, h, hLength⟩ => ⟨bytes, hLength, h⟩, fun ⟨bytes, hLength, h⟩ => ⟨bytes, h, hLength⟩⟩

def upgradeRequest (key : String) : String :=
  "GET /rpc HTTP/1.1\r\nUpgrade: websocket\r\nConnection: keep-alive, upgrade\r\n" ++
    "Sec-WebSocket-Version: 13\r\nSec-WebSocket-Key: " ++ key ++ "\r\n\r\n"

theorem accepts_keyed_upgrades_sample :
    let request := upgradeRequest "dGhlIHNhbXBsZSBub25jZQ=="
    ∀ key, validateHandshake decodeInto request = .ok key ↔ IsKeyedUpgrade request key := by
  refine (accepts_keyed_upgrades_iff decodeInto_padded _).mpr ?_
  rintro ⟨key, hUpgrade, bytes, hShort, hKey⟩
  have hAccepted := (validateHandshake_ok_iff decodeInto _ key).mpr
    ⟨hUpgrade, (decodeInto_padded _ _).mpr ⟨bytes, Nat.le_of_lt hShort, hKey⟩⟩
  have hSample : validateHandshake decodeInto (upgradeRequest "dGhlIHNhbXBsZSBub25jZQ==") =
      .ok "dGhlIHNhbXBsZSBub25jZQ==" := by decide +kernel
  obtain rfl := Except.ok.inj (hAccepted.symm.trans hSample)
  have hBytes : Base64.decode "dGhlIHNhbXBsZSBub25jZQ==".toList =
      some [0x74, 0x68, 0x65, 0x20, 0x73, 0x61, 0x6d, 0x70, 0x6c, 0x65, 0x20, 0x6e, 0x6f, 0x6e,
        0x63, 0x65] := by decide +kernel
  obtain rfl := Option.some.inj (((Base64.decode_eq_some_iff _ _).mpr hKey).symm.trans hBytes)
  exact absurd hShort (by decide)

theorem accepts_empty_key : validateHandshake decodeInto (upgradeRequest "") = .ok "" ∧
    ¬ ∀ key, validateHandshake decodeInto (upgradeRequest "") = .ok key ↔
      IsKeyedUpgrade (upgradeRequest "") key := by
  have hAccepted : validateHandshake decodeInto (upgradeRequest "") = .ok "" := by decide +kernel
  refine ⟨hAccepted, fun hExact => ?_⟩
  obtain ⟨-, bytes, hLength, hKey⟩ := (hExact "").mp hAccepted
  obtain rfl : [] = bytes := Base64.encode_injective hKey
  cases hLength

end Fetchline.WebSocket
