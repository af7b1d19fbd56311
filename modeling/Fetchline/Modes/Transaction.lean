import Fetchline.Modes.Bench

/-! # One transaction in either mode

The two status readers, each reduced to the payload of the reply.
-/

namespace Fetchline.Modes

open Effects Effects.Program Host

variable (oracle : Oracle) (wire : Wire)

theorem decodeStatusPacket_body {id length : UInt8} {body : List UInt8} (expectedId : UInt8)
    (hBody : body.length = length.toNat) (hLow : 2 ≤ length.toNat) (hHigh : length.toNat ≤ 66) :
    decodeStatusPacket (id :: length :: body) expectedId =
      if id ≠ expectedId then .error .unexpectedId
      else if Fetchline.checksum (id :: length :: body.take (length.toNat - 1)) ≠
          body.getD (length.toNat - 1) 0 then .error .invalidChecksum
      else .ok ⟨body.getD 0 0, (body.take (length.toNat - 1)).drop 1⟩ := by
  have hDropLast : (id :: length :: body).dropLast = id :: length :: body.take (length.toNat - 1) := by
    rw [List.dropLast_eq_take, ← hBody]
    have hLength : (id :: length :: body).length - 1 = body.length - 1 + 1 + 1 := by
      simp only [List.length_cons]
      omega
    rw [hLength]
    rfl
  have hLast : (id :: length :: body).getD ((id :: length :: body).length - 1) 0 =
      body.getD (length.toNat - 1) 0 := by
    have hLength : (id :: length :: body).length - 1 = length.toNat - 1 + 1 + 1 := by
      simp only [List.length_cons]
      omega
    rw [hLength]
    rfl
  have hFields : ((id :: length :: body).drop 3).dropLast =
      (body.take (length.toNat - 1)).drop 1 := by
    change (body.drop 1).dropLast = _
    rw [List.dropLast_eq_take, List.length_drop, List.drop_take, hBody]
  have hShort : ¬ (id :: length :: body).length < 4 := by
    simp only [List.length_cons]
    omega
  have hLength : ¬ (¬ (2 ≤ length.toNat ∧ length.toNat ≤ 66) ∨
      (id :: length :: body).length ≠ length.toNat + 2) := by
    simp only [List.length_cons]
    omega
  rw [decodeStatusPacket, if_neg hShort]
  change (if ¬ (2 ≤ length.toNat ∧ length.toNat ≤ 66) ∨
      (id :: length :: body).length ≠ length.toNat + 2 then _ else
    if id ≠ expectedId then _ else _) = _
  rw [if_neg hLength, hDropLast, hLast, hFields]
  rfl

theorem decodeStatusPacket_payload {expectedId length : UInt8} {body : List UInt8}
    (hBody : body.length = length.toNat) (hLow : 2 ≤ length.toNat) (hHigh : length.toNat ≤ 66) :
    (match decodeStatusPacket (expectedId :: length :: body) expectedId with
      | .error _ => none
      | .ok status => if status.error ≠ 0 then none else some status.parameters) =
      bodyPayload expectedId length body := by
  rw [decodeStatusPacket_body expectedId hBody hLow hHigh, if_neg (not_not_intro rfl), bodyPayload]
  by_cases hSum : Fetchline.checksum (expectedId :: length :: body.take (length.toNat - 1)) =
      body.getD (length.toNat - 1) 0
  · rw [if_neg (not_not_intro hSum)]
    by_cases hError : body.getD 0 0 = 0
    · rw [if_pos ⟨hSum.symm, hError⟩]
      exact if_neg (not_not_intro hError)
    · rw [if_neg fun h => hError h.2]
      exact if_pos hError
  · rw [if_pos hSum, if_neg fun h => hSum h.1.symm]

/-- The status of the frame that follows a header; the bytes left unread when the
reader returns. -/
def readFrame (expectedId : UInt8) : List UInt8 → Except ServoFailure StatusPacket × List UInt8
  | id :: length :: rest =>
    if ¬ (2 ≤ length.toNat ∧ length.toNat ≤ 66) then (.error .invalidReply, rest)
    else if length.toNat ≤ rest.length then
      match decodeStatusPacket (id :: length :: rest.take length.toNat) expectedId with
      | .error _ => (.error .invalidReply, rest.drop length.toNat)
      | .ok status => (.ok status, rest.drop length.toNat)
    else (.error .timeout, [])
  | _ => (.error .timeout, [])

/-- The first status frame of a reply. -/
def readReply (expectedId : UInt8) (reply : List UInt8) :
    Except ServoFailure StatusPacket × List UInt8 :=
  match headerSearch 128 0 reply with
  | .found frame => readFrame expectedId frame
  | .searching _ _ => (.error .timeout, [])
  | .exhausted => (.error .invalidReply, reply.drop 128)

/-- An error byte makes the status an error of its own. -/
def acceptStatus : Except ServoFailure StatusPacket → Except ServoFailure StsStatus
  | .error failure => .error failure
  | .ok status => if status.error ≠ 0 then .error .reportedError else .ok ⟨status.parameters⟩

theorem readStsStatus_reads (expectedId : UInt8) :
    (readStsStatus expectedId).run.run (uart oracle) wire =
      (acceptStatus (readReply expectedId wire.unread).1,
        { wire with unread := (readReply expectedId wire.unread).2 }) := by
  rw [readStsStatus, servo_bind_run, seekHeader_run, readReply]
  cases headerSearch 128 0 wire.unread with
  | searching left previous => rfl
  | exhausted => rfl
  | found unread =>
    simp only [servo_bind_run, readUartByte_run]
    obtain _ | ⟨id, _ | ⟨length, rest⟩⟩ := unread
    · rfl
    · rfl
    · simp only [readFrame]
      by_cases hRange : 2 ≤ length.toNat ∧ length.toNat ≤ 66
      · rw [if_neg (not_not_intro hRange), if_neg (not_not_intro hRange), servo_bind_run,
          readUartBytes_run]
        simp only
        by_cases hRest : length.toNat ≤ rest.length
        · rw [if_pos hRest, if_pos hRest]
          simp only
          cases decodeStatusPacket (id :: length :: rest.take length.toNat) expectedId with
          | error error => rfl
          | ok status =>
            simp only [acceptStatus]
            split <;> rfl
        · rw [if_neg hRest, if_neg hRest]
          rfl
      · rw [if_pos hRange, if_pos hRange]
        rfl

theorem readFrame_payload (expectedId : UInt8) (frame : List UInt8) :
    (acceptStatus (readFrame expectedId frame).1).toOption.map StsStatus.payload =
      framePayload expectedId frame := by
  obtain _ | ⟨id, _ | ⟨length, rest⟩⟩ := frame
  · rfl
  · rfl
  rw [readFrame, framePayload]
  by_cases hRange : 2 ≤ length.toNat ∧ length.toNat ≤ 66
  · rw [if_neg (not_not_intro hRange)]
    by_cases hRest : length.toNat ≤ rest.length
    · rw [if_pos hRest]
      have hBody : (rest.take length.toNat).length = length.toNat := List.length_take_of_le hRest
      rcases eq_or_ne id expectedId with rfl | hId
      · rw [if_pos ⟨rfl, hRange, hRest⟩, ← decodeStatusPacket_payload hBody hRange.1 hRange.2]
        cases decodeStatusPacket (id :: length :: rest.take length.toNat) id with
        | error error => rfl
        | ok status =>
          simp only [acceptStatus]
          split <;> rfl
      · rw [if_neg fun h => hId h.1, decodeStatusPacket_body expectedId hBody hRange.1 hRange.2,
          if_pos hId]
        rfl
    · rw [if_neg hRest, if_neg fun h => hRest h.2.2]
      rfl
  · rw [if_pos hRange, if_neg fun h => hRange h.2.1]
    rfl

theorem readReply_payload (expectedId : UInt8) (reply : List UInt8) :
    (acceptStatus (readReply expectedId reply).1).toOption.map StsStatus.payload =
      statusPayload expectedId reply := by
  rw [readReply, statusPayload]
  cases headerSearch 128 0 reply with
  | searching left previous => rfl
  | exhausted => rfl
  | found frame => exact readFrame_payload expectedId frame

theorem readStsStatus_run (expectedId : UInt8) :
    ∃ result wire', (readStsStatus expectedId).run.run (uart oracle) wire = (result, wire') ∧
      wire'.packets = wire.packets ∧
      result.toOption.map StsStatus.payload = statusPayload expectedId wire.unread :=
  ⟨_, _, readStsStatus_reads oracle wire expectedId, rfl, readReply_payload expectedId wire.unread⟩

theorem concludeTransaction_run (H : Handler BusOp BusOp.Reply Wire)
    (hObserve : ∀ wire observation, H wire (.observe observation) = ((), wire))
    (transaction : Servo StsStatus) :
    (concludeTransaction transaction).run.run H wire = transaction.run.run H wire := by
  change (transaction.run >>= _).run H wire = _
  rw [run_bind]
  rcases transaction.run.run H wire with ⟨failure | status, wire'⟩
  · change (_, (H wire' (.observe _)).2) = _
    rw [hObserve]
  · change (_, (H wire' (.observe _)).2) = _
    rw [hObserve]

/-- Short packets always fit the buffer. -/
theorem sendStsPacket_eq (id instruction : UInt8) {parameters : List UInt8}
    (hShort : parameters.length ≤ 10) :
    sendStsPacket id instruction parameters = concludeTransaction (do
      Fetchline.writeAll (instructionPacket id instruction parameters)
      readStsStatus id) := by
  rw [sendStsPacket, encodeInstructionPacket_fits _ _ _ _ (by omega) (by simpa using by omega)]
  have hPacket : (instructionPacket id instruction parameters ++
      (List.replicate 16 (0 : UInt8)).drop (parameters.length + 6)).take (parameters.length + 6) =
      instructionPacket id instruction parameters := by
    rw [← instructionPacket_length id instruction parameters, List.take_left]
  simp only [hPacket]

theorem sendStsPacket_run (id instruction : UInt8) {parameters : List UInt8}
    (hShort : parameters.length ≤ 10) :
    ∃ result wire', (sendStsPacket id instruction parameters).run.run (uart oracle) wire =
        (result, wire') ∧
      wire'.packets = wire.packets ++ [instructionPacket id instruction parameters] ∧
      result.toOption.map StsStatus.payload = statusPayload id
        (oracle (wire.packets ++ [instructionPacket id instruction parameters])) := by
  rw [sendStsPacket_eq id instruction hShort, concludeTransaction_run wire _ fun _ _ => rfl,
    servo_bind_run]
  exact readStsStatus_run oracle (wire.write oracle (instructionPacket id instruction parameters)) id

variable {σ : Type} (H : Handler NetOp NetOp.Reply σ)

/-- What a bridge program ends with, the connection after it, and the state of
the environment. -/
def outcome {α : Type} (q : Bridge α) (c : BridgeConnection) (s : σ) :
    (Except String α × BridgeConnection) × σ := (q.run.run c).run H s

theorem outcome_bind {α β : Type} (q : Bridge α) (g : α → Bridge β) (c : BridgeConnection) (s : σ) :
    outcome H (q >>= g) c s =
      match outcome H q c s with
      | ((.ok a, c'), s') => outcome H (g a) c' s'
      | ((.error error, c'), s') => ((.error error, c'), s') := by
  unfold outcome
  rw [ExceptT.run_bind, StateT.run_bind, run_bind]
  rcases (q.run.run c).run H s with ⟨⟨error | a, c'⟩, s'⟩ <;> rfl

theorem outcome_isController (c : BridgeConnection) (s : σ) :
    outcome H isController c s = ((.ok (c.transport = .controller), c), s) := rfl

variable (c : BridgeConnection)

theorem rawStream_outcome (s : σ) (hRaw : c.transport = .debugRaw) :
    outcome H rawStream c s = ((.ok (), c), s) := by
  rw [rawStream, outcome_bind, outcome_isController, hRaw]
  rfl

theorem readExactWithTimeout_outcome (count : Nat) :
    outcome (tunnel oracle) (readExactWithTimeout count) c wire =
      if h : count ≤ wire.unread.length then
        ((.ok ⟨wire.unread.take count, List.length_take_of_le h⟩, c),
          { wire with unread := wire.unread.drop count })
      else ((.error "Timed out waiting for an STS servo reply", c), { wire with unread := [] }) := by
  have hRead : outcome (tunnel oracle) (readExact count) c wire =
      if h : count ≤ wire.unread.length then
        ((.ok (.done ⟨wire.unread.take count, List.length_take_of_le h⟩), c),
          { wire with unread := wire.unread.drop count })
      else ((.ok .timedOut, c), { wire with unread := [] }) := by
    change (((.ok (tunnel oracle wire (.readExact count)).1, c),
      (tunnel oracle wire (.readExact count)).2) : (Except String _ × BridgeConnection) × Wire) = _
    rw [tunnel]
    split <;> rfl
  rw [readExactWithTimeout, outcome_bind, hRead]
  by_cases h : count ≤ wire.unread.length
  · rw [dif_pos h, dif_pos h]
    rfl
  · rw [dif_neg h, dif_neg h]
    rfl

theorem findHeader_outcome (n : Nat) (previous : UInt8) :
    outcome (tunnel oracle) (findHeader n previous) c wire =
      match headerSearch n previous wire.unread with
      | .found unread => ((.ok (), c), { wire with unread })
      | .searching _ _ =>
        ((.error "Timed out waiting for an STS servo reply", c), { wire with unread := [] })
      | .exhausted =>
        ((.error "Could not find an STS response header", c),
          { wire with unread := wire.unread.drop n }) := by
  induction n generalizing previous wire with
  | zero => rfl
  | succ n ih =>
    rw [findHeader, outcome_bind, readExactWithTimeout_outcome]
    obtain ⟨packets, _ | ⟨byte, unread⟩⟩ := wire
    · rfl
    · have hOne : 1 ≤ (byte :: unread).length := Nat.le_add_left 1 unread.length
      simp only [dif_pos hOne, headerSearch]
      change outcome (tunnel oracle) (if previous = 0xff ∧ byte = 0xff then pure () else
        findHeader n byte) c { packets, unread } = _
      by_cases hHeader : previous = 0xff ∧ byte = 0xff
      · rw [if_pos hHeader, if_pos hHeader]
        rfl
      · rw [if_neg hHeader, if_neg hHeader, ih]
        rfl

/-- What the host makes of a reply with this payload when it asks for `n` bytes. -/
def HostReads (payload : Option (List UInt8)) (n : Nat) : Except String (List UInt8) → Prop
  | .ok bytes => payload = some bytes ∧ bytes.length = n
  | .error error => (∀ bytes ∈ payload, bytes.length ≠ n) ∧ connectionIsUsableAfter error = true

/-- How the errors start that do not report a broken connection. -/
def usableStarts : List String := ["S", "MCU J", "Motor", "Position", "Torque", "At most",
  "Could not find", "Timed out waiting for an S"]

theorem usableStarts_differ : ∀ start ∈ usableStarts, ∀ text ∈ brokenConnectionPrefixes,
    ¬ start.toList <+: text.toList ∧ ¬ text.toList <+: start.toList := by decide +kernel

theorem usable_of_start (start : String) {error : String} (hStart : start ∈ usableStarts)
    (h : start.toList <+: error.toList) : connectionIsUsableAfter error = true := by
  rw [connectionIsUsableAfter, Bool.not_eq_true', List.any_eq_false]
  intro text hText hPrefix
  obtain ⟨hStartFirst, hTextFirst⟩ := usableStarts_differ start hStart text hText
  obtain hLonger | hShorter :=
    List.prefix_or_prefix_of_prefix h (List.isPrefixOf_iff_prefix.mp hPrefix)
  · exact hStartFirst hLonger
  · exact hTextFirst hShorter

theorem usable_of_S {error : String} (h : "S".toList <+: error.toList) :
    connectionIsUsableAfter error = true :=
  usable_of_start "S" (by simp [usableStarts]) h

theorem prefix_append {start : List Char} {text : String} (h : start <+: text.toList)
    (rest : String) : start <+: (text ++ rest).toList := by
  rw [String.toList_append]
  exact h.trans (List.prefix_append _ _)

theorem usable_timeout :
    connectionIsUsableAfter "Timed out waiting for an STS servo reply" = true :=
  usable_of_start "Timed out waiting for an S" (by simp [usableStarts]) ⟨_, rfl⟩

theorem usable_noHeader : connectionIsUsableAfter "Could not find an STS response header" = true :=
  usable_of_start "Could not find" (by simp [usableStarts]) ⟨_, rfl⟩

theorem checksumForStatus_eq (id length : UInt8) (fields : List UInt8) :
    checksumForStatus id length fields = Fetchline.checksum (id :: length :: fields) := by
  simp [checksumForStatus, Fetchline.checksum]

theorem checkStatusBody_reads (n : Nat) (id length : UInt8) (body : List UInt8) :
    HostReads (bodyPayload id length body) n (checkStatusBody n id length body) := by
  rw [checkStatusBody, checksumForStatus_eq, bodyPayload]
  by_cases hSum : body.getD (length.toNat - 1) 0 =
      Fetchline.checksum (id :: length :: body.take (length.toNat - 1))
  · rw [if_neg (not_not_intro hSum)]
    by_cases hError : body.getD 0 0 = 0
    · simp only [if_neg (not_not_intro hError), if_pos (And.intro hSum hError)]
      by_cases hLength : ((body.take (length.toNat - 1)).drop 1).length = n
      · rw [if_neg (not_not_intro hLength)]
        exact ⟨rfl, hLength⟩
      · rw [if_pos hLength]
        refine ⟨fun bytes hBytes => Option.some.inj hBytes ▸ hLength, ?_⟩
        exact usable_of_S (prefix_append (prefix_append (prefix_append (prefix_append
          (prefix_append ⟨_, rfl⟩ _) _) _) _) _)
    · simp only [if_pos hError, if_neg fun h => hError (And.right h)]
      refine ⟨nofun, ?_⟩
      exact usable_of_S (prefix_append (prefix_append (prefix_append ⟨_, rfl⟩ _) _) _)
  · rw [if_pos hSum, if_neg fun h => hSum h.1]
    exact ⟨nofun, usable_of_S ⟨_, rfl⟩⟩

theorem readStatusBody_outcome (expectedId : UInt8) (n : Nat) (id length : UInt8) :
    ∃ result wire', outcome (tunnel oracle) (readStatusBody expectedId n id length) c wire =
        ((result, c), wire') ∧
      wire'.packets = wire.packets ∧
      HostReads (framePayload expectedId (id :: length :: wire.unread)) n result := by
  rw [readStatusBody, framePayload]
  by_cases hId : id = expectedId
  · rw [if_neg (not_not_intro hId)]
    by_cases hRange : 2 ≤ length.toNat ∧ length.toNat ≤ 66
    · rw [if_neg (not_not_intro hRange), outcome_bind, readExactWithTimeout_outcome]
      by_cases hRest : length.toNat ≤ wire.unread.length
      · rw [dif_pos hRest, if_pos ⟨hId, hRange, hRest⟩]
        exact ⟨_, _, rfl, rfl, checkStatusBody_reads n id length _⟩
      · rw [dif_neg hRest, if_neg fun h => hRest h.2.2]
        exact ⟨_, _, rfl, rfl, nofun, usable_timeout⟩
    · rw [if_pos hRange, if_neg fun h => hRange h.2.1]
      exact ⟨_, _, rfl, rfl, nofun, usable_of_S (prefix_append (prefix_append ⟨_, rfl⟩ _) _)⟩
  · rw [if_pos hId, if_neg fun h => hId h.1]
    exact ⟨_, _, rfl, rfl, nofun, usable_of_S (prefix_append (prefix_append (prefix_append
      (prefix_append ⟨_, rfl⟩ _) _) _) _)⟩

theorem readStatus_outcome (hRaw : c.transport = .debugRaw) (expectedId : UInt8) (n : Nat) :
    ∃ result wire', outcome (tunnel oracle) (readStatus expectedId n) c wire = ((result, c), wire') ∧
      wire'.packets = wire.packets ∧ HostReads (statusPayload expectedId wire.unread) n result := by
  rw [readStatus, outcome_bind, rawStream_outcome _ c wire hRaw]
  simp only
  rw [outcome_bind, findHeader_outcome, statusPayload]
  cases headerSearch 128 0 wire.unread with
  | searching left previous => exact ⟨_, _, rfl, rfl, nofun, usable_timeout⟩
  | exhausted => exact ⟨_, _, rfl, rfl, nofun, usable_noHeader⟩
  | found unread =>
    simp only [outcome_bind, readExactWithTimeout_outcome]
    obtain _ | ⟨id, _ | ⟨length, rest⟩⟩ := unread
    · exact ⟨_, _, rfl, rfl, nofun, usable_timeout⟩
    · exact ⟨_, _, rfl, rfl, nofun, usable_timeout⟩
    · have hTwo : 2 ≤ (id :: length :: rest).length := Nat.le_add_left 2 rest.length
      simp only [dif_pos hTwo]
      exact readStatusBody_outcome oracle { wire with unread := rest } c expectedId n id length

theorem writePacket_outcome (hRaw : c.transport = .debugRaw) (id instruction : UInt8)
    {parameters : List UInt8} (hShort : parameters.length ≤ 10) :
    outcome (tunnel oracle) (writePacket id instruction parameters) c wire =
      ((.ok (), c), wire.write oracle (instructionPacket id instruction parameters)) := by
  have hPacket : Host.stsHeader ++ [id, UInt8.ofNat (parameters.length + 2), instruction] ++
      parameters ++ [Host.checksum ((Host.stsHeader ++ [id, UInt8.ofNat (parameters.length + 2),
        instruction] ++ parameters).drop 2)] = instructionPacket id instruction parameters := rfl
  rw [writePacket, if_neg (by omega), outcome_bind, rawStream_outcome _ c wire hRaw, hPacket]
  rfl

end Fetchline.Modes
