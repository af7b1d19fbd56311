import Fetchline.Modes.Transaction

/-! # A status frame behind noise

What the status readers of both programs make of the bytes they find, those they
leave unread included.
-/

namespace Fetchline.Modes

open Effects Effects.Program Host

variable (oracle : Oracle) (wire : Wire)

def statusBody (id error : UInt8) (parameters : List UInt8) : List UInt8 :=
  [id, UInt8.ofNat (parameters.length + 2), error] ++ parameters

def statusFrame (id error : UInt8) (parameters : List UInt8) : List UInt8 :=
  stsHeader ++ (statusBody id error parameters ++
    [Fetchline.checksum (statusBody id error parameters)])

theorem length_byte {parameters : List UInt8} (h : parameters.length ≤ 64) :
    (UInt8.ofNat (parameters.length + 2)).toNat = parameters.length + 2 :=
  UInt8.toNat_ofNat_of_lt' (Nat.lt_of_le_of_lt (Nat.add_le_add_right h 2) (by decide))

theorem decodeStatusPacket_statusBody (id error : UInt8) {parameters : List UInt8}
    (h : parameters.length ≤ 64) :
    decodeStatusPacket (statusBody id error parameters ++
      [Fetchline.checksum (statusBody id error parameters)]) id = .ok ⟨error, parameters⟩ := by
  have hBody : (error :: (parameters ++ [Fetchline.checksum (statusBody id error parameters)])).length =
      (UInt8.ofNat (parameters.length + 2)).toNat := by
    rw [length_byte h]
    simp
  refine (decodeStatusPacket_body id hBody ?_ ?_).trans ?_
  · rw [length_byte h]
    omega
  · rw [length_byte h]
    omega
  · rw [length_byte h, if_neg (not_not_intro rfl)]
    simp [statusBody]

theorem readFrame_statusFrame (id error : UInt8) {parameters : List UInt8} (rest : List UInt8)
    (h : parameters.length ≤ 64) :
    readFrame id (statusBody id error parameters ++
      [Fetchline.checksum (statusBody id error parameters)] ++ rest) =
        (.ok ⟨error, parameters⟩, rest) := by
  have hRange : 2 ≤ (UInt8.ofNat (parameters.length + 2)).toNat ∧
      (UInt8.ofNat (parameters.length + 2)).toNat ≤ 66 := by
    rw [length_byte h]
    omega
  have hBody : (UInt8.ofNat (parameters.length + 2)).toNat =
      (error :: (parameters ++ [Fetchline.checksum (statusBody id error parameters)])).length := by
    rw [length_byte h]
    simp
  have hDecoded : decodeStatusPacket (id :: UInt8.ofNat (parameters.length + 2) ::
      (error :: (parameters ++ [Fetchline.checksum (statusBody id error parameters)]))) id =
        .ok ⟨error, parameters⟩ := decodeStatusPacket_statusBody id error h
  change readFrame id (id :: UInt8.ofNat (parameters.length + 2) :: (error :: (parameters ++
    [Fetchline.checksum (statusBody id error parameters)]) ++ rest)) = _
  rw [readFrame, if_neg (not_not_intro hRange), hBody, if_pos (by simp), List.take_left,
    List.drop_left, hDecoded]

/-- No two consecutive bytes that look like a header. -/
def NoHeader (bytes : List UInt8) : Prop := bytes.IsChain fun a b => ¬ (a = 0xff ∧ b = 0xff)

theorem headerSearch_noise {noise : List UInt8} (rest : List UInt8) {n : Nat} {previous : UInt8}
    (hNoise : NoHeader (previous :: noise)) (hRoom : noise.length + 2 ≤ n) :
    headerSearch n previous (noise ++ 0xff :: 0xff :: rest) =
      .found (if (previous :: noise).getLast? = some 0xff then 0xff :: rest else rest) := by
  induction noise generalizing n previous with
  | nil =>
    obtain ⟨n, rfl⟩ := Nat.exists_eq_add_of_le' hRoom
    simp only [List.nil_append, List.length_nil, Nat.zero_add, headerSearch, List.getLast?_singleton,
      Option.some.injEq, and_true]
    split <;> rfl
  | cons byte noise ih =>
    obtain ⟨n, rfl⟩ : ∃ m, n = m + 1 := ⟨n - 1, by omega⟩
    obtain ⟨hHeader, hNoise⟩ := List.isChain_cons_cons.mp hNoise
    rw [List.length_cons] at hRoom
    rw [List.cons_append, headerSearch, if_neg hHeader, ih hNoise (by omega), List.getLast?_cons_cons]

/-- The reader takes a noise byte `0xff` for the first half of the header, and so
the second half of the header for the id. -/
theorem readFrame_shifted (id : UInt8) (rest : List UInt8) (status : StatusPacket) :
    (readFrame id (0xff :: id :: rest)).1 ≠ .ok status := by
  rw [readFrame]
  split
  · simp
  · rename_i hRange
    obtain ⟨hLow, hHigh⟩ := not_not.mp hRange
    split
    · rename_i hRest
      have hId : (0xff : UInt8) ≠ id := by
        rintro rfl
        exact absurd hHigh (by decide)
      rw [decodeStatusPacket_body id (List.length_take_of_le hRest) hLow hHigh, if_pos hId]
      simp
    · simp

theorem framePayload_shifted (id : UInt8) (rest : List UInt8) :
    framePayload id (0xff :: id :: rest) = none := by
  rw [framePayload, if_neg]
  rintro ⟨rfl, ⟨-, hHigh⟩, -⟩
  exact absurd hHigh (by decide)

theorem checkStatusBody_statusBody (id : UInt8) {parameters : List UInt8}
    (h : parameters.length ≤ 64) :
    checkStatusBody parameters.length id (UInt8.ofNat (parameters.length + 2))
      (0 :: (parameters ++ [Fetchline.checksum (statusBody id 0 parameters)])) = .ok parameters := by
  have hFields : (0 :: (parameters ++ [Fetchline.checksum (statusBody id 0 parameters)])).take
      (parameters.length + 1) = 0 :: parameters := by
    rw [List.take_succ_cons, List.take_left]
  simp only [checkStatusBody, length_byte h, show parameters.length + 2 - 1 =
    parameters.length + 1 from rfl, hFields, checksumForStatus_eq]
  simp [statusBody]

theorem readStatusBody_frame {c : BridgeConnection} (id : UInt8) {parameters rest : List UInt8}
    (h : parameters.length ≤ 64) (hUnread : wire.unread =
      0 :: (parameters ++ [Fetchline.checksum (statusBody id 0 parameters)]) ++ rest) :
    outcome (tunnel oracle) (readStatusBody id parameters.length id
      (UInt8.ofNat (parameters.length + 2))) c wire =
        ((.ok parameters, c), { wire with unread := rest }) := by
  have hRange : 2 ≤ (UInt8.ofNat (parameters.length + 2)).toNat ∧
      (UInt8.ofNat (parameters.length + 2)).toNat ≤ 66 := by
    rw [length_byte h]
    omega
  have hBody : (UInt8.ofNat (parameters.length + 2)).toNat =
      (0 :: (parameters ++ [Fetchline.checksum (statusBody id 0 parameters)])).length := by
    rw [length_byte h]
    simp
  have hChecked := checkStatusBody_statusBody id h
  rw [readStatusBody, if_neg (not_not_intro rfl), if_neg (not_not_intro hRange), outcome_bind,
    readExactWithTimeout_outcome, dif_pos (by rw [hUnread, hBody]; simp)]
  simp only [hUnread, hBody, List.take_left, List.drop_left]
  change ((checkStatusBody _ _ _ _, _), _) = _
  rw [hChecked]

theorem readStatus_frame {c : BridgeConnection} (hRaw : c.transport = .debugRaw) (id : UInt8)
    {parameters rest : List UInt8} (h : parameters.length ≤ 64)
    (hFound : headerSearch 128 0 wire.unread = .found (statusBody id 0 parameters ++
      [Fetchline.checksum (statusBody id 0 parameters)] ++ rest)) :
    outcome (tunnel oracle) (readStatus id parameters.length) c wire =
      ((.ok parameters, c), { wire with unread := rest }) := by
  have hTwo : 2 ≤ (statusBody id 0 parameters ++
      [Fetchline.checksum (statusBody id 0 parameters)] ++ rest).length := by
    simp only [statusBody, List.length_append, List.length_cons]
    omega
  rw [readStatus, outcome_bind, rawStream_outcome _ c wire hRaw]
  simp only
  rw [outcome_bind, findHeader_outcome, hFound]
  simp only [outcome_bind, readExactWithTimeout_outcome, dif_pos hTwo]
  exact readStatusBody_frame oracle _ id h rfl

theorem noHeader_cons_zero {noise : List UInt8} (h : NoHeader noise) : NoHeader (0 :: noise) := by
  cases noise with
  | nil => exact .singleton 0
  | cons byte noise => exact List.isChain_cons_cons.mpr ⟨fun hHeader => absurd hHeader.1 (by decide), h⟩

theorem getLast?_cons_zero (noise : List UInt8) :
    (0 :: noise).getLast? = some 0xff ↔ noise.getLast? = some 0xff := by
  cases noise with
  | nil => decide
  | cons byte noise => rw [List.getLast?_cons_cons]

theorem headerSearch_frame {noise : List UInt8} (hNoise : NoHeader noise)
    (hRoom : noise.length ≤ 126) (id : UInt8) (parameters rest : List UInt8) :
    headerSearch 128 0 (noise ++ (statusFrame id 0 parameters ++ rest)) =
      .found (if noise.getLast? = some 0xff then 0xff :: (statusBody id 0 parameters ++
          [Fetchline.checksum (statusBody id 0 parameters)] ++ rest)
        else statusBody id 0 parameters ++
          [Fetchline.checksum (statusBody id 0 parameters)] ++ rest) := by
  refine (headerSearch_noise _ (noHeader_cons_zero hNoise) (by omega)).trans ?_
  simp only [getLast?_cons_zero]
  rfl

/-- Noise is skipped by both readers, unless its last byte is `0xff`. -/
theorem status_behind_noise (noise rest parameters : List UInt8) (id : UInt8)
    (packets : List (List UInt8)) (c : BridgeConnection) (hRaw : c.transport = .debugRaw)
    (hNoise : NoHeader noise) (hRoom : noise.length ≤ 126) (hParameters : parameters.length ≤ 64) :
    ((readStsStatus id).run.run (uart oracle)
        ⟨packets, noise ++ (statusFrame id 0 parameters ++ rest)⟩ =
          (.ok ⟨parameters⟩, ⟨packets, rest⟩) ↔ noise.getLast? ≠ some 0xff) ∧
    (outcome (tunnel oracle) (readStatus id parameters.length) c
        ⟨packets, noise ++ (statusFrame id 0 parameters ++ rest)⟩ =
          ((.ok parameters, c), ⟨packets, rest⟩) ↔ noise.getLast? ≠ some 0xff) := by
  have hFound := headerSearch_frame hNoise hRoom id parameters rest
  by_cases hLast : noise.getLast? = some 0xff
  · rw [if_pos hLast] at hFound
    refine ⟨iff_of_false ?_ (not_not_intro hLast), iff_of_false ?_ (not_not_intro hLast)⟩
    · intro hRun
      rw [readStsStatus_reads, readReply] at hRun
      simp only [hFound] at hRun
      have hAccepted := congrArg Prod.fst hRun
      cases hFrame : (readFrame id (0xff :: (statusBody id 0 parameters ++
          [Fetchline.checksum (statusBody id 0 parameters)] ++ rest))).1 with
      | ok status => exact readFrame_shifted id _ status hFrame
      | error failure =>
        rw [hFrame] at hAccepted
        cases hAccepted
    · intro hRun
      obtain ⟨result, wire', hOutcome, -, hReads⟩ := readStatus_outcome oracle
        ⟨packets, noise ++ (statusFrame id 0 parameters ++ rest)⟩ c hRaw id parameters.length
      rw [statusPayload] at hReads
      simp only [hFound] at hReads
      rw [hOutcome] at hRun
      obtain ⟨⟨rfl, -⟩, -⟩ := hRun
      obtain ⟨hPayload, -⟩ := hReads
      have hNone : framePayload id (0xff :: (statusBody id 0 parameters ++
          [Fetchline.checksum (statusBody id 0 parameters)] ++ rest)) = none :=
        framePayload_shifted id _
      rw [hNone] at hPayload
      cases hPayload
  · rw [if_neg hLast] at hFound
    refine ⟨iff_of_true ?_ hLast, iff_of_true ?_ hLast⟩
    · rw [readStsStatus_reads, readReply]
      simp only [hFound, readFrame_statusFrame id 0 rest hParameters]
      rfl
    · exact readStatus_frame oracle _ hRaw id hParameters hFound

theorem status_behind_noise_skipped :
    (readStsStatus 5).run.run (uart fun _ => [])
        ⟨[], [0x00, 0xff, 0x12] ++ (statusFrame 5 0 [0x59, 0x06] ++ [0xaa])⟩ =
      (.ok ⟨[0x59, 0x06]⟩, ⟨[], [0xaa]⟩) ∧
    outcome (tunnel fun _ => []) (readStatus 5 2) ⟨"mcu:3333", .debugRaw, 1⟩
        ⟨[], [0x00, 0xff, 0x12] ++ (statusFrame 5 0 [0x59, 0x06] ++ [0xaa])⟩ =
      ((.ok [0x59, 0x06], ⟨"mcu:3333", .debugRaw, 1⟩), ⟨[], [0xaa]⟩) := by
  have hNoise : NoHeader [0x00, 0xff, 0x12] := by simp [NoHeader]
  obtain ⟨hFirmware, hHost⟩ := status_behind_noise (fun _ => []) [0x00, 0xff, 0x12] [0xaa]
    [0x59, 0x06] 5 [] ⟨"mcu:3333", .debugRaw, 1⟩ rfl hNoise (by decide) (by decide)
  exact ⟨hFirmware.mpr (by decide), hHost.mpr (by decide)⟩

/-- One byte `0xff` of noise before the status of servo 1: neither reader finds it. -/
theorem noise_byte_hides_status :
    NoHeader [0xff] ∧
    (readStsStatus 1).run.run (uart fun _ => []) ⟨[], [0xff] ++ (statusFrame 1 0 [] ++ [])⟩ =
      (.error .invalidReply, ⟨[], [0x02, 0x00, 0xfc]⟩) ∧
    outcome (tunnel fun _ => []) (readStatus 1 0) ⟨"mcu:3333", .debugRaw, 1⟩
        ⟨[], [0xff] ++ (statusFrame 1 0 [] ++ [])⟩ =
      ((.error "STS reply came from servo 255, but servo 1 was addressed",
        ⟨"mcu:3333", .debugRaw, 1⟩), ⟨[], [0x02, 0x00, 0xfc]⟩) := by
  refine ⟨.singleton 0xff, rfl, ?_⟩
  rfl

end Fetchline.Modes
