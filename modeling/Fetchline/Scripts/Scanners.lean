import Fetchline.Modes.Scan
import Fetchline.Scripts.UsbScan

/-!
# The USB scanner and the firmware's scan

Both ask the same servos with the same packets, and tell a status from other bytes in their
own ways.
-/

namespace Fetchline.Scanner

open Effects Effects.Program Bounded Modes

theorem pingPacket_eq (servoId : UInt8) : pingPacket servoId = Modes.pingPacket servoId := by
  rw [pingPacket, checksum_eq, UInt8.ofNat_toNat]
  rfl

theorem findHeader_of_search {n : Nat} {previous : UInt8} {bytes rest : List UInt8}
    (h : headerSearch n previous bytes = .found rest) :
    ∃ k, findHeader (previous :: bytes) = some k ∧
      (previous :: bytes).drop k = 0xff :: 0xff :: rest := by
  induction bytes generalizing n previous with
  | nil => cases n <;> cases h
  | cons byte bytes ih =>
    cases n with
    | zero => cases h
    | succ n =>
      rw [headerSearch] at h
      rw [findHeader]
      by_cases hHeader : previous = 0xff ∧ byte = 0xff
      · rw [if_pos hHeader] at h ⊢
        obtain ⟨rfl, rfl⟩ := hHeader
        exact ⟨0, rfl, by rw [Search.found.inj h]; rfl⟩
      · rw [if_neg hHeader] at h ⊢
        obtain ⟨k, hFound, hDrop⟩ := ih h
        exact ⟨k + 1, by rw [hFound]; rfl, hDrop⟩

theorem findHeader_of_first {bytes rest : List UInt8} (h : headerSearch 128 0 bytes = .found rest) :
    ∃ k, findHeader bytes = some k ∧ bytes.drop k = 0xff :: 0xff :: rest := by
  obtain ⟨k, hFound, hDrop⟩ := findHeader_of_search h
  cases bytes with
  | nil => cases h
  | cons byte bytes =>
    rw [findHeader, if_neg (by simp)] at hFound
    obtain ⟨k', hFound', rfl⟩ := Option.map_eq_some_iff.mp hFound
    exact ⟨k', hFound', hDrop⟩

theorem isStatus_statusBody (id error : UInt8) {parameters : List UInt8}
    (h : parameters.length ≤ 64) :
    IsStatus id error (statusBody id error parameters ++
      [Fetchline.checksum (statusBody id error parameters)]) :=
  ⟨parameters, h, (statusFrame_eq id error parameters).symm⟩

/-- The first status that the firmware finds is the one that the script returns. -/
theorem extractStatus_of_firstStatus {id error : UInt8} {bytes : List UInt8}
    (h : FirstStatus id error bytes) : (extractStatus id.toNat bytes).1 = some error := by
  obtain ⟨parameters, rest, hLength, hSearch⟩ := h
  obtain ⟨k, hFound, hDrop⟩ := findHeader_of_first hSearch
  have hRound := extractRound_status (isStatus_statusBody id error hLength) rest
  rw [extractRound_header, ← hDrop] at hRound
  rw [extractStatus_eq, extractRound, hFound]
  simp only [hRound]

theorem firstStatus_statusFrame (id error : UInt8) {parameters : List UInt8}
    (h : parameters.length ≤ 64) : FirstStatus id error (Modes.statusFrame id error parameters) :=
  ⟨parameters, [], h, by rw [List.append_nil]; rfl⟩

theorem extractStatus_single {id : UInt8} {reply : List UInt8} (h : SingleStatus id reply)
    (error : UInt8) :
    (extractStatus id.toNat reply).1 = some error ↔ FirstStatus id error reply := by
  refine ⟨fun hStatus => ?_, extractStatus_of_firstStatus⟩
  obtain rfl | ⟨error', parameters, hLength, rfl⟩ := h
  · cases hStatus
  · have hFirst := firstStatus_statusFrame id error' hLength
    rw [extractStatus_of_firstStatus hFirst] at hStatus
    rwa [← Option.some.inj hStatus]

theorem mem_addresses {startId endId : UInt8} (hRange : IsScanRange startId endId) (id : UInt8) :
    id ∈ addresses startId endId ↔ startId ≤ id ∧ id ≤ endId := by
  have hEnd : endId.toNat ≤ 253 := UInt8.le_iff_toNat_le.mp hRange.2.2
  have hOrder : startId.toNat ≤ endId.toNat := UInt8.le_iff_toNat_le.mp hRange.2.1
  rw [addresses, List.mem_map, UInt8.le_iff_toNat_le, UInt8.le_iff_toNat_le]
  constructor
  · rintro ⟨n, hMem, rfl⟩
    rw [List.mem_range'_1] at hMem
    rw [UInt8.toNat_ofNat_of_lt' (by change n < 256; omega)]
    omega
  · rintro ⟨hLow, hHigh⟩
    exact ⟨id.toNat, List.mem_range'_1.mpr (by omega), UInt8.ofNat_toNat⟩

section Bus

variable (replies : UInt8 → List UInt8)

theorem found_single (h : ∀ id, SingleStatus id (replies id)) (ids : List UInt8) :
    found replies ids [] = ids.filter fun id => accepts id (replies id) := by
  induction ids with
  | nil => rfl
  | cons id ids ih =>
    rw [found, List.nil_append, leftBehind_fits (h id).fitsProbe, ih, List.filter_cons]
    split <;> rfl

variable {replies} {startId endId : UInt8} {s : ScanState}

theorem foundIds_of_heard {servoIds : List UInt8} (h : (usbScan servoIds).Reachable s)
    (hFinished : s.phase = .finished) (hHeard : ∀ p ∈ s.probes, p.inTime = replies p.servoId) :
    s.foundIds = servoIds.filter (fun id => (extractStatus id.toNat (replies id)).1 = some 0) ∧
      (∀ id error, (id, error) ∈ s.statusErrors ↔
        id ∈ servoIds ∧ error ≠ 0 ∧ (extractStatus id.toNat (replies id)).1 = some error) ∧
      s.sent = servoIds.flatMap pingPacket := by
  obtain ⟨hAccounts, -, hNone⟩ := sound_reachable h
  rw [concluded_of_none (by rw [hFinished]; rfl), hFinished] at hAccounts
  have hOrder : s.probes.map Probe.servoId = servoIds := by
    refine Eq.trans ?_ hAccounts.order
    rw [hNone hFinished, Phase.pinged, List.append_nil, List.append_nil]
  have hStatus : ∀ p ∈ s.probes, p.status = (extractStatus p.servoId.toNat (replies p.servoId)).1 := by
    intro p hMem
    rw [← hHeard p hMem]
    exact hAccounts.heard p hMem
  refine ⟨?_, ?_, ?_⟩
  · rw [hAccounts.foundIds, ← hOrder, List.filter_map]
    refine congrArg _ (List.filter_congr fun p hMem => ?_)
    rw [hStatus p hMem]
    rfl
  · intro id error
    rw [hAccounts.statusErrors, List.mem_filterMap, ← hOrder]
    constructor
    · rintro ⟨p, hMem, hError⟩
      obtain ⟨error', hFilter, hPair⟩ := Option.map_eq_some_iff.mp hError
      obtain ⟨rfl, rfl⟩ := Prod.mk.inj hPair
      obtain ⟨hSome, hNonzero⟩ := Option.filter_eq_some_iff.mp hFilter
      exact ⟨List.mem_map_of_mem hMem, of_decide_eq_true hNonzero, by rw [← hStatus p hMem, hSome]⟩
    · rintro ⟨hId, hNonzero, hSome⟩
      obtain ⟨p, hMem, rfl⟩ := List.mem_map.mp hId
      refine ⟨p, hMem, ?_⟩
      rw [Probe.statusError, hStatus p hMem, hSome]
      simp [hNonzero]
  · have hSent := hAccounts.sent
    rw [Phase.unsent, Phase.pinged, List.append_nil, List.append_nil, hOrder] at hSent
    exact hSent

/-- On a bus where each servo answers with one status or not at all, the script finds the
servos that the firmware finds, after the same bytes on the bus, and lists beside them those
that the firmware leaves out for the error in their status. -/
theorem scanners_agree (hRange : IsScanRange startId endId)
    (hReplies : ∀ id, SingleStatus id (replies id))
    (h : (usbScan (addresses startId endId)).Reachable s) (hFinished : s.phase = .finished)
    (hHeard : ∀ p ∈ s.probes, p.inTime = replies p.servoId) (packets : List (List UInt8)) :
    ∃ ids sent, (scanServos startId endId).run.run (line replies) ⟨packets, []⟩ =
        (.ok ids, ⟨packets ++ sent, []⟩) ∧
      s.foundIds = ids.toList ∧ s.sent = sent.flatten ∧
      ∀ id error, (id, error) ∈ s.statusErrors ↔
        (startId ≤ id ∧ id ≤ endId) ∧ error ≠ 0 ∧ FirstStatus id error (replies id) := by
  obtain ⟨hFound, hErrors, hSent⟩ := foundIds_of_heard h hFinished hHeard
  have hNotRefused := (isScanRange_iff startId endId).mp hRange
  obtain ⟨ids, hScan, hIds⟩ :=
    scanFrom_line replies ⟨packets, []⟩ _ .empty (scanRange_ascending hNotRefused)
  change _ = (_, Wire.mk _ (carried replies (addresses startId endId) [])) at hScan
  change ids.toList = [] ++ found replies (addresses startId endId) [] at hIds
  rw [carried_fits replies fun id _ => (hReplies id).fitsProbe] at hScan
  rw [List.nil_append, found_single replies hReplies] at hIds
  refine ⟨ids, (addresses startId endId).map Modes.pingPacket, ?_, ?_, ?_, ?_⟩
  · rw [scanServos, if_neg hNotRefused]
    exact hScan
  · rw [hFound, hIds]
    refine List.filter_congr fun id _ => ?_
    rw [Bool.eq_iff_iff, decide_eq_true_iff, extractStatus_single (hReplies id), accepts_iff]
  · rw [hSent, List.flatMap_def]
    exact congrArg List.flatten (List.map_congr_left fun id _ => pingPacket_eq id)
  · intro id error
    rw [hErrors, extractStatus_single (hReplies id), mem_addresses hRange]

end Bus

/-- Servo 1 is well, servo 2 does not answer, and servo 3 reports an overload. -/
def threeReplies (id : UInt8) : List UInt8 :=
  if id = 1 then Modes.statusFrame 1 0 [] else if id = 3 then Modes.statusFrame 3 0x20 [] else []

theorem threeReplies_single (id : UInt8) : SingleStatus id (threeReplies id) := by
  rw [threeReplies]
  split
  · rename_i hId
    exact .inr ⟨0, [], by decide, by rw [hId]⟩
  split
  · rename_i hId
    exact .inr ⟨0x20, [], by decide, by rw [hId]⟩
  · exact .inl rfl

def threeServos : List Wait :=
  [.writes 6, .reads [0xff, 0xff], .reads [1, 2, 0, 0xfc], .quiet, .writes 6, .quiet, .quiet,
    .writes 6, .reads [0xff, 0xff, 3, 2, 0x20, 0xda], .quiet]

def scannedThree : ScanState :=
  (usbScan (addresses 1 3)).run (usbScan (addresses 1 3)).init threeServos

theorem scanners_agree_three :
    ∃ ids sent, (scanServos 1 3).run.run (line threeReplies) ⟨[], []⟩ =
        (.ok ids, ⟨[] ++ sent, []⟩) ∧
      [1] = ids.toList ∧ scannedThree.sent = sent.flatten ∧
        scannedThree.statusErrors = [(3, 0x20)] := by
  obtain ⟨ids, sent, hRun, hFound, hSent, -⟩ := scanners_agree (by decide) threeReplies_single
    (Transition.Machine.reachable_run threeServos : (usbScan (addresses 1 3)).Reachable scannedThree)
    (by decide +kernel) (by decide +kernel) []
  refine ⟨ids, sent, hRun, ?_, hSent, by decide +kernel⟩
  rw [← hFound]
  decide +kernel

end Fetchline.Scanner
