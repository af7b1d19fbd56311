import Fetchline.Library.Machine
import Fetchline.Scripts.Framing

/-!
# A scan over the USB adapter

`scan` pings one servo after the other. Each of its loops waits for the serial line or for
the clock; what a wait comes to is left to the environment.
-/

namespace Fetchline.Scanner

open Transition

def stsPing : UInt8 := 0x01

def pingPacket (servoId : UInt8) : List UInt8 :=
  let body := [servoId, 2, stsPing]
  [0xff, 0xff] ++ body ++ [UInt8.ofNat (checksum body)]

/-- What came in after one ping: for `read_status`, and after it for `drain_late_bytes`. -/
structure Probe where
  servoId : UInt8
  read : List UInt8
  status : Option UInt8
  drained : List UInt8
deriving DecidableEq

inductive Phase where
  | writing (servoId : UInt8) (payload : List UInt8)
  | reading (servoId : UInt8) (buffer read : List UInt8)
  | draining (probe : Probe)
  | finished
deriving DecidableEq

inductive ScanError where
  | osError
  | timeoutError
  | valueError
deriving DecidableEq

inductive Wait where
  | writes (count : Nat)
  | reads (chunk : List UInt8)
  /-- The deadline has passed, or nothing comes before it. -/
  | quiet
  | raises (error : ScanError)
deriving DecidableEq

/-- `probes`, `sent` and `received` are an observer's. -/
structure ScanState where
  phase : Phase
  left : List UInt8
  foundIds : List UInt8
  statusErrors : List (UInt8 × UInt8)
  error : Option ScanError
  probes : List Probe
  sent : List UInt8
  received : List UInt8
deriving DecidableEq

namespace ScanState

/-- The next round of the loop over the servo IDs. -/
def probeNext (s : ScanState) : ScanState :=
  match s.left with
  | [] => { s with phase := .finished }
  | servoId :: left => { s with phase := .writing servoId (pingPacket servoId), left }

def conclude (s : ScanState) (servoId : UInt8) (read : List UInt8) (status : Option UInt8) :
    ScanState :=
  { s with
    phase := .draining ⟨servoId, read, status, []⟩
    foundIds := if status = some 0 then s.foundIds ++ [servoId] else s.foundIds
    statusErrors := match status with
      | some error => if error = 0 then s.statusErrors else s.statusErrors ++ [(servoId, error)]
      | none => s.statusErrors }

def readChunk (s : ScanState) (servoId : UInt8) (buffer read chunk : List UInt8) : ScanState :=
  if chunk = [] then s
  else
    let s := { s with received := s.received ++ chunk }
    match extractStatus servoId.toNat (buffer ++ chunk) with
    | (some status, _) => s.conclude servoId (read ++ chunk) (some status)
    | (none, buffer) => { s with phase := .reading servoId buffer (read ++ chunk) }

def writeSome (s : ScanState) (servoId : UInt8) (payload : List UInt8) (count : Nat) : ScanState :=
  { s with
    sent := s.sent ++ payload.take count
    phase := if payload.drop count = [] then .reading servoId [] []
      else .writing servoId (payload.drop count) }

def step (s : ScanState) (wait : Wait) : ScanState :=
  if s.error ≠ none then s
  else match s.phase, wait with
    | .finished, _ => s
    | _, .raises error => { s with error := some error }
    | .writing servoId payload, .writes count => s.writeSome servoId payload count
    | .reading servoId buffer read, .reads chunk => s.readChunk servoId buffer read chunk
    | .reading servoId _ read, .quiet => s.conclude servoId read none
    | .draining probe, .reads chunk => { s with
        phase := .draining { probe with drained := probe.drained ++ chunk }
        received := s.received ++ chunk }
    | .draining probe, .quiet => { s with probes := s.probes ++ [probe] }.probeNext
    | _, _ => s

end ScanState

def usbScan (servoIds : List UInt8) : Machine ScanState Wait where
  init := ScanState.probeNext ⟨.finished, servoIds, [], [], none, [], [], []⟩
  step := ScanState.step

theorem extractFrame_settled {expectedId : Int} {buffer rest : List UInt8} {status : UInt8}
    (h : extractFrame expectedId buffer = .returns (some status) rest) (more : List UInt8) :
    extractFrame expectedId (buffer ++ more) = .returns (some status) (rest ++ more) := by
  simp only [extractFrame] at h ⊢
  by_cases hHead : buffer.length < 4
  · rw [if_pos hHead] at h
    cases h
  have hByte : (buffer ++ more).getD 3 0 = buffer.getD 3 0 :=
    List.getD_append _ _ _ _ (by omega)
  rw [if_neg hHead] at h
  rw [if_neg (by rw [List.length_append]; omega), hByte]
  split at h
  · cases h
  rename_i hRange
  rw [if_neg hRange]
  by_cases hFrame : buffer.length < 4 + (buffer.getD 3 0).toNat
  · rw [if_pos hFrame] at h
    cases h
  rw [if_neg hFrame] at h
  rw [if_neg (by rw [List.length_append]; omega), List.take_append_of_le_length (by omega),
    List.drop_append_of_le_length (by omega)]
  split at h
  · cases h
  rename_i hRight
  rw [if_neg hRight]
  obtain ⟨hStatus, rfl⟩ := Round.returns.inj h
  rw [hStatus]

theorem extractRound_settled {expectedId : Int} {buffer rest : List UInt8} {status : UInt8}
    (h : extractRound expectedId buffer = .returns (some status) rest) (more : List UInt8) :
    extractRound expectedId (buffer ++ more) = .returns (some status) (rest ++ more) := by
  rw [extractRound] at h
  cases hFound : findHeader buffer with
  | none =>
    rw [hFound] at h
    cases h
  | some n =>
    rw [hFound] at h
    obtain ⟨hLength, hMore⟩ := findHeader_append hFound more
    rw [extractRound, hMore]
    simp only
    rw [List.drop_append_of_le_length hLength]
    exact extractFrame_settled h more

/-- Bytes behind a status do not change it. -/
theorem extractStatus_settled {expectedId : Int} {buffer rest : List UInt8} {status : UInt8}
    (h : extractStatus expectedId buffer = (some status, rest)) (more : List UInt8) :
    extractStatus expectedId (buffer ++ more) = (some status, rest ++ more) := by
  induction hLength : buffer.length using Nat.strongRecOn generalizing buffer with
  | ind n ih =>
    subst hLength
    rw [extractStatus_eq] at h
    cases hRound : extractRound expectedId buffer with
    | continues shorter =>
      rw [hRound] at h
      rw [extractStatus_eq, extractRound_append hRound more]
      exact ih _ (extractRound_shrinks hRound) h rfl
    | returns found rest' =>
      rw [hRound] at h
      obtain ⟨rfl, rfl⟩ := Prod.mk.inj h
      rw [extractStatus_eq, extractRound_settled hRound more]

/-- What came in before the line was quiet. -/
def Probe.inTime (p : Probe) : List UInt8 :=
  if p.status = none then p.read else p.read ++ p.drained

def Probe.statusError (p : Probe) : Option (UInt8 × UInt8) :=
  (p.status.filter (· ≠ 0)).map fun error => (p.servoId, error)

def Phase.pinged : Phase → List UInt8
  | .writing servoId _ | .reading servoId _ _ => [servoId]
  | .draining _ | .finished => []

def Phase.unsent : Phase → List UInt8
  | .writing _ payload => payload
  | .reading .. | .draining _ | .finished => []

def Phase.read : Phase → List UInt8
  | .reading _ _ read => read
  | .writing .. | .draining _ | .finished => []

def Phase.concluded : Phase → List Probe
  | .draining probe => [probe]
  | .writing .. | .reading .. | .finished => []

def ScanState.concluded (s : ScanState) : List Probe := s.probes ++ s.phase.concluded

/-- Each byte that came in belongs to one probe, whose outcome is decided by the bytes of
that probe alone. -/
structure Accounts (servoIds : List UInt8) (s : ScanState) (probes : List Probe)
    (pinged unsent read : List UInt8) : Prop where
  order : probes.map Probe.servoId ++ (pinged ++ s.left) = servoIds
  sent : s.sent ++ unsent = (probes.map Probe.servoId ++ pinged).flatMap pingPacket
  received : s.received = (probes.flatMap fun p => p.read ++ p.drained) ++ read
  foundIds : s.foundIds = (probes.filter fun p => p.status = some 0).map Probe.servoId
  statusErrors : s.statusErrors = probes.filterMap Probe.statusError
  heard : ∀ p ∈ probes, p.status = (extractStatus p.servoId.toNat p.inTime).1

structure Sound (servoIds : List UInt8) (s : ScanState) : Prop where
  accounts : Accounts servoIds s s.concluded s.phase.pinged s.phase.unsent s.phase.read
  reading : ∀ servoId buffer read, s.phase = .reading servoId buffer read →
    extractStatus servoId.toNat read = (none, buffer)
  finished : s.phase = .finished → s.left = []

section Steps

variable {servoIds : List UInt8} {s : ScanState}

theorem concluded_of_none (h : s.phase.concluded = []) : s.concluded = s.probes := by
  rw [ScanState.concluded, h, List.append_nil]

theorem Accounts.probeNext (h : Accounts servoIds s s.probes [] [] []) :
    Sound servoIds s.probeNext := by
  cases hLeft : s.left with
  | nil =>
    have hNext : s.probeNext = { s with phase := .finished } := by
      rw [ScanState.probeNext, hLeft]
    rw [hNext]
    refine ⟨?_, by simp, fun _ => hLeft⟩
    rw [concluded_of_none rfl]
    exact ⟨h.order, h.sent, h.received, h.foundIds, h.statusErrors, h.heard⟩
  | cons servoId left =>
    have hNext : s.probeNext = { s with phase := .writing servoId (pingPacket servoId), left } := by
      rw [ScanState.probeNext, hLeft]
    have hOrder := h.order
    have hSent := h.sent
    rw [hLeft, List.nil_append] at hOrder
    rw [List.append_nil, List.append_nil] at hSent
    rw [hNext]
    refine ⟨?_, by simp, by simp⟩
    rw [concluded_of_none rfl]
    refine ⟨hOrder, ?_, h.received, h.foundIds, h.statusErrors, h.heard⟩
    change s.sent ++ pingPacket servoId = _
    rw [List.flatMap_append, hSent]
    exact congrArg _ (List.append_nil _).symm

theorem Accounts.conclude {servoId : UInt8} {read : List UInt8} {status : Option UInt8}
    (h : Accounts servoIds s s.probes [servoId] [] read)
    (hStatus : status = (extractStatus servoId.toNat read).1) :
    Sound servoIds (s.conclude servoId read status) := by
  refine ⟨⟨?_, ?_, ?_, ?_, ?_, ?_⟩, by simp [ScanState.conclude], by simp [ScanState.conclude]⟩
  · change (s.probes ++ [Probe.mk servoId read status []]).map Probe.servoId ++ ([] ++ s.left) = _
    rw [List.map_append, List.append_assoc]
    exact h.order
  · change s.sent ++ [] = ((s.probes ++ [Probe.mk servoId read status []]).map _ ++ []).flatMap _
    rw [h.sent, List.map_append, List.append_nil]
    rfl
  · change s.received = ((s.probes ++ [Probe.mk servoId read status []]).flatMap _) ++ []
    rw [h.received, List.flatMap_append, List.append_nil]
    simp
  · change (if status = some 0 then s.foundIds ++ [servoId] else s.foundIds) =
      ((s.probes ++ [Probe.mk servoId read status []]).filter _).map _
    rw [List.filter_append, List.map_append, ← h.foundIds]
    by_cases hZero : status = some 0 <;> simp [hZero]
  · change (match status with
      | some error => if error = 0 then s.statusErrors else s.statusErrors ++ [(servoId, error)]
      | none => s.statusErrors) = (s.probes ++ [Probe.mk servoId read status []]).filterMap _
    rw [List.filterMap_append, ← h.statusErrors]
    cases status with
    | none => simp [Probe.statusError]
    | some error => by_cases hZero : error = 0 <;> simp [Probe.statusError, hZero]
  · intro p hMem
    obtain hMem | hMem := List.mem_append.mp hMem
    · exact h.heard p hMem
    · obtain rfl := List.mem_singleton.mp hMem
      rw [Probe.inTime, List.append_nil, ite_self]
      exact hStatus

theorem Sound.writeSome (h : Sound servoIds s) {servoId : UInt8} {payload : List UInt8}
    (hPhase : s.phase = .writing servoId payload) (count : Nat) :
    Sound servoIds (s.writeSome servoId payload count) := by
  obtain ⟨hAccounts, -, -⟩ := h
  rw [concluded_of_none (by rw [hPhase]; rfl), hPhase] at hAccounts
  rw [ScanState.writeSome]
  split
  · rename_i hDone
    refine ⟨?_, ?_, by simp⟩
    · rw [concluded_of_none rfl]
      refine ⟨hAccounts.order, ?_, hAccounts.received, hAccounts.foundIds, hAccounts.statusErrors,
        hAccounts.heard⟩
      refine Eq.trans ?_ hAccounts.sent
      change s.sent ++ payload.take count ++ [] = s.sent ++ payload
      rw [List.append_nil, List.take_of_length_le (List.drop_eq_nil_iff.mp hDone)]
    · intro _ _ _ hReading
      cases hReading
      exact extractStatus_nil _
  · refine ⟨?_, by simp, by simp⟩
    rw [concluded_of_none rfl]
    refine ⟨hAccounts.order, ?_, hAccounts.received, hAccounts.foundIds, hAccounts.statusErrors,
      hAccounts.heard⟩
    refine Eq.trans ?_ hAccounts.sent
    change s.sent ++ payload.take count ++ payload.drop count = s.sent ++ payload
    rw [List.append_assoc, List.take_append_drop]

theorem Sound.readChunk (h : Sound servoIds s) {servoId : UInt8} {buffer read : List UInt8}
    (hPhase : s.phase = .reading servoId buffer read) (chunk : List UInt8) :
    Sound servoIds (s.readChunk servoId buffer read chunk) := by
  rw [ScanState.readChunk]
  split
  · exact h
  obtain ⟨hAccounts, hReading, -⟩ := h
  rw [concluded_of_none (by rw [hPhase]; rfl), hPhase] at hAccounts
  have hResumes := extractStatus_resumes (hReading _ _ _ hPhase) chunk
  have hMore : Accounts servoIds { s with received := s.received ++ chunk } s.probes [servoId] []
      (read ++ chunk) := by
    refine ⟨hAccounts.order, hAccounts.sent, ?_, hAccounts.foundIds, hAccounts.statusErrors,
      hAccounts.heard⟩
    change s.received ++ chunk = _
    rw [hAccounts.received, List.append_assoc]
    rfl
  rcases hStatus : extractStatus servoId.toNat (buffer ++ chunk) with ⟨_ | status, buffer'⟩
  · refine ⟨?_, ?_, by simp⟩
    · rw [concluded_of_none rfl]
      exact ⟨hMore.order, hMore.sent, hMore.received, hMore.foundIds, hMore.statusErrors,
        hMore.heard⟩
    · intro _ _ _ hReading
      cases hReading
      exact hResumes.trans hStatus
  · apply hMore.conclude
    rw [hResumes, hStatus]

theorem Sound.drainChunk (h : Sound servoIds s) {probe : Probe} (hPhase : s.phase = .draining probe)
    (chunk : List UInt8) : Sound servoIds { s with
      phase := .draining { probe with drained := probe.drained ++ chunk }
      received := s.received ++ chunk } := by
  obtain ⟨hAccounts, -, -⟩ := h
  rw [ScanState.concluded, hPhase] at hAccounts
  obtain ⟨hOrder, hSent, hReceived, hFound, hErrors, hHeard⟩ := hAccounts
  refine ⟨⟨?_, ?_, ?_, ?_, ?_, ?_⟩, by simp, by simp⟩
  · rw [← hOrder]
    simp [ScanState.concluded, Phase.concluded, Phase.pinged]
  · apply Eq.trans hSent
    simp [ScanState.concluded, Phase.concluded, Phase.pinged]
  · change s.received ++ chunk = _
    rw [hReceived]
    simp [ScanState.concluded, Phase.concluded, Phase.read]
  · apply hFound.trans
    by_cases hZero : probe.status = some 0 <;>
      simp [ScanState.concluded, Phase.concluded, hZero]
  · apply hErrors.trans
    rw [ScanState.concluded, List.filterMap_append, List.filterMap_append]
    rfl
  · intro p hMem
    obtain hMem | hMem := List.mem_append.mp hMem
    · exact hHeard p (List.mem_append_left _ hMem)
    · obtain rfl := List.mem_singleton.mp hMem
      have hProbe := hHeard probe (List.mem_append_right _ List.mem_cons_self)
      rw [Probe.inTime] at hProbe ⊢
      cases hStatus : probe.status with
      | none =>
        rw [hStatus, if_pos rfl] at hProbe
        simpa [hStatus] using hProbe
      | some status =>
        rw [hStatus, if_neg (by simp)] at hProbe
        obtain ⟨rest, hRead⟩ : ∃ rest, extractStatus probe.servoId.toNat (probe.read ++ probe.drained) =
            (some status, rest) := ⟨_, Prod.ext hProbe.symm rfl⟩
        have hSettled := extractStatus_settled hRead chunk
        rw [List.append_assoc] at hSettled
        simp [hSettled]

theorem Sound.drained (h : Sound servoIds s) {probe : Probe} (hPhase : s.phase = .draining probe) :
    Sound servoIds (ScanState.probeNext { s with probes := s.probes ++ [probe] }) := by
  obtain ⟨hAccounts, -, -⟩ := h
  rw [ScanState.concluded, hPhase] at hAccounts
  apply Accounts.probeNext
  exact ⟨hAccounts.order, hAccounts.sent, hAccounts.received, hAccounts.foundIds,
    hAccounts.statusErrors, hAccounts.heard⟩

theorem Sound.step (h : Sound servoIds s) (wait : Wait) : Sound servoIds (s.step wait) := by
  unfold ScanState.step
  split
  · exact h
  split
  · exact h
  · exact ⟨⟨h.accounts.order, h.accounts.sent, h.accounts.received, h.accounts.foundIds,
      h.accounts.statusErrors, h.accounts.heard⟩, h.reading, h.finished⟩
  · exact h.writeSome ‹_› _
  · exact h.readChunk ‹_› _
  · rename_i servoId buffer read hPhase
    obtain ⟨hAccounts, hReading, -⟩ := h
    rw [concluded_of_none (by rw [hPhase]; rfl), hPhase] at hAccounts
    refine Accounts.conclude hAccounts ?_
    rw [hReading _ _ _ hPhase]
  · exact h.drainChunk ‹_› _
  · exact h.drained ‹_›
  · exact h

theorem sound_reachable (h : (usbScan servoIds).Reachable s) : Sound servoIds s := by
  refine h.invariant ?_ fun s wait _ hSound _ => hSound.step wait
  refine Accounts.probeNext ⟨?_, ?_, ?_, ?_, ?_, ?_⟩ <;> simp

/-- Wherever the scan is, each ID it has done with was pinged in its turn, and found by the
status that is to be heard in what came in before the line was quiet: no byte that was read
for one ID, or drained after it, counts for another. -/
theorem scan_hears_each_servo (h : (usbScan servoIds).Reachable s) :
    Accounts servoIds s s.concluded s.phase.pinged s.phase.unsent s.phase.read ∧
      (∀ p ∈ s.concluded, ∀ error, p.status = some error ↔ Heard p.servoId error p.inTime) ∧
      (s.phase = .finished → s.concluded.map Probe.servoId = servoIds) := by
  have hSound := sound_reachable h
  refine ⟨hSound.accounts, fun p hMem error => ?_, fun hFinished => ?_⟩
  · rw [hSound.accounts.heard p hMem]
    exact extractStatus_iff_heard p.inTime
  · have hOrder := hSound.accounts.order
    rwa [hSound.finished hFinished, hFinished, Phase.pinged, List.append_nil, List.append_nil]
      at hOrder

end Steps

/-- Servo 1 replies in two pieces, the second of which brings a byte too many; servo 2 is late. -/
def twoServos : List Wait :=
  [.writes 4, .writes 2, .reads [0xff, 0xff, 1], .reads [2, 0, 0xfc, 0x55], .quiet,
    .writes 6, .quiet, .reads [0xff, 0xff, 2, 2, 0, 0xfb], .quiet]

def scannedTwo : ScanState := (usbScan [1, 2]).run (usbScan [1, 2]).init twoServos

theorem scannedTwo_reachable : (usbScan [1, 2]).Reachable scannedTwo :=
  Machine.reachable_run twoServos

theorem scan_hears_each_servo_two :
    scannedTwo.foundIds = [1] ∧ scannedTwo.concluded.map Probe.servoId = [1, 2] ∧
      Heard 1 0 [0xff, 0xff, 1, 2, 0, 0xfc, 0x55] ∧ ¬ Heard 2 0 [] ∧
      ∀ p ∈ scannedTwo.concluded, p.status = (extractStatus p.servoId.toNat p.inTime).1 := by
  obtain ⟨hAccounts, hHeard, hFinished⟩ := scan_hears_each_servo scannedTwo_reachable
  have hOne : ⟨1, [0xff, 0xff, 1, 2, 0, 0xfc, 0x55], some 0, []⟩ ∈ scannedTwo.concluded := by
    decide +kernel
  have hTwo : ⟨2, [], none, [0xff, 0xff, 2, 2, 0, 0xfb]⟩ ∈ scannedTwo.concluded := by
    decide +kernel
  exact ⟨by decide +kernel, hFinished (by decide +kernel), (hHeard _ hOne 0).mp rfl,
    fun hLate => absurd ((hHeard _ hTwo 0).mpr hLate) nofun, hAccounts.heard⟩

end Fetchline.Scanner
