import Fetchline.Library.Rotation
import Mathlib.Data.List.Induction

/-!
# The log file and its archives

A full log file is renamed to `.log.1`, the archives moving up before it, and a new one is
opened. Each rename and the opening may fail, and the logger then goes on with the handle
it has.
-/

namespace Fetchline.Host

def maxLogFileBytes : Nat := 5 * 1024 * 1024

def logHistoryFiles : Nat := 3

inductive LogName
  | path
  | archive (index : Nat)
deriving DecidableEq

/-- `path` and then its archives, newest first. -/
def logSlot : Nat → LogName
  | 0 => .path
  | index + 1 => .archive (index + 1)

theorem logSlot_injective : Function.Injective logSlot := by
  intro i j h
  cases i <;> cases j <;> simp_all [logSlot]

abbrev LogDirectory := Directory LogName

/-- What the operating system refuses during one call. -/
structure Refusals where
  rename : LogName → Bool
  opening : Bool

def Refusals.none : Refusals := ⟨fun _ => false, false⟩

inductive RotationError
  | couldNotRotate (source target : LogName)
  | couldNotOpen (name : LogName)
deriving DecidableEq

variable (refusals : Refusals)

def renameLog (source target : LogName) (d : LogDirectory) :
    Except RotationError Unit × LogDirectory :=
  if refusals.rename source ∨ d.names source = none then
    (.error (.couldNotRotate source target), d)
  else
    (.ok (), d.rename source target)

def openLogFile (name : LogName) (d : LogDirectory) : Except RotationError Nat × LogDirectory :=
  if refusals.opening then
    (.error (.couldNotOpen name), d)
  else
    (.ok (d.openAppend name).1, (d.openAppend name).2)

/-- The archives `index`, ..., 1, each moved to the next higher number. -/
def shiftArchives : Nat → LogDirectory → Except RotationError Unit × LogDirectory
  | 0, d => (.ok (), d)
  | index + 1, d =>
    if (d.names (.archive (index + 1))).isSome then
      match renameLog refusals (.archive (index + 1)) (.archive (index + 2)) d with
      | (.error error, d) => (.error error, d)
      | (.ok (), d) => shiftArchives index d
    else
      shiftArchives index d

def rotateLogFile (d : LogDirectory) : Except RotationError Nat × LogDirectory :=
  match shiftArchives refusals (logHistoryFiles - 1) d with
  | (.error error, d) => (.error error, d)
  | (.ok (), d) =>
    match renameLog refusals .path (.archive 1) d with
    | (.error error, d) => (.error error, d)
    | (.ok (), d) => openLogFile refusals .path d

structure FileLogger where
  directory : LogDirectory
  file : Nat

/-- A record with its formatted line, and what fails while it is logged. -/
structure LogCall where
  level : Nat
  maxLevel : Nat
  line : List UInt8
  refusals : Refusals

namespace FileLogger

def rotated (s : FileLogger) (refusals : Refusals) : FileLogger :=
  if maxLogFileBytes ≤ (s.directory.contents s.file).length then
    match rotateLogFile refusals s.directory with
    | (.ok replacement, directory) => ⟨directory, replacement⟩
    | (.error _, directory) => ⟨directory, s.file⟩
  else
    s

def writeLine (s : FileLogger) (line : List UInt8) : FileLogger :=
  ⟨s.directory.append s.file (line ++ [0x0a]), s.file⟩

def log (s : FileLogger) (call : LogCall) : FileLogger :=
  if call.level ≤ call.maxLevel then (s.rotated call.refusals).writeLine call.line else s

def run (s : FileLogger) (calls : List LogCall) : FileLogger := calls.foldl log s

end FileLogger

/-- The logger as the process starts it, its file opened for appending. -/
def initializeLogging (d : LogDirectory) : FileLogger :=
  ⟨(d.openAppend .path).2, (d.openAppend .path).1⟩

def LogCall.written (call : LogCall) : List UInt8 :=
  if call.level ≤ call.maxLevel then call.line ++ [0x0a] else []

section Rotation

variable {refusals} {d : LogDirectory}

theorem renameLog_of_some {source target : LogName} {moved : Nat}
    (h : d.names source = some moved) :
    renameLog refusals source target d =
      if refusals.rename source then (.error (.couldNotRotate source target), d)
      else (.ok (), d.rename source target) := by
  simp [renameLog, h]

theorem renameLog_of_none {source target : LogName} (h : d.names source = none) :
    renameLog refusals source target d = (.error (.couldNotRotate source target), d) := by
  simp [renameLog, h]

theorem shiftArchives_of_none {index : Nat} (h : d.names (.archive (index + 1)) = none) :
    shiftArchives refusals (index + 1) d = shiftArchives refusals index d := by
  rw [shiftArchives, h]
  rfl

theorem shiftArchives_of_some {index moved : Nat} (h : d.names (.archive (index + 1)) = some moved) :
    shiftArchives refusals (index + 1) d =
      if refusals.rename (.archive (index + 1)) then
        (.error (.couldNotRotate (.archive (index + 1)) (.archive (index + 2))), d)
      else shiftArchives refusals index (d.rename (.archive (index + 1)) (.archive (index + 2))) := by
  rw [shiftArchives, h, renameLog_of_some h, Option.isSome_some, if_pos rfl]
  cases refusals.rename (.archive (index + 1)) <;> rfl

/-- The archives have moved as far as they could, and `path` has not. -/
structure ArchivesShifted (d : LogDirectory)
    (result : Except RotationError Unit × LogDirectory) : Prop where
  advances : Directory.Advances logSlot logHistoryFiles d result.2
  path : result.2.names .path = d.names .path
  vacated : result.1 = .ok () → result.2.names (.archive 1) = none

theorem shiftArchives_shifted {index : Nat} (hIndex : index + 1 ≤ logHistoryFiles)
    (hTarget : index + 1 = logHistoryFiles ∨ d.names (.archive (index + 1)) = none) :
    ArchivesShifted d (shiftArchives refusals index d) := by
  induction index generalizing d with
  | zero =>
    refine ⟨.refl _ d, rfl, fun _ => hTarget.resolve_left ?_⟩
    decide
  | succ index ih =>
    cases hSource : d.names (.archive (index + 1)) with
    | none =>
      rw [shiftArchives_of_none hSource]
      exact ih (Nat.le_of_succ_le hIndex) (.inr hSource)
    | some moved =>
      rw [shiftArchives_of_some hSource]
      by_cases hRefused : refusals.rename (.archive (index + 1)) = true
      · rw [if_pos hRefused]
        exact ⟨.refl _ d, rfl, nofun⟩
      · rw [if_neg hRefused]
        have hMoved : Directory.Advances logSlot logHistoryFiles d
            (d.rename (.archive (index + 1)) (.archive (index + 2))) :=
          Directory.advances_rename logSlot_injective (k := index + 1) hIndex hSource hTarget
        have hVacated := Directory.rename_slot_vacates logSlot_injective (k := index + 1) hSource
        have hRest := ih (Nat.le_of_succ_le hIndex) (.inr hVacated)
        refine ⟨hMoved.trans hRest.advances, hRest.path.trans ?_, hRest.vacated⟩
        exact Directory.rename_other d nofun nofun

/-- No archive that exists is refused its next number. -/
def ArchivesMove (refusals : Refusals) (d : LogDirectory) (index : Nat) : Prop :=
  ∀ i, 1 ≤ i → i ≤ index → (d.names (.archive i)).isSome → refusals.rename (.archive i) = false

theorem archivesMove_succ {index : Nat} :
    ArchivesMove refusals d (index + 1) ↔
      ((d.names (.archive (index + 1))).isSome → refusals.rename (.archive (index + 1)) = false) ∧
        ArchivesMove refusals d index := by
  constructor
  · intro h
    exact ⟨h _ (by omega) (Nat.le_refl _), fun i hi hi' => h i hi (by omega)⟩
  · rintro ⟨hTop, h⟩ i hi hi'
    rcases Nat.lt_or_eq_of_le hi' with hLt | rfl
    · exact h i hi (by omega)
    · exact hTop

theorem archivesMove_congr {d' : LogDirectory} {index : Nat}
    (h : ∀ i ≤ index, d'.names (.archive i) = d.names (.archive i)) :
    ArchivesMove refusals d' index ↔ ArchivesMove refusals d index := by
  constructor
  · intro hMove i hi hi' hSome
    exact hMove i hi hi' ((h i hi').symm ▸ hSome)
  · intro hMove i hi hi' hSome
    exact hMove i hi hi' (h i hi' ▸ hSome)

theorem shiftArchives_ok_iff {index : Nat} :
    (shiftArchives refusals index d).1 = .ok () ↔ ArchivesMove refusals d index := by
  induction index generalizing d with
  | zero =>
    constructor
    · intro _ i hi hi'
      omega
    · intro _
      rfl
  | succ index ih =>
    rw [archivesMove_succ]
    cases hSource : d.names (.archive (index + 1)) with
    | none =>
      rw [shiftArchives_of_none hSource, ih]
      exact ⟨fun h => ⟨nofun, h⟩, And.right⟩
    | some moved =>
      rw [shiftArchives_of_some hSource]
      by_cases hRefused : refusals.rename (.archive (index + 1)) = true
      · rw [if_pos hRefused, hRefused]
        exact ⟨nofun, fun h => nomatch h.1 rfl⟩
      · rw [if_neg hRefused, ih, archivesMove_congr (d := d)]
        · exact ⟨fun h => ⟨fun _ => Bool.eq_false_iff.mpr hRefused, h⟩, And.right⟩
        · intro i hi
          have hNe {j : Nat} (hj : index < j) : LogName.archive i ≠ .archive j := by
            intro h
            cases h
            omega
          exact Directory.rename_other d (hNe (by omega)) (hNe (by omega))

/-- The archives and `path` move, but no new file is opened. -/
def LeavesNoFile (refusals : Refusals) (d : LogDirectory) : Prop :=
  ArchivesMove refusals d (logHistoryFiles - 1) ∧ refusals.rename .path = false ∧
    refusals.opening = true

inductive RotationOutcome (refusals : Refusals) (d : LogDirectory) :
    Except RotationError Nat × LogDirectory → Prop
  | kept {error : RotationError} {d' : LogDirectory}
      (advances : Directory.Advances logSlot logHistoryFiles d d')
      (path : d'.names .path = d.names .path)
      (blocked : ¬ ArchivesMove refusals d (logHistoryFiles - 1) ∨ refusals.rename .path = true ∨
        d.names .path = none) : RotationOutcome refusals d (.error error, d')
  | lost {error : RotationError} {d' : LogDirectory}
      (advances : Directory.Advances logSlot logHistoryFiles d d')
      (path : d'.names .path = none)
      (leaves : LeavesNoFile refusals d) : RotationOutcome refusals d (.error error, d')
  | replaced {file : Nat} {d' : LogDirectory}
      (chain : d'.chain logSlot logHistoryFiles <:+ d.chain logSlot logHistoryFiles)
      (path : d'.names .path = some file) (named : d.names .path ≠ none)
      (empty : d'.contents file = [])
      (opening : refusals.opening = false) : RotationOutcome refusals d (.ok file, d')

theorem rotateLogFile_outcome : RotationOutcome refusals d (rotateLogFile refusals d) := by
  have hShifted : ArchivesShifted d (shiftArchives refusals (logHistoryFiles - 1) d) :=
    shiftArchives_shifted (by decide) (.inl rfl)
  have hOk : (shiftArchives refusals (logHistoryFiles - 1) d).1 = .ok () ↔
      ArchivesMove refusals d (logHistoryFiles - 1) := shiftArchives_ok_iff
  rw [rotateLogFile]
  rcases hShift : shiftArchives refusals (logHistoryFiles - 1) d with ⟨error | ⟨⟩, d₁⟩
  · rw [hShift] at hShifted hOk
    exact .kept hShifted.advances hShifted.path (.inl fun h => nomatch hOk.mpr h)
  rw [hShift] at hShifted hOk
  have hMove := hOk.mp rfl
  dsimp only at hShifted ⊢
  cases hPath : d.names .path with
  | none =>
    have hPath₁ : d₁.names .path = none := hShifted.path.trans hPath
    rw [renameLog_of_none hPath₁]
    exact .kept hShifted.advances hShifted.path (.inr (.inr hPath))
  | some file =>
    have hPath₁ : d₁.names .path = some file := hShifted.path.trans hPath
    rw [renameLog_of_some hPath₁]
    cases hRename : refusals.rename .path with
    | true => exact .kept hShifted.advances hShifted.path (.inr (.inl hRename))
    | false =>
      have hRenamed : Directory.Advances logSlot logHistoryFiles d₁
          (d₁.rename .path (.archive 1)) :=
        Directory.advances_rename logSlot_injective (k := 0) (by decide) hPath₁
          (.inr (hShifted.vacated rfl))
      have hAdvances := hShifted.advances.trans hRenamed
      have hVacated := Directory.rename_slot_vacates logSlot_injective (k := 0) hPath₁
      cases hOpening : refusals.opening with
      | true =>
        simp only [openLogFile, hOpening, Bool.false_eq_true, if_false, if_true]
        exact .lost hAdvances hVacated ⟨hMove, hRename, hOpening⟩
      | false =>
        simp only [openLogFile, hOpening, Bool.false_eq_true, if_false]
        refine .replaced ?_ (Directory.openAppend_names _ _) ?_ ?_ hOpening
        · rw [Directory.chain_congr fun k _ => Directory.read_openAppend _ _ (logSlot k)]
          exact hAdvances.chain_suffix
        · rw [hPath]
          exact nofun
        · rw [Directory.openAppend_contents]
          exact Directory.read_of_none _ hVacated

end Rotation

namespace FileLogger

variable {s : FileLogger}

abbrev records (s : FileLogger) : List UInt8 := s.directory.chain logSlot logHistoryFiles

/-- The logger's file is the newest of `path` and its archives, whatever rotations failed. -/
abbrev Held (s : FileLogger) : Prop := s.directory.IsNewest logSlot logHistoryFiles s.file

abbrev Named (s : FileLogger) : Prop := s.directory.names .path = some s.file

abbrev IsFull (s : FileLogger) : Prop := maxLogFileBytes ≤ (s.directory.contents s.file).length

theorem Named.held (h : s.Named) : s.Held := ⟨0, Nat.zero_le _, h, fun _ h => by omega⟩

theorem Held.named_or (h : s.Held) : s.Named ∨ s.directory.names .path = none := by
  obtain ⟨k, -, hName, hNewer⟩ := h
  cases k with
  | zero => exact .inl hName
  | succ k => exact .inr (hNewer 0 (Nat.succ_pos k))

/-- What a call may do to the logger before its line is written. -/
inductive RotatedTo (s : FileLogger) (refusals : Refusals) : FileLogger → Prop
  | kept {d : LogDirectory} (advances : Directory.Advances logSlot logHistoryFiles s.directory d)
      (path : d.names .path = s.directory.names .path)
      (blocked : ¬ (s.IsFull ∧ LeavesNoFile refusals s.directory) ∨ s.directory.names .path = none) :
      RotatedTo s refusals ⟨d, s.file⟩
  | lost {d : LogDirectory} (advances : Directory.Advances logSlot logHistoryFiles s.directory d)
      (path : d.names .path = none)
      (leaves : s.IsFull ∧ LeavesNoFile refusals s.directory) : RotatedTo s refusals ⟨d, s.file⟩
  | replaced {d : LogDirectory} {file : Nat}
      (chain : d.chain logSlot logHistoryFiles <:+ s.records) (path : d.names .path = some file)
      (named : s.directory.names .path ≠ none) (opening : refusals.opening = false) :
      RotatedTo s refusals ⟨d, file⟩

theorem rotated_to (s : FileLogger) (refusals : Refusals) :
    RotatedTo s refusals (s.rotated refusals) := by
  rw [rotated]
  by_cases hFull : s.IsFull
  · rw [if_pos hFull]
    have hOutcome : RotationOutcome refusals s.directory (rotateLogFile refusals s.directory) :=
      rotateLogFile_outcome
    rcases hRotation : rotateLogFile refusals s.directory with ⟨error | file, d⟩
    all_goals rw [hRotation] at hOutcome
    · cases hOutcome with
      | kept hAdvances hPath hBlocked =>
        refine .kept hAdvances hPath ?_
        rcases hBlocked with hMove | hRename | hNone
        · exact .inl fun h => hMove h.2.1
        · exact .inl fun h => nomatch hRename.symm.trans h.2.2.1
        · exact .inr hNone
      | lost hAdvances hPath hLeaves => exact .lost hAdvances hPath ⟨hFull, hLeaves⟩
    · cases hOutcome with
      | replaced hChain hPath hNamed hEmpty hOpening => exact .replaced hChain hPath hNamed hOpening
  · rw [if_neg hFull]
    exact .kept (.refl _ _) rfl (.inl fun h => hFull h.1)

theorem RotatedTo.held {refusals : Refusals} {t : FileLogger} (hTo : RotatedTo s refusals t)
    (h : s.Held) : t.Held := by
  cases hTo with
  | kept hAdvances => exact hAdvances.newest h
  | lost hAdvances => exact hAdvances.newest h
  | replaced _ hPath => exact Named.held hPath

theorem RotatedTo.records_suffix {refusals : Refusals} {t : FileLogger}
    (hTo : RotatedTo s refusals t) : t.records <:+ s.records := by
  cases hTo with
  | kept hAdvances => exact hAdvances.chain_suffix
  | lost hAdvances => exact hAdvances.chain_suffix
  | replaced hChain => exact hChain

theorem RotatedTo.named_iff {refusals : Refusals} {t : FileLogger} (hTo : RotatedTo s refusals t)
    (h : s.Named) : t.Named ↔ ¬ (s.IsFull ∧ LeavesNoFile refusals s.directory) := by
  cases hTo with
  | kept _ hPath hBlocked =>
    exact ⟨fun _ => hBlocked.resolve_right (h ▸ nofun), fun _ => hPath.trans h⟩
  | lost _ hPath hLeaves =>
    exact ⟨fun hNamed => (nomatch hPath.symm.trans hNamed), fun h => absurd hLeaves h⟩
  | replaced _ hPath _ hOpening =>
    refine ⟨fun _ hLeaves => ?_, fun _ => hPath⟩
    cases hOpening.symm.trans hLeaves.2.2.2

/-- Once `path` names no file, no later rotation gives it one. -/
theorem RotatedTo.unnamed {refusals : Refusals} {t : FileLogger} (hTo : RotatedTo s refusals t)
    (h : s.directory.names .path = none) : t.directory.names .path = none := by
  cases hTo with
  | kept _ hPath => exact hPath.trans h
  | lost _ hPath => exact hPath
  | replaced _ _ hNamed => exact absurd h hNamed

/-- The call moves `path` to `.log.1` and finds no file to put there. -/
def LosesPath (s : FileLogger) (call : LogCall) : Prop :=
  call.level ≤ call.maxLevel ∧ s.IsFull ∧ LeavesNoFile call.refusals s.directory

theorem log_held (h : s.Held) (call : LogCall) : (s.log call).Held := by
  rw [log]
  split
  · exact (rotated_to s call.refusals).held h
  · exact h

theorem log_named_iff (h : s.Named) (call : LogCall) :
    (s.log call).Named ↔ ¬ s.LosesPath call := by
  rw [log, LosesPath]
  split
  · rename_i hEnabled
    rw [and_iff_right hEnabled]
    exact (rotated_to s call.refusals).named_iff h
  · rename_i hDisabled
    exact ⟨fun _ hLoses => hDisabled hLoses.1, fun _ => h⟩

theorem log_records (h : s.Held) (call : LogCall) :
    (s.log call).records <:+ s.records ++ call.written := by
  rw [log, LogCall.written]
  split
  · have hTo := rotated_to s call.refusals
    have hWritten := Directory.chain_append logSlot_injective (hTo.held h) (call.line ++ [0x0a])
    rw [records, writeLine, hWritten]
    exact List.suffix_append_self_iff.mpr hTo.records_suffix
  · exact ⟨[], (List.append_nil _).symm⟩

theorem run_append (s : FileLogger) (calls : List LogCall) (call : LogCall) :
    s.run (calls ++ [call]) = (s.run calls).log call := by
  rw [run, run, List.foldl_append]
  rfl

theorem run_records (h : s.Held) (calls : List LogCall) :
    (s.run calls).Held ∧ (s.run calls).records <:+ s.records ++ (calls.map LogCall.written).flatten := by
  induction calls using List.reverseRecOn with
  | nil => exact ⟨h, by simp [run]⟩
  | append_singleton calls call ih =>
    obtain ⟨hHeld, hRecords⟩ := ih
    rw [run_append]
    refine ⟨log_held hHeld call, (log_records hHeld call).trans ?_⟩
    rw [List.map_append, List.flatten_append, ← List.append_assoc, List.map_singleton,
      List.flatten_singleton]
    exact List.suffix_append_self_iff.mpr hRecords

theorem run_named (h : s.Named) {calls : List LogCall}
    (hKept : ∀ before call, before ++ [call] <+: calls → ¬ (s.run before).LosesPath call) :
    (s.run calls).Named := by
  induction calls using List.reverseRecOn with
  | nil => exact h
  | append_singleton calls call ih =>
    rw [run_append]
    refine (log_named_iff (ih fun before call' hPrefix => ?_) call).mpr ?_
    · exact hKept before call' (hPrefix.trans (List.prefix_append _ _))
    · exact hKept calls call (List.prefix_refl _)

theorem log_unnamed (h : s.directory.names .path = none) (call : LogCall) :
    (s.log call).directory.names .path = none := by
  rw [log]
  split
  · exact (rotated_to s call.refusals).unnamed h
  · exact h

/-- A logger that has left `path` without a file never comes back to it. -/
theorem run_unnamed (h : s.Held) (hLost : ¬ s.Named) (calls : List LogCall) :
    (s.run calls).directory.names .path = none := by
  induction calls using List.reverseRecOn with
  | nil => exact h.named_or.resolve_left hLost
  | append_singleton calls call ih =>
    rw [run_append]
    exact log_unnamed ih call

/-- The logger's file is the one named by `path`, a rotation that nothing refuses succeeds, and
a line logged then goes to a file that was below the limit. -/
structure Retryable (s : FileLogger) : Prop where
  named : s.Named
  rotates : ∃ file, (rotateLogFile .none s.directory).1 = .ok file
  limited : ∀ call : LogCall, call.level ≤ call.maxLevel → call.refusals = .none →
    ∃ before, before.length < maxLogFileBytes ∧
      (s.log call).directory.read .path = before ++ (call.line ++ [0x0a])

theorem rotateLogFile_none (h : s.Named) : ∃ file d, rotateLogFile .none s.directory = (.ok file, d) ∧
    d.names .path = some file ∧ d.contents file = [] := by
  have hOutcome : RotationOutcome .none s.directory (rotateLogFile .none s.directory) :=
    rotateLogFile_outcome
  rcases hRotation : rotateLogFile .none s.directory with ⟨error | file, d⟩
  all_goals rw [hRotation] at hOutcome
  · cases hOutcome with
    | kept _ _ hBlocked =>
      rcases hBlocked with hMove | hRename | hNone
      · exact absurd (fun _ _ _ _ => rfl) hMove
      · cases hRename
      · cases h.symm.trans hNone
    | lost _ _ hLeaves => cases hLeaves.2.2
  · cases hOutcome with
    | replaced _ hPath _ hEmpty => exact ⟨file, d, rfl, hPath, hEmpty⟩

theorem Named.retryable (h : s.Named) : s.Retryable := by
  obtain ⟨file, d, hRotation, hPath, hEmpty⟩ := rotateLogFile_none h
  refine ⟨h, ⟨file, congrArg Prod.fst hRotation⟩, fun call hEnabled hNone => ?_⟩
  rw [log, if_pos hEnabled, hNone, rotated, hRotation]
  by_cases hFull : s.IsFull
  · rw [if_pos hFull]
    refine ⟨[], by decide, (Directory.read_append d hPath _).trans ?_⟩
    rw [Directory.read, hPath]
    exact congrArg (· ++ _) hEmpty
  · rw [if_neg hFull]
    refine ⟨_, Nat.lt_of_not_le hFull, (Directory.read_append _ h _).trans ?_⟩
    rw [Directory.read, h]

end FileLogger

theorem initializeLogging_named (d : LogDirectory) : (initializeLogging d).Named :=
  Directory.openAppend_names d .path

theorem initializeLogging_records (d : LogDirectory) :
    (initializeLogging d).records = d.chain logSlot logHistoryFiles :=
  Directory.chain_congr fun k _ => Directory.read_openAppend d .path (logSlot k)

/-- A run keeps the log file rotatable exactly when no rotation moves `path` away without
opening a new one; what the names hold is a suffix of the stream in any case. -/
theorem rotation_retried_iff (d : LogDirectory) (calls : List LogCall) :
    ((∀ before, before <+: calls → ((initializeLogging d).run before).Retryable) ↔
        ∀ before call, before ++ [call] <+: calls →
          ¬ ((initializeLogging d).run before).LosesPath call) ∧
      ((initializeLogging d).run calls).records <:+
        d.chain logSlot logHistoryFiles ++ (calls.map LogCall.written).flatten := by
  have hNamed := initializeLogging_named d
  constructor
  · constructor
    · intro hRetryable before call hPrefix
      have hBefore := hRetryable before ((List.prefix_append _ _).trans hPrefix)
      have hAfter := hRetryable _ hPrefix
      rw [FileLogger.run_append] at hAfter
      exact (FileLogger.log_named_iff hBefore.named call).mp hAfter.named
    · intro hKept before hPrefix
      refine FileLogger.Named.retryable (FileLogger.run_named hNamed fun earlier call h => ?_)
      exact hKept earlier call (h.trans hPrefix)
  · rw [← initializeLogging_records]
    exact (FileLogger.run_records hNamed.held calls).2

def fullDirectory : LogDirectory where
  names name := if name = .path then some 0 else none
  contents _ := List.replicate maxLogFileBytes 0x61
  next := 1
  distinct := by
    intro name other file hName hOther
    split at hName <;> split at hOther
    · rename_i h h'
      rw [h, h']
    all_goals simp_all
  used := by
    intro name file h
    split at h
    · cases h
      exact Nat.one_pos
    · cases h

/-- After the refused opening no record brings the log file back. -/
theorem refused_opening_loses_path :
    (initializeLogging fullDirectory).Retryable ∧
      ∀ calls, ¬ (((initializeLogging fullDirectory).log
        ⟨3, 3, [0x68, 0x69], ⟨fun _ => false, true⟩⟩).run calls).Retryable := by
  have hNamed := initializeLogging_named fullDirectory
  refine ⟨hNamed.retryable, fun calls hRetryable => ?_⟩
  have hLost : ¬ ((initializeLogging fullDirectory).log
      ⟨3, 3, [0x68, 0x69], ⟨fun _ => false, true⟩⟩).Named := by
    intro hLog
    refine (FileLogger.log_named_iff hNamed _).mp hLog ?_
    refine ⟨Nat.le_refl 3, ?_, fun _ _ _ _ => rfl, rfl, rfl⟩
    exact Nat.le_of_eq (List.length_replicate).symm
  have hUnnamed := FileLogger.run_unnamed (FileLogger.log_held hNamed.held _) hLost calls
  cases hUnnamed.symm.trans hRetryable.named

end Fetchline.Host
