import Fetchline.Browser.Joints
import Fetchline.Library.Machine

/-!
# What the queued moves carry

A timer's callback reads the map when it fires, and a report may have been written there
since the slider moved.
-/

namespace Fetchline.Browser

open Function (update)
open Transition

def Event.slider : Event → Option (JointIndex × SliderPosition)
  | .input index position | .change index position => some (index, position)
  | _ => none

/-- The positions that an event brings from the host, in the order the page takes them up. -/
def Event.reports : Event → List Host.Position
  | .message (.position id position) => [⟨id, position⟩]
  | .message (.positions positions _) => positions
  | _ => []

/-- The last of the reports that is for the joint. -/
def reportedTo (joints : JointIndex → Joint) (index : JointIndex) :
    List Host.Position → Option Int
  | [] => none
  | report :: reports =>
    (reportedTo joints index reports).or
      (if Ui.jointWithId joints report.id.toNat = some index then some report.position else none)

/-- The page with, for each joint, its most recent slider event and the last position
reported since. -/
structure History where
  ui : Ui
  slider : JointIndex → Option SliderPosition
  reported : JointIndex → Option Int

def History.step (h : History) (e : Event) : History where
  ui := (h.ui.step e).1
  slider :=
    match e.slider with
    | some (index, position) => update h.slider index (some position)
    | none => h.slider
  reported :=
    match e.slider with
    | some (index, _) => update h.reported index none
    | none => fun index => (reportedTo h.ui.joints index e.reports).or (h.reported index)

def watched (ui : Ui) : Machine History Event where
  init := ⟨ui, fun _ => none, fun _ => none⟩
  step := History.step

/-- The joint that `sendMove` runs for in the step, if it runs. -/
def Ui.movedJoint (s : Ui) : Event → Option JointIndex
  | .input index _ | .change index _ => some index
  | .expire timer => s.timers timer
  | _ => none

/-- A move sent in the step has the position of the joint's most recent slider event. -/
def CarriesSlider (h : History) (e : Event) : Prop :=
  ∀ id position acceleration limit,
    .sent (.movePosition id position acceleration limit) ∈ (h.ui.step e).2 →
      ∃ index slider, h.ui.movedJoint e = some index ∧ (h.step e).slider index = some slider ∧
        position = some slider.value

/-- Where a timer fires while moves can be sent, what was reported for its joint since the
slider event is nothing or ends with the slider's own position. -/
def ReportsAgree (h : History) : Event → Prop
  | .expire timer => ∀ index slider position, h.ui.timers timer = some index →
      h.ui.socketOpen = true → h.ui.connectedToMcu = true → h.slider index = some slider →
      h.reported index = some position → position = slider.value
  | _ => True

/-- Each running timer is the queued move of an enabled joint, and the map holds the joint's
slider position unless something was reported after it. -/
def Armed (h : History) : Prop :=
  ∀ timer index, h.ui.timers timer = some index →
    h.ui.queuedMoves index = some timer ∧ (h.ui.joints index).enabled = true ∧
      ∃ slider, h.slider index = some slider ∧
        h.ui.currentPositions index = some ((h.reported index).getD slider.value)

namespace Ui

variable {s : Ui} {index : JointIndex}

theorem timers_clearTimeout {pending : Option Nat} {timer : Nat} {joint : JointIndex} :
    (s.clearTimeout pending).timers timer = some joint ↔
      s.timers timer = some joint ∧ pending ≠ some timer := by
  cases pending with
  | none => exact ⟨fun h => ⟨h, nofun⟩, And.left⟩
  | some cleared =>
    rcases eq_or_ne timer cleared with rfl | h
    · simp [clearTimeout]
    · simp [clearTimeout, h, Ne.symm h]

@[simp] theorem queuedMoves_clearTimeout (pending : Option Nat) :
    (s.clearTimeout pending).queuedMoves = s.queuedMoves := by
  cases pending <;> rfl

@[simp] theorem joints_clearTimeout (pending : Option Nat) :
    (s.clearTimeout pending).joints = s.joints := by
  cases pending <;> rfl

@[simp] theorem currentPositions_clearTimeout (pending : Option Nat) :
    (s.clearTimeout pending).currentPositions = s.currentPositions := by
  cases pending <;> rfl

@[simp] theorem timers_sendMove : (s.sendMove index).1.timers = s.timers := by
  rw [sendMove]
  split <;> rfl

@[simp] theorem queuedMoves_sendMove :
    (s.sendMove index).1.queuedMoves = update s.queuedMoves index none := by
  rw [sendMove]
  split <;> rfl

@[simp] theorem joints_sendMove : (s.sendMove index).1.joints = s.joints := by
  rw [sendMove]
  split <;> rfl

@[simp] theorem currentPositions_sendMove :
    (s.sendMove index).1.currentPositions = s.currentPositions := by
  rw [sendMove]
  split <;> rfl

theorem timers_queueMove {timer : Nat} {joint : JointIndex}
    (h : (s.queueMove index).timers timer = some joint) :
    timer = s.nextTimer ∧ index = joint ∨ timer ≠ s.nextTimer ∧ s.timers timer = some joint := by
  rcases eq_or_ne timer s.nextTimer with rfl | hNew
  · exact .inl ⟨rfl, by simpa [queueMove] using h⟩
  · exact .inr ⟨hNew, by simpa [queueMove, hNew] using h⟩

/-- What an accepted slider event does, if the joint had no timer but its queued move. -/
structure TakesUp (s s' : Ui) (index : JointIndex) (position : SliderPosition) : Prop where
  joints : s'.joints = s.joints
  position : s'.currentPositions = update s.currentPositions index (some position.value)
  own : ∀ timer, s'.timers timer = some index → s'.queuedMoves index = some timer
  other : ∀ timer joint, joint ≠ index → s'.timers timer = some joint →
    s.timers timer = some joint ∧ s'.queuedMoves joint = s.queuedMoves joint

theorem queuePositionMove_takesUp (position : SliderPosition) (flush : Bool)
    (hEnabled : (s.joints index).enabled = true)
    (hOwn : ∀ timer, s.timers timer = some index → s.queuedMoves index = some timer) :
    TakesUp s (s.queuePositionMove index position flush).1 index position := by
  rw [queuePositionMove, if_pos hEnabled]
  dsimp only
  split
  · rename_i hKnown
    refine ⟨by simp, by simp, fun timer hTimer => ?_, fun timer joint _ hTimer => ?_⟩
    · simpa using hOwn timer (timers_clearTimeout.mp hTimer).1
    · exact ⟨(timers_clearTimeout.mp hTimer).1, by simp⟩
  split
  · refine ⟨by simp, by simp, fun timer hTimer => ?_, fun timer joint hNe hTimer => ?_⟩
    · rw [timers_sendMove] at hTimer
      obtain ⟨hRan, hKept⟩ := timers_clearTimeout.mp hTimer
      exact absurd (hOwn timer hRan) hKept
    · rw [timers_sendMove] at hTimer
      exact ⟨(timers_clearTimeout.mp hTimer).1, by simp [hNe]⟩
  · refine ⟨by simp [queueMove], by simp [queueMove], fun timer hTimer => ?_,
      fun timer joint hNe hTimer => ?_⟩
    · rcases timers_queueMove hTimer with ⟨rfl, -⟩ | ⟨-, hRan⟩
      · simp [queueMove]
      · obtain ⟨hRan, hKept⟩ := timers_clearTimeout.mp hRan
        exact absurd (hOwn timer hRan) hKept
    · rcases timers_queueMove hTimer with ⟨-, rfl⟩ | ⟨-, hRan⟩
      · exact absurd rfl hNe
      · exact ⟨(timers_clearTimeout.mp hRan).1, by simp [queueMove, hNe]⟩

theorem updatePosition_eq (report : Host.Position) :
    (s.updatePosition report).1 =
      { s with currentPositions := fun index =>
          (reportedTo s.joints index [report]).or (s.currentPositions index) } := by
  rw [updatePosition]
  cases h : jointWithId s.joints report.id.toNat with
  | none => simp [reportedTo, h]
  | some found =>
    have hCurrent : update s.currentPositions found (some report.position) = fun index =>
        (reportedTo s.joints index [report]).or (s.currentPositions index) := by
      funext index
      rcases eq_or_ne index found with rfl | hIndex
      · simp [reportedTo, h]
      · simp [reportedTo, h, hIndex, Ne.symm hIndex]
    exact congrArg (fun current => { s with currentPositions := current }) hCurrent

theorem updatePositions_eq (reports : List Host.Position) :
    (s.updatePositions reports).1 =
      { s with currentPositions := fun index =>
          (reportedTo s.joints index reports).or (s.currentPositions index) } := by
  induction reports generalizing s with
  | nil => simp [updatePositions, reportedTo]
  | cons report reports ih =>
    rw [updatePositions]
    dsimp only
    rw [ih, updatePosition_eq]
    simp [reportedTo, Option.or_assoc]

/-- The step leaves the queue and the joints' switches alone. -/
structure KeepsQueue (s s' : Ui) : Prop where
  timers : s'.timers = s.timers
  queuedMoves : s'.queuedMoves = s.queuedMoves
  enabled : ∀ index, (s'.joints index).enabled = (s.joints index).enabled

theorem keepsQueue_setJoint {joint : Joint} (h : joint.enabled = (s.joints index).enabled) :
    KeepsQueue s (s.setJoint index joint) := by
  refine ⟨rfl, rfl, fun other => ?_⟩
  rcases eq_or_ne other index with rfl | hOther
  · simpa [setJoint] using h
  · simp [setJoint, hOther]

end Ui

section Armed

variable {h : History}

/-- A step that is no slider event and keeps the queue keeps it armed, if the map takes up
what is reported. -/
theorem Armed.keeps {e : Event} (hArmed : Armed h) (hNoSlider : e.slider = none)
    (hKeeps : Ui.KeepsQueue h.ui (h.ui.step e).1)
    (hCurrent : ∀ index, (h.ui.step e).1.currentPositions index =
      (reportedTo h.ui.joints index e.reports).or (h.ui.currentPositions index)) :
    Armed (h.step e) := by
  intro timer index hTimer
  obtain ⟨hQueued, hEnabled, slider, hSlider, hPosition⟩ := hArmed timer index (hKeeps.timers ▸ hTimer)
  refine ⟨hKeeps.queuedMoves ▸ hQueued, (hKeeps.enabled index).trans hEnabled, slider, ?_, ?_⟩
  · simpa [History.step, hNoSlider] using hSlider
  · simp only [History.step, hNoSlider, hCurrent, hPosition]
    cases reportedTo h.ui.joints index e.reports <;> rfl

theorem Armed.takesUp {e : Event} {index : JointIndex} {position : SliderPosition}
    (hArmed : Armed h) (hSlider : e.slider = some (index, position)) {flush : Bool}
    (hStep : (h.ui.step e).1 = (h.ui.queuePositionMove index position flush).1) :
    Armed (h.step e) := by
  intro timer joint hTimer
  simp only [History.step, hSlider, hStep] at hTimer ⊢
  by_cases hEnabled : (h.ui.joints index).enabled = true
  · have hTakes := Ui.queuePositionMove_takesUp position flush hEnabled
      fun timer hTimer => (hArmed timer index hTimer).1
    rcases eq_or_ne joint index with rfl | hJoint
    · refine ⟨hTakes.own timer hTimer, hTakes.joints ▸ hEnabled, position, by simp, ?_⟩
      rw [hTakes.position]
      simp
    · obtain ⟨hRan, hQueue⟩ := hTakes.other timer joint hJoint hTimer
      obtain ⟨hQueued, hOn, slider, hOld, hPosition⟩ := hArmed timer joint hRan
      refine ⟨hQueue.trans hQueued, hTakes.joints ▸ hOn, slider, by simp [hJoint, hOld], ?_⟩
      rw [hTakes.position]
      simp [hJoint, hPosition]
  · have hUi : (h.ui.queuePositionMove index position flush).1 = h.ui := by
      rw [Ui.queuePositionMove, if_neg hEnabled]
    rw [hUi] at hTimer ⊢
    obtain ⟨hQueued, hOn, slider, hOld, hPosition⟩ := hArmed timer joint hTimer
    have hJoint : joint ≠ index := by
      rintro rfl
      exact hEnabled hOn
    exact ⟨hQueued, hOn, slider, by simp [hJoint, hOld], by simp [hJoint, hPosition]⟩

theorem Armed.expire {timer : Nat} (hArmed : Armed h) : Armed (h.step (.expire timer)) := by
  intro other joint hOther
  simp only [History.step, Event.slider, Event.reports, reportedTo, Option.none_or, Ui.step]
    at hOther ⊢
  cases hTimer : h.ui.timers timer with
  | none =>
    rw [hTimer] at hOther
    exact hArmed other joint hOther
  | some index =>
    rw [hTimer] at hOther
    simp only [Ui.timers_sendMove] at hOther
    have hNe : other ≠ timer := by
      rintro rfl
      simp at hOther
    rw [Function.update_of_ne hNe] at hOther
    obtain ⟨hQueued, hOn, hHeld⟩ := hArmed other joint hOther
    have hJoint : joint ≠ index := by
      rintro rfl
      exact hNe (Option.some.inj (hQueued.symm.trans (hArmed timer joint hTimer).1))
    refine ⟨?_, ?_, ?_⟩
    · simpa [hJoint] using hQueued
    · simpa using hOn
    · simpa using hHeld

theorem Armed.setEnabled {index : JointIndex} {checked : Bool} (hArmed : Armed h) :
    Armed (h.step (.setEnabled index checked)) := by
  intro timer joint hTimer
  simp only [History.step, Event.slider, Event.reports, reportedTo, Option.none_or, Ui.step,
    Ui.setEnabled] at hTimer ⊢
  cases checked with
  | true =>
    obtain ⟨hQueued, hOn, hHeld⟩ := hArmed timer joint hTimer
    refine ⟨hQueued, ?_, hHeld⟩
    rcases eq_or_ne joint index with rfl | hJoint
    · simp [Ui.setJoint]
    · simpa [Ui.setJoint, hJoint] using hOn
  | false =>
    obtain ⟨hRan, hKept⟩ := Ui.timers_clearTimeout.mp hTimer
    obtain ⟨hQueued, hOn, hHeld⟩ := hArmed timer joint hRan
    have hJoint : joint ≠ index := by
      rintro rfl
      exact hKept hQueued
    refine ⟨?_, ?_, ?_⟩
    · simpa [Ui.setJoint, hJoint] using hQueued
    · simpa [Ui.setJoint, hJoint] using hOn
    · simpa [Ui.setJoint] using hHeld

theorem Armed.step (hArmed : Armed h) (e : Event) : Armed (h.step e) := by
  cases e with
  | input index position => exact hArmed.takesUp rfl rfl
  | change index position => exact hArmed.takesUp rfl rfl
  | expire timer => exact hArmed.expire
  | setEnabled index checked => exact hArmed.setEnabled
  | setId index value => exact hArmed.keeps rfl (Ui.keepsQueue_setJoint rfl) fun _ => rfl
  | setAcceleration index value => exact hArmed.keeps rfl (Ui.keepsQueue_setJoint rfl) fun _ => rfl
  | setTorque index value => exact hArmed.keeps rfl (Ui.keepsQueue_setJoint rfl) fun _ => rfl
  | submitConnection host port => exact hArmed.keeps rfl ⟨rfl, rfl, fun _ => rfl⟩ fun _ => rfl
  | refresh => exact hArmed.keeps rfl ⟨rfl, rfl, fun _ => rfl⟩ fun _ => rfl
  | socketOpened => exact hArmed.keeps rfl ⟨rfl, rfl, fun _ => rfl⟩ fun _ => rfl
  | socketClosed => exact hArmed.keeps rfl ⟨rfl, rfl, fun _ => rfl⟩ fun _ => rfl
  | message message =>
    cases message with
    | position id position =>
      have hEq : (h.ui.step (.message (.position id position))).1 = _ := Ui.updatePosition_eq _
      exact hArmed.keeps rfl (hEq ▸ ⟨rfl, rfl, fun _ => rfl⟩) fun _ => hEq ▸ rfl
    | positions positions errors =>
      have hEq : (h.ui.step (.message (.positions positions errors))).1 = _ :=
        Ui.updatePositions_eq positions
      exact hArmed.keeps rfl (hEq ▸ ⟨rfl, rfl, fun _ => rfl⟩) fun _ => hEq ▸ rfl
    | _ => exact hArmed.keeps rfl ⟨rfl, rfl, fun _ => rfl⟩ fun _ => rfl

end Armed

namespace Ui

variable {s : Ui} {index : JointIndex}

theorem mem_send {message sent : Outgoing} {allowed : Bool} :
    .sent sent ∈ s.send message allowed ↔
      sent = message ∧ s.socketOpen = true ∧ (allowed = true ∨ s.connectedToMcu = true) := by
  rw [send]
  cases s.socketOpen <;> cases allowed <;> cases s.connectedToMcu <;> simp

theorem mem_sendMove {id : Int} {position : Option Int} {acceleration limit : Int} :
    .sent (.movePosition id position acceleration limit) ∈ (s.sendMove index).2 ↔
      (s.joints index).enabled = true ∧ s.socketOpen = true ∧ s.connectedToMcu = true ∧
        id = (s.joints index).id ∧ position = s.currentPositions index ∧
        acceleration = (s.joints index).acceleration ∧
        limit = torqueLimit (s.joints index).torquePercent := by
  rw [sendMove]
  dsimp only
  split
  · rename_i hEnabled
    simp only [mem_send, Outgoing.movePosition.injEq, hEnabled]
    grind
  · rename_i hDisabled
    simp [hDisabled]

theorem mem_queuePositionMove {slider : SliderPosition} {flush : Bool} {id : Int}
    {position : Option Int} {acceleration limit : Int}
    (h : .sent (.movePosition id position acceleration limit) ∈
      (s.queuePositionMove index slider flush).2) :
    flush = true ∧ position = some slider.value := by
  rw [queuePositionMove] at h
  split at h
  · dsimp only at h
    split at h
    · simp at h
    split at h
    · rename_i hFlush
      simp only [List.mem_cons, reduceCtorEq, false_or] at h
      obtain ⟨-, -, -, -, hPosition, -⟩ := mem_sendMove.mp h
      simp only [currentPositions_clearTimeout, Function.update_self] at hPosition
      exact ⟨hFlush, hPosition⟩
    · simp at h
  · simp at h

theorem sent_not_mem_updatePositions {move : Outgoing} (reports : List Host.Position) :
    .sent move ∉ (s.updatePositions reports).2 := by
  induction reports generalizing s with
  | nil => simp [updatePositions]
  | cons report reports ih =>
    rw [updatePositions]
    dsimp only
    rw [List.mem_append, not_or]
    refine ⟨?_, ih⟩
    rw [updatePosition]
    split <;> simp

theorem movePosition_not_mem_refreshPositions {id : Int} {position : Option Int}
    {acceleration limit : Int} :
    .sent (.movePosition id position acceleration limit) ∉ s.refreshPositions := by
  rw [refreshPositions]
  split
  · simp [mem_send]
  · simp

theorem movePosition_not_mem_connectMcu {id : Int} {position : Option Int}
    {acceleration limit : Int} :
    .sent (.movePosition id position acceleration limit) ∉ s.connectMcu.2 := by
  simp [connectMcu, mem_send]

/-- Only a slider that is let go and a timer send moves. -/
theorem movePosition_mem_step {e : Event} {id : Int} {position : Option Int}
    {acceleration limit : Int}
    (h : .sent (.movePosition id position acceleration limit) ∈ (s.step e).2) :
    (∃ index slider, e = .change index slider ∧ position = some slider.value) ∨
      ∃ timer index, e = .expire timer ∧ s.timers timer = some index ∧ s.socketOpen = true ∧
        s.connectedToMcu = true ∧ position = s.currentPositions index := by
  cases e with
  | input index slider => cases (mem_queuePositionMove h).1
  | change index slider => exact .inl ⟨index, slider, rfl, (mem_queuePositionMove h).2⟩
  | expire timer =>
    rw [step] at h
    cases hTimer : s.timers timer with
    | none => simp [hTimer] at h
    | some index =>
      rw [hTimer] at h
      obtain ⟨-, hOpen, hConnected, -, hPosition, -⟩ := mem_sendMove.mp h
      exact .inr ⟨timer, index, rfl, hTimer, hOpen, hConnected, hPosition⟩
  | submitConnection host port => exact absurd h movePosition_not_mem_connectMcu
  | refresh => exact absurd h movePosition_not_mem_refreshPositions
  | socketOpened => exact absurd h movePosition_not_mem_connectMcu
  | message message =>
    cases message with
    | connected address =>
      simp only [step, handleServerMessage, List.mem_cons, reduceCtorEq, false_or] at h
      exact absurd h movePosition_not_mem_refreshPositions
    | position reported position =>
      simp only [step, handleServerMessage, updatePosition] at h
      split at h <;> simp at h
    | positions positions errors =>
      simp only [step, handleServerMessage, List.mem_append] at h
      rcases h with hShown | hStatus
      · exact absurd hShown (sent_not_mem_updatePositions positions)
      · split at hStatus <;> simp at hStatus
    | _ => simp [step, handleServerMessage] at h
  | _ => simp [step] at h

end Ui

theorem carriesSlider_iff {h : History} (hArmed : Armed h) (e : Event) :
    CarriesSlider h e ↔ ReportsAgree h e := by
  constructor
  · intro hCarries
    cases e with
    | expire timer =>
      intro index slider position hTimer hOpen hConnected hSlider hReported
      obtain ⟨-, hOn, slider', hSlider', hPosition⟩ := hArmed timer index hTimer
      obtain rfl := Option.some.inj (hSlider.symm.trans hSlider')
      rw [hReported, Option.getD_some] at hPosition
      have hSent : .sent (.movePosition (h.ui.joints index).id (some position)
          (h.ui.joints index).acceleration (torqueLimit (h.ui.joints index).torquePercent)) ∈
            (h.ui.step (.expire timer)).2 := by
        rw [Ui.step, hTimer]
        exact Ui.mem_sendMove.mpr ⟨hOn, hOpen, hConnected, rfl, hPosition.symm, rfl, rfl⟩
      obtain ⟨index', slider', hIndex, hLast, hCarried⟩ := hCarries _ _ _ _ hSent
      obtain rfl := Option.some.inj (hTimer.symm.trans hIndex)
      obtain rfl := Option.some.inj (hSlider.symm.trans hLast)
      exact Option.some.inj hCarried
    | _ => trivial
  · intro hAgree id position acceleration limit hSent
    rcases Ui.movePosition_mem_step hSent with
      ⟨index, slider, rfl, hPosition⟩ | ⟨timer, index, rfl, hTimer, hOpen, hConnected, hPosition⟩
    · exact ⟨index, slider, rfl, by simp [History.step, Event.slider], hPosition⟩
    · obtain ⟨-, -, slider, hSlider, hHeld⟩ := hArmed timer index hTimer
      refine ⟨index, slider, hTimer, hSlider, hPosition.trans (hHeld.trans ?_)⟩
      cases hReported : h.reported index with
      | none => rfl
      | some reported =>
        have hSame := hAgree index slider reported hTimer hOpen hConnected hSlider hReported
        exact congrArg some hSame

theorem armed_load (host : String) (port : Int) (joints : JointIndex → Joint) :
    Armed (watched (.load host port joints)).init :=
  nofun

/-- In a run from the loaded page every move sent carries its joint's most recent slider
position if and only if no timer fires over a different report. -/
theorem moves_carry_slider_iff (host : String) (port : Int) (joints : JointIndex → Joint)
    (events : List Event) :
    (watched (.load host port joints)).Meets CarriesSlider
        (watched (.load host port joints)).init events ↔
      (watched (.load host port joints)).Meets ReportsAgree
        (watched (.load host port joints)).init events := by
  have hStep (h : History) (e : Event) (hArmed : Armed h) :
      Armed ((watched (.load host port joints)).step h e) := hArmed.step e
  exact Machine.meets_iff hStep (fun _ e hArmed => carriesSlider_iff hArmed e)
    (armed_load host port joints) events

def defaultJoints (index : JointIndex) : Joint where
  id := index.val + 2
  enabled := true
  acceleration := 20
  torquePercent := 100

/-- The first slider moves to 3000, and servo 2 reports 1000 before the timer fires. -/
def reportOverSlider : List Event :=
  [.socketOpened, .message (.connected "192.168.1.123:3333"), .input 0 ⟨3000, by decide, by decide⟩,
    .message (.position 2 1000), .expire 1]

theorem report_replaces_slider_move :
    ¬ (watched (.load "192.168.1.123" 3333 defaultJoints)).Meets CarriesSlider
      (watched (.load "192.168.1.123" 3333 defaultJoints)).init reportOverSlider := by
  rintro ⟨-, -, -, -, hCarries, -⟩
  obtain ⟨index, slider, hIndex, hSlider, hPosition⟩ := hCarries 2 (some 1000) 20 1000 (by decide)
  cases hIndex
  cases hSlider
  cases hPosition

end Fetchline.Browser
