import Fetchline.Firmware.Stages
import Fetchline.Firmware.Tasks

/-! # What one step of a task can do

The transition functions are inverted once. An invariant of the firmware is then
a case analysis over the constructors of `ControllerStep`, and none of its proofs
unfolds a transition.
-/

namespace Fetchline

open Effects Sync Transition

/-- Phase changes that touch nothing shared. -/
inductive PhaseMove : Phase → Phase → Prop where
  | connected : PhaseMove .accepting .upgrading
  | refused : PhaseMove .accepting .backingOff
  | waited : PhaseMove .backingOff .configuring
  | rejected : PhaseMove .upgrading .releasing
  | flushed : PhaseMove .releasing .configuring
  | responded (session : Session) (response : EncodedResponse jsonRpcBufferSize) :
      PhaseMove (.responding session response) (.reading session)

/-- The sessions of these phases end without a UART guard to drop. -/
inductive SessionExit : Phase → UInt64 → Prop where
  | supersededInSetup (generation : UInt64) : SessionExit (.subscribing generation) generation
  | reading (session : Session) : SessionExit (.reading session) session.generation
  | responding (session : Session) (response : EncodedResponse jsonRpcBufferSize) :
      SessionExit (.responding session response) session.generation

/-- The phases from which a task calls `try_claim`, with the number of listener
changes its receiver has seen by then. -/
inductive Claims (listenerChanges : Watch UInt64) : Phase → Nat → Prop where
  | upgraded : Claims listenerChanges .upgrading 0
  | notified {seen : Nat} (h : listenerChanges.Unread seen) :
      Claims listenerChanges (.claiming seen) listenerChanges.sent

inductive ControllerStep (fromSlice : String → Option JsonRpcRequest) (s : System) (t : TaskId)
    (input : Input) : System → Prop where
  | yielded
      (hCommand : ∀ session command, s.controllers t = .commanding session command →
        Suspended command ∧ ¬ s.ownership.changes.Unread session.seen)
      (hLock : ∀ generation, s.controllers t = .resyncLocking generation → s.uartRx.holder ≠ none) :
      ControllerStep fromSlice s t input s.yield
  | moved {next : Phase} (h : PhaseMove (s.controllers t) next) :
      ControllerStep fromSlice s t input (s.goto t next)
  | listened (h : s.controllers t = .configuring) (hInput : input = .done) :
      ControllerStep fromSlice s t input ((s.listenerReady t).goto t .accepting)
  | claimed {seen : Nat} (h : Claims s.ownership.listenerChanges (s.controllers t) seen) :
      ControllerStep fromSlice s t input (s.claim t seen)
  | subscribed {generation : UInt64} (h : s.controllers t = .subscribing generation)
      (hValue : s.ownership.changes.value = some generation) :
      ControllerStep fromSlice s t input
        (s.goto t (.reading ⟨generation, s.ownership.changes.sent⟩))
  | ended {generation : UInt64} (h : SessionExit (s.controllers t) generation) :
      ControllerStep fromSlice s t input (s.endSession t generation)
  | requested {session : Session} {request : String} (h : s.controllers t = .reading session)
      (hCurrent : s.ownership.isCurrent session.generation = true) :
      ControllerStep fromSlice s t input
        (s.goto t (.commanding session (handleJsonRpc fromSlice jsonRpcBufferSize request)))
  | advanced {session : Session} {op : BusOp} {next : op.Reply → Bus JsonRpcAnswer}
      {reply : op.Reply} {s' : System} (h : s.controllers t = .commanding session (.call op next))
      (hOp : s.perform t input op = some (reply, s')) :
      ControllerStep fromSlice s t input (s'.goto t (.commanding session (next reply)))
  | cancelled {session : Session} {op : BusOp} {next : op.Reply → Bus JsonRpcAnswer}
      (h : s.controllers t = .commanding session (.call op next))
      (hUnread : s.ownership.changes.Unread session.seen) :
      ControllerStep fromSlice s t input (s.cancel t session.generation)
  | silent {session : Session} (h : s.controllers t = .commanding session (.done none)) :
      ControllerStep fromSlice s t input ((s.unlock t).goto t (.reading session))
  | answered {session : Session} {response : EncodedResponse jsonRpcBufferSize}
      (h : s.controllers t = .commanding session (.done (some response))) :
      ControllerStep fromSlice s t input ((s.unlock t).goto t (.responding session response))
  | outdated {session : Session} {response : EncodedResponse jsonRpcBufferSize}
      (h : s.controllers t = .commanding session (.done (some response))) :
      ControllerStep fromSlice s t input ((s.unlock t).endSession t session.generation)
  | resyncLocked {generation : UInt64} {uartRx : Mutex Task}
      (h : s.controllers t = .resyncLocking generation)
      (hLock : s.uartRx.acquire (.controller t) = some uartRx) :
      ControllerStep fromSlice s t input
        ({ s with uartRx }.goto t (.resynchronizing generation resynchronizeUart))
  | drained {generation : UInt64} {op : BusOp} {next : op.Reply → Bus Unit}
      {reply : op.Reply} {s' : System}
      (h : s.controllers t = .resynchronizing generation (.call op next))
      (hOp : s.perform t input op = some (reply, s')) :
      ControllerStep fromSlice s t input (s'.goto t (.resynchronizing generation (next reply)))
  | resynchronized {generation : UInt64} {result : Unit}
      (h : s.controllers t = .resynchronizing generation (.done result)) :
      ControllerStep fromSlice s t input ((s.unlock t).endSession t generation)

namespace System

variable {fromSlice : String → Option JsonRpcRequest} {s s' : System} {t : TaskId} {input : Input}

theorem awaits_of_pending {op : BusOp} (h : s.perform t input op = none) : op.awaits = true := by
  cases op <;> first | rfl | (simp [perform] at h)

/-- An operation leaves the tasks, the ownership and the arrivals alone. -/
structure OpFrame (s s' : System) : Prop where
  ownership : s'.ownership = s.ownership
  controllers : s'.controllers = s.controllers
  raw : s'.raw = s.raw
  running : s'.running = s.running
  handovers : s'.handovers = s.handovers
  arrived : s'.arrived = s.arrived

/-- What an operation that is not pending has done. -/
inductive Performed (s : System) (t : TaskId) (input : Input) :
    (op : BusOp) → op.Reply → System → Prop where
  | lockedRx (hFree : s.uartRx.holder = none) :
      Performed s t input .lockUartRx () { s with uartRx := ⟨some (.controller t)⟩ }
  | lockedTx (uartTx : Mutex Task) : Performed s t input .lockUartTx () { s with uartTx }
  | wrote (packet : List UInt8) :
      Performed s t input (.writeAll packet) () (s.log (.wrote t packet))
  | written (hInput : input = .done) :
      Performed s t input .written true (s.log (.written t s.arrived))
  | writeFailed : Performed s t input .written false s
  | read {byte : UInt8} {rx : List UInt8} (hRx : s.rx = byte :: rx) :
      Performed s t input .readByte (some byte) { s with rx }
  | readTimedOut : Performed s t input .readByte none s
  | discarded : Performed s t input .discard true { s with rx := s.rx.drop 64 }
  | discardFailed : Performed s t input .discard true s
  | quiet : Performed s t input .discard false s
  | tested : Performed s t input .isTunnelEnabled s.tunnel.enabled s
  | enabled : Performed s t input .enableTunnel () { s with tunnel := s.tunnel.enable }
  | disabled : Performed s t input .disableTunnel () { s with tunnel := s.tunnel.disable }
  | observed (observation : Observation) :
      Performed s t input (.observe observation) () (s.log (.observed t observation s.consumed))

theorem performed {op : BusOp} {reply : op.Reply} (h : s.perform t input op = some (reply, s')) :
    Performed s t input op reply s' := by
  cases op with
  | lockUartRx =>
    obtain ⟨uartRx, hLock, hs⟩ := Option.map_eq_some_iff.mp h
    obtain ⟨hFree, rfl⟩ := Mutex.acquire_eq_some_iff.mp hLock
    cases hs
    exact .lockedRx hFree
  | lockUartTx =>
    obtain ⟨uartTx, -, hs⟩ := Option.map_eq_some_iff.mp h
    cases hs
    exact .lockedTx uartTx
  | written =>
    cases input <;> cases h
    · exact .written rfl
    · exact .writeFailed
  | readByte =>
    simp only [perform] at h
    split at h
    · rename_i hRx
      cases h
      exact .read hRx
    · split at h <;> cases h
      exact .readTimedOut
  | discard =>
    simp only [perform] at h
    split at h
    · cases h
      exact .discardFailed
    · split at h
      · cases h
        exact .discarded
      · split at h <;> cases h
        exact .quiet
  | writeAll | isTunnelEnabled | enableTunnel | disableTunnel | observe =>
    cases h
    constructor

theorem perform_frame {op : BusOp} {reply : op.Reply} (h : s.perform t input op = some (reply, s')) :
    OpFrame s s' := by
  cases performed h <;> exact ⟨rfl, rfl, rfl, rfl, rfl, rfl⟩

theorem yield_step (hCommand : ∀ session command, s.controllers t ≠ .commanding session command)
    (hLock : ∀ generation, s.controllers t ≠ .resyncLocking generation) :
    ControllerStep fromSlice s t input s.yield :=
  .yielded (fun session command h => absurd h (hCommand session command))
    fun generation h => absurd h (hLock generation)

theorem pollController_step (fromSlice : String → Option JsonRpcRequest) (s : System) (t : TaskId)
    (input : Input) : ControllerStep fromSlice s t input (s.pollController fromSlice t input) := by
  unfold pollController
  cases h : s.controllers t with
  | configuring =>
    cases input
    case done => exact .listened h rfl
    all_goals exact yield_step (by simp [h]) (by simp [h])
  | accepting =>
    cases input
    case done => exact .moved (h ▸ .connected)
    case failed => exact .moved (h ▸ .refused)
    all_goals exact yield_step (by simp [h]) (by simp [h])
  | backingOff =>
    cases input
    case elapsed => exact .moved (h ▸ .waited)
    all_goals exact yield_step (by simp [h]) (by simp [h])
  | upgrading =>
    cases input
    case done => exact .claimed (h ▸ .upgraded)
    case failed => exact .moved (h ▸ .rejected)
    case elapsed => exact .moved (h ▸ .rejected)
    all_goals exact yield_step (by simp [h]) (by simp [h])
  | claiming seen =>
    dsimp only
    split
    · exact .claimed (h ▸ .notified ‹_›)
    · exact yield_step (by simp [h]) (by simp [h])
  | subscribing generation =>
    dsimp only
    split
    · exact yield_step (by simp [h]) (by simp [h])
    · rename_i announced hValue
      split
      · rename_i hSame
        exact .subscribed h (hSame ▸ hValue)
      · exact .ended (h ▸ .supersededInSetup generation)
  | reading session =>
    have hExit : SessionExit (s.controllers t) session.generation := h ▸ .reading session
    cases input
    case text request =>
      dsimp only
      split
      · exact .requested h ‹_›
      · exact .ended hExit
    case failed => exact .ended hExit
    all_goals
      dsimp only
      split
      · exact .ended hExit
      · exact yield_step (by simp [h]) (by simp [h])
  | commanding session command =>
    cases command with
    | done answer =>
      cases answer with
      | none => exact .silent h
      | some response =>
        dsimp only
        split
        · exact .answered h
        · exact .outdated h
    | call op next =>
      dsimp only
      split
      · exact .advanced h ‹_›
      · rename_i hPending
        split
        · exact .cancelled h ‹_›
        · rename_i hSeen
          refine .yielded ?_ (by simp [h])
          intro session' command' h'
          cases h.symm.trans h'
          exact ⟨awaits_of_pending hPending, hSeen⟩
  | resyncLocking generation =>
    dsimp only
    split
    · exact .resyncLocked h ‹_›
    · exact .yielded (by simp [h]) fun _ _ => Mutex.acquire_eq_none_iff.mp ‹_›
  | resynchronizing generation drain =>
    cases drain with
    | done result => exact .resynchronized h
    | call op next =>
      dsimp only
      split
      · exact .drained h ‹_›
      · exact yield_step (by simp [h]) (by simp [h])
  | responding session response =>
    cases input
    case done => exact .moved (h ▸ .responded session response)
    case failed => exact .ended (h ▸ .responding session response)
    all_goals exact yield_step (by simp [h]) (by simp [h])
  | releasing =>
    cases input
    case done => exact .moved (h ▸ .flushed)
    case failed => exact .moved (h ▸ .flushed)
    case elapsed => exact .moved (h ▸ .flushed)
    all_goals exact yield_step (by simp [h]) (by simp [h])

theorem claim_frame (s : System) (t : TaskId) (seen : Nat) :
    (s.claim t seen).running = s.running ∧ (s.claim t seen).busLog = s.busLog ∧
      (s.claim t seen).tunnel = s.tunnel ∧
      ∀ u, u ≠ t → (s.claim t seen).controllers u = s.controllers u := by
  rw [claim]
  split <;> exact ⟨rfl, rfl, rfl, fun u hu => goto_of_ne hu⟩

theorem controllerStep_others (h : ControllerStep fromSlice s t input s') {u : TaskId}
    (hu : u ≠ t) : s'.controllers u = s.controllers u := by
  cases h with
  | yielded => rfl
  | claimed => exact (claim_frame s t _).2.2.2 u hu
  | advanced _ hOp => rw [goto_of_ne hu, (perform_frame hOp).controllers]
  | drained _ hOp => rw [goto_of_ne hu, (perform_frame hOp).controllers]
  | _ => exact goto_of_ne hu

theorem commanding_after (h : ControllerStep fromSlice s t input s') {session : Session}
    {command : Bus JsonRpcAnswer} (hPhase : s'.controllers t = .commanding session command) :
    (s' = s.yield ∧ s.controllers t = .commanding session command ∧ Suspended command) ∨
    (s' = s.goto t (.commanding session command) ∧
      s.ownership.isCurrent session.generation = true ∧
      ∃ request, command = handleJsonRpc fromSlice jsonRpcBufferSize request) ∨
    (∃ op next reply s₁, s.controllers t = .commanding session (.call op next) ∧
      s.perform t input op = some (reply, s₁) ∧ command = next reply ∧
      s' = s₁.goto t (.commanding session command)) := by
  cases h with
  | yielded hCommand => exact .inl ⟨rfl, hPhase, (hCommand session command hPhase).1⟩
  | moved hMove =>
    rw [goto_self] at hPhase
    rw [hPhase] at hMove
    generalize s.controllers t = before at hMove
    cases hMove
  | claimed =>
    rw [claim] at hPhase
    split at hPhase <;> rw [goto_self] at hPhase <;> cases hPhase
  | requested _ hCurrent =>
    rw [goto_self] at hPhase
    cases hPhase
    exact .inr (.inl ⟨rfl, hCurrent, _, rfl⟩)
  | advanced hOld hOp =>
    rw [goto_self] at hPhase
    cases hPhase
    exact .inr (.inr ⟨_, _, _, _, hOld, hOp, rfl, rfl⟩)
  | ended => rw [endSession, goto_self] at hPhase; cases hPhase
  | outdated => rw [endSession, goto_self] at hPhase; cases hPhase
  | resynchronized => rw [endSession, goto_self] at hPhase; cases hPhase
  | cancelled => rw [cancel, goto_self] at hPhase; cases hPhase
  | _ => rw [goto_self] at hPhase; cases hPhase

/-- The raw tunnel task never touches what belongs to the controllers, and takes
bytes only while no controller holds the receiver. -/
structure RawFrame (s s' : System) : Prop where
  ownership : s'.ownership = s.ownership
  controllers : s'.controllers = s.controllers
  handovers : s'.handovers = s.handovers
  busLog : s'.busLog = s.busLog
  arrived : s'.arrived = s.arrived
  tunnel : s'.tunnel.enabled = s.tunnel.enabled
  running : s'.running = s.running ∨ s'.running = none
  uartRx : ∀ t, s'.uartRx.holder = some (.controller t) ↔ s.uartRx.holder = some (.controller t)
  taken : s'.rx <:+ s.rx
  kept : ∀ t, s.uartRx.holder = some (.controller t) → s'.rx = s.rx

theorem RawFrame.trans {s₁ s₂ s₃ : System} (h : RawFrame s₁ s₂) (h' : RawFrame s₂ s₃) :
    RawFrame s₁ s₃ where
  ownership := h'.ownership.trans h.ownership
  controllers := h'.controllers.trans h.controllers
  handovers := h'.handovers.trans h.handovers
  busLog := h'.busLog.trans h.busLog
  arrived := h'.arrived.trans h.arrived
  tunnel := h'.tunnel.trans h.tunnel
  running := by
    rcases h'.running with hRunning | hRunning
    · rw [hRunning]
      exact h.running
    · exact .inr hRunning
  uartRx := fun t => (h'.uartRx t).trans (h.uartRx t)
  taken := h'.taken.trans h.taken
  kept := fun t hHeld => (h'.kept t ((h.uartRx t).mpr hHeld)).trans (h.kept t hHeld)

theorem rawFrame_refl (s : System) : RawFrame s s :=
  ⟨rfl, rfl, rfl, rfl, rfl, rfl, .inl rfl, fun _ => Iff.rfl, List.suffix_refl _, fun _ _ => rfl⟩

theorem rawFrame_yield (s : System) : RawFrame s s.yield :=
  { rawFrame_refl s with running := .inr rfl }

theorem rawFrame_gotoRaw (s : System) (phase : RawPhase) : RawFrame s (s.gotoRaw phase) :=
  { rawFrame_refl s with }

theorem rawFrame_takeCommand (s : System) : RawFrame s s.takeCommand :=
  { rawFrame_refl s with }

theorem rawFrame_unlockRaw (s : System) : RawFrame s s.unlockRaw where
  __ := rawFrame_refl s
  uartRx := by
    intro t
    rw [unlockRaw, Mutex.release_holder_eq_some]
    simp

theorem rawFrame_release (s : System) (phase : RawPhase) :
    RawFrame s (s.unlockRaw.gotoRaw phase) := (rawFrame_unlockRaw s).trans (rawFrame_gotoRaw _ phase)

theorem rawFrame_pollUartRead (s : System) (input : Input) : RawFrame s (s.pollUartRead input) := by
  unfold pollUartRead
  split
  · exact rawFrame_yield s
  · rename_i uartRx hLock
    -- The receiver was free or already ours, so no controller holds it.
    have hMine : uartRx.holder = some .rawTunnel ∧ ∀ t, s.uartRx.holder ≠ some (.controller t) := by
      split at hLock
      · cases hLock
        simp_all
      · obtain ⟨hFree, rfl⟩ := Mutex.acquire_eq_some_iff.mp hLock
        simp [hFree]
    obtain ⟨hHolder, hFree⟩ := hMine
    have hTake (n : Nat) : RawFrame s { s with uartRx, rx := s.rx.drop n } :=
      { rawFrame_refl s with
        uartRx := by simp [hHolder, hFree]
        taken := List.drop_suffix n s.rx
        kept := fun t hHeld => absurd hHeld (hFree t) }
    dsimp only
    split
    · exact (hTake 0).trans (rawFrame_release _ _)
    · split
      · exact (hTake 0).trans (rawFrame_yield _)
      · exact (hTake copyBufferSize).trans (rawFrame_release _ _)

theorem pollRaw_frame (s : System) (input : Input) : RawFrame s (s.pollRaw input) := by
  unfold pollRaw
  cases s.raw with
  | looping =>
    dsimp only
    split <;> exact rawFrame_gotoRaw s _
  | idle =>
    dsimp only
    split
    · exact (rawFrame_takeCommand s).trans (rawFrame_gotoRaw _ _)
    · exact rawFrame_yield s
  | configuring => cases input <;> first | exact rawFrame_gotoRaw s _ | exact rawFrame_yield s
  | listening =>
    dsimp only
    split
    · exact (rawFrame_takeCommand s).trans (rawFrame_gotoRaw _ _)
    · cases input <;> first | exact rawFrame_gotoRaw s _ | exact rawFrame_yield s
  | serving =>
    dsimp only
    split
    · exact (rawFrame_takeCommand s).trans (rawFrame_release _ _)
    · exact (rawFrame_takeCommand s).trans (rawFrame_unlockRaw _)
    · split <;> first | exact rawFrame_release s _ | exact rawFrame_pollUartRead s _
  | lockingTx bytes =>
    dsimp only
    split
    · have hLock (uartTx : Mutex Task) : RawFrame s { s with uartTx } := { rawFrame_refl s with }
      exact (hLock _).trans (rawFrame_gotoRaw _ _)
    · exact rawFrame_yield s
  | writingTx bytes => cases input <;> first | exact rawFrame_release s _ | exact rawFrame_yield s
  | reporting bytes => cases input <;> first | exact rawFrame_gotoRaw s _ | exact rawFrame_yield s
  | pausing => cases input <;> first | exact rawFrame_gotoRaw s _ | exact rawFrame_yield s
  | releasing backOff => cases input <;> first | exact rawFrame_gotoRaw s _ | exact rawFrame_yield s
  | backingOff => cases input <;> first | exact rawFrame_gotoRaw s _ | exact rawFrame_yield s

end System

inductive SystemStep (fromSlice : String → Option JsonRpcRequest) (s : System) :
    Action → System → Prop where
  | ignored {a : Action} : SystemStep fromSlice s a s
  | scheduled {task : Task} (h : s.running = none) :
      SystemStep fromSlice s (.schedule task) { s with running := some task }
  | arrived {byte : UInt8} : SystemStep fromSlice s (.arrive byte)
      { s with rx := s.rx ++ [byte], arrived := s.arrived + 1 }
  | controller {t : TaskId} {input : Input} {s' : System}
      (hRunning : s.running = some (.controller t)) (h : ControllerStep fromSlice s t input s') :
      SystemStep fromSlice s (.poll input) s'
  | raw {input : Input} {s' : System} (hRunning : s.running = some .rawTunnel)
      (h : s.RawFrame s') : SystemStep fromSlice s (.poll input) s'

theorem System.step_cases (fromSlice : String → Option JsonRpcRequest) (s : System) (a : Action) :
    SystemStep fromSlice s a (s.step fromSlice a) := by
  cases a with
  | schedule task =>
    rw [step]
    split
    · exact .scheduled ‹_›
    · exact .ignored
  | arrive byte => exact .arrived
  | poll input =>
    rw [step]
    split
    · exact .ignored
    · exact .controller ‹_› (pollController_step fromSlice s _ input)
    · exact .raw ‹_› (pollRaw_frame s input)

/-- The invariant rule of the firmware, for runs whose steps meet `ok`. -/
theorem firmware_invariant {fromSlice : String → Option JsonRpcRequest}
    {ok : System → Action → Prop} (inv : System → Prop) (hInit : inv {})
    (hStep : ∀ s a s', (firmware fromSlice).Reach ok s → inv s → ok s a →
      SystemStep fromSlice s a s' → inv s') {s : System} (h : (firmware fromSlice).Reach ok s) :
    inv s :=
  h.invariant hInit fun s a hReach hInv hOk => hStep s a _ hReach hInv hOk (s.step_cases fromSlice a)

end Fetchline
