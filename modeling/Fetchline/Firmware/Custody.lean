import Fetchline.Firmware.TaskSteps
import Fetchline.Library.Log

/-! # Draining after an unfinished transaction

Who holds the UART receiver, and in which stage of a command, under every
schedule. A bus that has to be drained is either held by the task that will do
it, or has just been let go by a task that takes it back before anyone else runs.
-/

namespace Fetchline

open Effects Effects.Program Sync Transition

/-- A transaction ended here without a valid status, or its command was dropped
while it held the UART. -/
def BusEvent.unfinished : BusEvent → Bool
  | .observed _ (.statusRejected _) _ => true
  | .cancelled _ heldUart => heldUart
  | _ => false

def BusEvent.drains : BusEvent → Bool
  | .observed _ .resynchronized _ => true
  | _ => false

def BusEvent.writes : BusEvent → Bool
  | .wrote _ _ => true
  | _ => false

/-- The last unfinished transaction has not been drained. -/
def tainted : List BusEvent → Bool
  | [] => false
  | e :: earlier => e.unfinished || (!e.drains && tainted earlier)

theorem tainted_of_undrained {between earlier : List BusEvent} {e : BusEvent}
    (hUnfinished : e.unfinished = true) (hNone : ∀ x ∈ between, x.drains = false) :
    tainted (between ++ e :: earlier) = true := by
  induction between with
  | nil => simp [tainted, hUnfinished]
  | cons x between ih =>
    have hTail := ih fun y hy => hNone y (List.mem_cons_of_mem x hy)
    have hHead := hNone x List.mem_cons_self
    simp [tainted, hHead, hTail]

def DrainedWrites (log : List BusEvent) : Prop :=
  Log.Everywhere (fun e earlier => e.writes = true → tainted earlier = false) log

theorem drainedWrites_cons_of_silent {e : BusEvent} (he : e.writes = false) {log : List BusEvent} :
    DrainedWrites (e :: log) ↔ DrainedWrites log := by
  simp [DrainedWrites, he]

structure Holds (s : System) (t : TaskId) (stage : Stage) : Prop where
  rx : s.uartRx.holder = some (.controller t) ↔ stage.holdsRx = true
  clean : stage.holdsRx = true → stage ≠ .dirty → tainted s.busLog = false

def InCustody {α : Type} (s : System) (t : TaskId) (p : Bus α) : Prop :=
  ∃ stage, p.Obeys custody stage (fun _ stage => stage.settled) ∧ Holds s t stage

/-- Only a command and a drain may hold the receiver. -/
def PhaseHolds (s : System) (t : TaskId) : Phase → Prop
  | .commanding _ command => InCustody s t command
  | .resynchronizing _ drain => InCustody s t drain
  | _ => s.uartRx.holder ≠ some (.controller t)

/-- What the tasks other than `t` keep. -/
structure CustodyBut (s : System) (t : TaskId) : Prop where
  phase : ∀ u, u ≠ t → PhaseHolds s u (s.controllers u)
  writes : DrainedWrites s.busLog

structure Custody (s : System) : Prop where
  phase : ∀ t, PhaseHolds s t (s.controllers t)
  writes : DrainedWrites s.busLog
  taken : tainted s.busLog = true → (∃ t, s.uartRx.holder = some (.controller t)) ∨
    (s.uartRx.holder = none ∧ ∃ t generation, s.running = some (.controller t) ∧
      s.controllers t = .resyncLocking generation)

theorem custody_init : Custody {} where
  phase _ := nofun
  writes := Log.everywhere_nil
  taken := nofun

/-- What becomes of a phase that is not touched when the receiver and the log change. -/
theorem PhaseHolds.frame {s s' : System} {u : TaskId} {phase : Phase} (h : PhaseHolds s u phase)
    (hRx : s'.uartRx.holder = some (.controller u) ↔ s.uartRx.holder = some (.controller u))
    (hTaint : s.uartRx.holder = some (.controller u) → tainted s'.busLog = true →
      tainted s.busLog = true) : PhaseHolds s' u phase := by
  have hProgram {α : Type} {p : Bus α} (h : InCustody s u p) : InCustody s' u p := by
    obtain ⟨stage, hObeys, hHolds⟩ := h
    refine ⟨stage, hObeys, hRx.trans hHolds.rx, ?_⟩
    intro hStage hDirty
    have hClean := hHolds.clean hStage hDirty
    by_contra hTainted
    rw [hTaint (hHolds.rx.mpr hStage) (by simpa using hTainted)] at hClean
    cases hClean
  cases phase
  case commanding session command => exact hProgram h
  case resynchronizing generation drain => exact hProgram h
  all_goals exact fun hHolder => h (hRx.mp hHolder)

theorem Custody.but {s : System} (h : Custody s) (t : TaskId) : CustodyBut s t :=
  ⟨fun u _ => h.phase u, h.writes⟩

theorem Custody.held {s : System} (h : Custody s) {t : TaskId}
    (hRunning : s.running = some (.controller t))
    (hPhase : ∀ generation, s.controllers t ≠ .resyncLocking generation)
    (hTainted : tainted s.busLog = true) : ∃ u, s.uartRx.holder = some (.controller u) := by
  rcases h.taken hTainted with hHeld | ⟨-, u, generation, hu, hLocking⟩
  · exact hHeld
  · rw [hRunning] at hu
    cases hu
    exact absurd hLocking (hPhase generation)

theorem CustodyBut.goto {s : System} {t : TaskId} {phase : Phase} (h : CustodyBut s t)
    (hPhase : PhaseHolds s t phase)
    (hTaken : tainted s.busLog = true → (∃ u, s.uartRx.holder = some (.controller u)) ∨
      (s.uartRx.holder = none ∧ s.running = some (.controller t) ∧
        ∃ generation, phase = .resyncLocking generation)) : Custody (s.goto t phase) where
  phase := by
    intro u
    rcases eq_or_ne u t with rfl | hut
    · rw [System.goto_self]
      exact hPhase.frame Iff.rfl fun _ h => h
    · rw [System.goto_of_ne hut]
      exact (h.phase u hut).frame Iff.rfl fun _ h => h
  writes := h.writes
  taken := by
    intro hTainted
    rcases hTaken hTainted with hHeld | ⟨hFree, hRunning, generation, rfl⟩
    · exact .inl hHeld
    · exact .inr ⟨hFree, t, generation, hRunning, System.goto_self s t _⟩

/-- Changes to anything but the receiver, the log and the tasks. -/
theorem CustodyBut.congr {s s' : System} {t : TaskId} (h : CustodyBut s t)
    (hControllers : s'.controllers = s.controllers) (hRx : s'.uartRx = s.uartRx)
    (hLog : s'.busLog = s.busLog) : CustodyBut s' t where
  phase := by
    intro u hut
    rw [hControllers]
    exact (h.phase u hut).frame (by rw [hRx]) fun _ hTainted => hLog ▸ hTainted
  writes := hLog ▸ h.writes

theorem CustodyBut.unlock {s : System} {t : TaskId} (h : CustodyBut s t) :
    CustodyBut (s.unlock t) t where
  phase := by
    intro u hut
    refine (h.phase u hut).frame ?_ fun _ hTainted => hTainted
    rw [System.unlock, Mutex.release_holder_eq_some]
    simp [hut]
  writes := h.writes

theorem unlock_holder_ne (s : System) (t : TaskId) :
    (s.unlock t).uartRx.holder ≠ some (.controller t) := by
  rw [System.unlock, ne_eq, Mutex.release_holder_eq_some]
  simp

structure OpCustody (s s' : System) (t : TaskId) (stage : Stage) : Prop where
  holds : Holds s' t stage
  rx : ∀ u, u ≠ t → (s'.uartRx.holder = some (.controller u) ↔
    s.uartRx.holder = some (.controller u))
  taint : ∀ u, u ≠ t → s.uartRx.holder = some (.controller u) → tainted s'.busLog = true →
    tainted s.busLog = true
  held : tainted s'.busLog = true → ∃ u, s'.uartRx.holder = some (.controller u)
  writes : DrainedWrites s.busLog → DrainedWrites s'.busLog

theorem OpCustody.neutral {s s' : System} {t : TaskId} {stage stage' : Stage}
    (hHolds : Holds s t stage)
    (hHeld : tainted s.busLog = true → ∃ u, s.uartRx.holder = some (.controller u))
    (hRx : s'.uartRx = s.uartRx) (hTaint : tainted s'.busLog = tainted s.busLog)
    (hWrites : DrainedWrites s.busLog → DrainedWrites s'.busLog)
    (hStage : stage'.holdsRx = stage.holdsRx) (hDirty : stage = .dirty → stage' = .dirty) :
    OpCustody s s' t stage' where
  holds := by
    constructor
    · rw [hRx, hStage]
      exact hHolds.rx
    · intro hHoldsRx hNotDirty
      rw [hTaint]
      exact hHolds.clean (hStage ▸ hHoldsRx) fun h => hNotDirty (hDirty h)
  rx := fun u _ => by rw [hRx]
  taint := fun u _ _ hTainted => hTaint ▸ hTainted
  held := by
    rw [hTaint, hRx]
    exact hHeld
  writes := hWrites

theorem OpCustody.logged {s : System} {t : TaskId} {stage stage' : Stage} {e : BusEvent}
    (hHolds : Holds s t stage) (hStage : stage.holdsRx = true) (hStage' : stage'.holdsRx = true)
    (hClean : stage' ≠ .dirty → tainted (e :: s.busLog) = false)
    (hWrites : e.writes = true → tainted s.busLog = false) :
    OpCustody s (s.log e) t stage' where
  holds := by
    refine ⟨?_, fun _ => hClean⟩
    rw [hStage']
    change s.uartRx.holder = _ ↔ _
    rw [hHolds.rx, hStage]
  rx := fun _ _ => Iff.rfl
  taint := by
    intro u hut hHolder
    rw [hHolds.rx.mpr hStage] at hHolder
    cases hHolder
    exact absurd rfl hut
  held := fun _ => ⟨t, hHolds.rx.mpr hStage⟩
  writes := fun h => (Log.everywhere_cons e s.busLog).mpr ⟨hWrites, h⟩

theorem perform_custody {s s' : System} {t : TaskId} {input : Input} {op : BusOp}
    {reply : op.Reply} {stage : Stage} (hHolds : Holds s t stage)
    (hAllowed : custody.allowed stage op)
    (hHeld : tainted s.busLog = true → ∃ u, s.uartRx.holder = some (.controller u))
    (hOp : s.perform t input op = some (reply, s')) :
    OpCustody s s' t (custody.next stage op reply) := by
  -- Operations that leave the receiver, the log and the stage alone.
  have hSame {s' : System} (hRx : s'.uartRx = s.uartRx) (hLog : s'.busLog = s.busLog)
      {stage' : Stage} (hStage : stage'.holdsRx = stage.holdsRx)
      (hDirty : stage = .dirty → stage' = .dirty) : OpCustody s s' t stage' :=
    .neutral hHolds hHeld hRx (by rw [hLog]) (fun h => hLog ▸ h) hStage hDirty
  cases System.performed hOp with
  | lockedRx hFree =>
    cases stage <;> first | exact hAllowed.elim | skip
    have hUntainted : tainted s.busLog = false := by
      by_contra hTainted
      obtain ⟨u, hu⟩ := hHeld (by simpa using hTainted)
      rw [hFree] at hu
      cases hu
    refine ⟨⟨by simp [custody, Stage.holdsRx], fun _ _ => hUntainted⟩, ?_, fun _ _ _ h => h,
      fun _ => ⟨t, rfl⟩, fun h => h⟩
    intro u hut
    simp [hFree, Ne.symm hut]
  | wrote packet =>
    cases stage <;> first | exact hAllowed.elim | skip
    have hClean := hHolds.clean rfl nofun
    exact .logged hHolds rfl rfl (fun _ => hClean) fun _ => hClean
  | written =>
    cases stage <;> first | exact hAllowed.elim | skip
    exact .logged hHolds rfl rfl (fun _ => hHolds.clean rfl nofun) nofun
  | discarded | discardFailed | quiet =>
    have hNext {reply : Bool} : custody.next stage .discard reply = stage := by
      cases stage <;> first | exact hAllowed.elim | rfl
    rw [hNext]
    apply hSame <;> first | rfl | exact id
  | tested =>
    cases stage <;> first | exact hAllowed.elim | skip
    refine hSame rfl rfl ?_ nofun
    simp only [custody]
    cases s.tunnel.enabled <;> rfl
  | observed observation =>
    cases observation with
    | statusAccepted frameLen =>
      cases stage <;> first | exact hAllowed.elim | skip
      exact .logged hHolds rfl rfl (fun _ => hHolds.clean rfl nofun) nofun
    | statusRejected failure =>
      cases stage <;> first | exact hAllowed.elim | skip
      exact .logged hHolds rfl rfl (fun h => absurd rfl h) nofun
    | resynchronized =>
      cases stage <;> first | exact hAllowed.elim | skip
      · exact .logged hHolds rfl rfl (fun _ => rfl) nofun
      · exact .logged hHolds rfl rfl (fun _ => rfl) nofun
  | lockedTx | writeFailed | read | readTimedOut | enabled | disabled =>
    cases stage <;> first | exact hAllowed.elim | skip
    apply hSame <;> first | rfl | nofun

theorem CustodyBut.perform {s s' : System} {t : TaskId} {input : Input} {op : BusOp}
    {reply : op.Reply} {stage : Stage} (h : CustodyBut s t) (hOp : OpCustody s s' t stage)
    (hPerform : s.perform t input op = some (reply, s')) : CustodyBut s' t where
  phase := by
    intro u hut
    rw [(System.perform_frame hPerform).controllers]
    exact (h.phase u hut).frame (hOp.rx u hut) (hOp.taint u hut)
  writes := hOp.writes h.writes

theorem Custody.advance {α : Type} {s s' : System} {t : TaskId} {input : Input} {op : BusOp}
    {next : op.Reply → Bus α} {reply : op.Reply} (h : Custody s)
    (hRunning : s.running = some (.controller t))
    (hPhase : ∀ generation, s.controllers t ≠ .resyncLocking generation)
    (hProgram : InCustody s t (.call op next)) (hOp : s.perform t input op = some (reply, s'))
    {phase : Phase} (hNext : InCustody s' t (next reply) → PhaseHolds s' t phase) :
    Custody (s'.goto t phase) := by
  obtain ⟨stage, ⟨hAllowed, hRest⟩, hHolds⟩ := hProgram
  have hCustody := perform_custody hHolds hAllowed (h.held hRunning hPhase) hOp
  refine ((h.but t).perform hCustody hOp).goto (hNext ⟨_, hRest reply, hCustody.holds⟩) ?_
  intro hTainted
  exact .inl (hCustody.held hTainted)

theorem Custody.conclude {α : Type} {s : System} {t : TaskId} {a : α} (h : Custody s)
    (hRunning : s.running = some (.controller t))
    (hPhase : ∀ generation, s.controllers t ≠ .resyncLocking generation)
    (hProgram : InCustody s t (.done a)) (hTainted : tainted s.busLog = true) :
    ∃ u, (s.unlock t).uartRx.holder = some (.controller u) := by
  obtain ⟨stage, hSettled, hHolds⟩ := hProgram
  obtain ⟨u, hu⟩ := h.held hRunning hPhase hTainted
  refine ⟨u, ?_⟩
  rw [System.unlock, Mutex.release_holder_eq_some]
  refine ⟨hu, ?_⟩
  rintro ⟨rfl⟩
  have hHoldsRx := hHolds.rx.mp hu
  have hNotDirty : stage ≠ .dirty := by
    rintro rfl
    exact hSettled
  rw [hHolds.clean hHoldsRx hNotDirty] at hTainted
  cases hTainted

theorem Custody.idle {s s₁ : System} {t : TaskId} {phase : Phase} (h : Custody s)
    (hRunning : s.running = some (.controller t))
    (hLocking : ∀ generation, s.controllers t ≠ .resyncLocking generation)
    (hFree : s.uartRx.holder ≠ some (.controller t))
    (hPhase : s.uartRx.holder ≠ some (.controller t) → PhaseHolds s t phase)
    (hControllers : s₁.controllers = s.controllers) (hRx : s₁.uartRx = s.uartRx)
    (hLog : s₁.busLog = s.busLog) : Custody (s₁.goto t phase) := by
  refine ((h.but t).congr hControllers hRx hLog).goto ?_ ?_
  · refine (hPhase hFree).frame (by rw [hRx]) ?_
    rw [hLog]
    exact fun _ h => h
  · intro hTainted
    rw [hLog] at hTainted
    rw [hRx]
    exact .inl (h.held hRunning hLocking hTainted)

theorem Custody.controllerStep {fromSlice : String → Option JsonRpcRequest} {s s' : System}
    {t : TaskId} {input : Input} (h : Custody s) (hRunning : s.running = some (.controller t))
    (hStep : ControllerStep fromSlice s t input s') : Custody s' := by
  have hSelf := h.phase t
  cases hStep with
  | yielded hCommand hLock =>
    refine ⟨?_, h.writes, ?_⟩
    · intro u
      exact (h.phase u).frame Iff.rfl fun _ h => h
    · intro hTainted
      rcases h.taken hTainted with hHeld | ⟨hFree, u, generation, hu, hLocking⟩
      · exact .inl hHeld
      · rw [hRunning] at hu
        cases hu
        exact absurd hFree (hLock generation hLocking)
  | @moved next hMove =>
    generalize hPhase : s.controllers t = phase at hMove hSelf
    cases hMove <;> apply h.idle hRunning (by simp [hPhase]) hSelf id <;> rfl
  | listened hPhase =>
    rw [hPhase] at hSelf
    apply h.idle hRunning (by simp [hPhase]) hSelf id <;> rfl
  | @claimed seen hClaims =>
    have hClaim (hLocking : ∀ generation, s.controllers t ≠ .resyncLocking generation)
        (hFree : s.uartRx.holder ≠ some (.controller t)) : Custody (s.claim t seen) := by
      rw [System.claim]
      split <;> apply h.idle hRunning hLocking hFree id <;> rfl
    generalize hPhase : s.controllers t = phase at hClaims hSelf
    cases hClaims <;> exact hClaim (by simp [hPhase]) hSelf
  | subscribed hPhase =>
    rw [hPhase] at hSelf
    apply h.idle hRunning (by simp [hPhase]) hSelf id <;> rfl
  | ended hExit =>
    generalize hPhase : s.controllers t = phase at hExit hSelf
    rw [System.endSession]
    cases hExit <;> apply h.idle hRunning (by simp [hPhase]) hSelf id <;> rfl
  | @requested session request hPhase hCurrent =>
    rw [hPhase] at hSelf
    refine h.idle hRunning (by simp [hPhase]) hSelf ?_ rfl rfl rfl
    intro hFree
    exact ⟨.fresh, handleJsonRpc_settles fromSlice jsonRpcBufferSize request,
      by simpa [Stage.holdsRx] using hFree, fun hHolds => by cases hHolds⟩
  | advanced hPhase hOp =>
    rw [hPhase] at hSelf
    exact h.advance hRunning (by simp [hPhase]) hSelf hOp id
  | @cancelled session op next hPhase hUnread =>
    have hBut : CustodyBut (s.log (.cancelled t (s.uartRx.holder = some (.controller t)))) t := by
      constructor
      · intro u hut
        refine (h.phase u).frame Iff.rfl ?_
        intro hHolder hTainted
        have hOther : s.uartRx.holder ≠ some (.controller t) := by
          rw [hHolder]
          simpa using hut
        simpa [System.log, tainted, BusEvent.unfinished, BusEvent.drains, hOther] using hTainted
      · exact (drainedWrites_cons_of_silent rfl).mpr h.writes
    refine hBut.unlock.goto (unlock_holder_ne _ t) ?_
    intro hTainted
    by_cases hHolder : s.uartRx.holder = some (.controller t)
    · refine .inr ⟨?_, hRunning, _, rfl⟩
      simp [System.unlock, System.log, Mutex.release, hHolder]
    · -- Somebody else holds the receiver, or nobody does and the bus is clean.
      left
      have hTainted : tainted s.busLog = true := by
        simpa [System.unlock, System.log, tainted, BusEvent.unfinished, BusEvent.drains,
          hHolder] using hTainted
      obtain ⟨u, hu⟩ := h.held hRunning (by simp [hPhase]) hTainted
      refine ⟨u, Mutex.release_holder_eq_some.mpr ⟨hu, ?_⟩⟩
      rintro ⟨rfl⟩
      exact hHolder hu
  | silent hPhase | answered hPhase =>
    rw [hPhase] at hSelf
    refine (h.but t).unlock.goto (unlock_holder_ne s t) ?_
    exact fun hTainted => .inl (h.conclude hRunning (by simp [hPhase]) hSelf hTainted)
  | @resyncLocked generation uartRx hPhase hLock =>
    obtain ⟨hFree, rfl⟩ := Mutex.acquire_eq_some_iff.mp hLock
    have hBut : CustodyBut { s with uartRx := ⟨some (.controller t)⟩ } t := by
      refine ⟨?_, h.writes⟩
      intro u hut
      exact (h.phase u).frame (by simp [hFree, Ne.symm hut]) fun _ h => h
    refine hBut.goto ?_ fun _ => .inl ⟨t, rfl⟩
    exact ⟨.dirty, (resynchronizeUart_cleans (.inr rfl)).mono (by rintro _ _ rfl; trivial),
      by simp [Stage.holdsRx], fun _ h => absurd rfl h⟩
  | drained hPhase hOp =>
    rw [hPhase] at hSelf
    exact h.advance hRunning (by simp [hPhase]) hSelf hOp id
  | outdated hPhase | resynchronized hPhase =>
    rw [hPhase] at hSelf
    rw [System.endSession]
    refine CustodyBut.goto ((h.but t).unlock.congr rfl rfl rfl) (unlock_holder_ne s t) ?_
    exact fun hTainted => .inl (h.conclude hRunning (by simp [hPhase]) hSelf hTainted)

theorem Custody.step {fromSlice : String → Option JsonRpcRequest} {s s' : System} {a : Action}
    (h : Custody s) (hStep : SystemStep fromSlice s a s') : Custody s' := by
  cases hStep with
  | ignored => exact h
  | scheduled hNone =>
    refine ⟨fun t => (h.phase t).frame Iff.rfl fun _ h => h, h.writes, ?_⟩
    intro hTainted
    rcases h.taken hTainted with hHeld | ⟨-, t, -, hRunning, -⟩
    · exact .inl hHeld
    · rw [hNone] at hRunning
      cases hRunning
  | arrived => exact ⟨fun t => (h.phase t).frame Iff.rfl fun _ h => h, h.writes, h.taken⟩
  | controller hRunning hStep => exact h.controllerStep hRunning hStep
  | raw hRunning hFrame =>
    refine ⟨?_, hFrame.busLog ▸ h.writes, ?_⟩
    · intro t
      rw [hFrame.controllers]
      exact (h.phase t).frame (hFrame.uartRx t) fun _ hTainted => hFrame.busLog ▸ hTainted
    · intro hTainted
      rw [hFrame.busLog] at hTainted
      rcases h.taken hTainted with ⟨t, hHeld⟩ | ⟨-, t, -, hController, -⟩
      · exact .inl ⟨t, (hFrame.uartRx t).mpr hHeld⟩
      · rw [hRunning] at hController
        cases hController

theorem custody_reach {fromSlice : String → Option JsonRpcRequest} {ok : System → Action → Prop}
    {s : System} (h : (firmware fromSlice).Reach ok s) : Custody s :=
  firmware_invariant Custody custody_init (fun _ _ _ _ hInv _ hStep => hInv.step hStep) h

/-- Between an unfinished transaction and the next packet of any controller
command lies a completed `resynchronize_uart`. -/
theorem unfinished_transaction_is_drained (fromSlice : String → Option JsonRpcRequest) (s : System)
    (hReach : (firmware fromSlice).Reachable s) (later between earlier : List BusEvent)
    (t : TaskId) (packet : List UInt8) (e : BusEvent)
    (hLog : s.busLog = later ++ .wrote t packet :: (between ++ e :: earlier))
    (hUnfinished : e.unfinished = true) : ∃ x ∈ between, x.drains = true := by
  by_contra hNone
  push Not at hNone
  have hClean := (custody_reach hReach).writes _ _ _ hLog rfl
  have hTainted : tainted (between ++ e :: earlier) = true :=
    tainted_of_undrained hUnfinished fun x hx => by simpa using hNone x hx
  rw [hTainted] at hClean
  cases hClean

/-- A takeover drops a motor stop that waits for its reply; the packet of the new
owner comes after the drain. -/
theorem unfinished_transaction_is_drained_takeover :
    let M := firmware fun _ => some ⟨"2.0", "motor.stop", { id := some 1 }, some 7⟩
    let s := M.run M.init (turn (.controller 0) [.done, .done, .done, .pending, .text "stop",
        .pending, .pending, .pending, .pending, .done, .pending] ++
      turn (.controller 1) [.done, .done, .done, .pending, .text "stop", .pending, .pending] ++
      turn (.controller 0) [.pending, .pending, .elapsed, .pending, .pending, .pending] ++
      turn (.controller 1) [.pending, .pending, .pending])
    ∃ x ∈ (s.busLog.drop 1).take 1, x.drains = true := by
  intro M s
  have hLog : s.busLog = [] ++
      .wrote 1 (instructionPacket 1 stsInstructionWrite (stsAcceleration :: List.replicate 7 0)) ::
        ((s.busLog.drop 1).take 1 ++ .cancelled 0 true :: s.busLog.drop 3) := by decide
  exact unfinished_transaction_is_drained _ s (Machine.reachable_run _) _ _ _ _ _ _ hLog rfl

end Fetchline
