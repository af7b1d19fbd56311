import Fetchline.Firmware.TaskSteps
import Mathlib.Data.UInt

/-! # The handover protocol, without the bus

What the three controller tasks do to `ControllerOwnership`, with everything
about requests and the UART forgotten. A task plays one `Role`; the firmware
refines the moves of this protocol step by step.
-/

namespace Fetchline

open Effects Sync Transition

/-- `vacant` is a task that has called `listener_ready` and holds no session,
`retiring` one that is on its way back to listening, `leaving` one that has left
its command loop but has not released its generation. -/
inductive Role where
  | retiring
  | vacant
  | waiting (seen : Nat)
  | subscribing (generation : UInt64)
  | owner (session : Session)
  | leaving (generation : UInt64)
deriving DecidableEq, Repr

namespace Role

def generation : Role → Option UInt64
  | .subscribing generation | .leaving generation => some generation
  | .owner session => some session.generation
  | _ => none

/-- Tasks that have to call `listener_ready` before they can claim again. -/
def away : Role → Bool
  | .vacant | .waiting _ => false
  | _ => true

theorem away_of_generation {role : Role} {g : UInt64} (h : role.generation = some g) :
    role.away = true := by
  cases role <;> first | rfl | cases h

end Role

def Phase.role : Phase → Role
  | .configuring | .releasing => .retiring
  | .accepting | .backingOff | .upgrading => .vacant
  | .claiming seen => .waiting seen
  | .subscribing generation => .subscribing generation
  | .reading session | .commanding session _ | .responding session _ => .owner session
  | .resyncLocking generation | .resynchronizing generation _ => .leaving generation

/-- The task that was granted a generation last. -/
def lastHolder : List Handover → Option TaskId
  | [] => none
  | .granted t _ _ :: _ => some t
  | .listening _ :: earlier => lastHolder earlier

/-- The task whose session the last replacing grant superseded. -/
def lastSuperseded : List Handover → Option TaskId
  | [] => none
  | .granted _ _ true :: earlier => lastHolder earlier
  | .granted _ _ false :: earlier => lastSuperseded earlier
  | .listening _ :: earlier => lastSuperseded earlier

/-- `u` was superseded by some replacing grant and has not called
`listener_ready` since. -/
def owesListener (u : TaskId) : List Handover → Bool
  | [] => false
  | .granted _ _ replacesActive :: earlier =>
    (replacesActive && lastHolder earlier == some u) || owesListener u earlier
  | .listening t :: earlier => t != u && owesListener u earlier

structure Roster where
  ownership : ControllerOwnership
  roles : TaskId → Role
  handovers : List Handover

def Roster.assign (r : Roster) (t : TaskId) (role : Role) : Roster :=
  { r with roles := Function.update r.roles t role }

@[simp] theorem Roster.assign_self (r : Roster) (t : TaskId) (role : Role) :
    (r.assign t role).roles t = role := by simp [assign]

theorem Roster.assign_of_ne {r : Roster} {t u : TaskId} {role : Role} (h : u ≠ t) :
    (r.assign t role).roles u = r.roles u := by simp [assign, h]

theorem Roster.assign_cases {P : Role → Prop} {r : Roster} {t u : TaskId} {role : Role}
    (h : P ((r.assign t role).roles u)) : (u = t ∧ P role) ∨ (u ≠ t ∧ P (r.roles u)) := by
  rcases eq_or_ne u t with rfl | hut
  · rw [assign_self] at h
    exact .inl ⟨rfl, h⟩
  · rw [assign_of_ne hut] at h
    exact .inr ⟨hut, h⟩

theorem Roster.role_cases {r : Roster} {t u : TaskId} {role role' : Role}
    (h : (r.assign t role).roles u = role') :
    (u = t ∧ role = role') ∨ (u ≠ t ∧ r.roles u = role') :=
  assign_cases (P := (· = role')) h

theorem Roster.generation_cases {r : Roster} {t u : TaskId} {role : Role} {g : UInt64}
    (h : ((r.assign t role).roles u).generation = some g) :
    (u = t ∧ role.generation = some g) ∨ (u ≠ t ∧ (r.roles u).generation = some g) :=
  assign_cases (P := (·.generation = some g)) h

theorem Roster.role_before {r : Roster} {t u : TaskId} {role role' : Role}
    (h : (r.assign t role).roles u = role') (hNe : role' ≠ role) : r.roles u = role' := by
  obtain ⟨-, hRole⟩ | ⟨-, hBefore⟩ := role_cases h
  · exact absurd hRole.symm hNe
  · exact hBefore

/-- `listens` marks the move in which `t` calls `listener_ready`. -/
inductive Move (t : TaskId) (r : Roster) : (listens : Bool) → Roster → Prop where
  | stay : Move t r false r
  | retire (h : r.roles t = .vacant) : Move t r false (r.assign t .retiring)
  | listen (h : r.roles t = .retiring) : Move t r true
      (Roster.assign ⟨r.ownership.listenerReady, r.roles, .listening t :: r.handovers⟩ t .vacant)
  | grant {generation : UInt64} {replacesActive : Bool} {ownership : ControllerOwnership}
      (h : (r.roles t).away = false)
      (hClaim : r.ownership.attemptClaim = (some (generation, replacesActive), ownership)) :
      Move t r false (Roster.assign
        ⟨ownership, r.roles, .granted t generation replacesActive :: r.handovers⟩ t
        (.subscribing generation))
  | refuse {ownership : ControllerOwnership} {seen : Nat} (h : (r.roles t).away = false)
      (hClaim : r.ownership.attemptClaim = (none, ownership))
      (hSeen : seen ≤ r.ownership.listenerChanges.sent) :
      Move t r false ({ r with ownership }.assign t (.waiting seen))
  | subscribe {generation : UInt64} (h : r.roles t = .subscribing generation)
      (hValue : r.ownership.changes.value = some generation) :
      Move t r false (r.assign t (.owner ⟨generation, r.ownership.changes.sent⟩))
  | lose {session : Session} (h : r.roles t = .owner session) :
      Move t r false (r.assign t (.leaving session.generation))
  | finish {generation : UInt64} (h : (r.roles t).generation = some generation) :
      Move t r false ({ r with ownership := r.ownership.release generation }.assign t .retiring)

namespace System

def roster (s : System) : Roster := ⟨s.ownership, fun t => (s.controllers t).role, s.handovers⟩

/-- The task whose `listener_ready` call the next step makes. -/
def listens (s : System) (a : Action) : Option TaskId :=
  match s.running, a with
  | some (.controller t), .poll .done => match s.controllers t with
    | .configuring => some t
    | _ => none
  | _, _ => none

theorem roles_goto (s : System) (t : TaskId) (phase : Phase) :
    (s.goto t phase).roster.roles = Function.update s.roster.roles t phase.role := by
  funext u
  change (Function.update s.controllers t phase u).role = _
  rw [Function.update_apply, Function.update_apply]
  split <;> rfl

theorem roster_goto (s : System) (t : TaskId) (phase : Phase) :
    (s.goto t phase).roster = s.roster.assign t phase.role := by
  rw [Roster.assign, ← roles_goto]
  rfl

theorem roster_goto_same {s : System} {t : TaskId} {phase : Phase}
    (h : phase.role = (s.controllers t).role) : (s.goto t phase).roster = s.roster := by
  have hRole : phase.role = s.roster.roles t := h
  rw [roster_goto, Roster.assign, hRole, Function.update_eq_self]

theorem roster_claim {s : System} {t : TaskId} {seen : Nat}
    (h : Claims s.ownership.listenerChanges (s.controllers t) seen) :
    Move t s.roster false (s.claim t seen).roster := by
  obtain ⟨hAway, hSeen⟩ : (s.roster.roles t).away = false ∧
      seen ≤ s.roster.ownership.listenerChanges.sent := by
    change (s.controllers t).role.away = false ∧ seen ≤ s.ownership.listenerChanges.sent
    generalize s.controllers t = phase at h
    cases h with
    | upgraded => exact ⟨rfl, Nat.zero_le _⟩
    | notified h => exact ⟨rfl, Nat.le_refl _⟩
  rw [claim]
  split
  · rename_i hClaim
    rw [roster_goto]
    exact .grant hAway hClaim
  · rename_i hClaim
    rw [roster_goto]
    exact .refuse hAway hClaim hSeen

theorem roster_endSession {s : System} {t : TaskId} {generation : UInt64}
    (h : (s.controllers t).role.generation = some generation) :
    Move t s.roster false (s.endSession t generation).roster := by
  rw [endSession, roster_goto]
  exact .finish h

theorem roster_perform {s s' : System} {t : TaskId} {input : Input} {op : BusOp} {reply : op.Reply}
    (h : s.perform t input op = some (reply, s')) : s'.roster = s.roster := by
  have hFrame := perform_frame h
  rw [roster, roster, hFrame.ownership, hFrame.controllers, hFrame.handovers]

theorem roster_controllerStep {fromSlice : String → Option JsonRpcRequest} {s s' : System}
    {t : TaskId} {input : Input} (hRunning : s.running = some (.controller t))
    (h : ControllerStep fromSlice s t input s') :
    ∃ listens, Move t s.roster listens s'.roster ∧
      (listens = true → s.listens (.poll input) = some t) := by
  have hSilent {s' : System} (hMove : Move t s.roster false s'.roster) :
      ∃ listens, Move t s.roster listens s'.roster ∧
        (listens = true → s.listens (.poll input) = some t) := ⟨false, hMove, nofun⟩
  have hStay {s' : System} (hSame : s'.roster = s.roster) :
      ∃ listens, Move t s.roster listens s'.roster ∧
        (listens = true → s.listens (.poll input) = some t) :=
    hSilent (hSame.symm ▸ .stay)
  cases h with
  | yielded => exact hStay rfl
  | moved h =>
    generalize hPhase : s.controllers t = phase at h
    cases h with
    | connected => exact hStay (roster_goto_same (by rw [hPhase]; rfl))
    | refused => exact hStay (roster_goto_same (by rw [hPhase]; rfl))
    | waited =>
      refine hSilent ?_
      rw [roster_goto]
      exact .retire (congrArg Phase.role hPhase)
    | rejected =>
      refine hSilent ?_
      rw [roster_goto]
      exact .retire (congrArg Phase.role hPhase)
    | flushed => exact hStay (roster_goto_same (by rw [hPhase]; rfl))
    | responded session response => exact hStay (roster_goto_same (by rw [hPhase]; rfl))
  | listened h hInput =>
    refine ⟨true, ?_, fun _ => ?_⟩
    · rw [roster_goto]
      exact .listen (congrArg Phase.role h)
    · subst hInput
      simp [listens, hRunning, h]
  | claimed h => exact hSilent (roster_claim h)
  | subscribed h hValue =>
    refine hSilent ?_
    rw [roster_goto]
    exact .subscribe (congrArg Phase.role h) hValue
  | ended h =>
    refine hSilent (roster_endSession ?_)
    generalize s.controllers t = phase at h
    cases h <;> rfl
  | requested h hCurrent => exact hStay (roster_goto_same (by rw [h]; rfl))
  | advanced h hOp =>
    refine hStay ((roster_goto_same ?_).trans (roster_perform hOp))
    rw [(perform_frame hOp).controllers, h]
    rfl
  | @cancelled session op next h hUnread =>
    refine hSilent ?_
    rw [cancel, roster_goto]
    exact .lose (congrArg Phase.role h)
  | silent h =>
    refine hStay ((roster_goto_same ?_).trans rfl)
    exact (congrArg Phase.role h).symm
  | answered h =>
    refine hStay ((roster_goto_same ?_).trans rfl)
    exact (congrArg Phase.role h).symm
  | outdated h =>
    refine hSilent (roster_endSession (s := s.unlock t) ?_)
    exact congrArg (Role.generation ∘ Phase.role) h
  | @resyncLocked generation uartRx h hLock =>
    exact hStay (roster_goto_same (s := { s with uartRx }) (by rw [h]; rfl))
  | drained h hOp =>
    refine hStay ((roster_goto_same ?_).trans (roster_perform hOp))
    rw [(perform_frame hOp).controllers, h]
    rfl
  | resynchronized h =>
    refine hSilent (roster_endSession (s := s.unlock t) ?_)
    exact congrArg (Role.generation ∘ Phase.role) h

theorem roster_step {fromSlice : String → Option JsonRpcRequest} {s s' : System} {a : Action}
    (h : SystemStep fromSlice s a s') :
    ∃ t listens, Move t s.roster listens s'.roster ∧ (listens = true → s.listens a = some t) := by
  have hStay (hSame : s'.roster = s.roster) :
      ∃ t listens, Move t s.roster listens s'.roster ∧ (listens = true → s.listens a = some t) :=
    ⟨0, false, hSame.symm ▸ .stay, nofun⟩
  cases h with
  | ignored => exact hStay rfl
  | scheduled => exact hStay rfl
  | arrived => exact hStay rfl
  | @controller t _ _ hRunning h => exact ⟨t, roster_controllerStep hRunning h⟩
  | raw _ h =>
    refine hStay ?_
    rw [roster, roster, h.ownership, h.controllers, h.handovers]

end System

end Fetchline
