import Fetchline.Firmware.Custody
import Fetchline.Firmware.Handover

/-! # Who may write to the bus

A session that has been superseded keeps its command until its task is polled
again, and that poll serves the command before the ownership change. This module
says which steps must not happen for the packets to stay with the current owner
and out of the raw tunnel, and that nothing else goes wrong.
-/

namespace Fetchline

open Effects Effects.Program Sync Transition

structure Distinct (r : Roster) : Prop where
  granted : ∀ t g, (r.roles t).generation = some g →
    ∃ k, 0 < k ∧ k ≤ r.ownership.changes.sent ∧ g = UInt64.ofNat k
  single : r.ownership.changes.sent ≤ 2 ^ 64 → ∀ t u g, (r.roles t).generation = some g →
    (r.roles u).generation = some g → t = u

theorem ofNat_injective_to_wrap {j k : Nat} (hj : 0 < j) (hj' : j ≤ 2 ^ 64) (hk : 0 < k)
    (hk' : k ≤ 2 ^ 64) (h : UInt64.ofNat j = UInt64.ofNat k) : j = k := by
  have h := congrArg UInt64.toNat h
  simp only [UInt64.toNat_ofNat'] at h
  omega

theorem Distinct.of_forgets {r r' : Roster} (h : Distinct r)
    (hSent : r'.ownership.changes.sent = r.ownership.changes.sent)
    (hForgets : ∀ t g, (r'.roles t).generation = some g → (r.roles t).generation = some g) :
    Distinct r' where
  granted := by
    intro t g ht
    rw [hSent]
    exact h.granted t g (hForgets t g ht)
  single := by
    intro hBound t u g ht hu
    exact h.single (hSent ▸ hBound) t u g (hForgets t g ht) (hForgets u g hu)

theorem generation_before {r : Roster} {t u : TaskId} {role : Role} {g : UInt64}
    (hRole : ∀ g, role.generation = some g → (r.roles t).generation = some g)
    (h : ((r.assign t role).roles u).generation = some g) : (r.roles u).generation = some g := by
  obtain ⟨rfl, hNew⟩ | ⟨-, hOld⟩ := Roster.generation_cases h
  · exact hRole g hNew
  · exact hOld

theorem Distinct.grant {r : Roster} {t : TaskId} {g : UInt64} {replacesActive : Bool}
    {ownership : ControllerOwnership} (h : Distinct r) (hOrderly : Orderly r)
    (hClaim : r.ownership.attemptClaim = (some (g, replacesActive), ownership)) :
    Distinct (Roster.assign ⟨ownership, r.roles, .granted t g replacesActive :: r.handovers⟩ t
      (.subscribing g)) := by
  obtain ⟨-, rfl, rfl, rfl⟩ := ControllerOwnership.attemptClaim_some hClaim
  have hNext : r.ownership.current.epoch.value + 1 =
      UInt64.ofNat (r.ownership.changes.sent + 1) := by
    rw [hOrderly.epoch, UInt64.ofNat_add]
    rfl
  -- A generation that is already out is the image of an earlier grant.
  have hFresh {u : TaskId} (hSent : r.ownership.changes.sent + 1 ≤ 2 ^ 64)
      (hu : (r.roles u).generation = some (r.ownership.current.epoch.value + 1)) : False := by
    obtain ⟨k, hPos, hk, hg⟩ := h.granted u _ hu
    rw [hNext] at hg
    have hSame := ofNat_injective_to_wrap (Nat.succ_pos _) hSent hPos (by omega) hg
    omega
  constructor
  · intro u g' hu
    obtain ⟨-, hNew⟩ | ⟨-, hOld⟩ := Roster.generation_cases hu
    · cases hNew
      exact ⟨_, Nat.succ_pos _, Nat.le_refl _, hNext⟩
    · obtain ⟨k, hPos, hk, hg⟩ := h.granted u g' hOld
      exact ⟨k, hPos, Nat.le_succ_of_le hk, hg⟩
  · intro hBound u v g' hu hv
    have hBound : r.ownership.changes.sent + 1 ≤ 2 ^ 64 := hBound
    obtain ⟨rfl, hNewU⟩ | ⟨-, hOldU⟩ := Roster.generation_cases hu <;>
      obtain ⟨rfl, hNewV⟩ | ⟨-, hOldV⟩ := Roster.generation_cases hv
    · rfl
    · cases hNewU
      exact (hFresh hBound hOldV).elim
    · cases hNewV
      exact (hFresh hBound hOldU).elim
    · exact h.single (by omega) u v g' hOldU hOldV

theorem Distinct.move {t : TaskId} {r r' : Roster} {listens : Bool} (h : Distinct r)
    (hOrderly : Orderly r) (hMove : Move t r listens r') : Distinct r' := by
  cases hMove with
  | stay => exact h
  | retire => exact h.of_forgets rfl fun _ _ => generation_before nofun
  | listen =>
    refine Distinct.of_forgets (r := { r with ownership := r.ownership.listenerReady }) ?_ rfl
      fun _ _ => generation_before nofun
    exact h.of_forgets (by simp) fun _ _ => id
  | grant _ hClaim => exact h.grant hOrderly hClaim
  | refuse _ hClaim =>
    obtain ⟨-, rfl⟩ := ControllerOwnership.attemptClaim_none hClaim
    exact h.of_forgets rfl fun _ _ => generation_before nofun
  | subscribe ht =>
    refine h.of_forgets rfl fun _ _ => generation_before ?_
    rintro g ⟨⟩
    rw [ht]
    rfl
  | lose ht =>
    refine h.of_forgets rfl fun _ _ => generation_before ?_
    rintro g ⟨⟩
    rw [ht]
    rfl
  | finish =>
    refine Distinct.of_forgets (r := { r with ownership := r.ownership.release _ }) ?_ rfl
      fun _ _ => generation_before nofun
    exact h.of_forgets rfl fun _ _ => id

theorem distinct {fromSlice : String → Option JsonRpcRequest} {ok : System → Action → Prop}
    {s : System} (h : (firmware fromSlice).Reach ok s) : Distinct s.roster := by
  refine firmware_invariant (fun s => Distinct s.roster) ⟨nofun, nofun⟩ ?_ h
  intro s a s' hReach hInv _ hStep
  obtain ⟨t, listens, hMove, -⟩ := System.roster_step hStep
  exact hInv.move (orderly hReach) hMove

/-- A task that is not running waits at an await of its command, and a drain
writes nothing. -/
structure Scheduled (s : System) : Prop where
  suspended : ∀ t session command, s.running ≠ some (.controller t) →
    s.controllers t = .commanding session command → Suspended command
  drains : ∀ t generation drain, s.controllers t = .resynchronizing generation drain →
    DrainsOnly drain

theorem Scheduled.step {fromSlice : String → Option JsonRpcRequest} {s s' : System} {a : Action}
    (h : Scheduled s) (hStep : SystemStep fromSlice s a s') : Scheduled s' := by
  cases hStep with
  | ignored => exact h
  | scheduled hNone =>
    refine ⟨?_, h.drains⟩
    intro t session command _
    exact h.suspended t session command (by simp [hNone])
  | arrived => exact ⟨h.suspended, h.drains⟩
  | raw hRunning hFrame =>
    constructor
    · intro t session command _
      rw [hFrame.controllers]
      exact h.suspended t session command (by simp [hRunning])
    · intro t generation drain
      rw [hFrame.controllers]
      exact h.drains t generation drain
  | @controller t input _ hRunning hStep =>
    have hOthers {u : TaskId} (hut : u ≠ t) : s.running ≠ some (.controller u) := by
      rw [hRunning]
      simpa using Ne.symm hut
    constructor
    · intro u session command hIdle hPhase
      rcases eq_or_ne u t with rfl | hut
      · rcases System.commanding_after hStep hPhase with ⟨-, -, hSuspended⟩ | ⟨rfl, -⟩ |
          ⟨op, next, reply, s₁, -, hOp, -, rfl⟩
        · exact hSuspended
        · exact absurd hRunning hIdle
        · exact absurd ((System.perform_frame hOp).running.trans hRunning) hIdle
      · rw [System.controllerStep_others hStep hut] at hPhase
        exact h.suspended u session command (hOthers hut) hPhase
    · intro u generation drain hPhase
      rcases eq_or_ne u t with rfl | hut
      · cases hStep with
        | yielded => exact h.drains u generation drain hPhase
        | moved hMove =>
          rw [System.goto_self] at hPhase
          rw [hPhase] at hMove
          generalize s.controllers u = before at hMove
          cases hMove
        | claimed =>
          rw [System.claim] at hPhase
          split at hPhase <;> rw [System.goto_self] at hPhase <;> cases hPhase
        | resyncLocked =>
          rw [System.goto_self] at hPhase
          cases hPhase
          exact resynchronizeUart_drainsOnly
        | drained hOld =>
          rw [System.goto_self] at hPhase
          cases hPhase
          exact (h.drains u _ _ hOld).2 _
        | _ =>
          first | rw [System.goto_self] at hPhase | rw [System.endSession, System.goto_self] at hPhase |
            rw [System.cancel, System.goto_self] at hPhase
          cases hPhase
      · rw [System.controllerStep_others hStep hut] at hPhase
        exact h.drains u generation drain hPhase

theorem scheduled {fromSlice : String → Option JsonRpcRequest} {ok : System → Action → Prop}
    {s : System} (h : (firmware fromSlice).Reach ok s) : Scheduled s :=
  firmware_invariant Scheduled ⟨nofun, nofun⟩ (fun _ _ _ _ hInv _ hStep => hInv.step hStep) h

/-- The only step that puts a packet on the bus is a `write_all` of a command. -/
theorem writer_of_step {fromSlice : String → Option JsonRpcRequest} {s s' : System} {a : Action}
    {t : TaskId} {packet : List UInt8} (h : Scheduled s) (hStep : SystemStep fromSlice s a s')
    (hWrote : s'.busLog = .wrote t packet :: s.busLog) :
    s.running = some (.controller t) ∧ ∃ session next,
      s.controllers t = .commanding session (.call (.writeAll packet) next) := by
  have hKeeps (hLog : s'.busLog = s.busLog) : False := by
    rw [hLog] at hWrote
    exact List.cons_ne_self _ _ hWrote.symm
  have hPerform {u : TaskId} {input : Input} {s₁ : System} {op : BusOp} {reply : op.Reply}
      (hOp : s.perform u input op = some (reply, s₁))
      (hLog : s₁.busLog = .wrote t packet :: s.busLog) : u = t ∧ op = .writeAll packet := by
    cases System.performed hOp with
    | wrote =>
      cases List.head_eq_of_cons_eq hLog
      exact ⟨rfl, rfl⟩
    | written | observed => cases List.head_eq_of_cons_eq hLog
    | _ => exact absurd hLog.symm (List.cons_ne_self _ _)
  cases hStep with
  | ignored => exact (hKeeps rfl).elim
  | scheduled => exact (hKeeps rfl).elim
  | arrived => exact (hKeeps rfl).elim
  | raw _ hFrame => exact (hKeeps hFrame.busLog).elim
  | @controller u input _ hRunning hStep =>
    cases hStep with
    | claimed => exact (hKeeps (System.claim_frame s u _).2.1).elim
    | advanced hPhase hOp =>
      obtain ⟨rfl, rfl⟩ := hPerform hOp hWrote
      exact ⟨hRunning, _, _, hPhase⟩
    | drained hPhase hOp =>
      obtain ⟨rfl, rfl⟩ := hPerform hOp hWrote
      exact (h.drains u _ _ hPhase).1.elim
    | cancelled => cases List.head_eq_of_cons_eq hWrote
    | _ => exact (hKeeps rfl).elim

/-- A command of a session that is no longer current, and that has more to write,
does not get past the await it is suspended at. -/
def SupersededHeld (s : System) (a : Action) : Prop :=
  ∀ t input session op next, a = .poll input → s.running = some (.controller t) →
    s.controllers t = .commanding session (.call op next) → op.awaits = true →
    s.ownership.isCurrent session.generation = false → (s.perform t input op).isSome = true →
    Writeless (.call op next)

def Owned (s : System) : Prop :=
  ∀ t session command, s.controllers t = .commanding session command →
    s.ownership.isCurrent session.generation = true ∨ Suspended command ∨ Writeless command

theorem Owned.next {s s' : System} {t : TaskId} {input : Input} {session : Session} {op : BusOp}
    {next : op.Reply → Bus JsonRpcAnswer} {reply : op.Reply} (h : Owned s)
    (hHeld : SupersededHeld s (.poll input)) (hRunning : s.running = some (.controller t))
    (hPhase : s.controllers t = .commanding session (.call op next))
    (hOp : s.perform t input op = some (reply, s')) :
    s.ownership.isCurrent session.generation = true ∨ Writeless (next reply) := by
  by_cases hCurrent : s.ownership.isCurrent session.generation = true
  · exact .inl hCurrent
  right
  rcases h t session _ hPhase with hOwned | hSuspended | hWriteless
  · exact absurd hOwned hCurrent
  · have hWriteless : Writeless (.call op next) :=
      hHeld t input session op next rfl hRunning hPhase hSuspended (by simpa using hCurrent)
        (by rw [hOp]; rfl)
    exact hWriteless.next reply
  · exact hWriteless.next reply

theorem Owned.step {fromSlice : String → Option JsonRpcRequest} {s s' : System} {a : Action}
    (h : Owned s) (hScheduled : Scheduled s) (hHeld : SupersededHeld s a)
    (hStep : SystemStep fromSlice s a s') : Owned s' := by
  cases hStep with
  | ignored => exact h
  | scheduled => exact h
  | arrived => exact h
  | raw _ hFrame =>
    intro t session command
    rw [hFrame.controllers, hFrame.ownership]
    exact h t session command
  | @controller t input _ hRunning hStep =>
    intro u session command hPhase
    rcases eq_or_ne u t with rfl | hut
    · rcases System.commanding_after hStep hPhase with ⟨rfl, hOld, -⟩ | ⟨rfl, hCurrent, -⟩ |
        ⟨op, next, reply, s₁, hOld, hOp, rfl, rfl⟩
      · exact h u session command hOld
      · exact .inl hCurrent
      · rcases h.next hHeld hRunning hOld hOp with hCurrent | hWriteless
        · left
          rw [← (System.perform_frame hOp).ownership] at hCurrent
          exact hCurrent
        · exact .inr (.inr hWriteless)
    · rw [System.controllerStep_others hStep hut] at hPhase
      have hIdle : s.running ≠ some (.controller u) := by
        rw [hRunning]
        simpa using Ne.symm hut
      exact .inr (.inl (hScheduled.suspended u session command hIdle hPhase))

theorem owned {fromSlice : String → Option JsonRpcRequest} {s : System}
    (h : (firmware fromSlice).Reach SupersededHeld s) : Owned s :=
  firmware_invariant Owned nofun
    (fun _ _ _ hReach hInv hHeld hStep => hInv.step (scheduled hReach) hHeld hStep) h

/-- When no superseded command advances to another packet, every packet comes from
the session that owns the bus at that moment. -/
theorem packets_come_from_the_owner (fromSlice : String → Option JsonRpcRequest) (s : System)
    (hReach : (firmware fromSlice).Reach SupersededHeld s) (a : Action) (t : TaskId)
    (packet : List UInt8)
    (hWrote : ((firmware fromSlice).step s a).busLog = .wrote t packet :: s.busLog) :
    ∃ session, (s.controllers t).session = some session ∧
      s.ownership.isCurrent session.generation = true := by
  obtain ⟨-, session, next, hPhase⟩ :=
    writer_of_step (scheduled hReach) (s.step_cases fromSlice a) hWrote
  refine ⟨session, by rw [hPhase]; rfl, ?_⟩
  rcases owned hReach t session _ hPhase with hCurrent | hSuspended | hWriteless
  · exact hCurrent
  · cases hSuspended
  · exact absurd hWriteless not_writeless_writeAll

def startText : String :=
  "\x7b\"jsonrpc\":\"2.0\",\"id\":7,\"method\":\"motor.start\",\"params\":\x7b\"id\":1,\"direction\":\"clockwise\",\"speed\":100,\"acceleration\":10\x7d\x7d"

def enableText : String :=
  "\x7b\"jsonrpc\":\"2.0\",\"id\":8,\"method\":\"debug.enableRawTunnel\"\x7d"

def parseExample (text : String) : Option JsonRpcRequest :=
  if text = startText then
    some ⟨"2.0", "motor.start",
      { id := some 1, direction := some .clockwise, speed := some 100, acceleration := some 10 },
      some 7⟩
  else if text = enableText then some ⟨"2.0", "debug.enableRawTunnel", {}, some 8⟩
  else none

/-- The reply to the first packet of `startText`. -/
def acceptedReply : List Action := [0xff, 0xff, 1, 2, 0, 252].map .arrive

def firstTurn (inputs : List Input) : List Action := turn (.controller 0) inputs

/-- The first task writes the first packet of a motor start and waits for the reply. -/
def startedMotor : List Action :=
  firstTurn [.done, .done, .done, .pending, .text startText, .pending, .pending,
    .pending, .pending, .done, .pending]

/-- The command that this step polls belongs to the current session or stays where it is. -/
def holdsSuperseded (s : System) (a : Action) : Bool :=
  match a, s.running with
  | .poll input, some (.controller t) =>
    match s.controllers t with
    | .commanding session (.call op _) =>
      s.ownership.isCurrent session.generation || (s.perform t input op).isNone
    | _ => true
  | _, _ => true

theorem supersededHeld_of_holds {s : System} {a : Action} (h : holdsSuperseded s a = true) :
    SupersededHeld s a := by
  rintro t input session op next rfl hRunning hPhase - hStale hServed
  simp only [holdsSuperseded, hRunning, hPhase, hStale, Bool.false_or,
    Option.isNone_iff_eq_none] at h
  rw [h] at hServed
  cases hServed

/-- The first task is polled without its reply, and gives its command up. -/
def givenUp : List Action :=
  firstTurn [.pending, .pending, .elapsed, .pending, .pending, .pending]

/-- The second task takes over while the first waits for a reply, and once the first
has given up comes to the first packet of a motor start of its own. -/
def takenOver : List Action :=
  startedMotor ++ turn (.controller 1) [.done, .done, .done, .pending, .pending] ++ givenUp ++
    turn (.controller 1) [.text startText, .pending, .pending, .pending]

theorem packets_come_from_the_owner_takeover :
    let M := firmware parseExample
    let s := M.run M.init takenOver
    .cancelled 0 true ∈ s.busLog ∧ ∃ session, (s.controllers 1).session = some session ∧
      s.ownership.isCurrent session.generation = true := by
  intro M s
  have hMeets : M.Meets (fun s a => holdsSuperseded s a = true) M.init takenOver := by
    decide +kernel
  have hReach : M.Reach SupersededHeld s :=
    .run .init (hMeets.mono fun _ _ h => supersededHeld_of_holds h)
  refine ⟨by decide +kernel, ?_⟩
  exact packets_come_from_the_owner _ s hReach (.poll .pending) 1
    (instructionPacket 1 stsInstructionWrite [stsMode, 1]) (by decide +kernel)

/-- The reply to the first packet and the ownership change are both ready when the
superseded task is polled: it serves the reply and writes the second packet. -/
theorem superseded_session_writes :
    ¬ ∀ (fromSlice : String → Option JsonRpcRequest) (s : System),
      (firmware fromSlice).Reachable s → ∀ a t packet,
        ((firmware fromSlice).step s a).busLog = .wrote t packet :: s.busLog →
          ∃ session, (s.controllers t).session = some session ∧
            s.ownership.isCurrent session.generation = true := by
  intro hAll
  let M := firmware parseExample
  let s := M.run M.init (startedMotor ++
    turn (.controller 1) [.done, .done, .done, .pending] ++ acceptedReply ++ [.poll .pending] ++
    firstTurn (List.replicate 7 .pending))
  obtain ⟨session, hSession, hCurrent⟩ := hAll _ s (Machine.reachable_run _) (.poll .pending) 0
    (instructionPacket 1 stsInstructionWrite [stsTorqueEnable, 1]) (by decide +kernel)
  have hStale : (s.controllers 0).session.all (s.ownership.isCurrent ·.generation) = false := by
    decide +kernel
  rw [hSession] at hStale
  rw [show s.ownership.isCurrent session.generation = false from hStale] at hCurrent
  cases hCurrent

/-- Fewer than `2 ^ 64` generations have been granted, and while the tunnel is
enabled no superseded command advances to another packet. -/
structure SupersededHeldInTunnel (s : System) (a : Action) : Prop where
  grants : s.ownership.changes.sent < 2 ^ 64
  held : s.tunnel.enabled = true → SupersededHeld s a

/-- A command that runs into an enabled tunnel has not tested it yet, is past all
packets, or waits for a cancellation. -/
structure KeepsOut (s : System) (t : TaskId) (session : Session) (command : Bus JsonRpcAnswer)
    (stage : Stage) : Prop where
  obeys : command.Obeys custody stage fun _ stage => stage.settled
  fresh : stage = .fresh → s.running = some (.controller t) ∧
    s.ownership.isCurrent session.generation = true
  tunnel : s.tunnel.enabled = true → stage = .fresh ∨ stage = .finished ∨
    (s.ownership.isCurrent session.generation = false ∧ (Suspended command ∨ Writeless command))

def Excluded (s : System) : Prop :=
  ∀ t session command, s.controllers t = .commanding session command →
    ∃ stage, KeepsOut s t session command stage

theorem perform_fresh {s s' : System} {t : TaskId} {input : Input} {op : BusOp} {reply : op.Reply}
    (hAllowed : custody.allowed .fresh op) (hOp : s.perform t input op = some (reply, s'))
    (hEnabled : s'.tunnel.enabled = true) : custody.next .fresh op reply = .finished := by
  cases op <;> first | exact hAllowed.elim | skip
  case isTunnelEnabled =>
    cases hOp
    change cond _ _ _ = _
    rw [hEnabled]
    rfl
  case enableTunnel => rfl
  case disableTunnel => rfl

theorem perform_tunnel {s s' : System} {t : TaskId} {input : Input} {op : BusOp} {reply : op.Reply}
    {stage : Stage} (hAllowed : custody.allowed stage op) (hStage : stage ≠ .fresh)
    (hOp : s.perform t input op = some (reply, s')) : s'.tunnel = s.tunnel := by
  cases System.performed hOp with
  | enabled | disabled => cases stage <;> first | exact hAllowed.elim | exact absurd rfl hStage
  | _ => rfl

theorem KeepsOut.advance {s s' : System} {t : TaskId} {input : Input} {session : Session}
    {op : BusOp} {next : op.Reply → Bus JsonRpcAnswer} {reply : op.Reply} {stage : Stage}
    (h : KeepsOut s t session (.call op next) stage)
    (hHeld : s.tunnel.enabled = true → SupersededHeld s (.poll input))
    (hRunning : s.running = some (.controller t))
    (hPhase : s.controllers t = .commanding session (.call op next))
    (hOp : s.perform t input op = some (reply, s')) :
    KeepsOut s' t session (next reply) (custody.next stage op reply) where
  obeys := h.obeys.2 reply
  fresh := fun hFresh => absurd hFresh (custody_next_ne_fresh h.obeys.1)
  tunnel := by
    intro hEnabled
    rcases eq_or_ne stage .fresh with rfl | hStage
    · exact .inr (.inl (perform_fresh h.obeys.1 hOp hEnabled))
    rw [perform_tunnel h.obeys.1 hStage hOp] at hEnabled
    rcases h.tunnel hEnabled with hFresh | rfl | ⟨hStale, hSuspended | hWriteless⟩
    · exact absurd hFresh hStage
    · exact h.obeys.1.elim
    · have hWriteless : Writeless (.call op next) :=
        hHeld hEnabled t input session op next rfl hRunning hPhase hSuspended hStale
          (by rw [hOp]; rfl)
      right; right
      rw [(System.perform_frame hOp).ownership]
      exact ⟨hStale, .inr (hWriteless.next reply)⟩
    · right; right
      rw [(System.perform_frame hOp).ownership]
      exact ⟨hStale, .inr (hWriteless.next reply)⟩

/-- A step either leaves the epoch alone and does not enable the tunnel, or it is
taken by the task that owns the bus afterwards. -/
theorem owner_of_change {fromSlice : String → Option JsonRpcRequest} {s s' : System} {t : TaskId}
    {input : Input} (h : Excluded s) (hScheduled : Scheduled s) (hStep : ControllerStep fromSlice s t input s') :
    (s'.ownership.current.epoch = s.ownership.current.epoch ∧
      (s'.tunnel.enabled = true → s.tunnel.enabled = true)) ∨
    (s'.roster.roles t).generation = some s'.ownership.current.epoch.value := by
  cases hStep with
  | yielded => exact .inl ⟨rfl, id⟩
  | moved => exact .inl ⟨rfl, id⟩
  | listened => exact .inl ⟨ControllerOwnership.listenerReady_epoch s.ownership, id⟩
  | @claimed seen hClaims =>
    rw [System.claim]
    split
    · rename_i hClaim
      right
      obtain ⟨-, rfl, rfl, rfl⟩ := ControllerOwnership.attemptClaim_some hClaim
      rw [System.roster_goto, Roster.assign_self]
      rfl
    · rename_i hClaim
      left
      obtain ⟨-, rfl⟩ := ControllerOwnership.attemptClaim_none hClaim
      exact ⟨rfl, id⟩
  | subscribed => exact .inl ⟨rfl, id⟩
  | ended => exact .inl ⟨ControllerAdmission.release_epoch _ _, id⟩
  | requested => exact .inl ⟨rfl, id⟩
  | @advanced session op next reply s₁ hPhase hOp =>
    obtain ⟨stage, hKeeps⟩ := h t session _ hPhase
    have hOwnership := (System.perform_frame hOp).ownership
    by_cases hStage : stage = .fresh
    · -- An untested request belongs to the session that is current.
      right
      have hCurrent := (hKeeps.fresh hStage).2
      rw [ControllerOwnership.isCurrent_eq_true_iff] at hCurrent
      rw [System.roster_goto, Roster.assign_self]
      change some session.generation = some s₁.ownership.current.epoch.value
      rw [hOwnership, hCurrent]
    · left
      refine ⟨congrArg _ (congrArg _ hOwnership), ?_⟩
      change s₁.tunnel.enabled = true → _
      rw [perform_tunnel hKeeps.obeys.1 hStage hOp]
      exact id
  | cancelled => exact .inl ⟨rfl, id⟩
  | silent => exact .inl ⟨rfl, id⟩
  | answered => exact .inl ⟨rfl, id⟩
  | outdated => exact .inl ⟨ControllerAdmission.release_epoch _ _, id⟩
  | resyncLocked => exact .inl ⟨rfl, id⟩
  | @drained generation op next reply s₁ hPhase hOp =>
    left
    have hStage : custody.allowed .dirty op := by
      obtain ⟨hAllowed, -⟩ := hScheduled.drains t generation _ hPhase
      cases op <;> first | exact hAllowed | skip
      case observe observation => cases observation <;> exact hAllowed
    refine ⟨congrArg (·.current.epoch) (System.perform_frame hOp).ownership, ?_⟩
    change s₁.tunnel.enabled = true → _
    rw [perform_tunnel hStage (by decide) hOp]
    exact id
  | resynchronized => exact .inl ⟨ControllerAdmission.release_epoch _ _, id⟩

/-- A waiting command stays out of the way of whatever the running task does. -/
theorem KeepsOut.other {fromSlice : String → Option JsonRpcRequest} {s s' : System} {t u : TaskId}
    {input : Input} {session : Session} {command : Bus JsonRpcAnswer} {stage : Stage}
    (h : KeepsOut s u session command stage) (hExcluded : Excluded s) (hScheduled : Scheduled s)
    (hDistinct : Distinct s'.roster) (hGrants : s'.ownership.changes.sent ≤ 2 ^ 64)
    (hRunning : s.running = some (.controller t)) (hut : u ≠ t)
    (hPhase : s.controllers u = .commanding session command)
    (hStep : ControllerStep fromSlice s t input s') : KeepsOut s' u session command stage := by
  have hIdle : s.running ≠ some (.controller u) := by
    rw [hRunning]
    simpa using Ne.symm hut
  have hSuspended := hScheduled.suspended u session command hIdle hPhase
  have hTested : stage ≠ .fresh := fun hFresh => hIdle (h.fresh hFresh).1
  refine ⟨h.obeys, fun hFresh => absurd hFresh hTested, ?_⟩
  intro hEnabled
  rcases owner_of_change hExcluded hScheduled hStep with ⟨hEpoch, hTunnel⟩ | hOwner
  · rcases h.tunnel (hTunnel hEnabled) with hFresh | hFinished | ⟨hStale, -⟩
    · exact absurd hFresh hTested
    · exact .inr (.inl hFinished)
    · right; right
      refine ⟨?_, .inl hSuspended⟩
      rw [ControllerOwnership.isCurrent, ControllerAdmission.isCurrent, hEpoch]
      exact hStale
  · -- The bus has an owner, and it is not this session.
    right; right
    refine ⟨?_, .inl hSuspended⟩
    by_contra hCurrent
    have hCurrent := (s'.ownership.isCurrent_eq_true_iff session.generation).mp (by simpa using hCurrent)
    have hMine : (s'.roster.roles u).generation = some s'.ownership.current.epoch.value := by
      change (s'.controllers u).role.generation = _
      rw [System.controllerStep_others hStep hut, hPhase, hCurrent]
      rfl
    exact hut (hDistinct.single hGrants u t _ hMine hOwner)

theorem sent_of_step {t : TaskId} {r r' : Roster} {listens : Bool} (h : Move t r listens r') :
    r'.ownership.changes.sent ≤ r.ownership.changes.sent + 1 := by
  cases h with
  | listen =>
    change r.ownership.listenerReady.changes.sent ≤ _
    rw [ControllerOwnership.listenerReady_changes]
    exact Nat.le_succ _
  | grant _ hClaim =>
    obtain ⟨-, rfl, rfl, rfl⟩ := ControllerOwnership.attemptClaim_some hClaim
    exact Nat.le_refl _
  | refuse _ hClaim =>
    obtain ⟨-, rfl⟩ := ControllerOwnership.attemptClaim_none hClaim
    exact Nat.le_succ _
  | _ => exact Nat.le_succ _

theorem Excluded.step {fromSlice : String → Option JsonRpcRequest} {s s' : System} {a : Action}
    (h : Excluded s) (hScheduled : Scheduled s) (hDistinct : Distinct s'.roster)
    (hOk : SupersededHeldInTunnel s a) (hStep : SystemStep fromSlice s a s') : Excluded s' := by
  have hGrants : s'.ownership.changes.sent ≤ 2 ^ 64 := by
    obtain ⟨t, listens, hMove, -⟩ := System.roster_step hStep
    have hSent : s'.ownership.changes.sent ≤ s.ownership.changes.sent + 1 := sent_of_step hMove
    have hBound := hOk.grants
    omega
  -- Steps outside the controller tasks find no request untested.
  have hWaiting {u : TaskId} {session : Session} {command : Bus JsonRpcAnswer} {stage : Stage}
      (hIdle : s.running ≠ some (.controller u)) (hKeeps : KeepsOut s u session command stage)
      {s' : System} (hOwnership : s'.ownership = s.ownership)
      (hTunnel : s'.tunnel.enabled = s.tunnel.enabled) : KeepsOut s' u session command stage := by
    refine ⟨hKeeps.obeys, fun hFresh => absurd (hKeeps.fresh hFresh).1 hIdle, ?_⟩
    rw [hOwnership, hTunnel]
    exact hKeeps.tunnel
  cases hStep with
  | ignored => exact h
  | scheduled hNone =>
    intro u session command hPhase
    obtain ⟨stage, hKeeps⟩ := h u session command hPhase
    exact ⟨stage, hWaiting (by simp [hNone]) hKeeps rfl rfl⟩
  | arrived =>
    intro u session command hPhase
    obtain ⟨stage, hKeeps⟩ := h u session command hPhase
    exact ⟨stage, hKeeps.obeys, hKeeps.fresh, hKeeps.tunnel⟩
  | raw hRunning hFrame =>
    intro u session command hPhase
    rw [hFrame.controllers] at hPhase
    obtain ⟨stage, hKeeps⟩ := h u session command hPhase
    exact ⟨stage, hWaiting (by simp [hRunning]) hKeeps hFrame.ownership hFrame.tunnel⟩
  | @controller t input _ hRunning hStep =>
    intro u session command hPhase
    rcases ne_or_eq u t with hut | rfl
    · rw [System.controllerStep_others hStep hut] at hPhase
      obtain ⟨stage, hKeeps⟩ := h u session command hPhase
      exact ⟨stage, hKeeps.other h hScheduled hDistinct hGrants hRunning hut hPhase hStep⟩
    rcases System.commanding_after hStep hPhase with ⟨rfl, hOld, hSuspended⟩ |
      ⟨rfl, hCurrent, request, rfl⟩ | ⟨op, next, reply, s₁, hOld, hOp, rfl, rfl⟩
    · obtain ⟨stage, hKeeps⟩ := h u session command hOld
      refine ⟨stage, hKeeps.obeys, ?_, hKeeps.tunnel⟩
      rintro rfl
      exact absurd hSuspended (not_suspended_of_fresh hKeeps.obeys)
    · exact ⟨.fresh, handleJsonRpc_settles _ _ _, fun _ => ⟨hRunning, hCurrent⟩, fun _ => .inl rfl⟩
    · obtain ⟨stage, hKeeps⟩ := h u session _ hOld
      have hNext := hKeeps.advance hOk.held hRunning hOld hOp
      exact ⟨_, hNext.obeys, hNext.fresh, hNext.tunnel⟩

theorem excluded {fromSlice : String → Option JsonRpcRequest} {s : System}
    (h : (firmware fromSlice).Reach SupersededHeldInTunnel s) : Excluded s := by
  refine h.invariant nofun ?_
  intro s a hReach hInv hOk
  exact hInv.step (scheduled hReach) (distinct (.step a hReach hOk)) hOk (s.step_cases fromSlice a)

/-- When no superseded command advances to another packet while the tunnel is
enabled, no packet of a controller meets an enabled tunnel. -/
theorem packets_stay_out_of_the_tunnel (fromSlice : String → Option JsonRpcRequest) (s : System)
    (hReach : (firmware fromSlice).Reach SupersededHeldInTunnel s) (a : Action) (t : TaskId)
    (packet : List UInt8)
    (hWrote : ((firmware fromSlice).step s a).busLog = .wrote t packet :: s.busLog) :
    s.tunnel.enabled = false := by
  obtain ⟨-, session, next, hPhase⟩ :=
    writer_of_step (scheduled hReach) (s.step_cases fromSlice a) hWrote
  obtain ⟨stage, hKeeps⟩ := excluded hReach t session _ hPhase
  by_contra hEnabled
  rcases hKeeps.tunnel (by simpa using hEnabled) with rfl | rfl | ⟨-, hSuspended | hWriteless⟩
  · exact hKeeps.obeys.1
  · exact hKeeps.obeys.1
  · cases hSuspended
  · exact not_writeless_writeAll hWriteless

def disableText : String :=
  "\x7b\"jsonrpc\":\"2.0\",\"id\":9,\"method\":\"debug.disableRawTunnel\"\x7d"

def parseTunnel (text : String) : Option JsonRpcRequest :=
  if text = disableText then some ⟨"2.0", "debug.disableRawTunnel", {}, some 9⟩
  else parseExample text

/-- The second task enables the tunnel in the poll in which it takes over. -/
def tunnelTaken : List Action :=
  startedMotor ++
    turn (.controller 1) [.done, .done, .done, .pending, .text enableText, .pending, .pending,
      .pending]

/-- It disables the tunnel again before it starts a motor. -/
def tunnelReturned : List Action :=
  tunnelTaken ++ givenUp ++
    turn (.controller 1) [.done, .text disableText, .pending, .pending, .done, .text startText,
      .pending, .pending, .pending]

theorem packets_stay_out_of_the_tunnel_returned :
    let M := firmware parseTunnel
    let s := M.run M.init tunnelReturned
    (M.run M.init tunnelTaken).tunnel.enabled = true ∧ s.tunnel.enabled = false := by
  intro M s
  have hMeets : M.Meets (fun s a => s.ownership.changes.sent < 2 ^ 64 ∧
      holdsSuperseded s a = true) M.init tunnelReturned := by
    decide +kernel
  have hReach : M.Reach SupersededHeldInTunnel s :=
    .run .init (hMeets.mono fun _ _ h => ⟨h.1, fun _ => supersededHeld_of_holds h.2⟩)
  refine ⟨by decide +kernel, ?_⟩
  exact packets_stay_out_of_the_tunnel _ s hReach (.poll .pending) 1
    (instructionPacket 1 stsInstructionWrite [stsMode, 1]) (by decide +kernel)

/-- The new owner enables the tunnel in the poll in which it takes over; the
superseded task then goes on with its command. -/
theorem superseded_session_writes_into_the_tunnel :
    ¬ ∀ (fromSlice : String → Option JsonRpcRequest) (s : System),
      (firmware fromSlice).Reachable s → ∀ a t packet,
        ((firmware fromSlice).step s a).busLog = .wrote t packet :: s.busLog →
          s.tunnel.enabled = false := by
  intro hAll
  let M := firmware parseExample
  let s := M.run M.init (startedMotor ++
    turn (.controller 1) [.done, .done, .done, .pending, .text enableText, .pending, .pending] ++
    acceptedReply ++ [.poll .pending] ++ firstTurn (List.replicate 7 .pending))
  have hDisabled := hAll _ s (Machine.reachable_run _) (.poll .pending) 0
    (instructionPacket 1 stsInstructionWrite [stsTorqueEnable, 1]) (by decide +kernel)
  have hEnabled : s.tunnel.enabled = true := by decide +kernel
  rw [hEnabled] at hDisabled
  cases hDisabled

end Fetchline
