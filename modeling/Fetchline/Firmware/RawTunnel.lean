import Fetchline.Firmware.TaskSteps

/-! # The raw tunnel task and its switch

The task learns of `enable` and `disable` through a flag and through a one-slot
signal. Here both are called at any moment, between any two steps of the task,
and the rest of the firmware does whatever it likes to what it shares with it.
-/

namespace Fetchline

open Transition

namespace RawPhase

/-- `raw_client_session` is running. -/
def InClient : RawPhase → Bool
  | .serving | .lockingTx _ | .writingTx _ | .reporting _ | .pausing => true
  | _ => false

/-- The task has found the tunnel enabled and has not looked again. -/
def PastTest : RawPhase → Bool
  | .configuring | .listening => true
  | phase => phase.InClient

end RawPhase

/-- What a step does to the switch and to the task's phase; a `select` looks at
the signal before anything else. -/
inductive RawMove (tunnel : RawTunnelControl) : RawPhase → RawTunnelControl → RawPhase → Prop where
  | pending {phase : RawPhase}
      (hQuiet : phase = .idle ∨ phase = .listening ∨ phase = .serving → tunnel.command = none) :
      RawMove tunnel phase tunnel phase
  | foundEnabled (h : tunnel.enabled = true) : RawMove tunnel .looping tunnel .configuring
  | foundDisabled (h : tunnel.enabled = false) : RawMove tunnel .looping tunnel .idle
  | woken : RawMove tunnel .idle { tunnel with command := none } .looping
  | configured : RawMove tunnel .configuring tunnel .listening
  | recalled : RawMove tunnel .listening { tunnel with command := none } (.releasing false)
  | accepted (h : tunnel.command = none) : RawMove tunnel .listening tunnel .serving
  | refused (h : tunnel.command = none) : RawMove tunnel .listening tunnel (.releasing true)
  | stopped (h : tunnel.command = some .disable) :
      RawMove tunnel .serving { tunnel with command := none } (.releasing false)
  | resumed (h : tunnel.command = some .enable) :
      RawMove tunnel .serving { tunnel with command := none } .serving
  | received (bytes : List UInt8) (h : tunnel.command = none) :
      RawMove tunnel .serving tunnel (.lockingTx bytes)
  | left (h : tunnel.command = none) : RawMove tunnel .serving tunnel (.releasing false)
  | uartFailed (h : tunnel.command = none) : RawMove tunnel .serving tunnel .pausing
  | uartRead (bytes : List UInt8) (h : tunnel.command = none) :
      RawMove tunnel .serving tunnel (.reporting bytes)
  | locked (bytes : List UInt8) : RawMove tunnel (.lockingTx bytes) tunnel (.writingTx bytes)
  | wrote (bytes : List UInt8) : RawMove tunnel (.writingTx bytes) tunnel .serving
  | writeFailed (bytes : List UInt8) : RawMove tunnel (.writingTx bytes) tunnel (.releasing false)
  | reported (bytes : List UInt8) : RawMove tunnel (.reporting bytes) tunnel .serving
  | reportFailed (bytes : List UInt8) : RawMove tunnel (.reporting bytes) tunnel (.releasing false)
  | paused : RawMove tunnel .pausing tunnel .serving
  | released (backOff : Bool) :
      RawMove tunnel (.releasing backOff) tunnel (if backOff then .backingOff else .looping)
  | backedOff : RawMove tunnel .backingOff tunnel .looping

namespace System

variable {s : System}

theorem yield_move {phase : RawPhase} (hRaw : s.raw = phase)
    (hQuiet : phase = .idle ∨ phase = .listening ∨ phase = .serving → s.tunnel.command = none) :
    RawMove s.tunnel phase s.yield.tunnel s.yield.raw := by
  subst hRaw
  exact .pending hQuiet

theorem pollUartRead_move (input : Input) (hRaw : s.raw = .serving)
    (hCommand : s.tunnel.command = none) :
    RawMove s.tunnel .serving (s.pollUartRead input).tunnel (s.pollUartRead input).raw := by
  unfold pollUartRead
  split
  · exact yield_move hRaw fun _ => hCommand
  · rename_i uartRx _
    simp only
    split
    · exact .uartFailed hCommand
    · split
      · exact yield_move (s := { s with uartRx }) hRaw fun _ => hCommand
      · exact .uartRead _ hCommand

theorem pollRaw_move (s : System) (input : Input) :
    RawMove s.tunnel s.raw (s.pollRaw input).tunnel (s.pollRaw input).raw := by
  unfold pollRaw
  cases hRaw : s.raw with
  | looping =>
    simp only
    split
    · exact .foundEnabled ‹_›
    · exact .foundDisabled (Bool.eq_false_iff.mpr ‹_›)
  | idle =>
    simp only
    split
    · exact .woken
    · exact yield_move hRaw fun _ => Option.not_isSome_iff_eq_none.mp ‹_›
  | listening =>
    simp only
    split
    · exact .recalled
    · rename_i hCommand
      have hCommand : s.tunnel.command = none := Option.not_isSome_iff_eq_none.mp hCommand
      cases input with
      | done => exact .accepted hCommand
      | failed => exact .refused hCommand
      | _ => exact yield_move hRaw fun _ => hCommand
  | serving =>
    cases hCommand : s.tunnel.command with
    | none =>
      cases input with
      | chunk bytes =>
        cases bytes with
        | nil => exact .left hCommand
        | cons byte bytes => exact .received _ hCommand
      | failed => exact .left hCommand
      | _ => exact pollUartRead_move _ hRaw hCommand
    | some command =>
      cases command with
      | disable => exact .stopped hCommand
      | enable =>
        simp only [unlockRaw, takeCommand, hRaw]
        exact .resumed hCommand
  | lockingTx bytes =>
    simp only
    split
    · exact .locked bytes
    · exact yield_move hRaw (by simp)
  | configuring =>
    cases input with
    | done => exact .configured
    | _ => exact yield_move hRaw (by simp)
  | writingTx bytes =>
    cases input with
    | done => exact .wrote bytes
    | failed => exact .writeFailed bytes
    | _ => exact yield_move hRaw (by simp)
  | reporting bytes =>
    cases input with
    | done => exact .reported bytes
    | failed => exact .reportFailed bytes
    | _ => exact yield_move hRaw (by simp)
  | pausing =>
    cases input with
    | elapsed => exact .paused
    | _ => exact yield_move hRaw (by simp)
  | releasing backOff =>
    cases input with
    | done => exact .released backOff
    | failed => exact .released backOff
    | elapsed => exact .released backOff
    | _ => exact yield_move hRaw (by simp)
  | backingOff =>
    cases input with
    | elapsed => exact .backedOff
    | _ => exact yield_move hRaw (by simp)

end System

inductive RawEvent where
  /-- `disable` changed the tunnel; a client was being served, or none was. -/
  | disabled (serving : Bool)
  | accepted
  | received (bytes : List UInt8)
  | closed
deriving DecidableEq, Repr

structure TunnelState where
  system : System := {}
  log : List RawEvent := []

/-- `other` stands for whatever else the firmware does. -/
inductive TunnelAction where
  | enable
  | disable
  | poll (input : Input)
  | other (change : System → System)

/-- What a change of the task's phase means for the client. -/
def RawPhase.events : RawPhase → RawPhase → List RawEvent
  | .listening, .serving => [.accepted]
  | .serving, .lockingTx bytes => [.received bytes]
  | phase, .releasing _ => if phase.InClient then [.closed] else []
  | _, _ => []

namespace TunnelState

def step (t : TunnelState) : TunnelAction → TunnelState
  | .enable => { t with system := { t.system with tunnel := t.system.tunnel.enable } }
  | .disable =>
    { system := { t.system with tunnel := t.system.tunnel.disable }
      log := if t.system.tunnel.enabled then .disabled t.system.raw.InClient :: t.log else t.log }
  | .poll input =>
    { system := t.system.pollRaw input
      log := t.system.raw.events (t.system.pollRaw input).raw ++ t.log }
  | .other change =>
    { t with system := { change t.system with tunnel := t.system.tunnel, raw := t.system.raw } }

end TunnelState

def rawTunnel : Machine TunnelState TunnelAction := ⟨{}, TunnelState.step⟩

/-- Flag, signal and phase of the task. -/
structure Coherent (tunnel : RawTunnelControl) (phase : RawPhase) : Prop where
  /-- A command that is pending says what the flag says. -/
  command : ∀ command, tunnel.command = some command → (command = .enable ↔ tunnel.enabled = true)
  noticed : tunnel.enabled = false → phase.PastTest = true → tunnel.command = some .disable
  awoken : tunnel.enabled = true → phase = .idle → tunnel.command = some .enable

namespace Coherent

variable {tunnel tunnel' : RawTunnelControl} {phase phase' : RawPhase}

theorem init : Coherent {} .looping := ⟨nofun, nofun, nofun⟩

theorem enable (h : Coherent tunnel phase) : Coherent tunnel.enable phase := by
  rw [RawTunnelControl.enable]
  split
  · exact h
  · refine ⟨?_, nofun, fun _ _ => rfl⟩
    rintro _ ⟨⟩
    exact iff_of_true rfl rfl

theorem disable (h : Coherent tunnel phase) : Coherent tunnel.disable phase := by
  rw [RawTunnelControl.disable]
  split
  · refine ⟨?_, fun _ _ => rfl, nofun⟩
    rintro _ ⟨⟩
    exact iff_of_false nofun nofun
  · exact h

theorem goTo (h : Coherent tunnel phase)
    (hPast : phase'.PastTest = true → phase.PastTest = true) (hIdle : phase' ≠ .idle) :
    Coherent tunnel phase' where
  command := h.command
  noticed hDisabled hPhase := h.noticed hDisabled (hPast hPhase)
  awoken _ hPhase := absurd hPhase hIdle

theorem move (h : Coherent tunnel phase) (hMove : RawMove tunnel phase tunnel' phase') :
    Coherent tunnel' phase' := by
  cases hMove with
  | pending hQuiet => exact h
  | foundEnabled hEnabled =>
    exact ⟨h.command, fun hDisabled => (nomatch hEnabled.symm.trans hDisabled), nofun⟩
  | foundDisabled hDisabled =>
    exact ⟨h.command, nofun, fun hEnabled => (nomatch hDisabled.symm.trans hEnabled)⟩
  | woken => exact ⟨nofun, nofun, nofun⟩
  | recalled => exact ⟨nofun, nofun, nofun⟩
  | stopped hCommand => exact ⟨nofun, nofun, nofun⟩
  | resumed hCommand =>
    have hEnabled : tunnel.enabled = true := (h.command .enable hCommand).mp rfl
    exact ⟨nofun, fun hDisabled => (nomatch hEnabled.symm.trans hDisabled), nofun⟩
  | released backOff => cases backOff <;> exact h.goTo nofun nofun
  | refused | left | writeFailed | reportFailed | backedOff => exact h.goTo nofun nofun
  | configured | accepted | received | uartFailed | uartRead | locked | wrote | reported | paused =>
    exact h.goTo (fun _ => rfl) nofun

/-- The task that finds the tunnel disabled takes no client and reads from none. -/
theorem quiet_events (h : Coherent tunnel phase) (hDisabled : tunnel.enabled = false)
    (hMove : RawMove tunnel phase tunnel' phase') :
    ∀ e ∈ phase.events phase', e ≠ .accepted ∧ ∀ bytes, e ≠ .received bytes := by
  have hPending (hPast : phase.PastTest = true) (hCommand : tunnel.command = none) : False := by
    rw [h.noticed hDisabled hPast] at hCommand
    cases hCommand
  have hClosed : ∀ e ∈ [RawEvent.closed], e ≠ .accepted ∧ ∀ bytes, e ≠ .received bytes :=
    List.forall_mem_singleton.mpr ⟨nofun, nofun⟩
  cases hMove with
  | accepted hCommand => exact (hPending rfl hCommand).elim
  | received bytes hCommand => exact (hPending rfl hCommand).elim
  | stopped | left | writeFailed | reportFailed => exact hClosed
  | released backOff => cases backOff <;> exact nofun
  | pending => cases phase <;> exact nofun
  | _ => exact nofun

end Coherent

theorem RawMove.enabled {tunnel tunnel' : RawTunnelControl} {phase phase' : RawPhase}
    (h : RawMove tunnel phase tunnel' phase') : tunnel'.enabled = tunnel.enabled := by
  cases h <;> rfl

namespace TunnelState

theorem step_coherent {t : TunnelState} (h : Coherent t.system.tunnel t.system.raw)
    (a : TunnelAction) : Coherent (t.step a).system.tunnel (t.step a).system.raw := by
  cases a with
  | enable => exact h.enable
  | disable => exact h.disable
  | poll input => exact h.move (t.system.pollRaw_move input)
  | other change => exact h

theorem coherent {t : TunnelState} (h : rawTunnel.Reachable t) :
    Coherent t.system.tunnel t.system.raw := by
  induction h with
  | init => exact .init
  | step a _ _ ih => exact step_coherent ih a

theorem step_disabled {t : TunnelState} (h : Coherent t.system.tunnel t.system.raw)
    (hDisabled : t.system.tunnel.enabled = false) {a : TunnelAction} (ha : a ≠ .enable) :
    (t.step a).system.tunnel.enabled = false ∧ ∃ newer, (t.step a).log = newer ++ t.log ∧
      ∀ e ∈ newer, e ≠ .accepted ∧ ∀ bytes, e ≠ .received bytes := by
  cases a with
  | enable => exact absurd rfl ha
  | disable =>
    simp only [step, RawTunnelControl.disable, hDisabled]
    exact ⟨hDisabled, [], rfl, nofun⟩
  | poll input =>
    have hMove := t.system.pollRaw_move input
    exact ⟨hMove.enabled.trans hDisabled, _, rfl, h.quiet_events hDisabled hMove⟩
  | other change => exact ⟨hDisabled, [], rfl, nofun⟩

theorem run_disabled {t : TunnelState} (h : Coherent t.system.tunnel t.system.raw)
    (hDisabled : t.system.tunnel.enabled = false) (actions : List TunnelAction)
    (hActions : ∀ a ∈ actions, a ≠ .enable) :
    ∃ newer, (rawTunnel.run t actions).log = newer ++ t.log ∧
      ∀ e ∈ newer, e ≠ .accepted ∧ ∀ bytes, e ≠ .received bytes := by
  induction actions generalizing t with
  | nil => exact ⟨[], rfl, nofun⟩
  | cons a actions ih =>
    obtain ⟨ha, hActions⟩ := List.forall_mem_cons.mp hActions
    obtain ⟨hDisabled', newer, hLog, hQuiet⟩ := step_disabled h hDisabled ha
    obtain ⟨newest, hRun, hQuiet'⟩ := ih (step_coherent h a) hDisabled' hActions
    refine ⟨newest ++ newer, ?_, List.forall_mem_append.mpr ⟨hQuiet', hQuiet⟩⟩
    rw [List.append_assoc, ← hLog]
    exact hRun

end TunnelState

/-- While the tunnel is disabled and the task past its test, a `Disable` is pending;
until the next `enable` the task then takes no client and reads no chunk. An
`enable` finds the task idle only with a signal to wake it. -/
theorem disabled_tunnel_is_noticed (t : TunnelState) (h : rawTunnel.Reachable t) :
    (t.system.tunnel.enabled = false → t.system.raw.PastTest = true →
      t.system.tunnel.command = some .disable) ∧
    (t.system.tunnel.enabled = false → ∀ actions, (∀ a ∈ actions, a ≠ TunnelAction.enable) →
      ∃ newer, (rawTunnel.run t actions).log = newer ++ t.log ∧
        ∀ e ∈ newer, e ≠ .accepted ∧ ∀ bytes, e ≠ .received bytes) ∧
    (t.system.tunnel.enabled = true → t.system.raw = .idle →
      t.system.tunnel.command.isSome = true) := by
  have hCoherent := TunnelState.coherent h
  refine ⟨hCoherent.noticed, fun hDisabled => TunnelState.run_disabled hCoherent hDisabled, ?_⟩
  intro hEnabled hIdle
  rw [hCoherent.awoken hEnabled hIdle]
  rfl

theorem disabled_tunnel_is_noticed_configuring :
    (rawTunnel.run rawTunnel.init [.enable, .poll .pending, .disable]).system.tunnel.command =
      some .disable :=
  (disabled_tunnel_is_noticed _ (Machine.reachable_run _)).1 rfl rfl

section Firmware

variable {fromSlice : String → Option JsonRpcRequest} {s s' : System}

theorem controllerStep_switch {t : TaskId} {input : Input}
    (h : ControllerStep fromSlice s t input s') :
    s'.raw = s.raw ∧ (s'.tunnel = s.tunnel ∨ s'.tunnel = s.tunnel.enable ∨
      s'.tunnel = s.tunnel.disable) := by
  have hOperation {op : BusOp} {reply : op.Reply} {s' : System}
      (hOp : s.perform t input op = some (reply, s')) :
      s'.raw = s.raw ∧ (s'.tunnel = s.tunnel ∨ s'.tunnel = s.tunnel.enable ∨
        s'.tunnel = s.tunnel.disable) := by
    cases System.performed hOp with
    | enabled => exact ⟨rfl, .inr (.inl rfl)⟩
    | disabled => exact ⟨rfl, .inr (.inr rfl)⟩
    | _ => exact ⟨rfl, .inl rfl⟩
  cases h with
  | claimed =>
    rw [System.claim]
    split <;> exact ⟨rfl, .inl rfl⟩
  | advanced _ hOp =>
    have hSwitch := hOperation hOp
    exact hSwitch
  | drained _ hOp =>
    have hSwitch := hOperation hOp
    exact hSwitch
  | _ => exact ⟨rfl, .inl rfl⟩

theorem TunnelState.reachable_step {t : TunnelState} (h : rawTunnel.Reachable t)
    (a : TunnelAction) : rawTunnel.Reachable (t.step a) := .step a h trivial

theorem reachable_other {t : TunnelState} (h : rawTunnel.Reachable t)
    (hTunnel : s'.tunnel = t.system.tunnel) (hRaw : s'.raw = t.system.raw) :
    ∃ t', rawTunnel.Reachable t' ∧ t'.system = s' := by
  refine ⟨t.step (.other fun _ => s'), TunnelState.reachable_step h _, ?_⟩
  change { s' with tunnel := t.system.tunnel, raw := t.system.raw } = s'
  rw [← hTunnel, ← hRaw]

/-- Every run of the firmware is one of the raw tunnel task among its callers. -/
theorem firmware_rawTunnel (h : (firmware fromSlice).Reachable s) :
    ∃ t, rawTunnel.Reachable t ∧ t.system = s := by
  induction h with
  | init => exact ⟨{}, .init, rfl⟩
  | @step s a _ _ ih =>
    obtain ⟨t, hReach, rfl⟩ := ih
    have hSwitch {s' : System} (hRaw : s'.raw = t.system.raw)
        (hTunnel : s'.tunnel = t.system.tunnel ∨ s'.tunnel = t.system.tunnel.enable ∨
          s'.tunnel = t.system.tunnel.disable) : ∃ t', rawTunnel.Reachable t' ∧ t'.system = s' := by
      obtain hSame | hEnabled | hDisabled := hTunnel
      · exact reachable_other hReach hSame hRaw
      · exact reachable_other (TunnelState.reachable_step hReach .enable) hEnabled hRaw
      · exact reachable_other (TunnelState.reachable_step hReach .disable) hDisabled hRaw
    change ∃ t', rawTunnel.Reachable t' ∧ t'.system = t.system.step fromSlice a
    cases a with
    | schedule task =>
      rw [System.step]
      split <;> exact hSwitch rfl (.inl rfl)
    | arrive byte => exact hSwitch rfl (.inl rfl)
    | poll input =>
      rw [System.step]
      split
      · exact hSwitch rfl (.inl rfl)
      · rename_i u _
        obtain ⟨hRaw, hTunnel⟩ :=
          controllerStep_switch (t.system.pollController_step fromSlice u input)
        exact hSwitch hRaw hTunnel
      · exact ⟨t.step (.poll input), TunnelState.reachable_step hReach _, rfl⟩

theorem firmware_coherent (h : (firmware fromSlice).Reachable s) : Coherent s.tunnel s.raw := by
  obtain ⟨t, hReach, rfl⟩ := firmware_rawTunnel h
  exact TunnelState.coherent hReach

end Firmware

end Fetchline
