import Fetchline.Library.Log
import Fetchline.Firmware.RawTunnel

/-! # Closing the raw client

A `disable` that meets a client has the task close it, unless a later `enable`
overwrites the signal before the task has read it: then the client stays, and
what it sends goes on to the servos.
-/

namespace Fetchline

open Transition

/-- The client that is being served has met a `disable`. -/
def doomed : List RawEvent → Bool
  | [] => false
  | .closed :: _ => false
  | .disabled true :: _ => true
  | _ :: log => doomed log

/-- No chunk has been read from a client that had met a `disable`. -/
def DisableCloses (log : List RawEvent) : Prop :=
  ∀ newer bytes older, log = newer ++ .received bytes :: older → doomed older = false

/-- Where the task looks at the signal while it serves such a client, no `enable` has
overwritten the command it was given. -/
def ReadsDisable (t : TunnelState) : TunnelAction → Prop
  | .poll _ => t.system.raw = .serving → doomed t.log = true →
      t.system.tunnel.command ≠ some .enable
  | _ => True

/-- Steps of the task until it looks at the signal, that one included. -/
def RawPhase.toClose : RawPhase → Nat
  | .lockingTx _ => 3
  | .writingTx _ | .reporting _ | .pausing => 2
  | .serving => 1
  | _ => 0

/-- The polls that get the task any further. -/
def advances (t : TunnelState) : TunnelAction → Nat
  | .poll input => if (t.system.pollRaw input).raw = t.system.raw then 0 else 1
  | _ => 0

def moves : TunnelState → List TunnelAction → Nat
  | _, [] => 0
  | t, a :: actions => advances t a + moves (t.step a) actions

theorem disableCloses_iff (log : List RawEvent) :
    DisableCloses log ↔ Log.Everywhere
      (fun e older => ∀ bytes, e = .received bytes → doomed older = false) log := by
  constructor
  · rintro h newer e older hLog bytes rfl
    exact h newer bytes older hLog
  · intro h newer bytes older hLog
    exact h newer _ older hLog bytes rfl

theorem disableCloses_nil : DisableCloses [] := (disableCloses_iff []).mpr Log.everywhere_nil

theorem DisableCloses.cons {log : List RawEvent} {e : RawEvent} (h : DisableCloses log)
    (hEvent : ∀ bytes, e = .received bytes → doomed log = false) : DisableCloses (e :: log) := by
  rw [disableCloses_iff, Log.everywhere_cons]
  exact ⟨hEvent, (disableCloses_iff log).mp h⟩

theorem RawPhase.toClose_pos {phase : RawPhase} (h : phase.InClient = true) : 0 < phase.toClose := by
  cases phase <;> first | exact Nat.succ_pos _ | cases h

/-- A client that has met a `disable` is being served, and a command is pending for it. -/
structure Attended (t : TunnelState) : Prop where
  serving : doomed t.log = true → t.system.raw.InClient = true
  command : doomed t.log = true → t.system.tunnel.command ≠ none
  closes : DisableCloses t.log

/-- A step of the task among such clients: it closes the client, or comes closer to
doing so, or waits for something else than the signal. -/
theorem RawMove.closing {tunnel tunnel' : RawTunnelControl} {phase phase' : RawPhase}
    (hMove : RawMove tunnel phase tunnel' phase') (hClient : phase.InClient = true)
    (hCommand : tunnel.command ≠ none)
    (hRead : phase = .serving → tunnel.command ≠ some .enable) :
    phase.events phase' = [.closed] ∨
      phase.events phase' = [] ∧ phase'.InClient = true ∧ tunnel' = tunnel ∧
        (phase' = phase ∧ phase ≠ .serving ∨ phase'.toClose < phase.toClose) := by
  cases hMove with
  | pending hQuiet =>
    refine .inr ⟨?_, hClient, rfl, .inl ⟨rfl, fun h => hCommand (hQuiet (.inr (.inr h)))⟩⟩
    cases phase <;> rfl
  | resumed h => exact absurd h (hRead rfl)
  | received bytes h => exact absurd h hCommand
  | left h => exact absurd h hCommand
  | uartFailed h => exact absurd h hCommand
  | uartRead bytes h => exact absurd h hCommand
  | stopped | writeFailed | reportFailed => exact .inl rfl
  | locked | wrote | reported | paused => exact .inr ⟨rfl, rfl, rfl, .inr (Nat.lt_succ_self _)⟩
  | _ => cases hClient

theorem RawPhase.events_cases (phase phase' : RawPhase) :
    phase.events phase' = [] ∨ ∃ e, phase.events phase' = [e] ∧ ∀ serving, e ≠ .disabled serving := by
  unfold RawPhase.events
  split
  · exact .inr ⟨_, rfl, nofun⟩
  · exact .inr ⟨_, rfl, nofun⟩
  · split
    · exact .inr ⟨_, rfl, nofun⟩
    · exact .inl rfl
  · exact .inl rfl

theorem doomed_cons_of_not {log : List RawEvent} {e : RawEvent} (h : doomed log = false)
    (hEvent : ∀ serving, e ≠ .disabled serving) : doomed (e :: log) = false := by
  cases e with
  | disabled serving => exact absurd rfl (hEvent serving)
  | closed => rfl
  | accepted => exact h
  | received bytes => exact h

namespace Attended

variable {t : TunnelState}

theorem poll_doomed (h : Attended t) {input : Input} (hDoomed : doomed t.log = true)
    (hok : ReadsDisable t (.poll input)) :
    (t.step (.poll input)).log = .closed :: t.log ∨
      (t.step (.poll input)).log = t.log ∧
        (t.step (.poll input)).system.raw.InClient = true ∧
        (t.step (.poll input)).system.tunnel = t.system.tunnel ∧
        (t.step (.poll input)).system.raw.toClose + advances t (.poll input) ≤
          t.system.raw.toClose := by
  obtain hClosed | ⟨hEvents, hClient, hTunnel, hNext⟩ :=
    (t.system.pollRaw_move input).closing (h.serving hDoomed) (h.command hDoomed)
      fun hServing => hok hServing hDoomed
  · exact .inl (congrArg (· ++ t.log) hClosed)
  · refine .inr ⟨congrArg (· ++ t.log) hEvents, hClient, hTunnel, ?_⟩
    change (t.system.pollRaw input).raw.toClose + (if _ then 0 else 1) ≤ _
    obtain ⟨hSame, -⟩ | hLess := hNext
    · rw [if_pos hSame, hSame]
      exact Nat.le_refl _
    · split
      · exact Nat.le_of_lt hLess
      · exact hLess

theorem poll_free (h : Attended t) (input : Input) (hFree : doomed t.log = false) :
    doomed (t.step (.poll input)).log = false ∧ DisableCloses (t.step (.poll input)).log := by
  change doomed (t.system.raw.events (t.system.pollRaw input).raw ++ t.log) = false ∧
    DisableCloses (t.system.raw.events (t.system.pollRaw input).raw ++ t.log)
  obtain hEvents | ⟨e, hEvents, hEvent⟩ := t.system.raw.events_cases (t.system.pollRaw input).raw
  · rw [hEvents]
    exact ⟨hFree, h.closes⟩
  · rw [hEvents]
    exact ⟨doomed_cons_of_not hFree hEvent, h.closes.cons fun _ _ => hFree⟩

theorem of_free (hFree : doomed t.log = false) (hCloses : DisableCloses t.log) : Attended t :=
  ⟨fun hDoomed => (nomatch hFree.symm.trans hDoomed),
    fun hDoomed => (nomatch hFree.symm.trans hDoomed), hCloses⟩

theorem poll (h : Attended t) {input : Input} (hok : ReadsDisable t (.poll input)) :
    Attended (t.step (.poll input)) := by
  by_cases hDoomed : doomed t.log = true
  · obtain hClosed | ⟨hLog, hClient, hTunnel, -⟩ := h.poll_doomed hDoomed hok
    · refine of_free (by rw [hClosed]; rfl) ?_
      rw [hClosed]
      exact h.closes.cons nofun
    · refine ⟨fun _ => hClient, fun _ => hTunnel ▸ h.command hDoomed, ?_⟩
      rw [hLog]
      exact h.closes
  · obtain ⟨hFree, hCloses⟩ := h.poll_free input (Bool.eq_false_iff.mpr hDoomed)
    exact of_free hFree hCloses

theorem disable (h : Attended t) : Attended (t.step .disable) := by
  by_cases hEnabled : t.system.tunnel.enabled = true
  · have hTunnel : (t.step .disable).system.tunnel = ⟨false, some .disable⟩ := by
      simp only [TunnelState.step, RawTunnelControl.disable, hEnabled, if_true]
    have hLog : (t.step .disable).log = .disabled t.system.raw.InClient :: t.log := if_pos hEnabled
    refine ⟨fun hDoomed => ?_, fun _ => hTunnel ▸ Option.some_ne_none _, ?_⟩
    · change t.system.raw.InClient = true
      cases hClient : t.system.raw.InClient with
      | true => rfl
      | false =>
        rw [hLog, hClient] at hDoomed
        exact hClient.symm.trans (h.serving hDoomed)
    · rw [hLog]
      exact h.closes.cons fun _ hEvent => by cases hEvent
  · have hTunnel : (t.step .disable).system.tunnel = t.system.tunnel := by
      simp only [TunnelState.step, RawTunnelControl.disable, hEnabled]
      rfl
    have hLog : (t.step .disable).log = t.log := if_neg hEnabled
    refine ⟨?_, ?_, ?_⟩
    · rw [hLog]
      exact h.serving
    · rw [hLog, hTunnel]
      exact h.command
    · rw [hLog]
      exact h.closes

theorem enable (h : Attended t) : Attended (t.step .enable) := by
  refine ⟨h.serving, fun hDoomed => ?_, h.closes⟩
  change t.system.tunnel.enable.command ≠ none
  rw [RawTunnelControl.enable]
  split
  · exact h.command hDoomed
  · exact Option.some_ne_none _

theorem step (h : Attended t) {a : TunnelAction} (hok : ReadsDisable t a) :
    Attended (t.step a) := by
  cases a with
  | enable => exact h.enable
  | disable => exact h.disable
  | poll input => exact h.poll hok
  | other change => exact ⟨h.serving, h.command, h.closes⟩

theorem of_reach (h : rawTunnel.Reach ReadsDisable t) : Attended t := by
  induction h with
  | init => exact of_free rfl disableCloses_nil
  | step a _ hok ih => exact ih.step hok

theorem step_doomed (h : Attended t) (hDoomed : doomed t.log = true) {a : TunnelAction}
    (hok : ReadsDisable t a) :
    (t.step a).log = .closed :: t.log ∨
      doomed (t.step a).log = true ∧ (t.step a).system.raw.toClose + advances t a ≤
        t.system.raw.toClose := by
  have hSame : t.system.raw.toClose + 0 ≤ t.system.raw.toClose := Nat.le_refl _
  cases a with
  | enable => exact .inr ⟨hDoomed, hSame⟩
  | other change => exact .inr ⟨hDoomed, hSame⟩
  | disable =>
    refine .inr ⟨?_, hSame⟩
    change doomed (if _ then _ else _) = true
    split
    · rw [h.serving hDoomed]
      rfl
    · exact hDoomed
  | poll input =>
    refine (h.poll_doomed hDoomed hok).imp_right ?_
    rintro ⟨hLog, -, -, hNext⟩
    exact ⟨hLog ▸ hDoomed, hNext⟩

end Attended

namespace TunnelState

theorem step_log (t : TunnelState) (a : TunnelAction) : ∃ newer, (t.step a).log = newer ++ t.log := by
  cases a with
  | enable => exact ⟨[], rfl⟩
  | disable =>
    rw [step]
    split
    · exact ⟨[_], rfl⟩
    · exact ⟨[], rfl⟩
  | poll input => exact ⟨_, rfl⟩
  | other change => exact ⟨[], rfl⟩

theorem run_log (t : TunnelState) (actions : List TunnelAction) :
    ∃ newer, (rawTunnel.run t actions).log = newer ++ t.log := by
  induction actions generalizing t with
  | nil => exact ⟨[], rfl⟩
  | cons a actions ih =>
    obtain ⟨newer, hStep⟩ := t.step_log a
    obtain ⟨newest, hRun⟩ := ih (t.step a)
    refine ⟨newest ++ newer, ?_⟩
    rw [List.append_assoc, ← hStep]
    exact hRun

end TunnelState

theorem Attended.closed_of_moves {t : TunnelState} (h : Attended t) (hDoomed : doomed t.log = true)
    {actions : List TunnelAction} (hMeets : rawTunnel.Meets ReadsDisable t actions)
    (hMoves : t.system.raw.toClose ≤ moves t actions) :
    ∃ newer, (rawTunnel.run t actions).log = newer ++ t.log ∧ .closed ∈ newer := by
  induction actions generalizing t with
  | nil => exact absurd (RawPhase.toClose_pos (h.serving hDoomed)) (Nat.not_lt.mpr hMoves)
  | cons a actions ih =>
    obtain ⟨hok, hMeets⟩ := hMeets
    obtain hClosed | ⟨hDoomed', hNext⟩ := h.step_doomed hDoomed hok
    · obtain ⟨newer, hRun⟩ := (t.step a).run_log actions
      refine ⟨newer ++ [.closed], ?_, List.mem_append_right _ List.mem_cons_self⟩
      rw [List.append_assoc, List.singleton_append, ← hClosed]
      exact hRun
    · have hLeft : (t.step a).system.raw.toClose ≤ moves (t.step a) actions := by
        rw [moves] at hMoves
        omega
      obtain ⟨newer, hRun, hClosed⟩ := ih (h.step hok) hDoomed' hMeets hLeft
      obtain ⟨older, hStep⟩ := t.step_log a
      refine ⟨newer ++ older, ?_, List.mem_append_left _ hClosed⟩
      rw [List.append_assoc, ← hStep]
      exact hRun

theorem RawPhase.toClose_le (phase : RawPhase) : phase.toClose ≤ 3 := by
  cases phase <;> exact Nat.le_of_ble_eq_true rfl

/-- In runs in which the task reads the `Disable`, no chunk is read from a client that
has met a `disable`, and the task closes it within three steps; a task that looks at
the signal closes it at once. -/
theorem disable_closes_the_client (t : TunnelState) (h : rawTunnel.Reach ReadsDisable t) :
    DisableCloses t.log ∧
    (doomed t.log = true →
      (∀ actions, rawTunnel.Meets ReadsDisable t actions → 3 ≤ moves t actions →
        ∃ newer, (rawTunnel.run t actions).log = newer ++ t.log ∧ .closed ∈ newer) ∧
      (t.system.raw = .serving → ∀ input, ReadsDisable t (.poll input) →
        (t.step (.poll input)).log = .closed :: t.log)) := by
  have hAttended := Attended.of_reach h
  refine ⟨hAttended.closes, fun hDoomed => ⟨fun actions hMeets hMoves => ?_, ?_⟩⟩
  · exact hAttended.closed_of_moves hDoomed hMeets (t.system.raw.toClose_le.trans hMoves)
  · intro hServing input hok
    have hClient := hAttended.serving hDoomed
    have hCommand := hAttended.command hDoomed
    have hMove := t.system.pollRaw_move input
    rw [hServing] at hMove hClient
    obtain hClosed | ⟨-, hClient', -, hNext⟩ :=
      hMove.closing hClient hCommand fun _ => hok hServing hDoomed
    · change t.system.raw.events (t.system.pollRaw input).raw ++ t.log = _
      rw [hServing, hClosed]
      rfl
    · obtain ⟨-, hElsewhere⟩ | hLess := hNext
      · exact absurd rfl hElsewhere
      · exact absurd (RawPhase.toClose_pos hClient') (Nat.not_lt.mpr (Nat.le_of_lt_succ hLess))

theorem disable_closes_the_client_run :
    DisableCloses (rawTunnel.run rawTunnel.init [.poll .pending, .enable, .poll .pending,
      .poll .pending, .poll .done, .poll .done, .disable, .poll .pending]).log ∧
    (rawTunnel.run rawTunnel.init [.poll .pending, .enable, .poll .pending, .poll .pending,
      .poll .done, .poll .done, .disable, .poll .pending]).log =
        [.closed, .disabled true, .accepted] := by
  refine ⟨(disable_closes_the_client _ (Machine.Reach.run .init ?_)).1, rfl⟩
  refine ⟨nofun, trivial, nofun, nofun, nofun, nofun, trivial, ?_, trivial⟩
  intro _ _ hCommand
  cases hCommand

/-- `enable` overwrites the `Disable` before the task has read it: the client stays,
and its next chunk is read for the servos. -/
theorem enable_keeps_the_client :
    (rawTunnel.run rawTunnel.init [.poll .pending, .enable, .poll .pending, .poll .pending,
      .poll .done, .poll .done, .disable, .enable, .poll .pending, .poll (.chunk [0x55])]).log =
        [.received [0x55], .disabled true, .accepted] ∧
    ¬ DisableCloses (rawTunnel.run rawTunnel.init [.poll .pending, .enable, .poll .pending,
      .poll .pending, .poll .done, .poll .done, .disable, .enable, .poll .pending,
      .poll (.chunk [0x55])]).log := by
  refine ⟨rfl, fun hCloses => ?_⟩
  cases hCloses [] [0x55] [.disabled true, .accepted] rfl

end Fetchline
