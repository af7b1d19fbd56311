import Fetchline.Firmware.BusOwner
import Fetchline.Firmware.Frames

/-! # Whose reply a status is

Replies carry no sequence number. The drain only makes it likely that the RX
queue is empty when the next packet is written; this module says what must hold of
the queue then, and that nothing else is needed for a status to consist of bytes
that arrived after its own packet.
-/

namespace Fetchline

open Effects Effects.Program Sync Transition

def BusEvent.task : BusEvent → TaskId
  | .wrote t _ | .written t _ | .observed t _ _ | .cancelled t _ => t

/-- How many bytes had arrived when the packet of the transaction that `t` is in
had been written. -/
def writtenAt (t : TaskId) : List BusEvent → Option Nat
  | [] => none
  | e :: earlier =>
    if e.task = t then
      match e with
      | .written _ arrived => some arrived
      | _ => none
    else writtenAt t earlier

theorem writtenAt_cons_of_ne {t : TaskId} {e : BusEvent} (h : e.task ≠ t) (earlier : List BusEvent) :
    writtenAt t (e :: earlier) = writtenAt t earlier := by simp [writtenAt, h]

/-- An accepted status consists of the last `frameLen` bytes taken out of the
queue, and all of them arrived after its packet had been written. -/
def FreshStatus (e : BusEvent) (earlier : List BusEvent) : Prop :=
  ∀ t frameLen consumed, e = .observed t (.statusAccepted frameLen) consumed →
    ∃ arrived, writtenAt t earlier = some arrived ∧ arrived + frameLen ≤ consumed

/-- When a `write_all` of a command returns, no header begins in the bytes that are
still unread. -/
def NothingStale (s : System) (a : Action) : Prop :=
  ∀ t session next, a = .poll .done → s.running = some (.controller t) →
    s.controllers t = .commanding session (.call .written next) → cannotBegin s.rx = true

/-- The bytes read in this transaction and those still in the queue are what was
left over when its packet was written and what has arrived since. -/
structure Reads (s : System) (t : TaskId) (bytes : List UInt8) : Prop where
  holder : s.uartRx.holder = some (.controller t)
  since : ∃ leftover later arrived, cannotBegin leftover = true ∧
    leftover ++ later = bytes ++ s.rx ∧ s.arrived = arrived + later.length ∧
    leftover.length ≤ arrived ∧ writtenAt t s.busLog = some arrived

def ReadsFresh (s : System) (t : TaskId) : Reading → Prop
  | .idle => True
  | .reading bytes => Reads s t bytes

structure Fresh (s : System) : Prop where
  commands : ∀ t session command, s.controllers t = .commanding session command →
    ∃ state, command.Obeys frames state (fun _ _ => True) ∧ ReadsFresh s t state
  arrived : s.rx.length ≤ s.arrived
  statuses : Log.Everywhere FreshStatus s.busLog

theorem fresh_init : Fresh {} := ⟨nofun, Nat.le_refl _, Log.everywhere_nil⟩

theorem freshStatuses_cons {e : BusEvent} {log : List BusEvent} (h : Log.Everywhere FreshStatus log)
    (he : ∀ t frameLen consumed, e ≠ .observed t (.statusAccepted frameLen) consumed) :
    Log.Everywhere FreshStatus (e :: log) := by
  rw [Log.everywhere_cons]
  exact ⟨fun t frameLen consumed h => absurd h (he t frameLen consumed), h⟩

theorem InCustody.held {α : Type} {s : System} {t : TaskId} {op : BusOp}
    {next : op.Reply → Bus α} (h : InCustody s t (.call op next))
    (hOp : op = .written ∨ op = .readByte ∨ op = .discard) :
    s.uartRx.holder = some (.controller t) := by
  obtain ⟨stage, ⟨hAllowed, -⟩, hHolds⟩ := h
  apply hHolds.rx.mpr
  rcases hOp with rfl | rfl | rfl <;> cases stage <;> first | rfl | exact hAllowed.elim

theorem Reads.accepted {s : System} {t : TaskId} {bytes rest : List UInt8} (h : Reads s t bytes)
    (hFound : headerSearch 128 0 bytes = .found rest) :
    FreshStatus (.observed t (.statusAccepted (rest.length + 2)) s.consumed) s.busLog := by
  rintro _ _ _ ⟨⟩
  obtain ⟨leftover, later, arrived, hLeftover, hBytes, hArrived, hBefore, hWritten⟩ := h.since
  refine ⟨arrived, hWritten, ?_⟩
  have hFrame := frame_after_leftover hLeftover hBytes hFound
  have hLengths := congrArg List.length hBytes
  simp only [List.length_append] at hLengths
  rw [System.consumed]
  omega

theorem perform_fresh_status {s s' : System} {t : TaskId} {input : Input} {op : BusOp}
    {reply : op.Reply} {state : Reading} (h : Fresh s) (hState : ReadsFresh s t state)
    (hAllowed : frames.allowed state op)
    (hWritten : op = .written → input = .done → cannotBegin s.rx = true)
    (hHeld : op = .written → s.uartRx.holder = some (.controller t))
    (hOp : s.perform t input op = some (reply, s')) :
    ReadsFresh s' t (frames.next state op reply) ∧ Log.Everywhere FreshStatus s'.busLog := by
  cases System.performed hOp with
  | read hRx =>
    cases state with
    | idle => exact hAllowed.elim
    | reading bytes =>
      obtain ⟨hHolder, leftover, later, arrived, hLeftover, hBytes, hSince⟩ := hState
      refine ⟨⟨hHolder, leftover, later, arrived, hLeftover, ?_, hSince⟩, h.statuses⟩
      rw [hBytes, hRx, List.append_assoc]
      rfl
  | readTimedOut =>
    cases state with
    | idle => exact hAllowed.elim
    | reading bytes => exact ⟨hState, h.statuses⟩
  | observed observation =>
    cases observation with
    | statusAccepted frameLen =>
      cases state with
      | idle => exact hAllowed.elim
      | reading bytes =>
        obtain ⟨rest, hFound, rfl⟩ := hAllowed
        refine ⟨trivial, ?_⟩
        exact (Log.everywhere_cons _ _).mpr ⟨hState.accepted hFound, h.statuses⟩
    | statusRejected failure =>
      cases state <;> exact ⟨trivial, freshStatuses_cons h.statuses (by simp)⟩
    | resynchronized =>
      cases state with
      | reading bytes => exact hAllowed.elim
      | idle => exact ⟨trivial, freshStatuses_cons h.statuses (by simp)⟩
  | written hInput =>
    cases state with
    | reading bytes => exact hAllowed.elim
    | idle =>
      refine ⟨⟨hHeld rfl, s.rx, [], s.arrived, hWritten rfl hInput, ?_, rfl, h.arrived, ?_⟩,
        freshStatuses_cons h.statuses (by simp)⟩
      · exact List.append_nil _
      · simp [System.log, writtenAt, BusEvent.task]
  | wrote =>
    cases state with
    | reading bytes => exact hAllowed.elim
    | idle => exact ⟨trivial, freshStatuses_cons h.statuses (by simp)⟩
  | _ =>
    cases state with
    | reading bytes => exact hAllowed.elim
    | idle => exact ⟨trivial, h.statuses⟩

/-- What a step of `t` may mean to the others on the bus. -/
structure BusFrame (s s' : System) (t : TaskId) : Prop where
  receiver : ∀ u, u ≠ t → s.uartRx.holder = some (.controller u) →
    s'.uartRx.holder = some (.controller u)
  arrived : s'.arrived = s.arrived
  log : s'.busLog = s.busLog ∨ ∃ e, e.task = t ∧ s'.busLog = e :: s.busLog
  suffix : s'.rx <:+ s.rx
  taken : s'.rx = s.rx ∨ s.uartRx.holder = some (.controller t)

theorem perform_busFrame {s s' : System} {t : TaskId} {input : Input} {op : BusOp}
    {reply : op.Reply} (hHeld : op = .readByte ∨ op = .discard →
      s.uartRx.holder = some (.controller t))
    (hOp : s.perform t input op = some (reply, s')) : BusFrame s s' t := by
  have hSame : BusFrame s s t :=
    ⟨fun _ _ h => h, rfl, .inl rfl, List.suffix_refl _, .inl rfl⟩
  have hLog (e : BusEvent) (he : e.task = t) : BusFrame s (s.log e) t :=
    { hSame with log := .inr ⟨e, he, rfl⟩ }
  cases System.performed hOp with
  | lockedRx hFree =>
    refine { hSame with receiver := ?_ }
    intro u _ hHolder
    rw [hFree] at hHolder
    cases hHolder
  | read hRx =>
    refine { hSame with suffix := ?_, taken := .inr (hHeld (.inl rfl)) }
    exact hRx ▸ List.suffix_cons _ _
  | discarded =>
    exact { hSame with suffix := List.drop_suffix 64 s.rx, taken := .inr (hHeld (.inr rfl)) }
  | wrote | written | observed => exact hLog _ rfl
  | _ => exact { hSame with }

theorem controllerStep_busFrame {fromSlice : String → Option JsonRpcRequest} {s s' : System}
    {t : TaskId} {input : Input} (h : Custody s) (hStep : ControllerStep fromSlice s t input s') :
    BusFrame s s' t := by
  have hSame : BusFrame s s t :=
    ⟨fun _ _ h => h, rfl, .inl rfl, List.suffix_refl _, .inl rfl⟩
  have hUnlock : BusFrame s (s.unlock t) t := by
    refine { hSame with receiver := ?_ }
    intro u hut hHolder
    exact Mutex.release_holder_eq_some.mpr ⟨hHolder, by simpa using hut⟩
  have hSelf := h.phase t
  cases hStep with
  | claimed =>
    rw [System.claim]
    split <;> exact { hSame with }
  | advanced hPhase hOp =>
    rw [hPhase] at hSelf
    exact { perform_busFrame (fun hReads => InCustody.held hSelf (.inr hReads)) hOp with }
  | drained hPhase hOp =>
    rw [hPhase] at hSelf
    exact { perform_busFrame (fun hReads => InCustody.held hSelf (.inr hReads)) hOp with }
  | cancelled => exact { hUnlock with log := .inr ⟨_, rfl, rfl⟩ }
  | silent => exact { hUnlock with }
  | answered => exact { hUnlock with }
  | outdated => exact { hUnlock with }
  | resynchronized => exact { hUnlock with }
  | resyncLocked _ hLock =>
    obtain ⟨hFree, rfl⟩ := Mutex.acquire_eq_some_iff.mp hLock
    refine { hSame with receiver := ?_ }
    intro u _ hHolder
    rw [hFree] at hHolder
    cases hHolder
  | _ => exact { hSame with }

theorem Reads.other {s s' : System} {t u : TaskId} {bytes : List UInt8} (h : Reads s u bytes)
    (hFrame : BusFrame s s' t) (hut : u ≠ t) : Reads s' u bytes := by
  obtain ⟨hHolder, leftover, later, arrived, hLeftover, hBytes, hArrived, hBefore, hWritten⟩ := h
  have hRx : s'.rx = s.rx := by
    rcases hFrame.taken with hRx | hTaken
    · exact hRx
    · rw [hHolder] at hTaken
      cases hTaken
      exact absurd rfl hut
  refine ⟨hFrame.receiver u hut hHolder, leftover, later, arrived, hLeftover, ?_, ?_, hBefore, ?_⟩
  · rw [hRx]
    exact hBytes
  · rw [hFrame.arrived]
    exact hArrived
  · rcases hFrame.log with hLog | ⟨e, rfl, hLog⟩
    · rw [hLog]
      exact hWritten
    · rw [hLog, writtenAt_cons_of_ne (Ne.symm hut)]
      exact hWritten

theorem Fresh.controllerStep {fromSlice : String → Option JsonRpcRequest} {s s' : System}
    {t : TaskId} {input : Input} (h : Fresh s) (hCustody : Custody s) (hScheduled : Scheduled s)
    (hRunning : s.running = some (.controller t)) (hStale : NothingStale s (.poll input))
    (hStep : ControllerStep fromSlice s t input s') : Fresh s' := by
  have hFrame := controllerStep_busFrame hCustody hStep
  have hArrived : s'.rx.length ≤ s'.arrived := by
    have hLength := hFrame.suffix.length_le
    have hOld := h.arrived
    rw [hFrame.arrived]
    omega
  -- One operation of the command `t` is running.
  have hAdvance {session : Session} {op : BusOp} {next : op.Reply → Bus JsonRpcAnswer}
      {reply : op.Reply} {s₁ : System} (hPhase : s.controllers t = .commanding session (.call op next))
      (hOp : s.perform t input op = some (reply, s₁)) :
      (∃ state, (next reply).Obeys frames state (fun _ _ => True) ∧ ReadsFresh s₁ t state) ∧
        Log.Everywhere FreshStatus s₁.busLog := by
    obtain ⟨state, ⟨hAllowed, hRest⟩, hState⟩ := h.commands t session _ hPhase
    have hHeld : op = .written → s.uartRx.holder = some (.controller t) := by
      intro hWritten
      have hSelf := hCustody.phase t
      rw [hPhase] at hSelf
      exact InCustody.held hSelf (.inl hWritten)
    have hBegin : op = .written → input = .done → cannotBegin s.rx = true := by
      rintro rfl rfl
      exact hStale t session next rfl hRunning hPhase
    obtain ⟨hNext, hLog⟩ := perform_fresh_status h hState hAllowed hBegin hHeld hOp
    exact ⟨⟨_, hRest reply, hNext⟩, hLog⟩
  refine ⟨?_, hArrived, ?_⟩
  · intro u session command hPhase
    rcases eq_or_ne u t with rfl | hut
    · rcases System.commanding_after hStep hPhase with ⟨rfl, hOld, -⟩ | ⟨-, -, request, rfl⟩ |
        ⟨op, next, reply, s₁, hOld, hOp, rfl, rfl⟩
      · obtain ⟨state, hObeys, hState⟩ := h.commands u session command hOld
        refine ⟨state, hObeys, ?_⟩
        cases state with
        | idle => trivial
        | reading bytes => exact ⟨hState.holder, hState.since⟩
      · exact ⟨.idle, handleJsonRpc_frames _ _ _, trivial⟩
      · obtain ⟨⟨state, hObeys, hState⟩, -⟩ := hAdvance hOld hOp
        refine ⟨state, hObeys, ?_⟩
        cases state with
        | idle => trivial
        | reading bytes => exact ⟨hState.holder, hState.since⟩
    · rw [System.controllerStep_others hStep hut] at hPhase
      obtain ⟨state, hObeys, hState⟩ := h.commands u session command hPhase
      refine ⟨state, hObeys, ?_⟩
      cases state with
      | idle => trivial
      | reading bytes => exact hState.other hFrame hut
  · cases hStep with
    | claimed =>
      rw [(System.claim_frame s t _).2.1]
      exact h.statuses
    | advanced hPhase hOp => exact (hAdvance hPhase hOp).2
    | drained hPhase hOp =>
      obtain ⟨hAllowed, -⟩ := hScheduled.drains t _ _ hPhase
      rename_i op next reply s₁
      change Log.Everywhere FreshStatus s₁.busLog
      cases op <;> first | exact hAllowed.elim | skip
      case discard =>
        have hState : ReadsFresh s t .idle := trivial
        have hDiscard : frames.allowed .idle .discard := trivial
        exact (perform_fresh_status h hState hDiscard nofun nofun hOp).2
      case observe observation =>
        cases observation <;> first | exact hAllowed.elim | skip
        cases hOp
        exact freshStatuses_cons h.statuses (by simp)
    | cancelled => exact freshStatuses_cons h.statuses (by simp)
    | _ => exact h.statuses

theorem Fresh.step {fromSlice : String → Option JsonRpcRequest} {s s' : System} {a : Action}
    (h : Fresh s) (hCustody : Custody s) (hScheduled : Scheduled s) (hStale : NothingStale s a)
    (hStep : SystemStep fromSlice s a s') : Fresh s' := by
  -- Steps that change neither the queue, the receiver nor the log.
  have hKeep {s' : System} (hControllers : s'.controllers = s.controllers)
      (hReads : ∀ t bytes, Reads s t bytes → Reads s' t bytes)
      (hArrived : s'.rx.length ≤ s'.arrived) (hLog : s'.busLog = s.busLog) : Fresh s' := by
    refine ⟨?_, hArrived, hLog ▸ h.statuses⟩
    intro t session command hPhase
    rw [hControllers] at hPhase
    obtain ⟨state, hObeys, hState⟩ := h.commands t session command hPhase
    refine ⟨state, hObeys, ?_⟩
    cases state with
    | idle => trivial
    | reading bytes => exact hReads t bytes hState
  cases hStep with
  | ignored => exact h
  | scheduled => exact hKeep rfl (fun t bytes hReads => ⟨hReads.holder, hReads.since⟩) h.arrived rfl
  | @arrived byte =>
    refine hKeep rfl ?_ ?_ rfl
    · intro t bytes hReads
      obtain ⟨hHolder, leftover, later, arrived, hLeftover, hBytes, hArrived, hRest⟩ := hReads
      refine ⟨hHolder, leftover, later ++ [byte], arrived, hLeftover, ?_, ?_, hRest⟩
      · rw [← List.append_assoc, hBytes, List.append_assoc]
      · rw [List.length_append, hArrived]
        rfl
    · have hOld := h.arrived
      simp only [List.length_append, List.length_cons, List.length_nil]
      omega
  | controller hRunning hStep => exact h.controllerStep hCustody hScheduled hRunning hStale hStep
  | raw _ hFrame =>
    refine hKeep hFrame.controllers ?_ ?_ hFrame.busLog
    · intro t bytes hReads
      refine ⟨(hFrame.uartRx t).mpr hReads.holder, ?_⟩
      rw [hFrame.kept t hReads.holder, hFrame.arrived, hFrame.busLog]
      exact hReads.since
    · have hLength := hFrame.taken.length_le
      have hOld := h.arrived
      rw [hFrame.arrived]
      omega

/-- When no header can begin in the bytes left over at a write, every status
consists of bytes that arrived after its own packet. -/
theorem statuses_answer_their_own_packet (fromSlice : String → Option JsonRpcRequest) (s : System)
    (hReach : (firmware fromSlice).Reach NothingStale s) :
    Log.Everywhere FreshStatus s.busLog := by
  have h : Fresh s := firmware_invariant Fresh fresh_init
    (fun _ _ _ hReach hInv hStale hStep =>
      hInv.step (custody_reach hReach) (scheduled hReach) hStale hStep) hReach
  exact h.statuses

/-- After a stop without an answer, and its drain, three bytes come in late: the tail of
a reply. -/
def lateTail : List Action :=
  firstTurn [.done, .done, .done, .pending, .text "stop", .pending, .pending, .pending,
    .pending, .done, .elapsed, .pending, .elapsed, .pending, .pending, .pending] ++
    [.arrive 2, .arrive 0, .arrive 252]

def stoppedAgain : List Action :=
  lateTail ++ firstTurn ([.text "stop", .pending, .pending, .pending, .pending, .done] ++
    List.replicate 4 .pending) ++ acceptedReply ++ firstTurn (List.replicate 7 .pending)

theorem statuses_answer_their_own_packet_tail :
    let M := firmware fun _ => some ⟨"2.0", "motor.stop", { id := some 1 }, none⟩
    let s := M.run M.init stoppedAgain
    (M.run M.init lateTail).rx = [2, 0, 252] ∧
      ∃ arrived, writtenAt 0 (s.busLog.drop 1) = some arrived ∧ arrived + 6 ≤ 9 := by
  intro M s
  have hMeets : M.Meets (fun s a => a = .poll .done → cannotBegin s.rx = true) M.init
      stoppedAgain := by decide +kernel
  have hReach : M.Reach NothingStale s :=
    .run .init (hMeets.mono fun _ _ h _ _ _ hDone _ _ => h hDone)
  have hLog : s.busLog = [] ++ .observed 0 (.statusAccepted 6) 9 :: s.busLog.drop 1 := by
    decide +kernel
  exact ⟨by decide +kernel, statuses_answer_their_own_packet _ s hReach _ _ _ hLog _ _ _ rfl⟩

/-- The servo answers after the deadline and after the drain has found its quiet
interval; the next stop of the same servo takes the late reply for its own. -/
theorem late_reply_answers_next_command :
    ¬ ∀ (fromSlice : String → Option JsonRpcRequest) (s : System),
      (firmware fromSlice).Reachable s → Log.Everywhere FreshStatus s.busLog := by
  intro hAll
  let M := firmware fun _ => some ⟨"2.0", "motor.stop", { id := some 1 }, none⟩
  let s := M.run M.init (firstTurn [.done, .done, .done, .pending, .text "stop",
      .pending, .pending, .pending, .pending, .done, .elapsed, .pending, .elapsed, .pending,
      .pending, .pending] ++ acceptedReply ++
    firstTurn ([.text "stop", .pending, .pending, .pending, .pending, .done] ++
      List.replicate 7 .pending))
  have hLog : s.busLog = [] ++ .observed 0 (.statusAccepted 6) 6 :: s.busLog.drop 1 := by
    decide +kernel
  obtain ⟨arrived, hWritten, hFresh⟩ :=
    hAll _ s (Machine.reachable_run _) _ _ _ hLog 0 6 6 rfl
  have hLate : writtenAt 0 (s.busLog.drop 1) = some 6 := by decide +kernel
  rw [hLate] at hWritten
  cases hWritten
  omega

end Fetchline
