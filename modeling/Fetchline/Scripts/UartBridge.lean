import Fetchline.Library.Machine
import Fetchline.Scripts.EchoFilter

/-!
# The two ports of the UART bridge

Each port has an echo filter. It sees what is read from the port and is told what is written
to it, so the two filters write for each other.
-/

namespace Fetchline.UartBridge

open Transition

inductive Port
  | mcu
  | feurt
deriving DecidableEq

def Port.other : Port → Port
  | .mcu => .feurt
  | .feurt => .mcu

@[simp] theorem Port.other_other (p : Port) : p.other.other = p := by cases p <;> rfl

@[simp] theorem Port.ne_other (p : Port) : p ≠ p.other := by cases p <;> decide

@[simp] theorem Port.other_ne (p : Port) : p.other ≠ p := p.ne_other.symm

theorem Port.eq_other {p q : Port} (h : p ≠ q) : q = p.other := by
  cases p <;> cases q <;> first | rfl | exact absurd rfl h

/-- What becomes of a `write_all`: `wrote` reads the clock after it, or it raises an error
after this many bytes. -/
inductive Writing (τ : Type)
  | completed (now : τ)
  | raised (written : Nat)

/-- The errors that leave the loop. -/
inductive Failure
  | indexError
  | readFailed
  | writeFailed
deriving DecidableEq

/-- `frames` counts what is forwarded from each port. The rest is an observer's: the calls on
each filter and the bytes on the lines. -/
structure Bridge (τ : Type) where
  echo : Port → LocalEchoFilter τ
  frames : Port → Nat
  calls : Port → List (Call τ)
  received : Port → List UInt8
  sent : Port → List UInt8
  failed : Option Failure

namespace Bridge

/-- What the filter of a port has let through and what is left of the filter. -/
def filtered (s : Bridge τ) (source : Port) (payload : List UInt8) (filter : LocalEchoFilter τ) :
    Bridge τ :=
  { s with
    echo := Function.update s.echo source filter
    calls := Function.update s.calls source (s.calls source ++ [.filter payload])
    received := Function.update s.received source (s.received source ++ payload) }

@[simp] theorem filtered_echo (s : Bridge τ) (source : Port) (payload : List UInt8)
    (filter : LocalEchoFilter τ) : (s.filtered source payload filter).echo source = filter :=
  Function.update_self ..

@[simp] theorem filtered_received (s : Bridge τ) (source : Port) (payload : List UInt8)
    (filter : LocalEchoFilter τ) :
    (s.filtered source payload filter).received source = s.received source ++ payload :=
  Function.update_self ..

variable [Add τ] (graceSeconds : τ)

def forward (s : Bridge τ) (source : Port) (payload : List UInt8) (writing : Writing τ) :
    Bridge τ :=
  if payload = [] then s
  else match writing with
    | .completed now => { s with
        echo := Function.update s.echo source.other
          ((s.echo source.other).wrote graceSeconds now payload)
        frames := Function.update s.frames source (s.frames source + 1)
        calls := Function.update s.calls source.other
          (s.calls source.other ++ [.wrote now payload])
        sent := Function.update s.sent source.other (s.sent source.other ++ payload) }
    | .raised written => { s with
        sent := Function.update s.sent source.other
          (s.sent source.other ++ payload.take written)
        failed := some .writeFailed }

theorem forward_nil (s : Bridge τ) (source : Port) (writing : Writing τ) :
    s.forward graceSeconds source [] writing = s := if_pos rfl

variable [LT τ] [DecidableLT τ]

/-- `received` is what `os.read` returns, or `none` when it raises an error. -/
def read (s : Bridge τ) (source : Port) (received : Option (List UInt8)) (writing : Writing τ) :
    Bridge τ :=
  match received with
  | none => { s with failed := some .readFailed }
  | some payload =>
    if payload = [] then s
    else match (s.echo source).filter payload with
      | none => { s with failed := some .indexError }
      | some (output, filter) =>
        (s.filtered source payload filter).forward graceSeconds source output writing

def andThen (s : Bridge τ) (next : Bridge τ → Bridge τ) : Bridge τ :=
  if s.failed = none then next s else s

def readAll (s : Bridge τ) : List (Port × Option (List UInt8) × Writing τ) → Bridge τ
  | [] => s
  | (source, received, writing) :: readable =>
    (s.read graceSeconds source received writing).andThen fun s => s.readAll readable

def flushed (s : Bridge τ) (now : Port → τ) : Bridge τ :=
  { s with
    echo := fun p => ((s.echo p).flushExpired (now p)).2
    calls := fun p => s.calls p ++ [.flushExpired (now p)] }

/-- Both filters are flushed before anything is written. -/
def flush (s : Bridge τ) (now : Port → τ) (writing : Port → Writing τ) : Bridge τ :=
  ((s.flushed now).forward graceSeconds .mcu ((s.echo .mcu).flushExpired (now .mcu)).1
    (writing .mcu)).andThen fun s' =>
      s'.forward graceSeconds .feurt ((s.echo .feurt).flushExpired (now .feurt)).1 (writing .feurt)

end Bridge

/-- What one round of the loop in `run` meets. -/
structure Round (τ : Type) where
  readable : List (Port × Option (List UInt8) × Writing τ)
  now : Port → τ
  writing : Port → Writing τ

/-- The loop of `run`, until an error leaves it. -/
def bridge [Zero τ] [Add τ] [LT τ] [DecidableLT τ] (graceSeconds : τ) :
    Machine (Bridge τ) (Round τ) where
  init := ⟨fun _ => .new, fun _ => 0, fun _ => [], fun _ => [], fun _ => [], none⟩
  step s round := s.andThen fun s =>
    (s.readAll graceSeconds round.readable).andThen fun s =>
      s.flush graceSeconds round.now round.writing

def pingPacket : List UInt8 := [0xff, 0xff, 5, 2, 1, 0xf7]

def replyPacket : List UInt8 := [0xff, 0xff, 5, 2, 0, 0xf8]

/-- The other adapter echoes the ping in front of the reply. -/
def pingRounds : List (Round Nat) :=
  [⟨[(.mcu, some pingPacket, .completed 100)], fun _ => 101, fun _ => .completed 101⟩,
    ⟨[(.feurt, some (pingPacket ++ replyPacket), .completed 102)], fun _ => 103,
      fun _ => .completed 103⟩]

def pinged : Bridge Nat := (bridge 10).run (bridge 10).init pingRounds

theorem pinged_reachable : (bridge 10).Reachable pinged := Machine.reachable_run pingRounds

example : pinged.failed = none ∧ pinged.sent .feurt = pingPacket ∧
    pinged.sent .mcu = replyPacket := by decide

def Call.written : Call τ → Option (List UInt8)
  | .wrote _ payload => some payload
  | .filter _ | .flushExpired _ => none

section Bridged

variable [Add τ] [LT τ] [DecidableLT τ] (graceSeconds : τ)

theorem LocalEchoFilter.run_concat {f f' f'' : LocalEchoFilter τ} {calls : List (Call τ)}
    {call : Call τ} {returned output : List UInt8}
    (h : f.run graceSeconds calls = some (returned, f'))
    (hCall : f'.perform graceSeconds call = some (output, f'')) :
    f.run graceSeconds (calls ++ [call]) = some (returned ++ output, f'') := by
  induction calls generalizing f returned with
  | nil =>
    cases h
    rw [List.nil_append, LocalEchoFilter.run, hCall, Option.bind_eq_bind, Option.bind_some]
    exact congrArg (fun bytes => some (bytes, f'')) (List.append_nil output)
  | cons first calls ih =>
    rw [LocalEchoFilter.run, Option.bind_eq_bind, Option.bind_eq_some_iff] at h
    obtain ⟨⟨before, g⟩, hFirst, h⟩ := h
    obtain ⟨⟨rest, g'⟩, hRun, h⟩ := Option.bind_eq_some_iff.mp h
    cases h
    rw [List.cons_append, LocalEchoFilter.run, hFirst, Option.bind_eq_bind, Option.bind_some,
      List.append_assoc]
    exact congrArg (Option.bind · _) (ih hRun)

variable [Zero τ]

/-- The filter of a port has let through what was sent to the other port, and `pending`. -/
structure Called (s : Bridge τ) (p : Port) (pending : List UInt8) : Prop where
  run : LocalEchoFilter.new.run graceSeconds (s.calls p) =
    some (s.sent p.other ++ pending, s.echo p)
  fed : fedBytes (s.calls p) = s.received p
  written : ((s.calls p).filterMap Call.written).flatten = s.sent p
  frames : ((s.calls p).filterMap Call.written).length = s.frames p.other

def Bridged (s : Bridge τ) (pending : Port → List UInt8) : Prop :=
  s.failed = none ∧ ∀ p, Called graceSeconds s p (pending p)

/-- A failed write has left the rest unsent. -/
structure Unsent (s : Bridge τ) (p : Port) : Prop where
  run : ∃ returned, LocalEchoFilter.new.run graceSeconds (s.calls p) = some (returned, s.echo p) ∧
    s.sent p.other <+: returned
  fed : fedBytes (s.calls p) = s.received p
  written : ((s.calls p).filterMap Call.written).flatten <+: s.sent p

def Stopped (s : Bridge τ) : Prop :=
  s.failed = some .writeFailed ∧ ∀ p, Unsent graceSeconds s p

/-- Nothing waits to be forwarded, unless a write has failed. -/
def Kept (s : Bridge τ) : Prop :=
  ((s.failed = none ∨ s.failed = some .readFailed) ∧ ∀ p, Called graceSeconds s p []) ∨
    Stopped graceSeconds s

variable {graceSeconds} {s s' : Bridge τ} {p : Port}

namespace Called

variable {pending pending' : List UInt8}

theorem frame (h : Called graceSeconds s p pending) (hEcho : s'.echo p = s.echo p)
    (hCalls : s'.calls p = s.calls p) (hReceived : s'.received p = s.received p)
    (hSent : s'.sent p = s.sent p)
    (hOther : s'.sent p.other ++ pending' = s.sent p.other ++ pending)
    (hFrames : s'.frames p.other = s.frames p.other) : Called graceSeconds s' p pending' where
  run := by rw [hCalls, hOther, hEcho, h.run]
  fed := by rw [hCalls, hReceived, h.fed]
  written := by rw [hCalls, hSent, h.written]
  frames := by rw [hCalls, hFrames, h.frames]

theorem extend (h : Called graceSeconds s p pending) (call : Call τ) (output : List UInt8)
    (hCalls : s'.calls p = s.calls p ++ [call])
    (hCall : (s.echo p).perform graceSeconds call = some (output, s'.echo p))
    (hReceived : s'.received p = s.received p ++ fedBytes [call])
    (hSent : s'.sent p = s.sent p ++ ([call].filterMap Call.written).flatten)
    (hOther : s'.sent p.other ++ pending' = s.sent p.other ++ pending ++ output)
    (hFrames : s'.frames p.other = s.frames p.other + ([call].filterMap Call.written).length) :
    Called graceSeconds s' p pending' where
  run := by
    rw [hCalls, hOther]
    exact LocalEchoFilter.run_concat graceSeconds h.run hCall
  fed := by rw [hCalls, fedBytes_append, h.fed, hReceived]
  written := by rw [hCalls, List.filterMap_append, List.flatten_append, h.written, hSent]
  frames := by rw [hCalls, List.filterMap_append, List.length_append, h.frames, hFrames]

theorem filter (h : Called graceSeconds s p []) (payload : List UInt8) :
    ∃ output filter, (s.echo p).filter payload = some (output, filter) ∧
      Called graceSeconds (s.filtered p payload filter) p output := by
  obtain ⟨returned, f, log, hRun, -, hAccounts⟩ := accounts_new.run graceSeconds (s.calls p)
  obtain ⟨-, rfl⟩ := Prod.mk.inj (Option.some.inj (h.run.symm.trans hRun))
  obtain ⟨output, filter, -, hFilter, -, -⟩ := hAccounts.filterBytes payload
  refine ⟨output, filter, hFilter, h.extend (.filter payload) output ?_ ?_ ?_ ?_ ?_ rfl⟩
  · exact Function.update_self ..
  · rw [Bridge.filtered_echo]
    exact hFilter
  · rw [Bridge.filtered_received, fedBytes, fedBytes, List.append_nil]
  · exact (List.append_nil _).symm
  · rw [List.append_nil]
    rfl

end Called

theorem Bridged.forward {pending : Port → List UInt8} (h : Bridged graceSeconds s pending)
    (source : Port) (writing : Writing τ) :
    Bridged graceSeconds (s.forward graceSeconds source (pending source) writing)
        (Function.update pending source []) ∨
      Stopped graceSeconds (s.forward graceSeconds source (pending source) writing) := by
  rcases eq_or_ne (pending source) [] with hNone | hSome
  · have hPending : Function.update pending source [] = pending := by
      rw [← hNone]
      exact Function.update_eq_self source pending
    rw [hNone, Bridge.forward_nil, hPending]
    exact .inl h
  cases writing with
  | completed now =>
    rw [Bridge.forward, if_neg hSome]
    left
    refine ⟨h.1, fun p => ?_⟩
    have hCalled := h.2 p
    rcases eq_or_ne p source with rfl | hSource
    · exact hCalled.frame (by simp) (by simp) rfl (by simp) (by simp) (by simp)
    · obtain rfl := Port.eq_other hSource
      refine hCalled.extend (.wrote now (pending p.other)) [] ?_ ?_ ?_ ?_ ?_ ?_
      · simp
      · simp [LocalEchoFilter.perform]
      · simp [fedBytes]
      · simp [Call.written]
      · simp
      · simp [Call.written]
  | raised written =>
    rw [Bridge.forward, if_neg hSome]
    right
    refine ⟨rfl, fun p => ?_⟩
    have hCalled := h.2 p
    rcases eq_or_ne p source with rfl | hSource
    · refine ⟨⟨_, hCalled.run, ?_⟩, hCalled.fed, ?_⟩
      · simp [List.take_prefix]
      · simp [hCalled.written]
    · obtain rfl := Port.eq_other hSource
      refine ⟨⟨_, hCalled.run, ?_⟩, hCalled.fed, ?_⟩
      · simp
      · simp [hCalled.written]

theorem Bridged.kept (h : Bridged graceSeconds s fun _ => []) : Kept graceSeconds s :=
  .inl ⟨.inl h.1, h.2⟩

theorem Bridged.read (h : Bridged graceSeconds s fun _ => []) (source : Port)
    (received : Option (List UInt8)) (writing : Writing τ) :
    Kept graceSeconds (s.read graceSeconds source received writing) := by
  cases received with
  | none => exact .inl ⟨.inr rfl, fun p => (h.2 p).frame rfl rfl rfl rfl rfl rfl⟩
  | some payload =>
    rw [Bridge.read]
    split
    · exact h.kept
    obtain ⟨output, filter, hFilter, hNext⟩ := (h.2 source).filter payload
    rw [hFilter]
    have hFiltered : Bridged graceSeconds (s.filtered source payload filter)
        (Function.update (fun _ => []) source output) := by
      refine ⟨h.1, fun p => ?_⟩
      rcases eq_or_ne p source with rfl | hSource
      · rw [Function.update_self]
        exact hNext
      · rw [Function.update_of_ne hSource]
        exact (h.2 p).frame (Function.update_of_ne hSource ..) (Function.update_of_ne hSource ..)
          (Function.update_of_ne hSource ..) rfl rfl rfl
    have hForwarded := hFiltered.forward source writing
    rw [Function.update_self, Function.update_idem, Function.update_eq_self] at hForwarded
    exact hForwarded.elim Bridged.kept .inr

theorem Kept.andThen (h : Kept graceSeconds s) {next : Bridge τ → Bridge τ}
    (hNext : ∀ s, Bridged graceSeconds s (fun _ => []) → Kept graceSeconds (next s)) :
    Kept graceSeconds (s.andThen next) := by
  rw [Bridge.andThen]
  split
  · rename_i hRunning
    rcases h with ⟨-, hCalled⟩ | ⟨hFailed, -⟩
    · exact hNext s ⟨hRunning, hCalled⟩
    · rw [hRunning] at hFailed
      cases hFailed
  · exact h

theorem Bridged.readAll (h : Bridged graceSeconds s fun _ => [])
    (readable : List (Port × Option (List UInt8) × Writing τ)) :
    Kept graceSeconds (s.readAll graceSeconds readable) := by
  induction readable generalizing s with
  | nil => exact h.kept
  | cons first readable ih =>
    obtain ⟨source, received, writing⟩ := first
    exact (h.read source received writing).andThen fun _ hNext => ih hNext

theorem Bridged.flush (h : Bridged graceSeconds s fun _ => []) (now : Port → τ)
    (writing : Port → Writing τ) : Kept graceSeconds (s.flush graceSeconds now writing) := by
  have hFlushed : Bridged graceSeconds (s.flushed now)
      fun p => ((s.echo p).flushExpired (now p)).1 := by
    refine ⟨h.1, fun p => (h.2 p).extend (.flushExpired (now p)) _ rfl rfl ?_ ?_ ?_ rfl⟩
    · exact (List.append_nil _).symm
    · exact (List.append_nil _).symm
    · rw [List.append_nil]
      rfl
  rw [Bridge.flush, Bridge.andThen]
  rcases hFlushed.forward .mcu (writing .mcu) with hFirst | hStopped
  · rw [if_pos hFirst.1]
    have hSecond := hFirst.forward .feurt (writing .feurt)
    have hNone : Function.update (Function.update
        (fun p => ((s.echo p).flushExpired (now p)).1) .mcu []) .feurt [] = fun _ => [] := by
      funext p
      cases p <;> rfl
    rw [hNone] at hSecond
    exact hSecond.elim Bridged.kept .inr
  · rw [if_neg (by rw [hStopped.1]; decide)]
    exact .inr hStopped

theorem kept_reachable (h : (bridge graceSeconds).Reachable s) : Kept graceSeconds s := by
  refine h.invariant (.inl ⟨.inl rfl, fun p => ⟨rfl, rfl, rfl, rfl⟩⟩) ?_
  intro s round _ hKept _
  exact hKept.andThen fun s hBridged =>
    (hBridged.readAll round.readable).andThen fun s hRead => hRead.flush round.now round.writing

theorem returnedBytes_eq (log : List Entry) :
    returnedBytes log = ((marked log).filter fun byte => !byte.2).map Prod.fst := by
  induction log with
  | nil => rfl
  | cons entry log ih =>
    cases entry with
    | returned bytes => simp [returnedBytes, marked, ih, List.filter_map, Function.comp_def]
    | deleted block => simp [returnedBytes, marked, ih, List.filter_map, Function.comp_def]
    | wrote payload => exact ih
    | cleared => exact ih

theorem accounts_of_run {calls : List (Call τ)} {returned : List UInt8} {f : LocalEchoFilter τ}
    (hRun : LocalEchoFilter.new.run graceSeconds calls = some (returned, f)) :
    ∃ log, (⟨.new, []⟩ : Watched τ).run graceSeconds calls = some ⟨f, log⟩ ∧
      Accounts (fedBytes calls) returned ⟨f, log⟩ := by
  obtain ⟨returned', f', log, hRun', hWatched, hAccounts⟩ := accounts_new.run graceSeconds calls
  obtain ⟨rfl, rfl⟩ := Prod.mk.inj (Option.some.inj (hRun.symm.trans hRun'))
  exact ⟨log, hWatched, hAccounts⟩

/-- Every byte received from a port is held by its filter, or deleted with a block that was
sent to the port, or forwarded in its turn; only a failed write leaves bytes unsent. -/
theorem bridge_conserves (h : (bridge graceSeconds).Reachable s) (p : Port) :
    s.failed ≠ some .indexError ∧
      ∃ log, (⟨.new, []⟩ : Watched τ).run graceSeconds (s.calls p) = some ⟨s.echo p, log⟩ ∧
        s.received p = (marked log).map Prod.fst ++ (s.echo p).candidate ∧
        Log.Everywhere DeletesWritten log ∧ s.sent p.other <+: returnedBytes log ∧
        ((s.calls p).filterMap Call.written).flatten <+: s.sent p ∧
        (s.failed ≠ some .writeFailed → s.sent p.other = returnedBytes log ∧
          ((s.calls p).filterMap Call.written).flatten = s.sent p ∧
          ((s.calls p).filterMap Call.written).length = s.frames p.other) := by
  rcases kept_reachable h with ⟨hFailed, hPorts⟩ | ⟨hFailed, hPorts⟩
  · have hCalled := hPorts p
    obtain ⟨log, hWatched, hAccounts⟩ := accounts_of_run hCalled.run
    have hSent : s.sent p.other = returnedBytes log :=
      (List.append_nil _).symm.trans hAccounts.returned
    have hIndex : s.failed ≠ some .indexError := by
      rcases hFailed with h | h <;> rw [h] <;> decide
    refine ⟨hIndex, log, hWatched, ?_, hAccounts.deletes, ?_, ?_,
      fun _ => ⟨hSent, hCalled.written, hCalled.frames⟩⟩
    · exact hCalled.fed.symm.trans hAccounts.fed
    · rw [hSent]
    · rw [hCalled.written]
  · obtain ⟨returned, hRun, hPrefix⟩ := (hPorts p).run
    obtain ⟨log, hWatched, hAccounts⟩ := accounts_of_run hRun
    refine ⟨by rw [hFailed]; decide, log, hWatched, ?_, hAccounts.deletes, ?_, (hPorts p).written,
      fun hWritten => absurd hFailed hWritten⟩
    · exact (hPorts p).fed.symm.trans hAccounts.fed
    · rw [← hAccounts.returned]
      exact hPrefix

theorem bridge_conserves_ping : ∃ log,
    (⟨.new, []⟩ : Watched Nat).run 10 (pinged.calls .feurt) = some ⟨pinged.echo .feurt, log⟩ ∧
      pingPacket ++ replyPacket = (marked log).map Prod.fst ++ (pinged.echo .feurt).candidate ∧
      Log.Everywhere DeletesWritten log ∧ returnedBytes log = replyPacket := by
  obtain ⟨-, log, hRun, hReceived, hDeletes, -, -, hSent⟩ :=
    bridge_conserves pinged_reachable .feurt
  refine ⟨log, hRun, ?_, hDeletes, ?_⟩
  · rw [← hReceived]
    decide
  · rw [← (hSent (by decide)).1]
    decide

/-- While the echoes of a port come in time, the other bytes received from it are what is
forwarded. -/
theorem bridge_forwards_the_rest (h : (bridge graceSeconds).Reachable s)
    (hWritten : s.failed ≠ some .writeFailed) (p : Port) {outstanding : List UInt8}
    (hEchoed : EchoedUntil graceSeconds outstanding [] 0 (s.calls p)) :
    s.sent p.other = ((arrivals [] (s.calls p)).filter fun byte => !byte.2).map Prod.fst := by
  rcases kept_reachable h with ⟨-, hPorts⟩ | ⟨hFailed, -⟩
  · obtain ⟨log, hWatched, hAccounts⟩ := accounts_of_run (hPorts p).run
    obtain ⟨w, _, hSame, hEchoing⟩ := echoing_new.run graceSeconds hEchoed
    obtain rfl := Option.some.inj (hWatched.symm.trans hSame)
    have hSeen := hEchoing.seen
    -- What the filter holds is a part of an echo.
    have hHeld : (((s.echo p).candidate.map (·, true)).filter fun byte => !byte.2) = [] := by
      simp
    calc s.sent p.other
        = returnedBytes log := (List.append_nil _).symm.trans hAccounts.returned
      _ = ((marked log).filter fun byte => !byte.2).map Prod.fst := returnedBytes_eq log
      _ = ((arrivals [] (s.calls p)).filter fun byte => !byte.2).map Prod.fst := by
        rw [← List.nil_append (arrivals [] (s.calls p)), hSeen, List.filter_append, hHeld,
          List.append_nil]
  · exact absurd hFailed hWritten

/-- The echo of a second ping is half read. -/
def echoedHalf : Bridge Nat :=
  (bridge 10).run (bridge 10).init (pingRounds ++
    [⟨[(.mcu, some pingPacket, .completed 104), (.feurt, some (pingPacket.take 3), .completed 105)],
      fun _ => 106, fun _ => .completed 106⟩])

theorem bridge_forwards_the_rest_ping :
    replyPacket =
      ((arrivals [] (echoedHalf.calls .feurt)).filter fun byte => !byte.2).map Prod.fst := by
  have hEchoed : EchoedUntil 10 (pingPacket.drop 3) [] 0 (echoedHalf.calls .feurt) :=
    ⟨.inr (by decide), by decide, .inl rfl, rfl, .inr (by decide), rfl⟩
  exact bridge_forwards_the_rest (Machine.reachable_run _) (by decide) .feurt hEchoed

end Bridged

end Fetchline.UartBridge
