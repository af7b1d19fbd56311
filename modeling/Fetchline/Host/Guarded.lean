import Fetchline.Host.Sessions

/-! # What the mutex of the bridge protects

A session that has the guard runs as if it were alone. So whatever each handling
keeps of the bridge and its log, from the lock to its end, all sessions together
keep of the host.
-/

namespace Fetchline.Host

open Effects Effects.Program Transition

/-- The bridge and the log under the guard of one handling. -/
def guarded : Discipline HostOp HostOp.Reply (Option BridgeConnection × Log) where
  allowed _ op := op ≠ .lockBridge
  next
    | (_, log), .setBridge bridge, _ => (bridge, log)
    | (bridge, log), .net op, reply => (bridge, log ++ [⟨op, reply⟩])
    | (bridge, _), .connectController _, _ => (bridge, [])
    | state, _, _ => state

theorem obeys_onNet {α β : Type} {p : Net α} {f : α → HostProgram β}
    {bridge : Option BridgeConnection} {log : Log}
    {Q : β → Option BridgeConnection × Log → Prop}
    (h : p.Obeys Discipline.recording log fun a log' => (f a).Obeys guarded (bridge, log') Q) :
    (onNet p >>= f).Obeys guarded (bridge, log) Q := by
  induction p generalizing log with
  | done a => exact h
  | call op next ih => exact ⟨nofun, fun reply => ih reply (h.2 reply)⟩

theorem obeys_useBridge {α β : Type} {q : Bridge α} {c : BridgeConnection}
    {f : Except String α → HostProgram β} {bridge : Option BridgeConnection} {log : Log}
    {Q : β → Option BridgeConnection × Log → Prop}
    (h : Ends q c log fun r c' log' => (f r).Obeys guarded (some c', log') Q) :
    (useBridge q c >>= f).Obeys guarded (bridge, log) Q := by
  rw [useBridge, LawfulMonad.bind_assoc]
  refine obeys_onNet (Obeys.mono h ?_)
  rintro ⟨r, c'⟩ log' hNext
  exact ⟨nofun, fun _ => hNext⟩

theorem obeys_setBridge {β : Type} {f : Unit → HostProgram β} {bridge bridge' : Option BridgeConnection}
    {log : Log} {Q : β → Option BridgeConnection × Log → Prop}
    (h : (f ()).Obeys guarded (bridge', log) Q) :
    (setBridge bridge' >>= f).Obeys guarded (bridge, log) Q :=
  ⟨nofun, fun _ => h⟩

section Rule

variable {serde : Serde} {readRequest : String → Except String ClientMessage} {mode : TransportMode}

/-- A message that is turned down before the bridge is looked at. -/
def RejectedUnseen (readRequest : String → Except String ClientMessage) : BrowserMessage → Prop
  | .text text =>
    match readRequest text with
    | .ok (.connect host port) => Text.trim host = "" ∨ port = 0
    | .ok (.servo _) => False
    | .error _ => True
  | .binary => True
  | .ping | .pong | .close => False

/-- What the handlings do once they have the guard. -/
inductive LockedRequest (serde : Serde) (mode : TransportMode) :
    (Option BridgeConnection → HostProgram ServerMessage) → Prop where
  | serve (message : ServoMessage) : LockedRequest serde mode (serveLocked serde message)
  | connect (host peer : String) : LockedRequest serde mode (connectLocked serde mode host peer)

/-- A handling that has not been given the guard is at its beginning. -/
theorem answer_cases {message : BrowserMessage} {p : HostProgram ServerMessage}
    (h : HostState.answer serde readRequest mode message = some p) :
    (RejectedUnseen readRequest message ∧ ∃ error, p = .done (.error error false)) ∨
    (¬ RejectedUnseen readRequest message ∧ ∃ next, p = .call .lockBridge next ∧
      LockedRequest serde mode next) := by
  cases message with
  | text text =>
    injection h with h
    rw [RejectedUnseen]
    cases hRead : readRequest text with
    | error error =>
      rw [hRead] at h
      exact .inl ⟨trivial, _, h.symm⟩
    | ok request =>
      rw [hRead] at h
      cases request with
      | servo request => exact .inr ⟨id, _, h.symm, .serve request⟩
      | connect host port =>
        simp only [handleRequest, connect] at h
        split at h
        · rename_i hHost
          exact .inl ⟨.inl hHost, _, h.symm⟩
        · rename_i hHost
          split at h
          · rename_i hPort
            exact .inl ⟨.inr hPort, _, h.symm⟩
          · rename_i hPort
            exact .inr ⟨not_or.mpr ⟨hHost, hPort⟩, _, h.symm, .connect _ _⟩
  | binary =>
    injection h with h
    exact .inl ⟨trivial, _, h.symm⟩
  | ping => cases h
  | pong => cases h
  | close => cases h

/-- What a handling keeps of the bridge and its log, and what it says in the end. -/
structure Keeping where
  kept : Option BridgeConnection → Log → Prop
  said : ServerMessage → Option BridgeConnection → Prop

/-- The handlings with the guard keep it, from wherever it holds. -/
def Keeping.Holds (K : Keeping) (serde : Serde) (mode : TransportMode) : Prop :=
  ∀ locked, LockedRequest serde mode locked → ∀ bridge log, K.kept bridge log →
    (locked bridge).Obeys guarded (bridge, log) fun response g =>
      K.kept g.1 g.2 ∧ K.said response g.1

def Said (K : Keeping) (readRequest : String → Except String ClientMessage) (h : Handled) : Prop :=
  (RejectedUnseen readRequest h.message ∧ ∃ error, h.response = .error error false) ∨
    (¬ RejectedUnseen readRequest h.message ∧ K.said h.response h.bridge)

structure HostState.Sound (K : Keeping) (serde : Serde)
    (readRequest : String → Except String ClientMessage) (mode : TransportMode) (s : HostState) :
    Prop where
  waiting : ∀ i message p, s.sessions i = some ⟨message, p⟩ → s.holder ≠ some i →
    answer serde readRequest mode message = some p
  holding : ∀ i, s.holder = some i → ∃ message p, s.sessions i = some ⟨message, p⟩ ∧
    ¬ RejectedUnseen readRequest message ∧
    p.Obeys guarded (s.bridge, s.log) fun response g => K.kept g.1 g.2 ∧ K.said response g.1
  free : s.holder = none → K.kept s.bridge s.log
  said : ∀ h ∈ s.handled, Said K readRequest h

variable {K : Keeping} {s : HostState}

theorem perform_guarded (i : Nat) (reply : (op : HostOp) → op.Reply) {op : HostOp}
    (hOp : op ≠ .lockBridge) :
    ∃ r s', s.perform i reply op = some (r, s') ∧ s'.sessions = s.sessions ∧
      s'.holder = s.holder ∧ s'.handled = s.handled ∧
      (s'.bridge, s'.log) = guarded.next (s.bridge, s.log) op r := by
  cases op with
  | lockBridge => exact absurd rfl hOp
  | setBridge bridge => exact ⟨(), _, rfl, rfl, rfl, rfl, rfl⟩
  | net op => exact ⟨reply (.net op), _, rfl, rfl, rfl, rfl, rfl⟩
  | connectController peer => exact ⟨reply (.connectController peer), _, rfl, rfl, rfl, rfl, rfl⟩
  | connectRawTunnel peer => exact ⟨reply (.connectRawTunnel peer), _, rfl, rfl, rfl, rfl, rfl⟩

namespace HostState.Sound

theorem receive (h : s.Sound K serde readRequest mode) (i : Nat) (message : BrowserMessage) :
    (s.receive serde readRequest mode i message).Sound K serde readRequest mode := by
  rw [HostState.receive]
  cases hSession : s.sessions i with
  | some handling => exact h
  | none =>
    cases hAnswer : HostState.answer serde readRequest mode message with
    | none => exact h
    | some program =>
      refine ⟨?_, ?_, h.free, h.said⟩
      · intro j message' p hHandling hHolder
        rcases eq_or_ne j i with rfl | hSame
        · rw [set_self] at hHandling
          obtain ⟨rfl, rfl⟩ := Handling.mk.inj (Option.some.inj hHandling)
          exact hAnswer
        · rw [set_of_ne hSame] at hHandling
          exact h.waiting j message' p hHandling hHolder
      · intro j hHolder
        obtain ⟨message', p, hHandling, hRest⟩ := h.holding j hHolder
        have hOther : j ≠ i := by
          rintro rfl
          rw [hSession] at hHandling
          cases hHandling
        exact ⟨message', p, (set_of_ne hOther).trans hHandling, hRest⟩

theorem waiting_set (h : s.Sound K serde readRequest mode) {s' : HostState} {i j : Nat}
    {handling : Option Handling} {message : BrowserMessage} {p : HostProgram ServerMessage}
    (hSessions : s'.sessions = s.sessions) (hOther : j ≠ i) (hHolder : s.holder ≠ some j)
    (hHandling : (s'.set i handling).sessions j = some ⟨message, p⟩) :
    HostState.answer serde readRequest mode message = some p := by
  rw [set_of_ne hOther, hSessions] at hHandling
  exact h.waiting j message p hHandling hHolder

theorem finish_holder (h : s.Sound K serde readRequest mode) {i : Nat} {message : BrowserMessage}
    {response : ServerMessage} (hSession : s.sessions i = some ⟨message, .done response⟩)
    (hHolder : s.holder = some i) :
    (s.finish i message response).Sound K serde readRequest mode := by
  obtain ⟨message', p, hHandling, hSeen, hObeys⟩ := h.holding i hHolder
  obtain ⟨rfl, rfl⟩ := Handling.mk.inj (Option.some.inj (hSession.symm.trans hHandling))
  obtain ⟨hKept, hSaid⟩ := hObeys
  have hFree : (s.finish i message response).holder = none := if_pos hHolder
  refine ⟨?_, ?_, fun _ => hKept, ?_⟩
  · intro j message' p hHandling _
    rcases eq_or_ne j i with rfl | hSame
    · cases (set_self s j none).symm.trans hHandling
    · have hNotHolder : s.holder ≠ some j := fun hJ => hSame (Option.some.inj (hJ.symm.trans hHolder))
      exact h.waiting_set rfl hSame hNotHolder hHandling
  · intro j hJ
    rw [hFree] at hJ
    cases hJ
  · exact List.forall_mem_cons.mpr ⟨.inr ⟨hSeen, hSaid⟩, h.said⟩

theorem finish_unseen (h : s.Sound K serde readRequest mode) {i : Nat} {message : BrowserMessage}
    {response : ServerMessage} (hSession : s.sessions i = some ⟨message, .done response⟩)
    (hHolder : s.holder ≠ some i) :
    (s.finish i message response).Sound K serde readRequest mode := by
  have hSame : (s.finish i message response).holder = s.holder := if_neg hHolder
  refine ⟨?_, ?_, fun hFree => h.free (hSame.symm.trans hFree), ?_⟩
  · intro j message' p hHandling hNotHolder
    rcases eq_or_ne j i with rfl | hI
    · cases (set_self s j none).symm.trans hHandling
    · exact h.waiting_set rfl hI (hSame ▸ hNotHolder) hHandling
  · intro j hJ
    obtain ⟨message', p, hHandling, hRest⟩ := h.holding j (hSame.symm.trans hJ)
    have hOther : j ≠ i := fun hI => hHolder (hI ▸ hSame.symm.trans hJ)
    exact ⟨message', p, (set_of_ne hOther).trans hHandling, hRest⟩
  · refine List.forall_mem_cons.mpr ⟨.inl ?_, h.said⟩
    obtain ⟨hUnseen, error, hError⟩ | ⟨-, next, hCall, -⟩ :=
      answer_cases (h.waiting i message _ hSession hHolder)
    · exact ⟨hUnseen, error, Program.done.inj hError⟩
    · cases hCall

theorem perform_holder (h : s.Sound K serde readRequest mode) {i : Nat}
    {reply : (op : HostOp) → op.Reply} {message : BrowserMessage} {op : HostOp}
    {next : op.Reply → HostProgram ServerMessage}
    (hSession : s.sessions i = some ⟨message, .call op next⟩) (hHolder : s.holder = some i) :
    (s.advance i reply).Sound K serde readRequest mode := by
  obtain ⟨message', p, hHandling, hSeen, hObeys⟩ := h.holding i hHolder
  obtain ⟨rfl, rfl⟩ := Handling.mk.inj (Option.some.inj (hSession.symm.trans hHandling))
  obtain ⟨r, s', hPerform, hSessions, hSameHolder, hHandled, hState⟩ :=
    perform_guarded (s := s) i reply hObeys.1
  have hAdvance : s.advance i reply = s'.set i (some ⟨message, next r⟩) := by
    rw [HostState.advance, hSession]
    simp only [hPerform]
  have hNext := hObeys.2 r
  rw [← hState] at hNext
  rw [hAdvance]
  refine ⟨?_, ?_, ?_, ?_⟩
  · intro j message' p hHandling hNotHolder
    have hJ : s.holder ≠ some j := fun hJ => hNotHolder (hSameHolder.trans hJ)
    have hOther : j ≠ i := fun hI => hJ (hI ▸ hHolder)
    exact h.waiting_set hSessions hOther hJ hHandling
  · intro j hJ
    obtain rfl : i = j := Option.some.inj (hHolder.symm.trans (hSameHolder.symm.trans hJ))
    exact ⟨message, next r, set_self s' i _, hSeen, hNext⟩
  · intro hFree
    cases hHolder.symm.trans (hSameHolder.symm.trans hFree)
  · exact fun handled hMem => h.said handled (hHandled ▸ hMem)

/-- A session without it can only ask for it. -/
theorem perform_waiting (hK : K.Holds serde mode) (h : s.Sound K serde readRequest mode) {i : Nat}
    {reply : (op : HostOp) → op.Reply} {message : BrowserMessage} {op : HostOp}
    {next : op.Reply → HostProgram ServerMessage}
    (hSession : s.sessions i = some ⟨message, .call op next⟩) (hHolder : s.holder ≠ some i) :
    (s.advance i reply).Sound K serde readRequest mode := by
  obtain ⟨-, error, hError⟩ | ⟨hSeen, body, hCall, hBody⟩ :=
    answer_cases (h.waiting i message _ hSession hHolder)
  · cases hError
  obtain ⟨rfl, hNext⟩ := Program.call.inj hCall
  obtain rfl := eq_of_heq hNext
  rw [HostState.advance, hSession]
  simp only [HostState.perform]
  by_cases hFree : s.holder = none
  · rw [if_pos hFree]
    have hKept := h.free hFree
    refine ⟨?_, ?_, nofun, h.said⟩
    · intro j message' p hHandling hNotHolder
      have hOther : j ≠ i := fun hI => hNotHolder (hI ▸ rfl)
      exact h.waiting_set rfl hOther (by rw [hFree]; nofun) hHandling
    · rintro _ ⟨⟩
      exact ⟨message, next s.bridge, set_self _ i _, hSeen, hK next hBody s.bridge s.log hKept⟩
  · rw [if_neg hFree]
    exact h

theorem advance (hK : K.Holds serde mode) (h : s.Sound K serde readRequest mode) (i : Nat)
    (reply : (op : HostOp) → op.Reply) :
    (s.advance i reply).Sound K serde readRequest mode := by
  cases hSession : s.sessions i with
  | none =>
    rw [HostState.advance, hSession]
    exact h
  | some handling =>
    obtain ⟨message, response | ⟨op, next⟩⟩ := handling
    · rw [HostState.advance, hSession]
      by_cases hHolder : s.holder = some i
      · exact h.finish_holder hSession hHolder
      · exact h.finish_unseen hSession hHolder
    · by_cases hHolder : s.holder = some i
      · exact h.perform_holder hSession hHolder
      · exact h.perform_waiting hK hSession hHolder

end HostState.Sound

/-- What every handling keeps holds of the host in every state it reaches. -/
theorem Keeping.Holds.sound (hK : K.Holds serde mode) {bridge : Option BridgeConnection}
    (hInit : K.kept bridge []) (h : (host serde readRequest mode bridge).Reachable s) :
    s.Sound K serde readRequest mode := by
  refine Machine.Reach.invariant ⟨nofun, nofun, fun _ => hInit, nofun⟩ ?_ h
  rintro s (⟨i, message⟩ | ⟨i, reply⟩) - hSound -
  · exact hSound.receive i message
  · exact hSound.advance hK i reply

end Rule

end Fetchline.Host
