import Fetchline.Host.Guarded

/-! # Sessions that interleave answer as sessions that take turns

A handling does nothing before it has the guard of the bridge, and all the rest
of it with the guard. So the effects of any run, and the answers its browsers
get, are those of a run that handles one message at a time. A message that is
turned down without the guard may be answered while another session has it; the
other handling is then run after that answer.
-/

namespace Fetchline.Host

open Effects Effects.Program Transition

def HostAction.session : HostAction → Nat
  | .receive session _ | .advance session _ => session

/-- What the browser gets to know of a handling. -/
def Handled.answer (handled : Handled) : Nat × BrowserMessage × ServerMessage :=
  (handled.session, handled.message, handled.response)

namespace HostState

/-- Nothing is being handled but for the session that acts. -/
def Alone (s : HostState) (a : HostAction) : Prop :=
  ∀ other, other ≠ a.session → s.sessions other = none

def effects (s : HostState) : HostAction → List (Nat × Exchange HostOp HostOp.Reply)
  | .receive _ _ => []
  | .advance session reply =>
    match s.sessions session with
    | some ⟨_, .call op _⟩ =>
      match s.perform session reply op with
      | some (r, _) => [(session, ⟨op, r⟩)]
      | none => []
    | _ => []

/-- In the order in which the handlings have returned, the latest first. -/
def answers (s : HostState) : List (Nat × BrowserMessage × ServerMessage) :=
  s.handled.map Handled.answer

/-- What the browser of one session gets. -/
def answersTo (s : HostState) (session : Nat) : List (BrowserMessage × ServerMessage) :=
  (s.answers.filter (·.1 = session)).map Prod.snd

/-- A host that has given some answers before. -/
def after (earlier : List Handled) (s : HostState) : HostState :=
  { s with handled := s.handled ++ earlier }

def locked (s : HostState) (session : Nat) (handling : Handling) : HostState :=
  { s with holder := some session }.set session (some handling)

/-- What the session that has the guard sees of the host. -/
def held (s : HostState) : HostState :=
  { bridge := s.bridge, holder := s.holder, log := s.log
    sessions := fun i => if s.holder = some i then s.sessions i else none }

end HostState

open HostState

variable {serde : Serde} {readRequest : String → Except String ClientMessage} {mode : TransportMode}
variable {bridge : Option BridgeConnection} {earlier : List Handled} {s : HostState}

section Step

variable {i : Nat} (reply : (op : HostOp) → op.Reply) {message : BrowserMessage}

theorem advance_idle (hSession : s.sessions i = none) :
    s.advance i reply = s ∧ s.effects (.advance i reply) = [] := by
  simp only [HostState.advance, HostState.effects, hSession, and_self]

theorem advance_done {response : ServerMessage}
    (hSession : s.sessions i = some ⟨message, .done response⟩) :
    s.advance i reply = s.finish i message response ∧ s.effects (.advance i reply) = [] := by
  simp only [HostState.advance, HostState.effects, hSession, and_self]

variable {op : HostOp} {next : op.Reply → HostProgram ServerMessage}

theorem advance_blocked (hSession : s.sessions i = some ⟨message, .call op next⟩)
    (hPerform : s.perform i reply op = none) :
    s.advance i reply = s ∧ s.effects (.advance i reply) = [] := by
  simp only [HostState.advance, HostState.effects, hSession, hPerform, and_self]

theorem advance_call {r : op.Reply} {s' : HostState}
    (hSession : s.sessions i = some ⟨message, .call op next⟩)
    (hPerform : s.perform i reply op = some (r, s')) :
    s.advance i reply = s'.set i (some ⟨message, next r⟩) ∧
      s.effects (.advance i reply) = [(i, ⟨op, r⟩)] := by
  simp only [HostState.advance, HostState.effects, hSession, hPerform, and_self]

theorem advance_lock {next : Option BridgeConnection → HostProgram ServerMessage}
    (hSession : s.sessions i = some ⟨message, .call .lockBridge next⟩) (hFree : s.holder = none) :
    s.advance i reply = s.locked i ⟨message, next s.bridge⟩ ∧
      s.effects (.advance i reply) = [(i, ⟨.lockBridge, s.bridge⟩)] :=
  advance_call reply hSession (if_pos hFree)

end Step

theorem perform_after (i : Nat) (reply : (op : HostOp) → op.Reply) (op : HostOp) :
    (s.after earlier).perform i reply op =
      (s.perform i reply op).map fun (r, s') => (r, s'.after earlier) := by
  cases op with
  | lockBridge =>
    by_cases hFree : s.holder = none
    · simp only [HostState.perform, HostState.after, hFree, if_true, Option.map_some]
    · simp only [HostState.perform, HostState.after, hFree, if_false, Option.map_none]
  | _ => rfl

theorem receive_after (i : Nat) (message : BrowserMessage) :
    (s.after earlier).receive serde readRequest mode i message =
      (s.receive serde readRequest mode i message).after earlier := by
  have hSame : (s.after earlier).sessions i = s.sessions i := rfl
  cases hSession : s.sessions i with
  | some handling => simp only [HostState.receive, hSame, hSession]
  | none =>
    cases hAnswer : HostState.answer serde readRequest mode message with
    | none => simp only [HostState.receive, hSame, hSession, hAnswer]
    | some program =>
      simp only [HostState.receive, hSame, hSession, hAnswer]
      rfl

theorem advance_after (i : Nat) (reply : (op : HostOp) → op.Reply) :
    (s.after earlier).advance i reply = (s.advance i reply).after earlier ∧
      (s.after earlier).effects (.advance i reply) = s.effects (.advance i reply) := by
  have hSame : (s.after earlier).sessions i = s.sessions i := rfl
  cases hSession : s.sessions i with
  | none =>
    obtain ⟨hStep, hEffects⟩ := advance_idle reply hSession
    obtain ⟨hStep', hEffects'⟩ := advance_idle reply (hSame.trans hSession)
    exact ⟨hStep'.trans (by rw [hStep]), hEffects'.trans hEffects.symm⟩
  | some handling =>
    obtain ⟨message, response | ⟨op, next⟩⟩ := handling
    · obtain ⟨hStep, hEffects⟩ := advance_done reply hSession
      obtain ⟨hStep', hEffects'⟩ := advance_done reply (hSame.trans hSession)
      exact ⟨hStep'.trans (by rw [hStep]; rfl), hEffects'.trans hEffects.symm⟩
    · have hPerform' : (s.after earlier).perform i reply op = _ := perform_after i reply op
      cases hPerform : s.perform i reply op with
      | none =>
        rw [hPerform] at hPerform'
        obtain ⟨hStep, hEffects⟩ := advance_blocked reply hSession hPerform
        obtain ⟨hStep', hEffects'⟩ := advance_blocked reply (hSame.trans hSession) hPerform'
        exact ⟨hStep'.trans (by rw [hStep]), hEffects'.trans hEffects.symm⟩
      | some performed =>
        rw [hPerform] at hPerform'
        obtain ⟨hStep, hEffects⟩ := advance_call reply hSession hPerform
        obtain ⟨hStep', hEffects'⟩ := advance_call reply (hSame.trans hSession) hPerform'
        exact ⟨hStep'.trans (by rw [hStep]; rfl), hEffects'.trans hEffects.symm⟩

theorem step_after (s : HostState) (a : HostAction) :
    (host serde readRequest mode bridge).step (s.after earlier) a =
      ((host serde readRequest mode bridge).step s a).after earlier := by
  cases a with
  | receive i message => exact receive_after i message
  | advance i reply => exact (advance_after i reply).1

theorem effects_after (s : HostState) (a : HostAction) :
    (s.after earlier).effects a = s.effects a := by
  cases a with
  | receive i message => rfl
  | advance i reply => exact (advance_after i reply).2

def idle (bridge : Option BridgeConnection) (log : Log) : HostState := { bridge, log }

theorem finish_set (bridge₀ : Option BridgeConnection) (log₀ : Log) (i : Nat)
    (message : BrowserMessage) (response : ServerMessage) (handling : Option Handling) :
    (((idle bridge₀ log₀).after earlier).set i handling).finish i message response =
      (idle bridge₀ log₀).after (⟨i, message, response, bridge₀⟩ :: earlier) := by
  simp only [HostState.finish, HostState.set, HostState.after, idle, Function.update_idem,
    reduceCtorEq, if_false, List.nil_append]
  congr 1
  exact Function.update_eq_self (f := fun _ => none) i

/-- A session receives a message, and takes the first step of its handling. -/
theorem opening (bridge bridge₀ : Option BridgeConnection) (log₀ : Log) (earlier : List Handled)
    {i : Nat} {message : BrowserMessage} {p : HostProgram ServerMessage}
    (hAnswer : HostState.answer serde readRequest mode message = some p)
    (reply : (op : HostOp) → op.Reply) :
    (host serde readRequest mode bridge).Meets Alone ((idle bridge₀ log₀).after earlier)
        [.receive i message, .advance i reply] ∧
      (host serde readRequest mode bridge).run ((idle bridge₀ log₀).after earlier)
          [.receive i message, .advance i reply] =
        (((idle bridge₀ log₀).after earlier).set i (some ⟨message, p⟩)).advance i reply ∧
      (host serde readRequest mode bridge).outputs HostState.effects
          ((idle bridge₀ log₀).after earlier) [.receive i message, .advance i reply] =
        (((idle bridge₀ log₀).after earlier).set i (some ⟨message, p⟩)).effects
          (.advance i reply) := by
  have hReceive : (host serde readRequest mode bridge).step ((idle bridge₀ log₀).after earlier)
      (.receive i message) = ((idle bridge₀ log₀).after earlier).set i (some ⟨message, p⟩) := by
    change HostState.receive serde readRequest mode ((idle bridge₀ log₀).after earlier) i message = _
    rw [HostState.receive, hAnswer]
    rfl
  refine ⟨⟨fun _ _ => rfl, ?_, trivial⟩, ?_, ?_⟩
  · rw [hReceive]
    exact fun other hOther => set_of_ne hOther
  · exact congrArg (·.advance i reply) hReceive
  · rw [Machine.outputs, Machine.outputs, Machine.outputs, hReceive]
    exact List.append_nil _

theorem held_of_free (hFree : s.holder = none) : s.held = idle s.bridge s.log := by
  simp only [HostState.held, idle, hFree, reduceCtorEq, if_false]

theorem held_self {i : Nat} (hHolder : s.holder = some i) : s.held.sessions i = s.sessions i :=
  if_pos hHolder

theorem held_alone {a : HostAction} (hHolder : s.holder = some a.session) : s.held.Alone a := by
  intro other hOther
  exact if_neg fun hHeld => hOther (Option.some.inj (hHeld.symm.trans hHolder))

/-- Of the sessions, only the one that has the guard is held. -/
theorem held_congr {s' : HostState} (hBridge : s'.bridge = s.bridge) (hHolder : s'.holder = s.holder)
    (hLog : s'.log = s.log) (hSessions : ∀ i, s.holder = some i → s'.sessions i = s.sessions i) :
    s'.held = s.held := by
  have hSame : s'.held.sessions = s.held.sessions := by
    funext i
    simp only [HostState.held, hHolder]
    split
    · exact hSessions i ‹_›
    · rfl
  simp only [HostState.held] at hSame ⊢
  rw [hBridge, hHolder, hLog]
  rw [hHolder] at hSame
  rw [hSame]

theorem held_set {i : Nat} (hHolder : s.holder = some i) (handling : Option Handling) :
    (s.set i handling).held = s.held.set i handling := by
  have hSame : (s.set i handling).held.sessions = (s.held.set i handling).sessions := by
    funext j
    rcases eq_or_ne j i with rfl | hOther
    · rw [set_self, held_self (s := s.set j handling) hHolder, set_self]
    · have hNot : s.holder ≠ some j := fun hJ => hOther (Option.some.inj (hJ.symm.trans hHolder))
      rw [set_of_ne hOther]
      exact (if_neg hNot).trans (if_neg hNot).symm
  simp only [HostState.held, HostState.set] at hSame ⊢
  rw [hSame]

theorem perform_held {i : Nat} {reply : (op : HostOp) → op.Reply} {op : HostOp}
    (hHolder : s.holder = some i) :
    s.held.perform i reply op = (s.perform i reply op).map fun (r, s') => (r, s'.held) := by
  cases op with
  | lockBridge =>
    have hHeld : s.held.holder = some i := hHolder
    simp only [HostState.perform, hHeld, hHolder, reduceCtorEq, if_false, Option.map_none]
  | _ => rfl

variable (serde : Serde) (readRequest : String → Except String ClientMessage) (mode : TransportMode)
  (bridge : Option BridgeConnection) in
/-- The same effects and answers, one message at a time: `finished` to the last answer, and then
`current`, what the session with the guard has done so far. -/
structure Turns (s : HostState) (seen : List (Nat × Exchange HostOp HostOp.Reply))
    (finished current : List HostAction) (bridge₀ : Option BridgeConnection) (log₀ : Log)
    (earlier : List Handled) : Prop where
  finishedAlone : (host serde readRequest mode bridge).Meets Alone (idle bridge []) finished
  finishedState : (host serde readRequest mode bridge).run (idle bridge []) finished =
    (idle bridge₀ log₀).after earlier
  currentAlone : (host serde readRequest mode bridge).Meets Alone (idle bridge₀ log₀) current
  currentState : (host serde readRequest mode bridge).run (idle bridge₀ log₀) current = s.held
  sameAnswers : earlier.map Handled.answer = s.answers
  sameEffects :
    (host serde readRequest mode bridge).outputs HostState.effects (idle bridge []) finished ++
      (host serde readRequest mode bridge).outputs HostState.effects (idle bridge₀ log₀) current =
        seen

namespace Turns

variable {bridge₀ : Option BridgeConnection} {log₀ : Log}
variable {seen : List (Nat × Exchange HostOp HostOp.Reply)} {finished current : List HostAction}
variable {s' : HostState}

theorem more (h : Turns serde readRequest mode bridge s seen finished current bridge₀ log₀ earlier)
    {actions : List HostAction} {seen' : List (Nat × Exchange HostOp HostOp.Reply)}
    (hAlone : (host serde readRequest mode bridge).Meets Alone s.held actions)
    (hState : (host serde readRequest mode bridge).run s.held actions = s'.held)
    (hAnswers : s'.answers = s.answers)
    (hEffects :
      (host serde readRequest mode bridge).outputs HostState.effects s.held actions = seen') :
    Turns serde readRequest mode bridge s' (seen ++ seen') finished (current ++ actions)
      bridge₀ log₀ earlier where
  finishedAlone := h.finishedAlone
  finishedState := h.finishedState
  currentAlone := Machine.meets_append h.currentAlone (by rw [h.currentState]; exact hAlone)
  currentState := by rw [Machine.run_append, h.currentState, hState]
  sameAnswers := h.sameAnswers.trans hAnswers.symm
  sameEffects := by
    rw [Machine.outputs_append, h.currentState, hEffects, ← List.append_assoc, h.sameEffects]

/-- The two parts are one run. -/
theorem whole (h : Turns serde readRequest mode bridge s seen finished current bridge₀ log₀ earlier) :
    (host serde readRequest mode bridge).Meets Alone (idle bridge []) (finished ++ current) ∧
      (host serde readRequest mode bridge).run (idle bridge []) (finished ++ current) =
        s.held.after earlier ∧
      (host serde readRequest mode bridge).outputs HostState.effects (idle bridge [])
        (finished ++ current) = seen := by
  refine ⟨Machine.meets_append h.finishedAlone ?_, ?_, ?_⟩
  · rw [h.finishedState]
    exact Machine.meets_frame step_after (fun _ _ hAlone => hAlone) h.currentAlone
  · rw [Machine.run_append, h.finishedState, ← h.currentState]
    exact Machine.run_frame step_after _ _
  · rw [Machine.outputs_append, h.finishedState, ← h.sameEffects]
    congr 1
    exact Machine.outputs_frame step_after effects_after _ _

/-- A message that is turned down without the guard comes before the handling that has it. -/
theorem unseen (h : Turns serde readRequest mode bridge s seen finished current bridge₀ log₀ earlier)
    {i : Nat} {message : BrowserMessage} {response : ServerMessage}
    (hAnswer : HostState.answer serde readRequest mode message = some (.done response))
    (hHolder : s.holder ≠ some i) (reply : (op : HostOp) → op.Reply) :
    Turns serde readRequest mode bridge (s.finish i message response) (seen ++ [])
      (finished ++ [.receive i message, .advance i reply]) current bridge₀ log₀
      (⟨i, message, response, bridge₀⟩ :: earlier) := by
  obtain ⟨hAlone, hRun, hOutputs⟩ := opening bridge bridge₀ log₀ earlier hAnswer reply
  obtain ⟨hAdvance, hEffects⟩ := advance_done reply
    (set_self ((idle bridge₀ log₀).after earlier) i (some ⟨message, .done response⟩))
  rw [hEffects] at hOutputs
  rw [hAdvance, finish_set] at hRun
  have hHeld : (s.finish i message response).held = s.held :=
    held_congr rfl (if_neg hHolder) rfl fun j hJ => set_of_ne fun hI => hHolder (hI ▸ hJ)
  refine ⟨?_, ?_, h.currentAlone, h.currentState.trans hHeld.symm, ?_, ?_⟩
  · apply Machine.meets_append h.finishedAlone
    rw [h.finishedState]
    exact hAlone
  · rw [Machine.run_append, h.finishedState]
    exact hRun
  · exact congrArg ((i, message, response) :: ·) h.sameAnswers
  · rw [Machine.outputs_append, h.finishedState, hOutputs, ← h.sameEffects, List.append_nil,
      List.append_nil]

/-- The handling that has the guard comes to its end. -/
theorem closing (h : Turns serde readRequest mode bridge s seen finished current bridge₀ log₀ earlier)
    {i : Nat} {message : BrowserMessage} {response : ServerMessage}
    (hSession : s.sessions i = some ⟨message, .done response⟩) (hHolder : s.holder = some i)
    (reply : (op : HostOp) → op.Reply) :
    Turns serde readRequest mode bridge (s.finish i message response) (seen ++ [])
      (finished ++ current ++ [.advance i reply]) [] s.bridge s.log
      (⟨i, message, response, s.bridge⟩ :: earlier) := by
  obtain ⟨hAlone, hState, hSeen⟩ := h.whole
  have hHeld : (s.held.after earlier).sessions i = some ⟨message, .done response⟩ :=
    (held_self hHolder).trans hSession
  obtain ⟨hAdvance, hEffects⟩ := advance_done reply hHeld
  have hFree : (s.finish i message response).holder = none := if_pos hHolder
  have hClosed : (s.held.after earlier).finish i message response =
      (idle s.bridge s.log).after (⟨i, message, response, s.bridge⟩ :: earlier) := by
    have hNone : Function.update s.held.sessions i none = fun _ => none := by
      funext j
      rcases eq_or_ne j i with rfl | hOther
      · exact Function.update_self ..
      · rw [Function.update_of_ne hOther]
        exact held_alone (a := .advance i reply) hHolder j hOther
    have hHeldHolder : (s.held.after earlier).holder = some i := hHolder
    simp only [HostState.finish, hHeldHolder, if_true]
    simp only [HostState.set, HostState.after, hNone]
    rfl
  refine ⟨Machine.meets_append hAlone ?_, ?_, trivial, (held_of_free hFree).symm,
    congrArg ((i, message, response) :: ·) h.sameAnswers, ?_⟩
  · rw [hState]
    exact ⟨held_alone (a := .advance i reply) hHolder, trivial⟩
  · rw [Machine.run_append, hState, ← hClosed]
    exact hAdvance
  · rw [Machine.outputs_append, hState, hSeen]
    change seen ++ ((s.held.after earlier).effects (.advance i reply) ++ []) ++ [] = _
    rw [hEffects, List.append_nil, List.append_nil]

/-- A waiting session is given the guard: its handling is begun only now. -/
theorem locking (h : Turns serde readRequest mode bridge s seen finished current bridge₀ log₀ earlier)
    {i : Nat} {message : BrowserMessage} {next : Option BridgeConnection → HostProgram ServerMessage}
    (hAnswer : HostState.answer serde readRequest mode message = some (.call .lockBridge next))
    (hFree : s.holder = none) (reply : (op : HostOp) → op.Reply) :
    Turns serde readRequest mode bridge (s.locked i ⟨message, next s.bridge⟩)
      (seen ++ [(i, ⟨.lockBridge, s.bridge⟩)]) finished
      (current ++ [.receive i message, .advance i reply]) bridge₀ log₀ earlier := by
  obtain ⟨hAlone, hRun, hOutputs⟩ := opening bridge s.bridge s.log [] hAnswer reply
  obtain ⟨hAdvance, hEffects⟩ := advance_lock reply
    (set_self s.held i (some ⟨message, .call .lockBridge next⟩)) hFree
  have hStart : (idle s.bridge s.log).after [] = s.held := (held_of_free hFree).symm
  rw [hStart] at hAlone hRun hOutputs
  refine h.more hAlone (hRun.trans (hAdvance.trans ?_)) rfl (hOutputs.trans hEffects)
  rw [HostState.locked, HostState.locked, held_set rfl]
  simp only [HostState.set, HostState.held, Function.update_idem]
  congr 1
  funext j
  rcases eq_or_ne j i with rfl | hOther
  · rw [Function.update_self, Function.update_self]
  · rw [Function.update_of_ne hOther, Function.update_of_ne hOther]
    have hNot : s.holder ≠ some j := by simp [hFree]
    have hNotThen : some i ≠ some j := fun hJ => hOther (Option.some.inj hJ.symm)
    exact (if_neg hNot).trans (if_neg hNotThen).symm

theorem calling (h : Turns serde readRequest mode bridge s seen finished current bridge₀ log₀ earlier)
    {i : Nat} {reply : (op : HostOp) → op.Reply} {message : BrowserMessage} {op : HostOp}
    {next : op.Reply → HostProgram ServerMessage} {r : op.Reply}
    (hSession : s.sessions i = some ⟨message, .call op next⟩) (hHolder : s.holder = some i)
    (hPerform : s.perform i reply op = some (r, s')) (hSame : s'.holder = s.holder)
    (hHandled : s'.handled = s.handled) :
    Turns serde readRequest mode bridge (s'.set i (some ⟨message, next r⟩)) (seen ++ [(i, ⟨op, r⟩)])
      finished (current ++ [.advance i reply]) bridge₀ log₀ earlier := by
  have hHeldPerform : s.held.perform i reply op = some (r, s'.held) := by
    rw [perform_held hHolder, hPerform]
    rfl
  obtain ⟨hAdvance, hEffects⟩ := advance_call reply ((held_self hHolder).trans hSession) hHeldPerform
  refine h.more ⟨held_alone (a := .advance i reply) hHolder, trivial⟩ ?_ ?_ ?_
  · rw [held_set (hSame.trans hHolder)]
    exact hAdvance
  · exact congrArg (List.map Handled.answer) hHandled
  · change s.held.effects (.advance i reply) ++ [] = _
    rw [hEffects, List.append_nil]

end Turns

variable (serde : Serde) (readRequest : String → Except String ClientMessage) (mode : TransportMode)
  (bridge : Option BridgeConnection) in
structure Serialized (s : HostState) (seen : List (Nat × Exchange HostOp HostOp.Reply)) : Prop where
  turns : ∃ finished current bridge₀ log₀ earlier,
    Turns serde readRequest mode bridge s seen finished current bridge₀ log₀ earlier
  waiting : ∀ i message p, s.sessions i = some ⟨message, p⟩ → s.holder ≠ some i →
    HostState.answer serde readRequest mode message = some p
  holding : ∀ i, s.holder = some i → s.sessions i ≠ none

namespace Serialized

variable {seen : List (Nat × Exchange HostOp HostOp.Reply)} {i : Nat} {message : BrowserMessage}
variable {reply : (op : HostOp) → op.Reply}

/-- A session that waits for the guard, or for nothing, is not the one that has it. -/
theorem waiting_set {s' : HostState} {handling : Option Handling} {j : Nat}
    {message' : BrowserMessage} {p : HostProgram ServerMessage} (h : Serialized serde readRequest mode bridge s seen)
    (hSessions : s'.sessions = s.sessions) (hOther : j ≠ i) (hHolder : s.holder ≠ some j)
    (hHandling : (s'.set i handling).sessions j = some ⟨message', p⟩) :
    HostState.answer serde readRequest mode message' = some p := by
  rw [set_of_ne hOther, hSessions] at hHandling
  exact h.waiting j message' p hHandling hHolder

theorem init : Serialized serde readRequest mode bridge (idle bridge []) [] where
  turns := ⟨[], [], bridge, [], [], trivial, rfl, trivial, rfl, rfl, rfl⟩
  waiting := by
    intro i message p hSession
    cases hSession
  holding := by
    intro i hHolder
    cases hHolder

theorem receive (h : Serialized serde readRequest mode bridge s seen) (i : Nat)
    (message : BrowserMessage) :
    Serialized serde readRequest mode bridge (s.receive serde readRequest mode i message)
      (seen ++ []) := by
  obtain ⟨finished, current, bridge₀, log₀, earlier, hTurns⟩ := h.turns
  rw [HostState.receive]
  cases hSession : s.sessions i with
  | some handling => exact (List.append_nil seen).symm ▸ h
  | none =>
    cases hAnswer : HostState.answer serde readRequest mode message with
    | none => exact (List.append_nil seen).symm ▸ h
    | some program =>
      have hNotHolder : s.holder ≠ some i := fun hHolder => h.holding i hHolder hSession
      have hHeld : (s.set i (some ⟨message, program⟩)).held = s.held :=
        held_congr rfl rfl rfl fun j hJ => set_of_ne fun hI => hNotHolder (hI ▸ hJ)
      refine ⟨⟨finished, current ++ [], bridge₀, log₀, earlier,
        hTurns.more trivial hHeld.symm rfl rfl⟩, ?_, ?_⟩
      · intro j message' p hHandling hHolder
        rcases eq_or_ne j i with rfl | hOther
        · rw [set_self] at hHandling
          obtain ⟨rfl, rfl⟩ := Handling.mk.inj (Option.some.inj hHandling)
          exact hAnswer
        · exact h.waiting_set rfl hOther hHolder hHandling
      · intro j hHolder
        have hOther : j ≠ i := fun hI => hNotHolder (hI ▸ hHolder)
        rw [set_of_ne hOther]
        exact h.holding j hHolder

theorem finish (h : Serialized serde readRequest mode bridge s seen) {response : ServerMessage}
    (hSession : s.sessions i = some ⟨message, .done response⟩) (reply : (op : HostOp) → op.Reply) :
    Serialized serde readRequest mode bridge (s.finish i message response) (seen ++ []) := by
  obtain ⟨finished, current, bridge₀, log₀, earlier, hTurns⟩ := h.turns
  by_cases hHolder : s.holder = some i
  · have hFree : (s.finish i message response).holder = none := if_pos hHolder
    refine ⟨⟨_, _, _, _, _, hTurns.closing hSession hHolder reply⟩, ?_, ?_⟩
    · intro j message' p hHandling _
      rcases eq_or_ne j i with rfl | hOther
      · cases (set_self s j none).symm.trans hHandling
      · have hNot : s.holder ≠ some j := fun hJ => hOther (Option.some.inj (hJ.symm.trans hHolder))
        exact h.waiting_set rfl hOther hNot hHandling
    · intro j hJ
      rw [hFree] at hJ
      cases hJ
  · have hSame : (s.finish i message response).holder = s.holder := if_neg hHolder
    have hAnswer := h.waiting i message _ hSession hHolder
    refine ⟨⟨_, _, _, _, _, hTurns.unseen hAnswer hHolder reply⟩, ?_, ?_⟩
    · intro j message' p hHandling hNot
      rcases eq_or_ne j i with rfl | hOther
      · cases (set_self s j none).symm.trans hHandling
      · exact h.waiting_set rfl hOther (hSame ▸ hNot) hHandling
    · intro j hJ
      rw [hSame] at hJ
      have hOther : j ≠ i := fun hI => hHolder (hI ▸ hJ)
      rw [show (s.finish i message response).sessions j = s.sessions j from set_of_ne hOther]
      exact h.holding j hJ

theorem lock (h : Serialized serde readRequest mode bridge s seen)
    {next : Option BridgeConnection → HostProgram ServerMessage}
    (hSession : s.sessions i = some ⟨message, .call .lockBridge next⟩) (hFree : s.holder = none)
    (reply : (op : HostOp) → op.Reply) :
    Serialized serde readRequest mode bridge (s.locked i ⟨message, next s.bridge⟩)
      (seen ++ [(i, ⟨.lockBridge, s.bridge⟩)]) := by
  obtain ⟨finished, current, bridge₀, log₀, earlier, hTurns⟩ := h.turns
  have hNot (j : Nat) : s.holder ≠ some j := by simp [hFree]
  have hAnswer := h.waiting i message _ hSession (hNot i)
  refine ⟨⟨_, _, _, _, _, hTurns.locking hAnswer hFree reply⟩, ?_, ?_⟩
  · intro j message' p hHandling hHolder
    have hOther : j ≠ i := fun hI => hHolder (hI ▸ rfl)
    have hSame : ({ s with holder := some i } : HostState).sessions = s.sessions := rfl
    exact h.waiting_set hSame hOther (hNot j) hHandling
  · intro j hHolder
    obtain rfl : i = j := Option.some.inj hHolder
    rw [show (s.locked i ⟨message, next s.bridge⟩).sessions i = _ from set_self ..]
    simp

theorem call (h : Serialized serde readRequest mode bridge s seen) {op : HostOp}
    {next : op.Reply → HostProgram ServerMessage} {r : op.Reply} {s' : HostState}
    (hSession : s.sessions i = some ⟨message, .call op next⟩) (hHolder : s.holder = some i)
    (hOp : op ≠ .lockBridge) (hPerform : s.perform i reply op = some (r, s')) :
    Serialized serde readRequest mode bridge (s'.set i (some ⟨message, next r⟩))
      (seen ++ [(i, ⟨op, r⟩)]) := by
  obtain ⟨finished, current, bridge₀, log₀, earlier, hTurns⟩ := h.turns
  obtain ⟨r', s'', hSame, hSessions, hSameHolder, hHandled, -⟩ :=
    perform_guarded (s := s) i reply hOp
  obtain ⟨rfl, rfl⟩ := Prod.mk.inj (Option.some.inj (hPerform.symm.trans hSame))
  refine ⟨⟨_, _, _, _, _, hTurns.calling hSession hHolder hPerform hSameHolder hHandled⟩, ?_, ?_⟩
  · intro j message' p hHandling hNot
    have hNotBefore : s.holder ≠ some j := fun hJ => hNot (hSameHolder.trans hJ)
    have hOther : j ≠ i := fun hI => hNotBefore (hI ▸ hHolder)
    exact h.waiting_set hSessions hOther hNotBefore hHandling
  · intro j hJ
    obtain rfl : i = j := Option.some.inj (hHolder.symm.trans (hSameHolder.symm.trans hJ))
    simp

theorem advance (h : Serialized serde readRequest mode bridge s seen) (i : Nat)
    (reply : (op : HostOp) → op.Reply) :
    Serialized serde readRequest mode bridge (s.advance i reply)
      (seen ++ s.effects (.advance i reply)) := by
  cases hSession : s.sessions i with
  | none =>
    obtain ⟨hStep, hEffects⟩ := advance_idle reply hSession
    rw [hStep, hEffects, List.append_nil]
    exact h
  | some handling =>
    obtain ⟨message, response | ⟨op, next⟩⟩ := handling
    · obtain ⟨hStep, hEffects⟩ := advance_done reply hSession
      rw [hStep, hEffects]
      exact h.finish hSession reply
    · cases hPerform : s.perform i reply op with
      | none =>
        obtain ⟨hStep, hEffects⟩ := advance_blocked reply hSession hPerform
        rw [hStep, hEffects, List.append_nil]
        exact h
      | some performed =>
        obtain ⟨r, s'⟩ := performed
        by_cases hHolder : s.holder = some i
        · obtain ⟨hStep, hEffects⟩ := advance_call reply hSession hPerform
          rw [hStep, hEffects]
          refine h.call hSession hHolder ?_ hPerform
          -- the mutex is not given to a session that has it
          rintro rfl
          cases (if_neg (hHolder ▸ by simp : ¬ s.holder = none)).symm.trans hPerform
        · obtain ⟨-, error, hError⟩ | ⟨-, body, hCall, -⟩ :=
            answer_cases (h.waiting i message _ hSession hHolder)
          · cases hError
          obtain ⟨rfl, hNext⟩ := Program.call.inj hCall
          by_cases hFree : s.holder = none
          · obtain ⟨hStep, hEffects⟩ := advance_lock reply hSession hFree
            rw [hStep, hEffects]
            exact h.lock hSession hFree reply
          · cases (if_neg hFree).symm.trans hPerform

end Serialized

/-- Whatever the interleaving, its effects and the answers that each browser gets are those of a
run in which no message is received before the last one has been answered. -/
theorem sessions_take_turns (serde : Serde) (readRequest : String → Except String ClientMessage)
    (mode : TransportMode) (bridge : Option BridgeConnection) (actions : List HostAction) :
    ∃ turns : List HostAction,
      (host serde readRequest mode bridge).Meets Alone { bridge } turns ∧
      (host serde readRequest mode bridge).outputs HostState.effects { bridge } turns =
        (host serde readRequest mode bridge).outputs HostState.effects { bridge } actions ∧
      ((host serde readRequest mode bridge).run { bridge } turns).answers =
        ((host serde readRequest mode bridge).run { bridge } actions).answers ∧
      (∀ session, ((host serde readRequest mode bridge).run { bridge } turns).answersTo session =
        ((host serde readRequest mode bridge).run { bridge } actions).answersTo session) ∧
      ((host serde readRequest mode bridge).run { bridge } turns).bridge =
        ((host serde readRequest mode bridge).run { bridge } actions).bridge := by
  have hSerialized : Serialized serde readRequest mode bridge
      ((host serde readRequest mode bridge).run (idle bridge []) actions)
      ((host serde readRequest mode bridge).outputs HostState.effects (idle bridge []) actions) := by
    induction actions using List.reverseRecOn with
    | nil => exact Serialized.init
    | append_singleton actions a ih =>
      rw [Machine.run_append, Machine.outputs_append]
      cases a with
      | receive i message => exact ih.receive i message
      | advance i reply =>
        have hNext := ih.advance i reply
        rw [← List.append_nil (HostState.effects _ _)] at hNext
        exact hNext
  obtain ⟨finished, current, bridge₀, log₀, earlier, hTurns⟩ := hSerialized.turns
  obtain ⟨hAlone, hState, hEffects⟩ := hTurns.whole
  have hAnswers : ((host serde readRequest mode bridge).run { bridge } (finished ++ current)).answers =
      ((host serde readRequest mode bridge).run { bridge } actions).answers := by
    change ((host serde readRequest mode bridge).run (idle bridge []) _).answers = _
    rw [hState]
    exact hTurns.sameAnswers
  refine ⟨finished ++ current, hAlone, hEffects, hAnswers, ?_, ?_⟩
  · intro session
    rw [answersTo, hAnswers, answersTo]
  · change ((host serde readRequest mode bridge).run (idle bridge []) _).bridge = _
    rw [hState]
    rfl

end Fetchline.Host
