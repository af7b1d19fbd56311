import Fetchline.Library.Log
import Mathlib.Data.UInt

/-!
# The echo filter of the UART bridge

Bytes that match what was just written are held back until they are known to be its echo,
which is deleted, or something else, which is forwarded.
-/

namespace Fetchline.UartBridge

variable {τ : Type}

structure LocalEchoFilter (τ : Type) where
  expected : List UInt8
  candidate : List UInt8
  deadline : τ
deriving DecidableEq

namespace LocalEchoFilter

def new [Zero τ] : LocalEchoFilter τ := ⟨[], [], 0⟩

def cleared (s : LocalEchoFilter τ) : LocalEchoFilter τ := { s with expected := [], candidate := [] }

def wrote [Add τ] (s : LocalEchoFilter τ) (graceSeconds now : τ) (payload : List UInt8) :
    LocalEchoFilter τ :=
  { s with expected := s.expected ++ payload, deadline := now + graceSeconds }

/-- One round of the loop in `filter`; `none` is an index out of range. -/
def filterByte (s : LocalEchoFilter τ) (byte : UInt8) : Option (List UInt8 × LocalEchoFilter τ) :=
  if s.expected = [] then some ([byte], s)
  else
    let candidate := s.candidate ++ [byte]
    let position := candidate.length - 1
    match s.expected[position]? with
    | none => none
    | some expected =>
      if byte ≠ expected then some (candidate, s.cleared)
      else if candidate.length = s.expected.length then some ([], s.cleared)
      else some ([], { s with candidate })

def filter (s : LocalEchoFilter τ) : List UInt8 → Option (List UInt8 × LocalEchoFilter τ)
  | [] => some ([], s)
  | byte :: payload => do
    let (forwarded, s) ← s.filterByte byte
    let (rest, s) ← s.filter payload
    some (forwarded ++ rest, s)

def flushExpired [LT τ] [DecidableLT τ] (s : LocalEchoFilter τ) (now : τ) :
    List UInt8 × LocalEchoFilter τ :=
  if s.candidate = [] ∨ now < s.deadline then ([], s) else (s.candidate, s.cleared)

end LocalEchoFilter

/-- The calls on a filter, with what the clock says where it is read. -/
inductive Call (τ : Type)
  | wrote (now : τ) (payload : List UInt8)
  | filter (payload : List UInt8)
  | flushExpired (now : τ)
deriving DecidableEq

section Runs

variable [Add τ] [LT τ] [DecidableLT τ] (graceSeconds : τ)

def LocalEchoFilter.perform (s : LocalEchoFilter τ) :
    Call τ → Option (List UInt8 × LocalEchoFilter τ)
  | .wrote now payload => some ([], s.wrote graceSeconds now payload)
  | .filter payload => s.filter payload
  | .flushExpired now => some (s.flushExpired now)

/-- All that the calls return, in order. -/
def LocalEchoFilter.run (s : LocalEchoFilter τ) :
    List (Call τ) → Option (List UInt8 × LocalEchoFilter τ)
  | [] => some ([], s)
  | call :: calls => do
    let (returned, s) ← s.perform graceSeconds call
    let (rest, s) ← s.run calls
    some (returned ++ rest, s)

end Runs

def fedBytes : List (Call τ) → List UInt8
  | [] => []
  | .filter payload :: calls => payload ++ fedBytes calls
  | _ :: calls => fedBytes calls

inductive Entry
  | wrote (payload : List UInt8)
  | returned (bytes : List UInt8)
  | deleted (block : List UInt8)
  | cleared
deriving DecidableEq

/-- The bytes that have gone, each with whether it was deleted. The newest entry is first. -/
def marked : List Entry → List (UInt8 × Bool)
  | [] => []
  | .returned bytes :: log => marked log ++ bytes.map (·, false)
  | .deleted block :: log => marked log ++ block.map (·, true)
  | .wrote _ :: log | .cleared :: log => marked log

def returnedBytes : List Entry → List UInt8
  | [] => []
  | .returned bytes :: log => returnedBytes log ++ bytes
  | .wrote _ :: log | .deleted _ :: log | .cleared :: log => returnedBytes log

/-- The payloads written since the expectation was last cleared. -/
def writtenSince : List Entry → List UInt8
  | [] => []
  | .wrote payload :: log => writtenSince log ++ payload
  | .returned _ :: log => writtenSince log
  | .deleted _ :: _ | .cleared :: _ => []

def DeletesWritten (entry : Entry) (earlier : List Entry) : Prop :=
  ∀ block, entry = .deleted block → block = writtenSince earlier

/-- What a step shows: an expectation that it clears without returning anything takes the
bytes held with it. -/
def observe (s s' : LocalEchoFilter τ) (fed output : List UInt8) : List Entry :=
  if s.expected ≠ [] ∧ s'.expected = [] then
    if output = [] then [.deleted (s.candidate ++ fed)] else [.cleared, .returned output]
  else [.returned output]

structure Watched (τ : Type) where
  filter : LocalEchoFilter τ
  log : List Entry

namespace Watched

def step (w : Watched τ) (fed output : List UInt8) (filter : LocalEchoFilter τ) : Watched τ :=
  ⟨filter, observe w.filter filter fed output ++ w.log⟩

def filterBytes (w : Watched τ) : List UInt8 → Option (Watched τ)
  | [] => some w
  | byte :: payload => do
    let (output, filter) ← w.filter.filterByte byte
    (w.step [byte] output filter).filterBytes payload

variable [Add τ] [LT τ] [DecidableLT τ] (graceSeconds : τ)

def perform (w : Watched τ) : Call τ → Option (Watched τ)
  | .wrote now payload => some ⟨w.filter.wrote graceSeconds now payload, .wrote payload :: w.log⟩
  | .filter payload => w.filterBytes payload
  | .flushExpired now => some (w.step [] (w.filter.flushExpired now).1 (w.filter.flushExpired now).2)

def run (w : Watched τ) : List (Call τ) → Option (Watched τ)
  | [] => some w
  | call :: calls => do (← w.perform graceSeconds call).run calls

end Watched

/-- The bytes fed, each with whether it is an echo: those that were written come first. -/
def arrivals : List UInt8 → List (Call τ) → List (UInt8 × Bool)
  | _, [] => []
  | outstanding, .wrote _ payload :: calls => arrivals (outstanding ++ payload) calls
  | outstanding, .filter payload :: calls =>
    (payload.take outstanding.length).map (·, true) ++
      ((payload.drop outstanding.length).map (·, false) ++
        arrivals (outstanding.drop payload.length) calls)
  | outstanding, .flushExpired _ :: calls => arrivals outstanding calls

/-- Each payload is echoed before any other byte arrives, and no call of `flush_expired` finds
the deadline past while an echo is outstanding. The bytes `rest` are still to come. -/
def EchoedUntil [Add τ] [LT τ] (graceSeconds : τ) (rest : List UInt8) :
    List UInt8 → τ → List (Call τ) → Prop
  | outstanding, _, [] => outstanding = rest
  | outstanding, _, .wrote now payload :: calls =>
    EchoedUntil graceSeconds rest (outstanding ++ payload) (now + graceSeconds) calls
  | outstanding, deadline, .filter payload :: calls =>
    payload.take outstanding.length = outstanding.take payload.length ∧
      EchoedUntil graceSeconds rest (outstanding.drop payload.length) deadline calls
  | outstanding, deadline, .flushExpired now :: calls =>
    (outstanding = [] ∨ now < deadline) ∧
      EchoedUntil graceSeconds rest outstanding deadline calls

/-- Every echo has come, and in time. -/
def EchoedInTime [Add τ] [LT τ] (graceSeconds : τ) (outstanding : List UInt8) (deadline : τ)
    (calls : List (Call τ)) : Prop :=
  EchoedUntil graceSeconds [] outstanding deadline calls

namespace LocalEchoFilter

variable {s s' : LocalEchoFilter τ} {rest : List UInt8}

/-- The bytes held are the expected ones but for `rest`, and none when nothing is expected. -/
structure Awaits (s : LocalEchoFilter τ) (rest : List UInt8) : Prop where
  expected : s.expected = s.candidate ++ rest
  settled : rest = [] → s.candidate = []

theorem Awaits.expected_nil (h : Awaits s []) : s.expected = [] := by
  rw [h.expected, h.settled rfl, List.append_nil]

theorem Awaits.expected_ne_nil {next : UInt8} (h : Awaits s (next :: rest)) : s.expected ≠ [] := by
  rw [h.expected]
  exact List.append_ne_nil_of_right_ne_nil _ (List.cons_ne_nil next rest)

theorem awaits_cleared (s : LocalEchoFilter τ) : Awaits s.cleared [] := ⟨rfl, fun _ => rfl⟩

theorem Awaits.wrote [Add τ] (h : Awaits s rest) (graceSeconds now : τ) (payload : List UInt8) :
    Awaits (s.wrote graceSeconds now payload) (rest ++ payload) where
  expected := by
    change s.expected ++ payload = s.candidate ++ (rest ++ payload)
    rw [h.expected, List.append_assoc]
  settled hNil := h.settled (List.append_eq_nil_iff.mp hNil).1

theorem filterByte_idle (h : Awaits s []) (byte : UInt8) : s.filterByte byte = some ([byte], s) := by
  rw [filterByte, if_pos h.expected_nil]

theorem filterByte_next {next : UInt8} (h : Awaits s (next :: rest)) (byte : UInt8) :
    s.filterByte byte =
      if byte ≠ next then some (s.candidate ++ [byte], s.cleared)
      else if rest = [] then some ([], s.cleared)
      else some ([], { s with candidate := s.candidate ++ [byte] }) := by
  have hPosition : (s.candidate ++ [byte]).length - 1 = s.candidate.length := by
    rw [List.length_append, List.length_singleton, Nat.add_sub_cancel]
  have hNext : s.expected[s.candidate.length]? = some next := by
    rw [h.expected, List.getElem?_append_right (Nat.le_refl _), Nat.sub_self]
    rfl
  have hComplete : (s.candidate ++ [byte]).length = s.expected.length ↔ rest = [] := by
    rw [h.expected, List.length_append, List.length_append, List.length_singleton, List.length_cons,
      ← List.length_eq_zero_iff]
    omega
  rw [filterByte, if_neg h.expected_ne_nil]
  simp only [hPosition, hNext, hComplete]

/-- What one byte, or a flush with no byte, does to the filter. -/
inductive Outcome (s : LocalEchoFilter τ) (fed : List UInt8) :
    List UInt8 → LocalEchoFilter τ → Prop
  | passes (idle : Awaits s []) : Outcome s fed fed s
  | holds {rest : List UInt8} (awaits : Awaits { s with candidate := s.candidate ++ fed } rest) :
      Outcome s fed [] { s with candidate := s.candidate ++ fed }
  | releases (expecting : s.expected ≠ []) (some : s.candidate ++ fed ≠ []) :
      Outcome s fed (s.candidate ++ fed) s.cleared
  | deletes (expecting : s.expected ≠ []) (all : s.candidate ++ fed = s.expected) :
      Outcome s fed [] s.cleared

theorem Awaits.filterByte (h : Awaits s rest) (byte : UInt8) :
    ∃ output s', s.filterByte byte = some (output, s') ∧ Outcome s [byte] output s' := by
  cases rest with
  | nil => exact ⟨[byte], s, filterByte_idle h byte, .passes h⟩
  | cons next rest =>
    rw [filterByte_next h]
    split
    · exact ⟨_, _, rfl, .releases h.expected_ne_nil (List.append_ne_nil_of_right_ne_nil _ nofun)⟩
    rename_i hSame
    obtain rfl := not_not.mp hSame
    split
    · rename_i hLast
      subst hLast
      exact ⟨_, _, rfl, .deletes h.expected_ne_nil h.expected.symm⟩
    · rename_i hMore
      refine ⟨_, _, rfl, .holds ⟨?_, fun hNil => absurd hNil hMore⟩⟩
      change s.expected = s.candidate ++ [byte] ++ rest
      rw [h.expected, List.append_assoc, List.singleton_append]

theorem Awaits.flushExpired [LT τ] [DecidableLT τ] (h : Awaits s rest) (now : τ) :
    Outcome s [] (s.flushExpired now).1 (s.flushExpired now).2 := by
  rw [LocalEchoFilter.flushExpired]
  have hNothing : { s with candidate := s.candidate ++ [] } = s := by rw [List.append_nil]
  split
  · have hHolds : Outcome s [] [] { s with candidate := s.candidate ++ [] } :=
      .holds (hNothing.symm ▸ h)
    rwa [hNothing] at hHolds
  · rename_i hDue
    have hSome : s.candidate ≠ [] := fun hNil => hDue (.inl hNil)
    have hReleases : Outcome s [] (s.candidate ++ []) s.cleared := by
      refine .releases ?_ (by rwa [List.append_nil])
      rw [h.expected]
      exact List.append_ne_nil_of_left_ne_nil hSome _
    rwa [List.append_nil] at hReleases

theorem Outcome.awaits {fed output : List UInt8} (h : Outcome s fed output s') :
    ∃ rest, Awaits s' rest := by
  cases h with
  | passes idle => exact ⟨[], idle⟩
  | holds awaits => exact ⟨_, awaits⟩
  | releases => exact ⟨[], awaits_cleared s⟩
  | deletes => exact ⟨[], awaits_cleared s⟩

end LocalEchoFilter

open LocalEchoFilter (Awaits Outcome)

section Steps

variable {s s' : LocalEchoFilter τ} {log : List Entry} {fed output : List UInt8}

theorem observe_kept (h : s'.expected = s.expected) (fed output : List UInt8) :
    observe s s' fed output = [.returned output] := by
  refine if_neg fun hCleared => hCleared.1 ?_
  rw [← h, hCleared.2]

theorem observe_released (hExpecting : s.expected ≠ []) (hSome : output ≠ []) :
    observe s s.cleared fed output = [.cleared, .returned output] := by
  rw [observe, if_pos ⟨hExpecting, rfl⟩, if_neg hSome]

theorem observe_deleted (hExpecting : s.expected ≠ []) :
    observe s s.cleared fed [] = [.deleted (s.candidate ++ fed)] := by
  rw [observe, if_pos ⟨hExpecting, rfl⟩, if_pos rfl]

/-- The log accounts for all bytes fed and returned so far, and for all that were deleted. -/
structure Accounts (fed returned : List UInt8) (w : Watched τ) : Prop where
  awaits : ∃ rest, Awaits w.filter rest
  written : w.filter.expected = writtenSince w.log
  fed : fed = (marked w.log).map Prod.fst ++ w.filter.candidate
  returned : returned = returnedBytes w.log
  deletes : Log.Everywhere DeletesWritten w.log

theorem accounts_new [Zero τ] : Accounts [] [] (⟨.new, []⟩ : Watched τ) where
  awaits := ⟨[], rfl, fun _ => rfl⟩
  written := rfl
  fed := rfl
  returned := rfl
  deletes := Log.everywhere_nil

theorem map_fst_append_mark (seen : List (UInt8 × Bool)) (bytes : List UInt8) (mark : Bool) :
    (seen ++ bytes.map (·, mark)).map Prod.fst = seen.map Prod.fst ++ bytes := by
  rw [List.map_append, List.map_map]
  exact congrArg (_ ++ ·) (List.map_id bytes)

theorem Accounts.step {w : Watched τ} {more returned : List UInt8} (h : Accounts fed returned w)
    (hOutcome : Outcome w.filter more output s') :
    Accounts (fed ++ more) (returned ++ output) (w.step more output s') := by
  have hAwaits := hOutcome.awaits
  cases hOutcome with
  | passes idle =>
    rw [Watched.step, observe_kept rfl]
    refine ⟨hAwaits, h.written, ?_, ?_, ?_⟩
    · change fed ++ output =
        (marked w.log ++ output.map (·, false)).map Prod.fst ++ w.filter.candidate
      rw [map_fst_append_mark, h.fed, idle.settled rfl, List.append_nil, List.append_nil]
    · exact congrArg (· ++ output) h.returned
    · exact (Log.everywhere_cons _ _).mpr ⟨nofun, h.deletes⟩
  | holds awaits =>
    have hKept : { w.filter with candidate := w.filter.candidate ++ more }.expected =
        w.filter.expected := rfl
    rw [Watched.step, observe_kept hKept]
    refine ⟨hAwaits, h.written, ?_, ?_, ?_⟩
    · change fed ++ more = (marked w.log ++ []).map Prod.fst ++ (w.filter.candidate ++ more)
      rw [List.append_nil, h.fed, List.append_assoc]
    · exact congrArg (· ++ []) h.returned
    · exact (Log.everywhere_cons _ _).mpr ⟨nofun, h.deletes⟩
  | releases hExpecting hSome =>
    rw [Watched.step, observe_released hExpecting hSome]
    refine ⟨hAwaits, rfl, ?_, ?_, ?_⟩
    · change fed ++ more =
        (marked w.log ++ (w.filter.candidate ++ more).map (·, false)).map Prod.fst ++ []
      rw [map_fst_append_mark, h.fed, List.append_assoc, List.append_nil]
    · exact congrArg (· ++ (w.filter.candidate ++ more)) h.returned
    · exact (Log.everywhere_cons _ _).mpr
        ⟨nofun, (Log.everywhere_cons _ _).mpr ⟨nofun, h.deletes⟩⟩
  | deletes hExpecting hAll =>
    rw [Watched.step, observe_deleted hExpecting]
    refine ⟨hAwaits, rfl, ?_, ?_, ?_⟩
    · change fed ++ more =
        (marked w.log ++ (w.filter.candidate ++ more).map (·, true)).map Prod.fst ++ []
      rw [map_fst_append_mark, h.fed, List.append_assoc, List.append_nil]
    · rw [List.append_nil]
      exact h.returned
    · refine (Log.everywhere_cons _ _).mpr ⟨fun block hBlock => ?_, h.deletes⟩
      cases hBlock
      exact hAll.trans h.written

theorem Accounts.wrote [Add τ] {w : Watched τ} {returned : List UInt8}
    (h : Accounts fed returned w) (graceSeconds now : τ) (payload : List UInt8) :
    Accounts fed returned ⟨w.filter.wrote graceSeconds now payload, .wrote payload :: w.log⟩ where
  awaits :=
    have ⟨_, hAwaits⟩ := h.awaits
    ⟨_, hAwaits.wrote graceSeconds now payload⟩
  written := congrArg (· ++ payload) h.written
  fed := h.fed
  returned := h.returned
  deletes := (Log.everywhere_cons _ _).mpr ⟨nofun, h.deletes⟩

theorem Accounts.filterBytes {w : Watched τ} {returned : List UInt8} (h : Accounts fed returned w)
    (payload : List UInt8) :
    ∃ output s' log, w.filter.filter payload = some (output, s') ∧
      w.filterBytes payload = some ⟨s', log⟩ ∧
      Accounts (fed ++ payload) (returned ++ output) ⟨s', log⟩ := by
  induction payload generalizing w fed returned with
  | nil =>
    refine ⟨[], w.filter, w.log, rfl, rfl, ?_⟩
    rw [List.append_nil, List.append_nil]
    exact h
  | cons byte payload ih =>
    obtain ⟨rest, hAwaits⟩ := h.awaits
    obtain ⟨output, s', hByte, hOutcome⟩ := hAwaits.filterByte byte
    obtain ⟨later, s'', log, hFilter, hWatched, hLater⟩ := ih (h.step hOutcome)
    refine ⟨output ++ later, s'', log, ?_, ?_, ?_⟩
    · rw [LocalEchoFilter.filter, hByte, Option.bind_eq_bind, Option.bind_some]
      exact congrArg (Option.bind · _) hFilter
    · rw [Watched.filterBytes, hByte]
      exact hWatched
    · rwa [List.append_assoc, List.append_assoc, List.singleton_append] at hLater

theorem fedBytes_append (calls more : List (Call τ)) :
    fedBytes (calls ++ more) = fedBytes calls ++ fedBytes more := by
  induction calls with
  | nil => rfl
  | cons call calls ih =>
    cases call with
    | filter payload => rw [List.cons_append, fedBytes, fedBytes, ih, List.append_assoc]
    | wrote => exact ih
    | flushExpired => exact ih

end Steps

section Runs

variable [Add τ] [LT τ] [DecidableLT τ] (graceSeconds : τ) {w : Watched τ}
  {fed returned : List UInt8}

theorem Accounts.perform (h : Accounts fed returned w) (call : Call τ) :
    ∃ output s' log, w.filter.perform graceSeconds call = some (output, s') ∧
      w.perform graceSeconds call = some ⟨s', log⟩ ∧
      Accounts (fed ++ fedBytes [call]) (returned ++ output) ⟨s', log⟩ := by
  cases call with
  | wrote now payload =>
    refine ⟨[], _, _, rfl, rfl, ?_⟩
    rw [List.append_nil]
    exact (List.append_nil fed).symm ▸ h.wrote graceSeconds now payload
  | filter payload =>
    have hFed : fedBytes [(.filter payload : Call τ)] = payload := List.append_nil payload
    rw [hFed]
    exact h.filterBytes payload
  | flushExpired now =>
    obtain ⟨rest, hAwaits⟩ := h.awaits
    exact ⟨_, _, _, rfl, rfl, h.step (hAwaits.flushExpired now)⟩

theorem Accounts.run (h : Accounts fed returned w) (calls : List (Call τ)) :
    ∃ output s' log, w.filter.run graceSeconds calls = some (output, s') ∧
      w.run graceSeconds calls = some ⟨s', log⟩ ∧
      Accounts (fed ++ fedBytes calls) (returned ++ output) ⟨s', log⟩ := by
  induction calls generalizing w fed returned with
  | nil =>
    refine ⟨[], w.filter, w.log, rfl, rfl, ?_⟩
    rw [fedBytes, List.append_nil, List.append_nil]
    exact h
  | cons call calls ih =>
    obtain ⟨output, s', log, hCall, hWatched, hAfter⟩ := h.perform graceSeconds call
    obtain ⟨later, s'', log', hRun, hWatchedRun, hLater⟩ := ih hAfter
    refine ⟨output ++ later, s'', log', ?_, ?_, ?_⟩
    · rw [LocalEchoFilter.run, hCall, Option.bind_eq_bind, Option.bind_some]
      exact congrArg (Option.bind · _) hRun
    · rw [Watched.run, hWatched]
      exact hWatchedRun
    · have hFed : fedBytes (call :: calls) = fedBytes [call] ++ fedBytes calls :=
        fedBytes_append [call] calls
      rwa [hFed, ← List.append_assoc, ← List.append_assoc]

end Runs

/-- Echoes alone have been deleted or are held, and the bytes `outstanding` are still to come. -/
structure Echoing (outstanding : List UInt8) (deadline : τ) (seen : List (UInt8 × Bool))
    (w : Watched τ) : Prop where
  awaits : Awaits w.filter outstanding
  deadline : w.filter.deadline = deadline
  seen : seen = marked w.log ++ w.filter.candidate.map (·, true)

section Steps

variable {w : Watched τ} {outstanding : List UInt8} {deadline : τ} {seen : List (UInt8 × Bool)}

theorem echoing_new [Zero τ] : Echoing [] 0 [] (⟨.new, []⟩ : Watched τ) where
  awaits := ⟨rfl, fun _ => rfl⟩
  deadline := rfl
  seen := rfl

theorem Echoing.echo {byte : UInt8} (h : Echoing (byte :: outstanding) deadline seen w) :
    ∃ output s', w.filter.filterByte byte = some (output, s') ∧
      Echoing outstanding deadline (seen ++ [(byte, true)]) (w.step [byte] output s') := by
  rw [LocalEchoFilter.filterByte_next h.awaits, if_neg (not_not.mpr rfl)]
  split
  · rename_i hLast
    subst hLast
    refine ⟨[], _, rfl, LocalEchoFilter.awaits_cleared _, h.deadline, ?_⟩
    rw [Watched.step, observe_deleted h.awaits.expected_ne_nil]
    change seen ++ [(byte, true)] = marked w.log ++ (w.filter.candidate ++ [byte]).map (·, true) ++ []
    rw [h.seen, List.map_append, List.append_nil, List.append_assoc]
    rfl
  · rename_i hMore
    have hKept : { w.filter with candidate := w.filter.candidate ++ [byte] }.expected =
        w.filter.expected := rfl
    refine ⟨[], _, rfl, ⟨?_, fun hNil => absurd hNil hMore⟩, h.deadline, ?_⟩
    · change w.filter.expected = w.filter.candidate ++ [byte] ++ outstanding
      rw [h.awaits.expected, List.append_assoc, List.singleton_append]
    · rw [Watched.step, observe_kept hKept]
      change seen ++ [(byte, true)] =
        marked w.log ++ [] ++ (w.filter.candidate ++ [byte]).map (·, true)
      rw [h.seen, List.map_append, List.append_nil, List.append_assoc]
      rfl

theorem Echoing.other (h : Echoing [] deadline seen w) (byte : UInt8) :
    ∃ output s', w.filter.filterByte byte = some (output, s') ∧
      Echoing [] deadline (seen ++ [(byte, false)]) (w.step [byte] output s') := by
  refine ⟨_, _, LocalEchoFilter.filterByte_idle h.awaits byte, h.awaits, h.deadline, ?_⟩
  rw [Watched.step, observe_kept rfl, h.seen, h.awaits.settled rfl, List.map_nil, List.append_nil,
    List.append_nil]
  rfl

theorem Echoing.filterBytes (h : Echoing outstanding deadline seen w) {payload : List UInt8}
    (hEcho : payload.take outstanding.length = outstanding.take payload.length) :
    ∃ w', w.filterBytes payload = some w' ∧
      Echoing (outstanding.drop payload.length) deadline
        (seen ++ ((payload.take outstanding.length).map (·, true) ++
          (payload.drop outstanding.length).map (·, false))) w' := by
  induction payload generalizing outstanding seen w with
  | nil =>
    refine ⟨w, rfl, ?_⟩
    simpa using h
  | cons byte payload ih =>
    cases outstanding with
    | nil =>
      obtain ⟨output, s', hByte, hAfter⟩ := h.other byte
      obtain ⟨w', hRun, hLater⟩ := ih hAfter (by simp)
      refine ⟨w', ?_, ?_⟩
      · rw [Watched.filterBytes, hByte]
        exact hRun
      · simpa using hLater
    | cons next outstanding =>
      obtain ⟨rfl, hRest⟩ := List.cons.inj hEcho
      obtain ⟨output, s', hByte, hAfter⟩ := h.echo
      obtain ⟨w', hRun, hLater⟩ := ih hAfter hRest
      refine ⟨w', ?_, ?_⟩
      · rw [Watched.filterBytes, hByte]
        exact hRun
      · simpa using hLater

theorem Echoing.flushExpired [LT τ] [DecidableLT τ] (h : Echoing outstanding deadline seen w) {now : τ}
    (hInTime : outstanding = [] ∨ now < deadline) :
    Echoing outstanding deadline seen
      (w.step [] (w.filter.flushExpired now).1 (w.filter.flushExpired now).2) := by
  have hKeeps : w.filter.flushExpired now = ([], w.filter) := by
    apply if_pos
    rcases hInTime with hNone | hEarly
    · exact .inl (h.awaits.settled hNone)
    · exact .inr (h.deadline ▸ hEarly)
  rw [hKeeps, Watched.step, observe_kept rfl]
  refine ⟨h.awaits, h.deadline, ?_⟩
  change seen = marked w.log ++ [] ++ w.filter.candidate.map (·, true)
  rw [List.append_nil]
  exact h.seen

end Steps

section Runs

variable [Add τ] [LT τ] [DecidableLT τ] (graceSeconds : τ) {w : Watched τ}
  {outstanding : List UInt8} {deadline : τ} {seen : List (UInt8 × Bool)}

theorem Echoing.run (h : Echoing outstanding deadline seen w) {rest : List UInt8}
    {calls : List (Call τ)} (hEchoed : EchoedUntil graceSeconds rest outstanding deadline calls) :
    ∃ w' deadline', w.run graceSeconds calls = some w' ∧
      Echoing rest deadline' (seen ++ arrivals outstanding calls) w' := by
  induction calls generalizing w outstanding deadline seen with
  | nil =>
    obtain rfl : outstanding = rest := hEchoed
    refine ⟨w, deadline, rfl, ?_⟩
    rw [arrivals, List.append_nil]
    exact h
  | cons call calls ih =>
    cases call with
    | wrote now payload =>
      exact ih ⟨h.awaits.wrote graceSeconds now payload, rfl, h.seen⟩ hEchoed
    | filter payload =>
      obtain ⟨hEcho, hLater⟩ := hEchoed
      obtain ⟨w₁, hFilter, hAfter⟩ := h.filterBytes hEcho
      obtain ⟨w₂, deadline', hRun, hEchoing⟩ := ih hAfter hLater
      refine ⟨w₂, deadline', ?_, ?_⟩
      · rw [Watched.run, Watched.perform, hFilter]
        exact hRun
      · rwa [List.append_assoc, List.append_assoc] at hEchoing
    | flushExpired now => exact ih (h.flushExpired hEchoed.1) hEchoed.2

/-- The filter accounts for every byte: what it returns and holds is what it was fed but for
the blocks it deletes, each all that was written since the expectation was cleared. Echoes
that come in time are all it deletes. -/
theorem echo_filter_conserves [Zero τ] (calls : List (Call τ)) :
    ∃ returned s log, LocalEchoFilter.new.run graceSeconds calls = some (returned, s) ∧
      (⟨.new, []⟩ : Watched τ).run graceSeconds calls = some ⟨s, log⟩ ∧
      fedBytes calls = (marked log).map Prod.fst ++ s.candidate ∧
      returned = returnedBytes log ∧ Log.Everywhere DeletesWritten log ∧
      (EchoedInTime graceSeconds [] 0 calls → s.candidate = [] ∧ marked log = arrivals [] calls) := by
  have hStart : Accounts [] [] (⟨.new, []⟩ : Watched τ) := accounts_new
  obtain ⟨returned, s, log, hRun, hWatched, hAccounts⟩ := hStart.run graceSeconds calls
  refine ⟨returned, s, log, hRun, hWatched, hAccounts.fed, hAccounts.returned, hAccounts.deletes,
    fun hEchoed => ?_⟩
  obtain ⟨w, _, hSame, hEchoing⟩ := echoing_new.run graceSeconds hEchoed
  obtain rfl := Option.some.inj (hWatched.symm.trans hSame)
  have hNone : s.candidate = [] := hEchoing.awaits.settled rfl
  have hSeen := hEchoing.seen
  rw [List.nil_append, hNone, List.map_nil, List.append_nil] at hSeen
  exact ⟨hNone, hSeen.symm⟩

end Runs

/-- A request of six bytes, its echo in two pieces, and the reply in the second piece. -/
def echoedRequest : List (Call Nat) :=
  [.wrote 100 [0xff, 0xff, 5, 2, 1, 0xf7], .filter [0xff, 0xff, 5], .flushExpired 103,
    .filter [2, 1, 0xf7, 0xff, 0xff, 5, 2, 0, 0xf8], .flushExpired 120]

theorem echo_filter_conserves_request : ∃ returned s log,
    LocalEchoFilter.new.run 10 echoedRequest = some (returned, s) ∧
      s.candidate = [] ∧ marked log = arrivals [] echoedRequest ∧ returned = returnedBytes log := by
  obtain ⟨returned, s, log, hRun, -, -, hReturned, -, hEchoes⟩ := echo_filter_conserves 10 echoedRequest
  obtain ⟨hNone, hMarked⟩ := hEchoes ⟨rfl, .inr (by decide), rfl, .inl rfl, rfl⟩
  exact ⟨returned, s, log, hRun, hNone, hMarked, hReturned⟩

/-- A reply that begins like the request is forwarded once it differs. -/
example : LocalEchoFilter.new.run 10 [.wrote (100 : Nat) [0xff, 0xff, 5, 2, 1, 0xf7],
    .filter [0xff, 0xff, 5, 2], .filter [0, 0xf8]] = some ([0xff, 0xff, 5, 2, 0, 0xf8], ⟨[], [], 110⟩) := by
  decide

end Fetchline.UartBridge
