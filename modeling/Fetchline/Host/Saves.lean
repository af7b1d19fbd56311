import Mathlib.Data.Fintype.Basic
import Fetchline.Host.Config
import Fetchline.Library.Machine

/-! # Concurrent saves of the configuration

Each `PUT /config` runs in a handler of its own. The handlers share the file,
one temporary file beside it and the configuration in memory, and nothing keeps
the steps of one handler together.
-/

namespace Fetchline.Host

open Transition

inductive StatusCode where
  | badRequest
  | internalServerError
deriving DecidableEq, Repr

/-- How far the handler of an update has got. -/
inductive PutPhase (body : HostConfig) where
  | received
  | creating (admitted : Admitted body)
  | writing (admitted : Admitted body)
  | replacing (admitted : Admitted body)
  | assigning (admitted : Admitted body)
  | returned (answer : Except (StatusCode × String) (Admitted body))

/-- What the operating system makes of one call. A failed write may have
truncated the file and got as far as some number of bytes. -/
inductive Attempt where
  | done
  | failed (error : String) (written : Option Nat)

variable {n : Nat} {body : Fin n → HostConfig}

/-- `replaced` and `assigned` record who has changed the file, and to what, and
who has changed the configuration in memory. -/
structure Storage (body : Fin n → HostConfig) where
  temporary : Option ByteArray
  stored : Option ByteArray
  memory : HostConfig
  puts : (i : Fin n) → PutPhase (body i)
  replaced : List (Fin n × ByteArray)
  assigned : List (Fin n)

namespace Storage

def become (s : Storage body) (i : Fin n) (phase : PutPhase (body i)) : Storage body :=
  { s with puts := Function.update s.puts i phase }

def refuse (s : Storage body) (i : Fin n) (status : StatusCode) (error : String) : Storage body :=
  s.become i (.returned (.error (status, error)))

end Storage

def notFound : String := "No such file or directory (os error 2)"

/-- One step of one handler. `parent` tells whether the configuration path has
a parent directory. -/
def putConfig (parent : Bool) (s : Storage body) (i : Fin n) (attempt : Attempt) :
    Storage body :=
  match s.puts i with
  | .received =>
    match admitBody (body i) with
    | .ok admitted => s.become i (.creating admitted)
    | .error error => s.refuse i .badRequest error
  | .creating admitted =>
    if !parent then
      s.refuse i .internalServerError "host configuration path has no parent directory"
    else
      match attempt with
      | .done => s.become i (.writing admitted)
      | .failed error _ =>
        s.refuse i .internalServerError ("could not create config directory: " ++ error)
  | .writing admitted =>
    let contents := admitted.config.toVecPretty
    match attempt with
    | .done => { s.become i (.replacing admitted) with temporary := some contents }
    | .failed error written =>
      { s.refuse i .internalServerError ("could not write host configuration: " ++ error) with
        temporary := (written.map (contents.extract 0)).or s.temporary }
  | .replacing admitted =>
    match attempt, s.temporary with
    | .done, some contents =>
      { s.become i (.assigning admitted) with
        temporary := none, stored := some contents, replaced := (i, contents) :: s.replaced }
    | .done, none =>
      s.refuse i .internalServerError ("could not replace host configuration: " ++ notFound)
    | .failed error _, _ =>
      s.refuse i .internalServerError ("could not replace host configuration: " ++ error)
  | .assigning admitted =>
    { s.become i (.returned (.ok admitted)) with
      memory := admitted.config, assigned := i :: s.assigned }
  | .returned _ => s

/-- The handlers, from a given state of the two files and the memory. -/
def saves (body : Fin n → HostConfig) (parent : Bool) (temporary stored : Option ByteArray)
    (memory : HostConfig) : Machine (Storage body) (Fin n × Attempt) where
  init := { temporary, stored, memory, puts := fun _ => .received, replaced := [], assigned := [] }
  step s a := putConfig parent s a.1 a.2

/-- The handler has put its own configuration in the file, the file still holds
it, and the assignment is to come. -/
def PutPhase.Holds {body : HostConfig} (stored : Option ByteArray) : PutPhase body → Prop
  | .assigning admitted => stored = some admitted.config.toVecPretty
  | _ => False

instance {body : HostConfig} (stored : Option ByteArray) :
    (phase : PutPhase body) → Decidable (phase.Holds stored)
  | .assigning admitted => inferInstanceAs (Decidable (stored = some admitted.config.toVecPretty))
  | .received | .creating _ | .writing _ | .replacing _ | .returned _ =>
    inferInstanceAs (Decidable False)

/-- A rename finds its own text in the temporary file, and an assignment comes
before the assignment of whoever replaced the file last. -/
def InOrder (s : Storage body) (a : Fin n × Attempt) : Prop :=
  match s.puts a.1 with
  | .replacing admitted =>
    a.2 = .done → ∀ contents ∈ s.temporary, contents = admitted.config.toVecPretty
  | .assigning _ => ∃ i, (s.puts i).Holds s.stored
  | _ => True

/-- The configuration with which the handler has replaced the file. -/
def PutPhase.saved {body : HostConfig} : PutPhase body → Option (Admitted body)
  | .assigning admitted | .returned (.ok admitted) => some admitted
  | _ => none

theorem PutPhase.Holds.saved {body : HostConfig} {stored : Option ByteArray}
    {phase : PutPhase body} (h : phase.Holds stored) : phase.saved ≠ none := by
  cases phase with
  | assigning admitted => exact nofun
  | _ => exact h.elim

/-- What one step does, seen from the file and the memory. -/
inductive PutStep (s : Storage body) (i : Fin n) (attempt : Attempt) : Storage body → Prop where
  | idle : PutStep s i attempt s
  | prepared (phase : PutPhase (body i)) (temporary : Option ByteArray)
      (before : (s.puts i).saved = none) (after : phase.saved = none) :
      PutStep s i attempt { s.become i phase with temporary }
  | replaced (admitted : Admitted (body i)) (contents : ByteArray)
      (before : s.puts i = .replacing admitted) (found : s.temporary = some contents)
      (succeeds : attempt = .done) :
      PutStep s i attempt { s.become i (.assigning admitted) with
        temporary := none, stored := some contents, replaced := (i, contents) :: s.replaced }
  | assigned (admitted : Admitted (body i)) (before : s.puts i = .assigning admitted) :
      PutStep s i attempt { s.become i (.returned (.ok admitted)) with
        memory := admitted.config, assigned := i :: s.assigned }

theorem putConfig_step (parent : Bool) (s : Storage body) (i : Fin n) (attempt : Attempt) :
    PutStep s i attempt (putConfig parent s i attempt) := by
  have quiet (phase : PutPhase (body i)) (before : (s.puts i).saved = none)
      (after : phase.saved = none) : PutStep s i attempt (s.become i phase) :=
    .prepared phase s.temporary before after
  generalize hPhase : s.puts i = phase at quiet
  unfold putConfig
  rw [hPhase]
  cases phase with
  | received =>
    cases admitBody (body i) with
    | ok admitted => exact quiet (.creating admitted) rfl rfl
    | error error => exact quiet _ rfl rfl
  | creating admitted =>
    cases parent with
    | false => exact quiet _ rfl rfl
    | true =>
      cases attempt with
      | done => exact quiet (.writing admitted) rfl rfl
      | failed error written => exact quiet _ rfl rfl
  | writing admitted =>
    have before : (s.puts i).saved = none := by rw [hPhase]; rfl
    cases attempt with
    | done => exact .prepared (.replacing admitted) _ before rfl
    | failed error written => exact .prepared _ _ before rfl
  | replacing admitted =>
    cases attempt with
    | done =>
      cases hTemporary : s.temporary with
      | none => exact quiet _ rfl rfl
      | some contents => exact .replaced admitted contents hPhase hTemporary rfl
    | failed error written => exact quiet _ rfl rfl
  | assigning admitted => exact .assigned admitted hPhase
  | returned answer => exact .idle

@[simp] theorem Storage.become_self (s : Storage body) (i : Fin n) (phase : PutPhase (body i)) :
    (s.become i phase).puts i = phase := Function.update_self ..

theorem Storage.become_other (s : Storage body) {i j : Fin n} (h : j ≠ i)
    (phase : PutPhase (body i)) : (s.become i phase).puts j = s.puts j :=
  Function.update_of_ne h ..

theorem Storage.become_returned {s : Storage body} {i : Fin n} {phase : PutPhase (body i)}
    (before : ∀ admitted, s.puts i ≠ .returned (.ok admitted))
    (after : ∀ admitted, phase ≠ .returned (.ok admitted)) {j : Fin n} {admitted : Admitted (body j)} :
    (s.become i phase).puts j = .returned (.ok admitted) ↔ s.puts j = .returned (.ok admitted) := by
  obtain rfl | hNe := eq_or_ne j i
  · rw [s.become_self]
    exact iff_of_false (after admitted) (before admitted)
  · rw [s.become_other hNe]

theorem PutPhase.ne_returned {body : HostConfig} {phase : PutPhase body} (h : phase.saved = none)
    (admitted : Admitted body) : phase ≠ .returned (.ok admitted) := by
  rintro rfl
  cases h

variable {fromStr : String → Option HostConfig} {stored : Option ByteArray} {memory : HostConfig}

/-- The file agrees with the memory, or whoever replaced it last has still to
assign; either way both hold what some update has saved. -/
structure Consistent (fromStr : String → Option HostConfig) (stored : Option ByteArray)
    (memory : HostConfig) (s : Storage body) : Prop where
  current : loadHostConfig fromStr s.stored = s.memory ∨ ∃ i, (s.puts i).Holds s.stored
  served : (∃ i admitted, s.puts i = .returned (.ok admitted) ∧ s.memory = admitted.config) ∨
    (∀ i admitted, s.puts i ≠ .returned (.ok admitted)) ∧ s.memory = memory
  untouched : s.replaced = [] → s.stored = stored
  replaced : ∀ i contents, (i, contents) ∈ s.replaced →
    ∃ admitted, (s.puts i).saved = some admitted ∧ contents = admitted.config.toVecPretty
  assigned : ∀ i ∈ s.assigned, ∃ admitted, s.puts i = .returned (.ok admitted)

namespace Consistent

variable {s : Storage body} {i : Fin n}

theorem init (parent : Bool) (temporary : Option ByteArray)
    (hAgree : loadHostConfig fromStr stored = memory) :
    Consistent fromStr stored memory (saves body parent temporary stored memory).init where
  current := .inl hAgree
  served := .inr ⟨fun _ _ => nofun, rfl⟩
  untouched _ := rfl
  replaced _ _ := nofun
  assigned _ := nofun

theorem prepared (h : Consistent fromStr stored memory s) (phase : PutPhase (body i))
    (temporary : Option ByteArray) (before : (s.puts i).saved = none)
    (after : phase.saved = none) :
    Consistent fromStr stored memory { s.become i phase with temporary } := by
  have hOther {j : Fin n} (hSaved : (s.puts j).saved ≠ none) :
      (s.become i phase).puts j = s.puts j := by
    refine s.become_other ?_ phase
    rintro rfl
    exact hSaved before
  have hReturned {j : Fin n} {admitted : Admitted (body j)} :
      (s.become i phase).puts j = .returned (.ok admitted) ↔ s.puts j = .returned (.ok admitted) :=
    s.become_returned (PutPhase.ne_returned before) (PutPhase.ne_returned after)
  constructor
  · obtain hAgree | ⟨j, hHolds⟩ := h.current
    · exact .inl hAgree
    · exact .inr ⟨j, (hOther hHolds.saved).symm ▸ hHolds⟩
  · obtain ⟨j, admitted, hOk, hMemory⟩ | ⟨hNone, hMemory⟩ := h.served
    · exact .inl ⟨j, admitted, hReturned.mpr hOk, hMemory⟩
    · exact .inr ⟨fun j admitted hOk => hNone j admitted (hReturned.mp hOk), hMemory⟩
  · exact h.untouched
  · intro j contents hMem
    obtain ⟨admitted, hSaved, hContents⟩ := h.replaced j contents hMem
    have hPhase := hOther (j := j) (by rw [hSaved]; exact nofun)
    exact ⟨admitted, hPhase.symm ▸ hSaved, hContents⟩
  · intro j hMem
    obtain ⟨admitted, hOk⟩ := h.assigned j hMem
    exact ⟨admitted, hReturned.mpr hOk⟩

theorem rename (h : Consistent fromStr stored memory s) {admitted : Admitted (body i)}
    (before : s.puts i = .replacing admitted) :
    Consistent fromStr stored memory { s.become i (.assigning admitted) with
      temporary := none, stored := some admitted.config.toVecPretty,
      replaced := (i, admitted.config.toVecPretty) :: s.replaced } := by
  have hSelf : (s.become i (.assigning admitted)).puts i = .assigning admitted := s.become_self i _
  have hReturned {j : Fin n} {other : Admitted (body j)} :
      (s.become i (.assigning admitted)).puts j = .returned (.ok other) ↔
        s.puts j = .returned (.ok other) := by
    refine s.become_returned (fun _ hOk => ?_) fun _ hOk => ?_
    · cases before.symm.trans hOk
    · cases hOk
  constructor
  · refine .inr ⟨i, ?_⟩
    change PutPhase.Holds _ ((s.become i (.assigning admitted)).puts i)
    rw [hSelf]
    rfl
  · obtain ⟨j, other, hOk, hMemory⟩ | ⟨hNone, hMemory⟩ := h.served
    · exact .inl ⟨j, other, hReturned.mpr hOk, hMemory⟩
    · exact .inr ⟨fun j other hOk => hNone j other (hReturned.mp hOk), hMemory⟩
  · exact nofun
  · intro j contents hMem
    obtain hEq | hMem := List.mem_cons.mp hMem
    · obtain ⟨hIndex, hContents⟩ := Prod.mk.inj hEq
      subst hIndex
      exact ⟨admitted, congrArg PutPhase.saved hSelf, hContents⟩
    · obtain ⟨other, hSaved, hContents⟩ := h.replaced j contents hMem
      have hNe : j ≠ i := by
        rintro rfl
        rw [before] at hSaved
        exact absurd hSaved nofun
      exact ⟨other, (s.become_other hNe (.assigning admitted)).symm ▸ hSaved, hContents⟩
  · intro j hMem
    obtain ⟨other, hOk⟩ := h.assigned j hMem
    exact ⟨other, hReturned.mpr hOk⟩

theorem assign (h : Consistent fromStr stored memory s) {admitted : Admitted (body i)}
    (hRead : fromStr admitted.config.toJson.pretty = some admitted.config)
    (before : s.puts i = .assigning admitted) (hOrder : ∃ j, (s.puts j).Holds s.stored) :
    Consistent fromStr stored memory { s.become i (.returned (.ok admitted)) with
      memory := admitted.config, assigned := i :: s.assigned } := by
  have hSelf : (s.become i (.returned (.ok admitted))).puts i = .returned (.ok admitted) :=
    s.become_self i _
  constructor
  · obtain ⟨j, hHolds⟩ := hOrder
    obtain rfl | hNe := eq_or_ne j i
    · rw [before] at hHolds
      change s.stored = some admitted.config.toVecPretty at hHolds
      exact .inl (hHolds ▸ loadHostConfig_stored admitted hRead)
    · exact .inr ⟨j, (s.become_other hNe (.returned (.ok admitted))).symm ▸ hHolds⟩
  · exact .inl ⟨i, admitted, hSelf, rfl⟩
  · exact h.untouched
  · intro j contents hMem
    obtain ⟨other, hSaved, hContents⟩ := h.replaced j contents hMem
    obtain rfl | hNe := eq_or_ne j i
    · rw [before] at hSaved
      obtain rfl := Option.some.inj hSaved
      exact ⟨admitted, congrArg PutPhase.saved hSelf, hContents⟩
    · exact ⟨other, (s.become_other hNe (.returned (.ok admitted))).symm ▸ hSaved, hContents⟩
  · intro j hMem
    obtain rfl | hNe := eq_or_ne j i
    · exact ⟨admitted, hSelf⟩
    · obtain hEq | hMem := List.mem_cons.mp hMem
      · exact absurd hEq hNe
      · obtain ⟨other, hOk⟩ := h.assigned j hMem
        exact ⟨other, (s.become_other hNe (.returned (.ok admitted))).symm ▸ hOk⟩

end Consistent

theorem consistent_of_inOrder {parent : Bool} {temporary : Option ByteArray}
    (hRead : ∀ i (admitted : Admitted (body i)),
      fromStr admitted.config.toJson.pretty = some admitted.config)
    (hAgree : loadHostConfig fromStr stored = memory) {s : Storage body}
    (h : (saves body parent temporary stored memory).Reach InOrder s) :
    Consistent fromStr stored memory s := by
  have hInit : Consistent fromStr stored memory
      (saves body parent temporary stored memory).init := .init parent temporary hAgree
  have hStep : ∀ (s : Storage body) (a : Fin n × Attempt),
      (saves body parent temporary stored memory).Reach InOrder s →
      Consistent fromStr stored memory s → InOrder s a →
      Consistent fromStr stored memory (putConfig parent s a.1 a.2) := by
    rintro s ⟨i, attempt⟩ - ih hOrder
    have hStep := putConfig_step parent s i attempt
    change Consistent fromStr stored memory (putConfig parent s i attempt)
    generalize putConfig parent s i attempt = next at hStep
    cases hStep with
    | idle => exact ih
    | prepared phase temporary before after => exact ih.prepared phase temporary before after
    | replaced admitted contents before found succeeds =>
      rw [InOrder, before] at hOrder
      rw [hOrder succeeds contents found]
      exact ih.rename before
    | assigned admitted before =>
      rw [InOrder, before] at hOrder
      exact ih.assign (hRead i admitted) before hOrder
  exact h.invariant hInit hStep

/-- Once every update has been answered. -/
theorem saves_stay_consistent {parent : Bool} {temporary : Option ByteArray}
    (hRead : ∀ i (admitted : Admitted (body i)),
      fromStr admitted.config.toJson.pretty = some admitted.config)
    (hAgree : loadHostConfig fromStr stored = memory) {s : Storage body}
    (hRun : (saves body parent temporary stored memory).Reach InOrder s)
    (hReturned : ∀ i, ∃ answer, s.puts i = .returned answer) :
    loadHostConfig fromStr s.stored = s.memory ∧
    ((∃ i admitted, s.puts i = .returned (.ok admitted) ∧ s.memory = admitted.config) ∨
      (∀ i admitted, s.puts i ≠ .returned (.ok admitted)) ∧
        s.stored = stored ∧ s.memory = memory) ∧
    (∀ i error, s.puts i = .returned (.error error) →
      i ∉ s.assigned ∧ ∀ contents, (i, contents) ∉ s.replaced) ∧
    ∀ i contents, (i, contents) ∈ s.replaced →
      ∃ admitted, s.puts i = .returned (.ok admitted) ∧
        contents = admitted.config.toVecPretty := by
  have h := consistent_of_inOrder hRead hAgree hRun
  have hReplaced (i : Fin n) (contents : ByteArray) (hMem : (i, contents) ∈ s.replaced) :
      ∃ admitted, s.puts i = .returned (.ok admitted) ∧
        contents = admitted.config.toVecPretty := by
    obtain ⟨admitted, hSaved, hContents⟩ := h.replaced i contents hMem
    obtain ⟨answer, hAnswer⟩ := hReturned i
    rw [hAnswer] at hSaved ⊢
    cases answer with
    | ok other => exact ⟨other, rfl, Option.some.inj hSaved ▸ hContents⟩
    | error error => exact absurd hSaved nofun
  refine ⟨?_, ?_, ?_, hReplaced⟩
  · obtain hAgree | ⟨i, hHolds⟩ := h.current
    · exact hAgree
    · obtain ⟨answer, hAnswer⟩ := hReturned i
      rw [hAnswer] at hHolds
      exact hHolds.elim
  · obtain hServed | ⟨hNone, hMemory⟩ := h.served
    · exact .inl hServed
    · refine .inr ⟨hNone, h.untouched ?_, hMemory⟩
      refine List.eq_nil_iff_forall_not_mem.mpr fun ⟨i, contents⟩ hMem => ?_
      obtain ⟨admitted, hOk, -⟩ := hReplaced i contents hMem
      exact hNone i admitted hOk
  · intro i error hError
    constructor
    · intro hMem
      obtain ⟨admitted, hOk⟩ := h.assigned i hMem
      exact absurd (hError.symm.trans hOk) nofun
    · intro contents hMem
      obtain ⟨admitted, hOk, -⟩ := hReplaced i contents hMem
      exact absurd (hError.symm.trans hOk) nofun

def twoSaves (i : Fin 2) : HostConfig :=
  { HostConfig.default with endpoint.host := if i = 0 then "10.0.0.1" else "10.0.0.2" }

def twoAdmitted (i : Fin 2) : Admitted (twoSaves i) where
  config := twoSaves i
  trimmed := by revert i; decide +kernel
  valid := by revert i; decide +kernel

/-- Reads back the texts of the given configurations. -/
def readerOf (configs : List HostConfig) (contents : String) : Option HostConfig :=
  configs.find? fun config => config.toJson.pretty = contents

theorem twoSaves_pretty_ne : (twoSaves 0).toJson.pretty ≠ (twoSaves 1).toJson.pretty := by
  intro h
  have hChars := congrArg (List.take 42) (String.ofList_injective h)
  exact absurd hChars (by decide +kernel)

def readTwo : String → Option HostConfig := readerOf [twoSaves 0, twoSaves 1]

theorem readTwo_pretty (i : Fin 2) (admitted : Admitted (twoSaves i)) :
    readTwo admitted.config.toJson.pretty = some admitted.config := by
  have hConfig : admitted.config = twoSaves i :=
    admitted.trimmed.trans (twoAdmitted i).trimmed.symm
  rw [hConfig, readTwo, readerOf]
  have hIndex : i = 0 ∨ i = 1 := by omega
  rcases hIndex with rfl | rfl
  · rw [List.find?_cons_of_pos (by rw [decide_eq_true_eq])]
  · rw [List.find?_cons_of_neg (by rw [decide_eq_true_eq]; exact twoSaves_pretty_ne),
      List.find?_cons_of_pos (by rw [decide_eq_true_eq])]

/-- Each handler writes and replaces the file, the second one last. -/
def replacements : List (Fin 2 × Attempt) :=
  [0, 0, 1, 1, 0, 0, 1, 1].map fun i => (i, .done)

def twoBrowsers : Machine (Storage twoSaves) (Fin 2 × Attempt) :=
  saves twoSaves true none none .default

theorem twoBrowsers_replacements : twoBrowsers.run twoBrowsers.init replacements =
    { temporary := none, stored := some (twoSaves 1).toVecPretty, memory := .default,
      puts := fun i => .assigning (twoAdmitted i),
      replaced := [(1, (twoSaves 1).toVecPretty), (0, (twoSaves 0).toVecPretty)],
      assigned := [] } := by
  simp only [Machine.run, twoBrowsers, saves, replacements, putConfig,
    admitBody_admitted (twoAdmitted _), Storage.become, List.map_cons, List.map_nil, List.foldl_cons,
    List.foldl_nil, Function.update_self, Function.update_idem, Function.update_of_ne, ne_eq,
    Fin.isValue, zero_ne_one, one_ne_zero, not_false_eq_true, Bool.not_true, Bool.false_eq_true,
    if_false, Storage.mk.injEq, true_and, and_true]
  refine ⟨rfl, ?_, rfl⟩
  funext i
  match i with
  | 0 => rfl
  | 1 => rfl

theorem twoBrowsers_inOrder : twoBrowsers.Reach InOrder
    (twoBrowsers.run twoBrowsers.init replacements) := by
  apply Machine.Reach.run .init
  simp [twoBrowsers, saves, replacements, putConfig, admitBody_admitted (twoAdmitted _),
    Storage.become, Machine.Meets, InOrder]

/-- Both have replaced the file; the first one assigns first. -/
theorem saves_stay_consistent_overlapping : ∃ s : Storage twoSaves,
    twoBrowsers.Reach InOrder s ∧ loadHostConfig readTwo s.stored = s.memory ∧
      s.memory = twoSaves 1 := by
  have hFirst := Machine.Reach.step (0, .done) twoBrowsers_inOrder (by
    rw [twoBrowsers_replacements]
    exact ⟨1, rfl⟩)
  have hSecond := Machine.Reach.step (1, .done) hFirst (by
    rw [twoBrowsers_replacements]
    exact ⟨1, rfl⟩)
  rw [twoBrowsers_replacements] at hSecond
  refine ⟨_, hSecond, ?_, rfl⟩
  refine (saves_stay_consistent readTwo_pretty rfl hSecond ?_).1
  intro i
  match i with
  | 0 => exact ⟨_, rfl⟩
  | 1 => exact ⟨_, rfl⟩

/-- Both have replaced the file; the one that replaced it last assigns first. -/
theorem crossed_saves_disagree :
    (∀ i (admitted : Admitted (twoSaves i)),
      readTwo admitted.config.toJson.pretty = some admitted.config) ∧
    loadHostConfig readTwo twoBrowsers.init.stored = twoBrowsers.init.memory ∧
    ∃ s : Storage twoSaves, twoBrowsers.Reachable s ∧
      (∀ i, s.puts i = .returned (.ok (twoAdmitted i))) ∧
      loadHostConfig readTwo s.stored ≠ s.memory := by
  refine ⟨readTwo_pretty, rfl, ?_⟩
  have hFirst := Machine.Reach.step (1, .done) twoBrowsers_inOrder.reachable trivial
  have hSecond := Machine.Reach.step (0, .done) hFirst trivial
  rw [twoBrowsers_replacements] at hSecond
  refine ⟨_, hSecond, ?_, ?_⟩
  · intro i
    match i with
    | 0 => rfl
    | 1 => rfl
  · change loadHostConfig readTwo (some (twoAdmitted 1).config.toVecPretty) ≠ twoSaves 0
    rw [loadHostConfig_stored (twoAdmitted 1) (readTwo_pretty 1 _)]
    decide +kernel

end Fetchline.Host
