import Fetchline.Firmware.Roster

/-! # Handing a session over

Takeovers under every schedule: no task is stranded in `claim`, and what it takes
for a takeover to wait until the superseded transport listens again.
-/

namespace Fetchline

open Effects Sync Transition

structure Orderly (r : Roster) : Prop where
  epoch : r.ownership.current.epoch.value = UInt64.ofNat r.ownership.changes.sent
  announced : ∀ g, r.ownership.changes.value = some g → r.ownership.current.epoch.value = g
  subscribing : ∀ t g, r.roles t = .subscribing g → 0 < r.ownership.changes.sent
  session : ∀ t session, r.roles t = .owner session →
    session.generation = UInt64.ofNat session.seen ∧ session.seen ≤ r.ownership.changes.sent
  active : r.ownership.current.active = true → ∃ t, lastHolder r.handovers = some t ∧
    (r.roles t).generation = some r.ownership.current.epoch.value
  -- Nobody has listened since the last replacing grant, and it is the last entry.
  required : r.ownership.current.listenerRequired = true →
    ∃ w g earlier u, r.handovers = .granted w g true :: earlier ∧ lastHolder earlier = some u ∧
      u ≠ w ∧ (r.roles w).away = true ∧ (r.roles u).away = true
  receiver : ∀ t seen, r.roles t = .waiting seen → seen ≤ r.ownership.listenerChanges.sent
  notified : ∀ t seen, r.roles t = .waiting seen →
    ¬ r.ownership.listenerChanges.Unread seen → r.ownership.current.listenerRequired = true
  single : ∀ t u seen seen', r.roles t = .waiting seen → r.roles u = .waiting seen' → t = u

theorem orderly_init : Orderly (({} : System).roster) where
  epoch := rfl
  announced := nofun
  subscribing := nofun
  session := nofun
  active := nofun
  required := nofun
  receiver := nofun
  notified := nofun
  single := nofun

theorem Orderly.away_assign {r : Roster} {t u : TaskId} {role : Role} (hAway : role.away = true)
    (hu : (r.roles u).away = true) : ((r.assign t role).roles u).away = true := by
  rcases eq_or_ne u t with rfl | hut
  · rw [Roster.assign_self, hAway]
  · rw [Roster.assign_of_ne hut, hu]

theorem Orderly.assign {r : Roster} {t : TaskId} {role : Role} (h : Orderly r)
    (hAway : role.away = true)
    (hGeneration : ∀ g, (r.roles t).generation = some g → role.generation = some g)
    (hSubscribing : ∀ g, role ≠ .subscribing g)
    (hSession : ∀ session, role = .owner session →
      session.generation = UInt64.ofNat session.seen ∧ session.seen ≤ r.ownership.changes.sent) :
    Orderly (r.assign t role) := by
  have hWaiting {u : TaskId} {seen : Nat} (hu : (r.assign t role).roles u = .waiting seen) :
      r.roles u = .waiting seen := by
    apply Roster.role_before hu
    rintro rfl
    cases hAway
  refine ⟨h.epoch, h.announced, ?_, ?_, ?_, ?_, ?_, ?_, ?_⟩
  · intro u g hu
    exact h.subscribing u g (Roster.role_before hu (hSubscribing g).symm)
  · intro u session hu
    obtain ⟨-, hRole⟩ | ⟨-, hBefore⟩ := Roster.role_cases hu
    · exact hSession session hRole
    · exact h.session u session hBefore
  · intro hActive
    obtain ⟨u, hLast, hu⟩ := h.active hActive
    refine ⟨u, hLast, ?_⟩
    rcases eq_or_ne u t with rfl | hut
    · rw [Roster.assign_self]
      exact hGeneration _ hu
    · rw [Roster.assign_of_ne hut]
      exact hu
  · intro hRequired
    obtain ⟨w, g, earlier, u, hLog, hLast, hne, hw, hu⟩ := h.required hRequired
    exact ⟨w, g, earlier, u, hLog, hLast, hne, away_assign hAway hw, away_assign hAway hu⟩
  · intro u seen hu
    exact h.receiver u seen (hWaiting hu)
  · intro u seen hu
    exact h.notified u seen (hWaiting hu)
  · intro u v seen seen' hu hv
    exact h.single u v seen seen' (hWaiting hu) (hWaiting hv)

theorem Orderly.listen {r : Roster} {t : TaskId} (h : Orderly r) (ht : r.roles t = .retiring) :
    Orderly (Roster.assign ⟨r.ownership.listenerReady, r.roles, .listening t :: r.handovers⟩ t
      .vacant) := by
  refine ⟨?_, ?_, ?_, ?_, ?_, ?_, ?_, ?_, ?_⟩
  · simpa [Roster.assign] using h.epoch
  · simpa [Roster.assign] using h.announced
  · intro u g hu
    simpa [Roster.assign] using h.subscribing u g (Roster.role_before hu (by simp))
  · intro u session hu
    simpa [Roster.assign] using h.session u session (Roster.role_before hu (by simp))
  · intro hActive
    obtain ⟨u, hLast, hu⟩ := h.active (by simpa [Roster.assign] using hActive)
    refine ⟨u, hLast, ?_⟩
    have hut : u ≠ t := by
      rintro rfl
      rw [ht] at hu
      cases hu
    rw [Roster.assign_of_ne hut]
    simpa [Roster.assign] using hu
  · intro hRequired
    simp [Roster.assign] at hRequired
  · intro u seen hu
    have hSeen := h.receiver u seen (Roster.role_before hu (by simp))
    change seen ≤ r.ownership.listenerReady.listenerChanges.sent
    rw [ControllerOwnership.listenerReady_sent]
    omega
  · intro u seen hu hUnread
    -- Whoever waits for a required listener is notified by this very call.
    exfalso
    have hWaiting := Roster.role_before hu (by simp)
    have hSeen := h.receiver u seen hWaiting
    simp only [Watch.Unread, Roster.assign, ControllerOwnership.listenerReady_sent,
      Nat.not_lt] at hUnread
    have hRequired := h.notified u seen hWaiting (by simp only [Watch.Unread]; omega)
    rw [hRequired, if_pos rfl] at hUnread
    omega
  · intro u v seen seen' hu hv
    exact h.single u v seen seen' (Roster.role_before hu (by simp)) (Roster.role_before hv (by simp))

theorem Orderly.grant {r : Roster} {t : TaskId} {g : UInt64} {replacesActive : Bool}
    {ownership : ControllerOwnership} (h : Orderly r) (ht : (r.roles t).away = false)
    (hClaim : r.ownership.attemptClaim = (some (g, replacesActive), ownership)) :
    Orderly (Roster.assign ⟨ownership, r.roles, .granted t g replacesActive :: r.handovers⟩ t
      (.subscribing g)) := by
  obtain ⟨hRequired, rfl, rfl, rfl⟩ := ControllerOwnership.attemptClaim_some hClaim
  have hNext : r.ownership.current.epoch.value + 1 =
      UInt64.ofNat (r.ownership.changes.sent + 1) := by
    rw [h.epoch, UInt64.ofNat_add]
    rfl
  refine ⟨hNext, ?_, ?_, ?_, ?_, ?_, ?_, ?_, ?_⟩
  · intro g hg
    exact Option.some.inj hg
  · intro u g _
    exact Nat.succ_pos _
  · intro u session hu
    obtain ⟨hGeneration, hSeen⟩ := h.session u session (Roster.role_before hu (by simp))
    exact ⟨hGeneration, Nat.le_succ_of_le hSeen⟩
  · intro _
    refine ⟨t, rfl, ?_⟩
    rw [Roster.assign_self]
    rfl
  · intro hActive
    have hActive : r.ownership.current.active = true := hActive
    obtain ⟨u, hLast, hu⟩ := h.active hActive
    have hut : u ≠ t := by
      rintro rfl
      rw [Role.away_of_generation hu] at ht
      cases ht
    refine ⟨t, r.ownership.current.epoch.value + 1, r.handovers, u, ?_, hLast, hut, ?_, ?_⟩
    · rw [← hActive]
      rfl
    · rw [Roster.assign_self]
      rfl
    · rw [Roster.assign_of_ne hut]
      exact Role.away_of_generation hu
  · intro u seen hu
    exact h.receiver u seen (Roster.role_before hu (by simp))
  · intro u seen hu hUnread
    have hOld := h.notified u seen (Roster.role_before hu (by simp)) hUnread
    rw [hRequired] at hOld
    cases hOld
  · intro u v seen seen' hu hv
    exact h.single u v seen seen' (Roster.role_before hu (by simp)) (Roster.role_before hv (by simp))

theorem eq_of_both_others : ∀ {t u v w : TaskId}, v ≠ w → t ≠ v → t ≠ w → u ≠ v → u ≠ w → t = u := by
  decide

theorem Orderly.refuse {r : Roster} {t : TaskId} {seen : Nat} {ownership : ControllerOwnership}
    (h : Orderly r) (ht : (r.roles t).away = false)
    (hClaim : r.ownership.attemptClaim = (none, ownership))
    (hSeen : seen ≤ r.ownership.listenerChanges.sent) :
    Orderly ({ r with ownership }.assign t (.waiting seen)) := by
  obtain ⟨hRequired, rfl⟩ := ControllerOwnership.attemptClaim_none hClaim
  obtain ⟨w, g, earlier, u, hLog, hLast, hne, hw, hu⟩ := h.required hRequired
  have hKeepsAway {v : TaskId} (hv : (r.roles v).away = true) :
      (r.assign t (.waiting seen)).roles v = r.roles v := by
    apply Roster.assign_of_ne
    rintro rfl
    rw [hv] at ht
    cases ht
  -- Both tasks of the last grant are away, so only the third one can wait.
  have hThird {v : TaskId} {seen' : Nat}
      (hv : (r.assign t (.waiting seen)).roles v = .waiting seen') : v ≠ u ∧ v ≠ w := by
    constructor
    · rintro rfl
      rw [← hKeepsAway hu, hv] at hu
      cases hu
    · rintro rfl
      rw [← hKeepsAway hw, hv] at hw
      cases hw
  refine ⟨h.epoch, h.announced, ?_, ?_, ?_, ?_, ?_, ?_, ?_⟩
  · intro v g hv
    exact h.subscribing v g (Roster.role_before hv (by simp))
  · intro v session hv
    exact h.session v session (Roster.role_before hv (by simp))
  · intro hActive
    obtain ⟨v, hHolder, hv⟩ := h.active hActive
    refine ⟨v, hHolder, ?_⟩
    rw [hKeepsAway (Role.away_of_generation hv)]
    exact hv
  · intro _
    refine ⟨w, g, earlier, u, hLog, hLast, hne, ?_, ?_⟩
    · rw [hKeepsAway hw]
      exact hw
    · rw [hKeepsAway hu]
      exact hu
  · intro v seen' hv
    obtain ⟨-, hRole⟩ | ⟨-, hBefore⟩ := Roster.role_cases hv
    · cases hRole
      exact hSeen
    · exact h.receiver v seen' hBefore
  · intro v seen' hv hUnread
    exact hRequired
  · intro v v' seen' seen'' hv hv'
    exact eq_of_both_others hne (hThird hv).1 (hThird hv).2 (hThird hv').1 (hThird hv').2

theorem Orderly.finish {r : Roster} {t : TaskId} {g : UInt64} (h : Orderly r)
    (ht : (r.roles t).generation = some g) :
    Orderly ({ r with ownership := r.ownership.release g }.assign t .retiring) := by
  have hEpoch : (r.ownership.release g).current.epoch = r.ownership.current.epoch :=
    ControllerAdmission.release_epoch _ _
  have hRequired : (r.ownership.release g).current.listenerRequired =
      r.ownership.current.listenerRequired := ControllerAdmission.release_listenerRequired _ _
  refine ⟨?_, ?_, ?_, ?_, ?_, ?_, ?_, ?_, ?_⟩
  · exact (congrArg ControllerEpoch.value hEpoch).trans h.epoch
  · intro g' hg'
    exact (congrArg ControllerEpoch.value hEpoch).trans (h.announced g' hg')
  · intro u g' hu
    exact h.subscribing u g' (Roster.role_before hu (by simp))
  · intro u session hu
    exact h.session u session (Roster.role_before hu (by simp))
  · intro hStill
    -- The bit is still set, so the generation released was not the current one.
    obtain ⟨hActive, hStale⟩ : r.ownership.current.active = true ∧
        r.ownership.current.epoch.value ≠ g := by
      have hStill : (r.ownership.current.release g).active = true := hStill
      rwa [ControllerAdmission.release_active, Bool.and_eq_true, bne_iff_ne] at hStill
    obtain ⟨u, hLast, hu⟩ := h.active hActive
    refine ⟨u, hLast, ?_⟩
    have hut : u ≠ t := by
      rintro rfl
      exact hStale (Option.some.inj (hu.symm.trans ht))
    rw [Roster.assign_of_ne hut]
    exact hu.trans (congrArg (some ∘ ControllerEpoch.value) hEpoch.symm)
  · intro hStill
    obtain ⟨w, g', earlier, u, hLog, hLast, hne, hw, hu⟩ := h.required (hRequired.symm.trans hStill)
    exact ⟨w, g', earlier, u, hLog, hLast, hne, away_assign rfl hw, away_assign rfl hu⟩
  · intro u seen hu
    exact h.receiver u seen (Roster.role_before hu (by simp))
  · intro u seen hu hUnread
    exact hRequired.trans (h.notified u seen (Roster.role_before hu (by simp)) hUnread)
  · intro u v seen seen' hu hv
    exact h.single u v seen seen' (Roster.role_before hu (by simp)) (Roster.role_before hv (by simp))

theorem Orderly.move {t : TaskId} {r r' : Roster} {listens : Bool} (h : Orderly r)
    (hMove : Move t r listens r') : Orderly r' := by
  cases hMove with
  | stay => exact h
  | retire ht => exact h.assign rfl (by simp [ht, Role.generation]) nofun nofun
  | listen ht => exact h.listen ht
  | grant ht hClaim => exact h.grant ht hClaim
  | refuse ht hClaim hSeen => exact h.refuse ht hClaim hSeen
  | @subscribe g ht hValue =>
    refine h.assign rfl (by simp [ht, Role.generation]) nofun ?_
    rintro session ⟨⟩
    exact ⟨(h.announced g hValue).symm.trans h.epoch, Nat.le_refl _⟩
  | lose ht => exact h.assign rfl (by simp [ht, Role.generation]) nofun nofun
  | finish ht => exact h.finish ht

theorem orderly {fromSlice : String → Option JsonRpcRequest} {ok : System → Action → Prop}
    {s : System} (h : (firmware fromSlice).Reach ok s) : Orderly s.roster := by
  refine firmware_invariant (fun s => Orderly s.roster) orderly_init ?_ h
  intro s a s' _ hInv _ hStep
  obtain ⟨t, listens, hMove, -⟩ := System.roster_step hStep
  exact hInv.move hMove

/-- The task superseded by the last replacing grant, until it listens again. -/
def unreturned : List Handover → Option TaskId
  | [] => none
  | .granted _ _ true :: earlier => lastHolder earlier
  | .granted _ _ false :: earlier => unreturned earlier
  | .listening t :: earlier => (unreturned earlier).filter (· ≠ t)

/-- The session of a task from its grant until it leaves its command loop; one
that has no receiver yet has seen no change. -/
def Phase.session : Phase → Option Session
  | .subscribing generation => some ⟨generation, 0⟩
  | .reading session | .commanding session _ | .responding session _ => some session
  | _ => none

theorem Orderly.unread_of_stale {s : System} (h : Orderly s.roster) {t : TaskId} {session : Session}
    (ht : (s.controllers t).session = some session)
    (hStale : s.ownership.isCurrent session.generation = false) :
    s.ownership.changes.Unread session.seen := by
  have hOwner (hRole : (s.controllers t).role = .owner session) :
      s.ownership.changes.Unread session.seen := by
    obtain ⟨hGeneration, hSeen⟩ := h.session t session hRole
    by_contra hRead
    have hSame := Watch.not_unread hRead hSeen
    have hCurrent : s.ownership.isCurrent session.generation = true := by
      rw [ControllerOwnership.isCurrent_eq_true_iff, hGeneration, hSame]
      exact h.epoch
    rw [hCurrent] at hStale
    cases hStale
  cases hPhase : s.controllers t <;> rw [hPhase] at ht <;> cases ht
  case subscribing generation =>
    exact h.subscribing t generation (congrArg Phase.role hPhase)
  all_goals exact hOwner (congrArg Phase.role hPhase)

theorem Orderly.unreturned_of_waiting {s : System} (h : Orderly s.roster) {t : TaskId} {seen : Nat}
    (ht : s.controllers t = .claiming seen) :
    s.ownership.listenerChanges.Unread seen ∨
      (s.ownership.current.listenerRequired = true ∧ ∃ u, u ≠ t ∧
        unreturned s.handovers = some u ∧ ∀ seen', s.controllers u ≠ .claiming seen') := by
  by_cases hUnread : s.ownership.listenerChanges.Unread seen
  · exact .inl hUnread
  right
  have hRequired := h.notified t seen (congrArg Phase.role ht) hUnread
  obtain ⟨w, g, earlier, u, hLog, hLast, -, -, hu⟩ := h.required hRequired
  have hAway : (s.controllers u).role.away = true := hu
  refine ⟨hRequired, u, ?_, ?_, ?_⟩
  · rintro rfl
    rw [ht] at hAway
    cases hAway
  · change s.handovers = _ at hLog
    rw [hLog]
    exact hLast
  · intro seen' hClaiming
    rw [hClaiming] at hAway
    cases hAway

theorem no_controller_is_stranded (fromSlice : String → Option JsonRpcRequest) (s : System)
    (hReach : (firmware fromSlice).Reachable s) :
    (∀ t session, (s.controllers t).session = some session →
      s.ownership.isCurrent session.generation = false →
      s.ownership.changes.Unread session.seen) ∧
    (∀ t seen, s.controllers t = .claiming seen →
      s.ownership.listenerChanges.Unread seen ∨
        (s.ownership.current.listenerRequired = true ∧ ∃ u, u ≠ t ∧
          unreturned s.handovers = some u ∧ ∀ seen', s.controllers u ≠ .claiming seen')) ∧
    (∀ t u seen seen', s.controllers t = .claiming seen → s.controllers u = .claiming seen' →
      t = u) ∧
    ∃ t, ∀ seen, s.controllers t ≠ .claiming seen := by
  have h : Orderly s.roster := orderly hReach
  have hSingle (t u : TaskId) (seen seen' : Nat) (ht : s.controllers t = .claiming seen)
      (hu : s.controllers u = .claiming seen') : t = u :=
    h.single t u seen seen' (congrArg Phase.role ht) (congrArg Phase.role hu)
  refine ⟨fun t session => h.unread_of_stale, fun t seen => h.unreturned_of_waiting, hSingle, ?_⟩
  by_contra hAll
  push Not at hAll
  obtain ⟨seen₀, h₀⟩ := hAll 0
  obtain ⟨seen₁, h₁⟩ := hAll 1
  have hSame := hSingle 0 1 seen₀ seen₁ h₀ h₁
  cases hSame

theorem no_controller_is_stranded_third_task :
    let M := firmware fun _ => none
    let s := M.run M.init (turn (.controller 2) [.done, .done, .pending] ++
      turn (.controller 0) [.done, .done, .done, .pending, .pending] ++
      turn (.controller 1) [.done, .done, .done, .pending, .pending] ++
      turn (.controller 2) [.done, .pending])
    s.ownership.listenerChanges.Unread 0 ∨
      (s.ownership.current.listenerRequired = true ∧ ∃ u, u ≠ 2 ∧
        unreturned s.handovers = some u ∧ ∀ seen', s.controllers u ≠ .claiming seen') :=
  (no_controller_is_stranded _ _ (Machine.reachable_run _)).2.1 2 0 rfl

/-- A `listener_ready` call that finds `listener_required` set is made by the task
that the last replacing grant superseded. -/
def SupersededListensFirst (s : System) (a : Action) : Prop :=
  ∀ t, s.listens a = some t → s.ownership.current.listenerRequired = true →
    lastSuperseded s.handovers = some t

instance (s : System) (a : Action) : Decidable (SupersededListensFirst s a) := by
  unfold SupersededListensFirst
  infer_instance

/-- The bit stands for the one task that has not come back. -/
structure Serialized (r : Roster) : Prop where
  pending : ∀ u, owesListener u r.handovers = true →
    r.ownership.current.listenerRequired = true ∧ lastSuperseded r.handovers = some u
  settled : ∀ later earlier t g, r.handovers = later ++ .granted t g true :: earlier →
    ∀ u, owesListener u earlier = false

theorem Serialized.of_cons {r : Roster} {e : Handover} {earlier : List Handover}
    (hLog : r.handovers = e :: earlier)
    (hPending : ∀ u, owesListener u r.handovers = true →
      r.ownership.current.listenerRequired = true ∧ lastSuperseded r.handovers = some u)
    (hSettled : ∀ later earlier' t g, earlier = later ++ .granted t g true :: earlier' →
      ∀ u, owesListener u earlier' = false)
    (hNew : ∀ t g, e = .granted t g true → ∀ u, owesListener u earlier = false) :
    Serialized r := by
  refine ⟨hPending, ?_⟩
  intro later earlier' t g hSplit
  rw [hLog] at hSplit
  cases later with
  | nil =>
    obtain ⟨rfl, rfl⟩ := List.cons.inj hSplit
    exact hNew t g rfl
  | cons e' later =>
    obtain ⟨-, hTail⟩ := List.cons.inj hSplit
    exact hSettled later earlier' t g hTail

theorem Serialized.move {r r' : Roster} {t : TaskId} {listens : Bool} (h : Serialized r)
    (hMove : Move t r listens r')
    (hListens : listens = true → r.ownership.current.listenerRequired = true →
      lastSuperseded r.handovers = some t) : Serialized r' := by
  cases hMove with
  | stay => exact h
  | retire => exact ⟨h.pending, h.settled⟩
  | listen =>
    refine .of_cons rfl ?_ h.settled nofun
    intro u hu
    -- Whoever still owes was the superseded task, and that is the caller.
    have hOwes : t ≠ u ∧ owesListener u r.handovers = true := by
      simpa [owesListener, Roster.assign] using hu
    obtain ⟨hRequired, hLast⟩ := h.pending u hOwes.2
    rw [hListens rfl hRequired] at hLast
    exact absurd (Option.some.inj hLast) hOwes.1
  | @grant g replacesActive ownership ht hClaim =>
    obtain ⟨hRequired, rfl, rfl, rfl⟩ := ControllerOwnership.attemptClaim_some hClaim
    have hClear (u : TaskId) : owesListener u r.handovers = false := by
      by_contra hu
      rw [(h.pending u (by simpa using hu)).1] at hRequired
      cases hRequired
    refine .of_cons rfl ?_ h.settled fun _ _ _ u => hClear u
    intro u hu
    simp only [Roster.assign, owesListener, hClear, Bool.or_false, Bool.and_eq_true,
      beq_iff_eq] at hu
    obtain ⟨hReplaces, hLast⟩ := hu
    refine ⟨hReplaces, ?_⟩
    simp only [Roster.assign, hReplaces, lastSuperseded]
    exact hLast
  | refuse ht hClaim =>
    obtain ⟨-, rfl⟩ := ControllerOwnership.attemptClaim_none hClaim
    exact ⟨h.pending, h.settled⟩
  | subscribe => exact ⟨h.pending, h.settled⟩
  | lose => exact ⟨h.pending, h.settled⟩
  | finish =>
    refine ⟨?_, h.settled⟩
    intro u hu
    obtain ⟨hRequired, hLast⟩ := h.pending u hu
    exact ⟨(ControllerAdmission.release_listenerRequired _ _).trans hRequired, hLast⟩

theorem serialized {fromSlice : String → Option JsonRpcRequest} {s : System}
    (h : (firmware fromSlice).Reach SupersededListensFirst s) : Serialized s.roster := by
  refine firmware_invariant (fun s => Serialized s.roster) ⟨nofun, ?_⟩ ?_ h
  · intro later earlier t g hSplit
    cases later <;> cases hSplit
  · intro s a s' _ hInv hOk hStep
    obtain ⟨t, listens, hMove, hListens⟩ := System.roster_step hStep
    exact hInv.move hMove fun hl => hOk t (hListens hl)

/-- When every pending listener is answered for by the task that owes it, each
replacing grant finds nobody owing, and at most one task ever owes. -/
theorem takeovers_wait_for_the_retiring_listener (fromSlice : String → Option JsonRpcRequest)
    (s : System) (hReach : (firmware fromSlice).Reach SupersededListensFirst s) :
    (∀ later earlier t g, s.handovers = later ++ .granted t g true :: earlier →
      ∀ u, owesListener u earlier = false) ∧
    (∀ u v, owesListener u s.handovers = true → owesListener v s.handovers = true → u = v) := by
  have h := serialized hReach
  refine ⟨h.settled, ?_⟩
  intro u v hu hv
  exact Option.some.inj ((h.pending u hu).2.symm.trans (h.pending v hv).2)

theorem takeovers_wait_for_the_retiring_listener_twice :
    let M := firmware fun _ => none
    let s := M.run M.init (turn (.controller 0) [.done, .done, .done, .pending, .pending] ++
      turn (.controller 1) [.done, .done, .done, .pending, .pending] ++
      turn (.controller 0) [.pending, .done, .done, .done, .done, .pending])
    s.handovers.take 1 = [.granted 0 3 true] ∧ ∀ u, owesListener u (s.handovers.drop 1) = false := by
  intro M s
  have hReach : M.Reach SupersededListensFirst s := Machine.Reach.run .init (by decide)
  have hLog : s.handovers = [] ++ .granted 0 3 true :: s.handovers.drop 1 := by decide
  exact ⟨by decide, (takeovers_wait_for_the_retiring_listener _ s hReach).1 _ _ _ _ hLog⟩

/-- The first task is still flushing its socket when a third task, coming back
from a failed handshake, clears the bit and supersedes the second one. -/
theorem takeover_overtakes_retiring_listener :
    ¬ ∀ (fromSlice : String → Option JsonRpcRequest) (s : System),
      (firmware fromSlice).Reachable s →
        ∀ later earlier t g, s.handovers = later ++ .granted t g true :: earlier →
          ∀ u, owesListener u earlier = false := by
  intro hAll
  let M := firmware fun _ => none
  let s := M.run M.init (turn (.controller 2) [.done, .done, .pending] ++
    turn (.controller 0) [.done, .done, .done, .pending, .pending] ++
    turn (.controller 1) [.done, .done, .done, .pending, .pending] ++
    turn (.controller 0) [.pending, .pending] ++
    turn (.controller 2) [.failed, .done, .done, .done, .done])
  have hLog : s.handovers = [] ++ .granted 2 3 true :: s.handovers.drop 1 := by decide
  have hSettled := hAll _ s (Machine.reachable_run _) _ _ _ _ hLog 0
  have hOwes : owesListener 0 (s.handovers.drop 1) = true := by decide
  rw [hOwes] at hSettled
  cases hSettled

end Fetchline
