import Fetchline.Library.Clocked
import Fetchline.Modes.Transaction

/-! # Connecting to the MCU

The two loops that try again for a while. Time passes in every effect; how much is up to the
environment, within what the deadlines and a lag of the host allow.
-/

namespace Fetchline.Host.Dialing

open Effects Effects.Program Modes

/-- Durations are in nanoseconds. -/
def milliseconds (n : Nat) : Nat := n * 1000000

def servoTimeout : Nat := milliseconds 750
def controllerConnectRetryWindow : Nat := milliseconds 3000
def controllerConnectRetryInterval : Nat := milliseconds 100

inductive DialOp where
  /-- `started.elapsed()`. -/
  | elapsed
  /-- `TcpStream::connect` under a timeout. -/
  | connect (limit : Nat)
  | setNodelay
  /-- `client_async` under a timeout. -/
  | openWebSocket (limit : Nat)
  | sleep (duration : Nat)
deriving DecidableEq

def DialOp.Reply : DialOp → Type
  | .elapsed => Nat
  | .connect _ | .openWebSocket _ => Timed Unit
  | .setNodelay => Except String Unit
  | .sleep _ => Unit

abbrev Dial := Program DialOp DialOp.Reply

def elapsed : Dial Nat := .call .elapsed .done

def connectTcp (limit : Nat) : Dial (Timed Unit) := .call (.connect limit) .done

def setNodelay : Dial (Except String Unit) := .call .setNodelay .done

def openWebSocket (limit : Nat) : Dial (Timed Unit) := .call (.openWebSocket limit) .done

def sleep (duration : Nat) : Dial Unit := .call (.sleep duration) .done

def connectControllerOnce (peer : String) : Dial (Except String Unit) := do
  let connected ← connectTcp servoTimeout
  match connected with
  | .timedOut => pure (.error s!"Timed out connecting to {peer}")
  | .failed error => pure (.error s!"Could not connect to {peer}: {error}")
  | .done _ =>
    let configured ← setNodelay
    match configured with
    | .error error =>
      pure (.error s!"Connected to {peer}, but could not configure TCP: {error}")
    | .ok _ =>
      let opened ← openWebSocket servoTimeout
      match opened with
      | .timedOut => pure (.error s!"Timed out opening the JSON-RPC WebSocket to {peer}")
      | .failed error =>
        pure (.error s!"Could not open the JSON-RPC WebSocket to {peer}: {error}")
      | .done _ => pure (.ok ())

def retryablePrefixes : List String := [
  "Timed out connecting",
  "Could not connect",
  "Timed out opening the JSON-RPC WebSocket",
  "Could not open the JSON-RPC WebSocket"]

def controllerConnectionIsRetryable (error : String) : Bool :=
  retryablePrefixes.any fun text => text.toList.isPrefixOf error.toList

/-- One round of the loop. The clock is only looked at after an error to try again for. -/
def connectControllerRound (peer : String) : Dial (Option (Except String Unit)) := do
  let attempt ← connectControllerOnce peer
  match attempt with
  | .ok _ => pure (some (.ok ()))
  | .error error =>
    if controllerConnectionIsRetryable error then
      let elapsed ← elapsed
      if elapsed < controllerConnectRetryWindow then
        sleep controllerConnectRetryInterval
        pure none
      else pure (some (.error error))
    else pure (some (.error error))

def connectController (peer : String) (rounds : Nat) : Dial (Option (Except String Unit)) :=
  repeated (connectControllerRound peer) rounds

def connectRawTunnelRound (peer : String) : Dial (Option (Except String Unit)) := do
  let elapsed ← elapsed
  if servoTimeout < elapsed then pure (some (.error s!"Timed out connecting to raw tunnel {peer}"))
  else
    let remaining := servoTimeout - elapsed
    let connected ← connectTcp (min remaining (milliseconds 100))
    match connected with
    | .done _ =>
      let configured ← setNodelay
      match configured with
      | .error error => pure (some (.error
          s!"Connected to raw tunnel {peer}, but could not configure TCP: {error}"))
      | .ok _ => pure (some (.ok ()))
    | .failed _ | .timedOut =>
      sleep (milliseconds 25)
      pure none

def connectRawTunnel (peer : String) (rounds : Nat) : Dial (Option (Except String Unit)) :=
  repeated (connectRawTunnelRound peer) rounds

/-- How long the effect may take by itself. -/
def DialOp.limit : DialOp → Nat
  | .connect limit | .openWebSocket limit => limit
  | .sleep duration => duration
  | .elapsed | .setNodelay => 0

variable {σ : Type}

/-- `now` is the time since the loop has begun. -/
structure Clock (H : Handler DialOp DialOp.Reply σ) (now : σ → Nat) (lag : Nat) : Prop where
  reads : ∀ s, (H s .elapsed).1 = now s
  onward : ∀ s e, now s ≤ now (H s e).2
  within : ∀ s e, now (H s e).2 ≤ now s + e.limit + lag
  sleeps : ∀ s duration, now s + duration ≤ now (H s (.sleep duration)).2

/-- From the given time on the MCU takes connections within so long, and the host can always
configure them. -/
structure Listening (H : Handler DialOp DialOp.Reply σ) (now : σ → Nat) (ready need : Nat) :
    Prop where
  connects : ∀ s limit, ready ≤ now s → need ≤ limit → (H s (.connect limit)).1 = Timed.done ()
  configures : ∀ s, (H s .setNodelay).1 = Except.ok ()

/-- It also opens a WebSocket on them within that time. -/
structure ServesWebSockets (H : Handler DialOp DialOp.Reply σ) (now : σ → Nat) (ready need : Nat) :
    Prop extends Listening H now ready need where
  opens : ∀ s limit, ready ≤ now s → need ≤ limit →
    (H s (.openWebSocket limit)).1 = Timed.done ()

variable {H : Handler DialOp DialOp.Reply σ} {now : σ → Nat} {lag : Nat}

theorem Clock.takes (hClock : Clock H now lag) (e : DialOp) :
    Takes H now (.call e .done) (e.limit + lag) :=
  fun s => ⟨hClock.onward s e, Nat.le_trans (hClock.within s e) (Nat.le_of_eq (Nat.add_assoc _ _ _))⟩

theorem connectControllerOnce_takes (hClock : Clock H now lag) (peer : String) :
    Takes H now (connectControllerOnce peer) (2 * servoTimeout + 3 * lag) := by
  refine Takes.mono ((hClock.takes (.connect servoTimeout)).bind fun connected =>
    (?_ : Takes H now _ (0 + lag + (servoTimeout + lag + 0)))) ?_
  · cases connected with
    | done =>
      refine (hClock.takes .setNodelay).bind fun configured => ?_
      cases configured with
      | error error => exact takes_pure _ _
      | ok =>
        refine (hClock.takes (.openWebSocket servoTimeout)).bind fun opened => ?_
        cases opened <;> exact takes_pure _ _
    | _ => exact takes_pure _ _
  · change servoTimeout + lag + _ ≤ _
    omega

theorem retryable_of_start {text error : String} (hText : text ∈ retryablePrefixes)
    (h : text.toList <+: error.toList) : controllerConnectionIsRetryable error = true := by
  rw [controllerConnectionIsRetryable, List.any_eq_true]
  exact ⟨text, hText, List.isPrefixOf_iff_prefix.mpr h⟩

/-- Only what cannot be set up on a connection is not tried again. -/
theorem connectControllerOnce_retryable {peer error : String} {s : σ}
    (hConfigures : ∀ s, (H s .setNodelay).1 = Except.ok ())
    (h : ((connectControllerOnce peer).run H s).1 = .error error) :
    controllerConnectionIsRetryable error = true := by
  have hMember (n : Nat) (hn : n < 4) : retryablePrefixes[n] ∈ retryablePrefixes :=
    List.getElem_mem _
  rw [connectControllerOnce, run_bind] at h
  cases hConnected : ((connectTcp servoTimeout).run H s).1 with
  | timedOut =>
    rw [hConnected] at h
    cases h
    exact retryable_of_start (hMember 0 (by decide)) (prefix_append ⟨_, rfl⟩ _)
  | failed refused =>
    rw [hConnected] at h
    cases h
    exact retryable_of_start (hMember 1 (by decide))
      (prefix_append (prefix_append (prefix_append ⟨_, rfl⟩ _) _) _)
  | done =>
    rw [hConnected] at h
    have hConfigured (s : σ) : (setNodelay.run H s).1 = .ok () := hConfigures s
    simp only [run_bind, hConfigured] at h
    cases hOpened : ((openWebSocket servoTimeout).run H
        (setNodelay.run H ((connectTcp servoTimeout).run H s).2).2).1 with
    | timedOut =>
      rw [hOpened] at h
      cases h
      exact retryable_of_start (hMember 2 (by decide)) (prefix_append ⟨_, rfl⟩ _)
    | failed refused =>
      rw [hOpened] at h
      cases h
      exact retryable_of_start (hMember 3 (by decide))
        (prefix_append (prefix_append (prefix_append ⟨_, rfl⟩ _) _) _)
    | done =>
      rw [hOpened] at h
      cases h

theorem connectControllerOnce_ready (hClock : Clock H now lag) {ready need : Nat}
    (hServes : ServesWebSockets H now ready need) (hNeed : need ≤ servoTimeout) (peer : String) {s : σ}
    (hReady : ready ≤ now s) : ((connectControllerOnce peer).run H s).1 = .ok () := by
  have hConnected : ((connectTcp servoTimeout).run H s).1 = .done () :=
    hServes.connects s _ hReady hNeed
  have hConfigured (s : σ) : (setNodelay.run H s).1 = .ok () := hServes.configures s
  have hLater : ready ≤ now (setNodelay.run H ((connectTcp servoTimeout).run H s).2).2 :=
    hReady.trans ((hClock.onward _ _).trans (hClock.onward _ _))
  have hOpened : ((openWebSocket servoTimeout).run H
      (setNodelay.run H ((connectTcp servoTimeout).run H s).2).2).1 = .done () :=
    hServes.opens _ _ hLater hNeed
  rw [connectControllerOnce, run_bind, hConnected]
  simp only [run_bind, hConfigured, hOpened]
  rfl

theorem connectControllerRound_run (hClock : Clock H now lag) (peer : String) (s : σ) :
    (connectControllerRound peer).run H s =
      match (connectControllerOnce peer).run H s with
      | (.ok _, s₁) => (some (.ok ()), s₁)
      | (.error error, s₁) =>
        if controllerConnectionIsRetryable error then
          if now s₁ < controllerConnectRetryWindow then
            (none, (H (H s₁ .elapsed).2 (.sleep controllerConnectRetryInterval)).2)
          else (some (.error error), (H s₁ .elapsed).2)
        else (some (.error error), s₁) := by
  rw [connectControllerRound, run_bind]
  generalize (connectControllerOnce peer).run H s = attempt
  obtain ⟨error | _, s₁⟩ := attempt
  · dsimp only
    split
    · have hElapsed : (elapsed.run H s₁).1 = now s₁ := hClock.reads s₁
      rw [run_bind, hElapsed]
      split
      · rfl
      · rfl
    · rfl
  · rfl

/-- The rounds that can still follow. -/
def roundsLeft (now : σ → Nat) (s : σ) : Nat :=
  (controllerConnectRetryWindow + controllerConnectRetryInterval - 1 - now s) /
    controllerConnectRetryInterval

theorem roundsLeft_less {s s' : σ} (hEarly : now s < controllerConnectRetryWindow)
    (hLater : now s + controllerConnectRetryInterval ≤ now s') :
    roundsLeft now s' < roundsLeft now s := by
  simp only [roundsLeft, controllerConnectRetryWindow, controllerConnectRetryInterval,
    milliseconds] at *
  omega

theorem roundsLeft_start {s : σ} (hStart : now s = 0) : roundsLeft now s < 31 := by
  simp only [roundsLeft, controllerConnectRetryWindow, controllerConnectRetryInterval,
    milliseconds, hStart]
  omega

/-- The latest that a round can begin. -/
def latestRound (lag : Nat) : Nat :=
  controllerConnectRetryWindow + controllerConnectRetryInterval + 2 * lag

theorem connectController_run (hClock : Clock H now lag) (peer : String) {s : σ}
    (hStart : now s = 0) :
    ∃ result s', (connectController peer 31).run H s = (some result, s') ∧
      now s' ≤ latestRound lag + 2 * servoTimeout + 4 * lag ∧
      ∀ error, result = .error error → controllerConnectionIsRetryable error = true →
        controllerConnectRetryWindow ≤ now s' := by
  have hRound (s : σ) (hInv : now s ≤ latestRound lag) :
      Progress (fun s => now s ≤ latestRound lag) (roundsLeft now)
        (fun (result : Except String Unit) s' =>
          now s' ≤ latestRound lag + 2 * servoTimeout + 4 * lag ∧
          ∀ error, result = .error error → controllerConnectionIsRetryable error = true →
            controllerConnectRetryWindow ≤ now s')
        s ((connectControllerRound peer).run H s) := by
    obtain ⟨hOnward, hTakes⟩ := connectControllerOnce_takes hClock peer s
    rw [connectControllerRound_run hClock]
    generalize (connectControllerOnce peer).run H s = attempt at hOnward hTakes
    obtain ⟨error | _, s₁⟩ := attempt
    · dsimp only at hOnward hTakes ⊢
      have hElapsed := hClock.onward s₁ .elapsed
      have hElapsed' : now (H s₁ .elapsed).2 ≤ now s₁ + 0 + lag := hClock.within s₁ .elapsed
      split
      · split
        · rename_i hEarly
          have hSlept := hClock.sleeps (H s₁ .elapsed).2 controllerConnectRetryInterval
          have hSlept' : now (H (H s₁ .elapsed).2 (.sleep controllerConnectRetryInterval)).2 ≤
              now (H s₁ .elapsed).2 + controllerConnectRetryInterval + lag :=
            hClock.within (H s₁ .elapsed).2 (.sleep controllerConnectRetryInterval)
          refine ⟨?_, roundsLeft_less (by omega) (by omega)⟩
          rw [latestRound]
          omega
        · rename_i hLate
          exact ⟨by omega, fun _ _ _ => (Nat.not_lt.mp hLate).trans hElapsed⟩
      · rename_i hFinal
        refine ⟨by omega, ?_⟩
        rintro _ ⟨rfl⟩ hRetryable
        exact absurd hRetryable hFinal
    · exact ⟨by dsimp only at hTakes ⊢; omega, by rintro _ ⟨⟩⟩
  exact repeated_ends hRound (by rw [hStart]; exact Nat.zero_le _) (roundsLeft_start hStart)

theorem connectController_reaches (hClock : Clock H now lag) {ready need : Nat}
    (hServes : ServesWebSockets H now ready need) (hNeed : need ≤ servoTimeout)
    (hSoon : ready + 2 * servoTimeout + 3 * lag < controllerConnectRetryWindow) (peer : String)
    {s : σ} (hStart : now s = 0) :
    ∃ s', (connectController peer 31).run H s = (some (.ok ()), s') := by
  have hRound (s : σ) : Progress (fun _ => True) (roundsLeft now)
      (fun (result : Except String Unit) _ => result = .ok ()) s
      ((connectControllerRound peer).run H s) := by
    obtain ⟨hOnward, hTakes⟩ := connectControllerOnce_takes hClock peer s
    have hRetryable (error : String)
        (hError : ((connectControllerOnce peer).run H s).1 = .error error) :=
      connectControllerOnce_retryable hServes.configures hError
    have hReached := connectControllerOnce_ready hClock hServes hNeed peer (s := s)
    rw [connectControllerRound_run hClock]
    generalize (connectControllerOnce peer).run H s = attempt at hOnward hTakes hRetryable hReached
    obtain ⟨error | _, s₁⟩ := attempt
    · dsimp only at hOnward hTakes ⊢
      have hBefore : now s < ready := by
        by_contra hLate
        cases hReached (Nat.not_lt.mp hLate)
      have hElapsed := hClock.onward s₁ .elapsed
      have hSlept := hClock.sleeps (H s₁ .elapsed).2 controllerConnectRetryInterval
      rw [if_pos (hRetryable error rfl), if_pos (by omega)]
      exact ⟨trivial, roundsLeft_less (by omega) (by omega)⟩
    · exact rfl
  obtain ⟨result, s', hRun, rfl⟩ :=
    repeated_ends (fun s _ => hRound s) trivial (roundsLeft_start hStart)
  exact ⟨s', hRun⟩

def attemptLimit (now : σ → Nat) (s : σ) : Nat := min (servoTimeout - now s) (milliseconds 100)

/-- What a round can come to. -/
inductive TunnelRound (H : Handler DialOp DialOp.Reply σ) (now : σ → Nat) (lag : Nat) (s : σ) :
    Option (Except String Unit) × σ → Prop where
  | expired {error : String} {s' : σ} (hExpired : servoTimeout < now s) (hLater : now s ≤ now s')
    (hLatest : now s' ≤ now s + lag) : TunnelRound H now lag s (some (.error error), s')
  | connected {result : Except String Unit} {s' : σ} (hTime : now s ≤ servoTimeout)
    (hLatest : now s' ≤ now s + attemptLimit now s + 3 * lag)
    (hConfigured : (∀ s, (H s .setNodelay).1 = Except.ok ()) → result = .ok ()) :
    TunnelRound H now lag s (some result, s')
  | again {s₁ s' : σ} (hTime : now s ≤ servoTimeout) (hStarted : now s ≤ now s₁)
    (hRefused : (H s₁ (.connect (attemptLimit now s))).1 ≠ Timed.done ())
    (hLater : now s + milliseconds 25 ≤ now s')
    (hLatest : now s' ≤ now s + attemptLimit now s + milliseconds 25 + 3 * lag) :
    TunnelRound H now lag s (none, s')

theorem connectRawTunnelRound_run (hClock : Clock H now lag) (peer : String) (s : σ) :
    TunnelRound H now lag s ((connectRawTunnelRound peer).run H s) := by
  have hRead : (elapsed.run H s).1 = now s := hClock.reads s
  have hElapsed : now s ≤ now (elapsed.run H s).2 := hClock.onward s .elapsed
  have hElapsed' : now (elapsed.run H s).2 ≤ now s + 0 + lag := hClock.within s .elapsed
  rw [connectRawTunnelRound, run_bind, hRead]
  generalize (elapsed.run H s).2 = s₁ at hElapsed hElapsed'
  split
  · exact .expired ‹_› hElapsed hElapsed'
  rename_i hTime
  have hConnect := hClock.onward s₁ (.connect (attemptLimit now s))
  have hConnect' : now (H s₁ (.connect (attemptLimit now s))).2 ≤
      now s₁ + attemptLimit now s + lag := hClock.within s₁ (.connect (attemptLimit now s))
  have hAgain (h : (H s₁ (.connect (attemptLimit now s))).1 ≠ Timed.done ()) :
      TunnelRound H now lag s
        (none, (H (H s₁ (.connect (attemptLimit now s))).2 (.sleep (milliseconds 25))).2) := by
    have hSlept := hClock.sleeps (H s₁ (.connect (attemptLimit now s))).2 (milliseconds 25)
    have hSlept' : now (H (H s₁ (.connect (attemptLimit now s))).2 (.sleep (milliseconds 25))).2 ≤
        now (H s₁ (.connect (attemptLimit now s))).2 + milliseconds 25 + lag :=
      hClock.within _ (.sleep (milliseconds 25))
    exact .again (Nat.not_lt.mp hTime) hElapsed h (by omega) (by omega)
  have hTcp : (connectTcp (min (servoTimeout - now s) (milliseconds 100))).run H s₁ =
      H s₁ (.connect (attemptLimit now s)) := rfl
  rw [run_bind, hTcp]
  generalize H s₁ (.connect (attemptLimit now s)) = attempt at *
  obtain ⟨attempt, s₂⟩ := attempt
  cases attempt with
  | timedOut => exact hAgain fun h => by cases h
  | failed error => exact hAgain fun h => by cases h
  | done =>
    have hNodelay : now (setNodelay.run H s₂).2 ≤ now s₂ + 0 + lag := hClock.within s₂ .setNodelay
    have hOk (h : ∀ s, (H s .setNodelay).1 = Except.ok ()) : (setNodelay.run H s₂).1 = .ok () := h s₂
    dsimp only at hConnect hConnect' ⊢
    rw [run_bind]
    generalize setNodelay.run H s₂ = configured at hNodelay hOk
    obtain ⟨configured, s₃⟩ := configured
    have hLatest : now s₃ ≤ now s + attemptLimit now s + 3 * lag := by
      dsimp only at hNodelay
      omega
    cases configured with
    | error error => exact .connected (Nat.not_lt.mp hTime) hLatest fun h => by cases hOk h
    | ok => exact .connected (Nat.not_lt.mp hTime) hLatest fun _ => rfl

/-- The rounds that can still follow. -/
def tunnelRoundsLeft (now : σ → Nat) (s : σ) : Nat :=
  (servoTimeout + milliseconds 25 - now s) / milliseconds 25

theorem tunnelRoundsLeft_less {s s' : σ} (hEarly : now s ≤ servoTimeout)
    (hLater : now s + milliseconds 25 ≤ now s') :
    tunnelRoundsLeft now s' < tunnelRoundsLeft now s := by
  simp only [tunnelRoundsLeft, servoTimeout, milliseconds] at *
  omega

theorem tunnelRoundsLeft_start {s : σ} (hStart : now s = 0) : tunnelRoundsLeft now s < 32 := by
  simp only [tunnelRoundsLeft, servoTimeout, milliseconds, hStart]
  omega

/-- The latest that a round can begin. -/
def latestTunnelRound (lag : Nat) : Nat := servoTimeout + milliseconds 25 + 3 * lag

theorem connectRawTunnel_run (hClock : Clock H now lag) (peer : String) {s : σ}
    (hStart : now s = 0) :
    ∃ result s', (connectRawTunnel peer 32).run H s = (some result, s') ∧
      now s' ≤ latestTunnelRound lag + lag ∧
      ((∀ s, (H s .setNodelay).1 = Except.ok ()) → ∀ error, result = .error error →
        servoTimeout < now s') := by
  have hRound (s : σ) (hInv : now s ≤ latestTunnelRound lag) :
      Progress (fun s => now s ≤ latestTunnelRound lag) (tunnelRoundsLeft now)
        (fun (result : Except String Unit) s' =>
          now s' ≤ latestTunnelRound lag + lag ∧
          ((∀ s, (H s .setNodelay).1 = Except.ok ()) → ∀ error, result = .error error →
            servoTimeout < now s'))
        s ((connectRawTunnelRound peer).run H s) := by
    have hLimit : attemptLimit now s ≤ servoTimeout - now s := min_le_left _ _
    have hRun := connectRawTunnelRound_run hClock peer s
    generalize (connectRawTunnelRound peer).run H s = round at hRun
    cases hRun with
    | expired hExpired hLater hLatest =>
      exact ⟨hLatest.trans (Nat.add_le_add_right hInv lag), fun _ _ _ => hExpired.trans_le hLater⟩
    | connected hTime hLatest hConfigured =>
      refine ⟨by rw [latestTunnelRound]; omega, fun hNodelay error hError => ?_⟩
      rw [hConfigured hNodelay] at hError
      cases hError
    | again hTime hStarted hRefused hLater hLatest =>
      exact ⟨by rw [latestTunnelRound]; omega, tunnelRoundsLeft_less hTime hLater⟩
  exact repeated_ends hRound (by rw [hStart]; exact Nat.zero_le _) (tunnelRoundsLeft_start hStart)

theorem connectRawTunnel_reaches (hClock : Clock H now lag) {ready need : Nat}
    (hListening : Listening H now ready need) (hNeed : need ≤ milliseconds 100)
    (hSoon : ready + milliseconds 125 + 3 * lag + need ≤ servoTimeout) (peer : String) {s : σ}
    (hStart : now s = 0) :
    ∃ s', (connectRawTunnel peer 32).run H s = (some (.ok ()), s') := by
  have hRound (s : σ) (hInv : now s ≤ ready + milliseconds 125 + 3 * lag) :
      Progress (fun s => now s ≤ ready + milliseconds 125 + 3 * lag) (tunnelRoundsLeft now)
        (fun (result : Except String Unit) _ => result = .ok ()) s
        ((connectRawTunnelRound peer).run H s) := by
    have hLimit : attemptLimit now s ≤ milliseconds 100 := min_le_right _ _
    have hEnough : need ≤ attemptLimit now s := le_min (by omega) hNeed
    have hRun := connectRawTunnelRound_run hClock peer s
    generalize (connectRawTunnelRound peer).run H s = round at hRun
    cases hRun with
    | expired hExpired hLater hLatest => omega
    | connected hTime hLatest hConfigured => exact hConfigured hListening.configures
    | again hTime hStarted hRefused hLater hLatest =>
      have hBefore : now s < ready := by
        by_contra hLate
        exact hRefused (hListening.connects _ _ ((Nat.not_lt.mp hLate).trans hStarted) hEnough)
      have hSame : milliseconds 125 = milliseconds 100 + milliseconds 25 := rfl
      exact ⟨by omega, tunnelRoundsLeft_less hTime hLater⟩
  obtain ⟨result, s', hRun, rfl⟩ :=
    repeated_ends hRound (by rw [hStart]; exact Nat.zero_le _) (tunnelRoundsLeft_start hStart)
  exact ⟨s', hRun⟩

/-- However the network behaves, connecting is over within 4.6 seconds and 31 attempts, and no
error to try again for ends it before the window does. An MCU that is back a second and a half
after the start is always reached. -/
theorem connecting_is_decided (hClock : Clock H now lag) (peer : String) {s : σ}
    (hStart : now s = 0) :
    ∃ result s', (connectController peer 31).run H s = (some result, s') ∧
      now s' ≤ milliseconds 4600 + 6 * lag ∧
      (∀ error, result = .error error → controllerConnectionIsRetryable error = true →
        milliseconds 3000 ≤ now s') ∧
      ∀ ready need, ServesWebSockets H now ready need → need ≤ milliseconds 750 →
        ready + 3 * lag < milliseconds 1500 → result = .ok () := by
  obtain ⟨result, s', hRun, hTime, hWindow⟩ := connectController_run hClock peer hStart
  refine ⟨result, s', hRun, ?_, hWindow, ?_⟩
  · simp only [latestRound, controllerConnectRetryWindow, controllerConnectRetryInterval,
      servoTimeout, milliseconds] at *
    omega
  · intro ready need hServes hNeed hSoon
    have hWindowed : ready + 2 * servoTimeout + 3 * lag < controllerConnectRetryWindow := by
      simp only [controllerConnectRetryWindow, servoTimeout, milliseconds] at *
      omega
    obtain ⟨s'', hReached⟩ := connectController_reaches hClock hServes hNeed hWindowed peer hStart
    rw [hRun] at hReached
    exact Option.some.inj (Prod.mk.inj hReached).1

/-- The raw tunnel is given up after 775 milliseconds and 32 attempts at the latest, and not
before its budget is used up. A listener that is there 625 milliseconds after the start, less
the time that a connection needs, is always reached. -/
theorem tunneling_is_decided (hClock : Clock H now lag) (peer : String) {s : σ}
    (hStart : now s = 0) :
    ∃ result s', (connectRawTunnel peer 32).run H s = (some result, s') ∧
      now s' ≤ milliseconds 775 + 4 * lag ∧
      ((∀ s, (H s .setNodelay).1 = Except.ok ()) → ∀ error, result = .error error →
        milliseconds 750 < now s') ∧
      ∀ ready need, Listening H now ready need → need ≤ milliseconds 100 →
        ready + need + 3 * lag ≤ milliseconds 625 → result = .ok () := by
  obtain ⟨result, s', hRun, hTime, hBudget⟩ := connectRawTunnel_run hClock peer hStart
  refine ⟨result, s', hRun, ?_, hBudget, ?_⟩
  · simp only [latestTunnelRound, servoTimeout, milliseconds] at *
    omega
  · intro ready need hListening hNeed hSoon
    have hInTime : ready + milliseconds 125 + 3 * lag + need ≤ servoTimeout := by
      simp only [servoTimeout, milliseconds] at *
      omega
    obtain ⟨s'', hReached⟩ := connectRawTunnel_reaches hClock hListening hNeed hInTime peer hStart
    rw [hRun] at hReached
    exact Option.some.inj (Prod.mk.inj hReached).1

/-- An MCU that refuses connections for a while. The state is the time. -/
def returning (ready : Nat) : Handler DialOp DialOp.Reply Nat
  | now, .elapsed => (now, now)
  | now, .connect limit =>
    if ready ≤ now then (Timed.done (), now + min limit (milliseconds 5))
    else (Timed.failed "Connection refused (os error 111)", now + min limit (milliseconds 1))
  | now, .setNodelay => (Except.ok (), now)
  | now, .openWebSocket limit => (Timed.done (), now + min limit (milliseconds 20))
  | now, .sleep duration => ((), now + duration)

theorem returning_clock (ready : Nat) : Clock (returning ready) id 0 where
  reads _ := rfl
  onward now e := by
    cases e with
    | connect limit =>
      rw [returning]
      split <;> exact Nat.le_add_right _ _
    | elapsed => exact Nat.le_refl _
    | setNodelay => exact Nat.le_refl _
    | _ => exact Nat.le_add_right _ _
  within now e := by
    cases e with
    | connect limit =>
      rw [returning]
      split <;> exact Nat.add_le_add_left (min_le_left _ _) _
    | openWebSocket limit => exact Nat.add_le_add_left (min_le_left _ _) _
    | _ => exact Nat.le_refl _
  sleeps _ _ := Nat.le_refl _

theorem returning_serves (ready : Nat) : ServesWebSockets (returning ready) id ready 0 where
  connects now limit h _ := by
    have hReady : ready ≤ now := h
    rw [returning, if_pos hReady]
  configures _ := rfl
  opens _ _ _ _ := rfl

theorem connecting_is_decided_returning : ∃ s',
    (connectController "192.168.1.123:3333" 31).run (returning (milliseconds 1000)) 0 =
      (some (.ok ()), s') := by
  obtain ⟨result, s', hRun, -, -, hReached⟩ :=
    connecting_is_decided (returning_clock (milliseconds 1000)) "192.168.1.123:3333" (s := 0) rfl
  have hOk := hReached _ _ (returning_serves _) (by decide) (by decide)
  exact ⟨s', hOk ▸ hRun⟩

theorem tunneling_is_decided_returning : ∃ s',
    (connectRawTunnel "192.168.1.123:3334" 32).run (returning (milliseconds 500)) 0 =
      (some (.ok ()), s') := by
  obtain ⟨result, s', hRun, -, -, hReached⟩ :=
    tunneling_is_decided (returning_clock (milliseconds 500)) "192.168.1.123:3334" (s := 0) rfl
  have hOk := hReached _ _ (returning_serves _).toListening (by decide) (by decide)
  exact ⟨s', hOk ▸ hRun⟩

end Fetchline.Host.Dialing
