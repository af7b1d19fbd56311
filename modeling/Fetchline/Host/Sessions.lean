import Fetchline.Firmware.Rpc
import Fetchline.Host.Calls
import Fetchline.Host.Servos
import Fetchline.Library.Machine
import Fetchline.Library.Text
import Mathlib.Logic.Function.Basic

/-! # Browser sessions on one MCU connection

Each session answers its browser's messages one after the other; the sessions
share `state.bridge` behind a mutex. A handling is a program over the mutex, the
connection it guards and the network, and the sessions interleave between any
two of its effects.
-/

namespace Fetchline.Host

open Effects Transition

inductive HostOp where
  /-- `state.bridge.lock()`; the reply is what the guard gives access to. -/
  | lockBridge
  /-- An assignment through the guard. -/
  | setBridge (bridge : Option BridgeConnection)
  | net (op : NetOp)
  /-- `connect_controller`, with its retries. -/
  | connectController (peer : String)
  | connectRawTunnel (peer : String)
deriving DecidableEq

def HostOp.Reply : HostOp → Type
  | .lockBridge => Option BridgeConnection
  | .setBridge _ => Unit
  | .net op => op.Reply
  | .connectController _ | .connectRawTunnel _ => Except String Unit

abbrev HostProgram := Program HostOp HostOp.Reply

def lockBridge : HostProgram (Option BridgeConnection) := .call .lockBridge .done

def setBridge (bridge : Option BridgeConnection) : HostProgram Unit := .call (.setBridge bridge) .done

def connectController (peer : String) : HostProgram (Except String Unit) :=
  .call (.connectController peer) .done

def connectRawTunnel (peer : String) : HostProgram (Except String Unit) :=
  .call (.connectRawTunnel peer) .done

def onNet {α : Type} : Net α → HostProgram α
  | .done a => .done a
  | .call op next => .call (.net op) fun reply => onNet (next reply)

/-- Requests change the connection behind the guard in place. -/
def useBridge {α : Type} (q : Bridge α) (c : BridgeConnection) : HostProgram (Except String α) := do
  let (result, c) ← onNet (q.run.run c)
  setBridge (some c)
  pure result

inductive TransportMode where
  | controller
  | debugRawTunnel
deriving DecidableEq, Repr

inductive ClientMessage where
  | connect (host : String) (port : UInt16)
  | servo (message : ServoMessage)
deriving DecidableEq

section Requests

variable (serde : Serde)

def systemPing : Bridge Unit := do
  let result ← controllerRequest serde "system.ping" (.object [])
  expectControllerReady result

def checkReused : Bridge Unit := do
  if ← isController then systemPing serde else pure ()

def rawTunnelPort (result : Json.Value) : Option UInt16 :=
  ((result.get "port").bind Json.Value.asInt).bind fun port =>
    if 0 ≤ port ∧ port < 65536 then some (UInt16.ofNat port.toNat) else none

def openRawTunnel (host : String) (c : BridgeConnection) :
    HostProgram (Except String Unit × BridgeConnection) := do
  let (enabled, c) ← onNet ((controllerRequest serde "debug.enableRawTunnel" (.object [])).run.run c)
  match enabled with
  | .error error => pure (.error error, c)
  | .ok result =>
    match rawTunnelPort result with
    | none => pure (.error "MCU did not return a raw tunnel TCP port", c)
    | some port =>
      if port.toNat ≠ rawTunnelTcpPort then
        pure (.error s!"MCU returned unexpected raw tunnel TCP port {port}", c)
      else
        let opened ← connectRawTunnel s!"{host}:{port}"
        match opened with
        | .error error => pure (.error error, c)
        | .ok _ => pure (.ok (), { c with transport := .debugRaw })

def setUp (mode : TransportMode) (host : String) (c : BridgeConnection) :
    HostProgram (Except String Unit × BridgeConnection) :=
  match mode with
  | .controller => onNet ((systemPing serde).run.run c)
  | .debugRawTunnel => openRawTunnel serde host c

/-- The end of `connect`, from `bridge.take()` on. -/
def openBridge (mode : TransportMode) (host peer : String) : HostProgram ServerMessage := do
  setBridge none
  let opened ← connectController peer
  match opened with
  | .error error => pure (.error error false)
  | .ok _ =>
    let (setup, c) ← setUp serde mode host
      { peer, transport := .controller, nextRequestId := 1 }
    match setup with
    | .error error => pure (.error error false)
    | .ok _ =>
      setBridge (some c)
      pure (.connected peer)

def connectLocked (mode : TransportMode) (host peer : String) :
    Option BridgeConnection → HostProgram ServerMessage
  | none => openBridge serde mode host peer
  | some c =>
    if c.peer = peer then do
      let reused ← useBridge (checkReused serde) c
      match reused with
      | .ok _ => pure (.connected peer)
      | .error _ => openBridge serde mode host peer
    else openBridge serde mode host peer

def connect (mode : TransportMode) (host : String) (port : UInt16) : HostProgram ServerMessage :=
  let host := Text.trim host
  if host = "" then pure (.error "The MCU host name or IP address is required" false)
  else if port = 0 then pure (.error "The MCU TCP port must be between 1 and 65535" false)
  else do
    let bridge ← lockBridge
    connectLocked serde mode host s!"{host}:{port}" bridge

def serveLocked (message : ServoMessage) : Option BridgeConnection → HostProgram ServerMessage
  | none => pure (.error "Connect to the MCU before sending servo commands" false)
  | some c => do
    let result ← useBridge (serveMessage serde message) c
    match result with
    | .ok response => pure response
    | .error error =>
      if connectionIsUsableAfter error then pure (.error error true)
      else
        setBridge none
        pure (.error error false)

def handleRequest (mode : TransportMode) : ClientMessage → HostProgram ServerMessage
  | .connect host port => connect serde mode host port
  | .servo message => do
    let bridge ← lockBridge
    serveLocked serde message bridge

end Requests

inductive BrowserMessage where
  | text (text : String)
  | binary
  | ping
  | pong
  | close
deriving DecidableEq

structure Handling where
  message : BrowserMessage
  program : HostProgram ServerMessage

/-- A handled message, its response, and the bridge as it was when the handling ended. -/
structure Handled where
  session : Nat
  message : BrowserMessage
  response : ServerMessage
  bridge : Option BridgeConnection

/-- `log` has the exchanges since the last connection was opened. -/
structure HostState where
  bridge : Option BridgeConnection
  holder : Option Nat := none
  sessions : Nat → Option Handling := fun _ => none
  log : Log := []
  handled : List Handled := []

/-- A session receives a message, or goes one effect further; `reply` is what the
network has to say to it. -/
inductive HostAction where
  | receive (session : Nat) (message : BrowserMessage)
  | advance (session : Nat) (reply : (op : HostOp) → op.Reply)

namespace HostState

/-- One effect: `none` while the mutex is held elsewhere. -/
def perform (s : HostState) (session : Nat) (reply : (op : HostOp) → op.Reply) :
    (op : HostOp) → Option (op.Reply × HostState)
  | .lockBridge =>
    if s.holder = none then some (s.bridge, { s with holder := some session }) else none
  | .setBridge bridge => some ((), { s with bridge })
  | .net op => some (reply (.net op), { s with log := s.log ++ [⟨op, reply (.net op)⟩] })
  | .connectController peer => some (reply (.connectController peer), { s with log := [] })
  | .connectRawTunnel peer => some (reply (.connectRawTunnel peer), s)

def set (s : HostState) (session : Nat) (handling : Option Handling) : HostState :=
  { s with sessions := Function.update s.sessions session handling }

@[simp] theorem set_self (s : HostState) (session : Nat) (handling : Option Handling) :
    (s.set session handling).sessions session = handling := Function.update_self ..

theorem set_of_ne {s : HostState} {session other : Nat} {handling : Option Handling}
    (h : other ≠ session) : (s.set session handling).sessions other = s.sessions other :=
  Function.update_of_ne h ..

/-- The handling returns, which drops its guard. The session sends the response before it takes
another message. -/
def finish (s : HostState) (session : Nat) (message : BrowserMessage) (response : ServerMessage) :
    HostState :=
  { s.set session none with
    holder := if s.holder = some session then none else s.holder
    handled := ⟨session, message, response, s.bridge⟩ :: s.handled }

variable (serde : Serde) (readRequest : String → Except String ClientMessage) (mode : TransportMode)

/-- What `client_session` does with a message it does not skip. -/
def answer : BrowserMessage → Option (HostProgram ServerMessage)
  | .text text => some <|
    match readRequest text with
    | .ok request => handleRequest serde mode request
    | .error error => pure (.error ("Invalid control request: " ++ error) false)
  | .binary => some (pure (.error "Binary WebSocket messages are not supported" false))
  | .ping | .pong | .close => none

def receive (s : HostState) (session : Nat) (message : BrowserMessage) : HostState :=
  match s.sessions session, answer serde readRequest mode message with
  | none, some program => s.set session (some ⟨message, program⟩)
  | _, _ => s

def advance (s : HostState) (session : Nat) (reply : (op : HostOp) → op.Reply) : HostState :=
  match s.sessions session with
  | none => s
  | some ⟨message, .done response⟩ => s.finish session message response
  | some ⟨message, .call op next⟩ =>
    match s.perform session reply op with
    | none => s
    | some (r, s') => s'.set session (some ⟨message, next r⟩)

def step (s : HostState) : HostAction → HostState
  | .receive session message => s.receive serde readRequest mode session message
  | .advance session reply => s.advance session reply

end HostState

/-- The host, from any connection it may have. -/
def host (serde : Serde) (readRequest : String → Except String ClientMessage) (mode : TransportMode)
    (bridge : Option BridgeConnection) : Machine HostState HostAction where
  init := { bridge }
  step s := s.step serde readRequest mode

end Fetchline.Host
