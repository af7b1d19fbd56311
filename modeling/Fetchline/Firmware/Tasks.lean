import Fetchline.Firmware.Ownership
import Fetchline.Firmware.Rpc
import Fetchline.Library.Machine
import Mathlib.Logic.Function.Basic

/-! # The firmware tasks under the cooperative executor

Three `controller_service` tasks and the raw tunnel task share the UART, the
ownership state and the tunnel switch. A task runs until an await returns
pending; between two awaits nothing else runs, but bytes may arrive at any time.
One `poll` takes the running task one step further, and `Input` says what its
environment has ready for it.
-/

namespace Fetchline

open Effects Sync Transition

abbrev controllerTransportSlots : Nat := 3
def copyBufferSize : Nat := 512

abbrev TaskId := Fin controllerTransportSlots

inductive Task where
  | controller (t : TaskId)
  | rawTunnel
deriving DecidableEq, Repr

/-- `seen` is the session's receiver of ownership changes. -/
structure Session where
  generation : UInt64
  seen : Nat
deriving DecidableEq, Repr

abbrev JsonRpcAnswer := Option (EncodedResponse jsonRpcBufferSize)

/-- Where `controller_service` stands. `claiming` is blocked in `claim`, with its
receiver of listener changes; the five phases from `reading` on are those of
`controller_session`. -/
inductive Phase where
  | configuring
  | accepting
  | backingOff
  | upgrading
  | claiming (seen : Nat)
  | subscribing (generation : UInt64)
  | reading (session : Session)
  | commanding (session : Session) (command : Bus JsonRpcAnswer)
  | resyncLocking (generation : UInt64)
  | resynchronizing (generation : UInt64) (drain : Bus Unit)
  | responding (session : Session) (response : EncodedResponse jsonRpcBufferSize)
  | releasing

/-- Where `raw_tunnel_service` stands; `lockingTx`, `writingTx`, `reporting` and
`pausing` are inside `raw_client_session`. -/
inductive RawPhase where
  | looping
  | idle
  | configuring
  | listening
  | serving
  | lockingTx (chunk : List UInt8)
  | writingTx (chunk : List UInt8)
  | reporting (bytes : List UInt8)
  | pausing
  | releasing (backOff : Bool)
  | backingOff
deriving DecidableEq, Repr

inductive BusEvent where
  | wrote (t : TaskId) (packet : List UInt8)
  /-- `write_all` has returned; `arrived` bytes had arrived by then. -/
  | written (t : TaskId) (arrived : Nat)
  /-- `consumed` bytes had been taken out of the RX queue by then. -/
  | observed (t : TaskId) (observation : Observation) (consumed : Nat)
  /-- A takeover dropped the command of `t`. -/
  | cancelled (t : TaskId) (heldUart : Bool)
deriving DecidableEq, Repr

inductive Handover where
  | granted (t : TaskId) (generation : UInt64) (replacesActive : Bool)
  /-- `t` has called `listener_ready`. -/
  | listening (t : TaskId)
deriving DecidableEq, Repr

/-- Both logs have their newest entry first. -/
structure System where
  ownership : ControllerOwnership := {}
  tunnel : RawTunnelControl := {}
  uartRx : Mutex Task := {}
  uartTx : Mutex Task := {}
  rx : List UInt8 := []
  arrived : Nat := 0
  controllers : TaskId → Phase := fun _ => .configuring
  raw : RawPhase := .looping
  running : Option Task := none
  busLog : List BusEvent := []
  handovers : List Handover := []

/-- What is ready for the running task: nothing, the awaited operation, its
failure, its timeout, a request on the WebSocket, or bytes on the raw socket. -/
inductive Input where
  | pending
  | done
  | failed
  | elapsed
  | text (request : String)
  | chunk (bytes : List UInt8)
deriving DecidableEq, Repr

inductive Action where
  | schedule (task : Task)
  | arrive (byte : UInt8)
  | poll (input : Input)
deriving DecidableEq, Repr

namespace System

def consumed (s : System) : Nat := s.arrived - s.rx.length

def yield (s : System) : System := { s with running := none }

def goto (s : System) (t : TaskId) (phase : Phase) : System :=
  { s with controllers := Function.update s.controllers t phase }

@[simp] theorem goto_self (s : System) (t : TaskId) (phase : Phase) :
    (s.goto t phase).controllers t = phase := by simp [goto]

theorem goto_of_ne {s : System} {t u : TaskId} {phase : Phase} (h : u ≠ t) :
    (s.goto t phase).controllers u = s.controllers u := by simp [goto, h]

def log (s : System) (e : BusEvent) : System := { s with busLog := e :: s.busLog }

def unlock (s : System) (t : TaskId) : System :=
  { s with
    uartRx := s.uartRx.release (.controller t)
    uartTx := s.uartTx.release (.controller t) }

def listenerReady (s : System) (t : TaskId) : System :=
  { s with
    ownership := s.ownership.listenerReady
    handovers := .listening t :: s.handovers }

/-- One round of `claim`, whose receiver has seen the first `seen` listener changes. -/
def claim (s : System) (t : TaskId) (seen : Nat) : System :=
  match s.ownership.attemptClaim with
  | (some (generation, replacesActive), ownership) =>
    { s with
      ownership := ownership
      handovers := .granted t generation replacesActive :: s.handovers }.goto t
        (.subscribing generation)
  | (none, ownership) => { s with ownership := ownership }.goto t (.claiming seen)

def endSession (s : System) (t : TaskId) (generation : UInt64) : System :=
  { s with ownership := s.ownership.release generation }.goto t .releasing

/-- The future of the command is dropped, and with it the guards it holds. -/
def cancel (s : System) (t : TaskId) (generation : UInt64) : System :=
  ((s.log (.cancelled t (s.uartRx.holder = some (.controller t)))).unlock t).goto t
    (.resyncLocking generation)

/-- One operation of a bus program of `t`; `none` when it is pending. -/
def perform (s : System) (t : TaskId) (input : Input) : (op : BusOp) → Option (op.Reply × System)
  | .lockUartRx => (s.uartRx.acquire (.controller t)).map fun uartRx => ((), { s with uartRx })
  | .lockUartTx => (s.uartTx.acquire (.controller t)).map fun uartTx => ((), { s with uartTx })
  | .writeAll packet => some ((), s.log (.wrote t packet))
  | .written => match input with
    | .done => some (true, s.log (.written t s.arrived))
    | .failed => some (false, s)
    | _ => none
  | .readByte => match s.rx with
    | byte :: rx => some (some byte, { s with rx })
    | [] => if input = .elapsed then some (none, s) else none
  | .discard =>
    -- An RX error counts as a read of the drain, although it discards nothing.
    if input = .failed then some (true, s)
    else match s.rx with
      | _ :: _ => some (true, { s with rx := s.rx.drop 64 })
      | [] => if input = .elapsed then some (false, s) else none
  | .isTunnelEnabled => some (s.tunnel.enabled, s)
  | .enableTunnel => some ((), { s with tunnel := s.tunnel.enable })
  | .disableTunnel => some ((), { s with tunnel := s.tunnel.disable })
  | .observe observation => some ((), s.log (.observed t observation s.consumed))

/-- The running controller task takes one step. A `select` polls the command or
the read first and the ownership change only when that is pending. -/
def pollController (fromSlice : String → Option JsonRpcRequest) (s : System) (t : TaskId)
    (input : Input) : System :=
  match s.controllers t with
  | .configuring => match input with
    | .done => (s.listenerReady t).goto t .accepting
    | _ => s.yield
  | .accepting => match input with
    | .done => s.goto t .upgrading
    | .failed => s.goto t .backingOff
    | _ => s.yield
  | .backingOff => match input with
    | .elapsed => s.goto t .configuring
    | _ => s.yield
  | .upgrading => match input with
    | .done => s.claim t 0
    | .failed | .elapsed => s.goto t .releasing
    | _ => s.yield
  | .claiming seen =>
    if s.ownership.listenerChanges.Unread seen then s.claim t s.ownership.listenerChanges.sent
    else s.yield
  | .subscribing generation => match s.ownership.changes.value with
    | none => s.yield
    | some announced =>
      if announced = generation then s.goto t (.reading ⟨generation, s.ownership.changes.sent⟩)
      else s.endSession t generation
  | .reading session => match input with
    | .text request =>
      if s.ownership.isCurrent session.generation then
        s.goto t (.commanding session (handleJsonRpc fromSlice jsonRpcBufferSize request))
      else s.endSession t session.generation
    | .failed => s.endSession t session.generation
    | _ =>
      if s.ownership.changes.Unread session.seen then s.endSession t session.generation
      else s.yield
  | .commanding session (.call op next) => match s.perform t input op with
    | some (reply, s) => s.goto t (.commanding session (next reply))
    | none =>
      if s.ownership.changes.Unread session.seen then s.cancel t session.generation
      else s.yield
  | .commanding session (.done none) => (s.unlock t).goto t (.reading session)
  | .commanding session (.done (some response)) =>
    if s.ownership.isCurrent session.generation then
      (s.unlock t).goto t (.responding session response)
    else (s.unlock t).endSession t session.generation
  | .resyncLocking generation => match s.uartRx.acquire (.controller t) with
    | some uartRx => { s with uartRx }.goto t (.resynchronizing generation resynchronizeUart)
    | none => s.yield
  | .resynchronizing generation (.call op next) => match s.perform t input op with
    | some (reply, s) => s.goto t (.resynchronizing generation (next reply))
    | none => s.yield
  | .resynchronizing generation (.done _) => (s.unlock t).endSession t generation
  | .responding session _ => match input with
    | .done => s.goto t (.reading session)
    | .failed => s.endSession t session.generation
    | _ => s.yield
  | .releasing => match input with
    | .done | .failed | .elapsed => s.goto t .configuring
    | _ => s.yield

def unlockRaw (s : System) : System :=
  { s with
    uartRx := s.uartRx.release .rawTunnel
    uartTx := s.uartTx.release .rawTunnel }

def gotoRaw (s : System) (phase : RawPhase) : System := { s with raw := phase }

def takeCommand (s : System) : System := { s with tunnel := { s.tunnel with command := none } }

/-- The third future of `raw_client_session`: lock the receiver, then read. -/
def pollUartRead (s : System) (input : Input) : System :=
  match if s.uartRx.holder = some .rawTunnel then some s.uartRx else s.uartRx.acquire .rawTunnel with
  | none => s.yield
  | some uartRx =>
    let s := { s with uartRx }
    if input = .elapsed then s.unlockRaw.gotoRaw .pausing
    else match s.rx with
      | [] => s.yield
      | _ :: _ =>
        { s with rx := s.rx.drop copyBufferSize }.unlockRaw.gotoRaw
          (.reporting (s.rx.take copyBufferSize))

/-- The running raw tunnel task takes one step; in `serving` the input `elapsed`
stands for an RX error. -/
def pollRaw (s : System) (input : Input) : System :=
  match s.raw with
  | .looping => if s.tunnel.enabled then s.gotoRaw .configuring else s.gotoRaw .idle
  | .idle => if s.tunnel.command.isSome then s.takeCommand.gotoRaw .looping else s.yield
  | .configuring => match input with
    | .done => s.gotoRaw .listening
    | _ => s.yield
  | .listening =>
    if s.tunnel.command.isSome then s.takeCommand.gotoRaw (.releasing false)
    else match input with
      | .done => s.gotoRaw .serving
      | .failed => s.gotoRaw (.releasing true)
      | _ => s.yield
  | .serving => match s.tunnel.command with
    | some .disable => s.takeCommand.unlockRaw.gotoRaw (.releasing false)
    | some .enable => s.takeCommand.unlockRaw
    | none => match input with
      | .chunk [] => s.unlockRaw.gotoRaw (.releasing false)
      | .chunk bytes => s.unlockRaw.gotoRaw (.lockingTx (bytes.take copyBufferSize))
      | .failed => s.unlockRaw.gotoRaw (.releasing false)
      | _ => s.pollUartRead input
  | .lockingTx bytes => match s.uartTx.acquire .rawTunnel with
    | some uartTx => { s with uartTx }.gotoRaw (.writingTx bytes)
    | none => s.yield
  | .writingTx _ => match input with
    | .done => s.unlockRaw.gotoRaw .serving
    | .failed => s.unlockRaw.gotoRaw (.releasing false)
    | _ => s.yield
  | .reporting _ => match input with
    | .done => s.gotoRaw .serving
    | .failed => s.gotoRaw (.releasing false)
    | _ => s.yield
  | .pausing => match input with
    | .elapsed => s.gotoRaw .serving
    | _ => s.yield
  | .releasing backOff => match input with
    | .done | .failed | .elapsed => s.gotoRaw (if backOff then .backingOff else .looping)
    | _ => s.yield
  | .backingOff => match input with
    | .elapsed => s.gotoRaw .looping
    | _ => s.yield

def step (fromSlice : String → Option JsonRpcRequest) (s : System) : Action → System
  | .schedule task => if s.running = none then { s with running := some task } else s
  | .arrive byte => { s with rx := s.rx ++ [byte], arrived := s.arrived + 1 }
  | .poll input => match s.running with
    | none => s
    | some (.controller t) => s.pollController fromSlice t input
    | some .rawTunnel => s.pollRaw input

end System

def turn (task : Task) (inputs : List Input) : List Action := .schedule task :: inputs.map .poll

def firmware (fromSlice : String → Option JsonRpcRequest) : Machine System Action :=
  ⟨{}, System.step fromSlice⟩

end Fetchline
