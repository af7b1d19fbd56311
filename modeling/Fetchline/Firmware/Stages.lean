import Fetchline.Firmware.BusRules

/-! # The stages of a request on the bus

In which order a request tests the tunnel, locks the UART, runs transactions and
drains. The discipline below is the only thing the scheduling proofs know about
the commands.
-/

namespace Fetchline

open Effects Effects.Program

/-- `clean` and the two stages after it hold both UART guards: between
transactions, within one, and after one that ended without a valid status. -/
inductive Stage where
  | fresh
  | tested
  | rxHeld
  | clean
  | underway
  | dirty
  | finished
deriving DecidableEq, Repr

def Stage.holdsRx : Stage → Bool
  | .rxHeld | .clean | .underway | .dirty => true
  | _ => false

def custody : Discipline BusOp BusOp.Reply Stage where
  allowed
    | .fresh, .isTunnelEnabled | .fresh, .enableTunnel | .fresh, .disableTunnel => True
    | .tested, .lockUartRx => True
    | .rxHeld, .lockUartTx => True
    | .clean, .writeAll _ => True
    | .clean, .discard | .dirty, .discard => True
    | .clean, .observe .resynchronized | .dirty, .observe .resynchronized => True
    | .underway, .written | .underway, .readByte => True
    | .underway, .observe (.statusAccepted _) | .underway, .observe (.statusRejected _) => True
    | _, _ => False
  next
    | .fresh, .isTunnelEnabled, enabled => bif enabled then .finished else .tested
    | .fresh, _, _ => .finished
    | .tested, _, _ => .rxHeld
    | .rxHeld, _, _ => .clean
    | .clean, .writeAll _, _ => .underway
    | .underway, .observe (.statusAccepted _), _ => .clean
    | .underway, .observe (.statusRejected _), _ => .dirty
    | .dirty, .observe .resynchronized, _ => .clean
    | stage, _, _ => stage

/-- No transaction is underway and none is left to be drained. -/
def Stage.settled : Stage → Prop
  | .rxHeld | .underway | .dirty => False
  | _ => True

theorem resynchronizeUart_cleans {stage : Stage} (h : stage = .clean ∨ stage = .dirty) :
    resynchronizeUart.Obeys custody stage fun _ stage' => stage' = .clean := by
  have hDrain : (discardReads 4).Obeys custody stage fun _ stage' =>
      stage' = .clean ∨ stage' = .dirty := by
    refine discardReads_keeps (fun (stage' : Stage) => stage' = .clean ∨ stage' = .dirty) ?_ ?_ 4 h
    · rintro _ (rfl | rfl) <;> trivial
    · rintro _ reply (rfl | rfl)
      · exact .inl rfl
      · exact .inr rfl
  apply hDrain.bind
  rintro _ _ (rfl | rfl)
  · exact ⟨trivial, fun _ => rfl⟩
  · exact ⟨trivial, fun _ => rfl⟩

theorem custody_transacts :
    Transacts custody (· = .clean) fun stage => stage = .clean ∨ stage = .dirty where
  weaken _ h := .inl h
  send := by
    rintro id instruction parameters _ rfl
    rw [sendStsPacket]
    split
    · exact .inl rfl
    · rw [obeys_concludeTransaction, obeys_throwing_bind, obeys_writeAll]
      refine ⟨trivial, trivial, ?_, trivial, .inr rfl⟩
      have hRead : (readStsStatus id).run.Obeys custody .underway
          (exits (fun _ stage => stage = .underway) fun failure stage =>
            failure.onBus ∧ stage = .underway) := by
        refine readStsStatus_keeps (fun (stage : Stage) => stage = .underway) ?_ ?_ id rfl
        · rintro _ rfl
          trivial
        · rintro _ reply rfl
          rfl
      apply hRead.mono
      rintro (failure | status) stage h
      · obtain ⟨-, rfl⟩ := h
        exact ⟨trivial, .inr rfl⟩
      · obtain rfl : stage = .underway := h
        exact ⟨trivial, rfl⟩
  drain _ h := resynchronizeUart_cleans h

theorem serveMethod_settles (request : JsonRpcRequest) :
    (serveMethod request).Obeys custody .fresh fun _ stage => stage.settled := by
  refine Serves.serveMethod ⟨trivial, ⟨trivial, trivial⟩, ⟨trivial, trivial⟩, trivial, trivial,
    fun _ _ => trivial, fun command => ?_⟩
  refine Obeys.mono (custody_transacts.executeCommand command trivial trivial rfl) ?_
  rintro result _ rfl
  trivial

theorem handleJsonRpc_settles (fromSlice : String → Option JsonRpcRequest) (capacity : Nat)
    (text : String) :
    (handleJsonRpc fromSlice capacity text).Obeys custody .fresh fun _ stage => stage.settled :=
  handleJsonRpc_obeys (fun _ => trivial) (fun _ _ _ => trivial) fun request _ _ =>
    serveMethod_settles request

def writeless : Discipline BusOp BusOp.Reply Unit where
  allowed
    | _, .writeAll _ => False
    | _, _ => True
  next _ _ _ := ()

def Writeless {α : Type} (p : Bus α) : Prop := p.Obeys writeless () fun _ _ => True

theorem Writeless.next {α : Type} {op : BusOp} {next : op.Reply → Bus α}
    (h : Writeless (.call op next)) (reply : op.Reply) : Writeless (next reply) := h.2 reply

theorem not_writeless_writeAll {α : Type} {packet : List UInt8}
    {next : (BusOp.writeAll packet).Reply → Bus α} : ¬ Writeless (.call (.writeAll packet) next) :=
  fun h => h.1

def draining : Discipline BusOp BusOp.Reply Unit where
  allowed
    | _, .discard | _, .observe .resynchronized => True
    | _, _ => False
  next _ _ _ := ()

def DrainsOnly {α : Type} (p : Bus α) : Prop := p.Obeys draining () fun _ _ => True

theorem resynchronizeUart_drainsOnly : DrainsOnly resynchronizeUart :=
  (discardReads_keeps (fun _ => True) (fun _ _ => trivial) (fun _ _ h => h) 4 trivial).bind
    fun _ _ _ => ⟨trivial, fun _ => trivial⟩

/-- The operations a task may be suspended at; the others complete at once. -/
def BusOp.awaits : BusOp → Bool
  | .lockUartRx | .lockUartTx | .written | .readByte | .discard => true
  | _ => false

def Suspended {α : Type} : Bus α → Prop
  | .call op _ => op.awaits = true
  | .done _ => False

theorem not_suspended_of_fresh {α : Type} {p : Bus α} {Q : α → Stage → Prop}
    (h : p.Obeys custody .fresh Q) : ¬ Suspended p := by
  cases p with
  | done a => exact id
  | call op next =>
    obtain ⟨hAllowed, -⟩ := h
    intro hSuspended
    cases op <;> first | exact hAllowed | cases hSuspended

theorem custody_next_ne_fresh {stage : Stage} {op : BusOp} {reply : op.Reply}
    (h : custody.allowed stage op) : custody.next stage op reply ≠ .fresh := by
  cases stage with
  | fresh =>
    cases op <;> first | exact h.elim | skip
    case isTunnelEnabled => cases reply <;> decide
    all_goals exact nofun
  | clean =>
    cases op <;> first | exact h.elim | exact nofun
  | underway =>
    cases op <;> first | exact h.elim | skip
    case observe observation => cases observation <;> exact nofun
    all_goals exact nofun
  | dirty =>
    cases op <;> first | exact h.elim | skip
    case observe observation => cases observation <;> exact nofun
    all_goals exact nofun
  | _ => exact nofun

end Fetchline
