import Fetchline.Firmware.Rpc

/-! # Rules for the bus programs

One rule for each way the transaction functions touch the bus, for any
discipline. What a particular discipline makes of them is left to its own
module.
-/

namespace Fetchline

open Effects Effects.Program Bounded

variable {σ : Type} {D : Discipline BusOp BusOp.Reply σ}

@[simp] theorem obeys_readUartByte (s : σ) (ok : UInt8 → σ → Prop) (error : ServoFailure → σ → Prop) :
    readUartByte.run.Obeys D s (exits ok error) ↔
      D.allowed s .readByte ∧ (∀ byte, ok byte (D.next s .readByte (some byte))) ∧
        error .timeout (D.next s .readByte none) := by
  constructor
  · rintro ⟨hAllowed, hNext⟩
    exact ⟨hAllowed, fun byte => hNext (some byte), hNext none⟩
  · rintro ⟨hAllowed, hOk, hError⟩
    refine ⟨hAllowed, ?_⟩
    rintro (_ | byte)
    · exact hError
    · exact hOk byte

@[simp] theorem obeys_writeAll (packet : List UInt8) (s : σ) (ok : Unit → σ → Prop)
    (error : ServoFailure → σ → Prop) :
    (writeAll packet).run.Obeys D s (exits ok error) ↔
      D.allowed s (.writeAll packet) ∧ D.allowed (D.next s (.writeAll packet) ()) .written ∧
        ok () (D.next (D.next s (.writeAll packet) ()) .written true) ∧
        error .transport (D.next (D.next s (.writeAll packet) ()) .written false) := by
  constructor
  · rintro ⟨hAllowed, hNext⟩
    obtain ⟨hWritten, hNext⟩ := hNext ()
    exact ⟨hAllowed, hWritten, hNext true, hNext false⟩
  · rintro ⟨hAllowed, hWritten, hOk, hError⟩
    refine ⟨hAllowed, fun _ => ⟨hWritten, ?_⟩⟩
    rintro (_ | _)
    · exact hError
    · exact hOk

theorem obeys_concludeTransaction (transaction : Servo StsStatus) (s : σ)
    (ok : StsStatus → σ → Prop) (error : ServoFailure → σ → Prop) :
    (concludeTransaction transaction).run.Obeys D s (exits ok error) ↔
      transaction.run.Obeys D s (exits
        (fun status s' => D.allowed s' (.observe (.statusAccepted (status.payload.length + 6))) ∧
          ok status (D.next s' (.observe (.statusAccepted (status.payload.length + 6))) ()))
        (fun failure s' => D.allowed s' (.observe (.statusRejected failure)) ∧
          error failure (D.next s' (.observe (.statusRejected failure)) ()))) := by
  change (transaction.run >>= _).Obeys D s _ ↔ _
  rw [obeys_bind]
  constructor <;> intro h <;> refine h.mono ?_ <;> rintro (failure | status) s' h'
  · exact ⟨h'.1, h'.2 ()⟩
  · exact ⟨h'.1, h'.2 ()⟩
  · exact ⟨h'.1, fun _ => h'.2⟩
  · exact ⟨h'.1, fun _ => h'.2⟩

/-- The failures a transaction can end with once its packet has been encoded. -/
def ServoFailure.onBus : ServoFailure → Prop
  | .invalidServoId | .invalidArgument => False
  | _ => True

section Reading

-- The three loops of the status reader, for an invariant that every read keeps.
variable (inv : σ → Prop) (hAllowed : ∀ s, inv s → D.allowed s .readByte)
  (hNext : ∀ s reply, inv s → inv (D.next s .readByte reply))

include hAllowed hNext

theorem seekHeader_keeps (n : Nat) (previous : UInt8) {s : σ} (h : inv s) :
    (seekHeader n previous).run.Obeys D s (exits (fun _ => inv) fun failure s' => failure.onBus ∧ inv s') := by
  induction n generalizing previous s with
  | zero => exact ⟨trivial, h⟩
  | succ n ih =>
    rw [seekHeader, obeys_throwing_bind, obeys_readUartByte]
    refine ⟨hAllowed s h, fun byte => ?_, trivial, hNext s none h⟩
    split
    · exact hNext s (some byte) h
    · exact ih byte (hNext s (some byte) h)

theorem readUartBytes_keeps (n : Nat) {s : σ} (h : inv s) :
    (readUartBytes n).run.Obeys D s (exits (fun bytes s' => bytes.length = n ∧ inv s')
      fun failure s' => failure.onBus ∧ inv s') := by
  induction n generalizing s with
  | zero => exact ⟨rfl, h⟩
  | succ n ih =>
    rw [readUartBytes, obeys_throwing_bind, obeys_readUartByte]
    refine ⟨hAllowed s h, fun byte => ?_, trivial, hNext s none h⟩
    refine (ih (hNext s (some byte) h)).andThen ?_
    rintro bytes s' ⟨hLength, h'⟩
    exact ⟨by rw [List.length_cons, hLength], h'⟩

theorem readStsStatus_keeps (expectedId : UInt8) {s : σ} (h : inv s) :
    (readStsStatus expectedId).run.Obeys D s
      (exits (fun _ => inv) fun failure s' => failure.onBus ∧ inv s') := by
  refine (seekHeader_keeps inv hAllowed hNext 128 0 h).andThen fun _ s h => ?_
  rw [obeys_throwing_bind, obeys_readUartByte]
  refine ⟨hAllowed s h, fun id => ?_, trivial, hNext s none h⟩
  replace h := hNext s (some id) h
  rw [obeys_throwing_bind, obeys_readUartByte]
  refine ⟨hAllowed _ h, fun length => ?_, trivial, hNext _ none h⟩
  replace h := hNext _ (some length) h
  split
  · exact ⟨trivial, h⟩
  · refine (readUartBytes_keeps inv hAllowed hNext _ h).andThen fun body s h => ?_
    split
    · exact ⟨trivial, h.2⟩
    · split
      · exact ⟨trivial, h.2⟩
      · exact h.2

end Reading

/-- A drain, for an invariant that every discarded read keeps. -/
theorem discardReads_keeps (inv : σ → Prop) (hAllowed : ∀ s, inv s → D.allowed s .discard)
    (hNext : ∀ s reply, inv s → inv (D.next s .discard reply)) (n : Nat) {s : σ} (h : inv s) :
    (discardReads n).Obeys D s fun _ => inv := by
  induction n generalizing s with
  | zero => exact h
  | succ n ih =>
    refine ⟨hAllowed s h, ?_⟩
    rintro (_ | _)
    · exact hNext s false h
    · exact ih (hNext s true h)

/-- A command is made of transactions, and of drains after the failed ones. Where
each transaction starts in a state that is `ok` and a failed one ends in a state
that is `bad`, so does the whole command. -/
structure Transacts (D : Discipline BusOp BusOp.Reply σ) (ok bad : σ → Prop) : Prop where
  weaken : ∀ s, ok s → bad s
  send : ∀ id instruction parameters s, ok s →
    (sendStsPacket id instruction parameters).run.Obeys D s (exits (fun _ => ok) fun _ => bad)
  drain : ∀ s, bad s → resynchronizeUart.Obeys D s fun _ => ok

namespace Transacts

variable {ok bad : σ → Prop} (h : Transacts D ok bad) {s : σ} (hs : ok s)

include h hs

theorem validateServoId (id : UInt8) :
    (validateServoId id).run.Obeys D s (exits (fun _ => ok) fun _ => bad) := by
  rw [Fetchline.validateServoId]
  split
  · exact h.weaken s hs
  · exact hs

theorem writeRegister (id address : UInt8) (data : List UInt8) :
    (writeRegister id address data).run.Obeys D s (exits (fun _ => ok) fun _ => bad) := by
  rw [Fetchline.writeRegister]
  split
  · exact h.weaken s hs
  · apply (h.send _ _ _ s hs).andThen
    intro status s hs
    split
    · exact hs
    · exact h.weaken s hs

theorem pingServo (id : UInt8) :
    (pingServo id).run.Obeys D s (exits (fun _ => ok) fun _ => bad) := by
  apply (h.validateServoId hs id).andThen
  intro _ s hs
  apply (h.send _ _ _ s hs).andThen
  intro _ s hs
  exact hs

theorem readPosition (id : UInt8) :
    (readPosition id).run.Obeys D s (exits (fun _ => ok) fun _ => bad) := by
  apply (h.validateServoId hs id).andThen
  intro _ s hs
  apply (h.send _ _ _ s hs).andThen
  intro status s hs
  split
  · exact hs
  · exact h.weaken s hs

theorem startMotor (id : UInt8) (counterClockwise : Bool) (speed : UInt16) (acceleration : UInt8) :
    (startMotor id counterClockwise speed acceleration).run.Obeys D s
      (exits (fun _ => ok) fun _ => bad) := by
  apply (h.validateServoId hs id).andThen
  intro _ s hs
  split
  · exact h.weaken s hs
  · apply (h.writeRegister hs _ _ _).andThen
    intro _ s hs
    apply (h.writeRegister hs _ _ _).andThen
    intro _ s hs
    exact h.writeRegister hs _ _ _

theorem stopMotor (id : UInt8) :
    (stopMotor id).run.Obeys D s (exits (fun _ => ok) fun _ => bad) := by
  apply (h.validateServoId hs id).andThen
  intro _ s hs
  exact h.writeRegister hs _ _ _

theorem movePosition (id : UInt8) (position : UInt16) (acceleration : UInt8) (torqueLimit : UInt16) :
    (movePosition id position acceleration torqueLimit).run.Obeys D s
      (exits (fun _ => ok) fun _ => bad) := by
  apply (h.validateServoId hs id).andThen
  intro _ s hs
  split
  · exact h.weaken s hs
  · apply (h.writeRegister hs _ _ _).andThen
    intro _ s hs
    apply (h.writeRegister hs _ _ _).andThen
    intro _ s hs
    exact h.writeRegister hs _ _ _

theorem readPositionsFrom (ids : List UInt8) (positions : BoundedVec PositionResult maxPositionBatch) :
    (readPositionsFrom ids positions).run.Obeys D s (exits (fun _ => ok) fun _ => bad) := by
  induction ids generalizing positions s with
  | nil => exact hs
  | cons id ids ih =>
    apply (h.readPosition hs id).andThen
    intro position s hs
    split
    · exact h.weaken s hs
    · exact ih hs _

/-- The scan drains after each probe that fails, so it never leaves that to its caller. -/
theorem probeServo (id : UInt8) (ids : BoundedVec UInt8 maxScanResults) :
    (probeServo id ids).run.Obeys D s (exits (fun _ => ok) fun _ => bad) := by
  apply (h.pingServo hs id).bind
  rintro (failure | _) s hs
  · cases failure <;> apply (h.drain s hs).bind <;> intro _ s hs
    case transport => exact h.weaken s hs
    all_goals exact hs
  · dsimp only
    split
    · exact h.weaken s hs
    · exact hs

theorem scanFrom (rawIds : List Nat) (ids : BoundedVec UInt8 maxScanResults) :
    (scanFrom rawIds ids).run.Obeys D s (exits (fun _ => ok) fun _ => bad) := by
  induction rawIds generalizing ids s with
  | nil => exact hs
  | cons rawId rawIds ih =>
    rw [Fetchline.scanFrom]
    split
    · exact ih hs ids
    · apply (h.probeServo hs _ ids).andThen
      intro ids s hs
      exact ih hs ids

theorem scanServos (startId endId : UInt8) :
    (scanServos startId endId).run.Obeys D s (exits (fun _ => ok) fun _ => bad) := by
  rw [Fetchline.scanServos]
  split
  · exact h.weaken s hs
  · exact h.scanFrom hs _ _

theorem runCommand (command : ControllerCommand) :
    (runCommand command).run.Obeys D s (exits (fun _ => ok) fun _ => bad) := by
  cases command with
  | startMotor => exact (h.startMotor hs _ _ _ _).andThen fun _ _ hs => hs
  | stopMotor => exact (h.stopMotor hs _).andThen fun _ _ hs => hs
  | setPosition => exact (h.movePosition hs _ _ _ _).andThen fun _ _ hs => hs
  | getPosition => exact (h.readPosition hs _).andThen fun _ _ hs => hs
  | getPositions => exact (h.readPositionsFrom hs _ _).andThen fun _ _ hs => hs
  | scanServos => exact (h.scanServos hs _ _).andThen fun _ _ hs => hs

omit hs in
/-- Whatever the command made of the bus has been drained when its guards are dropped. -/
theorem executeCommand (command : ControllerCommand) (hRx : D.allowed s .lockUartRx)
    (hTx : D.allowed (D.next s .lockUartRx ()) .lockUartTx)
    (hHeld : ok (D.next (D.next s .lockUartRx ()) .lockUartTx ())) :
    (executeCommand command).Obeys D s fun _ => ok := by
  refine ⟨hRx, fun _ => ⟨hTx, fun _ => ?_⟩⟩
  apply (h.runCommand hHeld command).bind
  rintro (failure | result) s hs
  · apply (h.drain s hs).bind
    intro _ s hs
    exact hs
  · exact hs

end Transacts

/-- What the methods of a request ask of a discipline in state `s`. -/
structure Serves (D : Discipline BusOp BusOp.Reply σ) (s : σ) (request : JsonRpcRequest)
    (Q : Except RpcFailure ControllerResult → σ → Prop) : Prop where
  ping : Q (.ok .ready) s
  enable : D.allowed s .enableTunnel ∧ Q (.ok (.rawTunnel true)) (D.next s .enableTunnel ())
  disable : D.allowed s .disableTunnel ∧ Q (.ok (.rawTunnel false)) (D.next s .disableTunnel ())
  test : D.allowed s .isTunnelEnabled
  active : Q (.error .rawTunnelActive) (D.next s .isTunnelEnabled true)
  rejected : ∀ failure, commandFromRequest request.method request.params = .error failure →
    Q (.error failure) (D.next s .isTunnelEnabled false)
  command : ∀ command, (executeCommand command).Obeys D (D.next s .isTunnelEnabled false)
    fun result s' => Q (result.mapError ServoFailure.rpcFailure) s'

theorem Serves.serveMethod {s : σ} {request : JsonRpcRequest}
    {Q : Except RpcFailure ControllerResult → σ → Prop} (h : Serves D s request Q) :
    (serveMethod request).Obeys D s Q := by
  rw [Fetchline.serveMethod]
  split
  · exact h.ping
  · exact ⟨h.enable.1, fun _ => h.enable.2⟩
  · exact ⟨h.disable.1, fun _ => h.disable.2⟩
  · refine ⟨h.test, ?_⟩
    rintro (_ | _)
    · simp only [Bool.false_eq_true, if_false]
      split
      · exact (h.command _).bind fun _ _ hQ => hQ
      · rename_i failure hCommand
        exact h.rejected failure hCommand
    · exact h.active

theorem handleJsonRpc_obeys {s : σ} {fromSlice : String → Option JsonRpcRequest} {capacity : Nat}
    {text : String} {Q : Option (EncodedResponse capacity) → σ → Prop}
    (hUnparsed : fromSlice text = none → Q (encodeError capacity none .parseError) s)
    (hInvalid : ∀ request, fromSlice text = some request → request.jsonrpc ≠ "2.0" →
      Q (encodeError capacity request.id .invalidRequest) s)
    (hServed : ∀ request, fromSlice text = some request → request.jsonrpc = "2.0" →
      (serveMethod request).Obeys D s fun result s' => Q (encodeResult capacity request.id result) s') :
    (handleJsonRpc fromSlice capacity text).Obeys D s Q := by
  rw [handleJsonRpc]
  split
  · rename_i hParsed
    exact hUnparsed hParsed
  · rename_i request hParsed
    split
    · rename_i hVersion
      exact hInvalid request hParsed hVersion
    · rename_i hVersion
      exact (hServed request hParsed (not_not.mp hVersion)).bind fun _ _ hQ => hQ

end Fetchline
