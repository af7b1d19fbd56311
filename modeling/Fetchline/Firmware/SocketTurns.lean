import Fetchline.Firmware.Upgrade
import Fetchline.Library.Dialogue
import Fetchline.Library.Select

/-! # The firmware's side of a dialogue

A program that takes certain bytes and then writes certain others takes these turns of a dialogue,
however far what arrives next has come by then.
-/

namespace Fetchline.WebSocket

open Effects Effects.Program Turn

variable {α β : Type}

theorem run_incoming (p : Program SocketOp SocketOp.Reply α) (tcp : Tcp) :
    (p.run segmented tcp).2.incoming.flatten <:+ tcp.incoming.flatten := by
  induction p generalizing tcp with
  | done a => exact List.suffix_rfl
  | call op next ih =>
    refine (ih _ _).trans ?_
    cases op with
    | read limit => exact ⟨_, takeSegment_flatten limit tcp.incoming⟩
    | writeAll bytes => exact List.suffix_rfl

theorem run_sent (p : Program SocketOp SocketOp.Reply α) (tcp : Tcp) :
    tcp.sent <+: (p.run segmented tcp).2.sent := by
  induction p generalizing tcp with
  | done a => exact List.prefix_rfl
  | call op next ih =>
    refine List.IsPrefix.trans ?_ (ih _ _)
    cases op with
    | read limit => exact List.prefix_rfl
    | writeAll bytes => exact List.prefix_append _ _

/-- An empty segment makes no difference. -/
theorem run_empty_segment (p : Program SocketOp SocketOp.Reply α) (incoming : List (List UInt8))
    (sent : List UInt8) :
    (p.run segmented ⟨[] :: incoming, sent⟩).1 = (p.run segmented ⟨incoming, sent⟩).1 ∧
      (p.run segmented ⟨[] :: incoming, sent⟩).2.sent = (p.run segmented ⟨incoming, sent⟩).2.sent ∧
      (p.run segmented ⟨[] :: incoming, sent⟩).2.incoming.flatten =
        (p.run segmented ⟨incoming, sent⟩).2.incoming.flatten := by
  induction p generalizing sent with
  | done a => exact ⟨rfl, rfl, rfl⟩
  | call op next ih =>
    cases op with
    | read limit => exact ⟨rfl, rfl, rfl⟩
    | writeAll bytes => exact ih true _

/-- A read that gets this chunk. -/
def arrived (limit : Nat) (chunk : List UInt8) : SocketOp.Reply (.read limit) :=
  some ⟨chunk.take limit, List.length_take_le limit chunk⟩

def allWritten (bytes : List UInt8) : SocketOp.Reply (.writeAll bytes) := true

theorem takeSegment_chunk {chunk : List UInt8} (hChunk : chunk ≠ []) {limit : Nat}
    (hLimit : chunk.length ≤ limit) (segments : List (List UInt8)) :
    takeSegment limit (chunk :: segments) = (chunk, [] :: segments) := by
  obtain ⟨byte, chunk, rfl⟩ := List.exists_cons_of_ne_nil hChunk
  rw [takeSegment, List.take_of_length_le hLimit, List.drop_of_length_le hLimit]
  exact nofun

/-- The automaton knows whether the program has written; no read comes after that. -/
def readsFirst : Discipline SocketOp SocketOp.Reply Bool where
  allowed wrote
    | .read limit => wrote = false ∧ 0 < limit
    | .writeAll _ => True
  next wrote
    | .read _, _ => wrote
    | .writeAll _, _ => true

abbrev ReadsOnly (p : Socket α) : Prop :=
  p.run.Obeys readsFirst false (exits (fun _ wrote => wrote = false) fun _ _ => True)

abbrev ReadsFirst (p : Socket α) : Prop :=
  p.run.Obeys readsFirst false (exits (fun _ _ => True) fun _ _ => True)

theorem ReadsOnly.pure (a : α) : ReadsOnly (Pure.pure a) := rfl

theorem ReadsOnly.throw (error : Error) : ReadsOnly (throw error : Socket α) := trivial

theorem ReadsOnly.bind {p : Socket α} {f : α → Socket β} (hp : ReadsOnly p)
    (hf : ∀ a, ReadsOnly (f a)) : ReadsOnly (p >>= f) := by
  refine Obeys.andThen hp ?_
  rintro a _ rfl
  exact hf a

theorem ReadsOnly.first {p : Socket α} {f : α → Socket β} (hp : ReadsOnly p)
    (hf : ∀ a, ReadsFirst (f a)) : ReadsFirst (p >>= f) := by
  refine Obeys.andThen hp ?_
  rintro a _ rfl
  exact hf a

theorem readSome_first {limit : Nat} (h : 0 < limit) : ReadsOnly (readSome limit) := by
  refine ⟨⟨rfl, h⟩, fun reply => ?_⟩
  cases reply with
  | none => trivial
  | some read =>
    obtain ⟨bytes, hRead⟩ := read
    cases bytes with
    | nil => trivial
    | cons byte bytes => rfl

theorem fill_first (reads count : Nat) : ReadsOnly (fill reads count) := by
  induction reads generalizing count with
  | zero => exact .pure []
  | succ reads ih =>
    rw [fill]
    split
    · exact .pure []
    · rename_i hCount
      exact (readSome_first (Nat.pos_of_ne_zero hCount)).bind fun _ => (ih _).bind fun _ => .pure _

theorem readExact_first (count : Nat) : ReadsOnly (readExact count) := fill_first count count

theorem readHttpRequestFrom_first (n : Nat) (request : List UInt8) :
    ReadsOnly (readHttpRequestFrom n request) := by
  induction n generalizing request with
  | zero => exact .throw _
  | succ n ih =>
    refine (readExact_first 1).bind fun byte => ?_
    dsimp only
    split
    · exact .pure _
    · exact ih _

theorem readPayloadLen_first (firstLen : UInt8) : ReadsOnly (readPayloadLen firstLen) := by
  rw [readPayloadLen]
  split
  · exact .pure _
  split
  · exact (readExact_first 2).bind fun _ => .pure _
  · exact .throw _

theorem readFrame_first (size : Nat) : ReadsOnly (readFrame size) := by
  refine (readExact_first 2).bind fun header => ?_
  split
  · exact .throw _
  refine (readPayloadLen_first _).bind fun payloadLen => ?_
  split
  · exact .throw _
  · exact (readExact_first 4).bind fun _ => (readExact_first _).bind fun _ => .pure _

theorem writeAll_last (bytes : List UInt8) (wrote : Bool) :
    (writeAll bytes).run.Obeys readsFirst wrote (exits (fun _ _ => True) fun _ _ => True) := by
  refine ⟨trivial, fun (written : Bool) => ?_⟩
  cases written <;> trivial

theorem writeFrame_last (opcode : UInt8) (payload : List UInt8) :
    ReadsFirst (writeFrame opcode payload) := by
  rw [writeFrame]
  split
  · exact (writeAll_last _ _).andThen fun _ _ _ => writeAll_last _ _
  split
  · exact (writeAll_last _ _).andThen fun _ _ _ => writeAll_last _ _
  · exact trivial

theorem answerFrame_last (opcode : UInt8) (payload : List UInt8) :
    ReadsFirst (answerFrame opcode payload) := by
  rw [answerFrame]
  split
  · cases Utf8.decode payload <;> exact trivial
  split
  · exact (writeFrame_last _ _).andThen fun _ _ _ => trivial
  split
  · exact (writeFrame_last _ _).andThen fun _ _ _ => trivial
  split
  · exact trivial
  · exact trivial

theorem readMessage_first (buffer : List UInt8) : ReadsFirst (readMessage buffer) := by
  rw [readMessage_eq]
  refine (readFrame_first _).first fun frame => ?_
  exact (answerFrame_last _ _).andThen fun _ _ _ => trivial

theorem upgrade_first (crypto : Crypto) : ReadsFirst (upgrade crypto) := by
  change ReadsFirst (readHttpRequest httpRequestMaxLen >>= answerHead crypto)
  refine (readHttpRequestFrom_first _ _).first fun request => ?_
  rw [answerHead]
  cases Utf8.decode request with
  | none => exact trivial
  | some text =>
    dsimp only
    cases validateHandshake crypto.decode text with
    | error error => exact trivial
    | ok key =>
      dsimp only
      split
      · exact trivial
      · split
        · exact trivial
        · exact writeAll_last _ _

section Turns

variable {ε : Type} {ρ : ε → Type} {σ γ δ : Type} {port : Port ε ρ UInt8 σ} {s : σ}
variable {request : SocketOp → ε} {reply : (op : SocketOp) → op.Reply → ρ (request op)}

/-- The effects of the socket, at the connection's end in this state. -/
structure Carries (port : Port ε ρ UInt8 σ) (s : σ) (request : SocketOp → ε)
    (reply : (op : SocketOp) → op.Reply → ρ (request op)) : Prop where
  read (limit : Nat) : port s (request (.read limit)) = .receive limit fun chunk =>
    reply (.read limit) (arrived limit chunk)
  write (bytes : List UInt8) :
    port s (request (.writeAll bytes)) = .send bytes (reply (.writeAll bytes) (allWritten bytes))

/-- `Takes`, for what is left of a program when it has sent so much. -/
def TakesFrom (sent : List UInt8) (p : Program SocketOp SocketOp.Reply α) (bytes : List UInt8)
    (result : α) (written : List UInt8) : Prop :=
  ∀ incoming rest, incoming.flatten = bytes ++ rest →
    ∃ incoming', p.run segmented ⟨incoming, sent⟩ = (result, ⟨incoming', sent ++ written⟩) ∧
      incoming'.flatten = rest

variable {p : Program SocketOp SocketOp.Reply α} {bytes written sent : List UInt8} {result : α}

theorem TakesFrom.done {a : α} (h : TakesFrom sent (.done a) bytes result written) :
    bytes = [] ∧ result = a ∧ written = [] := by
  obtain ⟨incoming, hRun, hRest⟩ := h [bytes] [] (by simp)
  obtain ⟨hResult, hTcp⟩ := Prod.mk.inj hRun
  obtain ⟨hIncoming, hSent⟩ := Tcp.mk.inj hTcp
  refine ⟨?_, hResult.symm, List.self_eq_append_right.mp hSent⟩
  rw [← hIncoming, List.flatten_singleton] at hRest
  exact hRest

/-- A read takes no byte that the program is not to take. -/
theorem TakesFrom.read {limit : Nat}
    {next : SocketOp.Reply (.read limit) → Program SocketOp SocketOp.Reply α}
    (h : TakesFrom sent (.call (.read limit) next) bytes result written) {chunk : List UInt8}
    (hChunk : chunk ≠ []) (hLimit : chunk.length ≤ limit) :
    (∀ more, chunk = bytes ++ more → more = []) ∧ ∀ bytes', bytes = chunk ++ bytes' →
      TakesFrom sent (next (arrived limit chunk)) bytes' result written := by
  have hRun (segments : List (List UInt8)) :
      (Program.call (.read limit) next).run segmented ⟨chunk :: segments, sent⟩ =
        (next (arrived limit chunk)).run segmented ⟨[] :: segments, sent⟩ := by
    have hTaken := takeSegment_chunk hChunk hLimit segments
    rw [run_call]
    simp only [segmented, hTaken, arrived, List.take_of_length_le hLimit]
  constructor
  · rintro more rfl
    obtain ⟨incoming, hEnd, hRest⟩ := h [bytes ++ more] more (by simp)
    rw [hRun] at hEnd
    have hSuffix := run_incoming (next (arrived limit (bytes ++ more))) ⟨[[]], sent⟩
    rw [hEnd] at hSuffix
    dsimp only at hSuffix
    rw [hRest] at hSuffix
    exact List.suffix_nil.mp hSuffix
  · rintro bytes' rfl segments rest hStream
    obtain ⟨incoming, hEnd, hRest⟩ := h (chunk :: segments) rest (by
      rw [List.flatten_cons, hStream, List.append_assoc])
    rw [hRun] at hEnd
    obtain ⟨hResult, hSent, hIncoming⟩ :=
      run_empty_segment (next (arrived limit chunk)) segments sent
    rw [hEnd] at hResult hSent hIncoming
    generalize (next (arrived limit chunk)).run segmented ⟨segments, sent⟩ = reached at *
    obtain ⟨result', incoming', sent'⟩ := reached
    dsimp only at hResult hSent hIncoming
    subst hResult hSent
    exact ⟨incoming', rfl, hIncoming.symm.trans hRest⟩

theorem TakesFrom.write {chunk : List UInt8} {next : Bool → Program SocketOp SocketOp.Reply α}
    (h : TakesFrom sent (.call (.writeAll chunk) next) bytes result written) :
    ∃ written', written = chunk ++ written' ∧
      TakesFrom (sent ++ chunk) (next true) bytes result written' := by
  have hPrefix := run_sent (next true) ⟨[bytes], sent ++ chunk⟩
  obtain ⟨incoming, hRun, -⟩ := h [bytes] [] (by simp)
  rw [show (next true).run segmented ⟨[bytes], sent ++ chunk⟩ = (result, ⟨incoming, sent ++ written⟩)
    from hRun] at hPrefix
  obtain ⟨written', rfl⟩ := (List.prefix_append_right_inj sent).mp hPrefix
  refine ⟨written', rfl, fun segments rest hStream => ?_⟩
  rw [List.append_assoc]
  exact h segments rest hStream

theorem TakesFrom.writing (h : TakesFrom sent p bytes result written) {Q : α → Bool → Prop}
    (hOrder : p.Obeys readsFirst true Q) : bytes = [] := by
  have hIncoming (tcp : Tcp) : (p.run segmented tcp).2.incoming = tcp.incoming := by
    clear h
    induction p generalizing tcp with
    | done a => rfl
    | call op next ih =>
      cases op with
      | read limit => exact absurd hOrder.1.1 (by decide)
      | writeAll bytes => exact ih _ (hOrder.2 _) _
  obtain ⟨incoming, hRun, hRest⟩ := h [bytes] [] (by simp)
  have hSame := hIncoming ⟨[bytes], sent⟩
  rw [hRun] at hSame
  dsimp only at hSame
  rw [hSame, List.flatten_singleton] at hRest
  exact hRest

theorem takesFrom_keeps {finish : α → γ} {whole : Program SocketOp SocketOp.Reply α → Program ε ρ γ}
    (hInside : Inside request reply finish whole) (hCarries : Carries port s request reply)
    {K : Program ε ρ δ → σ → Prop} {f : γ → Program ε ρ δ} {turns : List (Turn UInt8)}
    (hNext : (f (finish result)).Keeps port K s turns) {wrote : Bool} {Q : α → Bool → Prop}
    (hOrder : p.Obeys readsFirst wrote Q) (hTakes : TakesFrom sent p bytes result written) :
    (whole p >>= f).Keeps port K s (heard bytes ++ (spoken written ++ turns)) := by
  induction p generalizing bytes written sent wrote with
  | done a =>
    obtain ⟨rfl, rfl, rfl⟩ := hTakes.done
    rw [hInside.done]
    exact hNext
  | call op next ih =>
    obtain ⟨next', hWhole, hReply⟩ := hInside.call op next
    rw [hWhole, call_bind]
    cases op with
    | read limit =>
      obtain ⟨hFirst, hLimit⟩ := hOrder.1
      rcases bytes with _ | ⟨byte, bytes⟩
      · have hExtra := (hTakes.read (List.cons_ne_nil 0 []) hLimit).1 [0] rfl
        cases hExtra
      refine .receive (hCarries.read limit) hLimit fun chunk rest hChunk hLength hTurns => ?_
      obtain ⟨hWithin, hLater⟩ := hTakes.read hChunk hLength
      have hTurns : heard (byte :: bytes) ++ (spoken written ++ turns) = heard chunk ++ rest := hTurns
      -- The chunk lies within the bytes that the program is to take.
      have hSplit : ∃ bytes', byte :: bytes = chunk ++ bytes' ∧
          rest = heard bytes' ++ (spoken written ++ turns) := by
        rcases heard_split hTurns with hSplit | ⟨more, hMore, rfl, -⟩
        · exact hSplit
        · exact absurd (hWithin more rfl) hMore
      obtain ⟨bytes', hBytes, rfl⟩ := hSplit
      rw [hReply]
      exact ih _ (hOrder.2 _) (hLater bytes' hBytes)
    | writeAll chunk =>
      obtain ⟨written', rfl, hLater⟩ := hTakes.write
      obtain rfl : bytes = [] := hLater.writing (hOrder.2 (allWritten chunk))
      have hSend : (next' (reply (.writeAll chunk) (allWritten chunk)) >>= f).Keeps port K s
          (heard [] ++ (spoken written' ++ turns)) := by
        rw [hReply]
        exact ih (allWritten chunk) (hOrder.2 _) hLater
      rw [spoken_append, List.append_assoc]
      exact .send (hCarries.write chunk) hSend

/-- `p` takes its bytes and writes its answer in the turns of the whole. -/
theorem Takes.keeps {p : Socket α} {result : Except Error α} {written : List UInt8}
    (hTakes : Takes p bytes result written) (hOrder : ReadsFirst p)
    {finish : Except Error α → γ}
    {whole : Program SocketOp SocketOp.Reply (Except Error α) → Program ε ρ γ}
    (hInside : Inside request reply finish whole) (hCarries : Carries port s request reply)
    {K : Program ε ρ δ → σ → Prop} {f : γ → Program ε ρ δ} {turns : List (Turn UInt8)}
    (hNext : (f (finish result)).Keeps port K s turns) :
    (whole p.run >>= f).Keeps port K s (heard bytes ++ (spoken written ++ turns)) :=
  takesFrom_keeps hInside hCarries hNext hOrder
    fun incoming rest hStream => hTakes ⟨incoming, []⟩ rest hStream

end Turns

end Fetchline.WebSocket
