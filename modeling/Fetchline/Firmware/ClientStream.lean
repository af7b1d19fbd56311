import Fetchline.Firmware.WebSocket

/-! # What a WebSocket client's bytes mean to the firmware

A program that takes certain bytes and no others does so however TCP splits
them. The reader's round on a frame is such a program, and so is its handling of
any sequence of frames.
-/

namespace Fetchline.WebSocket

open Effects Effects.Program

structure Tcp where
  incoming : List (List UInt8)
  sent : List UInt8
deriving DecidableEq

/-- What one read takes: no more than the segment at hand. -/
def takeSegment (limit : Nat) : List (List UInt8) → List UInt8 × List (List UInt8)
  | [] => ([], [])
  | [] :: segments => takeSegment limit segments
  | segment :: segments => (segment.take limit, segment.drop limit :: segments)

theorem takeSegment_length_le (limit : Nat) (segments : List (List UInt8)) :
    (takeSegment limit segments).1.length ≤ limit := by
  fun_induction takeSegment limit segments with
  | case1 => exact Nat.zero_le _
  | case2 segments ih => exact ih
  | case3 segment segments => exact List.length_take_le _ _

theorem takeSegment_flatten (limit : Nat) (segments : List (List UInt8)) :
    (takeSegment limit segments).1 ++ (takeSegment limit segments).2.flatten = segments.flatten := by
  fun_induction takeSegment limit segments with
  | case1 => rfl
  | case2 segments ih => exact ih
  | case3 segment segments =>
    rw [List.flatten_cons, ← List.append_assoc, List.take_append_drop, List.flatten_cons]

theorem takeSegment_ne_nil {limit : Nat} (hLimit : 0 < limit) {segments : List (List UInt8)}
    (h : segments.flatten ≠ []) : (takeSegment limit segments).1 ≠ [] := by
  fun_induction takeSegment limit segments with
  | case1 => exact absurd rfl h
  | case2 segments ih => exact ih h
  | case3 segment segments hSegment =>
    rw [ne_eq, List.take_eq_nil_iff, not_or]
    exact ⟨Nat.ne_of_gt hLimit, hSegment⟩

def segmented : Handler SocketOp SocketOp.Reply Tcp
  | tcp, .read limit =>
    (some ⟨(takeSegment limit tcp.incoming).1, takeSegment_length_le limit tcp.incoming⟩,
      { tcp with incoming := (takeSegment limit tcp.incoming).2 })
  | tcp, .writeAll bytes => (true, { tcp with sent := tcp.sent ++ bytes })

/-- `p` takes these bytes from the stream, writes those and ends with this result. -/
def Takes {α : Type} (p : Socket α) (bytes : List UInt8) (result : Except Error α)
    (written : List UInt8) : Prop :=
  ∀ tcp rest, tcp.incoming.flatten = bytes ++ rest →
    ∃ incoming, p.run.run segmented tcp = (result, ⟨incoming, tcp.sent ++ written⟩) ∧
      incoming.flatten = rest

section Takes

variable {α β : Type}

theorem Takes.pure (a : α) : Takes (Pure.pure a) [] (.ok a) [] :=
  fun tcp _ h => ⟨tcp.incoming, by rw [List.append_nil]; rfl, h⟩

theorem Takes.throw (error : Error) : Takes (throw error : Socket α) [] (.error error) [] :=
  fun tcp _ h => ⟨tcp.incoming, by rw [List.append_nil]; rfl, h⟩

theorem Takes.bind {p : Socket α} {f : α → Socket β} {a : α} {bytes bytes' written written' : List UInt8}
    {result : Except Error β} (hp : Takes p bytes (.ok a) written)
    (hf : Takes (f a) bytes' result written') :
    Takes (p >>= f) (bytes ++ bytes') result (written ++ written') := by
  intro tcp rest h
  obtain ⟨incoming, hRun, hRest⟩ := hp tcp (bytes' ++ rest) (by rw [h, List.append_assoc])
  obtain ⟨incoming', hRun', hRest'⟩ := hf ⟨incoming, tcp.sent ++ written⟩ rest hRest
  refine ⟨incoming', ?_, hRest'⟩
  rw [ExceptT.run_bind, run_bind, hRun]
  simp only [hRun', List.append_assoc]

theorem Takes.reads {p : Socket α} {f : α → Socket β} {a : α} {bytes bytes' written : List UInt8}
    {result : Except Error β} (hp : Takes p bytes (.ok a) []) (hf : Takes (f a) bytes' result written) :
    Takes (p >>= f) (bytes ++ bytes') result written := hp.bind hf

theorem Takes.bind_nil {p : Socket α} {f : α → Socket β} {a : α} {bytes written : List UInt8}
    {result : Except Error β} (hp : Takes p bytes (.ok a) written)
    (hf : Takes (f a) [] result []) : Takes (p >>= f) bytes result written := by
  have h := hp.bind hf
  rwa [List.append_nil, List.append_nil] at h

theorem Takes.bind_error {p : Socket α} {f : α → Socket β} {error : Error}
    {bytes written : List UInt8} (hp : Takes p bytes (.error error) written) :
    Takes (p >>= f) bytes (.error error) written := by
  intro tcp rest h
  obtain ⟨incoming, hRun, hRest⟩ := hp tcp rest h
  refine ⟨incoming, ?_, hRest⟩
  rw [ExceptT.run_bind, run_bind, hRun]
  rfl

theorem Takes.map {p : Socket α} {bytes written : List UInt8} {result : Except Error α}
    (hp : Takes p bytes result written) (f : α → β) :
    Takes (p >>= fun a => Pure.pure (f a)) bytes (result.map f) written := by
  cases result with
  | ok a => exact .bind_nil hp (.pure (f a))
  | error error => exact .bind_error hp

end Takes

theorem readSome_closed {limit : Nat} {tcp : Tcp} (h : (takeSegment limit tcp.incoming).1 = []) :
    (readSome limit).run.run segmented tcp =
      (.error .closed, ⟨(takeSegment limit tcp.incoming).2, tcp.sent⟩) := by
  simp only [readSome, ExceptT.run_mk, run_call, segmented, Option.map_some, h]
  rfl

theorem readSome_taken {limit : Nat} {tcp : Tcp} {byte : UInt8} {bytes : List UInt8}
    (h : (takeSegment limit tcp.incoming).1 = byte :: bytes) :
    (readSome limit).run.run segmented tcp =
      (.ok (byte :: bytes), ⟨(takeSegment limit tcp.incoming).2, tcp.sent⟩) := by
  simp only [readSome, ExceptT.run_mk, run_call, segmented, Option.map_some, h]
  rfl

theorem readSome_run {limit : Nat} (hLimit : 0 < limit) {tcp : Tcp}
    (h : tcp.incoming.flatten ≠ []) :
    ∃ chunk incoming, (readSome limit).run.run segmented tcp = (.ok chunk, ⟨incoming, tcp.sent⟩) ∧
      0 < chunk.length ∧ chunk.length ≤ limit ∧ chunk ++ incoming.flatten = tcp.incoming.flatten := by
  refine ⟨_, (takeSegment limit tcp.incoming).2, ?_,
    List.length_pos_iff.mpr (takeSegment_ne_nil hLimit h), takeSegment_length_le limit tcp.incoming,
    takeSegment_flatten limit tcp.incoming⟩
  cases hTaken : (takeSegment limit tcp.incoming).1 with
  | nil => exact absurd hTaken (takeSegment_ne_nil hLimit h)
  | cons byte bytes => exact readSome_taken hTaken

theorem fill_takes {reads : Nat} {bytes : List UInt8} (hReads : bytes.length ≤ reads) :
    Takes (fill reads bytes.length) bytes (.ok bytes) [] := by
  induction reads generalizing bytes with
  | zero =>
    obtain rfl := List.length_eq_zero_iff.mp (Nat.le_zero.mp hReads)
    exact .pure []
  | succ reads ih =>
    rw [fill]
    split
    · rename_i hCount
      obtain rfl := List.length_eq_zero_iff.mp hCount
      exact .pure []
    · rename_i hCount
      intro tcp rest h
      have hNe : tcp.incoming.flatten ≠ [] := by
        rw [h]
        exact List.append_ne_nil_of_left_ne_nil (fun hNil => hCount (by rw [hNil]; rfl)) rest
      obtain ⟨chunk, incoming, hRun, hPos, hLength, hFlatten⟩ :=
        readSome_run (Nat.pos_of_ne_zero hCount) hNe
      -- The chunk is the beginning of the wanted bytes.
      obtain ⟨left, rfl⟩ : chunk <+: bytes :=
        List.prefix_of_prefix_length_le ⟨_, hFlatten.trans h⟩ (List.prefix_append bytes rest) hLength
      rw [List.length_append] at hReads
      rw [List.append_assoc] at h
      have hLeft : left.length ≤ reads := by omega
      obtain ⟨incoming', hRun', hRest⟩ := ih hLeft ⟨incoming, tcp.sent⟩ rest
        (List.append_cancel_left (hFlatten.trans h))
      refine ⟨incoming', ?_, hRest⟩
      rw [ExceptT.run_bind, run_bind, hRun]
      simp only [List.length_append, Nat.add_sub_cancel_left]
      rw [ExceptT.run_bind, run_bind, hRun']
      rfl

theorem readExact_takes {count : Nat} {bytes : List UInt8} (h : bytes.length = count) :
    Takes (readExact count) bytes (.ok bytes) [] := by
  subst h
  exact fill_takes (Nat.le_refl _)

theorem writeAll_takes (bytes : List UInt8) : Takes (writeAll bytes) [] (.ok ()) bytes :=
  fun tcp _ h => ⟨tcp.incoming, rfl, h⟩

end Fetchline.WebSocket
