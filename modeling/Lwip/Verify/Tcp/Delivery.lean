import Lwip.Verify.Tcp.Receive

/-! What the application reads. `receive` hands out the whole buffer and leaves it as it is, so
each call returns the stream from its beginning: what the calls return, put together, is the
stream only as long as nobody calls again after the first bytes have come
(`receive_returns_all`). -/

namespace Lwip

namespace TCPConnection

variable {c c' : TCPConnection} {p : TCPPacket} {now : Time} {sent : List TCPPacket} {isn : UInt32}

/-- What `process_in_order_data` appends when the packet is handled. -/
def inOrder (c : TCPConnection) (p : TCPPacket) : Bytes :=
  if c.state = .established ∧ p.hasFlag tcpFlagFin = false ∧ p.hasFlag tcpFlagAck = true ∧
    p.getSequenceNumber = c.remoteSeqNum then p.getPayload else []

/-- A connection, what the calls of `receive` have returned so far, one after the other, and the
bytes appended in order so far. -/
structure Reader where
  conn : TCPConnection
  delivered : Bytes
  appended : Bytes

def Reader.Step (o : Reader) (e : Op × List TCPPacket) (o' : Reader) : Prop :=
  TCPConnection.Step o.conn e o'.conn ∧
    o'.delivered = (match e.1 with
      | .receive => o.delivered ++ o.conn.receive.2
      | _ => o.delivered) ∧
    o'.appended = (match e.1 with
      | .handlePacket _ p => o.appended ++ inOrder o.conn p
      | _ => o.appended)

/-- The buffer is the stream, of which what has been delivered is the beginning. -/
structure Reading (o : Reader) : Prop where
  buffer : o.conn.receivedData = o.appended
  once : o.delivered <+: o.appended

theorem inOrder_of_state (st : c.state ≠ .established) : inOrder c p = [] :=
  if_neg fun h => st h.1

theorem Transition.receivedData (h : Transition now c p c' sent) :
    c'.receivedData = c.receivedData ++ inOrder c p := by
  by_cases st : c.state = .established
  · rcases h.of_established st with ⟨fin, rfl⟩ | ⟨fin, ack, rfl⟩ | ⟨fin, ack, rfl⟩
    · simp [inOrder, fin]
    · obtain ⟨_, _, hw⟩ := updateWindow_frame ({ c with lastActivity := now }.handleData p) p
      rw [hw]
      rcases handleData_cases { c with lastActivity := now } p with
        ⟨none, hd⟩ | ⟨-, expected, hd⟩ | ⟨-, other, hd⟩ <;> rw [hd]
      · simp [inOrder, TCPPacket.getPayload, none]
      · rw [inOrder, if_pos ⟨st, fin, ack, expected⟩]
        rfl
      · rw [inOrder, if_neg fun h => other h.2.2.2, List.append_nil]
        rfl
    · simp [inOrder, ack]
  · rw [inOrder_of_state st, List.append_nil]
    cases h with
    | fin st' | data st' => exact absurd st' st
    | _ => rfl

/-- Every other call leaves the buffer alone. -/
theorem Step.receivedData {e : Op × List TCPPacket} (h : Step c e c') :
    c'.receivedData = c.receivedData ++ e.1.packet?.elim [] (inOrder c) := by
  obtain ⟨op, sent⟩ := e
  cases h.effect with
  | packet ht => exact ht.receivedData
  | synSent | synLost | closed => exact (List.append_nil _).symm
  | sent call =>
    obtain ⟨_, _, _, hc⟩ := send_frame call
    rw [hc]
    exact (List.append_nil _).symm
  | other same packet =>
    rw [same.receivedData, packet]
    exact (List.append_nil _).symm

theorem Reader.Step.buffer {o o' : Reader} {e : Op × List TCPPacket} (h : o.Step e o')
    (buffer : o.conn.receivedData = o.appended) : o'.conn.receivedData = o'.appended := by
  obtain ⟨op, sent⟩ := e
  rw [h.1.receivedData, buffer, h.2.2]
  cases op <;> simp [Op.packet?]

/-- A call of `receive` leaves the bytes delivered the beginning of the stream exactly when there
were none before. -/
theorem Reader.Step.once_iff {o o' : Reader} {e : Op × List TCPPacket} (h : o.Step e o')
    (inv : Reading o) : o'.delivered <+: o'.appended ↔ (e.1 = .receive → o.delivered = []) := by
  obtain ⟨op, sent⟩ := e
  rw [h.2.1, h.2.2]
  cases op with
  | receive =>
    change o.delivered ++ o.conn.receivedData <+: o.appended ↔ _
    rw [inv.buffer]
    constructor
    · intro longer _
      have := longer.length_le
      rw [List.length_append] at this
      exact List.eq_nil_of_length_eq_zero (by omega)
    · intro none
      rw [none rfl, List.nil_append]
  | handlePacket now p =>
    exact iff_of_true (inv.once.trans (List.prefix_append _ _)) fun eq => by cases eq
  | _ => exact iff_of_true inv.once fun eq => by cases eq

/-- In every run a call of `receive` returns all bytes appended so far. What the calls return, put
together, is a prefix of the stream exactly as long as none is made after one that returned
bytes. -/
theorem receive_returns_all {es : List (Op × List TCPPacket)} {o : Reader} :
    (Run Reader.Step ⟨new isn, [], []⟩ es o → o.conn.receive = (true, o.appended)) ∧
    (Run (fun o e o' => o.Step e o' ∧ o'.delivered <+: o'.appended) ⟨new isn, [], []⟩ es o ↔
      Run (fun o e o' => o.Step e o' ∧ (e.1 = .receive → o.delivered = [])) ⟨new isn, [], []⟩
        es o) := by
  constructor
  · intro run
    have buffer : o.conn.receivedData = o.appended :=
      run.invariant (fun o => o.conn.receivedData = o.appended) rfl fun _ _ _ ho h => h.buffer ho
    rw [receive, buffer]
  · apply Run.law_iff_guard Reading ⟨rfl, List.prefix_rfl⟩
    · intro o e o' inv h first
      exact ⟨h.buffer inv.buffer, (h.once_iff inv).mpr first⟩
    · intro o e o' inv h
      exact h.once_iff inv

/-- One byte arrives and is read twice. -/
theorem delivered_twice : ∃ es o, Run Reader.Step ⟨new 100, [], []⟩ es o ∧
    o.appended = [1] ∧ o.delivered = [1, 1] ∧ ¬ o.delivered <+: o.appended := by
  let c := ((openedBy 100 300).handlePacket 0 (peerData 301 [1])).conn
  have connected : Reader.Step ⟨new 100, [], []⟩
      (.connect 1 80 true, [(new 100).synPacket 80])
      ⟨((new 100).connect 1 80 true).conn, [], []⟩ := ⟨rfl, rfl, rfl⟩
  have opened : Reader.Step ⟨((new 100).connect 1 80 true).conn, [], []⟩
      (.handlePacket 0 (peerSynAck 300 101), [(openedBy 100 300).ackPacket])
      ⟨openedBy 100 300, [], []⟩ := ⟨rfl, rfl, rfl⟩
  have arrived : Reader.Step ⟨openedBy 100 300, [], []⟩
      (.handlePacket 0 (peerData 301 [1]), []) ⟨c, [], [1]⟩ := ⟨rfl, rfl, rfl⟩
  have first : Reader.Step ⟨c, [], [1]⟩ (.receive, []) ⟨c, [1], [1]⟩ := ⟨rfl, rfl, rfl⟩
  have again : Reader.Step ⟨c, [1], [1]⟩ (.receive, []) ⟨c, [1, 1], [1]⟩ := ⟨rfl, rfl, rfl⟩
  exact ⟨_, _, ((((Run.single connected).snoc opened).snoc arrived).snoc first).snoc again, rfl,
    rfl, by decide⟩

end TCPConnection

end Lwip
