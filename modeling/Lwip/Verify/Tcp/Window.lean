import Lwip.Verify.Tcp.Sending

/-! The data in flight against the windows. `send` goes by `tcp_params_`, which no packet changes,
and by the size of one chunk at a time: neither what is in flight already nor the window that the
peer advertised nor the congestion window bounds what a call puts on the wire.
`fits_window_iff` says how much that is, and so which calls stay within the windows. -/

namespace Lwip

namespace TCPConnection

variable {c c' : TCPConnection} {data : Bytes} {window fuel : Nat} {now : Nat → Time}
  {ok : Nat → Bool} {s s' : Sending} {r : Call Bool} {isn : UInt32}

/-! ## What a call of send puts on the wire -/

def dataBytes (ps : List TCPPacket) : Nat := (ps.map (·.getPayloadSize)).sum

/-- The bytes of the first `k` segments of `data`, as the 16-bit casts of `send` leave them. -/
def sendable (c : TCPConnection) (data : Bytes) (k : Nat) : Nat :=
  min (data.length % 65536) (k * c.maxSegmentSize.toNat)

theorem dataBytes_concat (ps : List TCPPacket) (p : TCPPacket) :
    dataBytes (ps ++ [p]) = dataBytes ps + p.getPayloadSize := by
  simp [dataBytes]

/-- What holds at the head of the loop of `send`, called on `c`. -/
structure Advancing (data : Bytes) (ok : Nat → Bool) (c : TCPConnection) (s : Sending) : Prop where
  mss : s.conn.maxSegmentSize = c.maxSegmentSize
  good : ∀ i < s.sent.length, ok i = true
  succeeded : succeeded ok s.sent = s.sent
  offset : s.offset = c.sendable data s.sent.length
  bytes : dataBytes s.sent = s.offset

/-- Of what is left of `data` a segment takes what the casts leave. -/
theorem chunkSize_mod {rest : Nat} (wide : c.maxSegmentSize.toNat ≤ window % 65536) :
    (c.chunkSize window rest).toNat = min c.maxSegmentSize.toNat (rest % 65536) := by
  rw [chunkSize, toNat_min16, toNat_min16, UInt16.toNat_ofNat', UInt16.toNat_ofNat']
  change min (min _ (rest % 65536)) (window % 65536) = _
  omega

theorem Advancing.turn (h : Advancing data ok c s)
    (wide : c.maxSegmentSize.toNat ≤ window % 65536)
    (hb : sendTurn data window now ok s = .again s') : Advancing data ok c s' := by
  obtain ⟨-, sent, rfl⟩ := sendTurn_again hb
  have offset := h.offset
  rw [sendable] at offset
  have size : (s.next data window).getPayloadSize =
      min c.maxSegmentSize.toNat (data.length % 65536 - s.offset) := by
    rw [Sending.size_next, chunkSize_mod (by rw [h.mss]; exact wide), h.mss]
    have := Nat.mod_le data.length 65536
    omega
  refine ⟨h.mss, forall_succeeded_concat h.good sent _, ?_, ?_, ?_⟩
  · rw [succeeded_append, h.succeeded, sent, if_pos rfl]
  · dsimp only
    rw [sendable, size, List.length_append, List.length_singleton, Nat.succ_mul]
    omega
  · dsimp only
    rw [dataBytes_concat, h.bytes]

/-- The bytes that a call puts on the wire: those of as many segments as `send_packet` succeeds
for in a row. -/
theorem send_bytes (hr : DefaultWindow c) (unacked : c.unackedSegments = [])
    (st : c.state = .established) (call : c.send data now ok fuel = some r) :
    (∃ k, (∀ i < k, ok i = true) ∧ dataBytes (succeeded ok r.sent) = c.sendable data k) ∧
    ∀ k, (∀ i < k, ok i = true) → c.sendable data k ≤ dataBytes (succeeded ok r.sent) := by
  have wide : c.maxSegmentSize.toNat ≤ c.sendingWindow % 65536 := by
    rcases Nat.eq_zero_or_pos c.maxSegmentSize.toNat with zero | pos
    · omega
    · obtain ⟨wide, fits⟩ := hr.sendingWindow pos
      omega
  rcases send_loop call with ⟨st', -⟩ | ⟨-, pending, -⟩ | ⟨-, run⟩
  · exact absurd st st'
  · rw [unackedData, unacked] at pending
    cases pending
  have start : Advancing data ok c ⟨0, c, []⟩ :=
    ⟨rfl, (fun _ hi => by cases hi), rfl, by simp [sendable], rfl⟩
  obtain ⟨s, h, hb⟩ := Loop.run_invariant (Advancing data ok c) (fun _ _ h hb => h.turn wide hb)
    start run
  have offset := h.offset
  rw [sendable] at offset
  rcases sendTurn_done hb with ⟨-, bad, rfl⟩ | ⟨all, rfl⟩
  · -- the attempt that failed is the first one
    have sent : succeeded ok (s.sent ++ [s.next data c.sendingWindow]) = s.sent := by
      rw [succeeded_append, h.succeeded, bad, if_neg Bool.false_ne_true, List.append_nil]
    rw [sent, h.bytes]
    refine ⟨⟨s.sent.length, h.good, h.offset⟩, fun k hk => ?_⟩
    have le : k ≤ s.sent.length := by
      by_contra lt
      rw [hk s.sent.length (by omega)] at bad
      cases bad
    have := Nat.mul_le_mul_right c.maxSegmentSize.toNat le
    rw [sendable]
    omega
  · rw [h.succeeded, h.bytes]
    refine ⟨⟨s.sent.length, h.good, h.offset⟩, fun k _ => ?_⟩
    have := Nat.mod_le data.length 65536
    rw [sendable]
    omega

/-! ## Runs -/

/-- A connection with the number of data bytes in flight and the window that the peer's latest ACK
has advertised. -/
structure Flight where
  conn : TCPConnection
  inFlight : Nat
  advertised : Option UInt16

/-- An ACK leaves in flight what comes after its number, unless it is an old one. -/
def Flight.Step (o : Flight) (e : Op × List TCPPacket) (o' : Flight) : Prop :=
  TCPConnection.Step o.conn e o'.conn ∧
    o'.inFlight = (match e.1 with
      | .send _ _ ok _ => o.inFlight + dataBytes (succeeded ok e.2)
      | .handlePacket _ p =>
        if p.hasFlag tcpFlagAck then min o.inFlight (o.conn.localSeqNum - p.getAckNumber).toNat
        else o.inFlight
      | _ => o.inFlight) ∧
    o'.advertised = (match e.1 with
      | .handlePacket _ p =>
        if p.hasFlag tcpFlagAck then some p.getWindowSize else o.advertised
      | _ => o.advertised)

/-- A call of `send` that adds to what is in flight stays within both windows. -/
def FitsWindow (o : Flight) (e : Op × List TCPPacket) (o' : Flight) : Prop :=
  ∀ data now ok fuel, e.1 = .send data now ok fuel → o.inFlight < o'.inFlight →
    ∀ w, o.advertised = some w → o'.inFlight ≤ min w.toNat o.conn.window.cwnd.toNat

/-- The segments of the data for which `send_packet` succeeds in a row fit into what the windows
leave. -/
def HasRoom (o : Flight) (e : Op × List TCPPacket) : Prop :=
  ∀ data now ok fuel, e.1 = .send data now ok fuel → o.conn.state = .established →
    ∀ w, o.advertised = some w → ∀ k, (∀ i < k, ok i = true) → 0 < o.conn.sendable data k →
      o.inFlight + o.conn.sendable data k ≤ min w.toNat o.conn.window.cwnd.toNat

theorem Flight.Step.send {o o' : Flight} {sent : List TCPPacket}
    (h : o.Step (.send data now ok fuel, sent) o') : ∃ r, o.conn.send data now ok fuel = some r ∧
      o'.inFlight = o.inFlight + dataBytes (succeeded ok r.sent) := by
  obtain ⟨step, inFlight, -⟩ := h
  obtain ⟨r, call, eq⟩ := Option.map_eq_some_iff.mp step
  rw [Prod.mk.injEq] at eq
  refine ⟨r, call, ?_⟩
  rw [inFlight, eq.2]

theorem Flight.Step.fits_iff {o o' : Flight} {e : Op × List TCPPacket} (h : o.Step e o')
    (inv : Inv o.conn) (hw : DefaultWindow o.conn) : FitsWindow o e o' ↔ HasRoom o e := by
  obtain ⟨op, sent⟩ := e
  constructor
  · intro fits data now ok fuel eq st w hw' k hk pos
    obtain rfl : op = .send data now ok fuel := eq
    obtain ⟨r, call, inFlight⟩ := h.send
    have le := (send_bytes hw inv.unacked st call).2 k hk
    have bound := fits data now ok fuel rfl (by omega) w hw'
    omega
  · intro room data now ok fuel eq more w hw'
    obtain rfl : op = .send data now ok fuel := eq
    obtain ⟨r, call, inFlight⟩ := h.send
    have st : o.conn.state = .established := by
      rcases send_loop call with ⟨-, rfl⟩ | ⟨st, -⟩ | ⟨st, -⟩
      · simp [inFlight, succeeded, dataBytes] at more
      · exact st
      · exact st
    obtain ⟨k, hk, bytes⟩ := (send_bytes hw inv.unacked st call).1
    rw [inFlight, bytes]
    exact room data now ok fuel rfl st w hw' k hk (by omega)

/-- In a run no call of `send` brings the data in flight above the window that the peer advertised
or above the congestion window, exactly when every call is given no more than what they leave. -/
theorem fits_window_iff {es : List (Op × List TCPPacket)} {o : Flight} :
    Run (fun o e o' => o.Step e o' ∧ FitsWindow o e o') ⟨new isn, 0, none⟩ es o ↔
      Run (fun o e o' => o.Step e o' ∧ HasRoom o e) ⟨new isn, 0, none⟩ es o := by
  apply Run.law_iff_guard (fun o => Inv o.conn ∧ DefaultWindow o.conn) ⟨.new isn, rfl, rfl⟩
  · intro o e o' inv h _
    exact ⟨inv.1.step h.1, inv.2.step h.1⟩
  · intro o e o' inv h
    exact h.fits_iff inv.1 inv.2

/-- The peer's SYN-ACK advertises a window of no bytes, and three are sent. -/
theorem window_overrun : ∃ es o o' sent, Run Flight.Step ⟨new 100, 0, none⟩ es o ∧
    o.inFlight = 0 ∧ o.advertised = some 0 ∧
    o.Step (.send [1, 2, 3] (fun _ => 0) (fun _ => true) 2, sent) o' ∧ o'.inFlight = 3 := by
  have connected : Flight.Step ⟨new 100, 0, none⟩ (.connect 1 80 true, [(new 100).synPacket 80])
      ⟨((new 100).connect 1 80 true).conn, 0, none⟩ := ⟨rfl, rfl, rfl⟩
  have opened : Flight.Step ⟨((new 100).connect 1 80 true).conn, 0, none⟩
      (.handlePacket 0 (peerSynAck 300 101), [(openedBy 100 300).ackPacket])
      ⟨openedBy 100 300, 0, some 0⟩ := ⟨rfl, rfl, rfl⟩
  refine ⟨_, ⟨openedBy 100 300, 0, some 0⟩,
    ⟨(openedBy 100 300).pushRetransmit [1, 2, 3] 0 3, 3, some 0⟩,
    [(openedBy 100 300).dataPacket [1, 2, 3]], (Run.single connected).snoc opened, rfl, rfl,
    ⟨?_, rfl, rfl⟩, rfl⟩
  rw [TCPConnection.Step, exec]
  simp only [openedBy_eq]
  rfl

end TCPConnection

end Lwip
