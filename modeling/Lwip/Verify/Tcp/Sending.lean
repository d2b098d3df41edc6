import Lwip.Verify.Tcp.Receive

/-! What `send` puts on the wire. The packets that went out take up consecutive sequence numbers,
and the retransmit queue holds them in the same order, whatever fails in between (`sends_tile`).
Under the window that every connection starts with, a call that succeeds cuts its data into
pieces of the maximum segment size. -/

namespace Lwip

namespace TCPConnection

variable {c c' : TCPConnection} {data : Bytes} {window fuel : Nat} {now : Nat → Time}
  {ok : Nat → Bool} {s s' : Sending} {r : Call Bool} {x y z : UInt32} {ps qs : List TCPPacket}

/-- The packets that went out, where `ok k` says whether the `k`-th attempt succeeded. -/
def succeeded (ok : Nat → Bool) (sent : List TCPPacket) : List TCPPacket :=
  (sent.zipIdx.filter fun a => ok a.2).map Prod.fst

theorem succeeded_append (ok : Nat → Bool) (sent : List TCPPacket) (p : TCPPacket) :
    succeeded ok (sent ++ [p]) = succeeded ok sent ++ if ok sent.length then [p] else [] := by
  rw [succeeded, List.zipIdx_append, List.filter_append, List.map_append, ← succeeded]
  congr 1
  simp only [List.zipIdx_cons, List.zipIdx_nil, Nat.zero_add]
  cases h : ok sent.length <;> simp [h]

/-- All attempts so far succeeded, and so does the next. -/
theorem forall_succeeded_concat {sent : List TCPPacket} (good : ∀ i < sent.length, ok i = true)
    (next : ok sent.length = true) (p : TCPPacket) : ∀ i < (sent ++ [p]).length, ok i = true := by
  intro i hi
  rw [List.length_append, List.length_singleton] at hi
  rcases Nat.lt_succ_iff_lt_or_eq.mp hi with lt | rfl
  · exact good i lt
  · exact next

/-! ## Consecutive packets -/

/-- The packets take up the sequence numbers from `x` up to `y`, one after the other. -/
def Tiles : UInt32 → List TCPPacket → UInt32 → Prop
  | x, [], y => x = y
  | x, p :: ps, y =>
    p.getSequenceNumber = x ∧ Tiles (x + UInt32.ofNat p.getPayloadSize) ps y

theorem Tiles.append (h : Tiles x ps y) (h' : Tiles y qs z) : Tiles x (ps ++ qs) z := by
  induction ps generalizing x with
  | nil =>
    obtain rfl : x = y := h
    exact h'
  | cons p ps ih => exact ⟨h.1, ih h.2⟩

/-- The retransmit queue, without the times. -/
def queued (c : TCPConnection) : List (UInt32 × Bytes) :=
  c.retransmitQueue.map fun s => (s.sequenceNumber, s.data)

def entries (ps : List TCPPacket) : List (UInt32 × Bytes) :=
  ps.map fun p => (p.getSequenceNumber, p.getPayload)

/-- Between `c` and `c'` the packets `ps` went out. -/
structure Sent (c : TCPConnection) (ps : List TCPPacket) (c' : TCPConnection) : Prop where
  tiles : Tiles c.localSeqNum ps c'.localSeqNum
  queue : queued c' = queued c ++ entries ps

theorem Sent.nothing (seq : c'.localSeqNum = c.localSeqNum)
    (queue : c'.retransmitQueue = c.retransmitQueue) : Sent c [] c' :=
  ⟨seq.symm, by simp [queued, entries, queue]⟩

theorem Sent.trans {c'' : TCPConnection} (h : Sent c ps c') (h' : Sent c' qs c'') :
    Sent c (ps ++ qs) c'' := by
  refine ⟨h.tiles.append h'.tiles, ?_⟩
  rw [h'.queue, h.queue, entries, entries, entries, List.map_append, List.append_assoc]

/-! ## One call -/

theorem chunkSize_le_mss (c : TCPConnection) (window rest : Nat) :
    (c.chunkSize window rest).toNat ≤ c.maxSegmentSize.toNat := by
  have h : c.chunkSize window rest ≤ c.maxSegmentSize := by
    rw [chunkSize]
    exact UInt16.le_trans Std.min_le_left Std.min_le_left
  exact UInt16.le_iff_toNat_le.mp h

/-- What holds at the head of the loop of `send`, called on `c`. -/
structure Progressing (data : Bytes) (ok : Nat → Bool) (c : TCPConnection) (s : Sending) :
    Prop where
  sent : Sent c s.sent s.conn
  mss : s.conn.maxSegmentSize = c.maxSegmentSize
  succeeded : succeeded ok s.sent = s.sent
  small : ∀ p ∈ s.sent, p.getPayloadSize ≤ c.maxSegmentSize.toNat
  acks : ∀ p ∈ s.sent, p.getFlags = tcpFlagAck ∧ p.getAckNumber = 0
  nonempty : s.sent ≠ [] → data ≠ []
  payloads : (s.sent.map (·.getPayload)).flatten = data.take s.offset

/-- The next packet, whether it goes out or not. -/
theorem Progressing.attempt (h : Progressing data ok c s) (lt : s.offset < data.length)
    (window : Nat) :
    (∀ p ∈ s.sent ++ [s.next data window], p.getPayloadSize ≤ c.maxSegmentSize.toNat) ∧
    (∀ p ∈ s.sent ++ [s.next data window], p.getFlags = tcpFlagAck ∧ p.getAckNumber = 0) ∧
    data ≠ [] := by
  refine ⟨fun p hp => ?_, fun p hp => ?_, List.ne_nil_of_length_pos (by omega)⟩
  · rcases List.mem_append.mp hp with hp | hp
    · exact h.small p hp
    · rw [List.mem_singleton.mp hp, Sending.size_next, ← h.mss]
      exact s.conn.chunkSize_le_mss _ _
  · rcases List.mem_append.mp hp with hp | hp
    · exact h.acks p hp
    · rw [List.mem_singleton.mp hp]
      exact ⟨rfl, rfl⟩

theorem Progressing.turn (h : Progressing data ok c s)
    (hb : sendTurn data window now ok s = .again s') : Progressing data ok c s' := by
  obtain ⟨lt, good, rfl⟩ := sendTurn_again hb
  obtain ⟨small, acks, nonempty⟩ := h.attempt lt window
  have one : Sent s.conn [s.next data window] (s.conn.pushRetransmit
      (s.next data window).getPayload (now s.sent.length) (s.next data window).getPayloadSize) :=
    ⟨⟨rfl, rfl⟩, by simp [queued, entries, pushRetransmit]; rfl⟩
  refine ⟨h.sent.trans one, h.mss, ?_, small, acks, fun _ => nonempty, ?_⟩
  · rw [succeeded_append, h.succeeded, good, if_pos rfl]
  · dsimp only
    rw [List.map_append, List.flatten_append, h.payloads, List.take_add, Sending.size_next]
    simp only [List.map_cons, List.map_nil, List.flatten_singleton]
    rfl

/-- What a call of `send` has done when it returns. -/
structure Outcome (data : Bytes) (ok : Nat → Bool) (c : TCPConnection) (r : Call Bool) :
    Prop where
  sent : Sent c (succeeded ok r.sent) r.conn
  small : ∀ p ∈ r.sent, p.getPayloadSize ≤ c.maxSegmentSize.toNat
  acks : ∀ p ∈ r.sent, p.getFlags = tcpFlagAck ∧ p.getAckNumber = 0
  nonempty : r.sent ≠ [] → data ≠ []

theorem Progressing.outcome (h : Progressing data ok c s)
    (hb : sendTurn data window now ok s = .done r) : Outcome data ok c r := by
  rcases sendTurn_done hb with ⟨lt, bad, rfl⟩ | ⟨-, rfl⟩
  · obtain ⟨small, acks, nonempty⟩ := h.attempt lt window
    refine ⟨?_, small, acks, fun _ => nonempty⟩
    rw [succeeded_append, h.succeeded, bad, if_neg Bool.false_ne_true, List.append_nil]
    exact h.sent
  · exact ⟨h.succeeded.symm ▸ h.sent, h.small, h.acks, h.nonempty⟩

theorem Progressing.start (data : Bytes) (ok : Nat → Bool) (c : TCPConnection) :
    Progressing data ok c ⟨0, c, []⟩ :=
  ⟨.nothing rfl rfl, rfl, rfl, by simp, by simp, by simp, by simp⟩

theorem send_outcome (call : c.send data now ok fuel = some r) : Outcome data ok c r := by
  rcases send_loop call with ⟨-, rfl⟩ | ⟨-, -, rfl⟩ | ⟨-, run⟩
  · exact ⟨.nothing rfl rfl, by simp, by simp, by simp⟩
  · exact ⟨.nothing rfl rfl, by simp, by simp, by simp⟩
  · obtain ⟨s, h, hb⟩ := Loop.run_invariant (Progressing data ok c) (fun _ _ h hb => h.turn hb)
      (.start data ok c) run
    exact h.outcome hb

/-- With nothing to hold data back for, something is sent when there is something to send. -/
theorem send_nonempty_iff (unacked : c.unackedSegments = [])
    (call : c.send data now ok fuel = some r) :
    r.sent ≠ [] ↔ c.state = .established ∧ data ≠ [] := by
  rcases send_loop call with ⟨st, rfl⟩ | ⟨-, pending, -⟩ | ⟨st, run⟩
  · simp [st]
  · simp [unackedData, unacked] at pending
  · refine ⟨fun ne => ⟨st, (send_outcome call).nonempty ne⟩, fun some => ?_⟩
    obtain ⟨s, h, hb⟩ := Loop.run_invariant (Progressing data ok c) (fun _ _ h hb => h.turn hb)
      (.start data ok c) run
    rcases sendTurn_done hb with ⟨-, -, rfl⟩ | ⟨all, rfl⟩
    · simp
    · intro none
      have payloads := h.payloads
      have none : s.sent = [] := none
      rw [none, List.take_of_length_le all] at payloads
      exact some.2 payloads.symm

/-! ## Pieces of the maximum segment size -/

theorem toNat_min16 (a b : UInt16) : (min a b).toNat = min a.toNat b.toNat := by
  change (if a ≤ b then a else b).toNat = _
  split
  · have le := UInt16.le_iff_toNat_le.mp ‹_›
    omega
  · have lt := mt UInt16.le_iff_toNat_le.mpr ‹_›
    omega

/-- Nothing is cut off by the 16-bit casts. -/
theorem chunkSize_eq {rest : Nat} (wide : c.maxSegmentSize.toNat ≤ window) (fits : window < 65536)
    (short : rest < 65536) :
    (c.chunkSize window rest).toNat = min c.maxSegmentSize.toNat rest := by
  rw [chunkSize, toNat_min16, toNat_min16, UInt16.toNat_ofNat_of_lt' short,
    UInt16.toNat_ofNat_of_lt' fits]
  omega

/-- The packets sent so far are the first ones of `data` cut into pieces of `m` bytes. -/
structure Cutting (data : Bytes) (m : Nat) (s : Sending) : Prop where
  offset : s.offset = min (s.sent.length * m) data.length
  pieces : ∀ i, ∀ h : i < s.sent.length,
    i * m < data.length ∧ s.sent[i].getPayloadSize = min m (data.length - i * m)

theorem Cutting.turn {m : Nat} (h : Cutting data m s) (mss : s.conn.maxSegmentSize.toNat = m)
    (wide : m ≤ window) (fits : window < 65536) (short : data.length < 65536)
    (hb : sendTurn data window now ok s = .again s') : Cutting data m s' := by
  obtain ⟨lt, -, rfl⟩ := sendTurn_again hb
  have size : (s.next data window).getPayloadSize = min m (data.length - s.offset) := by
    rw [Sending.size_next, chunkSize_eq (mss ▸ wide) fits (by omega), mss]
  have offset := h.offset
  have full : s.offset = s.sent.length * m := by omega
  refine ⟨?_, fun i hi => ?_⟩
  · dsimp only
    rw [size, List.length_append, List.length_singleton, Nat.succ_mul]
    omega
  · dsimp only at hi ⊢
    rw [List.length_append, List.length_singleton] at hi
    by_cases last : i < s.sent.length
    · rw [List.getElem_append_left last]
      exact h.pieces i last
    · obtain rfl : i = s.sent.length := by omega
      rw [List.getElem_append_right (Nat.le_refl _)]
      simp only [Nat.sub_self, List.getElem_singleton]
      exact ⟨by omega, full ▸ size⟩

/-- When all of `data` is sent there are as many packets as pieces. -/
theorem Cutting.length {m : Nat} (h : Cutting data m s) (all : data.length ≤ s.offset)
    (pos : 1 ≤ m) : s.sent.length = (data.length + (m - 1)) / m := by
  have offset := h.offset
  symm
  rw [Nat.div_eq_iff (by omega)]
  rcases Nat.eq_zero_or_pos s.sent.length with zero | some
  · simp only [zero, Nat.zero_mul] at offset ⊢
    omega
  · have last := (h.pieces (s.sent.length - 1) (by omega)).1
    rw [Nat.sub_mul] at last
    have : m ≤ s.sent.length * m := Nat.le_mul_of_pos_left m some
    omega

theorem Cutting.full {m : Nat} (h : Cutting data m s) :
    ∀ p ∈ s.sent.dropLast, p.getPayloadSize = m := by
  intro p hp
  obtain ⟨i, hi, rfl⟩ := List.getElem_of_mem hp
  rw [List.length_dropLast] at hi
  have next := (h.pieces (i + 1) (by omega)).1
  have size := (h.pieces i (by omega)).2
  rw [Nat.succ_mul] at next
  rw [List.getElem_dropLast, size]
  omega

/-- The window that every connection keeps: nothing but `handle_timeout` writes it, and it writes
the value that is there. -/
structure DefaultWindow (c : TCPConnection) : Prop where
  sendWindow : c.tcpParams.sendWindow = 65535
  cwnd : c.tcpParams.cwnd = tcpMss.toUInt32

theorem DefaultWindow.transition {now : Time} {p : TCPPacket} {sent : List TCPPacket}
    (h : DefaultWindow c) (ht : Transition now c p c' sent) : DefaultWindow c' := by
  cases ht with
  | data =>
    obtain ⟨_, _, _, _, _, hd⟩ := data_frame { c with lastActivity := now } p
    rw [hd]
    exact ⟨h.sendWindow, h.cwnd⟩
  | _ => exact ⟨h.sendWindow, h.cwnd⟩

theorem DefaultWindow.step {e : Op × List TCPPacket} (h : DefaultWindow c) (hs : Step c e c') :
    DefaultWindow c' := by
  obtain ⟨op, sent⟩ := e
  cases hs.effect with
  | packet ht => exact h.transition ht
  | synSent | synLost | closed => exact ⟨h.sendWindow, h.cwnd⟩
  | sent call =>
    obtain ⟨_, _, _, hc⟩ := send_frame call
    rw [hc]
    exact ⟨h.sendWindow, h.cwnd⟩
  | other same =>
    refine ⟨same.sendWindow.trans h.sendWindow, ?_⟩
    rcases same.cwnd with eq | eq
    · exact eq.trans h.cwnd
    · exact eq

theorem Reachable.defaultWindow (h : Reachable c) : DefaultWindow c := by
  obtain ⟨isn, es, run⟩ := h
  exact run.invariant DefaultWindow ⟨rfl, rfl⟩ fun _ _ _ ht hs => ht.step hs

theorem DefaultWindow.sendingWindow (h : DefaultWindow c) (pos : 1 ≤ c.maxSegmentSize.toNat) :
    c.maxSegmentSize.toNat ≤ c.sendingWindow ∧ c.sendingWindow < 65536 := by
  have hm := c.maxSegmentSize.toNat_lt
  have cwnd : (tcpMss.toUInt32 * c.maxSegmentSize.toUInt32).toNat =
      1460 * c.maxSegmentSize.toNat := by
    rw [UInt32.toNat_mul, UInt16.toNat_toUInt32]
    change 1460 * c.maxSegmentSize.toNat % 4294967296 = _
    omega
  have send : (65535 : UInt32).toNat = 65535 := rfl
  rw [TCPConnection.sendingWindow, h.sendWindow, h.cwnd, cwnd, send]
  omega

/-- A call that succeeds and keeps nothing back has cut its data into pieces of the maximum
segment size. -/
theorem send_pieces (hr : Reachable c) (call : c.send data now ok fuel = some r)
    (success : r.ret = true) (short : data.length ≤ 65535) (pos : 1 ≤ c.maxSegmentSize.toNat) :
    r.sent.length = (data.length + (c.maxSegmentSize.toNat - 1)) / c.maxSegmentSize.toNat ∧
      (∀ p ∈ r.sent.dropLast, p.getPayloadSize = c.maxSegmentSize.toNat) ∧
      (r.sent.map (·.getPayload)).flatten = data := by
  obtain ⟨wide, fits⟩ := hr.defaultWindow.sendingWindow pos
  rcases send_loop call with ⟨-, rfl⟩ | ⟨-, pending, -⟩ | ⟨-, run⟩
  · cases success
  · rw [unackedData, hr.inv.unacked] at pending
    cases pending
  · have start : Cutting data c.maxSegmentSize.toNat ⟨0, c, []⟩ := ⟨by simp, by simp⟩
    obtain ⟨s, ⟨h, cut⟩, hb⟩ := Loop.run_invariant
      (fun s => Progressing data ok c s ∧ Cutting data c.maxSegmentSize.toNat s)
      (fun s s' hs hb => ⟨hs.1.turn hb,
        hs.2.turn (by rw [hs.1.mss]) wide fits (by omega) hb⟩)
      ⟨.start data ok c, start⟩ run
    rcases sendTurn_done hb with ⟨-, -, rfl⟩ | ⟨all, rfl⟩
    · cases success
    · refine ⟨cut.length all pos, cut.full, ?_⟩
      rw [h.payloads, List.take_of_length_le all]

/-! ## Runs -/

/-- The data packets that went out in a run, oldest first. -/
def dataSent (es : List (Op × List TCPPacket)) : List TCPPacket :=
  es.flatMap fun e =>
    match e.1 with
    | .send _ _ ok _ => succeeded ok e.2
    | _ => []

theorem dataSent_of_data {op : Op} (h : op.data? = none) (sent : List TCPPacket) :
    dataSent [(op, sent)] = [] := by
  cases op <;> first | rfl | cases h

/-- A packet that leaves the connection ESTABLISHED leaves its send side alone. -/
theorem Sent.transition {now : Time} {p : TCPPacket} {sent : List TCPPacket}
    (ht : Transition now c p c' sent) (st : c.state = .established)
    (st' : c'.state = .established) : Sent c [] c' := by
  rcases ht.of_established st with ⟨-, rfl⟩ | ⟨-, -, rfl⟩ | ⟨-, -, rfl⟩
  · cases st'
  · obtain ⟨_, _, _, _, _, hd⟩ := data_frame { c with lastActivity := now } p
    rw [hd]
    exact .nothing rfl rfl
  · exact .nothing rfl rfl

theorem Sent.step {e : Op × List TCPPacket} (h : Step c e c') (st : c.state = .established)
    (st' : c'.state = .established) : Sent c (dataSent [e]) c' := by
  obtain ⟨op, sent⟩ := e
  cases h.effect with
  | packet ht =>
    rw [dataSent_of_data rfl]
    exact .transition ht st st'
  | synSent hs | synLost hs => simp [st] at hs
  | closed => cases st'
  | sent call => simpa [dataSent] using (send_outcome call).sent
  | other same _ data =>
    rw [dataSent_of_data data]
    exact .nothing same.localSeqNum same.retransmitQueue

/-- In every run that stays ESTABLISHED the data packets that went out tile the sequence space,
and the retransmit queue has gained exactly these; a call of `send` then sends packets of at most
the maximum segment size and, when it succeeds and keeps nothing back, the data cut into pieces
of that size. -/
theorem sends_tile (hr : Reachable c) (st : c.state = .established)
    {es : List (Op × List TCPPacket)}
    (run : Run (fun c e c' => Step c e c' ∧ c'.state = .established) c es c') :
    (Tiles c.localSeqNum (dataSent es) c'.localSeqNum ∧
      queued c' = queued c ++ entries (dataSent es)) ∧
    ∀ (data : Bytes) (now : Nat → Time) (ok : Nat → Bool) (fuel : Nat) (r : Call Bool),
      c'.send data now ok fuel = some r →
      (∀ p ∈ r.sent, p.getPayloadSize ≤ c'.maxSegmentSize.toNat) ∧
      (r.ret = true → data.length ≤ 65535 → 1 ≤ c'.maxSegmentSize.toNat →
        r.conn.pendingData = c'.pendingData →
        r.sent.length = (data.length + (c'.maxSegmentSize.toNat - 1)) / c'.maxSegmentSize.toNat ∧
        (∀ p ∈ r.sent.dropLast, p.getPayloadSize = c'.maxSegmentSize.toNat) ∧
        (r.sent.map (·.getPayload)).flatten = data) := by
  have log : Sent c (dataSent es) c' ∧ c'.state = .established := by
    refine run.history_invariant (fun es (t : TCPConnection) =>
      Sent c (dataSent es) t ∧ t.state = .established) ⟨.nothing rfl rfl, st⟩ ?_
    intro es t e t' ht hs
    rw [dataSent, List.flatMap_append, ← dataSent, ← dataSent]
    exact ⟨ht.1.trans (.step hs.1 ht.2 hs.2), hs.2⟩
  have reachable : Reachable c' := hr.run (run.mono fun _ _ _ hs => hs.1)
  refine ⟨⟨log.1.tiles, log.1.queue⟩, fun data now ok fuel r call => ?_⟩
  refine ⟨(send_outcome call).small, fun success short pos _ => ?_⟩
  exact send_pieces reachable call success short pos

/-- Three bytes in two packets. -/
theorem sends_tile_openedBy : ∃ r, ((openedBy 100 300).setMss 2).send [1, 2, 3] (fun _ => 0)
    (fun _ => true) 3 = some r ∧ r.sent.length = 2 ∧
      (r.sent.map (·.getPayload)).flatten = [1, 2, 3] := by
  have hr := reachable_openedBy 100 300
  have st : (openedBy 100 300).state = .established := by rw [openedBy_eq]
  have run : Run (fun c e c' => Step c e c' ∧ c'.state = .established) (openedBy 100 300)
      [(.setMss 2, [])] ((openedBy 100 300).setMss 2) := .single ⟨rfl, st⟩
  obtain ⟨-, calls⟩ := sends_tile hr st run
  obtain ⟨r, call, success⟩ : ∃ r, ((openedBy 100 300).setMss 2).send [1, 2, 3] (fun _ => 0)
      (fun _ => true) 3 = some r ∧ r.ret = true ∧ r.conn.pendingData = [] := by
    rw [openedBy_eq]
    exact ⟨_, rfl, rfl, rfl⟩
  obtain ⟨-, pieces⟩ := calls _ _ _ _ r call
  have sent := pieces success.1 (by decide) (by decide) (by rw [success.2, openedBy_eq]; rfl)
  exact ⟨r, call, sent.1, sent.2.2⟩

end TCPConnection

end Lwip
