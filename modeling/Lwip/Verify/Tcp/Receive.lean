import Mathlib.Data.List.TakeWhile
import Lwip.Std.Slice
import Lwip.Verify.Tcp.Step

/-! The receive side of a connection against the stream its peer sends. Whatever slices of the
stream arrive, what has been received is a prefix of it and the expected number is the one after
that prefix (`received_prefix`). The packets kept for later are never looked at again, so an
arrival counts only when it is the expected one: a stream cut into segments is received in full
exactly when the segments in order are a subsequence of the arrivals (`received_all_iff`). The
first FIN ends it, whatever is still missing (`closeWait_received_iff`). -/

namespace Lwip

namespace TCPConnection

variable {stream : Bytes} {x : UInt32} {c c' : TCPConnection}

/-- `c` is ESTABLISHED by an active open on a SYN-ACK with sequence number `x`. -/
def ActiveOpen (x : UInt32) (c : TCPConnection) : Prop :=
  ∃ c₀ now p, Reachable c₀ ∧ c₀.state = .synSent ∧ p.hasFlag tcpFlagSyn = true ∧
    p.hasFlag tcpFlagAck = true ∧ p.getSequenceNumber = x ∧
    (c₀.handlePacket now p).conn = c ∧ c.state = .established

/-- Calls against a peer whose packets carry slices of `stream`, each under the number of its
first byte. -/
inductive FromStream (stream : Bytes) (x : UInt32) : Op → Prop where
  | close : FromStream stream x .close
  | receive : FromStream stream x .receive
  | send {data : Bytes} {now : Nat → Time} {ok : Nat → Bool} {fuel : Nat}
      (short : data.length < 65536) : FromStream stream x (.send data now ok fuel)
  | handlePacket {now : Time} {packet : TCPPacket} (i : Nat)
      (seq : packet.getSequenceNumber = seqAt (x + 1) i)
      (slice : SliceAt stream i packet.getPayload) : FromStream stream x (.handlePacket now packet)

/-- The receive side holds a prefix of the stream and slices of it. -/
structure Received (stream : Bytes) (x : UInt32) (c : TCPConnection) : Prop where
  isPrefix : c.receivedData <+: stream
  next : c.remoteSeqNum = seqAt (x + 1) c.receivedData.length
  held : ∀ key data, c.outOfOrderData[key]? = some data →
    ∃ i, key = seqAt (x + 1) i ∧ SliceAt stream i data

/-- The states of a connection that has been ESTABLISHED; none of them opens it again. -/
def Opened (c : TCPConnection) : Prop :=
  c.state = .established ∨ c.state = .closeWait ∨ c.state = .finWait1 ∨ c.state = .finWait2 ∨
    c.state = .timeWait

theorem ActiveOpen.start (h : ActiveOpen x c) (stream : Bytes) :
    Received stream x c ∧ c.state = .established := by
  obtain ⟨c₀, now, p, hr, st, -, -, seq, rfl, est⟩ := h
  refine ⟨?_, est⟩
  obtain ⟨hrec, hooo⟩ := hr.inv.opening (.inr (.inl st))
  have ht := handlePacket_transition c₀ now p
  generalize (c₀.handlePacket now p).conn = c at est ht
  generalize (c₀.handlePacket now p).sent = sent at ht
  cases ht with
  | activeOpen =>
    refine ⟨by simp [hrec], by simp [hrec, seq], fun key data hk => ?_⟩
    simp [hooo] at hk
  | ignored | wrongAck => simp [st] at est
  | passiveOpen st' => rcases st' with st' | st' <;> simp [st] at st'
  | opened st' | fin st' | data st' | finAcked st' | peerFin st' | closingAcked st'
  | lastAcked st' => simp [st] at st'

theorem Received.handleData (h : Received stream x c) (short : stream.length < 2 ^ 32 - 1)
    {p : TCPPacket} {i : Nat} (seq : p.getSequenceNumber = seqAt (x + 1) i)
    (slice : SliceAt stream i p.getPayload) : Received stream x (c.handleData p) := by
  rcases handleData_cases c p with ⟨-, hd⟩ | ⟨-, expected, hd⟩ | ⟨-, -, hd⟩ <;> rw [hd]
  · exact h
  · -- the numbers are equal modulo 2^32 and the stream is shorter, so the positions are equal
    have hi := slice.length_le
    have hl := h.isPrefix.length_le
    rw [seq, h.next, seqAt_inj (by omega) (by omega)] at expected
    subst expected
    refine ⟨slice.append_prefix h.isPrefix, ?_, h.held⟩
    simp only [processInOrderData, List.length_append]
    rw [seqAt_add, ← h.next]
    rfl
  · refine ⟨h.isPrefix, h.next, fun key data hk => ?_⟩
    simp only [storeOutOfOrderData, Std.ExtTreeMap.getElem?_insert] at hk
    split at hk
    · cases hk
      refine ⟨i, ?_, slice⟩
      rw [← seq]
      exact (Std.LawfulEqCmp.eq_of_compare ‹_›).symm
    · exact h.held key data hk

theorem Received.step (h : Received stream x c) (hopen : Opened c)
    (short : stream.length < 2 ^ 32 - 1) {e : Op × List TCPPacket}
    (peer : FromStream stream x e.1) (hs : Step c e c') : Received stream x c' ∧ Opened c' := by
  obtain ⟨op, sent⟩ := e
  cases peer with
  | close =>
    cases hs
    rw [close]
    split
    · exact ⟨⟨h.isPrefix, h.next, h.held⟩, by simp [Opened]⟩
    · exact ⟨h, hopen⟩
  | receive =>
    cases hs
    exact ⟨h, hopen⟩
  | send =>
    obtain ⟨r, hr, eq⟩ := Option.map_eq_some_iff.mp hs
    obtain ⟨_, _, _, hc⟩ := send_frame hr
    cases eq
    rw [hc]
    exact ⟨⟨h.isPrefix, h.next, h.held⟩, hopen⟩
  | @handlePacket now p i seq slice =>
    cases hs
    have ht := handlePacket_transition c now p
    generalize (c.handlePacket now p).conn = c' at ht ⊢
    generalize (c.handlePacket now p).sent = sent at ht
    have same : Received stream x { c with lastActivity := now } := ⟨h.isPrefix, h.next, h.held⟩
    cases ht with
    | ignored => exact ⟨same, hopen⟩
    | data st =>
      have hd := same.handleData short seq slice
      obtain ⟨_, _, hw⟩ := updateWindow_frame ({ c with lastActivity := now }.handleData p) p
      obtain ⟨_, _, _, hf⟩ := handleData_frame { c with lastActivity := now } p
      rw [hw]
      refine ⟨⟨hd.isPrefix, hd.next, hd.held⟩, ?_⟩
      rw [hf]
      exact hopen
    | fin | finAcked | peerFin => exact ⟨⟨h.isPrefix, h.next, h.held⟩, by simp [Opened]⟩
    | passiveOpen st => rcases st with st | st <;> simp [Opened, st] at hopen
    | wrongAck st | activeOpen st | opened st | closingAcked st | lastAcked st =>
      simp [Opened, st] at hopen

/-- In every state that a run of such calls reaches, what has been received is a prefix of the
stream, the expected number is the one after it, and what is kept for later are slices. -/
theorem received_prefix (short : stream.length < 2 ^ 32 - 1) (hopen : ActiveOpen x c)
    {es : List (Op × List TCPPacket)}
    (run : Run (fun c e c' => FromStream stream x e.1 ∧ Step c e c') c es c') :
    Received stream x c' := by
  obtain ⟨h, est⟩ := hopen.start stream
  have := run.invariant (fun c => Received stream x c ∧ Opened c) ⟨h, .inl est⟩
    fun _ _ _ ht hs => ht.1.step ht.2 short hs.1 hs.2
  exact this.1

/-! ## A new connection, opened -/

/-- A SYN-ACK with sequence number `x` that acknowledges `ack`. -/
def peerSynAck (x ack : UInt32) : TCPPacket :=
  ((TCPPacket.new.setFlags (tcpFlagSyn ||| tcpFlagAck)).setSequenceNumber x).setAckNumber ack

theorem hasFlag_peerSynAck (x ack : UInt32) (flag : UInt16) :
    (peerSynAck x ack).hasFlag flag = ((tcpFlagSyn ||| tcpFlagAck) &&& flag != 0) :=
  TCPPacket.hasFlag_of_flags rfl flag

/-- A new connection after `connect` and the peer's SYN-ACK. -/
def openedBy (isn x : UInt32) : TCPConnection :=
  (((new isn).connect 1 80 true).conn.handlePacket 0 (peerSynAck x (isn + 1))).conn

theorem reachable_synSent (isn : UInt32) : Reachable ((new isn).connect 1 80 true).conn := by
  exact ⟨isn, [(.connect 1 80 true, [(new isn).synPacket 80])], .single rfl⟩

theorem openedBy_eq (isn x : UInt32) : openedBy isn x =
    { new isn with
      state := .established
      localSeqNum := isn + 1
      remoteSeqNum := x + 1
      remoteIp := 1
      remotePort := 80 } := by
  have flag : (peerSynAck x (isn + 1)).hasFlag (tcpFlagSyn ||| tcpFlagAck) = true :=
    hasFlag_peerSynAck x (isn + 1) _
  have ack : (peerSynAck x (isn + 1)).getAckNumber = isn + 1 := rfl
  have seq : (peerSynAck x (isn + 1)).getSequenceNumber = x := rfl
  simp [openedBy, handlePacket, connect, new, flag, ack, seq]

theorem sent_openedBy (isn x : UInt32) :
    (((new isn).connect 1 80 true).conn.handlePacket 0 (peerSynAck x (isn + 1))).sent =
      [(openedBy isn x).ackPacket] := by
  have flag : (peerSynAck x (isn + 1)).hasFlag (tcpFlagSyn ||| tcpFlagAck) = true :=
    hasFlag_peerSynAck x (isn + 1) _
  have ack : (peerSynAck x (isn + 1)).getAckNumber = isn + 1 := rfl
  rw [openedBy_eq]
  simp only [handlePacket, connect, new, flag, ack, ne_eq, not_true_eq_false, if_false, if_true,
    Bool.not_true, Bool.false_eq_true]
  rfl

theorem run_openedBy (isn x : UInt32) : Run Step (new isn)
    [(.connect 1 80 true, [(new isn).synPacket 80]),
      (.handlePacket 0 (peerSynAck x (isn + 1)), [(openedBy isn x).ackPacket])]
    (openedBy isn x) := by
  have connected : Step (new isn) (.connect 1 80 true, [(new isn).synPacket 80])
      ((new isn).connect 1 80 true).conn := rfl
  have opened : Step ((new isn).connect 1 80 true).conn
      (.handlePacket 0 (peerSynAck x (isn + 1)), [(openedBy isn x).ackPacket])
      (openedBy isn x) := by
    rw [← sent_openedBy]
    rfl
  exact (Run.single connected).snoc opened

theorem reachable_openedBy (isn x : UInt32) : Reachable (openedBy isn x) :=
  ⟨isn, _, run_openedBy isn x⟩

theorem activeOpen_openedBy (isn x : UInt32) : ActiveOpen x (openedBy isn x) :=
  ⟨_, 0, peerSynAck x (isn + 1), reachable_synSent isn, rfl, hasFlag_peerSynAck x (isn + 1) _,
    hasFlag_peerSynAck x (isn + 1) _, rfl, rfl, by rw [openedBy_eq]⟩

/-- A data packet of the peer. -/
def peerData (seq : UInt32) (payload : Bytes) : TCPPacket :=
  ((TCPPacket.new.setFlags tcpFlagAck).setSequenceNumber seq).setPayload payload

/-- The second and third byte arrive before the first. -/
theorem received_prefix_openedBy :
    Received [1, 2, 3] 300 ((openedBy 100 300).handlePacket 5 (peerData 302 [2, 3])).conn := by
  have arrives : FromStream [1, 2, 3] 300 (.handlePacket 5 (peerData 302 [2, 3])) :=
    .handlePacket 1 (by decide) (by decide)
  have run : Run (fun c e c' => FromStream [1, 2, 3] 300 e.1 ∧ Step c e c') (openedBy 100 300)
      [(.handlePacket 5 (peerData 302 [2, 3]), [])]
      ((openedBy 100 300).handlePacket 5 (peerData 302 [2, 3])).conn := .single ⟨arrives, rfl⟩
  exact received_prefix (by decide) (activeOpen_openedBy 100 300) run

/-! ## A stream cut into segments -/

/-- The arrival of a packet that carries the segment with the number `piece`. -/
structure Arrival where
  piece : Nat
  now : Time
  packet : TCPPacket

/-- The packet carries its segment of `cut` under the number of its first byte, with the ACK
flag; `n` is the number of the first byte of the stream. -/
def Arrival.Carries (n : UInt32) (cut : List Bytes) (a : Arrival) : Prop :=
  cut[a.piece]? = some a.packet.getPayload ∧ a.packet.hasFlag tcpFlagAck = true ∧
    a.packet.getSequenceNumber = seqAt n (Cut.offset cut a.piece)

def Arrival.isFin (a : Arrival) : Bool := a.packet.hasFlag tcpFlagFin

def handleAll (c : TCPConnection) (arrivals : List Arrival) : TCPConnection :=
  arrivals.foldl (fun c a => (c.handlePacket a.now a.packet).conn) c

/-- The numbers of the segments that arrive before the first FIN. -/
def beforeFin (arrivals : List Arrival) : List Nat :=
  (arrivals.takeWhile (!·.isFin)).map (·.piece)

/-- Once a FIN has arrived nothing more is received. -/
theorem handleAll_closeWait (st : c.state = .closeWait) (arrivals : List Arrival) :
    ∃ now, c.handleAll arrivals = { c with lastActivity := now } := by
  induction arrivals generalizing c with
  | nil => exact ⟨c.lastActivity, rfl⟩
  | cons a arrivals ih =>
    have ignored : (c.handlePacket a.now a.packet).conn = { c with lastActivity := a.now } := by
      rw [handlePacket]
      simp [st]
    rw [handleAll, List.foldl_cons, ignored]
    exact ih (c := { c with lastActivity := a.now }) st

variable {n : UInt32} {cut : List Bytes} {base : Bytes} {j : Nat}

/-- The connection has received the first `j` segments of the cut, after `base`. -/
structure Taken (n : UInt32) (cut : List Bytes) (base : Bytes) (j : Nat) (c : TCPConnection) :
    Prop where
  le : j ≤ cut.length
  next : c.remoteSeqNum = seqAt n (Cut.offset cut j)
  received : c.receivedData = base ++ (cut.take j).flatten

theorem Taken.handleData (h : Taken n cut base j c) (nonempty : ∀ piece ∈ cut, piece ≠ [])
    (short : cut.flatten.length < 2 ^ 32) {a : Arrival} (ha : a.Carries n cut) :
    Taken n cut base (InOrder.accept j a.piece) (c.handleData a.packet) := by
  obtain ⟨piece, -, seq⟩ := ha
  have lt : a.piece < cut.length := (List.getElem?_eq_some_iff.mp piece).1
  have ne := nonempty _ (List.mem_of_getElem? piece)
  have expected_iff : a.packet.getSequenceNumber = c.remoteSeqNum ↔ a.piece = j := by
    have hi := Cut.offset_le cut a.piece
    have hj := Cut.offset_le cut j
    rw [seq, h.next, seqAt_inj (by omega) (by omega), Cut.offset_inj nonempty lt.le h.le]
  rcases handleData_cases c a.packet with ⟨nil, -⟩ | ⟨-, expected, hd⟩ | ⟨-, other, hd⟩
  · exact absurd nil ne
  · have eq := expected_iff.mp expected
    rw [hd, InOrder.accept, if_pos eq]
    rw [eq] at piece lt
    refine ⟨lt, ?_, ?_⟩
    · rw [Cut.offset_succ piece, seqAt_add, ← h.next]
      rfl
    · rw [Cut.flatten_take_succ piece, ← List.append_assoc, ← h.received]
      rfl
  · rw [hd, InOrder.accept, if_neg (mt expected_iff.mpr other)]
    exact ⟨h.le, h.next, h.received⟩

theorem Taken.handleAll (h : Taken n cut base j c) (st : c.state = .established)
    (nonempty : ∀ piece ∈ cut, piece ≠ []) (short : cut.flatten.length < 2 ^ 32)
    {arrivals : List Arrival} (carries : ∀ a ∈ arrivals, a.isFin = false → a.Carries n cut) :
    (c.handleAll arrivals).receivedData =
      base ++ (cut.take (InOrder.acceptAll j (beforeFin arrivals))).flatten := by
  induction arrivals generalizing c j with
  | nil => exact h.received
  | cons a arrivals ih =>
    have ha := carries a List.mem_cons_self
    rw [TCPConnection.handleAll, List.foldl_cons]
    rcases (handlePacket_transition c a.now a.packet).of_established st with
      ⟨fin, eq⟩ | ⟨fin, -, eq⟩ | ⟨fin, noAck, -⟩
    · -- the FIN closes the stream before its own segment is looked at
      have none : beforeFin (a :: arrivals) = [] := by
        simp [beforeFin, Arrival.isFin, fin]
      obtain ⟨now, closed⟩ := handleAll_closeWait
        (c := { c with lastActivity := a.now, state := .closeWait }) rfl arrivals
      rw [eq, none]
      exact (congrArg receivedData closed).trans h.received
    · have some : beforeFin (a :: arrivals) = a.piece :: beforeFin arrivals := by
        simp [beforeFin, Arrival.isFin, fin]
      have same : Taken n cut base j { c with lastActivity := a.now } :=
        ⟨h.le, h.next, h.received⟩
      have hd := same.handleData nonempty short (ha fin)
      obtain ⟨_, _, hw⟩ := updateWindow_frame ({ c with lastActivity := a.now }.handleData a.packet)
        a.packet
      obtain ⟨_, _, _, hf⟩ := handleData_frame { c with lastActivity := a.now } a.packet
      rw [eq, some, InOrder.acceptAll_cons, hw]
      refine ih ⟨hd.le, hd.next, hd.received⟩ ?_ fun b hb => carries b (List.mem_cons_of_mem _ hb)
      rw [hf]
      exact st
    · rw [(ha fin).2.1] at noAck
      cases noAck

/-- What the arrivals with the FIN flag carry makes no difference. -/
theorem received_iff (st : c.state = .established) (nonempty : ∀ piece ∈ cut, piece ≠ [])
    (short : cut.flatten.length < 2 ^ 32) {arrivals : List Arrival}
    (carries : ∀ a ∈ arrivals, a.isFin = false → a.Carries c.remoteSeqNum cut) :
    (c.handleAll arrivals).receivedData = c.receivedData ++ cut.flatten ↔
      (List.range cut.length).Sublist (beforeFin arrivals) := by
  have start : Taken c.remoteSeqNum cut c.receivedData 0 c :=
    ⟨Nat.zero_le _, by simp [Cut.offset], by simp⟩
  have bound : ∀ i ∈ beforeFin arrivals, i < cut.length := by
    intro i hi
    obtain ⟨a, ha, rfl⟩ := List.mem_map.mp hi
    have noFin : a.isFin = false := by simpa using List.mem_takeWhile_imp ha
    exact (List.getElem?_eq_some_iff.mp (carries a (List.takeWhile_subset _ ha) noFin).1).1
  have le := InOrder.acceptAll_le (Nat.zero_le cut.length) bound
  rw [start.handleAll st nonempty short carries, List.append_cancel_left_eq,
    Cut.flatten_take_eq_iff nonempty le, List.range_eq_range', ← InOrder.le_acceptAll_iff]
  omega

/-- A stream cut into segments is received in full exactly when the segments in order are a
subsequence of those that arrive before the first FIN. -/
theorem received_all_iff (st : c.state = .established) (nonempty : ∀ piece ∈ cut, piece ≠ [])
    (short : cut.flatten.length < 2 ^ 31) {arrivals : List Arrival}
    (carries : ∀ a ∈ arrivals, a.Carries c.remoteSeqNum cut) :
    (c.handleAll arrivals).receivedData = c.receivedData ++ cut.flatten ↔
      (List.range cut.length).Sublist (beforeFin arrivals) :=
  received_iff st nonempty (by omega) fun a ha _ => carries a ha

theorem received_all_openedBy :
    ((openedBy 100 300).handleAll
      [⟨0, 1, peerData 301 [1]⟩, ⟨0, 2, peerData 301 [1]⟩, ⟨1, 3, peerData 302 [2]⟩]).receivedData =
        (openedBy 100 300).receivedData ++ [1, 2] := by
  have carries : ∀ a ∈
      [⟨0, 1, peerData 301 [1]⟩, ⟨0, 2, peerData 301 [1]⟩, ⟨1, 3, peerData 302 [2]⟩],
      Arrival.Carries (openedBy 100 300).remoteSeqNum [[1], [2]] a := by
    rw [openedBy_eq]
    simp only [List.forall_mem_cons]
    exact ⟨⟨rfl, rfl, rfl⟩, ⟨rfl, rfl, rfl⟩, ⟨rfl, rfl, rfl⟩, fun _ h => by cases h⟩
  exact (received_all_iff (by rw [openedBy_eq]) (by decide) (by decide) carries).mpr (by decide)

/-- Two segments in reverse order: the second is kept and never released. -/
theorem reversed_not_received :
    ActiveOpen 300 (openedBy 100 300) ∧ (openedBy 100 300).remoteSeqNum = 301 ∧
      (∀ a ∈ [⟨1, 1, peerData 302 [2]⟩, ⟨0, 2, peerData 301 [1]⟩],
        Arrival.Carries 301 [[1], [2]] a) ∧
      ((openedBy 100 300).handleAll
        [⟨1, 1, peerData 302 [2]⟩, ⟨0, 2, peerData 301 [1]⟩]).receivedData =
          (openedBy 100 300).receivedData ++ [1] ∧
      ((openedBy 100 300).handleAll
        [⟨1, 1, peerData 302 [2]⟩, ⟨0, 2, peerData 301 [1]⟩]).receivedData ≠
          (openedBy 100 300).receivedData ++ [1, 2] := by
  have carries : ∀ a ∈ [⟨1, 1, peerData 302 [2]⟩, ⟨0, 2, peerData 301 [1]⟩],
      Arrival.Carries 301 [[1], [2]] a := by
    simp only [List.forall_mem_cons]
    exact ⟨⟨rfl, rfl, rfl⟩, ⟨rfl, rfl, rfl⟩, fun _ h => by cases h⟩
  have start : Taken 301 [[1], [2]] [] 0 (openedBy 100 300) := by
    rw [openedBy_eq]
    exact ⟨by decide, rfl, rfl⟩
  have received : ((openedBy 100 300).handleAll
      [⟨1, 1, peerData 302 [2]⟩, ⟨0, 2, peerData 301 [1]⟩]).receivedData =
        (openedBy 100 300).receivedData ++ [1] := by
    rw [start.handleAll (by rw [openedBy_eq]) (by decide) (by decide) fun a ha _ => carries a ha,
      openedBy_eq]
    rfl
  refine ⟨activeOpen_openedBy 100 300, by rw [openedBy_eq]; rfl, carries, received, ?_⟩
  rw [received]
  simp

/-! ## A stream that ends with a FIN -/

/-- The arrivals of a stream that ends: segments with data, of which the last may have the FIN
flag, and the FIN alone, with the number after the last byte. -/
inductive Arrival.OfClosedStream (n : UInt32) (cut : List Bytes) (a : Arrival) : Prop where
  | data (carries : a.Carries n cut) (fin : a.isFin = true → a.piece + 1 = cut.length)
  | fin (fin : a.isFin = true) (payload : a.packet.getPayload = [])
      (seq : a.packet.getSequenceNumber = seqAt n cut.flatten.length)

theorem handleAll_state (st : c.state = .established) (arrivals : List Arrival) :
    (c.handleAll arrivals).state = if arrivals.any (·.isFin) then .closeWait else .established := by
  induction arrivals generalizing c with
  | nil => exact st
  | cons a arrivals ih =>
    rw [handleAll, List.foldl_cons, List.any_cons, Arrival.isFin]
    rcases (handlePacket_transition c a.now a.packet).of_established st with
      ⟨fin, eq⟩ | ⟨fin, -, eq⟩ | ⟨fin, -, eq⟩ <;> rw [eq, fin]
    · obtain ⟨now, closed⟩ := handleAll_closeWait
        (c := { c with lastActivity := a.now, state := .closeWait }) rfl arrivals
      rw [Bool.true_or, if_pos rfl]
      exact congrArg state closed
    · obtain ⟨_, _, _, _, _, hd⟩ := data_frame { c with lastActivity := a.now } a.packet
      rw [Bool.false_or, hd]
      exact ih st
    · rw [Bool.false_or]
      exact ih st

/-- In CLOSE_WAIT the whole stream has been received exactly when its segments in order are a
subsequence of those that arrived before the first FIN: the data that a FIN overtakes is lost,
and so is the data that it rides on. -/
theorem closeWait_received_iff (hopen : ActiveOpen x c) (nonempty : ∀ piece ∈ cut, piece ≠ [])
    (short : cut.flatten.length < 2 ^ 31) {arrivals : List Arrival}
    (peer : ∀ a ∈ arrivals, a.OfClosedStream (x + 1) cut) :
    ((c.handleAll arrivals).state = .closeWait →
      (c.handleAll arrivals).receivedData = cut.flatten) ↔
      (∀ a ∈ arrivals, a.isFin = false) ∨ (List.range cut.length).Sublist (beforeFin arrivals) := by
  obtain ⟨⟨front, next, -⟩, st⟩ := hopen.start []
  have fresh : c.receivedData = [] := List.prefix_nil.mp front
  rw [fresh, List.length_nil, seqAt_zero] at next
  have carries : ∀ a ∈ arrivals, a.isFin = false → a.Carries c.remoteSeqNum cut := by
    intro a ha noFin
    rw [next]
    cases peer a ha with
    | data carries => exact carries
    | fin fin => simp [noFin] at fin
  have closed : (c.handleAll arrivals).state = .closeWait ↔ ¬ ∀ a ∈ arrivals, a.isFin = false := by
    rw [handleAll_state st]
    split
    · rename_i h
      simpa using h
    · rename_i h
      simpa using h
  rw [← received_iff st nonempty (by omega) carries, fresh, List.nil_append, closed,
    ← Classical.or_iff_not_imp_left]

/-- The peer's FIN, on a segment with data or alone. -/
def peerFin (seq : UInt32) (payload : Bytes) : TCPPacket :=
  ((TCPPacket.new.setFlags (tcpFlagFin ||| tcpFlagAck)).setSequenceNumber seq).setPayload payload

theorem hasFlag_peerFin (seq : UInt32) (payload : Bytes) (flag : UInt16) :
    (peerFin seq payload).hasFlag flag = ((tcpFlagFin ||| tcpFlagAck) &&& flag != 0) :=
  TCPPacket.hasFlag_of_flags rfl flag

theorem closeWait_received_openedBy :
    ((openedBy 100 300).handleAll
      [⟨0, 1, peerData 301 [1]⟩, ⟨1, 2, peerFin 302 []⟩]).state = .closeWait ∧
    ((openedBy 100 300).handleAll
      [⟨0, 1, peerData 301 [1]⟩, ⟨1, 2, peerFin 302 []⟩]).receivedData = [1] := by
  have nonempty : ∀ piece ∈ ([[1]] : List Bytes), piece ≠ [] := by decide
  have closed : ((openedBy 100 300).handleAll
      [⟨0, 1, peerData 301 [1]⟩, ⟨1, 2, peerFin 302 []⟩]).state = .closeWait := by decide
  refine ⟨closed, (closeWait_received_iff (activeOpen_openedBy 100 300) nonempty (by decide) ?_).mpr
    (.inr (by decide)) closed⟩
  simp only [List.forall_mem_cons]
  exact ⟨.data ⟨rfl, rfl, rfl⟩ (by decide), .fin rfl rfl rfl, fun _ h => by cases h⟩

/-- The FIN rides on the only segment of the stream, or overtakes it. -/
theorem fin_loses_data : ActiveOpen 300 (openedBy 100 300) ∧
    (Arrival.OfClosedStream 301 [[1]] ⟨0, 1, peerFin 301 [1]⟩ ∧
      ((openedBy 100 300).handleAll [⟨0, 1, peerFin 301 [1]⟩]).state = .closeWait ∧
      ((openedBy 100 300).handleAll [⟨0, 1, peerFin 301 [1]⟩]).receivedData = []) ∧
    (∀ a ∈ [⟨1, 1, peerFin 302 []⟩, ⟨0, 2, peerData 301 [1]⟩],
      Arrival.OfClosedStream 301 [[1]] a) ∧
    ((openedBy 100 300).handleAll
      [⟨1, 1, peerFin 302 []⟩, ⟨0, 2, peerData 301 [1]⟩]).state = .closeWait ∧
    ((openedBy 100 300).handleAll
      [⟨1, 1, peerFin 302 []⟩, ⟨0, 2, peerData 301 [1]⟩]).receivedData = [] := by
  have st : (openedBy 100 300).state = .established := by rw [openedBy_eq]
  have start : Taken 301 [[1]] [] 0 (openedBy 100 300) := by
    rw [openedBy_eq]
    exact ⟨by decide, rfl, rfl⟩
  have isFin (piece : Nat) (now : Time) (seq : UInt32) (payload : Bytes) :
      Arrival.isFin ⟨piece, now, peerFin seq payload⟩ = true :=
    hasFlag_peerFin seq payload tcpFlagFin
  refine ⟨activeOpen_openedBy 100 300, ⟨.data ⟨rfl, rfl, rfl⟩ fun _ => rfl, ?_, ?_⟩, ?_, ?_, ?_⟩
  · rw [handleAll_state st]
    rfl
  · rw [start.handleAll st (by decide) (by decide) (by simp [isFin])]
    rfl
  · simp only [List.forall_mem_cons]
    exact ⟨.fin rfl rfl rfl, .data ⟨rfl, rfl, rfl⟩ (by decide), fun _ h => by cases h⟩
  · rw [handleAll_state st]
    rfl
  · rw [start.handleAll st (by decide) (by decide) ?_]
    · rfl
    · rw [List.forall_mem_cons, isFin]
      refine ⟨fun h => (Bool.false_ne_true h.symm).elim, ?_⟩
      simp only [List.forall_mem_cons]
      exact ⟨fun _ => ⟨rfl, rfl, rfl⟩, fun _ h => by cases h⟩

end TCPConnection

end Lwip
