import Lwip.Verify.Tcp.Duplex
import Lwip.Verify.Tcp.Nagle

/-! Two connections and a network that loses, duplicates, delays and reorders what they send, but
makes nothing up: whatever has left one end may reach the other at any time, any number of times
or never. The packets are handed over as they are, without their bytes. Each end receives, in
order and without gaps, the bytes that its peer sent from one position on, and this position is
fixed when the two ends have each other's numbers (`Link.received_from`). After the handshake the
passive end waits for a number that the active end never uses, and the active end waits for the
second byte (`Link.handshake_received`). -/

namespace Lwip

open TCPConnection

/-- A connection, the packets that have left it and the data in them. -/
structure End where
  conn : TCPConnection
  out : List TCPPacket := []
  stream : Bytes := []

namespace TCPConnection

/-- The packets of a call that `send_packet` took. -/
def wentOut (e : Op × List TCPPacket) : List TCPPacket :=
  match e.1 with
  | .send _ _ ok _ => succeeded ok e.2
  | .connect _ _ ok => if ok then e.2 else []
  | _ => e.2

end TCPConnection

/-- A call on one end of a link. A packet to handle is one that has left the other end. -/
structure End.Act (e peer : End) (ev : Op × List TCPPacket) (e' : End) : Prop where
  call : TCPConnection.Step e.conn ev e'.conn
  fromPeer : ∀ p, ev.1.packet? = some p → p ∈ peer.out
  out : e'.out = e.out ++ wentOut ev
  stream : e'.stream = e.stream ++ (dataSent [ev]).flatMap (·.getPayload)

structure Link where
  a : End
  b : End

/-- The calls on `a` and on `b`, with the packets they sent. -/
abbrev Link.Event := (Op × List TCPPacket) ⊕ (Op × List TCPPacket)

inductive Link.Step : Link → Link.Event → Link → Prop where
  | left {a b a' : End} {e : Op × List TCPPacket} (h : a.Act b e a') : Step ⟨a, b⟩ (.inl e) ⟨a', b⟩
  | right {a b b' : End} {e : Op × List TCPPacket} (h : b.Act a e b') :
    Step ⟨a, b⟩ (.inr e) ⟨a, b'⟩

namespace TCPConnection

variable {c c' : TCPConnection} {p : TCPPacket} {now : Time} {sent ps : List TCPPacket}
  {x y : UInt32} {stream before : Bytes} {d : Nat}

/-! ## The sender -/

theorem send_of_not_established {data : Bytes} {time : Nat → Time} {ok : Nat → Bool} {fuel : Nat}
    {r : Call Bool} (st : c.state ≠ .established)
    (call : c.send data time ok fuel = some r) : r = ⟨false, c, []⟩ := by
  rcases send_cases call with ⟨-, refused⟩ | ⟨st', -⟩ | ⟨_, st', -⟩
  · exact refused
  · exact absurd st' st
  · exact absurd st' st

theorem Transition.localSeqNum (h : Transition now c p c' sent) (st : c.state ≠ .synSent) :
    c'.localSeqNum = c.localSeqNum := by
  cases h with
  | data =>
    obtain ⟨_, _, _, _, _, hd⟩ := data_frame { c with lastActivity := now } p
    rw [hd]
  | activeOpen st' => exact absurd st' st
  | _ => rfl

/-- Answers carry no data. -/
theorem Transition.payload (h : Transition now c p c' sent) : ∀ q ∈ sent, q.payload = [] :=
  List.flatMap_eq_nil_iff.mp h.payloads

/-- Packets that tile the numbers from position `stream.length` on are slices of the stream that
goes on with their payloads. -/
theorem Tiles.slices (h : Tiles (seqAt x stream.length) ps y) :
    y = seqAt x (stream ++ ps.flatMap (·.getPayload)).length ∧
    ∀ p ∈ ps, ∃ i, p.getSequenceNumber = seqAt x i ∧
      SliceAt (stream ++ ps.flatMap (·.getPayload)) i p.getPayload := by
  induction ps generalizing stream with
  | nil => exact ⟨by simpa using h.symm, by simp⟩
  | cons p ps ih =>
    obtain ⟨seq, rest⟩ := h
    have next : seqAt x stream.length + UInt32.ofNat p.getPayloadSize =
        seqAt x (stream ++ p.getPayload).length := by
      rw [List.length_append, seqAt_add]
      rfl
    rw [next] at rest
    obtain ⟨last, slices⟩ := ih rest
    rw [List.append_assoc, ← List.flatMap_cons] at last slices
    refine ⟨last, fun q hq => ?_⟩
    rcases List.mem_cons.mp hq with rfl | hq
    · refine ⟨stream.length, seq, by simp, ?_⟩
      rw [List.drop_left, List.flatMap_cons]
      exact List.prefix_append _ _
    · exact slices q hq

end TCPConnection

namespace TCPConnection

/-- The states in which the connection has its own number and its peer's; it stays in them. -/
def Synced (c : TCPConnection) : Prop := c.state = .synReceived ∨ Opened c

theorem Synced.ne (h : Synced c) : c.state ≠ .closed ∧ c.state ≠ .listen ∧ c.state ≠ .synSent ∧
    c.state ≠ .closing ∧ c.state ≠ .lastAck := by
  rcases h with st | st | st | st | st | st <;> simp [st]

theorem Synced.transition (h : Synced c) (ht : Transition now c p c' sent) : Synced c' := by
  obtain ⟨closed, listen, synSent, closing, lastAck⟩ := h.ne
  cases ht with
  | ignored => exact h
  | passiveOpen st => exact absurd st (not_or.mpr ⟨closed, listen⟩)
  | wrongAck st | activeOpen st => exact absurd st synSent
  | closingAcked st => exact absurd st closing
  | lastAcked st => exact absurd st lastAck
  | opened => exact .inr (.inl rfl)
  | fin | finAcked | peerFin => exact .inr (by simp [Opened])
  | data st =>
    obtain ⟨_, _, _, _, _, hd⟩ := data_frame { c with lastActivity := now } p
    rw [hd]
    exact .inr (.inl st)

theorem Synced.step {e : Op × List TCPPacket} (h : Synced c) (hs : TCPConnection.Step c e c') :
    Synced c' := by
  obtain ⟨op, sent⟩ := e
  cases hs.effect with
  | packet ht => exact h.transition ht
  | synSent st | synLost st => exact absurd st h.ne.1
  | closed => exact .inr (by simp [Opened])
  | sent call =>
    obtain ⟨_, _, _, hc⟩ := send_frame call
    rw [hc]
    exact h
  | other same =>
    rw [Synced, Opened, same.state]
    exact h

/-- The connection has received, after `before`, what `stream` holds from position `d` on, and
waits for the next byte of it. -/
def Follows (x : UInt32) (d : Nat) (before stream : Bytes) (c : TCPConnection) : Prop :=
  ∃ got, c.receivedData = before ++ got ∧ got <+: stream.drop d ∧
    c.remoteSeqNum = seqAt x (d + got.length)

theorem Follows.start {n : UInt32} (h : c.remoteSeqNum = n) :
    Follows x (n - x).toNat c.receivedData [] c := by
  refine ⟨[], by simp, List.nil_prefix, ?_⟩
  rw [List.length_nil, Nat.add_zero, seqAt, UInt32.ofNat_toNat, h]
  grind

theorem Follows.mono {stream' : Bytes} (h : Follows x d before stream c)
    (grow : stream <+: stream') : Follows x d before stream' c := by
  obtain ⟨got, received, slice, next⟩ := h
  exact ⟨got, received, slice.trans (grow.drop d), next⟩

/-- The data of the packet, if there is any, is a slice of the stream under the number of its
first byte. -/
def Carries (x : UInt32) (stream : Bytes) (p : TCPPacket) : Prop :=
  p.payload ≠ [] → ∃ i, p.getSequenceNumber = seqAt x i ∧ SliceAt stream i p.getPayload

theorem Carries.mono {stream' : Bytes} (h : Carries x stream p) (grow : stream <+: stream') :
    Carries x stream' p := by
  intro nonempty
  obtain ⟨i, seq, slice⟩ := h nonempty
  exact ⟨i, seq, slice.mono grow⟩

theorem Follows.handleData (h : Follows x d before stream c) (start : d < 2 ^ 32)
    (short : stream.length < 2 ^ 32) (carries : Carries x stream p) :
    Follows x d before stream (c.handleData p) := by
  obtain ⟨got, received, isPrefix, next⟩ := h
  rcases handleData_cases c p with ⟨-, hd⟩ | ⟨nonempty, expected, hd⟩ | ⟨-, -, hd⟩ <;> rw [hd]
  · exact ⟨got, received, isPrefix, next⟩
  · obtain ⟨i, seq, slice⟩ := carries nonempty
    -- the numbers are equal modulo 2^32 and the stream is shorter, so the positions are equal
    have hi := slice.length_le
    have hl := isPrefix.length_le
    rw [List.length_drop] at hl
    rw [seq, next, seqAt_inj (by omega) (by omega)] at expected
    subst expected
    have pos := List.length_pos_of_ne_nil nonempty
    have slice' : SliceAt (stream.drop d) got.length p.getPayload := by
      refine ⟨by rw [List.length_drop]; omega, ?_⟩
      rw [List.drop_drop]
      exact slice.2
    refine ⟨got ++ p.getPayload, ?_, slice'.append_prefix isPrefix, ?_⟩
    · rw [← List.append_assoc, ← received]
      rfl
    · rw [List.length_append, ← Nat.add_assoc, seqAt_add, ← next]
      rfl
  · exact ⟨got, received, isPrefix, next⟩

theorem Follows.transition (h : Follows x d before stream c) (synced : Synced c)
    (start : d < 2 ^ 32) (short : stream.length < 2 ^ 32) (carries : Carries x stream p)
    (ht : Transition now c p c' sent) : Follows x d before stream c' := by
  obtain ⟨closed, listen, synSent, -, -⟩ := synced.ne
  cases ht with
  | passiveOpen st => exact absurd st (not_or.mpr ⟨closed, listen⟩)
  | wrongAck st | activeOpen st => exact absurd st synSent
  | data =>
    have same : Follows x d before stream { c with lastActivity := now } := h
    obtain ⟨_, _, hw⟩ := updateWindow_frame ({ c with lastActivity := now }.handleData p) p
    rw [hw]
    exact same.handleData start short carries
  | _ => exact h

theorem Follows.step {e : Op × List TCPPacket} (h : Follows x d before stream c)
    (synced : Synced c) (start : d < 2 ^ 32) (short : stream.length < 2 ^ 32)
    (carries : ∀ p, e.1.packet? = some p → Carries x stream p) (hs : TCPConnection.Step c e c') :
    Follows x d before stream c' := by
  obtain ⟨op, sent⟩ := e
  cases hs.effect with
  | packet ht => exact h.transition synced start short (carries _ rfl) ht
  | synSent | synLost | closed => exact h
  | sent call =>
    obtain ⟨_, _, _, hc⟩ := send_frame call
    rw [hc]
    exact h
  | other same =>
    rw [Follows, same.receivedData, same.remoteSeqNum]
    exact h

theorem mem_of_mem_wentOut {e : Op × List TCPPacket} (h : p ∈ wentOut e) : p ∈ e.2 := by
  obtain ⟨op, sent⟩ := e
  cases op with
  | send data now ok fuel =>
    obtain ⟨⟨q, i⟩, hq, rfl⟩ := List.mem_map.mp h
    exact (List.mem_zipIdx' (List.mem_filter.mp hq).1).2 ▸ List.getElem_mem _
  | connect remoteIp remotePort ok =>
    cases ok with
    | true => exact h
    | false => cases h
  | _ => exact h

end TCPConnection

/-! ## One end -/

/-- What has left the end: its own number is the one after the stream. -/
structure End.Sends (x : UInt32) (e : End) : Prop where
  next : e.conn.localSeqNum = seqAt x e.stream.length
  carries : ∀ p ∈ e.out, Carries x e.stream p

namespace End

variable {e peer e' : End} {ev : Op × List TCPPacket} {x y : UInt32} {d : Nat} {before : Bytes}

theorem Act.grow (h : e.Act peer ev e') : e.stream <+: e'.stream :=
  h.stream ▸ List.prefix_append _ _

/-- A call that sends nothing. -/
theorem Act.silent (h : e.Act peer ev e') (nothing : ev.2 = []) :
    e'.out = e.out ∧ e'.stream = e.stream := by
  obtain ⟨op, sent⟩ := ev
  cases nothing
  have out : wentOut (op, []) = [] :=
    List.eq_nil_iff_forall_not_mem.mpr fun p hp => List.not_mem_nil (mem_of_mem_wentOut hp)
  have data : dataSent [(op, [])] = [] := by
    cases op <;> rfl
  exact ⟨by rw [h.out, out, List.append_nil], by simp [h.stream, data]⟩

/-- Packets without data join the ones that have left. -/
theorem Sends.plain (h : e.Sends x) (act : e.Act peer ev e')
    (next : e'.conn.localSeqNum = e.conn.localSeqNum) (data : ev.1.data? = none)
    (plain : ∀ p ∈ ev.2, p.payload = []) : e'.Sends x := by
  have same : e'.stream = e.stream := by
    rw [act.stream, dataSent_of_data data, List.flatMap_nil, List.append_nil]
  refine ⟨by rw [next, h.next, same], fun p hp => ?_⟩
  rw [act.out] at hp
  rcases List.mem_append.mp hp with hp | hp
  · exact same ▸ h.carries p hp
  · exact fun some => absurd (plain p (mem_of_mem_wentOut hp)) some

theorem Sends.act (h : e.Sends x) (unacked : e.conn.unackedSegments = [])
    (st : e.conn.state ≠ .synSent) (act : e.Act peer ev e') : e'.Sends x := by
  obtain ⟨op, sent⟩ := ev
  obtain ⟨c', out', stream'⟩ := e'
  cases act.call.effect with
  | packet ht => exact h.plain act (ht.localSeqNum st) rfl ht.payload
  | synSent | synLost =>
    refine h.plain act rfl rfl fun p hp => ?_
    cases List.mem_singleton.mp hp
    rfl
  | closed => exact h.plain act rfl rfl nofun
  | @sent data now ok fuel r call =>
    have tiles := (send_outcome call).sent.tiles
    rw [h.next] at tiles
    obtain ⟨last, slices⟩ := tiles.slices
    have grown := act.stream
    rw [dataSent, List.flatMap_singleton] at grown
    refine ⟨by rw [grown]; exact last, fun p hp => ?_⟩
    rw [act.out] at hp
    rcases List.mem_append.mp hp with hp | hp
    · exact (h.carries p hp).mono act.grow
    · intro _
      rw [grown]
      exact slices p hp
  | other same packet data quiet =>
    refine h.plain act same.localSeqNum data fun p hp => ?_
    rw [quiet unacked] at hp
    cases hp

/-- An end that has both numbers: it sends from `x` on, and follows what its peer sends from `y`
on, from position `d`. -/
structure Open (x y : UInt32) (d : Nat) (before : Bytes) (e peer : End) : Prop where
  inv : TCPConnection.Inv e.conn
  synced : Synced e.conn
  sends : e.Sends x
  follows : Follows y d before peer.stream e.conn

theorem Open.act (h : Open x y d before e peer) (carries : ∀ p ∈ peer.out, Carries y peer.stream p)
    (start : d < 2 ^ 32) (short : peer.stream.length < 2 ^ 32) (act : e.Act peer ev e') :
    Open x y d before e' peer := by
  refine ⟨h.inv.step act.call, h.synced.step act.call,
    h.sends.act h.inv.unacked h.synced.ne.2.2.1 act, ?_⟩
  exact h.follows.step h.synced start short (fun p hp => carries p (act.fromPeer p hp)) act.call

theorem Open.grow {peer' : End} (h : Open x y d before e peer)
    (grow : peer.stream <+: peer'.stream) : Open x y d before e peer' :=
  ⟨h.inv, h.synced, h.sends, h.follows.mono grow⟩

end End

/-! ## Both ends -/

namespace Link

variable {s s' : Link} {x y : UInt32} {dA dB : Nat} {beforeA beforeB : Bytes}
  {ev : Event}

/-- Fewer than 2^32 bytes have gone either way. -/
def Short (s : Link) : Prop := s.a.stream.length < 2 ^ 32 ∧ s.b.stream.length < 2 ^ 32

theorem Step.short (h : Step s ev s') (short : s'.Short) : s.Short := by
  cases h with
  | left act => exact ⟨Nat.lt_of_le_of_lt act.grow.length_le short.1, short.2⟩
  | right act => exact ⟨short.1, Nat.lt_of_le_of_lt act.grow.length_le short.2⟩

/-- `a` sends from `x` on and `b` from `y` on. -/
structure Both (x y : UInt32) (dA dB : Nat) (beforeA beforeB : Bytes) (s : Link) : Prop where
  a : s.a.Open x y dA beforeA s.b
  b : s.b.Open y x dB beforeB s.a

theorem Both.step (h : Both x y dA dB beforeA beforeB s) (startA : dA < 2 ^ 32)
    (startB : dB < 2 ^ 32) (short : s.Short) (hs : Step s ev s') :
    Both x y dA dB beforeA beforeB s' := by
  cases hs with
  | left act => exact ⟨h.a.act h.b.sends.carries startA short.2 act, h.b.grow act.grow⟩
  | right act => exact ⟨h.a.grow act.grow, h.b.act h.a.sends.carries startB short.1 act⟩

/-- Between any two ESTABLISHED connections, each end has received in order, without gaps and
without repetitions, what its peer has sent from the position on whose number it waited for. -/
theorem received_from {a b : TCPConnection} (ha : Reachable a) (hb : Reachable b)
    (sa : a.state = .established) (sb : b.state = .established)
    {es : List Event}
    (run : Run Step ⟨⟨a, [], []⟩, ⟨b, [], []⟩⟩ es s) (short : s.Short) :
    Follows b.localSeqNum (a.remoteSeqNum - b.localSeqNum).toNat a.receivedData s.b.stream
      s.a.conn ∧
    Follows a.localSeqNum (b.remoteSeqNum - a.localSeqNum).toNat b.receivedData s.a.stream
      s.b.conn := by
  have both := run.invariant
    (fun t => t.Short → Both a.localSeqNum b.localSeqNum (a.remoteSeqNum - b.localSeqNum).toNat
      (b.remoteSeqNum - a.localSeqNum).toNat a.receivedData b.receivedData t) ?_ ?_
  · exact ⟨(both short).a.follows, (both short).b.follows⟩
  · intro _
    exact ⟨⟨ha.inv, .inr (.inl sa), ⟨by simp, nofun⟩, .start rfl⟩,
      ⟨hb.inv, .inr (.inl sb), ⟨by simp, nofun⟩, .start rfl⟩⟩
  · intro t e t' ht hs short
    exact (ht (hs.short short)).step (UInt32.toNat_lt _) (UInt32.toNat_lt _) (hs.short short) hs

/-- One byte, whose packet arrives twice. -/
theorem received_from_openedBy : ∃ es s, Run Step ⟨⟨openedBy 100 300, [], []⟩,
    ⟨openedBy 300 100, [], []⟩⟩ es s ∧ s.b.conn.receivedData = [7] ∧
      Follows 101 0 [] [7] s.b.conn := by
  have sent : Step ⟨⟨openedBy 100 300, [], []⟩, ⟨openedBy 300 100, [], []⟩⟩
      (.inl (.send [7] (fun _ => 0) (fun _ => true) 2, [peerData 101 [7]]))
      ⟨⟨(openedBy 100 300).pushRetransmit [7] 0 1, [peerData 101 [7]], [7]⟩,
        ⟨openedBy 300 100, [], []⟩⟩ :=
    .left ⟨rfl, nofun, rfl, rfl⟩
  have arrived (b : TCPConnection) (quiet : (b.handlePacket 0 (peerData 101 [7])).sent = []) :
      Step
        ⟨⟨(openedBy 100 300).pushRetransmit [7] 0 1, [peerData 101 [7]], [7]⟩, ⟨b, [], []⟩⟩
        (.inr (.handlePacket 0 (peerData 101 [7]), []))
        ⟨⟨(openedBy 100 300).pushRetransmit [7] 0 1, [peerData 101 [7]], [7]⟩,
          ⟨(b.handlePacket 0 (peerData 101 [7])).conn, [], []⟩⟩ := by
    refine .right ⟨?_, fun _ h => by cases h; exact List.mem_singleton_self _, rfl, rfl⟩
    rw [TCPConnection.Step, exec, quiet]
  have run := ((Run.single sent).snoc (arrived _ rfl)).snoc (arrived _ rfl)
  have follows := (received_from (reachable_openedBy 100 300) (reachable_openedBy 300 100)
    (by rw [openedBy_eq]) (by rw [openedBy_eq]) run ⟨by decide, by decide⟩).2
  exact ⟨_, _, run, rfl, follows⟩

/-! ## The handshake -/

/-- `a` has called `connect`, and its SYN has gone out. -/
def opening (a b : TCPConnection) (remoteIp : UInt32) (remotePort : UInt16) : Link where
  a :=
    { conn := (a.connect remoteIp remotePort true).conn
      out := (a.connect remoteIp remotePort true).sent }
  b := { conn := b }

def Passive : Event → Prop
  | .inr (.connect _ _ _, _) => False
  | _ => True

/-- A call other than `connect` on `b`. -/
def PassiveStep (s : Link) (e : Event) (s' : Link) : Prop := Step s e s' ∧ Passive e

/-- `a` waits for the answer to its SYN. -/
structure Opening (isnA isnB : UInt32) (s : Link) : Prop where
  invA : TCPConnection.Inv s.a.conn
  stateA : s.a.conn.state = .synSent
  seqA : s.a.conn.localSeqNum = isnA
  streamA : s.a.stream = []
  outA : ∀ p ∈ s.a.out,
    p.payload = [] ∧ p.getSequenceNumber = isnA ∧ p.hasFlag tcpFlagAck = false
  invB : TCPConnection.Inv s.b.conn
  stateB : (s.b.conn.state = .closed ∧ s.b.out = []) ∨
    (s.b.conn.state = .synReceived ∧ s.b.conn.remoteSeqNum = isnA)
  sendsB : s.b.Sends isnB
  streamB : s.b.stream = []
  outB : ∀ p ∈ s.b.out, p.getSequenceNumber = isnB

variable {isnA isnB : UInt32}

/-- The number before the first is the last. -/
theorem seqAt_before (x : UInt32) : seqAt (x + 1) (2 ^ 32 - 1) = x := by
  rw [seqAt, UInt32.add_assoc]
  exact UInt32.add_zero x

theorem Opening.left {a b a' : End} {e : Op × List TCPPacket} (h : Opening isnA isnB ⟨a, b⟩)
    (act : a.Act b e a') :
    Opening isnA isnB ⟨a', b⟩ ∨ Both (isnA + 1) isnB 1 (2 ^ 32 - 1) [] [] ⟨a', b⟩ := by
  have inv := h.invA.step act.call
  have st : a.conn.state = .synSent := h.stateA
  have stay (state : a'.conn.state = .synSent) (seq : a'.conn.localSeqNum = a.conn.localSeqNum)
      (out : e.2 = []) : Opening isnA isnB ⟨a', b⟩ := by
    obtain ⟨outA, streamA⟩ := act.silent out
    refine ⟨inv, state, seq.trans h.seqA, streamA.trans h.streamA, ?_, h.invB, h.stateB, h.sendsB,
      h.streamB, h.outB⟩
    rw [outA]
    exact h.outA
  obtain ⟨op, sent⟩ := e
  obtain ⟨c', out', stream'⟩ := a'
  cases act.call.effect with
  | @packet _ p _ _ ht =>
    have arrived : p ∈ b.out := act.fromPeer p rfl
    have plain := ht.payload
    cases ht with
    | ignored | wrongAck => exact .inl (stay st rfl rfl)
    | activeOpen =>
      obtain ⟨stB, nextB⟩ := h.stateB.resolve_left fun closed =>
        List.not_mem_nil (closed.2 ▸ arrived)
      obtain ⟨dataA, -⟩ := h.invA.opening (.inr (.inl st))
      obtain ⟨dataB, -⟩ := h.invB.opening (.inr (.inr stB))
      have streamA : stream' = [] := act.stream.trans ((List.append_nil _).trans h.streamA)
      refine .inr ⟨⟨inv, .inr (.inl rfl), ⟨?_, fun q hq some => ?_⟩, ?_⟩,
        ⟨h.invB, .inl stB, h.sendsB, ?_⟩⟩
      · have seqA : a.conn.localSeqNum = isnA := h.seqA
        simp [streamA, seqA]
      · rcases List.mem_append.mp (act.out ▸ hq) with hq | hq
        · exact absurd (h.outA q hq).1 some
        · exact absurd (plain q (mem_of_mem_wentOut hq)) some
      · exact ⟨[], dataA, List.nil_prefix, by rw [h.outB p arrived]; rfl⟩
      · exact ⟨[], dataB, List.nil_prefix, nextB.trans (seqAt_before isnA).symm⟩
    | passiveOpen st' => rcases st' with st' | st' <;> simp [st] at st'
    | opened st' | fin st' | data st' | finAcked st' | peerFin st' | closingAcked st'
    | lastAcked st' => simp [st] at st'
  | synSent st' | synLost st' | closed st' => simp [st] at st'
  | sent call =>
    cases send_of_not_established (by simp [st]) call
    exact .inl (stay st rfl rfl)
  | other same packet data quiet =>
    exact .inl (stay (same.state.trans st) same.localSeqNum (quiet h.invA.unacked))

theorem Opening.right {a b b' : End} {e : Op × List TCPPacket} (h : Opening isnA isnB ⟨a, b⟩)
    (act : b.Act a e b') (passive : Passive (.inr e)) : Opening isnA isnB ⟨a, b'⟩ := by
  have inv := h.invB.step act.call
  have st : b.conn.state = .closed ∨ b.conn.state = .synReceived := h.stateB.imp And.left And.left
  have ne : b.conn.state ≠ .synSent ∧ b.conn.state ≠ .established := by
    rcases st with st | st <;> simp [st]
  have sends := h.sendsB.act h.invB.unacked ne.1 act
  have stay (state : b'.conn.state = b.conn.state)
      (seq : b'.conn.remoteSeqNum = b.conn.remoteSeqNum) (out : e.2 = []) :
      Opening isnA isnB ⟨a, b'⟩ := by
    obtain ⟨outB, streamB⟩ := act.silent out
    refine ⟨h.invA, h.stateA, h.seqA, h.streamA, h.outA, inv, ?_, sends,
      streamB.trans h.streamB, ?_⟩
    · rw [state, outB, seq]
      exact h.stateB
    · rw [outB]
      exact h.outB
  obtain ⟨op, sent⟩ := e
  obtain ⟨c', out', stream'⟩ := b'
  cases act.call.effect with
  | @packet _ p _ _ ht =>
    obtain ⟨-, seq, noAck⟩ := h.outA p (act.fromPeer p rfl)
    cases ht with
    | ignored => exact stay rfl rfl rfl
    | passiveOpen =>
      refine ⟨h.invA, h.stateA, h.seqA, h.streamA, h.outA, inv, .inr ⟨rfl, seq⟩, sends, ?_, ?_⟩
      · exact act.stream.trans ((List.append_nil _).trans h.streamB)
      · intro q hq
        rcases List.mem_append.mp (act.out ▸ hq) with hq | hq
        · exact h.outB q hq
        · cases List.mem_singleton.mp (mem_of_mem_wentOut hq)
          have next := h.sendsB.next
          rw [h.streamB] at next
          exact next.trans (seqAt_zero isnB)
    | opened _ ack => simp [noAck] at ack
    | wrongAck st' | activeOpen st' | fin st' | data st' | finAcked st' | peerFin st'
    | closingAcked st' | lastAcked st' => rcases st with st | st <;> simp [st] at st'
  | synSent st' | synLost st' => exact passive.elim
  | closed st' => exact absurd st' ne.2
  | sent call =>
    cases send_of_not_established ne.2 call
    exact stay rfl rfl rfl
  | other same packet data quiet => exact stay same.state same.remoteSeqNum (quiet h.invB.unacked)

theorem Opening.start {a b : TCPConnection} (ha : Reachable a) (hb : Reachable b)
    (sa : a.state = .closed) (sb : b.state = .closed) (remoteIp : UInt32) (remotePort : UInt16) :
    Opening a.localSeqNum b.localSeqNum (opening a b remoteIp remotePort) := by
  have connected := Duplex.connect_closed sa remoteIp remotePort
  have inv : TCPConnection.Inv (a.connect remoteIp remotePort true).conn :=
    ha.inv.step (e := (.connect remoteIp remotePort true, _)) rfl
  refine ⟨inv, ?_, ?_, rfl, ?_, hb.inv, .inl ⟨sb, rfl⟩, ⟨?_, nofun⟩, rfl, nofun⟩
  · rw [opening, connected]
  · rw [opening, connected]
  · intro p hp
    rw [opening, connected] at hp
    cases List.mem_singleton.mp hp
    exact ⟨rfl, rfl, hasFlag_synPacket a remotePort tcpFlagAck⟩
  · exact (seqAt_zero _).symm

/-- From the SYN of an active open on, whatever the network does, the passive end receives
nothing, and the active end the peer's stream without its first byte. -/
theorem handshake_received {a b : TCPConnection} {remoteIp : UInt32} {remotePort : UInt16}
    (ha : Reachable a) (hb : Reachable b) (sa : a.state = .closed) (sb : b.state = .closed)
    {es : List Event}
    (run : Run PassiveStep (opening a b remoteIp remotePort) es s)
    (short : s.Short) :
    s.b.conn.receivedData = [] ∧ s.a.conn.receivedData <+: s.b.stream.drop 1 := by
  have phase := run.invariant
    (fun t => t.Short → Opening a.localSeqNum b.localSeqNum t ∨
      Both (a.localSeqNum + 1) b.localSeqNum 1 (2 ^ 32 - 1) [] [] t) ?_ ?_
  · rcases phase short with h | h
    · obtain ⟨dataA, -⟩ := h.invA.opening (.inr (.inl h.stateA))
      obtain ⟨dataB, -⟩ := h.invB.opening (h.stateB.imp And.left fun st => .inr st.1)
      exact ⟨dataB, dataA ▸ List.nil_prefix⟩
    · obtain ⟨gotA, receivedA, sliceA, -⟩ := h.a.follows
      obtain ⟨gotB, receivedB, sliceB, -⟩ := h.b.follows
      have none : s.a.stream.drop (2 ^ 32 - 1) = [] :=
        List.drop_eq_nil_of_le (Nat.le_sub_one_of_lt short.1)
      rw [none, List.prefix_nil] at sliceB
      refine ⟨by rw [receivedB, sliceB, List.nil_append], ?_⟩
      rw [receivedA, List.nil_append]
      exact sliceA
  · intro _
    exact .inl (.start ha hb sa sb remoteIp remotePort)
  · rintro t e t' ht ⟨hs, passive⟩ short
    rcases ht (hs.short short) with h | h
    · cases hs with
      | left act => exact h.left act
      | right act => exact .inl (h.right act passive)
    · exact .inr (h.step (by decide) (by decide) (hs.short short) hs)

/-- A new connection that a peer has opened, whose SYN had the number `x`. -/
def acceptedBy (isn x : UInt32) : TCPConnection :=
  { new isn with remoteSeqNum := x, state := .established }

/-- The passive end's first byte, sent after the handshake, arrives and is not received. -/
theorem handshake_received_new : ∃ es s,
    Run PassiveStep (opening (new 100) (new 300) 1 80) es s ∧
      s.b.stream = [7] ∧ s.b.conn.receivedData = [] ∧ s.a.conn.receivedData <+: [7].drop 1 := by
  let b₁ := ((new 300).handlePacket 0 ((new 100).synPacket 80)).conn
  have answered : PassiveStep (opening (new 100) (new 300) 1 80)
      (.inr (.handlePacket 0 ((new 100).synPacket 80), [peerSynAck 300 101]))
      ⟨(opening (new 100) (new 300) 1 80).a, ⟨b₁, [peerSynAck 300 101], []⟩⟩ :=
    ⟨.right ⟨rfl, fun _ h => by cases h; exact List.mem_singleton_self _, rfl, rfl⟩, trivial⟩
  have opened : PassiveStep ⟨(opening (new 100) (new 300) 1 80).a, ⟨b₁, [peerSynAck 300 101], []⟩⟩
      (.inl (.handlePacket 0 (peerSynAck 300 101), [(openedBy 100 300).ackPacket]))
      ⟨⟨openedBy 100 300, [(new 100).synPacket 80, (openedBy 100 300).ackPacket], []⟩,
        ⟨b₁, [peerSynAck 300 101], []⟩⟩ :=
    ⟨.left ⟨rfl, fun _ h => by cases h; exact List.mem_singleton_self _, rfl, rfl⟩, trivial⟩
  have accepted : PassiveStep
      ⟨⟨openedBy 100 300, [(new 100).synPacket 80, (openedBy 100 300).ackPacket], []⟩,
        ⟨b₁, [peerSynAck 300 101], []⟩⟩
      (.inr (.handlePacket 0 (openedBy 100 300).ackPacket, []))
      ⟨⟨openedBy 100 300, [(new 100).synPacket 80, (openedBy 100 300).ackPacket], []⟩,
        ⟨acceptedBy 300 100, [peerSynAck 300 101], []⟩⟩ :=
    ⟨.right ⟨rfl, fun _ h => by cases h; simp, rfl, rfl⟩, trivial⟩
  have sent : PassiveStep
      ⟨⟨openedBy 100 300, [(new 100).synPacket 80, (openedBy 100 300).ackPacket], []⟩,
        ⟨acceptedBy 300 100, [peerSynAck 300 101], []⟩⟩
      (.inr (.send [7] (fun _ => 0) (fun _ => true) 2, [peerData 300 [7]]))
      ⟨⟨openedBy 100 300, [(new 100).synPacket 80, (openedBy 100 300).ackPacket], []⟩,
        ⟨(acceptedBy 300 100).pushRetransmit [7] 0 1,
          [peerSynAck 300 101, peerData 300 [7]], [7]⟩⟩ :=
    ⟨.right ⟨rfl, nofun, rfl, rfl⟩, trivial⟩
  have arrived : PassiveStep
      ⟨⟨openedBy 100 300, [(new 100).synPacket 80, (openedBy 100 300).ackPacket], []⟩,
        ⟨(acceptedBy 300 100).pushRetransmit [7] 0 1,
          [peerSynAck 300 101, peerData 300 [7]], [7]⟩⟩
      (.inl (.handlePacket 0 (peerData 300 [7]), []))
      ⟨⟨((openedBy 100 300).handlePacket 0 (peerData 300 [7])).conn,
          [(new 100).synPacket 80, (openedBy 100 300).ackPacket], []⟩,
        ⟨(acceptedBy 300 100).pushRetransmit [7] 0 1,
          [peerSynAck 300 101, peerData 300 [7]], [7]⟩⟩ :=
    ⟨.left ⟨rfl, fun _ h => by cases h; simp, rfl, rfl⟩, trivial⟩
  have run := ((((Run.single answered).snoc opened).snoc accepted).snoc sent).snoc arrived
  have received := handshake_received (Duplex.reachable_new 100) (Duplex.reachable_new 300) rfl rfl
    run ⟨by decide, by decide⟩
  exact ⟨_, _, run, rfl, received⟩

end Link

end Lwip
