import Lwip.Std.Ranking
import Lwip.Verify.Core.Frames

/-! Stacks that answer each other. Whatever frames are about and wherever each of them is
delivered, the answers die out: an echo reply is answered by nobody, and a connection can answer
twice, as its states only lead on. `exchange_bounded` counts the deliveries. -/

namespace Lwip

open Registry

namespace TCPConnection

/-- How often the connection can still answer when nobody calls it. -/
def answersLeft (c : TCPConnection) : Nat :=
  match c.state with
  | .closed | .listen | .synSent | .lastAck => 2
  | .synReceived | .established | .finWait1 | .finWait2 => 1
  | .closeWait | .closing | .timeWait => 0

theorem answersLeft_le (c : TCPConnection) : c.answersLeft ≤ 2 := by
  rw [answersLeft]
  split <;> omega

theorem Transition.answersLeft {c c' : TCPConnection} {p : TCPPacket} {now : Time}
    {sent : List TCPPacket} (h : Transition now c p c' sent) :
    c'.answersLeft + sent.length ≤ c.answersLeft := by
  cases h with
  | ignored | wrongAck => exact Nat.le_refl _
  | data =>
    obtain ⟨_, _, _, _, _, hd⟩ := data_frame { c with lastActivity := now } p
    rw [hd]
    exact Nat.le_refl _
  | passiveOpen st => rcases st with st | st <;> simp [TCPConnection.answersLeft, st]
  | activeOpen st | opened st | fin st | finAcked st | peerFin st | closingAcked st
  | lastAcked st => simp [TCPConnection.answersLeft, st]

end TCPConnection

namespace StackManager

variable {host : Endian} {packet : Bytes} {now : Time} {isn : UInt32}

/-- Where the handler looks for an echo request it finds one. -/
def MayEcho (packet : Bytes) : Prop :=
  packet.getD 9 0 = 1 ∧ packet.getD (headerLen packet) 0 = 8

instance : Decidable (MayEcho packet) :=
  inferInstanceAs (Decidable (_ ∧ _))

/-- The frame itself, and the reply to it. -/
def weight (packet : Bytes) : Nat := if MayEcho packet then 2 else 1

/-- The answers that the connections of a table can give, those still to come included. -/
def load (m : TCPManager) : Nat :=
  (m.connections.objects.map TCPConnection.answersLeft).sum +
    2 * (m.maxConnections - m.connections.size)

theorem weight_pos (packet : Bytes) : 1 ≤ weight packet := by
  rw [weight]
  split <;> omega

theorem weight_le (packet : Bytes) : weight packet ≤ 2 := by
  rw [weight]
  split <;> omega

/-- The byte that says what an ICMP message is, as the weight reads it. -/
theorem getD_headerLen (packet : Bytes) :
    packet.getD (headerLen packet) 0 = (packet.drop (headerLen packet)).getD 0 0 := by
  simp [List.getD_eq_getElem?_getD]

/-- A reply is no request. -/
theorem weight_echoReply (ihl : 20 ≤ headerLen packet) (len : headerLen packet ≤ packet.length) :
    weight (echoReply host packet) = 1 := by
  rw [weight, if_neg]
  rintro ⟨-, type⟩
  rw [getD_headerLen, headerLen_echoReply ihl len, drop_echoReply ihl len] at type
  cases type

/-- A request weighs 2. -/
theorem weight_of_echoRequest (proto : packet.getD 9 0 = 1)
    (echo : EchoRequest host (packet.drop (headerLen packet))) : weight packet = 2 := by
  rw [weight, if_pos]
  refine ⟨proto, ?_⟩
  obtain ⟨accepted, type⟩ := echo
  rw [ICMPPacket.parse] at accepted type
  rw [getD_headerLen]
  split at accepted
  · cases accepted
  · rename_i long
    rw [if_neg long] at type
    exact type

theorem weight_answer (host : Endian) (flags : UInt16) (seq ack : UInt32) :
    weight ((answer flags seq ack).serialize host).1 = 1 := by
  have port : ((answer flags seq ack).serialize host).1.getD 0 0 = 0 := by
    have none : (answer flags seq ack).getSourcePort = 0 := rfl
    rw [getD_serialize_port, none]
    decide
  have noHeader : headerLen ((answer flags seq ack).serialize host).1 = 0 := by
    rw [headerLen, port]
    rfl
  rw [weight, if_neg]
  rintro ⟨-, type⟩
  rw [noHeader, port] at type
  cases type

/-- The answers of a connection weigh 1 each. -/
theorem sum_weight_answers (host : Endian) (c : TCPConnection) (now : Time) (tcp : TCPPacket) :
    (c.handlePacket now tcp).conn.answersLeft +
      ((serialized host (c.handlePacket now tcp).sent).map weight).sum ≤ c.answersLeft := by
  have ht := c.handlePacket_transition now tcp
  have le := ht.answersLeft
  rcases answers_of_transition ht with eq | ⟨flags, seq, ack, eq⟩
  · rw [eq] at le ⊢
    exact le
  · rw [eq] at le ⊢
    simpa [serialized, weight_answer] using le

theorem Outcome.load {m m' : TCPManager} {new : List Bytes}
    (h : Outcome host now isn packet m m' new) :
    StackManager.load m' + (new.map weight).sum < StackManager.load m + weight packet := by
  have pos := weight_pos packet
  cases h with
  | silent | refused =>
    rw [List.map_nil, List.sum_nil]
    omega
  | echoed proto ihl len echo =>
    rw [List.map_singleton, List.sum_singleton, weight_echoReply ihl len,
      weight_of_echoRequest proto echo]
    omega
  | @found r conn _ _ held =>
    have left := sum_weight_answers host conn now (segment host packet)
    have sum : ((m.connections.objects.set r
          (conn.handlePacket now (segment host packet)).conn).map TCPConnection.answersLeft).sum +
        conn.answersLeft = (m.connections.objects.map TCPConnection.answersLeft).sum +
        (conn.handlePacket now (segment host packet)).conn.answersLeft := sum_map_set _ held
    have size : (m.connections.set r
        (conn.handlePacket now (segment host packet)).conn).size = m.connections.size := rfl
    simp only [StackManager.load, size]
    simp only [Registry.set]
    omega
  | @created conn port nextPort _ absent room =>
    have left := sum_weight_answers host conn now (segment host packet)
    have le := conn.answersLeft_le
    have objects : ((m.connections.insertNew (segmentKey packet) conn).set m.connections.next
        (conn.handlePacket now (segment host packet)).conn).objects =
        m.connections.objects ++ [(conn.handlePacket now (segment host packet)).conn] := by
      simp [Registry.set, Registry.insertNew, Registry.next]
    have size : ((m.connections.insertNew (segmentKey packet) conn).set m.connections.next
        (conn.handlePacket now (segment host packet)).conn).size = m.connections.size + 1 :=
      size_insertNew (a := conn) absent
    simp only [StackManager.load, objects, size, List.map_append, List.map_singleton,
      List.sum_append_nat, List.sum_singleton]
    omega

/-! ## Stacks and the frames between them -/

/-- The stacks, and the frames that are about. -/
structure Exchange where
  nodes : List StackManager
  frames : List Bytes

inductive Exchange.Event where
  | delivered (i : Nat) (now : Time) (isn : UInt32)
  | lost

/-- Some frame is delivered to some stack, which sends its answers, or gets lost. The `i`-th stack
has the byte order `host i`. -/
inductive Exchange.Step (host : Nat → Endian) : Exchange → Exchange.Event → Exchange → Prop where
  | delivered {x : Exchange} {i : Nat} {s s' : StackManager} {interface : NetworkInterface}
      {packet : Bytes} {before after new : List Bytes} {now : Time} {isn : UInt32}
      (about : x.frames = before ++ packet :: after) (node : x.nodes[i]? = some s)
      (up : s.interface = some interface)
      (returns : processIncomingPacket (host i) s now isn packet = .ok s')
      (sent : s'.interface = some { interface with frames := interface.frames ++ new }) :
    Step host x (.delivered i now isn) ⟨x.nodes.set i s', before ++ after ++ new⟩
  | lost {x : Exchange} {packet : Bytes} {before after : List Bytes}
      (about : x.frames = before ++ packet :: after) :
    Step host x .lost { x with frames := before ++ after }

namespace Exchange

variable {host : Nat → Endian} {x x' : Exchange} {e : Event}

/-- The frames about and those that may still be sent. -/
def rank (x : Exchange) : Nat :=
  (x.frames.map weight).sum + (x.nodes.map fun s => load s.tcpManager).sum

theorem Step.rank_lt (h : Step host x e x') : x'.rank < x.rank := by
  cases h with
  | @delivered i s s' interface packet before after new now isn about node up returns sent =>
    obtain ⟨m, new', outcome, rfl⟩ := processIncomingPacket_outcome up returns
    have same : new' = new := by simpa using sent
    subst same
    have lower := outcome.load
    have sum := sum_map_set (fun s : StackManager => load s.tcpManager) (b :=
      ⟨some { interface with frames := interface.frames ++ new' }, m⟩) node
    dsimp only at sum
    simp only [rank, about, List.map_append, List.map_cons, List.sum_append_nat, List.sum_cons]
    omega
  | @lost packet before after about =>
    have pos := weight_pos packet
    simp only [rank, about, List.map_append, List.map_cons, List.sum_append_nat, List.sum_cons]
    omega

/-- What one stack may still add. -/
def room (s : StackManager) : Nat :=
  s.conns.next + (s.tcpManager.maxConnections - s.conns.size)

theorem load_le (m : TCPManager) :
    load m ≤ 2 * (m.connections.next + (m.maxConnections - m.connections.size)) := by
  have sum := sum_map_le TCPConnection.answersLeft_le m.connections.objects
  rw [load, Registry.next]
  omega

theorem rank_le (x : Exchange) :
    x.rank ≤ 2 * x.frames.length + 2 * (x.nodes.map room).sum := by
  have frames := sum_map_le weight_le x.frames
  have nodes : (x.nodes.map fun s => load s.tcpManager).sum ≤ 2 * (x.nodes.map room).sum := by
    induction x.nodes with
    | nil => exact Nat.le_refl _
    | cons s nodes ih =>
      have := load_le s.tcpManager
      simp only [List.map_cons, List.sum_cons, room, conns]
      omega
  rw [rank]
  omega

/-- Any number of stacks in any state, whose answers are delivered to each other in any order or
lost, fall silent: no run takes more than two steps for a frame that is about at its start, an
object made by then and a free place in a table. -/
theorem exchange_bounded {es : List Event} (run : Run (Step host) x es x') :
    es.length ≤ 2 * x.frames.length + 2 * (x.nodes.map room).sum := by
  have := run.length_add_le rank fun _ _ _ hs => hs.rank_lt
  have := x.rank_le
  omega

/-- Two stacks get one SYN each. -/
theorem exchange_bounded_synFrame : ∃ x,
    Run (Step fun _ => .little) ⟨[started, started], [synFrame 2 1, synFrame 2 3]⟩
      [.delivered 0 1 7, .delivered 1 2 8] x ∧ 2 ≤ 2 * 2 + 2 * (1000 + (1000 + 0)) := by
  obtain ⟨s₁, handled₁⟩ : ∃ s, processIncomingPacket .little started 1 7 (synFrame 2 1) = .ok s :=
    ⟨_, rfl⟩
  obtain ⟨s₂, handled₂⟩ : ∃ s, processIncomingPacket .little started 2 8 (synFrame 2 3) = .ok s :=
    ⟨_, rfl⟩
  obtain ⟨m₁, new₁, -, eq₁⟩ := processIncomingPacket_outcome rfl handled₁
  obtain ⟨m₂, new₂, -, eq₂⟩ := processIncomingPacket_outcome rfl handled₂
  have first : Step (fun _ => .little) ⟨[started, started], [synFrame 2 1, synFrame 2 3]⟩
      (.delivered 0 1 7) ⟨[s₁, started], [] ++ [synFrame 2 3] ++ new₁⟩ :=
    .delivered rfl rfl rfl handled₁ (congrArg interface eq₁)
  have second : Step (fun _ => .little) ⟨[s₁, started], [] ++ [synFrame 2 3] ++ new₁⟩
      (.delivered 1 2 8) ⟨[s₁, s₂], [] ++ new₁ ++ new₂⟩ :=
    .delivered rfl rfl rfl handled₂ (congrArg interface eq₂)
  have run := (Run.single first).snoc second
  exact ⟨_, run, exchange_bounded run⟩

end Exchange

end StackManager

end Lwip
