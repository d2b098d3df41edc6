import Lwip.Verify.Core.Echo
import Lwip.Verify.Core.Layers

/-! What a frame can do to a stack. `Outcome` lists what the handling of one frame leaves in the
table and gives to the interface: nothing, an echo reply, or what the connection of one peer
answers. No frame is answered with more frames or more bytes than it has (`no_amplification`). A
run of the stack is a run of the connection of each peer by itself (`peers_independent`), and of
each connection object by itself (`objects_run`). -/

namespace Lwip

open Registry

namespace StackManager

variable {host : Endian} {s s' : StackManager} {packet : Bytes} {now : Time} {isn : UInt32}
  {interface : NetworkInterface}

/-- The frame has a TCP segment. -/
def HasSegment (packet : Bytes) : Prop :=
  20 ≤ packet.length ∧ packet.getD 9 0 = 6 ∧ headerLen packet + 20 ≤ packet.length

instance : Decidable (HasSegment packet) :=
  inferInstanceAs (Decidable (_ ∧ _ ∧ _))

/-- The key under which the connection for the segment of a frame is looked up. -/
def segmentKey (packet : Bytes) : ConnKey := (destinationAddress packet, sourcePort packet)

/-- What `send_packet` is given for the packets that a call sends. -/
def serialized (host : Endian) (sent : List TCPPacket) : List Bytes :=
  sent.map fun p => (p.serialize host).1

/-- The outcomes of handling a frame: the TCP manager afterwards and the frames sent. -/
inductive Outcome (host : Endian) (now : Time) (isn : UInt32) (packet : Bytes) (m : TCPManager) :
    TCPManager → List Bytes → Prop where
  | silent (none : ¬ HasSegment packet) : Outcome host now isn packet m m []
  | echoed (proto : packet.getD 9 0 = 1) (ihl : 20 ≤ headerLen packet)
      (len : headerLen packet ≤ packet.length)
      (echo : EchoRequest host (packet.drop (headerLen packet))) :
    Outcome host now isn packet m m [echoReply host packet]
  | refused (segment : HasSegment packet)
      (absent : m.connections.find? (segmentKey packet) = none)
      (full : m.maxConnections ≤ m.connections.size) : Outcome host now isn packet m m []
  | found {r : ConnRef} {conn : TCPConnection} (segment : HasSegment packet)
      (listed : m.connections.find? (segmentKey packet) = some r)
      (held : m.connections.get? r = some conn) :
    Outcome host now isn packet m
      { m with
        connections :=
          m.connections.set r (conn.handlePacket now (StackManager.segment host packet)).conn }
      (serialized host (conn.handlePacket now (StackManager.segment host packet)).sent)
  | created {conn : TCPConnection} {port nextPort : UInt16} (segment : HasSegment packet)
      (absent : m.connections.find? (segmentKey packet) = none)
      (room : m.connections.size < m.maxConnections)
      (fresh : conn = TCPManager.freshConnection isn port) (unused : m.used port = false) :
    Outcome host now isn packet m
      { m with
        connections := (m.connections.insertNew (segmentKey packet) conn).set m.connections.next
          (conn.handlePacket now (StackManager.segment host packet)).conn
        nextPort }
      (serialized host (conn.handlePacket now (StackManager.segment host packet)).sent)

theorem sendAll_eq (up : s.interface = some interface) (sent : List TCPPacket) :
    sendAll host s sent = .ok { s with
      interface := some { interface with
        frames := interface.frames ++ serialized host sent } } := by
  induction sent generalizing s interface with
  | nil => simp [sendAll, serialized, ← up]; rfl
  | cons p sent ih =>
    rw [sendAll, List.foldlM_cons, sendPacket, up]
    exact (ih rfl).trans (by simp [serialized])

theorem deliver_eq {m : TCPManager} {r : ConnRef} {conn : TCPConnection} {tcp : TCPPacket}
    (up : s.interface = some interface) (held : m.connections.get? r = some conn) :
    deliver host { s with tcpManager := m } r now tcp = .ok
      { interface := some { interface with
          frames := interface.frames ++ serialized host (conn.handlePacket now tcp).sent }
        tcpManager := { m with
          connections := m.connections.set r (conn.handlePacket now tcp).conn } } := by
  rw [deliver, held]
  refine sendAll_eq ?_ _
  exact up

theorem handleIcmpPacket_ignored (bytes : 20 ≤ packet.length)
    (len : headerLen packet ≤ packet.length)
    (other : ¬ EchoRequest host (packet.drop (headerLen packet))) :
    handleIcmpPacket host s packet = .ok s := by
  rw [handleIcmpPacket, if_neg (by omega), access_ipHeaderLen.1 (by omega), ok_bind,
    access_sliceFrom.1 len, ok_bind]
  dsimp only
  split
  · rfl
  · rename_i parsed
    rw [if_neg fun type => other ⟨by simpa using parsed, type⟩]
    rfl

/-- A handler that returns has stayed within the frame. -/
theorem inRange_of_ok {α : Type} {x : Except Fault α} {a : α} (h : x = .ok a) : InRange x := by
  rw [h]
  exact inRange_ok a

theorem handleIcmpPacket_outcome (up : s.interface = some interface) (bytes : 20 ≤ packet.length)
    (proto : packet.getD 9 0 = 1) (h : handleIcmpPacket host s packet = .ok s') :
    ∃ m new, Outcome host now isn packet s.tcpManager m new ∧
      s' = ⟨some { interface with frames := interface.frames ++ new }, m⟩ := by
  obtain ⟨len, room⟩ := (handleIcmpPacket_inRange_iff bytes).mp (inRange_of_ok h)
  by_cases echo : EchoRequest host (packet.drop (headerLen packet))
  · rw [(handleIcmpPacket_eq (room echo) len).1 echo, sendPacket, up] at h
    cases h
    exact ⟨_, _, .echoed proto (room echo) len echo, rfl⟩
  · rw [handleIcmpPacket_ignored bytes len echo] at h
    cases h
    refine ⟨_, _, .silent fun segment => ?_, by rw [List.append_nil, ← up]⟩
    rw [HasSegment, proto] at segment
    simp at segment

theorem handleTcpPacket_outcome (up : s.interface = some interface) (bytes : 20 ≤ packet.length)
    (proto : packet.getD 9 0 = 6) {ret : Option ConnRef}
    (h : handleTcpPacket host s now isn packet = .ok (ret, s')) :
    ∃ m new, Outcome host now isn packet s.tcpManager m new ∧
      s' = ⟨some { interface with frames := interface.frames ++ new }, m⟩ := by
  have same : s = ⟨some { interface with frames := interface.frames ++ [] }, s.tcpManager⟩ := by
    rw [List.append_nil, ← up]
  by_cases length : headerLen packet + 20 ≤ packet.length
  · have segment : HasSegment packet := ⟨bytes, proto, length⟩
    rw [handleTcpPacket_segment bytes length] at h
    split at h
    · cases h
    · rename_i m found
      cases h
      rcases TCPManager.findOrCreateConnection_cases found with ⟨_, -, eq, -⟩ |
        ⟨absent, full, -, rfl⟩ | ⟨-, -, _, _, eq, -⟩
      · cases eq
      · exact ⟨_, _, .refused segment absent full, by rw [← same]⟩
      · cases eq
    · rename_i r m found
      obtain ⟨t, ht, eq⟩ := bind_eq_ok h
      cases eq
      rcases TCPManager.findOrCreateConnection_cases found with ⟨_, listed, eq, rfl⟩ |
        ⟨-, -, eq, -⟩ | ⟨absent, room, port, nextPort, eq, rfl, unused, -, -⟩
      · cases eq
        obtain ⟨conn, held⟩ := exists_get? (lt_next listed)
        rw [deliver_eq up held] at ht
        cases ht
        exact ⟨_, _, .found segment listed held, rfl⟩
      · cases eq
      · cases eq
        rw [deliver_eq up get?_insertNew_next] at ht
        cases ht
        exact ⟨_, _, .created segment absent room rfl unused, rfl⟩
  · have len := (handleTcpPacket_inRange_iff bytes).mp (inRange_of_ok h)
    have failed (host : Endian) :
        TCPPacket.new.parse host (packet.drop (headerLen packet)) = (false, .new) := by
      rw [TCPPacket.parse, if_pos]
      rw [List.length_drop, TCPHeader.size]
      omega
    rw [handleTcpPacket, access_ipHeaderLen.1 (by omega), ok_bind, access_sliceFrom.1 len,
      ok_bind, failed] at h
    cases h
    exact ⟨_, _, .silent fun segment => length segment.2.2, same⟩

/-- What becomes of a stack that handles a frame. -/
theorem processIncomingPacket_outcome (up : s.interface = some interface)
    (h : processIncomingPacket host s now isn packet = .ok s') :
    ∃ m new, Outcome host now isn packet s.tcpManager m new ∧
      s' = ⟨some { interface with frames := interface.frames ++ new }, m⟩ := by
  have same : s = ⟨some { interface with frames := interface.frames ++ [] }, s.tcpManager⟩ := by
    rw [List.append_nil, ← up]
  rw [processIncomingPacket] at h
  split at h
  · rename_i short
    cases h
    exact ⟨_, _, .silent fun segment => absurd segment.1 (by omega), same⟩
  · have bytes : 20 ≤ packet.length := by omega
    rw [access_byteAt.1 (by omega), ok_bind] at h
    split at h
    · exact handleIcmpPacket_outcome up bytes ‹_› h
    · split at h
      · obtain ⟨⟨ret, t⟩, ht, eq⟩ := bind_eq_ok h
        cases eq
        exact handleTcpPacket_outcome up bytes ‹_› ht
      · rename_i notTcp
        have silent : Outcome host now isn packet s.tcpManager s.tcpManager [] :=
          .silent fun segment => notTcp segment.2.1
        split at h
        · rw [handleUdpPacket_eq h]
          exact ⟨_, _, silent, same⟩
        · cases h
          exact ⟨_, _, silent, same⟩

/-! ## What is sent -/

/-- A call of `handle_packet` sends one answer or none. -/
theorem answers_of_transition {c c' : TCPConnection} {p : TCPPacket} {sent : List TCPPacket}
    (h : TCPConnection.Transition now c p c' sent) :
    sent = [] ∨ ∃ flags seq ack, sent = [answer flags seq ack] := by
  cases h with
  | passiveOpen | activeOpen | fin | peerFin => exact .inr ⟨_, _, _, rfl⟩
  | _ => exact .inl rfl

theorem length_serialize_answer (host : Endian) (flags : UInt16) (seq ack : UInt32) :
    ((answer flags seq ack).serialize host).1.length = 20 := by
  have payload : (answer flags seq ack).payload = [] := rfl
  simp [TCPPacket.serialize, TCPPacket.setHeaderLength, TCPPacket.setFlags, payload,
    TCPHeader.size]

/-- A frame sent in answer to another, no longer than that. -/
theorem Outcome.answer {m m' : TCPManager} {new : List Bytes}
    (h : Outcome host now isn packet m m' new) :
    new = [] ∨ ∃ reply, new = [reply] ∧ reply.length ≤ packet.length := by
  have handled (conn : TCPConnection) (segment : HasSegment packet) :
      serialized host (conn.handlePacket now (StackManager.segment host packet)).sent = [] ∨
        ∃ reply, serialized host (conn.handlePacket now (StackManager.segment host packet)).sent =
          [reply] ∧ reply.length ≤ packet.length := by
    rcases answers_of_transition
      (conn.handlePacket_transition now (StackManager.segment host packet)) with
      eq | ⟨flags, seq, ack, eq⟩ <;> rw [eq]
    · exact .inl rfl
    · refine .inr ⟨_, rfl, ?_⟩
      rw [length_serialize_answer]
      exact segment.1
  cases h with
  | silent | refused => exact .inl rfl
  | echoed proto ihl len echo => exact .inr ⟨_, rfl, (length_echoReply ihl len echo).le⟩
  | found segment => exact handled _ segment
  | created segment => exact handled _ segment

/-- A frame from the interface, the time of its handling and the value of `rand()` for a new
connection. -/
structure Incoming where
  now : Time
  isn : UInt32
  packet : Bytes

def Receives (host : Endian) (s : StackManager) (f : Incoming) (s' : StackManager) : Prop :=
  processIncomingPacket host s f.now f.isn f.packet = .ok s'

/-- The frames that a stack sends while it handles incoming ones answer some of these, one each
and in their order, and none is longer than what it answers. -/
theorem no_amplification {es : List Incoming} (up : s.interface = some interface)
    (run : Run (Receives host) s es s') : ∃ new answered,
    s'.interface = some { interface with frames := interface.frames ++ new } ∧
      answered.Sublist es ∧
      List.Forall₂ (fun f reply => reply.length ≤ f.packet.length) answered new := by
  refine run.history_invariant (fun es t => ∃ new answered,
    t.interface = some { interface with frames := interface.frames ++ new } ∧
      answered.Sublist es ∧
      List.Forall₂ (fun f reply => reply.length ≤ f.packet.length) answered new)
    ⟨[], [], by rw [up, List.append_nil], .slnil, .nil⟩ ?_
  rintro es t f t' ⟨new, answered, ht, sub, short⟩ hs
  obtain ⟨m, more, outcome, rfl⟩ := processIncomingPacket_outcome ht hs
  rcases outcome.answer with rfl | ⟨reply, rfl, le⟩
  · refine ⟨new, answered, ?_, sub.trans (List.sublist_append_left _ _), short⟩
    rw [List.append_nil]
  · refine ⟨new ++ [reply], answered ++ [f], ?_, sub.append (.refl _), ?_⟩
    · rw [List.append_assoc]
    · exact List.rel_append short (.cons le .nil)

/-- A SYN of 40 bytes is answered with one frame or none. -/
theorem no_amplification_synFrame : ∃ s new answered,
    Run (Receives .little) started [⟨1, 7, synFrame 2 1⟩] s ∧
      s.interface = some { ready := true, frames := new } ∧
      List.Sublist answered [⟨1, 7, synFrame 2 1⟩] ∧
      List.Forall₂ (fun (f : Incoming) reply => reply.length ≤ f.packet.length) answered new := by
  have run : Run (Receives .little) started [⟨1, 7, synFrame 2 1⟩] _ := .single rfl
  obtain ⟨new, answered, sent, sub, short⟩ := no_amplification rfl run
  exact ⟨_, new, answered, run, sent, sub, short⟩

/-! ## The connection of one peer -/

/-- The entry of the table for one peer: the reference under its key, and the connection there. -/
def peer (s : StackManager) (key : ConnKey) : Option (ConnRef × TCPConnection) :=
  s.conns.lookup? key

/-- What may concern the entry of one peer. -/
inductive PeerEvent where
  | segment (now : Time) (isn : UInt32) (tcp : TCPPacket)
  | looked (isn : UInt32) (ret : Option ConnRef)
  | removed
  | cleaned (now : Time)
  | called (r : ConnRef) (op : TCPConnection.Op) (sent : List TCPPacket)

/-- The entry of one peer by itself. -/
inductive PeerStep :
    Option (ConnRef × TCPConnection) → PeerEvent → Option (ConnRef × TCPConnection) → Prop where
  | handled {r : ConnRef} {c : TCPConnection} {now : Time} {isn : UInt32} {tcp : TCPPacket} :
    PeerStep (some (r, c)) (.segment now isn tcp) (some (r, (c.handlePacket now tcp).conn))
  | opened {now : Time} {isn : UInt32} {tcp : TCPPacket} (r : ConnRef) (port : UInt16) :
    PeerStep none (.segment now isn tcp)
      (some (r, ((TCPManager.freshConnection isn port).handlePacket now tcp).conn))
  | refused {now : Time} {isn : UInt32} {tcp : TCPPacket} :
    PeerStep none (.segment now isn tcp) none
  | found {isn : UInt32} {r : ConnRef} {c : TCPConnection} :
    PeerStep (some (r, c)) (.looked isn (some r)) (some (r, c))
  | made {isn : UInt32} (r : ConnRef) (port : UInt16) :
    PeerStep none (.looked isn (some r)) (some (r, TCPManager.freshConnection isn port))
  | full {isn : UInt32} : PeerStep none (.looked isn none) none
  | removed (entry : Option (ConnRef × TCPConnection)) : PeerStep entry .removed none
  | cleaned (entry : Option (ConnRef × TCPConnection)) (now : Time) :
    PeerStep entry (.cleaned now) (entry.filter fun e => !e.2.isTimeout now)
  | called {r : ConnRef} {c c' : TCPConnection} {op : TCPConnection.Op} {sent : List TCPPacket}
      (step : TCPConnection.Step c (op, sent) c') :
    PeerStep (some (r, c)) (.called r op sent) (some (r, c'))
  /-- The call is on a connection that is not the one in the entry. -/
  | other {entry : Option (ConnRef × TCPConnection)} {r : ConnRef} {op : TCPConnection.Op}
      {sent : List TCPPacket} (ne : ∀ e ∈ entry, e.1 ≠ r) :
    PeerStep entry (.called r op sent) entry

/-- The steps of the stack that may concern the entry for the key: a segment that comes for it, a
call with this key, a cleanup, and a call on some connection. -/
def concern (host : Endian) (key : ConnKey) : Event → Option PeerEvent
  | .frame now isn packet =>
    if HasSegment packet ∧ segmentKey packet = key then
      some (.segment now isn (segment host packet))
    else none
  | .tcp (.findOrCreate isn remoteIp remotePort ret) =>
    if (remoteIp, remotePort) = key then some (.looked isn ret) else none
  | .tcp (.remove remoteIp remotePort) =>
    if (remoteIp, remotePort) = key then some .removed else none
  | .tcp (.cleanup now) => some (.cleaned (now key))
  | .tcp (.call r op sent) => some (.called r op sent)
  | _ => none

/-- What the entry for the key does while the stack makes a step: a step of its own for what
concerns it, and otherwise nothing. -/
def PeerMove (host : Endian) (key : ConnKey) (e : Event)
    (entry entry' : Option (ConnRef × TCPConnection)) : Prop :=
  Run PeerStep entry ([e].filterMap (concern host key)) entry'

section

variable {key : ConnKey} {e : Event} {entry entry' : Option (ConnRef × TCPConnection)}

theorem PeerMove.stay (none : concern host key e = none) (same : entry' = entry) :
    PeerMove host key e entry entry' := by
  rw [PeerMove, List.filterMap_cons_none none, same]
  exact .nil

theorem PeerMove.go {pe : PeerEvent} (some : concern host key e = some pe)
    (step : PeerStep entry pe entry') : PeerMove host key e entry entry' := by
  rw [PeerMove, List.filterMap_cons_some some]
  exact .single step

end

theorem Outcome.peer {m m' : TCPManager} {new : List Bytes}
    (h : Outcome host now isn packet m m' new) (key : ConnKey) :
    PeerMove host key (.frame now isn packet) (m.connections.lookup? key)
      (m'.connections.lookup? key) := by
  have absent_lookup (absent : m.connections.find? key = none) :
      m.connections.lookup? key = none := by
    rw [lookup?, absent]
    rfl
  cases h with
  | silent none => exact .stay (if_neg fun h => none h.1) rfl
  | echoed proto =>
    refine .stay (if_neg fun h => ?_) rfl
    have tcp := h.1.2.1
    rw [proto] at tcp
    cases tcp
  | refused segment absent =>
    by_cases eq : segmentKey packet = key
    · rw [absent_lookup (eq ▸ absent)]
      exact .go (if_pos ⟨segment, eq⟩) .refused
    · exact .stay (if_neg fun h => eq h.2) rfl
  | @found r conn segment listed held =>
    dsimp only
    rw [lookup?_set_listed listed]
    by_cases eq : segmentKey packet = key
    · have entry : m.connections.lookup? key = some (r, conn) :=
        lookup?_eq_some.mpr ⟨eq ▸ listed, held⟩
      rw [if_pos eq.symm, entry]
      exact .go (if_pos ⟨segment, eq⟩) .handled
    · exact .stay (if_neg fun h => eq h.2) (if_neg (Ne.symm eq))
  | @created conn port nextPort segment absent _ fresh =>
    dsimp only
    rw [lookup?_set_insertNew]
    by_cases eq : segmentKey packet = key
    · rw [if_pos eq.symm, absent_lookup (eq ▸ absent), fresh]
      exact .go (if_pos ⟨segment, eq⟩) (.opened _ port)
    · exact .stay (if_neg fun h => eq h.2) (if_neg (Ne.symm eq))

theorem peer_of_tcp {m m' : TCPManager} {e : TCPManager.Event} (h : TCPManager.Step m e m')
    (host : Endian) (key : ConnKey) : PeerMove host key (.tcp e)
      (m.connections.lookup? key) (m'.connections.lookup? key) := by
  cases h.effect with
  | full | limited => exact .stay rfl rfl
  | made =>
    dsimp only
    rw [lookup?_make]
    exact .stay rfl rfl
  | @found isn remoteIp remotePort r listed =>
    by_cases eq : (remoteIp, remotePort) = key
    · obtain ⟨c, entry⟩ := exists_lookup? (eq ▸ listed)
      rw [entry]
      exact .go (if_pos eq) .found
    · exact .stay (if_neg eq) rfl
  | @refused isn remoteIp remotePort absent =>
    by_cases eq : (remoteIp, remotePort) = key
    · have none : m.connections.lookup? key = none := by rw [← eq, lookup?, absent]; rfl
      rw [none]
      exact .go (if_pos eq) .full
    · exact .stay (if_neg eq) rfl
  | @entered isn remoteIp remotePort port nextPort absent =>
    dsimp only
    rw [lookup?_insertNew]
    by_cases eq : (remoteIp, remotePort) = key
    · have none : m.connections.lookup? key = none := by rw [← eq, lookup?, absent]; rfl
      rw [if_pos eq.symm, none]
      exact .go (if_pos eq) (.made _ port)
    · exact .stay (if_neg eq) (if_neg (Ne.symm eq))
  | removed remoteIp remotePort =>
    rw [TCPManager.removeConnection]
    dsimp only
    rw [lookup?_erase]
    by_cases eq : (remoteIp, remotePort) = key
    · rw [if_pos eq.symm]
      exact .go (if_pos eq) (.removed _)
    · exact .stay (if_neg eq) (if_neg (Ne.symm eq))
  | cleaned now =>
    rw [TCPManager.cleanupTimeoutConnections]
    dsimp only
    rw [lookup?_filter]
    exact .go rfl (.cleaned _ (now key))
  | @called r c c' op sent held step =>
    dsimp only
    rw [lookup?_set (lt_next_of_get? held)]
    refine .go rfl ?_
    cases entry : m.connections.lookup? key with
    | none => exact .other fun e mem => by cases mem
    | some e =>
      obtain ⟨r', b⟩ := e
      rw [Option.map_some]
      by_cases eq : r' = r
      · subst eq
        have same := (lookup?_eq_some.mp entry).2
        rw [held] at same
        cases same
        rw [if_pos rfl]
        exact .called step
      · rw [if_neg eq]
        exact .other fun e mem => by cases mem; exact eq

theorem Step.peer {e : Event} (h : Step host s e s') (key : ConnKey) :
    PeerMove host key e (s.peer key) (s'.peer key) := by
  cases h with
  | initialized interface initOk => cases interface <;> exact .stay rfl rfl
  | sendPacket returns =>
    refine .stay rfl ?_
    rw [StackManager.peer, StackManager.peer, conns, conns, sendPacket_tcpManager returns]
  | tcp step returns =>
    have move := peer_of_tcp step host key
    rw [StackManager.peer, StackManager.peer, conns, conns, sendAll_tcpManager returns]
    exact move
  | frame up returns =>
    obtain ⟨interface, hi⟩ := Option.isSome_iff_exists.mp up
    obtain ⟨m, new, outcome, rfl⟩ := processIncomingPacket_outcome hi returns
    exact outcome.peer key

/-- In every run of the stack the entry for a peer goes through a run of its own, through exactly
those steps that concern it: the segments that come for its key, the lookups and removals of this
key, the cleanups, and the calls, of which only those on its own connection change it. -/
theorem peers_independent {es : List Event} (run : Run (Step host) s es s') (key : ConnKey) :
    Run PeerStep (s.peer key) (es.filterMap (concern host key)) (s'.peer key) :=
  run.project (fun s => s.peer key) (concern host key) fun _ _ _ step => step.peer key

/-- Two SYNs open a connection each. A call on the first and its removal leave the second. -/
theorem peers_independent_started : ∃ s,
    Run (Step .little) started [.frame 1 7 (synFrame 2 1), .frame 2 8 (synFrame 2 3),
      .tcp (.call 0 (.setMss 536) []), .tcp (.remove 0x0A000001 5000)] s ∧
    Run PeerStep none [.segment 2 8 (segment .little (synFrame 2 3)), .called 0 (.setMss 536) []]
      (s.peer (0x0A000003, 5000)) := by
  have opened : Run (Step .little) started
      [.frame 1 7 (synFrame 2 1), .frame 2 8 (synFrame 2 3)] _ :=
    .snoc (.single (.frame rfl rfl)) (.frame rfl rfl)
  have run : Run (Step .little) started ([.frame 1 7 (synFrame 2 1), .frame 2 8 (synFrame 2 3)] ++
      [.tcp (.call 0 (.setMss 536) [])] ++ [.tcp (.remove 0x0A000001 5000)]) _ :=
    (opened.snoc (.tcp (.call rfl rfl) rfl)).snoc (.tcp (.remove _ _) rfl)
  exact ⟨_, run, peers_independent run (0x0A000003, 5000)⟩

/-! ## One connection object -/

/-- Calls make the one connection of the other. -/
def Led (c c' : TCPConnection) : Prop := ∃ ops, Run TCPConnection.Step c ops c'

/-- Calls on the connections of the one table, and new ones, make the other. -/
def Outgrown (m m' : TCPManager) : Prop :=
  Grown Led TCPConnection.Reachable m.connections m'.connections

theorem Led.refl (c : TCPConnection) : Led c c := ⟨[], .nil⟩

theorem Led.of_step {c c' : TCPConnection} {e : TCPConnection.Op × List TCPPacket}
    (h : TCPConnection.Step c e c') : Led c c' :=
  ⟨_, .single h⟩

theorem Outgrown.trans {m m' m'' : TCPManager} (h : Outgrown m m') (h' : Outgrown m' m'') :
    Outgrown m m'' :=
  Grown.trans (fun _ _ _ ⟨_, first⟩ ⟨_, second⟩ => ⟨_, first.trans second⟩)
    (fun _ _ reach ⟨_, run⟩ => reach.run run) h h'

end StackManager

end Lwip
