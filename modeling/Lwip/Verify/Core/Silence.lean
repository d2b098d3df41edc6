import Lwip.Verify.Core.Interface
import Lwip.Verify.Core.Storm

/-! Stacks that have only each other. Their connections send segments without an IP header, and
where a receiver looks for the protocol it finds a byte of the acknowledgement number, which is 0
until somebody has been heard. So nobody ever is: no connection gets further than `SYN_SENT`, and
every frame on the way is ignored by every stack (`never_connect`). -/

namespace Lwip

namespace TCPConnection

variable {c c' : TCPConnection}

/-- A connection that has heard nothing. -/
structure Unheard (c : TCPConnection) : Prop where
  state : c.state = .closed ∨ c.state = .synSent
  received : c.receivedData = []
  unacked : c.unackedSegments = []

theorem Unheard.ne_established (h : Unheard c) : c.state ≠ .established := by
  intro st
  rcases h.state with eq | eq <;> cases st.symm.trans eq

theorem unheard_new (isn : UInt32) (port : UInt16) :
    Unheard (TCPManager.freshConnection isn port) :=
  ⟨.inl rfl, rfl, rfl⟩

/-- Without a packet nothing is heard, and what is sent acknowledges nothing. -/
theorem Unheard.step {op : Op} {sent : List TCPPacket} (h : Unheard c) (step : Step c (op, sent) c')
    (none : op.packet? = none) : Unheard c' ∧ ∀ p ∈ sent, p.getAckNumber = 0 := by
  cases step.effect with
  | packet => cases none
  | synSent =>
    refine ⟨⟨.inr rfl, h.received, h.unacked⟩, fun p mem => ?_⟩
    cases List.mem_singleton.mp mem
    rfl
  | synLost =>
    refine ⟨⟨h.state, h.received, h.unacked⟩, fun p mem => ?_⟩
    cases List.mem_singleton.mp mem
    rfl
  | closed st => exact absurd st h.ne_established
  | sent call =>
    rcases send_cases call with ⟨-, eq⟩ | ⟨st, -⟩ | ⟨_, st, -⟩
    · rw [eq]
      exact ⟨h, fun p mem => by cases mem⟩
    · exact absurd st h.ne_established
    · exact absurd st h.ne_established
  | other same _ _ quiet =>
    refine ⟨⟨same.state ▸ h.state, same.receivedData.trans h.received, same.unacked h.unacked⟩, ?_⟩
    have nothing : sent = [] := quiet h.unacked
    rw [nothing]
    exact fun p mem => by cases mem

end TCPConnection

namespace StackManager

/-- No stack does anything with the frame. -/
def Ignored (frame : Bytes) : Prop :=
  ∀ host s now isn, processIncomingPacket host s now isn frame = .ok s

theorem ignored_serialize (host : Endian) {p : TCPPacket} (ack : p.getAckNumber = 0) :
    Ignored (p.serialize host).1 := by
  intro host' s now isn
  have length := length_serialize host p
  have protocol := getD_serialize_ack host p
  rw [ack] at protocol
  rw [processIncomingPacket, if_neg (by omega), access_byteAt.1 (by omega), ok_bind, protocol,
    if_neg (by decide), if_neg (by decide), if_neg (by decide)]
  rfl

/-! ## Stacks and their applications -/

/-- The call hands no packet to a connection. -/
def NoPacket : TCPManager.Event → Prop
  | .call _ op _ => op.packet? = none
  | _ => True

namespace Exchange

inductive Act where
  | initialized (i : Nat) (interface : Option NetworkInterface) (initOk : Bool)
  | called (i : Nat) (e : TCPManager.Event)
  | delivered (i : Nat) (now : Time) (isn : UInt32)

/-- The application of some stack makes a call, or some frame that was ever sent is delivered to
some stack: the network may lose frames, repeat them and change their order. -/
inductive Talk (host : Nat → Endian) : Exchange → Act → Exchange → Prop where
  | initialized {x : Exchange} {i : Nat} {s : StackManager} (node : x.nodes[i]? = some s)
      (interface : Option NetworkInterface) (initOk : Bool) :
    Talk host x (.initialized i interface initOk)
      { x with nodes := x.nodes.set i (s.initializeWith interface initOk).2 }
  | called {x : Exchange} {i : Nat} {s s' : StackManager} {e : TCPManager.Event} {m : TCPManager}
      (node : x.nodes[i]? = some s) (step : TCPManager.Step s.tcpManager e m) (own : NoPacket e)
      (returns : sendAll (host i) { s with tcpManager := m } (eventSent e) = .ok s') :
    Talk host x (.called i e)
      ⟨x.nodes.set i s', x.frames ++ serialized (host i) (eventSent e)⟩
  | delivered {x : Exchange} {i : Nat} {s s' : StackManager} {interface : NetworkInterface}
      {packet : Bytes} {new : List Bytes} {now : Time} {isn : UInt32} (sent : packet ∈ x.frames)
      (node : x.nodes[i]? = some s) (up : s.interface = some interface)
      (returns : processIncomingPacket (host i) s now isn packet = .ok s')
      (answers : s'.interface = some { interface with frames := interface.frames ++ new }) :
    Talk host x (.delivered i now isn) ⟨x.nodes.set i s', x.frames ++ new⟩

/-- Nobody has heard anything, and nothing on the way will be heard. -/
structure Silent (x : Exchange) : Prop where
  nodes : ∀ s ∈ x.nodes, ∀ r c, s.conns.get? r = some c → c.Unheard
  frames : ∀ frame ∈ x.frames, Ignored frame

variable {host : Nat → Endian} {x x' : Exchange} {i : Nat} {s s' : StackManager}

/-- A call leaves the connections of its stack unheard, and so are the segments it sends. -/
theorem unheard_called {e : TCPManager.Event} {m : TCPManager}
    (h : ∀ r c, s.conns.get? r = some c → c.Unheard) (step : TCPManager.Step s.tcpManager e m)
    (own : NoPacket e) :
    (∀ r c, m.connections.get? r = some c → c.Unheard) ∧
      ∀ p ∈ eventSent e, p.getAckNumber = 0 := by
  constructor
  · intro r c held
    rcases step.object_cases held with ⟨before, -⟩ | ⟨-, isn, port, rfl⟩ |
      ⟨c₀, op, sent, rfl, before, call⟩
    · exact h r c before
    · exact TCPConnection.unheard_new isn port
    · exact ((h r c₀ before).step call own).1
  · intro p mem
    cases step with
    | call held call => exact ((h _ _ held).step call own).2 p mem
    | _ => cases mem

/-- Only the node at `i` changes, and some frames are added. -/
theorem Silent.set (h : Silent x) {new : List Bytes}
    (unheard : ∀ r c, s'.conns.get? r = some c → c.Unheard) (ignored : ∀ f ∈ new, Ignored f) :
    Silent ⟨x.nodes.set i s', x.frames ++ new⟩ := by
  constructor
  · intro t mem
    rcases List.mem_or_eq_of_mem_set mem with before | rfl
    · exact h.nodes t before
    · exact unheard
  · intro f mem
    rcases List.mem_append.mp mem with before | fresh
    · exact h.frames f before
    · exact ignored f fresh

theorem Silent.talk {act : Act} (h : Silent x) (talk : Talk host x act x') : Silent x' := by
  cases talk with
  | @initialized i s node interface initOk =>
    have same : (s.initializeWith interface initOk).2.tcpManager = s.tcpManager := by
      cases interface <;> rfl
    have unheard : ∀ r c, (s.initializeWith interface initOk).2.conns.get? r = some c →
        c.Unheard := by
      rw [conns, same]
      exact h.nodes s (List.mem_of_getElem? node)
    exact ⟨(h.set unheard (List.forall_mem_nil _)).nodes, h.frames⟩
  | called node step own returns =>
    obtain ⟨unheard, acks⟩ := unheard_called (h.nodes _ (List.mem_of_getElem? node)) step own
    apply h.set
    · rw [conns, sendAll_tcpManager returns]
      exact unheard
    · rintro f mem
      obtain ⟨p, sent, rfl⟩ := List.mem_map.mp mem
      exact ignored_serialize _ (acks p sent)
  | @delivered i s s' interface packet new now isn sent node up returns answers =>
    cases (h.frames packet sent (host i) s now isn).symm.trans returns
    have none : new = [] := by
      rw [up, Option.some_inj] at answers
      exact List.self_eq_append_right.mp (congrArg NetworkInterface.frames answers)
    subst none
    exact h.set (h.nodes s (List.mem_of_getElem? node)) (List.forall_mem_nil _)

theorem silent_new (n : Nat) : Silent ⟨List.replicate n {}, []⟩ := by
  refine ⟨fun s mem r c held => ?_, List.forall_mem_nil _⟩
  rw [List.eq_of_mem_replicate mem] at held
  cases held

/-- Whatever the applications of any number of stacks do, except that they build no packets
themselves, and whatever the network does with the frames of these stacks: no connection leaves
`CLOSED` or `SYN_SENT` for another state or receives a byte, and no stack does anything with a
frame that any of them has sent. -/
theorem never_connect {n : Nat} {acts : List Act}
    (run : Run (Talk host) ⟨List.replicate n {}, []⟩ acts x) :
    (∀ s ∈ x.nodes, ∀ r c, s.conns.get? r = some c →
      (c.state = .closed ∨ c.state = .synSent) ∧ c.receivedData = []) ∧
    ∀ frame ∈ x.frames, Ignored frame := by
  have silent := run.invariant Silent (silent_new n) fun _ _ _ h talk => h.talk talk
  refine ⟨fun s mem r c held => ?_, silent.frames⟩
  have unheard := silent.nodes s mem r c held
  exact ⟨unheard.state, unheard.received⟩

/-- The first of two stacks opens a connection, and its SYN is delivered to the second. -/
theorem never_connect_opened : ∃ s frame,
    Run (Talk fun _ => .little) ⟨List.replicate 2 {}, []⟩
      [.initialized 0 (some {}) true, .initialized 1 (some {}) true,
        .called 0 (.create 7 (some 0)),
        .called 0 (.call 0 (.connect 0x0100007F 80 true)
          [(TCPManager.freshConnection 7 1024).synPacket 80]),
        .delivered 1 1 8] ⟨[s, started], [frame]⟩ ∧
    ∀ r c, s.conns.get? r = some c →
      (c.state = .closed ∨ c.state = .synSent) ∧ c.receivedData = [] := by
  let c := TCPManager.freshConnection 7 1024
  let frame := ((c.synPacket 80).serialize .little).1
  let m : TCPManager :=
    { TCPManager.new with connections := TCPManager.new.connections.make c, nextPort := 1025 }
  let m' : TCPManager :=
    { m with connections := m.connections.set 0 (c.connect 0x0100007F 80 true).conn }
  have ignored : Ignored frame := ignored_serialize .little rfl
  have first : Talk (fun _ => .little) ⟨List.replicate 2 {}, []⟩
      (.initialized 0 (some {}) true) ⟨[started, {}], []⟩ :=
    .initialized (s := {}) rfl _ _
  have second : Talk (fun _ => .little) ⟨[started, {}], []⟩
      (.initialized 1 (some {}) true) ⟨[started, started], []⟩ :=
    .initialized (s := {}) rfl _ _
  have created : Talk (fun _ => .little) ⟨[started, started], []⟩ (.called 0 (.create 7 (some 0)))
      ⟨[{ started with tcpManager := m }, started], []⟩ :=
    .called rfl (.create rfl) trivial rfl
  have connected : Talk (fun _ => .little) ⟨[{ started with tcpManager := m }, started], []⟩
      (.called 0 (.call 0 (.connect 0x0100007F 80 true) [c.synPacket 80]))
      ⟨[⟨some ⟨true, [frame]⟩, m'⟩, started], [frame]⟩ :=
    .called rfl (.call rfl rfl) rfl rfl
  have delivered : Talk (fun _ => .little) ⟨[⟨some ⟨true, [frame]⟩, m'⟩, started], [frame]⟩
      (.delivered 1 1 8) ⟨[⟨some ⟨true, [frame]⟩, m'⟩, started], [frame]⟩ :=
    .delivered (List.mem_singleton_self _) rfl rfl (ignored .little started 1 8)
      (congrArg some (congrArg (NetworkInterface.mk true) (List.append_nil [])))
  have run := ((((Run.single first).snoc second).snoc created).snoc connected).snoc delivered
  exact ⟨_, _, run, (never_connect run).1 _ List.mem_cons_self⟩

end Exchange

end StackManager

end Lwip
