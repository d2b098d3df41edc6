import Lwip.Verify.Tcp.Closing

/-! The state diagram of a connection, every call taken into account. It has the two ways to open,
the active close, and the passive close as far as `CLOSE_WAIT`; nothing leads to `LISTEN`,
`CLOSING` or `LAST_ACK`, and nothing from `CLOSE_WAIT` or `TIME_WAIT` (`moves_iff`). -/

namespace Lwip

namespace TCPConnection

variable {c c' : TCPConnection} {s s' : TCPState}

/-- The moves of the diagram, staying where one is among them. -/
inductive Moves : TCPState → TCPState → Prop
  | stay {s : TCPState} (h : s ≠ .listen ∧ s ≠ .closing ∧ s ≠ .lastAck) : Moves s s
  | connect : Moves .closed .synSent
  | syn : Moves .closed .synReceived
  | synAck : Moves .synSent .established
  | ack : Moves .synReceived .established
  | close : Moves .established .finWait1
  | fin : Moves .established .closeWait
  | finAck : Moves .finWait1 .finWait2
  | peerFin : Moves .finWait2 .timeWait

theorem Transition.moves {now : Time} {p : TCPPacket} {sent : List TCPPacket} (inv : Inv c)
    (h : Transition now c p c' sent) : Moves c.state c'.state := by
  cases h with
  | ignored | wrongAck => exact .stay inv.state
  | passiveOpen st =>
    rcases st with st | st
    · rw [st]
      exact .syn
    · exact absurd st inv.state.1
  | activeOpen st =>
    rw [st]
    exact .synAck
  | opened st =>
    rw [st]
    exact .ack
  | fin st =>
    rw [st]
    exact .fin
  | data st =>
    obtain ⟨_, _, _, _, _, hd⟩ := data_frame { c with lastActivity := now } p
    rw [hd]
    exact .stay inv.state
  | finAcked st =>
    rw [st]
    exact .finAck
  | peerFin st =>
    rw [st]
    exact .peerFin
  | closingAcked st => exact absurd st inv.state.2.1
  | lastAcked st => exact absurd st inv.state.2.2

theorem Step.moves {e : Op × List TCPPacket} (inv : Inv c) (h : Step c e c') :
    Moves c.state c'.state := by
  obtain ⟨op, sent⟩ := e
  cases h.effect with
  | packet h => exact h.moves inv
  | synSent st =>
    rw [st]
    exact .connect
  | closed st =>
    rw [st]
    exact .close
  | synLost => exact .stay inv.state
  | sent call =>
    obtain ⟨_, _, _, hd⟩ := send_frame call
    rw [hd]
    exact .stay inv.state
  | other same =>
    rw [same.state]
    exact .stay inv.state

/-! ## Every move is made -/

/-- Some call on a connection that calls have made from a new one makes the move. -/
def Occurs (s s' : TCPState) : Prop :=
  ∃ c e c', Reachable c ∧ Step c e c' ∧ c.state = s ∧ c'.state = s'

/-- A packet that carries all flags that `handle_packet` asks for. -/
def everyFlag : TCPPacket := TCPPacket.new.setFlags (tcpFlagFin ||| tcpFlagSyn ||| tcpFlagAck)

/-- Where the packet leads. -/
def nextState : TCPState → TCPState
  | .closed => .synReceived
  | .synReceived => .established
  | .established => .closeWait
  | .finWait1 => .finWait2
  | .finWait2 => .timeWait
  | s => s

theorem handlePacket_everyFlag (ne : c.state ≠ .synSent) (inv : Inv c) :
    (c.handlePacket 0 everyFlag).conn.state = nextState c.state := by
  obtain ⟨listen, closing, lastAck⟩ := inv.state
  have fin : everyFlag.hasFlag tcpFlagFin = true := by decide
  have syn : everyFlag.hasFlag tcpFlagSyn = true := by decide
  have ack : everyFlag.hasFlag tcpFlagAck = true := by decide
  cases st : c.state with
  | synSent => exact absurd st ne
  | listen => exact absurd st listen
  | closing => exact absurd st closing
  | lastAck => exact absurd st lastAck
  | closed | synReceived | established | finWait1 | finWait2 | closeWait | timeWait =>
    simp [handlePacket, st, fin, syn, ack, nextState]

theorem Reachable.next {e : Op × List TCPPacket} (h : Reachable c) (step : Step c e c') :
    Reachable c' :=
  h.run (.single step)

/-- The packet makes its move and leads to a connection that goes on from there. -/
theorem Reachable.everyFlag (h : Reachable c) (st : c.state = s) (ne : s ≠ .synSent) :
    Occurs s (nextState s) ∧ ∃ c', Reachable c' ∧ c'.state = nextState s := by
  subst st
  have state := handlePacket_everyFlag ne h.inv
  have step : Step c (.handlePacket 0 TCPConnection.everyFlag, _)
    (c.handlePacket 0 TCPConnection.everyFlag).conn := rfl
  exact ⟨⟨c, _, _, h, step, rfl, state⟩, _, h.next step, state⟩

theorem reachable_finWait1 : ∃ c, Reachable c ∧ c.state = .finWait1 := by
  have st : (openedBy 0 0).state = .established := by rw [openedBy_eq]
  have closed : (openedBy 0 0).close.state = .finWait1 := by rw [close, if_pos st]
  have step : Step (openedBy 0 0) (.close, []) (openedBy 0 0).close := rfl
  exact ⟨_, (reachable_openedBy 0 0).next step, closed⟩

theorem reachable_state (h : s ≠ .listen ∧ s ≠ .closing ∧ s ≠ .lastAck) :
    ∃ c, Reachable c ∧ c.state = s := by
  have new : Reachable (TCPConnection.new 0) := ⟨0, [], .nil⟩
  have opened : (openedBy 0 0).state = .established := by rw [openedBy_eq]
  obtain ⟨c, finWait1, st⟩ := reachable_finWait1
  obtain ⟨-, c', finWait2, st'⟩ := finWait1.everyFlag st TCPState.noConfusion
  cases s with
  | closed => exact ⟨_, new, rfl⟩
  | listen => exact absurd rfl h.1
  | synSent => exact ⟨_, reachable_synSent 0, rfl⟩
  | synReceived => exact (new.everyFlag rfl TCPState.noConfusion).2
  | established => exact ⟨_, reachable_openedBy 0 0, opened⟩
  | finWait1 => exact ⟨c, finWait1, st⟩
  | finWait2 => exact ⟨c', finWait2, st'⟩
  | closeWait => exact ((reachable_openedBy 0 0).everyFlag opened TCPState.noConfusion).2
  | closing => exact absurd rfl h.2.1
  | lastAck => exact absurd rfl h.2.2
  | timeWait => exact (finWait2.everyFlag st' TCPState.noConfusion).2

theorem occurs_everyFlag (live : s ≠ .listen ∧ s ≠ .closing ∧ s ≠ .lastAck) (ne : s ≠ .synSent) :
    Occurs s (nextState s) := by
  obtain ⟨c, reach, st⟩ := reachable_state live
  exact (reach.everyFlag st ne).1

/-- The calls make the moves of the diagram and no others. -/
theorem moves_iff : Occurs s s' ↔ Moves s s' := by
  constructor
  · rintro ⟨c, e, c', reach, step, rfl, rfl⟩
    exact step.moves reach.inv
  · intro move
    cases move with
    | stay live =>
      obtain ⟨c, reach, st⟩ := reachable_state live
      exact ⟨c, (.receive, []), c, reach, rfl, st, st⟩
    | connect =>
      have step : Step (TCPConnection.new 0) (.connect 1 80 true, _)
        ((TCPConnection.new 0).connect 1 80 true).conn := rfl
      exact ⟨_, _, _, ⟨0, [], .nil⟩, step, rfl, rfl⟩
    | synAck =>
      have step : Step ((TCPConnection.new 0).connect 1 80 true).conn
        (.handlePacket 0 (peerSynAck 0 1), _) (openedBy 0 0) := rfl
      exact ⟨_, _, _, reachable_synSent 0, step, rfl, by rw [openedBy_eq]⟩
    | close =>
      have st : (openedBy 0 0).state = .established := by rw [openedBy_eq]
      have step : Step (openedBy 0 0) (.close, []) (openedBy 0 0).close := rfl
      exact ⟨_, _, _, reachable_openedBy 0 0, step, st, by rw [TCPConnection.close, if_pos st]⟩
    | syn | ack | fin | finAck | peerFin => exact occurs_everyFlag (by decide) (by decide)

end TCPConnection

end Lwip
