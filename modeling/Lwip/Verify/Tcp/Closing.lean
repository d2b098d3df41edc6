import Lwip.Verify.Tcp.Receive

/-! How a connection ends. The states are ranked (`rank`) and no call goes back in that order, so
a state is never entered a second time; what `handle_packet` can still send goes down with the
rank (`never_reentered`). No call of the connection ever sends a FIN, `close` included, so a
connection is torn down as the protocol asks only as long as nobody closes it
(`closes_with_fin_iff`). -/

namespace Lwip

namespace TCPConnection

variable {c c' : TCPConnection} {p : TCPPacket} {now : Time} {sent : List TCPPacket}

/-! ## No way back -/

def rank : TCPState → Nat
  | .closed | .listen => 0
  | .synSent | .synReceived => 1
  | .established => 2
  | .finWait1 | .closeWait => 3
  | .finWait2 | .closing | .lastAck => 4
  | .timeWait => 5

/-- How many packets `handle_packet` has sent by the time a connection is in a state. -/
def answered : TCPState → Nat
  | .closed | .listen | .synSent => 0
  | .synReceived | .established | .finWait1 | .finWait2 => 1
  | .closeWait | .closing | .lastAck | .timeWait => 2

/-- The way from a state to a later one on which `handle_packet` has sent `n` packets. -/
structure Progress (s : TCPState) (n : Nat) (s' : TCPState) : Prop where
  live : s' ≠ .lastAck
  later : s' = s ∨ rank s < rank s'
  answered : answered s' = answered s + n

theorem Progress.refl {s : TCPState} (live : s ≠ .lastAck) : Progress s 0 s :=
  ⟨live, .inl rfl, rfl⟩

theorem Progress.trans {s s' s'' : TCPState} {n n' : Nat} (h : Progress s n s')
    (h' : Progress s' n' s'') : Progress s (n + n') s'' := by
  refine ⟨h'.live, ?_, by rw [h'.answered, h.answered, Nat.add_assoc]⟩
  rcases h'.later with rfl | lt'
  · exact h.later
  · rcases h.later with rfl | lt
    · exact .inr lt'
    · exact .inr (Nat.lt_trans lt lt')

theorem Transition.progress (h : Transition now c p c' sent) (live : c.state ≠ .lastAck) :
    Progress c.state sent.length c'.state := by
  cases h with
  | ignored | wrongAck => exact .refl live
  | passiveOpen st =>
    rcases st with st | st <;> rw [st] <;> exact ⟨TCPState.noConfusion, .inr (Nat.le_refl 1), rfl⟩
  | activeOpen st | opened st | fin st | finAcked st | peerFin st | closingAcked st =>
    rw [st]
    exact ⟨TCPState.noConfusion, .inr (Nat.le_refl _), rfl⟩
  | data st =>
    obtain ⟨_, _, _, _, _, hd⟩ := data_frame { c with lastActivity := now } p
    rw [hd]
    exact .refl live
  | lastAcked st => exact absurd st live

/-- The packets that the calls of `handle_packet` among `es` have sent. -/
def answers (es : List (Op × List TCPPacket)) : List TCPPacket :=
  (es.filter (·.1.packet?.isSome)).flatMap Prod.snd

theorem answers_append (es es' : List (Op × List TCPPacket)) :
    answers (es ++ es') = answers es ++ answers es' := by
  simp [answers]

theorem Step.progress {e : Op × List TCPPacket} (h : Step c e c') (live : c.state ≠ .lastAck) :
    Progress c.state (answers [e]).length c'.state := by
  obtain ⟨op, sent⟩ := e
  cases h.effect with
  | packet ht => simpa [answers, Op.packet?] using ht.progress live
  | synSent st =>
    rw [st]
    exact ⟨TCPState.noConfusion, .inr (Nat.le_refl 1), rfl⟩
  | closed st =>
    rw [st]
    exact ⟨TCPState.noConfusion, .inr (Nat.le_refl 3), rfl⟩
  | synLost => exact .refl live
  | sent call =>
    obtain ⟨_, _, _, hc⟩ := send_frame call
    rw [hc]
    exact .refl live
  | other same packet =>
    rw [same.state]
    simpa [answers, packet] using Progress.refl live

theorem progress_of_run {es : List (Op × List TCPPacket)} (h : Run Step c es c')
    (live : c.state ≠ .lastAck) : Progress c.state (answers es).length c'.state := by
  refine h.history_invariant (fun es (t : TCPConnection) =>
    Progress c.state (answers es).length t.state) (.refl live) fun es t e t' ht hs => ?_
  rw [answers_append, List.length_append]
  exact ht.trans (hs.progress ht.live)

theorem answered_le (s : TCPState) : answered s ≤ 2 := by
  cases s <;> decide

theorem length_answers_le {es : List (Op × List TCPPacket)} (h : Run Step c es c')
    (live : c.state ≠ .lastAck) : (answers es).length ≤ 2 := by
  have := (progress_of_run h live).answered
  have := answered_le c'.state
  omega

/-- From CLOSED on a state that has been left is not entered again, and `handle_packet` sends two
packets at most, so two ends that answer each other fall silent after four. -/
theorem never_reentered (closed : c.state = .closed) :
    (∀ (es₁ es₂ es₃ : List (Op × List TCPPacket)) (c₁ c₂ c₃ : TCPConnection),
      Run Step c es₁ c₁ → Run Step c₁ es₂ c₂ → Run Step c₂ es₃ c₃ →
      c₂.state ≠ c₁.state → c₃.state ≠ c₁.state) ∧
    (∀ (es : List (Op × List TCPPacket)) (t : TCPConnection),
      Run Step c es t → (answers es).length ≤ 2) ∧
    ∀ (d : TCPConnection) (es : List ((Op × List TCPPacket) ⊕ (Op × List TCPPacket)))
      (ends : TCPConnection × TCPConnection),
      d.state = .closed → Run (Beside Step Step) (c, d) es ends →
      (answers (es.filterMap Sum.getLeft?)).length +
        (answers (es.filterMap Sum.getRight?)).length ≤ 4 := by
  have live {c : TCPConnection} (closed : c.state = .closed) : c.state ≠ .lastAck := by
    simp [closed]
  refine ⟨fun es₁ es₂ es₃ c₁ c₂ c₃ h₁ h₂ h₃ left again => ?_, fun es t h => ?_, ?_⟩
  · have p₁ := progress_of_run h₁ (live closed)
    have p₂ := progress_of_run h₂ p₁.live
    have p₃ := progress_of_run h₃ p₂.live
    -- the rank has gone up once and cannot come down
    have up := p₂.later.resolve_left left
    rcases p₃.later with same | up'
    · exact left (same.symm.trans again)
    · rw [again] at up'
      omega
  · exact length_answers_le h (live closed)
  · intro d es ends closed' h
    have := length_answers_le h.left (live closed)
    have := length_answers_le h.right (live closed')
    omega

theorem never_reentered_new :
    (∀ (es₁ es₂ es₃ : List (Op × List TCPPacket)) (c₁ c₂ c₃ : TCPConnection),
      Run Step (new 100) es₁ c₁ → Run Step c₁ es₂ c₂ → Run Step c₂ es₃ c₃ →
      c₂.state ≠ c₁.state → c₃.state ≠ c₁.state) ∧
    ∀ (es : List ((Op × List TCPPacket) ⊕ (Op × List TCPPacket)))
      (ends : TCPConnection × TCPConnection), Run (Beside Step Step) (new 100, new 300) es ends →
      (answers (es.filterMap Sum.getLeft?)).length +
        (answers (es.filterMap Sum.getRight?)).length ≤ 4 :=
  ⟨(never_reentered rfl).1, fun es ends => (never_reentered rfl).2.2 (new 300) es ends rfl⟩

/-! ## No FIN -/

/-- The states of a connection that has been closed, as far as the protocol goes. -/
def tearingDown : TCPState → Bool
  | .finWait1 | .finWait2 | .closing | .lastAck | .timeWait => true
  | _ => false

/-- A FIN at the sequence number that the connection has come to. -/
structure IsFin (c : TCPConnection) (p : TCPPacket) : Prop where
  flag : p.hasFlag tcpFlagFin = true
  number : p.getSequenceNumber = c.localSeqNum

/-- A connection and the packets that it has sent so far. -/
structure Observed where
  conn : TCPConnection
  emitted : List TCPPacket

def Observed.Step (o : Observed) (e : Op × List TCPPacket) (o' : Observed) : Prop :=
  TCPConnection.Step o.conn e o'.conn ∧ o'.emitted = o.emitted ++ e.2

/-- What the protocol asks of a call: the states of a closed connection are entered with a FIN,
`close` sends it, and CLOSED can be reached from then on. -/
structure ClosesWithFin (o : Observed) (e : Op × List TCPPacket) (o' : Observed) : Prop where
  state : tearingDown o'.conn.state = true → ∃ p ∈ o'.emitted, IsFin o'.conn p
  active : e.1 = .close → o.conn.state = .established →
    (∃ p, e.2 = [p] ∧ IsFin o.conn p) ∧ o'.conn.state = .finWait1 ∧
      ∃ es t, Run TCPConnection.Step o'.conn es t ∧ t.state = .closed
  passive : e.1 = .close → o.conn.state = .closeWait →
    (∃ p, e.2 = [p] ∧ IsFin o.conn p) ∧ o'.conn.state = .lastAck ∧
      ∃ es t, Run TCPConnection.Step o'.conn es t ∧ t.state = .closed

/-- The call is not one of `close` on an open connection. -/
def LeftOpen (o : Observed) (e : Op × List TCPPacket) : Prop :=
  e.1 = .close → o.conn.state ≠ .established ∧ o.conn.state ≠ .closeWait

theorem Transition.not_tearingDown (h : Transition now c p c' sent)
    (hs : tearingDown c.state = false) : tearingDown c'.state = false := by
  cases h with
  | ignored | wrongAck => exact hs
  | passiveOpen | activeOpen | opened | fin => rfl
  | data st =>
    obtain ⟨_, _, _, _, _, hd⟩ := data_frame { c with lastActivity := now } p
    rw [hd]
    exact hs
  | finAcked st | peerFin st | closingAcked st | lastAcked st =>
    rw [st] at hs
    cases hs

theorem LeftOpen.not_tearingDown {o : Observed} {e : Op × List TCPPacket} (open' : LeftOpen o e)
    (h : Step o.conn e c') (hs : tearingDown o.conn.state = false) :
    tearingDown c'.state = false := by
  obtain ⟨op, sent⟩ := e
  cases h.effect with
  | packet ht => exact ht.not_tearingDown hs
  | synSent => rfl
  | synLost => exact hs
  | closed st => exact absurd st (open' rfl).1
  | sent call =>
    obtain ⟨_, _, _, hc⟩ := send_frame call
    rw [hc]
    exact hs
  | other same =>
    rw [same.state]
    exact hs

/-- A run meets the protocol's rules for closing exactly when `close` is called in it neither in
ESTABLISHED nor in CLOSE_WAIT: that call sends nothing. -/
theorem closes_with_fin_iff {isn : UInt32} {es : List (Op × List TCPPacket)} {o : Observed} :
    Run (fun o e o' => o.Step e o' ∧ ClosesWithFin o e o') ⟨new isn, []⟩ es o ↔
      Run (fun o e o' => o.Step e o' ∧ LeftOpen o e) ⟨new isn, []⟩ es o := by
  refine Run.law_iff_guard (fun o => tearingDown o.conn.state = false) rfl
    (fun o e o' hs h leftOpen => leftOpen.not_tearingDown h.1 hs) fun o e o' hs h => ?_
  have silent (eq : e.1 = .close) : e.2 = [] := by
    have call := h.1
    rw [TCPConnection.Step, eq, exec, Option.some.injEq, Prod.mk.injEq] at call
    exact call.2.symm
  constructor
  · intro law eq
    constructor
    · intro st
      obtain ⟨⟨p, sent, -⟩, -⟩ := law.active eq st
      simp [silent eq] at sent
    · intro st
      obtain ⟨⟨p, sent, -⟩, -⟩ := law.passive eq st
      simp [silent eq] at sent
  · intro leftOpen
    refine ⟨fun down => ?_, fun eq st => ?_, fun eq st => ?_⟩
    · rw [leftOpen.not_tearingDown h.1 hs] at down
      cases down
    · exact absurd st (leftOpen eq).1
    · exact absurd st (leftOpen eq).2

/-- A connection opens, and is closed on this side first or on the other side first: no FIN is
sent, and in the second case `close` leaves the connection in CLOSE_WAIT. -/
theorem closes_without_fin :
    (∃ es o, Run Observed.Step ⟨new 100, []⟩ es o ∧ o.conn.state = .finWait1 ∧
      ∀ p ∈ o.emitted, p.hasFlag tcpFlagFin = false) ∧
    ∃ es o, Run Observed.Step ⟨new 100, []⟩ es o ∧ o.conn.state = .closeWait ∧
      o.Step (.close, []) o := by
  let sent := [(new 100).synPacket 80, (openedBy 100 300).ackPacket]
  let fin := (TCPPacket.new.setFlags tcpFlagFin).setSequenceNumber 301
  have opening : Observed.Step ⟨new 100, []⟩ (.connect 1 80 true, [(new 100).synPacket 80])
      ⟨((new 100).connect 1 80 true).conn, [(new 100).synPacket 80]⟩ := ⟨rfl, rfl⟩
  have opened : Observed.Step ⟨((new 100).connect 1 80 true).conn, [(new 100).synPacket 80]⟩
      (.handlePacket 0 (peerSynAck 300 101), [(openedBy 100 300).ackPacket])
      ⟨openedBy 100 300, sent⟩ := ⟨rfl, rfl⟩
  have closed : Observed.Step ⟨openedBy 100 300, sent⟩ (.close, [])
      ⟨(openedBy 100 300).close, sent⟩ := ⟨rfl, rfl⟩
  have flags : fin.getFlags = tcpFlagFin := rfl
  have flag : fin.hasFlag tcpFlagFin = true := TCPPacket.hasFlag_of_flags flags tcpFlagFin
  have state : (openedBy 100 300).state = .established := by rw [openedBy_eq]
  have answer : (openedBy 100 300).handlePacket 0 fin = ⟨true,
      { openedBy 100 300 with lastActivity := 0, state := .closeWait },
      [(openedBy 100 300).ackPacket]⟩ := by
    simp only [handlePacket, state, flag, if_true]
    rfl
  have closedByPeer : Observed.Step ⟨openedBy 100 300, sent⟩
      (.handlePacket 0 fin, [(openedBy 100 300).ackPacket])
      ⟨{ openedBy 100 300 with lastActivity := 0, state := .closeWait },
        sent ++ [(openedBy 100 300).ackPacket]⟩ := by
    refine ⟨?_, rfl⟩
    rw [Step, exec, answer]
  have run := (Run.single opening).snoc opened
  exact ⟨⟨_, _, run.snoc closed, rfl, by decide⟩,
    ⟨_, _, run.snoc closedByPeer, rfl, rfl, rfl⟩⟩

end TCPConnection

end Lwip
