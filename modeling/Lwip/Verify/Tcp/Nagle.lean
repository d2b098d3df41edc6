import Lwip.Verify.Tcp.Chunks
import Lwip.Verify.Tcp.Resending

/-! Nagle's algorithm. `send` puts its data off when there are unacknowledged segments, and counts
these in `unacked_segments_`, which no call ever fills: nothing is ever put off, and what would be
put off no call would ever send. `delays_small_iff` says which runs do not come to notice. -/

namespace Lwip

namespace TCPConnection

variable {c c' : TCPConnection} {p : TCPPacket} {data : Bytes} {now : Nat → Time}
  {ok : Nat → Bool} {fuel : Nat} {r : Call Bool} {sent : List TCPPacket} {isn : UInt32}

/-! ## The bytes of a call -/

/-- The payload bytes that a call gets out. -/
def bytesSent (e : Op × List TCPPacket) : Bytes :=
  match e.1 with
  | .send _ _ ok _ => (succeeded ok e.2).flatMap (·.getPayload)
  | _ => e.2.flatMap (·.getPayload)

theorem Transition.payloads {now : Time} (h : Transition now c p c' sent) :
    sent.flatMap (·.getPayload) = [] := by
  cases h <;> rfl

/-- Only `send` sends any bytes. -/
theorem Step.bytesSent_eq {e : Op × List TCPPacket} (h : Step c e c')
    (unacked : c.unackedSegments = []) (other : e.1.data? = none) : bytesSent e = [] := by
  obtain ⟨op, sent⟩ := e
  cases h.effect with
  | packet ht => exact ht.payloads
  | synSent | synLost | closed => rfl
  | sent => cases other
  | other _ _ _ quiet =>
    obtain rfl : sent = [] := quiet unacked
    cases op <;> rfl

theorem send_payloads (call : c.send data now ok fuel = some r) :
    (succeeded ok r.sent).flatMap (·.getPayload) <+: data := by
  rcases send_loop call with ⟨-, rfl⟩ | ⟨-, -, rfl⟩ | ⟨-, run⟩
  · exact List.nil_prefix
  · exact List.nil_prefix
  · obtain ⟨s, h, hb⟩ := Loop.run_invariant (Progressing data ok c) (fun _ _ h hb => h.turn hb)
      (.start data ok c) run
    have taken : (s.sent.flatMap (·.getPayload)) = data.take s.offset := h.payloads
    rcases sendTurn_done hb with ⟨-, bad, rfl⟩ | ⟨-, rfl⟩
    · rw [succeeded_append, h.succeeded, bad, if_neg Bool.false_ne_true, List.append_nil, taken]
      exact List.take_prefix _ _
    · rw [h.succeeded, taken]
      exact List.take_prefix _ _

theorem succeeded_ne_nil (first : ok 0 = true) (some : sent ≠ []) : succeeded ok sent ≠ [] := by
  obtain ⟨p, rest, rfl⟩ := List.exists_cons_of_ne_nil some
  simp [succeeded, List.zipIdx_cons, first]

theorem putsOff_of_unacked (unacked : c.unackedSegments = []) : c.putsOff data = false := by
  simp [putsOff, unackedData, unacked]

/-- A call whose first `send_packet` fails gets nothing out and says so. -/
theorem send_refused (st : c.state = .established) (off : c.putsOff data = false)
    (nonempty : data ≠ []) (first : ok 0 = false) (call : c.send data now ok fuel = some r) :
    r.ret = false ∧ succeeded ok r.sent = [] := by
  rw [send_eq_run st off] at call
  cases fuel with
  | zero => cases call
  | succ fuel =>
    rcases sendTurn_cases data c.sendingWindow now ok ⟨0, c, []⟩ with
      ⟨-, good, -⟩ | ⟨-, -, done⟩ | ⟨none, -⟩
    · rw [List.length_nil, first] at good
      cases good
    · rw [Loop.run_done done] at call
      cases call
      refine ⟨rfl, ?_⟩
      rw [succeeded_append, List.length_nil, first]
      rfl
    · exact absurd (List.eq_nil_of_length_eq_zero (Nat.le_zero.mp none)) nonempty

/-- A call that does not put its data off gets nothing out just when it has nothing to send or its
first `send_packet` fails. -/
theorem send_silent_iff (unacked : c.unackedSegments = []) (st : c.state = .established)
    (call : c.send data now ok fuel = some r) :
    succeeded ok r.sent = [] ↔ data = [] ∨ ok 0 = false := by
  constructor
  · intro silent
    by_contra not
    rw [not_or, Bool.not_eq_false] at not
    exact succeeded_ne_nil not.2 ((send_nonempty_iff unacked call).mpr ⟨st, not.1⟩) silent
  · intro idle
    by_cases none : data = []
    · have quiet : r.sent = [] := by
        by_contra some
        exact (send_outcome call).nonempty some none
      rw [quiet]
      rfl
    · exact (send_refused st (putsOff_of_unacked unacked) none (idle.resolve_left none) call).2

/-! ## Runs -/

/-- A connection with its log and the bytes that its caller may take to be held back. -/
structure Delaying where
  log : List (Op × List TCPPacket)
  conn : TCPConnection
  held : Bytes

/-- Bytes that were sent and not acknowledged since. -/
def UnackedBytes (log : List (Op × List TCPPacket)) : Prop :=
  ∃ p ∈ outstanding log, p.getPayload ≠ []

/-- With Nagle's algorithm on, `data` does not fill a segment and bytes are unacknowledged. -/
structure SmallSend (o : Delaying) (data : Bytes) : Prop where
  state : o.conn.state = .established
  nagleEnabled : o.conn.nagleEnabled = true
  small : data.length < o.conn.maxSegmentSize.toNat
  unacked : UnackedBytes o.log

/-- The event is a call of `send` for which the algorithm is meant, and it returns true. -/
def Accepted (o : Delaying) (e : Op × List TCPPacket) (data : Bytes) : Prop :=
  SmallSend o data ∧ ∃ now ok fuel r, e.1 = .send data now ok fuel ∧
    o.conn.send data now ok fuel = some r ∧ r.ret = true

/-- What is accepted is held, and what goes out is taken to be what was held, first. -/
def Delaying.Step (o : Delaying) (e : Op × List TCPPacket) (o' : Delaying) : Prop :=
  TCPConnection.Step o.conn e o'.conn ∧ o'.log = o.log ++ [e] ∧
    (∀ data, Accepted o e data → o'.held = o.held ++ data) ∧
    ((∀ data, ¬ Accepted o e data) → o'.held = o.held.drop (bytesSent e).length)

/-- A small send gets no segment out. What is held goes out before anything that is given later, and
there is nothing held when nothing is unacknowledged. -/
structure DelaysSmall (o : Delaying) (e : Op × List TCPPacket) (o' : Delaying) : Prop where
  quiet : ∀ data now ok fuel, e.1 = .send data now ok fuel → SmallSend o data →
    succeeded ok e.2 = []
  order : bytesSent e <+: o.held ++ e.1.data?.getD []
  flushed : o'.held ≠ [] → UnackedBytes o'.log

/-- A small send has nothing to send, or its first `send_packet` fails. -/
def Spaced (o : Delaying) (e : Op × List TCPPacket) : Prop :=
  ∀ data now ok fuel, e.1 = .send data now ok fuel → SmallSend o data → data = [] ∨ ok 0 = false

variable {o o' : Delaying} {e : Op × List TCPPacket}

theorem Delaying.Step.send (h : o.Step (.send data now ok fuel, sent) o') :
    ∃ r, o.conn.send data now ok fuel = some r ∧ r.sent = sent := by
  obtain ⟨r, call, eq⟩ := Option.map_eq_some_iff.mp h.1
  exact ⟨r, call, congrArg Prod.snd eq⟩

/-- A spaced step holds nothing back. -/
theorem Delaying.Step.held (h : o.Step e o') (unacked : o.conn.unackedSegments = [])
    (none : o.held = []) (spaced : Spaced o e) : o'.held = [] := by
  obtain ⟨-, -, accepted, other⟩ := h
  by_cases some : ∃ data, Accepted o e data
  · obtain ⟨data, acc⟩ := some
    obtain ⟨small, now, ok, fuel, r, eq, call, ret⟩ := acc
    rw [accepted data ⟨small, now, ok, fuel, r, eq, call, ret⟩, none, List.nil_append]
    by_contra ne
    have first := (spaced data now ok fuel eq small).resolve_left ne
    rw [(send_refused small.state (putsOff_of_unacked unacked) ne first call).1] at ret
    cases ret
  · rw [other (not_exists.mp some), none, List.drop_nil]

theorem Delaying.Step.order (h : o.Step e o') (unacked : o.conn.unackedSegments = []) :
    bytesSent e <+: e.1.data?.getD [] := by
  obtain ⟨op, sent⟩ := e
  cases data : op.data? with
  | none =>
    rw [h.1.bytesSent_eq unacked data]
    exact List.nil_prefix
  | some given =>
    cases op with
    | send data now ok fuel =>
      cases data
      obtain ⟨r, call, rfl⟩ := h.send
      exact send_payloads call
    | _ => cases data

theorem Delaying.Step.delays_iff (h : o.Step e o') (unacked : o.conn.unackedSegments = [])
    (none : o.held = []) : DelaysSmall o e o' ↔ Spaced o e := by
  have silent {data : Bytes} {now : Nat → Time} {ok : Nat → Bool} {fuel : Nat}
      (eq : e.1 = .send data now ok fuel) (st : o.conn.state = .established) :
      succeeded ok e.2 = [] ↔ data = [] ∨ ok 0 = false := by
    obtain ⟨op, sent⟩ := e
    obtain rfl : op = .send data now ok fuel := eq
    obtain ⟨r, call, rfl⟩ := h.send
    exact send_silent_iff unacked st call
  constructor
  · intro law data now ok fuel eq small
    exact (silent eq small.state).mp (law.quiet data now ok fuel eq small)
  · intro spaced
    refine ⟨fun data now ok fuel eq small => ?_, ?_, fun some => ?_⟩
    · exact (silent eq small.state).mpr (spaced data now ok fuel eq small)
    · rw [none, List.nil_append]
      exact h.order unacked
    · exact absurd (h.held unacked none spaced) some

/-- In a run small sends are delayed as Nagle's algorithm asks exactly when none of them that has
something to send is made while bytes are unacknowledged and gets its first segment out. -/
theorem delays_small_iff {es : List (Op × List TCPPacket)} :
    Run (fun o e o' => o.Step e o' ∧ DelaysSmall o e o') ⟨[], new isn, []⟩ es o ↔
      Run (fun o e o' => o.Step e o' ∧ Spaced o e) ⟨[], new isn, []⟩ es o := by
  apply Run.law_iff_guard (fun o => Inv o.conn ∧ o.held = []) ⟨.new isn, rfl⟩
  · intro o e o' inv h spaced
    exact ⟨inv.1.step h.1, h.held inv.1.unacked inv.2 spaced⟩
  · intro o e o' inv h
    exact h.delays_iff inv.1.unacked inv.2

/-- One byte is sent, and another before the first is acknowledged. -/
theorem small_not_delayed : ∃ es c r, Run Step (new 100) es c ∧ c.state = .established ∧
    c.nagleEnabled = true ∧ c.maxSegmentSize = 1460 ∧
    (outstanding es).map (·.getPayload) = [[1]] ∧
    c.send [2] (fun _ => 0) (fun _ => true) 2 = some r ∧ r.sent.map (·.getPayload) = [[2]] := by
  let packet := (openedBy 100 300).dataPacket [1]
  let c := (openedBy 100 300).pushRetransmit [1] 0 1
  have sends : Step (openedBy 100 300)
      (.send [1] (fun _ => 0) (fun _ => true) 2, [packet]) c := by
    rw [Step, exec]
    simp only [packet, c, openedBy_eq]
    rfl
  obtain ⟨st, nagle, mss, r, call, second⟩ : c.state = .established ∧ c.nagleEnabled = true ∧
      c.maxSegmentSize = 1460 ∧ ∃ r, c.send [2] (fun _ => 0) (fun _ => true) 2 = some r ∧
        r.sent.map (·.getPayload) = [[2]] := by
    simp only [c, openedBy_eq]
    exact ⟨rfl, rfl, rfl, _, rfl, rfl⟩
  refine ⟨_, c, r, (run_openedBy 100 300).snoc sends, st, nagle, mss, ?_, call, second⟩
  rw [outstanding_send]
  rfl

end TCPConnection

end Lwip
