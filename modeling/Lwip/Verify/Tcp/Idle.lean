import Mathlib.Logic.Function.Basic
import Lwip.Verify.Tcp.Manager

/-! Which connections `cleanup_timeout_connections` drops. The time that it looks at is written by
`handle_packet` alone and starts as the epoch of the clock, so a connection that is new, or busy
sending, is dropped as well; `drops_idle_iff` says in which runs none is. -/

namespace Lwip

namespace TCPManager

variable {m m' : TCPManager} {e : Event} {r : ConnRef} {c c' : TCPConnection}

/-- A manager beside a steady clock, the events of its connections so far with their times, and the
time at which each connection last handled a packet. -/
structure Timed where
  manager : TCPManager
  clock : Time
  events : List (ConnRef × Time)
  handled : ConnRef → Option Time

/-- The connection that a call makes for a peer, connects, sends on with success or gives a
packet. -/
def Event.about (m : TCPManager) : Event → Option ConnRef
  | .findOrCreate _ remoteIp remotePort ret =>
    if m.connections.find? (remoteIp, remotePort) = none then ret else none
  | .call r (.connect _ _ _) _ | .call r (.handlePacket _ _) _ => some r
  | .call r (.send data now ok fuel) _ =>
    if ((m.connections.get? r).bind (·.send data now ok fuel)).any (·.ret) then some r else none
  | _ => none

def Event.packet? : Event → Option (ConnRef × Time)
  | .call r (.handlePacket now _) _ => some (r, now)
  | _ => none

/-- What a call reads off a clock that goes from `start` to `now` while it runs. -/
def Event.Reads (start now : Time) : Event → Prop
  | .cleanup reading => ∀ key, start ≤ reading key ∧ reading key ≤ now
  | .call _ (.handlePacket reading _) _ => reading = now
  | _ => True

structure Timed.Step (o : Timed) (e : Time × Event) (o' : Timed) : Prop where
  step : TCPManager.Step o.manager e.2 o'.manager
  steady : o.clock ≤ e.1
  clock : o'.clock = e.1
  reads : e.2.Reads o.clock e.1
  events : o'.events = o.events ++ ((e.2.about o.manager).map fun r => (r, e.1)).toList
  handled : o'.handled = e.2.packet?.elim o.handled fun p =>
    Function.update o.handled p.1 (some p.2)

/-- A cleanup drops only connections that had no event in the last 300 seconds. -/
def DropsIdle (o : Timed) (e : Time × Event) (o' : Timed) : Prop :=
  ∀ now, e.2 = .cleanup now → ∀ key r, o.manager.connections.find? key = some r →
    o'.manager.connections.find? key = none →
    ∀ t, (r, t) ∈ o.events → timeoutSeconds * second < now key - t

/-- A connection that had an event in the last 300 seconds has handled a packet in the last 301, or
none at all on a clock that reads less than that. -/
def Heard (o : Timed) (e : Time × Event) : Prop :=
  ∀ now, e.2 = .cleanup now → ∀ key r, o.manager.connections.find? key = some r →
    ∀ t, (r, t) ∈ o.events → now key - t ≤ timeoutSeconds * second →
    now key - (o.handled r).getD 0 < (timeoutSeconds + 1) * second

theorem isTimeout_iff (c : TCPConnection) (now : Time) :
    c.isTimeout now = true ↔ (timeoutSeconds + 1) * second ≤ now - c.lastActivity := by
  rw [TCPConnection.isTimeout, decide_eq_true_eq, timeoutSeconds, second]
  generalize now - c.lastActivity = elapsed
  rcases Int.le_total 0 elapsed with nonneg | nonpos
  · rw [Int.tdiv_eq_ediv_of_nonneg nonneg]
    omega
  · obtain ⟨early, rfl⟩ : ∃ early, elapsed = -early := ⟨-elapsed, (Int.neg_neg elapsed).symm⟩
    rw [Int.neg_tdiv, Int.tdiv_eq_ediv_of_nonneg (Int.nonneg_of_neg_nonpos nonpos)]
    omega

/-- Each object is the one there was, a new one, or what a call made of the one there was. -/
theorem Step.object_cases (h : Step m e m') (held : m'.connections.get? r = some c') :
    (m.connections.get? r = some c' ∧ ∀ op sent, e ≠ .call r op sent) ∨
    (r = m.connections.next ∧ ∃ isn port, c' = freshConnection isn port) ∨
    ∃ c op sent, e = .call r op sent ∧ m.connections.get? r = some c ∧
      TCPConnection.Step c (op, sent) c' := by
  cases h.effect with
  | full | found | refused | removed | cleaned | limited =>
    exact .inl ⟨held, fun _ _ eq => by cases eq⟩
  | made =>
    rcases Registry.get?_of_make held with before | ⟨rfl, rfl⟩
    · exact .inl ⟨before, fun _ _ eq => by cases eq⟩
    · exact .inr (.inl ⟨rfl, _, _, rfl⟩)
  | entered =>
    rcases Registry.get?_of_insertNew held with before | ⟨rfl, rfl⟩
    · exact .inl ⟨before, fun _ _ eq => by cases eq⟩
    · exact .inr (.inl ⟨rfl, _, _, rfl⟩)
  | @called r₁ c₁ c₂ op sent held₁ step =>
    rw [Registry.get?_set (Registry.lt_next_of_get? held₁)] at held
    split at held
    · rename_i same
      cases held
      exact .inr (.inr ⟨c₁, op, sent, by rw [same], by rw [same, held₁], step⟩)
    · rename_i other
      exact .inl ⟨held, fun _ _ eq => by cases eq; exact other rfl⟩

/-- The time that a connection keeps is that of the last packet it handled, or the epoch. -/
structure Stamped (o : Timed) : Prop where
  stamp : ∀ r c, o.manager.connections.get? r = some c → c.lastActivity = (o.handled r).getD 0
  unseen : ∀ r, o.manager.connections.next ≤ r → o.handled r = none

theorem Stamped.new (start : Time) : Stamped ⟨.new, start, [], fun _ => none⟩ :=
  ⟨(fun _ _ held => by cases held), fun _ _ => rfl⟩

theorem Event.call_of_packet? {p : ConnRef × Time} (packet : e.packet? = some p) :
    ∃ op sent, e = .call p.1 op sent := by
  cases e with
  | call r op sent =>
    cases op with
    | handlePacket now packet' =>
      cases packet
      exact ⟨_, _, rfl⟩
    | _ => cases packet
  | _ => cases packet

theorem Step.lt_next_of_call {op : TCPConnection.Op} {sent : List TCPPacket}
    (h : Step m (.call r op sent) m') : r < m.connections.next := by
  cases h with
  | call held => exact Registry.lt_next_of_get? held

theorem Timed.Step.handled_eq {o o' : Timed} {e : Time × Event} (h : o.Step e o')
    (quiet : ∀ op sent, e.2 ≠ .call r op sent) : o'.handled r = o.handled r := by
  rw [h.handled]
  cases packet : e.2.packet? with
  | none => rfl
  | some p =>
    obtain ⟨op, sent, eq⟩ := Event.call_of_packet? packet
    refine Function.update_of_ne ?_ _ _
    rintro rfl
    exact quiet op sent eq

/-- After a call on a connection, that connection has the time that belongs to it. -/
theorem Timed.Step.stamp_of_call {o o' : Timed} {e : Time × Event} {op : TCPConnection.Op}
    {sent : List TCPPacket} (h : o.Step e o') (eq : e.2 = .call r op sent)
    (step : TCPConnection.Step c (op, sent) c') (stamp : c.lastActivity = (o.handled r).getD 0) :
    c'.lastActivity = (o'.handled r).getD 0 := by
  rw [h.handled, eq, step.frame.lastActivity]
  cases op with
  | handlePacket now packet => simp [Event.packet?]
  | _ => exact stamp

theorem Stamped.step {o o' : Timed} {e : Time × Event} (inv : Stamped o) (h : o.Step e o') :
    Stamped o' := by
  have unseen : ∀ r, o.manager.connections.next ≤ r → o'.handled r = none := by
    intro r late
    rw [h.handled_eq, inv.unseen r late]
    intro op sent eq
    have called := h.step
    rw [eq] at called
    exact absurd called.lt_next_of_call (Nat.not_lt_of_le late)
  refine ⟨fun r c' held => ?_, fun r late => unseen r (h.step.later.next.trans late)⟩
  rcases h.step.object_cases held with ⟨before, quiet⟩ | ⟨rfl, isn, port, rfl⟩ |
    ⟨c, op, sent, eq, before, step⟩
  · rw [h.handled_eq quiet]
    exact inv.stamp r c' before
  · rw [unseen _ (Nat.le_refl _)]
    rfl
  · exact h.stamp_of_call eq step (inv.stamp r c before)

/-- A cleanup drops an entry exactly when no packet has been handled for 301 seconds. -/
theorem Stamped.dropped_iff {o : Timed} (inv : Stamped o) (now : ConnKey → Time) {key : ConnKey}
    (listed : o.manager.connections.find? key = some r) :
    (o.manager.cleanupTimeoutConnections now).connections.find? key = none ↔
      (timeoutSeconds + 1) * second ≤ now key - (o.handled r).getD 0 := by
  obtain ⟨c, held⟩ := Registry.exists_get? (Registry.lt_next listed)
  rw [← inv.stamp r c held, ← isTimeout_iff, cleanupTimeoutConnections, Registry.find?_filter,
    listed]
  simp [Option.filter, held]

theorem Step.eq_of_cleanup {now : ConnKey → Time} (h : Step m (.cleanup now) m') :
    m' = m.cleanupTimeoutConnections now := by
  cases h
  rfl

theorem Timed.Step.idle_iff {o o' : Timed} {e : Time × Event} (h : o.Step e o')
    (inv : Stamped o) : DropsIdle o e o' ↔ Heard o e := by
  have cleaned (now : ConnKey → Time) (eq : e.2 = .cleanup now) :
      o'.manager = o.manager.cleanupTimeoutConnections now := by
    have step := h.step
    rw [eq] at step
    exact step.eq_of_cleanup
  constructor
  · intro idle now eq key r listed t event recent
    by_contra silent
    have gone := (inv.dropped_iff now listed).mpr (Int.not_lt.mp silent)
    rw [← cleaned now eq] at gone
    exact absurd (idle now eq key r listed gone t event) (Int.not_lt.mpr recent)
  · intro heard now eq key r listed gone t event
    by_contra recent
    rw [cleaned now eq, inv.dropped_iff now listed] at gone
    exact absurd (heard now eq key r listed t event (Int.not_lt.mp recent)) (Int.not_lt.mpr gone)

/-- In a run on a steady clock that starts anywhere, each cleanup drops only connections without an
event in the last 300 seconds, exactly when at each cleanup every connection of the table that had
one has handled a packet in the last 301 seconds or has a clock that reads less than that. -/
theorem drops_idle_iff {start : Time} {es : List (Time × Event)} {o : Timed} :
    Run (fun o e o' => Timed.Step o e o' ∧ DropsIdle o e o') ⟨new, start, [], fun _ => none⟩ es o ↔
      Run (fun o e o' => Timed.Step o e o' ∧ Heard o e) ⟨new, start, [], fun _ => none⟩ es o := by
  apply Run.law_iff_guard Stamped (.new start)
  · intro o e o' inv h _
    exact inv.step h
  · intro o e o' inv h
    exact h.idle_iff inv

/-- On a clock that reads 1000 s, a cleanup drops a connection as soon as it is made. -/
theorem new_connection_dropped : ∃ o o', Timed.Step ⟨new, 0, [], fun _ => none⟩
      (1000 * second, .findOrCreate 7 1 80 (some 0)) o ∧
    o.Step (1000 * second, .cleanup fun _ => 1000 * second) o' ∧
    o.manager.connections.find? (1, 80) = some 0 ∧ o'.manager.connections.find? (1, 80) = none ∧
    o.events = [(0, 1000 * second)] := by
  let m₁ : TCPManager := { new with
    connections := new.connections.insertNew (1, 80) (freshConnection 7 1024)
    nextPort := 1025 }
  let o : Timed := ⟨m₁, 1000 * second, [(0, 1000 * second)], fun _ => none⟩
  let o' : Timed := { o with
    manager := m₁.cleanupTimeoutConnections fun _ => 1000 * second }
  have made : Timed.Step ⟨new, 0, [], fun _ => none⟩
      (1000 * second, .findOrCreate 7 1 80 (some 0)) o :=
    ⟨.findOrCreate rfl, by decide, rfl, trivial, rfl, rfl⟩
  have cleaned : o.Step (1000 * second, .cleanup fun _ => 1000 * second) o' :=
    ⟨.cleanup _, le_rfl, rfl, fun _ => ⟨le_rfl, le_rfl⟩, rfl, rfl⟩
  have inv : Stamped o := (Stamped.new 0).step made
  exact ⟨o, o', made, cleaned, rfl, (inv.dropped_iff _ rfl).mpr (by decide), rfl⟩

end TCPManager

end Lwip
