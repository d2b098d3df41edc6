import Lwip.Verify.Core.Routing
import Lwip.Verify.Tcp.Idle
import Lwip.Verify.Tcp.Resending

/-! On what `send_packet` calls `send_frame`. It takes `interface_` as it is: null until an
`initialize`, and replaced by `initialize` before the new interface is known to work. So the calls
that send have to come after an `initialize` that succeeded, and none that replaces a working
interface may fail (`sends_on_working_iff`). -/

namespace Lwip

namespace TCPConnection

variable {c c' : TCPConnection} {sent : List TCPPacket}

/-- `handle_packet` answers the packet. -/
def replies (c : TCPConnection) (p : TCPPacket) : Bool :=
  match c.state with
  | .closed | .listen => p.hasFlag tcpFlagSyn
  | .synSent =>
    p.hasFlag (tcpFlagSyn ||| tcpFlagAck) && decide (p.getAckNumber = c.localSeqNum + 1)
  | .established | .finWait2 => p.hasFlag tcpFlagFin
  | _ => false

/-- The call hands a packet to `send_packet`. -/
def Speaks (c : TCPConnection) : Op → Prop
  | .connect _ _ _ => c.state = .closed
  | .send data _ _ _ => c.state = .established ∧ data ≠ []
  | .handlePacket _ p => c.replies p = true
  | _ => False

theorem replies_of_not_wants {p : TCPPacket} (h : c.wants p = false) : c.replies p = false := by
  rw [wants] at h
  rw [replies]
  split at h <;> simp_all

theorem Transition.sent_iff {now : Time} {p : TCPPacket} (h : Transition now c p c' sent) :
    sent ≠ [] ↔ c.replies p = true := by
  cases h with
  | ignored h => simp [replies_of_not_wants h]
  | passiveOpen hs syn => rcases hs with hs | hs <;> simp [replies, hs, syn]
  | wrongAck hs flag ack => simp [replies, hs, ack]
  | activeOpen hs flag ack => simp [replies, hs, flag, ack]
  | opened hs | finAcked hs | closingAcked hs | lastAcked hs => simp [replies, hs]
  | data hs fin => simp [replies, hs, fin]
  | fin hs fin | peerFin hs fin => simp [replies, hs, fin]

theorem Step.sent_iff {op : Op} (inv : Inv c) (h : Step c (op, sent) c') :
    sent ≠ [] ↔ c.Speaks op := by
  cases op with
  | connect remoteIp remotePort ok =>
    cases h
    by_cases st : c.state = .closed
    · cases ok <;> simp [connect, Speaks, st]
    · simp [connect, Speaks, st]
  | send data now ok fuel =>
    obtain ⟨r, call, eq⟩ := Option.map_eq_some_iff.mp h
    cases eq
    exact send_nonempty_iff inv.unacked call
  | handlePacket now p =>
    cases h
    exact (handlePacket_transition c now p).sent_iff
  | handleTimeout => simp [handleTimeout_silent inv.unacked h, Speaks]
  | close | receive | setWindowSize | setMss | enableTimestamps | enableNagle | setLocalPort =>
    cases h
    simp [Speaks]

end TCPConnection

namespace TCPManager

/-- Every connection is one that calls have made from a new one. -/
def Opened (m : TCPManager) : Prop :=
  ∀ r c, m.connections.get? r = some c → TCPConnection.Inv c

theorem Opened.step {m m' : TCPManager} {e : Event} (h : Opened m) (step : Step m e m') :
    Opened m' := by
  intro r c held
  rcases step.object_cases held with ⟨before, -⟩ | ⟨-, isn, port, rfl⟩ | ⟨c₀, _, _, -, before, call⟩
  · exact h r c before
  · obtain ⟨state, opening, unacked⟩ := TCPConnection.Inv.new isn
    exact ⟨state, opening, unacked⟩
  · exact (h r c₀ before).step call

end TCPManager

namespace StackManager

variable {host : Endian} {s s' : StackManager}

/-- There is an interface, and its `init()` has returned true. -/
def Working (interface : Option NetworkInterface) : Prop :=
  ∃ i, interface = some i ∧ i.ready = true

/-- What `send_packet` calls `send_frame` on for the segments of a call. The call on a null
pointer is the last. -/
def sendTargets (host : Endian) (s : StackManager) : List TCPPacket → List (Option NetworkInterface)
  | [] => []
  | p :: sent =>
    s.interface :: match s.sendPacket (p.serialize host).1 with
      | .ok s' => sendTargets host s' sent
      | .error _ => []

theorem sendPacket_working {packet : Bytes} (h : s.sendPacket packet = .ok s') :
    Working s'.interface ↔ Working s.interface := by
  rw [sendPacket] at h
  split at h
  · cases h
  · rename_i i eq
    cases h
    simp [Working, eq]

theorem sendAll_working {sent : List TCPPacket} (h : sendAll host s sent = .ok s') :
    Working s'.interface ↔ Working s.interface :=
  sendAll_invariant (fun t => Working t.interface ↔ Working s.interface)
    (fun _ _ _ ht hs => (sendPacket_working hs).trans ht) Iff.rfl h

theorem sendTargets_working_iff {sent : List TCPPacket} :
    (∀ interface ∈ sendTargets host s sent, Working interface) ↔
      (sent ≠ [] → Working s.interface) := by
  induction sent generalizing s with
  | nil => simp [sendTargets]
  | cons p sent ih =>
    rw [sendTargets, List.forall_mem_cons]
    refine ⟨fun h _ => h.1, fun h => ⟨h (List.cons_ne_nil _ _), ?_⟩⟩
    cases first : s.sendPacket (p.serialize host).1 with
    | error _ => simp
    | ok mid => exact ih.mpr fun _ => (sendPacket_working first).mpr (h (List.cons_ne_nil _ _))

/-! ## The public calls -/

/-- A public call that returns or faults, what it calls `send_frame` on and what it leaves. -/
inductive PublicCall (host : Endian) (s : StackManager) :
    Event → List (Option NetworkInterface) → Except Fault StackManager → Prop where
  | initialized (interface : Option NetworkInterface) (initOk : Bool) :
    PublicCall host s (.initialized interface initOk) []
      (.ok (s.initializeWith interface initOk).2)
  | sendPacket (packet : Bytes) :
    PublicCall host s (.sendPacket packet) [s.interface] (s.sendPacket packet)
  | tcp {e : TCPManager.Event} {m : TCPManager} (step : TCPManager.Step s.tcpManager e m) :
    PublicCall host s (.tcp e) (sendTargets host { s with tcpManager := m } (eventSent e))
      (sendAll host { s with tcpManager := m } (eventSent e))

/-- A program makes public calls until one of them faults. -/
def ProgramStep (host : Endian) (t : Except Fault StackManager)
    (e : Event × List (Option NetworkInterface)) (t' : Except Fault StackManager) : Prop :=
  ∃ s, t = .ok s ∧ PublicCall host s e.1 e.2 t'

/-- Every call of `send_frame` is made on a working interface, and an `initialize` that returns
false leaves a working interface where it is. -/
structure SendsOnWorking (s : StackManager) (e : Event × List (Option NetworkInterface))
    (t' : Except Fault StackManager) : Prop where
  targets : ∀ interface ∈ e.2, Working interface
  kept : ∀ interface initOk, e.1 = .initialized interface initOk →
    (s.initializeWith interface initOk).1 = false → Working s.interface →
      ∃ s', t' = .ok s' ∧ s'.interface = s.interface

/-- The last `initialize` that was given an interface returned true. -/
def initialized (es : List (Event × List (Option NetworkInterface))) : Bool :=
  es.foldl (fun up e =>
    match e.1 with
    | .initialized (some _) initOk => initOk
    | _ => up) false

/-- The calls that send come after an `initialize` that succeeded, and none that is given an
interface fails then. -/
def AfterInitialize (es : List (Event × List (Option NetworkInterface))) (s : StackManager) :
    Event → Prop
  | .initialized interface initOk =>
    interface.isSome = true → initOk = false → initialized es = false
  | .sendPacket _ => initialized es = true
  | .tcp (.call r op _) =>
    ∀ c, s.conns.get? r = some c → c.Speaks op → initialized es = true
  | _ => True

/-- What the calls `es` have left. -/
structure Tracked (es : List (Event × List (Option NetworkInterface))) (s : StackManager) :
    Prop where
  working : Working s.interface ↔ initialized es = true
  opened : TCPManager.Opened s.tcpManager

variable {es : List (Event × List (Option NetworkInterface))} {e : Event}
  {targets : List (Option NetworkInterface)} {t' : Except Fault StackManager}

theorem initialized_append : initialized (es ++ [(e, targets)]) =
    match e with
    | .initialized (some _) initOk => initOk
    | _ => initialized es := by
  rw [initialized, List.foldl_append]
  rfl

theorem Tracked.step (h : Tracked es s) (call : PublicCall host s e targets (.ok s')) :
    Tracked (es ++ [(e, targets)]) s' := by
  generalize eq : Except.ok s' = t' at call
  cases call with
  | initialized interface initOk =>
    cases eq
    cases interface with
    | none => exact ⟨by rw [initialized_append]; exact h.working, h.opened⟩
    | some i => exact ⟨by simp [initialized_append, initializeWith, Working], h.opened⟩
  | sendPacket packet =>
    constructor
    · rw [initialized_append, sendPacket_working eq.symm]
      exact h.working
    · rw [sendPacket_tcpManager eq.symm]
      exact h.opened
  | tcp step =>
    constructor
    · rw [initialized_append, sendAll_working eq.symm]
      exact h.working
    · rw [sendAll_tcpManager eq.symm]
      exact h.opened.step step

theorem sendsOnWorking_initialized_iff {interface : Option NetworkInterface} {initOk : Bool} :
    SendsOnWorking s (.initialized interface initOk, [])
        (.ok (s.initializeWith interface initOk).2) ↔
      (interface.isSome = true → initOk = false → ¬ Working s.interface) := by
  cases interface with
  | none =>
    refine iff_of_true ⟨by simp, ?_⟩ (fun given => by cases given)
    intro _ _ eq _ _
    cases eq
    exact ⟨s, rfl, rfl⟩
  | some i =>
    constructor
    · rintro law - rfl working
      obtain ⟨s', eq, same⟩ := law.kept _ _ rfl rfl working
      cases eq
      rw [← same] at working
      simp [Working, initializeWith] at working
    · intro guard
      refine ⟨by simp, ?_⟩
      intro _ _ eq fails working
      cases eq
      exact absurd working (guard rfl fails)

theorem sendsOnWorking_sendPacket_iff {packet : Bytes} :
    SendsOnWorking s (.sendPacket packet, [s.interface]) t' ↔ Working s.interface := by
  constructor
  · intro law
    exact law.targets _ (List.mem_singleton_self _)
  · intro working
    refine ⟨by simpa using working, ?_⟩
    intro _ _ eq
    cases eq

theorem sendsOnWorking_tcp_iff {e : TCPManager.Event} {m : TCPManager} :
    SendsOnWorking s (.tcp e, sendTargets host { s with tcpManager := m } (eventSent e)) t' ↔
      (eventSent e ≠ [] → Working s.interface) := by
  constructor
  · intro law
    exact (sendTargets_working_iff (s := { s with tcpManager := m })).mp law.targets
  · intro working
    refine ⟨sendTargets_working_iff.mpr working, ?_⟩
    intro _ _ eq
    cases eq

/-- One call sends on a working interface, and keeps it, exactly when it comes at its time. -/
theorem Tracked.sendsOnWorking_iff (h : Tracked es s) (call : PublicCall host s e targets t') :
    SendsOnWorking s (e, targets) t' ↔ AfterInitialize es s e := by
  cases call with
  | initialized interface initOk =>
    rw [sendsOnWorking_initialized_iff, AfterInitialize, h.working, Bool.not_eq_true]
  | sendPacket packet => rw [sendsOnWorking_sendPacket_iff, AfterInitialize, h.working]
  | tcp step =>
    rw [sendsOnWorking_tcp_iff]
    cases step with
    | @call r c c' op sent held returns =>
      have inv := h.opened r c held
      rw [eventSent, TCPConnection.Step.sent_iff inv returns, AfterInitialize, ← h.working]
      constructor
      · intro up c₁ held₁ speaks
        rw [conns, held] at held₁
        cases held₁
        exact up speaks
      · exact fun up speaks => up c held speaks
    | _ => simp [eventSent, AfterInitialize]

/-- A program calls `send_frame` on working interfaces only, and never loses a working interface
to one that fails, exactly when what it sends comes after an `initialize` that succeeded and no
`initialize` with an interface fails then. -/
theorem sends_on_working_iff {o : List (Event × List (Option NetworkInterface)) ×
    Except Fault StackManager} :
    Run (fun o e o' => Logged (ProgramStep host) o e o' ∧
        ∀ s, o.2 = .ok s → SendsOnWorking s e o'.2) ([], .ok {}) es o ↔
      Run (fun o e o' => Logged (ProgramStep host) o e o' ∧
        ∀ s, o.2 = .ok s → AfterInitialize o.1 s e.1) ([], .ok {}) es o := by
  apply Run.law_iff_guard fun o => ∀ s, o.2 = .ok s → Tracked o.1 s
  · intro s eq
    cases eq
    exact ⟨by simp [Working, initialized], fun _ _ held => by cases held⟩
  · rintro o e o' tracked ⟨⟨s, before, call⟩, log⟩ - s' after
    rw [log]
    rw [after] at call
    exact (tracked s before).step call
  · rintro o e o' tracked ⟨⟨s, before, call⟩, -⟩
    constructor
    · intro law s₁ eq
      rw [before] at eq
      cases eq
      exact ((tracked s before).sendsOnWorking_iff call).mp (law s before)
    · intro guard s₁ eq
      rw [before] at eq
      cases eq
      exact ((tracked s before).sendsOnWorking_iff call).mpr (guard s before)

/-- A connection that opens before any `initialize` calls through the null pointer, and an
`initialize` that fails takes the place of the working interface. -/
theorem sends_before_initialize :
    (∃ s sent, Run (ProgramStep .little) (.ok {}) [(.tcp (.create 7 (some 0)), [])] (.ok s) ∧
      ProgramStep .little (.ok s) (.tcp (.call 0 (.connect 0x0100007F 80 true) sent), [none])
        (.error .nullInterface)) ∧
    ∃ s s', Run (ProgramStep .little) (.ok {}) [(.initialized (some {}) true, [])] (.ok s) ∧
      Working s.interface ∧
      ProgramStep .little (.ok s) (.initialized (some {}) false, []) (.ok s') ∧
      ¬ Working s'.interface := by
  constructor
  · let c := TCPManager.freshConnection 7 1024
    let m : TCPManager :=
      { TCPManager.new with connections := TCPManager.new.connections.make c, nextPort := 1025 }
    have created : TCPManager.Step .new (.create 7 (some 0)) m := .create rfl
    have connected : TCPManager.Step m (.call 0 (.connect 0x0100007F 80 true) [c.synPacket 80])
        { m with connections := m.connections.set 0 (c.connect 0x0100007F 80 true).conn } :=
      .call rfl rfl
    have fault : PublicCall .little { tcpManager := m } _ _ _ := .tcp connected
    exact ⟨{ tcpManager := m }, _, .single ⟨_, rfl, .tcp created⟩, _, rfl, fault⟩
  · refine ⟨_, _, .single ⟨_, rfl, .initialized _ _⟩, ⟨_, rfl, rfl⟩, ⟨_, rfl, .initialized _ _⟩, ?_⟩
    rintro ⟨i, eq, ready⟩
    cases eq
    cases ready

end StackManager

end Lwip
