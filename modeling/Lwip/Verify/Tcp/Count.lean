import Lwip.Verify.Tcp.Manager

/-! How many connections a `TCPManager` counts. The table is all that `get_connection_count` and
the limits look at, and `create_connection` never enters the connection it hands out: the count
and the limit are right exactly as long as that call hands out none (`counted_iff`). -/

namespace Lwip

namespace TCPManager

variable {m m' : TCPManager} {e : Event} {es : List Event} {r : ConnRef}

/-- A manager and the connections it has handed out and not dropped since. -/
structure Ledger where
  manager : TCPManager
  live : Finset ConnRef

/-- The connection that a call hands out. -/
def Event.handedOut : Event → Option ConnRef
  | .create _ ret | .findOrCreate _ _ _ ret => ret
  | _ => none

/-- The connections that a call removes, or drops because they have timed out. -/
def Event.Drops (m : TCPManager) : Event → ConnRef → Prop
  | .remove remoteIp remotePort, r => m.connections.find? (remoteIp, remotePort) = some r
  | .cleanup now, r =>
    ∃ key c, m.connections.lookup? key = some (r, c) ∧ c.isTimeout (now key) = true
  | _, _ => False

/-- The calls that ask for a new connection: there is none to find. -/
def Event.Creates (m : TCPManager) : Event → Prop
  | .create _ _ => True
  | .findOrCreate _ remoteIp remotePort _ => m.connections.find? (remoteIp, remotePort) = none
  | _ => False

def Ledger.Step (o : Ledger) (e : Event) (o' : Ledger) : Prop :=
  TCPManager.Step o.manager e o'.manager ∧
    ∀ r, r ∈ o'.live ↔ (r ∈ o.live ∧ ¬ e.Drops o.manager r) ∨ e.handedOut = some r

/-- The count afterwards is right, and no connection was made with the limit reached. -/
structure Counted (o : Ledger) (e : Event) (o' : Ledger) : Prop where
  count : o'.manager.getConnectionCount = o'.live.card
  limit : e.Creates o.manager → o.manager.maxConnections ≤ o.live.card → e.handedOut = none

/-- `create_connection` is called only with the table at `MAX_CONNECTIONS`. -/
def NoneCreated (o : Ledger) (e : Event) : Prop :=
  ∀ isn ret, e = .create isn ret → maxConnectionsLimit ≤ o.manager.connections.size

/-- What a call other than one of `create_connection` that succeeds does to what is listed. -/
theorem Step.mem_refs_iff (h : Step m e m')
    (full : ∀ isn ret, e = .create isn ret → maxConnectionsLimit ≤ m.connections.size) :
    r ∈ m'.connections.refs ↔
      (r ∈ m.connections.refs ∧ ¬ e.Drops m r) ∨ e.handedOut = some r := by
  cases h.effect with
  | full | refused => simp [Event.Drops, Event.handedOut]
  | made room => exact absurd (full _ _ rfl) (Nat.not_le_of_lt room)
  | found found =>
    have listed := Registry.mem_refs.mpr ⟨_, found⟩
    simp only [Event.Drops, Event.handedOut, not_false_eq_true, and_true, Option.some_inj]
    exact ⟨.inl, fun h => h.elim id fun eq => eq ▸ listed⟩
  | entered absent =>
    simp only [Event.Drops, Event.handedOut, not_false_eq_true, and_true, Option.some_inj,
      Registry.mem_refs_insertNew absent, eq_comm]
  | removed => simp [Event.Drops, Event.handedOut, removeConnection, Registry.mem_refs_erase]
  | cleaned now =>
    simp [Event.Drops, Event.handedOut, cleanupTimeoutConnections, Registry.mem_refs_filter]
  | limited | called =>
    simp only [Event.Drops, Event.handedOut, not_false_eq_true, and_true, reduceCtorEq, or_false]
    rfl

/-- With the table at the limit no connection is made. -/
theorem Step.refused (h : Step m e m')
    (full : ∀ isn ret, e = .create isn ret → maxConnectionsLimit ≤ m.connections.size)
    (creates : e.Creates m) (reached : m.maxConnections ≤ m.connections.size) :
    e.handedOut = none := by
  cases h.effect with
  | made room => exact absurd (full _ _ rfl) (Nat.not_le_of_lt room)
  | found found =>
    have absent : m.connections.find? _ = none := creates
    rw [found] at absent
    cases absent
  | entered _ room => exact absurd reached (Nat.not_le_of_lt room)
  | full | refused | removed | cleaned | limited | called => rfl

/-- With room in the table `create_connection` hands out a connection that does not count. -/
theorem Step.uncounted {isn : UInt32} {ret : Option ConnRef} (h : Step m (.create isn ret) m')
    (room : ¬ maxConnectionsLimit ≤ m.connections.size) :
    ret = some m.connections.next ∧ m'.getConnectionCount = m.connections.size := by
  cases h.effect with
  | full full => exact absurd full room
  | made => exact ⟨rfl, rfl⟩

/-- As long as `create_connection` hands out none, what is live is what the table lists. -/
theorem Ledger.Step.live_eq {o o' : Ledger} (h : o.Step e o')
    (live : o.live = o.manager.connections.refs) (none : NoneCreated o e) :
    o'.live = o'.manager.connections.refs := by
  ext r
  rw [h.2 r, h.1.mem_refs_iff none, live]

theorem Ledger.Step.counts_iff {o o' : Ledger} (h : o.Step e o')
    (live : o.live = o.manager.connections.refs) : Counted o e o' ↔ NoneCreated o e := by
  constructor
  · intro counted isn ret eq
    -- a connection made with room in the table would be live and not listed
    by_contra room
    obtain ⟨step, live'⟩ := h
    rw [eq] at step live'
    obtain ⟨rfl, same⟩ := step.uncounted room
    have more : o'.live = insert o.manager.connections.next o.manager.connections.refs := by
      ext r
      simp [live' r, live, Event.Drops, Event.handedOut, or_comm, eq_comm]
    have count := counted.count
    rw [same, more, Finset.card_insert_of_notMem Registry.next_notMem_refs,
      Registry.card_refs] at count
    exact absurd count (Nat.ne_of_lt (Nat.lt_succ_self _))
  · intro none
    refine ⟨?_, fun creates reached => ?_⟩
    · rw [h.live_eq live none, Registry.card_refs, getConnectionCount]
    · rw [live, Registry.card_refs] at reached
      exact h.1.refused none creates reached

/-- In a run the count is always the number of connections handed out and not dropped since, and no
connection is made with the limit reached, exactly when every call of `create_connection` finds the
table at `MAX_CONNECTIONS`. -/
theorem counted_iff {o : Ledger} :
    Run (fun o e o' => o.Step e o' ∧ Counted o e o') ⟨new, ∅⟩ es o ↔
      Run (fun o e o' => o.Step e o' ∧ NoneCreated o e) ⟨new, ∅⟩ es o := by
  apply Run.law_iff_guard (fun o => o.live = o.manager.connections.refs) rfl
  · intro o e o' live h none
    exact h.live_eq live none
  · intro o e o' live h
    exact h.counts_iff live

/-- The first connection that `create_connection` makes is not counted, and with a limit of one
connection a second one is made. -/
theorem created_not_counted : ∃ o₁ o₂ o₃ : Ledger,
    Ledger.Step ⟨new, ∅⟩ (.create 7 (some 0)) o₁ ∧
    o₁.manager.getConnectionCount = 0 ∧ o₁.live.card = 1 ∧
    o₁.Step (.setMax 1) o₂ ∧ o₂.manager.maxConnections = 1 ∧ o₂.live.card = 1 ∧
    o₂.Step (.create 8 (some 1)) o₃ := by
  let m₁ : TCPManager := { new with
    connections := new.connections.make (freshConnection 7 1024)
    nextPort := 1025 }
  let m₃ : TCPManager := { m₁.setMaxConnections 1 with
    connections := m₁.connections.make (freshConnection 8 1025)
    nextPort := 1026 }
  refine ⟨⟨m₁, {0}⟩, ⟨m₁.setMaxConnections 1, {0}⟩, ⟨m₃, {0, 1}⟩, ⟨.create rfl, fun r => ?_⟩, rfl,
    rfl, ⟨.setMax 1, fun r => ?_⟩, rfl, rfl, ⟨.create rfl, fun r => ?_⟩⟩
  · simp [Event.handedOut, eq_comm]
  · simp [Event.handedOut, Event.Drops]
  · simp [Event.handedOut, Event.Drops, eq_comm]

end TCPManager

end Lwip
