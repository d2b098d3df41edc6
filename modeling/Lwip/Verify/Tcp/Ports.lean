import Lwip.Verify.Tcp.Table

/-! The local ports that a `TCPManager` hands out. The values of `next_port_` form a cycle of 64513
numbers, so that a search over it finds a port within one turn more than there are entries in the
table (`search_bounded`). One of the values is 0: the test for low ports comes after the port has
been taken and mends the next one only (`assigns_ephemeral_iff`). -/

namespace Lwip

namespace TCPManager

variable {m m' m₁ : TCPManager} {e : Event} {es : List Event} {port : UInt16}

/-! ## The cycle -/

/-- The place of a value of `next_port_` in the cycle, 1024 being the first and 0 the last. -/
def portPlace (port : UInt16) : Nat := if port.toNat = 0 then 64512 else port.toNat - 1024

theorem portPlace_lt (port : UInt16) : portPlace port < 64513 := by
  have := port.toNat_lt
  rw [portPlace]
  split <;> omega

theorem portPlace_after (h : PortValue port) :
    portPlace (portAfter port) = (portPlace port + 1) % 64513 := by
  have := port.toNat_lt
  have after := toNat_portAfter h
  rw [toNat_portValue] at h
  rw [portPlace, portPlace]
  generalize (portAfter port).toNat = next at after
  split_ifs at after ⊢ <;> omega

theorem PortValue.iterate (h : PortValue port) (i : Nat) : PortValue (portAfter^[i] port) := by
  induction i with
  | zero => exact h
  | succ i ih =>
    rw [Function.iterate_succ_apply']
    exact ih.after

theorem portPlace_iterate (h : PortValue port) (i : Nat) :
    portPlace (portAfter^[i] port) = (portPlace port + i) % 64513 := by
  induction i with
  | zero => exact (Nat.mod_eq_of_lt (portPlace_lt port)).symm
  | succ i ih =>
    rw [Function.iterate_succ_apply', portPlace_after (h.iterate i), ih]
    omega

theorem iterate_injOn (h : PortValue port) {n : Nat} (few : n ≤ 64513) :
    Set.InjOn (fun i => portAfter^[i] port) (Finset.range n) := by
  intro i hi j hj eq
  rw [Finset.mem_coe, Finset.mem_range] at hi hj
  have places := congrArg portPlace eq
  dsimp only at places
  rw [portPlace_iterate h, portPlace_iterate h] at places
  omega

/-! ## How long the search takes -/

/-- Among one value more than there are entries one is not taken. -/
theorem exists_unused_iterate (h : PortValue m.nextPort) (few : m.connections.size ≤ 64512) :
    ∃ i ≤ m.connections.size, m.used (portAfter^[i] m.nextPort) = false := by
  obtain ⟨i, lt, unused⟩ := exists_unused_of_injOn (iterate_injOn h (by omega))
    (Nat.lt_succ_self m.connections.size)
  exact ⟨i, Nat.le_of_lt_succ lt, unused⟩

/-- In every reachable state with no more than 64512 connections the search for a port ends within
one turn more than there are connections, with a port that none of them has. -/
theorem search_bounded (run : Run Step new es m) (few : m.connections.size ≤ 64512) :
    ∃ port nextPort,
      Loop.run m.allocateTurn (m.connections.size + 1) m.nextPort = some (port, nextPort) ∧
      m.allocateLocalPort = some (port, { m with nextPort }) ∧
      ∀ key r c, m.connections.lookup? key = some (r, c) → c.getLocalPort ≠ port := by
  have value : PortValue m.nextPort :=
    run.invariant (fun m => PortValue m.nextPort) (.inr (by decide)) fun _ _ _ ht hs =>
      hs.portValue ht
  obtain ⟨i, le, unused⟩ := exists_unused_iterate value few
  have turn (port : UInt16) : m.allocateTurn port = .again (portAfter port) ∨
      ∃ r, m.allocateTurn port = .done r ∧ m.used r.1 = false := by
    rw [allocateTurn_eq]
    cases used : m.used port with
    | true => exact .inl rfl
    | false => exact .inr ⟨_, rfl, used⟩
  have leaves : ∃ r, m.allocateTurn (portAfter^[i] m.nextPort) = .done r := by
    rw [allocateTurn_eq, unused]
    exact ⟨_, rfl⟩
  obtain ⟨⟨port, nextPort⟩, found, free⟩ :=
    Loop.run_of_iterate portAfter (fun r => m.used r.1 = false) turn leaves
  refine ⟨port, nextPort, Loop.run_mono found (by omega), ?_, fun key r c entry same => ?_⟩
  · have size : i + 1 ≤ UInt16.size := by
      simp only [UInt16.size]
      omega
    rw [allocateLocalPort, Loop.run_mono found size]
    rfl
  · have := Registry.any_eq_false_iff.mp free key r c entry
    simp [same] at this

/-- The port after the last one handed out is taken, and the search goes on to the next. -/
theorem search_bounded_taken : ∃ m, Run Step new
    [.findOrCreate 7 1 80 (some 0), .call 0 (.setLocalPort 1025) []] m ∧
    m.used 1025 = true ∧ ∃ port nextPort,
      Loop.run m.allocateTurn (m.connections.size + 1) m.nextPort = some (port, nextPort) ∧
      m.allocateLocalPort = some (port, { m with nextPort }) := by
  let m₁ : TCPManager := { new with
    connections := Registry.empty.insertNew (1, 80) (freshConnection 7 1024)
    nextPort := 1025 }
  let m₂ : TCPManager := { m₁ with connections := m₁.connections.set 0 (freshConnection 7 1025) }
  have entered : Step new (.findOrCreate 7 1 80 (some 0)) m₁ := .findOrCreate rfl
  have moved : Step m₁ (.call 0 (.setLocalPort 1025) []) m₂ :=
    .call (c := freshConnection 7 1024) rfl rfl
  have run := (Run.single entered).snoc moved
  obtain ⟨port, nextPort, found, allocated, -⟩ := search_bounded run (by decide)
  exact ⟨m₂, run, rfl, port, nextPort, found, allocated⟩

/-! ## Which ports are handed out -/

/-- A call that makes a connection. -/
def Event.Allocates (m : TCPManager) : Event → Prop
  | .create _ _ => m.connections.size < maxConnectionsLimit
  | .findOrCreate _ remoteIp remotePort _ =>
    m.connections.find? (remoteIp, remotePort) = none ∧ m.connections.size < m.maxConnections
  | _ => False

/-- A connection that a call makes has a local port from 1024 on. -/
def AssignsEphemeral (m m' : TCPManager) : Prop :=
  ∀ c, m'.connections.get? m.connections.next = some c → 1024 ≤ c.getLocalPort.toNat

/-- `next_port_` has not just wrapped around, and from it on there is a port that is not taken. -/
def PortAhead (m : TCPManager) : Prop :=
  m.nextPort ≠ 0 ∧ ∃ port, m.nextPort ≤ port ∧ m.used port = false

/-- A call makes a connection with the port that the search gives it, or it makes none. -/
theorem Step.made (h : Step m e m') :
    (e.Allocates m ∧ ∃ isn port m₁, m.allocateLocalPort = some (port, m₁) ∧
      m'.connections.get? m.connections.next = some (freshConnection isn port)) ∨
    (¬ e.Allocates m ∧ m'.connections.get? m.connections.next = none) := by
  have none : m.connections.get? m.connections.next = none := List.getElem?_eq_none (Nat.le_refl _)
  cases h with
  | create returns =>
    rcases createConnection_cases returns with ⟨full, -, rfl⟩ |
      ⟨room, port, nextPort, -, rfl, -, alloc⟩
    · exact .inr ⟨Nat.not_lt_of_le full, none⟩
    · exact .inl ⟨room, _, port, _, alloc, List.getElem?_concat_length⟩
  | findOrCreate returns =>
    rcases findOrCreateConnection_cases returns with ⟨r, found, -, rfl⟩ | ⟨-, full, -, rfl⟩ |
      ⟨absent, room, port, nextPort, -, rfl, -, -, alloc⟩
    · refine .inr ⟨fun h => ?_, none⟩
      rw [h.1] at found
      cases found
    · exact .inr ⟨fun h => absurd h.2 (Nat.not_lt_of_le full), none⟩
    · exact .inl ⟨⟨absent, room⟩, _, port, _, alloc, Registry.get?_insertNew_next⟩
  | remove | cleanup | setMax => exact .inr ⟨id, none⟩
  | call held =>
    refine .inr ⟨id, ?_⟩
    have lt := Registry.lt_next_of_get? held
    rw [Registry.get?_set lt, if_neg (Nat.ne_of_gt lt), none]

/-- Before it comes to 0 the search goes upwards. -/
theorem toNat_portAfter_of_lt {next : UInt16} (low : 1024 ≤ next.toNat)
    (high : next.toNat < 65535) : (portAfter next).toNat = next.toNat + 1 := by
  rw [toNat_portAfter (toNat_portValue.mpr (.inr low)), if_neg (by omega), if_neg (by omega)]

/-- The port found is 0, or it lies ahead of where the search began. -/
theorem portAhead_of_allocated (value : PortValue m.nextPort) (free : m.used 0 = false)
    (alloc : m.allocateLocalPort = some (port, m₁)) (large : 1024 ≤ port.toNat) : PortAhead m := by
  obtain ⟨r, run, eq⟩ := Option.map_eq_some_iff.mp alloc
  have keep : ∀ next next', next.toNat = 0 ∨ 1024 ≤ m.nextPort.toNat ∧ m.nextPort ≤ next →
      m.allocateTurn next = .again next' →
      next'.toNat = 0 ∨ 1024 ≤ m.nextPort.toNat ∧ m.nextPort ≤ next' := by
    rintro next next' behind hb
    obtain ⟨taken, rfl⟩ := allocateTurn_again hb
    rcases behind with zero | ⟨low, le⟩
    · rw [UInt16.toNat_inj.mp (show next.toNat = (0 : UInt16).toNat from zero), free] at taken
      cases taken
    · rw [UInt16.le_iff_toNat_le] at le ⊢
      have value' : PortValue next := toNat_portValue.mpr (.inr (by omega))
      rw [toNat_portAfter value', if_neg (by omega)]
      split <;> omega
  obtain ⟨next, behind, hb⟩ := Loop.run_invariant _ keep
    (by rw [toNat_portValue] at value; exact value.imp id fun low => ⟨low, UInt16.le_refl _⟩) run
  obtain ⟨unused, rfl⟩ := allocateTurn_done hb
  cases eq
  rcases behind with zero | ⟨low, le⟩
  · omega
  · refine ⟨fun zero => ?_, port, le, unused⟩
    rw [zero] at low
    cases low

/-- With an unused port ahead the search does not come to 0. -/
theorem allocated_of_portAhead (value : PortValue m.nextPort) (ahead : PortAhead m)
    (alloc : m.allocateLocalPort = some (port, m₁)) : 1024 ≤ port.toNat := by
  obtain ⟨r, run, eq⟩ := Option.map_eq_some_iff.mp alloc
  obtain ⟨ne, target, le, unused⟩ := ahead
  have low : 1024 ≤ m.nextPort.toNat := by
    rw [toNat_portValue] at value
    exact value.resolve_left fun zero => ne (UInt16.toNat_inj.mp zero)
  rw [UInt16.le_iff_toNat_le] at le
  have keep : ∀ next next', 1024 ≤ next.toNat ∧ next.toNat ≤ target.toNat →
      m.allocateTurn next = .again next' → 1024 ≤ next'.toNat ∧ next'.toNat ≤ target.toNat := by
    rintro next next' ⟨low, le⟩ hb
    obtain ⟨taken, rfl⟩ := allocateTurn_again hb
    have before : next.toNat ≠ target.toNat := fun same => by
      rw [UInt16.toNat_inj.mp same, unused] at taken
      cases taken
    have := target.toNat_lt
    rw [toNat_portAfter_of_lt low (by omega)]
    omega
  obtain ⟨next, ⟨low, -⟩, hb⟩ := Loop.run_invariant _ keep ⟨low, le⟩ run
  obtain ⟨-, rfl⟩ := allocateTurn_done hb
  cases eq
  exact low

/-- What a run keeps in which every port handed out is 1024 or more. -/
structure NoZero (m : TCPManager) : Prop where
  value : PortValue m.nextPort
  free : m.used 0 = false

theorem Step.assigns_iff (inv : NoZero m) (h : Step m e m') :
    AssignsEphemeral m m' ↔ (e.Allocates m → PortAhead m) := by
  rcases h.made with ⟨allocates, isn, port, m₁, alloc, made⟩ | ⟨not, none⟩
  · have assigns : AssignsEphemeral m m' ↔ 1024 ≤ port.toNat := by
      rw [AssignsEphemeral, made]
      constructor
      · intro law
        exact law _ rfl
      · intro large c eq
        cases eq
        exact large
    rw [assigns]
    exact ⟨fun large _ => portAhead_of_allocated inv.value inv.free alloc large,
      fun ahead => allocated_of_portAhead inv.value (ahead allocates) alloc⟩
  · refine ⟨fun _ allocates => absurd allocates not, fun _ c eq => ?_⟩
    rw [none] at eq
    cases eq

theorem NoZero.step (inv : NoZero m) (h : Step m e m') (keeps : e.KeepsPorts)
    (assigns : AssignsEphemeral m m') : NoZero m' := by
  refine ⟨h.portValue inv.value, Registry.any_eq_false_iff.mpr fun key r c entry => ?_⟩
  rcases h.entry_cases keeps entry with ⟨c₀, before, port⟩ | ⟨-, rfl, -⟩
  · rw [port]
    exact Registry.any_eq_false_iff.mp inv.free key r c₀ before
  · have large := assigns c (Registry.lookup?_eq_some.mp entry).2
    rw [beq_eq_false_iff_ne]
    intro zero
    rw [zero] at large
    cases large

/-- In a run without `set_local_port` every port handed out lies between 1024 and 65535 exactly
when every call that makes a connection comes while a port is left before the next wrap. -/
theorem assigns_ephemeral_iff :
    Run (fun m e m' => (Step m e m' ∧ e.KeepsPorts) ∧ AssignsEphemeral m m') new es m ↔
      Run (fun m e m' => (Step m e m' ∧ e.KeepsPorts) ∧ (e.Allocates m → PortAhead m))
        new es m := by
  have start : NoZero new :=
    ⟨.inr (by decide), Registry.any_eq_false_iff.mpr fun _ _ _ entry => by cases entry⟩
  refine Run.law_iff_guard NoZero start (fun m e m' inv h guard => ?_) fun m e m' inv h =>
    h.1.assigns_iff inv
  exact inv.step h.1 h.2 ((h.1.assigns_iff inv).mpr guard)

/-- With an empty table the search takes the first port it looks at. -/
theorem createConnection_of_empty (empty : m.connections.size = 0)
    (unused : ∀ port, m.used port = false) (isn : UInt32) :
    m.createConnection isn = some (some m.connections.next,
      { m with
        connections := m.connections.make (freshConnection isn m.nextPort)
        nextPort := portAfter m.nextPort }) := by
  have turn : m.allocateTurn m.nextPort = .done (m.nextPort, portAfter m.nextPort) := by
    rw [allocateTurn_eq, unused]
    rfl
  have alloc : m.allocateLocalPort =
      some (m.nextPort, { m with nextPort := portAfter m.nextPort }) :=
    congrArg _ (Loop.run_done turn 65535)
  have room : ¬ m.connections.size ≥ maxConnectionsLimit := by
    rw [empty]
    decide
  rw [createConnection, if_neg room, alloc]
  rfl

/-- `create_connection` enters nothing in the table, so that it can be called any number of
times. -/
theorem run_creates {k : Nat} (le : k ≤ 64512) : ∃ m,
    Run (fun m e m' => Step m e m' ∧ e.KeepsPorts) new
      ((List.range k).map fun i => .create 7 (some i)) m ∧
    m.connections.next = k ∧ m.connections.size = 0 ∧ (∀ port, m.used port = false) ∧
    m.nextPort.toNat = (1024 + k) % 65536 := by
  induction k with
  | zero => exact ⟨new, .nil, rfl, rfl, fun _ => rfl, rfl⟩
  | succ k ih =>
    obtain ⟨m, run, next, empty, unused, value⟩ := ih (by omega)
    have created := createConnection_of_empty empty unused 7
    rw [next] at created
    rw [List.range_succ, List.map_append]
    refine ⟨_, run.snoc ⟨.create created, trivial⟩, ?_, empty, fun port => ?_, ?_⟩
    · exact List.length_append.trans (congrArg (· + 1) next)
    · refine Registry.any_eq_false_iff.mpr fun key r c entry => ?_
      rw [Registry.lookup?_make] at entry
      exact Registry.any_eq_false_iff.mp (unused port) key r c entry
    · have low : 1024 ≤ m.nextPort.toNat := by omega
      dsimp only
      rw [toNat_portAfter (toNat_portValue.mpr (.inr low)), if_neg (by omega)]
      split <;> omega

/-- After 64512 connections port 0 is handed out. -/
theorem zero_assigned : ∃ m m' c,
    Run (fun m e m' => Step m e m' ∧ e.KeepsPorts) new
      ((List.range 64512).map fun i => .create 7 (some i)) m ∧
    Step m (.create 7 (some 64512)) m' ∧
    m'.connections.get? m.connections.next = some c ∧ c.getLocalPort = 0 := by
  obtain ⟨m, run, next, empty, unused, value⟩ := run_creates (Nat.le_refl _)
  have created := createConnection_of_empty empty unused 7
  rw [next] at created
  have zero : m.nextPort = 0 := UInt16.toNat_inj.mp value
  refine ⟨m, _, freshConnection 7 m.nextPort, run, .create created, ?_, zero⟩
  exact List.getElem?_concat_length

end TCPManager

end Lwip
