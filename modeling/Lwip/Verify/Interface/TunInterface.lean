import Mathlib.Data.Finset.Basic
import Lwip.Interface.TunInterface
import Lwip.Std.Run

/-! The descriptors of a `TunInterface`. An `init` that fails after `open` closes the descriptor and
keeps its number, so the calls that follow go to a descriptor that is not the interface's any more
(`strays_iff_stale`). An `init` on an open interface loses the descriptor that is open; no other
is left when the interface is gone (`closed_iff`). -/

namespace Lwip

namespace Syscall

/-- The descriptor that the call is made on. -/
def on : Syscall → Option Int
  | .openTun _ | .socket _ => none
  | .ioctl fd _ | .read fd | .write fd _ | .close fd => some fd

/-- The descriptors that the caller has opened and not closed, after the call. -/
def after (own : Finset Int) : Syscall → Finset Int
  | .openTun fd | .socket fd => if fd < 0 then own else insert fd own
  | .close fd => own.erase fd
  | .ioctl .. | .read _ | .write .. => own

/-- The descriptors after some calls. -/
def afterAll (own : Finset Int) (calls : List Syscall) : Finset Int := calls.foldl after own

/-- One of the calls is made on a descriptor that is not the caller's. -/
def Stray (own : Finset Int) : List Syscall → Prop
  | [] => False
  | call :: calls => (∃ fd, call.on = some fd ∧ fd ∉ own) ∨ Stray (call.after own) calls

end Syscall

namespace TunInterface

open Syscall

inductive Event where
  | init (answers : InitAnswers)
  | sendFrame (data : Bytes) (written : Int)
  | receiveFrame (data : Bytes) (frames : List Bytes)
  | shutdown
  | destroy

namespace Event

def isInit : Event → Bool
  | .init _ => true
  | _ => false

/-- `open` and `socket` return no descriptor that is open. -/
def Fresh (own : Finset Int) : Event → Prop
  | .init answers => (0 ≤ answers.openTun → answers.openTun ∉ own) ∧
      (0 ≤ answers.socket → answers.socket ∉ own ∧ answers.socket ≠ answers.openTun)
  | _ => True

end Event

/-- The interface and the descriptors it has opened and not closed. -/
structure Process where
  tun : TunInterface := {}
  own : Finset Int := ∅
  alive : Bool := true

namespace Process

/-- The object after a call, and the system calls. -/
def exec (p : Process) : Event → TunInterface × List Syscall
  | .init answers => (p.tun.init answers).2
  | .sendFrame data written => (p.tun, (p.tun.sendFrame data written).2)
  | .receiveFrame data frames => (p.tun, (p.tun.receiveFrame data frames).2.2.2)
  | .shutdown => p.tun.shutdown
  | .destroy => (p.tun, p.tun.destroy)

/-- The step calls a system function on a descriptor that is not the interface's. -/
def Strays (p : Process) (e : Event) : Prop := Stray p.own (p.exec e).2

inductive Step : Process → Event → Process → Prop
  | call {p e} (alive : p.alive = true) (fresh : e.Fresh p.own) (more : e ≠ .destroy) :
    Step p e ⟨(p.exec e).1, afterAll p.own (p.exec e).2, true⟩
  | destroy {p} (alive : p.alive = true) :
    Step p .destroy ⟨p.tun, afterAll p.own (p.exec .destroy).2, false⟩

end Process

/-- What the interface holds: nothing, an open descriptor, or the number of a closed one. -/
inductive Holding where
  | nothing
  | opened
  | stale
  deriving DecidableEq, Repr

/-- The calls decide it: the last `init` or `shutdown` does. -/
def Holding.next : Holding → Event → Holding
  | _, .init answers =>
    if answers.openTun < 0 then .nothing else if (init {} answers).1 then .opened else .stale
  | _, .shutdown => .nothing
  | holding, _ => holding

def holding (es : List Event) : Holding := es.foldl Holding.next .nothing

/-- Some `init` is called while a descriptor is open. -/
def Reopened (es : List Event) : Prop :=
  ∃ before answers, before ++ [.init answers] <+: es ∧ holding before = .opened

theorem holding_concat {es : List Event} {e : Event} :
    holding (es ++ [e]) = (holding es).next e := by
  rw [holding, List.foldl_append, List.foldl_cons, List.foldl_nil, holding]

theorem reopened_concat {es : List Event} {e : Event} :
    Reopened (es ++ [e]) ↔ Reopened es ∨ e.isInit = true ∧ holding es = .opened := by
  constructor
  · rintro ⟨before, answers, part, held⟩
    rcases List.prefix_concat_iff.mp part with eq | part
    · obtain ⟨rfl, rfl⟩ := List.append_inj' eq rfl |>.imp id List.singleton_inj.mp
      exact .inr ⟨rfl, held⟩
    · exact .inl ⟨before, answers, part, held⟩
  · rintro (⟨before, answers, part, held⟩ | ⟨isInit, held⟩)
    · exact ⟨before, answers, part.trans (List.prefix_append _ _), held⟩
    · cases e with
      | init answers => exact ⟨es, answers, List.prefix_rfl, held⟩
      | sendFrame | receiveFrame | shutdown | destroy => cases isInit

/-! ## The calls -/

variable {own : Finset Int}

theorem init_fd (t : TunInterface) (answers : InitAnswers) :
    (t.init answers).2.1.fd = answers.openTun := by
  simp only [init]
  split_ifs <;> rfl

theorem opened_of_init {t : TunInterface} {answers : InitAnswers} (h : (t.init answers).1 = true) :
    0 ≤ answers.openTun := by
  by_contra failed
  rw [init] at h
  dsimp only at h
  rw [if_pos (by omega)] at h
  cases h

/-- `init` calls on its own descriptors, and keeps the one for the device if it succeeds. -/
theorem init_spec (t : TunInterface) {answers : InitAnswers}
    (fresh : (Event.init answers).Fresh own) : ¬ Stray own (t.init answers).2.2 ∧
      afterAll own (t.init answers).2.2 =
        if (t.init answers).1 then insert answers.openTun own else own := by
  obtain ⟨device, sock⟩ := fresh
  simp only [init]
  by_cases failed : answers.openTun < 0
  · simp [failed, Stray, afterAll, after, on]
  · have device := device (Int.not_lt.mp failed)
    by_cases refused : answers.ioctl .tunSetIff < 0
    · simp [failed, refused, device, Stray, afterAll, after, on]
    · by_cases absent : answers.socket < 0
      · simp [failed, refused, absent, device, Stray, afterAll, after, on]
      · -- whatever comes of the socket, it is closed before the device is
        obtain ⟨sock, other⟩ := sock (Int.not_lt.mp absent)
        simp only [failed, refused, absent]
        split_ifs <;> first
          | contradiction
          | simp [failed, absent, device, sock, other, Stray, afterAll, after, on]

namespace Process

variable {p p' : Process} {e : Event} {es : List Event}

/-- The descriptors that the interface has opened and cannot close any more. -/
def leaked (p : Process) (holding : Holding) : Finset Int :=
  if holding = .opened ∧ p.alive = true then p.own.erase p.tun.fd else p.own

/-- What the calls so far say of the object. -/
structure Kept (es : List Event) (p : Process) : Prop where
  nothing : holding es = .nothing → p.tun.fd < 0
  opened : holding es = .opened → 0 ≤ p.tun.fd ∧ (p.alive = true → p.tun.fd ∈ p.own)
  stale : holding es = .stale → 0 ≤ p.tun.fd ∧ p.tun.fd ∉ p.own
  leaked : p.leaked (holding es) = ∅ ↔ ¬ Reopened es

/-- Apart from `init` the object calls on the descriptor it has, if it has one. -/
theorem strays_iff (noInit : e.isInit = false) : p.Strays e ↔ 0 ≤ p.tun.fd ∧ p.tun.fd ∉ p.own := by
  rw [Strays]
  cases e with
  | init => cases noInit
  | sendFrame data written =>
    rw [exec, sendFrame]
    split <;> simp [Stray, on] <;> omega
  | receiveFrame data frames =>
    simp only [exec, receiveFrame]
    split_ifs <;> simp [Stray, on] <;> omega
  | shutdown =>
    rw [exec, shutdown]
    split <;> simp [Stray, on] <;> omega
  | destroy =>
    rw [exec, TunInterface.destroy]
    split <;> simp [Stray, on] <;> omega

theorem Kept.start : Kept [] {} where
  nothing _ := by decide
  opened eq := by cases eq
  stale eq := by cases eq
  leaked := by
    apply iff_of_true rfl
    rintro ⟨before, answers, part, -⟩
    simpa using part.length_le

/-- While the object is there, no descriptor is open exactly if none is leaked or held. -/
theorem Kept.own_eq_empty_iff (h : Kept es p) (alive : p.alive = true) :
    p.own = ∅ ↔ ¬ (Reopened es ∨ holding es = .opened) := by
  have leaked := h.leaked
  cases held : holding es with
  | opened =>
    refine iff_of_false (fun empty => ?_) (fun h => h (.inr rfl))
    have mem := (h.opened held).2 alive
    rw [empty] at mem
    cases mem
  | nothing | stale =>
    rw [Process.leaked, held, if_neg (by simp)] at leaked
    simp [leaked]

/-- What an `init` finds open it cannot close any more. -/
theorem Kept.init {answers : InitAnswers} (h : Kept es p) (alive : p.alive = true)
    (fresh : (Event.init answers).Fresh p.own) : Kept (es ++ [.init answers])
      ⟨(p.tun.init answers).2.1, afterAll p.own (p.tun.init answers).2.2, true⟩ := by
  obtain ⟨-, own⟩ := init_spec p.tun fresh
  have fd := init_fd p.tun answers
  have leaked : p.own = ∅ ↔ ¬ Reopened (es ++ [.init answers]) := by
    rw [h.own_eq_empty_iff alive, reopened_concat]
    simp [Event.isInit]
  by_cases failed : answers.openTun < 0
  · have none : holding (es ++ [.init answers]) = .nothing := by
      rw [holding_concat, Holding.next, if_pos failed]
    have notOk : (p.tun.init answers).1 = false := by
      by_contra ok
      exact absurd (opened_of_init (by simpa using ok)) (Int.not_le.mpr failed)
    rw [notOk, if_neg Bool.false_ne_true] at own
    constructor <;> rw [none]
    case nothing => exact fun _ => fd.trans_lt failed
    case leaked => rwa [Process.leaked, if_neg (by simp), own]
    all_goals intro eq; cases eq
  · have opened := Int.not_lt.mp failed
    cases ok : (p.tun.init answers).1 with
    | true =>
      have open' : holding (es ++ [.init answers]) = .opened := by
        rw [holding_concat, Holding.next, if_neg failed]
        exact if_pos ok
      rw [ok, if_pos rfl] at own
      constructor <;> rw [open']
      case opened => exact fun _ => ⟨opened.trans_eq fd.symm, fun _ => by simp [own, fd]⟩
      case leaked =>
        rwa [Process.leaked, if_pos ⟨rfl, rfl⟩, own, fd, Finset.erase_insert (fresh.1 opened)]
      all_goals intro eq; cases eq
    | false =>
      have stale : holding (es ++ [.init answers]) = .stale := by
        rw [holding_concat, Holding.next, if_neg failed]
        exact if_neg (by rw [show (TunInterface.init {} answers).1 = false from ok]; decide)
      rw [ok, if_neg Bool.false_ne_true] at own
      constructor <;> rw [stale]
      case stale =>
        refine fun _ => ⟨opened.trans_eq fd.symm, ?_⟩
        rw [fd, own]
        exact fresh.1 opened
      case leaked => rwa [Process.leaked, if_neg (by simp), own]
      all_goals intro eq; cases eq

/-- The object gives up its descriptor, if it has one. -/
theorem own_shutdown (p : Process) :
    afterAll p.own p.tun.shutdown.2 = if p.tun.fd < 0 then p.own else p.own.erase p.tun.fd := by
  rw [shutdown]
  split <;> rename_i h
  · rw [if_neg (Int.not_lt.mpr h)]
    rfl
  · rw [if_pos (Int.not_le.mp h)]
    rfl

theorem own_destroy (p : Process) :
    afterAll p.own p.tun.destroy = if p.tun.fd < 0 then p.own else p.own.erase p.tun.fd := by
  rw [TunInterface.destroy]
  split <;> rename_i h
  · rw [if_neg (Int.not_lt.mpr h)]
    rfl
  · rw [if_pos (Int.not_le.mp h)]
    rfl

/-- What is left once the descriptor is given up. -/
theorem Kept.leaked_eq (h : Kept es p) (alive : p.alive = true) :
    p.leaked (holding es) = if p.tun.fd < 0 then p.own else p.own.erase p.tun.fd := by
  rw [Process.leaked]
  cases held : holding es with
  | nothing => rw [if_neg (by simp), if_pos (h.nothing held)]
  | opened => rw [if_pos ⟨rfl, alive⟩, if_neg (Int.not_lt.mpr (h.opened held).1)]
  | stale =>
    obtain ⟨pos, gone⟩ := h.stale held
    rw [if_neg (by simp), if_neg (Int.not_lt.mpr pos), Finset.erase_eq_of_notMem gone]

/-- Neither sending nor receiving changes anything. -/
theorem Kept.quiet (h : Kept es p) (alive : p.alive = true)
    (next : ∀ holding : Holding, holding.next e = holding) (noInit : e.isInit = false)
    (tun : (p.exec e).1 = p.tun) (own : afterAll p.own (p.exec e).2 = p.own) :
    Kept (es ++ [e]) ⟨(p.exec e).1, afterAll p.own (p.exec e).2, true⟩ := by
  have same : (⟨(p.exec e).1, afterAll p.own (p.exec e).2, true⟩ : Process) = p := by
    rw [tun, own, ← alive]
  have still : holding (es ++ [e]) = holding es := holding_concat.trans (next _)
  rw [same]
  refine ⟨still ▸ h.nothing, still ▸ h.opened, still ▸ h.stale, ?_⟩
  rw [still, h.leaked, reopened_concat, noInit]
  simp

theorem Kept.shutdown (h : Kept es p) (alive : p.alive = true) : Kept (es ++ [.shutdown])
    ⟨p.tun.shutdown.1, afterAll p.own p.tun.shutdown.2, true⟩ := by
  have nothing : holding (es ++ [.shutdown]) = .nothing := holding_concat
  constructor <;> rw [nothing]
  case nothing =>
    intro _
    rw [TunInterface.shutdown]
    split
    · exact Int.negSucc_lt_zero 0
    · exact Int.not_le.mp ‹_›
  case leaked =>
    rw [Process.leaked, if_neg (by simp), reopened_concat, own_shutdown, ← h.leaked_eq alive,
      h.leaked]
    simp [Event.isInit]
  all_goals intro eq; cases eq

theorem Kept.destroy (h : Kept es p) (alive : p.alive = true) : Kept (es ++ [.destroy])
    ⟨p.tun, afterAll p.own p.tun.destroy, false⟩ := by
  have still : holding (es ++ [.destroy]) = holding es := holding_concat
  constructor <;> rw [still]
  case nothing => exact h.nothing
  case opened => exact fun held => ⟨(h.opened held).1, fun eq => by cases eq⟩
  case stale =>
    intro held
    obtain ⟨pos, away⟩ := h.stale held
    rw [own_destroy, if_neg (Int.not_lt.mpr pos)]
    exact ⟨pos, fun mem => away (Finset.mem_of_mem_erase mem)⟩
  case leaked =>
    rw [Process.leaked, if_neg (by simp), reopened_concat, own_destroy, ← h.leaked_eq alive,
      h.leaked]
    simp [Event.isInit]

theorem Kept.step (h : Kept es p) (step : Step p e p') : Kept (es ++ [e]) p' := by
  cases step with
  | call alive fresh more =>
    cases e with
    | init answers => exact h.init alive fresh
    | sendFrame data written =>
      apply h.quiet alive (fun _ => rfl) rfl rfl
      rw [exec, sendFrame]
      split <;> rfl
    | receiveFrame data frames =>
      apply h.quiet alive (fun _ => rfl) rfl rfl
      simp only [exec, receiveFrame]
      split_ifs <;> rfl
    | shutdown => exact h.shutdown alive
    | destroy => exact absurd rfl more
  | destroy alive => exact h.destroy alive

theorem Kept.run (run : Run Step {} es p) : Kept es p :=
  run.history_invariant Kept .start fun _ _ _ _ inv step => inv.step step

/-- A call goes to a descriptor that is not the interface's exactly when the last `init` has opened
the device and failed, and there has been no `shutdown` since. -/
theorem strays_iff_stale (run : Run Step {} es p) (step : Step p e p') :
    p.Strays e ↔ e.isInit = false ∧ holding es = .stale := by
  have kept := Kept.run run
  cases isInit : e.isInit with
  | true =>
    refine iff_of_false ?_ (fun h => by cases h.1)
    cases step with
    | destroy => cases isInit
    | call alive fresh =>
      cases e with
      | init answers => exact (init_spec p.tun fresh).1
      | sendFrame | receiveFrame | shutdown | destroy => cases isInit
  | false =>
    rw [strays_iff isInit, and_iff_right rfl]
    refine ⟨fun stray => ?_, kept.stale⟩
    have alive : p.alive = true := by cases step <;> assumption
    cases held : holding es with
    | nothing => exact absurd stray.1 (Int.not_le.mpr (kept.nothing held))
    | opened => exact absurd ((kept.opened held).2 alive) stray.2
    | stale => rfl

/-- There is no socket, and the destructor closes the device a second time. -/
theorem strays_noSocket : ∃ p, Run Step {} [.init ⟨3, -1, fun _ => 0⟩] p ∧ p.Strays .destroy := by
  have fresh : (Event.init ⟨3, -1, fun _ => 0⟩).Fresh ∅ :=
    ⟨fun _ => Finset.notMem_empty _, fun pos => absurd pos (by decide)⟩
  have run := Run.single (Step.call (p := {}) rfl fresh (fun eq => by cases eq))
  exact ⟨_, run, (strays_iff_stale run (.destroy rfl)).mpr ⟨rfl, rfl⟩⟩

/-- When the object is gone every descriptor it has opened is closed, exactly if it was never
initialised with an open one. -/
theorem closed_iff (run : Run Step {} es p) (gone : p.alive = false) :
    p.own = ∅ ↔ ¬ Reopened es := by
  have leaked := (Kept.run run).leaked
  rwa [Process.leaked, if_neg (by simp [gone])] at leaked

theorem closed_once : ∃ p, Run Step {} [.init ⟨3, 4, fun _ => 0⟩, .destroy] p ∧ p.own = ∅ := by
  have fresh : (Event.init ⟨3, 4, fun _ => 0⟩).Fresh ∅ :=
    ⟨fun _ => Finset.notMem_empty _, fun _ => ⟨Finset.notMem_empty _, (by decide)⟩⟩
  have opened := Run.single (Step.call (p := {}) rfl fresh (fun eq => by cases eq))
  have run := opened.snoc (.destroy rfl)
  refine ⟨_, run, (closed_iff run rfl).mpr ?_⟩
  rw [List.singleton_append, ← List.singleton_append, reopened_concat,
    ← List.nil_append [Event.init _], reopened_concat]
  rintro ((⟨_, _, part, -⟩ | ⟨-, held⟩) | ⟨isInit, -⟩)
  · simpa using part.length_le
  · cases held
  · cases isInit

end Process

end TunInterface

end Lwip
