import Lwip.Core.Threads
import Lwip.Verify.Core.EventLoop

/-! The event loop and the receive thread are never there together. `start` runs the loop before it
creates the thread, and comes back from the loop only when `stop` has ended it. So while the loop
waits or executes a task nobody reads from the interface (`not_created_while_running`), and no
received frame is ever processed (`never_processed`). -/

namespace Lwip

open EventLoop (Condition)

namespace StackManager.Threads

variable {τ : Type} {t t' : Threads τ} {e : Event τ} {es : List (Event τ)}

def Step (t : Threads τ) (e : Event τ) (t' : Threads τ) : Prop := t.exec e = some t'

/-! ## The steps -/

/-- What a step does, and where it can be made. -/
inductive Move : Threads τ → Event τ → Threads τ → Prop
  | begin {t : Threads τ} (pc : t.starter = .enter) :
    Move t .start { t with running := true, starter := .loop }
  | loop {t : Threads τ} {e : EventLoop.Event (Posted τ)} {c : Condition (Posted τ)}
      (pc : t.starter = .loop) (own : e.own) (step : t.eventLoop.Step e c) :
    Move t .start { t with eventLoop := c }
  | create {t : Threads τ} (pc : t.starter = .loop) (ended : t.eventLoop.pc = .returned) :
    Move t .start { t with receiveThread := some .head, starter := .assigning }
  | assign {t : Threads τ} (pc : t.starter = .assigning) :
    Move t .start { t with starter := .logging }
  | leave {t : Threads τ} (pc : t.starter = .logging) :
    Move t .start { t with starter := .returned }
  | check {t : Threads τ} (pc : t.receiveThread = some .head) : Move t .receive
      { t with receiveThread := some (if t.running then .receiving else .finished) }
  | idle {t : Threads τ} (pc : t.receiveThread = some .receiving) (none : t.inbox = []) :
    Move t .receive { t with receiveThread := some .head }
  | read {t : Threads τ} {data : Bytes} {inbox : List Bytes}
      (pc : t.receiveThread = some .receiving) (held : t.inbox = data :: inbox) :
    Move t .receive { t with receiveThread := some (.posting data), inbox }
  | posted {t : Threads τ} {data : Bytes} (pc : t.receiveThread = some (.posting data))
      (free : t.eventLoop.pc.holdsMutex = false) :
    Move t .receive { t with
      eventLoop := t.eventLoop.post (.processIncomingPacket data), receiveThread := some .head }
  | call {t : Threads τ} {i : Nat} (pc : t.stoppers i = .enter) :
    Move t (.stop i) ({ t with running := false }.setStopper i .joinable)
  | skip {t : Threads τ} {i : Nat} (pc : t.stoppers i = .joinable) (none : t.joinable = false) :
    Move t (.stop i) (t.setStopper i .stopping)
  | join {t : Threads τ} {i : Nat} (pc : t.stoppers i = .joinable) (held : t.joinable) :
    Move t (.stop i) (t.setStopper i .joining)
  | joined {t : Threads τ} {i : Nat} (pc : t.stoppers i = .joining)
      (ended : t.receiveThread = some .finished) :
    Move t (.stop i) ({ t with receiveThread := some .joined }.setStopper i .stopping)
  | store {t : Threads τ} {i : Nat} (pc : t.stoppers i = .stopping) :
    Move t (.stop i) ({ t with eventLoop := t.eventLoop.store }.setStopper i .notifying)
  | notify {t : Threads τ} {i : Nat} (pc : t.stoppers i = .notifying) :
    Move t (.stop i) ({ t with eventLoop := t.eventLoop.notifyAll }.setStopper i .logging)
  | stopped {t : Threads τ} {i : Nat} (pc : t.stoppers i = .logging) :
    Move t (.stop i) (t.setStopper i .returned)
  | post {t : Threads τ} {task : τ} (free : t.eventLoop.pc.holdsMutex = false) :
    Move t (.post task) { t with eventLoop := t.eventLoop.post (.other task) }
  | arrive {t : Threads τ} (data : Bytes) :
    Move t (.arrive data) { t with inbox := t.inbox ++ [data] }
  | wake {t : Threads τ} (pc : t.eventLoop.pc = .asleep) :
    Move t .wake { t with eventLoop := { t.eventLoop with pc := .locking } }

theorem post_eq_some {task : Posted τ} : t.post task = some t' ↔
    t.eventLoop.pc.holdsMutex = false ∧ t' = { t with eventLoop := t.eventLoop.post task } := by
  rw [post]
  cases t.eventLoop.pc.holdsMutex <;> simp [eq_comm]

theorem move_of_startStep (step : t.startStep = some t') : Move t .start t' := by
  rw [startStep] at step
  split at step
  case h_1 pc => cases step; exact .begin pc
  case h_2 pc =>
    split at step
    · rename_i task executing
      cases step
      exact .loop pc rfl (.call executing)
    · rename_i ended
      cases step
      exact .create pc ended
    · obtain ⟨c, run, rfl⟩ := Option.map_eq_some_iff.mp step
      exact .loop pc rfl (.run run)
  case h_3 pc => cases step; exact .assign pc
  case h_4 pc => cases step; exact .leave pc
  case h_5 => cases step

theorem move_of_receiveStep (step : t.receiveStep = some t') : Move t .receive t' := by
  rw [receiveStep] at step
  split at step
  case h_1 pc => cases step; exact .check pc
  case h_2 pc =>
    split at step
    · rename_i none
      cases step
      exact .idle pc none
    · rename_i data inbox held
      cases step
      exact .read pc held
  case h_3 data pc =>
    obtain ⟨u, posted, rfl⟩ := Option.map_eq_some_iff.mp step
    obtain ⟨free, rfl⟩ := post_eq_some.mp posted
    exact .posted pc free
  case h_4 => cases step

theorem move_of_stopStep {i : Nat} (step : t.stopStep i = some t') : Move t (.stop i) t' := by
  rw [stopStep] at step
  split at step
  case h_1 pc => cases step; exact .call pc
  case h_2 pc =>
    cases step
    split
    · rename_i held
      exact .join pc held
    · rename_i none
      exact .skip pc (Bool.eq_false_iff.mpr none)
  case h_3 pc =>
    split at step
    · rename_i ended
      cases step
      exact .joined pc ended
    · cases step
  case h_4 pc => cases step; exact .store pc
  case h_5 pc => cases step; exact .notify pc
  case h_6 pc => cases step; exact .stopped pc
  case h_7 => cases step

theorem Step.move (step : Step t e t') : Move t e t' := by
  cases e with
  | start => exact move_of_startStep step
  | receive => exact move_of_receiveStep step
  | stop i => exact move_of_stopStep step
  | post task =>
    obtain ⟨free, rfl⟩ := post_eq_some.mp step
    exact .post free
  | arrive data =>
    cases step
    exact .arrive data
  | wake =>
    rw [Step, exec] at step
    split at step
    · cases step
      exact .wake ‹_›
    · cases step

/-! ## The loop comes first -/

/-- What the order of the two calls in `start` brings about. -/
structure LoopFirst (t : Threads τ) : Prop where
  created : t.receiveThread.isSome = t.starter.past
  ended : t.starter.past → t.eventLoop.pc = .returned
  posted : t.receiveThread = none → ∀ data, .processIncomingPacket data ∉ t.eventLoop.loop.tasks
  executing : ∀ data, t.eventLoop.pc ≠ .executing (.processIncomingPacket data)

theorem LoopFirst.not_created (h : LoopFirst t) (inside : t.starter = .loop) :
    t.receiveThread = none := by
  rw [← Option.not_isSome_iff_eq_none, h.created, inside]
  exact Bool.false_ne_true

/-- The steps that leave `start` and the loop where they are. -/
theorem LoopFirst.keep (h : LoopFirst t) (starter : t'.starter = t.starter)
    (created : t'.receiveThread.isSome = t.receiveThread.isSome)
    (pc : t'.eventLoop.pc = t.eventLoop.pc.notify ∨ t'.eventLoop.pc = t.eventLoop.pc)
    (posted : t.receiveThread = none → ∀ data,
      .processIncomingPacket data ∈ t'.eventLoop.loop.tasks →
        .processIncomingPacket data ∈ t.eventLoop.loop.tasks) : LoopFirst t' := by
  refine ⟨by rw [created, starter, h.created], fun past => ?_, fun absent data mem => ?_,
    fun data eq => ?_⟩
  · rw [starter] at past
    rw [h.ended past] at pc
    exact pc.elim id id
  · have before : t.receiveThread = none := by
      rw [← Option.not_isSome_iff_eq_none, ← created, absent]
      exact Bool.false_ne_true
    exact h.posted before data (posted before data mem)
  · have same : t.eventLoop.pc = .executing (.processIncomingPacket data) := by
      rcases pc with pc | pc
      · rw [eq] at pc
        cases old : t.eventLoop.pc <;> rw [old] at pc <;> cases pc
        rfl
      · rw [← pc, eq]
    exact h.executing data same

theorem LoopFirst.move (h : LoopFirst t) (move : Move t e t') : LoopFirst t' := by
  cases move with
  | begin pc =>
    have inside : t.starter.past = StartPc.loop.past := by rw [pc]; rfl
    exact ⟨h.created.trans inside, (fun past => by cases past), h.posted, h.executing⟩
  | loop pc own step =>
    have absent := h.not_created pc
    refine ⟨h.created, fun past => ?_, fun _ data mem => ?_, fun data eq => ?_⟩
    · rw [pc] at past
      cases past
    · rcases step.takes own with ⟨same, -⟩ | ⟨task, taken, -⟩
      · exact h.posted absent data (same ▸ mem)
      · exact h.posted absent data (taken ▸ List.mem_cons_of_mem _ mem)
    · rcases step.takes own with ⟨-, other⟩ | ⟨task, taken, executing⟩
      · exact other _ eq
      · cases executing.symm.trans eq
        exact h.posted absent data (taken ▸ List.mem_cons_self)
  | create pc ended => exact ⟨rfl, fun _ => ended, fun absent => (by cases absent), h.executing⟩
  | assign pc | leave pc =>
    have past : t.starter.past = true := by rw [pc]; rfl
    exact ⟨h.created.trans past, fun _ => h.ended past, h.posted, h.executing⟩
  | check pc | idle pc | read pc =>
    exact h.keep rfl (by rw [pc]; rfl) (.inr rfl) fun _ _ => id
  | posted pc =>
    refine h.keep rfl (by rw [pc]; rfl) (.inl rfl) fun absent => ?_
    rw [pc] at absent
    cases absent
  | call | skip | join | store | stopped | arrive => exact h.keep rfl rfl (.inr rfl) fun _ _ => id
  | notify => exact h.keep rfl rfl (.inl rfl) fun _ _ => id
  | joined pc ended => exact h.keep rfl (by rw [ended]; rfl) (.inr rfl) fun _ _ => id
  | post =>
    refine h.keep rfl rfl (.inl rfl) fun _ data mem => ?_
    rcases List.mem_append.mp mem with mem | mem
    · exact mem
    · cases List.mem_singleton.mp mem
  | wake pc =>
    refine h.keep rfl rfl (.inl ?_) fun _ _ => id
    rw [pc]
    rfl

theorem LoopFirst.run (run : Run Step {} es t) : LoopFirst t :=
  run.invariant LoopFirst ⟨rfl, (fun past => by cases past), (fun _ _ mem => by cases mem),
    fun _ eq => by cases eq⟩ fun _ _ _ inv step => inv.move step.move

/-- The loop that `start` has entered waits for a task, takes it or executes it. -/
def InRun (t : Threads τ) : Prop :=
  t.starter = .loop ∧ match t.eventLoop.pc with
    | .locking | .locked | .drowsy | .asleep | .passed | .taking | .executing _ => True
    | .enter | .head | .returned | .broken => False

/-- Whatever the threads do, while the loop that `start` runs waits for a task or executes one the
receive thread has not been created. -/
theorem not_created_while_running (run : Run Step {} es t) (running : InRun t) :
    t.receiveThread = none :=
  (LoopFirst.run run).not_created running.1

/-- `start` has entered the loop and sleeps, and a frame arrives. -/
def waitingFrame : Threads τ where
  running := true
  eventLoop := { loop := { running := true }, pc := .asleep }
  starter := .loop
  inbox := [[0x45]]

theorem run_waitingFrame : Run (Step (τ := τ)) {}
    [.start, .start, .start, .start, .start, .start, .arrive [0x45]] waitingFrame :=
  Run.of_foldlM rfl

theorem not_created_waitingFrame : (waitingFrame (τ := Unit)).receiveThread = none :=
  not_created_while_running run_waitingFrame ⟨rfl, trivial⟩

/-- The loop waits, a frame has arrived and there is no thread to read it. -/
theorem waits_unread : ∃ (es : List (Event Unit)) (t : Threads Unit), Run Step {} es t ∧
    InRun t ∧ t.inbox = [[0x45]] ∧ t.receiveThread = none :=
  ⟨_, _, run_waitingFrame, ⟨rfl, trivial⟩, rfl, rfl⟩

/-- No frame that the interface received is ever processed. -/
theorem never_processed (run : Run Step {} es t) (data : Bytes) :
    t.eventLoop.pc ≠ .executing (.processIncomingPacket data) :=
  (LoopFirst.run run).executing data

end StackManager.Threads

end Lwip
